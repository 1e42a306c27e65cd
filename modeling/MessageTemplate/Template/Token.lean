import MessageTemplate.Decimal.Integer
import MessageTemplate.Template.Reader

/-!
# Tokens

Readers for the words inside the braces of an expression: identifiers, choice names and
offsets. Each skips the blanks before its word and looks at one character after the other.
-/

namespace MessageTemplate.Reader

/-- Read on after `name`, last character first; `gap` records that a blank followed it. -/
def identifierFrom (name : List Char) (gap : Bool) (passed : List Char) :
    List Char → Reading String
  | [] => .fail .unbalancedBraces ⟨passed, []⟩
  | character :: rest =>
    if character = ',' || character = '}' then
      .done (String.ofList name.reverse) ⟨passed, character :: rest⟩
    else if character = '{' then .fail .invalidExpr ⟨passed, character :: rest⟩
    else if isBlank character then identifierFrom name true (character :: passed) rest
    else if isNameCharacter character && !gap then
      identifierFrom (character :: name) false (character :: passed) rest
    else .fail .invalidFormat ⟨passed, character :: rest⟩

theorem reaches_identifierFrom (name : List Char) (gap : Bool) (passed rest : List Char) :
    Cursor.Reaches ⟨passed, rest⟩ (identifierFrom name gap passed rest).2 := by
  fun_induction identifierFrom name gap passed rest with
  | case1 | case2 | case3 | case6 => exact .refl _
  | case4 name gap passed character rest _ _ _ ih
  | case5 name gap passed character rest _ _ _ _ ih =>
    exact (Cursor.Reaches.step passed rest character).trans ih

/-- A variable name or an expression kind, possibly empty, with any blanks around it. It ends
before `,` or `}`. -/
def identifier : Reader String :=
  ⟨fun cursor =>
    let first := cursor.skipBlanks
    identifierFrom [] false first.passed first.rest,
    fun cursor => cursor.reaches_skipBlanks.trans (reaches_identifierFrom [] false _ _)⟩

/-- Read on after `name`, last character first. -/
def choiceNameFrom (name passed : List Char) : List Char → Reading String
  | [] => .fail .unbalancedBraces ⟨passed, []⟩
  | character :: rest =>
    if isBlank character then
      .done (String.ofList name.reverse) (Cursor.skipBlanksFrom passed (character :: rest))
    else if endsChoiceName character then
      if name.isEmpty then .fail .missingChoiceName ⟨passed, character :: rest⟩
      else .done (String.ofList name.reverse) ⟨passed, character :: rest⟩
    else choiceNameFrom (character :: name) (character :: passed) rest

theorem reaches_choiceNameFrom (name passed rest : List Char) :
    Cursor.Reaches ⟨passed, rest⟩ (choiceNameFrom name passed rest).2 := by
  fun_induction choiceNameFrom name passed rest with
  | case1 | case3 | case4 => exact .refl _
  | case2 => exact Cursor.reaches_skipBlanksFrom _ _
  | case5 name passed character rest _ _ ih =>
    exact (Cursor.Reaches.step passed rest character).trans ih

/-- The name of a choice or of an extension: characters that are neither blank nor
structural, so `=42` and names in any script are names. The cursor is left on the character
after the name and after the blanks that follow it. -/
def choiceName : Reader String :=
  ⟨fun cursor =>
    let first := cursor.skipBlanks
    choiceNameFrom [] first.passed first.rest,
    fun cursor => cursor.reaches_skipBlanks.trans (reaches_choiceNameFrom [] _ _)⟩

/-- The offset that a token denotes. -/
def offsetValue (token : List Char) : Except ParseFault UInt64 :=
  if token.isEmpty then .error .missingOffsetValue
  else match Decimal.int64? token with
    | none => .error .badCast
    | some value => if value < 0 then .error .invalidOffsetValue else .ok value.toUInt64

/-- Read on after `token`, last character first. -/
def offsetFrom (token passed : List Char) : List Char → Reading UInt64
  | [] => .fail .unbalancedBraces ⟨passed, []⟩
  | character :: rest =>
    if isBlank character || character = '{' || character = '}' then
      match offsetValue token.reverse with
      | .ok value => .done value ⟨passed, character :: rest⟩
      | .error fault => .fail fault ⟨passed, character :: rest⟩
    else offsetFrom (character :: token) (character :: passed) rest

theorem reaches_offsetFrom (token passed rest : List Char) :
    Cursor.Reaches ⟨passed, rest⟩ (offsetFrom token passed rest).2 := by
  fun_induction offsetFrom token passed rest with
  | case1 | case2 | case3 => exact .refl _
  | case4 token passed character rest _ ih =>
    exact (Cursor.Reaches.step passed rest character).trans ih

/-- The value of an `offset:` extension. It ends before a blank or a brace. -/
def offset : Reader UInt64 :=
  ⟨fun cursor =>
    let first := cursor.skipBlanks
    offsetFrom [] first.passed first.rest,
    fun cursor => cursor.reaches_skipBlanks.trans (reaches_offsetFrom [] _ _)⟩

end MessageTemplate.Reader
