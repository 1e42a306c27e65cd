import MessageTemplate.Proofs.IndexedLiterals
import MessageTemplate.Proofs.Names

/-!
# Words by index

The readers of words and of runs of literal text as loops over an index. A word is cut out of the
text between the index where it begins and the one where the loop ends it. From every place of
every text these scans do what the readers do.
-/

namespace MessageTemplate

namespace Scan

/-! ## The loops -/

/-- One round of an identifier that begins at `first` and so far ends at `last`. A blank leaves the
cursor behind the end, so no character can follow it. -/
def identifierRound (first : Nat) (again : Nat → Scan String) (last : Nat) : Scan String := do
  match ← peek with
  | none => fail .unbalancedBraces
  | some character =>
    let here ← index
    if character = ',' || character = '}' then return String.ofList (← slice first last)
    else if character = '{' then fail .invalidExpr
    else if isBlank character then
      advance
      skipBlanks
      again last
    else if isNameCharacter character && here = last then
      advance
      again (← index)
    else fail .invalidFormat

/-- A variable name or an expression kind. -/
def identifier : Scan String := do
  skipBlanks
  let first ← index
  fix (identifierRound first) first

/-- One round of a choice name that begins at `first`. -/
def choiceNameRound (first : Nat) (again : Unit → Scan String) (_ : Unit) : Scan String := do
  match ← peek with
  | none => fail .unbalancedBraces
  | some character =>
    let here ← index
    if isBlank character then
      let name ← slice first here
      skipBlanks
      return String.ofList name
    else if endsChoiceName character then
      if here = first then fail .missingChoiceName
      else return String.ofList (← slice first here)
    else
      advance
      again ()

/-- The name of a choice or of an extension. -/
def choiceName : Scan String := do
  skipBlanks
  let first ← index
  fix (choiceNameRound first) ()

/-- One round of an offset whose numeral begins at `first`. -/
def offsetRound (first : Nat) (again : Unit → Scan UInt64) (_ : Unit) : Scan UInt64 := do
  match ← peek with
  | none => fail .unbalancedBraces
  | some character =>
    let here ← index
    if isBlank character || character = '{' || character = '}' then
      if here = first then fail .missingOffsetValue
      else
        match Reader.offsetValue (← slice first here) with
        | .ok value => pure value
        | .error fault => fail fault
    else
      advance
      again ()

/-- The value of an `offset:` extension. -/
def offset : Scan UInt64 := do
  skipBlanks
  let first ← index
  fix (offsetRound first) ()

/-- One round of a run of literal text; `escaped` records that a backslash comes last. -/
def runRound (again : Bool → Scan Unit) (escaped : Bool) : Scan Unit := do
  match ← peek with
  | none => pure ()
  | some character =>
    if (character = '{' || character = '}') && !escaped then pure ()
    else
      advance
      again (character = '\\')

/-- The parts of the literal text between two indices, if there is any. -/
def literalParts (first last : Nat) : Scan (List LiteralPart) := do
  if first < last then lift (Literal.partsBetween (← characters) first last) else pure []

/-- A run of literal text, up to the first unescaped brace or to the end, as constituents. -/
def literal {π : Type} : Scan (Tree π) := do
  let first ← index
  fix runRound false
  match ← literalParts first (← index) with
  | [] => return []
  | parts => return [.literal parts]

/-! ## What the loops find -/

/-- From `start` on the characters of `name`, last character first, are passed, up to the index
`last`. The cursor is there, or there is a gap and it is further on. -/
def NamedUpTo (start : Cursor) (name : List Char) (gap : Bool) (last : Nat) (place : Cursor) :
    Prop :=
  ∃ ending, start.Spans name.reverse ending ∧ last = ending.position ∧
    (gap = false ∧ place = ending ∨
      gap = true ∧ ending.Reaches place ∧ ending.position < place.position)

namespace NamedUpTo

variable {start place later : Cursor} {name : List Char} {gap : Bool} {last : Nat}

theorem reaches (named : NamedUpTo start name gap last place) : start.Reaches place := by
  obtain ⟨ending, spans, -, ⟨-, rfl⟩ | ⟨-, reached, -⟩⟩ := named
  · exact ⟨_, spans⟩
  · exact Cursor.Reaches.trans ⟨_, spans⟩ reached

/-- The cursor is at the end of the name unless there is a gap. -/
theorem position_eq_iff (named : NamedUpTo start name gap last place) :
    place.position = last ↔ gap = false := by
  obtain ⟨ending, -, rfl, ⟨together, rfl⟩ | ⟨apart, -, further⟩⟩ := named
  · exact iff_of_true rfl together
  · exact iff_of_false (Nat.ne_of_gt further) (by simp [apart])

/-- Behind blanks there is a gap. -/
theorem blank (named : NamedUpTo start name gap last place) (reached : place.Reaches later)
    (further : place.position < later.position) : NamedUpTo start name true last later := by
  obtain ⟨ending, spans, rfl, ⟨-, rfl⟩ | ⟨-, before, behind⟩⟩ := named
  · exact ⟨place, spans, rfl, .inr ⟨rfl, reached, further⟩⟩
  · exact ⟨ending, spans, rfl, .inr ⟨rfl, before.trans reached, behind.trans further⟩⟩

/-- Without a gap a character goes on with the name. -/
theorem character (named : NamedUpTo start name false last place) {character : Char}
    (present : place.peek? = some character) :
    NamedUpTo start (character :: name) false place.advance.position place.advance := by
  obtain ⟨ending, spans, -, ⟨-, rfl⟩ | ⟨impossible, -⟩⟩ := named
  · refine ⟨place.advance, ?_, rfl, .inl ⟨rfl, rfl⟩⟩
    rw [List.reverse_cons]
    exact spans.trans (Cursor.spans_advance present)
  · cases impossible

end NamedUpTo

/-- Behind a gap it makes no difference how many blanks are passed before an identifier is read
on. -/
theorem identifierFrom_skipBlanks (name : List Char) (place : Cursor) :
    Reader.identifierFrom name true place.skipBlanks.passed place.skipBlanks.rest =
      Reader.identifierFrom name true place.passed place.rest := by
  rw [Reader.identifierFrom_gap, Reader.identifierFrom_gap, Cursor.skipBlanks_eq_passWhile]
  congr 1
  exact Cursor.passWhile_eq_of_spans (.refl _) (by simp) fun _ => Cursor.not_of_peek?_passWhile

theorem finds_identifier (cursor : Cursor) :
    identifier.Finds cursor (Reader.identifier.run cursor) := by
  apply (finds_skipBlanks cursor).step cursor.reaches_skipBlanks
  apply (finds_index _).step (.refl _)
  generalize start_eq : cursor.skipBlanks = start
  refine finds_fix (fun last place reading => ∃ name gap,
    NamedUpTo start name gap last place ∧
      reading = Reader.identifierFrom name gap place.passed place.rest) ?round
    ⟨[], false, ⟨start, .refl _, rfl, .inl ⟨rfl, rfl⟩⟩, by rw [← start_eq]; rfl⟩
  rintro again last ⟨passed, rest⟩ _ ⟨name, gap, named, rfl⟩ onward
  apply (finds_peek _).step (.refl _)
  cases rest with
  | nil => exact finds_fail _ _
  | cons character rest =>
    rw [Reader.identifierFrom]
    apply (finds_index _).step (.refl _)
    have step := Cursor.Reaches.step passed rest character
    by_cases ends : (character = ',' || character = '}') = true
    · rw [if_pos ends, if_pos ends]
      have reached := named.reaches
      obtain ⟨ending, spans, rfl, -⟩ := named
      exact (finds_slice spans reached).step (.refl _) (finds_pure _ _)
    rw [if_neg ends, if_neg ends]
    by_cases opens : character = '{'
    · rw [if_pos opens, if_pos opens]
      exact finds_fail _ _
    rw [if_neg opens, if_neg opens]
    by_cases blank : isBlank character = true
    · rw [if_pos blank, if_pos blank]
      apply (finds_advance _).step step
      apply (finds_skipBlanks _).step (Cursor.reaches_skipBlanks _)
      have reached := step.trans (Cursor.reaches_skipBlanks _)
      have further := Nat.lt_of_lt_of_le (Nat.lt_succ_self passed.length)
        (Cursor.reaches_skipBlanks ⟨character :: passed, rest⟩).position_le
      exact onward last _ _ reached further ⟨name, true, named.blank reached further,
        (identifierFrom_skipBlanks name ⟨character :: passed, rest⟩).symm⟩
    rw [if_neg blank, if_neg blank]
    have together := named.position_eq_iff
    by_cases goesOn : isNameCharacter character = true ∧ gap = false
    · obtain ⟨letter, rfl⟩ := goesOn
      rw [if_pos (by simp [letter, together]), if_pos (by simp [letter])]
      apply (finds_advance _).step step
      apply (finds_index _).step (.refl _)
      exact onward _ _ _ step (Nat.lt_succ_self _)
        ⟨character :: name, false, named.character rfl, rfl⟩
    · rw [if_neg (by simpa [together] using goesOn), if_neg (by simpa using goesOn)]
      exact finds_fail _ _

/-- Behind the characters of a word the cursor is at its beginning only if there are none. -/
theorem position_eq_iff_isEmpty {start place : Cursor} {word : List Char}
    (spans : start.Spans word.reverse place) :
    place.position = start.position ↔ word.isEmpty = true := by
  rw [spans.position_eq, List.length_reverse, Nat.add_eq_left, List.length_eq_zero_iff,
    List.isEmpty_iff]

/-- A character more of a word. -/
theorem spans_cons {start : Cursor} {word passed rest : List Char} {character : Char}
    (spans : start.Spans word.reverse ⟨passed, character :: rest⟩) :
    start.Spans (character :: word).reverse ⟨character :: passed, rest⟩ := by
  rw [List.reverse_cons]
  exact spans.trans ⟨rfl, rfl⟩

theorem finds_choiceName (cursor : Cursor) :
    choiceName.Finds cursor (Reader.choiceName.run cursor) := by
  apply (finds_skipBlanks cursor).step cursor.reaches_skipBlanks
  apply (finds_index _).step (.refl _)
  generalize start_eq : cursor.skipBlanks = start
  refine finds_fix (fun _ place reading => ∃ name, start.Spans name.reverse place ∧
      reading = Reader.choiceNameFrom name place.passed place.rest) ?round
    ⟨[], .refl _, by rw [← start_eq]; rfl⟩
  rintro again _ ⟨passed, rest⟩ _ ⟨name, spans, rfl⟩ onward
  apply (finds_peek _).step (.refl _)
  cases rest with
  | nil => exact finds_fail _ _
  | cons character rest =>
    rw [Reader.choiceNameFrom]
    apply (finds_index _).step (.refl _)
    have reached : start.Reaches ⟨passed, character :: rest⟩ := ⟨_, spans⟩
    by_cases blank : isBlank character = true
    · rw [if_pos blank, if_pos blank]
      apply (finds_slice spans reached).step (.refl _)
      exact (finds_skipBlanks _).step (Cursor.reaches_skipBlanks _) (finds_pure _ _)
    rw [if_neg blank, if_neg blank]
    by_cases ends : endsChoiceName character = true
    · rw [if_pos ends, if_pos ends]
      have unnamed := position_eq_iff_isEmpty spans
      by_cases empty : name.isEmpty = true
      · rw [if_pos (unnamed.mpr empty), if_pos empty]
        exact finds_fail _ _
      · rw [if_neg (mt unnamed.mp empty), if_neg empty]
        exact (finds_slice spans reached).step (.refl _) (finds_pure _ _)
    · rw [if_neg ends, if_neg ends]
      have step := Cursor.Reaches.step passed rest character
      apply (finds_advance _).step step
      exact onward () _ _ step (Nat.lt_succ_self _) ⟨character :: name, spans_cons spans, rfl⟩

theorem finds_offset (cursor : Cursor) : offset.Finds cursor (Reader.offset.run cursor) := by
  apply (finds_skipBlanks cursor).step cursor.reaches_skipBlanks
  apply (finds_index _).step (.refl _)
  generalize start_eq : cursor.skipBlanks = start
  refine finds_fix (fun _ place reading => ∃ token, start.Spans token.reverse place ∧
      reading = Reader.offsetFrom token place.passed place.rest) ?round
    ⟨[], .refl _, by rw [← start_eq]; rfl⟩
  rintro again _ ⟨passed, rest⟩ _ ⟨token, spans, rfl⟩ onward
  apply (finds_peek _).step (.refl _)
  cases rest with
  | nil => exact finds_fail _ _
  | cons character rest =>
    rw [Reader.offsetFrom]
    apply (finds_index _).step (.refl _)
    by_cases ends : (isBlank character || character = '{' || character = '}') = true
    · rw [if_pos ends, if_pos ends]
      have absent := position_eq_iff_isEmpty spans
      by_cases empty : token.isEmpty = true
      · obtain rfl := List.isEmpty_iff.mp empty
        rw [if_pos (absent.mpr rfl)]
        exact finds_fail _ _
      · rw [if_neg (mt absent.mp empty)]
        apply (finds_slice spans ⟨_, spans⟩).step (.refl _)
        cases Reader.offsetValue token.reverse with
        | ok value => exact finds_pure _ _
        | error fault => exact finds_fail _ _
    · rw [if_neg ends, if_neg ends]
      have step := Cursor.Reaches.step passed rest character
      apply (finds_advance _).step step
      exact onward () _ _ step (Nat.lt_succ_self _) ⟨character :: token, spans_cons spans, rfl⟩

theorem finds_run (cursor : Cursor) :
    (fix runRound false).Finds cursor (.done () (Parser.literalRun cursor).2) := by
  refine finds_fix (fun escaped place reading => ∃ run,
      reading = .done () (Parser.literalRunFrom run escaped place.passed place.rest).2) ?round
    ⟨[], rfl⟩
  rintro again escaped ⟨passed, rest⟩ _ ⟨run, rfl⟩ onward
  apply (finds_peek _).step (.refl _)
  cases rest with
  | nil => exact finds_pure _ _
  | cons character rest =>
    rw [Parser.literalRunFrom]
    by_cases ends : ((character = '{' || character = '}') && !escaped) = true
    · rw [if_pos ends]
      simp only [Cursor.peek?, List.head?_cons, if_pos ends]
      exact finds_pure _ _
    · rw [if_neg ends]
      simp only [Cursor.peek?, List.head?_cons, if_neg ends]
      have step := Cursor.Reaches.step passed rest character
      apply (finds_advance _).step step
      exact onward _ _ _ step (Nat.lt_succ_self _) ⟨character :: run, rfl⟩

theorem finds_literalParts {earlier later : Cursor} {run : List Char}
    (spans : earlier.Spans run later) :
    (literalParts earlier.position later.position).Finds later
      (.done (Literal.parts run) later) := by
  unfold literalParts
  split
  · apply (finds_characters later).step (.refl _)
    apply finds_lift
    have whole : later.characters = earlier.passed.reverse ++ run ++ later.rest := by
      rw [Cursor.characters, spans.2, List.reverse_append, List.reverse_reverse]
    have before : earlier.position = earlier.passed.reverse.length := List.length_reverse.symm
    rw [whole, spans.position_eq, before]
    exact Literal.partsBetween_append _ _ _
  · rename_i together
    rw [spans.position_eq] at together
    obtain rfl : run = [] := List.length_eq_zero_iff.mp (by omega)
    exact finds_pure _ _

/-- A run of literal text is scanned between the place where the cursor is and the place where the
run ends. -/
theorem finds_literal {π : Type} (cursor : Cursor) :
    (literal : Scan (Tree π)).Finds cursor
      (.done (Literal.nodes (Parser.literalRun cursor).1) (Parser.literalRun cursor).2) := by
  have spans := (Parser.literalRun_eq_iff.mp (Prod.mk.eta (p := Parser.literalRun cursor)).symm).1
  apply (finds_index _).step (.refl _)
  apply (finds_run cursor).step ⟨_, spans⟩
  apply (finds_index _).step (.refl _)
  apply (finds_literalParts spans).step (.refl _)
  rw [Literal.nodes]
  generalize Literal.parts _ = parts
  cases parts with
  | nil => exact finds_pure _ _
  | cons part parts => exact finds_pure _ _

end Scan

end MessageTemplate
