import MessageTemplate.Format.Message
import MessageTemplate.Proofs.Exactness
import MessageTemplate.Proofs.Execution

/-!
# Text that can be written

Which texts are the output of a template without expressions, and how such a text is written.
The backslashes in front of a structural character are dropped, spent or kept, by how many they
are and by where the pending segment begins. Two inductions on the rest of the text follow the
scan: one from a run of literal text to what it writes, and one from a text to the run that
writes it.
-/

namespace MessageTemplate

namespace Literal

/-! ## Writable texts -/

/-- How many backslashes stand at the end of a text. -/
def trailing (text : List Char) : Nat := (text.reverse.takeWhile (· = '\\')).length

@[simp] theorem trailing_concat_backslash (text : List Char) :
    trailing (text ++ ['\\']) = trailing text + 1 := by
  simp [trailing]

theorem trailing_concat_of_ne (text : List Char) {character : Char}
    (ordinary : character ≠ '\\') : trailing (text ++ [character]) = 0 := by
  simp [trailing, ordinary]

/-- A structural character may follow a text: no backslash stands right before it, or at least
two do and the first of them does not begin the text. -/
def Admits (text : List Char) : Prop :=
  trailing text = 0 ∨ 2 ≤ trailing text ∧ trailing text < text.length

/-- A text in which every structural character may follow what stands before it. -/
def IsWritable (text : List Char) : Prop :=
  ∀ before character after, text = before ++ character :: after →
    isStructural character = true → Admits before

instance (text : List Char) : Decidable (Admits text) :=
  inferInstanceAs (Decidable (_ ∨ _ ∧ _))

theorem isWritable_iff_take {text : List Char} :
    IsWritable text ↔ ∀ index, (inside : index < text.length) →
      isStructural text[index] = true → Admits (text.take index) := by
  constructor
  · intro writable index inside structural
    refine writable _ text[index] (text.drop (index + 1)) ?_ structural
    rw [← List.drop_eq_getElem_cons inside, List.take_append_drop]
  · rintro writable before character after rfl structural
    have here := writable before.length (by simp) (by simpa using structural)
    simpa using here

instance (text : List Char) : Decidable (IsWritable text) :=
  decidable_of_iff _ isWritable_iff_take.symm

theorem isWritable_nil : IsWritable [] := by
  rintro before character after split
  simp at split

theorem isWritable_append_left {before after : List Char}
    (writable : IsWritable (before ++ after)) :
    IsWritable before := by
  rintro first character rest rfl structural
  exact writable first character (rest ++ after) (by simp) structural

theorem isWritable_concat_iff {text : List Char} {character : Char} :
    IsWritable (text ++ [character]) ↔
      IsWritable text ∧ (isStructural character = true → Admits text) :=
  forall_split_concat_iff

theorem not_structural_backslash : isStructural '\\' = false := by decide

theorem ne_backslash_of_structural {character : Char} (structural : isStructural character = true) :
    character ≠ '\\' := by
  rintro rfl
  exact absurd structural (by decide)

/-! ## What parts write -/

/-- What parts write where `#` stands for `pound`. -/
def rendered (pound : String) (parts : List LiteralPart) : List Char :=
  parts.flatMap fun part => (part.render pound).toList

@[simp] theorem rendered_nil (pound : String) : rendered pound [] = [] := rfl

theorem rendered_prepend (pound : String) (text : List Char) (parts : List LiteralPart) :
    rendered pound (prepend text parts) = text ++ rendered pound parts := by
  unfold prepend
  split
  · rename_i empty
    obtain rfl : text = [] := by simpa using empty
    rfl
  · split <;> simp [rendered, LiteralPart.render]

/-- Without a number for it, `#` stands for itself. -/
theorem rendered_pound (parts : List LiteralPart) :
    rendered "" (.pound :: parts) = '#' :: rendered "" parts := by
  simp [rendered, LiteralPart.render]

/-- A run of literal text writes what its parts write, whatever formats it. -/
theorem outcome_nodes {π : Type} (formatter : Formatter π) (scope : Scope) (pound : String)
    (run : List Char) (state : EvaluationState) :
    (formatter.evaluateTree scope pound (nodes run)).outcome state =
      (.ok (), { state with
        output := state.output ++ String.ofList (rendered pound (parts run)) }) := by
  unfold nodes
  split
  · rename_i none
    rw [Formatter.evaluateTree, Evaluation.outcome_pure, none, rendered_nil, String.ofList_nil,
      String.append_empty]
  · rename_i some
    have text : String.join ((parts run).map (·.render pound)) =
        String.ofList (rendered pound (parts run)) := by
      rw [← String.toList_inj, String.toList_join, String.toList_ofList, rendered,
        List.flatMap_map]
    rw [Formatter.evaluateTree, Formatter.evaluateNode, text,
      Evaluation.outcome_bind_of_ok (Evaluation.outcome_write _ _), Formatter.evaluateTree]
    rfl

/-! ## From a run to what it writes -/

/-- A scan that has written a text and holds a pending segment, last character first, whose
last `escapes` characters are backslashes. A segment of backslashes alone follows none. -/
structure Pending (written segment : List Char) (escapes : Nat) : Prop where
  writable : IsWritable (written ++ segment.reverse)
  counted : trailing (written ++ segment.reverse) = escapes
  fresh : segment.length ≤ escapes → trailing written = 0

namespace Pending

variable {written segment : List Char} {escapes : Nat} {character : Char}

theorem start : Pending [] [] 0 := ⟨isWritable_nil, rfl, fun _ => rfl⟩

theorem backslash (pending : Pending written segment escapes) :
    Pending written ('\\' :: segment) (escapes + 1) := by
  refine ⟨?_, ?_, fun short => pending.fresh (Nat.le_of_succ_le_succ short)⟩
  · rw [List.reverse_cons, ← List.append_assoc, isWritable_concat_iff]
    exact ⟨pending.writable, fun structural => absurd structural (by decide)⟩
  · rw [List.reverse_cons, ← List.append_assoc, trailing_concat_backslash, pending.counted]

theorem ordinary (pending : Pending written segment escapes) (other : character ≠ '\\')
    (plain : ¬isStructural character = true) : Pending written (character :: segment) 0 := by
  refine ⟨?_, ?_, by simp⟩
  · rw [List.reverse_cons, ← List.append_assoc, isWritable_concat_iff]
    exact ⟨pending.writable, fun structural => absurd structural plain⟩
  · rw [List.reverse_cons, ← List.append_assoc, trailing_concat_of_ne _ other]

/-- A `#` that nothing escapes is written behind the segment. -/
theorem pound (pending : Pending written segment 0) :
    Pending (written ++ segment.reverse ++ ['#']) [] 0 := by
  have last : trailing (written ++ segment.reverse ++ ['#']) = 0 :=
    trailing_concat_of_ne _ (by decide)
  refine ⟨?_, by simpa using last, fun _ => last⟩
  rw [List.reverse_nil, List.append_nil, isWritable_concat_iff]
  exact ⟨pending.writable, fun _ => .inl pending.counted⟩

/-- Behind what is left of a segment, the character that its backslashes escape may follow. -/
theorem closed (pending : Pending written segment escapes) (escaped : escapes ≠ 0) :
    IsWritable (written ++ closeSegment segment escapes) ∧
      Admits (written ++ closeSegment segment escapes) := by
  unfold closeSegment
  split
  · rename_i short
    rw [List.append_nil]
    exact ⟨isWritable_append_left pending.writable, .inl (pending.fresh short)⟩
  rename_i long
  split
  · -- The one backslash goes, and no other stands before it.
    rename_i single
    subst single
    obtain ⟨last, others, rfl⟩ : ∃ last others, segment = last :: others := by
      cases segment with
      | nil => simp at long
      | cons last others => exact ⟨last, others, rfl⟩
    have counted := pending.counted
    have writable := pending.writable
    rw [List.reverse_cons, ← List.append_assoc] at counted writable
    by_cases backslash : last = '\\'
    · rw [backslash, trailing_concat_backslash] at counted
      exact ⟨isWritable_append_left writable, .inl (by simpa using counted)⟩
    · rw [trailing_concat_of_ne _ backslash] at counted
      simp at counted
  · rename_i several
    refine ⟨pending.writable, .inr ?_⟩
    rw [pending.counted, List.length_append, List.length_reverse]
    omega

theorem escaped (pending : Pending written segment escapes) (escaped : escapes ≠ 0)
    (structural : isStructural character = true) :
    Pending (written ++ closeSegment segment escapes) [character] 0 := by
  obtain ⟨writable, admits⟩ := pending.closed escaped
  refine ⟨?_, ?_, by simp⟩
  · exact isWritable_concat_iff.mpr ⟨writable, fun _ => admits⟩
  · exact trailing_concat_of_ne _ (ne_backslash_of_structural structural)

end Pending

/-- A brace of a run is escaped, so the one structural character that is not is `#`. -/
theorem eq_pound_of_unescaped {read rest : List Char} {character : Char}
    (proper : IsLiteralRun (read ++ character :: rest))
    (structural : isStructural character = true) (unescaped : read.getLast? ≠ some '\\') :
    character = '#' := by
  have brace : character ≠ '{' ∧ character ≠ '}' := by
    rw [← not_or]
    intro brace
    exact unescaped (proper read character rest rfl brace)
  simpa [isStructural, brace] using structural

/-- What the scan of a run writes is writable; `read` is the part of the run that is scanned. -/
theorem isWritable_partsFrom {written read segment rest : List Char} {escapes : Nat}
    (proper : IsLiteralRun (read ++ rest)) (flag : read.getLast? = some '\\' ↔ escapes ≠ 0)
    (pending : Pending written segment escapes) :
    IsWritable (written ++ rendered "" (partsFrom segment escapes rest)) := by
  induction rest generalizing written read segment escapes with
  | nil => simpa [partsFrom, rendered_prepend] using pending.writable
  | cons character rest inductionHypothesis =>
    have further : IsLiteralRun ((read ++ [character]) ++ rest) := by simpa using proper
    rw [partsFrom]
    split
    · rename_i backslash
      subst backslash
      exact inductionHypothesis further (by simp) pending.backslash
    rename_i other
    have last : (read ++ [character]).getLast? = some '\\' ↔ (0 : Nat) ≠ 0 := by simp [other]
    split
    · rename_i plain
      exact inductionHypothesis further last (pending.ordinary other (by simpa using plain))
    rename_i structural
    split
    · rename_i unescaped
      subst unescaped
      obtain rfl : character = '#' :=
        eq_pound_of_unescaped proper (by simpa using structural) (by simpa using flag)
      rw [rendered_prepend, rendered_pound]
      simpa using inductionHypothesis further last pending.pound
    · rename_i escaped
      rw [rendered_prepend, ← List.append_assoc]
      exact inductionHypothesis further last
        (pending.escaped escaped (by simpa using structural))

/-! ## From a text to the run that writes it -/

/-- Put a backslash before each structural character that none stands before; `escaped` records
that one stands before the text. -/
def escapeFrom (escaped : Bool) : List Char → List Char
  | [] => []
  | character :: rest =>
    if isStructural character && !escaped then '\\' :: character :: escapeFrom false rest
    else character :: escapeFrom (character = '\\') rest

/-- Put a backslash before each structural character that none stands before. -/
def escape (text : List Char) : List Char := escapeFrom false text

/-- What is escaped is a run of literal text, also behind a run. -/
theorem isLiteralRun_escapeFrom {read rest : List Char} {escaped : Bool}
    (proper : IsLiteralRun read) (flag : escaped = true ↔ read.getLast? = some '\\') :
    IsLiteralRun (read ++ escapeFrom escaped rest) := by
  induction rest generalizing read escaped with
  | nil => simpa [escapeFrom] using proper
  | cons character rest inductionHypothesis =>
    rw [escapeFrom]
    split
    · have behind : IsLiteralRun (read ++ ['\\'] ++ [character]) :=
        isLiteralRun_concat.mpr ⟨isLiteralRun_concat.mpr ⟨proper, by simp⟩, by simp⟩
      rename_i structural
      have other : character ≠ '\\' := by
        rintro rfl
        simp [isStructural] at structural
      simpa using inductionHypothesis behind (by simp [other])
    · rename_i plain
      have behind : IsLiteralRun (read ++ [character]) := by
        refine isLiteralRun_concat.mpr ⟨proper, fun brace => flag.mp ?_⟩
        rcases brace with rfl | rfl <;> simpa [isStructural] using plain
      simpa using inductionHypothesis behind (by simp)

theorem isLiteralRun_escape (text : List Char) : IsLiteralRun (escape text) :=
  isLiteralRun_escapeFrom isLiteralRun_nil (by simp)

theorem getLast?_escapeFrom (escaped : Bool) (text : List Char) :
    (escapeFrom escaped text).getLast? = text.getLast? := by
  induction text generalizing escaped with
  | nil => rfl
  | cons character rest inductionHypothesis =>
    rw [escapeFrom]
    split
    · rw [List.getLast?_cons, List.getLast?_cons, List.getLast?_cons, inductionHypothesis]
      rfl
    · rw [List.getLast?_cons, List.getLast?_cons, inductionHypothesis]

/-- A single backslash behind a segment is dropped, whatever the segment is. -/
theorem closeSegment_one (segment : List Char) :
    closeSegment ('\\' :: segment) 1 = segment.reverse := by
  cases segment with
  | nil => rfl
  | cons last others => simp [closeSegment]

/-- The scan of an escaped text writes the pending segment and the text. The text `written`
stands before the segment, and only a first segment consists of backslashes alone. -/
theorem rendered_partsFrom_escapeFrom (pound : String) {written segment rest : List Char}
    {escapes : Nat} (writable : IsWritable (written ++ segment.reverse ++ rest))
    (counted : trailing (written ++ segment.reverse) = escapes)
    (first : segment.length ≤ escapes → written = []) :
    rendered pound (partsFrom segment escapes (escapeFrom (escapes ≠ 0) rest)) =
      segment.reverse ++ rest := by
  induction rest generalizing written segment escapes with
  | nil => simp [escapeFrom, partsFrom, rendered_prepend]
  | cons character rest inductionHypothesis =>
    have grown : IsWritable (written ++ (character :: segment).reverse ++ rest) := by
      simpa using writable
    have onward : IsWritable (written ++ segment.reverse ++ [character].reverse ++ rest) := by
      simpa using writable
    by_cases backslash : character = '\\'
    · subst backslash
      have last : trailing (written ++ ('\\' :: segment).reverse) = escapes + 1 := by
        rw [List.reverse_cons, ← List.append_assoc, trailing_concat_backslash, counted]
      have scanned := inductionHypothesis grown last fun short =>
        first (Nat.le_of_succ_le_succ short)
      simpa [escapeFrom, partsFrom, not_structural_backslash] using scanned
    by_cases structural : isStructural character = true
    · have scanned := inductionHypothesis onward
        (trailing_concat_of_ne (written ++ segment.reverse) backslash) (by simp)
      by_cases unescaped : escapes = 0
      · -- The one backslash that is put here is dropped again.
        subst unescaped
        simpa [escapeFrom, partsFrom, structural, backslash, rendered_prepend, closeSegment_one]
          using scanned
      · have admits : Admits (written ++ segment.reverse) :=
          writable _ character rest (by simp) structural
        have kept : closeSegment segment escapes = segment.reverse := by
          rw [Admits, counted] at admits
          have long : ¬segment.length ≤ escapes := by
            intro short
            simp [first short] at admits
            omega
          rw [closeSegment, if_neg long, if_neg (by omega)]
        simpa [escapeFrom, partsFrom, structural, backslash, unescaped, rendered_prepend, kept]
          using scanned
    · have last : trailing (written ++ (character :: segment).reverse) = 0 := by
        rw [List.reverse_cons, ← List.append_assoc, trailing_concat_of_ne _ backslash]
      have scanned := inductionHypothesis grown last (by simp)
      simpa [escapeFrom, partsFrom, structural, backslash] using scanned

/-- An escaped text writes the text, whatever `#` stands for. -/
theorem rendered_escape (pound : String) {text : List Char} (writable : IsWritable text) :
    rendered pound (parts (escape text)) = text :=
  rendered_partsFrom_escapeFrom pound (by simpa using writable) rfl fun _ => rfl

-- A single backslash in front of a brace cannot be written, two can, but not as the first.
example : ¬IsWritable "a\\\x7b".toList ∧ IsWritable "a\\\\\x7b".toList ∧
    ¬IsWritable "\\\\\x7b".toList := by decide

end Literal

/-! ## Templates of literal text -/

/-- A template whose tree is literal text is one run. -/
theorem IsMessage.isLiteralRun {π : Type} {text : List Char} {tree : Tree π}
    (message : IsMessage text tree) (literal : ∀ node ∈ tree, node.IsLiteral) :
    IsLiteralRun text ∧ tree = Literal.nodes text := by
  cases message with
  | literal escaped => exact ⟨escaped, rfl⟩
  | @expression run inside rest node tree escaped opening inner following =>
    obtain ⟨parts, rfl⟩ := literal node (by simp)
    generalize same : Node.literal parts = node at inner
    cases inner with
    | var => cases same
    | date => cases same
    | @choices kind => cases kind <;> cases same

/-- A run formats to what its parts write. -/
theorem format_nodes {π : Type} (formatter : Formatter π) (run : List Char) (args : Args) :
    formatter.format (Literal.nodes run) args =
      .ok (String.ofList (Literal.rendered "" (Literal.parts run))) := by
  rw [Formatter.format_of_outcome (Literal.outcome_nodes _ _ _ _ _)]
  simp

theorem ofTemplate_of_isLiteralRun {π : Type} {run : List Char} (escaped : IsLiteralRun run) :
    Message.ofTemplate (String.ofList run) =
      .ok (⟨Literal.nodes run, .standard⟩ : Message π) := by
  have parsed : Parser.parse {} (String.ofList run) = .ok (Literal.nodes run : Tree π) :=
    Parser.parse_of_isMessage (by simpa using .literal escaped) (by simp)
  rw [Message.ofTemplate, parsed]
  rfl

/-! ## The body of a choice -/

/-- An expression with choices, whose body of `other` is left open. -/
structure OtherFrame (π : Type) where
  kind : ChoiceKind
  key : String
  offset : UInt64
  /-- The choices before `other`. -/
  front : Choices π
  /-- The choices behind `other`. -/
  back : Choices π
  keyText : List Char
  kindText : List Char
  offsetText : List Char
  frontText : List Char
  nameText : List Char
  gap : List Char
  backText : List Char
  identifier : IsIdentifier key
  keyed : IsPadded key keyText
  kinded : IsPadded kind.name kindText
  shifted : IsOffset kind.takesOffset offsetText offset
  before : AreChoices frontText front
  named : IsPadded otherChoice nameText
  gapBlank : IsBlankText gap
  behind : AreChoices backText back
  distinct : ((front.map (·.1)) ++ otherChoice :: back.map (·.1)).Nodup

theorem AreChoices.append {π : Type} {frontText backText : List Char} {front back : Choices π}
    (before : AreChoices frontText front) (behind : AreChoices backText back) :
    AreChoices (frontText ++ backText) (front ++ back) := by
  induction front generalizing frontText with
  | nil =>
    cases before
    exact behind
  | cons choice front inductionHypothesis =>
    cases before with
    | cons proper named message closing gapBlank listed =>
      have rest := inductionHypothesis listed
      simpa using AreChoices.cons proper named message closing gapBlank rest

namespace OtherFrame

variable {π : Type}

/-- The template of the expression with a given body. -/
def text (frame : OtherFrame π) (body : List Char) : List Char :=
  '{' :: (frame.keyText ++ ',' :: (frame.kindText ++ ',' :: (frame.offsetText ++
    (frame.frontText ++ (frame.nameText ++ '{' :: (body ++ '}' :: (frame.gap ++
      frame.backText))))))) ++ ['}']

/-- The expression with a given body. -/
def node (frame : OtherFrame π) (body : Tree π) : Node π :=
  frame.kind.node frame.key (frame.front ++ (otherChoice, body) :: frame.back) frame.offset

/-- How many expressions stand one inside the other in a frame, itself included. -/
def nesting (frame : OtherFrame π) : Nat :=
  1 + max (Node.choicesNesting frame.front) (Node.choicesNesting frame.back)

theorem isMessage (frame : OtherFrame π) {body : List Char} {tree : Tree π}
    (message : IsMessage body tree) (closing : body.getLast? ≠ some '\\') :
    IsMessage (frame.text body) [frame.node tree] := by
  have other := AreChoices.cons isChoiceName_otherChoice frame.named message closing
    frame.gapBlank frame.behind
  have listed := frame.before.append other
  have inner := IsExpression.choices frame.identifier frame.keyed frame.kinded frame.shifted listed
    (by simpa using frame.distinct) (by simp)
  have nothing : IsMessage [] ([] : Tree π) := .literal isLiteralRun_nil
  have whole := IsMessage.expression isLiteralRun_nil (by simp) inner nothing
  rw [show (Literal.nodes [] : Tree π) = [] from rfl] at whole
  simpa [text, node] using whole

theorem choicesNesting_append (front back : Choices π) :
    Node.choicesNesting (front ++ back) =
      max (Node.choicesNesting front) (Node.choicesNesting back) := by
  induction front with
  | nil => simp [Node.choicesNesting]
  | cons choice front inductionHypothesis =>
    simp [Node.choicesNesting, inductionHypothesis, Nat.max_assoc]

/-- A frame is parsed with any body that holds no expression. -/
theorem parse_text (frame : OtherFrame π) {maxDepth : Nat} (enough : frame.nesting ≤ maxDepth)
    {run : List Char} (escaped : IsLiteralRun run) (closing : run.getLast? ≠ some '\\') :
    Parser.parse { maxDepth } (String.ofList (frame.text run)) =
      .ok [frame.node (Literal.nodes run)] := by
  refine Parser.parse_of_isMessage ?_ ?_
  · rw [String.toList_ofList]
    exact frame.isMessage (.literal escaped) closing
  · rw [nesting] at enough
    simpa [Node.treeNesting, node, choicesNesting_append, Node.choicesNesting] using enough

end OtherFrame

/-! ## The texts of literal templates -/

section Output

variable {π : Type} {text : String}

theorem isWritable_of_format {template : String} {message : Message π}
    (read : Message.ofTemplate template = .ok message)
    (literal : ∀ node ∈ message.tree, node.IsLiteral) (written : message.format = .ok text) :
    Literal.IsWritable text.toList := by
  unfold Message.ofTemplate at read
  cases parsed : (Parser.parse {} template : Except ParseError (Tree π)) with
  | error error => simp [parsed, Except.map] at read
  | ok tree =>
    obtain rfl : ⟨tree, .standard⟩ = message := by simpa [parsed, Except.map] using read
    obtain ⟨run, rfl⟩ := (Parser.isMessage_of_parse parsed).1.isLiteralRun literal
    have output := (format_nodes .standard template.toList .empty).symm.trans written
    obtain rfl := Except.ok.inj output
    rw [String.toList_ofList]
    have start : IsLiteralRun ([] ++ template.toList) := run
    exact Literal.isWritable_partsFrom start (by simp) .start

/-- The escaped text is a template without expressions that formats to the text. -/
theorem exists_ofTemplate_escape (writable : Literal.IsWritable text.toList) :
    ∃ message : Message π,
      Message.ofTemplate (String.ofList (Literal.escape text.toList)) = .ok message ∧
      (∀ node ∈ message.tree, node.IsLiteral) ∧ message.format = .ok text := by
  refine ⟨_, ofTemplate_of_isLiteralRun (Literal.isLiteralRun_escape _),
    fun node member => Node.isLiteral_of_mem_nodes member, ?_⟩
  rw [Message.format, format_nodes, Literal.rendered_escape "" writable, String.ofList_toList]

/-- The escaped text writes the text wherever it is evaluated. -/
theorem evaluate_escape (formatter : Formatter π) (scope : Scope) (pound : String)
    (writable : Literal.IsWritable text.toList) (state : EvaluationState) :
    formatter.evaluate scope pound (Literal.nodes (Literal.escape text.toList)) state =
      (.ok (), { state with output := state.output ++ text }) := by
  have written := Literal.outcome_nodes formatter scope pound (Literal.escape text.toList) state
  rw [Literal.rendered_escape pound writable, String.ofList_toList] at written
  exact written

end Output

/-- A text is the output of some template without expressions exactly if it is writable. The
escaped text is then such a template, and, if the text does not end with a backslash, a body of
`other` in any expression that writes the text whatever its number is. -/
theorem literal_output_iff {π : Type} (text : String) :
    ((∃ template, ∃ message : Message π, Message.ofTemplate template = .ok message ∧
        (∀ node ∈ message.tree, node.IsLiteral) ∧ message.format = .ok text) ↔
      Literal.IsWritable text.toList) ∧
    (Literal.IsWritable text.toList →
      (∃ message : Message π,
        Message.ofTemplate (String.ofList (Literal.escape text.toList)) = .ok message ∧
        (∀ node ∈ message.tree, node.IsLiteral) ∧ message.format = .ok text) ∧
      (text.toList.getLast? ≠ some '\\' → ∀ (frame : OtherFrame π) (maxDepth : Nat),
        frame.nesting ≤ maxDepth →
          Parser.parse { maxDepth } (String.ofList (frame.text (Literal.escape text.toList))) =
            .ok [frame.node (Literal.nodes (Literal.escape text.toList))] ∧
          ∀ (formatter : Formatter π) (scope : Scope) (pound : String) (state : EvaluationState),
            formatter.evaluate scope pound (Literal.nodes (Literal.escape text.toList)) state =
              (.ok (), { state with output := state.output ++ text }))) := by
  have escaped : IsLiteralRun (Literal.escape text.toList) := Literal.isLiteralRun_escape _
  refine ⟨⟨?_, fun writable => ?_⟩, fun writable => ⟨?_, ?_⟩⟩
  · rintro ⟨template, message, read, literal, written⟩
    exact isWritable_of_format read literal written
  · exact ⟨_, exists_ofTemplate_escape writable⟩
  · exact exists_ofTemplate_escape writable
  · intro closing frame maxDepth enough
    have unescaped : (Literal.escape text.toList).getLast? ≠ some '\\' := by
      rwa [Literal.escape, Literal.getLast?_escapeFrom]
    refine ⟨frame.parse_text enough escaped unescaped, ?_⟩
    intro formatter scope pound state
    exact evaluate_escape formatter scope pound writable state

/-- A plural with `other` alone. -/
def OtherFrame.plural : OtherFrame Unit where
  kind := .plural
  key := "n"
  offset := 0
  front := []
  back := []
  keyText := ['n']
  kindText := "plural".toList
  offsetText := []
  frontText := []
  nameText := "other".toList
  gap := []
  backText := []
  identifier := by decide
  keyed := ⟨[], [], by simp [IsBlankText], by simp [IsBlankText], rfl⟩
  kinded := ⟨[], [], by simp [IsBlankText], by simp [IsBlankText], rfl⟩
  shifted := .absent
  before := .nil
  named := ⟨[], [], by simp [IsBlankText], by simp [IsBlankText], rfl⟩
  gapBlank := by simp [IsBlankText]
  behind := .nil
  distinct := by simp

/-- A text with a brace behind two backslashes and with a `#`, alone and in a plural, where it is
written behind what is there already, and whatever the number of the plural is. -/
theorem literal_output_in_plural :
    Literal.IsWritable "a\\\\\x7b#".toList ∧ "a\\\\\x7b#".toList.getLast? ≠ some '\\' ∧
      OtherFrame.plural.nesting ≤ 1 ∧
      (∃ message : Message Unit, Message.ofTemplate "a\\\\\x7b\\#" = .ok message ∧
        (∀ node ∈ message.tree, node.IsLiteral) ∧ message.format = .ok "a\\\\\x7b#") ∧
      Parser.parse { maxDepth := 1 } "\x7bn,plural,other\x7ba\\\\\x7b\\#\x7d\x7d" =
        .ok ([.plural "n" [(otherChoice, Literal.nodes "a\\\\\x7b\\#".toList)] 0] : Tree Unit) ∧
      (Formatter.standard (π := Unit)).evaluate ⟨.empty, .reject, 1⟩ "7"
          (Literal.nodes "a\\\\\x7b\\#".toList) ⟨1, "n: "⟩ =
        (.ok (), ⟨1, "n: a\\\\\x7b#"⟩) := by
  have writable : Literal.IsWritable "a\\\\\x7b#".toList := by decide
  have closing : "a\\\\\x7b#".toList.getLast? ≠ some '\\' := by decide
  have enough : OtherFrame.plural.nesting ≤ 1 := by
    simp [OtherFrame.plural, OtherFrame.nesting, Node.choicesNesting]
  have written := (literal_output_iff (π := Unit) "a\\\\\x7b#").2 writable
  obtain ⟨parsed, evaluated⟩ := written.2 closing .plural 1 enough
  exact ⟨writable, closing, enough, written.1, parsed, evaluated _ _ _ _⟩

end MessageTemplate
