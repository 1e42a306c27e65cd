import MessageTemplate.Proofs.Scanning

/-!
# Literal text by index

The parts of a run of literal text, scanned between two indices of a text. The scan knows where
the pending segment begins and how many backslashes come last, and cuts the segment out of the text
when it ends. A pending segment always lies before the index, so no check fails, and the parts are
those of the run.
-/

namespace MessageTemplate.Literal

/-- Put text behind parts, last part first; text joins a text part. -/
def appendText (text : String) : List LiteralPart → List LiteralPart
  | .text before :: others => .text (before ++ text) :: others
  | parts => .text text :: parts

/-- Put a segment behind parts, last part first; an empty segment changes nothing. -/
def appendSegment (segment : List Char) (parts : List LiteralPart) : List LiteralPart :=
  if segment.isEmpty then parts else appendText (String.ofList segment) parts

/-- How far a run of literal text is scanned. -/
structure Progress where
  /-- The parts before the pending segment, last part first. -/
  parts : List LiteralPart
  /-- Where the pending segment begins. -/
  segmentStart : Nat
  /-- How many backslashes come last. -/
  escapes : Nat

/-- The text of a segment that ends at an index and whose last `escapes` characters are the
backslashes that escape the character there. -/
def segmentBefore (characters : List Char) (segmentStart index escapes : Nat) :
    Checked (List Char) := do
  let length ← Checked.difference characters index segmentStart
  if escapes < length then
    let last ← if 1 < escapes then pure index else Checked.difference characters index 1
    Checked.slice characters segmentStart last
  else pure []

namespace Progress

/-- Go on behind the character at an index. An escaped character opens the next segment. -/
def step (characters : List Char) (progress : Progress) (index : Nat) (character : Char) :
    Checked Progress :=
  if character = '\\' then .ok { progress with escapes := progress.escapes + 1 }
  else if !isStructural character then .ok { progress with escapes := 0 }
  else if progress.escapes = 0 then do
    let segment ← Checked.slice characters progress.segmentStart index
    return ⟨.pound :: appendSegment segment progress.parts, index + 1, 0⟩
  else do
    let segment ← segmentBefore characters progress.segmentStart index progress.escapes
    return ⟨appendSegment segment progress.parts, index, 0⟩

/-- Go on behind the characters from an index on. -/
def steps (characters : List Char) (progress : Progress) (index : Nat) :
    List Char → Checked Progress
  | [] => pure progress
  | character :: rest => do
    let progress ← progress.step characters index character
    progress.steps characters (index + 1) rest

/-- The parts of a run that ends at the index `last`. -/
def finish (characters : List Char) (last : Nat) (progress : Progress) :
    Checked (List LiteralPart) :=
  if progress.segmentStart < last then do
    let segment ← Checked.slice characters progress.segmentStart last
    return (appendSegment segment progress.parts).reverse
  else return progress.parts.reverse

end Progress

/-- The parts of the literal text from the index `first` up to the index `last`. -/
def partsBetween (characters : List Char) (first last : Nat) : Checked (List LiteralPart) := do
  Checked.check characters.length (.literal first last)
  let progress ← Progress.steps characters ⟨[], first, 0⟩ first
    ((characters.take last).drop first)
  progress.finish characters last

/-! ## Parts behind parts -/

/-- Parts behind other parts, which stand last part first; text that meets is joined. -/
def join (parts : List LiteralPart) : List LiteralPart → List LiteralPart
  | .text text :: others => (appendText text parts).reverse ++ others
  | others => parts.reverse ++ others

theorem join_nil_left (parts : List LiteralPart) : join [] parts = parts := by
  rcases parts with _ | ⟨_ | _, others⟩ <;> rfl

theorem join_nil_right (parts : List LiteralPart) : join parts [] = parts.reverse :=
  List.append_nil _

theorem appendText_appendText (near far : String) (parts : List LiteralPart) :
    appendText far (appendText near parts) = appendText (near ++ far) parts := by
  rcases parts with _ | ⟨_ | _, others⟩ <;> simp [appendText, String.append_assoc]

theorem join_appendSegment (segment : List Char) (parts others : List LiteralPart) :
    join (appendSegment segment parts) others = join parts (prepend segment others) := by
  unfold appendSegment prepend
  split
  · rfl
  · rcases others with _ | ⟨_ | _, others⟩
    · simp [join]
    · simp [join, appendText_appendText]
    · simp [join]

theorem join_pound (parts others : List LiteralPart) :
    join (.pound :: parts) others = join parts (.pound :: others) := by
  rcases others with _ | ⟨_ | _, others⟩ <;> simp [join, appendText]

/-! ## Where the pending segment lies -/

/-- The pending segment, last character first, lies in the text from `start` up to `index`, and
behind it up to `last` the rest of the run. -/
def PendingAt (characters segment rest : List Char) (start index last : Nat) : Prop :=
  ∃ before after, characters = before ++ segment.reverse ++ rest ++ after ∧
    start = before.length ∧ index = start + segment.length ∧ last = index + rest.length

namespace PendingAt

variable {characters segment rest : List Char} {character : Char} {start index last : Nat}

/-- One character further. -/
theorem step (pending : PendingAt characters segment (character :: rest) start index last) :
    PendingAt characters (character :: segment) rest start (index + 1) last := by
  obtain ⟨before, after, whole, starts, here, ends⟩ := pending
  refine ⟨before, after, by simp [whole], starts, ?_, ?_⟩
  · rw [here, List.length_cons, Nat.add_assoc]
  · rw [ends, List.length_cons]
    omega

/-- The next segment begins here. -/
theorem restart (pending : PendingAt characters segment rest start index last) :
    PendingAt characters [] rest index index last := by
  obtain ⟨before, after, whole, starts, here, ends⟩ := pending
  exact ⟨before ++ segment.reverse, after, by simp [whole], by simp [here, starts], rfl, ends⟩

theorem slice_eq (pending : PendingAt characters segment rest start index last) :
    Checked.slice characters start index = .ok segment.reverse := by
  obtain ⟨before, after, whole, starts, here, -⟩ := pending
  rw [whole, here, starts, List.append_assoc, ← segment.length_reverse]
  exact Checked.slice_append _ _ _

/-- All but the last character of the segment. -/
theorem slice_tail_eq
    (pending : PendingAt characters (character :: segment) rest start index last) :
    Checked.slice characters start (index - 1) = .ok segment.reverse := by
  obtain ⟨before, after, whole, starts, here, -⟩ := pending
  have split : characters = before ++ segment.reverse ++ (character :: rest ++ after) := by
    simp [whole]
  have previous : index - 1 = before.length + segment.reverse.length := by simp [here, starts]
  rw [split, previous, starts]
  exact Checked.slice_append _ _ _

theorem segmentBefore_eq (pending : PendingAt characters segment rest start index last)
    {escapes : Nat} (escaped : escapes ≠ 0) :
    segmentBefore characters start index escapes = .ok (closeSegment segment escapes) := by
  obtain ⟨_, _, -, -, here, -⟩ := id pending
  rw [segmentBefore, here, Checked.difference_of_le _ (Nat.le_add_right _ _),
    Nat.add_sub_cancel_left, ← here]
  change (if escapes < segment.length then _ else _) = _
  unfold closeSegment
  by_cases short : escapes < segment.length
  · rw [if_pos short, if_neg (Nat.not_le.mpr short)]
    by_cases several : 1 < escapes
    · rw [if_pos several, if_neg (Nat.ne_of_gt several)]
      exact pending.slice_eq
    · obtain rfl : escapes = 1 := by omega
      obtain ⟨character, others, rfl⟩ := List.exists_cons_of_length_pos (Nat.zero_lt_of_lt short)
      rw [if_neg several, if_pos rfl, Checked.difference_of_le _ (by omega)]
      exact pending.slice_tail_eq
  · rw [if_neg short, if_pos (Nat.not_lt.mp short)]
    rfl

end PendingAt

/-! ## What is scanned -/

/-- From a pending segment on no check fails, and the parts are those of the segment and of the
characters behind it. -/
theorem finish_steps {characters segment rest : List Char} {parts : List LiteralPart}
    {start index last : Nat} (pending : PendingAt characters segment rest start index last)
    (escapes : Nat) :
    (do
      let progress ← Progress.steps characters ⟨parts, start, escapes⟩ index rest
      progress.finish characters last) = .ok (join parts (partsFrom segment escapes rest)) := by
  -- What carries the induction is that the segment from `start` up to `index` is the pending one.
  fun_induction partsFrom segment escapes rest generalizing parts start index with
  | case1 segment escapes =>
    obtain ⟨_, _, -, -, here, ends⟩ := id pending
    obtain rfl : last = index := ends
    rw [← join_appendSegment, join_nil_right]
    change Progress.finish characters last ⟨parts, start, escapes⟩ = _
    rw [Progress.finish]
    dsimp only
    by_cases empty : segment = []
    · subst empty
      rw [if_neg (by simp [here])]
      rfl
    · have filled := List.length_pos_iff.mpr empty
      rw [if_pos (by omega), pending.slice_eq]
      rfl
  | case2 segment escapes rest inductionHypothesis =>
    rw [Progress.steps, Progress.step, if_pos rfl]
    exact inductionHypothesis pending.step
  | case3 segment escapes character rest other plain inductionHypothesis =>
    rw [Progress.steps, Progress.step, if_neg other, if_pos plain]
    exact inductionHypothesis pending.step
  | case4 segment character rest other structural inductionHypothesis =>
    rw [Progress.steps, Progress.step, if_neg other, if_neg structural, if_pos rfl,
      pending.slice_eq, ← join_appendSegment, ← join_pound]
    exact inductionHypothesis pending.step.restart
  | case5 segment escapes character rest other structural escaped inductionHypothesis =>
    rw [Progress.steps, Progress.step, if_neg other, if_neg structural, if_neg escaped,
      pending.segmentBefore_eq escaped, ← join_appendSegment]
    exact inductionHypothesis pending.restart.step

/-- Between two indices in their order that lie in the text, no check fails, and the parts are
those of the characters between them. -/
theorem partsBetween_append (before run after : List Char) :
    partsBetween (before ++ run ++ after) before.length (before.length + run.length) =
      .ok (parts run) := by
  have pending : PendingAt (before ++ run ++ after) [] run before.length before.length
      (before.length + run.length) := ⟨before, after, by simp, rfl, rfl, rfl⟩
  have whole : ((before ++ run ++ after).take (before.length + run.length)).drop before.length =
      run := by
    rw [← List.length_append, List.take_left, List.drop_left]
  have within : (IndexUse.literal before.length (before.length + run.length)).InRange
      (before ++ run ++ after).length := by simp [IndexUse.InRange]
  rw [partsBetween, Checked.check_bind within, whole, parts, ← join_nil_left (partsFrom [] 0 run)]
  exact finish_steps pending 0

/-- Out of order indices, and an index beyond the end, are told. -/
example : partsBetween "ab".toList 2 1 = .error (.literal 2 1) ∧
    partsBetween "ab".toList 0 3 = .error (.literal 0 3) := by decide

end MessageTemplate.Literal
