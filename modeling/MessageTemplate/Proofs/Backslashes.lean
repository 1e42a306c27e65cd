import MessageTemplate.Proofs.Concatenation
import MessageTemplate.Proofs.Escapes
import MessageTemplate.Proofs.Shape

/-!
# What becomes of backslashes

The rule for the parts of a run of literal text, said of whole runs of backslashes: no segment is
held back and nothing is counted. A run of backslashes goes or stays as a whole, by what stands
right behind it and right before it. The scan of a run agrees with the rule on every run of literal
text; the induction is on the rest of the text, and it holds the pending segment against the
backslashes that the rule has not passed yet.
-/

namespace MessageTemplate.Literal

/-! ## The rule -/

/-- What a text shows, character by character, where `none` is the number that `#` stands for.
Backslashes before a structural character go if the text is `fresh` before them or if there is just
one; all other characters stay. A text is fresh at its beginning and behind a `#` that no backslash
stands before, and such a `#` is the number. -/
def shownFrom (fresh : Bool) (text : List Char) : List (Option Char) :=
  match _behind : text.dropWhile (· = '\\') with
  | [] => text.map some
  | character :: rest =>
    let backslashes := text.takeWhile (· = '\\')
    let number := character = '#' && backslashes.isEmpty
    (if isStructural character && (fresh || backslashes.length = 1) then []
      else backslashes.map some) ++
        (if number then none else some character) :: shownFrom number rest
termination_by text.length
decreasing_by
  have shorter := (List.dropWhile_suffix (l := text) (· = '\\')).length_le
  rw [_behind, List.length_cons] at shorter
  exact shorter

/-- What a run of literal text shows, character by character. -/
def shown (run : List Char) : List (Option Char) := shownFrom true run

theorem shownFrom_backslashes (fresh : Bool) (count : Nat) :
    shownFrom fresh (List.replicate count '\\') = List.replicate count (some '\\') := by
  rw [shownFrom]
  split
  · exact List.map_replicate
  · rename_i behind
    simp at behind

/-- Backslashes and the character behind them. -/
theorem shownFrom_step (fresh : Bool) (count : Nat) {character : Char} (other : character ≠ '\\')
    (rest : List Char) :
    shownFrom fresh (List.replicate count '\\' ++ character :: rest) =
      (if isStructural character && (fresh || count = 1) then []
        else List.replicate count (some '\\')) ++
          (if character = '#' && count = 0 then none else some character) ::
            shownFrom (character = '#' && count = 0) rest := by
  have ahead : (List.replicate count '\\' ++ character :: rest).takeWhile (· = '\\') =
      List.replicate count '\\' := by simp [other]
  have behind : (List.replicate count '\\' ++ character :: rest).dropWhile (· = '\\') =
      character :: rest := by simp [other]
  rw [shownFrom]
  split
  · rename_i nothing
    cases behind.symm.trans nothing
  · rename_i next others found
    obtain ⟨rfl, rfl⟩ := List.cons.inj (found.symm.trans behind)
    simp [ahead]

/-- Of the characters of a text only some backslashes are not shown. -/
theorem sublist_shownFrom (fresh : Bool) (text : List Char) :
    ((shownFrom fresh text).map (·.getD '#')).Sublist text ∧
      ((shownFrom fresh text).map (·.getD '#')).filter (· ≠ '\\') = text.filter (· ≠ '\\') := by
  fun_induction shownFrom fresh text with
  | case1 fresh text nothing => simp
  | case2 fresh text character rest behind backslashes number inductionHypothesis =>
    have whole : backslashes ++ character :: rest = text := by
      rw [← behind]
      exact List.takeWhile_append_dropWhile
    have only : ∀ backslash ∈ backslashes, backslash = '\\' := by
      intro backslash member
      simpa using List.mem_takeWhile_imp member
    have shows : (if number then none else some character : Option Char).getD '#' = character := by
      split
      · rename_i pound
        exact (of_decide_eq_true (Bool.and_eq_true_iff.mp pound).1).symm
      · rfl
    obtain ⟨sublist, same⟩ := inductionHypothesis
    rw [List.map_append, List.map_cons, shows, ← whole]
    constructor
    · apply List.Sublist.append _ (sublist.cons_cons character)
      split
      · exact List.nil_sublist _
      · simp
    · rw [List.filter_append, List.filter_append, List.filter_cons, List.filter_cons, same]
      split
      · simpa using only
      · simp

/-! ## Parts and what they show -/

/-- The characters of parts, where `none` is the number. -/
def characters (parts : List LiteralPart) : List (Option Char) :=
  parts.flatMap fun
    | .text text => text.toList.map some
    | .pound => [none]

theorem characters_prepend (text : List Char) (parts : List LiteralPart) :
    characters (prepend text parts) = text.map some ++ characters parts := by
  unfold prepend
  split
  · rename_i empty
    obtain rfl := List.isEmpty_iff.mp empty
    rfl
  · split <;> simp [characters]

/-- Where no number is given, parts write their characters, and `#` for the number. -/
theorem rendered_eq_map_characters (parts : List LiteralPart) :
    rendered "" parts = (characters parts).map (·.getD '#') := by
  rw [rendered, characters, List.map_flatMap]
  congr 1
  funext part
  cases part with
  | text text => simp [LiteralPart.render]
  | pound => simp [LiteralPart.render]

/-! ## The scan agrees with the rule -/

/-- What is left of a segment in front of a character that its backslashes escape: they go if the
segment holds nothing before them, and a single one goes anyhow. -/
theorem closeSegment_backslashes (held : List Char) {escapes : Nat} (escaped : escapes ≠ 0) :
    closeSegment (List.replicate escapes '\\' ++ held) escapes =
      held.reverse ++ if held.isEmpty || escapes = 1 then [] else List.replicate escapes '\\' := by
  obtain ⟨count, rfl⟩ := Nat.exists_eq_succ_of_ne_zero escaped
  cases held with
  | nil => simp [closeSegment]
  | cons last held =>
    have long : ¬(List.replicate (count + 1) '\\' ++ last :: held).length ≤ count + 1 := by simp
    rw [closeSegment, if_neg long]
    by_cases single : count = 0
    · simp [single]
    · simp [single]

/-- The scan of a run shows what the pending segment holds before its backslashes, and then what
these and the rest show; `read` is the part of the run that is scanned. -/
theorem characters_partsFrom {read held rest : List Char} {escapes : Nat}
    (proper : IsLiteralRun (read ++ rest)) (flag : read.getLast? = some '\\' ↔ escapes ≠ 0) :
    characters (partsFrom (List.replicate escapes '\\' ++ held) escapes rest) =
      held.reverse.map some ++ shownFrom held.isEmpty (List.replicate escapes '\\' ++ rest) := by
  induction rest generalizing read held escapes with
  | nil =>
    rw [partsFrom, characters_prepend, List.append_nil, shownFrom_backslashes]
    simp [characters]
  | cons character rest inductionHypothesis =>
    have further : IsLiteralRun ((read ++ [character]) ++ rest) := by simpa using proper
    rw [partsFrom]
    split
    · rename_i backslash
      subst backslash
      have scanned := @inductionHypothesis _ held (escapes + 1) further (by simp)
      rw [← List.cons_append, ← List.replicate_succ, scanned, List.replicate_succ']
      simp
    rename_i other
    have last : (read ++ [character]).getLast? = some '\\' ↔ (0 : Nat) ≠ 0 := by simp [other]
    rw [shownFrom_step _ _ other]
    split
    · rename_i plain
      have scanned := @inductionHypothesis _ (character :: (List.replicate escapes '\\' ++ held)) 0
        further last
      replace plain : isStructural character = false := by simpa using plain
      have unpound : character ≠ '#' := by
        rintro rfl
        exact absurd plain (by decide)
      simpa [plain, unpound] using scanned
    rename_i structural
    replace structural : isStructural character = true := by simpa using structural
    split
    · rename_i unescaped
      subst unescaped
      obtain rfl : character = '#' :=
        eq_pound_of_unescaped proper structural (by simpa using flag)
      have scanned := @inductionHypothesis _ [] 0 further last
      rw [characters_prepend]
      simpa [characters] using scanned
    · rename_i escaped
      have scanned := @inductionHypothesis _ [character] 0 further last
      rw [characters_prepend, closeSegment_backslashes held escaped]
      by_cases gone : (held.isEmpty || escapes = 1) = true
      · simpa [gone, structural, escaped] using scanned
      · simpa [gone, structural, escaped] using scanned

/-- The parts of a run of literal text show what the rule says. -/
theorem characters_parts {run : List Char} (proper : IsLiteralRun run) :
    characters (parts run) = shown run :=
  @characters_partsFrom [] [] run 0 proper (by simp)

/-! ## Numbers -/

/-- Text in front of parts adds no number to them. -/
theorem prepend_eq_append_pound_iff {text : List Char} {parts front back : List LiteralPart} :
    prepend text parts = front ++ .pound :: back ↔
      ∃ before, parts = before ++ .pound :: back ∧ prepend text before = front := by
  by_cases empty : text = []
  · simp [prepend, empty]
  constructor
  · intro same
    rcases parts with - | ⟨⟨following⟩ | -, others⟩
    · simp [prepend, empty, List.cons_eq_append_iff] at same
    · obtain ⟨before, rfl, rfl⟩ : ∃ before,
          front = .text (String.ofList text ++ following) :: before ∧
            others = before ++ .pound :: back := by
        simpa [prepend, empty, List.cons_eq_append_iff] using same
      exact ⟨.text following :: before, rfl, by simp [prepend, empty]⟩
    · obtain ⟨before, rfl, whole⟩ : ∃ before, front = .text (String.ofList text) :: before ∧
          .pound :: others = before ++ .pound :: back := by
        simpa [prepend, empty, List.cons_eq_append_iff] using same
      refine ⟨before, whole, ?_⟩
      rcases before with - | ⟨⟨following⟩ | -, before⟩
      · simp [prepend, empty]
      · cases whole
      · simp [prepend, empty]
  · rintro ⟨before, rfl, rfl⟩
    obtain - | ⟨⟨following⟩ | -, before⟩ := before <;> simp [prepend, empty]

/-- A text that begins with a character, cut at a `#`. -/
theorem exists_cut_cons_iff {character : Char} {rest : List Char}
    {property : List Char → List Char → Prop} :
    (∃ before after, character :: rest = before ++ '#' :: after ∧ property before after) ↔
      (character = '#' ∧ property [] rest) ∨
        ∃ before after, rest = before ++ '#' :: after ∧ property (character :: before) after := by
  constructor
  · rintro ⟨before, after, whole, holds⟩
    cases before with
    | nil =>
      obtain ⟨rfl, rfl⟩ := List.cons.inj whole
      exact .inl ⟨rfl, holds⟩
    | cons first before =>
      obtain ⟨rfl, rfl⟩ := List.cons.inj whole
      exact .inr ⟨before, after, rfl, holds⟩
  · rintro (⟨rfl, holds⟩ | ⟨before, after, rfl, holds⟩)
    · exact ⟨[], rest, rfl, holds⟩
    · exact ⟨character :: before, after, rfl, holds⟩

/-- The numbers that the scan of a run is still to find are the `#` of the rest that no backslash
stands before, and the scan begins anew behind each of them; `read` is the part of the run that is
scanned. -/
theorem partsFrom_eq_append_pound_iff {read segment rest : List Char} {escapes : Nat}
    {front back : List LiteralPart} (proper : IsLiteralRun (read ++ rest))
    (flag : read.getLast? = some '\\' ↔ escapes ≠ 0) :
    partsFrom segment escapes rest = front ++ .pound :: back ↔
      ∃ before after, rest = before ++ '#' :: after ∧
        (read ++ before).getLast? ≠ some '\\' ∧ partsFrom segment escapes before = front ∧
          parts after = back := by
  fun_induction partsFrom segment escapes rest generalizing read front with
  | case1 segment escapes => simp [prepend_eq_append_pound_iff]
  | case2 segment escapes rest inductionHypothesis =>
    rw [exists_cut_cons_iff, @inductionHypothesis (read ++ ['\\']) front (by simpa using proper)
      (by simp)]
    simp [partsFrom]
  | case3 segment escapes character rest other plain inductionHypothesis =>
    have unpound : character ≠ '#' := by
      rintro rfl
      exact absurd plain (by decide)
    rw [exists_cut_cons_iff, @inductionHypothesis (read ++ [character]) front
      (by simpa using proper) (by simp [other])]
    simp [partsFrom, other, plain, unpound]
  | case4 segment character rest other structural inductionHypothesis =>
    replace structural : isStructural character = true := by simpa using structural
    obtain rfl : character = '#' := eq_pound_of_unescaped proper structural (by simpa using flag)
    have behind (front : List LiteralPart) :=
      @inductionHypothesis (read ++ ['#']) front (by simpa using proper) (by simp)
    rw [prepend_eq_append_pound_iff, exists_cut_cons_iff]
    constructor
    · rintro ⟨found, same, rfl⟩
      rcases List.cons_eq_append_iff.mp same with ⟨rfl, first⟩ | ⟨found, rfl, later⟩
      · exact .inl ⟨rfl, by simpa using flag, rfl, (List.cons.inj first).2.symm⟩
      · obtain ⟨before, after, rfl, unescaped, rfl, rfl⟩ := (behind found).mp later
        exact .inr ⟨before, after, rfl, by simpa using unescaped,
          by simp [partsFrom, structural], rfl⟩
    · rintro (⟨-, -, rfl, rfl⟩ | ⟨before, after, rfl, unescaped, rfl, rfl⟩)
      · exact ⟨[], rfl, rfl⟩
      · have later := (behind (partsFrom [] 0 before)).mpr
          ⟨before, after, rfl, by simpa using unescaped, rfl, rfl⟩
        exact ⟨.pound :: partsFrom [] 0 before, congrArg (LiteralPart.pound :: ·) later,
          by simp [partsFrom, structural]⟩
  | case5 segment escapes character rest other structural escaped inductionHypothesis =>
    have behind (front : List LiteralPart) :=
      @inductionHypothesis (read ++ [character]) front (by simpa using proper) (by simp [other])
    have unnumbered : (read ++ []).getLast? = some '\\' := by simpa using flag.mpr escaped
    rw [prepend_eq_append_pound_iff, exists_cut_cons_iff]
    constructor
    · rintro ⟨found, later, rfl⟩
      obtain ⟨before, after, rfl, unescaped, rfl, rfl⟩ := (behind found).mp later
      exact .inr ⟨before, after, rfl, by simpa using unescaped,
        by simp [partsFrom, other, structural, escaped], rfl⟩
    · rintro (⟨-, unescaped, -⟩ | ⟨before, after, rfl, unescaped, rfl, rfl⟩)
      · exact absurd unnumbered unescaped
      · exact ⟨partsFrom [character] 0 before,
          (behind _).mpr ⟨before, after, rfl, by simpa using unescaped, rfl, rfl⟩,
          by simp [partsFrom, other, structural, escaped]⟩

/-- The numbers among the parts of a run of literal text are the `#` of the run that no backslash
stands before. -/
theorem parts_eq_append_pound_iff {run : List Char} (proper : IsLiteralRun run)
    {front back : List LiteralPart} :
    parts run = front ++ .pound :: back ↔
      ∃ before after, run = before ++ '#' :: after ∧ before.getLast? ≠ some '\\' ∧
        parts before = front ∧ parts after = back :=
  @partsFrom_eq_append_pound_iff [] [] run 0 front back proper (by simp)

/-! ## The parts of a run -/

/-- What the rule says of the parts of a run of literal text. -/
structure FollowsRule (run : List Char) (found : List LiteralPart) : Prop where
  /-- The numbers are the `#` that no backslash stands before, in their order. -/
  numbers : ∀ front back, found = front ++ .pound :: back ↔
    ∃ before after, run = before ++ '#' :: after ∧ before.getLast? ≠ some '\\' ∧
      parts before = front ∧ parts after = back
  shows : characters found = shown run
  /-- Joined, with `#` for the number, the parts are what the rule leaves of the run. -/
  joined : rendered "" found = (shown run).map (·.getD '#')
  ordered : (rendered "" found).Sublist run
  /-- Nothing but backslashes goes. -/
  others : (rendered "" found).filter (· ≠ '\\') = run.filter (· ≠ '\\')
  merged : IsMerged found
  filled : run ≠ [] → found ≠ []

theorem followsRule_parts {run : List Char} (proper : IsLiteralRun run) :
    FollowsRule run (parts run) := by
  have shows := characters_parts proper
  have joined : rendered "" (parts run) = (shown run).map (·.getD '#') := by
    rw [rendered_eq_map_characters, shows]
  obtain ⟨ordered, others⟩ := sublist_shownFrom true run
  exact {
    numbers := fun front back => parts_eq_append_pound_iff proper
    shows
    joined
    ordered := by rwa [joined]
    others := by rwa [joined]
    merged := isMerged_partsFrom [] 0 run
    filled := fun nonempty none => nonempty (partsFrom_eq_nil_iff.mp none).2 }

/-- Backslashes at the beginning and behind a number go; of the others a single one goes. -/
example : rendered "" (parts "\\\\\x7b#\\\\#a\\#b\\\\\x7dc\\".toList) =
    "\x7b##a#b\\\\\x7dc\\".toList := by cbv

end MessageTemplate.Literal
