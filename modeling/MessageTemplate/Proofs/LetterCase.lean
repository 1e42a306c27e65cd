import MessageTemplate.Proofs.Suggestions

/-!
# Suggestions and the case of letters

The case of letters is left aside on one side only: the name is taken in lower case, the candidates
as they are. So the case of a name never matters, while a capital of a candidate is a character that
no name has. Two spellings of a candidate that differ in case are told apart by some name, unless
both have too many capitals to be suggested at all. Such a name has a strange character in the place
of each capital of the spelling that has fewer, and where there is no second capital, one more.
-/

namespace MessageTemplate.Suggestion

open EditDistance

theorem lowerCase_lowerCase (name : String) : lowerCase (lowerCase name) = lowerCase name := by
  rw [← String.toList_inj, lowerCase, lowerCase, String.toList_map, String.toList_map,
    List.map_map]
  exact List.map_congr_left fun character _ => character.toLower_toLower_eq_toLower

/-- Names in lower case have no capitals. -/
theorem not_isUpper_of_mem_lowerCase {name : String} :
    ∀ character ∈ (lowerCase name).toList, (!character.isUpper) = true := by
  intro character member
  rw [lowerCase, String.toList_map] at member
  obtain ⟨letter, -, rfl⟩ := List.mem_map.mp member
  simp [Char.isUpper_toLower_eq_false]

/-- The number of capitals of a candidate. -/
def capitals (candidate : String) : Nat := candidate.toList.countP Char.isUpper

theorem length_eq_capitals_add (candidate : String) :
    candidate.toList.length = capitals candidate +
      candidate.toList.countP fun character => !character.isUpper := by
  simpa [capitals] using List.length_eq_countP_add_countP (l := candidate.toList) Char.isUpper

/-- One candidate is suggested if it is near enough. -/
theorem suggest_singleton_eq_nil_iff (name candidate : String) :
    suggest name [candidate] = [] ↔ reach name < distance name candidate := by
  have perm := ranked_perm name [candidate]
  rw [suggest_eq_take, List.take_eq_nil_iff, ← List.perm_nil, perm.congr_left, List.perm_nil,
    List.filter_eq_nil_iff]
  simp

/-- The spelling in lower case is at least as near. -/
theorem distance_lowerCase_le (name candidate : String) :
    distance name (lowerCase candidate) ≤ distance name candidate := by
  have lowered := (alignment_editDistance (lowerCase name).toList candidate.toList).map Char.toLower
  rw [← String.toList_map, ← String.toList_map] at lowered
  have least := lowered.editDistance_le
  have name_eq : (lowerCase name).map Char.toLower = lowerCase name := lowerCase_lowerCase name
  rwa [name_eq] at least

/-- A capital of a candidate is a difference from every name, besides those in length. -/
theorem capitals_le_distance (name candidate : String) :
    capitals candidate ≤ distance name candidate ∧
      (lowerCase name).toList.length + capitals candidate ≤
        distance name candidate + candidate.toList.length := by
  obtain ⟨kept, le, source, target⟩ :=
    (alignment_editDistance (lowerCase name).toList candidate.toList).exists_kept
      not_isUpper_of_mem_lowerCase
  have split := length_eq_capitals_add candidate
  unfold distance
  omega

/-! ## Blurred capitals -/

/-- A character that is no letter. -/
def mark : Char := '𝄞'

/-- A character as it is, with a mark for a capital. -/
def blur (character : Char) : Char := if character.isUpper then mark else character

/-- A candidate made up of two parts, with marks for its capitals and, between the parts, as many
further marks as are missing to two. -/
def blurred (front back : List Char) : String :=
  String.ofList (front.map blur ++
    (List.replicate (2 - (front ++ back).countP Char.isUpper) mark ++ back.map blur))

theorem toLower_blur (character : Char) : (blur character).toLower = blur character := by
  unfold blur
  split
  next => rfl
  next other => exact Char.toLower_eq_of_not_isUpper other

@[simp] theorem lowerCase_blurred (front back : List Char) :
    lowerCase (blurred front back) = blurred front back := by
  rw [← String.toList_inj, lowerCase, blurred, String.toList_map, String.toList_ofList]
  simp [Function.comp_def, toLower_blur, show mark.toLower = mark from rfl]

theorem length_blurred {candidate : String} {front back : List Char}
    (parts : candidate.toList = front ++ back) :
    (blurred front back).toList.length = candidate.toList.length + (2 - capitals candidate) := by
  rw [capitals, blurred, String.toList_ofList, parts]
  simp only [List.length_append, List.length_map, List.length_replicate]
  omega

/-- A blurred capital in front of the further marks is one more of them. -/
theorem drop_blurred {front back : List Char} {capital : Char} (upper : capital.isUpper = true) :
    (blurred (front ++ [capital]) back).toList.drop front.length =
      List.replicate (1 + (2 - (front ++ [capital] ++ back).countP Char.isUpper)) mark ++
        back.map blur := by
  have single : [capital].map blur = List.replicate 1 mark := by simp [blur, upper]
  rw [blurred, String.toList_ofList, List.map_append, single, List.append_assoc,
    ← List.length_map (f := blur), List.drop_left, ← List.append_assoc,
    List.replicate_append_replicate]

theorem mark_mem_blurred (front back : List Char) : mark ∈ (blurred front back).toList := by
  rw [blurred, String.toList_ofList]
  by_cases none : (front ++ back).countP Char.isUpper = 0
  · rw [none]
    simp
  · obtain ⟨capital, member, upper⟩ := List.countP_pos_iff.mp (Nat.pos_of_ne_zero none)
    have blurs : mark ∈ (front ++ back).map blur :=
      List.mem_map.mpr ⟨capital, member, if_pos upper⟩
    rw [List.map_append, List.mem_append] at blurs
    rw [List.mem_append, List.mem_append]
    exact blurs.imp_right .inr

theorem reach_blurred (front back : List Char) : reach (blurred front back) = 2 := by
  have bytes := String.utf8Len_le_of_sublist
    (List.singleton_sublist.mpr (mark_mem_blurred front back))
  have size : String.utf8Len [mark] = 4 := rfl
  rw [size, ← String.utf8ByteSize_ofList, String.ofList_toList] at bytes
  exact if_pos bytes

/-- A candidate is near to what it is when blurred. -/
theorem distance_blurred_le {candidate : String} {front back : List Char}
    (parts : candidate.toList = front ++ back) (few : capitals candidate ≤ 2) :
    distance (blurred front back) candidate ≤ 2 := by
  have added := Alignment.deleted
    (List.replicate (2 - (front ++ back).countP Char.isUpper) mark)
  have alignment := (Alignment.restored Char.isUpper mark front).append
    (added.append (Alignment.restored Char.isUpper mark back))
  rw [List.nil_append, List.length_replicate] at alignment
  rw [capitals, parts, List.countP_append] at few
  rw [distance, lowerCase_blurred, blurred, String.toList_ofList, parts]
  refine alignment.editDistance_le.trans ?_
  rw [List.countP_append]
  omega

/-! ## Telling spellings apart -/

/-- A spelling with more capitals is too far, and for one with as many nothing is to spare. -/
theorem capitals_add_le_distance_blurred {candidate spelling : String} {front back : List Char}
    (parts : candidate.toList = front ++ back) (same : lowerCase candidate = lowerCase spelling) :
    2 - capitals candidate + capitals spelling ≤ distance (blurred front back) spelling := by
  have lengths := congrArg (·.toList.length) same
  simp only [lowerCase, String.toList_map, List.length_map] at lengths
  have differences := (capitals_le_distance (blurred front back) spelling).2
  rw [lowerCase_blurred, length_blurred parts, lengths] at differences
  omega

/-- What is kept of a run and of all behind it begins in the run, unless something is dropped
behind. -/
theorem eq_of_sublist_replicate {first letter : Char} {count : Nat} {rest back : List Char}
    (sublist : (letter :: rest).Sublist (List.replicate count first ++ back))
    (length : back.length = rest.length) : letter = first := by
  obtain ⟨kept, others, parts, run, behind⟩ := List.sublist_append_iff.mp sublist
  cases kept with
  | nil =>
    have shorter := behind.length_le
    rw [← show letter :: rest = others from parts, List.length_cons] at shorter
    omega
  | cons head kept =>
    obtain ⟨rfl, -⟩ := List.cons.inj parts
    exact List.eq_of_mem_replicate (run.subset List.mem_cons_self)

theorem toLower_inj_of_isUpper {left right : Char} (upper : left.isUpper = true)
    (other : right.isUpper = true) (same : left.toLower = right.toLower) : left = right := by
  calc left
    _ = left.toUpper := (Char.toUpper_eq_of_not_isLower (Char.not_isLower_of_isUpper upper)).symm
    _ = left.toLower.toUpper := left.toUpper_toLower_eq_toUpper.symm
    _ = right.toLower.toUpper := by rw [same]
    _ = right.toUpper := right.toUpper_toLower_eq_toUpper
    _ = right := Char.toUpper_eq_of_not_isLower (Char.not_isLower_of_isUpper other)

/-- A place where one spelling has a capital and another the same letter in lower case. -/
structure Lowered (left right : List Char) where
  front : List Char
  capital : Char
  back : List Char
  before : List Char
  after : List Char
  left_eq : left = front ++ capital :: back
  right_eq : right = before ++ capital.toLower :: after
  length_front : front.length = before.length
  length_back : back.length = after.length
  isUpper_capital : capital.isUpper = true

/-- A place behind the first letters. -/
def Lowered.behind {left right : List Char} (first second : Char) (lowered : Lowered left right) :
    Lowered (first :: left) (second :: right) where
  front := first :: lowered.front
  capital := lowered.capital
  back := lowered.back
  before := second :: lowered.before
  after := lowered.after
  left_eq := congrArg (List.cons first) lowered.left_eq
  right_eq := congrArg (List.cons second) lowered.right_eq
  length_front := congrArg Nat.succ lowered.length_front
  length_back := lowered.length_back
  isUpper_capital := lowered.isUpper_capital

/-- Of two spellings the one that has no fewer capitals has one where the other has the letter in
lower case. -/
theorem nonempty_lowered {left right : List Char}
    (same : left.map Char.toLower = right.map Char.toLower) (differ : left ≠ right)
    (fewer : right.countP Char.isUpper ≤ left.countP Char.isUpper) :
    Nonempty (Lowered left right) := by
  induction left generalizing right with
  | nil => exact absurd (List.map_eq_nil_iff.mp same.symm).symm differ
  | cons first left inductionHypothesis =>
    cases right with
    | nil => exact absurd same (List.cons_ne_nil _ _)
    | cons second right =>
      rw [List.map_cons, List.map_cons, List.cons.injEq] at same
      obtain ⟨heads, tails⟩ := same
      have later (ne : left ≠ right) (le : right.countP Char.isUpper ≤ left.countP Char.isUpper) :
          Nonempty (Lowered (first :: left) (second :: right)) :=
        (inductionHypothesis tails ne le).map (.behind first second)
      rw [List.countP_cons, List.countP_cons] at fewer
      cases upper : first.isUpper <;> cases other : second.isUpper
      · have equal : first = second := by
          rwa [Char.toLower_eq_of_not_isUpper (by simp [upper]),
            Char.toLower_eq_of_not_isUpper (by simp [other])] at heads
        subst equal
        exact later (fun equal => differ (by rw [equal])) (by simpa [upper] using fewer)
      -- Here the other spelling has the capital, so in the rest it has fewer.
      · simp only [upper, other, if_true, Bool.false_eq_true, if_false] at fewer
        exact later (fun equal => by subst equal; omega) (by omega)
      · have small : second = first.toLower := by
          rw [heads, Char.toLower_eq_of_not_isUpper (by simp [other])]
        exact ⟨{
          front := []
          capital := first
          back := left
          before := []
          after := right
          left_eq := rfl
          right_eq := by rw [small, List.nil_append]
          length_front := rfl
          length_back := by simpa using congrArg List.length tails
          isUpper_capital := upper }⟩
      · have equal := toLower_inj_of_isUpper upper other heads
        subst equal
        exact later (fun equal => differ (by rw [equal])) (by simpa [upper] using fewer)

/-- A spelling in which a capital of the candidate is a small letter, and which has no fewer
capitals, is too far if this capital is where the marks are. -/
theorem lt_distance_blurred {candidate spelling : String}
    (lowered : Lowered candidate.toList spelling.toList) (few : capitals candidate ≤ 2)
    (fewer : capitals candidate ≤ capitals spelling) :
    2 < distance (blurred (lowered.front ++ [lowered.capital]) lowered.back) spelling := by
  obtain ⟨front, capital, back, before, after, parts, others, lengths, lengths', upper⟩ := lowered
  by_contra! near
  dsimp only at near
  obtain ⟨middle, sublist, matched⟩ :=
    (alignment_editDistance (lowerCase (blurred (front ++ [capital]) back)).toList
      spelling.toList).exists_sublist not_isUpper_of_mem_lowerCase (by
        have parts' : candidate.toList = (front ++ [capital]) ++ back := by simpa using parts
        have length := length_blurred parts'
        have same : candidate.toList.length = spelling.toList.length := by
          rw [parts, others, List.length_append, List.length_append, lengths, List.length_cons,
            List.length_cons, lengths']
        have whole := length_eq_capitals_add spelling
        rw [distance, lowerCase_blurred] at near
        rw [lowerCase_blurred]
        omega)
  -- From the capital on, the name has marks, and what is kept of it the small letter.
  rw [others] at matched
  have suffix := List.forall₂_drop_append middle before _ matched
  obtain ⟨letter, rest, kept, aligned, suffix⟩ := List.forall₂_cons_right_iff.mp suffix
  have small := kept (by simp [Char.isUpper_toLower_eq_false])
  have marks := sublist.drop front.length
  rw [lengths, suffix, ← lengths, lowerCase_blurred, drop_blurred upper] at marks
  have marked := eq_of_sublist_replicate marks
    (by rw [List.length_map, lengths', aligned.length_eq])
  have lower : mark.isLower = true := by
    rw [← marked, small, Char.isLower_toLower_eq_isAlpha, Char.isAlpha, upper, Bool.true_or]
  exact absurd lower (by decide)

/-- Some name is near to the spelling with fewer capitals, if they are few, and not to the other. -/
theorem exists_apart {candidate spelling : String} (same : lowerCase candidate = lowerCase spelling)
    (differ : candidate ≠ spelling) (few : capitals candidate ≤ 2)
    (fewer : capitals candidate ≤ capitals spelling) :
    ∃ name, suggest name [candidate] ≠ [] ∧ suggest name [spelling] = [] := by
  obtain ⟨front, back, parts, far⟩ : ∃ front back, candidate.toList = front ++ back ∧
      2 < distance (blurred front back) spelling := by
    rcases fewer.lt_or_eq with less | equal
    · have parts : candidate.toList = candidate.toList ++ [] := (List.append_nil _).symm
      refine ⟨_, _, parts, ?_⟩
      have least := capitals_add_le_distance_blurred parts same
      omega
    · rw [← String.toList_inj, lowerCase, lowerCase, String.toList_map, String.toList_map] at same
      rw [Ne, ← String.toList_inj] at differ
      obtain ⟨lowered⟩ := nonempty_lowered same differ equal.ge
      have parts : candidate.toList = (lowered.front ++ [lowered.capital]) ++ lowered.back := by
        simpa using lowered.left_eq
      exact ⟨_, _, parts, lt_distance_blurred lowered few fewer⟩
  refine ⟨blurred front back, ?_, ?_⟩
  · rw [Ne, suggest_singleton_eq_nil_iff, reach_blurred, not_lt]
    exact distance_blurred_le parts few
  · rwa [suggest_singleton_eq_nil_iff, reach_blurred]

theorem reach_le_two (name : String) : reach name ≤ 2 := by
  unfold reach
  split <;> omega

theorem suggest_eq_nil_of_lt_capitals {name candidate : String}
    (many : reach name < capitals candidate) : suggest name [candidate] = [] := by
  rw [suggest_singleton_eq_nil_iff]
  exact many.trans_le (capitals_le_distance name candidate).1

/-- The case of a name does not matter. Two spellings of a candidate are suggested alike for a name
just if both or none of them are within its reach. They are for every name just if they do not
differ at all or have more than two capitals each; a candidate with more capitals than differences
are allowed is never suggested. Where a candidate is suggested its spelling in lower case is too. -/
theorem suggest_lowerCase {name renamed candidate spelling : String}
    (called : lowerCase name = lowerCase renamed)
    (spelt : lowerCase candidate = lowerCase spelling) :
    (∀ candidates, suggest name candidates = suggest renamed candidates) ∧
    ((suggest name [candidate] = [] ↔ suggest renamed [spelling] = []) ↔
      (distance name candidate ≤ reach name ↔ distance name spelling ≤ reach name)) ∧
    ((∀ other, suggest other [candidate] = [] ↔ suggest other [spelling] = []) ↔
      candidate = spelling ∨ 2 < capitals candidate ∧ 2 < capitals spelling) ∧
    (reach name < capitals candidate → suggest name [candidate] = []) ∧
    (suggest name [candidate] ≠ [] → suggest name [lowerCase candidate] ≠ []) := by
  have named (candidates : List String) : suggest name candidates = suggest renamed candidates := by
    rw [suggest, suggest, eligible, eligible, called]
  refine ⟨named, ?_, ⟨fun alike => ?_, fun exempt other => ?_⟩, suggest_eq_nil_of_lt_capitals,
    fun near => ?_⟩
  · rw [← named, suggest_singleton_eq_nil_iff, suggest_singleton_eq_nil_iff, ← not_le, ← not_le,
      not_iff_not]
  · by_contra! apart
    obtain ⟨differ, few⟩ := apart
    rcases le_total (capitals candidate) (capitals spelling) with fewer | fewer
    · obtain ⟨other, near, far⟩ := exists_apart spelt differ (by omega) fewer
      exact near ((alike other).mpr far)
    · obtain ⟨other, near, far⟩ := exists_apart spelt.symm differ.symm (by omega) fewer
      exact near ((alike other).mp far)
  · rcases exempt with rfl | ⟨many, many'⟩
    · rfl
    · have most := reach_le_two other
      exact iff_of_true (suggest_eq_nil_of_lt_capitals (by omega))
        (suggest_eq_nil_of_lt_capitals (by omega))
  · rw [Ne, suggest_singleton_eq_nil_iff, not_lt] at near ⊢
    exact (distance_lowerCase_le name candidate).trans near

/-- Some name is told from which spelling of a kind is registered. -/
theorem suggest_lowerCase_capitalized :
    lowerCase "Shout" = lowerCase "shout" ∧
      ¬∀ other, suggest other ["Shout"] = [] ↔ suggest other ["shout"] = [] := by
  have spelt : lowerCase "Shout" = lowerCase "shout" := by cbv
  have called : lowerCase "SHOUT" = lowerCase "shout" := by cbv
  obtain ⟨-, -, alike, -⟩ := suggest_lowerCase called spelt
  exact ⟨spelt, fun all => absurd (alike.mp all) (by decide)⟩

/-- A name is near to itself, but a kind of this name in capitals is not suggested for it. -/
theorem suggest_capitals :
    lowerCase "SHOUT" = "shout" ∧ suggest "shout" ["SHOUT"] = [] ∧
      suggest "shout" ["shout"] = ["shout"] := by
  exact ⟨by cbv, by cbv, by cbv⟩

end MessageTemplate.Suggestion
