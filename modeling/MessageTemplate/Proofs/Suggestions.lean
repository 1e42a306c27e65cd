import MessageTemplate.Proofs.EditDistance
import MessageTemplate.Proofs.Registration
import MessageTemplate.Template.Help
import MessageTemplate.Template.Parser

/-!
# Which names are suggested

Of the candidates that lie near enough to a name the first three are suggested, in the order of
their distances and of their texts. This order tells any two texts apart, so the suggestions do not
depend on the order of the candidates; neither does the hint for a fault depend on the order in
which kinds were registered, or are listed.
-/

namespace MessageTemplate

namespace Suggestion

open EditDistance

/-! ## The order of candidates -/

/-- The distance of a candidate from a name in lower case. -/
def distance (name candidate : String) : Nat :=
  editDistance (lowerCase name).toList candidate.toList

/-- Nearer to a name, or as near and not behind in the order of texts. -/
def Precedes (name first second : String) : Prop :=
  distance name first < distance name second ∨
    distance name first = distance name second ∧ first ≤ second

theorem Precedes.antisymm {name first second : String} (before : Precedes name first second)
    (behind : Precedes name second first) : first = second := by
  rcases before with less | ⟨same, le⟩
  · rcases behind with greater | ⟨same, -⟩ <;> omega
  · rcases behind with greater | ⟨-, ge⟩
    · omega
    · exact String.le_antisymm le ge

theorem Scored.precedes_iff {left right : Scored} :
    left.precedes right = true ↔
      left.distance < right.distance ∨
        left.distance = right.distance ∧ left.candidate ≤ right.candidate := by
  simp [precedes]

theorem Scored.precedes_trans (first second third : Scored) (before : first.precedes second = true)
    (behind : second.precedes third = true) : first.precedes third = true := by
  rw [precedes_iff] at before behind ⊢
  rcases before with less | ⟨same, le⟩
  · rcases behind with less' | ⟨same', -⟩ <;> exact .inl (by omega)
  · rcases behind with less' | ⟨same', le'⟩
    · exact .inl (by omega)
    · exact .inr ⟨same.trans same', String.le_trans le le'⟩

theorem Scored.precedes_total (first second : Scored) :
    (first.precedes second || second.precedes first) = true := by
  rw [Bool.or_eq_true, precedes_iff, precedes_iff]
  rcases String.le_total first.candidate second.candidate with le | le <;> grind

/-! ## Letters and bytes -/

theorem utf8Size_toLower (character : Char) : character.toLower.utf8Size = character.utf8Size := by
  have single {character : Char} (ascii : character.val ≤ 127) : character.utf8Size = 1 :=
    if_pos ascii
  unfold Char.toLower
  split
  next upper =>
    obtain ⟨-, most⟩ := upper
    rw [single, single]
    · exact UInt32.le_trans most (by decide)
    · have shift : 'a'.val - 'A'.val = 32 := by decide
      have last : 'Z'.val = 90 := by decide
      simp only [last, UInt32.le_iff_toNat_le, UInt32.reduceToNat] at most
      simp only [shift, UInt32.le_iff_toNat_le, UInt32.toNat_add, UInt32.reduceToNat]
      omega
  next => rfl

/-- A name in lower case has as many bytes. -/
theorem utf8ByteSize_lowerCase (name : String) :
    (lowerCase name).utf8ByteSize = name.utf8ByteSize := by
  have size (characters : List Char) :
      String.utf8Len (characters.map Char.toLower) = String.utf8Len characters := by
    induction characters with
    | nil => rfl
    | cons character characters inductionHypothesis =>
      rw [List.map_cons, String.utf8Len_cons, String.utf8Len_cons, inductionHypothesis,
        utf8Size_toLower]
  rw [← String.ofList_toList (s := lowerCase name), ← String.ofList_toList (s := name),
    String.utf8ByteSize_ofList, String.utf8ByteSize_ofList, String.ofList_toList, lowerCase,
    String.toList_map, size]

/-! ## Near candidates in order -/

/-- How far a suggestion may lie from a name. -/
def reach (name : String) : Nat := if 3 < name.utf8ByteSize then 2 else 1

theorem tolerance_lowerCase (name : String) : tolerance (lowerCase name) = reach name := by
  rw [tolerance, utf8ByteSize_lowerCase, reach]

/-- The candidates near enough to a name in their order. -/
def ranked (name : String) (candidates : List String) : List String :=
  ((eligible name candidates).mergeSort Scored.precedes).map (·.candidate)

theorem suggest_eq_take (name : String) (candidates : List String) :
    suggest name candidates = (ranked name candidates).take 3 := by
  rw [suggest, ranked, List.map_take]

theorem eligible_eq (name : String) (candidates : List String) :
    eligible name candidates =
      (candidates.filter fun candidate => distance name candidate ≤ reach name).map
        fun candidate => ⟨distance name candidate, candidate⟩ := by
  rw [eligible, List.filter_map, tolerance_lowerCase]
  rfl

theorem ranked_perm (name : String) (candidates : List String) :
    (ranked name candidates).Perm
      (candidates.filter fun candidate => distance name candidate ≤ reach name) := by
  have sorted := (List.mergeSort_perm (eligible name candidates) Scored.precedes).map
    (·.candidate)
  rw [eligible_eq, List.map_map] at sorted
  simpa [ranked, eligible_eq, Function.comp_def] using sorted

theorem pairwise_ranked (name : String) (candidates : List String) :
    (ranked name candidates).Pairwise (Precedes name) := by
  have scored : ∀ scored ∈ (eligible name candidates).mergeSort Scored.precedes,
      scored.distance = distance name scored.candidate := by
    intro scored member
    rw [List.mem_mergeSort, eligible_eq] at member
    obtain ⟨candidate, -, rfl⟩ := List.mem_map.mp member
    rfl
  have sorted := List.pairwise_mergeSort Scored.precedes_trans Scored.precedes_total
    (eligible name candidates)
  rw [ranked, List.pairwise_map]
  refine sorted.imp_of_mem fun first second before => ?_
  rw [Scored.precedes_iff, scored _ first, scored _ second] at before
  exact before

/-- The order of the candidates does not matter. -/
theorem ranked_eq_of_perm {name : String} {candidates others : List String}
    (reordered : others.Perm candidates) : ranked name others = ranked name candidates := by
  have same : (ranked name others).Perm (ranked name candidates) :=
    ((ranked_perm name others).trans (reordered.filter _)).trans (ranked_perm name candidates).symm
  exact same.eq_of_pairwise (fun _ _ _ _ => Precedes.antisymm) (pairwise_ranked name others)
    (pairwise_ranked name candidates)

/-- What a choice among the candidates for a name has to be, if the eligible candidates that are not
chosen are the `rest`. -/
structure IsBest (name : String) (candidates chosen rest : List String) : Prop where
  /-- The eligible candidates are divided, each as often as it occurs. -/
  perm : (chosen ++ rest).Perm
    (candidates.filter fun candidate => distance name candidate ≤ reach name)
  length_le : chosen.length ≤ 3
  distance_le : ∀ candidate ∈ chosen, distance name candidate ≤ reach name
  sorted : chosen.Pairwise (Precedes name)
  precedes_rest : ∀ candidate ∈ chosen, ∀ other ∈ rest, Precedes name candidate other
  /-- Where there is room for more, nothing is left out. -/
  complete : chosen.length < 3 → rest = []

theorem isBest_suggest (name : String) (candidates : List String) :
    IsBest name candidates (suggest name candidates) ((ranked name candidates).drop 3) := by
  rw [suggest_eq_take]
  have whole := List.take_append_drop 3 (ranked name candidates)
  have order := pairwise_ranked name candidates
  rw [← whole, List.pairwise_append] at order
  obtain ⟨sorted, -, before⟩ := order
  have perm := ranked_perm name candidates
  rw [← whole] at perm
  exact {
    perm := perm
    length_le := List.length_take_le 3 _
    distance_le := fun candidate member => by
      simpa using (List.mem_filter.mp (perm.mem_iff.mp (List.mem_append_left _ member))).2
    sorted := sorted
    precedes_rest := before
    complete := fun room => List.drop_eq_nil_of_le (by
      rw [List.length_take] at room
      omega) }

end Suggestion

/-- A hint does not depend on the order in which kinds are listed. -/
theorem ParseError.help?_eq_of_perm (error : ParseError) {knownKinds others : List String}
    (reordered : others.Perm knownKinds) : error.help? others = error.help? knownKinds := by
  unfold help?
  split
  · rw [Suggestion.suggest_eq_take, Suggestion.suggest_eq_take,
      Suggestion.ranked_eq_of_perm reordered]
  · rfl

namespace Suggestion

open EditDistance

/-- The distance of a candidate is the least number of edits that turn the name, in lower case, into
it. The suggestions are at most three candidates of the least distances, none of them too far, in
the order of their distances and texts, and all eligible ones if there are fewer than three. Any
order of the candidates gives the same suggestions, and any order of registering kinds and of
listing them the same hint for a fault. -/
theorem suggest_best (name : String) (candidates : List String) :
    (∀ candidate, IsLeast {count | Edits count (lowerCase name).toList candidate.toList}
      (distance name candidate)) ∧
      (∃ rest, IsBest name candidates (suggest name candidates) rest) ∧
      (∀ others, others.Perm candidates → suggest name others = suggest name candidates) ∧
      ∀ (error : ParseError) (π : Type) (calls others : List (String × Kind π)) (maxDepth : Nat)
        (listed : List String), others.Perm calls →
          listed.Perm (KindRegistry.empty.afterCalls others).names →
            error.help? (builtinKinds ++ listed) =
              error.help? (Parser.knownKinds ⟨KindRegistry.empty.afterCalls calls, maxDepth⟩) := by
  refine ⟨fun candidate => isLeast_editDistance _ _, ⟨_, isBest_suggest name candidates⟩,
    fun others reordered => ?_, fun error π calls others maxDepth listed reordered listing => ?_⟩
  · rw [suggest_eq_take, suggest_eq_take, ranked_eq_of_perm reordered]
  · have names := listing.trans (KindRegistry.names_afterCalls_perm reordered)
    exact error.help?_eq_of_perm (names.append_left builtinKinds)

end Suggestion

end MessageTemplate
