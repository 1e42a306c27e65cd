import Mathlib
import MessageTemplate.Json.Reader

/-!
# Documents that were read

What sorting does to members: the last member of a name stays, and no name stands twice. Every
object of a document that was read is sorted in this way. The reader of documents works on a
stack, so this is shown of each lexeme that it reads, for what it holds and what it delivers.
-/

namespace MessageTemplate.Json

variable {α : Type}

/-! ## Sorted members -/

/-- Members stand in the order of their names, one to a name. -/
def SortedMembers (members : List (String × α)) : Prop :=
  members.Pairwise fun first second => first.1 < second.1

instance (members : List (String × α)) : Decidable (SortedMembers members) :=
  inferInstanceAs (Decidable (members.Pairwise fun first second => first.1 < second.1))

theorem sortedMembers_cons_iff {member : String × α} {members : List (String × α)} :
    SortedMembers (member :: members) ↔
      (∀ later ∈ members, member.1 < later.1) ∧ SortedMembers members :=
  List.pairwise_cons

theorem SortedMembers.nodup_names {members : List (String × α)} (sorted : SortedMembers members) :
    (members.map Prod.fst).Nodup :=
  List.pairwise_map.mpr (sorted.imp fun less => ne_of_lt less)

/-- Inserting a member takes away what stood under its name, and nothing else. -/
theorem SortedMembers.mem_insertMember_iff {members : List (String × α)}
    (sorted : SortedMembers members) (name : String) (value : α) (member : String × α) :
    member ∈ insertMember name value members ↔
      member = (name, value) ∨ member.1 ≠ name ∧ member ∈ members := by
  induction members with
  | nil => simp [insertMember]
  | cons head members ih =>
    obtain ⟨other, current⟩ := head
    obtain ⟨after, rest⟩ := sortedMembers_cons_iff.mp sorted
    have ne_of_mem : ∀ member ∈ members, name ≤ other → member.1 ≠ name :=
      fun member mem le => ne_of_gt (lt_of_le_of_lt le (after member mem))
    rw [insertMember]
    split_ifs with same less
    · subst same
      grind
    · grind
    · rw [List.mem_cons, ih rest]
      grind

theorem SortedMembers.insertMember {members : List (String × α)} (sorted : SortedMembers members)
    (name : String) (value : α) : SortedMembers (insertMember name value members) := by
  induction members with
  | nil => exact List.pairwise_singleton _ _
  | cons head members ih =>
    obtain ⟨other, current⟩ := head
    obtain ⟨after, rest⟩ := sortedMembers_cons_iff.mp sorted
    rw [Json.insertMember]
    split_ifs with same less
    · subst same
      exact sortedMembers_cons_iff.mpr ⟨after, rest⟩
    · refine sortedMembers_cons_iff.mpr ⟨fun member mem => ?_, sorted⟩
      rcases List.mem_cons.mp mem with rfl | mem
      · exact less
      · exact less.trans (after member mem)
    · refine sortedMembers_cons_iff.mpr ⟨fun member mem => ?_, ih rest⟩
      rcases (rest.mem_insertMember_iff name value member).mp mem with rfl | ⟨-, mem⟩
      · exact lt_of_le_of_ne (not_lt.mp less) (Ne.symm same)
      · exact after member mem

theorem sortMembers_concat (members : List (String × α)) (last : String × α) :
    sortMembers (members ++ [last]) = insertMember last.1 last.2 (sortMembers members) := by
  simp [sortMembers]

theorem sortedMembers_sortMembers (members : List (String × α)) :
    SortedMembers (sortMembers members) := by
  induction members using List.reverseRecOn with
  | nil => exact List.Pairwise.nil
  | append_singleton members last ih =>
    rw [sortMembers_concat]
    exact ih.insertMember last.1 last.2

/-- The last member of a name stays. -/
theorem mem_sortMembers_iff (members : List (String × α)) (member : String × α) :
    member ∈ sortMembers members ↔ ∃ before after,
      members = before ++ member :: after ∧ ∀ later ∈ after, later.1 ≠ member.1 := by
  induction members using List.reverseRecOn with
  | nil => simp [sortMembers]
  | append_singleton members last ih =>
    rw [sortMembers_concat, (sortedMembers_sortMembers members).mem_insertMember_iff, ih]
    constructor
    · rintro (rfl | ⟨other, before, after, rfl, others⟩)
      · exact ⟨members, [], rfl, by simp⟩
      · refine ⟨before, after ++ [last], by simp, fun later mem => ?_⟩
        rcases List.mem_append.mp mem with mem | mem
        · exact others later mem
        · rw [List.mem_singleton.mp mem]
          exact other.symm
    · rintro ⟨before, after, split, others⟩
      -- The member is the new one if nothing stands behind it, and else it stood there before.
      induction after using List.reverseRecOn with
      | nil => exact .inl (List.append_singleton_inj.mp split).2.symm
      | append_singleton after final _ =>
        rw [← List.cons_append, ← List.append_assoc] at split
        obtain ⟨rfl, rfl⟩ := List.append_singleton_inj.mp split
        exact .inr ⟨(others last (by simp)).symm, before, after, rfl,
          fun later mem => others later (List.mem_append_left _ mem)⟩

/-- The names of members stay, each once. -/
theorem names_sortMembers_perm (members : List (String × α)) :
    ((sortMembers members).map Prod.fst).Perm (members.map Prod.fst).dedup := by
  refine (List.perm_ext_iff_of_nodup (sortedMembers_sortMembers members).nodup_names
    (List.nodup_dedup _)).mpr fun name => ?_
  rw [List.mem_dedup]
  induction members using List.reverseRecOn with
  | nil => rfl
  | append_singleton members last ih =>
    have mem_iff := (sortedMembers_sortMembers members).mem_insertMember_iff last.1 last.2
    simp only [sortMembers_concat, List.mem_map, mem_iff, List.mem_append] at ih ⊢
    grind

/-- All members stay just if their names are distinct. -/
theorem length_sortMembers_eq_iff (members : List (String × α)) :
    (sortMembers members).length = members.length ↔ (members.map Prod.fst).Nodup := by
  have lengths : (sortMembers members).length = (members.map Prod.fst).dedup.length := by
    simpa using (names_sortMembers_perm members).length_eq
  rw [lengths]
  constructor
  · intro equal
    have whole := (List.dedup_sublist (members.map Prod.fst)).eq_of_length (by simpa using equal)
    rw [← whole]
    exact List.nodup_dedup _
  · intro distinct
    rw [distinct.dedup, List.length_map]

/-- Members of distinct names are only put in order. -/
theorem sortMembers_perm {members : List (String × α)} (distinct : (members.map Prod.fst).Nodup) :
    (sortMembers members).Perm members := by
  have nodup : (sortMembers members).Nodup :=
    List.Nodup.of_map _ (sortedMembers_sortMembers members).nodup_names
  have kept : sortMembers members ⊆ members := by
    intro member mem
    obtain ⟨before, after, split, -⟩ := (mem_sortMembers_iff members member).mp mem
    simp [split]
  exact (List.subperm_of_subset nodup kept).perm_of_length_le
    ((length_sortMembers_eq_iff members).mpr distinct).ge

/-! ## Sorted documents -/

/-- The members of each object inside a document are sorted. -/
inductive Sorted : Json → Prop where
  | null : Sorted .null
  | bool (value : Bool) : Sorted (.bool value)
  | number (value : Number) : Sorted (.number value)
  | string (value : String) : Sorted (.string value)
  | array {items : List Json} (each : ∀ item ∈ items, Sorted item) : Sorted (.array items)
  | object {members : List (String × Json)} (sorted : SortedMembers members)
      (each : ∀ member ∈ members, Sorted member.2) : Sorted (.object members)

/-- What an open list or object holds so far is sorted. -/
def Frame.Sorted : Frame → Prop
  | .array items => ∀ item ∈ items, item.Sorted
  | .object members _ => ∀ member ∈ members, member.2.Sorted

/-- A complete document is sorted. -/
def Place.Sorted : Place → Prop
  | .complete document => document.Sorted
  | _ => True

namespace Progress

/-- What was read so far is sorted. -/
structure Sorted (progress : Progress) : Prop where
  stack : ∀ frame ∈ progress.stack, frame.Sorted
  place : progress.place.Sorted

variable {stack : List Frame} {lexeme : Lexeme} {progress next : Progress} {maxDepth : Nat}

theorem sorted_start : start.Sorted := ⟨by simp [start], trivial⟩

theorem sorted_deliver {value : Json} (sorted : value.Sorted)
    (frames : ∀ frame ∈ stack, frame.Sorted) : (deliver value stack).Sorted := by
  match stack with
  | [] => exact ⟨frames, sorted⟩
  | .array items :: stack =>
    obtain ⟨held, rest⟩ := List.forall_mem_cons.mp frames
    exact ⟨List.forall_mem_cons.mpr ⟨List.forall_mem_cons.mpr ⟨sorted, held⟩, rest⟩, trivial⟩
  | .object members name :: stack =>
    obtain ⟨held, rest⟩ := List.forall_mem_cons.mp frames
    exact ⟨List.forall_mem_cons.mpr ⟨List.forall_mem_cons.mpr ⟨sorted, held⟩, rest⟩, trivial⟩

theorem sorted_beginValue (frames : ∀ frame ∈ stack, frame.Sorted)
    (step : beginValue maxDepth stack lexeme = some next) : next.Sorted := by
  have opened (frame : Frame) (place : Place) (held : frame.Sorted) (sorted : place.Sorted)
      (step : (if stack.length < maxDepth then some (Progress.mk (frame :: stack) place)
        else none) = some next) : next.Sorted := by
    obtain ⟨-, reached⟩ := Option.ite_none_right_eq_some.mp step
    cases reached
    exact ⟨List.forall_mem_cons.mpr ⟨held, frames⟩, sorted⟩
  unfold beginValue at step
  split at step
  · exact opened (.object [] "") .firstName (by simp [Frame.Sorted]) trivial step
  · exact opened (.array []) .firstItem (by simp [Frame.Sorted]) trivial step
  · cases step
    exact sorted_deliver (.string _) frames
  · cases step
    exact sorted_deliver (.number _) frames
  · cases step
    exact sorted_deliver .null frames
  · cases step
    exact sorted_deliver (.bool true) frames
  · cases step
    exact sorted_deliver (.bool false) frames
  · cases step

/-- The end of an object sorts its members. -/
theorem sorted_close (frames : ∀ frame ∈ stack, frame.Sorted)
    (step : close lexeme stack = some next) : next.Sorted := by
  unfold close at step
  split at step
  · cases step
    obtain ⟨held, rest⟩ := List.forall_mem_cons.mp frames
    exact sorted_deliver (.array fun item mem => held item (List.mem_reverse.mp mem)) rest
  · cases step
    obtain ⟨held, rest⟩ := List.forall_mem_cons.mp frames
    refine sorted_deliver (.object (sortedMembers_sortMembers _) fun member mem => ?_) rest
    obtain ⟨before, after, split, -⟩ := (mem_sortMembers_iff _ member).mp mem
    exact held member (List.mem_reverse.mp (by simp [split]))
  · cases step

theorem sorted_beginMember (frames : ∀ frame ∈ stack, frame.Sorted)
    (step : beginMember stack lexeme = some next) : next.Sorted := by
  unfold beginMember at step
  split at step
  · split at step
    · cases step
      obtain ⟨held, rest⟩ := List.forall_mem_cons.mp frames
      exact ⟨List.forall_mem_cons.mpr ⟨held, rest⟩, trivial⟩
    · cases step
  · cases step

theorem sorted_separate (frames : ∀ frame ∈ stack, frame.Sorted)
    (step : separate stack lexeme = some next) : next.Sorted := by
  unfold separate at step
  split at step
  · split at step
    · cases step
      exact ⟨frames, trivial⟩
    · cases step
      exact ⟨frames, trivial⟩
    · cases step
  · exact sorted_close frames step

/-- What one lexeme adds to what was read is sorted. -/
theorem Sorted.step (sorted : progress.Sorted)
    (step : step maxDepth progress lexeme = some next) : next.Sorted := by
  unfold Progress.step at step
  split at step
  · exact sorted_beginValue sorted.stack step
  · split at step
    · exact sorted_close sorted.stack step
    · exact sorted_beginValue sorted.stack step
  · split at step
    · exact sorted_close sorted.stack step
    · exact sorted_beginMember sorted.stack step
  · exact sorted_beginMember sorted.stack step
  · split at step
    · cases step
      exact ⟨sorted.stack, trivial⟩
    · cases step
  · exact sorted_separate sorted.stack step
  · cases step

/-- What any number of lexemes add is sorted. -/
theorem Sorted.steps (sorted : progress.Sorted) {lexemes : List Lexeme}
    (steps : lexemes.foldlM (Progress.step maxDepth) progress = some next) : next.Sorted := by
  induction lexemes generalizing progress with
  | nil =>
    cases steps
    exact sorted
  | cons lexeme lexemes ih =>
    obtain ⟨reached, first, rest⟩ := Option.bind_eq_some_iff.mp steps
    exact ih (sorted.step first) rest

end Progress

/-- A document that was read is sorted. -/
theorem sorted_of_ofText? {text : String} {document : Json} (read : ofText? text = some document) :
    document.Sorted := by
  obtain ⟨lexemes, -, read⟩ := Option.bind_eq_some_iff.mp read
  unfold ofLexemes? at read
  split at read
  next stack reached steps =>
    cases read
    exact (Progress.sorted_start.steps steps).place
  next => cases read

/-! ## Leaves -/

mutual

/-- The leaves of a document, that is what in it is no object, each with the names on the way
to it. -/
def leaves : Json → List (List String × Json)
  | .object members => memberLeaves members
  | document => [([], document)]

/-- The leaves of an object's members, member after member. -/
def memberLeaves : List (String × Json) → List (List String × Json)
  | [] => []
  | (name, document) :: members =>
    (leaves document).map (fun leaf => (name :: leaf.1, leaf.2)) ++ memberLeaves members

end

/-- The way to a leaf begins with a member's name. -/
theorem name_of_mem_memberLeaves {members : List (String × Json)} {leaf : List String × Json}
    (mem : leaf ∈ memberLeaves members) :
    ∃ member ∈ members, ∃ path, leaf.1 = member.1 :: path := by
  induction members with
  | nil => cases mem
  | cons member members ih =>
    rcases List.mem_append.mp mem with mem | mem
    · obtain ⟨inner, -, rfl⟩ := List.mem_map.mp mem
      exact ⟨member, List.mem_cons_self, inner.1, rfl⟩
    · obtain ⟨other, mem, path, path_eq⟩ := ih mem
      exact ⟨other, List.mem_cons_of_mem _ mem, path, path_eq⟩

mutual

/-- No two leaves of a sorted document are reached by the same names. -/
theorem Sorted.nodup_paths : {document : Json} → document.Sorted →
    (document.leaves.map Prod.fst).Nodup
  | .object _, .object sorted each => nodup_memberPaths sorted each
  | .null, _ | .bool _, _ | .number _, _ | .string _, _ | .array _, _ =>
    List.nodup_singleton _

theorem nodup_memberPaths : {members : List (String × Json)} → SortedMembers members →
    (∀ member ∈ members, member.2.Sorted) → ((memberLeaves members).map Prod.fst).Nodup
  | [], _, _ => List.nodup_nil
  | (name, document) :: members, sorted, each => by
    obtain ⟨after, rest⟩ := sortedMembers_cons_iff.mp sorted
    obtain ⟨first, others⟩ := List.forall_mem_cons.mp each
    rw [memberLeaves, List.map_append, List.map_map, List.nodup_append']
    refine ⟨?_, nodup_memberPaths rest others, ?_⟩
    · have paths := first.nodup_paths.map (List.cons_injective : Function.Injective (name :: ·))
      rwa [List.map_map] at paths
    · rintro path here later
      obtain ⟨leaf, -, rfl⟩ := List.mem_map.mp here
      obtain ⟨other, mem, same⟩ := List.mem_map.mp later
      obtain ⟨member, mem, path, path_eq⟩ := name_of_mem_memberLeaves mem
      rw [same] at path_eq
      exact ne_of_lt (after member mem) (List.cons.inj path_eq).1

end

end MessageTemplate.Json
