import Mathlib
import MessageTemplate.Kind.Registry

/-!
# Sequences of registrations

What a registry holds after any calls that register kinds. A refused call leaves the registry
as it is, and no call replaces a kind or takes a reserved name.
-/

namespace MessageTemplate.KindRegistry

variable {π : Type}

/-- The registry after a call of `register`, accepted or refused. -/
def afterCall (registry : KindRegistry π) (call : String × Kind π) : KindRegistry π :=
  match registry.register call.1 call.2 with
  | .ok extended => extended
  | .error _ => registry

/-- The registry after calls of `register` in their order. -/
def afterCalls (registry : KindRegistry π) (calls : List (String × Kind π)) : KindRegistry π :=
  calls.foldl afterCall registry

/-- A call either is refused for its name and changes nothing, or it adds a kind of a new name that
is not reserved. -/
theorem afterCall_cases (registry : KindRegistry π) (call : String × Kind π) :
    (call.1 ∈ reservedKinds ∨ registry.contains call.1 = true) ∧
        registry.afterCall call = registry ∨
      call.1 ∉ reservedKinds ∧ registry.contains call.1 = false ∧
        registry.afterCall call = ⟨registry.entries ++ [call]⟩ := by
  unfold afterCall register
  by_cases reserved : call.1 ∈ reservedKinds
  · left
    simp [reserved]
  by_cases taken : registry.contains call.1 = true
  · left
    simp [taken]
  · right
    refine ⟨reserved, by simpa using taken, ?_⟩
    simp [reserved, taken]

/-- Calls of `register` add no reserved name. -/
theorem unreserved_afterCalls {registry : KindRegistry π}
    (unreserved : ∀ name ∈ registry.names, name ∉ reservedKinds) (calls : List (String × Kind π)) :
    ∀ name ∈ (registry.afterCalls calls).names, name ∉ reservedKinds := by
  induction calls generalizing registry with
  | nil => exact unreserved
  | cons call calls inductionHypothesis =>
    refine inductionHypothesis ?_
    rcases registry.afterCall_cases call with ⟨-, same⟩ | ⟨free, -, extended⟩
    · rw [same]
      exact unreserved
    · rw [extended]
      intro name member
      rw [names, List.map_append] at member
      rcases List.mem_append.mp member with before | added
      · exact unreserved name before
      · obtain rfl : name = call.1 := by simpa using added
        exact free

theorem mem_names_of_get? {registry : KindRegistry π} {name : String} {kind : Kind π}
    (known : registry.get? name = some kind) : name ∈ registry.names := by
  obtain ⟨before, after, same, -⟩ := List.lookup_eq_some_iff.mp known
  simp [names, same]

theorem contains_iff_mem_names (registry : KindRegistry π) (name : String) :
    registry.contains name = true ↔ name ∈ registry.names := by
  rw [contains, get?, List.lookup_isSome_iff, names, List.mem_map]
  refine exists_congr fun entry => and_congr_right fun _ => ?_
  rw [beq_iff_eq, eq_comm]

/-- Calls of `register` add the names that are not reserved. -/
theorem mem_names_afterCalls_iff (registry : KindRegistry π) (calls : List (String × Kind π))
    (name : String) :
    name ∈ (registry.afterCalls calls).names ↔
      name ∈ registry.names ∨ name ∈ calls.map Prod.fst ∧ name ∉ reservedKinds := by
  induction calls generalizing registry with
  | nil => simp [afterCalls]
  | cons call calls inductionHypothesis =>
    have next : registry.afterCalls (call :: calls) =
        (registry.afterCall call).afterCalls calls := rfl
    rw [next, inductionHypothesis, List.map_cons, List.mem_cons]
    rcases registry.afterCall_cases call with ⟨refused, same⟩ | ⟨free, -, extended⟩
    · rw [same]
      have known : name = call.1 → name ∉ reservedKinds → name ∈ registry.names := by
        rintro rfl free
        exact (registry.contains_iff_mem_names _).mp (refused.resolve_left free)
      tauto
    · have added : (registry.afterCall call).names = registry.names ++ [call.1] := by
        simp [extended, names]
      rw [added, List.mem_append, List.mem_singleton]
      have unreserved : name = call.1 → name ∉ reservedKinds := by
        rintro rfl
        exact free
      tauto

/-- No name is registered twice. -/
theorem nodup_names_afterCalls {registry : KindRegistry π} (distinct : registry.names.Nodup)
    (calls : List (String × Kind π)) : (registry.afterCalls calls).names.Nodup := by
  induction calls generalizing registry with
  | nil => exact distinct
  | cons call calls inductionHypothesis =>
    refine inductionHypothesis ?_
    rcases registry.afterCall_cases call with ⟨-, same⟩ | ⟨-, new, extended⟩
    · rw [same]
      exact distinct
    · have added : (registry.afterCall call).names = registry.names ++ [call.1] := by
        simp [extended, names]
      rw [added, List.nodup_append']
      refine ⟨distinct, List.nodup_singleton _, ?_⟩
      rw [List.disjoint_singleton, ← contains_iff_mem_names, new]
      exact Bool.false_ne_true

/-- Which names are registered does not depend on the order of the calls. -/
theorem names_afterCalls_perm {calls others : List (String × Kind π)}
    (reordered : others.Perm calls) :
    (empty.afterCalls others).names.Perm (empty.afterCalls calls).names := by
  have nothing : (empty : KindRegistry π).names.Nodup := List.nodup_nil
  refine (List.perm_ext_iff_of_nodup (nodup_names_afterCalls nothing _)
    (nodup_names_afterCalls nothing _)).mpr fun name => ?_
  rw [mem_names_afterCalls_iff, mem_names_afterCalls_iff, (reordered.map Prod.fst).mem_iff]

/-- A registered kind keeps the halves of its registration, and also the lack of one. -/
theorem get?_afterCall_of_get? {registry : KindRegistry π} {name : String} {kind : Kind π}
    (known : registry.get? name = some kind) (call : String × Kind π) :
    (registry.afterCall call).get? name = some kind := by
  rcases registry.afterCall_cases call with ⟨-, same⟩ | ⟨-, -, extended⟩
  · rw [same, known]
  · rw [extended, get?, List.lookup_append, ← get?, known, Option.some_or]

theorem get?_afterCalls_of_get? {registry : KindRegistry π} {name : String} {kind : Kind π}
    (known : registry.get? name = some kind) (calls : List (String × Kind π)) :
    (registry.afterCalls calls).get? name = some kind := by
  induction calls generalizing registry with
  | nil => exact known
  | cons call calls inductionHypothesis =>
    exact inductionHypothesis (get?_afterCall_of_get? known call)

/-- A kind that is registered with a parsing half. -/
def Parses (registry : KindRegistry π) (name : String) : Prop :=
  ∃ kind, registry.get? name = some kind ∧ kind.parse?.isSome

/-- What calls of `register` make readable is not reserved. -/
theorem Parses.unreserved {calls : List (String × Kind π)} {name : String}
    (readable : (empty.afterCalls calls).Parses name) : name ∉ reservedKinds := by
  obtain ⟨kind, known, -⟩ := readable
  have nothing : ∀ name ∈ (empty : KindRegistry π).names, name ∉ reservedKinds := by
    simp [empty, names]
  exact unreserved_afterCalls nothing calls name (mem_names_of_get? known)

end MessageTemplate.KindRegistry
