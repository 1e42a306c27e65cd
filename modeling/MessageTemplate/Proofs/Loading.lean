import MessageTemplate.Proofs.Catalogs

/-!
# What loading a catalog comes to

A catalog is loaded leaf by leaf, in the order of the ways to the leaves. The first leaf that is
no template ends the loading, and the fault names it; if all are templates, the identifiers of the
catalog are those of the leaves, each with the last template of its identifier. What is loaded here
is any document whose objects are sorted, as they are in all documents that were read.
-/

namespace MessageTemplate

namespace Json

/-! ## The order of leaves -/

mutual

/-- The leaves of a sorted document follow the order of the ways to them. -/
theorem Sorted.pairwise_paths_lt : {document : Json} → document.Sorted →
    (document.leaves.map Prod.fst).Pairwise (· < ·)
  | .object _, .object sorted each => pairwise_memberPaths_lt sorted each
  | .null, _ | .bool _, _ | .number _, _ | .string _, _ | .array _, _ =>
    List.pairwise_singleton _ _

theorem pairwise_memberPaths_lt : {members : List (String × Json)} → SortedMembers members →
    (∀ member ∈ members, member.2.Sorted) →
    ((memberLeaves members).map Prod.fst).Pairwise (· < ·)
  | [], _, _ => List.Pairwise.nil
  | (name, document) :: members, sorted, each => by
    obtain ⟨after, rest⟩ := sortedMembers_cons_iff.mp sorted
    obtain ⟨first, others⟩ := List.forall_mem_cons.mp each
    rw [memberLeaves, List.map_append, List.map_map, List.pairwise_append]
    refine ⟨?_, pairwise_memberPaths_lt rest others, ?_⟩
    · have paths := first.pairwise_paths_lt
      rw [List.pairwise_map] at paths ⊢
      exact paths.imp fun less => List.cons_lt_cons_iff.mpr (.inr ⟨rfl, less⟩)
    · rintro path here later there
      obtain ⟨leaf, -, rfl⟩ := List.mem_map.mp here
      obtain ⟨other, mem, rfl⟩ := List.mem_map.mp there
      obtain ⟨member, mem, path, path_eq⟩ := name_of_mem_memberLeaves mem
      rw [path_eq]
      exact List.cons_lt_cons_iff.mpr (.inl (after member mem))

end

end Json

namespace Catalog

/-! ## Identifiers -/

/-- The names on the way to a leaf with dots between them, but without empty names in front. -/
def dottedPath (path : List String) : String :=
  String.intercalate "." (path.dropWhile (· = ""))

/-- The identifier of a leaf is made of the names on the way to it. -/
theorem identifier_eq_dottedPath (path : List String) : identifier path = dottedPath path := by
  induction path with
  | nil => rfl
  | cons name path inductionHypothesis =>
    by_cases empty : name = ""
    · subst empty
      have start : identifier ("" :: path) = identifier path := rfl
      simpa [start, dottedPath] using inductionHypothesis
    · have written := toList_foldl_memberId path empty
      have start : identifier (name :: path) = path.foldl memberId name := rfl
      rw [start, ← String.toList_inj, written, dottedPath, String.toList_intercalate]
      simp [empty]

/-! ## The first fault -/

/-- Among leaves all are templates, or there is a first one that is none. -/
theorem templates_or_fault (leaves : List (List String × Json)) :
    (∀ leaf ∈ leaves, ∃ template, leaf.2 = .string template) ∨
      ∃ before path document after, leaves = before ++ (path, document) :: after ∧
        (∀ leaf ∈ before, ∃ template, leaf.2 = .string template) ∧
          ∀ template, document ≠ .string template := by
  induction leaves with
  | nil => exact .inl (by simp)
  | cons leaf leaves inductionHypothesis =>
    by_cases text : ∃ template, leaf.2 = .string template
    · rcases inductionHypothesis with all | ⟨before, path, document, after, rfl, templates, fault⟩
      · exact .inl (List.forall_mem_cons.mpr ⟨text, all⟩)
      · exact .inr ⟨leaf :: before, path, document, after, rfl,
          List.forall_mem_cons.mpr ⟨text, templates⟩, fault⟩
    · exact .inr ⟨[], leaf.1, leaf.2, leaves, rfl, by simp, not_exists.mp text⟩

/-- A leaf that is no template ends the loading, whatever stands behind it. -/
theorem foldlM_collectLeaf_of_fault {before after : List (List String × Json)}
    {path : List String} {document : Json}
    (templates : ∀ leaf ∈ before, ∃ template, leaf.2 = .string template)
    (fault : ∀ template, document ≠ .string template) (catalog : Catalog) :
    (before ++ (path, document) :: after).foldlM (collectLeaf "") catalog =
      .error (.notAString (identifier path)) := by
  induction before generalizing catalog with
  | nil =>
    have stopped : collectLeaf "" catalog (path, document) =
        .error (.notAString (identifier path)) := by
      unfold collectLeaf
      split
      · exact absurd ‹_› (fault _)
      · rfl
    rw [List.nil_append, List.foldlM_cons, stopped]
    rfl
  | cons leaf before inductionHypothesis =>
    obtain ⟨⟨template, text⟩, templates⟩ := List.forall_mem_cons.mp templates
    rw [List.cons_append, List.foldlM_cons, collectLeaf, text]
    exact inductionHypothesis templates _

theorem ofJson_of_fault {members : List (String × Json)} {before after : List (List String × Json)}
    {path : List String} {document : Json}
    (leaves : Json.memberLeaves members = before ++ (path, document) :: after)
    (templates : ∀ leaf ∈ before, ∃ template, leaf.2 = .string template)
    (fault : ∀ template, document ≠ .string template) :
    ofJson (.object members) = .error (.notAString (dottedPath path)) := by
  rw [ofJson, collectMembers_eq, leaves, foldlM_collectLeaf_of_fault templates fault,
    identifier_eq_dottedPath]

/-- Only what is no object is refused as a whole. -/
theorem ofJson_eq_notAnObject_iff (document : Json) :
    ofJson document = .error .notAnObject ↔ ∀ members, document ≠ .object members := by
  constructor
  · rintro refused members rfl
    rcases templates_or_fault (Json.memberLeaves members) with
      all | ⟨before, path, document, after, leaves, templates, fault⟩
    · obtain ⟨templates, leaves⟩ := exists_templates all
      rw [ofJson_eq_sortMembers leaves] at refused
      cases refused
    · rw [ofJson_of_fault leaves templates fault] at refused
      cases refused
  · intro other
    cases document with
    | object members => exact absurd rfl (other members)
    | null | bool | number | string | array => rfl

/-- A document is no catalog just if it is no object. The leaves of an object are visited in the
order of the ways to them. If one is no template, the fault names the first such leaf; if all are,
the catalog has the identifiers of the leaves, and under each the last template of it. An
identifier is made of the names on the way to a leaf, with dots between them, without empty names
in front. -/
theorem ofJson_of_sorted {document : Json} (sorted : document.Sorted) :
    (∀ content, Json.ofText? content = some document → load content = ofJson document) ∧
      (ofJson document = .error .notAnObject ↔ ∀ members, document ≠ .object members) ∧
      ∀ members, document = .object members →
        ((Json.memberLeaves members).map Prod.fst).Pairwise (· < ·) ∧
        (∀ before path fault after,
          Json.memberLeaves members = before ++ (path, fault) :: after →
          (∀ leaf ∈ before, ∃ template, leaf.2 = .string template) →
          (∀ template, fault ≠ .string template) →
            ofJson document = .error (.notAString (dottedPath path))) ∧
        ((∀ leaf ∈ Json.memberLeaves members, ∃ template, leaf.2 = .string template) →
          ∃ catalog, ofJson document = .ok catalog ∧ (catalog.map Prod.fst).Nodup ∧
            (∀ id, id ∈ catalog.map Prod.fst ↔
              ∃ leaf ∈ Json.memberLeaves members, dottedPath leaf.1 = id) ∧
            ∀ id template, (id, template) ∈ catalog ↔ ∃ before path after,
              Json.memberLeaves members = before ++ (path, .string template) :: after ∧
                dottedPath path = id ∧ ∀ leaf ∈ after, dottedPath leaf.1 ≠ id) := by
  refine ⟨fun content read => load_eq_ofJson read, ofJson_eq_notAnObject_iff document, ?_⟩
  rintro members rfl
  refine ⟨sorted.pairwise_paths_lt, fun before path fault after leaves templates other =>
    ofJson_of_fault leaves templates other, fun strings => ?_⟩
  obtain ⟨templates, leaves⟩ := exists_templates strings
  refine ⟨_, ofJson_eq_sortMembers leaves, (Json.sortedMembers_sortMembers _).nodup_names,
    fun id => ?_, fun id template => ?_⟩
  · rw [(Json.names_sortMembers_perm _).mem_iff, List.mem_dedup, leaves]
    simp [entry, leaf, identifier_eq_dottedPath]
  · rw [leaves, mem_sortMembers_entries_iff]
    simp only [identifier_eq_dottedPath]

/-- A document with empty names, in which two leaves are no templates. -/
def gapped : Json :=
  .object [("", .object [("a", .string "x")]), ("b", .object [("", .null), ("c", .null)])]

/-- An empty name in front is left out, an empty name behind another is not; of the two leaves that
are no templates the first is named. -/
theorem ofJson_of_sorted_gapped :
    gapped.Sorted ∧ ofJson gapped = .error (.notAString "b.") ∧
      load "\x7b\"b\":\x7b\"c\":null,\"\":null\x7d,\"\":\x7b\"a\":\"x\"\x7d\x7d" =
        .error (.notAString "b.") := by
  have sorted : gapped.Sorted := by
    refine .object (by decide) (List.forall_mem_cons.mpr ⟨?_, List.forall_mem_singleton.mpr ?_⟩)
    · exact .object (by decide) (List.forall_mem_singleton.mpr (.string "x"))
    · exact .object (by decide)
        (List.forall_mem_cons.mpr ⟨.null, List.forall_mem_singleton.mpr .null⟩)
  obtain ⟨loaded, -, inside⟩ := ofJson_of_sorted sorted
  obtain ⟨-, first, -⟩ := inside _ rfl
  have refused : ofJson gapped = .error (.notAString "b.") :=
    first [(["", "a"], .string "x")] ["b", ""] .null [(["b", "c"], .null)] rfl (by simp) (by simp)
  exact ⟨sorted, refused, (loaded _ (by cbv)).trans refused⟩

end Catalog

end MessageTemplate
