import MessageTemplate.CommandLine.Check
import MessageTemplate.Proofs.Documents

/-!
# Catalogs and the leaves of their documents

A catalog holds the leaves of a document under their identifiers, the last leaf of each. Dots
inside names and empty names can give two leaves one identifier. The earlier template is then
not in the catalog and not in the report on it; where identifiers are distinct, every template
is in both.
-/

namespace MessageTemplate

namespace Catalog

/-- The identifier of the leaf that names lead to. -/
def identifier (path : List String) : String := path.foldl memberId ""

/-- A template that names lead to, as a leaf. -/
def leaf (template : List String × String) : List String × Json :=
  (template.1, .string template.2)

/-- A template that names lead to, as an entry. -/
def entry (template : List String × String) : String × String :=
  (identifier template.1, template.2)

/-! ## Collecting leaves -/

/-- Add a leaf below an identifier to a catalog. -/
def collectLeaf (id : String) (catalog : Catalog) (leaf : List String × Json) :
    Except CatalogError Catalog :=
  match leaf.2 with
  | .string template => .ok (Json.insertMember (leaf.1.foldl memberId id) template catalog)
  | _ => .error (.notAString (leaf.1.foldl memberId id))

mutual

/-- Templates are collected leaf by leaf. -/
theorem collect_eq (id : String) (catalog : Catalog) : (document : Json) →
    collect id catalog document = document.leaves.foldlM (collectLeaf id) catalog
  | .object members => collectMembers_eq id catalog members
  | .string _ => rfl
  | .null | .bool _ | .number _ | .array _ => rfl

theorem collectMembers_eq (id : String) (catalog : Catalog) : (members : List (String × Json)) →
    collectMembers id catalog members =
      (Json.memberLeaves members).foldlM (collectLeaf id) catalog
  | [] => rfl
  | (name, document) :: members => by
    -- A name in front of the way to a leaf is the same as a name on the identifier above it.
    have below (leaf : List String × Json) (catalog : Catalog) :
        collectLeaf (memberId id name) catalog leaf =
          collectLeaf id catalog (name :: leaf.1, leaf.2) := rfl
    rw [collectMembers, collect_eq, Json.memberLeaves, List.foldlM_append, List.foldlM_map]
    simp only [← below]
    cases document.leaves.foldlM (collectLeaf (memberId id name)) catalog with
    | error error => rfl
    | ok catalog => exact collectMembers_eq id catalog members

end

/-- Templates are sorted by their identifiers. -/
theorem ofJson_eq_sortMembers {members : List (String × Json)}
    {templates : List (List String × String)}
    (leaves : Json.memberLeaves members = templates.map leaf) :
    ofJson (.object members) = .ok (Json.sortMembers (templates.map entry)) := by
  have collected : collectMembers "" [] members =
      templates.foldlM (fun catalog template => pure
        (Json.insertMember (entry template).1 (entry template).2 catalog)) [] := by
    rw [collectMembers_eq, leaves, List.foldlM_map]
    rfl
  rw [List.foldlM_pure] at collected
  simp only [ofJson, collected, Json.sortMembers, List.foldl_map]
  rfl

/-- A catalog is that of its document. -/
theorem load_eq_ofJson {content : String} {document : Json}
    (read : Json.ofText? content = some document) : load content = ofJson document := by
  rw [load, read]

theorem exists_templates {leaves : List (List String × Json)}
    (strings : ∀ leaf ∈ leaves, ∃ template, leaf.2 = .string template) :
    ∃ templates : List (List String × String), leaves = templates.map leaf := by
  have listed : leaves ∈ Set.range (List.map leaf) := by
    rw [Set.range_list_map]
    rintro ⟨path, document⟩ mem
    obtain ⟨template, rfl⟩ := strings _ mem
    exact ⟨(path, template), rfl⟩
  obtain ⟨templates, same⟩ := listed
  exact ⟨templates, same.symm⟩

/-- A catalog has an entry for the last leaf of an identifier. -/
theorem mem_sortMembers_entries_iff (templates : List (List String × String)) (id : String)
    (template : String) :
    (id, template) ∈ Json.sortMembers (templates.map entry) ↔ ∃ before path after,
      templates.map leaf = before ++ (path, .string template) :: after ∧
        identifier path = id ∧ ∀ leaf ∈ after, identifier leaf.1 ≠ id := by
  rw [Json.mem_sortMembers_iff]
  constructor
  · rintro ⟨before, after, split, others⟩
    obtain ⟨front, rest, rfl, -, split⟩ := List.map_eq_append_iff.mp split
    obtain ⟨⟨path, text⟩, back, rfl, same, rfl⟩ := List.map_eq_cons_iff.mp split
    cases same
    refine ⟨front.map leaf, path, back.map leaf, by simp [leaf], rfl, fun later mem => ?_⟩
    obtain ⟨other, listed, rfl⟩ := List.mem_map.mp mem
    exact others (entry other) (List.mem_map_of_mem listed)
  · rintro ⟨before, path, after, split, rfl, others⟩
    obtain ⟨front, rest, rfl, -, split⟩ := List.map_eq_append_iff.mp split
    obtain ⟨⟨_, _⟩, back, rfl, same, rfl⟩ := List.map_eq_cons_iff.mp split
    cases same
    refine ⟨front.map entry, back.map entry, by simp [entry], fun later mem => ?_⟩
    obtain ⟨other, listed, rfl⟩ := List.mem_map.mp mem
    exact others (leaf other) (List.mem_map_of_mem listed)

/-! ## Identifiers -/

/-- Below an identifier, dots stand between names. -/
theorem toList_foldl_memberId (path : List String) {id : String} (named : id ≠ "") :
    (path.foldl memberId id).toList =
      ['.'].intercalate (id.toList :: path.map String.toList) := by
  induction path generalizing id with
  | nil => simp
  | cons name path ih =>
    have below : memberId id name = id ++ "." ++ name := by simp [memberId, named]
    rw [List.foldl_cons, below, ih (by simp), List.map_cons, List.intercalate_cons_cons]
    cases path <;> simp

/-- Names without dots are what stands between the dots of an identifier. -/
theorem splitOn_identifier {name : String} {path : List String} (named : name ≠ "")
    (dotless : ∀ part ∈ name :: path, '.' ∉ part.toList) :
    (identifier (name :: path)).toList.splitOn '.' = (name :: path).map String.toList := by
  have written := toList_foldl_memberId path named
  have start : identifier (name :: path) = path.foldl memberId name := rfl
  rw [start, written]
  exact List.splitOn_intercalate '.' (by simpa using dotless) (by simp)

/-- No two leaves of an object have one identifier. -/
def DistinctIdentifiers (members : List (String × Json)) : Prop :=
  ((Json.memberLeaves members).map fun leaf => identifier leaf.1).Nodup

/-- Identifiers are distinct if no name has a dot and none of the object's own names is empty. -/
theorem distinctIdentifiers_of_dotless {members : List (String × Json)}
    (sorted : (Json.object members).Sorted)
    (dotless : ∀ leaf ∈ Json.memberLeaves members,
      leaf.1.head? ≠ some "" ∧ ∀ name ∈ leaf.1, '.' ∉ name.toList) :
    DistinctIdentifiers members := by
  have split_eq : ∀ leaf ∈ Json.memberLeaves members,
      (identifier leaf.1).toList.splitOn '.' = leaf.1.map String.toList := by
    intro leaf mem
    obtain ⟨member, -, path, path_eq⟩ := Json.name_of_mem_memberLeaves mem
    obtain ⟨named, apart⟩ := dotless leaf mem
    rw [path_eq] at named apart ⊢
    exact splitOn_identifier (by simpa using named) apart
  have paths : ((Json.memberLeaves members).map Prod.fst).Nodup := sorted.nodup_paths
  refine List.Nodup.map_on (fun first here second there same => ?_) (List.Nodup.of_map _ paths)
  have names : first.1.map String.toList = second.1.map String.toList := by
    rw [← split_eq first here, ← split_eq second there, same]
  exact List.inj_on_of_nodup_map paths here there
    (List.map_injective_iff.mpr (fun _ _ => String.toList_injective) names)

end Catalog

namespace CommandLine

/-! ## Reports -/

/-- A leaf is a template without a fault. -/
def HasNoFault (leaf : List String × Json) : Prop :=
  ∃ template tree, leaf.2 = .string template ∧ parser.parse template = .ok tree

/-- A report names every template of a catalog that has a fault. -/
theorem faults_ofCatalog_eq_nil_iff (file : String) (catalog : Catalog) :
    (FileReport.ofCatalog file catalog).faults = [] ↔
      ∀ entry ∈ catalog, ∃ tree, parser.parse entry.2 = .ok tree := by
  rw [FileReport.ofCatalog, List.filterMap_eq_nil_iff]
  refine forall₂_congr fun entry _ => ?_
  dsimp only
  cases parser.parse entry.2 <;> simp

theorem mapM_faultless_iff {α : Type} (report? : α → Except String FileReport) (files : List α) :
    (∃ reports, files.mapM report? = .ok reports ∧ ∀ report ∈ reports, report.faults = []) ↔
      ∀ file ∈ files, ∃ report, report? file = .ok report ∧ report.faults = [] := by
  induction files with
  | nil => simp [pure, Except.pure]
  | cons file files ih =>
    rw [List.mapM_cons, List.forall_mem_cons, ← ih]
    cases report? file with
    | error reason => simp [bind, Except.bind]
    | ok report =>
      cases files.mapM report? with
      | error reason => simp [bind, Except.bind]
      | ok reports => simp [bind, Except.bind, pure, Except.pure]

/-- A check succeeds just if each file has a report and no report has a fault. -/
theorem check_eq_success_iff (surroundings : Surroundings) (request : CheckRequest) :
    (check surroundings request).exit = .success ↔ ∀ file ∈ request.files,
      ∃ report, FileReport.ofFile surroundings file = .ok report ∧ report.faults = [] := by
  rw [← mapM_faultless_iff, check]
  cases request.files.mapM (FileReport.ofFile surroundings) with
  | error reason => simp [Response.failed]
  | ok reports => simp [respondWithReports]

end CommandLine

namespace Catalog

open CommandLine

/-- Where all leaves of an object are templates, a catalog has an entry for the last leaf of each
identifier. It has as many entries as there are leaves just if their identifiers are distinct;
then the report on it counts every leaf and is without faults just if every leaf is, so that a
check does not succeed with a template at fault. Identifiers are distinct if no name has a dot
and none of the object's own names is empty. -/
theorem keeps_leaves_iff_distinctIdentifiers {content : String} {members : List (String × Json)}
    (read : Json.ofText? content = some (.object members))
    (strings : ∀ leaf ∈ Json.memberLeaves members, ∃ template, leaf.2 = .string template) :
    ∃ catalog, load content = .ok catalog ∧ Json.SortedMembers catalog ∧
      (∀ id template, (id, template) ∈ catalog ↔ ∃ before path after,
        Json.memberLeaves members = before ++ (path, .string template) :: after ∧
          identifier path = id ∧ ∀ leaf ∈ after, identifier leaf.1 ≠ id) ∧
      (catalog.length = (Json.memberLeaves members).length ↔ DistinctIdentifiers members) ∧
      (DistinctIdentifiers members → ∀ surroundings file,
        surroundings.file? file = some content →
          (∃ report, FileReport.ofFile surroundings file = .ok report ∧
            report.messages = (Json.memberLeaves members).length ∧
            (report.faults = [] ↔ ∀ leaf ∈ Json.memberLeaves members, HasNoFault leaf)) ∧
          ∀ request, file ∈ request.files → (check surroundings request).exit = .success →
            ∀ leaf ∈ Json.memberLeaves members, HasNoFault leaf) ∧
      ((∀ leaf ∈ Json.memberLeaves members,
          leaf.1.head? ≠ some "" ∧ ∀ name ∈ leaf.1, '.' ∉ name.toList) →
        DistinctIdentifiers members) := by
  obtain ⟨templates, leaves⟩ := exists_templates strings
  have loaded := (load_eq_ofJson read).trans (ofJson_eq_sortMembers leaves)
  have identifiers : (Json.memberLeaves members).map (fun leaf => identifier leaf.1) =
      (templates.map entry).map Prod.fst := by
    rw [leaves, List.map_map, List.map_map]
    rfl
  have lengths : (Json.memberLeaves members).length = (templates.map entry).length := by
    rw [leaves, List.length_map, List.length_map]
  refine ⟨_, loaded, Json.sortedMembers_sortMembers _, fun id template => ?_, ?_, ?_,
    distinctIdentifiers_of_dotless (Json.sorted_of_ofText? read)⟩
  · rw [leaves]
    exact mem_sortMembers_entries_iff templates id template
  · rw [DistinctIdentifiers, identifiers, lengths]
    exact Json.length_sortMembers_eq_iff _
  · intro distinct surroundings file present
    -- No entry replaces another one, so the catalog holds each template.
    rw [DistinctIdentifiers, identifiers] at distinct
    have kept := Json.sortMembers_perm distinct
    have reported : FileReport.ofFile surroundings file =
        .ok (.ofCatalog file (Json.sortMembers (templates.map entry))) := by
      simp only [FileReport.ofFile, present, loaded]
    have faultless : (FileReport.ofCatalog file (Json.sortMembers (templates.map entry))).faults =
        [] ↔ ∀ leaf ∈ Json.memberLeaves members, HasNoFault leaf := by
      rw [faults_ofCatalog_eq_nil_iff, leaves, List.forall_mem_map]
      simp only [kept.mem_iff, List.forall_mem_map, HasNoFault, leaf, entry]
      simp
    refine ⟨⟨_, reported, kept.length_eq.trans lengths.symm, faultless⟩, ?_⟩
    intro request mem success
    obtain ⟨report, found, clean⟩ := (check_eq_success_iff surroundings request).mp success file mem
    rw [reported] at found
    cases found
    exact faultless.mp clean

/-- An object inside an object. -/
def nested : String := "\x7b\"a\":\x7b\"b\":\"\x7b\"\x7d,\"c\":\"ok\"\x7d"

/-- Both templates of an object inside an object are in the catalog. -/
theorem keeps_leaves_nested :
    Json.ofText? nested =
        some (.object [("a", .object [("b", .string "\x7b")]), ("c", .string "ok")]) ∧
      (∀ leaf ∈ Json.memberLeaves
          [("a", .object [("b", .string "\x7b")]), ("c", .string "ok")],
        ∃ template, leaf.2 = .string template) ∧
      DistinctIdentifiers [("a", .object [("b", .string "\x7b")]), ("c", .string "ok")] ∧
      ∃ catalog, load nested = .ok catalog ∧ catalog.length = 2 := by
  have read : Json.ofText? nested =
      some (.object [("a", .object [("b", .string "\x7b")]), ("c", .string "ok")]) := by cbv
  have strings : ∀ leaf ∈ Json.memberLeaves
      [("a", .object [("b", .string "\x7b")]), ("c", .string "ok")],
      ∃ template, leaf.2 = .string template := by
    simp [Json.memberLeaves, Json.leaves]
  obtain ⟨catalog, loaded, -, -, complete, -, distinct⟩ :=
    keeps_leaves_iff_distinctIdentifiers read strings
  have apart := distinct (by simp [Json.memberLeaves, Json.leaves])
  exact ⟨read, strings, apart, catalog, loaded, complete.mpr apart⟩

/-- An object with a dot in a name. -/
def dotted : String := "\x7b\"a\":\x7b\"b\":\"\x7b\"\x7d,\"a.b\":\"ok\"\x7d"

/-- The two leaves of an object with a dot in a name have one identifier: the template at fault
is not in the catalog, and the check succeeds. -/
theorem check_eq_success_dotted :
    Json.ofText? dotted =
        some (.object [("a", .object [("b", .string "\x7b")]), ("a.b", .string "ok")]) ∧
      Json.memberLeaves [("a", .object [("b", .string "\x7b")]), ("a.b", .string "ok")] =
        [(["a", "b"], .string "\x7b"), (["a.b"], .string "ok")] ∧
      load dotted = .ok [("a.b", "ok")] ∧
      parser.parse "\x7b" = .error ⟨.unbalancedBraces, 1⟩ ∧
      (check ⟨fun _ => none, fun _ => some dotted⟩ ⟨["c.json"], false⟩).exit = .success := by
  have read : Json.ofText? dotted =
      some (.object [("a", .object [("b", .string "\x7b")]), ("a.b", .string "ok")]) := by cbv
  have loaded : load dotted = .ok [("a.b", "ok")] := by cbv
  have faulty : parser.parse "\x7b" = .error ⟨.unbalancedBraces, 1⟩ := by
    with_unfolding_all rfl
  have clean : parser.parse "ok" = .ok [.literal [.text "ok"]] := by cbv
  refine ⟨read, rfl, loaded, faulty, (check_eq_success_iff _ _).mpr fun file _ => ?_⟩
  refine ⟨.ofCatalog file [("a.b", "ok")], ?_, ?_⟩
  · simp only [FileReport.ofFile, loaded]
  · exact (faults_ofCatalog_eq_nil_iff file _).mpr (by simpa using ⟨_, clean⟩)

end Catalog

end MessageTemplate
