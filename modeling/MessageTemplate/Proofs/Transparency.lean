import Mathlib
import MessageTemplate.Plural.Cache

/-!
# Cached rules

The rule cache is transparent: whatever is asked through it, and in whatever order, is answered
as if rules were built for each call anew. What carries this is that every entry holds what is
built for its own key. One call keeps that, since it adds an entry only for a key that has none,
and so does any sequence of calls.
-/

namespace MessageTemplate.RuleCache

variable {L : Type} {build : RuleBuilder L} {cache : RuleCache L}

/-- No key has two entries, and each entry holds what is built for its key. -/
structure IsFaithful (build : RuleBuilder L) (cache : RuleCache L) : Prop where
  nodup : (cache.entries.map (·.1)).Nodup
  built : ∀ entry ∈ cache.entries, entry.2 = build entry.1

theorem isFaithful_empty : IsFaithful build empty where
  nodup := List.nodup_nil
  built _ member := absurd member List.not_mem_nil

variable [DecidableEq L]

/-- A call finds an entry for its key and leaves the cache as it is, or there is none and the
call adds one. -/
theorem categoryName_cases (build : RuleBuilder L) (key : RuleKey L) (number : Number)
    (cache : RuleCache L) :
    (∃ rules?, (key, rules?) ∈ cache.entries ∧
      cache.categoryName build key number = (RuleBuilder.nameUnder rules? number, cache)) ∨
    (key ∉ cache.entries.map (·.1) ∧
      cache.categoryName build key number =
        (RuleBuilder.nameUnder (build key) number, ⟨cache.entries ++ [(key, build key)]⟩)) := by
  unfold categoryName
  cases found : cache.entries.lookup key with
  | some rules? =>
    obtain ⟨before, after, split, -⟩ := List.lookup_eq_some_iff.mp found
    exact .inl ⟨rules?, by simp [split], rfl⟩
  | none =>
    have absent := List.lookup_eq_none_iff.mp found
    refine .inr ⟨fun member => ?_, rfl⟩
    obtain ⟨entry, inside, rfl⟩ := List.mem_map.mp member
    simpa using absent entry inside

/-- One call through a faithful cache: the answer is that of rules built for the call, and the
cache stays faithful, with an entry for the key of the call. -/
theorem IsFaithful.categoryName (faithful : IsFaithful build cache) (key : RuleKey L)
    (number : Number) :
    (cache.categoryName build key number).1 = RuleBuilder.nameUnder (build key) number ∧
      IsFaithful build (cache.categoryName build key number).2 ∧
      ∀ entry, entry ∈ (cache.categoryName build key number).2.entries ↔
        entry ∈ cache.entries ∨ entry = (key, build key) := by
  rcases categoryName_cases build key number cache with ⟨rules?, member, same⟩ | ⟨absent, same⟩
  · obtain rfl : rules? = build key := faithful.built _ member
    rw [same]
    refine ⟨rfl, faithful, fun entry => ⟨.inl, ?_⟩⟩
    rintro (present | rfl)
    · exact present
    · exact member
  · rw [same]
    refine ⟨rfl, ⟨?_, ?_⟩, fun entry => by simp⟩
    · rw [List.map_append, List.map_singleton, ← List.concat_eq_append]
      exact faithful.nodup.concat absent
    · intro entry member
      rcases List.mem_append.mp member with before | added
      · exact faithful.built entry before
      · obtain rfl := List.mem_singleton.mp added
        rfl

/-- A sequence of calls through a faithful cache. -/
theorem IsFaithful.categoryNames (faithful : IsFaithful build cache)
    (calls : List (RuleKey L × Number)) :
    (RuleCache.categoryNames build calls cache).1 =
        calls.map (fun call => RuleBuilder.nameUnder (build call.1) call.2) ∧
      IsFaithful build (RuleCache.categoryNames build calls cache).2 ∧
      ∀ entry, entry ∈ (RuleCache.categoryNames build calls cache).2.entries ↔
        entry ∈ cache.entries ∨ ∃ call ∈ calls, entry = (call.1, build call.1) := by
  induction calls generalizing cache with
  | nil => exact ⟨rfl, faithful, by simp [RuleCache.categoryNames]⟩
  | cons call calls inductionHypothesis =>
    obtain ⟨key, number⟩ := call
    obtain ⟨name, kept, entries⟩ := faithful.categoryName key number
    obtain ⟨names, keptAfter, entriesAfter⟩ := inductionHypothesis kept
    rw [RuleCache.categoryNames]
    refine ⟨by simp [name, names], keptAfter, fun entry => ?_⟩
    rw [entriesAfter, entries, List.exists_mem_cons_iff, or_assoc]

/-- Whatever is built for the keys, and whatever languages, types and numbers are asked for in
whatever order, from the empty cache on each call is answered as if there were no cache: `other`
if no rules can be built, and else the category that the rules give. Behind any calls no key has
two entries, and the entries are what is built for the keys of the calls, failures included. -/
theorem categoryNames_empty (build : RuleBuilder L) (calls : List (RuleKey L × Number)) :
    (categoryNames build calls empty).1 = calls.map (fun (key, number) =>
        match build key with
        | some rules => (rules.category number).name
        | none => "other") ∧
      ((categoryNames build calls empty).2.entries.map (·.1)).Nodup ∧
      ∀ key rules?, (key, rules?) ∈ (categoryNames build calls empty).2.entries ↔
        rules? = build key ∧ ∃ number, (key, number) ∈ calls := by
  have faithful : IsFaithful build empty := isFaithful_empty
  obtain ⟨names, kept, entries⟩ := faithful.categoryNames calls
  refine ⟨names, kept.nodup, fun key rules? => ?_⟩
  rw [entries]
  constructor
  · rintro (impossible | ⟨⟨_, number⟩, asked, same⟩)
    · exact absurd impossible List.not_mem_nil
    · obtain ⟨rfl, rfl⟩ := Prod.mk.inj same
      exact ⟨rfl, number, asked⟩
  · rintro ⟨rfl, number, asked⟩
    exact .inr ⟨(key, number), asked, rfl⟩

/-- Calls for amounts and for ranks do not disturb each other, and no rules are built for a text
that names no language. -/
example :
    (categoryNames (L := String)
      (fun (name, type) => (Language.ofCode? name).map (PluralRules.of · type))
      [(("en", .cardinal), .int 2), (("?", .cardinal), .int 1), (("en", .ordinal), .int 2),
        (("en", .cardinal), .int 1), (("?", .cardinal), .int 1)] empty).1 =
      ["other", "other", "two", "one", "other"] := by
  cbv

end MessageTemplate.RuleCache
