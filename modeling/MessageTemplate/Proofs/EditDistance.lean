import Mathlib
import MessageTemplate.Suggestion

/-!
# The least number of edits

The distance of two texts is computed from the distances of their suffixes. It is the least number
of edits that turn one text into the other, wherever and in whatever order they are made. Between
the two stands the alignment, in which each text is gone through once: the computation finds the
cheapest alignment, and a further edit makes an alignment dearer by one at most.
-/

namespace MessageTemplate

namespace EditDistance

/-! ## The recursion on suffixes -/

theorem tail_suffixes (first : Char) (source target : List Char) :
    (suffixes (first :: source) target).tail = suffixes source target := by
  induction target with
  | nil => simp [suffixes, List.range_succ]
  | cons character target inductionHypothesis =>
    simp [suffixes, extend, inductionHypothesis]

end EditDistance

open EditDistance

@[simp] theorem editDistance_nil (source : List Char) : editDistance source [] = source.length := by
  simp [editDistance, suffixes, List.range_succ]

theorem editDistance_nil_cons (character : Char) (target : List Char) :
    editDistance [] (character :: target) = editDistance [] target + 1 := rfl

theorem editDistance_cons_cons (first character : Char) (source target : List Char) :
    editDistance (first :: source) (character :: target) =
      min (editDistance source target + if first = character then 0 else 1)
        (min (editDistance (first :: source) target + 1)
          (editDistance source (character :: target) + 1)) := by
  rw [editDistance, suffixes, extend, tail_suffixes]
  rfl

namespace EditDistance

/-! ## Alignments -/

/-- A way through two texts and the number of characters that differ on it. -/
inductive Alignment : List Char → List Char → Nat → Prop where
  | nil : Alignment [] [] 0
  | keep (character : Char) {source target : List Char} {count : Nat}
      (rest : Alignment source target count) :
      Alignment (character :: source) (character :: target) count
  | replace (old new : Char) {source target : List Char} {count : Nat}
      (rest : Alignment source target count) :
      Alignment (old :: source) (new :: target) (count + 1)
  | insert (character : Char) {source target : List Char} {count : Nat}
      (rest : Alignment source target count) : Alignment source (character :: target) (count + 1)
  | delete (character : Char) {source target : List Char} {count : Nat}
      (rest : Alignment source target count) : Alignment (character :: source) target (count + 1)

variable {source target other : List Char} {count : Nat}

/-- The distance is that of an alignment. -/
theorem alignment_editDistance (source target : List Char) :
    Alignment source target (editDistance source target) := by
  induction target generalizing source with
  | nil =>
    induction source with
    | nil => exact .nil
    | cons first source inductionHypothesis =>
      rw [editDistance_nil] at inductionHypothesis ⊢
      exact .delete first inductionHypothesis
  | cons character target shorter =>
    induction source with
    | nil => exact .insert character (shorter [])
    | cons first source inductionHypothesis =>
      rw [editDistance_cons_cons]
      rcases min_choice (editDistance source target + if first = character then 0 else 1)
        (min (editDistance (first :: source) target + 1)
          (editDistance source (character :: target) + 1)) with cheapest | cheapest
      · rw [cheapest]
        split_ifs with same
        · subst same
          exact .keep first (shorter source)
        · exact .replace first character (shorter source)
      · rw [cheapest]
        rcases min_choice (editDistance (first :: source) target + 1)
          (editDistance source (character :: target) + 1) with cheapest | cheapest
        · rw [cheapest]
          exact .insert character (shorter (first :: source))
        · rw [cheapest]
          exact .delete first inductionHypothesis

/-- No alignment is cheaper than the distance. -/
theorem Alignment.editDistance_le (alignment : Alignment source target count) :
    editDistance source target ≤ count := by
  induction alignment with
  | nil => exact le_rfl
  | keep character rest inductionHypothesis =>
    rw [editDistance_cons_cons, if_pos rfl]
    omega
  | replace old new rest inductionHypothesis =>
    rw [editDistance_cons_cons]
    split <;> omega
  | @insert character source target count rest inductionHypothesis =>
    cases source with
    | nil =>
      rw [editDistance_nil_cons]
      omega
    | cons first source =>
      rw [editDistance_cons_cons]
      omega
  | @delete character source target count rest inductionHypothesis =>
    cases target with
    | nil =>
      rw [editDistance_nil] at inductionHypothesis ⊢
      rw [List.length_cons]
      omega
    | cons first target =>
      rw [editDistance_cons_cons]
      omega

/-! ## Edits -/

/-- One character inserted, deleted or replaced, at any place. -/
inductive Edit : List Char → List Char → Prop where
  | insert (character : Char) (text : List Char) : Edit text (character :: text)
  | delete (character : Char) (text : List Char) : Edit (character :: text) text
  | replace (old new : Char) (text : List Char) : Edit (old :: text) (new :: text)
  | behind (character : Char) {source target : List Char} (edit : Edit source target) :
      Edit (character :: source) (character :: target)

/-- A number of edits, one after the other. -/
inductive Edits : Nat → List Char → List Char → Prop where
  | none (text : List Char) : Edits 0 text text
  | next {count : Nat} {source middle target : List Char} (edits : Edits count source middle)
      (edit : Edit middle target) : Edits (count + 1) source target

theorem Edits.behind (character : Char) (edits : Edits count source target) :
    Edits count (character :: source) (character :: target) := by
  induction edits with
  | none text => exact .none _
  | next edits edit inductionHypothesis => exact .next inductionHypothesis (.behind character edit)

/-- An alignment can be carried out by as many edits. -/
theorem Alignment.edits (alignment : Alignment source target count) :
    Edits count source target := by
  induction alignment with
  | nil => exact .none []
  | keep character rest inductionHypothesis => exact inductionHypothesis.behind character
  | replace old new rest inductionHypothesis =>
    exact .next (inductionHypothesis.behind old) (.replace old new _)
  | insert character rest inductionHypothesis =>
    exact .next inductionHypothesis (.insert character _)
  | delete character rest inductionHypothesis =>
    exact .next (inductionHypothesis.behind character) (.delete character _)

theorem Alignment.refl (text : List Char) : Alignment text text 0 := by
  induction text with
  | nil => exact .nil
  | cons character text inductionHypothesis => exact .keep character inductionHypothesis

/-- Texts can be aligned part by part. -/
theorem Alignment.append {front back : List Char} {more : Nat}
    (alignment : Alignment source target count) (behind : Alignment front back more) :
    Alignment (source ++ front) (target ++ back) (count + more) := by
  induction alignment with
  | nil => rwa [Nat.zero_add]
  | keep character rest inductionHypothesis => exact .keep character inductionHypothesis
  | replace old new rest inductionHypothesis =>
    rw [Nat.add_right_comm]
    exact .replace old new inductionHypothesis
  | insert character rest inductionHypothesis =>
    rw [Nat.add_right_comm]
    exact .insert character inductionHypothesis
  | delete character rest inductionHypothesis =>
    rw [Nat.add_right_comm]
    exact .delete character inductionHypothesis

/-- A text can be deleted. -/
theorem Alignment.deleted (text : List Char) : Alignment text [] text.length := by
  induction text with
  | nil => exact .nil
  | cons character text inductionHypothesis => exact .delete character inductionHypothesis

/-- The characters of a sort can be put in place of one that stands for them. -/
theorem Alignment.restored (sort : Char → Bool) (mark : Char) (text : List Char) :
    Alignment (text.map fun character => if sort character then mark else character) text
      (text.countP sort) := by
  induction text with
  | nil => exact .nil
  | cons character text inductionHypothesis =>
    rw [List.map_cons]
    cases sorted : sort character with
    | true =>
      rw [List.countP_cons_of_pos sorted, if_pos rfl]
      exact .replace mark character inductionHypothesis
    | false =>
      rw [List.countP_cons_of_neg (by simp [sorted]), if_neg Bool.false_ne_true]
      exact .keep character inductionHypothesis

/-- Characters that are made equal need not be replaced any more. -/
theorem Alignment.map (change : Char → Char) (alignment : Alignment source target count) :
    Alignment (source.map change) (target.map change) count := by
  induction alignment with
  | nil => exact .nil
  | keep character rest inductionHypothesis => exact .keep (change character) inductionHypothesis
  | replace old new rest inductionHypothesis =>
    exact .replace (change old) (change new) inductionHypothesis
  | insert character rest inductionHypothesis =>
    exact .insert (change character) inductionHypothesis
  | delete character rest inductionHypothesis =>
    exact .delete (change character) inductionHypothesis

/-- Where all of the source is of one sort, only characters of the target that are of this sort are
kept, and of each text what is not kept counts. -/
theorem Alignment.exists_kept {sort : Char → Bool} (alignment : Alignment source target count)
    (all : ∀ character ∈ source, sort character = true) :
    ∃ kept ≤ target.countP sort, source.length ≤ count + kept ∧ target.length ≤ count + kept := by
  induction alignment with
  | nil => exact ⟨0, by simp⟩
  | keep character rest inductionHypothesis =>
    obtain ⟨here, later⟩ := List.forall_mem_cons.mp all
    obtain ⟨kept, le, source, target⟩ := inductionHypothesis later
    refine ⟨kept + 1, ?_, ?_⟩
    · rw [List.countP_cons_of_pos here]
      omega
    · simp only [List.length_cons]
      omega
  | replace old new rest inductionHypothesis =>
    obtain ⟨kept, le, source, target⟩ := inductionHypothesis (List.forall_mem_cons.mp all).2
    refine ⟨kept, ?_, ?_⟩
    · rw [List.countP_cons]
      omega
    · simp only [List.length_cons]
      omega
  | insert character rest inductionHypothesis =>
    obtain ⟨kept, le, source, target⟩ := inductionHypothesis all
    refine ⟨kept, ?_, ?_⟩
    · rw [List.countP_cons]
      omega
    · simp only [List.length_cons]
      omega
  | delete character rest inductionHypothesis =>
    obtain ⟨kept, le, source, target⟩ := inductionHypothesis (List.forall_mem_cons.mp all).2
    refine ⟨kept, le, ?_⟩
    simp only [List.length_cons]
    omega

/-- Where all of the source is of one sort and no more characters of it are kept than have to be,
nothing is inserted, and only characters of the other sort replace others. So the target is what the
source is without some characters, apart from those of the other sort. -/
theorem Alignment.exists_sublist {sort : Char → Bool} (alignment : Alignment source target count)
    (all : ∀ character ∈ source, sort character = true)
    (tight : count + target.countP sort ≤ source.length) :
    ∃ middle, middle.Sublist source ∧
      List.Forall₂ (fun old new => sort new = true → old = new) middle target := by
  induction alignment with
  | nil => exact ⟨[], .slnil, .nil⟩
  | keep character rest inductionHypothesis =>
    obtain ⟨here, later⟩ := List.forall_mem_cons.mp all
    rw [List.countP_cons_of_pos here, List.length_cons] at tight
    obtain ⟨middle, sublist, same⟩ := inductionHypothesis later (by omega)
    exact ⟨character :: middle, sublist.cons_cons character, .cons (fun _ => rfl) same⟩
  | replace old new rest inductionHypothesis =>
    have later := (List.forall_mem_cons.mp all).2
    obtain ⟨kept, le, length, -⟩ := rest.exists_kept later
    rw [List.countP_cons, List.length_cons] at tight
    have other : ¬sort new = true := fun sorted => by
      rw [if_pos sorted] at tight
      omega
    obtain ⟨middle, sublist, same⟩ := inductionHypothesis later (by omega)
    exact ⟨old :: middle, sublist.cons_cons old, .cons (fun sorted => absurd sorted other) same⟩
  | insert character rest inductionHypothesis =>
    obtain ⟨kept, le, length, -⟩ := rest.exists_kept all
    rw [List.countP_cons] at tight
    omega
  | delete character rest inductionHypothesis =>
    rw [List.length_cons] at tight
    obtain ⟨middle, sublist, same⟩ :=
      inductionHypothesis (List.forall_mem_cons.mp all).2 (by omega)
    exact ⟨middle, sublist.cons character, same⟩

/-- One more edit makes an alignment dearer by one at most. -/
theorem Alignment.exists_of_edit (alignment : Alignment source target count)
    (edit : Edit target other) : ∃ more ≤ count + 1, Alignment source other more := by
  induction alignment generalizing other with
  | nil =>
    cases edit with
    | insert character => exact ⟨1, le_rfl, .insert character .nil⟩
  | @keep kept source target count rest inductionHypothesis =>
    cases edit with
    | insert character => exact ⟨_, le_rfl, .insert character (.keep kept rest)⟩
    | delete => exact ⟨_, le_rfl, .delete kept rest⟩
    | replace _ new => exact ⟨_, le_rfl, .replace kept new rest⟩
    | behind _ edit =>
      obtain ⟨more, le, alignment⟩ := inductionHypothesis edit
      exact ⟨more, le, .keep kept alignment⟩
  | @replace old new source target count rest inductionHypothesis =>
    cases edit with
    | insert character => exact ⟨_, le_rfl, .insert character (.replace old new rest)⟩
    | delete => exact ⟨_, Nat.le_succ _, .delete old rest⟩
    | replace _ newer => exact ⟨_, Nat.le_succ _, .replace old newer rest⟩
    | behind _ edit =>
      obtain ⟨more, le, alignment⟩ := inductionHypothesis edit
      exact ⟨more + 1, by omega, .replace old new alignment⟩
  | @insert added source target count rest inductionHypothesis =>
    cases edit with
    | insert character => exact ⟨_, le_rfl, .insert character (.insert added rest)⟩
    | delete => exact ⟨count, by omega, rest⟩
    | replace _ new => exact ⟨_, Nat.le_succ _, .insert new rest⟩
    | behind _ edit =>
      obtain ⟨more, le, alignment⟩ := inductionHypothesis edit
      exact ⟨more + 1, by omega, .insert added alignment⟩
  | delete removed rest inductionHypothesis =>
    obtain ⟨more, le, alignment⟩ := inductionHypothesis edit
    exact ⟨more + 1, by omega, .delete removed alignment⟩

/-- Edits are no fewer than the differences on some alignment. -/
theorem Edits.exists_alignment (edits : Edits count source target) :
    ∃ fewer ≤ count, Alignment source target fewer := by
  induction edits with
  | none text => exact ⟨0, le_rfl, .refl text⟩
  | next edits edit inductionHypothesis =>
    obtain ⟨fewer, le, alignment⟩ := inductionHypothesis
    obtain ⟨more, le', alignment⟩ := alignment.exists_of_edit edit
    exact ⟨more, by omega, alignment⟩

end EditDistance

/-- The distance is the least number of edits. -/
theorem isLeast_editDistance (source target : List Char) :
    IsLeast {count | Edits count source target} (editDistance source target) := by
  refine ⟨(alignment_editDistance source target).edits, fun count edits => ?_⟩
  obtain ⟨fewer, le, alignment⟩ := Edits.exists_alignment edits
  exact alignment.editDistance_le.trans le

end MessageTemplate
