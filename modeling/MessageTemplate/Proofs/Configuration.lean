import Mathlib
import MessageTemplate.Format.Formatter
import MessageTemplate.Proofs.Execution

/-!
# Options and sequences of configuration calls

A formatter is built from options, which say all of it, and configured by calls, of which some are
refused. A refused call leaves the formatter as it is. No call takes its selector away or changes
its kinds or its limit.
-/

namespace MessageTemplate

/-- A call that configures a formatter. -/
inductive FormatterCall where
  | culture (name : String)
  | selector (selector? : Option PluralSelector)
  | dateLocale (locale : String)
  | booleans (policy : BooleanPolicy)

namespace Formatter

variable {π : Type}

/-- What a call gives. -/
def attempt (formatter : Formatter π) : FormatterCall → Except ConfigError (Formatter π)
  | .culture name => formatter.setCulture name
  | .selector selector? => formatter.setSelector selector?
  | .dateLocale locale => formatter.setDateLocale locale
  | .booleans policy => .ok (formatter.setBooleans policy)

/-- The formatter after a call, accepted or refused. -/
def afterCall (formatter : Formatter π) (call : FormatterCall) : Formatter π :=
  match formatter.attempt call with
  | .ok configured => configured
  | .error _ => formatter

/-- The formatter after calls in their order. -/
def afterCalls (formatter : Formatter π) (calls : List FormatterCall) : Formatter π :=
  calls.foldl afterCall formatter

/-- What no call changes: the kinds, the limit, and that there is a selector. -/
structure Preserves (before after : Formatter π) : Prop where
  kinds : after.kinds = before.kinds
  maxDepth : after.maxDepth = before.maxDepth
  selects : before.selector?.isSome → after.selector?.isSome

theorem Preserves.refl (formatter : Formatter π) : formatter.Preserves formatter := ⟨rfl, rfl, id⟩

theorem Preserves.trans {first second third : Formatter π} (near : first.Preserves second)
    (far : second.Preserves third) : first.Preserves third :=
  ⟨far.kinds.trans near.kinds, far.maxDepth.trans near.maxDepth,
    fun selects => far.selects (near.selects selects)⟩

theorem preserves_attempt {formatter configured : Formatter π} {call : FormatterCall}
    (accepted : formatter.attempt call = .ok configured) : formatter.Preserves configured := by
  cases call with
  | culture name =>
    rw [attempt, setCulture] at accepted
    cases found : Language.ofCulture name with
    | error error => simp [found, Except.map] at accepted
    | ok language =>
      obtain rfl : _ = configured := by simpa [found, Except.map] using accepted
      exact ⟨rfl, rfl, fun _ => rfl⟩
  | selector selector? =>
    cases selector? with
    | none => simp [attempt, setSelector] at accepted
    | some selector =>
      obtain rfl : _ = configured := by simpa [attempt, setSelector] using accepted
      exact ⟨rfl, rfl, fun _ => rfl⟩
  | dateLocale locale =>
    rw [attempt, setDateLocale] at accepted
    cases found : DateLanguage.ofLocale locale with
    | error error => simp [found, Except.map] at accepted
    | ok dates =>
      obtain rfl : _ = configured := by simpa [found, Except.map] using accepted
      exact ⟨rfl, rfl, id⟩
  | booleans policy =>
    obtain rfl : _ = configured := by simpa [attempt, setBooleans] using accepted
    exact ⟨rfl, rfl, id⟩

theorem preserves_afterCall (formatter : Formatter π) (call : FormatterCall) :
    formatter.Preserves (formatter.afterCall call) := by
  unfold afterCall
  split
  · rename_i accepted
    exact preserves_attempt accepted
  · exact .refl formatter

theorem preserves_afterCalls (formatter : Formatter π) (calls : List FormatterCall) :
    formatter.Preserves (formatter.afterCalls calls) := by
  induction calls generalizing formatter with
  | nil => exact .refl formatter
  | cons call calls inductionHypothesis =>
    exact (formatter.preserves_afterCall call).trans (inductionHypothesis _)

end Formatter

/-! ## Options -/

namespace FormatterOptions

variable {π : Type}

/-- The selector and its culture are those that options ask for: a selector of their own, which
comes from no culture, and else the rules of the culture, by default of English. -/
def Select (options : FormatterOptions π) (selector? : Option PluralSelector)
    (culture? : Option String) : Prop :=
  match options.selector? with
  | some selector => selector? = some selector ∧ culture? = none
  | none =>
    culture? = some (options.culture?.getD defaultCulture) ∧
      ∃ language, Language.ofCulture (options.culture?.getD defaultCulture) = .ok language ∧
        selector? = some language.selector

/-- A formatter is what options ask for. -/
structure Describe (options : FormatterOptions π) (formatter : Formatter π) : Prop where
  selection : options.Select formatter.selector? formatter.culture?
  dateLocale : formatter.dateLocale = options.dateLocale?.getD defaultCulture
  dates : DateLanguage.ofLocale formatter.dateLocale = .ok formatter.dates
  kinds : formatter.kinds = options.kinds
  booleans : formatter.booleans = options.booleans
  maxDepth : formatter.maxDepth = options.maxDepth

theorem Select.isSome {options : FormatterOptions π} {selector? : Option PluralSelector}
    {culture? : Option String} (selects : options.Select selector? culture?) :
    selector?.isSome := by
  unfold Select at selects
  split at selects
  · rw [selects.1]
    rfl
  · obtain ⟨-, language, -, rfl⟩ := selects
    rfl

end FormatterOptions

namespace Formatter

variable {π : Type} {options : FormatterOptions π} {formatter : Formatter π}

theorem chooseSelector_eq_ok_iff {selector : PluralSelector} {culture? : Option String} :
    chooseSelector options = .ok (selector, culture?) ↔
      options.Select (some selector) culture? := by
  unfold chooseSelector FormatterOptions.Select
  cases options.selector? with
  | some given => simp [eq_comm]
  | none =>
    cases found : Language.ofCulture (options.culture?.getD defaultCulture) with
    | error error => simp [Except.map, found]
    | ok language =>
      simp [Except.map, found, eq_comm, and_comm]

/-- What is built is what the options ask for, and nothing is built only if there is no such
formatter. -/
theorem build_eq_ok_iff : build options = .ok formatter ↔ options.Describe formatter := by
  constructor
  · intro built
    obtain ⟨⟨selector, culture?⟩, chosen, built⟩ := bind_eq_ok_iff.mp built
    obtain ⟨dates, found, made⟩ := bind_eq_ok_iff.mp built
    obtain rfl := Except.ok.inj made
    exact ⟨chooseSelector_eq_ok_iff.mp chosen, rfl, found, rfl, rfl, rfl⟩
  · rintro ⟨selection, dateLocale, dates, kinds, booleans, maxDepth⟩
    obtain ⟨selector, present⟩ := Option.isSome_iff_exists.mp selection.isSome
    rw [present] at selection
    have chosen := chooseSelector_eq_ok_iff.mpr selection
    obtain ⟨_, _, _, _, _, _, _⟩ := formatter
    subst dateLocale kinds booleans maxDepth present
    exact bind_eq_ok_iff.mpr ⟨_, chosen, bind_eq_ok_iff.mpr ⟨_, dates, rfl⟩⟩

/-- A formatter that was built has a selector, and the kinds and the limit that it was to have. -/
theorem build_eq_ok (built : build options = .ok formatter) :
    formatter.kinds = options.kinds ∧ formatter.maxDepth = options.maxDepth ∧
      formatter.selector?.isSome := by
  have described := build_eq_ok_iff.mp built
  exact ⟨described.kinds, described.maxDepth, described.selection.isSome⟩

end Formatter

end MessageTemplate
