import MessageTemplate.Proofs.Configuration

/-!
# Configuring in place

The calls that configure a formatter, as they change one in place: a lookup that may fail, and
behind it one assignment for each field. The selector and the culture of its rules, and likewise
the language of dates and its locale, are assigned apart and yet never get apart. Each of them is
what the last accepted call made of it, or what the formatter was made with.
-/

namespace MessageTemplate

/-- A step of configuring a formatter in place. -/
abbrev Configuring (π : Type) := ExceptT ConfigError (StateM (Formatter π))

namespace Configuring

variable {π : Type}

/-- What a step answers, and the formatter that it leaves. -/
def outcome (step : Configuring π Unit) (formatter : Formatter π) :
    Except ConfigError Unit × Formatter π :=
  step.run.run formatter

/-- Make a call: look up what is asked for, and assign the fields one after the other. -/
def perform : FormatterCall → Configuring π Unit
  | .culture name => do
    -- A fault of the lookup leaves both fields behind it alone.
    let language ← MonadExcept.ofExcept (Language.ofCulture name)
    modify fun formatter => { formatter with selector? := some language.selector }
    modify fun formatter => { formatter with culture? := some name }
  | .selector none => throw .pluralFunctionRequired
  | .selector (some selector) => do
    modify fun formatter => { formatter with selector? := some selector }
    modify fun formatter => { formatter with culture? := none }
  | .dateLocale locale => do
    let dates ← MonadExcept.ofExcept (DateLanguage.ofLocale locale)
    modify fun formatter => { formatter with dates }
    modify fun formatter => { formatter with dateLocale := locale }
  | .booleans policy => modify fun formatter => { formatter with booleans := policy }

/-- Make calls one after the other and keep their answers. A refused call stops nothing. -/
def performAll (calls : List FormatterCall) :
    StateM (Formatter π) (List (Except ConfigError Unit)) :=
  calls.mapM fun call => (perform call).run

/-- In place a call leaves the formatter that it gives, and a refused call leaves all as it is. -/
theorem outcome_perform (call : FormatterCall) (formatter : Formatter π) :
    (perform call).outcome formatter =
      match formatter.attempt call with
      | .ok configured => (.ok (), configured)
      | .error error => (.error error, formatter) := by
  cases call with
  | culture name =>
    rw [Formatter.attempt, Formatter.setCulture, perform]
    cases Language.ofCulture name <;> rfl
  | selector selector? => cases selector? <;> rfl
  | dateLocale locale =>
    rw [Formatter.attempt, Formatter.setDateLocale, perform]
    cases DateLanguage.ofLocale locale <;> rfl
  | booleans policy => rfl

theorem eq_of_outcome_error {call : FormatterCall} {formatter after : Formatter π}
    {error : ConfigError} (refused : (perform call).outcome formatter = (.error error, after)) :
    after = formatter := by
  rw [outcome_perform] at refused
  split at refused
  · cases refused
  · exact (congrArg Prod.snd refused).symm

theorem outcome_perform_snd (call : FormatterCall) (formatter : Formatter π) :
    ((perform call).outcome formatter).2 = formatter.afterCall call := by
  rw [outcome_perform, Formatter.afterCall]
  cases formatter.attempt call <;> rfl

theorem performAll_cons (call : FormatterCall) (calls : List FormatterCall)
    (formatter : Formatter π) :
    (performAll (call :: calls)).run formatter =
      (((perform call).outcome formatter).1 ::
          ((performAll calls).run (formatter.afterCall call)).1,
        ((performAll calls).run (formatter.afterCall call)).2) := by
  rw [← outcome_perform_snd, performAll, List.mapM_cons]
  rfl

/-- In place calls leave the formatter that they leave one by one. -/
theorem performAll_snd (calls : List FormatterCall) (formatter : Formatter π) :
    ((performAll calls).run formatter).2 = formatter.afterCalls calls := by
  induction calls generalizing formatter with
  | nil => rfl
  | cons call calls inductionHypothesis =>
    rw [performAll_cons, inductionHypothesis]
    rfl

end Configuring

/-! ## What calls set -/

namespace FormatterCall

/-- The selector and its culture that a call sets if it is accepted. -/
def selection? : FormatterCall → Option (Option PluralSelector × Option String)
  | culture name => (Language.ofCulture name).toOption.map fun language =>
    (some language.selector, some name)
  | selector selector? => selector?.map fun selector => (some selector, none)
  | _ => none

/-- The language of dates and its locale that a call sets if it is accepted. -/
def dating? : FormatterCall → Option (DateLanguage × String)
  | dateLocale locale => (DateLanguage.ofLocale locale).toOption.map fun dates => (dates, locale)
  | _ => none

/-- The policy that a call sets. -/
def policy? : FormatterCall → Option BooleanPolicy
  | booleans policy => some policy
  | _ => none

/-- A call is accepted if there is anything that it sets. -/
def isAccepted (call : FormatterCall) : Bool :=
  call.selection?.isSome || call.dating?.isSome || call.policy?.isSome

end FormatterCall

namespace Formatter

variable {π : Type}

/-- The selector and its culture. -/
def selection (formatter : Formatter π) : Option PluralSelector × Option String :=
  (formatter.selector?, formatter.culture?)

/-- The language of dates and its locale. -/
def dating (formatter : Formatter π) : DateLanguage × String :=
  (formatter.dates, formatter.dateLocale)

/-- A call sets what it sets and leaves the rest. -/
structure Sets (before : Formatter π) (call : FormatterCall) (after : Formatter π) : Prop where
  selection : after.selection = call.selection?.getD before.selection
  dating : after.dating = call.dating?.getD before.dating
  booleans : after.booleans = call.policy?.getD before.booleans

/-- A call is accepted and sets what it sets, or it is refused and there is nothing to set. -/
theorem attempt_cases (formatter : Formatter π) (call : FormatterCall) :
    (∃ configured, formatter.attempt call = .ok configured ∧ call.isAccepted = true ∧
      formatter.Sets call configured) ∨
    ∃ error, formatter.attempt call = .error error ∧ call.isAccepted = false ∧
      formatter.Sets call formatter := by
  cases call with
  | culture name =>
    rw [attempt, setCulture]
    cases found : Language.ofCulture name with
    | ok language =>
      have set : (FormatterCall.culture name).selection? =
          some (some language.selector, some name) := by
        rw [FormatterCall.selection?, found]
        rfl
      exact .inl ⟨_, rfl, by rw [FormatterCall.isAccepted, set]; rfl, by rw [set]; rfl, rfl, rfl⟩
    | error error =>
      have unset : (FormatterCall.culture name).selection? = none := by
        rw [FormatterCall.selection?, found]
        rfl
      exact .inr ⟨_, rfl, by rw [FormatterCall.isAccepted, unset]; rfl, by rw [unset]; rfl, rfl,
        rfl⟩
  | selector selector? =>
    cases selector? with
    | none => exact .inr ⟨_, rfl, rfl, rfl, rfl, rfl⟩
    | some selector => exact .inl ⟨_, rfl, rfl, rfl, rfl, rfl⟩
  | dateLocale locale =>
    rw [attempt, setDateLocale]
    cases found : DateLanguage.ofLocale locale with
    | ok dates =>
      have set : (FormatterCall.dateLocale locale).dating? = some (dates, locale) := by
        rw [FormatterCall.dating?, found]
        rfl
      exact .inl ⟨_, rfl, by rw [FormatterCall.isAccepted, set]; rfl, rfl, by rw [set]; rfl, rfl⟩
    | error error =>
      have unset : (FormatterCall.dateLocale locale).dating? = none := by
        rw [FormatterCall.dating?, found]
        rfl
      exact .inr ⟨_, rfl, by rw [FormatterCall.isAccepted, unset]; rfl, rfl, by rw [unset]; rfl,
        rfl⟩
  | booleans policy => exact .inl ⟨_, rfl, rfl, rfl, rfl, rfl⟩

theorem sets_afterCall (formatter : Formatter π) (call : FormatterCall) :
    formatter.Sets call (formatter.afterCall call) := by
  rw [afterCall]
  rcases formatter.attempt_cases call with ⟨configured, given, -, sets⟩ | ⟨error, given, -, sets⟩
  · rw [given]
    exact sets
  · rw [given]
    exact sets

end Formatter

namespace Configuring

variable {π : Type}

/-- The calls that are answered with a fault are those that set nothing. -/
theorem isOk_outcome_perform (call : FormatterCall) (formatter : Formatter π) :
    ((perform call).outcome formatter).1.isOk = call.isAccepted := by
  rw [outcome_perform]
  rcases formatter.attempt_cases call with ⟨configured, given, set, -⟩ | ⟨error, given, unset, -⟩
  · rw [given, set]
    rfl
  · rw [given, unset]
    rfl

theorem performAll_fst (calls : List FormatterCall) (formatter : Formatter π) :
    ((performAll calls).run formatter).1.map Except.isOk =
      calls.map FormatterCall.isAccepted := by
  induction calls generalizing formatter with
  | nil => rfl
  | cons call calls inductionHypothesis =>
    rw [performAll_cons, List.map_cons, List.map_cons, isOk_outcome_perform, inductionHypothesis]

end Configuring

namespace Formatter

variable {π : Type}

/-- What single calls set is after many what the last of them set, if any of them did. -/
theorem aspect_afterCalls {α : Type} {aspect : Formatter π → α} {set? : FormatterCall → Option α}
    (step : ∀ formatter call,
      aspect (formatter.afterCall call) = (set? call).getD (aspect formatter))
    (formatter : Formatter π) (calls : List FormatterCall) :
    aspect (formatter.afterCalls calls) =
      (calls.filterMap set?).getLast?.getD (aspect formatter) := by
  induction calls generalizing formatter with
  | nil => rfl
  | cons call calls inductionHypothesis =>
    change aspect ((formatter.afterCall call).afterCalls calls) = _
    rw [inductionHypothesis, step, List.filterMap_cons]
    cases set? call with
    | none => rfl
    | some value =>
      rw [List.getLast?_cons]
      cases (calls.filterMap set?).getLast? <;> rfl

/-! ## Coherence -/

/-- A culture is told only with the selector that applies its rules. -/
def CoherentSelection (selection : Option PluralSelector × Option String) : Prop :=
  ∀ culture, selection.2 = some culture →
    ∃ language, Language.ofCulture culture = .ok language ∧
      selection.1 = some language.selector

/-- The language of dates is the one of its locale. -/
def CoherentDating (dating : DateLanguage × String) : Prop :=
  DateLanguage.ofLocale dating.2 = .ok dating.1

/-- The fields of a formatter that belong together go together. -/
structure Coherent (formatter : Formatter π) : Prop where
  selection : CoherentSelection formatter.selection
  dating : CoherentDating formatter.dating

/-- What a call sets goes together, and a selector is part of it. -/
theorem coherentSelection_of_call {call : FormatterCall}
    {selection : Option PluralSelector × Option String} (set : call.selection? = some selection) :
    CoherentSelection selection ∧ selection.1.isSome := by
  cases call with
  | culture name =>
    cases found : Language.ofCulture name with
    | error error => simp [FormatterCall.selection?, found, Except.toOption] at set
    | ok language =>
      obtain rfl : _ = selection := by
        simpa [FormatterCall.selection?, found, Except.toOption] using set
      refine ⟨fun culture told => ?_, rfl⟩
      obtain rfl := Option.some.inj told
      exact ⟨language, found, rfl⟩
  | selector selector? =>
    cases selector? with
    | none => cases set
    | some selector =>
      obtain rfl := Option.some.inj set
      refine ⟨fun culture told => ?_, rfl⟩
      cases told
  | dateLocale locale => cases set
  | booleans policy => cases set

theorem coherentDating_of_call {call : FormatterCall} {dating : DateLanguage × String}
    (set : call.dating? = some dating) : CoherentDating dating := by
  cases call with
  | dateLocale locale =>
    cases found : DateLanguage.ofLocale locale with
    | error error => simp [FormatterCall.dating?, found, Except.toOption] at set
    | ok dates =>
      obtain rfl : _ = dating := by
        simpa [FormatterCall.dating?, found, Except.toOption] using set
      exact found
  | culture name => cases set
  | selector selector? => cases set
  | booleans policy => cases set

theorem Coherent.afterCall {formatter : Formatter π} (coherent : formatter.Coherent)
    (call : FormatterCall) : (formatter.afterCall call).Coherent := by
  obtain ⟨selection, dating, -⟩ := formatter.sets_afterCall call
  constructor
  · rw [selection]
    cases set : call.selection? with
    | none => exact coherent.selection
    | some selection => exact (coherentSelection_of_call set).1
  · rw [dating]
    cases set : call.dating? with
    | none => exact coherent.dating
    | some dating => exact coherentDating_of_call set

theorem Coherent.afterCalls {formatter : Formatter π} (coherent : formatter.Coherent)
    (calls : List FormatterCall) : (formatter.afterCalls calls).Coherent := by
  induction calls generalizing formatter with
  | nil => exact coherent
  | cons call calls inductionHypothesis => exact inductionHypothesis (coherent.afterCall call)

/-- A formatter has lost no selector to calls: it was made without one and no call set one. -/
theorem selector?_of_afterCalls {formatter : Formatter π} {calls : List FormatterCall}
    (absent : (formatter.afterCalls calls).selector? = none) :
    formatter.selector? = none ∧ ∀ call ∈ calls, call.selection? = none := by
  have last := aspect_afterCalls (fun formatter call => (sets_afterCall formatter call).selection)
    formatter calls
  cases set : (calls.filterMap FormatterCall.selection?).getLast? with
  | none =>
    rw [set] at last
    refine ⟨(congrArg Prod.fst last).symm.trans absent, ?_⟩
    exact List.filterMap_eq_nil_iff.mp (List.getLast?_eq_none_iff.mp set)
  | some selection =>
    obtain ⟨call, -, setByCall⟩ := List.mem_filterMap.mp (List.mem_of_getLast? set)
    have selector := (coherentSelection_of_call setByCall).2
    rw [set] at last
    rw [← show _ = selection from last, Formatter.selection, absent] at selector
    cases selector

/-! ## Formatters that are made and called -/

/-- The ways to make a formatter. -/
inductive Construction (π : Type) where
  | built (options : FormatterOptions π)
  | standard
  | bare

/-- The formatter that is made. -/
def Construction.make : Construction π → Except ConfigError (Formatter π)
  | built options => build options
  | standard => .ok .standard
  | bare => .ok .bare

/-- The formatter is the one that is to be made: the standard one is what no options ask for in
particular, and the bare one is the same without a selector. -/
def Construction.Describe : Construction π → Formatter π → Prop
  | built options, formatter => options.Describe formatter
  | standard, formatter => FormatterOptions.Describe {} formatter
  | bare, formatter => ∃ whole, FormatterOptions.Describe {} whole ∧
      formatter = { whole with selector? := none, culture? := none }

theorem build_default : build ({} : FormatterOptions π) = .ok standard := by cbv

theorem describe_iff_eq_standard {formatter : Formatter π} :
    FormatterOptions.Describe {} formatter ↔ formatter = standard := by
  rw [← build_eq_ok_iff, build_default, Except.ok.injEq, eq_comm]

/-- However a formatter is made, it is the one that is to be made. -/
theorem make_eq_ok_iff {construction : Construction π} {formatter : Formatter π} :
    construction.make = .ok formatter ↔ construction.Describe formatter := by
  cases construction with
  | built options => exact build_eq_ok_iff
  | standard =>
    rw [Construction.make, Construction.Describe, describe_iff_eq_standard, Except.ok.injEq,
      eq_comm]
  | bare =>
    simp only [Construction.make, Construction.Describe, describe_iff_eq_standard, exists_eq_left,
      Except.ok.injEq]
    exact eq_comm

theorem coherentSelection_of_select {options : FormatterOptions π}
    {selector? : Option PluralSelector} {culture? : Option String}
    (selects : options.Select selector? culture?) : CoherentSelection (selector?, culture?) := by
  intro culture told
  unfold FormatterOptions.Select at selects
  split at selects
  · cases selects.2.symm.trans told
  · obtain ⟨given, language, found, rfl⟩ := selects
    obtain rfl := Option.some.inj (given.symm.trans told)
    exact ⟨language, found, rfl⟩

theorem coherent_of_describe {options : FormatterOptions π} {formatter : Formatter π}
    (described : options.Describe formatter) : formatter.Coherent :=
  ⟨coherentSelection_of_select described.selection, described.dates⟩

/-- However a formatter is made, its fields go together. -/
theorem coherent_of_make {construction : Construction π} {formatter : Formatter π}
    (made : construction.make = .ok formatter) : formatter.Coherent := by
  have described := make_eq_ok_iff.mp made
  cases construction with
  | built options => exact coherent_of_describe described
  | standard => exact coherent_of_describe described
  | bare =>
    obtain ⟨whole, described, rfl⟩ := described
    refine ⟨fun culture told => ?_, described.dates⟩
    cases told

/-- Only one way to make a formatter leaves it without a selector. -/
theorem eq_bare_of_selector? {construction : Construction π} {formatter : Formatter π}
    (made : construction.make = .ok formatter) (absent : formatter.selector? = none) :
    construction = .bare := by
  have selects {options : FormatterOptions π} (described : options.Describe formatter) : False := by
    have present := described.selection.isSome
    rw [absent] at present
    cases present
  have described := make_eq_ok_iff.mp made
  cases construction with
  | built options => exact (selects described).elim
  | standard => exact (selects described).elim
  | bare => rfl

/-- A formatter is made as it is asked for. After any calls, accepted or refused, it is coherent: a
culture is told only with its rules, the language of dates is the one of its locale, and a refused
call changes nothing. It has no selector only if it was made without and no accepted call set one.
Each field is what the last accepted call that sets it made of it, or what it was made with. -/
theorem coherent_performAll {construction : Construction π} {start : Formatter π}
    (made : construction.make = .ok start) {calls : List FormatterCall}
    {answers : List (Except ConfigError Unit)} {after : Formatter π}
    (performed : (Configuring.performAll calls).run start = (answers, after)) :
    construction.Describe start ∧
    (∀ culture, after.culture? = some culture →
      ∃ language, Language.ofCulture culture = .ok language ∧
        after.selector? = some language.selector) ∧
    DateLanguage.ofLocale after.dateLocale = .ok after.dates ∧
    (∀ call error next,
      (Configuring.perform call).outcome after = (.error error, next) → next = after) ∧
    answers.map Except.isOk = calls.map FormatterCall.isAccepted ∧
    (after.selector? = none →
      construction = .bare ∧ ∀ call ∈ calls, call.selection? = none) ∧
    (after.selector?, after.culture?) =
      (calls.filterMap FormatterCall.selection?).getLast?.getD
        (start.selector?, start.culture?) ∧
    (after.dates, after.dateLocale) =
      (calls.filterMap FormatterCall.dating?).getLast?.getD (start.dates, start.dateLocale) ∧
    after.booleans = (calls.filterMap FormatterCall.policy?).getLast?.getD start.booleans := by
  obtain rfl : answers = _ := (congrArg Prod.fst performed).symm
  obtain rfl : after = start.afterCalls calls := by
    rw [← Configuring.performAll_snd, performed]
  have coherent := (coherent_of_make made).afterCalls calls
  refine ⟨make_eq_ok_iff.mp made, coherent.selection, coherent.dating,
    fun call error next refused => ?_,
    Configuring.performAll_fst calls start, fun absent => ?_, ?_, ?_, ?_⟩
  · exact Configuring.eq_of_outcome_error refused
  · obtain ⟨before, unset⟩ := selector?_of_afterCalls absent
    exact ⟨eq_bare_of_selector? made before, unset⟩
  · exact aspect_afterCalls (fun formatter call => (sets_afterCall formatter call).selection)
      start calls
  · exact aspect_afterCalls (fun formatter call => (sets_afterCall formatter call).dating)
      start calls
  · exact aspect_afterCalls (fun formatter call => (sets_afterCall formatter call).booleans)
      start calls

/-- The formatter that is built for German rules and for truth values. -/
def germanRendering : Formatter Unit :=
  { standard with
    selector? := some Language.de.selector, culture? := some "de", booleans := .render }

/-- A bare formatter is taught German rules; what it refuses afterwards leaves them and English
dates. One that is built for German rules and truth values has both, also with German dates. -/
theorem coherent_performAll_german :
    (Configuring.performAll [.culture "de-AT", .selector none, .dateLocale "fr"]).run
        (bare : Formatter Unit) =
      ([.ok (), .error .pluralFunctionRequired, .error (.unknownDateLocale "fr")],
        { bare with selector? := some Language.de.selector, culture? := some "de-AT" }) ∧
    (∃ language, Language.ofCulture "de-AT" = .ok language ∧
      some Language.de.selector = some language.selector) ∧
    build { culture? := some "de", booleans := .render } = .ok germanRendering ∧
    (Configuring.performAll [.dateLocale "de"]).run germanRendering =
      ([.ok ()], { germanRendering with dates := .german, dateLocale := "de" }) ∧
    FormatterOptions.Describe { culture? := some "de", booleans := .render } germanRendering ∧
    germanRendering.booleans = .render := by
  have performed : (Configuring.performAll [.culture "de-AT", .selector none,
      .dateLocale "fr"]).run (bare : Formatter Unit) =
      ([.ok (), .error .pluralFunctionRequired, .error (.unknownDateLocale "fr")],
        { bare with selector? := some Language.de.selector, culture? := some "de-AT" }) := by
    cbv
  have made : (Construction.bare : Construction Unit).make = .ok bare := rfl
  have built : (Construction.built { culture? := some "de", booleans := .render }).make =
      .ok germanRendering := by cbv
  have dated : (Configuring.performAll [.dateLocale "de"]).run germanRendering =
      ([.ok ()], { germanRendering with dates := .german, dateLocale := "de" }) := by cbv
  have taught := coherent_performAll made performed
  obtain ⟨described, -, -, -, -, -, -, -, kept⟩ := coherent_performAll built dated
  exact ⟨performed, taught.2.1 "de-AT" rfl, built, dated, described, kept⟩

end Formatter

end MessageTemplate
