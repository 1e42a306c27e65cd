import MessageTemplate.Proofs.Registration
import MessageTemplate.Proofs.Simulation

/-!
# Richer configurations

A formatter is richer than another one if it selects categories where the other one selects none,
gives truth values a text that have none there, or knows more kinds. What the poorer formatter
writes, the richer one writes too: each step that has a result keeps it, and where a step of the
poorer one fails, nothing is said of the richer one.
-/

namespace MessageTemplate

/-! ## Results that are kept -/

/-- The second answer is the first one, unless the first one is a fault. -/
def Keeps {ε α : Type} (first second : Except ε α) : Prop :=
  ∀ value, first = .ok value → second = .ok value

namespace Keeps

variable {ε α β : Type} {first second : Except ε α}

theorem refl (result : Except ε α) : Keeps result result := fun _ given => given

theorem of_error (error : ε) (second : Except ε α) : Keeps (.error error) second := by
  intro value given
  cases given

/-- Answers that are composed of kept ones are kept. -/
theorem bind {next other : α → Except ε β} (step : Keeps first second)
    (onward : ∀ value, Keeps (next value) (other value)) :
    Keeps (first >>= next) (second >>= other) := by
  intro result given
  obtain ⟨value, found, rest⟩ := bind_eq_ok_iff.mp given
  exact bind_eq_ok_iff.mpr ⟨value, step value found, onward value result rest⟩

theorem ite {condition : Prop} [Decidable condition] {left right : Except ε α}
    (positive : Keeps first second) (negative : Keeps left right) :
    Keeps (if condition then first else left) (if condition then second else right) := by
  split
  · exact positive
  · exact negative

end Keeps

namespace Evaluation

variable {α β : Type}

/-- What the first action comes to without a fault, the second one comes to as well. -/
def keeping : Congruence where
  Relates first second := ∀ state value after, first.outcome state = (.ok value, after) →
    second.outcome state = (.ok value, after)
  relates_pure _ _ _ _ done := done
  relates_bind := by
    intro α β first second next other step onward state result after done
    rw [outcome_bind] at done
    rcases came : first.outcome state with ⟨error | value, between⟩
    · rw [came] at done
      cases done
    · rw [came] at done
      rw [outcome_bind_of_ok (step state value between came)]
      exact onward value between result after done

theorem keeping_refl (action : Evaluation α) : keeping.Relates action action :=
  fun _ _ _ done => done

theorem keeping_lift {first second : Except FormatError α} (kept : Keeps first second) :
    keeping.Relates (lift first) (lift second) := by
  intro state value after done
  rw [outcome_lift] at done ⊢
  obtain ⟨found, rfl⟩ := Prod.mk.inj done
  rw [kept value found]

end Evaluation

namespace Formatter

variable {π : Type} {poor rich : Formatter π}

/-- The second formatter differs from the first one at most in that it has a selector where the
first has none, that truth values have a text where they have none in the first, and that further
kinds were registered, by calls that were accepted or refused. The culture and the locale are
names for inspection, and formatting makes no use of them. -/
structure Enriches (poor rich : Formatter π) : Prop where
  selector : poor.selector? = none ∨ rich.selector? = poor.selector?
  booleans : poor.booleans = .reject ∨ rich.booleans = poor.booleans
  kinds : ∃ calls, rich.kinds = poor.kinds.afterCalls calls
  dates : rich.dates = poor.dates
  maxDepth : rich.maxDepth = poor.maxDepth

/-! ## Texts and numbers -/

/-- A text of a value stays its text when truth values get one. -/
theorem keeps_value_text {before after : BooleanPolicy}
    (policy : before = .reject ∨ after = before) (value : Value) :
    Keeps (value.text before) (value.text after) := by
  rcases policy with rfl | rfl
  · cases value with
    | bool truth => exact .of_error _ _
    | null | string | number | duration | datetime | display | list | map => exact .refl _
  · exact .refl _

theorem Enriches.keeps_render (enriched : poor.Enriches rich) (args : Args) (value : Value) :
    Keeps ((poor.scope args).render value) ((rich.scope args).render value) :=
  keeps_value_text enriched.booleans value

variable {args : Args}

theorem Enriches.keeps_text (enriched : poor.Enriches rich) (name : String) :
    Keeps ((poor.scope args).text name) ((rich.scope args).text name) := by
  rw [Scope.text, Scope.text, Args.text, Args.text, scope, scope]
  dsimp only
  split
  · exact .refl _
  · exact enriched.keeps_render args _

theorem Enriches.keeps_categoryName (enriched : poor.Enriches rich) (number : Number)
    (type : PluralType) :
    Keeps (poor.categoryName number type) (rich.categoryName number type) := by
  rw [categoryName, categoryName]
  rcases enriched.selector with absent | same
  · rw [absent]
    exact .of_error _ _
  · rw [same]
    exact .refl _

/-! ## Steps of an evaluation -/

/-- What an expression is resolved to stays so: an absent argument and a choice for exactly one
amount ask no selector, and a category that is named is named again. -/
theorem Enriches.keeps_resolve (enriched : poor.Enriches rich) (kind : ChoiceKind) (key : String)
    (choices : Choices π) (offset : UInt64) :
    Keeps (poor.resolve (poor.scope args) kind key choices offset)
      (rich.resolve (rich.scope args) kind key choices offset) := by
  cases kind with
  | select =>
    apply (enriched.keeps_text key).bind
    exact fun text => .refl _
  | selectOrdinal =>
    rw [resolve, resolve, resolveOrdinal, resolveOrdinal, scope, scope]
    dsimp only
    split
    · exact .refl _
    apply (Keeps.refl _).bind
    intro number
    apply (enriched.keeps_categoryName number .ordinal).bind
    intro category
    apply (enriched.keeps_render args _).bind
    exact fun text => .refl _
  | plural =>
    rw [resolve, resolve, resolvePlural, resolvePlural, scope, scope]
    dsimp only
    split
    · exact .refl _
    apply (Keeps.refl _).bind
    intro exact
    apply (enriched.keeps_render args _).bind
    intro text
    apply Keeps.ite (.refl _)
    apply (Keeps.refl _).bind
    intro number
    apply (enriched.keeps_categoryName _ .cardinal).bind
    exact fun category => .refl _

/-- A registered kind that writes an expression keeps its formatting half. -/
theorem Enriches.keeps_customWriter (enriched : poor.Enriches rich)
    (expression : CustomExpression π) :
    Keeps (poor.customWriter (poor.scope args) expression)
      (rich.customWriter (rich.scope args) expression) := by
  obtain ⟨calls, extended⟩ := enriched.kinds
  rw [customWriter, customWriter, extended]
  cases known : poor.kinds.get? expression.kind with
  | none => exact .of_error _ _
  | some kind =>
    rw [KindRegistry.get?_afterCalls_of_get? known calls]
    exact .refl _

/-- On every tree, the richer formatter keeps what the poorer one comes to. -/
theorem Enriches.relatesOn (enriched : poor.Enriches rich) (args : Args) (tree : Tree π) :
    RelatesOn Evaluation.keeping poor rich (poor.scope args) (rich.scope args) tree where
  write text := Evaluation.keeping_refl _
  deeper := by
    apply Evaluation.keeping.relates_deeper
    · rw [Evaluation.enter_congr (show (poor.scope args).maxDepth = (rich.scope args).maxDepth from
        enriched.maxDepth.symm)]
      exact Evaluation.keeping_refl _
    · exact Evaluation.keeping_refl _
  text name _ := Evaluation.keeping_lift (enriched.keeps_text name)
  resolve kind key choices offset _ :=
    Evaluation.keeping_lift (enriched.keeps_resolve kind key choices offset)
  day key width _ := by
    rw [dateText, dateText, enriched.dates]
    exact Evaluation.keeping_refl _
  custom kind key payload _ := by
    apply Evaluation.keeping.relates_bind
    · exact Evaluation.keeping_lift (enriched.keeps_customWriter _)
    · exact fun writer => Evaluation.keeping_refl _

/-- Whatever text a formatter gives to a tree and arguments, every formatter that is richer gives
the same text. -/
theorem format_eq_ok_of_enriches (enriched : poor.Enriches rich) (tree : Tree π) (args : Args)
    {text : String} (formatted : poor.format tree args = .ok text) :
    rich.format tree args = .ok text := by
  rw [format_eq] at formatted
  rcases came : (evaluateTree poor (poor.scope args) "" tree).outcome ⟨0, ""⟩ with
    ⟨error | value, after⟩
  · rw [came] at formatted
    cases formatted
  · rw [came] at formatted
    obtain rfl := Except.ok.inj formatted
    have kept := (enriched.relatesOn args tree).evaluateTree ""
    exact format_of_outcome (kept ⟨0, ""⟩ value after came)

/-- A formatter without a selector that knows a kind, whose expressions write their keys. -/
def naming : Formatter Unit :=
  { (bare : Formatter Unit) with
    kinds := ⟨[("name", ⟨none, some fun expression _ => Writer.append expression.key⟩)]⟩ }

/-- The same with German rules and texts for truth values, and with one kind more. A second
registration of the first one was refused. -/
def namingInGerman : Formatter Unit :=
  { naming with
    selector? := some Language.de.selector
    culture? := some "de"
    booleans := .render
    kinds := naming.kinds.afterCalls [("name", ⟨none, none⟩), ("hum", ⟨none, none⟩)] }

/-- A tree that no template has: its plural has one choice, for exactly one amount. -/
theorem format_eq_ok_of_enriches_exact :
    naming.Enriches namingInGerman ∧
    naming.format
        [.plural "n" [("=1", [.literal [.text "one ", .pound, .text " "]])] 0,
          .custom "name" "key" ()] (Args.empty.insert "n" (.number (.int 1))) =
      .ok "one 1 key" ∧
    namingInGerman.format
        [.plural "n" [("=1", [.literal [.text "one ", .pound, .text " "]])] 0,
          .custom "name" "key" ()] (Args.empty.insert "n" (.number (.int 1))) =
      .ok "one 1 key" := by
  have enriched : naming.Enriches namingInGerman := ⟨.inl rfl, .inl rfl, ⟨_, rfl⟩, rfl, rfl⟩
  have formatted : naming.format
      [.plural "n" [("=1", [.literal [.text "one ", .pound, .text " "]])] 0,
        .custom "name" "key" ()] (Args.empty.insert "n" (.number (.int 1))) =
      .ok "one 1 key" := by cbv
  exact ⟨enriched, formatted, format_eq_ok_of_enriches enriched _ _ formatted⟩

end Formatter

end MessageTemplate
