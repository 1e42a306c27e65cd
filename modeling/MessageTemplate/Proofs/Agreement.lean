import MessageTemplate.Proofs.Simulation

/-!
# Scopes that a tree cannot tell apart

An evaluation asks its scope for the texts of variables and days, for the resolutions of choices
and for the writers of registered kinds, and it asks for nothing else but the limit. Two scopes
that answer what a tree asks alike therefore evaluate it alike, whatever else they hold.
-/

namespace MessageTemplate

/-- Actions that are the same. -/
def Evaluation.sameness : Evaluation.Congruence where
  Relates first second := first = second
  relates_pure _ := rfl
  relates_bind := by
    rintro α β first _ next other rfl onward
    exact congrArg _ (funext onward)

/-- Where nothing is present, the text is empty: a null has an empty text as well. -/
theorem Args.text_eq_present? (args : Args) (name : String) (booleans : BooleanPolicy) :
    args.text name booleans =
      match args.present? name with
      | none => .ok ""
      | some value => value.text booleans := by
  rw [text, present?]
  cases args.get? name with
  | none => rfl
  | some value => cases value <;> rfl

namespace Formatter

variable {π : Type} {formatter : Formatter π} {left right : Scope} {tree : Tree π}

/-! ## Names with the same values -/

section Names

variable {key : String} (booleans : left.booleans = right.booleans)
  (same : left.args.present? key = right.args.present? key)

include booleans same

theorem text_congr : left.text key = right.text key := by
  rw [Scope.text, Scope.text, Args.text_eq_present?, Args.text_eq_present?, same, booleans]

/-- A choice is resolved by the value that is present under its own name. -/
theorem resolve_congr (kind : ChoiceKind) (choices : Choices π) (offset : UInt64) :
    formatter.resolve left kind key choices offset =
      formatter.resolve right kind key choices offset := by
  have render : left.render = right.render := by
    funext value
    rw [Scope.render, Scope.render, booleans]
  cases kind with
  | select => rw [resolve, resolve, resolveSelect, resolveSelect, text_congr booleans same]
  | selectOrdinal => rw [resolve, resolve, resolveOrdinal, resolveOrdinal, same, render]
  | plural => rw [resolve, resolve, resolvePlural, resolvePlural, same, render]

end Names

/-! ## Whole trees -/

/-- Two scopes have the same limit and answer alike what the constituents of a tree ask. -/
structure AgreeOn (formatter : Formatter π) (left right : Scope) (tree : Tree π) : Prop where
  limit : left.maxDepth = right.maxDepth
  text : ∀ name, tree.Occurs (.var name) → left.text name = right.text name
  resolve : ∀ (kind : ChoiceKind) (key : String) (choices : Choices π) (offset : UInt64),
    tree.Occurs (kind.node key choices offset) →
      formatter.resolve left kind key choices offset =
        formatter.resolve right kind key choices offset
  day : ∀ key width, tree.Occurs (.date key width) →
    formatter.dateText left key width = formatter.dateText right key width
  writer : ∀ kind key payload, tree.Occurs (.custom kind key payload) →
    formatter.customWriter left ⟨kind, key, payload⟩ =
      formatter.customWriter right ⟨kind, key, payload⟩

/-- What an evaluation does in scopes that agree on a tree is the same for each constituent. -/
theorem AgreeOn.relatesOn (agree : formatter.AgreeOn left right tree) :
    RelatesOn Evaluation.sameness formatter formatter left right tree where
  write _ := rfl
  deeper := Evaluation.sameness.relates_deeper (Evaluation.enter_congr agree.limit) rfl
  text name occurs := congrArg _ (agree.text name occurs)
  resolve kind key choices offset occurs :=
    congrArg _ (agree.resolve kind key choices offset occurs)
  day key width occurs := congrArg _ (agree.day key width occurs)
  custom kind key payload occurs :=
    congrArg (Evaluation.lift · >>= Evaluation.ofWriter) (agree.writer kind key payload occurs)

/-- Scopes that agree on a tree evaluate it alike. -/
theorem AgreeOn.evaluateTree_eq (agree : formatter.AgreeOn left right tree) (pound : String) :
    evaluateTree formatter left pound tree = evaluateTree formatter right pound tree :=
  agree.relatesOn.evaluateTree pound

/-- Arguments whose scopes agree on a tree format it alike. -/
theorem AgreeOn.format_eq {args other : Args}
    (agree : formatter.AgreeOn (formatter.scope args) (formatter.scope other) tree) :
    formatter.format tree args = formatter.format tree other := by
  rw [Formatter.format_eq, Formatter.format_eq, agree.evaluateTree_eq]

end Formatter

end MessageTemplate
