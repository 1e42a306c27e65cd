import MessageTemplate.Proofs.Agreement

/-!
# Which arguments matter

A tree without registered kinds is formatted by the arguments that it names and by no others, and
of those a null is as good as none. Two maps of arguments with the same present values under these
names make the same output or the same fault. Only the fault of a date tells a null from nothing.
-/

namespace MessageTemplate

/-- The name under which a constituent asks for its argument. A registered kind may ask for any
argument, whatever its own key is. -/
def Node.argument? {π : Type} : Node π → Option String
  | .var name => some name
  | .select key _ | .selectOrdinal key _ | .plural key _ _ | .date key _ => some key
  | .literal _ | .custom _ _ _ => none

theorem Node.argument?_node {π : Type} (kind : ChoiceKind) (key : String) (choices : Choices π)
    (offset : UInt64) : (kind.node key choices offset).argument? = some key := by
  cases kind <;> rfl

/-- A name stands somewhere in a tree: of a variable, or as the key of choices or of a date. -/
def Tree.Names {π : Type} (tree : Tree π) (name : String) : Prop :=
  ∃ node, tree.Occurs node ∧ node.argument? = some name

/-! ## Faults that tell the same -/

/-- Two faults are the same, or a date has met a null in one place and nothing in the other. -/
inductive FormatError.Alike : FormatError → FormatError → Prop where
  | refl (error : FormatError) : Alike error error
  | nullAbsent : Alike (.invalidArgType .datetime "null") (.invalidArgType .datetime "absent")
  | absentNull : Alike (.invalidArgType .datetime "absent") (.invalidArgType .datetime "null")

/-- The same value, or faults that tell the same. -/
inductive Alike {α : Type} : Except FormatError α → Except FormatError α → Prop where
  | ok (value : α) : Alike (.ok value) (.ok value)
  | error {left right : FormatError} (alike : left.Alike right) : Alike (.error left) (.error right)

theorem Alike.refl {α : Type} (answer : Except FormatError α) : Alike answer answer := by
  cases answer with
  | ok value => exact .ok value
  | error error => exact .error (.refl error)

namespace Evaluation

/-- Both actions lead to the same state, with the same value or with faults that tell the same. -/
def likeness : Congruence where
  Relates first second := ∀ state, (second.outcome state).2 = (first.outcome state).2 ∧
    Alike (first.outcome state).1 (second.outcome state).1
  relates_pure value _ := ⟨rfl, .ok value⟩
  relates_bind := by
    intro α β first second next other step onward state
    obtain ⟨same, alike⟩ := step state
    rcases came : first.outcome state with ⟨result, between⟩
    rcases went : second.outcome state with ⟨answer, place⟩
    rw [came, went] at same alike
    obtain rfl : place = between := same
    rw [outcome_bind, outcome_bind, came, went]
    cases alike with
    | ok value => exact onward value place
    | error alike => exact ⟨rfl, .error alike⟩

theorem likeness_refl {α : Type} (action : Evaluation α) : likeness.Relates action action :=
  fun _ => ⟨rfl, .refl _⟩

theorem likeness_lift {α : Type} {first second : Except FormatError α}
    (alike : Alike first second) : likeness.Relates (lift first) (lift second) := by
  intro state
  rw [outcome_lift, outcome_lift]
  exact ⟨rfl, alike⟩

end Evaluation

/-! ## Present values -/

namespace Args

variable {args other : Args} {key : String}

/-- Nothing is present where a name is not bound, or bound to null. -/
theorem present?_eq_none_iff :
    args.present? key = none ↔ args.get? key = none ∨ args.get? key = some .null := by
  rw [present?]
  cases args.get? key with
  | none => simp
  | some value => cases value <;> simp [Value.isNull]

theorem get?_of_present? {value : Value} (present : args.present? key = some value) :
    args.get? key = some value := by
  rw [present?, Option.filter_eq_some_iff] at present
  exact present.1

end Args

namespace Formatter

variable {π : Type} {formatter : Formatter π}

/-- The fault of a date shows whether a name is bound to null; the day of a date does not. -/
theorem dateText_alike {left right : Scope} {key : String}
    (same : left.args.present? key = right.args.present? key) (width : DateWidth) :
    Alike (formatter.dateText left key width) (formatter.dateText right key width) := by
  rw [dateText, dateText]
  cases present : right.args.present? key with
  | some value =>
    rw [Args.get?_of_present? present, Args.get?_of_present? (same.trans present)]
    exact .refl _
  | none =>
    rcases Args.present?_eq_none_iff.mp present with absent | null
    all_goals rcases Args.present?_eq_none_iff.mp (same.trans present) with absent' | null'
    · rw [absent, absent']
      exact .refl _
    · rw [absent, null']
      exact .error .nullAbsent
    · rw [null, absent']
      exact .error .absentNull
    · rw [null, null']
      exact .refl _

variable {tree : Tree π} {args other : Args}

/-- Maps with the same present values under the names of a tree answer alike all that it asks. -/
theorem relatesOn_of_present? (formatter : Formatter π) (builtin : tree.IsBuiltin)
    (same : ∀ name, tree.Names name → args.present? name = other.present? name) :
    RelatesOn Evaluation.likeness formatter formatter (formatter.scope args)
      (formatter.scope other) tree where
  write _ := Evaluation.likeness_refl _
  deeper := Evaluation.likeness.relates_deeper (Evaluation.likeness_refl _)
    (Evaluation.likeness_refl _)
  text name occurs := by
    have text : (formatter.scope args).text name = (formatter.scope other).text name :=
      text_congr rfl (same name ⟨_, occurs, rfl⟩)
    rw [text]
    exact Evaluation.likeness_refl _
  resolve kind key choices offset occurs := by
    have named : tree.Names key := ⟨_, occurs, Node.argument?_node kind key choices offset⟩
    have resolution : formatter.resolve (formatter.scope args) kind key choices offset =
        formatter.resolve (formatter.scope other) kind key choices offset := by
      apply resolve_congr
      · rfl
      · exact same key named
    rw [resolution]
    exact Evaluation.likeness_refl _
  day key width occurs := by
    apply Evaluation.likeness_lift
    exact dateText_alike (same key ⟨_, occurs, rfl⟩) width
  custom kind key payload occurs := absurd occurs (builtin kind key payload)

/-- A tree without registered kinds has the same text with all arguments that have the same
present values under the names of the tree, or the same fault, but for a date that has met a null
with the ones and nothing with the others. -/
theorem format_alike_of_present?_eq (formatter : Formatter π) (builtin : tree.IsBuiltin)
    (same : ∀ name, tree.Names name → args.present? name = other.present? name) :
    Alike (formatter.format tree args) (formatter.format tree other) := by
  have steps := relatesOn_of_present? formatter builtin same
  obtain ⟨state, alike⟩ := steps.evaluateTree "" ⟨0, ""⟩
  rw [format_eq, format_eq]
  rcases came : (evaluateTree formatter (formatter.scope args) "" tree).outcome ⟨0, ""⟩ with
    ⟨result, after⟩
  rcases went : (evaluateTree formatter (formatter.scope other) "" tree).outcome ⟨0, ""⟩ with
    ⟨answer, place⟩
  rw [came, went] at state alike
  obtain rfl : place = after := state
  cases alike with
  | ok value => exact .ok _
  | error alike => exact .error alike

/-- A tree that asks for a person and for a day. -/
def dated : Tree Unit :=
  [.select "who" [("other", [.literal [.text "by ", .pound]])], .date "day" .short]

/-- What occurs in this tree is literal text, or it asks for the person or for the day. -/
theorem occurs_dated {node : Node Unit} (occurs : dated.Occurs node) :
    node.IsLiteral ∨ node.argument? = some "who" ∨ node.argument? = some "day" := by
  cases occurs with
  | here member =>
    rcases List.mem_cons.mp member with rfl | member
    · exact .inr (.inl rfl)
    · obtain rfl := List.mem_singleton.mp member
      exact .inr (.inr rfl)
  | @inside _ kind key choices offset choice expression listed within =>
    have body : choice.2 = [.literal [.text "by ", .pound]] := by
      cases kind <;> simp [dated, ChoiceKind.node] at expression
      obtain ⟨rfl, rfl⟩ := expression
      obtain rfl := List.mem_singleton.mp listed
      rfl
    rw [body] at within
    cases within with
    | here member => exact .inl ⟨_, List.mem_singleton.mp member⟩
    | @inside _ kind _ _ _ _ expression =>
      cases kind <;> simp [ChoiceKind.node] at expression

/-- The day is null in the first map and not bound in the other one, and only the first map binds
a name that the tree does not have. -/
theorem format_alike_of_present?_eq_null :
    dated.IsBuiltin ∧
    (∀ name, dated.Names name →
      (((Args.empty.insert "who" (.string "me")).insert "day" .null).insert "how"
        (.bool true)).present? name = (Args.empty.insert "who" (.string "me")).present? name) ∧
    Alike
      ((standard : Formatter Unit).format dated
        (((Args.empty.insert "who" (.string "me")).insert "day" .null).insert "how" (.bool true)))
      ((standard : Formatter Unit).format dated (Args.empty.insert "who" (.string "me"))) := by
  have builtin : dated.IsBuiltin := by
    intro kind key payload occurs
    rcases occurs_dated occurs with ⟨parts, same⟩ | asked | asked
    · cases same
    · cases asked
    · cases asked
  have same : ∀ name, dated.Names name →
      (((Args.empty.insert "who" (.string "me")).insert "day" .null).insert "how"
        (.bool true)).present? name = (Args.empty.insert "who" (.string "me")).present? name := by
    rintro name ⟨node, occurs, asked⟩
    rcases occurs_dated occurs with ⟨parts, rfl⟩ | who | day
    · cases asked
    · obtain rfl := Option.some.inj (asked.symm.trans who)
      rfl
    · obtain rfl := Option.some.inj (asked.symm.trans day)
      rfl
  exact ⟨builtin, same, format_alike_of_present?_eq standard builtin same⟩

end Formatter

end MessageTemplate
