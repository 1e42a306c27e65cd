import MessageTemplate.Proofs.Agreement
import MessageTemplate.Proofs.Amounts

/-!
# Integers and their numerals

An argument that is an integer may be given as a word or as its decimal text. A formatter cannot
tell the two apart if its selector cannot tell two words apart that hold the same integer, and
the rules of a language cannot. Only dates would tell: they take neither, but their fault names
the type of the argument.
-/

namespace MessageTemplate

/-- The decimal text of a word's integer is an integer, with that text as its own. -/
theorem Value.isInteger_numeral {number : Number} {amount : Int}
    (holds : number.integer? = some amount) :
    IsInteger (.string (toString amount)) (toString amount) amount := by
  cases number with
  | int word =>
    obtain rfl := Option.some.inj holds
    exact .signed (Decimal.int64?_eq_some_iff.mpr (Decimal.integer?_toString word.toInt))
  | uint word =>
    obtain rfl := Option.some.inj holds
    exact .unsigned (Decimal.uint64?_toString word)
  | float value => cases holds

namespace Formatter

variable {π : Type} {formatter : Formatter π} {left right : Scope} {key : String}

theorem dateText_congr (same : left.args.get? key = right.args.get? key) (width : DateWidth) :
    formatter.dateText left key width = formatter.dateText right key width := by
  rw [dateText, dateText, same]

/-! ## A name that is bound to one integer in two ways -/

/-- Numbers that are alike have the same categories. -/
def SelectsByAmount (formatter : Formatter π) : Prop :=
  ∀ (left right : Number) (type : PluralType), left.Alike right →
    formatter.categoryName left type = formatter.categoryName right type

/-- The rules of a language select by amount, however they are built. -/
theorem selectsByAmount_of_selector {build : RuleBuilder} {language : Language}
    (selects : formatter.selector? = some (build.selector language)) :
    formatter.SelectsByAmount := by
  intro left right type alike
  rw [categoryName, categoryName, selects]
  exact congrArg Except.ok (build.selector_congr language alike type)

variable {first second : Value} {text : String} {amount : Int}

/-- A choice is resolved alike by two values that are one integer with one text. -/
theorem resolve_eq_of_isInteger (selects : formatter.SelectsByAmount)
    (integer : first.IsInteger text amount) (bound : left.args.get? key = some first)
    (other : second.IsInteger text amount) (boundOther : right.args.get? key = some second)
    (kind : ChoiceKind) (choices : Choices π) {offset : UInt64}
    (small : kind = .plural → offset.toNat ≤ Number.maxInt) :
    formatter.resolve left kind key choices offset =
      formatter.resolve right kind key choices offset := by
  obtain ⟨number, denoted, holds⟩ := integer.exists_number
  obtain ⟨numeral, denotedOther, holdsOther⟩ := other.exists_number
  have alike : number.Alike numeral := .inr ⟨amount, holds, holdsOther⟩
  cases kind with
  | select =>
    rw [resolve, resolve, resolveSelect_of_isInteger integer bound,
      resolveSelect_of_isInteger other boundOther]
  | selectOrdinal =>
    rw [resolve, resolve, resolveOrdinal_of_isInteger integer bound denoted,
      resolveOrdinal_of_isInteger other boundOther denotedOther, selects _ _ _ alike]
  | plural =>
    have difference := alike.minus (small rfl)
    rw [resolve, resolve, resolvePlural_of_isInteger integer bound denoted,
      resolvePlural_of_isInteger other boundOther denotedOther, selects _ _ _ difference,
      difference.text_eq]

/-- Scopes agree on a tree if they differ only in a name that both bind to one integer, and if
no day and no registered kind of the tree asks for it. -/
theorem agreeOn_insert_of_isInteger (selects : formatter.SelectsByAmount)
    (integer : first.IsInteger text amount) (other : second.IsInteger text amount) (args : Args)
    {tree : Tree π} (undated : ∀ width, ¬tree.Occurs (.date key width))
    (builtin : ∀ kind name payload, ¬tree.Occurs (.custom kind name payload))
    (small : ∀ choices offset, tree.Occurs (.plural key choices offset) →
      offset.toNat ≤ Number.maxInt) :
    formatter.AgreeOn (formatter.scope (args.insert key first))
      (formatter.scope (args.insert key second)) tree := by
  have here := args.get?_insert_self key first
  have there := args.get?_insert_self key second
  have elsewhere : ∀ name, name ≠ key →
      (args.insert key first).get? name = (args.insert key second).get? name := by
    intro name apart
    rw [args.get?_insert_of_ne first apart, args.get?_insert_of_ne second apart]
  have present : ∀ name, name ≠ key →
      (args.insert key first).present? name = (args.insert key second).present? name := by
    intro name apart
    rw [Args.present?, Args.present?, elsewhere name apart]
  constructor
  case limit => rfl
  case text =>
    intro name _
    by_cases same : name = key
    · subst same
      rw [Scope.text, Scope.text, Args.text, Args.text, scope, scope, here, there]
      exact (integer.text_eq _).trans (other.text_eq _).symm
    · exact text_congr rfl (present name same)
  case resolve =>
    intro kind name choices offset occurs
    by_cases same : name = key
    · subst same
      apply resolve_eq_of_isInteger selects integer here other there kind choices
      rintro rfl
      exact small choices offset occurs
    · apply resolve_congr
      · rfl
      · exact present name same
  case day =>
    intro name width occurs
    have apart : name ≠ key := by
      rintro rfl
      exact undated width occurs
    exact dateText_congr (elsewhere name apart) width
  case writer =>
    intro kind name payload occurs
    exact absurd occurs (builtin kind name payload)

/-- Of a template without registered kinds, an integer and its decimal text make the same output
or the same fault, under every name that no date asks for. -/
theorem format_insert_numeral {maxDepth : Nat} {template : String} {tree : Tree π}
    (parsed : Parser.parse { maxDepth } template = .ok tree) {build : RuleBuilder}
    {language : Language} (selects : formatter.selector? = some (build.selector language))
    (args : Args) (undated : ∀ width, ¬tree.Occurs (.date key width)) {number : Number}
    (holds : number.integer? = some amount) :
    formatter.format tree (args.insert key (.number number)) =
      formatter.format tree (args.insert key (.string (toString amount))) := by
  have integer : Value.IsInteger (.number number) (toString amount) amount := by
    rw [← Number.text_of_integer? holds]
    exact .number holds
  have numeral := Value.isInteger_numeral holds
  apply AgreeOn.format_eq
  apply agreeOn_insert_of_isInteger (selectsByAmount_of_selector selects) integer numeral args
    undated
  · intro kind name payload occurs
    have known := Parser.contains_of_parse parsed occurs
    simp [KindRegistry.contains, KindRegistry.get?, KindRegistry.empty] at known
  · intro choices offset occurs
    exact (Parser.plural_of_parse parsed occurs).2

/-- Five is two short of seven, as an unsigned word and as a numeral that reads as a signed one. -/
theorem format_insert_numeral_five :
    Parser.parse {} "\x7bn, plural, offset:7 other\x7b#, \x7bn\x7d\x7d\x7d" =
      .ok ([.plural "n" [("other", [.literal [.pound, .text ", "], .var "n"])] 7] : Tree Unit) ∧
    standard.format
        ([.plural "n" [("other", [.literal [.pound, .text ", "], .var "n"])] 7] : Tree Unit)
        (Args.empty.insert "n" (.number (.uint 5))) =
      standard.format
        ([.plural "n" [("other", [.literal [.pound, .text ", "], .var "n"])] 7] : Tree Unit)
        (Args.empty.insert "n" (.string "5")) := by
  have parsed : Parser.parse {} "\x7bn, plural, offset:7 other\x7b#, \x7bn\x7d\x7d\x7d" =
      .ok ([.plural "n" [("other", [.literal [.pound, .text ", "], .var "n"])] 7] : Tree Unit) := by
    with_unfolding_all rfl
  have selects : (standard : Formatter Unit).selector? =
      some (RuleBuilder.standard.selector .en) := by
    rw [RuleBuilder.selector_standard]
    rfl
  have undated : ∀ width, ¬Tree.Occurs (.date "n" width)
      ([.plural "n" [("other", [.literal [.pound, .text ", "], .var "n"])] 7] : Tree Unit) := by
    rintro width (member | @⟨_, kind, key, choices, offset, choice, expression, listed, within⟩)
    · simp at member
    · have same := @Node.choices_eq_of_node_eq _ kind .plural _ _ _ _ _ _
        (List.mem_singleton.mp expression)
      obtain rfl := List.mem_singleton.mp (same ▸ listed)
      rcases within with member | @⟨_, inner, _, _, _, _, expression, -, -⟩
      · simp at member
      · cases inner <;> simp [ChoiceKind.node] at expression
  have holds : (Number.uint 5).integer? = some 5 := rfl
  exact ⟨parsed, format_insert_numeral parsed selects .empty undated holds⟩

end Formatter

end MessageTemplate
