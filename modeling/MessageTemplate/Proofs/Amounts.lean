import MessageTemplate.Proofs.Execution
import MessageTemplate.Proofs.Integers
import MessageTemplate.Proofs.Occurrences

/-!
# Integers as amounts

How a choice is made by an argument that is an integer, be it a word or a string that reads as
one. The choice named by `=` and the argument's own text goes before all others and needs neither
the offset nor a selector. Else the selector is asked for the category of the exact difference.
The difference leaves the words only below the least of them, since a template's offset is never
beyond the signed words.
-/

namespace MessageTemplate

/-- A value is an integer, or a string that reads as a word: its own text and its amount. -/
inductive Value.IsInteger : Value → String → Int → Prop where
  | number {number : Number} {amount : Int} (holds : number.integer? = some amount) :
      IsInteger (.number number) number.text amount
  | signed {text : String} {word : Int64} (read : Decimal.int64? text.toList = some word) :
      IsInteger (.string text) text word.toInt
  | unsigned {text : String} {word : UInt64} (read : Decimal.uint64? text.toList = some word) :
      IsInteger (.string text) text word.toNat

namespace Value.IsInteger

variable {value : Value} {text : String} {amount : Int}

theorem isNull_eq (integer : value.IsInteger text amount) : value.isNull = false := by
  cases integer <;> rfl

theorem text_eq (integer : value.IsInteger text amount) (booleans : BooleanPolicy) :
    value.text booleans = .ok text := by
  cases integer <;> rfl

theorem exactChoice_eq (integer : value.IsInteger text amount) :
    Formatter.exactChoice value = .ok ("=" ++ text) := by
  cases integer <;> rfl

/-- The number that an integer denotes is a word that holds its amount. -/
theorem exists_number (integer : value.IsInteger text amount) :
    ∃ number, value.toNumber = .ok number ∧ number.integer? = some amount := by
  cases integer with
  | number holds => exact ⟨_, rfl, holds⟩
  | signed read =>
    refine ⟨.int _, ?_, rfl⟩
    rw [toNumber, Number.ofText?_of_int64? read]
  | unsigned read =>
    obtain ⟨number, denoted, holds⟩ := Number.exists_ofText?_of_uint64? read
    refine ⟨number, ?_, holds⟩
    rw [toNumber, denoted]

end Value.IsInteger

/-! ## Resolutions -/

namespace Args

/-- A value that is not null is present under its name. -/
theorem present?_of_get? {args : Args} {key : String} {value : Value}
    (bound : args.get? key = some value) (solid : value.isNull = false) :
    args.present? key = some value := by
  rw [present?, bound, Option.filter_some, solid]
  rfl

end Args

namespace Formatter

variable {π : Type} {formatter : Formatter π} {scope : Scope} {key : String} {value : Value}
  {text : String} {amount : Int} {number : Number}

theorem resolveSelect_of_isInteger (integer : value.IsInteger text amount)
    (bound : scope.args.get? key = some value) :
    resolveSelect scope key = .ok ⟨[text, otherChoice], text⟩ := by
  rw [resolveSelect, Scope.text, Args.text, bound]
  dsimp only
  rw [integer.text_eq]
  rfl

theorem resolveOrdinal_of_isInteger (integer : value.IsInteger text amount)
    (bound : scope.args.get? key = some value) (denoted : value.toNumber = .ok number) :
    formatter.resolveOrdinal scope key =
      (formatter.categoryName number .ordinal).map fun category =>
        ⟨[category, otherChoice], text⟩ := by
  rw [resolveOrdinal, Args.present?_of_get? bound integer.isNull_eq]
  dsimp only
  rw [denoted, Scope.render, integer.text_eq]
  cases named : formatter.categoryName number .ordinal with
  | error error => simp [named, bind, Except.bind, Except.map]
  | ok category => simp [named, bind, Except.bind, Except.map, pure, Except.pure]

theorem resolvePlural_of_isInteger (integer : value.IsInteger text amount)
    (bound : scope.args.get? key = some value) (denoted : value.toNumber = .ok number)
    (choices : Choices π) (offset : UInt64) :
    formatter.resolvePlural scope key choices offset =
      if (choices.get? ("=" ++ text)).isSome then .ok ⟨["=" ++ text], text⟩
      else
        (formatter.categoryName (number.minus offset) .cardinal).map fun category =>
          ⟨[category, otherChoice], if offset = 0 then text else (number.minus offset).text⟩ := by
  rw [resolvePlural, Args.present?_of_get? bound integer.isNull_eq]
  dsimp only
  rw [denoted, Scope.render, integer.text_eq, integer.exactChoice_eq]
  by_cases exact : (choices.get? ("=" ++ text)).isSome
  · simp [exact, bind, Except.bind, pure, Except.pure]
  · cases named : formatter.categoryName (number.minus offset) .cardinal with
    | error error => simp [exact, named, bind, Except.bind, Except.map]
    | ok category => simp [exact, named, bind, Except.bind, Except.map, pure, Except.pure]

/-! ## Plurals -/

/-- A plural that is resolved evaluates the body of the first candidate that is a choice. -/
theorem evaluateNode_plural_of_resolution {choices : Choices π} {offset : UInt64}
    {resolution : Resolution}
    (resolved : formatter.resolvePlural scope key choices offset = .ok resolution) {name : String}
    {body : Tree π} (chosen : resolution.chosen? choices = some name)
    (found : choices.get? name = some body) (pound : String) :
    evaluateNode formatter scope pound (.plural key choices offset) =
      Evaluation.deeper scope (evaluateTree formatter scope resolution.pound body) := by
  rw [evaluateNode, resolved]
  change evaluateChoice formatter scope resolution.pound (resolution.chosen? choices) choices = _
  rw [chosen, evaluateChoice_eq, found]

/-- With `other` among the choices, a category chooses its own body or the one of `other`. -/
theorem exists_chosen {choices : Choices π} (complete : otherChoice ∈ choices.map (·.1))
    (category pound : String) :
    ∃ name body, (⟨[category, otherChoice], pound⟩ : Resolution).chosen? choices = some name ∧
      choices.get? name = some body ∧
      (choices.get? category).or (choices.get? otherChoice) = some body := by
  obtain ⟨standIn, other⟩ := Option.isSome_iff_exists.mp (Choices.get?_isSome_iff.mpr complete)
  cases named : choices.get? category with
  | some body =>
    refine ⟨category, body, ?_, named, rfl⟩
    simp [Resolution.chosen?, named]
  | none =>
    refine ⟨otherChoice, standIn, ?_, other, other⟩
    simp [Resolution.chosen?, named, other]

/-- The choice for exactly an argument's text needs no selector and disregards the offset. -/
theorem evaluateNode_plural_of_exact (integer : value.IsInteger text amount)
    (bound : scope.args.get? key = some value) {choices : Choices π} {body : Tree π}
    (exact : choices.get? ("=" ++ text) = some body) (offset : UInt64) (pound : String) :
    evaluateNode formatter scope pound (.plural key choices offset) =
      Evaluation.deeper scope (evaluateTree formatter scope text body) := by
  obtain ⟨number, denoted, -⟩ := integer.exists_number
  have present : (choices.get? ("=" ++ text)).isSome := by rw [exact, Option.isSome_some]
  have resolved : formatter.resolvePlural scope key choices offset = _ :=
    resolvePlural_of_isInteger integer bound denoted choices offset
  rw [if_pos present] at resolved
  apply evaluateNode_plural_of_resolution resolved _ exact
  simp [Resolution.chosen?, present]

/-- Without that choice the category of the difference chooses, or `other` in its stead. -/
theorem exists_evaluateNode_plural (integer : value.IsInteger text amount)
    (bound : scope.args.get? key = some value) (denoted : value.toNumber = .ok number)
    {choices : Choices π} {offset : UInt64} (inexact : choices.get? ("=" ++ text) = none)
    (complete : otherChoice ∈ choices.map (·.1)) {selector : PluralSelector}
    (selects : formatter.selector? = some selector) (pound : String) :
    ∃ body, (choices.get? (selector (number.minus offset) .cardinal)).or
        (choices.get? otherChoice) = some body ∧
      evaluateNode formatter scope pound (.plural key choices offset) =
        Evaluation.deeper scope (evaluateTree formatter scope
          (if offset = 0 then text else (number.minus offset).text) body) := by
  have resolved : formatter.resolvePlural scope key choices offset = _ :=
    resolvePlural_of_isInteger integer bound denoted choices offset
  rw [inexact, if_neg (by simp), categoryName, selects] at resolved
  obtain ⟨name, body, chosen, found, first⟩ := exists_chosen complete
    (selector (number.minus offset) .cardinal)
    (if offset = 0 then text else (number.minus offset).text)
  exact ⟨body, first, evaluateNode_plural_of_resolution resolved chosen found pound⟩

/-- A plural of a parsed template is exact on integers. The choice named by `=` and the
argument's own text is the one chosen, whatever the offset and without a selector. Else the
selector is given a word that holds the difference, and `#` stands for the difference, or for the
argument's own text where there is no offset. -/
theorem evaluateNode_plural_of_isInteger {parser : Parser π} {template : String} {tree : Tree π}
    {choices : Choices π} {offset : UInt64} (parsed : parser.parse template = .ok tree)
    (occurs : tree.Occurs (.plural key choices offset)) (integer : value.IsInteger text amount) :
    (∀ body, choices.get? ("=" ++ text) = some body →
      ∀ (formatter : Formatter π) (scope : Scope) (pound : String),
        scope.args.get? key = some value →
          evaluateNode formatter scope pound (.plural key choices offset) =
            Evaluation.deeper scope (evaluateTree formatter scope text body)) ∧
    (choices.get? ("=" ++ text) = none → -2 ^ 63 ≤ amount - offset.toNat →
      ∃ difference : Number, difference.integer? = some (amount - offset.toNat) ∧
        ∀ (formatter : Formatter π) (scope : Scope) (pound : String) (selector : PluralSelector),
          scope.args.get? key = some value → formatter.selector? = some selector →
            ∃ body, (choices.get? (selector difference .cardinal)).or
                (choices.get? otherChoice) = some body ∧
              evaluateNode formatter scope pound (.plural key choices offset) =
                Evaluation.deeper scope (evaluateTree formatter scope
                  (if offset = 0 then text else toString (amount - offset.toNat)) body)) := by
  obtain ⟨complete, small⟩ := Parser.plural_of_parse parsed occurs
  refine ⟨fun body exact formatter scope pound bound => ?_, fun inexact inside => ?_⟩
  · exact evaluateNode_plural_of_exact integer bound exact offset pound
  · obtain ⟨number, denoted, holds⟩ := integer.exists_number
    have difference := Number.integer?_minus holds small inside
    refine ⟨number.minus offset, difference, fun formatter scope pound selector bound selects => ?_⟩
    rw [← Number.text_of_integer? difference]
    exact exists_evaluateNode_plural integer bound denoted inexact complete selects pound

/-- Of `+1` a plural chooses `=+1` in spite of the offset, and of none it counts two less. -/
theorem evaluateNode_plural_of_isInteger_offset :
    evaluateNode bare ⟨.ofList [("n", .string "+1")], .reject, 64⟩ ""
        (.plural "n" [("=+1", [.var "a"]), ("other", [.literal [.pound]])] 2 : Node Unit) =
      Evaluation.deeper ⟨.ofList [("n", .string "+1")], .reject, 64⟩
        (evaluateTree bare ⟨.ofList [("n", .string "+1")], .reject, 64⟩ "+1"
          ([.var "a"] : Tree Unit)) ∧
    ∃ difference : Number, difference.integer? = some (-2) ∧ ∃ body : Tree Unit,
      (Choices.get? [("=+1", [.var "a"]), ("other", [.literal [.pound]])]
        (Language.en.selector difference .cardinal)).or (some [.literal [.pound]]) = some body ∧
      evaluateNode standard ⟨.ofList [("n", .number (.uint 0))], .reject, 64⟩ ""
          (.plural "n" [("=+1", [.var "a"]), ("other", [.literal [.pound]])] 2 : Node Unit) =
        Evaluation.deeper ⟨.ofList [("n", .number (.uint 0))], .reject, 64⟩
          (evaluateTree standard ⟨.ofList [("n", .number (.uint 0))], .reject, 64⟩ "-2" body) := by
  have parsed : (Parser.parse {}
      "\x7bn, plural, offset:2 =+1\x7b\x7ba\x7d\x7d other\x7b#\x7d\x7d" :
      Except ParseError (Tree Unit)) =
      .ok [.plural "n" [("=+1", [.var "a"]), ("other", [.literal [.pound]])] 2] := by
    with_unfolding_all rfl
  have occurs : Tree.Occurs
      (.plural "n" [("=+1", [.var "a"]), ("other", [.literal [.pound]])] 2 : Node Unit)
      [.plural "n" [("=+1", [.var "a"]), ("other", [.literal [.pound]])] 2] :=
    .here List.mem_cons_self
  have spelled : Value.IsInteger (.string "+1") "+1" (1 : Int64).toInt := .signed (by cbv)
  have counted : Value.IsInteger (.number (.uint 0)) "0" 0 := .number rfl
  refine ⟨?_, ?_⟩
  · exact (evaluateNode_plural_of_isInteger parsed occurs spelled).1 _ rfl bare _ "" rfl
  · obtain ⟨difference, holds, chosen⟩ :=
      (evaluateNode_plural_of_isInteger parsed occurs counted).2 rfl (by decide)
    exact ⟨difference, holds, chosen standard _ "" _ rfl rfl⟩

end Formatter

end MessageTemplate
