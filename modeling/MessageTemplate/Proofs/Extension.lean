import MessageTemplate.Proofs.Lockstep
import MessageTemplate.Proofs.Registration

/-!
# Registering more kinds

A parser that knows more kinds reads what it read before. The two parsers run side by side: they
answer alike at every place unless the one with fewer kinds meets a kind that only the other one
knows, and there it ends.
-/

namespace MessageTemplate

namespace Parser

variable {π : Type}

/-- Every kind of the first parser is a kind of the second one, with the same halves. -/
def Extends (first second : Parser π) : Prop :=
  first.maxDepth = second.maxDepth ∧
    ∀ name kind, first.kinds.get? name = some kind → second.kinds.get? name = some kind

/-- The error of a parser that does not know a kind which another parser knows. -/
def Excuses (other : Parser π) (error : ParseError) : Prop :=
  ∃ name, error.fault = .unknownType name ∧ other.kinds.contains name = true

variable {parser other : Parser π}

theorem alike_customNode (extended : parser.Extends other) (key kind : String) :
    Reader.Alike other.Excuses (parser.customNode key kind) (other.customNode key kind) := by
  unfold customNode
  cases known : parser.kinds.get? kind with
  | some registered =>
    rw [extended.2 kind registered known]
    exact .refl _
  | none =>
    cases learned : other.kinds.get? kind with
    | none => exact .refl _
    | some registered =>
      -- Here the parser with fewer kinds ends.
      refine Reader.alike_fail _ fun position => ⟨kind, rfl, ?_⟩
      rw [KindRegistry.contains, learned]
      rfl

theorem alike_body (extended : parser.Extends other) (depth : Nat) :
    Reader.Alike other.Excuses (parser.body depth) (other.body depth) := by
  induction depth with
  | zero => exact .refl _
  | succ depth inductionHypothesis =>
    rw [body_succ, body_succ]
    exact alike_bodyOf (alike_expressionOf inductionHypothesis (alike_customNode extended))

theorem alike_message (extended : parser.Extends other) :
    Reader.Alike other.Excuses parser.message other.message := by
  rw [message, message, ← extended.1]
  apply (alike_body extended parser.maxDepth).bind
  exact fun found => .refl _

/-- With more kinds a template is parsed to the same answer, unless one of them was unknown. -/
theorem parse_eq_or_excused (extended : parser.Extends other) (template : String) :
    other.parse template = parser.parse template ∨
      ∃ error, parser.parse template = .error error ∧ other.Excuses error := by
  rcases alike_message extended (.start template) with same | ⟨error, stop, failed, reason, -⟩
  · exact .inl (congrArg Prod.fst same)
  · exact .inr ⟨error, congrArg Prod.fst failed, reason⟩

/-- Registering more kinds, by calls that are accepted or refused, changes neither the tree of a
template nor the error of one, but for the error that a kind is not known which now is. -/
theorem parse_afterCalls (registry : KindRegistry π) (calls : List (String × Kind π))
    (maxDepth : Nat) (template : String) :
    (∀ tree, Parser.parse ⟨registry, maxDepth⟩ template = .ok tree →
      Parser.parse ⟨registry.afterCalls calls, maxDepth⟩ template = .ok tree) ∧
    (∀ error, Parser.parse ⟨registry, maxDepth⟩ template = .error error →
      (∀ name, error.fault ≠ .unknownType name) →
        Parser.parse ⟨registry.afterCalls calls, maxDepth⟩ template = .error error) ∧
    (∀ name position,
      Parser.parse ⟨registry, maxDepth⟩ template = .error ⟨.unknownType name, position⟩ →
      (registry.afterCalls calls).contains name = false →
        Parser.parse ⟨registry.afterCalls calls, maxDepth⟩ template =
          .error ⟨.unknownType name, position⟩) := by
  have extended : Extends ⟨registry, maxDepth⟩ ⟨registry.afterCalls calls, maxDepth⟩ :=
    ⟨rfl, fun name kind known => KindRegistry.get?_afterCalls_of_get? known calls⟩
  rcases parse_eq_or_excused extended template with same | ⟨error, failed, name, named, known⟩
  · refine ⟨fun tree parsed => ?_, fun error failed _ => ?_, fun name position failed _ => ?_⟩
    · rw [same, parsed]
    · rw [same, failed]
    · rw [same, failed]
  · refine ⟨fun tree parsed => ?_, fun found other plain => ?_, fun found position other new => ?_⟩
    · rw [failed] at parsed
      cases parsed
    · rw [failed] at other
      obtain rfl := Except.error.inj other
      exact absurd named (plain name)
    · rw [failed] at other
      obtain rfl := Except.error.inj other
      obtain rfl : found = name := by simpa using named
      rw [new] at known
      cases known

/-- A kind without a parsing half does not get one later, and what is still unknown remains so. -/
theorem parse_afterCalls_mute :
    Parser.parse ⟨⟨[("mute", ⟨none, none⟩)]⟩, 1⟩ "\x7bx\x7d" = .ok ([.var "x"] : Tree Unit) ∧
      Parser.parse ⟨KindRegistry.afterCalls ⟨[("mute", ⟨none, none⟩)]⟩
        [("mute", ⟨some fun _ => pure (), none⟩), ("shout", ⟨none, none⟩)], 1⟩ "\x7bx\x7d" =
          .ok ([.var "x"] : Tree Unit) ∧
      Parser.parse ⟨KindRegistry.afterCalls ⟨[("mute", ⟨none, none⟩)]⟩
        [("mute", ⟨some fun _ => pure (), none⟩), ("shout", ⟨none, none⟩)], 1⟩ "\x7bx, mute\x7d" =
          (.error ⟨.undefinedParseFunc "mute", 8⟩ : Except ParseError (Tree Unit)) ∧
      Parser.parse ⟨KindRegistry.afterCalls ⟨[("mute", ⟨none, none⟩)]⟩
        [("mute", ⟨some fun _ => pure (), none⟩), ("shout", ⟨none, none⟩)], 1⟩ "\x7bx, hum\x7d" =
          (.error ⟨.unknownType "hum", 7⟩ : Except ParseError (Tree Unit)) := by
  have read : Parser.parse ⟨⟨[("mute", ⟨none, none⟩)]⟩, 1⟩ "\x7bx\x7d" =
      .ok ([.var "x"] : Tree Unit) := by cbv
  have silent : Parser.parse ⟨⟨[("mute", ⟨none, none⟩)]⟩, 1⟩ "\x7bx, mute\x7d" =
      (.error ⟨.undefinedParseFunc "mute", 8⟩ : Except ParseError (Tree Unit)) := by cbv
  have unknown : Parser.parse ⟨⟨[("mute", ⟨none, none⟩)]⟩, 1⟩ "\x7bx, hum\x7d" =
      (.error ⟨.unknownType "hum", 7⟩ : Except ParseError (Tree Unit)) := by cbv
  refine ⟨read, (parse_afterCalls _ _ 1 _).1 _ read, ?_, ?_⟩
  · exact (parse_afterCalls _ _ 1 _).2.1 _ silent (by simp)
  · exact (parse_afterCalls _ _ 1 _).2.2 _ _ unknown (by decide)

end Parser

end MessageTemplate
