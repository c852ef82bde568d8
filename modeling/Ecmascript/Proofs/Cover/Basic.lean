import Ecmascript.Parser.Program
import Ecmascript.Proofs.Lexer.Written
import Ecmascript.Proofs.Tree.Grammatical

/-!
# Tokens and the phrases they hold

The grammar of accepted scripts as a relation between lists of tokens and phrases. Rules say which
phrases stand where, in which grammar parameters and how deeply nested, and in which order their
parts are written; they do not fix the punctuation between the parts. What holds of accepted trees
follows by induction on these rules, without another look at the parser.
-/

set_option autoImplicit false

namespace Ecmascript

/-! ## Where phrases stand -/

/-- The grammar parameters that rules depend on, and the depth of nesting. -/
structure Scope where
  inFunction : Bool
  inGenerator : Bool
  inAsync : Bool
  depth : Nat

namespace Scope

/-- The scope of a script. -/
def script : Scope :=
  { inFunction := false, inGenerator := false, inAsync := false, depth := 0 }

/-- One level of nesting deeper. -/
def deeper (scope : Scope) : Scope :=
  { scope with depth := scope.depth + 1 }

/-- Inside a function or the body of an arrow function. -/
def function (scope : Scope) (isAsync isGenerator : Bool) : Scope :=
  { scope with inFunction := true, inGenerator := isGenerator, inAsync := isAsync }

/-- Inside the value of a field, which is outside of all functions. -/
def field (scope : Scope) : Scope :=
  { scope with inFunction := false, inGenerator := false, inAsync := false }

end Scope

/-- What a phrase is to the phrase around it. Arguments and elements may be spread; the statement
inside a level of nesting is `inner`. A target of a pattern may have a default value as an element,
and may be a rest element as the last item. -/
inductive Role where
  | phrase | argument | chunk | inner
  | target (use : Parser.PatternUse)
  | element (use : Parser.PatternUse)
  | item (use : Parser.PatternUse)

/-- The role of the phrases of a list that others follow. -/
def Role.front : Role → Role
  | item use => element use
  | role => role

/-! ## Lists of tokens -/

/-- The offsets at which a list of tokens begins and ends. -/
def Token.Spans (tokens : List Token) (start stop : Nat) : Prop :=
  ∃ first last, tokens.head? = some first ∧ tokens.getLast? = some last ∧
    start = first.start ∧ stop = last.stop

/-- Tokens that are written in a source between two offsets, one behind the other. -/
def Token.Between (source : Text) (start : Nat) (tokens : List Token) (stop : Nat) : Prop :=
  (∀ token ∈ tokens, start ≤ token.start ∧ token.stop ≤ stop ∧ token.start < token.stop ∧
    token.Written source) ∧
  tokens.Pairwise fun first second => first.stop ≤ second.start

namespace Token

variable {source : Text} {start stop start' stop' : Nat} {tokens tokens' : List Token}

theorem between_append : Between source start (tokens ++ tokens') stop ↔
    Between source start tokens stop ∧ Between source start tokens' stop ∧
      ∀ first ∈ tokens, ∀ second ∈ tokens', first.stop ≤ second.start := by
  simp only [Between, List.forall_mem_append, List.pairwise_append]
  tauto

theorem Between.widen (between : Between source start tokens stop) (less : start' ≤ start)
    (more : stop ≤ stop') : Between source start' tokens stop' := by
  refine ⟨fun token member => ?_, between.2⟩
  obtain ⟨begins, ends, filled, written⟩ := between.1 token member
  exact ⟨Nat.le_trans less begins, Nat.le_trans ends more, filled, written⟩

theorem Between.append {middle : Nat} (front : Between source start tokens middle)
    (back : Between source middle tokens' stop) (less : start ≤ middle) (more : middle ≤ stop) :
    Between source start (tokens ++ tokens') stop := by
  rw [between_append]
  refine ⟨front.widen (Nat.le_refl _) more, back.widen less (Nat.le_refl _), ?_⟩
  intro first member second member'
  have ends := (front.1 first member).2.1
  have begins := (back.1 second member').1
  exact Nat.le_trans ends begins

/-- Tokens lie between the offsets that they span. -/
theorem Between.spans (between : Between source start tokens stop)
    (spans : Spans tokens start' stop') : Between source start' tokens stop' := by
  obtain ⟨first, last, head, final, rfl, rfl⟩ := spans
  refine ⟨fun token member => ?_, between.2⟩
  obtain ⟨_, _, filled, written⟩ := between.1 token member
  refine ⟨?_, ?_, filled, written⟩
  · cases tokens with
    | nil => cases head
    | cons token' rest =>
        cases head
        rcases List.mem_cons.1 member with rfl | later
        · exact Nat.le_refl _
        · have after := (List.pairwise_cons.1 between.2).1 token later
          have := (between.1 first List.mem_cons_self).2.2.1
          omega
  · obtain ⟨front, rfl⟩ := List.getLast?_eq_some_iff.1 final
    rcases List.mem_append.1 member with earlier | same
    · have before := (List.pairwise_append.1 between.2).2.2 token earlier last (by simp)
      have := (between.1 last (by simp)).2.2.1
      omega
    · exact Nat.le_of_eq (congrArg Token.stop (List.mem_singleton.1 same))

/-- What tokens span is not empty and stays between the offsets around them. -/
theorem Between.le_of_spans (between : Between source start tokens stop)
    (spans : Spans tokens start' stop') :
    start ≤ start' ∧ start' < stop' ∧ stop' ≤ stop ∧
      source.IsBoundary start' ∧ source.IsBoundary stop' := by
  have inner := between.spans spans
  obtain ⟨first, last, head, final, rfl, rfl⟩ := spans
  have begins := List.mem_of_mem_head? head
  have ends := List.mem_of_mem_getLast? final
  obtain ⟨least, _, _, written⟩ := between.1 first begins
  obtain ⟨_, greatest, _, written'⟩ := between.1 last ends
  obtain ⟨_, within, filled, _⟩ := inner.1 first begins
  exact ⟨least, Nat.lt_of_lt_of_le filled within, greatest, written.boundaries.1,
    written'.boundaries.2⟩

end Token

end Ecmascript
