import Ecmascript.Proofs.Progress.Statement

/-!
# The bound on the steps suffices

A goal that begins with another one comes behind it in an order, and everything else is read
behind a token. So the steps that a goal needs are bounded by the characters that remain and its
place in the order, and the bound that parsing starts with is never met.
-/

set_option autoImplicit false

namespace Ecmascript.Parser

/-- The place of a goal in the order in which goals begin with each other. -/
def Goal.rank : Goal → Nat
  | memberRest _ _ _ | newExpression | binaryRest _ _ _ | moreExpressions => 0
  | switchCases | classMembers | objectMembers | targetProperties _ => 0
  | leftHandSide => 1
  | unary | target _ => 2
  | power | declarators | targetElements _ | parameters => 3
  | binary _ => 4
  | assignment => 5
  | arguments | arrayElements | expression => 6
  | templateRest | statement => 7
  | statements _ => 8

/-- More than the highest place in the order. -/
def Goal.ranks : Nat := 16

theorem Goal.rank_lt_ranks (goal : Goal) : goal.rank < Goal.ranks := by
  cases goal <;> simp [Goal.rank, Goal.ranks]

variable {setup : Setup}

/-- A production keeps to a bound when the goals do that it may begin with, and all goals do where
less of the text remains. -/
theorem production_eats {self : Grammar} {bound : Nat} (later : Later setup self bound)
    (goal : Goal)
    (first : ∀ other : Goal, other.rank < goal.rank →
      Eats setup Anywhere bound (fun _ => other.eats) (self other)) :
    Eats setup Anywhere bound (fun _ => goal.eats) (production self goal) := by
  cases goal with
  | statement => exact .statement later (first .expression (by simp [Goal.rank]))
  | statements stop => exact .statements later (first .statement (by simp [Goal.rank]))
  | declarators => exact .declarators later (first (.target .binding) (by simp [Goal.rank]))
  | switchCases => exact .switchCases later
  | classMembers => exact .classMembers later
  | expression => exact .expression later (first .assignment (by simp [Goal.rank]))
  | moreExpressions => exact .moreExpressions later
  | assignment =>
      exact .assignment later (first (.binary 0) (by simp [Goal.rank]))
        (first (.target .assignment) (by simp [Goal.rank]))
  | binary minimum => exact .binary later (first .power (by simp [Goal.rank]))
  | binaryRest minimum start left => exact .binaryRest later
  | power => exact .power later (first .unary (by simp [Goal.rank]))
  | unary => exact .unary later (first .leftHandSide (by simp [Goal.rank]))
  | leftHandSide => exact .leftHandSide later (first .newExpression (by simp [Goal.rank]))
  | newExpression => exact .newExpression later
  | memberRest start object allowCall => exact .memberRest later
  | arguments => exact .argumentList later (first .assignment (by simp [Goal.rank]))
  | arrayElements => exact .arrayElements later (first .assignment (by simp [Goal.rank]))
  | objectMembers => exact .objectMembers later
  | templateRest => exact .templateRest later (first .expression (by simp [Goal.rank]))
  | target use => exact .target later (first .leftHandSide (by simp [Goal.rank]))
  | targetElements use => exact .targetElements later (first (.target use) (by simp [Goal.rank]))
  | targetProperties use => exact .targetProperties later
  | parameters => exact .parameters later (first (.target .binding) (by simp [Goal.rank]))

/-- The steps that a goal needs. -/
theorem run_eats (steps : Nat) : ∀ (bound : Nat) (goal : Goal),
    Goal.ranks * bound + goal.rank < steps →
      Eats setup Anywhere bound (fun _ => goal.eats) (run steps goal) := by
  induction steps with
  | zero => exact fun bound goal enough => absurd enough (Nat.not_lt_zero _)
  | succ steps ih =>
      intro bound goal enough
      refine production_eats (fun left less other => ih left other ?_) goal
        fun other before => ih bound other (by omega)
      have highest := other.rank_lt_ranks
      have room : Goal.ranks * (left + 1) ≤ Goal.ranks * bound := Nat.mul_le_mul_left _ less
      rw [Nat.mul_add] at room
      omega

/-- Parsing a text is never short of steps. -/
theorem replyTo_ne_exhausted (source : Text) : replyTo setup source ≠ .ok .exhausted := by
  unfold replyTo
  cases starts : start setup source with
  | error error => nofun
  | ok state =>
      obtain ⟨sound, within⟩ := Sound.start starts
      have enough : Goal.ranks * state.remaining + (Goal.statements .script).rank
          < stepBound source := by
        simp only [Goal.ranks, Goal.rank, stepBound]
        omega
      have eats : Eats setup Anywhere state.remaining _ _ := run_eats _ _ _ enough
      have spent := eats state trivial sound (Nat.le_refl _)
      intro short
      have outcome : run (stepBound source) (.statements .script) setup state = .exhausted := by
        simpa [Except.map] using short
      rw [outcome] at spent
      exact spent

end Ecmascript.Parser
