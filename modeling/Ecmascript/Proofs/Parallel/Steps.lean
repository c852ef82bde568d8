import Ecmascript.Proofs.Parallel.Statement

/-!
# More steps

A parser that is not short of steps gives the same reply when there are more. The order is flat: a
reply that is short of steps is below every reply, and any other only below itself.
-/

set_option autoImplicit false

namespace Ecmascript.Parser

variable {α β : Type} {self self' : Grammar} {setup : Setup} {steps steps' : Nat}

/-- A parser gives the reply of another one, or is short of steps. -/
def Refines (m m' : Parser α) : Prop :=
  ∀ setup s, m setup s = .exhausted ∨ m setup s = m' setup s

namespace Refines

theorem refl (m : Parser α) : Refines m m :=
  fun _ _ => .inr rfl

theorem bind {first first' : Parser α} {next next' : α → Parser β} (before : Refines first first')
    (behind : ∀ value, Refines (next value) (next' value)) :
    Refines (first >>= next) (first' >>= next') := by
  intro setup s
  change andThen first next setup s = .exhausted ∨
    andThen first next setup s = andThen first' next' setup s
  unfold andThen
  rcases before setup s with short | same
  · exact .inl (by rw [short])
  · rw [← same]
    cases first setup s with
    | ok value t => exact behind value setup t
    | reject error t => exact .inr rfl
    | exhausted => exact .inl rfl

theorem withContext {inner inner' : Parser α} (context : Context) (inside : Refines inner inner') :
    Refines (Parser.withContext context inner) (Parser.withContext context inner') := by
  intro setup s
  unfold Parser.withContext
  rcases inside setup { s with context } with short | same
  · exact .inl (by rw [short])
  · exact .inr (by rw [same])

theorem nested {inner inner' : Parser α} (inside : Refines inner inner') :
    Refines (Parser.nested inner) (Parser.nested inner') := by
  intro setup s
  unfold Parser.nested
  split
  · exact .inr rfl
  rcases inside setup { s with depth := s.depth + 1 } with short | same
  · exact .inl (by rw [short])
  · exact .inr (by rw [same])

theorem attempt {inner inner' : Parser α} (kind : AttemptKind) (inside : Refines inner inner') :
    Refines (Parser.attempt kind inner) (Parser.attempt kind inner') := by
  intro setup s
  unfold Parser.attempt
  dsimp only
  split
  · exact .inr rfl
  rcases inside setup s with short | same
  · exact .inl (by rw [short])
  · exact .inr (by rw [same])

end Refines

/-- A parser refines another one when the goals do that they are put together from. -/
theorem Parallel.refines {m m' : Parser α} (parallel : Parallel self self' m m')
    (goals : ∀ goal, Refines (self goal) (self' goal)) : Refines m m' := by
  induction parallel with
  | goal goal => exact goals goal
  | bind _ _ first next => exact .bind first next
  | withContext context _ inside => exact .withContext context inside
  | nested _ inside => exact .nested inside
  | attempt kind _ inside => exact .attempt kind inside
  | _ => exact .refl _

theorem run_refines (le : steps ≤ steps') (goal : Goal) :
    Refines (run steps goal) (run steps' goal) := by
  induction steps generalizing steps' goal with
  | zero => exact fun _ _ => .inl rfl
  | succ steps ih =>
      obtain ⟨more, rfl⟩ := Nat.exists_eq_add_of_le' (Nat.lt_of_lt_of_le (Nat.succ_pos _) le)
      exact (Parallel.production goal).refines fun goal => ih (Nat.le_of_succ_le_succ le) goal

/-- Where the steps suffice, more of them give the same reply. -/
theorem run_eq_of_le {goal : Goal} {s : State} (enough : run steps goal setup s ≠ .exhausted)
    (le : steps ≤ steps') : run steps' goal setup s = run steps goal setup s := by
  rcases run_refines le goal setup s with short | same
  · exact absurd short enough
  · exact same.symm

end Ecmascript.Parser
