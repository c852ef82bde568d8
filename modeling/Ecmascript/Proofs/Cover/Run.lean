import Ecmascript.Proofs.Cover.Statement

/-!
# Accepted scripts are covered by their tokens

Every production keeps the promise of its goal when all goals do, so every run does. The body of an
accepted script is then covered by tokens that are written in the source.
-/

set_option autoImplicit false

namespace Ecmascript

namespace Parser

variable {setup : Setup}

theorem Keeps.production {self : Grammar} (keeps : Keeps setup self) :
    ∀ goal : Goal, goal.Meets setup (Parser.production self goal)
  | .statement => keeps.statement
  | .statements _ => keeps.statements
  | .declarators => keeps.declarators
  | .switchCases => keeps.switchCases
  | .classMembers => keeps.classMembers
  | .expression => keeps.expression
  | .moreExpressions => keeps.moreExpressions
  | .assignment => keeps.assignment
  | .binary _ => keeps.binary
  | .binaryRest _ _ _ => keeps.binaryRest
  | .power => keeps.power
  | .unary => keeps.unary
  | .leftHandSide => keeps.leftHandSide
  | .newExpression => keeps.newExpression
  | .memberRest _ _ _ => keeps.memberRest
  | .arguments => keeps.arguments
  | .arrayElements => keeps.arrayElements
  | .objectMembers => keeps.objectMembers
  | .templateRest => keeps.templateRest
  | .target _ => keeps.target
  | .targetElements _ => keeps.targetElements
  | .targetProperties _ => keeps.targetProperties
  | .parameters => keeps.parameters

/-- Without steps nothing is read. -/
theorem meets_exhaust (goal : Goal) : goal.Meets setup (run 0 goal) := by
  cases goal with
  | binaryRest _ _ _ | memberRest _ _ _ => exact fun _ _ _ _ _ _ _ _ _ outcome => nomatch outcome
  | _ => exact fun _ _ _ _ _ outcome => nomatch outcome

theorem keeps_run (steps : Nat) : Keeps setup (run steps) := by
  induction steps with
  | zero => exact ⟨meets_exhaust, balanced_run 0⟩
  | succ steps ih => exact ⟨ih.production, balanced_run (steps + 1)⟩

theorem Stands.start {source : Text} {s : State} (starts : start setup source = .ok s) :
    Stands Scope.script s ∧ s.lexer.source = source := by
  have placed := Lexer.placed_ofText source
  unfold Parser.start at starts
  split at starts
  · cases starts
  · rename_i token lexer reads
    cases starts
    obtain ⟨_, _, moves, _⟩ := Lexer.nextWith_passes reads
    exact ⟨.of_reads placed reads rfl, moves.source⟩

end Parser

/-- The tokens of an accepted script cover its body. -/
theorem covers_of_parseWith {setup : Setup} {source : Text} {program : Program}
    (accepted : parseWith setup source = .ok program) :
    program.start = 0 ∧ program.stop = source.byteLength ∧
      ∃ ts, Token.Between source 0 ts source.byteLength ∧
        Covers Scope.script .phrase ts program.body := by
  unfold parseWith Parser.replyTo at accepted
  cases starts : Parser.start setup source with
  | error error =>
      rw [starts] at accepted
      cases accepted
  | ok s =>
      rw [starts] at accepted
      obtain ⟨stands, same⟩ := Parser.Stands.start starts
      cases outcome : Parser.run (Parser.stepBound source) (.statements .script) setup s with
      | ok body s' =>
          simp only [Except.map, outcome] at accepted
          cases accepted
          obtain ⟨ts, reads, inside⟩ := (Parser.keeps_run _).goals (.statements .script) stands outcome
          have source' : s'.lexer.source = source := reads.source.trans same
          have ends := reads.stands.written.boundaries.1.le
          rw [source'] at ends
          have between := reads.between.widen (Nat.zero_le _) ends
          rw [same] at between
          exact ⟨rfl, rfl, ts, between, inside⟩
      | reject error s' =>
          simp only [Except.map, outcome] at accepted
          cases accepted
      | exhausted =>
          simp only [Except.map, outcome] at accepted
          cases accepted

end Ecmascript
