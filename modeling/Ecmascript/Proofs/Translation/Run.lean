import Ecmascript.Proofs.Cover.Run
import Ecmascript.Proofs.Parallel.Steps
import Ecmascript.Proofs.Progress.Run
import Ecmascript.Proofs.Translation.Statement

/-!
# Scripts behind a text

Every run is compared with the run behind a text in front. Behind blanks and complete comments the
first tokens are related, so the outcomes of parsing are: the text in front moves a tree or an error
and changes nothing else. With no text in front, what is left is that every error points at
something in the source.
-/

set_option autoImplicit false

namespace Ecmascript

namespace Parser.Translation

variable (c : Translation)

/-- Without steps nothing is read in either text. -/
theorem compares_exhaust (goal : Goal) : c.Compares (run 0) goal := by
  cases goal <;> exact Follows.exhaust

theorem carries_run (steps : Nat) : c.Carries (run steps) := by
  induction steps with
  | zero => exact ⟨c.compares_exhaust, keeps_run 0⟩
  | succ steps ih => exact ⟨ih.production, keeps_run (steps + 1)⟩

/-! ## First tokens -/

/-- The beginning of the second text is the beginning of the first one, moved. -/
inductive Begun : Except SyntaxError State → Except SyntaxError State → Prop
  | ok {s t : State} (related : c.Related .first s t) : Begun (.ok s) (.ok t)
  | error {e e' : SyntaxError} (fault : e.At c.source) (moves : e.Moves c.distance e') :
      Begun (.error e) (.error e')

/-- Blanks and complete comments only put the first token behind a line break. -/
theorem begun (separates : Trivia.Separates False c.front) :
    c.Begun (start c.setup c.source) (start c.setup (c.front ++ c.source)) := by
  obtain ⟨newline, same⟩ := Lexer.nextWith_separates separates c.setup.endsOperand c.source
  unfold Parser.start
  rw [same]
  have placed := Lexer.placed_ofText c.source
  have outside (offset : Nat) : (Lexer.ofText c.source).Inside offset := absurd rfl
  cases outcome : (Lexer.ofText c.source).nextWith c.setup.endsOperand with
  | mk reading lexer =>
      cases reading with
      | ok token =>
          obtain ⟨_, _, moves, _⟩ := Lexer.nextWith_passes outcome
          have ⟨here, slash⟩ := placed.nextWith_inside (outside _) outcome
          exact .ok {
            depth := rfl
            failed := rfl
            stands := .of_reads placed outcome rfl
            inside := ⟨here, slash⟩
            source := moves.source
            lexer := rfl
            kind := rfl
            start := rfl
            stop := rfl
            context := rfl
            settled := nofun }
      | error error =>
          have fault := placed.nextWith_fault (outside _) outcome
          exact .error (.lexical fault) (SyntaxError.moves_lexical _ _)

/-! ## Outcomes -/

/-- The outcome for the second text is the outcome for the first one, moved. -/
inductive Answers : Except SyntaxError Program → Except SyntaxError Program → Prop
  | accepted (program : Program) : Answers (.ok program)
      (.ok { program with
        stop := program.stop + c.distance, body := program.body.shift c.distance })
  | rejected {e e' : SyntaxError} (fault : e.At c.source) (moves : e.Moves c.distance e') :
      Answers (.error e) (.error e')

/-- Both runs take the steps of the longer text, which the shorter one does not need. -/
theorem replies {s t : State} (starts : Parser.start c.setup c.source = .ok s)
    (related : c.Related .first s t) :
    c.Matches (fun _ => .first)
      (run (stepBound c.source) (.statements .script) c.setup s)
      (run (stepBound (c.front ++ c.source)) (.statements .script) c.setup t) ∧
    run (stepBound c.source) (.statements .script) c.setup s ≠ .exhausted := by
  have enough : run (stepBound c.source) (.statements .script) c.setup s ≠ .exhausted := by
    intro short
    refine @replyTo_ne_exhausted c.setup c.source ?_
    unfold replyTo
    rw [starts, Except.map, short]
  have le : stepBound c.source ≤ stepBound (c.front ++ c.source) := by
    simp only [stepBound, List.length_append]
    omega
  refine ⟨?_, enough⟩
  rw [← run_eq_of_le enough le]
  exact (c.carries_run _).goals (.statements .script) s t related

theorem parseWith_answers (separates : Trivia.Separates False c.front) :
    c.Answers (parseWith c.setup c.source) (parseWith c.setup (c.front ++ c.source)) := by
  have begun := c.begun separates
  unfold parseWith Parser.replyTo
  generalize starts : Parser.start c.setup c.source = first at begun ⊢
  generalize Parser.start c.setup (c.front ++ c.source) = first' at begun ⊢
  cases begun with
  | error fault moves => exact .rejected fault moves
  | ok related =>
      obtain ⟨matched, enough⟩ := c.replies starts related
      simp only [Except.map]
      generalize run (stepBound c.source) (.statements .script) c.setup _ = reply
        at matched enough ⊢
      generalize run (stepBound (c.front ++ c.source)) (.statements .script) c.setup _ = reply'
        at matched ⊢
      cases matched with
      | @ok body _ _ _ =>
          dsimp only
          rw [Text.byteLength_append, Nat.add_comm]
          exact .accepted { start := 0, stop := c.source.byteLength, body }
      | reject fault moves _ => exact .rejected fault moves
      | exhausted => exact absurd rfl enough

end Parser.Translation

/-- Blanks and complete comments in front of a script move everything by their length, and change
nothing else. -/
theorem parse_behind (front source : String) (separates : Trivia.Separates False front.toList) :
    (parse (front ++ source)).isOk = (parse source).isOk ∧
    (∀ program, parse source = .ok program → parse (front ++ source) = .ok
      { start := program.start
        stop := program.stop + Text.byteLength front.toList
        body := program.body.shift (Text.byteLength front.toList) }) ∧
    ∀ error, parse source = .error error → ∃ error', parse (front ++ source) = .error error' ∧
      error.Moves (Text.byteLength front.toList) error' := by
  let c : Parser.Translation := { setup := .standard, front := front.toList, source := source.toList }
  have answers := c.parseWith_answers separates
  have whole : parseWith c.setup (c.front ++ c.source) = parse (front ++ source) :=
    congrArg (parseWith .standard) String.toList_append.symm
  change c.Answers (parse source) _ at answers
  rw [whole] at answers
  generalize parse source = outcome at answers ⊢
  generalize parse (front ++ source) = outcome' at answers ⊢
  cases answers with
  | accepted program =>
      refine ⟨rfl, fun program' same => ?_, nofun⟩
      cases same
      rfl
  | rejected fault moves =>
      refine ⟨rfl, nofun, fun error same => ?_⟩
      cases same
      exact ⟨_, rfl, moves⟩

/-- A line comment in front of a name puts the name on a new line. -/
theorem parse_behind_lineComment :
    let body (start : Nat) : Many (.located .statement) :=
      .single (.located start (start + 1) (.expressionStatement
        (.located start (start + 1) (.identifier "b"))))
    Trivia.Separates False "//a\n".toList ∧ parse "b" = .ok { start := 0, stop := 1, body := body 0 } ∧
      parse ("//a\n" ++ "b") = .ok { start := 0, stop := 5, body := body 4 } := by
  intro body
  have separates : Trivia.Separates False "//a\n".toList :=
    @Trivia.Separates.lineComment False ['a'] ['\n'] (List.forall_mem_singleton.2 rfl) nofun (by rintro _ ⟨⟩; rfl)
      (.blank rfl .nil)
  have accepted : parse "b" = .ok { start := 0, stop := 1, body := body 0 } := by
    decide +kernel
  exact ⟨separates, accepted, (parse_behind _ _ separates).2.1 _ accepted⟩

/-- Every error of parsing keeps to the contract of errors. -/
theorem parse_reports {source : String} {error : SyntaxError}
    (rejected : parse source = .error error) : error.Reports source.toList := by
  let c : Parser.Translation := { setup := .standard, front := [], source := source.toList }
  have answers := c.parseWith_answers .nil
  change c.Answers (parse source) _ at answers
  rw [rejected] at answers
  generalize parseWith c.setup (c.front ++ c.source) = outcome at answers
  cases answers with
  | rejected fault _ => exact fault.reports

/-- The second chunk of a template is not closed. -/
theorem parse_reports_chunk :
    let error : SyntaxError := .lexical (.unterminated .template 5)
    parse "`a$\x7bb\x7dc" = .error error ∧ error.Reports "`a$\x7bb\x7dc".toList := by
  intro error
  have rejected : parse "`a$\x7bb\x7dc" = .error error := by
    decide +kernel
  exact ⟨rejected, parse_reports rejected⟩

end Ecmascript
