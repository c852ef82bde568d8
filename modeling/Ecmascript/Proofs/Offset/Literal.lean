import Ecmascript.Proofs.Lexer.Guess
import Ecmascript.Proofs.Offset.Basic

/-!
# Delimited literals by offsets

A scanner that looks for a closing delimiter stops where the literal stops, closed or not: behind
the delimiter, behind the character at which it gave up, or at the end of the source.
-/

set_option autoImplicit false

namespace Ecmascript.Cursor

open Character Lexer

variable {lexer after : Lexer} {front rest : Text} {first c : Char}

theorem gives_eatEscaped (inRange : lexer.InRange) (next : lexer.rest = '\r' :: '\n' :: rest) :
    Gives eatEscaped lexer ((), lexer.advance ['\r', '\n'] rest) := by
  have second : (lexer.advance ['\r'] ('\n' :: rest)).InRange := inRange.advance next
  refine (gives_advance inRange next).bind ?_
  rw [if_pos rfl]
  exact (gives_eat second rfl).bind (.pure _ _)

theorem gives_eatEscaped_single (inRange : lexer.InRange) (next : lexer.rest = c :: rest)
    (single : ∀ more, c = '\r' → rest = '\n' :: more → False) :
    Gives eatEscaped lexer ((), lexer.advance [c] rest) := by
  have second : (lexer.advance [c] rest).InRange := inRange.advance next
  refine (gives_advance inRange next).bind ?_
  dsimp only
  split
  · next same =>
    refine (gives_eat_other second fun lineFeed => ?_).bind (.pure _ _)
    exact single _ (Option.some.inj same) (List.eq_cons_of_mem_head? lineFeed)
  · exact .pure _ _

theorem gives_eatEscaped_end (inRange : lexer.InRange) (next : lexer.rest = []) :
    Gives eatEscaped lexer ((), lexer) :=
  (gives_advance_end inRange next).bind (.pure _ _)

/-- What reading to a closing delimiter comes to, and the lexer behind it. -/
def closing (what : Delimited) (start : Nat) (lexer : Lexer) (scan : Scan) :
    Except LexError Unit × Lexer :=
  (if scan.closed then .ok () else .error (.unterminated what start),
    lexer.advance scan.lexeme scan.rest)

theorem Gives.prepend {what : Delimited} {start : Nat} {scan : Scan} {scanner : Scanner _}
    (further : Gives scanner (lexer.advance front rest)
      (closing what start (lexer.advance front rest) scan)) :
    Gives scanner (lexer.advance front rest) (closing what start lexer (scan.prepend front)) := by
  rw [closing, advance_advance] at further
  exact further

/-- The end of the source closes nothing. -/
theorem gives_closing_end {σ : Type} (what : Delimited) (start : Nat) (next : lexer.rest = []) :
    Gives (pure (.inr (.error (.unterminated what start)) : σ ⊕ Except LexError Unit)) lexer
      (.inr (closing what start lexer ⟨[], [], false⟩).1,
        (closing what start lexer ⟨[], [], false⟩).2) := by
  rw [show closing what start lexer ⟨[], [], false⟩ = (_, lexer.past ([], [])) from rfl,
    past_nil next]
  exact .pure _ _

theorem gives_closeString {quote : Char} (plain : quote ≠ '\\') (start : Nat)
    (inRange : lexer.InRange) (next : lexer.rest = rest) :
    Gives (closeString quote start) lexer
      (closing .string start lexer (Literal.scanString quote rest)) := by
  fun_induction Literal.scanString quote rest generalizing lexer with
  | case1 =>
      refine .over ?_
      exact (gives_advance_end inRange next).bind (gives_closing_end _ _ next)
  | case2 rest ih =>
      have second : (lexer.advance ['\\'] ('\r' :: '\n' :: rest)).InRange := inRange.advance next
      have third : (lexer.advance ['\\', '\r', '\n'] rest).InRange := inRange.advance next
      refine .again ?_ (ih third rfl).prepend
      refine (gives_advance inRange next).bind ?_
      dsimp only
      rw [if_neg plain.symm, if_pos rfl]
      refine (gives_eatEscaped second rfl).bind ?_
      rw [advance_advance]
      exact .pure _ _
  | case3 c rest other ih =>
      have second : (lexer.advance ['\\'] (c :: rest)).InRange := inRange.advance next
      have third : (lexer.advance ['\\', c] rest).InRange := inRange.advance next
      refine .again ?_ (ih third rfl).prepend
      refine (gives_advance inRange next).bind ?_
      dsimp only
      rw [if_neg plain.symm, if_pos rfl]
      refine (gives_eatEscaped_single second rfl other).bind ?_
      rw [advance_advance]
      exact .pure _ _
  | case4 rest =>
      refine .over ((gives_advance inRange next).bind ?_)
      dsimp only
      rw [if_pos rfl]
      exact .pure _ _
  | case5 c rest _ _ other ends =>
      have not_escape : c ≠ '\\' := by
        rintro rfl
        cases ends
      refine .over ((gives_advance inRange next).bind ?_)
      dsimp only
      rw [if_neg other, if_neg not_escape, if_pos (by simpa using ends)]
      exact .pure _ _
  | case6 c rest _ alone other goes_on ih =>
      have second : (lexer.advance [c] rest).InRange := inRange.advance next
      refine .again ?_ (ih second rfl).prepend
      refine (gives_advance inRange next).bind ?_
      dsimp only
      rw [if_neg other]
      by_cases escape : c = '\\'
      · rw [if_pos escape]
        cases rest with
        | nil => exact (gives_eatEscaped_end second rfl).bind (.pure _ _)
        | cons d rest => exact absurd rfl (alone d rest escape)
      · rw [if_neg escape, if_neg (by simpa using goes_on)]
        exact .pure _ _

theorem gives_scanString {quote : Char} (plain : quote ≠ '\\') (inRange : lexer.InRange)
    (next : lexer.rest = quote :: rest) :
    Gives (scanString quote lexer.position) (lexer.advance [quote] rest)
      (lexer.readString quote rest) := by
  have second : (lexer.advance [quote] rest).InRange := inRange.advance next
  have closes := (gives_closeString plain lexer.position second (rest_advance _ _ _)).prepend
  have whole : _ = [quote] ++ rest := Literal.prepend_append (Literal.scanString_append quote rest)
  have moves := passes_advance (next.trans whole.symm)
  refine closes.bind ?_
  cases closed : (Literal.scanString quote rest).closed with
  | true =>
      simp only [closing, readString, Scan.prepend, closed, if_true] at moves ⊢
      exact gives_lexeme inRange moves fun raw => Except.ok (TokenKind.string (String.ofList raw))
  | false =>
      simp only [closing, readString, Scan.prepend, closed, Bool.false_eq_true, if_false]
      exact .pure _ _

theorem gives_closeRegex (start : Nat) (inClass : Bool) (inRange : lexer.InRange)
    (next : lexer.rest = rest) :
    Gives (closeRegex start inClass) lexer
      (closing .regularExpression start lexer (Literal.scanRegexBody inClass rest)) := by
  fun_induction Literal.scanRegexBody inClass rest generalizing lexer with
  | case1 inClass =>
      refine .over ?_
      exact (gives_advance_end inRange next).bind (gives_closing_end _ _ next)
  | case2 inClass c rest ends =>
      have second : (lexer.advance ['\\'] (c :: rest)).InRange := inRange.advance next
      refine .over ((gives_advance inRange next).bind ?_)
      dsimp only
      rw [if_pos rfl]
      refine (gives_advance second rfl).bind ?_
      dsimp only
      rw [if_pos ends, advance_advance]
      exact .pure _ _
  | case3 inClass c rest goes_on ih =>
      have second : (lexer.advance ['\\'] (c :: rest)).InRange := inRange.advance next
      have third : (lexer.advance ['\\', c] rest).InRange := inRange.advance next
      refine .again ?_ (ih third rfl).prepend
      refine (gives_advance inRange next).bind ?_
      dsimp only
      rw [if_pos rfl]
      refine (gives_advance second rfl).bind ?_
      dsimp only
      rw [if_neg goes_on, advance_advance]
      exact .pure _ _
  | case4 inClass c rest _ closes =>
      rw [Bool.and_eq_true, decide_eq_true_eq] at closes
      obtain ⟨rfl, outside⟩ := closes
      refine .over ((gives_advance inRange next).bind ?_)
      simp only [outside, Bool.and_true, decide_true, if_true]
      exact .pure _ _
  | case5 inClass c rest _ goes ends =>
      have plain : c ≠ '\\' ∧ c ≠ '[' ∧ c ≠ ']' := by
        refine ⟨?_, ?_, ?_⟩ <;> rintro rfl <;> cases ends
      refine .over ((gives_advance inRange next).bind ?_)
      dsimp only
      rw [if_neg plain.1, if_neg plain.2.1, if_neg plain.2.2, if_neg goes, if_pos ends]
      exact .pure _ _
  | case6 inClass c rest alone goes on nextInClass =>
      rename_i ih
      have second : (lexer.advance [c] rest).InRange := inRange.advance next
      by_cases escape : c = '\\'
      · cases rest with
        | nil =>
            refine .over ((gives_advance inRange next).bind ?_)
            dsimp only
            rw [if_pos escape]
            exact (gives_advance_end second rfl).bind (gives_closing_end _ _ rfl)
        | cons d rest => exact absurd rfl (alone d rest escape)
      refine .again ?_ (ih second rfl).prepend
      refine (gives_advance inRange next).bind ?_
      dsimp only
      rw [if_neg escape]
      by_cases enters : c = '['
      · rw [if_pos enters, show nextInClass = true from if_pos enters]
        exact .pure _ _
      rw [if_neg enters]
      by_cases leaves : c = ']'
      · rw [if_pos leaves, show nextInClass = false from (if_neg enters).trans (if_pos leaves)]
        exact .pure _ _
      rw [if_neg leaves, if_neg goes, if_neg on,
        show nextInClass = inClass from (if_neg enters).trans (if_neg leaves)]
      exact .pure _ _

theorem gives_scanRegex (inRange : lexer.InRange) (next : lexer.rest = '/' :: rest) :
    Gives (scanRegex lexer.position) (lexer.advance ['/'] rest) (lexer.readRegex rest) := by
  have second : (lexer.advance ['/'] rest).InRange := inRange.advance next
  have closes := gives_closeRegex lexer.position false second (rest_advance _ _ _)
  refine closes.bind ?_
  cases closed : (Literal.scanRegexBody false rest).closed with
  | true =>
      have inner : lexer.rest = '/' :: (Literal.scanRegexBody false rest).lexeme ++ _ :=
        next.trans (congrArg ('/' :: ·) (Literal.scanRegexBody_append false rest).symm)
      have whole : lexer.rest = '/' :: (Literal.scanRegex rest).lexeme ++ _ :=
        next.trans (congrArg ('/' :: ·) (Literal.scanRegex_append rest).symm)
      have flags := gives_advanceWhile isIdentifierPart (inRange.advance inner) rfl
      have lexeme := gives_lexeme inRange (passes_advance whole) fun raw =>
        (Except.ok (TokenKind.regex (String.ofList raw)) : Except LexError TokenKind)
      rw [past_advance] at flags
      simp only [Literal.scanRegex, closed, if_true] at lexeme
      simp only [closing, readRegex, Literal.scanRegex, closed, if_true, advance_advance]
      exact flags.bind lexeme
  | false =>
      simp only [closing, readRegex, Literal.scanRegex, closed, Scan.prepend, Bool.false_eq_true,
        if_false, advance_advance]
      exact .pure _ _

/-- What a chunk of template text comes to, and the lexer behind it. -/
def chunkReading (isFirst : Bool) (start : Nat) (body : Lexer) (chunk : Literal.Chunk) :
    Lexer.Reading :=
  let after := body.advance (chunk.raw ++ chunk.stop.delimiter) chunk.rest
  match chunk.stop with
  | .missing => (.error (.unterminated .template start), after)
  | .backquote => (.ok (.template (templatePart isFirst true) (String.ofList chunk.raw)), after)
  | .substitution =>
      (.ok (.template (templatePart isFirst false) (String.ofList chunk.raw)),
        { after with templates := 0 :: after.templates })

theorem prepend_prepend (front back : Text) (chunk : Literal.Chunk) :
    (chunk.prepend back).prepend front = chunk.prepend (front ++ back) := by
  simp [Literal.Chunk.prepend]

theorem gives_scanTemplate (isFirst : Bool) (start : Nat) {body : Lexer} (begins : body.InRange)
    (next : body.rest = front ++ rest) :
    Gives (scanTemplate start body.position isFirst) (body.advance front rest)
      (chunkReading isFirst start body ((Literal.scanChunk rest).prepend front)) := by
  have inRange : (body.advance front rest).InRange := begins.advance next
  have passes := passes_advance next
  fun_induction Literal.scanChunk rest generalizing front with
  | case1 =>
      refine .over (.peek inRange (rest_advance _ _ _) ?_)
      simp only [chunkReading, Literal.Chunk.prepend, Literal.ChunkEnd.delimiter, List.append_nil]
      exact .pure _ _
  | case2 rest =>
      refine .over (.peek inRange (rest_advance _ _ _) ?_)
      simp only [List.head?_cons, if_true]
      refine (gives_here _).bind ((gives_cut begins passes).bind ?_)
      refine (gives_advance inRange rfl).bind ?_
      simp only [chunkReading, Literal.Chunk.prepend, Literal.ChunkEnd.delimiter, List.append_nil,
        advance_advance]
      exact .pure _ _
  | case3 rest =>
      have second : ((body.advance front ('$' :: '\x7b' :: rest)).advance ['$']
          ('\x7b' :: rest)).InRange := inRange.advance rfl
      refine .over (.peek inRange (rest_advance _ _ _) ?_)
      dsimp only [List.head?_cons]
      rw [if_neg (by decide), if_pos rfl]
      refine .peekNext inRange (rest_advance _ _ _) ?_
      rw [List.tail_cons, List.head?_cons, if_pos rfl]
      refine (gives_here _).bind ((gives_cut begins passes).bind ?_)
      refine (gives_advance inRange rfl).bind ((gives_advance second rfl).bind ?_)
      rw [advance_advance, advance_advance]
      simp only [chunkReading, Literal.Chunk.prepend, Literal.ChunkEnd.delimiter, List.append_nil]
      exact (gives_modify rfl).bind (.pure _ _)
  | case4 c rest ih =>
      have second : ((body.advance front ('\\' :: c :: rest)).advance ['\\'] (c :: rest)).InRange :=
        inRange.advance rfl
      have whole : body.rest = (front ++ ['\\', c]) ++ rest := by
        rw [next, List.append_assoc]
        rfl
      rw [prepend_prepend]
      refine .again ?_ (ih whole (begins.advance whole) (passes_advance whole))
      refine .peek inRange (rest_advance _ _ _) ?_
      dsimp only [List.head?_cons]
      rw [if_neg (by decide), if_neg (by decide), if_pos rfl]
      refine (gives_advance inRange rfl).bind ((gives_advance second rfl).bind ?_)
      rw [advance_advance, advance_advance]
      exact .pure _ _
  | case5 c rest closes opens escapes ih =>
      have second : ((body.advance front (c :: rest)).advance [c] rest).InRange :=
        inRange.advance rfl
      have whole : body.rest = (front ++ [c]) ++ rest := by rw [next, List.append_assoc]; rfl
      have further := ih whole (begins.advance whole) (passes_advance whole)
      rw [← advance_advance body front [c] (c :: rest), ← prepend_prepend] at further
      refine .again ?_ further
      refine .peek inRange (rest_advance _ _ _) ?_
      dsimp only [List.head?_cons]
      rw [if_neg closes]
      by_cases dollar : c = '$'
      · rw [if_pos dollar]
        have plain : rest.head? ≠ some '\x7b' := fun brace =>
          opens _ dollar (List.eq_cons_of_mem_head? brace)
        refine .peekNext inRange (rest_advance _ _ _) ?_
        rw [List.tail_cons, if_neg plain]
        exact (gives_advance inRange rfl).bind (.pure _ _)
      rw [if_neg dollar]
      by_cases escape : c = '\\'
      · rw [if_pos escape]
        cases rest with
        | nil =>
            have ends := gives_advance_end second rfl
            exact (gives_advance inRange rfl).bind (ends.bind (.pure _ _))
        | cons d rest => exact absurd rfl (escapes d rest escape)
      · rw [if_neg escape]
        exact (gives_advance inRange rfl).bind (.pure _ _)

/-- A chunk of template text begins behind a delimiter of one character. -/
theorem gives_readTemplate (isFirst : Bool) (inRange : lexer.InRange)
    (next : lexer.rest = c :: rest) :
    Gives (scanTemplate lexer.position (lexer.advance [c] rest).position isFirst)
      (lexer.advance [c] rest) (lexer.readTemplate isFirst c rest) := by
  have second : (lexer.advance [c] rest).InRange := inRange.advance next
  have chunk := gives_scanTemplate isFirst lexer.position second (List.nil_append rest).symm
  have same : chunkReading isFirst lexer.position (lexer.advance [c] rest)
      ((Literal.scanChunk rest).prepend []) = lexer.readTemplate isFirst c rest := by
    simp only [chunkReading, readTemplate, Literal.Chunk.prepend, List.nil_append, advance_advance]
    rfl
  rw [same] at chunk
  exact chunk

end Ecmascript.Cursor
