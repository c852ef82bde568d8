import Ecmascript.Proofs.Lexer.Lexeme
import Ecmascript.Proofs.Offset.Basic

/-!
# Punctuators by offsets

Character by character the choices come to the longest punctuator of the table. What makes a
punctuator longer was refused wherever a choice ends with it.
-/

set_option autoImplicit false

namespace Ecmascript.Cursor

open Character Lexer

variable {lexer after : Lexer} {front rest : Text} {first c : Char}

/-- The characters that make a punctuator longer. -/
def followers (mark : Punctuator) : List Char :=
  Punctuator.all.filterMap fun other =>
    if mark.spelling.toList <+: other.spelling.toList then
      (other.spelling.toList.drop mark.spelling.toList.length).head?
    else none

theorem mem_followers {mark : Punctuator} (continues : mark.continues c = true) :
    c ∈ followers mark := by
  obtain ⟨other, listed, begins⟩ := List.any_eq_true.1 continues
  obtain ⟨more, spelled⟩ := List.isPrefixOf_iff_prefix.1 begins
  rw [List.append_assoc] at spelled
  refine List.mem_filterMap.2 ⟨other, listed, ?_⟩
  rw [if_pos ⟨_, spelled⟩, ← spelled, List.drop_left]
  rfl

/-- A choice ends with the punctuator that was spelled, once no character is next that would make
it longer. -/
def Choice.fits : Choice → Text → List Char → Bool
  | .done mark, spelled, refused =>
      mark.spelling.toList = spelled && mark ≠ .optionalChain && (followers mark).all (· ∈ refused)
  | .eat expected yes no, spelled, refused =>
      yes.fits (spelled ++ [expected]) [] && no.fits spelled (expected :: refused)

theorem division_fits : division.fits ['/'] [] = true := by
  decide +kernel

theorem choices_fit : ∀ entry ∈ choices, entry.2.fits [entry.1] [] = true := by
  decide +kernel

theorem choices_complete : ∀ mark ∈ Punctuator.all,
    (mark.spelling.toList.head?.all fun first =>
      first = '.' || first = '?' || choices.any fun entry => entry.1 = first) = true := by
  decide +kernel

theorem gives_choice {choice : Choice} {spelled : Text} {refused : List Char}
    (fits : choice.fits spelled refused = true) (inRange : lexer.InRange)
    (next : lexer.rest = spelled ++ rest) (stops : rest.Stops fun c => c ∈ refused) :
    ∃ mark, Punctuator.longest? lexer.rest = some mark ∧
      Gives choice.scan (lexer.advance spelled rest)
        (mark, lexer.advance mark.spelling.toList
          (lexer.rest.drop mark.spelling.toList.length)) := by
  induction choice generalizing spelled rest refused with
  | done mark =>
      rw [Choice.fits, Bool.and_eq_true, Bool.and_eq_true] at fits
      obtain ⟨⟨spelling, plain⟩, all⟩ := fits
      obtain rfl := of_decide_eq_true spelling
      refine ⟨mark, ?_, ?_⟩
      · rw [next]
        have refuses := List.all_eq_true.1 all
        refine Punctuator.longest?_right (of_decide_eq_true plain) ?_
        exact stops.mono fun c continues => refuses c (mem_followers continues)
      · rw [next, List.drop_left]
        exact .pure _ _
  | eat expected yes no yesGives noGives =>
      rw [Choice.fits, Bool.and_eq_true] at fits
      have here : (lexer.advance spelled rest).InRange := inRange.advance next
      by_cases same : rest.head? = some expected
      · obtain ⟨rest, rfl⟩ : ∃ more, rest = expected :: more :=
          ⟨_, List.eq_cons_of_mem_head? same⟩
        have whole : lexer.rest = (spelled ++ [expected]) ++ rest := by
          rw [next, List.append_assoc]
          rfl
        obtain ⟨mark, longest, gives⟩ := yesGives fits.1 whole (fun _ _ => rfl)
        rw [← advance_advance lexer spelled [expected] (expected :: rest)] at gives
        exact ⟨mark, longest, (gives_eat here rfl).bind gives⟩
      · have others : rest.Stops fun c => c ∈ expected :: refused := by
          intro c head
          have other : c ≠ expected := fun expects => same (expects ▸ head)
          have outside := of_decide_eq_false (stops c head)
          exact decide_eq_false (List.not_mem_cons_of_ne_of_not_mem other outside)
        obtain ⟨mark, longest, gives⟩ := noGives fits.2 next others
        exact ⟨mark, longest, (gives_eat_other here same).bind gives⟩

theorem gives_scanPunctuator (inRange : lexer.InRange) (next : lexer.rest = first :: rest)
    (dot : first ≠ '.') (question : first ≠ '?') :
    Gives (scanPunctuator first lexer.position) (lexer.advance [first] rest)
      (lexer.readPunctuator first rest) := by
  rw [scanPunctuator, readPunctuator]
  cases found : choices.find? fun entry => entry.1 = first with
  | some entry =>
      obtain ⟨key, choice⟩ := entry
      have same := List.find?_some found
      obtain rfl : key = first := of_decide_eq_true same
      have fits := choices_fit _ (List.mem_of_find?_eq_some found)
      obtain ⟨mark, longest, gives⟩ := gives_choice fits inRange next (fun _ _ => rfl)
      rw [next] at longest gives
      simp only [longest]
      exact gives.bind ((gives_modify rfl).bind (.pure _ _))
  | none =>
      have missing : Punctuator.longest? (first :: rest) = none := by
        cases longest : Punctuator.longest? (first :: rest) with
        | none => rfl
        | some mark =>
            exfalso
            obtain ⟨left, whole⟩ := Punctuator.spelling_prefix_of_longest longest
            obtain ⟨head, more, spelled, _⟩ := spelling_cons mark
            rw [spelled] at whole
            obtain rfl := (List.cons.inj whole).1
            have known := choices_complete mark (Punctuator.all_complete mark)
            simp only [spelled, List.head?_cons, Option.all_some, Bool.or_eq_true,
              decide_eq_true_eq, List.any_eq_true] at known
            rcases known with (same | same) | ⟨entry, listed, same⟩
            · exact dot same
            · exact question same
            · exact List.find?_eq_none.1 found entry listed (decide_eq_true same)
      simp only [missing]
      exact .pure _ _

theorem readPunctuator_of_longest {mark : Punctuator}
    (longest : Punctuator.longest? (first :: rest) = some mark)
    (plain : mark ≠ .leftBrace ∧ mark ≠ .rightBrace) (lexer : Lexer) :
    lexer.readPunctuator first rest = (.ok (.punctuator mark),
      lexer.advance mark.spelling.toList
        ((first :: rest).drop mark.spelling.toList.length)) := by
  have unbraced (templates : List Nat) : countBrace mark templates = templates := by
    unfold countBrace
    split
    · rfl
    · split
      · exact absurd rfl plain.1
      · exact absurd rfl plain.2
      · rfl
  simp only [readPunctuator, longest, unbraced]

theorem longest?_of_followers (mark : Punctuator) (tail : Text) (plain : mark ≠ .optionalChain)
    (others : ∀ c ∈ followers mark, tail.head? ≠ some c) :
    Punctuator.longest? (mark.spelling.toList ++ tail) = some mark := by
  refine Punctuator.longest?_right plain fun c head => ?_
  rw [Bool.eq_false_iff]
  exact fun continues => others c (mem_followers continues) head

theorem longest?_dot (single : ∀ more, rest ≠ '.' :: '.' :: more) :
    Punctuator.longest? ('.' :: rest) = some .dot := by
  refine Punctuator.longest?_of_maximal rfl fun other longer different => ?_
  obtain rfl : other = .ellipsis := by
    revert longer different
    cases other <;> decide
  rw [Bool.eq_false_iff]
  intro begins
  obtain ⟨more, whole⟩ : ['.', '.', '.'] <+: '.' :: rest := by
    simp only [Punctuator.begins, Bool.and_eq_true] at begins
    exact List.isPrefixOf_iff_prefix.1 begins.1
  exact single more (List.cons.inj whole).2.symm

theorem gives_scanDot (inRange : lexer.InRange) (next : lexer.rest = '.' :: rest)
    (plain : rest.head?.any isDecimalDigit = false) :
    ∃ kind after, lexer.readPunctuator '.' rest = (.ok kind, after) ∧
      Gives (scanDot lexer.position) (lexer.advance ['.'] rest) (kind, after) := by
  have second : (lexer.advance ['.'] rest).InRange := inRange.advance next
  by_cases two : rest.head? = some '.'
  · obtain ⟨more, rfl⟩ : ∃ more, rest = '.' :: more := ⟨_, List.eq_cons_of_mem_head? two⟩
    by_cases three : more.head? = some '.'
    · obtain ⟨last, rfl⟩ : ∃ last, more = '.' :: last := ⟨_, List.eq_cons_of_mem_head? three⟩
      have none : followers .ellipsis = [] := by decide +kernel
      have longest := longest?_of_followers .ellipsis last (by decide)
        (by rw [none]; exact List.forall_mem_nil _)
      have third : ((lexer.advance ['.'] ('.' :: '.' :: last)).advance ['.']
          ('.' :: last)).InRange := second.advance rfl
      refine ⟨_, _, readPunctuator_of_longest longest (by decide) lexer, ?_⟩
      refine .peek second (rest_advance _ _ _) ?_
      rw [List.head?_cons, if_pos rfl]
      refine .peekNext second (rest_advance _ _ _) ?_
      rw [List.tail_cons, List.head?_cons, if_pos rfl]
      refine (gives_advance second rfl).bind ((gives_advance third rfl).bind ?_)
      rw [advance_advance, advance_advance]
      exact .pure _ _
    · have longest : Punctuator.longest? ('.' :: '.' :: more) = some .dot :=
        longest?_dot fun last same => by
          cases same
          exact three rfl
      refine ⟨_, _, readPunctuator_of_longest longest (by decide) lexer, ?_⟩
      refine .peek second (rest_advance _ _ _) ?_
      rw [List.head?_cons, if_pos rfl]
      refine .peekNext second (rest_advance _ _ _) ?_
      rw [List.tail_cons, if_neg three]
      exact .pure _ _
  · have longest : Punctuator.longest? ('.' :: rest) = some .dot :=
      longest?_dot fun last same => two (by rw [same]; rfl)
    refine ⟨_, _, readPunctuator_of_longest longest (by decide) lexer, ?_⟩
    refine .peek second (rest_advance _ _ _) ?_
    rw [if_neg two, plain]
    exact .pure _ _

theorem longest?_optionalChain (plain : rest.head?.any isDecimalDigit = false) :
    Punctuator.longest? ('?' :: '.' :: rest) = some .optionalChain := by
  have here : Punctuator.begins (['?', '.'], .optionalChain) ('?' :: '.' :: rest) = true := by
    simp [Punctuator.begins, plain]
  refine Punctuator.longest?_of_maximal here fun other longer different => ?_
  exfalso
  revert longer different
  cases other <;> decide

theorem gives_scanQuestion (inRange : lexer.InRange) (next : lexer.rest = '?' :: rest) :
    ∃ mark after, lexer.readPunctuator '?' rest = (.ok (.punctuator mark), after) ∧
      Gives scanQuestion (lexer.advance ['?'] rest) (mark, after) := by
  have second : (lexer.advance ['?'] rest).InRange := inRange.advance next
  by_cases two : rest.head? = some '?'
  · obtain ⟨more, rfl⟩ : ∃ more, rest = '?' :: more := ⟨_, List.eq_cons_of_mem_head? two⟩
    have third : ((lexer.advance ['?'] ('?' :: more)).advance ['?'] more).InRange :=
      second.advance rfl
    by_cases three : more.head? = some '='
    · obtain ⟨last, rfl⟩ : ∃ last, more = '=' :: last := ⟨_, List.eq_cons_of_mem_head? three⟩
      have none : followers .nullishAssign = [] := by decide +kernel
      have longest := longest?_of_followers .nullishAssign last (by decide)
        (by rw [none]; exact List.forall_mem_nil _)
      refine ⟨_, _, readPunctuator_of_longest longest (by decide) lexer, ?_⟩
      refine (gives_eat second rfl).bind ((gives_eat third rfl).bind ?_)
      rw [advance_advance, advance_advance]
      exact .pure _ _
    · have only : followers .nullish = ['='] := by decide +kernel
      have longest := longest?_of_followers .nullish more (by decide)
        (by rw [only]; exact List.forall_mem_singleton.2 three)
      refine ⟨_, _, readPunctuator_of_longest longest (by decide) lexer, ?_⟩
      refine (gives_eat second rfl).bind ((gives_eat_other third three).bind ?_)
      rw [advance_advance]
      exact .pure _ _
  by_cases dot : rest.head? = some '.'
  · obtain ⟨more, rfl⟩ : ∃ more, rest = '.' :: more := ⟨_, List.eq_cons_of_mem_head? dot⟩
    cases digit : more.head?.any isDecimalDigit with
    | true =>
        obtain ⟨d, last, rfl⟩ : ∃ d last, more = d :: last := by
          cases more with
          | nil => cases digit
          | cons d last => exact ⟨d, last, rfl⟩
        have longest := Punctuator.longest?_question digit last
        refine ⟨_, _, readPunctuator_of_longest longest (by decide) lexer, ?_⟩
        refine (gives_eat_other second two).bind (.peek second (rest_advance _ _ _) ?_)
        rw [List.head?_cons, if_pos rfl]
        refine .peekNext second (rest_advance _ _ _) ?_
        rw [List.tail_cons, digit, if_pos rfl]
        exact .pure _ _
    | false =>
        have longest := longest?_optionalChain digit
        refine ⟨_, _, readPunctuator_of_longest longest (by decide) lexer, ?_⟩
        refine (gives_eat_other second two).bind (.peek second (rest_advance _ _ _) ?_)
        rw [List.head?_cons, if_pos rfl]
        refine .peekNext second (rest_advance _ _ _) ?_
        rw [List.tail_cons, digit, if_neg Bool.false_ne_true]
        refine (gives_advance second rfl).bind ?_
        rw [advance_advance]
        exact .pure _ _
  · have only : followers .question = ['?', '.', '?'] := by decide +kernel
    have longest := longest?_of_followers .question rest (by decide) (by simp [only, two, dot])
    refine ⟨_, _, readPunctuator_of_longest longest (by decide) lexer, ?_⟩
    refine (gives_eat_other second two).bind (.peek second (rest_advance _ _ _) ?_)
    rw [if_neg dot]
    exact .pure _ _

end Ecmascript.Cursor
