import Ecmascript.Proofs.Lexer.Fault

/-!
# Delimited literals

A string, a template chunk and a regular expression end at the first place where they may end, and
reading one fails only where there is no such place. The places are described by the texts that may
stand in front of them, which say what is escaped and what is inside of a class, and not by how a
scanner gets there.
-/

set_option autoImplicit false

namespace Ecmascript

open Character

/-! ## The first place of a kind -/

/-- A text is parted at the first of its places that have a property, which is about what is in
front of the place and what is behind it. -/
structure Text.FirstAt (place : Text → Text → Prop) (text front back : Text) : Prop where
  whole : text = front ++ back
  here : place front back
  least : ∀ front' back', text = front' ++ back' → place front' back' → front.length ≤ front'.length

/-- There is one first place only. -/
theorem Text.FirstAt.unique {place : Text → Text → Prop} {text front back front' back' : Text}
    (first : text.FirstAt place front back) (first' : text.FirstAt place front' back') :
    front = front' ∧ back = back' := by
  have length : front.length = front'.length :=
    Nat.le_antisymm (first.least _ _ first'.whole first'.here)
      (first'.least _ _ first.whole first.here)
  exact List.append_inj (first.whole.symm.trans first'.whole) length

/-- A text has no place of a kind. -/
def Text.Nowhere (place : Text → Text → Prop) (text : Text) : Prop :=
  ∀ front back, text = front ++ back → ¬ place front back

namespace Literal

variable {text : Text}

/-! ## Strings -/

/-- Behind the text of a string stands its quote. -/
def StringEnds (quote : Char) (body left : Text) : Prop :=
  StringBody body ∧ [quote] <+: left

theorem scanString_body {quote : Char} (closed : (scanString quote text).closed = true) :
    ∃ body, StringBody body ∧ (scanString quote text).lexeme = body ++ [quote] := by
  fun_induction scanString quote text with
  | case1 => cases closed
  | case2 rest ih =>
      obtain ⟨body, valid, same⟩ := ih closed
      exact ⟨_, valid.continued, congrArg (['\\', '\r', '\n'] ++ ·) same⟩
  | case3 c rest _ ih =>
      obtain ⟨body, valid, same⟩ := ih closed
      exact ⟨_, valid.escaped c, congrArg (['\\', c] ++ ·) same⟩
  | case4 rest => exact ⟨[], .nil, rfl⟩
  | case5 => cases closed
  | case6 c rest _ other _ goes ih =>
      obtain ⟨body, valid, same⟩ := ih closed
      refine ⟨_, valid.plain ?_ (by simpa using goes), congrArg ([c] ++ ·) same⟩
      -- A backslash that escapes nothing stands at the end of the text.
      rintro rfl
      cases rest with
      | nil => cases closed
      | cons next rest => exact other next rest rfl rfl

/-- A string ends at the first place where it may end. -/
theorem scanString_firstAt {quote : Char} (quotes : quote = '"' ∨ quote = '\'')
    (closed : (scanString quote text).closed = true) :
    ∃ body, (scanString quote text).lexeme = body ++ [quote] ∧
      text.FirstAt (StringEnds quote) body (quote :: (scanString quote text).rest) := by
  obtain ⟨body, valid, lexeme⟩ := scanString_body closed
  have whole := scanString_append quote text
  rw [lexeme, ← List.append_cons] at whole
  refine ⟨body, lexeme, whole.symm, ⟨valid, List.prefix_append [quote] _⟩, ?_⟩
  rintro body' _ rfl ⟨valid', left, rfl⟩
  have within := (scanString_closed quotes valid' left).2
  change (scanString quote (body' ++ ([quote] ++ left))).lexeme.length ≤ _ at within
  rw [lexeme, List.length_append] at within
  exact Nat.le_of_succ_le_succ within

/-! ## Template chunks -/

/-- Behind the text of a chunk stands a backquote or the beginning of a substitution. -/
def ChunkEnds (body left : Text) : Prop :=
  ChunkBody body ∧ ∃ stop : ChunkEnd, stop ≠ .missing ∧ stop.delimiter <+: left

theorem scanChunk_body (closed : (scanChunk text).stop ≠ .missing) :
    ChunkBody (scanChunk text).raw := by
  fun_induction scanChunk text with
  | case1 => exact absurd rfl closed
  | case2 | case3 => exact .nil
  | case4 c rest ih => exact (ih closed).escaped c
  | case5 c rest _ _ other ih =>
      refine (ih closed).plain ?_
      rintro rfl
      cases rest with
      | nil => exact absurd rfl closed
      | cons next rest => exact other next rest rfl rfl

/-- A chunk ends at the first place where it may end. -/
theorem scanChunk_firstAt (closed : (scanChunk text).stop ≠ .missing) :
    text.FirstAt ChunkEnds (scanChunk text).raw
      ((scanChunk text).stop.delimiter ++ (scanChunk text).rest) := by
  refine ⟨(scanChunk_append text).symm, ⟨scanChunk_body closed, _, closed,
    List.prefix_append _ _⟩, ?_⟩
  rintro body _ rfl ⟨valid, stop, delimited, left, rfl⟩
  exact (scanChunk_closed valid delimited left).2

/-! ## Regular expressions -/

/-- Behind the text of a regular expression stands a slash. -/
def RegexEnds (body left : Text) : Prop :=
  RegexBody false body ∧ ['/'] <+: left

theorem scanRegexBody_body {inClass : Bool} (closed : (scanRegexBody inClass text).closed = true) :
    ∃ body, RegexBody inClass body ∧ (scanRegexBody inClass text).lexeme = body ++ ['/'] := by
  fun_induction scanRegexBody inClass text with
  | case1 => cases closed
  | case2 => cases closed
  | case3 inClass c rest goes ih =>
      obtain ⟨body, valid, same⟩ := ih closed
      exact ⟨_, valid.escaped (Bool.eq_false_iff.2 goes), congrArg (['\\', c] ++ ·) same⟩
  | case4 inClass c rest _ closes =>
      rw [Bool.and_eq_true, decide_eq_true_eq, Bool.not_eq_true'] at closes
      obtain ⟨rfl, rfl⟩ := closes
      exact ⟨[], .nil, rfl⟩
  | case5 => cases closed
  | case6 inClass c rest other _ goes next ih =>
      obtain ⟨body, valid, same⟩ := ih closed
      refine ⟨_, .plain ?_ (Bool.eq_false_iff.2 goes) valid, congrArg ([c] ++ ·) same⟩
      rintro rfl
      cases rest with
      | nil => cases closed
      | cons next rest => exact other next rest rfl rfl

/-- The text of a regular expression has no line terminator. -/
theorem RegexBody.goes {inClass : Bool} {body : Text} (valid : RegexBody inClass body) :
    ∀ c ∈ body, isLineTerminator c = false := by
  induction valid with
  | nil => exact nofun
  | plain _ goes _ ih => exact List.forall_mem_cons.2 ⟨goes, ih⟩
  | escaped goes _ ih =>
      exact List.forall_mem_cons.2 ⟨by decide, List.forall_mem_cons.2 ⟨goes, ih⟩⟩

/-- The body of a regular expression ends at the first place where it may end. -/
theorem scanRegexBody_firstAt (closed : (scanRegexBody false text).closed = true) :
    ∃ body, (scanRegexBody false text).lexeme = body ++ ['/'] ∧
      text.FirstAt RegexEnds body ('/' :: (scanRegexBody false text).rest) := by
  obtain ⟨body, valid, lexeme⟩ := scanRegexBody_body closed
  have whole := scanRegexBody_append false text
  rw [lexeme, ← List.append_cons] at whole
  refine ⟨body, lexeme, whole.symm, ⟨valid, List.prefix_append ['/'] _⟩, ?_⟩
  rintro body' _ rfl ⟨valid', left, rfl⟩
  have within := (scanRegexBody_closed valid' left).2
  change (scanRegexBody false (body' ++ (['/'] ++ left))).lexeme.length ≤ _ at within
  rw [lexeme, List.length_append] at within
  exact Nat.le_of_succ_le_succ within

/-- The line that a text begins with has no place where a regular expression may end: a line
terminator or the end of the text comes first. -/
def RegexBroken (text : Text) : Prop :=
  ∃ line rest, text = line ++ rest ∧ (∀ c ∈ line, isLineTerminator c = false) ∧
    (∀ c ∈ rest.head?, isLineTerminator c = true) ∧ line.Nowhere RegexEnds

/-- A regular expression ends on the line on which it begins, or nowhere. -/
theorem regexBroken_iff : RegexBroken text ↔ text.Nowhere RegexEnds := by
  constructor
  · rintro ⟨line, rest, rfl, _, ends, nowhere⟩ body _ whole ⟨valid, left, rfl⟩
    have slash : ∀ more, rest ≠ '/' :: more := by
      rintro more rfl
      exact absurd (ends '/' rfl) (by decide)
    rcases List.append_eq_append_iff.1 whole with ⟨more, rfl, same⟩ | ⟨more, rfl, same⟩
    · cases more with
      | nil => exact slash left same
      | cons c more =>
          have goes := valid.goes c (List.mem_append_right _ List.mem_cons_self)
          rw [ends c (by rw [same]; rfl)] at goes
          cases goes
    · cases more with
      | nil => exact slash left same.symm
      | cons c more =>
          obtain ⟨rfl, _⟩ := List.cons.inj same
          exact nowhere body _ rfl ⟨valid, List.prefix_append ['/'] more⟩
  · intro nowhere
    have split : text.takeWhile (fun c => !isLineTerminator c) ++
        text.dropWhile (fun c => !isLineTerminator c) = text := List.takeWhile_append_dropWhile
    refine ⟨_, _, split.symm, fun c member => ?_, fun c member => ?_, ?_⟩
    · simpa using List.mem_takeWhile_imp member
    · have stops := List.head?_dropWhile_not (fun c => !isLineTerminator c) text
      rw [Option.mem_def.1 member] at stops
      simpa using stops
    · rintro body back whole ⟨valid, slash⟩
      rw [whole, List.append_assoc] at split
      exact nowhere body _ split.symm ⟨valid, slash.trans (List.prefix_append _ _)⟩

end Literal

namespace Lexer

variable {lexer : Lexer} {rest : Text}

/-- A reading takes what is told, and fails with an error exactly where nothing can be taken. -/
structure Recognises (reading : Reading) (takes : TokenKind → Lexer → Prop) (fault : LexError)
    (unclosed : Prop) : Prop where
  ok_iff : ∀ kind after, reading = (.ok kind, after) ↔ takes kind after
  error_iff : ∀ error, (∃ after, reading = (.error error, after)) ↔ error = fault ∧ unclosed

/-- The string that begins with a quote in front of a text: it goes up to the first place where the
quote ends it. -/
def TakesString (lexer : Lexer) (quote : Char) (rest : Text) (kind : TokenKind) (after : Lexer) :
    Prop :=
  ∃ body left, rest.FirstAt (Literal.StringEnds quote) body (quote :: left) ∧
    kind = .string (String.ofList (quote :: (body ++ [quote]))) ∧
    after = lexer.advance (quote :: (body ++ [quote])) left

/-- The template chunk that begins with a delimiter in front of a text: it goes up to the first
backquote or beginning of a substitution that is not escaped. -/
def TakesTemplate (lexer : Lexer) (isFirst : Bool) (delimiter : Char) (rest : Text)
    (kind : TokenKind) (after : Lexer) : Prop :=
  ∃ raw left,
    (rest.FirstAt Literal.ChunkEnds raw ('\x60' :: left) ∧
      kind = .template (templatePart isFirst true) (String.ofList raw) ∧
      after = lexer.advance (delimiter :: (raw ++ ['\x60'])) left) ∨
    (rest.FirstAt Literal.ChunkEnds raw ('$' :: '\x7b' :: left) ∧
      kind = .template (templatePart isFirst false) (String.ofList raw) ∧
      after = { lexer.advance (delimiter :: (raw ++ ['$', '\x7b'])) left with
        templates := 0 :: lexer.templates })

/-- The regular expression that begins with a slash in front of a text: its body goes up to the
first slash that is neither escaped nor in a class, and its flags as far as a word can go. -/
def TakesRegex (lexer : Lexer) (rest : Text) (kind : TokenKind) (after : Lexer) : Prop :=
  ∃ body flags left, rest.FirstAt Literal.RegexEnds body ('/' :: (flags ++ left)) ∧
    (∀ c ∈ flags, isIdentifierPart c = true) ∧ Text.Stops isIdentifierPart left ∧
    kind = .regex (String.ofList ('/' :: (body ++ '/' :: flags))) ∧
    after = lexer.advance ('/' :: (body ++ '/' :: flags)) left

/-- A reading that takes something or fails recognises what it takes, if only one thing can be taken
and that only where it does not fail. -/
theorem recognises_of_outcome {reading : Reading} {takes : TokenKind → Lexer → Prop}
    {fault : LexError} {unclosed : Prop}
    (outcome : (∃ kind after, reading = (.ok kind, after) ∧ takes kind after) ∨
      ∃ after, reading = (.error fault, after) ∧ unclosed)
    (single : ∀ {kind kind' after after'}, takes kind after → takes kind' after' →
      kind = kind' ∧ after = after')
    (closed : ∀ {kind after}, takes kind after → ¬ unclosed) :
    Recognises reading takes fault unclosed := by
  rcases outcome with ⟨kind, after, rfl, took⟩ | ⟨after, rfl, missing⟩
  · refine ⟨fun kind' after' => ⟨?_, fun took' => ?_⟩, fun error => ⟨nofun, fun found => ?_⟩⟩
    · rintro ⟨⟩
      exact took
    · obtain ⟨rfl, rfl⟩ := single took took'
      rfl
    · exact absurd found.2 (closed took)
  · refine ⟨fun kind' after' => ⟨nofun, fun took' => absurd missing (closed took')⟩, fun error =>
      ⟨?_, ?_⟩⟩
    · rintro ⟨_, ⟨⟩⟩
      exact ⟨rfl, missing⟩
    · rintro ⟨rfl, _⟩
      exact ⟨after, rfl⟩

theorem readString_recognises {quote : Char} (quotes : quote = '"' ∨ quote = '\'') :
    Recognises (lexer.readString quote rest) (lexer.TakesString quote rest)
      (.unterminated .string lexer.position) (rest.Nowhere (Literal.StringEnds quote)) := by
  apply recognises_of_outcome
  · cases closed : (Literal.scanString quote rest).closed with
    | true =>
        obtain ⟨body, lexeme, first⟩ := Literal.scanString_firstAt quotes closed
        refine .inl ⟨_, _, ?_, body, _, first, rfl, rfl⟩
        simp only [readString, Scan.prepend, closed, lexeme, if_true, List.singleton_append]
    | false =>
        refine .inr ⟨(lexer.readString quote rest).2, ?_, ?_⟩
        · simp only [readString, Scan.prepend, closed, Bool.false_eq_true, if_false]
        · rintro body _ rfl ⟨valid, left, rfl⟩
          exact absurd (Literal.scanString_closed quotes valid left).1 (Bool.eq_false_iff.1 closed)
  · rintro _ _ _ _ ⟨body, left, first, rfl, rfl⟩ ⟨body', left', first', rfl, rfl⟩
    obtain ⟨rfl, same⟩ := first.unique first'
    obtain ⟨_, rfl⟩ := List.cons.inj same
    exact ⟨rfl, rfl⟩
  · rintro _ _ ⟨body, left, first, _⟩ nowhere
    exact nowhere _ _ first.whole first.here

theorem readTemplate_recognises (isFirst : Bool) (delimiter : Char) :
    Recognises (lexer.readTemplate isFirst delimiter rest)
      (lexer.TakesTemplate isFirst delimiter rest)
      (.unterminated .template lexer.position) (rest.Nowhere Literal.ChunkEnds) := by
  apply recognises_of_outcome
  · cases stop : (Literal.scanChunk rest).stop with
    | missing =>
        refine .inr ⟨(lexer.readTemplate isFirst delimiter rest).2, ?_, ?_⟩
        · simp only [readTemplate, stop]
        · rintro body _ rfl ⟨valid, _, delimited, left, rfl⟩
          exact (Literal.scanChunk_closed valid delimited left).1 stop
    | backquote =>
        have first := Literal.scanChunk_firstAt (stop.trans_ne nofun)
        rw [stop] at first
        refine .inl ⟨_, _, ?_, _, _, .inl ⟨first, rfl, rfl⟩⟩
        simp only [readTemplate, stop]
        rfl
    | substitution =>
        have first := Literal.scanChunk_firstAt (stop.trans_ne nofun)
        rw [stop] at first
        refine .inl ⟨_, _, ?_, _, _, .inr ⟨first, rfl, rfl⟩⟩
        simp only [readTemplate, stop]
        rfl
  · rintro _ _ _ _ ⟨raw, left, ⟨first, rfl, rfl⟩ | ⟨first, rfl, rfl⟩⟩
      ⟨raw', left', ⟨first', rfl, rfl⟩ | ⟨first', rfl, rfl⟩⟩ <;>
    obtain ⟨rfl, same⟩ := first.unique first' <;> cases same <;> exact ⟨rfl, rfl⟩
  · rintro _ _ ⟨raw, left, ⟨first, _⟩ | ⟨first, _⟩⟩ nowhere <;>
    exact nowhere _ _ first.whole first.here

theorem readRegex_recognises : Recognises (lexer.readRegex rest) (lexer.TakesRegex rest)
    (.unterminated .regularExpression lexer.position) (Literal.RegexBroken rest) := by
  apply recognises_of_outcome
  · cases closed : (Literal.scanRegexBody false rest).closed with
    | true =>
        obtain ⟨body, lexeme, first⟩ := Literal.scanRegexBody_firstAt closed
        cases scan : Literal.scanWord (Literal.scanRegexBody false rest).rest with
        | mk flags left =>
            obtain ⟨whole, inner, stops⟩ := Literal.scanWord_eq_iff.1 scan
            rw [whole] at first
            refine .inl ⟨_, _, ?_, body, flags, left, first, inner, stops, rfl, rfl⟩
            simp only [readRegex, Literal.scanRegex, Scan.prepend, closed, scan, lexeme, if_true,
              List.append_assoc, List.singleton_append]
    | false =>
        refine .inr ⟨(lexer.readRegex rest).2, ?_, ?_⟩
        · simp only [readRegex, Literal.scanRegex, Scan.prepend, closed, Bool.false_eq_true,
            if_false]
        · rw [Literal.regexBroken_iff]
          rintro body _ rfl ⟨valid, left, rfl⟩
          exact absurd (Literal.scanRegexBody_closed valid left).1 (Bool.eq_false_iff.1 closed)
  · rintro _ _ _ _ ⟨body, flags, left, first, inner, stops, rfl, rfl⟩
      ⟨body', flags', left', first', inner', stops', rfl, rfl⟩
    obtain ⟨rfl, same⟩ := first.unique first'
    have scan := Literal.scanWord_eq_iff.2 ⟨rfl, inner, stops⟩
    have scan' := Literal.scanWord_eq_iff.2 ⟨(List.cons.inj same).2, inner', stops'⟩
    obtain ⟨rfl, rfl⟩ := Prod.mk.inj (scan.symm.trans scan')
    exact ⟨rfl, rfl⟩
  · rintro _ _ ⟨body, flags, left, first, _⟩ broken
    exact Literal.regexBroken_iff.1 broken _ _ first.whole first.here

/-- Behind its opening delimiter, a string, a chunk of a template and a regular expression are read
up to the first place where they may end, and fail as unterminated exactly where there is none. -/
theorem delimited_recognised (lexer : Lexer) (rest : Text) :
    (∀ quote, quote = '"' ∨ quote = '\'' →
      Recognises (lexer.readString quote rest) (lexer.TakesString quote rest)
        (.unterminated .string lexer.position) (rest.Nowhere (Literal.StringEnds quote))) ∧
    (∀ isFirst delimiter,
      Recognises (lexer.readTemplate isFirst delimiter rest)
        (lexer.TakesTemplate isFirst delimiter rest)
        (.unterminated .template lexer.position) (rest.Nowhere Literal.ChunkEnds)) ∧
    Recognises (lexer.readRegex rest) (lexer.TakesRegex rest)
      (.unterminated .regularExpression lexer.position) (Literal.RegexBroken rest) :=
  ⟨fun _ quotes => readString_recognises quotes, readTemplate_recognises, readRegex_recognises⟩

/-- A backslash takes both characters of a line break with it, and a bare line feed leaves a string
without an end. -/
theorem delimited_recognised_lineBreak :
    (ofText ['\'', 'a', '\\', '\r', '\n', '\'', 'b']).TakesString '\''
      ['a', '\\', '\r', '\n', '\'', 'b'] (.string "'a\\\r\n'")
      ((ofText ['\'', 'a', '\\', '\r', '\n', '\'', 'b']).advance
        ['\'', 'a', '\\', '\r', '\n', '\''] ['b']) ∧
    Text.Nowhere (Literal.StringEnds '"') ['a', '\n', '"'] := by
  constructor
  · exact (((delimited_recognised _ _).1 '\'' (.inr rfl)).ok_iff _ _).1 rfl
  · have recognises := (delimited_recognised (ofText ['"', 'a', '\n', '"']) ['a', '\n', '"']).1
    exact ((recognises '"' (.inl rfl)).error_iff _).1 ⟨_, rfl⟩ |>.2

end Lexer
end Ecmascript
