import Ecmascript.Proofs.Offset.Token

/-!
# Sessions

A session uses a lexer in any order: it reads tokens, keeps places, goes back to a place that it
kept, and reads a slash again that it was given before. Sessions of lexers and of cursors are the
same but for what they hold, and a cursor has no result when it looks outside of its source. So a
session of cursors that goes through shows that nothing was out of range.
-/

set_option autoImplicit false

namespace Ecmascript

open Lexer

/-- What can be done with a lexer: one that stands in a text, or a cursor. -/
structure Reader (m : Type → Type) (place : Type) where
  next : place → m (Except LexError Token × place)
  tokens : place → m (Except LexError (List Token) × place)
  rescanRegex : Token → place → m (Except LexError Token × place)
  rescanDivide : Token → place → m (Token × place)

def Lexer.reader : Reader Id Lexer where
  next := Lexer.next
  tokens := Lexer.tokens
  rescanRegex token lexer := lexer.rescanRegex token
  rescanDivide token lexer := lexer.rescanDivide token

def Cursor.reader : Reader Part Cursor where
  next := Cursor.next
  tokens := Cursor.tokens
  rescanRegex := Cursor.rescanRegex
  rescanDivide := Cursor.rescanDivide

/-- The operations of a session. Places and tokens are named by their index among those that were
kept and returned so far. -/
inductive Operation where
  | next
  | tokens
  | checkpoint
  | rewind (index : Nat)
  | rescanRegex (index : Nat)
  | rescanDivide (index : Nat)
  deriving DecidableEq

/-- Where a session stands, the places that it kept, and the tokens that it was given. -/
structure Session (place : Type) where
  here : place
  saved : List place
  returned : List Token

namespace Session

variable {m : Type → Type} {place other : Type}

def start (here : place) : Session place :=
  ⟨here, [], []⟩

/-- The session after a reading; one that failed moves the place as well. -/
def give (session : Session place) : Except LexError (List Token) × place → Session place
  | (.ok tokens, here) => { session with here, returned := session.returned ++ tokens }
  | (.error _, here) => { session with here }

/-- A token that begins with a slash, among those that were returned. -/
def slash? (session : Session place) (index : Nat) : Option Token :=
  session.returned[index]?.filter fun token => token.kind.isSlash

/-- One token of a reading as a list of tokens. -/
def single : Except LexError Token × place → Except LexError (List Token) × place
  | (outcome, here) => (outcome.map fun token => [token], here)

/-- What an operation does. One that names no place or no slash does nothing. -/
def step [Monad m] (reader : Reader m place) (session : Session place) :
    Operation → m (Session place)
  | .next => return session.give (single (← reader.next session.here))
  | .tokens => return session.give (← reader.tokens session.here)
  | .checkpoint => return { session with saved := session.saved ++ [session.here] }
  | .rewind index =>
      match session.saved[index]? with
      | none => return session
      | some here => return { session with here }
  | .rescanRegex index =>
      match session.slash? index with
      | none => return session
      | some token => return session.give (single (← reader.rescanRegex token session.here))
  | .rescanDivide index =>
      match session.slash? index with
      | none => return session
      | some token => do
          let (token, here) ← reader.rescanDivide token session.here
          return session.give (.ok [token], here)

def run [Monad m] (reader : Reader m place) : List Operation → Session place → m (Session place)
  | [], session => return session
  | operation :: operations, session => do
      run reader operations (← session.step reader operation)

def map (f : place → other) (session : Session place) : Session other :=
  ⟨f session.here, session.saved.map f, session.returned⟩

end Session

/-! ## Readings -/

/-- Both ends of a token are boundaries of the source, and the token is empty only at the end of
input. What begins with a slash stands at one. -/
structure Token.Stands (source : Text) (token : Token) : Prop where
  start : source.IsBoundary token.start
  stop : source.IsBoundary token.stop
  le : token.start ≤ token.stop
  lt : token.kind ≠ .endOfInput → token.start < token.stop
  slash : token.kind.isSlash = true → SlashAt source token.start

/-- A lexer that stands in a source. -/
structure Lexer.StandsIn (source : Text) (lexer : Lexer) : Prop where
  inRange : lexer.InRange
  source : lexer.source = source

namespace Session

variable {source : Text} {lexer after : Lexer} {token : Token}

theorem standsIn_passes {lexeme : Text} (stands : lexer.StandsIn source)
    (moves : lexer.Passes lexeme after) : after.StandsIn source :=
  ⟨stands.inRange.passes moves, moves.source.trans stands.source⟩

/-- A reading that leads to a place in the source, and gives tokens of it. -/
structure Sound (source : Text) (answer : Except LexError (List Token) × Lexer) : Prop where
  here : answer.2.StandsIn source
  tokens : ∀ tokens, answer.1 = .ok tokens → ∀ token ∈ tokens, token.Stands source

theorem Sound.single {answer : Except LexError Token × Lexer} (here : answer.2.StandsIn source)
    (stands : ∀ token, answer.1 = .ok token → token.Stands source) :
    Sound source (single answer) := by
  refine ⟨here, fun tokens gave token member => ?_⟩
  obtain ⟨outcome, after⟩ := answer
  cases outcome with
  | error error => cases gave
  | ok only =>
      cases gave
      obtain rfl := List.mem_singleton.1 member
      exact stands token rfl

theorem stands_of_next (stands : lexer.StandsIn source)
    (reads : lexer.next = (.ok token, after)) : token.Stands source := by
  obtain ⟨⟨placed, _⟩, rfl⟩ := stands
  have written := (placed.reads_written reads).1
  have stop := written.stop
  exact ⟨written.boundaries.1, written.boundaries.2, by omega, start_lt_stop_of_reads reads,
    placed.slashAt reads⟩

theorem sound_next (stands : lexer.StandsIn source) : Sound source (single lexer.next) := by
  obtain ⟨lexeme, moves⟩ := Cursor.next_passes lexer
  exact .single (standsIn_passes stands moves) fun token outcome =>
    stands_of_next stands (Prod.ext outcome rfl)

theorem sound_tokensWithin (fuel : Nat) (stands : lexer.StandsIn source) :
    Sound source (tokensWithin fuel lexer) := by
  obtain ⟨lexeme, moves⟩ := Cursor.tokensWithin_passes fuel lexer
  refine ⟨standsIn_passes stands moves, ?_⟩
  clear moves
  induction fuel generalizing lexer with
  | zero =>
      intro tokens gave
      cases gave
      exact List.forall_mem_nil _
  | succ fuel ih =>
      intro tokens gave
      obtain ⟨blank, moves⟩ := Cursor.next_passes lexer
      rw [tokensWithin] at gave
      cases reads : lexer.next with
      | mk outcome after =>
          rw [reads] at gave moves
          cases outcome with
          | error error => cases gave
          | ok token =>
              have first := stands_of_next stands reads
              dsimp only at gave
              split at gave
              · cases gave
                exact List.forall_mem_singleton.2 first
              · have others := ih (standsIn_passes stands moves)
                cases further : tokensWithin fuel after with
                | mk outcome last =>
                    rw [further] at gave others
                    cases outcome with
                    | error error => cases gave
                    | ok tokens =>
                        cases gave
                        exact List.forall_mem_cons.2 ⟨first, others tokens rfl⟩

/-- A token that was read again where a slash stands. -/
theorem stands_of_slash {again : Token} {lexeme : Text} (slash : SlashAt lexer.source token.start)
    (written : again.Written lexer.source) (start : again.start = token.start)
    (stop : again.stop = after.position) (nonempty : lexeme ≠ [])
    (moves : (lexer.seek token.start).Passes lexeme after) : again.Stands lexer.source := by
  have positive := Text.byteLength_pos nonempty
  have moved : after.position = token.start + lexeme.byteLength := moves.position
  have further : again.start < again.stop := by omega
  exact ⟨written.boundaries.1, written.boundaries.2, further.le, fun _ => further,
    fun _ => start ▸ slash⟩

theorem sound_rescanRegex (stands : lexer.StandsIn source) (slash : SlashAt source token.start) :
    Sound source (single (lexer.rescanRegex token)) := by
  obtain ⟨inRange, rfl⟩ := stands
  obtain ⟨lexeme, moves⟩ := Cursor.passes_rescanRegex slash
  have begins : (lexer.seek token.start).StandsIn lexer.source :=
    ⟨Cursor.inRange_seek inRange slash, rfl⟩
  refine .single (standsIn_passes begins moves) fun again outcome => ?_
  have reads : lexer.rescanRegex token = (.ok again, _) := Prod.ext outcome rfl
  obtain ⟨written, stop⟩ := rescanRegex_written slash reads
  obtain ⟨⟨lexeme, nonempty, moves⟩, start, _⟩ := rescanRegex_passes slash reads
  exact stands_of_slash slash written start stop nonempty moves

theorem sound_rescanDivide (stands : lexer.StandsIn source) (slash : SlashAt source token.start) :
    Sound source (.ok [(lexer.rescanDivide token).1], (lexer.rescanDivide token).2) := by
  obtain ⟨inRange, rfl⟩ := stands
  have begins : (lexer.seek token.start).StandsIn lexer.source :=
    ⟨Cursor.inRange_seek inRange slash, rfl⟩
  obtain ⟨written, stop⟩ := rescanDivide_written slash
  obtain ⟨⟨lexeme, nonempty, moves⟩, start, _⟩ := rescanDivide_passes slash
  refine ⟨standsIn_passes begins moves, fun tokens gave => ?_⟩
  cases gave
  exact List.forall_mem_singleton.2 (stands_of_slash slash written start stop nonempty moves)

/-! ## What a session keeps -/

/-- Every place is one in the source, and so is every token. -/
structure Valid (source : Text) (session : Session Lexer) : Prop where
  here : session.here.StandsIn source
  saved : ∀ lexer ∈ session.saved, lexer.StandsIn source
  returned : ∀ token ∈ session.returned, token.Stands source

variable {session : Session Lexer}

theorem valid_start (small : source.byteLength < UInt32.size) : Valid source (start (ofText source)) :=
  ⟨⟨⟨placed_ofText source, small⟩, rfl⟩, List.forall_mem_nil _, List.forall_mem_nil _⟩

theorem Valid.give {answer : Except LexError (List Token) × Lexer} (valid : session.Valid source)
    (sound : Sound source answer) : Valid source (session.give answer) := by
  obtain ⟨outcome, here⟩ := answer
  cases outcome with
  | error error => exact ⟨sound.here, valid.saved, valid.returned⟩
  | ok tokens =>
      exact ⟨sound.here, valid.saved,
        List.forall_mem_append.2 ⟨valid.returned, sound.tokens tokens rfl⟩⟩

/-- A slash that was returned stands in the source. -/
theorem Valid.slashAt {index : Nat} (valid : session.Valid source)
    (found : session.slash? index = some token) : SlashAt source token.start := by
  obtain ⟨listed, slash⟩ := Option.filter_eq_some_iff.1 found
  exact (valid.returned token (List.mem_of_getElem? listed)).slash slash

theorem Valid.step (valid : session.Valid source) (operation : Operation) :
    Valid source (session.step Lexer.reader operation) := by
  cases operation with
  | next => exact valid.give (sound_next valid.here)
  | tokens => exact valid.give (sound_tokensWithin _ valid.here)
  | checkpoint =>
      exact ⟨valid.here, List.forall_mem_append.2 ⟨valid.saved,
        List.forall_mem_singleton.2 valid.here⟩, valid.returned⟩
  | rewind index =>
      rw [Session.step]
      split
      · exact valid
      · next kept => exact ⟨valid.saved _ (List.mem_of_getElem? kept), valid.saved, valid.returned⟩
  | rescanRegex index =>
      rw [Session.step]
      split
      · exact valid
      · next found => exact valid.give (sound_rescanRegex valid.here (valid.slashAt found))
  | rescanDivide index =>
      rw [Session.step]
      split
      · exact valid
      · next found => exact valid.give (sound_rescanDivide valid.here (valid.slashAt found))

theorem map_give (f : Lexer → Cursor) (session : Session Lexer)
    (outcome : Except LexError (List Token)) (here : Lexer) :
    (session.map f).give (outcome, f here) = (session.give (outcome, here)).map f := by
  cases outcome <;> rfl

/-- A step of cursors is the step of lexers, and is in range. -/
theorem Valid.step_cursor (valid : session.Valid source) (operation : Operation) :
    (session.map Lexer.cursor).step Cursor.reader operation =
      Part.some (map Lexer.cursor (session.step Lexer.reader operation)) := by
  have inRange := valid.here.inRange
  have slashAt {index : Nat} {token : Token} (found : session.slash? index = some token) :
      SlashAt session.here.source token.start := valid.here.source.symm ▸ valid.slashAt found
  cases operation with
  | next =>
      change (Cursor.next session.here.cursor >>= fun answer => _) = _
      rw [Cursor.gives_next inRange, Part.bind_eq_bind, Part.bind_some]
      exact congrArg Part.some (map_give ..)
  | tokens =>
      change (Cursor.tokens session.here.cursor >>= fun answer => _) = _
      rw [Cursor.gives_tokens inRange, Part.bind_eq_bind, Part.bind_some]
      exact congrArg Part.some (map_give ..)
  | checkpoint =>
      have saved : session.saved.map Lexer.cursor ++ [session.here.cursor] =
          (session.saved ++ [session.here]).map Lexer.cursor := by
        rw [List.map_append]
        rfl
      rw [Session.step, map, saved]
      rfl
  | rewind index =>
      simp only [Session.step, map, List.getElem?_map]
      cases session.saved[index]? <;> rfl
  | rescanRegex index =>
      have slashes : (session.map Lexer.cursor).slash? index = session.slash? index := rfl
      rw [Session.step, Session.step, slashes]
      cases found : session.slash? index with
      | none => rfl
      | some token =>
          change (Cursor.rescanRegex token session.here.cursor >>= fun answer => _) = _
          rw [Cursor.gives_rescanRegex inRange (slashAt found), Part.bind_eq_bind, Part.bind_some]
          exact congrArg Part.some (map_give ..)
  | rescanDivide index =>
      have slashes : (session.map Lexer.cursor).slash? index = session.slash? index := rfl
      rw [Session.step, Session.step, slashes]
      cases found : session.slash? index with
      | none => rfl
      | some token =>
          change (Cursor.rescanDivide token session.here.cursor >>= fun answer => _) = _
          rw [Cursor.gives_rescanDivide inRange (slashAt found), Part.bind_eq_bind, Part.bind_some]
          exact congrArg Part.some (map_give ..)

theorem Valid.run (valid : session.Valid source) (operations : List Operation) :
    Valid source (Session.run Lexer.reader operations session) ∧
      Session.run Cursor.reader operations (session.map Lexer.cursor) =
        Part.some (map Lexer.cursor (Session.run Lexer.reader operations session)) := by
  induction operations generalizing session with
  | nil => exact ⟨valid, rfl⟩
  | cons operation operations ih =>
      obtain ⟨further, same⟩ := ih (valid.step operation)
      refine ⟨further, ?_⟩
      rw [Session.run, valid.step_cursor, Part.bind_eq_bind, Part.bind_some]
      exact same

theorem run_within (source : Text) (small : source.byteLength < UInt32.size)
    (operations : List Operation) :
    let session : Session Lexer := Session.run Lexer.reader operations (start (ofText source))
    session.here.position ≤ source.byteLength ∧ source.IsBoundary session.here.position ∧
      (∀ token ∈ session.returned,
        source.IsBoundary token.start ∧ source.IsBoundary token.stop ∧ token.start ≤ token.stop ∧
          (token.kind ≠ .endOfInput → token.start < token.stop)) ∧
      Session.run Cursor.reader operations (start (ofText source).cursor) =
        Part.some (session.map Lexer.cursor) := by
  intro session
  obtain ⟨valid, same⟩ := (valid_start small).run operations
  obtain ⟨before, whole, stands⟩ := valid.here.inRange.whole
  have boundary : source.IsBoundary session.here.position :=
    ⟨before, _, valid.here.source.symm.trans whole, stands⟩
  exact ⟨boundary.le, boundary, fun token member => by
    obtain ⟨start, stop, le, lt, _⟩ := valid.returned token member
    exact ⟨start, stop, le, lt⟩, same⟩

/-- A regular expression that is not closed stops behind an escape of two bytes. Then the place in
front of it is read on from, up to a character that begins no token, and the slash again. -/
theorem run_within_unclosed :
    let source : Text := "a/\\é".toList
    let session : Session Lexer := Session.run Lexer.reader
      [.next, .checkpoint, .next, .rescanRegex 1, .next, .rewind 0, .tokens, .rescanDivide 1]
      (start (ofText source))
    (session.here.position = 2 ∧ session.returned.map (fun token => (token.start, token.stop)) =
        [(0, 1), (1, 2), (5, 5), (1, 2)]) ∧
      source.byteLength < UInt32.size ∧
      session.here.position ≤ source.byteLength ∧ source.IsBoundary session.here.position ∧
      (∀ token ∈ session.returned,
        source.IsBoundary token.start ∧ source.IsBoundary token.stop ∧ token.start ≤ token.stop ∧
          (token.kind ≠ .endOfInput → token.start < token.stop)) ∧
      Session.run Cursor.reader
          [.next, .checkpoint, .next, .rescanRegex 1, .next, .rewind 0, .tokens, .rescanDivide 1]
          (start (ofText source).cursor) =
        Part.some (session.map Lexer.cursor) :=
  ⟨by decide +kernel, by decide, run_within _ (by decide) _⟩

end Session

end Ecmascript
