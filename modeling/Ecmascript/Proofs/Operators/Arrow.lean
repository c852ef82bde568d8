import Ecmascript.Proofs.Operators.Facing

/-!
# No arrow functions in formulas

An arrow function is attempted at every opening parenthesis. In front of the tokens of a formula the
attempt fails: the parameters that it finds are names with commas between them, and no arrow comes
behind the parenthesis that closes them.
-/

set_option autoImplicit false

namespace Ecmascript.Parser

variable {allowed : SyntaxError → Prop} {setup : Setup} {s : State} {kind : TokenKind}
  {kinds : List TokenKind}

/-- Whether a token is one that parameters begin with, or are closed by. -/
def beginsParameter (kind : TokenKind) : Bool :=
  kind.startsOperand || kind = .punctuator .rightParen

theorem beginsParameter_ne (begins : beginsParameter kind = true) {mark : Punctuator}
    (other : beginsParameter (.punctuator mark) = false) : kind ≠ .punctuator mark := by
  rintro rfl
  exact absurd (other.symm.trans begins) nofun

/-- A token that follows an operand has been read up to. -/
def StopsBefore (setup : Setup) (kinds : List TokenKind) (after : State) : Prop :=
  ∃ next rest, kinds = next :: rest ∧ next.followsOperand = true ∧
    Faces setup (next :: rest) after

theorem gives_bindingName (faces : Faces setup (kind :: kinds) s) :
    Gives AnyError setup bindingName s fun _ after => StopsBefore setup kinds after := by
  refine .step (rfl : current setup s = .ok s.current s) ?_
  split
  · rename_i name named
    have same : kind = .identifier name := by
      rcases faces.kind_or with same | ⟨_, raw, regex⟩
      · exact same.symm.trans named
      · rw [regex] at named
        cases named
    subst same
    refine .step (rfl : context setup s = .ok s.context s) ?_
    split
    · trivial
    · obtain ⟨next, rest, rfl, adjacent⟩ := faces.cons nofun
      refine .advance faces named fun after faces' => .pure ?_
      exact ⟨next, rest, rfl, adjacent.follows_of_ends rfl rfl, faces'⟩
  · trivial
  · trivial

theorem gives_target (steps : Nat) (faces : Faces setup (kind :: kinds) s)
    (starts : kind.startsOperand = true) :
    Gives AnyError setup (run steps (.target .binding)) s fun _ after =>
      StopsBefore setup kinds after := by
  cases steps with
  | zero => trivial
  | succ steps =>
      have undivided : kind ≠ .punctuator .slash := by
        rintro rfl
        cases starts
      refine .step (rfl : currentKind setup s = .ok s.current.kind s) ?_
      rw [faces.kind_eq undivided]
      split
      · cases starts
      · cases starts
      · exact (gives_bindingName faces).bind fun _ _ stops => .pure stops

theorem gives_targetElement (steps : Nat) (faces : Faces setup (kind :: kinds) s)
    (starts : kind.startsOperand = true) :
    Gives AnyError setup (targetElement (run steps) .binding) s fun _ after =>
      StopsBefore setup kinds after := by
  refine .step (rfl : position setup s = .ok s.current.start s) ?_
  refine (gives_target steps faces starts).bind fun left after stops => ?_
  obtain ⟨next, rest, split, follows, faces'⟩ := stops
  have unassigned : next ≠ .punctuator .assign := by
    rintro rfl
    cases follows
  exact .skip faces' unassigned (.ifFalse rfl (.pure ⟨next, rest, split, follows, faces'⟩))

/-- Parameters end in front of a token of the formula. -/
theorem gives_parameters (steps : Nat) :
    ∀ (s : State) (kind : TokenKind) (kinds : List TokenKind), Faces setup (kind :: kinds) s →
      beginsParameter kind = true → Gives AnyError setup (run steps .parameters) s fun _ after =>
        ∃ next rest, Faces setup (next :: rest) after := by
  induction steps with
  | zero => exact fun _ _ _ _ _ => trivial
  | succ steps ih =>
      intro s kind kinds faces begins
      change Gives AnyError setup (parameters (run steps)) s _
      by_cases closes : kind = .punctuator .rightParen
      · subst closes
        exact .atTrue faces nofun (.ifTrue rfl (.pure ⟨_, kinds, faces⟩))
      have starts : kind.startsOperand = true := by
        simpa [beginsParameter, closes] using begins
      refine .atFalse faces closes nofun (.ifFalse rfl ?_)
      refine .atFalse faces (beginsParameter_ne begins rfl) nofun (.ifFalse rfl ?_)
      refine (gives_targetElement steps faces starts).bind fun parameter after stops => ?_
      obtain ⟨next, rest, rfl, follows, faces'⟩ := stops
      have separated : Gives AnyError setup (separator .rightParen) after fun _ last =>
          ∃ next rest, Faces setup (next :: rest) last ∧ beginsParameter next = true := by
        by_cases closes : next = .punctuator .rightParen
        · subst closes
          exact .atTrue faces' nofun (.ifTrue rfl (.pure ⟨_, rest, faces', rfl⟩))
        · refine .atFalse faces' closes nofun (.ifFalse rfl ?_)
          refine (Gives.expectAny .comma faces' nofun).weaken fun _ last ends => ?_
          obtain ⟨rfl, next', rest', _, adjacent, faces''⟩ := ends
          refine ⟨next', rest', faces'', ?_⟩
          unfold beginsParameter
          rcases adjacent.starts_of_opens rfl rfl with starts | rfl
          · rw [starts, Bool.true_or]
          · rfl
      refine separated.bind fun _ last ⟨next', rest', faces'', begins'⟩ => ?_
      exact (ih last next' rest' faces'' begins').bind fun _ _ ends => .pure ends

/-! ## Heads -/

theorem refuses_arrowHead (steps : Nat) (faces : Faces setup (.punctuator .leftParen :: kinds) s) :
    Gives AnyError setup (arrowHead (run steps)) s fun _ _ => False := by
  obtain ⟨first, rest, rfl, adjacent⟩ := faces.cons nofun
  have begins : beginsParameter first = true := by
    unfold beginsParameter
    rcases adjacent.starts_of_opens rfl rfl with starts | rfl
    · rw [starts, Bool.true_or]
    · rfl
  have inner : Gives AnyError setup (arrowParameters (run steps)) s fun _ after =>
      ∃ next rest, Faces setup (next :: rest) after ∧ next.followsOperand = true := by
    refine .atTrue faces nofun (.ifTrue rfl ?_)
    refine .expect faces nofun fun after faces' => ?_
    have inner := gives_parameters steps after first rest faces' begins
    refine inner.bind fun parameters last ends => ?_
    obtain ⟨next, rest, faces''⟩ := ends
    refine (Gives.expectAny .rightParen faces'' nofun).bind fun _ final ends => .pure ?_
    obtain ⟨rfl, next', rest', _, adjacent', stops⟩ := ends
    exact ⟨next', rest', stops, adjacent'.follows_of_ends rfl rfl⟩
  refine inner.bind fun parameters after ends => ?_
  obtain ⟨next, rest, faces', follows⟩ := ends
  refine .step (rfl : current setup after = .ok after.current after) ?_
  have noArrow : after.current.kind ≠ .punctuator .arrow := by
    refine faces'.kind_ne ?_ nofun
    rintro rfl
    cases follows
  rw [decide_eq_false noArrow, Bool.false_and]
  exact .ifFalse rfl trivial

theorem refuses_asyncArrowHead (steps : Nat) {name : String}
    (faces : Faces setup (.identifier name :: .punctuator .leftParen :: kinds) s) :
    Gives AnyError setup (asyncArrowHead (run steps)) s fun _ _ => False := by
  refine .advance faces (faces.kind_eq nofun) fun after faces' => ?_
  exact (refuses_arrowHead steps faces').bind fun _ _ never => never.elim

/-- A token behind a name does not begin the head of an arrow function, unless it is a
parenthesis. -/
theorem paren_of_startsArrowHead {token next : TokenKind} (follows : next.followsOperand = true)
    (same : token = next ∨ next = .punctuator .slash ∧ ∃ raw, token = .regex raw)
    (starts : startsArrowHead token = true) : next = .punctuator .leftParen := by
  rcases same with rfl | ⟨_, raw, rfl⟩
  · cases token with
    | identifier name => cases follows
    | punctuator mark =>
        revert starts
        cases mark <;> intro starts <;> first | rfl | cases starts
    | _ => cases starts
  · cases starts

/-- No arrow function begins in front of a formula. -/
theorem gives_arrowHead? (steps : Nat) (faces : Faces setup (kind :: kinds) s)
    (starts : kind.startsOperand = true) :
    Gives allowed setup (arrowHead? (run steps)) s fun head after =>
      head = none ∧ Faces setup (kind :: kinds) after := by
  have undivided : kind ≠ .punctuator .slash := by
    rintro rfl
    cases starts
  refine .step (rfl : currentKind setup s = .ok s.current.kind s) ?_
  rw [faces.kind_eq undivided]
  split
  · have refused : Gives allowed setup (attempt .arrowHead (arrowHead (run steps))) s
        fun head after => head = none ∧ Faces setup (.punctuator .leftParen :: kinds) after :=
      .attempt (refuses_arrowHead steps faces) fun failed depth => ⟨rfl, faces.scope failed depth⟩
    refine refused.bind fun head after holds => .pure ?_
    obtain ⟨rfl, faces'⟩ := holds
    exact ⟨rfl, faces'⟩
  · obtain ⟨next, rest, rfl, adjacent⟩ := faces.cons nofun
    have follows : next.followsOperand = true := adjacent.follows_of_ends rfl rfl
    obtain ⟨token, peeks, named⟩ := faces.peek (faces.kind_eq nofun)
    have noArrow : token.kind ≠ .punctuator .arrow := by
      rcases named with same | ⟨_, raw, regex⟩
      · rw [same]
        rintro rfl
        cases follows
      · rw [regex]
        nofun
    refine .step peeks ?_
    rw [decide_eq_false noArrow, Bool.false_and]
    refine .ifFalse rfl (.step (rfl : atName "async" setup s = .ok _ s) ?_)
    split
    · rename_i begins
      rw [Bool.and_eq_true] at begins
      obtain rfl := paren_of_startsArrowHead follows named begins.2
      exact .attempt (refuses_asyncArrowHead steps faces) fun failed depth =>
        ⟨rfl, faces.scope failed depth⟩
    · exact .pure ⟨rfl, faces⟩
  · exact .pure ⟨rfl, faces⟩

end Ecmascript.Parser
