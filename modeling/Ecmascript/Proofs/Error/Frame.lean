import Mathlib.Data.List.DropRight
import Ecmascript.Error.Frame
import Ecmascript.Proofs.Source.Cut

/-!
# What a code frame shows

The scope of a range of offsets is where it lies in a text, in terms of the text alone: the lines
before it, the part of its line in front of it, and what it covers. Every two offsets have exactly
one scope, and the frame of an error is the frame that its scope describes.
-/

set_option autoImplicit false

namespace Ecmascript

namespace Text

theorem lines_eq_splitOn (source : Text) : source.lines = source.splitOn '\n' := by
  induction source with
  | nil => rfl
  | cons c rest ih =>
      rw [List.splitOn_cons_eq_if_modifyHead, ← ih]
      by_cases isFeed : c = '\n'
      · subst isFeed
        rfl
      · rw [if_neg (by simpa using isFeed), lines]
        · cases split : lines rest with
          | nil => exact absurd (ih.symm.trans split) (List.splitOn_ne_nil _ _)
          | cons line more => rfl
        · exact isFeed

theorem length_splitOn (source : Text) :
    (source.splitOn '\n').length = source.count '\n' + 1 := by
  induction source with
  | nil => rfl
  | cons c rest ih =>
      rw [List.splitOn_cons_eq_if_modifyHead]
      by_cases isFeed : c = '\n'
      · rw [if_pos (by simpa using isFeed), isFeed, List.length_cons, ih, List.count_cons_self]
      · rw [if_neg (by simpa using isFeed), List.length_modifyHead, ih,
          List.count_cons_of_ne isFeed]

end Text

namespace Frame

/-- Where a range of offsets lies in a text: `earlier` are the lines before it, `indent` is the part
of its line in front of it, and `marked` is what it covers. All of them are slices in range. -/
structure Scope (source : Text) (start stop : Nat) where
  first : Nat
  last : Nat
  earlier : Text
  indent : Text
  marked : Text
  firstGreatest : IsGreatest {offset | source.IsBoundary offset ∧ offset ≤ start} first
  lastGreatest : IsGreatest {offset | source.IsBoundary offset ∧ offset ≤ max stop first} last
  before : source.cut? 0 first = some (earlier ++ indent)
  within : source.cut? earlier.byteLength first = some indent
  covered : source.cut? first last = some marked
  lines : earlier = [] ∨ earlier.getLast? = some '\n'
  oneLine : '\n' ∉ indent

namespace Scope

variable {source : Text} {start stop : Nat}

/-- The number of the line in which the range begins. -/
def line (scope : Scope source start stop) : Nat :=
  (scope.earlier ++ scope.indent).count '\n' + 1

/-- The number of the column in which the range begins. -/
def column (scope : Scope source start stop) : Nat :=
  scope.indent.length + 1

/-- How many characters are marked: those on the first line, but at least one. -/
def carets (scope : Scope source start stop) : Nat :=
  max 1 (scope.marked.takeWhile (· ≠ '\n')).length

/-- The number of the last line that is shown. -/
def lastLine (scope : Scope source start stop) : Nat :=
  min (scope.line + 2) (source.splitOn '\n').length

/-- The width of the line numbers. -/
def width (scope : Scope source start stop) : Nat :=
  (digits scope.lastLine).length

/-- The lines that are shown, each with its number: the line of the range, and up to two lines on
either side of it. -/
def shown (scope : Scope source start stop) : List (Text × Nat) :=
  ((source.splitOn '\n').zipIdx 1).filter fun row =>
    max 1 (scope.line - 2) ≤ row.2 ∧ row.2 ≤ scope.lastLine

/-- A line as it is shown, with its number aligned to the right and without carriage returns at its
end. Only the line of the range is pointed out, and has carets in a line below it. -/
def row (scope : Scope source start stop) : Text × Nat → Text
  | (text, number) =>
      let mark := if number = scope.line then "> " else "  "
      let body := (digits number).leftpad scope.width ' ' ++ " | ".toList ++
        text.rdropWhile (· = '\r') ++ ['\n']
      let carets := "  ".toList ++ List.replicate scope.width ' ' ++ " | ".toList ++
        List.replicate (scope.column - 1) ' ' ++ List.replicate scope.carets '^' ++ ['\n']
      mark.toList ++ body ++ if number = scope.line then carets else []

/-- The frame of a scope: a heading with line and column, an empty line, and the lines around. -/
def text (scope : Scope source start stop) : Text :=
  "Unexpected token at ".toList ++ digits scope.line ++ ':' :: digits scope.column ++
    "\n\n".toList ++ scope.shown.flatMap scope.row

/-! ## Every range has one scope -/

/-- No whole line is made of what has no line feed in it. -/
theorem between_nil {indent rest between : Text} (inline : '\n' ∉ between ++ rest)
    (lines : indent ++ between = [] ∨ (indent ++ between).getLast? = some '\n') : between = [] := by
  rcases List.eq_nil_or_concat' between with rfl | ⟨front, c, rfl⟩
  · rfl
  · rcases lines with none | some
    · exact (List.append_eq_nil_iff.1 none).2
    · rw [← List.append_assoc, List.getLast?_concat] at some
      obtain rfl := Option.some.inj some
      exact absurd (List.mem_append_left rest List.mem_concat_self) inline

/-- Text is divided in one way into whole lines and a part of a line. -/
theorem lines_unique {earlier indent earlier' indent' : Text}
    (same : earlier ++ indent = earlier' ++ indent')
    (lines : earlier = [] ∨ earlier.getLast? = some '\n') (inline : '\n' ∉ indent)
    (lines' : earlier' = [] ∨ earlier'.getLast? = some '\n') (inline' : '\n' ∉ indent') :
    earlier = earlier' ∧ indent = indent' := by
  rcases List.append_eq_append_iff.1 same with ⟨between, rfl, rfl⟩ | ⟨between, rfl, rfl⟩
  · obtain rfl := between_nil inline lines'
    exact ⟨(List.append_nil _).symm, rfl⟩
  · obtain rfl := between_nil inline' lines
    exact ⟨List.append_nil _, rfl⟩

theorem unique (scope scope' : Scope source start stop) : scope = scope' := by
  obtain ⟨first, last, earlier, indent, marked, firstGreatest, lastGreatest, before, within,
    covered, lines, oneLine⟩ := scope
  obtain ⟨first', last', earlier', indent', marked', firstGreatest', lastGreatest', before',
    within', covered', lines', oneLine'⟩ := scope'
  obtain rfl := firstGreatest.unique firstGreatest'
  obtain rfl := lastGreatest.unique lastGreatest'
  obtain ⟨rfl, rfl⟩ := lines_unique (Option.some.inj (before.symm.trans before')) lines oneLine
    lines' oneLine'
  obtain rfl := Option.some.inj (covered.symm.trans covered')
  rfl

/-- The scope of two offsets. -/
def ofRange (source : Text) (start stop : Nat) : Scope source start stop :=
  let front := source.takeBytes start
  let first := source.floorBoundary start
  let last := source.floorBoundary (max stop first)
  { first
    last
    earlier := front.rdropWhile (· ≠ '\n')
    indent := front.rtakeWhile (· ≠ '\n')
    marked := source.slice first last
    firstGreatest := Text.isGreatest_floorBoundary start source
    lastGreatest := Text.isGreatest_floorBoundary (max stop first) source
    before := by
      obtain ⟨after, whole⟩ := Text.takeBytes_append_rest start source
      rw [List.rdropWhile_append_rtakeWhile]
      exact Text.cut?_eq_some.2 ⟨[], after, whole, rfl, (Nat.zero_add _).symm⟩
    within := by
      obtain ⟨after, whole⟩ := Text.takeBytes_append_rest start source
      rw [← List.rdropWhile_append_rtakeWhile (p := (· ≠ '\n')) (l := source.takeBytes start),
        List.append_assoc] at whole
      refine Text.cut?_append whole rfl ?_
      rw [← Text.byteLength_append, List.rdropWhile_append_rtakeWhile]
      rfl
    covered := by
      have firstBoundary := (Text.isGreatest_floorBoundary start source).1.1
      have lastGreatest := Text.isGreatest_floorBoundary (max stop first) source
      exact if_pos ⟨firstBoundary, lastGreatest.1.1,
        lastGreatest.2 ⟨firstBoundary, Nat.le_max_right _ _⟩⟩
    lines := by
      refine or_iff_not_imp_left.2 fun nonempty => ?_
      have last := List.rdropWhile_last_not (· ≠ '\n') _ nonempty
      rw [List.getLast?_eq_some_getLast nonempty]
      simpa using last
    oneLine := fun listed => by simpa using List.mem_rtakeWhile_imp listed }

/-! ## The frame of a scope -/

theorem line_le (scope : Scope source start stop) :
    scope.line ≤ (source.splitOn '\n').length := by
  obtain ⟨before, after, whole, -, -⟩ := Text.cut?_eq_some.1 scope.before
  have feeds : source.count '\n' = before.count '\n' +
      ((scope.earlier ++ scope.indent).count '\n' + after.count '\n') := by
    conv_lhs => rw [whole]
    rw [List.count_append, List.count_append]
  rw [Text.length_splitOn, line]
  omega

/-- No number that is shown is wider than the last. -/
theorem width_le (scope : Scope source start stop) {number : Nat}
    (shown : number ≤ scope.lastLine) : (digits number).length ≤ scope.width := by
  have asDigits (value : Nat) : digits value = Nat.toDigits 10 value := by
    rw [digits, Nat.toString_eq_ofList_toDigits, String.toList_ofList]
  have positive : 0 < (Nat.toDigits 10 scope.lastLine).length := Nat.length_toDigits_pos
  have last := (Nat.length_toDigits_le_iff (by decide) positive).1 (Nat.le_refl _)
  rw [width, asDigits, asDigits]
  exact (Nat.length_toDigits_le_iff (by decide) positive).2 (Nat.lt_of_le_of_lt shown last)

/-- The lines of a window are a part of the list of lines. -/
theorem filter_zipIdx {lines : List Text} {first last : Nat} (ordered : first ≤ last)
    (inside : last ≤ lines.length) :
    (lines.zipIdx 1).filter (fun row => first + 1 ≤ row.2 ∧ row.2 ≤ last) =
      ((lines.take last).drop first).zipIdx (first + 1) := by
  have behind : lines.drop first = (lines.take last).drop first ++ lines.drop last := by
    conv_lhs => rw [← List.take_append_drop last lines]
    refine List.drop_append_of_le_length ?_
    rw [List.length_take]
    omega
  have parts : lines = lines.take first ++ ((lines.take last).drop first ++ lines.drop last) := by
    rw [← behind, List.take_append_drop]
  have front : (lines.take first).length = first := by
    rw [List.length_take]
    omega
  have window : ((lines.take last).drop first).length = last - first := by
    rw [List.length_drop, List.length_take]
    omega
  conv_lhs => rw [parts]
  rw [List.zipIdx_append, List.zipIdx_append, List.filter_append, List.filter_append, front, window,
    List.filter_eq_nil_iff.2, List.filter_eq_self.2, List.filter_eq_nil_iff.2, List.nil_append,
    List.append_nil, Nat.add_comm 1 first]
  · intro row listed
    have := List.snd_lt_add_of_mem_zipIdx listed
    have := List.le_snd_of_mem_zipIdx listed
    rw [decide_eq_true_eq]
    omega
  · intro row listed
    have := List.snd_lt_add_of_mem_zipIdx listed
    have := List.le_snd_of_mem_zipIdx listed
    rw [decide_eq_true_eq]
    omega
  · intro row listed
    have := List.snd_lt_add_of_mem_zipIdx listed
    rw [decide_eq_true_eq]
    omega

theorem shown_eq (scope : Scope source start stop) :
    scope.shown = (((source.splitOn '\n').take scope.lastLine).drop (scope.line - 3)).zipIdx
      (scope.line - 3 + 1) := by
  have inside := scope.line_le
  have top : max 1 (scope.line - 2) = scope.line - 3 + 1 := by omega
  rw [shown, top]
  exact filter_zipIdx (by rw [lastLine]; omega) (Nat.min_le_right _ _)

theorem renderLines_eq {mark : Mark} (scope : Scope source start stop)
    (sameLine : scope.line = mark.line + 1) (sameColumn : scope.column = mark.column + 1)
    (sameCarets : scope.carets = mark.carets) (index : Nat) (lines : List Text) :
    renderLines mark scope.width index lines = (lines.zipIdx (index + 1)).flatMap scope.row := by
  induction lines generalizing index with
  | nil => rfl
  | cons line rest ih =>
      rw [renderLines, ih, List.zipIdx_cons, List.flatMap_cons]
      congr 1
      rw [row]
      by_cases here : index = mark.line
      · have sameNumber : index + 1 = scope.line := sameLine ▸ congrArg (· + 1) here
        rw [if_pos here, if_pos sameNumber, if_pos sameNumber, sameColumn, sameCarets]
        rfl
      · have other : index + 1 ≠ scope.line := fun same => here (Nat.succ.inj (same.trans sameLine))
        rw [if_neg here, if_neg other, if_neg other, List.append_nil]
        rfl

end Scope

variable {source : Text} {start stop : Nat}

theorem Mark.ofRange_scope (scope : Scope source start stop) :
    scope.line = (ofRange source start stop).line + 1 ∧
      scope.column = (ofRange source start stop).column + 1 ∧
      scope.carets = (ofRange source start stop).carets := by
  obtain rfl := scope.unique (.ofRange source start stop)
  rw [ofRange, Text.takeBytes_floorBoundary]
  refine ⟨?_, ?_, Nat.max_comm _ _⟩
  · rw [Scope.line, Scope.ofRange, List.rdropWhile_append_rtakeWhile]
  · exact congrArg (· + 1) List.length_reverse

/-- The frame of two offsets is the frame of their scope. -/
theorem render_eq_text (scope : Scope source start stop) :
    render source start stop = scope.text := by
  obtain ⟨sameLine, sameColumn, sameCarets⟩ := Mark.ofRange_scope scope
  have inside := scope.line_le
  have top : (Mark.ofRange source start stop).line - 2 = scope.line - 3 := by omega
  have bottom : min ((Mark.ofRange source start stop).line + 2)
      ((source.splitOn '\n').length - 1) + 1 = scope.lastLine := by
    rw [Scope.lastLine]
    omega
  have width : (digits scope.lastLine).length = scope.width := rfl
  unfold render Scope.text heading
  simp only [Text.lines_eq_splitOn, bottom, top, width, Scope.shown_eq,
    Scope.renderLines_eq scope sameLine sameColumn sameCarets, sameLine, sameColumn]

end Frame

/-- Every error has a frame in every text, wherever its offsets are: the frame of its one scope. The
line of the scope is a line of the text, and no line number is wider than the room for it. -/
theorem SyntaxError.frame_eq_text (error : SyntaxError) (source : String) :
    ∃ scope : Frame.Scope source.toList error.start error.stop,
      error.frame source = String.ofList scope.text ∧
      scope.line ≤ (source.toList.splitOn '\n').length ∧
      (∀ row ∈ scope.shown, (Frame.digits row.2).length ≤ scope.width) ∧
      ∀ other, other = scope := by
  refine ⟨Frame.Scope.ofRange _ _ _, ?_, Frame.Scope.line_le _, fun row shown => ?_,
    fun other => other.unique _⟩
  · rw [frame, Frame.render_eq_text]
  · have inside := (List.mem_filter.1 shown).2
    rw [decide_eq_true_eq] at inside
    exact Frame.Scope.width_le _ inside.2

example : (SyntaxError.invalid 8 6 .updateTarget).frame "a;\r\n\nçé" =
    "Unexpected token at 3:2\n\n  1 | a;\n  2 | \n> 3 | çé\n    |  ^\n" := by
  decide +kernel

end Ecmascript
