/-
# ErrorReport.Proofs.Selection — a window shows exactly the lines it asks for.

The range of a window is relative to the line of its location, so a window asks for the lines from
one sum of integers to another, where everything before the first line counts as the first line
(`AsksFor`). The bounds are computed in words that saturate. No file can tell the difference:
`select_eq_asked` says that the lines selected are those asked for, in the order of the file, and
`getElem?_rows` that each of them gets a row of its own, with its own number.

All other sums and differences are words as well. `Exact` lists every number that is computed on the
way from a window to its rows and says that it is the number meant, so none of them wraps around.
-/
import ErrorReport.Proofs.Bounds
import ErrorReport.Proofs.Rows

namespace ErrorReport

open Text (newline)
open Terminal (Theme)

/-! ## Finished lines -/

/-- A line with its newline, which only the last line of a text can lack. -/
def Text.completed (line : Text) : Text := if newline ∈ line then line else line ++ [newline]

/-- A line of a text is completed by a newline behind its body. -/
theorem Text.body_append_newline_eq_completed {t line : Text} (h : line ∈ Text.lines t) :
    Text.body line ++ [newline] = Text.completed line := by
  induction t using Text.lineInduction with
  | nil => cases h
  | last b hne hb =>
    rw [Text.lines_of_notMem hb hne, List.mem_singleton] at h
    subst h
    rw [Text.completed, if_neg hb, Text.body_of_notMem hb]
  | line b t hb ih =>
    rw [Text.lines_append_newline hb] at h
    rcases List.mem_cons.1 h with rfl | h
    · rw [Text.completed, if_pos (by simp), Text.body_append_newline hb]
    · exact ih h

/-! ## Lines by their indices -/

/-- The elements of a list whose indices lie between two bounds stand behind each other. -/
theorem map_fst_filter_zipIdx {α : Type} (xs : List α) (k first stop : Nat) :
    ((xs.zipIdx k).filter fun x => first ≤ x.2 ∧ x.2 < stop).map Prod.fst =
      (xs.drop (first - k)).take (stop - max first k) := by
  induction xs generalizing k with
  | nil => simp
  | cons x xs ih =>
    rw [List.zipIdx_cons]
    rcases Nat.lt_or_ge k first with hbefore | hfirst
    · -- not reached yet
      have hdrop : first - k = (first - (k + 1)) + 1 := by omega
      have htake : max first k = max first (k + 1) := by omega
      rw [List.filter_cons_of_neg (by simp; omega), ih, hdrop, List.drop_succ_cons, htake]
    · rcases Nat.lt_or_ge k stop with hin | hbehind
      · have htake : stop - max first k = (stop - max first (k + 1)) + 1 := by omega
        rw [List.filter_cons_of_pos (by simp; omega), List.map_cons, ih, htake,
          Nat.sub_eq_zero_of_le hfirst, Nat.sub_eq_zero_of_le (Nat.le_succ_of_le hfirst),
          List.drop_zero, List.drop_zero, List.take_succ_cons]
      · have hstop : stop - max first k = 0 := by omega
        have hstop' : stop - max first (k + 1) = 0 := by omega
        rw [List.filter_cons_of_neg (by simp; omega), ih, hstop, hstop', List.take_zero,
          List.take_zero]

namespace Window

/-! ## The lines asked for -/

/-- The index of the first line asked for. -/
def firstAsked (w : Window) : Int :=
  max 0 ((w.location.line.toNat : Int) - 1 + w.range.first.toInt)

/-- The index of the last line asked for. -/
def lastAsked (w : Window) : Int :=
  max 0 ((w.location.line.toNat : Int) - 1 + w.range.last.toInt)

/-- The window asks for the line with the given index. -/
def AsksFor (w : Window) (i : Nat) : Prop := w.firstAsked ≤ i ∧ (i : Int) ≤ w.lastAsked

instance (w : Window) : DecidablePred w.AsksFor := fun _ => instDecidableAnd

/-- The lines of a file that a window asks for. -/
def asked (w : Window) (lines : List Text) : List Text :=
  (lines.zipIdx.filter fun line => w.AsksFor line.2).map Prod.fst

variable {w : Window} {lines : List Text}

theorem asked_eq_take_drop (w : Window) (lines : List Text) :
    w.asked lines =
      (lines.drop w.firstAsked.toNat).take (w.lastAsked.toNat + 1 - w.firstAsked.toNat) := by
  have hasks : (fun line : Text × Nat => decide (w.AsksFor line.2)) = fun line =>
      decide (w.firstAsked.toNat ≤ line.2 ∧ line.2 < w.lastAsked.toNat + 1) := by
    funext line
    rw [decide_eq_decide, AsksFor]
    unfold firstAsked lastAsked
    omega
  rw [asked, hasks, map_fst_filter_zipIdx, Nat.sub_zero, Nat.max_zero]

theorem asked_map (w : Window) (f : Text → Text) (lines : List Text) :
    w.asked (lines.map f) = (w.asked lines).map f := by
  rw [asked_eq_take_drop, asked_eq_take_drop, List.map_take, List.map_drop]

theorem mem_of_mem_asked {line : Text} (h : line ∈ w.asked lines) : line ∈ lines := by
  rw [asked_eq_take_drop] at h
  exact List.mem_of_mem_drop (List.mem_of_mem_take h)

theorem length_asked (w : Window) (lines : List Text) :
    ((w.asked lines).length : Int) =
      max 0 (min (w.lastAsked + 1) lines.length - w.firstAsked) := by
  rw [asked_eq_take_drop, List.length_take, List.length_drop]
  unfold firstAsked lastAsked
  omega

/-! ## The lines selected -/

/-- A location so far behind that no file has its line is not shown with so many lines before it
that a file could have those. -/
def InReach (w : Window) : Prop :=
  2 ^ 63 ≤ w.location.line.toNat → -2 ^ 62 ≤ w.range.first.toInt

instance (w : Window) : Decidable w.InReach := inferInstanceAs (Decidable (_ → _))

/-- The first line selected is the first one asked for, or both are beyond the end of every file. -/
theorem start_eq_or (h : w.InReach) :
    (w.start.toNat : Int) = w.firstAsked ∧ w.location.line.toNat < 2 ^ 63 ∨
      2 ^ 61 ≤ w.start.toNat ∧ 2 ^ 61 ≤ w.firstAsked := by
  have hstart := toNat_edgeIndex w.location.line w.range.first
  have hindex := toInt_lineIndex w.location.line
  unfold InReach at h
  unfold start firstAsked
  omega

/-- The last line selected is the last one asked for, or both are beyond the end of every file,
unless no file has the line of the location. -/
theorem stop_eq_or (hline : w.location.line.toNat < 2 ^ 63) :
    (w.stop.toNat : Int) = w.lastAsked ∨ 2 ^ 61 ≤ w.stop.toNat ∧ 2 ^ 61 ≤ w.lastAsked := by
  have hstop := toNat_edgeIndex w.location.line w.range.last
  have hindex := toInt_lineIndex w.location.line
  unfold stop lastAsked
  omega

/-- **The lines selected are those asked for.** -/
theorem select_eq_asked (h : w.InReach) (hlines : lines.length < 2 ^ 61) :
    w.select lines = w.asked lines := by
  rw [select, asked_eq_take_drop, toNat_count]
  rcases start_eq_or h with ⟨hstart, hline⟩ | ⟨hstart, hfirst⟩
  · have hdrop : w.firstAsked.toNat = w.start.toNat := by omega
    rw [hdrop, List.take_eq_take_iff, List.length_drop]
    rcases stop_eq_or hline with hstop | ⟨hstop, hlast⟩ <;> omega
  · -- neither asks for a line that the file has
    rw [List.drop_eq_nil_of_le (by omega), List.drop_eq_nil_of_le (by omega), List.take_nil,
      List.take_nil]

/-- **Every line selected gets a row**, with its number and without shared indentation. -/
theorem getElem?_rows {θ : Theme} {k : Nat} {line : Text} (h : (w.select lines)[k]? = some line) :
    ∃ indent rest : Text, (∀ c ∈ indent, isIndent c = true) ∧ line = indent ++ rest ∧
      (w.rows θ lines)[k]? =
        some (w.row θ (w.width lines) (w.firstLine + UInt64.ofNat k) (θ.coloured rest)) := by
  obtain ⟨indent, hindent, hline⟩ := exists_indent (w.select lines) line
  refine ⟨indent, outdented (w.select lines) line, hindent, hline, ?_⟩
  rw [rows_eq, shown, List.getElem?_map, getElem?_numbered, dedent_eq_map, List.getElem?_map, h]
  rfl

/-! ## The numbers on the way -/

/-- Every number that is computed for a window which shows `shown` lines is the number meant. Sums
and differences of words do not wrap around, and saturating ones are held at the ends of the range
of their words. -/
structure Exact (w : Window) (shown : Nat) : Prop where
  index : (lineIndex w.location.line).toInt = min (w.location.line.toNat : Int) (2 ^ 63 - 1) - 1
  start : (w.start.toNat : Int) =
    max 0 (min ((lineIndex w.location.line).toInt + w.range.first.toInt) (2 ^ 63 - 1))
  stop : (w.stop.toNat : Int) =
    max 0 (min ((lineIndex w.location.line).toInt + w.range.last.toInt) (2 ^ 63 - 1))
  target : ∀ target, w.target? = some target ↔
    w.start.toNat + target = w.location.line.toNat - 1
  behind : (w.stop + 1).toNat = w.stop.toNat + 1
  count : w.count.toNat = w.stop.toNat + 1 - w.start.toNat
  /-- The numbers of the rows, and the one behind the last row. -/
  number : ∀ i ≤ shown, (w.firstLine + UInt64.ofNat i).toNat = w.start.toNat + 1 + i
  width : gutterWidth w.firstLine shown = (Text.ofNat (w.start.toNat + shown)).length + 4
  width_le : gutterWidth w.firstLine shown ≤ 24

/-- The gutter is as wide as the number of the last row, the arrow and the colon. -/
theorem width_eq (w : Window) (lines : List Text) :
    w.width lines = (Text.ofNat (w.start.toNat + (w.select lines).length)).length + 4 := by
  have hone : (1 : UInt64).toNat = 1 := by decide
  have hlast : (saturatingSub (w.firstLine + UInt64.ofNat (w.select lines).length) 1).toNat =
      w.start.toNat + (w.select lines).length := by
    rw [toNat_saturatingSub, toNat_number (Nat.le_refl _), hone]
    omega
  rw [width, gutterWidth, hlast]

/-- **No number wraps around**, whatever a window asks for. -/
theorem exact_select (w : Window) (lines : List Text) : w.Exact (w.select lines).length where
  index := toInt_lineIndex w.location.line
  start := toNat_edgeIndex w.location.line w.range.first
  stop := toNat_edgeIndex w.location.line w.range.last
  target _ := target?_eq_some_iff
  behind := toNat_stop_add_one w
  count := toNat_count w
  number _ hi := toNat_number hi
  width := width_eq w lines
  width_le := by
    have hword := (saturatingSub (w.firstLine + UInt64.ofNat (w.select lines).length) 1).toNat_lt
    have hdigits := (Nat.length_toDigits_le_iff (b := 10) (k := 20) (by decide) (by decide)).2
      (Nat.lt_trans hword (by decide))
    exact Nat.add_le_add_right hdigits 4

/-! ## The lines shown -/

/-- **A window shows exactly the lines it asks for**, if the file is not longer than files can be and
the range does not reach back from a line that no file has. On the way to them no number wraps
around. The lines shown are the lines of the file from the first to the last one asked for, in their
order, each once and each completed by a newline; so there are as many as the range and the file
have in common. Each of them gets a row of its own, with its number and without the indentation it
shares with the others. -/
theorem shows_lines_asked_for {w : Window} {octets : Text.Octets} (hreach : w.InReach)
    (hlines : (Text.lines (Text.Utf8.decode octets)).length < 2 ^ 61) :
    w.Exact (w.select (sourceLines octets)).length ∧
    (w.select (sourceLines octets)).map (· ++ [newline]) =
      (w.asked (Text.lines (Text.Utf8.decode octets))).map Text.completed ∧
    ((w.select (sourceLines octets)).length : Int) =
      max 0 (min (w.lastAsked + 1) (Text.lines (Text.Utf8.decode octets)).length -
        w.firstAsked) ∧
    ∀ v : View, v.files w.location.path = some octets →
      ∃ rows : List Text,
        w.block v = w.pointOut v.theme (Text.unlines (w.annotate v.theme rows)) ∧
        rows.length = (w.select (sourceLines octets)).length ∧
        ∀ k line, (w.select (sourceLines octets))[k]? = some line →
          ∃ indent rest : Text, (∀ c ∈ indent, isIndent c = true) ∧ line = indent ++ rest ∧
            rows[k]? = some (w.row v.theme (w.width (sourceLines octets))
              (w.firstLine + UInt64.ofNat k) (v.theme.coloured rest)) := by
  have hlength : (sourceLines octets).length = (Text.lines (Text.Utf8.decode octets)).length :=
    List.length_map _
  have hselect : w.select (sourceLines octets) = w.asked (sourceLines octets) :=
    select_eq_asked hreach (hlength ▸ hlines)
  refine ⟨exact_select w _, ?_, ?_, ?_⟩
  · rw [hselect, sourceLines, asked_map, List.map_map]
    apply List.map_congr_left
    intro line hline
    exact Text.body_append_newline_eq_completed (mem_of_mem_asked hline)
  · rw [hselect, length_asked, hlength]
  · intro v hfile
    refine ⟨w.rows v.theme (sourceLines octets), ?_, ?_, fun k line hline => getElem?_rows hline⟩
    · rw [block, hfile]
    · rw [rows_eq, List.length_map, shown, length_numbered, dedent_eq_map, List.length_map]

/-- A last line without newline, asked for together with lines before the first and behind the last
one; and a line that no file has, with as many lines before it as can be asked for. -/
theorem shows_lines_asked_for_at_edges :
    let w : Window := { location := ⟨⟨"a.rb".toList⟩, 2, "m".toList⟩, range := ⟨-5, 5⟩ }
    let w' : Window := {
      location := ⟨⟨"a.rb".toList⟩, 18446744073709551615, "m".toList⟩
      range := ⟨-4611686018427387904, 0⟩ }
    w.Exact 2 ∧
      (w.select (sourceLines [97, 10, 98])).map (· ++ [newline]) = ["a\n".toList, "b\n".toList] ∧
      w'.Exact 0 ∧ ((w'.select (sourceLines [97, 10, 98])).length : Int) = 0 := by
  intro w w'
  have hlines : (Text.lines (Text.Utf8.decode [97, 10, 98])).length < 2 ^ 61 := by decide
  have htwo : (w.select (sourceLines [97, 10, 98])).length = 2 := by decide
  have hnone : (w'.select (sourceLines [97, 10, 98])).length = 0 := by decide
  obtain ⟨hexact, hcompleted, -⟩ := shows_lines_asked_for (w := w) (by decide) hlines
  obtain ⟨hexact', -, hlength, -⟩ := shows_lines_asked_for (w := w') (by decide) hlines
  refine ⟨htwo ▸ hexact, hcompleted.trans (by decide), hnone ▸ hexact', hlength.trans ?_⟩
  decide

end Window

end ErrorReport
