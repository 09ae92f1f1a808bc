/-
# ErrorReport.Proofs.Bounds — where the line of a window is among the lines it shows.

The first and the last line of a window are computed in saturating signed words, the place of its
own line among them by an unsigned subtraction. `lt_length_select_iff` says that the two agree: for
a range that holds its own line, that place is one of the lines shown exactly if the file has the
line, and `number_eq_iff` that it is then the only one with its number. Lines are counted from one.
-/
import Mathlib.Algebra.Group.Int.Defs
import Mathlib.Algebra.Group.Nat.Defs
import ErrorReport.Window.Basic

namespace ErrorReport

/-! ## Saturating words -/

/-- The nearest signed word to an integer is the integer itself, held between the least and the
greatest signed word. -/
theorem toInt_ofIntClamp (i : Int) :
    (Int64.ofIntClamp i).toInt = max (-2 ^ 63) (min i (2 ^ 63 - 1)) := by
  have hmin : Int64.minValue.toInt = -2 ^ 63 := Int64.toInt_minValue
  have hmax : Int64.maxValue.toInt = 2 ^ 63 - 1 := Int64.toInt_maxValue
  unfold Int64.ofIntClamp
  split
  · split
    · rw [Int64.toInt_ofIntLE]
      omega
    · omega
  · omega

/-- The saturated sum is the sum itself, held between the least and the greatest signed word. -/
theorem toInt_saturatingAdd (a b : Int64) :
    (saturatingAdd a b).toInt = max (-2 ^ 63) (min (a.toInt + b.toInt) (2 ^ 63 - 1)) :=
  toInt_ofIntClamp _

/-! ## Indices -/

/-- The index of a line is one less than its number, as far as signed words go. -/
theorem toInt_lineIndex (line : UInt64) :
    (lineIndex line).toInt = min (line.toNat : Int) (2 ^ 63 - 1) - 1 := by
  have hone : (-1 : Int64).toInt = -1 := by decide
  rw [lineIndex, toInt_saturatingAdd, toInt_ofIntClamp, hone]
  omega

/-- The index at an offset from a line is the sum, held between zero and the greatest signed
word. -/
theorem toNat_edgeIndex (line : UInt64) (offset : Int64) :
    ((edgeIndex line offset).toNat : Int) =
      max 0 (min ((lineIndex line).toInt + offset.toInt) (2 ^ 63 - 1)) := by
  have hsum := toInt_saturatingAdd (lineIndex line) offset
  have hzero : (0 : Int64).toInt = 0 := by decide
  unfold edgeIndex
  dsimp only
  -- what lies before the first line becomes the first, any other index is its own word
  split
  · next hneg =>
    rw [Int64.lt_iff_toInt_lt, hzero] at hneg
    show ((0 : UInt64).toNat : Int) = _
    rw [UInt64.toNat_zero]
    omega
  · next hnonneg =>
    rw [Int64.lt_iff_toInt_lt, hzero] at hnonneg
    have hle : (0 : Int64) ≤ saturatingAdd (lineIndex line) offset := by
      rw [Int64.le_iff_toInt_le, hzero]
      omega
    rw [Int64.toNat_toUInt64_of_le hle, ← Int64.toNat_toInt]
    omega

theorem edgeIndex_lt (line : UInt64) (offset : Int64) : (edgeIndex line offset).toNat < 2 ^ 63 := by
  have hedge := toNat_edgeIndex line offset
  omega

namespace Window

/-! ## The lines shown -/

theorem length_select (w : Window) (lines : List Text) :
    (w.select lines).length = min w.count.toNat (lines.length - w.start.toNat) := by
  rw [select, List.length_take, List.length_drop]

theorem stop_lt (w : Window) : w.stop.toNat < 2 ^ 63 := edgeIndex_lt w.location.line w.range.last

/-- There is an index behind the last line shown. -/
theorem toNat_stop_add_one (w : Window) : (w.stop + 1).toNat = w.stop.toNat + 1 := by
  have hstop := stop_lt w
  have hone : (1 : UInt64).toNat = 1 := by decide
  rw [UInt64.toNat_add, hone]
  omega

theorem toNat_count (w : Window) : w.count.toNat = w.stop.toNat + 1 - w.start.toNat := by
  rw [count, toNat_saturatingSub, toNat_stop_add_one]

theorem getElem?_select {w : Window} {lines : List Text} {i : Nat}
    (hi : i < (w.select lines).length) :
    (w.select lines)[i]? = lines[w.start.toNat + i]? := by
  rw [length_select] at hi
  rw [select, List.getElem?_take, if_pos (by omega), List.getElem?_drop]

/-- The numbers of the lines shown do not wrap around, and neither does the one behind the last. -/
theorem toNat_number {w : Window} {lines : List Text} {i : Nat}
    (hi : i ≤ (w.select lines).length) :
    (w.firstLine + UInt64.ofNat i).toNat = w.start.toNat + 1 + i := by
  have hstop := stop_lt w
  have hstart : w.start.toNat < 2 ^ 63 := edgeIndex_lt w.location.line w.range.first
  have hone : (1 : UInt64).toNat = 1 := by decide
  rw [length_select, toNat_count] at hi
  rw [firstLine, UInt64.toNat_add, UInt64.toNat_add, hone, UInt64.toNat_ofNat']
  omega

/-- The line that is pointed at is the one whose index is that of the location; line zero counts as
the first. -/
theorem target?_eq_some_iff {w : Window} {target : Nat} :
    w.target? = some target ↔ w.start.toNat + target = w.location.line.toNat - 1 := by
  have hindex := toNat_saturatingSub w.location.line 1
  have hone : (1 : UInt64).toNat = 1 := by decide
  unfold target?
  dsimp only
  split
  · next hle =>
    rw [UInt64.toNat_sub_of_le _ _ hle, Option.some.injEq]
    rw [UInt64.le_iff_toNat_le] at hle
    omega
  · next hlt =>
    rw [UInt64.le_iff_toNat_le] at hlt
    refine iff_of_false nofun ?_
    omega

theorem target?_of_number {w : Window} {lines : List Text} {i : Nat}
    (hi : i < (w.select lines).length) (h : w.firstLine + UInt64.ofNat i = w.location.line) :
    w.target? = some i := by
  have hnumber := toNat_number (Nat.le_of_lt hi)
  rw [h] at hnumber
  rw [target?_eq_some_iff]
  omega

/-! ## The line of the location -/

/-- The range of a window holds the line of its location, and that line is counted from one. -/
structure HoldsLine (w : Window) : Prop where
  line : w.location.line ≠ 0
  first : w.range.first ≤ 0
  last : 0 ≤ w.range.last

variable {w : Window} (h : w.HoldsLine)

include h

theorem HoldsLine.line_pos : 0 < w.location.line.toNat :=
  Nat.pos_of_ne_zero fun hzero => h.line (UInt64.toNat_inj.1 hzero)

/-- **The first line shown** does not come behind the line of the location. -/
theorem start_lt : w.start.toNat < w.location.line.toNat := by
  have hfirst := Int64.le_iff_toInt_le.1 h.first
  have hzero : (0 : Int64).toInt = 0 := by decide
  have hstart := toNat_edgeIndex w.location.line w.range.first
  have hindex := toInt_lineIndex w.location.line
  have hpos := h.line_pos
  unfold start
  omega

/-- **The last line shown** does not come before the line of the location, unless no file can have
that line. -/
theorem le_stop (hline : w.location.line.toNat < 2 ^ 63) :
    w.location.line.toNat ≤ w.stop.toNat + 1 := by
  have hlast := Int64.le_iff_toInt_le.1 h.last
  have hzero : (0 : Int64).toInt = 0 := by decide
  have hstop := toNat_edgeIndex w.location.line w.range.last
  have hindex := toInt_lineIndex w.location.line
  unfold stop
  omega

/-- Which of the lines shown is the line of the location. -/
theorem target?_eq : w.target? = some (w.location.line.toNat - 1 - w.start.toNat) := by
  have hstart := start_lt h
  rw [target?_eq_some_iff]
  omega

/-- **The line of the location is shown** exactly if the file has it. -/
theorem lt_length_select_iff {lines : List Text} (hlines : lines.length < 2 ^ 63) :
    w.location.line.toNat - 1 - w.start.toNat < (w.select lines).length ↔
      w.location.line.toNat ≤ lines.length := by
  have hstart := start_lt h
  have hstop := le_stop h
  rw [length_select, toNat_count]
  omega

/-- **Only one line shown** has the number of the location. -/
theorem number_eq_iff {lines : List Text} {i : Nat} (hi : i < (w.select lines).length) :
    w.firstLine + UInt64.ofNat i = w.location.line ↔
      i = w.location.line.toNat - 1 - w.start.toNat := by
  have hstart := start_lt h
  -- as words the numbers could wrap around, as numbers they count on from the first
  rw [← UInt64.toNat_inj, toNat_number (Nat.le_of_lt hi)]
  omega

end Window

end ErrorReport
