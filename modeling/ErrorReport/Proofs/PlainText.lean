/-
# ErrorReport.Proofs.PlainText — the exact text of a window in the plain theme.

The plain theme decorates nothing, so a window is its header and its rows, and each row can be
written down from numbers alone: `gutterAt` is its gutter, with its number and perhaps the arrow,
`noteAt` is the message, on one row at most. `plain_window_text` says that nothing else is printed,
for every window onto every file that can be read.

Gutters are padded to the digits of the last number shown. Since no other number has more digits,
all gutters of a window have that width and no number is cut (`length_gutterAt`).
-/
import ErrorReport.Proofs.Layout
import ErrorReport.Proofs.Selection

namespace ErrorReport.Window

open Text (newline unlines)
open Terminal (Theme)
open Layout (paint_eq)

variable {v : View} {w : Window} {lines : List Text}

/-! ## Rows by their numbers -/

/-- The gutter of the row with index `k` where `shown` rows are shown. -/
def gutterAt (w : Window) (shown k : Nat) : Text :=
  let number := w.start.toNat + 1 + k
  let lead := if w.mark = true ∧ number = w.location.line.toNat then "-> " else "   "
  let t := lead.toList ++ Text.ofNat number ++ [':']
  t ++ List.replicate ((Text.ofNat (w.start.toNat + shown)).length + 4 - t.length) ' '

/-- What stands behind the row with index `k`: the message, if it is the row of the location. Line
zero counts as the first. -/
def noteAt (w : Window) (k : Nat) : Text :=
  if w.start.toNat + k + 1 = max w.location.line.toNat 1 then w.plainNote else []

/-- The row with index `k`. -/
def rowAt (w : Window) (shown k : Nat) (line : Text) : Text :=
  w.gutterAt shown k ++ ' ' :: line ++ w.noteAt k

/-- **All gutters of a window have the same width**, that of the last number, arrow and colon. -/
theorem length_gutterAt {shown k : Nat} (hk : k < shown) :
    (w.gutterAt shown k).length = (Text.ofNat (w.start.toNat + shown)).length + 4 := by
  have hdigits : (Text.ofNat (w.start.toNat + 1 + k)).length ≤
      (Text.ofNat (w.start.toNat + shown)).length := Text.length_ofNat_mono (by omega)
  have hlead : ∀ marked : Prop, [Decidable marked] →
      (if marked then "-> " else "   ").toList.length = 3 := by
    intro marked _
    split <;> rfl
  unfold gutterAt
  simp only [List.length_append, List.length_replicate, List.length_singleton, hlead]
  omega

/-- The gutter of a row is made of its number. -/
theorem gutter_eq_gutterAt {k : Nat} (hk : k < (w.select lines).length) :
    gutter (w.width lines)
        (w.mark && decide (w.firstLine + UInt64.ofNat k = w.location.line))
        (w.firstLine + UInt64.ofNat k) =
      w.gutterAt (w.select lines).length k := by
  have hnumber := toNat_number (Nat.le_of_lt hk)
  have hmarked : (w.mark && decide (w.firstLine + UInt64.ofNat k = w.location.line)) = true ↔
      w.mark = true ∧ w.start.toNat + 1 + k = w.location.line.toNat := by
    rw [Bool.and_eq_true, decide_eq_true_iff, ← UInt64.toNat_inj, hnumber]
  unfold gutter gutterAt
  simp only [hmarked, hnumber, width_eq]
  split <;> rfl

/-! ## The plain theme -/

section

variable (hplain : v.theme.name = .plain)

include hplain

theorem coloured_eq_self (line : Text) : v.theme.coloured line = line := by
  unfold Theme.coloured
  refine (List.flatMap_congr fun lexeme _ => ?_).trans (Source.lexemes_text line)
  split
  · exact paint_eq hplain _ _
  · rfl

theorem pointOut_eq_self (block : Text) : w.pointOut v.theme block = block := by
  unfold pointOut
  split
  · unfold Theme.highlight
    rw [hplain]
  · rfl

theorem faded_eq_self (block : Text) : v.theme.faded block = block := by
  unfold Theme.faded
  rw [hplain]

theorem row_eq_plainRow (width : Nat) (n : UInt64) (line : Text) :
    w.row v.theme width n line = w.plainRow width n line := by
  unfold row plainRow
  simp only [paint_eq hplain, ite_self]

theorem noted_eq (row : Text) : w.noted v.theme row = row ++ w.plainNote := by
  unfold noted plainNote
  cases w.message with
  | none => exact (List.append_nil row).symm
  | some message => simp only [paint_eq hplain, Option.elim_some]

/-- **The rows of a window in the plain theme**, by their numbers. -/
theorem annotate_rows_eq (lines : List Text) :
    w.annotate v.theme (w.rows v.theme lines) =
      (dedent (w.select lines)).mapIdx (w.rowAt (w.select lines).length) := by
  apply List.ext_getElem?
  intro k
  rw [getElem?_annotate, rows_eq, shown, List.getElem?_map, getElem?_numbered,
    List.getElem?_mapIdx, Option.map_map, Option.map_map]
  cases hline : (dedent (w.select lines))[k]? with
  | none => simp only [Option.map_none]
  | some line =>
    have hk : k < (w.select lines).length := by
      rw [← List.length_map (outdented (w.select lines)), ← dedent_eq_map]
      exact (List.getElem?_eq_some_iff.1 hline).1
    have hnote : w.target? = some k ↔ w.start.toNat + k + 1 = max w.location.line.toNat 1 := by
      rw [target?_eq_some_iff]
      omega
    simp only [Option.map_some, Function.comp, coloured_eq_self hplain, row_eq_plainRow hplain,
      noted_eq hplain, hnote, plainRow, gutter_eq_gutterAt hk, rowAt, noteAt]
    split <;> simp

theorem header_eq (l : Location) :
    header v l = (directoryFrom v.directory l.path).text ++ '/' :: l.fileName ++
      ':' :: Text.ofNat l.line.toNat := by
  simp only [header, paint_eq hplain, List.append_assoc, List.cons_append, List.nil_append]

end

/-! ## The text of a window -/

/-- **The exact text of a window in the plain theme.** It is the header, a newline, and one row for
each selected line without the shared indentation: the gutter, a space, the line, and, on the row of
the location only, a space and the message. Where only the path matters, every line of that is moved
to the right by six spaces, also those that the message brings in. All gutters are equally wide. -/
theorem plain_window_text {octets : Text.Octets} (hplain : v.theme.name = .plain)
    (hfile : v.files w.location.path = some octets) :
    let source := dedent (w.select (sourceLines octets))
    ∃ rows : List Text, (∀ row ∈ rows, newline ∉ row) ∧
      unlines (source.mapIdx (w.rowAt source.length)) = unlines rows ∧
      w.render v = (directoryFrom v.directory w.location.path).text ++ '/' :: w.location.fileName ++
        ':' :: Text.ofNat w.location.line.toNat ++ newline :: unlines
          (match w.emphasis with
          | .code => rows
          | .path => rows.map (List.replicate 6 ' ' ++ ·)) ∧
      ∀ k < source.length,
        (w.gutterAt source.length k).length =
          (Text.ofNat (w.start.toNat + source.length)).length + 4 := by
  intro source
  have hlength : source.length = (w.select (sourceLines octets)).length :=
    List.length_map (outdented (w.select (sourceLines octets)))
  obtain ⟨rows, hrows, hcode⟩ := Text.isBlock_unlines (source.mapIdx (w.rowAt source.length))
  have hblock : w.block v = unlines rows := by
    unfold block
    rw [hfile]
    dsimp only
    rw [pointOut_eq_self hplain, annotate_rows_eq hplain, ← hlength]
    exact hcode
  refine ⟨rows, hrows, hcode, ?_, fun k hk => length_gutterAt hk⟩
  rw [← header_eq hplain]
  unfold render
  cases w.emphasis with
  | code => rw [hblock]
  | path =>
    dsimp only
    rw [hblock, paint_eq hplain, pointOut_eq_self hplain, faded_eq_self hplain, Theme.indented,
      Text.mapLines_unlines margin hrows]
    rfl

/-- Two indented lines on both sides of a change in the number of digits, the last without a
newline, with the arrow and the message at the second. -/
theorem plain_window_text_tenth :
    let v : View := {
      theme := { name := .plain }
      directory := ⟨"/app".toList⟩
      files := fun _ => some [10, 10, 10, 10, 10, 10, 10, 10, 32, 97, 10, 32, 98] }
    let w : Window := {
      location := ⟨⟨"/app/a.rb".toList⟩, 10, "m".toList⟩
      range := ⟨-1, 5⟩
      message := some "boom".toList }
    w.render v = "./a.rb:10\n   9:  a\n-> 10: b boom\n".toList := by
  intro v w
  obtain ⟨rows, -, hcode, hrender, -⟩ := plain_window_text (v := v) (w := w) rfl rfl
  have hheader : (directoryFrom v.directory w.location.path).text ++ '/' :: w.location.fileName ++
      ':' :: Text.ofNat w.location.line.toNat = "./a.rb:10".toList := by decide
  have hrows : w.render v = "./a.rb:10".toList ++ newline :: unlines rows := by
    rw [hrender, hheader]
  rw [hrows, ← hcode]
  decide

end ErrorReport.Window
