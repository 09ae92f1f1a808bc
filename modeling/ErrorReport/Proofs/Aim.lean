/-
# ErrorReport.Proofs.Aim — every window of a report points at its own line.

The arrow of a window goes by line numbers, its message and its token by the place of a row. Both
find the same row: `finished_append` and `finished_of_length_le` say what becomes of the rows of a
window, `of_getElem?_shown` which line of the file a row shows, and the bounds of the window
(`ErrorReport.Proofs.Bounds`) that the row in the place of the location is the one with its number.

`PointsAtRow` and `PointsNowhere` say what a rendered window looks like in the two cases, that the
file has the line or that it is too short. They speak of rows that show a line of the file; such a
row tells its number and whether it has the arrow (`ShowsLine.unique`).
-/
import ErrorReport.Proofs.Bounds
import ErrorReport.Proofs.Request
import ErrorReport.Proofs.Rows

namespace ErrorReport

open Text (escape newline unlines)
open Terminal (Theme Shows strip)

namespace Window

variable {θ : Theme} {v : View} {w : Window}

/-! ## Rows are single lines -/

theorem newline_notMem_row {line : Text} (width : Nat) (n : UInt64) (h : newline ∉ line) :
    newline ∉ w.row θ width n line := by
  have hgutter : newline ∉ gutter width (w.mark && n = w.location.line) n :=
    notMem_gutter (by decide) (by decide) width _ n
  have hline : newline ∉ ' ' :: line := List.not_mem_cons_of_ne_of_not_mem (by decide) h
  unfold row
  dsimp only
  split
  · have hmarked := Terminal.newline_notMem_paint θ .markedLineNumber hgutter
    exact List.not_mem_append (Terminal.newline_notMem_paint θ _ hmarked) hline
  · exact List.not_mem_append (Terminal.newline_notMem_paint θ _ hgutter) hline

theorem newline_notMem_of_mem_rows (θ : Theme) (w : Window) (octets : Text.Octets) :
    ∀ row ∈ w.rows θ (sourceLines octets), newline ∉ row := by
  rw [rows_eq]
  refine List.forall_mem_map.2 ?_
  rintro ⟨n, line⟩ hshown
  obtain ⟨source, hsource, hsub⟩ := exists_of_mem_shown hshown
  have hline : newline ∉ line := fun hmem => newline_notMem_of_mem_sourceLines hsource (hsub hmem)
  exact newline_notMem_row _ n (Terminal.newline_notMem_coloured θ hline)

theorem newline_notMem_noted {row : Text} (hmessage : ∀ message ∈ w.message, newline ∉ message)
    (h : newline ∉ row) : newline ∉ w.noted θ row := by
  unfold noted
  cases hsome : w.message with
  | none => exact h
  | some message =>
    have hpainted := Terminal.newline_notMem_paint θ .scream (hmessage message hsome)
    exact List.not_mem_append h (List.not_mem_cons_of_ne_of_not_mem (by decide) hpainted)

/-! ## Finished rows -/

/-- What stands in front of the rows of a window. -/
def lead (w : Window) : Text :=
  match w.emphasis with
  | .code => []
  | .path => margin

/-- What stands above the rows of a window. -/
def heading (v : View) (w : Window) : Text :=
  match w.emphasis with
  | .code => header v w.location
  | .path => v.theme.paint .header (header v w.location)

/-- The row of the location with the message behind it and the token pointed out. -/
def lit (θ : Theme) (w : Window) (row : Text) : Text := θ.pointed w.token (w.noted θ row)

/-- A row moved to the right and without colours, where only the path matters. -/
def settled (θ : Theme) (w : Window) (row : Text) : Text :=
  match w.emphasis with
  | .code => row
  | .path => θ.dulled (margin ++ row)

/-- The finished row of the location. Settling takes the highlight out, so the token is pointed out
again. -/
def finishedRow (θ : Theme) (w : Window) (row : Text) : Text :=
  match w.emphasis with
  | .code => w.lit θ row
  | .path => θ.pointed w.token (w.settled θ (w.lit θ row))

theorem newline_notMem_lit {row : Text} (htoken : newline ∉ w.token)
    (hmessage : ∀ message ∈ w.message, newline ∉ message) (h : newline ∉ row) :
    newline ∉ w.lit θ row :=
  Theme.newline_notMem_pointed htoken (newline_notMem_noted hmessage h)

theorem newline_notMem_settled {row : Text} (h : newline ∉ row) : newline ∉ w.settled θ row := by
  unfold settled
  cases w.emphasis with
  | code => exact h
  | path => exact Theme.newline_notMem_dulled (List.not_mem_append (by decide) h)

theorem newline_notMem_finishedRow {row : Text} (htoken : newline ∉ w.token)
    (hmessage : ∀ message ∈ w.message, newline ∉ message) (h : newline ∉ row) :
    newline ∉ w.finishedRow θ row := by
  have hlit : newline ∉ w.lit θ row := newline_notMem_lit htoken hmessage h
  unfold finishedRow
  cases w.emphasis with
  | code => exact hlit
  | path => exact Theme.newline_notMem_pointed htoken (newline_notMem_settled hlit)

/-- The finished rows of a window, where `target` is the place of the row of the location. -/
def finished (θ : Theme) (w : Window) (target : Nat) (rows : List Text) : List Text :=
  match w.emphasis with
  | .code => rows.modify target (w.lit θ)
  | .path => ((rows.modify target (w.lit θ)).map (w.settled θ)).modify target (θ.pointed w.token)

theorem settled_of_code (h : w.emphasis = .code) : w.settled θ = id := by
  funext row
  simp only [settled, h, id]

/-- Of the rows of a window, the one in the place of the location is finished in its own way. -/
theorem finished_append (before : List Text) (row : Text) (after : List Text) :
    w.finished θ before.length (before ++ row :: after) =
      before.map (w.settled θ) ++ w.finishedRow θ row :: after.map (w.settled θ) := by
  unfold finished finishedRow
  cases hemphasis : w.emphasis with
  | code =>
    simp only [settled_of_code hemphasis, List.map_id]
    exact Text.modify_append_cons (w.lit θ) before row after
  | path =>
    have hlength : before.length = (before.map (w.settled θ)).length := by rw [List.length_map]
    dsimp only
    rw [Text.modify_append_cons, List.map_append, List.map_cons, hlength, Text.modify_append_cons]

/-- If there are too few rows, they are all finished in the same way. -/
theorem finished_of_length_le {rows : List Text} {target : Nat} (h : rows.length ≤ target) :
    w.finished θ target rows = rows.map (w.settled θ) := by
  unfold finished
  rw [List.modify_eq_self h]
  cases hemphasis : w.emphasis with
  | code =>
    rw [settled_of_code hemphasis, List.map_id]
  | path =>
    dsimp only
    rw [List.modify_eq_self (by rwa [List.length_map])]

/-! ## The text of a window -/

theorem pointOut_unlines {target : Nat} {rows : List Text} (htarget : w.target? = some target)
    (htoken : newline ∉ w.token) (hrows : ∀ row ∈ rows, newline ∉ row) :
    w.pointOut θ (unlines rows) = unlines (rows.modify target (θ.pointed w.token)) := by
  unfold pointOut
  rw [htarget]
  exact Theme.highlight_unlines target htoken hrows

/-- Moving a block to the right and taking its colours out settles its rows. -/
theorem faded_indented_unlines {rows : List Text} (hpath : w.emphasis = .path)
    (hrows : ∀ row ∈ rows, newline ∉ row) :
    θ.faded (Theme.indented margin (unlines rows)) = unlines (rows.map (w.settled θ)) := by
  have hsettled : w.settled θ = θ.dulled ∘ (margin ++ ·) := by
    funext row
    simp only [settled, hpath, Function.comp]
  have hmargin : ∀ row ∈ rows.map (margin ++ ·), newline ∉ row :=
    List.forall_mem_map.2 fun row hrow => List.not_mem_append (by decide) (hrows row hrow)
  rw [Theme.indented, Text.mapLines_unlines margin hrows, Theme.faded_unlines hmargin,
    List.map_map, hsettled]

/-- A window whose block is made of rows is its heading and these rows, with the token pointed out
on one of them. Where only the path matters they are settled then, and the token is pointed out once
more. -/
theorem render_eq_of_block {rows : List Text} {target : Nat}
    (hblock : w.block v = w.pointOut v.theme (unlines rows)) (htarget : w.target? = some target)
    (htoken : newline ∉ w.token) (hrows : ∀ row ∈ rows, newline ∉ row) :
    w.render v = w.heading v ++ newline :: unlines
      (match w.emphasis with
      | .code => rows.modify target (v.theme.pointed w.token)
      | .path => ((rows.modify target (v.theme.pointed w.token)).map (w.settled v.theme)).modify
          target (v.theme.pointed w.token)) := by
  have hpointed : ∀ row ∈ rows.modify target (v.theme.pointed w.token), newline ∉ row :=
    Text.forall_mem_modify hrows (fun _ => Theme.newline_notMem_pointed htoken) target
  unfold render heading
  rw [hblock, pointOut_unlines htarget htoken hrows]
  cases hemphasis : w.emphasis with
  | code => rfl
  | path =>
    have hsettled : ∀ row ∈ (rows.modify target (v.theme.pointed w.token)).map
        (w.settled v.theme), newline ∉ row :=
      List.forall_mem_map.2 fun row hrow => newline_notMem_settled (hpointed row hrow)
    dsimp only
    rw [faded_indented_unlines hemphasis hpointed, pointOut_unlines htarget htoken hsettled]

/-- **A window is its heading and its finished rows.** -/
theorem render_eq {octets : Text.Octets} {target : Nat}
    (hfile : v.files w.location.path = some octets) (htarget : w.target? = some target)
    (htoken : newline ∉ w.token) (hmessage : ∀ message ∈ w.message, newline ∉ message) :
    w.render v = w.heading v ++ newline ::
      unlines (w.finished v.theme target (w.rows v.theme (sourceLines octets))) := by
  have hnoted := Text.forall_mem_modify (newline_notMem_of_mem_rows v.theme w octets)
    (fun _ => newline_notMem_noted (θ := v.theme) hmessage) target
  have hblock : w.block v = w.pointOut v.theme
      (unlines ((w.rows v.theme (sourceLines octets)).modify target (w.noted v.theme))) := by
    unfold block
    rw [hfile]
    dsimp only
    rw [annotate_eq, htarget]
  have hlit : v.theme.pointed w.token ∘ w.noted v.theme = w.lit v.theme := rfl
  rw [render_eq_of_block hblock htarget htoken hnoted, List.modify_modify_eq, hlit]
  rfl

/-! ## What finished rows show -/

theorem shows_settled {a p : Text} (h : Shows θ a p) : Shows θ (w.settled θ a) (w.lead ++ p) := by
  unfold settled lead
  cases w.emphasis with
  | code => exact h
  | path => exact ((Shows.refl (by decide)).append h).dulled

/-- The finished row of the location shows what the row shows, and the message behind it. -/
theorem shows_finishedRow {a p : Text} (htoken : escape ∉ w.token)
    (hmessage : ∀ message ∈ w.message, escape ∉ message) (h : Shows θ a p) :
    Shows θ (w.finishedRow θ a) (w.lead ++ (p ++ w.plainNote)) := by
  have hlit : Shows θ (w.lit θ a) (p ++ w.plainNote) := (shows_noted hmessage h).pointed htoken
  have hsettled : Shows θ (w.settled θ (w.lit θ a)) (w.lead ++ (p ++ w.plainNote)) :=
    shows_settled hlit
  unfold finishedRow
  cases hemphasis : w.emphasis with
  | code =>
    rw [settled_of_code hemphasis] at hsettled
    exact hsettled
  | path => exact hsettled.pointed htoken

/-- What a numbered line of a window says is said by the line of the file with that number, and only
indentation stands before it there. -/
theorem of_getElem?_shown {lines : List Text} {i : Nat} {n : UInt64} {line : Text}
    (h : (w.shown lines)[i]? = some (n, line)) :
    i < (w.select lines).length ∧ n = w.firstLine + UInt64.ofNat i ∧ n ≠ 0 ∧
      ∃ indent : Text, (∀ c ∈ indent, isIndent c = true) ∧
        lines[n.toNat - 1]? = some (indent ++ line) := by
  rw [shown, getElem?_numbered, dedent_eq_map, List.getElem?_map, Option.map_map,
    Option.map_eq_some_iff] at h
  obtain ⟨source, hsource, heq⟩ := h
  obtain ⟨rfl, rfl⟩ := Prod.mk.inj heq
  obtain ⟨hi, -⟩ := List.getElem?_eq_some_iff.1 hsource
  have hnumber := toNat_number (Nat.le_of_lt hi)
  obtain ⟨indent, hindent, hsplit⟩ := exists_indent (w.select lines) source
  refine ⟨hi, rfl, ?_, indent, hindent, ?_⟩
  · intro hzero
    rw [hzero, UInt64.toNat_zero] at hnumber
    omega
  · have hindex : (w.firstLine + UInt64.ofNat i).toNat - 1 = w.start.toNat + i := by omega
    rw [hindex, ← hsplit, ← hsource]
    exact (getElem?_select hi).symm

/-- A row shows line `n` of a file: behind a gutter, with an arrow if it is `marked`, it shows what
the line says, from some character on before which there is only indentation, and then `note`. -/
def ShowsLine (w : Window) (lines : List Text) (marked : Bool) (n : UInt64)
    (note row : Text) : Prop :=
  n ≠ 0 ∧ ∃ width : Nat, ∃ indent line : Text, (∀ c ∈ indent, isIndent c = true) ∧
    lines[n.toNat - 1]? = some (indent ++ line) ∧
    strip row = w.lead ++ (gutter width marked n ++ ' ' :: line ++ note)

/-- A row tells whether it has the arrow and which line it shows. -/
theorem ShowsLine.unique {lines : List Text} {marked marked' : Bool} {n n' : UInt64}
    {note note' row : Text} (h : w.ShowsLine lines marked n note row)
    (h' : w.ShowsLine lines marked' n' note' row) : marked = marked' ∧ n = n' := by
  obtain ⟨-, width, -, line, -, -, hrow⟩ := h
  obtain ⟨-, width', -, line', -, -, hrow'⟩ := h'
  have heq := List.append_cancel_left (hrow.symm.trans hrow')
  simp only [gutter, List.append_assoc, List.cons_append] at heq
  -- the arrow and the room for it differ in their first character
  obtain rfl : marked = marked' := by
    cases marked <;> cases marked' <;> simp at heq ⊢
  -- the digits of the number end at the colon
  have hcolon : ∀ rest : Text, ∀ c ∈ (':' :: rest).head?, Text.isDigit c = false := by
    rintro rest _ ⟨⟩
    decide
  have hread := congrArg Text.leadingDigits (List.append_cancel_left heq)
  rw [Text.leadingDigits_ofNat _ (hcolon _), Text.leadingDigits_ofNat _ (hcolon _)] at hread
  exact ⟨rfl, Text.ofNat_toNat_inj (Prod.mk.inj (Option.some.inj hread)).1⟩

/-- **A rendered window with one row that is pointed at.** It is the row of the line of the
location: it alone has the arrow in its gutter and the message behind it, and it alone looks
different if no token is pointed out. -/
structure PointsAtRow (v : View) (w : Window) (lines before : List Text) (row : Text)
    (after : List Text) : Prop where
  render_eq : w.render v = w.heading v ++ newline :: unlines (before ++ row :: after)
  single : ∀ r ∈ before ++ row :: after, newline ∉ r
  marked : w.ShowsLine lines true w.location.line w.plainNote row
  others : ∀ other ∈ before ++ after, ∃ n, n ≠ w.location.line ∧ w.ShowsLine lines false n [] other
  unmarked : ∀ other ∈ before ++ after, ∀ n note, ¬ w.ShowsLine lines true n note other
  unlit : ∃ unlit, newline ∉ unlit ∧ { w with highlight := some [] }.render v =
    w.heading v ++ newline :: unlines (before ++ unlit :: after)

/-- **A rendered window without a row that is pointed at.** No row has the arrow in its gutter or
the message behind it, and there is nothing to point out. -/
structure PointsNowhere (v : View) (w : Window) (lines rows : List Text) : Prop where
  render_eq : w.render v = w.heading v ++ newline :: unlines rows
  single : ∀ row ∈ rows, newline ∉ row
  others : ∀ row ∈ rows, ∃ n, n ≠ w.location.line ∧ w.ShowsLine lines false n [] row
  unmarked : ∀ row ∈ rows, ∀ n note, ¬ w.ShowsLine lines true n note row
  unlit : { w with highlight := some [] }.render v = w.render v

/-- Nothing that a window shows of a file, looks for or says holds an escape character, and what it
looks for and says stays within one line. -/
structure Legible (w : Window) (octets : Text.Octets) : Prop where
  source : escape ∉ Text.Utf8.decode octets
  token : escape ∉ w.token
  message : ∀ message ∈ w.message, escape ∉ message
  tokenLine : newline ∉ w.token
  messageLine : ∀ message ∈ w.message, newline ∉ message

/-- A numbered line of a window as the row that shows it. -/
def rowOf (θ : Theme) (w : Window) (lines : List Text) (numbered : UInt64 × Text) : Text :=
  w.row θ (w.width lines) numbered.1 (θ.coloured numbered.2)

/-- A row beside that of the location, when it is finished. -/
def besideRow (θ : Theme) (w : Window) (lines : List Text) (numbered : UInt64 × Text) : Text :=
  w.settled θ (w.rowOf θ lines numbered)

variable {octets : Text.Octets} {i : Nat} {n : UInt64} {line : Text}

theorem rows_eq_map_rowOf (lines : List Text) :
    w.rows θ lines = (w.shown lines).map (w.rowOf θ lines) := rows_eq θ w lines

theorem map_settled_rowOf (lines : List Text) (xs : List (UInt64 × Text)) :
    (xs.map (w.rowOf θ lines)).map (w.settled θ) = xs.map (w.besideRow θ lines) := by
  rw [List.map_map]
  rfl

theorem shows_rowOf (hw : w.Legible octets)
    (h : (w.shown (sourceLines octets))[i]? = some (n, line)) :
    Shows θ (w.rowOf θ (sourceLines octets) (n, line))
      (w.plainRow (w.width (sourceLines octets)) n line) := by
  exact shows_row θ w _ n (notMem_of_mem_shown hw.source (List.mem_of_getElem? h))

/-- **A row beside that of the location** shows its line, without arrow or message. -/
theorem showsLine_besideRow (hw : w.Legible octets)
    (h : (w.shown (sourceLines octets))[i]? = some (n, line)) (hn : n ≠ w.location.line) :
    w.ShowsLine (sourceLines octets) false n []
      (w.besideRow θ (sourceLines octets) (n, line)) := by
  obtain ⟨-, -, hzero, indent, hindent, hsource⟩ := of_getElem?_shown h
  have hshows := shows_settled (w := w) (shows_rowOf (θ := θ) hw h)
  have hmarked : (w.mark && decide (n = w.location.line)) = false := by simp [hn]
  refine ⟨hzero, w.width (sourceLines octets), indent, line, hindent, hsource, ?_⟩
  rw [besideRow, hshows.strip_eq, plainRow, hmarked, List.append_nil]

/-- **The row of the location** shows its line with the arrow in front and the message behind. -/
theorem showsLine_finishedRow (hw : w.Legible octets) (hmark : w.mark = true)
    (h : (w.shown (sourceLines octets))[i]? = some (w.location.line, line)) :
    w.ShowsLine (sourceLines octets) true w.location.line w.plainNote
      (w.finishedRow θ (w.rowOf θ (sourceLines octets) (w.location.line, line))) := by
  obtain ⟨-, -, hzero, indent, hindent, hsource⟩ := of_getElem?_shown h
  have hshows := shows_finishedRow hw.token hw.message (shows_rowOf (θ := θ) hw h)
  have hmarked : (w.mark && decide (w.location.line = w.location.line)) = true := by simp [hmark]
  refine ⟨hzero, w.width (sourceLines octets), indent, line, hindent, hsource, ?_⟩
  rw [hshows.strip_eq, plainRow, hmarked]

theorem newline_notMem_rowOf (h : (w.shown (sourceLines octets))[i]? = some (n, line)) :
    newline ∉ w.rowOf θ (sourceLines octets) (n, line) := by
  apply newline_notMem_of_mem_rows θ w octets
  rw [rows_eq_map_rowOf]
  exact List.mem_map_of_mem (List.mem_of_getElem? h)

theorem length_shown (w : Window) (lines : List Text) :
    (w.shown lines).length = (w.select lines).length := by
  rw [shown, length_numbered, dedent_eq_map, List.length_map]

theorem exists_split_of_getElem? {α : Type} {xs : List α} {k : Nat} {x : α}
    (h : xs[k]? = some x) :
    ∃ before after, xs = before ++ x :: after ∧ before.length = k ∧
      ∀ y ∈ before ++ after, ∃ i : Nat, i ≠ k ∧ xs[i]? = some y := by
  obtain ⟨hk, rfl⟩ := List.getElem?_eq_some_iff.1 h
  refine ⟨xs.take k, xs.drop (k + 1), ?_, ?_, ?_⟩
  · rw [List.getElem_cons_drop, List.take_append_drop]
  · rw [List.length_take]
    omega
  · intro y hy
    rw [← List.eraseIdx_eq_take_drop_succ] at hy
    exact List.mem_eraseIdx_iff_getElem?.1 hy

theorem finished_rows {lines : List Text} {before after : List (UInt64 × Text)}
    {x : UInt64 × Text} (h : w.shown lines = before ++ x :: after) :
    w.finished θ before.length (w.rows θ lines) =
      before.map (w.besideRow θ lines) ++ w.finishedRow θ (w.rowOf θ lines x) ::
        after.map (w.besideRow θ lines) := by
  rw [rows_eq_map_rowOf, h, List.map_append, List.map_cons, ← List.length_map (w.rowOf θ lines),
    finished_append, map_settled_rowOf, map_settled_rowOf]

/-! ## Where windows point -/

/-- A row in another place than that of the location is a single line and shows another line. -/
theorem besideRow_of_ne (hw : w.Legible octets) (hbounds : w.HoldsLine)
    (hi : i ≠ w.location.line.toNat - 1 - w.start.toNat) {x : UInt64 × Text}
    (h : (w.shown (sourceLines octets))[i]? = some x) :
    newline ∉ w.besideRow θ (sourceLines octets) x ∧
      ∃ n, n ≠ w.location.line ∧
        w.ShowsLine (sourceLines octets) false n [] (w.besideRow θ (sourceLines octets) x) := by
  obtain ⟨n, line⟩ := x
  obtain ⟨hlt, hnumber, -⟩ := of_getElem?_shown h
  have hne : n ≠ w.location.line := by
    intro heq
    exact hi ((number_eq_iff hbounds hlt).1 (hnumber.symm.trans heq))
  exact ⟨newline_notMem_settled (newline_notMem_rowOf h), n, hne,
    showsLine_besideRow hw h hne⟩

/-- **A window onto a file that has its line** points at the row of that line. -/
theorem exists_pointsAtRow (hw : w.Legible octets) (hbounds : w.HoldsLine) (hmark : w.mark = true)
    (hfile : v.files w.location.path = some octets)
    (hlines : (sourceLines octets).length < 2 ^ 63)
    (hline : w.location.line.toNat ≤ (sourceLines octets).length) :
    ∃ before row after, w.PointsAtRow v (sourceLines octets) before row after := by
  have htarget := target?_eq hbounds
  have hlt := (lt_length_select_iff hbounds hlines).2 hline
  -- the numbered lines before that of the location, that line, and those behind it
  obtain ⟨⟨n, line⟩, hget⟩ : ∃ x,
      (w.shown (sourceLines octets))[w.location.line.toNat - 1 - w.start.toNat]? = some x := by
    rw [← length_shown] at hlt
    exact ⟨_, List.getElem?_eq_getElem hlt⟩
  obtain rfl : n = w.location.line := by
    obtain ⟨-, hn, -⟩ := of_getElem?_shown hget
    exact hn.trans ((number_eq_iff hbounds hlt).2 rfl)
  obtain ⟨before, after, hshown, hlength, hbeside⟩ := exists_split_of_getElem? hget
  rw [← hlength] at htarget
  have hothers : ∀ other ∈ before.map (w.besideRow v.theme (sourceLines octets)) ++
      after.map (w.besideRow v.theme (sourceLines octets)), newline ∉ other ∧
        ∃ n, n ≠ w.location.line ∧ w.ShowsLine (sourceLines octets) false n [] other := by
    intro other hother
    rw [← List.map_append] at hother
    obtain ⟨x, hmem, rfl⟩ := List.mem_map.1 hother
    obtain ⟨i, hi, hx⟩ := hbeside x hmem
    exact besideRow_of_ne hw hbounds hi hx
  refine ⟨before.map (w.besideRow v.theme (sourceLines octets)),
    w.finishedRow v.theme (w.rowOf v.theme (sourceLines octets) (w.location.line, line)),
    after.map (w.besideRow v.theme (sourceLines octets)), ?_⟩
  constructor
  case render_eq =>
    rw [render_eq hfile htarget hw.tokenLine hw.messageLine, finished_rows hshown]
  case single =>
    intro r hr
    rcases List.mem_append.1 hr with hbefore | hr
    · exact (hothers r (List.mem_append_left _ hbefore)).1
    · rcases List.mem_cons.1 hr with rfl | hafter
      · exact newline_notMem_finishedRow hw.tokenLine hw.messageLine (newline_notMem_rowOf hget)
      · exact (hothers r (List.mem_append_right _ hafter)).1
  case marked => exact showsLine_finishedRow hw hmark hget
  case others => exact fun other hother => (hothers other hother).2
  case unmarked =>
    intro other hother n note hmarked
    obtain ⟨-, m, -, hshows⟩ := hothers other hother
    cases (hshows.unique hmarked).1
  case unlit =>
    -- the other rows do not depend on the token, so they are the same without it
    have hrender := render_eq (w := { w with highlight := some [] }) hfile htarget
      List.not_mem_nil hw.messageLine
    refine ⟨{ w with highlight := some [] }.finishedRow v.theme
      (w.rowOf v.theme (sourceLines octets) (w.location.line, line)), ?_, ?_⟩
    · exact newline_notMem_finishedRow List.not_mem_nil hw.messageLine (newline_notMem_rowOf hget)
    · rw [hrender, finished_rows (w := { w with highlight := some [] }) hshown]
      rfl

/-- **A window onto a file that is too short** points at no row. -/
theorem exists_pointsNowhere (hw : w.Legible octets) (hbounds : w.HoldsLine)
    (hfile : v.files w.location.path = some octets)
    (hlines : (sourceLines octets).length < 2 ^ 63)
    (hline : (sourceLines octets).length < w.location.line.toNat) :
    ∃ rows, w.PointsNowhere v (sourceLines octets) rows := by
  have htarget := target?_eq hbounds
  have hle : (w.select (sourceLines octets)).length ≤
      w.location.line.toNat - 1 - w.start.toNat := by
    rw [← Nat.not_lt, lt_length_select_iff hbounds hlines]
    omega
  have hlength : (w.rows v.theme (sourceLines octets)).length ≤
      w.location.line.toNat - 1 - w.start.toNat := by
    rwa [rows_eq_map_rowOf, List.length_map, length_shown]
  have hothers : ∀ row ∈ (w.rows v.theme (sourceLines octets)).map (w.settled v.theme),
      newline ∉ row ∧
        ∃ n, n ≠ w.location.line ∧ w.ShowsLine (sourceLines octets) false n [] row := by
    intro row hrow
    rw [rows_eq_map_rowOf, map_settled_rowOf] at hrow
    obtain ⟨⟨n, line⟩, hmem, rfl⟩ := List.mem_map.1 hrow
    obtain ⟨i, hi⟩ := List.mem_iff_getElem?.1 hmem
    have hlt : i < (w.select (sourceLines octets)).length := (of_getElem?_shown hi).1
    have hne : i ≠ w.location.line.toNat - 1 - w.start.toNat :=
      Nat.ne_of_lt (Nat.lt_of_lt_of_le hlt hle)
    exact besideRow_of_ne hw hbounds hne hi
  refine ⟨(w.rows v.theme (sourceLines octets)).map (w.settled v.theme), ?_⟩
  have hrender := render_eq hfile htarget hw.tokenLine hw.messageLine
  rw [finished_of_length_le hlength] at hrender
  constructor
  case render_eq => exact hrender
  case single => exact fun row hrow => (hothers row hrow).1
  case others => exact fun row hrow => (hothers row hrow).2
  case unmarked =>
    intro row hrow n note hmarked
    obtain ⟨-, m, -, hshows⟩ := hothers row hrow
    cases (hshows.unique hmarked).1
  case unlit =>
    have hunlit := render_eq (w := { w with highlight := some [] }) hfile htarget
      List.not_mem_nil hw.messageLine
    have hlength' : ({ w with highlight := some [] }.rows v.theme (sourceLines octets)).length ≤
        w.location.line.toNat - 1 - w.start.toNat := hlength
    rw [finished_of_length_le hlength'] at hunlit
    exact hunlit.trans hrender.symm

end Window

namespace Diagnosis

/-- **Every window of a report points at its own line**, whichever heuristic presents the failure.
Its line is counted from one and lies in its range. If the file has that line, one row is pointed at
and it is the row of that line; if the file is too short, none is. -/
theorem windows_point_at_their_line {raised : Raised} {site : RaiseSite} {f : Failure}
    (hread : Failure.ofRaised raised site = .ok f) (heuristic : Heuristic) (project : Project)
    {w : Window}
    (hw : w ∈ (Diagnosis.mk heuristic f project).windows.windows ∨
      w ∈ (Diagnosis.mk heuristic f project).backtrace.windows) :
    (1 ≤ w.location.line ∧ w.range.first ≤ 0 ∧ 0 ≤ w.range.last) ∧
      ∀ (v : View) (octets : Text.Octets), v.files w.location.path = some octets →
        (Window.sourceLines octets).length < 2 ^ 63 → raised.EscapeFree → site.EscapeFree →
        escape ∉ Text.Utf8.decode octets → (∀ message ∈ w.message, newline ∉ message) →
        (w.location.line.toNat ≤ (Window.sourceLines octets).length →
          ∃ before row after, w.PointsAtRow v (Window.sourceLines octets) before row after) ∧
        ((Window.sourceLines octets).length < w.location.line.toNat →
          ∃ rows, w.PointsNowhere v (Window.sourceLines octets) rows) := by
  have hasks : (Diagnosis.mk heuristic f project).Asks w := asks_of_mem_windows hw
  have hloc : f.Located := Failure.ofRaised_located hread
  have hline : w.location.line ≠ 0 := hasks.line_ne_zero hloc
  obtain ⟨hfirst, hlast⟩ := hasks.range_bounds
  have hbounds : w.HoldsLine := ⟨hline, hfirst, hlast⟩
  constructor
  · refine ⟨?_, hfirst, hlast⟩
    rw [UInt64.le_iff_toNat_le]
    exact hbounds.line_pos
  · intro v octets hfile hlines hraised hsite hsource hmessage
    have hf : f.EscapeFree := Failure.ofRaised_escapeFree hraised hsite hread
    have hlegible : w.Legible octets :=
      { source := hsource
        token := hasks.escape_notMem_token hloc hf
        message := hasks.escape_notMem_message hf
        tokenLine := hasks.newline_notMem_token hloc hmessage
        messageLine := hmessage }
    constructor
    · exact Window.exists_pointsAtRow hlegible hbounds hasks.mark_eq_true hfile hlines
    · exact Window.exists_pointsNowhere hlegible hbounds hfile hlines

/-- An undefined method, in a file with the line and in one without. -/
theorem windows_point_at_their_line_undefined :
    let w : Window := {
      location := ⟨⟨"a.rb".toList⟩, 2, "m".toList⟩
      range := around
      highlight := some "foo".toList
      message := some "foo is undefined".toList }
    (∃ before row after, w.PointsAtRow ⟨{}, .empty, fun _ => some [120, 10, 32, 102, 111, 111]⟩
      (Window.sourceLines [120, 10, 32, 102, 111, 111]) before row after) ∧
    ∃ rows, w.PointsNowhere ⟨{}, .empty, fun _ => some [120, 10]⟩
      (Window.sourceLines [120, 10]) rows := by
  intro w
  have hread : Failure.ofRaised ⟨"NoMethodError".toList,
      some "undefined method 'foo' for nil".toList, some ["a.rb:2:in 'm'".toList]⟩ {} =
        .ok ⟨"NoMethodError".toList, "undefined method 'foo' for nil".toList,
          [⟨⟨"a.rb".toList⟩, 2, "m".toList⟩], .undefinedMethod "foo".toList⟩ := by rfl
  have hw := (windows_point_at_their_line hread .noMethodError {} (w := w)
    (.inl (List.mem_singleton_self w))).2
  have hraised : Raised.EscapeFree ⟨"NoMethodError".toList,
      some "undefined method 'foo' for nil".toList, some ["a.rb:2:in 'm'".toList]⟩ :=
    ⟨by decide, by decide, by decide⟩
  have hsite : RaiseSite.EscapeFree {} := fun _ h => by cases h
  constructor
  · exact (hw ⟨{}, .empty, fun _ => some [120, 10, 32, 102, 111, 111]⟩ _ rfl (by decide) hraised
      hsite (by decide) (by decide)).1 (by decide)
  · exact (hw ⟨{}, .empty, fun _ => some [120, 10]⟩ _ rfl (by decide) hraised hsite (by decide)
      (by decide)).2 (by decide)

end Diagnosis

end ErrorReport
