/-
# ErrorReport.Proofs.Rows — how the rows of a window are made.

A window selects lines of a file, takes off the indentation they share, colours and numbers them
(`rows_eq`), and writes the message on one row (`annotate_eq`). What a row shows is its gutter and
what the file says on its line, from some character on before which there is only indentation
(`shows_row`, `exists_indent`).
-/
import ErrorReport.Window.Render
import ErrorReport.Proofs.Indentation
import ErrorReport.Proofs.Path
import ErrorReport.Proofs.Shows

namespace ErrorReport.Window

open Text (escape newline)
open Terminal (Theme Shows)

/-! ## The header -/

theorem notMem_directoryFrom {c : Char} (hslash : c ≠ Path.separator) (hdot : c ≠ '.')
    {base path : Path} (hbase : c ∉ base.text) (hpath : c ∉ path.text) :
    c ∉ (directoryFrom base path).text := by
  have hwhole : c ∉ (base.join path).text := Path.notMem_join hslash hbase hpath
  have hparent : c ∉ ((base.join path).parent?.getD .empty).text := by
    cases h : (base.join path).parent? with
    | none => exact List.not_mem_nil
    | some parent => exact Path.notMem_parent? hslash hwhole h
  unfold directoryFrom
  dsimp only
  split
  · next below hbelow =>
    split
    · simpa [Path.here] using hdot
    · exact Path.notMem_relativeTo? hslash hparent hbelow
  · exact hparent

/-! ## Source lines -/

theorem newline_notMem_of_mem_sourceLines {octets : Text.Octets} {line : Text}
    (h : line ∈ sourceLines octets) : newline ∉ line := by
  obtain ⟨whole, -, rfl⟩ := List.mem_map.1 h
  exact Text.newline_notMem_body whole

theorem subset_of_mem_sourceLines {octets : Text.Octets} {line : Text}
    (h : line ∈ sourceLines octets) : line ⊆ Text.Utf8.decode octets := by
  obtain ⟨whole, hwhole, rfl⟩ := List.mem_map.1 h
  exact List.Subset.trans (Text.body_subset whole) (Text.subset_of_mem_lines hwhole)

theorem mem_of_mem_select {w : Window} {lines : List Text} {line : Text}
    (h : line ∈ w.select lines) : line ∈ lines :=
  (List.drop_sublist _ _).subset ((List.take_sublist _ _).subset h)

/-! ## Numbered rows -/

/-- Numbering does not look at the lines. -/
theorem numbered_map (f : Text → Text) (n : UInt64) (lines : List Text) :
    numbered n (lines.map f) = (numbered n lines).map fun (n, line) => (n, f line) := by
  induction lines generalizing n with
  | nil => rfl
  | cons line lines ih => rw [List.map_cons, numbered, numbered, ih, List.map_cons]

theorem mem_of_mem_numbered {n m : UInt64} {line : Text} {lines : List Text}
    (h : (m, line) ∈ numbered n lines) : line ∈ lines := by
  induction lines generalizing n with
  | nil => cases h
  | cons first lines ih =>
    rcases List.mem_cons.1 h with h | h
    · obtain ⟨-, rfl⟩ := Prod.mk.inj h
      exact List.mem_cons_self ..
    · exact List.mem_cons_of_mem _ (ih h)

theorem length_numbered (n : UInt64) (lines : List Text) :
    (numbered n lines).length = lines.length := by
  induction lines generalizing n with
  | nil => rfl
  | cons line lines ih => rw [numbered, List.length_cons, ih, List.length_cons]

theorem getElem?_numbered (n : UInt64) (lines : List Text) (i : Nat) :
    (numbered n lines)[i]? = lines[i]?.map fun line => (n + UInt64.ofNat i, line) := by
  induction lines generalizing n i with
  | nil => rfl
  | cons line lines ih =>
    cases i with
    | zero => simp [numbered]
    | succ i =>
      rw [numbered, List.getElem?_cons_succ, List.getElem?_cons_succ, ih]
      have : n + 1 + UInt64.ofNat i = n + UInt64.ofNat (i + 1) := by
        rw [UInt64.ofNat_add, UInt64.add_assoc, UInt64.add_comm 1]
        rfl
      rw [this]

/-- The lines that a window shows, without the indentation they share, with their numbers. -/
def shown (w : Window) (lines : List Text) : List (UInt64 × Text) :=
  numbered w.firstLine (dedent (w.select lines))

/-- How wide the gutter of a window onto a file is. -/
def width (w : Window) (lines : List Text) : Nat :=
  gutterWidth w.firstLine (w.select lines).length

/-- **The rows of a window** are its numbered lines, coloured. -/
theorem rows_eq (θ : Theme) (w : Window) (lines : List Text) :
    w.rows θ lines =
      (w.shown lines).map fun (n, line) => w.row θ (w.width lines) n (θ.coloured line) := by
  have hlength : ((dedent (w.select lines)).map θ.coloured).length = (w.select lines).length := by
    rw [List.length_map, dedent_eq_map, List.length_map]
  unfold rows
  dsimp only
  rw [hlength, numbered_map, List.map_map]
  rfl

/-- What a window shows is a part of a line of the file. -/
theorem exists_of_mem_shown {w : Window} {lines : List Text} {n : UInt64} {line : Text}
    (h : (n, line) ∈ w.shown lines) : ∃ source ∈ lines, line ⊆ source := by
  have hline := mem_of_mem_numbered h
  rw [dedent_eq_map] at hline
  obtain ⟨source, hsource, rfl⟩ := List.mem_map.1 hline
  exact ⟨source, mem_of_mem_select hsource, outdented_subset _ source⟩

theorem notMem_of_mem_shown {w : Window} {octets : Text.Octets} {n : UInt64} {line : Text}
    {c : Char} (hsource : c ∉ Text.Utf8.decode octets) (h : (n, line) ∈ w.shown (sourceLines octets)) :
    c ∉ line := by
  obtain ⟨source, hmem, hsub⟩ := exists_of_mem_shown h
  exact fun hc => hsource (subset_of_mem_sourceLines hmem (hsub hc))

/-! ## The message -/

/-- A row with the message of a window behind it. -/
def noted (θ : Theme) (w : Window) (row : Text) : Text :=
  match w.message with
  | some message => row ++ ' ' :: θ.paint .scream message
  | none => row

/-- **The message is written on one row**, that of the location. -/
theorem annotate_eq (θ : Theme) (w : Window) (rows : List Text) :
    w.annotate θ rows =
      match w.target? with
      | some target => rows.modify target (w.noted θ)
      | none => rows := by
  unfold annotate
  cases w.target? with
  | none => rfl
  | some target =>
    cases hmessage : w.message with
    | none =>
      have : w.noted θ = fun row => row := by
        funext row
        simp only [noted, hmessage]
      rw [this]
      exact (List.modify_id target rows).symm
    | some message =>
      have : w.noted θ = fun row => row ++ ' ' :: θ.paint .scream message := by
        funext row
        simp only [noted, hmessage]
      rw [this]
      exact Text.mapIdx_ite_eq_modify _ target rows

/-- What becomes of a row when the message is written. -/
theorem getElem?_annotate (θ : Theme) (w : Window) (rows : List Text) (k : Nat) :
    (w.annotate θ rows)[k]? =
      rows[k]?.map fun row => if w.target? = some k then w.noted θ row else row := by
  rw [annotate_eq]
  cases w.target? with
  | none => simp
  | some target =>
    dsimp only
    rw [List.getElem?_modify, Option.map_eq_map]
    congr 1
    funext row
    simp only [Option.some.injEq]

/-! ## What rows show -/

theorem notMem_gutter {c : Char} (hmarks : c ∉ "-> :".toList) (hdigit : c.isDigit = false)
    (width : Nat) (marked : Bool) (n : UInt64) : c ∉ gutter width marked n := by
  obtain ⟨hhyphen, harrow, hspace, hcolon⟩ : c ≠ '-' ∧ c ≠ '>' ∧ c ≠ ' ' ∧ c ≠ ':' := by
    simpa using hmarks
  have hlead : c ∉ (if marked then "-> ".toList else "   ".toList) := by
    cases marked with
    | false => simpa using hspace
    | true => simpa using ⟨hhyphen, harrow, hspace⟩
  have hnumber : c ∉ Text.ofNat n.toNat := Text.notMem_ofNat hdigit _
  have hpadding : ∀ k, c ∉ List.replicate k ' ' := fun k hmem =>
    hspace (List.eq_of_mem_replicate hmem)
  have hend : c ∉ [':'] := by simpa using hcolon
  exact List.not_mem_append (List.not_mem_append (List.not_mem_append hlead hnumber) hend)
    (hpadding _)

/-- A numbered line as the plain theme writes it. -/
def plainRow (w : Window) (width : Nat) (n : UInt64) (line : Text) : Text :=
  gutter width (w.mark && n = w.location.line) n ++ ' ' :: line

/-- What the plain theme writes behind the row of the location. -/
def plainNote (w : Window) : Text := w.message.elim [] (' ' :: ·)

/-- **A row is shown as its gutter and its line.** -/
theorem shows_row (θ : Theme) (w : Window) {line : Text} (width : Nat) (n : UInt64)
    (h : escape ∉ line) :
    Shows θ (w.row θ width n (θ.coloured line)) (w.plainRow width n line) := by
  have hgutter : escape ∉ gutter width (w.mark && n = w.location.line) n :=
    notMem_gutter (by decide) (by decide) width _ n
  have hline : Shows θ (' ' :: θ.coloured line) (' ' :: line) :=
    (Shows.coloured h).cons (by decide)
  unfold row plainRow
  dsimp only
  split
  · exact (((Shows.refl hgutter).paint _).paint _).append hline
  · exact ((Shows.refl hgutter).paint _).append hline

theorem shows_noted {θ : Theme} {w : Window} {a p : Text}
    (hmessage : ∀ message ∈ w.message, escape ∉ message) (h : Shows θ a p) :
    Shows θ (w.noted θ a) (p ++ w.plainNote) := by
  unfold noted plainNote
  cases hsome : w.message with
  | none => simpa using h
  | some message =>
    have hclean := hmessage message hsome
    exact h.append (((Shows.refl hclean).paint .scream).cons (by decide))

end ErrorReport.Window
