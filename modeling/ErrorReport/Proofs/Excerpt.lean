/-
# ErrorReport.Proofs.Excerpt — what stands under the heading of a window.

A window uses its path twice. The header shows where the file lies as seen from the current
directory, so a relative path and the same path joined onto that directory have one header, if the
path has a step at all (`header_onto_join_iff`). The excerpt below it is read from the path as it is
written, and the current directory has no part in that. So the excerpt under the header of a
relative path is that of the file which the header names exactly if the same lines are found at both
paths.

That only the lines matter is a property of the code (`excerpt_congr`); that they can be told from
the text holds where nothing that is shown has an escape character and the rows are single lines
(`shown?_of_excerpt`). Without its sequences an excerpt is then a block of plain rows, and the
gutters of two windows with the same lines are equally wide.
-/
import ErrorReport.Proofs.Header
import ErrorReport.Proofs.Locality
import ErrorReport.Proofs.Placeholder
import ErrorReport.Proofs.Themes

namespace ErrorReport

open Text (escape newline unlines)
open Terminal (Theme Shows strip)

/-- **A block of single lines can be read back.** -/
theorem Text.unlines_inj {rows rows' : List Text} (hrows : ∀ row ∈ rows, newline ∉ row)
    (hrows' : ∀ row ∈ rows', newline ∉ row) (h : unlines rows = unlines rows') : rows = rows' := by
  have hlines : rows.map (· ++ [newline]) = rows'.map (· ++ [newline]) := by
    rw [← Text.lines_unlines hrows, h, Text.lines_unlines hrows']
  exact List.map_injective_iff.2 (List.append_left_injective _) hlines

namespace Window

variable {θ : Theme} {v : View} {w : Window} {files files' : Files} {lines lines' : List Text}

/-! ## Excerpts -/

/-- What stands under the heading of a window. -/
def excerpt (v : View) (w : Window) : Text :=
  match w.emphasis with
  | .code => w.block v
  | .path => w.pointOut v.theme (v.theme.faded (Theme.indented margin (w.block v)))

/-- A window is its heading and its excerpt. -/
theorem render_eq_excerpt (v : View) (w : Window) :
    w.render v = w.heading v ++ newline :: w.excerpt v := by
  unfold render heading excerpt
  cases w.emphasis <;> rfl

/-- The numbered lines that a window shows, if its file can be read. -/
def shown? (files : Files) (w : Window) : Option (List (UInt64 × Text)) :=
  (files w.location.path).map fun octets => w.shown (sourceLines octets)

/-- The rows are made of the lines shown: their number tells how wide the gutter is. -/
theorem rows_congr_shown (θ : Theme) (h : w.shown lines = w.shown lines') :
    w.rows θ lines = w.rows θ lines' := by
  have hwidth : w.width lines = w.width lines' := by
    rw [width, width, ← length_shown, ← length_shown, h]
  rw [rows_eq, rows_eq, h, hwidth]

/-- **An excerpt depends only on the lines shown.** The current directory does not matter. -/
theorem excerpt_congr (θ : Theme) (directory directory' : Path)
    (h : w.shown? files = w.shown? files') :
    w.excerpt ⟨θ, directory, files⟩ = w.excerpt ⟨θ, directory', files'⟩ := by
  have hblock : w.block ⟨θ, directory, files⟩ = w.block ⟨θ, directory', files'⟩ := by
    unfold shown? at h
    unfold block
    dsimp only
    cases hfile : files w.location.path with
    | none =>
      rw [hfile, Option.map_none, eq_comm, Option.map_eq_none_iff] at h
      rw [h]
    | some octets =>
      rw [hfile, Option.map_some, eq_comm, Option.map_eq_some_iff] at h
      obtain ⟨octets', hfile', hshown⟩ := h
      rw [hfile']
      dsimp only
      rw [rows_congr_shown θ hshown]
  unfold excerpt
  rw [hblock]

/-! ## Reading lines back from an excerpt -/

/-- What a window shows is legible, if its file can be read. -/
def LegibleIn (files : Files) (w : Window) : Prop :=
  ∀ octets, files w.location.path = some octets → w.Legible octets

/-- The rows of a block as the plain theme writes them. -/
def plainBlock (files : Files) (w : Window) : List Text :=
  match files w.location.path with
  | some octets => w.plainRows (sourceLines octets)
  | none => [placeholderLine]

/-- A plain row is its number and its line, and the message behind it in the place of the
location. -/
theorem getElem?_plainRows (lines : List Text) (i : Nat) :
    (w.plainRows lines)[i]? = (dedent (w.select lines))[i]?.map fun line =>
      w.plainRow (w.width lines) (w.firstLine + UInt64.ofNat i) line ++
        if w.target? = some i then w.plainNote else [] := by
  unfold plainRows
  cases w.target? with
  | none =>
    simp [shown, getElem?_numbered, Function.comp_def]
  | some target =>
    by_cases hi : target = i <;> simp [shown, getElem?_numbered, Function.comp_def, hi]

theorem newline_notMem_plainRows {octets : Text.Octets}
    (hmessage : ∀ message ∈ w.message, newline ∉ message) :
    ∀ row ∈ w.plainRows (sourceLines octets), newline ∉ row := by
  intro row hrow
  obtain ⟨i, hi⟩ := List.mem_iff_getElem?.1 hrow
  rw [getElem?_plainRows, Option.map_eq_some_iff] at hi
  obtain ⟨line, hline, rfl⟩ := hi
  have hbody : newline ∉ line := by
    have hmem := List.mem_of_getElem? hline
    rw [dedent_eq_map] at hmem
    obtain ⟨source, hsource, rfl⟩ := List.mem_map.1 hmem
    exact fun hin => newline_notMem_of_mem_sourceLines (mem_of_mem_select hsource)
      (outdented_subset _ source hin)
  have hgutter : newline ∉ gutter (w.width (sourceLines octets))
      (w.mark && decide (w.firstLine + UInt64.ofNat i = w.location.line))
      (w.firstLine + UInt64.ofNat i) := notMem_gutter (by decide) (by decide) _ _ _
  have hnote : newline ∉ w.plainNote := by
    unfold plainNote
    cases hsome : w.message with
    | none => exact List.not_mem_nil
    | some message => exact List.not_mem_cons_of_ne_of_not_mem (by decide) (hmessage message hsome)
  refine List.not_mem_append (List.not_mem_append hgutter ?_) ?_
  · exact List.not_mem_cons_of_ne_of_not_mem (by decide) hbody
  · split
    · exact hnote
    · exact List.not_mem_nil

/-- **Plain rows tell the lines shown.** There are as many of them, so the gutters are equally wide,
and behind a gutter stands the line. -/
theorem shown_of_plainRows (h : w.plainRows lines = w.plainRows lines') :
    w.shown lines = w.shown lines' := by
  have hcount (lines : List Text) : (w.plainRows lines).length = (w.select lines).length := by
    rw [← length_shown]
    unfold plainRows
    cases w.target? <;> simp
  have hwidth : w.width lines = w.width lines' := by
    rw [width, width, ← hcount, ← hcount, h]
  have hdedent : dedent (w.select lines) = dedent (w.select lines') := by
    apply List.ext_getElem?
    intro i
    have hi : (w.plainRows lines)[i]? = (w.plainRows lines')[i]? := by rw [h]
    rw [getElem?_plainRows, getElem?_plainRows, hwidth] at hi
    refine Option.map_injective (fun line line' hrow => ?_) hi
    have hplain := List.append_cancel_right hrow
    exact (List.cons.inj (List.append_cancel_left hplain)).2
  rw [shown, shown, hdedent]

/-- No plain row looks like the placeholder: it starts with an arrow or with the room for it. -/
theorem plainRows_ne_placeholder : w.plainRows lines ≠ [placeholderLine] := by
  intro h
  have hfirst : (w.plainRows lines)[0]? = some placeholderLine := by
    rw [h]
    rfl
  rw [getElem?_plainRows, Option.map_eq_some_iff] at hfirst
  obtain ⟨line, -, hrow⟩ := hfirst
  have hletter : placeholderLine.head? = some 'C' := by rfl
  have hhead (width : Nat) (marked : Bool) (n : UInt64) (rest : Text) :
      (gutter width marked n ++ rest).head? ≠ some 'C' := by
    cases marked <;> simp [gutter]
  rw [plainRow, List.append_assoc] at hrow
  exact hhead _ _ _ _ ((congrArg List.head? hrow).trans hletter)

theorem shown?_of_plainBlock (h : w.plainBlock files = w.plainBlock files') :
    w.shown? files = w.shown? files' := by
  unfold plainBlock at h
  unfold shown?
  generalize files w.location.path = file at h ⊢
  generalize files' w.location.path = file' at h ⊢
  cases file with
  | none =>
    cases file' with
    | none => rfl
    | some octets' => exact absurd h.symm plainRows_ne_placeholder
  | some octets =>
    cases file' with
    | none => exact absurd h plainRows_ne_placeholder
    | some octets' => exact congrArg some (shown_of_plainRows h)

theorem newline_notMem_plainBlock (hw : w.LegibleIn files) :
    ∀ row ∈ w.plainBlock files, newline ∉ row := by
  unfold plainBlock
  cases hfile : files w.location.path with
  | none => exact List.forall_mem_singleton.2 (by decide)
  | some octets => exact newline_notMem_plainRows (hw octets hfile).messageLine

theorem shows_plainBlock (hw : w.LegibleIn v.files) :
    Shows v.theme (w.block v) (unlines (w.plainBlock v.files)) := by
  unfold block plainBlock
  cases hfile : v.files w.location.path with
  | none => exact Shows.refl (show escape ∉ placeholder by decide)
  | some octets =>
    have hlegible := hw octets hfile
    have hlines : ∀ line ∈ sourceLines octets, escape ∉ line := fun line hline hmem =>
      hlegible.source (subset_of_mem_sourceLines hline hmem)
    exact shows_pointOut hlegible.token (Shows.unlines (shows_annotate hlines hlegible.message))

/-- **What an excerpt shows** are the rows of the plain block, moved to the right where only the
path matters. -/
theorem strip_excerpt (hw : w.LegibleIn v.files) (htoken : escape ∉ w.token)
    (htokenLine : newline ∉ w.token) :
    strip (w.excerpt v) = unlines ((w.plainBlock v.files).map (w.lead ++ ·)) := by
  have hblock := shows_plainBlock hw
  unfold excerpt lead
  cases w.emphasis with
  | code =>
    simp only [List.nil_append, List.map_id']
    exact hblock.strip_eq
  | path =>
    have hindented := hblock.indented (show escape ∉ margin by decide) (isBlock_block htokenLine)
    rw [Theme.indented, Theme.indented,
      Text.mapLines_unlines margin (newline_notMem_plainBlock hw)] at hindented
    exact (shows_pointOut htoken hindented.faded).strip_eq

/-- Plain blocks that look alike behind the lead of a window are the same. -/
theorem plainBlock_inj_of_lead (hw : w.LegibleIn files) (hw' : w.LegibleIn files')
    (h : unlines ((w.plainBlock files).map (w.lead ++ ·)) =
      unlines ((w.plainBlock files').map (w.lead ++ ·))) :
    w.plainBlock files = w.plainBlock files' := by
  have hlead : newline ∉ w.lead := by
    unfold lead
    cases w.emphasis <;> decide
  have hsingle {rows : List Text} (hrows : ∀ row ∈ rows, newline ∉ row) :
      ∀ row ∈ rows.map (w.lead ++ ·), newline ∉ row :=
    List.forall_mem_map.2 fun row hrow => List.not_mem_append hlead (hrows row hrow)
  have hmoved := Text.unlines_inj (hsingle (newline_notMem_plainBlock hw))
    (hsingle (newline_notMem_plainBlock hw')) h
  exact List.map_injective_iff.2 (List.append_right_injective _) hmoved

/-- **An excerpt tells the lines shown**, if all that is shown of both files is legible. -/
theorem shown?_of_excerpt {directory directory' : Path} (hw : w.LegibleIn files)
    (hw' : w.LegibleIn files')
    (h : w.excerpt ⟨θ, directory, files⟩ = w.excerpt ⟨θ, directory', files'⟩) :
    w.shown? files = w.shown? files' := by
  by_cases hread : ∃ octets, w.Legible octets
  · -- the token is legible with any file
    obtain ⟨octets, hlegible⟩ := hread
    have hstrip := congrArg strip h
    rw [strip_excerpt hw hlegible.token hlegible.tokenLine,
      strip_excerpt hw' hlegible.token hlegible.tokenLine] at hstrip
    exact shown?_of_plainBlock (plainBlock_inj_of_lead hw hw' hstrip)
  · -- neither file can be read
    have hnone : files w.location.path = none :=
      Option.eq_none_iff_forall_not_mem.2 fun octets hfile => hread ⟨octets, hw octets hfile⟩
    have hnone' : files' w.location.path = none :=
      Option.eq_none_iff_forall_not_mem.2 fun octets hfile => hread ⟨octets, hw' octets hfile⟩
    rw [shown?, shown?, hnone, hnone']

/-! ## Relative paths -/

/-- The same window onto another file. -/
def onto (w : Window) (path : Path) : Window :=
  { w with location := { w.location with path := path } }

theorem block_onto (v : View) (w : Window) (path : Path) :
    (w.onto path).block v = w.block { v with files := fun _ => v.files path } := by
  have hpath : (w.onto path).location.path = path := rfl
  have htarget : (w.onto path).target? = w.target? := rfl
  have htoken : (w.onto path).token = w.token := rfl
  have hrows : (w.onto path).rows v.theme = w.rows v.theme := rfl
  have hnoted : (w.onto path).noted v.theme = w.noted v.theme := rfl
  unfold block pointOut
  simp only [annotate_eq]
  rw [hpath, htarget, htoken, hrows, hnoted]

/-- The excerpt of a window onto another file is that of the window, with this file read. -/
theorem excerpt_onto (v : View) (w : Window) (path : Path) :
    (w.onto path).excerpt v = w.excerpt { v with files := fun _ => v.files path } := by
  have hemphasis : (w.onto path).emphasis = w.emphasis := rfl
  have htarget : (w.onto path).target? = w.target? := rfl
  have htoken : (w.onto path).token = w.token := rfl
  unfold excerpt pointOut
  rw [hemphasis, htarget, htoken, block_onto]

theorem LegibleIn.of_onto {path : Path} (hw : (w.onto path).LegibleIn files) :
    w.LegibleIn fun _ => files path := by
  intro octets hfile
  obtain ⟨hsource, htoken, hmessage, htokenLine, hmessageLine⟩ := hw octets hfile
  exact ⟨hsource, htoken, hmessage, htokenLine, hmessageLine⟩

/-- A path is shown in its directory, and joined onto the directory in the same one. -/
theorem directoryFrom_join {base path : Path} (hbase : base.isAbsolute = true) :
    directoryFrom base (base.join path) = directoryFrom base path := by
  rw [directoryFrom, directoryFrom, Path.join_of_isAbsolute (Path.isAbsolute_join hbase path)]

/-- A path without steps is at most a slash or a dot and names no file. -/
theorem fileName_of_no_steps {path : Path} (h : Path.steps path.text = []) :
    path.fileName = [] := by
  have hhead : path.headComponents = [] ∨ path.headComponents = [.here] ∨
      path.headComponents = [.root] := by
    unfold Path.headComponents
    split <;> simp
  rw [Path.fileName, Path.components_eq, h, List.append_nil]
  rcases hhead with h | h | h <;> rw [h] <;> rfl

/-- Joining a relative path onto a directory keeps its file name, if the path has a step or the
directory has no name to take instead. -/
theorem fileName_join_iff {base path : Path} (hbase : base.isAbsolute = true)
    (hpath : path.isAbsolute = false) :
    (base.join path).fileName = path.fileName ↔
      Path.steps path.text ≠ [] ∨ base.fileName = [] := by
  have hjoin := Path.components_join (Path.text_ne_nil_of_isAbsolute hbase) hpath
  by_cases hsteps : Path.steps path.text = []
  · rw [fileName_of_no_steps hsteps, Path.fileName, hjoin, hsteps, List.append_nil, ← Path.fileName]
    exact ⟨.inr, fun h => h.resolve_left (not_not.2 rfl)⟩
  · have hname : (base.join path).fileName = path.fileName := by
      rw [Path.fileName, Path.fileName, hjoin, Path.components_eq path,
        List.getLast?_append_of_ne_nil _ hsteps, List.getLast?_append_of_ne_nil _ hsteps]
    exact iff_of_true hname (.inl hsteps)

/-- **The header of a relative path** is that of the path joined onto the current directory, exactly
if the path has a step or the directory is the root or ends by going up. -/
theorem header_onto_join_iff (hdirectory : v.directory.isAbsolute = true)
    (hpath : w.location.path.isAbsolute = false) :
    header v w.location = header v (w.onto (v.directory.join w.location.path)).location ↔
      Path.steps w.location.path.text ≠ [] ∨ v.directory.fileName = [] := by
  rw [← fileName_join_iff hdirectory hpath]
  have hfrom : directoryFrom v.directory (v.directory.join w.location.path) =
      directoryFrom v.directory w.location.path := directoryFrom_join hdirectory
  constructor
  · intro h
    obtain ⟨hshown, -⟩ := header_inj h
    have htext := congrArg Path.text hshown
    simp only [shownPath, onto, hfrom] at htext
    exact (List.cons.inj (List.append_cancel_left htext)).2.symm
  · intro hname
    simp only [header, Location.fileName, onto, hfrom, hname]

/-- **A relative path is read as it is written.** Its header is that of the path joined onto the
current directory, but for a path without steps. Its excerpt does not depend on the directory: it is
the excerpt of the joined path if the same lines are shown of what is found at the two paths. Where
all that is shown is legible, it is so in no other case. -/
theorem relative_path_read_as_written {v : View} {w : Window}
    (hdirectory : v.directory.isAbsolute = true) (hpath : w.location.path.isAbsolute = false) :
    let joined := w.onto (v.directory.join w.location.path)
    (header v w.location = header v joined.location ↔
      Path.steps w.location.path.text ≠ [] ∨ v.directory.fileName = []) ∧
    (∀ directory, w.excerpt { v with directory := directory } = w.excerpt v) ∧
    (w.shown? v.files = joined.shown? v.files → w.excerpt v = joined.excerpt v) ∧
    (w.LegibleIn v.files → joined.LegibleIn v.files →
      w.excerpt v = joined.excerpt v → w.shown? v.files = joined.shown? v.files) := by
  intro joined
  refine ⟨header_onto_join_iff hdirectory hpath, fun directory => excerpt_congr _ _ _ rfl, ?_, ?_⟩
  · intro h
    rw [excerpt_onto]
    exact excerpt_congr _ _ _ h
  · intro hw hjoined h
    rw [excerpt_onto] at h
    exact shown?_of_excerpt hw hjoined.of_onto h

/-- A relative path, with a copy of its lines where the header says, and with lines only there. -/
theorem relative_path_read_as_written_copied :
    let w : Window := { location := ⟨⟨"lib/a.rb".toList⟩, 1, "m".toList⟩, range := ⟨0, 0⟩ }
    let joined : Window := w.onto ⟨"/app/lib/a.rb".toList⟩
    let copied : View := ⟨{}, ⟨"/app".toList⟩, fun path =>
      if path = joined.location.path then some [102] else some [32, 102, 10]⟩
    let moved : View := ⟨{}, ⟨"/app".toList⟩, fun path =>
      if path = joined.location.path then some [102] else none⟩
    (header copied w.location = header copied joined.location ∧
        w.excerpt copied = joined.excerpt copied) ∧
      header moved w.location = header moved joined.location ∧
        w.excerpt moved ≠ joined.excerpt moved := by
  intro w joined copied moved
  have hsteps : Path.steps w.location.path.text ≠ [] := by decide
  constructor
  · obtain ⟨hheader, -, hsame, -⟩ :=
      relative_path_read_as_written (v := copied) (w := w) (by decide) (by decide)
    exact ⟨hheader.2 (.inl hsteps), hsame (by decide)⟩
  · obtain ⟨hheader, -, -, hshown⟩ :=
      relative_path_read_as_written (v := moved) (w := w) (by decide) (by decide)
    have hmissing : moved.files w.location.path = none := by decide
    have hw : w.LegibleIn moved.files := fun octets hfile => by
      rw [hmissing] at hfile
      cases hfile
    have hjoined : joined.LegibleIn moved.files := by
      intro octets hfile
      obtain rfl : [102] = octets := Option.some.inj hfile
      exact ⟨by decide, by decide, by simp [joined, onto, w], by decide, by simp [joined, onto, w]⟩
    exact ⟨hheader.2 (.inl hsteps), fun h => absurd (hshown hw hjoined h) (by decide)⟩

/-- **The file that the header names need not be the one that is read.** A file that lies below the
current directory only is not shown under its relative path. -/
theorem joined_path_not_read :
    ¬ ∀ (v : View) (w : Window), v.directory.isAbsolute = true →
      w.location.path.isAbsolute = false →
      w.render v = (w.onto (v.directory.join w.location.path)).render v := by
  intro hsame
  let w : Window := { location := ⟨⟨"lib/a.rb".toList⟩, 1, "m".toList⟩, range := ⟨0, 0⟩ }
  let v : View := ⟨{ name := .plain }, ⟨"/app".toList⟩, fun path =>
    if path = ⟨"/app/lib/a.rb".toList⟩ then some [102, 111, 111, 10] else none⟩
  exact absurd (hsame v w (by decide) (by decide)) (by decide)

end Window

end ErrorReport
