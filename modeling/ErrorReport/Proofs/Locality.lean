/-
# ErrorReport.Proofs.Locality — a report depends only on the source lines it shows.

The indentation that is taken off, the width of the gutter, the numbers, the colours and the place
of the highlight are all computed from the lines that a window selects. So two machines whose files
agree on those lines show the same report, whatever else is in the files.

`SameSource` is that agreement, line by line; `select_eq_iff` says that it holds exactly if the same
lines are selected. Everything after the selection is a function of it (`block_congr`,
`render_congr`), and a tree is made of its windows (`Node.render_congr`). No diagnosis looks at a
file, so the windows of an explained exception are the same on both machines.
-/
import ErrorReport.Proofs.Bounds
import ErrorReport.Proofs.Explain
import ErrorReport.Proofs.Lines
import ErrorReport.Proofs.Tree

namespace ErrorReport

open Text (newline)

/-! ## Source lines -/

/-- A newline at the end of a text finishes its last line and starts no new one. -/
theorem Text.map_body_lines_append_newline {t : Text} (hlast : ∃ c ∈ t.getLast?, c ≠ newline) :
    (Text.lines (t ++ [newline])).map Text.body = (Text.lines t).map Text.body := by
  induction t using Text.lineInduction with
  | nil =>
    obtain ⟨c, hc, -⟩ := hlast
    cases hc
  | last b hne hb =>
    rw [Text.lines_append_newline hb, Text.lines_of_notMem hb hne, Text.lines]
    simp only [List.map_cons, List.map_nil]
    rw [Text.body_append_newline hb, Text.body_of_notMem hb]
  | line b t hb ih =>
    have hlast : ∃ c ∈ t.getLast?, c ≠ newline := by
      obtain ⟨c, hc, hne⟩ := hlast
      cases t with
      | nil =>
        rw [List.getLast?_concat, Option.mem_some_iff] at hc
        exact absurd hc.symm hne
      | cons d t =>
        rw [List.getLast?_append_cons, List.getLast?_cons_cons] at hc
        exact ⟨c, hc, hne⟩
    rw [List.append_assoc, List.cons_append, Text.lines_append_newline hb,
      Text.lines_append_newline hb, List.map_cons, List.map_cons, ih hlast]

namespace Window

/-- What the source of a file says does not depend on whether its last line is finished. -/
theorem sourceLines_append_newline {octets octets' : Text.Octets}
    (hlast : ∃ c ∈ (Text.Utf8.decode octets).getLast?, c ≠ newline)
    (hdecode : Text.Utf8.decode octets' = Text.Utf8.decode octets ++ [newline]) :
    sourceLines octets' = sourceLines octets := by
  rw [sourceLines, hdecode, Text.map_body_lines_append_newline hlast, sourceLines]

/-! ## The lines shown -/

/-- **Selecting looks at the lines shown** and at no others. -/
theorem select_eq_iff {w : Window} {lines lines' : List Text} :
    w.select lines = w.select lines' ↔
      ∀ i, w.start.toNat ≤ i → i ≤ w.stop.toNat → lines[i]? = lines'[i]? := by
  have hcount := w.toNat_count
  constructor
  · intro h i hstart hstop
    have hi : (w.select lines)[i - w.start.toNat]? = (w.select lines')[i - w.start.toNat]? := by
      rw [h]
    rwa [select, select, List.getElem?_take_of_lt (by omega), List.getElem?_take_of_lt (by omega),
      List.getElem?_drop, List.getElem?_drop, Nat.add_sub_cancel' hstart] at hi
  · intro h
    apply List.ext_getElem?
    intro i
    rw [select, select, List.getElem?_take, List.getElem?_take, List.getElem?_drop,
      List.getElem?_drop]
    split
    · exact h _ (by omega) (by omega)
    · rfl

/-- Two collections of files agree on what a window shows: its file can be read in both or in
neither, and the lines from the first to the last one shown are there in both and say the same, or
are missing in both. -/
structure SameSource (files files' : Files) (w : Window) : Prop where
  readable : (files w.location.path).isSome = (files' w.location.path).isSome
  line : ∀ octets octets', files w.location.path = some octets →
    files' w.location.path = some octets' → ∀ i, w.start.toNat ≤ i → i ≤ w.stop.toNat →
      (sourceLines octets)[i]? = (sourceLines octets')[i]?

/-- Where files agree, either both are missing or the same lines are selected. -/
theorem SameSource.missing_or_selected {files files' : Files} {w : Window}
    (h : SameSource files files' w) :
    files w.location.path = none ∧ files' w.location.path = none ∨
      ∃ octets octets', files w.location.path = some octets ∧
        files' w.location.path = some octets' ∧
        w.select (sourceLines octets) = w.select (sourceLines octets') := by
  cases hfile : files w.location.path with
  | none =>
    have hfile' := h.readable
    rw [hfile, Option.isSome_none, eq_comm, Option.isSome_eq_false_iff, Option.isNone_iff_eq_none]
      at hfile'
    exact .inl ⟨rfl, hfile'⟩
  | some octets =>
    have hfile' := h.readable
    rw [hfile, Option.isSome_some, eq_comm, Option.isSome_iff_exists] at hfile'
    obtain ⟨octets', hfile'⟩ := hfile'
    exact .inr ⟨octets, octets', rfl, hfile',
      select_eq_iff.2 (h.line octets octets' hfile hfile')⟩

/-- The lines that a window selects, if its file can be read. -/
def selected? (files : Files) (w : Window) : Option (List Text) :=
  (files w.location.path).map fun octets => w.select (sourceLines octets)

theorem sameSource_iff {files files' : Files} {w : Window} :
    SameSource files files' w ↔ selected? files w = selected? files' w := by
  unfold selected?
  constructor
  · intro h
    rcases h.missing_or_selected with ⟨hfile, hfile'⟩ | ⟨_, _, hfile, hfile', hselect⟩
    · rw [hfile, hfile']
    · rw [hfile, hfile', Option.map_some, Option.map_some, hselect]
  · intro h
    refine ⟨?_, ?_⟩
    · rw [← Option.isSome_map, h, Option.isSome_map]
    · intro octets octets' hfile hfile'
      rw [hfile, hfile'] at h
      have hselect : w.select (sourceLines octets) = w.select (sourceLines octets') :=
        Option.some.inj h
      exact select_eq_iff.1 hselect

/-- Files agree if one lacks nothing but the newline that finishes its last line. -/
theorem SameSource.of_append_newline {files files' : Files} {w : Window}
    {octets octets' : Text.Octets} (hfile : files w.location.path = some octets)
    (hfile' : files' w.location.path = some octets')
    (hlast : ∃ c ∈ (Text.Utf8.decode octets).getLast?, c ≠ newline)
    (hdecode : Text.Utf8.decode octets' = Text.Utf8.decode octets ++ [newline]) :
    SameSource files files' w := by
  rw [sameSource_iff, selected?, selected?, hfile, hfile', Option.map_some, Option.map_some,
    sourceLines_append_newline hlast hdecode]

instance (files files' : Files) (w : Window) : Decidable (SameSource files files' w) :=
  decidable_of_iff _ sameSource_iff.symm

/-! ## Rendering -/

theorem rows_congr (θ : Terminal.Theme) {w : Window} {lines lines' : List Text}
    (h : w.select lines = w.select lines') : w.rows θ lines = w.rows θ lines' := by
  unfold rows
  rw [h]

theorem block_congr (θ : Terminal.Theme) (directory : Path) {files files' : Files} {w : Window}
    (h : SameSource files files' w) :
    w.block ⟨θ, directory, files⟩ = w.block ⟨θ, directory, files'⟩ := by
  unfold block
  rcases h.missing_or_selected with ⟨hfile, hfile'⟩ | ⟨octets, octets', hfile, hfile', hselect⟩
  · simp only [hfile, hfile']
  · simp only [hfile, hfile', rows_congr θ hselect]

/-- **A window depends only on the lines it shows.** The header does not look into files. -/
theorem render_congr (θ : Terminal.Theme) (directory : Path) {files files' : Files} {w : Window}
    (h : SameSource files files' w) :
    w.render ⟨θ, directory, files⟩ = w.render ⟨θ, directory, files'⟩ := by
  unfold render
  rw [block_congr θ directory h]
  rfl

end Window

namespace Node

variable {θ : Terminal.Theme} {directory : Path} {files files' : Files}

theorem renderAll_congr {nodes : List Node}
    (ih : ∀ node ∈ nodes, (∀ w ∈ node.windows, w.SameSource files files') →
      node.render ⟨θ, directory, files⟩ = node.render ⟨θ, directory, files'⟩)
    (h : ∀ w ∈ windowsAll nodes, w.SameSource files files') :
    renderAll ⟨θ, directory, files⟩ nodes = renderAll ⟨θ, directory, files'⟩ nodes := by
  rw [renderAll_eq_map, renderAll_eq_map]
  apply List.map_congr_left
  intro node hnode
  exact ih node hnode fun w hw => h w (mem_windowsAll.2 ⟨node, hnode, hw⟩)

/-- **A tree depends only on the lines its windows show.** -/
theorem render_congr {node : Node} (h : ∀ w ∈ node.windows, w.SameSource files files') :
    node.render ⟨θ, directory, files⟩ = node.render ⟨θ, directory, files'⟩ := by
  induction node using treeInduction with
  | text t => rfl
  | seq parts ih => rw [render, render, renderAll_congr ih h]
  | wrap wrapper content ih => rw [render, render, ih h]
  | backtrace frames ih => rw [render, render, renderAll_congr ih h]
  | separator => rfl
  | columns cells ih => rw [render, render, renderAll_congr ih h]
  | code w => exact Window.render_congr θ directory (h w (List.mem_singleton_self w))
  | null => rfl

end Node

namespace Config

/-- **A report depends only on the source lines it shows.**

With either theme, a tree is rendered to the same text from two collections of files that agree on
the lines which its windows show. So an exception is explained in the same way if they agree on the
lines which the windows of its diagnosis show. It does not matter what else is in these files or in
others, nor whether the last line of a file is finished. -/
theorem explain_shows_its_lines_only :
    (∀ (θ : Terminal.Theme) (directory : Path) (files files' : Files) (node : Node),
      (∀ w ∈ node.windows, w.SameSource files files') →
        node.render ⟨θ, directory, files⟩ = node.render ⟨θ, directory, files'⟩) ∧
    (∀ (c : Config) (workingDirectory directory : Path) (files files' : Files) (raised : Raised)
      (site : RaiseSite),
      (∀ d, c.diagnose raised site = .ok d →
        ∀ w ∈ d.report.windows, w.SameSource files files') →
      c.explain ⟨workingDirectory, files⟩ raised site directory =
        c.explain ⟨workingDirectory, files'⟩ raised site directory) ∧
    ∀ (files files' : Files) (w : Window) (octets octets' : Text.Octets),
      files w.location.path = some octets → files' w.location.path = some octets' →
      (∃ c ∈ (Text.Utf8.decode octets).getLast?, c ≠ newline) →
      Text.Utf8.decode octets' = Text.Utf8.decode octets ++ [newline] →
      w.SameSource files files' := by
  refine ⟨fun _ _ _ _ _ h => Node.render_congr h, ?_,
    fun _ _ _ _ _ hfile hfile' => Window.SameSource.of_append_newline hfile hfile'⟩
  intro c workingDirectory directory files files' raised site h
  -- the diagnosis is made without the files, so only its rendering could differ
  rw [explain_eq, explain_eq]
  cases hd : c.diagnose raised site with
  | error e => rfl
  | ok d =>
    have hformat : c.format ⟨workingDirectory, files⟩ directory d =
        c.format ⟨workingDirectory, files'⟩ directory d :=
      Node.render_congr (h d hd)
    rw [Except.toOption, Option.map_some, Option.map_some, hformat]

/-- Lines before and behind a window change, its last line is finished, another file appears; and a
file grows below what the report of an exception shows. -/
theorem explain_shows_its_lines_only_edited :
    (let w : Window := { location := ⟨⟨"a.rb".toList⟩, 2, "m".toList⟩, range := ⟨0, 1⟩ }
      let files : Files := fun path =>
        if path.text = "a.rb".toList then some [35, 10, 32, 102, 10, 101] else none
      let files' : Files := fun path =>
        if path.text = "a.rb".toList then some [9, 120, 10, 32, 102, 10, 101, 10, 35] else some []
      (Node.code w).render ⟨{}, .empty, files⟩ = (Node.code w).render ⟨{}, .empty, files'⟩) ∧
    ({} : Config).explain ⟨.empty, fun _ => some [10, 10, 10, 10, 10, 10, 10]⟩
        ⟨"E".toList, some "boom".toList, some ["a.rb:2:in 'm'".toList]⟩ {} .empty =
      ({} : Config).explain ⟨.empty, fun _ => some [10, 10, 10, 10, 10, 10, 10, 35, 10]⟩
        ⟨"E".toList, some "boom".toList, some ["a.rb:2:in 'm'".toList]⟩ {} .empty := by
  obtain ⟨htree, hexplain, -⟩ := explain_shows_its_lines_only
  constructor
  · intro w files files'
    apply htree
    intro w' hw'
    obtain rfl := List.mem_singleton.1 hw'
    decide
  · have hdiagnose : ({} : Config).diagnose
        ⟨"E".toList, some "boom".toList, some ["a.rb:2:in 'm'".toList]⟩ {} =
          .ok ⟨.exception, ⟨"E".toList, "boom".toList, [⟨⟨"a.rb".toList⟩, 2, "m".toList⟩],
            .generic⟩, {}⟩ := by rfl
    apply hexplain
    intro d hd
    obtain rfl := Except.ok.inj (hdiagnose.symm.trans hd)
    decide

end Config

end ErrorReport
