/-
# ErrorReport.Proofs.Leak — colour never leaks.

Whatever the ansi theme prints is a closed text (`ErrorReport.Proofs.Closed`), and so is every row of
a window if its message and its token stay within one line. A window is built in layers: rows are
coloured and numbered, annotated, joined, searched for the token, and where only the path matters
moved to the right, stripped, dimmed and searched again. Each layer gets closed rows and gives closed
rows.

A token or a message with a newline in it breaks the rows but not the whole: then pointing out the
token is still no brighter than what it is done to, which is all that a report needs.
-/
import ErrorReport.Proofs.Aim
import ErrorReport.Proofs.Pointing
import ErrorReport.Proofs.Themes

namespace ErrorReport

open Text (escape newline unlines)
open Terminal (Theme Closed Flat NoBrighter strip sgr reset lit display)

namespace Window

variable {v : View} {w : Window}

/-! ## Headers and rows -/

theorem closed_heading (hdirectory : escape ∉ v.directory.text)
    (hpath : escape ∉ w.location.path.text) : Closed (w.heading v) := by
  have hheader : Closed (header v w.location) := by
    have hfrom : escape ∉ (directoryFrom v.directory w.location.path).text ++ ['/'] :=
      List.not_mem_append (notMem_directoryFrom (by decide) (by decide) hdirectory hpath)
        (by decide)
    have hname : escape ∉ w.location.fileName := Path.notMem_fileName (by decide) (by decide) hpath
    have hnumber : escape ∉ Text.ofNat w.location.line.toNat := Text.notMem_ofNat (by decide) _
    have hfront := ((Closed.of_notMem hfrom).themePaint v.theme .directory).append
      ((Closed.of_notMem hname).themePaint v.theme .fileName)
    exact hfront.append
      (((Closed.of_notMem hnumber).themePaint v.theme .lineNumber).cons (by decide))
  unfold heading
  cases w.emphasis with
  | code => exact hheader
  | path => exact hheader.themePaint v.theme .header

theorem newline_notMem_heading (hdirectory : newline ∉ v.directory.text)
    (hpath : newline ∉ w.location.path.text) : newline ∉ w.heading v := by
  have hheader : newline ∉ header v w.location := by
    have hfrom : newline ∉ (directoryFrom v.directory w.location.path).text ++ ['/'] :=
      List.not_mem_append (notMem_directoryFrom (by decide) (by decide) hdirectory hpath)
        (by decide)
    have hname : newline ∉ w.location.fileName :=
      Path.notMem_fileName (by decide) (by decide) hpath
    have hnumber : newline ∉ Text.ofNat w.location.line.toNat := Text.notMem_ofNat (by decide) _
    have hfront := List.not_mem_append (Terminal.newline_notMem_paint v.theme .directory hfrom)
      (Terminal.newline_notMem_paint v.theme .fileName hname)
    exact List.not_mem_append hfront (List.not_mem_cons_of_ne_of_not_mem (by decide)
      (Terminal.newline_notMem_paint v.theme .lineNumber hnumber))
  unfold heading
  cases w.emphasis with
  | code => exact hheader
  | path => exact Terminal.newline_notMem_paint v.theme .header hheader

theorem flat_row (θ : Theme) (w : Window) (width : Nat) (n : UInt64) {line : Text}
    (h : escape ∉ line) : Flat false (w.row θ width n (θ.coloured line)) := by
  have hgutter : escape ∉ gutter width (w.mark && n = w.location.line) n :=
    notMem_gutter (by decide) (by decide) width _ n
  have hline : Flat false ([' '] ++ θ.coloured line) :=
    (Flat.coloured θ h).append_of_notMem (by decide)
  unfold row
  dsimp only
  split
  · exact (Flat.paint_paint θ rfl rfl hgutter).append hline
  · exact (Flat.paint θ rfl hgutter).append hline

theorem flat_of_mem_rows (θ : Theme) (w : Window) {octets : Text.Octets}
    (hsource : escape ∉ Text.Utf8.decode octets) :
    ∀ row ∈ w.rows θ (sourceLines octets), Flat false row := by
  rw [rows_eq]
  refine List.forall_mem_map.2 ?_
  rintro ⟨n, line⟩ hshown
  exact flat_row θ w _ n (notMem_of_mem_shown hsource hshown)

theorem flat_noted {θ : Theme} (hmessage : ∀ message ∈ w.message, escape ∉ message) {row : Text}
    (h : Flat false row) : Flat false (w.noted θ row) := by
  unfold noted
  cases hsome : w.message with
  | none => exact h
  | some message =>
    have hpainted : Flat false ([' '] ++ θ.paint .scream message) :=
      (Flat.paint θ rfl (hmessage message hsome)).append_of_notMem (by decide)
    exact h.append hpainted

theorem closed_of_mem_annotate (θ : Theme) {octets : Text.Octets}
    (hsource : escape ∉ Text.Utf8.decode octets)
    (hmessage : ∀ message ∈ w.message, escape ∉ message) :
    ∀ row ∈ w.annotate θ (w.rows θ (sourceLines octets)), Closed row := by
  have hrows := flat_of_mem_rows θ w hsource
  intro row hrow
  rw [annotate_eq] at hrow
  cases htarget : w.target? with
  | none =>
    rw [htarget] at hrow
    exact (hrows row hrow).closed
  | some target =>
    rw [htarget] at hrow
    exact (Text.forall_mem_modify hrows (fun _ => flat_noted hmessage) target row hrow).closed

/-- Behind a window with its token pointed out nothing is on that was not on before. -/
theorem closed_pointOut {θ : Theme} {t : Text} (htoken : escape ∉ w.token) (h : Closed t) :
    Closed (w.pointOut θ t) := by
  unfold pointOut
  cases w.target? with
  | none => exact h
  | some target =>
    dsimp only
    rw [Theme.highlight_eq_mapLineAt]
    exact (NoBrighter.mapLineAt target (fun _ => NoBrighter.pointed htoken) h.clean).closed h

/-! ## Whole windows -/

theorem closed_block (hw : w.EscapeFree v.files) : Closed (w.block v) := by
  unfold block
  cases hfile : v.files w.location.path with
  | none => exact Closed.of_notMem (show escape ∉ placeholder by decide)
  | some octets =>
    exact closed_pointOut hw.token
      (.unlines (closed_of_mem_annotate v.theme (hw.source octets hfile) hw.message))

/-- A faded block is closed, whatever was on in it. -/
theorem closed_faded {θ : Theme} {t : Text} (hθ : θ.paints = true) (h : escape ∉ strip t) :
    Closed (θ.faded t) := by
  unfold Theme.faded
  rw [Theme.name_eq_ansi hθ]
  dsimp only
  rw [Text.mapBodies, List.flatMap_def]
  refine Closed.flatten (List.forall_mem_map.2 fun line hline => ?_)
  have hnone : escape ∉ Text.body line ++ Text.ending line := by
    rw [Text.body_append_ending]
    exact fun hmem => h (Text.subset_of_mem_lines hline hmem)
  have hbody : escape ∉ Text.body line := fun hmem => hnone (List.mem_append_left _ hmem)
  have hending : escape ∉ Text.ending line := fun hmem => hnone (List.mem_append_right _ hmem)
  exact ((Closed.of_notMem hbody).themePaint θ _).append (.of_notMem hending)

theorem escape_notMem_strip_indented {t : Text} (h : escape ∉ strip t) :
    escape ∉ strip (Theme.indented margin t) := by
  have hlines : NoBrighter ((Text.lines t).flatMap (margin ++ ·))
      ((Text.lines t).flatMap (margin ++ ·)) := by
    refine NoBrighter.flatMap fun line hline => .refl ?_
    rw [Terminal.strip_append_of_notMem (by decide)]
    exact List.not_mem_append (by decide) (Terminal.clean_of_mem_lines h hline)
  exact hlines.clean_left

/-- **A window is closed.** -/
theorem closed_render (hθ : v.theme.paints = true) (hdirectory : escape ∉ v.directory.text)
    (hw : w.EscapeFree v.files) : Closed (w.render v) := by
  have hheading := closed_heading (v := v) hdirectory hw.path
  have hblock := closed_block hw
  unfold heading at hheading
  unfold render
  cases hemphasis : w.emphasis with
  | code =>
    rw [hemphasis] at hheading
    exact hheading.append (hblock.cons (by decide))
  | path =>
    rw [hemphasis] at hheading
    have hfaded := closed_faded hθ (escape_notMem_strip_indented hblock.clean)
    exact hheading.append ((closed_pointOut hw.token hfaded).cons (by decide))

/-! ## Rows of a finished window -/

/-- A text of closed rows. -/
def IsClosedBlock (t : Text) : Prop :=
  ∃ rows, (∀ row ∈ rows, newline ∉ row ∧ Closed row) ∧ t = unlines rows

theorem isClosedBlock_pointOut {θ : Theme} {t : Text} (htoken : escape ∉ w.token)
    (hline : newline ∉ w.token) (h : IsClosedBlock t) : IsClosedBlock (w.pointOut θ t) := by
  unfold pointOut
  cases w.target? with
  | none => exact h
  | some target =>
    obtain ⟨rows, hrows, rfl⟩ := h
    refine ⟨_, Text.forall_mem_modify hrows ?_ target,
      Theme.highlight_unlines target hline fun row hrow => (hrows row hrow).1⟩
    rintro row ⟨hsingle, hclosed⟩
    exact ⟨Theme.newline_notMem_pointed hline hsingle,
      (NoBrighter.pointed htoken hclosed.clean).closed hclosed⟩

/-- The block of a window has closed rows if its token and its message stay within one line. -/
theorem isClosedBlock_block (hw : w.EscapeFree v.files) (htoken : newline ∉ w.token)
    (hmessage : ∀ message ∈ w.message, newline ∉ message) : IsClosedBlock (w.block v) := by
  unfold block
  cases hfile : v.files w.location.path with
  | none =>
    refine ⟨["Can't find code".toList], List.forall_mem_singleton.2 ⟨by decide, ?_⟩, rfl⟩
    exact .of_notMem (by decide)
  | some octets =>
    apply isClosedBlock_pointOut hw.token htoken
    refine ⟨_, fun row hrow => ⟨?_, ?_⟩, rfl⟩
    · revert row
      rw [annotate_eq]
      have hrows := newline_notMem_of_mem_rows v.theme w octets
      cases w.target? with
      | none => exact hrows
      | some target => exact Text.forall_mem_modify hrows (fun _ => newline_notMem_noted hmessage) _
    · exact closed_of_mem_annotate v.theme (hw.source octets hfile) hw.message row hrow

/-- **The rows of a window are closed** if its token and its message stay within one line. -/
theorem exists_closed_rows (hθ : v.theme.paints = true) (hw : w.EscapeFree v.files)
    (htoken : newline ∉ w.token) (hmessage : ∀ message ∈ w.message, newline ∉ message) :
    ∃ rows, (∀ row ∈ rows, newline ∉ row ∧ Closed row) ∧
      w.render v = w.heading v ++ newline :: unlines rows := by
  have hblock := isClosedBlock_block (v := v) hw htoken hmessage
  unfold render heading
  cases hemphasis : w.emphasis with
  | code =>
    obtain ⟨rows, hrows, heq⟩ := hblock
    exact ⟨rows, hrows, by dsimp only; rw [heq]⟩
  | path =>
    have hfaded : IsClosedBlock (v.theme.faded (Theme.indented margin (w.block v))) := by
      obtain ⟨rows, hrows, heq⟩ := hblock
      have hsingle : ∀ row ∈ rows, newline ∉ row := fun row hrow => (hrows row hrow).1
      rw [heq, faded_indented_unlines hemphasis hsingle]
      refine ⟨_, List.forall_mem_map.2 fun row hrow => ⟨?_, ?_⟩, rfl⟩
      · exact newline_notMem_settled (hsingle row hrow)
      · have hclean : escape ∉ strip (margin ++ row) := by
          rw [Terminal.strip_append_of_notMem (by decide)]
          exact List.not_mem_append (by decide) (hrows row hrow).2.clean
        simp only [settled, hemphasis, Theme.dulled, Theme.name_eq_ansi hθ]
        exact (Closed.of_notMem hclean).themePaint v.theme _
    obtain ⟨rows, hrows, heq⟩ := isClosedBlock_pointOut (θ := v.theme) hw.token htoken hfaded
    exact ⟨rows, hrows, by dsimp only; rw [heq]⟩

end Window

/-! ## Trees -/

theorem Terminal.closed_rule (θ : Theme) : Closed θ.rule :=
  ((Closed.of_notMem (by decide)).themePaint θ .rule).append (.of_notMem (by decide))

theorem Wrapper.closed_apply {θ : Theme} {t : Text} (wrapper : Wrapper) (h : Closed t) :
    Closed (wrapper.apply θ t) := by
  cases wrapper with
  | summary => exact (Terminal.closed_rule θ).append h
  | heuristic => exact (Terminal.closed_rule θ).append h
  | classname => exact h.themePaint θ _
  | message => exact h.themePaint θ _
  | explanation => exact h.themePaint θ _
  | context => exact h.themePaint θ _
  | details => exact h.themePaint θ _

namespace Node

variable {v : View} {node : Node}

/-- **A tree is closed** if its windows are. -/
theorem closed_render (htexts : ∀ t ∈ node.texts, escape ∉ t)
    (hwindows : ∀ w ∈ node.windows, Closed (w.render v)) : Closed (node.render v) := by
  -- what the induction gives for the parts of a node
  have hall : ∀ {parts : List Node},
      (∀ part ∈ parts, (∀ t ∈ part.texts, escape ∉ t) →
        (∀ w ∈ part.windows, Closed (w.render v)) → Closed (part.render v)) →
      (∀ t ∈ textsAll parts, escape ∉ t) → (∀ w ∈ windowsAll parts, Closed (w.render v)) →
      ∀ t ∈ renderAll v parts, Closed t := by
    intro parts ih htexts hwindows
    rw [renderAll_eq_map]
    refine List.forall_mem_map.2 fun part hpart => ih part hpart ?_ ?_
    · exact fun t ht => htexts t (mem_textsAll.2 ⟨part, hpart, ht⟩)
    · exact fun w hw => hwindows w (mem_windowsAll.2 ⟨part, hpart, hw⟩)
  induction node using treeInduction with
  | text t => exact .of_notMem (htexts t (List.mem_singleton_self t))
  | seq parts ih => exact Closed.flatten (hall ih htexts hwindows)
  | wrap wrapper content ih => exact wrapper.closed_apply (ih htexts hwindows)
  | backtrace frames ih =>
    apply (Terminal.closed_rule v.theme).append
    split
    · exact (Closed.of_notMem (by decide)).themePaint v.theme _
    · exact Closed.flatten (hall ih htexts hwindows)
  | separator => exact Terminal.closed_rule v.theme
  | columns cells ih =>
    have hdivider : Closed (v.theme.paint .rule " | ".toList) :=
      (Closed.of_notMem (by decide)).themePaint v.theme _
    exact (hdivider.intercalate (hall ih htexts hwindows)).append (.of_notMem (by decide))
  | code window => exact hwindows window (List.mem_singleton_self window)
  | null => exact .of_notMem List.not_mem_nil

/-- **Colour never leaks.** In the text that the ansi theme prints for a tree, with colours on and
no escape character in anything it is made from, every escape character opens a complete sequence,
and the last sequence, if there is one, is a reset: a terminal without attributes has none at the
end.

In a window whose token and message stay within one line, no style is on at the newline behind the
header nor at any newline of the block. If the directory and the path have no newlines either, no
style is on at any newline of the window. -/
theorem colour_never_leaks :
    (∀ (v : View) (node : Node), v.theme.paints = true → escape ∉ v.directory.text →
      node.EscapeFree v.files →
      (∀ before after : Text, node.render v = before ++ escape :: after →
        ∃ parameters rest : Text, parameters.all Terminal.isParameter = true ∧
          escape :: after = sgr parameters ++ rest) ∧
      (∀ before parameters after : Text, node.render v = before ++ sgr parameters ++ after →
        parameters.all Terminal.isParameter = true → escape ∉ after → sgr parameters = reset) ∧
      (display {} {} (node.render v)).2 = {}) ∧
    ∀ (v : View) (w : Window), v.theme.paints = true → escape ∉ v.directory.text →
      w.EscapeFree v.files → newline ∉ w.token → (∀ message ∈ w.message, newline ∉ message) →
      ∃ block, w.render v = w.heading v ++ newline :: block ∧
        (∀ before after : Text, newline :: block = before ++ newline :: after →
          lit false (w.heading v ++ before) = false) ∧
        (newline ∉ v.directory.text → newline ∉ w.location.path.text →
          ∀ before after : Text, w.render v = before ++ newline :: after →
            lit false before = false) := by
  constructor
  · intro v node hθ hdirectory hnode
    have hclosed : Closed (node.render v) := closed_render hnode.texts fun w hw =>
      Window.closed_render hθ hdirectory (hnode.windows w hw)
    refine ⟨?_, ?_, hclosed.display_snd {}⟩
    · exact fun before after heq => Terminal.exists_sgr hclosed.clean heq
    · intro before parameters after heq hall hlast
      exact (heq ▸ hclosed).eq_reset hall hlast
  · intro v w hθ hdirectory hw htoken hmessage
    obtain ⟨rows, hrows, hrender⟩ := Window.exists_closed_rows hθ hw htoken hmessage
    have hsingle : ∀ row ∈ rows, newline ∉ row := fun row hrow => (hrows row hrow).1
    have hclosed : ∀ row ∈ rows, Closed row := fun row hrow => (hrows row hrow).2
    have hheading := Window.closed_heading (v := v) hdirectory hw.path
    refine ⟨unlines rows, hrender, ?_, ?_⟩
    · -- the newline behind the heading ends an empty row
      intro before after heq
      have hunlines : unlines ([] :: rows) = before ++ newline :: after := heq
      have hbefore : Closed before := by
        refine Closed.of_unlines_eq ?_ ?_ hunlines
        · exact List.forall_mem_cons.2 ⟨List.not_mem_nil, hsingle⟩
        · exact List.forall_mem_cons.2 ⟨.of_notMem List.not_mem_nil, hclosed⟩
      exact (hheading.append hbefore).lit_eq
    · intro hbase hpath before after heq
      have hline := Window.newline_notMem_heading (v := v) hbase hpath
      rw [hrender, ← Text.unlines_cons] at heq
      have hbefore : Closed before := by
        refine Closed.of_unlines_eq ?_ ?_ heq
        · exact List.forall_mem_cons.2 ⟨hline, hsingle⟩
        · exact List.forall_mem_cons.2 ⟨hheading, hclosed⟩
      exact hbefore.lit_eq

/-- A message in columns above a window with a message and a token, moved to the right; and that
window alone. -/
theorem colour_never_leaks_undefined :
    let v : View := {
      theme := {}
      directory := ⟨"/app".toList⟩
      files := fun _ => some [102, 111, 111, 10, 34, 102, 111, 111, 34] }
    let w : Window := {
      location := ⟨⟨"/app/a.rb".toList⟩, 2, "m".toList⟩
      range := ⟨-1, 0⟩
      highlight := some "foo".toList
      message := some "foo is undefined".toList
      emphasis := .path }
    (display {} {} (render v
      (.seq [.columns [.wrap .classname (.text "E".toList), .text [newline]], .code w]))).2 = {} ∧
      ∀ before after : Text, w.render v = before ++ newline :: after →
        lit false before = false := by
  intro v w
  have hw : w.EscapeFree v.files := {
    path := by decide
    token := by decide
    message := by decide
    source := by
      rintro _ ⟨⟩
      decide }
  obtain ⟨htrees, hwindows⟩ := colour_never_leaks
  constructor
  · refine (htrees v _ rfl (by decide) ⟨by decide, ?_⟩).2.2
    intro w' hw'
    obtain rfl := List.mem_singleton.1 hw'
    exact hw
  · obtain ⟨block, -, -, hlines⟩ :=
      hwindows v w rfl (by decide) hw (by decide) (by decide)
    exact hlines (by decide) (by decide)

end Node

end ErrorReport
