/-
# ErrorReport.Proofs.Nesting — decorations within decorations.

The parts of a report are painted from the inside out, and each painted text ends with a reset of
everything. Still no part loses the style of what it stands in: on a terminal every text is shown in
the decorations around it, the inner within the outer, whatever was painted before it. `Node.cells`
says how a tree is to be shown, with the style around a node handed down to its parts, and
`nested_styles_kept` that it is shown so.

The proof follows the tree from below. What a node shows is known on every ground
(`Terminal.Displays`), so it does not matter where in the tree it stands.
-/
import ErrorReport.Proofs.Display
import ErrorReport.Proofs.Themes

namespace ErrorReport

open Text (escape newline)
open Terminal (Theme Style Cell lay display Displays)

/-! ## How trees are to be shown -/

/-- A rule within a style, and the end of its line. -/
def ruleCells (s : Style) : List Cell :=
  lay (Style.rule.within s) (List.replicate Theme.ruleWidth '=') ++ lay s [newline]

/-- A divider between columns within a style. -/
def dividerCells (s : Style) : List Cell := lay (Style.rule.within s) " | ".toList

/-- A wrapped content within a style. A section has a rule in front, any other wrapper adds its
decoration to the style. -/
def Wrapper.cells (content : Style → List Cell) (s : Style) : Wrapper → List Cell
  | summary => ruleCells s ++ content s
  | heuristic => ruleCells s ++ content s
  | classname => content (Style.classname.within s)
  | message => content (Style.message.within s)
  | explanation => content (Style.explanation.within s)
  | context => content (Style.context.within s)
  | details => content (Style.details.within s)

namespace Node

mutual

/-- A tree without windows within a style: its texts in the style that the wrappers around them make
of it, the outermost first. -/
def cells : Node → Style → List Cell
  | text t, s => lay s t
  | seq parts, s => (cellsAll parts s).flatten
  | wrap wrapper content, s => wrapper.cells (cells content) s
  | backtrace frames, s =>
    ruleCells s ++
      if frames.isEmpty then lay (Style.message.within s) noBacktrace
      else (cellsAll frames s).flatten
  | separator, s => ruleCells s
  | columns cs, s => (dividerCells s).intercalate (cellsAll cs s) ++ lay s [newline]
  | code _, _ => []
  | null, _ => []

/-- Trees within a style, one by one. -/
def cellsAll : List Node → Style → List (List Cell)
  | [], _ => []
  | node :: nodes, s => cells node s :: cellsAll nodes s

end

theorem cellsAll_eq_map (nodes : List Node) (s : Style) :
    cellsAll nodes s = nodes.map fun node => node.cells s := by
  induction nodes with
  | nil => rfl
  | cons node nodes ih => rw [cellsAll, ih, List.map_cons]

end Node

/-! ## How the parts of a report are shown -/

section

variable {θ : Theme} (hθ : θ.paints = true)

include hθ

/-- Text that a theme paints is shown in its style within the ground. -/
theorem Terminal.displays_paint (s : Style) {t : Text} {cells : Style → List Cell}
    (h : Displays t cells) : Displays (θ.paint s t) fun ground => cells (s.within ground) := by
  rw [Theme.paint, if_pos hθ]
  exact h.paint s

/-- A rule is shown bright black within the ground, its newline on the ground. -/
theorem Terminal.displays_rule : Displays θ.rule ruleCells :=
  (displays_paint hθ .rule (.of_notMem (by decide))).append (.of_notMem (by decide))

theorem Terminal.displays_columns {nodes : List Node} {text : Node → Text}
    (h : ∀ node ∈ nodes, Displays (text node) node.cells) :
    Displays (θ.columns (nodes.map text)) (Node.columns nodes).cells := by
  have hdivider : Displays (θ.paint .rule " | ".toList) dividerCells :=
    displays_paint hθ .rule (.of_notMem (by decide))
  have hend : Displays [newline] fun ground => lay ground [newline] := .of_notMem (by decide)
  have hcells : (Node.columns nodes).cells = fun ground =>
      (dividerCells ground).intercalate (nodes.map fun node => node.cells ground) ++
        lay ground [newline] := by
    funext ground
    rw [Node.cells, Node.cellsAll_eq_map]
  rw [hcells]
  exact (hdivider.intercalate h).append hend

theorem Wrapper.displays_apply (wrapper : Wrapper) {t : Text} {cells : Style → List Cell}
    (h : Displays t cells) :
    Displays (wrapper.apply θ t) fun ground => wrapper.cells cells ground := by
  cases wrapper with
  | summary => exact (Terminal.displays_rule hθ).append h
  | heuristic => exact (Terminal.displays_rule hθ).append h
  | classname => exact Terminal.displays_paint hθ _ h
  | message => exact Terminal.displays_paint hθ _ h
  | explanation => exact Terminal.displays_paint hθ _ h
  | context => exact Terminal.displays_paint hθ _ h
  | details => exact Terminal.displays_paint hθ _ h

end

/-! ## Trees -/

namespace Node

variable {v : View} {node : Node}

theorem displays_flatten {nodes : List Node}
    (h : ∀ node ∈ nodes, Displays (node.render v) node.cells) :
    Displays (renderAll v nodes).flatten fun ground => (cellsAll nodes ground).flatten := by
  have hcells : (fun ground => (cellsAll nodes ground).flatten) =
      fun ground => nodes.flatMap fun node => node.cells ground := by
    funext ground
    rw [cellsAll_eq_map, List.flatMap_def]
  rw [renderAll_eq_map, ← List.flatMap_def, hcells]
  exact Displays.flatMap h

/-- **A tree without windows is shown** as it is to be shown, on every ground. -/
theorem displays_render (htheme : v.theme.paints = true) (hwindows : node.windows = [])
    (htexts : ∀ t ∈ node.texts, escape ∉ t) : Displays (node.render v) node.cells := by
  -- what the induction gives for the parts of a node
  have hall : ∀ {parts : List Node},
      (∀ part ∈ parts, part.windows = [] → (∀ t ∈ part.texts, escape ∉ t) →
        Displays (part.render v) part.cells) →
      windowsAll parts = [] → (∀ t ∈ textsAll parts, escape ∉ t) →
      ∀ part ∈ parts, Displays (part.render v) part.cells := by
    intro parts ih hwindows htexts part hpart
    rw [windowsAll_eq_flatMap, List.flatMap_eq_nil_iff] at hwindows
    apply ih part hpart (hwindows part hpart)
    exact fun t ht => htexts t (mem_textsAll.2 ⟨part, hpart, ht⟩)
  induction node using treeInduction with
  | text t => exact .of_notMem (htexts t (List.mem_singleton_self t))
  | seq parts ih => exact displays_flatten (hall ih hwindows htexts)
  | wrap wrapper content ih => exact wrapper.displays_apply htheme (ih hwindows htexts)
  | backtrace frames ih =>
    have hframes : Displays
        (if frames.isEmpty then v.theme.paint .message noBacktrace
          else (renderAll v frames).flatten)
        fun ground => if frames.isEmpty then lay (Style.message.within ground) noBacktrace
          else (cellsAll frames ground).flatten := by
      split
      · exact Terminal.displays_paint htheme .message (.of_notMem (by decide))
      · exact displays_flatten (hall ih hwindows htexts)
    exact (Terminal.displays_rule htheme).append hframes
  | separator => exact Terminal.displays_rule htheme
  | columns nodes ih =>
    rw [render, renderAll_eq_map]
    exact Terminal.displays_columns htheme (hall ih hwindows htexts)
  | code w => cases hwindows
  | null => exact .of_notMem (t := []) List.not_mem_nil

/-- **Nested decorations never lose the outer style.** The ansi theme with colours on paints a tree
without windows, whose texts hold no escape character, so that a terminal shows each text in the
decorations around it, applied from the outermost to the innermost, whatever stands before it; rules
and dividers in bright black within the style around them; and nothing else. In the end the terminal
has no attributes. The characters shown are those that the plain theme prints. -/
theorem nested_styles_kept (v : View) (node : Node) (htheme : v.theme.paints = true)
    (hwindows : node.windows = []) (htexts : ∀ t ∈ node.texts, escape ∉ t) :
    display {} {} (node.render v) = (node.cells {}, {}) ∧
      (node.cells {}).map Cell.char = node.render v.plain := by
  have hdisplay : display {} {} (node.render v) = (node.cells {}, {}) :=
    (displays_render htheme hwindows htexts).display_eq {}
  have hshows : Terminal.Shows v.theme (node.render v) (node.render v.plain) :=
    shows_render htexts (by simp [hwindows])
  refine ⟨hdisplay, ?_⟩
  rw [← hshows.strip_eq, ← Terminal.map_char_display {} {}, hdisplay]

/-- Three decorations within each other, with an empty text, an empty sequence and columns. -/
theorem nested_styles_kept_deep :
    display {} {} (render ⟨{}, .empty, fun _ => none⟩ (.wrap .explanation (.seq [
        .wrap .details (.seq [.text [], .wrap .classname (.text "a".toList), .text "b".toList]),
        .columns [.text "c".toList, .seq []]]))) =
      ([⟨'a', { dimmed := true, foreground := some .brightWhite }⟩,
        ⟨'b', { dimmed := true, foreground := some .red }⟩,
        ⟨'c', { foreground := some .brightRed }⟩,
        ⟨' ', { foreground := some .brightBlack }⟩,
        ⟨'|', { foreground := some .brightBlack }⟩,
        ⟨' ', { foreground := some .brightBlack }⟩,
        ⟨newline, { foreground := some .brightRed }⟩], {}) :=
  (nested_styles_kept _ _ rfl rfl (by decide)).1

end Node

end ErrorReport
