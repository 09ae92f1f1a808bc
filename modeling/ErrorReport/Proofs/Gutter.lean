/-
# ErrorReport.Proofs.Gutter — the numbers in front of the lines, and the token.

A row is searched for the token as a whole, gutter included: only escape sequences are passed over.
The gutter ends in a reset, so no occurrence reaches beyond it, and what is found in it does not
depend on what stands behind it (`pointed_paintedGutter_append`). So the rows that the token is not
searched in keep their gutters, and the row of the location keeps its own exactly if the token does
not stand in the arrow, the number, the colon or the padding (`gutter_kept_iff`). The names of
operators and numbers can (`gutter_pointed_out`).
-/
import ErrorReport.Proofs.Occurrence

namespace ErrorReport

open Text (escape newline unlines)
open Terminal (Theme Style)

namespace Window

variable {θ : Theme} {v : View} {w : Window} {width : Nat} {n : UInt64} {token : Text}

/-! ## Gutters -/

/-- The gutter of a row, painted. -/
def paintedGutter (θ : Theme) (w : Window) (width : Nat) (n : UInt64) : Text :=
  let marked := w.mark && n = w.location.line
  let g := gutter width marked n
  θ.paint .lineNumber (if marked then θ.paint .markedLineNumber g else g)

theorem row_eq_paintedGutter (line : Text) :
    w.row θ width n line = w.paintedGutter θ width n ++ ' ' :: line := rfl

theorem escape_notMem_gutter (width : Nat) (marked : Bool) (n : UInt64) :
    escape ∉ gutter width marked n := notMem_gutter (by decide) (by decide) width marked n

/-- A painted gutter consists of sequences around the gutter, so the token is searched in the gutter
and in what stands behind it. -/
theorem exists_sequences_around (hθ : θ.paints = true) (w : Window) (width : Nat) (n : UInt64) :
    ∃ front back : Text,
      w.paintedGutter θ width n = front ++ (gutter width (w.mark && n = w.location.line) n ++ back) ∧
      ∀ token : Text, token ≠ [] → ∀ t, θ.pointed token (w.paintedGutter θ width n ++ t) =
        front ++ (Text.substitute token (Style.highlight.paint token)
          (gutter width (w.mark && n = w.location.line) n) ++ (back ++ θ.pointed token t)) := by
  unfold paintedGutter
  dsimp only
  generalize hg : gutter width (w.mark && decide (n = w.location.line)) n = g
  have hclean : escape ∉ g := hg ▸ escape_notMem_gutter width _ n
  have hnumber : Style.lineNumber.opening = Terminal.sgr Style.lineNumber.parameters := rfl
  have hnumberAll := Style.lineNumber.all_isParameter_parameters
  have hreset : ['0'].all Terminal.isParameter = true := by decide
  by_cases hmarked : (w.mark && decide (n = w.location.line)) = true
  · -- the mark shows inside the colour of line numbers, which is opened again behind it
    have hmark : Style.markedLineNumber.opening =
        Terminal.sgr Style.markedLineNumber.parameters := rfl
    have hmarkAll := Style.markedLineNumber.all_isParameter_parameters
    refine ⟨Style.lineNumber.opening ++ Style.markedLineNumber.opening,
      Terminal.reset ++ (Style.lineNumber.opening ++ Terminal.reset), ?_, ?_⟩
    · rw [if_pos hmarked, Theme.paint, if_pos hθ, Theme.paint, if_pos hθ,
        Terminal.paint_paint_of_notMem (by decide) (by decide) hclean]
      simp only [List.append_assoc]
    · intro token hne t
      rw [if_pos hmarked, Theme.paint, if_pos hθ, Theme.paint, if_pos hθ,
        Terminal.paint_paint_of_notMem (by decide) (by decide) hclean, Theme.pointed_eq hθ hne,
        Theme.pointed_eq hθ hne, hnumber, hmark, Terminal.reset]
      simp only [List.append_assoc]
      rw [Terminal.mapVisible_sgr_append _ hnumberAll, Terminal.mapVisible_sgr_append _ hmarkAll,
        Terminal.mapVisible_append_sgr _ _ hreset, Terminal.mapVisible_sgr_append _ hnumberAll,
        Terminal.mapVisible_sgr_append _ hreset, Terminal.mapVisible_of_notMem rfl hclean]
  · refine ⟨Style.lineNumber.opening, Terminal.reset, ?_, ?_⟩
    · rw [if_neg hmarked, Theme.paint, if_pos hθ,
        Terminal.paint_of_notMem (by decide) hclean, List.append_assoc]
    · intro token hne t
      rw [if_neg hmarked, Theme.paint, if_pos hθ, Terminal.paint_of_notMem (by decide) hclean,
        Theme.pointed_eq hθ hne, Theme.pointed_eq hθ hne, hnumber, Terminal.reset]
      simp only [List.append_assoc]
      rw [Terminal.mapVisible_sgr_append _ hnumberAll, Terminal.mapVisible_append_sgr _ _ hreset,
        Terminal.mapVisible_of_notMem rfl hclean]

/-- **A painted gutter is searched on its own**: what is pointed out in it does not depend on what
stands behind it, nor the other way round. -/
theorem pointed_paintedGutter_append (hθ : θ.paints = true) (token t : Text) :
    θ.pointed token (w.paintedGutter θ width n ++ t) =
      θ.pointed token (w.paintedGutter θ width n) ++ θ.pointed token t := by
  by_cases hne : token = []
  · simp only [hne, Theme.pointed_nil]
  · obtain ⟨front, back, -, hpointed⟩ := exists_sequences_around hθ w width n
    have halone := hpointed token hne []
    rw [List.append_nil, Theme.pointed_row_nil, List.append_nil] at halone
    rw [hpointed token hne, halone]
    simp only [List.append_assoc]

/-- A gutter in which the token does not stand is kept. -/
theorem pointed_paintedGutter_of_not_occurs (hθ : θ.paints = true) (hne : token ≠ [])
    (h : ¬ token <:+: gutter width (w.mark && n = w.location.line) n) :
    θ.pointed token (w.paintedGutter θ width n) = w.paintedGutter θ width n := by
  obtain ⟨front, back, hpainted, hpointed⟩ :=
    exists_sequences_around hθ w width n
  have halone := hpointed token hne []
  rwa [List.append_nil, Theme.pointed_row_nil, List.append_nil, Text.substitute_eq_self hne h,
    ← hpainted] at halone

/-- A gutter in which the token stands does not start its row any more. -/
theorem not_prefix_pointed_of_occurs (hθ : θ.paints = true) (htoken : escape ∉ token)
    (hne : token ≠ []) (h : token <:+: gutter width (w.mark && n = w.location.line) n) (t : Text) :
    ¬ w.paintedGutter θ width n <+: θ.pointed token (w.paintedGutter θ width n ++ t) := by
  obtain ⟨front, back, hpainted, hpointed⟩ :=
    exists_sequences_around hθ w width n
  have hclean := escape_notMem_gutter width (w.mark && n = w.location.line) n
  obtain ⟨shown, hshown⟩ : ∃ shown, Style.highlight.paint token = escape :: shown := by
    rw [Terminal.paint_of_notMem (by decide) htoken]
    exact ⟨_, rfl⟩
  have hlonger : token.length < (Style.highlight.paint token).length := by
    rw [Terminal.paint_of_notMem (by decide) htoken]
    simp only [List.length_append]
    have hopening : 0 < Style.highlight.opening.length := by decide
    omega
  obtain ⟨hlength, -⟩ := Text.length_substitute hne hlonger
    (gutter width (w.mark && n = w.location.line) n)
  rw [hpointed token hne, hpainted, List.prefix_append_right_inj]
  intro hstarts
  -- the gutter would start what it has become
  have hstart := List.prefix_of_prefix_length_le ((List.prefix_append _ back).trans hstarts)
    (List.prefix_append _ _) hlength
  rw [hshown] at hstart
  exact Text.not_prefix_substitute hne h hclean hstart

theorem prefix_pointed_iff (hθ : θ.paints = true) (htoken : escape ∉ token) (t : Text) :
    w.paintedGutter θ width n <+: θ.pointed token (w.paintedGutter θ width n ++ t) ↔
      token = [] ∨ ¬ token <:+: gutter width (w.mark && n = w.location.line) n := by
  by_cases hne : token = []
  · rw [hne, Theme.pointed_nil]
    exact iff_of_true (List.prefix_append _ _) (.inl rfl)
  · by_cases hstands : token <:+: gutter width (w.mark && n = w.location.line) n
    · exact iff_of_false (not_prefix_pointed_of_occurs hθ htoken hne hstands t)
        fun h => h.elim hne fun hnot => hnot hstands
    · rw [pointed_paintedGutter_append hθ, pointed_paintedGutter_of_not_occurs hθ hne hstands]
      exact iff_of_true (List.prefix_append _ _) (.inr hstands)

/-! ## Windows -/

/-- **The block of a window whose code matters**: only the first line of the row of the location is
searched for the token. -/
theorem render_eq_searched {octets : Text.Octets} {above below : List Text} {row : Text}
    (hcode : w.emphasis = .code) (hfile : v.files w.location.path = some octets)
    (htarget : w.target? = some above.length)
    (hrows : unlines (w.annotate v.theme (w.rows v.theme (sourceLines octets))) =
      unlines (above ++ row :: below)) (hsingle : ∀ r ∈ above ++ row :: below, newline ∉ r) :
    w.render v = w.heading v ++ newline ::
      (unlines above ++ (v.theme.pointed w.token (row ++ [newline]) ++ unlines below)) := by
  have hblock : w.block v =
      unlines above ++ (v.theme.pointed w.token (row ++ [newline]) ++ unlines below) := by
    unfold block pointOut
    rw [hfile]
    dsimp only
    rw [htarget, hrows]
    dsimp only
    rw [Theme.highlight_eq_mapLineAt, Text.mapLineAt_unlines_append_cons hsingle]
  unfold render heading
  rw [hcode, hblock]

theorem annotate_tokenless (rows : List Text) :
    w.tokenless.annotate θ rows = w.annotate θ rows := by
  have htarget : w.tokenless.target? = w.target? := rfl
  have hnoted : w.tokenless.noted θ = w.noted θ := rfl
  rw [annotate_eq, annotate_eq, htarget, hnoted]

theorem rows_tokenless (lines : List Text) : w.tokenless.rows θ lines = w.rows θ lines := rfl

/-- The block of a window that does not show the row of its location consists of the other rows. -/
theorem block_eq_of_length_le {octets : Text.Octets}
    (hfile : v.files w.location.path = some octets)
    (h : ∀ target ∈ w.target?, (w.shown (sourceLines octets)).length ≤ target) :
    w.block v = unlines (w.rows v.theme (sourceLines octets)) := by
  have hsingle := newline_notMem_of_mem_rows v.theme w octets
  have hlength : (w.rows v.theme (sourceLines octets)).length =
      (w.shown (sourceLines octets)).length := by
    rw [rows_eq_map_rowOf, List.length_map]
  unfold block pointOut
  rw [hfile]
  dsimp only
  rw [annotate_eq]
  cases htarget : w.target? with
  | none => rfl
  | some target =>
    have hle : (w.rows v.theme (sourceLines octets)).length ≤ target := by
      rw [hlength]
      exact h target (Option.mem_def.2 htarget)
    have hlines : (Text.lines (unlines (w.rows v.theme (sourceLines octets)))).length ≤ target := by
      rwa [Text.lines_unlines hsingle, List.length_map]
    dsimp only
    rw [List.modify_eq_self hle, Theme.highlight_eq_mapLineAt, Text.mapLineAt_of_length_le hlines]

/-- The token changes nothing in a window that does not show the row of its location. -/
theorem render_eq_tokenless_of_length_le {octets : Text.Octets}
    (hcode : w.emphasis = .code) (hfile : v.files w.location.path = some octets)
    (h : ∀ target ∈ w.target?, (w.shown (sourceLines octets)).length ≤ target) :
    w.render v = w.tokenless.render v := by
  have hcode' : w.tokenless.emphasis = .code := hcode
  have hblock : w.block v = w.tokenless.block v := by
    rw [block_eq_of_length_le hfile h, block_eq_of_length_le (w := w.tokenless) hfile h,
      rows_tokenless]
  unfold render
  rw [hcode, hcode', hblock]
  rfl

/-- The row of the location consists of its gutter and what is said behind it; the rows above it are
those of the lines above. -/
theorem exists_said {octets : Text.Octets} {before after : List (UInt64 × Text)} {line : Text}
    (hshown : w.shown (sourceLines octets) = before ++ (n, line) :: after)
    (htarget : w.target? = some before.length) :
    let rowOf := w.rowOf θ (sourceLines octets)
    let painted := w.paintedGutter θ (w.width (sourceLines octets)) n
    ∃ (said : Text) (rest : List Text),
      w.noted θ (rowOf (n, line)) ++ newline :: unlines (after.map rowOf) =
        painted ++ (said ++ newline :: unlines rest) ∧
      unlines (w.annotate θ (w.rows θ (sourceLines octets))) =
        unlines (before.map rowOf ++ (painted ++ said) :: rest) ∧
      ∀ r ∈ before.map rowOf ++ (painted ++ said) :: rest, newline ∉ r := by
  intro rowOf painted
  have hrows : w.rows θ (sourceLines octets) =
      before.map rowOf ++ rowOf (n, line) :: after.map rowOf := by
    rw [rows_eq_map_rowOf, hshown, List.map_append, List.map_cons]
  have hplace : w.target? = some (before.map rowOf).length := by
    rw [List.length_map, htarget]
  obtain ⟨note, rest, hunlines, hsingle, -⟩ := exists_unlines_annotate (θ := θ)
    (fun r hr => newline_notMem_of_mem_rows θ w octets r (hrows ▸ hr)) hplace
  have hrow : rowOf (n, line) ++ note = painted ++ (' ' :: θ.coloured line ++ note) := by
    show w.row θ (w.width (sourceLines octets)) n (θ.coloured line) ++ note = _
    rw [row_eq_paintedGutter, List.append_assoc]
  have hannotate : w.annotate θ (before.map rowOf ++ rowOf (n, line) :: after.map rowOf) =
      before.map rowOf ++ w.noted θ (rowOf (n, line)) :: after.map rowOf := by
    rw [annotate_eq, hplace]
    dsimp only
    rw [Text.modify_append_cons]
  rw [hrow] at hunlines hsingle
  refine ⟨' ' :: θ.coloured line ++ note, rest, ?_, by rw [hrows, hunlines], hsingle⟩
  rw [hannotate, Text.unlines_append, Text.unlines_append, Text.unlines_cons, Text.unlines_cons,
    List.append_cancel_left_eq] at hunlines
  rw [hunlines, List.append_assoc]

/-- **The gutter is kept exactly if the token does not stand in it.** In a window whose code matters
and whose file can be read, with any token and any message: if the row of the location is not shown,
nothing is changed by the token. Otherwise the rows above and everything below the row of the location
are what they are without the token, gutters included; the row itself has its gutter and what stands
behind it searched one apart from the other. So it starts with its painted gutter exactly if there is
no token or it does not stand in the gutter. -/
theorem gutter_kept_iff {v : View} {w : Window} {octets : Text.Octets}
    (hθ : v.theme.paints = true) (hcode : w.emphasis = .code)
    (hfile : v.files w.location.path = some octets) (htoken : escape ∉ w.token) :
    ((∀ target ∈ w.target?, (w.shown (sourceLines octets)).length ≤ target) →
      w.render v = w.tokenless.render v) ∧
    ∀ (before after : List (UInt64 × Text)) (n : UInt64) (line : Text),
      w.shown (sourceLines octets) = before ++ (n, line) :: after →
      w.target? = some before.length →
      let rowOf := w.rowOf v.theme (sourceLines octets)
      let width := w.width (sourceLines octets)
      let painted := w.paintedGutter v.theme width n
      ∃ said below : Text,
        w.noted v.theme (rowOf (n, line)) ++ newline :: unlines (after.map rowOf) =
          painted ++ (said ++ newline :: below) ∧ newline ∉ said ∧
        w.tokenless.render v = w.heading v ++ newline ::
          (unlines (before.map rowOf) ++ (painted ++ (said ++ newline :: below))) ∧
        w.render v = w.heading v ++ newline ::
          (unlines (before.map rowOf) ++ (v.theme.pointed w.token painted ++
            (v.theme.pointed w.token (said ++ [newline]) ++ below))) ∧
        (painted <+: v.theme.pointed w.token painted ++
            v.theme.pointed w.token (said ++ [newline]) ↔
          w.token = [] ∨ ¬ w.token <:+: gutter width (w.mark && n = w.location.line) n) := by
  refine ⟨render_eq_tokenless_of_length_le hcode hfile, ?_⟩
  intro before after n line hshown htarget rowOf width painted
  have hplace : w.target? = some (before.map rowOf).length := by
    rw [List.length_map, htarget]
  obtain ⟨said, rest, hnoted, hunlines, hsingle⟩ := exists_said (θ := v.theme) hshown htarget
  have hsaid : newline ∉ said := by
    have h := hsingle _ (List.mem_append_right _ (List.mem_cons_self ..))
    exact fun hmem => h (List.mem_append_right _ hmem)
  have hsearched : v.theme.pointed w.token (painted ++ said ++ [newline]) =
      v.theme.pointed w.token painted ++ v.theme.pointed w.token (said ++ [newline]) := by
    rw [List.append_assoc, pointed_paintedGutter_append hθ]
  refine ⟨said, unlines rest, hnoted, hsaid, ?_, ?_, ?_⟩
  · rw [← annotate_tokenless, ← rows_tokenless] at hunlines
    have hrender := render_eq_searched (w := w.tokenless) hcode hfile hplace hunlines hsingle
    have hnothing : v.theme.pointed w.tokenless.token (painted ++ said ++ [newline]) =
        painted ++ said ++ [newline] := Theme.pointed_nil v.theme _
    rw [hrender, hnothing]
    simp only [List.append_assoc, List.singleton_append]
    rfl
  · rw [render_eq_searched hcode hfile hplace hunlines hsingle, hsearched, List.append_assoc]
  · rw [← pointed_paintedGutter_append hθ]
    exact prefix_pointed_iff hθ htoken _

/-- Without its arrow the gutter holds no hyphen, so the name of an operator is pointed out behind it
only. -/
theorem gutter_kept_unmarked :
    let v : View := {
      theme := {}
      directory := ⟨"/app".toList⟩
      files := fun _ => some [120, 10, 97, 32, 45, 32, 98, 10] }
    let w : Window := {
      location := ⟨⟨"/app/a.rb".toList⟩, 2, "m".toList⟩
      range := ⟨-1, 0⟩
      highlight := some "-".toList
      message := some "- is\nundefined".toList
      mark := false }
    let painted := w.paintedGutter {} 5 2
    ∃ said below : Text,
      w.render v = w.heading v ++ newline ::
        (unlines [w.paintedGutter {} 5 1 ++ " x".toList] ++ (v.theme.pointed w.token painted ++
          (v.theme.pointed w.token (said ++ [newline]) ++ below))) ∧
      painted <+: v.theme.pointed w.token painted ++
        v.theme.pointed w.token (said ++ [newline]) := by
  intro v w painted
  have hshown : w.shown (sourceLines [120, 10, 97, 32, 45, 32, 98, 10]) =
      [(1, "x".toList)] ++ (2, "a - b".toList) :: [] := by decide +kernel
  have hwidth : w.width (sourceLines [120, 10, 97, 32, 45, 32, 98, 10]) = 5 := by decide +kernel
  have hrow : w.rowOf {} (sourceLines [120, 10, 97, 32, 45, 32, 98, 10]) (1, "x".toList) =
      w.paintedGutter {} 5 1 ++ " x".toList := by decide +kernel
  obtain ⟨said, below, -, -, -, hrender, hstarts⟩ :=
    (gutter_kept_iff (v := v) (w := w) rfl rfl rfl (by decide)).2 _ _ _ _ hshown (by decide +kernel)
  rw [hwidth] at hrender hstarts
  refine ⟨said, below, ?_, hstarts.2 (.inr ?_)⟩
  · rw [hrender, List.map_singleton, hrow]
  · intro hoccurs
    -- the gutter has no such character
    have hhyphen : '-' ∈ gutter 5 (w.mark && (2 : UInt64) = w.location.line) 2 :=
      hoccurs.subset (List.mem_singleton_self '-')
    exact absurd hhyphen (by decide +kernel)

/-- **The arrow can be pointed out.** With an operator as token, the arrow in front of the line of the
location is taken for the operator. -/
theorem gutter_pointed_out :
    ¬ ∀ (v : View) (w : Window) (octets : Text.Octets), v.theme.paints = true →
      w.emphasis = .code → v.files w.location.path = some octets →
      escape ∉ Text.Utf8.decode octets → (∀ message ∈ w.message, escape ∉ message) →
      escape ∉ w.token → ∀ block, w.render v = w.heading v ++ newline :: block →
      ∀ x ∈ w.shown (sourceLines octets), ∃ row ∈ Text.lines block,
        w.paintedGutter v.theme (w.width (sourceLines octets)) x.1 <+: row := by
  intro hkept
  let v : View := {
    theme := {}
    directory := ⟨"/app".toList⟩
    files := fun _ => some [97, 32, 45, 32, 98, 10] }
  let w : Window := {
    location := ⟨⟨"/app/a.rb".toList⟩, 1, "m".toList⟩
    range := ⟨0, 0⟩
    highlight := some "-".toList }
  have hrender : w.render v = w.heading v ++ newline ::
      "\x1b[33m\x1b[1;91m\x1b[7m-\x1b[0m> 1:\x1b[0m\x1b[33m\x1b[0m a \x1b[7m-\x1b[0m b\n".toList := by
    decide +kernel
  have hshown : (1, "a - b".toList) ∈ w.shown (sourceLines [97, 32, 45, 32, 98, 10]) := by
    decide +kernel
  have hpainted : w.paintedGutter v.theme (w.width (sourceLines [97, 32, 45, 32, 98, 10])) 1 =
      "\x1b[33m\x1b[1;91m-> 1:\x1b[0m\x1b[33m\x1b[0m".toList := by
    decide +kernel
  obtain ⟨row, hrow, hstarts⟩ :=
    hkept v w _ rfl rfl rfl (by decide) (by decide) (by decide) _ hrender _ hshown
  rw [hpainted] at hstarts
  obtain rfl : row = _ := List.mem_singleton.1 hrow
  exact absurd hstarts (by decide)

end Window

end ErrorReport
