/-
# ErrorReport.Proofs.Placeholder — windows onto files that cannot be read.

Under the heading of such a window stands the placeholder, moved to the right and faint where only
the path matters. It does not depend on what the window asks for, with one exception: where only the
path matters the token is pointed out once more in the finished block, and nothing keeps it from
being found in the placeholder. `PointsOutPlaceholder` says exactly when that happens
(`render_eq_missing_iff`).
-/
import ErrorReport.Proofs.Aim

namespace ErrorReport

open Text (escape newline unlines)
open Terminal (Theme Style)

namespace Window

variable {θ : Theme} {v : View} {w : Window}

/-! ## The placeholder -/

/-- The only line of the placeholder. -/
def placeholderLine : Text := "Can't find code".toList

/-- What stands under the heading of a window whose file cannot be read. -/
def missing (θ : Theme) : Emphasis → Text
  | .code => placeholderLine ++ [newline]
  | .path => θ.paint .faint (margin ++ placeholderLine) ++ [newline]

/-- The token of a window is pointed out in the placeholder: where only the path matters and the
location is that of the first line shown, it is found in the line moved to the right or is the
newline behind it. -/
structure PointsOutPlaceholder (θ : Theme) (w : Window) : Prop where
  paints : θ.paints = true
  emphasis : w.emphasis = .path
  target : w.target? = some 0
  nonempty : w.token ≠ []
  found : w.token <:+: margin ++ placeholderLine ∨ w.token = [newline]

theorem placeholder_eq_unlines : placeholder = unlines [placeholderLine] := rfl

/-- The placeholder where only the path matters, before its token is pointed out. -/
theorem faded_indented_placeholder (hpath : w.emphasis = .path) :
    θ.faded (Theme.indented margin placeholder) = missing θ .path := by
  have hsingle : ∀ row ∈ [placeholderLine], newline ∉ row :=
    List.forall_mem_singleton.2 (by decide)
  rw [placeholder_eq_unlines, faded_indented_unlines hpath hsingle]
  have hsettled : w.settled θ placeholderLine = θ.paint .faint (margin ++ placeholderLine) := by
    have hstrip : Terminal.strip (margin ++ placeholderLine) = margin ++ placeholderLine :=
      Terminal.strip_of_notMem (by decide)
    simp only [settled, hpath, Theme.dulled, hstrip]
    cases hname : θ.name with
    | plain => rw [Theme.paint, if_neg (by simp [Theme.paints, hname])]
    | ansi => rfl
  rw [List.map_singleton, hsettled, missing]
  simp [unlines]

theorem render_missing (hfile : v.files w.location.path = none) :
    w.render v = w.heading v ++ newline ::
      match w.emphasis with
      | .code => missing v.theme .code
      | .path => w.pointOut v.theme (missing v.theme .path) := by
  have hblock : w.block v = placeholder := by
    unfold block
    rw [hfile]
  unfold render heading
  rw [hblock]
  cases hemphasis : w.emphasis with
  | code => rfl
  | path =>
    dsimp only
    rw [faded_indented_placeholder hemphasis]

/-! ## The token -/

/-- Pointing out a token in the placeholder: the faint line and its newline are searched
separately. -/
theorem pointed_missing (hθ : θ.paints = true) {token : Text} (hne : token ≠ []) :
    θ.pointed token (missing θ .path) =
      Style.faint.opening ++
        Text.substitute token (Style.highlight.paint token) (margin ++ placeholderLine) ++
        Terminal.reset ++ Text.substitute token (Style.highlight.paint token) [newline] := by
  have hopening : Style.faint.opening = Terminal.sgr Style.faint.parameters := rfl
  have hpainted : missing θ .path = [] ++ (Terminal.sgr Style.faint.parameters ++
      ((margin ++ placeholderLine) ++ (Terminal.sgr ['0'] ++ [newline]))) := by
    rw [missing, Theme.paint, if_pos hθ, Terminal.paint_of_notMem (by decide) (by decide), hopening]
    simp [Terminal.reset]
  have hnil : Text.substitute token (Style.highlight.paint token) [] = [] := rfl
  rw [Theme.pointed_eq hθ hne, hpainted,
    Terminal.mapVisible_append_sgr _ _ (Style.all_isParameter_parameters _),
    Terminal.mapVisible_append_sgr _ _ (by decide),
    Terminal.mapVisible_of_notMem hnil List.not_mem_nil,
    Terminal.mapVisible_of_notMem hnil (show escape ∉ margin ++ placeholderLine by decide),
    Terminal.mapVisible_of_notMem hnil (show escape ∉ [newline] by decide), hnil, hopening]
  simp [Terminal.reset]

/-- A token that is found in the line or is its newline makes the placeholder longer. -/
theorem length_pointed_missing (hθ : θ.paints = true) {token : Text} (hne : token ≠ [])
    (hfound : token <:+: margin ++ placeholderLine ∨ token = [newline]) :
    (missing θ .path).length < (θ.pointed token (missing θ .path)).length := by
  have htoken : escape ∉ token := by
    rcases hfound with hoccurs | rfl
    · exact fun hmem => absurd (hoccurs.subset hmem) (by decide)
    · decide
  have hlonger : token.length < (Style.highlight.paint token).length := by
    have hopening : 0 < Style.highlight.opening.length := by decide
    rw [Terminal.paint_of_notMem (by decide) htoken]
    simp only [List.length_append]
    omega
  obtain ⟨hlineLe, hlineLt⟩ := Text.length_substitute hne hlonger (margin ++ placeholderLine)
  obtain ⟨hendLe, hendLt⟩ := Text.length_substitute hne hlonger [newline]
  rw [pointed_missing hθ hne, missing, Theme.paint, if_pos hθ,
    Terminal.paint_of_notMem (by decide) (by decide)]
  rcases hfound with hoccurs | rfl
  · have hlonger := hlineLt hoccurs
    simp only [List.length_append] at hlonger ⊢
    omega
  · have hlonger := hendLt List.infix_rfl
    simp only [List.length_append] at hlineLe ⊢
    omega

/-- A token that is not found in the placeholder leaves it as it is. -/
theorem pointed_missing_of_not_found (hθ : θ.paints = true) {token : Text} (hne : token ≠ [])
    (hfound : ¬ (token <:+: margin ++ placeholderLine ∨ token = [newline])) :
    θ.pointed token (missing θ .path) = missing θ .path := by
  obtain ⟨hline, hend⟩ := not_or.1 hfound
  have hend : ¬ token <:+: [newline] := by
    intro hoccurs
    rcases List.infix_cons_iff.1 hoccurs with hprefix | hnil
    · rcases List.prefix_cons_iff.1 hprefix with hnil | ⟨rest, rfl, hrest⟩
      · exact hne hnil
      · exact hend (by rw [List.prefix_nil.1 hrest])
    · exact hne (List.infix_nil.1 hnil)
  rw [pointed_missing hθ hne, Text.substitute_eq_self hne hline,
    Text.substitute_eq_self hne hend, missing, Theme.paint, if_pos hθ,
    Terminal.paint_of_notMem (by decide) (by decide)]

/-- **The placeholder is changed exactly if the token is pointed out in it.** -/
theorem pointOut_missing_eq_iff (hpath : w.emphasis = .path) :
    w.pointOut θ (missing θ .path) = missing θ .path ↔ ¬ w.PointsOutPlaceholder θ := by
  have hline : newline ∉ θ.paint .faint (margin ++ placeholderLine) :=
    Terminal.newline_notMem_paint θ .faint (by decide)
  unfold pointOut
  cases htarget : w.target? with
  | none =>
    refine iff_of_true rfl fun h => ?_
    cases htarget.symm.trans h.target
  | some target =>
    have hrow : θ.highlight target w.token (missing θ .path) =
        if target = 0 then θ.pointed w.token (missing θ .path) else missing θ .path := by
      rw [Theme.highlight_eq_mapLineAt, missing, Text.mapLineAt_single hline]
    dsimp only
    rw [hrow]
    split
    · next hzero =>
      subst hzero
      cases hpaints : θ.paints with
      | false =>
        refine iff_of_true (Theme.pointed_of_not_paints hpaints _ _) fun h => ?_
        rw [h.paints] at hpaints
        cases hpaints
      | true =>
        by_cases hne : w.token = []
        · rw [hne, Theme.pointed_nil]
          exact iff_of_true rfl fun h => h.nonempty hne
        · by_cases hfound : w.token <:+: margin ++ placeholderLine ∨ w.token = [newline]
          · refine iff_of_false (fun heq => ?_) (not_not.2 ⟨hpaints, hpath, htarget, hne, hfound⟩)
            have hlonger := length_pointed_missing hpaints hne hfound
            rw [heq] at hlonger
            exact absurd hlonger (Nat.lt_irrefl _)
          · exact iff_of_true (pointed_missing_of_not_found hpaints hne hfound)
              fun h => hfound h.found
    · next hzero =>
      refine iff_of_true rfl fun h => hzero ?_
      exact Option.some.inj (htarget.symm.trans h.target)

/-! ## Windows -/

/-- **A window onto a file that cannot be read** shows the placeholder and nothing else, exactly if
its token is not pointed out in it. -/
theorem render_eq_missing_iff (hfile : v.files w.location.path = none) :
    w.render v = w.heading v ++ newline :: missing v.theme w.emphasis ↔
      ¬ w.PointsOutPlaceholder v.theme := by
  rw [render_missing hfile, List.append_cancel_left_eq, List.cons.injEq]
  cases hemphasis : w.emphasis with
  | code =>
    refine iff_of_true ⟨rfl, rfl⟩ fun h => ?_
    rw [h.emphasis] at hemphasis
    cases hemphasis
  | path =>
    dsimp only
    rw [pointOut_missing_eq_iff hemphasis]
    exact and_iff_right rfl

/-- The heading of a window depends on its path, its line and its emphasis only. -/
theorem heading_congr {w' : Window} (hpath : w'.location.path = w.location.path)
    (hline : w'.location.line = w.location.line) (hemphasis : w'.emphasis = w.emphasis) :
    w'.heading v = w.heading v := by
  unfold heading header Location.fileName
  rw [hpath, hline, hemphasis]

/-- **A file that cannot be read shows the same placeholder in every window.** Under the heading
stands the placeholder, as it is where the code matters, moved to the right and faint where only the
path matters, if and only if the token is not pointed out in it. So two windows with the same path,
line and emphasis are the same text, whatever their ranges, tokens, labels, messages and marks, if
the tokens are not pointed out in the placeholder. -/
theorem unreadable_file_shows_placeholder {v : View} {w : Window}
    (hfile : v.files w.location.path = none) :
    (w.render v = w.heading v ++ newline :: missing v.theme w.emphasis ↔
      ¬ w.PointsOutPlaceholder v.theme) ∧
    ∀ w' : Window, w'.location.path = w.location.path → w'.location.line = w.location.line →
      w'.emphasis = w.emphasis → ¬ w.PointsOutPlaceholder v.theme →
      ¬ w'.PointsOutPlaceholder v.theme → w'.render v = w.render v := by
  refine ⟨render_eq_missing_iff hfile, ?_⟩
  intro w' hpath hline hemphasis hw hw'
  have hfile' : v.files w'.location.path = none := by rwa [hpath]
  rw [(render_eq_missing_iff hfile).2 hw, (render_eq_missing_iff hfile').2 hw',
    heading_congr hpath hline hemphasis, hemphasis]

/-- A call in a missing file, with and without token, message and mark; the token is part of no
word of the placeholder. -/
theorem unreadable_file_shows_placeholder_call :
    let v : View := { theme := {}, directory := ⟨"/app".toList⟩, files := fun _ => none }
    let w : Window := {
      location := ⟨⟨"/app/a.rb".toList⟩, 1, "finder".toList⟩
      range := ⟨0, 0⟩
      emphasis := .path }
    let w' : Window := {
      location := ⟨⟨"/app/a.rb".toList⟩, 1, "m".toList⟩
      range := ⟨-5, 5⟩
      highlight := some []
      message := some "gone".toList
      mark := false
      emphasis := .path }
    w.render v = w.heading v ++ newline :: missing {} .path ∧ w'.render v = w.render v := by
  intro v w w'
  have hw : ¬ w.PointsOutPlaceholder {} := by
    intro h
    rcases h.found with hoccurs | hend
    · -- the placeholder has no such letter
      have hletter : 'r' ∈ margin ++ placeholderLine :=
        hoccurs.subset (show 'r' ∈ "finder".toList by decide)
      exact absurd hletter (by decide)
    · exact absurd hend (by decide)
  have hw' : ¬ w'.PointsOutPlaceholder {} := fun h => h.nonempty rfl
  have hfile : v.files w.location.path = none := rfl
  obtain ⟨hfixed, hsame⟩ := unreadable_file_shows_placeholder hfile
  exact ⟨hfixed.2 hw, hsame w' rfl rfl rfl hw hw'⟩

/-- **The token can be found in the placeholder.** Two windows onto the first line of a missing
file, where only the path matters: the token of one is a word of the placeholder, which is then
pointed out as if it were source. -/
theorem placeholder_pointed_out :
    ¬ ∀ (v : View) (w w' : Window), v.files w.location.path = none →
      w'.location.path = w.location.path → w'.location.line = w.location.line →
      w'.emphasis = w.emphasis → w'.render v = w.render v := by
  intro hsame
  let v : View := { theme := {}, directory := ⟨"/app".toList⟩, files := fun _ => none }
  let w : Window := {
    location := ⟨⟨"/app/a.rb".toList⟩, 1, "find".toList⟩
    range := ⟨0, 0⟩
    emphasis := .path }
  let w' : Window := { w with highlight := some [] }
  have hword : "find".toList <:+: margin ++ placeholderLine :=
    ⟨margin ++ "Can't ".toList, " code".toList, rfl⟩
  have hfound : w.PointsOutPlaceholder {} := ⟨rfl, rfl, by decide, by decide, .inl hword⟩
  have hempty : ¬ w'.PointsOutPlaceholder {} := fun h => h.nonempty rfl
  have hfixed : w'.render v = w'.heading v ++ newline :: missing v.theme w'.emphasis :=
    (render_eq_missing_iff rfl).2 hempty
  rw [hsame v w w' rfl rfl rfl rfl] at hfixed
  exact (render_eq_missing_iff rfl).1 hfixed hfound

end Window

end ErrorReport
