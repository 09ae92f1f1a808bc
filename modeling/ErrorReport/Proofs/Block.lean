/-
# ErrorReport.Proofs.Block — what the themes do to the rows of a block.

A theme changes finished blocks as whole texts: it looks for lines and escape sequences in what has
been written. On a block whose rows hold no newlines that comes to the same as changing the rows,
one by one, and leaves a block. `pointed` and `dulled` are what `highlight` and `faded` do to a row.

What makes this work is that a newline separates texts: no sequence and no token without newlines
reaches across it. The same is true of every character that neither sequences nor the token
hold (`mapVisible_append_cons`), and a sequence separates what stands around it (`mapVisible_append_sgr`).
-/
import ErrorReport.Terminal.Theme
import ErrorReport.Proofs.Visible

namespace ErrorReport.Text

theorem toText_subset_of_mem_pieces {token t : Text} {piece : Piece} (hne : token ≠ [])
    (h : piece ∈ pieces token t) : piece.toText token ⊆ t := by
  intro c hc
  rw [← flatMap_pieces hne t]
  exact List.mem_flatMap.2 ⟨piece, h, hc⟩

theorem mem_of_mem_substitute {token new t : Text} {c : Char} (hne : token ≠ [])
    (h : c ∈ substitute token new t) : c ∈ new ∨ c ∈ t := by
  obtain ⟨piece, hpiece, hc⟩ := List.mem_flatMap.1 h
  cases piece with
  | token => exact .inl hc
  | other d => exact .inr (toText_subset_of_mem_pieces hne hpiece hc)

end ErrorReport.Text

namespace ErrorReport.Source

theorem text_subset_of_mem_lexemes {line : Text} {lexeme : Lexeme} (h : lexeme ∈ lexemes line) :
    lexeme.text ⊆ line := by
  intro c hc
  rw [← lexemes_text line]
  exact List.mem_flatMap.2 ⟨lexeme, h, hc⟩

end ErrorReport.Source

namespace ErrorReport.Terminal

open Text (escape newline unlines IsBlock)

/-! ## Changing visible text -/

/-- The text of a segment whose visible text is changed. -/
def Segment.changed (f : Text → Text) : Segment → Text
  | visible t => f t
  | sequence parameters => sgr parameters

theorem mapVisible_eq (f : Text → Text) (t : Text) :
    mapVisible f t = (segments t).flatMap (Segment.changed f) := by
  unfold mapVisible
  congr 1

theorem mapVisible_append_sgr (f : Text → Text) (s : Text) {parameters : Text}
    (h : parameters.all isParameter = true) (t : Text) :
    mapVisible f (s ++ (sgr parameters ++ t)) =
      mapVisible f s ++ (sgr parameters ++ mapVisible f t) := by
  simp only [mapVisible_eq, segments_append_sgr s h, List.flatMap_append, List.flatMap_cons]
  rfl

theorem mapVisible_sgr_append (f : Text → Text) {parameters : Text}
    (h : parameters.all isParameter = true) (t : Text) :
    mapVisible f (sgr parameters ++ t) = sgr parameters ++ mapVisible f t := by
  simp only [mapVisible_eq, segments_sgr_append h, List.flatMap_cons]
  rfl

theorem mapVisible_of_unbroken {f : Text → Text} (hnil : f [] = []) {t : Text} (h : Unbroken t) :
    mapVisible f t = f t := by
  rw [mapVisible_eq, flatMap_segments_of_unbroken hnil h, Segment.changed]

theorem mapVisible_of_notMem {f : Text → Text} (hnil : f [] = []) {t : Text} (h : escape ∉ t) :
    mapVisible f t = f t :=
  mapVisible_of_unbroken hnil (.of_notMem h)

/-- **A change that a character separates** is done on both sides of it, if sequences do not hold
the character either. -/
theorem mapVisible_append_cons {f : Text → Text} {c : Char} (hnil : f [] = [])
    (hf : ∀ s t, f (s ++ c :: t) = f s ++ c :: f t) (hc : isSgrPart c = false)
    (hescape : c ≠ escape) (s t : Text) :
    mapVisible f (s ++ c :: t) = mapVisible f s ++ c :: mapVisible f t := by
  have hchanged : ∀ s t : Text, Segment.changed f (.visible (s ++ c :: t)) =
      Segment.changed f (.visible s) ++ [c] ++ Segment.changed f (.visible t) := by
    intro s t
    rw [Segment.changed, hf, List.append_assoc]
    rfl
  simp only [mapVisible_eq]
  rw [flatMap_segments_append_cons hnil hchanged hc hescape, List.append_assoc]
  rfl

/-! ## Newlines come from nowhere -/

theorem newline_notMem_sgr {parameters : Text} (h : parameters.all isParameter = true) :
    newline ∉ sgr parameters := by
  have := notMem_of_all_isParameter h (show isParameter newline = false by decide)
  intro hmem
  simp only [sgr, List.mem_cons, List.mem_append, List.not_mem_nil, or_false] at hmem
  rcases hmem with (hmem | hmem | hmem) | hmem
  · exact absurd hmem (by decide)
  · exact absurd hmem (by decide)
  · exact this hmem
  · exact absurd hmem (by decide)

theorem newline_notMem_paint (θ : Theme) (s : Style) {t : Text} (h : newline ∉ t) :
    newline ∉ θ.paint s t := by
  obtain ⟨parameters, hall, hopening⟩ := opening_eq_sgr s
  have hstart : newline ∉ s.opening := hopening ▸ newline_notMem_sgr hall
  have hreset : newline ∉ reset := newline_notMem_sgr (by decide)
  have hreopen : newline ∉ Style.reopen s.opening t := by
    induction t using resetInduction with
    | nil => exact h
    | reset t ih =>
      rw [reopen_reset]
      exact List.not_mem_append hreset
        (List.not_mem_append hstart (ih (mt (List.mem_append_right _) h)))
    | cons c t hc ih =>
      obtain ⟨hne, ht⟩ := List.ne_and_not_mem_of_not_mem_cons h
      rw [reopen_cons_of_not_reset _ hc]
      exact List.not_mem_cons_of_ne_of_not_mem hne (ih ht)
  rw [Theme.paint, Style.paint]
  split
  · split
    · exact h
    · exact List.not_mem_append (List.not_mem_append hstart hreopen) hreset
  · exact h

theorem newline_notMem_coloured (θ : Theme) {line : Text} (h : newline ∉ line) :
    newline ∉ θ.coloured line := by
  intro hmem
  obtain ⟨lexeme, hlexeme, hin⟩ := List.mem_flatMap.1 hmem
  have htext : newline ∉ lexeme.text := fun hin =>
    h (Source.text_subset_of_mem_lexemes hlexeme hin)
  split at hin
  · exact newline_notMem_paint θ _ htext hin
  · exact htext hin

theorem newline_notMem_mapVisible {f : Text → Text} (hf : ∀ t, newline ∉ t → newline ∉ f t)
    {t : Text} (h : newline ∉ t) : newline ∉ mapVisible f t := by
  have hall : ∀ segment ∈ segments t, newline ∉ segment.toText := by
    intro segment hsegment hin
    apply h
    rw [← segments_toText t]
    exact List.mem_flatMap.2 ⟨segment, hsegment, hin⟩
  intro hmem
  obtain ⟨segment, hsegment, hin⟩ := List.mem_flatMap.1 hmem
  cases segment with
  | visible u => exact hf u (hall _ hsegment) hin
  | sequence parameters => exact hall _ hsegment hin

namespace Theme

variable (θ : Theme)

/-! ## Pointing out a token -/

/-- A row with the occurrences of a token in its visible text pointed out. -/
def pointed (token row : Text) : Text :=
  match θ.name with
  | .plain => row
  | .ansi =>
    if token = [] then row
    else mapVisible (Text.substitute token (θ.paint .highlight token)) row

theorem pointed_nil (row : Text) : θ.pointed [] row = row := by
  rw [pointed]
  cases θ.name with
  | plain => rfl
  | ansi => rfl

theorem name_eq_ansi {θ : Theme} (h : θ.paints = true) : θ.name = .ansi := by
  simp only [Theme.paints, Bool.and_eq_true, decide_eq_true_eq] at h
  exact h.1

theorem pointed_eq {θ : Theme} (hθ : θ.paints = true) {token : Text} (hne : token ≠ [])
    (row : Text) :
    θ.pointed token row = mapVisible (Text.substitute token (Style.highlight.paint token)) row := by
  have hpaint : θ.paint .highlight token = Style.highlight.paint token := by
    rw [Theme.paint, if_pos hθ]
  unfold pointed
  rw [name_eq_ansi hθ]
  simp only [if_neg hne, hpaint]

/-- A theme that does not paint points nothing out. -/
theorem pointed_of_not_paints {θ : Theme} (hθ : θ.paints = false) (token row : Text) :
    θ.pointed token row = row := by
  have hpaint : θ.paint .highlight token = token := by
    rw [Theme.paint, if_neg (by simp [hθ])]
  unfold pointed
  rw [hpaint]
  cases θ.name with
  | plain => rfl
  | ansi =>
    by_cases hne : token = []
    · simp only [if_pos hne]
    · have hself : Text.substitute token token = id := by
        funext t
        exact Text.flatMap_pieces hne t
      have hchanged : Segment.changed id = Segment.toText := by
        funext segment
        cases segment <;> rfl
      simp only [if_neg hne]
      rw [mapVisible_eq, hself, hchanged, segments_toText]

/-- A token is pointed out on one line. -/
theorem highlight_eq_mapLineAt (index : Nat) (token block : Text) :
    θ.highlight index token block = Text.mapLineAt index (θ.pointed token) block := by
  have hid : Text.mapLineAt index (fun row => row) block = block := by
    rw [Text.mapLineAt]
    simp only [ite_self, List.mapIdx_eq_zipIdx_map, List.zipIdx_map_fst, Text.lines_flatten]
  unfold highlight
  cases hname : θ.name with
  | plain =>
    have : θ.pointed token = fun row => row := by
      funext row
      simp only [pointed, hname]
    rw [this, hid]
  | ansi =>
    by_cases htoken : token = []
    · have : θ.pointed token = fun row => row := by
        funext row
        rw [htoken, pointed_nil]
      simp only [htoken, if_true]
      rw [← htoken, this, hid]
    · have : θ.pointed token = mapVisible (Text.substitute token (θ.paint .highlight token)) := by
        funext row
        simp only [pointed, hname, if_neg htoken]
      simp only [if_neg htoken]
      rw [this]

variable {θ} {token : Text}

/-- A token is pointed out on both sides of a character that neither it nor sequences hold. -/
theorem pointed_append_cons {c : Char} (hc : c ∉ token) (hpart : isSgrPart c = false)
    (hescape : c ≠ escape) (s t : Text) :
    θ.pointed token (s ++ c :: t) = θ.pointed token s ++ c :: θ.pointed token t := by
  unfold pointed
  cases θ.name with
  | plain => rfl
  | ansi =>
    by_cases hne : token = []
    · simp only [if_pos hne]
    · simp only [if_neg hne]
      exact mapVisible_append_cons rfl (Text.substitute_append_cons hne hc _) hpart hescape s t

theorem pointed_row_nil (token : Text) : θ.pointed token [] = [] := by
  unfold pointed
  cases θ.name with
  | plain => rfl
  | ansi => simp [mapVisible]

theorem pointed_append_newline (htoken : newline ∉ token) (row : Text) :
    θ.pointed token (row ++ [newline]) = θ.pointed token row ++ [newline] := by
  rw [pointed_append_cons htoken (by decide) (by decide), pointed_row_nil]

theorem newline_notMem_pointed {row : Text} (htoken : newline ∉ token) (hrow : newline ∉ row) :
    newline ∉ θ.pointed token row := by
  unfold pointed
  cases θ.name with
  | plain => exact hrow
  | ansi =>
    by_cases hne : token = []
    · simpa only [if_pos hne] using hrow
    · simp only [if_neg hne]
      apply newline_notMem_mapVisible _ hrow
      intro t ht hmem
      rcases Text.mem_of_mem_substitute hne hmem with hmem | hmem
      · exact newline_notMem_paint θ _ htoken hmem
      · exact ht hmem

/-- **Pointing out a token on one line of a block** changes one row. -/
theorem highlight_unlines {rows : List Text} (index : Nat) (htoken : newline ∉ token)
    (hrows : ∀ row ∈ rows, newline ∉ row) :
    θ.highlight index token (unlines rows) = unlines (rows.modify index (θ.pointed token)) := by
  rw [highlight_eq_mapLineAt]
  exact Text.mapLineAt_unlines index hrows fun row _ => pointed_append_newline htoken row

theorem isBlock_highlight {block : Text} (index : Nat) (htoken : newline ∉ token)
    (h : IsBlock block) : IsBlock (θ.highlight index token block) := by
  obtain ⟨rows, hrows, rfl⟩ := h
  rw [highlight_unlines index htoken hrows]
  exact Text.isBlock_unlines _

/-! ## Fading -/

/-- A row without colours, faint throughout. -/
def dulled (θ : Theme) (row : Text) : Text :=
  match θ.name with
  | .plain => row
  | .ansi => θ.paint .faint (strip row)

theorem newline_notMem_dulled {row : Text} (h : newline ∉ row) : newline ∉ θ.dulled row := by
  unfold dulled
  cases θ.name with
  | plain => exact h
  | ansi => exact newline_notMem_paint θ _ fun hmem => h (strip_subset row hmem)

/-- **Fading a block** fades its rows. -/
theorem faded_unlines {rows : List Text} (h : ∀ row ∈ rows, newline ∉ row) :
    θ.faded (unlines rows) = unlines (rows.map θ.dulled) := by
  have hdulled : θ.dulled = match θ.name with
      | .plain => id
      | .ansi => θ.paint .faint ∘ strip := by
    funext row
    unfold dulled
    cases θ.name with
    | plain => rfl
    | ansi => rfl
  unfold faded
  rw [hdulled]
  cases θ.name with
  | plain => simp only [List.map_id]
  | ansi =>
    have hstripped : ∀ row ∈ rows.map strip, newline ∉ row :=
      List.forall_mem_map.2 fun row hrow hmem => h row hrow (strip_subset row hmem)
    simp only [strip_unlines, Text.mapBodies_unlines _ hstripped, List.map_map]

end Theme

end ErrorReport.Terminal
