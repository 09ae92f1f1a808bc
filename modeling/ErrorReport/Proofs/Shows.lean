/-
# ErrorReport.Proofs.Shows — the same text with and without colours.

`Shows θ a p` says that `a` is how the theme `θ` writes what the plain theme writes as `p`: without
its escape sequences `a` is `p`, and `a` is `p` itself if `θ` does not paint. The relation is kept
when texts are joined and by every operation of the themes, so that a proof about a report only has
to follow the structure of the report.
-/
import ErrorReport.Proofs.Block
import Mathlib.Data.List.Forall2

namespace ErrorReport.Terminal

open Text (escape newline)

/-- The theme `θ` writes `a` where the plain theme writes `p`, a text without escape characters. -/
structure Shows (θ : Theme) (a p : Text) : Prop where
  strip_eq : strip a = p
  clean : escape ∉ p
  eq_of_not_paints : θ.paints = false → a = p

namespace Shows

variable {θ : Theme}

/-! ## Joining texts -/

/-- What neither theme decorates is the same in both. -/
theorem refl {t : Text} (h : escape ∉ t) : Shows θ t t where
  strip_eq := strip_of_notMem h
  clean := h
  eq_of_not_paints _ := rfl

theorem clean_strip {a p : Text} (h : Shows θ a p) : escape ∉ strip a := by
  rw [h.strip_eq]
  exact h.clean

theorem append {a p b q : Text} (h : Shows θ a p) (h' : Shows θ b q) :
    Shows θ (a ++ b) (p ++ q) where
  strip_eq := by rw [strip_append h.clean_strip, h.strip_eq, h'.strip_eq]
  clean := List.not_mem_append h.clean h'.clean
  eq_of_not_paints hθ := by rw [h.eq_of_not_paints hθ, h'.eq_of_not_paints hθ]

theorem cons {a p : Text} {c : Char} (hc : c ≠ escape) (h : Shows θ a p) :
    Shows θ (c :: a) (c :: p) := by
  have hrefl : Shows θ [c] [c] := refl (by simpa using Ne.symm hc)
  exact hrefl.append h

theorem flatMap {ι : Type} {is : List ι} {f g : ι → Text} (h : ∀ i ∈ is, Shows θ (f i) (g i)) :
    Shows θ (is.flatMap f) (is.flatMap g) := by
  induction is with
  | nil => exact refl (by simp)
  | cons i is ih =>
    obtain ⟨hi, his⟩ := List.forall_mem_cons.1 h
    rw [List.flatMap_cons, List.flatMap_cons]
    exact hi.append (ih his)

theorem flatten {as ps : List Text} (h : List.Forall₂ (Shows θ) as ps) :
    Shows θ as.flatten ps.flatten := by
  induction h with
  | nil => exact refl (by simp)
  | cons h _ ih =>
    rw [List.flatten_cons, List.flatten_cons]
    exact h.append ih

theorem intercalate {s r : Text} {as ps : List Text} (hs : Shows θ s r)
    (h : List.Forall₂ (Shows θ) as ps) : Shows θ (s.intercalate as) (r.intercalate ps) := by
  induction h with
  | nil => exact refl (by simp)
  | cons h htail ih =>
    cases htail with
    | nil => simpa using h
    | cons h' htail =>
      rw [List.intercalate_cons_cons, List.intercalate_cons_cons]
      exact (h.append hs).append ih

theorem unlines {as ps : List Text} (h : List.Forall₂ (Shows θ) as ps) :
    Shows θ (Text.unlines as) (Text.unlines ps) := by
  induction h with
  | nil => exact refl (by simp [Text.unlines])
  | cons h _ ih =>
    rw [Text.unlines_cons, Text.unlines_cons]
    exact h.append (ih.cons (by decide))

theorem modify {as ps : List Text} {f g : Text → Text} (index : Nat)
    (hfg : ∀ a p, Shows θ a p → Shows θ (f a) (g p)) (h : List.Forall₂ (Shows θ) as ps) :
    List.Forall₂ (Shows θ) (as.modify index f) (ps.modify index g) := by
  induction h generalizing index with
  | nil => simp
  | cons h htail ih =>
    cases index with
    | zero => exact .cons (hfg _ _ h) htail
    | succ index => exact .cons h (ih index)

/-- What every theme shows as one text, it shows as the plain theme does. -/
theorem of_forall {f : Theme → Text} {p : Text} (h : ∀ θ, Shows θ (f θ) p) (θ : Theme) :
    Shows θ (f θ) (f { name := .plain }) := by
  rw [(h { name := .plain }).eq_of_not_paints rfl]
  exact h θ

/-! ## Painting -/

/-- **Painting is shown as its text.** -/
theorem paint {a p : Text} (s : Style) (h : Shows θ a p) : Shows θ (θ.paint s a) p := by
  rw [Theme.paint]
  split
  · next hpaints =>
    refine ⟨?_, h.clean, fun hθ => absurd hpaints (by simp [hθ])⟩
    rw [strip_paint s h.clean_strip, h.strip_eq]
  · exact h

theorem coloured {line : Text} (h : escape ∉ line) : Shows θ (θ.coloured line) line := by
  have hlexemes : Shows θ (θ.coloured line) ((Source.lexemes line).flatMap Source.Lexeme.text) := by
    rw [Theme.coloured]
    apply flatMap
    intro lexeme hmem
    have hclean : escape ∉ lexeme.text := fun hin =>
      h (Source.text_subset_of_mem_lexemes hmem hin)
    split
    · exact (refl hclean).paint _
    · exact refl hclean
  rwa [Source.lexemes_text] at hlexemes

/-! ## Changing finished text -/

/-- Changing the visible stretches of a text in a way that does not show does not show. -/
theorem mapVisible {a p : Text} {f : Text → Text} (hf : ∀ t, escape ∉ t → Shows θ (f t) t)
    (h : Shows θ a p) : Shows θ (mapVisible f a) p := by
  have hsegments : Shows θ (Terminal.mapVisible f a)
      ((segments a).flatMap Segment.visibleText) := by
    rw [Terminal.mapVisible]
    apply flatMap
    intro seg hmem
    cases seg with
    | visible t =>
      apply hf
      intro hin
      exact h.clean_strip (List.mem_flatMap.2 ⟨_, hmem, hin⟩)
    | sequence parameters =>
      obtain ⟨hall, hescape⟩ := of_mem_segments_sequence hmem
      refine ⟨?_, by simp [Segment.visibleText], ?_⟩
      · have := strip_sgr_append hall []
        simpa [Segment.visibleText] using this
      · -- a theme that does not paint writes no sequence
        intro hθ
        rw [h.eq_of_not_paints hθ] at hescape
        exact absurd hescape h.clean
  rwa [← strip, h.strip_eq] at hsegments

theorem of_append_newline {b t p : Text} (h : Shows θ (b ++ newline :: t) p) :
    Shows θ b (strip b) ∧ Shows θ t (strip t) ∧ p = strip b ++ newline :: strip t := by
  have heq : strip b ++ newline :: strip t = p := by
    rw [← strip_append_newline, h.strip_eq]
  have hclean : escape ∉ strip b ++ newline :: strip t := heq ▸ h.clean
  have hb : escape ∉ strip b := fun hmem => hclean (List.mem_append_left _ hmem)
  have ht : escape ∉ strip t := fun hmem =>
    hclean (List.mem_append_right _ (List.mem_cons_of_mem _ hmem))
  -- without painting there is no sequence in the whole, and so none in its parts
  have hexact : θ.paints = false → b = strip b ∧ t = strip t := by
    intro hθ
    have hnone : escape ∉ b ++ newline :: t := by
      rw [h.eq_of_not_paints hθ]
      exact h.clean
    constructor
    · exact (strip_of_notMem fun hmem => hnone (List.mem_append_left _ hmem)).symm
    · exact (strip_of_notMem fun hmem =>
        hnone (List.mem_append_right _ (List.mem_cons_of_mem _ hmem))).symm
  exact ⟨⟨rfl, hb, fun hθ => (hexact hθ).1⟩, ⟨rfl, ht, fun hθ => (hexact hθ).2⟩, heq.symm⟩

theorem of_mem_lines {a p line : Text} (h : Shows θ a p) (hline : line ∈ Text.lines a) :
    Shows θ line (strip line) := by
  induction a using Text.lineInduction generalizing p with
  | nil => simp [Text.lines] at hline
  | last b hne hb =>
    rw [Text.lines_of_notMem hb hne, List.mem_singleton] at hline
    rw [hline, h.strip_eq]
    exact h
  | line b t hb ih =>
    obtain ⟨hfirst, hrest, -⟩ := h.of_append_newline
    rw [Text.lines_append_newline hb, List.mem_cons] at hline
    rcases hline with rfl | hline
    · have hnewline : Shows θ (b ++ [newline]) (strip b ++ [newline]) :=
        hfirst.append (refl (by decide))
      rw [hnewline.strip_eq]
      exact hnewline
    · exact ih hrest hline

theorem of_unlines {rows : List Text} {p : Text} (h : Shows θ (Text.unlines rows) p) :
    (∀ row ∈ rows, Shows θ row (strip row)) ∧ p = Text.unlines (rows.map strip) := by
  induction rows generalizing p with
  | nil =>
    have hp : strip [] = p := h.strip_eq
    rw [strip_nil] at hp
    exact ⟨by simp, hp.symm⟩
  | cons row rows ih =>
    rw [Text.unlines_cons] at h
    obtain ⟨hrow, hrows, rfl⟩ := h.of_append_newline
    obtain ⟨hall, heq⟩ := ih hrows
    rw [List.map_cons, Text.unlines_cons, ← heq]
    exact ⟨List.forall_mem_cons.2 ⟨hrow, hall⟩, rfl⟩

theorem mapLineAt {a p : Text} {f : Text → Text} (index : Nat)
    (hf : ∀ b q, Shows θ b q → Shows θ (f b) q) (h : Shows θ a p) :
    Shows θ (Text.mapLineAt index f a) p := by
  have hlines : Shows θ (Text.mapLineAt index f a)
      ((Text.lines a).zipIdx.flatMap fun line => strip line.1) := by
    rw [Text.mapLineAt, List.mapIdx_eq_zipIdx_map, ← List.flatMap_def]
    apply flatMap
    rintro ⟨line, i⟩ hmem
    have hline : Shows θ line (strip line) := h.of_mem_lines (List.fst_mem_of_mem_zipIdx hmem)
    show Shows θ (if i = index then f line else line) (strip line)
    split
    · exact hf line _ hline
    · exact hline
  -- the same lines unchanged, which are the whole text
  have hself : Shows θ (Text.lines a).flatten
      ((Text.lines a).zipIdx.flatMap fun line => strip line.1) := by
    have hzip : (Text.lines a).zipIdx.flatMap Prod.fst = (Text.lines a).flatten := by
      rw [List.flatMap_def, List.zipIdx_map_fst]
    rw [← hzip]
    apply flatMap
    rintro ⟨line, i⟩ hmem
    exact h.of_mem_lines (List.fst_mem_of_mem_zipIdx hmem)
  rw [Text.lines_flatten] at hself
  rwa [← hself.strip_eq, h.strip_eq] at hlines

theorem pointed {a p token : Text} (htoken : escape ∉ token) (h : Shows θ a p) :
    Shows θ (θ.pointed token a) p := by
  unfold Theme.pointed
  cases θ.name with
  | plain => exact h
  | ansi =>
    by_cases hne : token = []
    · simpa only [if_pos hne] using h
    · simp only [if_neg hne]
      apply h.mapVisible
      intro t ht
      have hpieces : Shows θ (Text.substitute token (θ.paint .highlight token) t)
          ((Text.pieces token t).flatMap (Text.Piece.toText token)) := by
        rw [Text.substitute]
        apply flatMap
        intro piece hpiece
        cases piece with
        | token => exact (refl htoken).paint _
        | other c =>
          exact refl fun hc => ht (Text.toText_subset_of_mem_pieces hne hpiece hc)
      rwa [Text.flatMap_pieces hne] at hpieces

/-- **Pointing out a token is shown as the text.** -/
theorem highlight {a p token : Text} (index : Nat) (htoken : escape ∉ token) (h : Shows θ a p) :
    Shows θ (θ.highlight index token a) p := by
  rw [Theme.highlight_eq_mapLineAt]
  exact h.mapLineAt index fun _ _ hb => hb.pointed htoken

theorem dulled {a p : Text} (h : Shows θ a p) : Shows θ (θ.dulled a) p := by
  unfold Theme.dulled
  cases θ.name with
  | plain => exact h
  | ansi =>
    simp only [h.strip_eq]
    exact (refl h.clean).paint _

/-- **A block without colours is shown as the block.** -/
theorem faded {a p : Text} (h : Shows θ a p) : Shows θ (θ.faded a) p := by
  rw [Theme.faded]
  split
  · exact h
  · rw [h.strip_eq]
    have hsplit : Shows θ (Text.mapBodies (θ.paint .faint) p)
        ((Text.lines p).flatMap fun line => Text.body line ++ Text.ending line) := by
      rw [Text.mapBodies]
      apply flatMap
      intro line hline
      have hclean : escape ∉ Text.body line ++ Text.ending line := by
        rw [Text.body_append_ending]
        exact fun hmem => h.clean (Text.subset_of_mem_lines hline hmem)
      have hbody : escape ∉ Text.body line := fun hmem =>
        hclean (List.mem_append_left _ hmem)
      have hending : escape ∉ Text.ending line := fun hmem =>
        hclean (List.mem_append_right _ hmem)
      exact ((refl hbody).paint _).append (refl hending)
    simp only [Text.body_append_ending, List.flatMap_id', Text.lines_flatten] at hsplit
    exact hsplit

/-- **A block moved to the right** is shown as the block moved to the right. The text has to be a
block: a sequence behind its last newline would get a margin that nothing visible has. -/
theorem indented {a p margin : Text} (hmargin : escape ∉ margin) (hblock : Text.IsBlock a)
    (h : Shows θ a p) : Shows θ (Theme.indented margin a) (Theme.indented margin p) := by
  obtain ⟨rows, hrows, rfl⟩ := hblock
  obtain ⟨hall, rfl⟩ := h.of_unlines
  have hstripped : ∀ row ∈ rows.map strip, newline ∉ row :=
    List.forall_mem_map.2 fun row hrow hmem => hrows row hrow (strip_subset row hmem)
  rw [Theme.indented, Text.mapLines_unlines margin hrows, Theme.indented,
    Text.mapLines_unlines margin hstripped, List.map_map]
  apply unlines
  rw [List.forall₂_map_left_iff, List.forall₂_map_right_iff, List.forall₂_same]
  intro row hrow
  exact (refl hmargin).append (hall row hrow)

end Shows

/-- **Pointing out a token changes nothing that is visible.** -/
theorem strip_pointed {θ : Theme} (hθ : θ.paints = true) {token row : Text}
    (htoken : escape ∉ token) (h : escape ∉ strip row) : strip (θ.pointed token row) = strip row := by
  have hshows : Shows θ row (strip row) := ⟨rfl, h, fun hoff => absurd hθ (by simp [hoff])⟩
  exact (hshows.pointed htoken).strip_eq

end ErrorReport.Terminal
