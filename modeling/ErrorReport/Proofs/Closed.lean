/-
# ErrorReport.Proofs.Closed — styles that are turned off again.

A reset turns every style off, any other sequence turns one on; `lit` follows that through a text. A
text is *closed* if all its escape characters open complete sequences and no style is on behind it.
Closed texts can be joined and painted, since painting ends with a reset.

Pointing out a token does not stop at what it finds: the line may be a part of a longer painted
text, with a style on at its end. But what is put in ends with a reset, so whatever is on behind the
new line was on behind the old one. `NoBrighter` is that relation between texts; it is kept by
joining (`NoBrighter.append`), and a text that is no brighter than a closed one is closed.
-/
import ErrorReport.Proofs.Block
import ErrorReport.Proofs.Display

namespace ErrorReport.Terminal

open Text (escape newline unlines)

/-! ## Styles that are on -/

/-- Whether a style is on behind a segment, if `on` says so of the place in front of it. -/
def Segment.lit (on : Bool) : Segment → Bool
  | visible _ => on
  | sequence parameters => parameters != ['0']

/-- Whether a style is on behind a text, if `on` says so of the place in front of it: a reset turns
styles off, any other sequence turns one on. -/
def lit (on : Bool) (t : Text) : Bool := (segments t).foldl Segment.lit on

section

variable {on : Bool}

@[simp]
theorem lit_nil : lit on [] = on := by
  rw [lit, segments]
  rfl

theorem lit_cons {c : Char} {t : Text} (h : c = escape → sgrRest? t = none) :
    lit on (c :: t) = lit on t := by
  rw [lit, segments_cons h, lit]
  unfold Segment.consVisible
  split
  · next u more heq => simp [heq, Segment.lit]
  · simp [Segment.lit]

theorem lit_sgr_append {parameters : Text} (h : parameters.all isParameter = true) (t : Text) :
    lit on (sgr parameters ++ t) = lit (parameters != ['0']) t := by
  rw [lit, segments_sgr_append h, List.foldl_cons]
  rfl

theorem lit_of_notMem {t : Text} (h : escape ∉ t) : lit on t = on := by
  induction t with
  | nil => exact lit_nil
  | cons c t ih =>
    obtain ⟨hc, ht⟩ := List.ne_and_not_mem_of_not_mem_cons h
    rw [lit_cons fun heq => absurd heq.symm hc, ih ht]

/-- Behind two texts is on what the second leaves of what the first leaves. -/
theorem lit_append {s : Text} (h : escape ∉ strip s) (t : Text) :
    lit on (s ++ t) = lit (lit on s) t := by
  induction s using sgrInduction generalizing on with
  | nil => rw [List.nil_append, lit_nil]
  | sequence parameters s hall ih =>
    rw [strip_sgr_append hall] at h
    rw [List.append_assoc, lit_sgr_append hall, lit_sgr_append hall, ih h]
  | visible c s hc ih =>
    rw [strip_cons hc] at h
    obtain ⟨hne, hs⟩ := List.ne_and_not_mem_of_not_mem_cons h
    rw [List.cons_append, lit_cons fun heq => absurd heq.symm hne, lit_cons hc, ih hs]

theorem lit_append_sgr (s : Text) {parameters : Text} (h : parameters.all isParameter = true)
    (t : Text) : lit on (s ++ (sgr parameters ++ t)) = lit (parameters != ['0']) t := by
  rw [lit, segments_append_sgr s h, List.foldl_append, List.foldl_cons]
  rfl

theorem lit_append_paint {a : Style} (ha : a ≠ {}) (s t : Text) :
    lit on (s ++ a.paint t) = false := by
  have hsplit : s ++ a.paint t = s ++ a.opening ++ Style.reopen a.opening t ++ (reset ++ []) := by
    rw [Style.paint, if_neg ha]
    simp only [List.append_assoc, List.append_nil]
  rw [hsplit, reset, lit_append_sgr _ (by decide), lit_nil]
  rfl

theorem lit_paint {a : Style} (ha : a ≠ {}) (t : Text) : lit on (a.paint t) = false :=
  lit_append_paint ha [] t

/-- The more is on in front of a text, the more is on behind it. -/
theorem lit_mono {on' : Bool} (h : on' = true → on = true) {t : Text} (ht : lit on' t = true) :
    lit on t = true := by
  unfold lit at ht ⊢
  generalize segments t = segs at ht ⊢
  induction segs generalizing on on' with
  | nil => exact h ht
  | cons segment segs ih =>
    cases segment with
    | visible u => exact ih h ht
    | sequence parameters => exact ht

/-- A terminal on which nothing is on shows text in its ground. -/
theorem display_snd_of_lit {ground s : Style} {t : Text} (hs : on = false → s = ground)
    (h : lit on t = false) : (display ground s t).2 = ground := by
  unfold lit at h
  unfold display
  generalize segments t = segs at h ⊢
  induction segs generalizing on s with
  | nil => exact hs h
  | cons segment segs ih =>
    cases segment with
    | visible u => exact ih hs h
    | sequence parameters =>
      -- only a reset leaves nothing on
      have hoff : (parameters != ['0']) = false → s.setAll ground parameters = ground := by
        intro hzero
        obtain rfl : parameters = ['0'] := by simpa using hzero
        rfl
      exact ih hoff h

end

/-! ## Closed texts -/

/-- A text of complete sequences and visible characters that leaves no style on. -/
structure Closed (t : Text) : Prop where
  clean : escape ∉ strip t
  lit_eq : lit false t = false

namespace Closed

variable {s t : Text}

theorem of_notMem (h : escape ∉ t) : Closed t where
  clean := by rwa [strip_of_notMem h]
  lit_eq := lit_of_notMem h

theorem append (hs : Closed s) (ht : Closed t) : Closed (s ++ t) where
  clean := by
    rw [strip_append hs.clean]
    exact List.not_mem_append hs.clean ht.clean
  lit_eq := by rw [lit_append hs.clean, hs.lit_eq, ht.lit_eq]

theorem cons {c : Char} (hc : c ≠ escape) (ht : Closed t) : Closed (c :: t) :=
  (of_notMem (t := [c]) (by simpa using Ne.symm hc)).append ht

theorem flatten {ts : List Text} (h : ∀ t ∈ ts, Closed t) : Closed ts.flatten := by
  induction ts with
  | nil => exact of_notMem List.not_mem_nil
  | cons t ts ih =>
    obtain ⟨ht, hts⟩ := List.forall_mem_cons.1 h
    rw [List.flatten_cons]
    exact ht.append (ih hts)

theorem intercalate {ts : List Text} (hs : Closed s) (h : ∀ t ∈ ts, Closed t) :
    Closed (s.intercalate ts) := by
  induction ts with
  | nil => exact of_notMem List.not_mem_nil
  | cons t ts ih =>
    obtain ⟨ht, hts⟩ := List.forall_mem_cons.1 h
    cases ts with
    | nil => simpa using ht
    | cons u ts =>
      rw [List.intercalate_cons_cons]
      exact (ht.append hs).append (ih hts)

theorem unlines {rows : List Text} (h : ∀ row ∈ rows, Closed row) : Closed (unlines rows) := by
  rw [Text.unlines, List.flatMap_def]
  refine flatten (List.forall_mem_map.2 fun row hrow => ?_)
  exact (h row hrow).append (of_notMem (by decide))

/-- **Painted text is closed**, whatever is painted in it. -/
theorem paint (a : Style) (ht : Closed t) : Closed (a.paint t) := by
  by_cases ha : a = {}
  · rwa [Style.paint, if_pos ha]
  · exact ⟨by rw [strip_paint a ht.clean]; exact ht.clean, lit_paint ha t⟩

theorem themePaint (θ : Theme) (a : Style) (ht : Closed t) : Closed (θ.paint a t) := by
  rw [Theme.paint]
  split
  · exact ht.paint a
  · exact ht

end Closed

/-! ## What stands in a closed text -/

theorem exists_sgr {t : Text} (h : escape ∉ strip t) {before after : Text}
    (heq : t = before ++ escape :: after) :
    ∃ parameters rest : Text,
      parameters.all isParameter = true ∧ escape :: after = sgr parameters ++ rest := by
  induction t using sgrInduction generalizing before with
  | nil => simp at heq
  | sequence parameters t hall ih =>
    rw [strip_sgr_append hall] at h
    rcases List.append_eq_append_iff.1 heq with ⟨back, -, hback⟩ | ⟨back, hback, hrest⟩
    · exact ih h hback
    · -- the character is the first one of the sequence, which holds no other
      cases before with
      | nil => exact ⟨parameters, t, hall, heq.symm⟩
      | cons c before =>
        cases back with
        | nil =>
          have hfirst : t = [] ++ escape :: after := hrest.symm
          exact ih h hfirst
        | cons d back =>
          obtain ⟨rfl, -⟩ := List.cons.inj hrest
          have hmem : escape ∈ '[' :: parameters ++ ['m'] := by
            have htail : '[' :: parameters ++ ['m'] = before ++ escape :: back :=
              (List.cons.inj hback).2
            rw [htail]
            exact List.mem_append_right _ (List.mem_cons_self ..)
          have hnot : escape ∉ parameters := notMem_of_all_isParameter hall (by decide)
          simp [escape] at hmem hnot
          exact absurd hmem hnot
  | visible c t hc ih =>
    rw [strip_cons hc] at h
    obtain ⟨hne, ht⟩ := List.ne_and_not_mem_of_not_mem_cons h
    cases before with
    | nil => exact absurd (List.cons.inj heq).1.symm hne
    | cons d before => exact ih ht (List.cons.inj heq).2

namespace Closed

theorem eq_reset {before parameters after : Text}
    (h : Closed (before ++ sgr parameters ++ after)) (hall : parameters.all isParameter = true)
    (hlast : escape ∉ after) : sgr parameters = reset := by
  have hlit := h.lit_eq
  rw [List.append_assoc, lit_append_sgr _ hall, lit_of_notMem hlast] at hlit
  have hzero : parameters = ['0'] := by simpa using hlit
  rw [hzero]
  rfl

theorem display_snd {t : Text} (h : Closed t) (ground : Style) :
    (display ground ground t).2 = ground := display_snd_of_lit (fun _ => rfl) h.lit_eq

/-- Behind a closed text, text is shown on the ground. -/
theorem display_append {t : Text} (h : Closed t) (ground : Style) (u : Text) :
    display ground ground (t ++ u) =
      ((display ground ground t).1 ++ (display ground ground u).1,
        (display ground ground u).2) := by
  rw [Terminal.display_append h.clean, h.display_snd]

theorem of_unlines_eq {rows : List Text} (hrows : ∀ row ∈ rows, newline ∉ row)
    (hclosed : ∀ row ∈ rows, Closed row) {before after : Text}
    (heq : Text.unlines rows = before ++ newline :: after) : Closed before := by
  induction rows generalizing before with
  | nil => simp [Text.unlines] at heq
  | cons row rows ih =>
    obtain ⟨hrow, hrows⟩ := List.forall_mem_cons.1 hrows
    obtain ⟨hfirst, hclosed⟩ := List.forall_mem_cons.1 hclosed
    rw [Text.unlines_cons] at heq
    rcases List.append_eq_append_iff.1 heq with ⟨back, rfl, hback⟩ | ⟨back, rfl, hback⟩
    · cases back with
      | nil => rwa [List.append_nil]
      | cons c back =>
        obtain ⟨rfl, hbelow⟩ := List.cons.inj hback
        exact hfirst.append ((ih hrows hclosed hbelow).cons (by decide))
    · cases back with
      | nil => rwa [List.append_nil] at hfirst
      | cons c back =>
        obtain ⟨rfl, -⟩ := List.cons.inj hback
        simp at hrow

end Closed

/-! ## Lines -/

theorem clean_of_mem_lines {t line : Text} (h : escape ∉ strip t) (hline : line ∈ Text.lines t) :
    escape ∉ strip line := by
  induction t using Text.lineInduction with
  | nil => simp [Text.lines] at hline
  | last b hne hb =>
    rw [Text.lines_of_notMem hb hne, List.mem_singleton] at hline
    rwa [hline]
  | line b t hb ih =>
    rw [strip_append_newline] at h
    rw [Text.lines_append_newline hb, List.mem_cons] at hline
    rcases hline with rfl | hline
    · rw [strip_append_newline, strip_nil]
      intro hmem
      rcases List.mem_append.1 hmem with hmem | hmem
      · exact h (List.mem_append_left _ hmem)
      · exact absurd hmem (by decide)
    · refine ih (fun hmem => h ?_) hline
      exact List.mem_append_right _ (List.mem_cons_of_mem _ hmem)

/-! ## Pointing out a token -/

/-- A text behind which a style is on only where it is on behind another. Both are made of complete
sequences and visible characters. -/
structure NoBrighter (b a : Text) : Prop where
  clean_left : escape ∉ strip b
  clean_right : escape ∉ strip a
  lit_le : ∀ {on' on : Bool}, (on' = true → on = true) → lit on' b = true → lit on a = true

namespace NoBrighter

variable {a b c d : Text}

theorem refl (h : escape ∉ strip a) : NoBrighter a a where
  clean_left := h
  clean_right := h
  lit_le hon := lit_mono hon

theorem append (h : NoBrighter b a) (h' : NoBrighter d c) : NoBrighter (b ++ d) (a ++ c) where
  clean_left := by
    rw [strip_append h.clean_left]
    exact List.not_mem_append h.clean_left h'.clean_left
  clean_right := by
    rw [strip_append h.clean_right]
    exact List.not_mem_append h.clean_right h'.clean_right
  lit_le hon := by
    rw [lit_append h.clean_left, lit_append h.clean_right]
    exact h'.lit_le (h.lit_le hon)

theorem flatMap {ι : Type} {is : List ι} {f g : ι → Text} (h : ∀ i ∈ is, NoBrighter (f i) (g i)) :
    NoBrighter (is.flatMap f) (is.flatMap g) := by
  induction is with
  | nil => exact refl (by simp)
  | cons i is ih =>
    obtain ⟨hi, his⟩ := List.forall_mem_cons.1 h
    exact hi.append (ih his)

/-- A text that is no brighter than a closed one is closed. -/
theorem closed (h : NoBrighter b a) (ha : Closed a) : Closed b where
  clean := h.clean_left
  lit_eq := by
    rw [Bool.eq_false_iff]
    intro hon
    have := h.lit_le (fun hoff => hoff) hon
    rw [ha.lit_eq] at this
    cases this

theorem paint (θ : Theme) {s : Style} (hs : s ≠ {}) (ha : escape ∉ a) :
    NoBrighter (θ.paint s a) a where
  clean_left := ((Closed.of_notMem ha).themePaint θ s).clean
  clean_right := by rwa [strip_of_notMem ha]
  lit_le hon hlit := by
    rw [lit_of_notMem ha]
    rw [Theme.paint] at hlit
    split at hlit
    · rw [lit_paint hs] at hlit
      cases hlit
    · exact hon (by rwa [lit_of_notMem ha] at hlit)

variable {θ : Theme} {token : Text}

/-- **Pointing out a token leaves nothing on** that was not on before. -/
theorem pointed (htoken : escape ∉ token) (ha : escape ∉ strip a) :
    NoBrighter (θ.pointed token a) a := by
  unfold Theme.pointed
  cases θ.name with
  | plain => exact refl ha
  | ansi =>
    by_cases hne : token = []
    · simpa only [if_pos hne] using refl ha
    · simp only [if_neg hne]
      have hsegments : NoBrighter
          (mapVisible (Text.substitute token (θ.paint .highlight token)) a)
          ((segments a).flatMap Segment.toText) := by
        rw [mapVisible]
        refine flatMap fun segment hsegment => ?_
        cases segment with
        | visible u =>
          have hu : escape ∉ u := fun hmem => ha (List.mem_flatMap.2 ⟨_, hsegment, hmem⟩)
          have hpieces : NoBrighter (Text.substitute token (θ.paint .highlight token) u)
              ((Text.pieces token u).flatMap (Text.Piece.toText token)) := by
            refine flatMap fun piece hpiece => ?_
            cases piece with
            | token => exact paint θ (by decide) htoken
            | other c =>
              have hc : escape ∉ [c] := fun hmem =>
                hu (Text.toText_subset_of_mem_pieces hne hpiece hmem)
              show NoBrighter [c] [c]
              exact refl (by rwa [strip_of_notMem hc])
          rwa [Text.flatMap_pieces hne] at hpieces
        | sequence parameters =>
          have hstrip : strip (sgr parameters) = [] := by
            have := strip_sgr_append (of_mem_segments_sequence hsegment).1 []
            rwa [List.append_nil, strip_nil] at this
          exact refl (by simp [hstrip])
      rwa [segments_toText] at hsegments

/-- **Changing one line so that it is no brighter** leaves no text brighter. -/
theorem mapLineAt {f : Text → Text} (index : Nat)
    (hf : ∀ line, escape ∉ strip line → NoBrighter (f line) line) (ha : escape ∉ strip a) :
    NoBrighter (Text.mapLineAt index f a) a := by
  have hlines : NoBrighter (Text.mapLineAt index f a)
      ((Text.lines a).zipIdx.flatMap Prod.fst) := by
    rw [Text.mapLineAt, List.mapIdx_eq_zipIdx_map, ← List.flatMap_def]
    refine flatMap ?_
    rintro ⟨line, i⟩ hmem
    have hline : escape ∉ strip line := clean_of_mem_lines ha (List.fst_mem_of_mem_zipIdx hmem)
    show NoBrighter (if i = index then f line else line) line
    split
    · exact hf line hline
    · exact refl hline
  rwa [List.flatMap_def, List.zipIdx_map_fst, Text.lines_flatten] at hlines

end NoBrighter

end ErrorReport.Terminal
