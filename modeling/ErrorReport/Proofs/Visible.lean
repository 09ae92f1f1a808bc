/-
# ErrorReport.Proofs.Visible — what is left of terminal text without its escape sequences.

Deleting the escape sequences from a text is no homomorphism in general: two texts without a
sequence can have one across the seam. It is one as soon as the first text is *clean*, that is, as
soon as every escape character in it opens a complete sequence, and everything that the themes paint
is clean. A newline separates texts in any case, since no sequence holds one.
-/
import ErrorReport.Terminal.Style
import ErrorReport.Proofs.Lines
import ErrorReport.Proofs.Text

namespace ErrorReport.Terminal

open Text (escape newline)

/-! ## Sequences -/

/-- A sequence is read exactly where its text stands. -/
theorem sgrRest?_eq_some_iff {t parameters after : Text} :
    sgrRest? t = some (parameters, after) ↔
      t = '[' :: parameters ++ 'm' :: after ∧ parameters.all isParameter = true := by
  constructor
  · exact sgrRest?_eq_some
  · rintro ⟨rfl, hall⟩
    have hm : isParameter 'm' = false := by decide
    rw [List.all_eq_true] at hall
    have hdrop : (parameters ++ 'm' :: after).dropWhile isParameter = 'm' :: after := by
      rw [List.dropWhile_append_of_pos hall, List.dropWhile_cons_of_neg (by simp [hm])]
    have htake : (parameters ++ 'm' :: after).takeWhile isParameter = parameters := by
      rw [List.takeWhile_append_of_pos hall]
      simp [hm]
    simp only [sgrRest?, List.cons_append, hdrop, htake]

theorem notMem_of_all_isParameter {parameters : Text} {c : Char}
    (h : parameters.all isParameter = true) (hc : isParameter c = false) : c ∉ parameters := by
  intro hmem
  rw [List.all_eq_true.1 h c hmem] at hc
  cases hc

/-- A character that a sequence can hold behind its escape character. -/
def isSgrPart (c : Char) : Bool := c = '[' || c = 'm' || isParameter c

/-- A character that sequences do not hold completes none. -/
theorem sgrRest?_append_cons {t : Text} {c : Char} (hc : isSgrPart c = false)
    (h : sgrRest? t = none) (u : Text) : sgrRest? (t ++ c :: u) = none := by
  rw [Option.eq_none_iff_forall_ne_some]
  rintro ⟨parameters, after⟩ hsome
  obtain ⟨heq, hall⟩ := sgrRest?_eq_some_iff.1 hsome
  have heq : ('[' :: parameters ++ ['m']) ++ after = t ++ c :: u := by
    simpa using heq.symm
  have hcomplete : ∀ back, t ≠ ('[' :: parameters ++ ['m']) ++ back := by
    rintro back rfl
    have hread : sgrRest? ('[' :: parameters ++ ['m'] ++ back) = some (parameters, back) :=
      sgrRest?_eq_some_iff.2 ⟨by simp, hall⟩
    rw [hread] at h
    cases h
  -- the sequence ends within `t`, or it goes on behind `t` and then holds the character
  rcases List.append_eq_append_iff.1 heq with ⟨back, hback, -⟩ | ⟨more, hmore, hrest⟩
  · exact hcomplete back hback
  · cases more with
    | nil => exact hcomplete [] (by simpa using hmore.symm)
    | cons d more =>
      obtain ⟨rfl, -⟩ := List.cons.inj hrest
      have hmem : c ∈ '[' :: parameters ++ ['m'] := by simp [hmore]
      obtain ⟨⟨hbracket, hm⟩, hparameter⟩ : (c ≠ '[' ∧ c ≠ 'm') ∧ isParameter c = false := by
        simpa [isSgrPart] using hc
      have hnot : c ∉ parameters := notMem_of_all_isParameter hall hparameter
      simp [hbracket, hm, hnot] at hmem

/-! ## Taking terminal text apart -/

@[simp]
theorem segments_nil : segments [] = [] := by
  rw [segments]

theorem segments_cons {c : Char} {t : Text} (h : c = escape → sgrRest? t = none) :
    segments (c :: t) = Segment.consVisible c (segments t) := by
  rw [segments]
  split
  · next hc =>
    split
    · next heq =>
      rw [h hc] at heq
      cases heq
    · rfl
  · rfl

theorem segments_sgr_append {parameters : Text} (h : parameters.all isParameter = true) (t : Text) :
    segments (sgr parameters ++ t) = .sequence parameters :: segments t := by
  have hread : sgrRest? ('[' :: parameters ++ 'm' :: t) = some (parameters, t) :=
    sgrRest?_eq_some_iff.2 ⟨rfl, h⟩
  have heq : sgr parameters ++ t = escape :: ('[' :: parameters ++ 'm' :: t) := by simp [sgr]
  rw [heq, segments, if_pos rfl]
  split
  · next parameters' after hsome =>
    rw [hread] at hsome
    obtain ⟨rfl, rfl⟩ := Prod.mk.inj (Option.some.inj hsome)
    rfl
  · next hnone =>
    rw [hread] at hnone
    cases hnone

/-- **Taking terminal text apart.** A text is empty, or a sequence in front of a text, or a visible
character in front of a text. -/
@[elab_as_elim]
theorem sgrInduction {motive : Text → Prop} (nil : motive [])
    (sequence : ∀ parameters t, parameters.all isParameter = true → motive t →
      motive (sgr parameters ++ t))
    (visible : ∀ c t, (c = escape → sgrRest? t = none) → motive t → motive (c :: t)) (t : Text) :
    motive t := by
  fun_induction segments t with
  | case1 => exact nil
  | case2 rest parameters after h _ ih =>
    obtain ⟨rfl, hall⟩ := sgrRest?_eq_some_iff.1 h
    have := sequence parameters after hall ih
    simpa [sgr] using this
  | case3 rest h ih => exact visible escape rest (fun _ => h) ih
  | case4 c rest hc ih => exact visible c rest (fun heq => absurd heq hc) ih

/-- Puts segments behind others. Two stretches of visible text that meet become one. -/
def joinSegments : List Segment → List Segment → List Segment
  | [], right => right
  | [.visible t], .visible u :: right => .visible (t ++ u) :: right
  | segment :: left, right => segment :: joinSegments left right

/-- A character in front of segments and what is put behind them do not meet. -/
theorem consVisible_joinSegments (c : Char) (left right : List Segment) :
    Segment.consVisible c (joinSegments left right) =
      joinSegments (Segment.consVisible c left) right := by
  match left, right with
  | [], [] => rfl
  | [], .visible _ :: _ => rfl
  | [], .sequence _ :: _ => rfl
  | [.visible _], [] => rfl
  | [.visible _], .visible _ :: _ => rfl
  | [.visible _], .sequence _ :: _ => rfl
  | .visible _ :: _ :: _, _ => rfl
  | .sequence _ :: _, _ => rfl

/-- **A character that sequences do not hold separates texts.** They are taken apart one after the
other. -/
theorem segments_append_cons {c : Char} (hc : isSgrPart c = false) (s t : Text) :
    segments (s ++ c :: t) = joinSegments (segments s) (segments (c :: t)) := by
  induction s using sgrInduction with
  | nil =>
    rw [List.nil_append, segments_nil]
    rfl
  | sequence parameters s hall ih =>
    rw [List.append_assoc, segments_sgr_append hall, segments_sgr_append hall, ih]
    rfl
  | visible d s h ih =>
    have hrest : d = escape → sgrRest? (s ++ c :: t) = none :=
      fun hd => sgrRest?_append_cons hc (h hd) t
    rw [List.cons_append, segments_cons hrest, segments_cons h, ih, consVisible_joinSegments]

/-- What is done to the segments of a text is done on both sides of such a character, if it is done
on both sides of it to visible text. -/
theorem flatMap_segments_append_cons {α : Type} {f : Segment → List α} {c : Char} {mid : List α}
    (hnil : f (.visible []) = [])
    (hf : ∀ s t, f (.visible (s ++ c :: t)) = f (.visible s) ++ mid ++ f (.visible t))
    (hc : isSgrPart c = false) (hescape : c ≠ escape) (s t : Text) :
    (segments (s ++ c :: t)).flatMap f =
      (segments s).flatMap f ++ mid ++ (segments t).flatMap f := by
  -- the stretch that starts with the character goes on behind it
  obtain ⟨u, more, hcons, hmore⟩ : ∃ u more,
      Segment.consVisible c (segments t) = .visible (c :: u) :: more ∧
        (segments t).flatMap f = f (.visible u) ++ more.flatMap f := by
    match segments t with
    | [] => exact ⟨[], [], rfl, by simp [hnil]⟩
    | .visible u :: more => exact ⟨u, more, rfl, List.flatMap_cons⟩
    | .sequence parameters :: more =>
      exact ⟨[], .sequence parameters :: more, rfl, by rw [hnil, List.nil_append]⟩
  have hsegments : segments (c :: t) = .visible (c :: u) :: more := by
    rw [segments_cons fun h => absurd h hescape, hcons]
  have hfirst : f (.visible (c :: u)) = mid ++ f (.visible u) := by simpa [hnil] using hf [] u
  rw [segments_append_cons hc, hsegments, hmore]
  induction segments s with
  | nil => simp [joinSegments, hfirst]
  | cons segment left ih =>
    -- it may join the one in front of it
    have hstep : (joinSegments (segment :: left) (.visible (c :: u) :: more)).flatMap f =
        f segment ++ (joinSegments left (.visible (c :: u) :: more)).flatMap f := by
      match segment, left with
      | .visible v, [] => simp [joinSegments, hf, hfirst]
      | .visible v, next :: left => rfl
      | .sequence parameters, [] => rfl
      | .sequence parameters, next :: left => rfl
    rw [hstep, ih, List.flatMap_cons]
    simp only [List.append_assoc]

/-- A sequence is a segment of its own, whatever stands in front of it. -/
theorem segments_append_sgr (s : Text) {parameters : Text}
    (h : parameters.all isParameter = true) (t : Text) :
    segments (s ++ (sgr parameters ++ t)) = segments s ++ .sequence parameters :: segments t := by
  have hjoin : ∀ left : List Segment, joinSegments left (.sequence parameters :: segments t) =
      left ++ .sequence parameters :: segments t := by
    intro left
    induction left with
    | nil => rfl
    | cons segment left ih =>
      have : joinSegments (segment :: left) (.sequence parameters :: segments t) =
          segment :: joinSegments left (.sequence parameters :: segments t) := by
        cases segment <;> cases left <;> rfl
      rw [this, ih, List.cons_append]
  have hsegments : segments (sgr parameters ++ t) = .sequence parameters :: segments t :=
    segments_sgr_append h t
  rw [← hjoin, ← hsegments]
  exact segments_append_cons (c := escape) (by decide) s _

/-- A text in which no complete sequence stands. -/
def Unbroken (t : Text) : Prop :=
  ∀ parameters : Text, parameters.all isParameter = true → ¬ sgr parameters <:+: t

theorem sgr_notStart {c : Char} {t parameters : Text} (h : c = escape → sgrRest? t = none)
    (hall : parameters.all isParameter = true) : ¬ sgr parameters <+: c :: t := by
  rintro ⟨after, hafter⟩
  have hread : sgrRest? ('[' :: parameters ++ 'm' :: after) = some (parameters, after) :=
    sgrRest?_eq_some_iff.2 ⟨rfl, hall⟩
  have hstart : escape :: ('[' :: parameters ++ 'm' :: after) = c :: t := by
    simpa [sgr] using hafter
  obtain ⟨rfl, rfl⟩ := List.cons.inj hstart
  rw [h rfl] at hread
  cases hread

namespace Unbroken

variable {s t : Text}

theorem nil : Unbroken [] := fun parameters _ hmem =>
  List.cons_ne_nil _ _ (List.infix_nil.1 hmem : sgr parameters = [])

theorem of_infix (h : Unbroken t) (hs : s <:+: t) : Unbroken s :=
  fun parameters hall hmem => h parameters hall (hmem.trans hs)

theorem cons {c : Char} (h : c = escape → sgrRest? t = none) (ht : Unbroken t) :
    Unbroken (c :: t) := by
  intro parameters hall hmem
  rcases List.infix_cons_iff.1 hmem with hstart | hrest
  · exact sgr_notStart h hall hstart
  · exact ht parameters hall hrest

theorem of_notMem (h : escape ∉ t) : Unbroken t :=
  fun _ _ hmem => h (hmem.subset (List.mem_cons_self ..))

end Unbroken

/-- **A text is unbroken, or it has a first sequence.** -/
theorem unbroken_or_exists_first (t : Text) :
    Unbroken t ∨ ∃ s parameters u, t = s ++ (sgr parameters ++ u) ∧
      parameters.all isParameter = true ∧ Unbroken s := by
  induction t using sgrInduction with
  | nil => exact .inl .nil
  | sequence parameters t hall _ => exact .inr ⟨[], parameters, t, rfl, hall, .nil⟩
  | visible c t h ih =>
    rcases ih with ht | ⟨s, parameters, u, rfl, hall, hs⟩
    · exact .inl (ht.cons h)
    · refine .inr ⟨c :: s, parameters, u, rfl, hall, fun own hown hmem => ?_⟩
      rcases List.infix_cons_iff.1 hmem with hstart | hrest
      · exact sgr_notStart h hown (hstart.trans (List.prefix_append (c :: s) _))
      · exact hs own hown hrest

/-- Induction along the sequences of a text: it is unbroken, or an unbroken stretch and a sequence
stand in front of another text. -/
@[elab_as_elim]
theorem stretchInduction {motive : Text → Prop} (last : ∀ t, Unbroken t → motive t)
    (next : ∀ s parameters u, Unbroken s → parameters.all isParameter = true → motive u →
      motive (s ++ (sgr parameters ++ u))) (t : Text) : motive t := by
  induction hlength : t.length using Nat.strong_induction_on generalizing t with
  | h n ih =>
    rcases unbroken_or_exists_first t with ht | ⟨s, parameters, u, rfl, hall, hs⟩
    · exact last t ht
    · have hshorter : u.length < n := by
        rw [← hlength, List.length_append, List.length_append, sgr, List.length_append,
          List.length_singleton]
        omega
      exact next s parameters u hs hall (ih _ hshorter u rfl)

theorem segments_of_unbroken {t : Text} (h : Unbroken t) (hne : t ≠ []) :
    segments t = [.visible t] := by
  induction t using sgrInduction with
  | nil => exact absurd rfl hne
  | sequence parameters t hall _ =>
    exact absurd (List.prefix_append (sgr parameters) t).isInfix (h parameters hall)
  | visible c t hc ih =>
    rw [segments_cons hc]
    by_cases hnil : t = []
    · subst hnil
      rw [segments_nil]
      rfl
    · rw [ih (h.of_infix (List.suffix_cons c t).isInfix) hnil]
      rfl

/-- What is done to unbroken text is done to it as a whole. -/
theorem flatMap_segments_of_unbroken {α : Type} {f : Segment → List α}
    (hnil : f (.visible []) = []) {t : Text} (h : Unbroken t) :
    (segments t).flatMap f = f (.visible t) := by
  by_cases hne : t = []
  · rw [hne, segments_nil, hnil, List.flatMap_nil]
  · rw [segments_of_unbroken h hne, List.flatMap_singleton]

theorem flatMap_segments_of_notMem {α : Type} {f : Segment → List α} (hnil : f (.visible []) = [])
    {t : Text} (h : escape ∉ t) : (segments t).flatMap f = f (.visible t) :=
  flatMap_segments_of_unbroken hnil (.of_notMem h)

/-- The sequences of a text hold parameters only, and an escape character for each is there. -/
theorem of_mem_segments_sequence {t parameters : Text} (h : .sequence parameters ∈ segments t) :
    parameters.all isParameter = true ∧ escape ∈ t := by
  have hcons : ∀ c segs, .sequence parameters ∈ Segment.consVisible c segs →
      .sequence parameters ∈ segs := by
    intro c segs hmem
    unfold Segment.consVisible at hmem
    split at hmem <;> simpa using hmem
  induction t using sgrInduction with
  | nil =>
    rw [segments_nil] at h
    simp at h
  | sequence own t hall ih =>
    rw [segments_sgr_append hall] at h
    rcases List.mem_cons.1 h with heq | h
    · obtain rfl := Segment.sequence.inj heq
      exact ⟨hall, by simp [sgr]⟩
    · exact ⟨(ih h).1, by simp [sgr]⟩
  | visible c t hc ih =>
    rw [segments_cons hc] at h
    obtain ⟨hall, hmem⟩ := ih (hcons c _ h)
    exact ⟨hall, List.mem_cons_of_mem c hmem⟩

/-! ## Deleting sequences -/

@[simp]
theorem strip_nil : strip [] = [] := by
  rw [strip, segments_nil]
  rfl

theorem strip_cons {c : Char} {t : Text} (h : c = escape → sgrRest? t = none) :
    strip (c :: t) = c :: strip t := by
  rw [strip, segments_cons h, strip]
  unfold Segment.consVisible
  split
  · next u more heq => simp [heq, Segment.visibleText]
  · simp [Segment.visibleText]

theorem strip_sgr_append {parameters : Text} (h : parameters.all isParameter = true) (t : Text) :
    strip (sgr parameters ++ t) = strip t := by
  rw [strip, segments_sgr_append h, List.flatMap_cons]
  rfl

theorem strip_append_sgr (s : Text) {parameters : Text} (h : parameters.all isParameter = true)
    (t : Text) : strip (s ++ (sgr parameters ++ t)) = strip s ++ strip t := by
  simp only [strip, segments_append_sgr s h, List.flatMap_append, List.flatMap_cons]
  rfl

theorem strip_of_unbroken {t : Text} (h : Unbroken t) : strip t = t :=
  flatMap_segments_of_unbroken rfl h

theorem strip_subset (t : Text) : strip t ⊆ t := by
  induction t using sgrInduction with
  | nil => simp
  | sequence parameters t hall ih =>
    rw [strip_sgr_append hall]
    exact List.subset_append_of_subset_right _ ih
  | visible c t h ih =>
    rw [strip_cons h]
    exact List.cons_subset_cons c ih

theorem strip_append_of_notMem {s : Text} (h : escape ∉ s) (t : Text) :
    strip (s ++ t) = s ++ strip t := by
  induction s with
  | nil => rfl
  | cons c s ih =>
    obtain ⟨hc, hs⟩ := List.ne_and_not_mem_of_not_mem_cons h
    rw [List.cons_append, strip_cons fun heq => absurd heq.symm hc, ih hs, List.cons_append]

theorem strip_of_notMem {t : Text} (h : escape ∉ t) : strip t = t := by
  have := strip_append_of_notMem h []
  rwa [List.append_nil, strip_nil, List.append_nil] at this

theorem strip_append_cons {c : Char} (hc : isSgrPart c = false) (hescape : c ≠ escape)
    (s t : Text) : strip (s ++ c :: t) = strip s ++ c :: strip t := by
  have hf : ∀ s t : Text, Segment.visibleText (.visible (s ++ c :: t)) =
      Segment.visibleText (.visible s) ++ [c] ++ Segment.visibleText (.visible t) := by
    intro s t
    simp [Segment.visibleText]
  rw [strip, flatMap_segments_append_cons rfl hf hc hescape, List.append_assoc]
  rfl

/-- **A newline separates texts.** No sequence reaches across it. -/
theorem strip_append_newline (s t : Text) :
    strip (s ++ newline :: t) = strip s ++ newline :: strip t :=
  strip_append_cons (by decide) (by decide) s t

theorem strip_eq_flatMap_lines (t : Text) : strip t = (Text.lines t).flatMap strip := by
  induction t using Text.lineInduction with
  | nil => exact strip_nil
  | last b hne hb => rw [Text.lines_of_notMem hb hne, List.flatMap_singleton]
  | line b t hb ih =>
    rw [Text.lines_append_newline hb, List.flatMap_cons, strip_append_newline, ih,
      strip_append_newline, strip_nil, List.append_assoc, List.singleton_append]

theorem strip_unlines (rows : List Text) :
    strip (Text.unlines rows) = Text.unlines (rows.map strip) := by
  induction rows with
  | nil => exact strip_nil
  | cons row rows ih =>
    rw [Text.unlines_cons, strip_append_newline, ih, List.map_cons, Text.unlines_cons]

/-- **Clean text separates as well.** If every escape character of the first text opens a complete
sequence, none reaches across the seam. -/
theorem strip_append {s : Text} (h : escape ∉ strip s) (t : Text) :
    strip (s ++ t) = strip s ++ strip t := by
  induction s using sgrInduction with
  | nil => rw [List.nil_append, strip_nil, List.nil_append]
  | sequence parameters s hall ih =>
    rw [strip_sgr_append hall] at h
    rw [List.append_assoc, strip_sgr_append hall, strip_sgr_append hall, ih h]
  | visible c s hc ih =>
    rw [strip_cons hc] at h
    obtain ⟨hne, hs⟩ := List.ne_and_not_mem_of_not_mem_cons h
    rw [List.cons_append, strip_cons fun heq => absurd heq.symm hne, strip_cons hc, ih hs,
      List.cons_append]

/-! ## Sequences in order -/

/-- The parameters of a segment that is a sequence. -/
def Segment.parameters : Segment → List Text
  | visible _ => []
  | sequence parameters => [parameters]

/-- The parameters of the sequences of a text, in order. -/
def sequences (t : Text) : List Text := (segments t).flatMap Segment.parameters

@[simp]
theorem sequences_nil : sequences [] = [] := by
  rw [sequences, segments_nil]
  rfl

theorem sequences_cons {c : Char} {t : Text} (h : c = escape → sgrRest? t = none) :
    sequences (c :: t) = sequences t := by
  rw [sequences, segments_cons h, sequences]
  unfold Segment.consVisible
  split
  · next u more heq => simp [heq, Segment.parameters]
  · simp [Segment.parameters]

theorem sequences_sgr_append {parameters : Text} (h : parameters.all isParameter = true)
    (t : Text) : sequences (sgr parameters ++ t) = parameters :: sequences t := by
  rw [sequences, segments_sgr_append h, List.flatMap_cons]
  rfl

theorem sequences_append_sgr (s : Text) {parameters : Text}
    (h : parameters.all isParameter = true) (t : Text) :
    sequences (s ++ (sgr parameters ++ t)) = sequences s ++ parameters :: sequences t := by
  simp only [sequences, segments_append_sgr s h, List.flatMap_append, List.flatMap_cons]
  rfl

theorem sequences_of_unbroken {t : Text} (h : Unbroken t) : sequences t = [] :=
  flatMap_segments_of_unbroken rfl h

/-- **Sequences follow each other** as their texts do, if the first text is clean. -/
theorem sequences_append {s : Text} (h : escape ∉ strip s) (t : Text) :
    sequences (s ++ t) = sequences s ++ sequences t := by
  induction s using sgrInduction with
  | nil => rw [List.nil_append, sequences_nil, List.nil_append]
  | sequence parameters s hall ih =>
    rw [strip_sgr_append hall] at h
    rw [List.append_assoc, sequences_sgr_append hall, sequences_sgr_append hall, ih h,
      List.cons_append]
  | visible c s hc ih =>
    rw [strip_cons hc] at h
    obtain ⟨hne, hs⟩ := List.ne_and_not_mem_of_not_mem_cons h
    rw [List.cons_append, sequences_cons fun heq => absurd heq.symm hne, sequences_cons hc, ih hs]

theorem sequences_of_notMem {t : Text} (h : escape ∉ t) : sequences t = [] :=
  flatMap_segments_of_notMem rfl h

/-! ## Painted text -/

/-- The parameters of a style as its sequence has them. -/
def Style.parameters (s : Style) : Text := [';'].intercalate (s.codes.map Text.ofNat)

theorem Style.all_isParameter_parameters (s : Style) : s.parameters.all isParameter = true := by
  rw [List.all_eq_true]
  intro c hc
  rcases Text.mem_intercalate hc with hc | ⟨t, ht, hc⟩
  · obtain rfl : c = ';' := by simpa using hc
    decide
  · obtain ⟨n, -, rfl⟩ := List.mem_map.1 ht
    simp [isParameter, Text.isDigit_of_mem_ofNat hc]

theorem opening_eq_sgr (s : Style) :
    ∃ parameters : Text, parameters.all isParameter = true ∧ s.opening = sgr parameters :=
  ⟨s.parameters, s.all_isParameter_parameters, rfl⟩

theorem reopen_append_of_notMem (opening : Text) {s : Text} (h : escape ∉ s) (t : Text) :
    Style.reopen opening (s ++ t) = s ++ Style.reopen opening t := by
  induction s with
  | nil => rfl
  | cons c s ih =>
    obtain ⟨hc, hs⟩ := List.ne_and_not_mem_of_not_mem_cons h
    rw [List.cons_append, Style.reopen, ih hs]
    · rfl
    · rintro rest rfl
      exact absurd rfl hc

/-- Text without escape characters is painted between the sequence of its style and a reset. -/
theorem paint_of_notMem {s : Style} (hs : s ≠ {}) {t : Text} (h : escape ∉ t) :
    s.paint t = s.opening ++ t ++ reset := by
  have hreopen : Style.reopen s.opening t = t := by
    have := reopen_append_of_notMem s.opening h []
    simpa [Style.reopen] using this
  rw [Style.paint, if_neg hs, hreopen]

/-- Repeating a sequence leaves other sequences alone and puts it behind a reset. -/
theorem reopen_sgr_append (opening : Text) {parameters : Text}
    (hall : parameters.all isParameter = true) (t : Text) :
    Style.reopen opening (sgr parameters ++ t) =
      sgr parameters ++ (if parameters = ['0'] then opening else []) ++
        Style.reopen opening t := by
  by_cases hzero : parameters = ['0']
  · subst hzero
    rfl
  · have hm : 'm' ∉ parameters := notMem_of_all_isParameter hall (by decide)
    have hescape : escape ∉ parameters := notMem_of_all_isParameter hall (by decide)
    have hbehind : escape ∉ '[' :: parameters ++ ['m'] := by
      simp [escape] at hescape ⊢
      exact hescape
    have heq : sgr parameters ++ t = escape :: ('[' :: parameters ++ ['m'] ++ t) := by simp [sgr]
    rw [if_neg hzero, List.append_nil, heq, Style.reopen, reopen_append_of_notMem opening hbehind]
    · simp [sgr]
    · -- only the parameters of a reset make a reset
      intro rest _ hrest
      have hrest : parameters ++ 'm' :: t = '0' :: 'm' :: rest := by simpa using hrest
      cases parameters with
      | nil =>
        simp at hrest
      | cons c parameters =>
        obtain ⟨rfl, htail⟩ := List.cons.inj hrest
        cases parameters with
        | nil => exact hzero rfl
        | cons d parameters =>
          obtain ⟨rfl, -⟩ := List.cons.inj htail
          simp at hm

theorem reopen_reset (opening t : Text) :
    Style.reopen opening (reset ++ t) = reset ++ (opening ++ Style.reopen opening t) := by
  rw [reset, reopen_sgr_append opening (by decide), if_pos rfl, List.append_assoc]

/-- Induction over a text along its resets. -/
@[elab_as_elim]
theorem resetInduction {motive : Text → Prop} (t : Text) (nil : motive [])
    (reset : ∀ t, motive t → motive (reset ++ t))
    (cons : ∀ c t, ¬ Terminal.reset <+: c :: t → motive t → motive (c :: t)) : motive t := by
  -- which sequence is repeated does not matter, only where
  fun_induction Style.reopen [] t with
  | case1 t ih => exact reset t ih
  | case2 c t hc ih =>
    refine cons c t ?_ ih
    rintro ⟨rest, hrest⟩
    obtain ⟨rfl, rfl⟩ := List.cons.inj hrest
    exact hc rest rfl rfl
  | case3 => exact nil

theorem reopen_cons_of_not_reset (opening : Text) {c : Char} {t : Text}
    (h : ¬ reset <+: c :: t) : Style.reopen opening (c :: t) = c :: Style.reopen opening t := by
  rw [Style.reopen]
  rintro rest rfl rfl
  exact h ⟨rest, rfl⟩

/-- Repeating a sequence after every reset changes nothing that is visible. -/
theorem strip_reopen {parameters t : Text} (hall : parameters.all isParameter = true)
    (h : escape ∉ strip t) : strip (Style.reopen (sgr parameters) t) = strip t := by
  induction t using sgrInduction with
  | nil => rfl
  | sequence own t hown ih =>
    rw [strip_sgr_append hown] at h
    rw [reopen_sgr_append _ hown, List.append_assoc, strip_sgr_append hown, strip_sgr_append hown]
    -- behind a reset stands one sequence more
    split
    · rw [strip_sgr_append hall, ih h]
    · rw [List.nil_append, ih h]
  | visible c t hc ih =>
    rw [strip_cons hc] at h
    obtain ⟨hne, ht⟩ := List.ne_and_not_mem_of_not_mem_cons h
    have heq := reopen_append_of_notMem (sgr parameters) (s := [c]) (by simpa using hne) t
    rw [List.singleton_append] at heq
    rw [heq, strip_append_of_notMem (by simpa using hne), ih ht, strip_cons hc]
    rfl

/-- **Painting changes nothing that is visible.** -/
theorem strip_paint (s : Style) {t : Text} (h : escape ∉ strip t) :
    strip (s.paint t) = strip t := by
  rw [Style.paint]
  split
  · rfl
  · obtain ⟨parameters, hall, hopening⟩ := opening_eq_sgr s
    have hreset : strip reset = [] := by
      have : strip (sgr ['0'] ++ []) = strip [] := strip_sgr_append (by decide) []
      rwa [List.append_nil, strip_nil] at this
    have hreopen := strip_reopen hall h
    rw [hopening, List.append_assoc, strip_sgr_append hall, strip_append (hreopen ▸ h), hreopen,
      hreset, List.append_nil]

end ErrorReport.Terminal
