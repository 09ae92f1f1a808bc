/-
# ErrorReport.Proofs.Pointing — how a row looks when a token is pointed out.

A token is searched for in each stretch of visible text between two sequences. What is put in its
place ends with a reset, and a reset turns off every style, not only the reversal of the token. So
the rest of the stretch is shown on the ground, whatever style was on there.

`marks` says for every visible character of a row what happens to it, and `Flat.display_pointed`
that nothing else happens. The law needs rows in which no style is opened behind visible text of
another style, since what is opened there would be opened on the ground; every row of a window is
of that kind.
-/
import ErrorReport.Proofs.Closed

namespace ErrorReport.Terminal

open Text (escape newline Piece)

/-! ## Marks -/

/-- What pointing out a token does to a character. -/
structure Mark where
  /-- It belongs to an occurrence. -/
  token : Bool
  /-- An occurrence stands in front of it in its stretch, so its style is turned off. -/
  bare : Bool
  deriving DecidableEq, Repr

/-- The style of a marked character that has the style `s` without its mark. -/
def Mark.style (ground : Style) (m : Mark) (s : Style) : Style :=
  let around := if m.bare then ground else s
  if m.token then Style.highlight.within around else around

/-- A marked character as it is shown. -/
def Mark.apply (ground : Style) (m : Mark) (cell : Cell) : Cell :=
  { cell with style := m.style ground cell.style }

/-- The marks of the pieces of a stretch, behind an occurrence if `bare`. -/
def pieceMarks (token : Text) : Bool → List Piece → List Mark
  | _, [] => []
  | bare, .token :: ps => List.replicate token.length ⟨true, bare⟩ ++ pieceMarks token true ps
  | bare, .other _ :: ps => ⟨false, bare⟩ :: pieceMarks token bare ps

/-- The marks of a segment. -/
def Segment.marks (token : Text) : Segment → List Mark
  | visible t => pieceMarks token false (Text.pieces token t)
  | sequence _ => []

/-- The marks of the visible characters of a text, each stretch for itself. -/
def marks (token t : Text) : List Mark := (segments t).flatMap (Segment.marks token)

section

variable {token : Text}

theorem length_pieceMarks (bare : Bool) (ps : List Piece) :
    (pieceMarks token bare ps).length = (ps.flatMap (Piece.toText token)).length := by
  induction ps generalizing bare with
  | nil => rfl
  | cons piece ps ih =>
    cases piece with
    | token =>
      rw [pieceMarks, List.length_append, List.length_replicate, ih, List.flatMap_cons,
        List.length_append, Piece.toText]
    | other c =>
      rw [pieceMarks, List.length_cons, ih, List.flatMap_cons, List.length_append, Piece.toText,
        List.length_singleton, Nat.add_comm]

/-- **The visible characters of a text have a mark each.** -/
theorem length_marks (hne : token ≠ []) (t : Text) : (marks token t).length = (strip t).length := by
  unfold marks strip
  induction segments t with
  | nil => rfl
  | cons segment segs ih =>
    have hsegment : (segment.marks token).length = segment.visibleText.length := by
      cases segment with
      | visible u => rw [Segment.marks, length_pieceMarks, Text.flatMap_pieces hne]; rfl
      | sequence parameters => rfl
    rw [List.flatMap_cons, List.flatMap_cons, List.length_append, List.length_append, hsegment, ih]

theorem marks_of_notMem {t : Text} (h : escape ∉ t) :
    marks token t = pieceMarks token false (Text.pieces token t) := by
  rw [marks, flatMap_segments_of_notMem rfl h, Segment.marks]

theorem marks_append_sgr (s : Text) {parameters : Text} (h : parameters.all isParameter = true)
    (t : Text) : marks token (s ++ (sgr parameters ++ t)) = marks token s ++ marks token t := by
  rw [marks, segments_append_sgr s h, List.flatMap_append, List.flatMap_cons]
  rfl

end

/-- A character outside the token stays as it is exactly if no occurrence stands in front of it in
its stretch or it has no style to lose. -/
theorem Mark.apply_eq_iff {ground : Style} {m : Mark} (h : m.token = false) (cell : Cell) :
    m.apply ground cell = cell ↔ (m.bare = true → cell.style = ground) := by
  obtain ⟨char, style⟩ := cell
  cases hbare : m.bare with
  | false => simp [apply, Mark.style, h, hbare]
  | true => simp [apply, Mark.style, h, hbare, eq_comm]

/-! ## Stretches -/

section

/-- Characters with the same mark that are shown alike are shown alike. -/
theorem zipWith_apply_replicate (m : Mark) (ground s : Style) (t : Text) :
    List.zipWith (Mark.apply ground) (List.replicate t.length m) (lay s t) =
      lay (m.style ground s) t := by
  induction t with
  | nil => rfl
  | cons c t ih =>
    rw [List.length_cons, List.replicate_succ, lay, List.map_cons, List.zipWith_cons_cons]
    exact congrArg _ ih

variable {token : Text} (htoken : escape ∉ token)

include htoken

/-- An occurrence that is pointed out is reversed. Behind it nothing is on. -/
theorem display_highlight (ground s : Style) (u : Text) :
    display ground s (Style.highlight.paint token ++ u) =
      (lay (Style.highlight.within s) token ++ (display ground ground u).1,
        (display ground ground u).2) := by
  rw [paint_of_notMem (by decide) htoken, List.append_assoc, List.append_assoc,
    display_opening (by decide), display_append_of_notMem htoken, display_reset]

/-- The pieces of a stretch in the style `s`, with the occurrences of the token pointed out. Behind
the first occurrence the style is off. -/
theorem display_pieces {ps : List Piece} (hps : ∀ c, .other c ∈ ps → c ≠ escape) (bare : Bool)
    (ground s : Style) (u : Text) :
    display ground (if bare then ground else s)
        (ps.flatMap (Piece.toText (Style.highlight.paint token)) ++ u) =
      (List.zipWith (Mark.apply ground) (pieceMarks token bare ps)
          (lay s (ps.flatMap (Piece.toText token))) ++
        (display ground (if bare ∨ .token ∈ ps then ground else s) u).1,
      (display ground (if bare ∨ .token ∈ ps then ground else s) u).2) := by
  induction ps generalizing bare with
  | nil => simp [pieceMarks]
  | cons piece ps ih =>
    have hrest : ∀ c, .other c ∈ ps → c ≠ escape := fun c hc =>
      hps c (List.mem_cons_of_mem _ hc)
    rw [List.flatMap_cons, List.flatMap_cons, List.append_assoc]
    cases piece with
    | token =>
      have hlength : (List.replicate token.length (⟨true, bare⟩ : Mark)).length =
          (lay s token).length := by simp [lay]
      have hlay : lay s (token ++ ps.flatMap (Piece.toText token)) =
          lay s token ++ lay s (ps.flatMap (Piece.toText token)) := List.map_append
      -- what follows is behind an occurrence
      have hrun := ih hrest true
      simp only [if_true, true_or] at hrun
      simp only [Piece.toText, pieceMarks, List.mem_cons, true_or, or_true, if_true]
      rw [display_highlight htoken, hrun, hlay, List.zipWith_append hlength,
        zipWith_apply_replicate, List.append_assoc]
      rfl
    | other c =>
      have hc : c ≠ escape := hps c (List.mem_cons_self ..)
      simp only [Piece.toText, pieceMarks, List.singleton_append]
      rw [display_cons fun h => absurd h hc, ih hrest]
      simp [lay, Mark.apply, Mark.style]

/-- **A stretch with a token pointed out** is shown in its style up to the first occurrence. -/
theorem display_substitute (hne : token ≠ []) {t : Text} (ht : escape ∉ t) (ground s : Style)
    (u : Text) :
    display ground s (Text.substitute token (Style.highlight.paint token) t ++ u) =
      (List.zipWith (Mark.apply ground) (marks token t) (lay s t) ++
        (display ground (if .token ∈ Text.pieces token t then ground else s) u).1,
      (display ground (if .token ∈ Text.pieces token t then ground else s) u).2) := by
  have hps : ∀ c, .other c ∈ Text.pieces token t → c ≠ escape := by
    rintro c hc rfl
    exact ht (Text.toText_subset_of_mem_pieces hne hc (List.mem_singleton_self _))
  have hrun := display_pieces htoken hps false ground s u
  rw [Text.flatMap_pieces hne, ← marks_of_notMem ht] at hrun
  simpa [Text.substitute] using hrun

/-- A sequence behind a stretch with a token pointed out: what follows is changed by its marks if it
is from the state that the stretch leaves. -/
theorem display_substitute_sgr (hne : token ≠ []) {t : Text} (ht : escape ∉ t) {parameters : Text}
    (hall : parameters.all isParameter = true) {ground s : Style} {u : Text}
    (hrest : display ground
        ((if .token ∈ Text.pieces token t then ground else s).setAll ground parameters)
        (mapVisible (Text.substitute token (Style.highlight.paint token)) u) =
      (List.zipWith (Mark.apply ground) (marks token u)
        (display ground (s.setAll ground parameters) u).1, ground)) :
    display ground s (mapVisible (Text.substitute token (Style.highlight.paint token))
        (t ++ (sgr parameters ++ u))) =
      (List.zipWith (Mark.apply ground) (marks token (t ++ (sgr parameters ++ u)))
        (display ground s (t ++ (sgr parameters ++ u))).1, ground) := by
  have hnil : Text.substitute token (Style.highlight.paint token) [] = [] := rfl
  have hlength : (marks token t).length = (lay s t).length := by
    rw [length_marks hne, strip_of_notMem ht, lay, List.length_map]
  rw [mapVisible_append_sgr _ _ hall, mapVisible_of_notMem hnil ht, display_substitute htoken hne ht,
    display_sgr_append hall, hrest, display_append_of_notMem ht, display_sgr_append hall,
    marks_append_sgr t hall, List.zipWith_append hlength]

end

/-! ## Rows -/

/-- A text in which styles are opened on the ground or directly behind one another, none of them
reversed, and that ends on the ground. If `on`, a style may be on in front of it. -/
inductive Flat : Bool → Text → Prop
  | plain {u : Text} : escape ∉ u → Flat false u
  | reset {on : Bool} {u t : Text} : escape ∉ u → Flat false t → Flat on (u ++ (reset ++ t))
  | opening {on : Bool} {u t : Text} {a : Style} : escape ∉ u → (on = true → u = []) → a ≠ {} →
      a.reversed = false → Flat true t → Flat on (u ++ (a.opening ++ t))

/-- A lexeme as the theme writes it. -/
def Theme.colouredLexeme (θ : Theme) (lexeme : Source.Lexeme) : Text :=
  match lexeme.kind with
  | some kind => θ.paint (lexemeStyle kind) lexeme.text
  | none => lexeme.text

theorem coloured_eq_flatMap (θ : Theme) (line : Text) :
    θ.coloured line = (Source.lexemes line).flatMap θ.colouredLexeme := rfl

/-- No kind of lexeme is shown reversed. -/
theorem reversed_lexemeStyle (kind : Source.Kind) : (lexemeStyle kind).reversed = false := by
  cases kind <;> rfl

namespace Flat

variable {on : Bool} {s t u : Text}

theorem append_of_notMem (hu : escape ∉ u) (ht : Flat false t) : Flat false (u ++ t) := by
  generalize hoff : false = off at ht
  cases ht with
  | plain h => exact hoff ▸ plain (List.not_mem_append hu h)
  | reset h ht =>
    rw [← List.append_assoc]
    exact hoff ▸ reset (List.not_mem_append hu h) ht
  | opening h _ ha hupright ht =>
    rw [← List.append_assoc]
    exact hoff ▸ opening (List.not_mem_append hu h) (fun hon => by cases hon) ha hupright ht

theorem append (hs : Flat on s) (ht : Flat false t) : Flat on (s ++ t) := by
  induction hs with
  | plain h => exact ht.append_of_notMem h
  | reset h _ ih =>
    rw [List.append_assoc, List.append_assoc]
    exact reset h ih
  | opening h hnil ha hupright _ ih =>
    rw [List.append_assoc, List.append_assoc]
    exact opening h hnil ha hupright ih

/-- Painted text is flat if no other text is painted in it. -/
theorem paint (θ : Theme) {a : Style} (hupright : a.reversed = false) (h : escape ∉ t) :
    Flat false (θ.paint a t) := by
  rw [Theme.paint]
  split
  · by_cases ha : a = {}
    · rw [Style.paint, if_pos ha]
      exact plain h
    · have hopened : Flat false ([] ++ (a.opening ++ (t ++ (Terminal.reset ++ [])))) :=
        opening List.not_mem_nil (fun _ => rfl) ha hupright (reset h (plain List.not_mem_nil))
      rw [paint_of_notMem ha h]
      simpa using hopened
  · exact plain h

theorem paint_paint (θ : Theme) {a b : Style} (hupright : a.reversed = false)
    (hupright' : b.reversed = false) (h : escape ∉ t) : Flat false (θ.paint a (θ.paint b t)) := by
  by_cases hθ : θ.paints = true
  · by_cases ha : a = {}
    · subst ha
      simpa [Theme.paint, Style.paint, hθ] using paint θ hupright' h
    · by_cases hb : b = {}
      · subst hb
        simpa [Theme.paint, Style.paint, hθ] using paint θ hupright h
      · have hend : Flat true ([] ++ (Terminal.reset ++ [])) :=
          reset List.not_mem_nil (plain List.not_mem_nil)
        have htail : Flat false ([] ++ (a.opening ++ ([] ++ (Terminal.reset ++ [])))) :=
          opening List.not_mem_nil (fun _ => rfl) ha hupright hend
        have hopened : Flat false ([] ++ (a.opening ++ ([] ++ (b.opening ++ (t ++ (Terminal.reset ++
            ([] ++ (a.opening ++ ([] ++ (Terminal.reset ++ [])))))))))) :=
          opening List.not_mem_nil (fun _ => rfl) ha hupright
            (opening List.not_mem_nil (fun _ => rfl) hb hupright' (reset h htail))
        rw [Theme.paint, if_pos hθ, Theme.paint, if_pos hθ, paint_paint_of_notMem ha hb h]
        simpa using hopened
  · have hplain : θ.paint a (θ.paint b t) = t := by
      rw [Theme.paint, if_neg hθ, Theme.paint, if_neg hθ]
    rw [hplain]
    exact plain h

theorem coloured (θ : Theme) {line : Text} (h : escape ∉ line) : Flat false (θ.coloured line) := by
  have key : ∀ lexemes : List Source.Lexeme, (∀ lexeme ∈ lexemes, escape ∉ lexeme.text) →
      Flat false (lexemes.flatMap θ.colouredLexeme) := by
    intro lexemes hlexemes
    induction lexemes with
    | nil => exact plain List.not_mem_nil
    | cons lexeme lexemes ih =>
      obtain ⟨hlexeme, hrest⟩ := List.forall_mem_cons.1 hlexemes
      rw [List.flatMap_cons, Theme.colouredLexeme]
      split
      · exact (paint θ (reversed_lexemeStyle _) hlexeme).append (ih hrest)
      · exact (ih hrest).append_of_notMem hlexeme
  rw [coloured_eq_flatMap]
  exact key _ fun lexeme hlexeme hmem => h (Source.text_subset_of_mem_lexemes hlexeme hmem)

theorem clean (h : Flat on t) : escape ∉ strip t := by
  induction h with
  | plain h => rwa [strip_of_notMem h]
  | reset h _ ih =>
    rw [strip_append_of_notMem h, Terminal.reset, strip_sgr_append (by decide)]
    exact List.not_mem_append h ih
  | @opening _ _ _ a h _ _ _ _ ih =>
    have hopening : a.opening = sgr a.parameters := rfl
    rw [strip_append_of_notMem h, hopening, strip_sgr_append a.all_isParameter_parameters]
    exact List.not_mem_append h ih

theorem lit_eq (h : Flat on t) : lit on t = false := by
  induction h with
  | plain h => exact lit_of_notMem h
  | reset _ _ ih => rwa [Terminal.reset, lit_append_sgr _ (by decide)]
  | @opening _ _ _ a _ _ ha _ _ ih =>
    have hopening : a.opening = sgr a.parameters := rfl
    have hon : (a.parameters != ['0']) = true := by simpa using Style.parameters_ne_zero ha
    rwa [hopening, lit_append_sgr _ a.all_isParameter_parameters, hon]

theorem closed (h : Flat false t) : Closed t := ⟨h.clean, h.lit_eq⟩

variable {θ : Theme} {token : Text}

/-- **What pointing out a token changes.** On a flat row every visible character is changed by its
mark, and the terminal is on the ground again at the end. -/
theorem display_pointed (hθ : θ.paints = true) (hne : token ≠ []) (htoken : escape ∉ token)
    {ground s : Style} (hs : on = false → s = ground) (h : Flat on t) :
    display ground s (θ.pointed token t) =
      (List.zipWith (Mark.apply ground) (marks token t) (display ground s t).1, ground) := by
  rw [Theme.pointed_eq hθ hne]
  have hnil : Text.substitute token (Style.highlight.paint token) [] = [] := rfl
  induction h generalizing s with
  | @plain u hu =>
    have hstretch := display_substitute htoken hne hu ground s []
    have hshown := display_append_of_notMem hu ground s []
    obtain rfl := hs rfl
    simp only [List.append_nil, display_nil, ite_self] at hstretch hshown
    rw [mapVisible_of_notMem hnil hu, hstretch, hshown]
  | reset hu _ ih => exact display_substitute_sgr htoken hne hu (by decide) (ih fun _ => rfl)
  | @opening on u t a hu hfirst ha _ _ ih =>
    -- no style can have been turned off in front of the sequence
    have hstate : (if .token ∈ Text.pieces token u then ground else s) = s := by
      cases on with
      | true =>
        rw [hfirst rfl]
        rfl
      | false => rw [hs rfl, ite_self]
    have hrest := ih (s := a.within s) (fun hon => by cases hon)
    rw [← Style.setAll_parameters ground s ha] at hrest
    refine display_substitute_sgr htoken hne hu a.all_isParameter_parameters ?_
    rwa [hstate]

theorem not_reversed {ground s : Style} (hground : ground.reversed = false)
    (hs : s.reversed = false) (h : Flat on t) :
    ∀ cell ∈ (display ground s t).1, cell.style.reversed = false := by
  have hlay : ∀ (s : Style) (u : Text), s.reversed = false →
      ∀ cell ∈ lay s u, cell.style.reversed = false := by
    intro s u hs cell hcell
    obtain ⟨c, -, rfl⟩ := List.mem_map.1 hcell
    exact hs
  induction h generalizing s with
  | @plain u hu =>
    have hshown := display_append_of_notMem hu ground s []
    rw [List.append_nil, display_nil, List.append_nil] at hshown
    rw [hshown]
    exact hlay s u hs
  | reset hu _ ih =>
    rw [display_append_of_notMem hu, display_reset, List.forall_mem_append]
    exact ⟨hlay s _ hs, ih hground⟩
  | opening hu _ ha hupright _ ih =>
    rw [display_append_of_notMem hu, display_opening ha, List.forall_mem_append]
    exact ⟨hlay s _ hs, ih (by rw [Style.within, hupright, hs, Bool.or_false])⟩

end Flat

end ErrorReport.Terminal
