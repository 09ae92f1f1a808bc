/-
# ErrorReport.Proofs.Found — which characters of a line are found to belong to a token.

A token is searched for in what stands between two sequences, and a source line has been coloured
before it is searched. So an occurrence can be missed if the colours cut it: if it goes beyond an end
of a lexeme that is painted. `found_coloured_iff` says that nothing else keeps an occurrence from
being found, along the lexemes of the line, with what stands unpainted in front of them as the
stretch that is still open.
-/
import ErrorReport.Proofs.Pointing

namespace ErrorReport.Text

/-! ## Occurrences in a text -/

/-- Which characters of a piece belong to an occurrence: all or none. -/
def Piece.flags (token : Text) : Piece → List Bool
  | .token => List.replicate token.length true
  | .other _ => [false]

/-- Which characters of a text belong to an occurrence of a token. Occurrences are found from the
left and do not overlap. -/
def covered (token t : Text) : List Bool := (pieces token t).flatMap (Piece.flags token)

section

variable {token : Text} (hne : token ≠ [])

include hne

theorem length_covered (t : Text) : (covered token t).length = t.length := by
  have hpieces : ∀ ps : List Piece, (ps.flatMap (Piece.flags token)).length =
      (ps.flatMap (Piece.toText token)).length := by
    intro ps
    induction ps with
    | nil => rfl
    | cons piece ps ih =>
      rw [List.flatMap_cons, List.flatMap_cons, List.length_append, List.length_append, ih]
      cases piece with
      | token => rw [Piece.flags, Piece.toText, List.length_replicate]
      | other c => rfl
  rw [covered, hpieces, flatMap_pieces hne]

theorem covered_append_cons {c : Char} (hc : c ∉ token) (s t : Text) :
    covered token (s ++ c :: t) = covered token s ++ false :: covered token t := by
  rw [covered, pieces_append_cons hne hc, List.flatMap_append, List.flatMap_cons]
  rfl

/-- **What is found in a text alone** is what is found in it when it is joined with another one,
exactly if no occurrence is split. -/
theorem covered_append_iff {s t : Text} {flags : List Bool} :
    covered token s ++ flags = covered token (s ++ t) ↔
      ¬ Splits token s t ∧ flags = covered token t := by
  rcases pieces_append_or hne s t with hpieces | ⟨ps, qs, front, back, hboth, hfirst, htoken, hrest⟩
  · have hsplits : ¬ Splits token s t := (pieces_append_iff hne).1 hpieces
    have hjoined : covered token (s ++ t) = covered token s ++ covered token t := by
      rw [covered, hpieces, List.flatMap_append]
      rfl
    rw [hjoined, List.append_cancel_left_eq]
    exact (and_iff_right hsplits).symm
  · -- the part of the occurrence in the first text is not found there
    refine iff_of_false ?_ fun h => ?_
    · intro heq
      rw [covered, covered, hboth, hfirst, List.flatMap_append, List.flatMap_append,
        List.flatMap_cons, List.append_assoc, List.append_cancel_left_eq] at heq
      cases front with
      | nil => exact hrest.1 rfl
      | cons c front => simp [Piece.flags, htoken, List.replicate_succ] at heq
    · have hpieces := (pieces_append_iff hne).2 h.1
      rw [hboth, hfirst, List.append_assoc, List.append_cancel_left_eq] at hpieces
      cases front with
      | nil => exact hrest.1 rfl
      | cons c front => simp at hpieces

/-- What is not split from the text in front of it is split where it is split alone. -/
theorem splits_append_left_iff {u s t : Text} (h : ¬ Splits token u (s ++ t)) :
    Splits token (u ++ s) t ↔ Splits token s t := by
  have hpieces : pieces token (u ++ s ++ t) = pieces token u ++ pieces token (s ++ t) := by
    rw [List.append_assoc]
    exact (pieces_append_iff hne).2 h
  constructor
  · rintro ⟨ps, qs, front, back, hboth, hus, htoken, hfront, hback⟩
    have hlength := congrArg List.length hus
    have htokenLength := congrArg List.length htoken
    have hpos : 0 < back.length := List.length_pos_iff.2 hback
    rw [← flatMap_pieces hne u] at hus hlength
    rw [hpieces] at hboth
    simp only [List.length_append] at hlength htokenLength
    rcases List.append_eq_append_iff.1 hboth with ⟨more, rfl, hmore⟩ | ⟨more, hmore, hrest⟩
    · refine ⟨more, qs, front, back, hmore, ?_, htoken, hfront, hback⟩
      rw [List.flatMap_append, List.append_assoc, List.append_cancel_left_eq] at hus
      exact hus
    · -- an occurrence in the text in front would end too late
      cases more with
      | nil =>
        refine ⟨[], qs, front, back, hrest.symm, ?_, htoken, hfront, hback⟩
        rw [hmore, List.append_nil, List.append_cancel_left_eq] at hus
        exact hus
      | cons piece more =>
        obtain ⟨rfl, -⟩ := List.cons.inj hrest
        rw [hmore, List.flatMap_append, List.flatMap_cons, Piece.toText] at hlength
        simp only [List.length_append] at hlength
        omega
  · rintro ⟨ps, qs, front, back, hboth, hs, hrest⟩
    refine ⟨pieces token u ++ ps, qs, front, back, ?_, ?_, hrest⟩
    · rw [hpieces, hboth, List.append_assoc]
    · rw [List.flatMap_append, flatMap_pieces hne, List.append_assoc, ← hs]

end

end ErrorReport.Text

/-! ## Colours that cut a token -/

namespace ErrorReport.Source

open Text (Splits)

/-- The text of lexemes. -/
def texts (lexemes : List Lexeme) : Text := lexemes.flatMap Lexeme.text

/-- Of lexemes behind the text `before`, one that is painted cuts an occurrence of the token: the
occurrence goes beyond an end of the lexeme. -/
def Cuts (token before : Text) (lexemes : List Lexeme) : Prop :=
  ∃ left lexeme right, lexemes = left ++ lexeme :: right ∧ lexeme.kind ≠ none ∧
    (Splits token (before ++ texts left) (lexeme.text ++ texts right) ∨
      Splits token (before ++ texts left ++ lexeme.text) (texts right))

variable {token before : Text} {lexeme : Lexeme} {lexemes : List Lexeme}

theorem texts_cons : texts (lexeme :: lexemes) = lexeme.text ++ texts lexemes := List.flatMap_cons

theorem not_cuts_nil : ¬ Cuts token before [] := by
  rintro ⟨left, lexeme, right, heq, -⟩
  simp at heq

/-- A first lexeme cuts at its two ends, if it is painted; the others cut behind it. -/
theorem cuts_cons :
    Cuts token before (lexeme :: lexemes) ↔
      (lexeme.kind ≠ none ∧ (Splits token before (lexeme.text ++ texts lexemes) ∨
        Splits token (before ++ lexeme.text) (texts lexemes))) ∨
      Cuts token (before ++ lexeme.text) lexemes := by
  constructor
  · rintro ⟨left, cutter, right, heq, hkind, hcut⟩
    cases left with
    | nil =>
      obtain ⟨rfl, rfl⟩ := List.cons.inj heq
      exact .inl ⟨hkind, by simpa [texts] using hcut⟩
    | cons first left =>
      obtain ⟨rfl, rfl⟩ := List.cons.inj heq
      refine .inr ⟨left, cutter, right, rfl, hkind, ?_⟩
      simpa only [texts_cons, List.append_assoc] using hcut
  · rintro (⟨hkind, hcut⟩ | ⟨left, cutter, right, rfl, hkind, hcut⟩)
    · exact ⟨[], lexeme, lexemes, rfl, hkind, by simpa [texts] using hcut⟩
    · refine ⟨lexeme :: left, cutter, right, rfl, hkind, ?_⟩
      simpa only [texts_cons, List.append_assoc] using hcut

theorem cuts_iff_of_not_splits (hne : token ≠ []) (h : ¬ Splits token before (texts lexemes)) :
    Cuts token before lexemes ↔ Cuts token [] lexemes := by
  have hends : ∀ left cutter right, lexemes = left ++ cutter :: right →
      (Splits token (before ++ texts left) (cutter.text ++ texts right) ↔
          Splits token (texts left) (cutter.text ++ texts right)) ∧
        (Splits token (before ++ (texts left ++ cutter.text)) (texts right) ↔
          Splits token (texts left ++ cutter.text) (texts right)) := by
    rintro left cutter right rfl
    constructor
    · exact Text.splits_append_left_iff hne (by simpa [texts] using h)
    · exact Text.splits_append_left_iff hne (by simpa [texts] using h)
  unfold Cuts
  refine exists_congr fun left => exists_congr fun cutter => exists_congr fun right => ?_
  refine and_congr_right fun heq => and_congr_right fun _ => ?_
  obtain ⟨hleft, hright⟩ := hends left cutter right heq
  rw [List.append_assoc, hleft, hright, List.nil_append]

end ErrorReport.Source

/-! ## What is found on a terminal -/

namespace ErrorReport.Terminal

open Text (escape Splits covered)
open Source (Lexeme texts Cuts)

/-- Which visible characters of a segment are found to belong to an occurrence. -/
def Segment.found (token : Text) : Segment → List Bool
  | visible t => covered token t
  | sequence _ => []

/-- Which visible characters of a text are found to belong to an occurrence. -/
def found (token t : Text) : List Bool := (segments t).flatMap (Segment.found token)

section

variable {token : Text}

/-- The marks of a text say which of its characters are found. -/
theorem map_token_marks (token t : Text) : (marks token t).map Mark.token = found token t := by
  have hpieces : ∀ (bare : Bool) (ps : List Text.Piece),
      (pieceMarks token bare ps).map Mark.token = ps.flatMap (Text.Piece.flags token) := by
    intro bare ps
    induction ps generalizing bare with
    | nil => rfl
    | cons piece ps ih =>
      cases piece with
      | token =>
        rw [pieceMarks, List.map_append, List.map_replicate, ih, List.flatMap_cons]
        rfl
      | other c =>
        rw [pieceMarks, List.map_cons, ih, List.flatMap_cons]
        rfl
  rw [marks, found, List.map_flatMap]
  apply List.flatMap_congr
  intro segment _
  cases segment with
  | visible u => exact hpieces false _
  | sequence parameters => rfl

theorem found_of_notMem {t : Text} (h : escape ∉ t) : found token t = covered token t := by
  rw [found, flatMap_segments_of_notMem rfl h, Segment.found]

/-- Nothing is found across a sequence. -/
theorem found_append_sgr (s : Text) {parameters : Text} (h : parameters.all isParameter = true)
    (t : Text) : found token (s ++ (sgr parameters ++ t)) = found token s ++ found token t := by
  simp only [← map_token_marks, marks_append_sgr s h, List.map_append]

theorem found_append_cons (hne : token ≠ []) {c : Char} (hc : c ∉ token)
    (hpart : isSgrPart c = false) (hescape : c ≠ escape) (s t : Text) :
    found token (s ++ c :: t) = found token s ++ false :: found token t := by
  have hfound : ∀ s t : Text, Segment.found token (.visible (s ++ c :: t)) =
      Segment.found token (.visible s) ++ [false] ++ Segment.found token (.visible t) := by
    intro s t
    rw [Segment.found, Text.covered_append_cons hne hc, List.append_assoc]
    rfl
  rw [found, flatMap_segments_append_cons rfl hfound hpart hescape, List.append_assoc]
  rfl

theorem length_found (hne : token ≠ []) (t : Text) : (found token t).length = (strip t).length := by
  rw [← map_token_marks, List.length_map, length_marks hne]

theorem found_paint_append {a : Style} (ha : a ≠ {}) {s t : Text} (hs : escape ∉ s)
    (ht : escape ∉ t) (u : Text) :
    found token (s ++ (a.paint t ++ u)) =
      covered token s ++ (covered token t ++ found token u) := by
  have hsplit : s ++ (a.paint t ++ u) = s ++ (sgr a.parameters ++ (t ++ (sgr ['0'] ++ u))) := by
    have hopening : a.opening = sgr a.parameters := rfl
    rw [paint_of_notMem ha ht, hopening, reset]
    simp only [List.append_assoc]
  rw [hsplit, found_append_sgr s a.all_isParameter_parameters, found_append_sgr t (by decide),
    found_of_notMem hs, found_of_notMem ht]

theorem found_paint {a : Style} (ha : a ≠ {}) {t : Text} (ht : escape ∉ t) :
    found token (a.paint t) = covered token t := by
  have hnil : escape ∉ ([] : Text) := List.not_mem_nil
  have hpaint : found token ([] ++ (a.paint t ++ [])) = _ := found_paint_append ha hnil ht []
  have hcovered : covered token [] = [] := rfl
  rwa [List.nil_append, List.append_nil, found_of_notMem hnil, hcovered, List.nil_append,
    List.append_nil] at hpaint

end

/-! ## What is found in coloured lines -/

section

variable {θ : Theme} (hθ : θ.paints = true) {token : Text} (hne : token ≠ [])

include hθ hne

/-- **Every occurrence is found in coloured lexemes** exactly if none of them cuts one. -/
theorem found_lexemes_iff {lexemes : List Lexeme}
    (hlexemes : ∀ lexeme ∈ lexemes, escape ∉ lexeme.text) {before : Text}
    (hbefore : escape ∉ before) :
    found token (before ++ lexemes.flatMap θ.colouredLexeme) =
        covered token (before ++ texts lexemes) ↔
      ¬ Cuts token before lexemes := by
  -- along the lexemes, with the unpainted text in front of them as the stretch that is open
  induction lexemes generalizing before with
  | nil =>
    rw [List.flatMap_nil, List.append_nil, found_of_notMem hbefore]
    simp [texts, Source.not_cuts_nil]
  | cons lexeme lexemes ih =>
    obtain ⟨hlexeme, hrest⟩ := List.forall_mem_cons.1 hlexemes
    rw [List.flatMap_cons, Source.texts_cons, Source.cuts_cons, Theme.colouredLexeme]
    cases hkind : lexeme.kind with
    | none =>
      have hopen : escape ∉ before ++ lexeme.text := List.not_mem_append hbefore hlexeme
      dsimp only
      rw [← List.append_assoc, ← List.append_assoc, ih hrest hopen]
      simp
    | some kind =>
      have hstyle : lexemeStyle kind ≠ {} := by cases kind <;> decide
      have halone := ih hrest (show escape ∉ ([] : Text) from List.not_mem_nil)
      rw [List.nil_append, List.nil_append] at halone
      dsimp only
      rw [Theme.paint, if_pos hθ, found_paint_append hstyle hbefore hlexeme,
        Text.covered_append_iff hne, Text.covered_append_iff hne, halone]
      -- the stretches before, within and behind the lexeme are searched one by one
      by_cases hfirst : Splits token before (lexeme.text ++ texts lexemes)
      · simp [hfirst]
      · have hlast : Splits token (before ++ lexeme.text) (texts lexemes) ↔
            Splits token lexeme.text (texts lexemes) := Text.splits_append_left_iff hne hfirst
        by_cases hend : Splits token lexeme.text (texts lexemes)
        · simp [hfirst, hlast, hend]
        · have hcuts : Cuts token (before ++ lexeme.text) lexemes ↔ Cuts token [] lexemes :=
            Source.cuts_iff_of_not_splits hne (by rwa [hlast])
          simp [hfirst, hlast, hend, hcuts]

/-- **Every occurrence is found in a coloured line** exactly if the colours cut none. -/
theorem found_coloured_iff {line : Text} (h : escape ∉ line) :
    found token (θ.coloured line) = covered token line ↔
      ¬ Cuts token [] (Source.lexemes line) := by
  have hlexemes : ∀ lexeme ∈ Source.lexemes line, escape ∉ lexeme.text := fun lexeme hlexeme hmem =>
    h (Source.text_subset_of_mem_lexemes hlexeme hmem)
  have hline := found_lexemes_iff hθ hne hlexemes (show escape ∉ ([] : Text) from List.not_mem_nil)
  rw [List.nil_append, List.nil_append, texts, Source.lexemes_text] at hline
  rwa [coloured_eq_flatMap]

end

end ErrorReport.Terminal
