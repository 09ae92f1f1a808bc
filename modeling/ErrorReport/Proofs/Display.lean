/-
# ErrorReport.Proofs.Display — what a terminal shows of painted text.

A terminal has a state, the attributes in which it shows the next character. A sequence changes the
state, parameter by parameter; zero takes it back to its *ground*. The ground of a real terminal has
no attributes. But painted text inside other painted text finds the outer style again after each
reset, so it is shown as on a terminal whose ground is that style: `display_reopen`, the law that
carries this module. The sequence that is repeated behind a reset need not be looked at anywhere
else.

`Displays t cells` says that a text shows certain cells on every ground and leaves the terminal
there. The relation is kept when texts are joined and when they are painted.
-/
import ErrorReport.Proofs.Visible

namespace ErrorReport.Terminal

open Text (escape)

/-! ## The terminal -/

/-- The colours in use, listed. -/
def Colour.all : List Colour :=
  [red, green, yellow, blue, magenta, cyan, white, brightBlack, brightRed, brightCyan, brightWhite]

/-- The colour that a parameter sets in front. -/
def Colour.ofCode? (code : Nat) : Option Colour := all.find? (·.code = code)

/-- A character as it is shown. -/
structure Cell where
  char : Char
  style : Style
  deriving DecidableEq, Repr

/-- The characters of a text, all shown alike. -/
def lay (s : Style) (t : Text) : List Cell := t.map (⟨·, s⟩)

namespace Style

/-- A style within another: its attributes come to those of the outer one, its colours take the
place of the outer ones. -/
def within (s outer : Style) : Style where
  bold := s.bold || outer.bold
  dimmed := s.dimmed || outer.dimmed
  underlined := s.underlined || outer.underlined
  reversed := s.reversed || outer.reversed
  background := s.background <|> outer.background
  foreground := s.foreground <|> outer.foreground

/-- What a parameter does to the state of a terminal. Zero takes it back to the ground, the others
set an attribute or a colour; what is not known is passed over. -/
def set (s ground : Style) (code : Nat) : Style :=
  match code with
  | 0 => ground
  | 1 => { s with bold := true }
  | 2 => { s with dimmed := true }
  | 4 => { s with underlined := true }
  | 7 => { s with reversed := true }
  | _ =>
    match Colour.ofCode? code, Colour.ofCode? (code - 10) with
    | some colour, _ => { s with foreground := some colour }
    | none, some colour => { s with background := some colour }
    | none, none => s

/-- What a sequence does to the state of a terminal. A parameter without digits counts as zero. -/
def setAll (s ground : Style) (parameters : Text) : Style :=
  ((parameters.splitOn ';').map Text.digitsValue).foldl (fun s code => s.set ground code) s

end Style

/-- What is shown of segments, and the state at the end. -/
def displaySegments (ground : Style) : Style → List Segment → List Cell × Style
  | s, [] => ([], s)
  | s, .visible t :: rest =>
    let (cells, last) := displaySegments ground s rest
    (lay s t ++ cells, last)
  | s, .sequence parameters :: rest => displaySegments ground (s.setAll ground parameters) rest

/-- What a terminal in the state `s` shows of a text, and its state at the end. -/
def display (ground s : Style) (t : Text) : List Cell × Style :=
  displaySegments ground s (segments t)

/-- **What is shown is what is visible**, in whatever attributes. -/
theorem map_char_display (ground s : Style) (t : Text) :
    (display ground s t).1.map Cell.char = strip t := by
  unfold display strip
  induction segments t generalizing s with
  | nil => rfl
  | cons segment segments ih =>
    cases segment with
    | visible t =>
      have hlay : (lay s t).map Cell.char = t := by simp [lay, Function.comp_def]
      rw [displaySegments, List.flatMap_cons, List.map_append, hlay, ih]
      rfl
    | sequence parameters =>
      rw [displaySegments, List.flatMap_cons, ih]
      rfl

/-! ## Styles within each other -/

namespace Style

theorem empty_within (s : Style) : ({} : Style).within s = s := rfl

theorem within_empty (s : Style) : s.within {} = s := by
  obtain ⟨bold, dimmed, underlined, reversed, background, foreground⟩ := s
  simp [within]

theorem foldl_set_background (ground s : Style) (colour : Option Colour) :
    (colour.map (·.code + 10)).toList.foldl (fun s code => s.set ground code) s =
      { s with background := colour <|> s.background } := by
  cases colour with
  | none => rfl
  | some colour => cases colour <;> rfl

theorem foldl_set_foreground (ground s : Style) (colour : Option Colour) :
    (colour.map (·.code)).toList.foldl (fun s code => s.set ground code) s =
      { s with foreground := colour <|> s.foreground } := by
  cases colour with
  | none => rfl
  | some colour => cases colour <;> rfl

/-- The parameters of a style put it within the state. -/
theorem foldl_set_codes (ground s a : Style) :
    a.codes.foldl (fun s code => s.set ground code) s = a.within s := by
  unfold codes
  simp only [List.foldl_append, foldl_set_background, foldl_set_foreground]
  obtain ⟨bold, dimmed, underlined, reversed, background, foreground⟩ := a
  cases bold <;> cases dimmed <;> cases underlined <;> cases reversed <;> rfl

theorem codes_ne_nil {a : Style} (h : a ≠ {}) : a.codes ≠ [] := by
  intro hnil
  apply h
  rw [← within_empty a, ← foldl_set_codes {} {} a, hnil, List.foldl_nil]

theorem setAll_parameters (ground s : Style) {a : Style} (h : a ≠ {}) :
    s.setAll ground a.parameters = a.within s := by
  have hnumbers : ∀ t ∈ a.codes.map Text.ofNat, ';' ∉ t := by
    intro t ht
    obtain ⟨n, -, rfl⟩ := List.mem_map.1 ht
    exact Text.notMem_ofNat (by decide) n
  have hsplit : a.parameters.splitOn ';' = a.codes.map Text.ofNat :=
    List.splitOn_intercalate ';' hnumbers (mt List.map_eq_nil_iff.1 (codes_ne_nil h))
  have hread : Text.digitsValue ∘ Text.ofNat = id := funext Text.digitsValue_ofNat
  rw [setAll, hsplit, List.map_map, hread, List.map_id, foldl_set_codes]

/-- No style is opened by a reset. -/
theorem parameters_ne_zero {a : Style} (h : a ≠ {}) : a.parameters ≠ ['0'] := by
  intro hzero
  -- a reset takes every state to the ground, but an attribute that is there stays
  have hover : a.within { bold := true } = {} := by
    rw [← setAll_parameters {} _ h, hzero]
    rfl
  have hbold : (a.within { bold := true }).bold = true := Bool.or_true a.bold
  rw [hover] at hbold
  cases hbold

end Style

/-! ## Showing text -/

variable {ground s : Style}

@[simp]
theorem display_nil : display ground s [] = ([], s) := by
  rw [display, segments]
  rfl

theorem display_cons {c : Char} {t : Text} (h : c = escape → sgrRest? t = none) :
    display ground s (c :: t) =
      (⟨c, s⟩ :: (display ground s t).1, (display ground s t).2) := by
  rw [display, segments_cons h, display]
  unfold Segment.consVisible
  split
  · next u more heq => rw [heq]; rfl
  · rfl

theorem display_sgr_append {parameters : Text} (h : parameters.all isParameter = true) (t : Text) :
    display ground s (sgr parameters ++ t) = display ground (s.setAll ground parameters) t := by
  rw [display, segments_sgr_append h, displaySegments, display]

/-- Behind the sequence of a style, text is shown in that style within the state. -/
theorem display_opening {a : Style} (ha : a ≠ {}) (t : Text) :
    display ground s (a.opening ++ t) = display ground (a.within s) t := by
  have hopening : a.opening = sgr a.parameters := rfl
  rw [hopening, display_sgr_append a.all_isParameter_parameters,
    Style.setAll_parameters ground s ha]

theorem display_reset (t : Text) :
    display ground s (reset ++ t) = display ground ground t := by
  rw [reset, display_sgr_append (by decide)]
  rfl

theorem display_append_of_notMem {t : Text} (h : escape ∉ t) (ground s : Style) (u : Text) :
    display ground s (t ++ u) = (lay s t ++ (display ground s u).1, (display ground s u).2) := by
  induction t with
  | nil => rfl
  | cons c t ih =>
    obtain ⟨hc, ht⟩ := List.ne_and_not_mem_of_not_mem_cons h
    rw [List.cons_append, display_cons fun heq => absurd heq.symm hc, ih ht]
    rfl

/-- **What is shown of joined texts** is shown one after the other, the second text from the state
that the first leaves, if every escape character of the first opens a complete sequence. -/
theorem display_append {t : Text} (h : escape ∉ strip t) (ground s : Style) (u : Text) :
    display ground s (t ++ u) =
      ((display ground s t).1 ++ (display ground (display ground s t).2 u).1,
        (display ground (display ground s t).2 u).2) := by
  induction t using sgrInduction generalizing s with
  | nil => rw [List.nil_append, display_nil, List.nil_append]
  | sequence parameters t hall ih =>
    rw [strip_sgr_append hall] at h
    rw [List.append_assoc, display_sgr_append hall, display_sgr_append hall, ih h]
  | visible c t hc ih =>
    rw [strip_cons hc] at h
    obtain ⟨hne, ht⟩ := List.ne_and_not_mem_of_not_mem_cons h
    rw [List.cons_append, display_cons fun heq => absurd heq.symm hne, display_cons hc, ih ht,
      List.cons_append]

/-- Text behind a separator is shown from the state that the text in front of it leaves. -/
theorem display_append_cons {c : Char} (hpart : isSgrPart c = false) (hc : c ≠ escape)
    (ground s : Style) (t u : Text) :
    display ground s (t ++ c :: u) =
      ((display ground s t).1 ++ ⟨c, (display ground s t).2⟩ ::
          (display ground (display ground s t).2 u).1,
        (display ground (display ground s t).2 u).2) := by
  induction t using sgrInduction generalizing s with
  | nil => rw [List.nil_append, display_cons fun h => absurd h hc, display_nil, List.nil_append]
  | sequence parameters t hall ih =>
    rw [List.append_assoc, display_sgr_append hall, display_sgr_append hall, ih]
  | visible d t h ih =>
    have hrest : d = escape → sgrRest? (t ++ c :: u) = none :=
      fun hd => sgrRest?_append_cons hpart (h hd) u
    rw [List.cons_append, display_cons hrest, display_cons h, ih, List.cons_append]

/-! ## Painted text -/

/-- Text as it is painted: visible characters, sequences of styles, and resets. -/
inductive Painted : Text → Prop
  | nil : Painted []
  | cons {c : Char} {t : Text} : c ≠ escape → Painted t → Painted (c :: t)
  | opening {a : Style} {t : Text} : a ≠ {} → Painted t → Painted (a.opening ++ t)
  | reset {t : Text} : Painted t → Painted (reset ++ t)

namespace Painted

variable {t u : Text}

theorem of_notMem (h : escape ∉ t) : Painted t := by
  induction t with
  | nil => exact .nil
  | cons c t ih =>
    obtain ⟨hc, ht⟩ := List.ne_and_not_mem_of_not_mem_cons h
    exact .cons (Ne.symm hc) (ih ht)

theorem append (ht : Painted t) (hu : Painted u) : Painted (t ++ u) := by
  induction ht with
  | nil => exact hu
  | cons hc _ ih => exact .cons hc ih
  | opening ha _ ih =>
    rw [List.append_assoc]
    exact .opening ha ih
  | reset _ ih =>
    rw [List.append_assoc]
    exact .reset ih

theorem clean (ht : Painted t) : escape ∉ strip t := by
  induction ht with
  | nil => simp
  | cons hc _ ih =>
    rw [strip_cons fun h => absurd h hc]
    exact List.not_mem_cons_of_ne_of_not_mem (Ne.symm hc) ih
  | @opening a t _ _ ih =>
    have hopening : a.opening = sgr a.parameters := rfl
    rwa [hopening, strip_sgr_append a.all_isParameter_parameters]
  | reset _ ih => rwa [Terminal.reset, strip_sgr_append (by decide)]

end Painted

/-! ## Repeated sequences -/

section

variable (opening : Text)

theorem reopen_cons {c : Char} (hc : c ≠ escape) (t : Text) :
    Style.reopen opening (c :: t) = c :: Style.reopen opening t :=
  reopen_append_of_notMem opening (s := [c]) (by simpa using Ne.symm hc) t

/-- Repeating a sequence passes over the sequences of styles. -/
theorem reopen_opening {a : Style} (ha : a ≠ {}) (t : Text) :
    Style.reopen opening (a.opening ++ t) = a.opening ++ Style.reopen opening t := by
  have hsgr : a.opening = sgr a.parameters := rfl
  rw [hsgr, reopen_sgr_append opening a.all_isParameter_parameters,
    if_neg (Style.parameters_ne_zero ha), List.append_nil]

end

variable {t : Text} {a : Style}

/-- In text without escape characters that is painted twice, the outer style is opened again behind
the inner text. -/
theorem paint_paint_of_notMem {b : Style} (ha : a ≠ {}) (hb : b ≠ {}) (h : escape ∉ t) :
    a.paint (b.paint t) =
      a.opening ++ (b.opening ++ (t ++ (reset ++ (a.opening ++ reset)))) := by
  have hreset := reopen_reset a.opening []
  rw [List.append_nil] at hreset
  have hinner : Style.reopen a.opening (b.opening ++ t ++ reset) =
      b.opening ++ (t ++ (reset ++ a.opening)) := by
    rw [List.append_assoc, reopen_opening _ hb, reopen_append_of_notMem _ h, hreset]
    simp [Style.reopen]
  rw [paint_of_notMem hb h, Style.paint, if_neg ha, hinner]
  simp only [List.append_assoc]

theorem Painted.reopen (ha : a ≠ {}) (ht : Painted t) : Painted (Style.reopen a.opening t) := by
  induction ht with
  | nil => exact .nil
  | cons hc _ ih =>
    rw [reopen_cons _ hc]
    exact .cons hc ih
  | opening hb _ ih =>
    rw [reopen_opening _ hb]
    exact .opening hb ih
  | reset _ ih =>
    rw [reopen_reset]
    exact .reset (.opening ha ih)

/-- **Repeating a sequence moves the ground.** With the sequence of a style repeated after every
reset, painted text is shown as on a terminal that goes back to that style. -/
theorem Painted.display_reopen (ha : a ≠ {}) (ht : Painted t) (ground s : Style) :
    display ground s (Style.reopen a.opening t) = display (a.within ground) s t := by
  induction ht generalizing s with
  | nil => rw [Style.reopen, display_nil, display_nil]
  | cons hc _ ih =>
    rw [reopen_cons _ hc, display_cons fun h => absurd h hc, display_cons fun h => absurd h hc, ih]
  | opening hb _ ih => rw [reopen_opening _ hb, display_opening hb, display_opening hb, ih]
  | reset _ ih => rw [reopen_reset, display_reset, display_opening ha, display_reset, ih]

/-! ## What a text displays -/

/-- A painted text that shows certain cells on every ground, and leaves the terminal there. -/
structure Displays (t : Text) (cells : Style → List Cell) : Prop where
  painted : Painted t
  display_eq : ∀ ground, display ground ground t = (cells ground, ground)

namespace Displays

variable {t u : Text} {f g : Style → List Cell}

theorem of_notMem (h : escape ∉ t) : Displays t fun ground => lay ground t where
  painted := .of_notMem h
  display_eq ground := by
    have := display_append_of_notMem h ground ground []
    rwa [List.append_nil, display_nil, List.append_nil] at this

theorem append (ht : Displays t f) (hu : Displays u g) :
    Displays (t ++ u) fun ground => f ground ++ g ground where
  painted := ht.painted.append hu.painted
  display_eq ground := by
    rw [display_append ht.painted.clean, ht.display_eq, hu.display_eq]

theorem flatMap {ι : Type} {is : List ι} {text : ι → Text} {cells : ι → Style → List Cell}
    (h : ∀ i ∈ is, Displays (text i) (cells i)) :
    Displays (is.flatMap text) fun ground => is.flatMap fun i => cells i ground := by
  induction is with
  | nil => exact of_notMem (t := []) List.not_mem_nil
  | cons i is ih =>
    obtain ⟨hi, his⟩ := List.forall_mem_cons.1 h
    exact hi.append (ih his)

theorem intercalate {ι : Type} {is : List ι} {text : ι → Text} {cells : ι → Style → List Cell}
    (hseparator : Displays t f) (h : ∀ i ∈ is, Displays (text i) (cells i)) :
    Displays (t.intercalate (is.map text)) fun ground =>
      (f ground).intercalate (is.map fun i => cells i ground) := by
  induction is with
  | nil => exact of_notMem (t := []) List.not_mem_nil
  | cons i is ih =>
    obtain ⟨hi, his⟩ := List.forall_mem_cons.1 h
    cases is with
    | nil => simpa using hi
    | cons j is =>
      have hrest := ih his
      simp only [List.map_cons, List.intercalate_cons_cons] at hrest ⊢
      exact (hi.append hseparator).append hrest

/-- **Painted text is shown in its style within the ground**, whatever is painted in it. -/
theorem paint (a : Style) (ht : Displays t f) :
    Displays (a.paint t) fun ground => f (a.within ground) := by
  unfold Style.paint
  split
  · next hempty =>
    subst hempty
    simpa only [Style.empty_within] using ht
  · next ha =>
    have hreopen : Painted (Style.reopen a.opening t) := ht.painted.reopen ha
    constructor
    · rw [List.append_assoc]
      exact .opening ha (hreopen.append (.reset .nil))
    · intro ground
      have hinner : display ground (a.within ground) (Style.reopen a.opening t) =
          (f (a.within ground), a.within ground) := by
        rw [ht.painted.display_reopen ha, ht.display_eq]
      have hend : display ground (a.within ground) reset = ([], ground) := by
        rw [← List.append_nil reset, display_reset, display_nil]
      rw [List.append_assoc, display_opening ha, display_append hreopen.clean, hinner, hend,
        List.append_nil]

end Displays

end ErrorReport.Terminal
