/-
# ErrorReport.Proofs.Stretches — what pointing out a token does to any text.

`highlight` is given finished text, and nothing says that its escape sequences are complete or that
the token looks unlike a part of one. Here the texts are arbitrary. A line is taken apart at its
sequences, and each stretch between two of them at the occurrences of the token, from the left and
without overlap (`Line`, `Stretch`). What is written when something stands for the token is `write`;
the line before and after is `write` with the token and with the token between its two sequences.
So no sequence of the line is lost, none is made of what stood next to the token, and nothing else
changes.

The line is rebuilt from slices between octets (`rebuild?`). That every slice is one is a theorem,
`rebuild?_places`, not an assumption.
-/
import ErrorReport.Proofs.Block
import Mathlib.Data.List.Flatten

namespace ErrorReport.Terminal

open Text (escape newline octetCount octetCount_append fromOctet? fromOctet?_append slice?
  slice?_append substitute lines)

/-! ## Rebuilding a line from its octets -/

/-- Where sequences stand among segments: the octet that each starts at and the one behind it. -/
def Segment.places : Nat → List Segment → List (Nat × Nat)
  | _, [] => []
  | n, visible t :: more => places (n + octetCount t) more
  | n, sequence parameters :: more =>
    let stop := n + octetCount (sgr parameters)
    (n, stop) :: places stop more

/-- Where the sequences of a text stand. -/
def places (t : Text) : List (Nat × Nat) := Segment.places 0 (segments t)

/-- A line written once more from the octet `last` on, slice by slice: what stands in front of a
place is changed, what stands at the place stays. A slice that is out of range or cuts a character
gives nothing. -/
def rebuild? (f : Text → Text) (line : Text) : Nat → List (Nat × Nat) → Option Text
  | last, [] => (fromOctet? last line).map f
  | last, (start, stop) :: more => do
    let front ← slice? last start line
    let kept ← slice? start stop line
    let rest ← rebuild? f line stop more
    return f front ++ (kept ++ rest)

theorem Segment.places_append_of_unbroken {s : Text} (h : Unbroken s) (n : Nat)
    (more : List Segment) :
    Segment.places n (segments s ++ more) = Segment.places (n + octetCount s) more := by
  by_cases hne : s = []
  · subst hne
    rw [segments_nil]
    rfl
  · rw [segments_of_unbroken h hne]
    rfl

section

variable {f : Text → Text} (hnil : f [] = [])

include hnil

/-- What has been read before does not matter. -/
theorem rebuild?_append (done t : Text) :
    rebuild? f (done ++ t) (octetCount done) (Segment.places (octetCount done) (segments t)) =
      some (mapVisible f t) := by
  induction t using stretchInduction generalizing done with
  | last t ht =>
    have hplaces := Segment.places_append_of_unbroken ht (octetCount done) []
    rw [List.append_nil] at hplaces
    rw [hplaces, Segment.places, rebuild?, fromOctet?_append, Option.map_some,
      mapVisible_of_unbroken hnil ht]
  | next s parameters u hs hall ih =>
    have hfront := slice?_append done s (sgr parameters ++ u)
    have hkept := slice?_append (done ++ s) (sgr parameters) u
    have hrest := ih (done ++ s ++ sgr parameters)
    simp only [octetCount_append, List.append_assoc, ← Nat.add_assoc] at hkept hrest
    rw [segments_append_sgr s hall, Segment.places_append_of_unbroken hs, Segment.places, rebuild?,
      hfront, hkept, hrest, mapVisible_append_sgr f s hall, mapVisible_of_unbroken hnil hs]
    rfl

/-- **Every slice is in range and between characters**, and together they are the line with its
visible text changed. -/
theorem rebuild?_places (line : Text) :
    rebuild? f line 0 (places line) = some (mapVisible f line) :=
  rebuild?_append hnil [] line

end

/-! ## Stretches -/

/-- A text cut at the occurrences of a token: what stands in front of each, and what follows the
last one. -/
structure Stretch where
  fronts : List Text
  rest : Text

namespace Stretch

variable {token new : Text} {s : Stretch}

/-- The text with something in the place of each occurrence. -/
def write (shown : Text) (s : Stretch) : Text := s.fronts.flatMap (· ++ shown) ++ s.rest

/-- The cuts are where a search from the left finds the token. -/
structure Searched (token : Text) (s : Stretch) : Prop where
  /-- No occurrence starts in front of the one that is cut out. -/
  leftmost : ∀ front ∈ s.fronts, ¬ token <:+: front ++ token.dropLast
  none_left : ¬ token <:+: s.rest

/-- Induction along the occurrences of a stretch. -/
@[elab_as_elim]
theorem induction {motive : Stretch → Prop} (rest : ∀ rest, motive ⟨[], rest⟩)
    (found : ∀ front fronts rest, motive ⟨fronts, rest⟩ → motive ⟨front :: fronts, rest⟩)
    (s : Stretch) : motive s := by
  obtain ⟨fronts, last⟩ := s
  induction fronts with
  | nil => exact rest last
  | cons front fronts ih => exact found front fronts last ih

theorem write_cons (shown front : Text) (fronts : List Text) (rest : Text) :
    write shown ⟨front :: fronts, rest⟩ = front ++ (shown ++ write shown ⟨fronts, rest⟩) := by
  simp only [write, List.flatMap_cons, List.append_assoc]

/-- A character in front of the text. -/
def push (c : Char) : Stretch → Stretch
  | ⟨[], rest⟩ => ⟨[], c :: rest⟩
  | ⟨front :: fronts, rest⟩ => ⟨(c :: front) :: fronts, rest⟩

theorem write_push (shown : Text) (c : Char) (s : Stretch) :
    (s.push c).write shown = c :: s.write shown := by
  match s with
  | ⟨[], rest⟩ => rfl
  | ⟨front :: fronts, rest⟩ => rw [push, write_cons, write_cons, List.cons_append]

theorem Searched.found {fronts : List Text} {rest : Text} (hne : token ≠ [])
    (h : Searched token ⟨fronts, rest⟩) : Searched token ⟨[] :: fronts, rest⟩ := by
  refine ⟨List.forall_mem_cons.2 ⟨fun hmem => ?_, h.leftmost⟩, h.none_left⟩
  -- the token is longer than what is left of it
  have hle := hmem.length_le
  have hpos : 0 < token.length := List.length_pos_iff.2 hne
  rw [List.nil_append, List.length_dropLast] at hle
  omega

/-- A search passes over a character at which the token does not stand. -/
theorem Searched.push {c : Char} (hmiss : ¬ token <+: c :: s.write token)
    (h : s.Searched token) : (s.push c).Searched token := by
  obtain ⟨hleftmost, hnone⟩ := h
  match s with
  | ⟨[], rest⟩ =>
    refine ⟨by simp [Stretch.push], fun hmem => ?_⟩
    rcases List.infix_cons_iff.1 hmem with hstart | hrest
    · exact hmiss hstart
    · exact hnone hrest
  | ⟨front :: fronts, rest⟩ =>
    obtain ⟨hfront, hfronts⟩ := List.forall_mem_cons.1 hleftmost
    refine ⟨List.forall_mem_cons.2 ⟨fun hmem => ?_, hfronts⟩, hnone⟩
    rcases List.infix_cons_iff.1 hmem with hstart | hrest
    · have hpart := Text.append_dropLast_prefix front token (write token ⟨fronts, rest⟩)
      rw [write_cons] at hmiss
      exact hmiss (hstart.trans (List.cons_prefix_cons.2 ⟨rfl, hpart⟩))
    · exact hfront hrest

/-- **Any text can be cut at what a search finds.** -/
theorem exists_searched (hne : token ≠ []) (t : Text) :
    ∃ s : Stretch, s.Searched token ∧ s.write token = t := by
  induction t using Text.searchInduction hne with
  | nil => exact ⟨⟨[], []⟩, ⟨by simp, fun h => hne (List.infix_nil.1 h)⟩, rfl⟩
  | found t ih =>
    obtain ⟨⟨fronts, rest⟩, hs, rfl⟩ := ih
    exact ⟨⟨[] :: fronts, rest⟩, hs.found hne, write_cons token [] fronts rest⟩
  | passed c t hmiss ih =>
    obtain ⟨s, hs, rfl⟩ := ih
    exact ⟨s.push c, hs.push hmiss, write_push token c s⟩

/-- **Substitution writes something else at the cuts.** -/
theorem Searched.substitute_write (hne : token ≠ []) (h : s.Searched token) :
    substitute token new (s.write token) = s.write new := by
  obtain ⟨hleftmost, hnone⟩ := h
  induction s using Stretch.induction with
  | rest rest => exact Text.substitute_eq_self hne hnone new
  | found front fronts rest ih =>
    obtain ⟨hfront, hfronts⟩ := List.forall_mem_cons.1 hleftmost
    rw [write_cons, write_cons, Text.substitute_append_token hne hfront, ih hfronts hnone]

theorem write_sublist (h : List.Sublist token new) (s : Stretch) :
    List.Sublist (s.write token) (s.write new) :=
  (List.Sublist.flatMap_right s.fronts fun front _ => h.append_left front).append_right s.rest

end Stretch

/-! ## Pointed out -/

/-- A token between the sequences that point it out. -/
def pointedOut (token : Text) : Text := sgr ['7'] ++ (token ++ reset)

/-- That is how a token without escape characters is painted. -/
theorem paint_highlight {token : Text} (h : escape ∉ token) :
    Style.highlight.paint token = pointedOut token := by
  rw [paint_of_notMem (by decide) h, List.append_assoc]
  rfl

theorem pointedOut_append (token t : Text) :
    pointedOut token ++ t = sgr ['7'] ++ (token ++ (sgr ['0'] ++ t)) := by
  rw [pointedOut, reset, List.append_assoc, List.append_assoc]

namespace Stretch

variable {token : Text} {s : Stretch}

/-- The parameters of the sequences that are written around the occurrences. -/
def pointedParameters (s : Stretch) : List Text := s.fronts.flatMap fun _ => [['7'], ['0']]

/-- A stretch with its occurrences pointed out has the sequences around them and no other. -/
theorem flatMap_segments_write {α : Type} {f : Segment → List α} (hnil : f (.visible []) = [])
    (h : Unbroken (s.write token)) :
    (segments (s.write (pointedOut token))).flatMap f =
      s.fronts.flatMap (fun front => f (.visible front) ++ (f (.sequence ['7']) ++
        (f (.visible token) ++ f (.sequence ['0'])))) ++ f (.visible s.rest) := by
  induction s using Stretch.induction with
  | rest rest => exact flatMap_segments_of_unbroken hnil h
  | found front fronts rest ih =>
    rw [write_cons] at h
    have hfront : Unbroken front := h.of_infix (List.prefix_append front _).isInfix
    have hbehind : Unbroken (token ++ write token ⟨fronts, rest⟩) :=
      h.of_infix (List.suffix_append front _).isInfix
    have htoken : Unbroken token := hbehind.of_infix (List.prefix_append token _).isInfix
    have hrest := ih (hbehind.of_infix (List.suffix_append token _).isInfix)
    have hseven : (['7'] : Text).all isParameter = true := by decide
    have hzero : (['0'] : Text).all isParameter = true := by decide
    rw [write_cons, pointedOut_append, segments_append_sgr front hseven,
      segments_append_sgr token hzero]
    simp only [List.flatMap_append, List.flatMap_cons, List.append_assoc, hrest,
      flatMap_segments_of_unbroken hnil hfront, flatMap_segments_of_unbroken hnil htoken]

theorem strip_write (h : Unbroken (s.write token)) :
    strip (s.write (pointedOut token)) = s.write token := by
  rw [strip, flatMap_segments_write rfl h, write]
  simp only [Segment.visibleText, List.nil_append, List.append_nil]

theorem sequences_write (h : Unbroken (s.write token)) :
    sequences (s.write (pointedOut token)) = s.pointedParameters := by
  rw [sequences, flatMap_segments_write rfl h, pointedParameters]
  simp only [Segment.parameters, List.nil_append, List.append_nil, List.singleton_append]

end Stretch

/-! ## Lines -/

/-- A line cut at its sequences: stretches with a sequence behind each but the last. -/
inductive Line where
  | last (stretch : Stretch)
  | next (stretch : Stretch) (parameters : Text) (more : Line)

namespace Line

variable {token new : Text} {l : Line}

/-- The text with something in the place of each occurrence. -/
def write (shown : Text) : Line → Text
  | last s => s.write shown
  | next s parameters more => s.write shown ++ (sgr parameters ++ more.write shown)

/-- The parameters of the sequences of the line. -/
def parameters : Line → List Text
  | last _ => []
  | next _ parameters more => parameters :: more.parameters

/-- The parameters of all sequences when the occurrences are pointed out. -/
def pointedParameters : Line → List Text
  | last s => s.pointedParameters
  | next s parameters more => s.pointedParameters ++ parameters :: more.pointedParameters

/-- The line is cut at all of its sequences, and the stretches where the token is found. -/
inductive Searched (token : Text) : Line → Prop
  | last {s : Stretch} (hs : s.Searched token) (hunbroken : Unbroken (s.write token)) :
      Searched token (last s)
  | next {s : Stretch} {parameters : Text} {more : Line} (hs : s.Searched token)
      (hunbroken : Unbroken (s.write token)) (hall : parameters.all isParameter = true)
      (hmore : Searched token more) : Searched token (next s parameters more)

/-- **Any text can be cut like that.** -/
theorem exists_searched (hne : token ≠ []) (t : Text) :
    ∃ l : Line, l.Searched token ∧ l.write token = t := by
  induction t using stretchInduction with
  | last t ht =>
    obtain ⟨s, hs, rfl⟩ := Stretch.exists_searched hne t
    exact ⟨.last s, .last hs ht, rfl⟩
  | next t parameters u ht hall ih =>
    obtain ⟨s, hs, rfl⟩ := Stretch.exists_searched hne t
    obtain ⟨more, hmore, rfl⟩ := ih
    exact ⟨.next s parameters more, .next hs ht hall hmore, rfl⟩

/-- **Changing the visible text writes something else at the cuts.** -/
theorem mapVisible_write (hne : token ≠ []) (h : l.Searched token) :
    mapVisible (substitute token new) (l.write token) = l.write new := by
  induction h with
  | last hs hunbroken =>
    rw [write, mapVisible_of_unbroken rfl hunbroken, hs.substitute_write hne, write]
  | next hs hunbroken hall hmore ih =>
    rw [write, mapVisible_append_sgr _ _ hall, mapVisible_of_unbroken rfl hunbroken,
      hs.substitute_write hne, ih, write]

theorem strip_write (h : l.Searched token) :
    strip (l.write (pointedOut token)) = strip (l.write token) := by
  induction h with
  | last hs hunbroken =>
    rw [write, write, Stretch.strip_write hunbroken, strip_of_unbroken hunbroken]
  | next hs hunbroken hall hmore ih =>
    rw [write, write, strip_append_sgr _ hall, strip_append_sgr _ hall, ih,
      Stretch.strip_write hunbroken, strip_of_unbroken hunbroken]

theorem sequences_write (h : l.Searched token) : sequences (l.write token) = l.parameters := by
  induction h with
  | last hs hunbroken => rw [write, sequences_of_unbroken hunbroken, parameters]
  | next hs hunbroken hall hmore ih =>
    rw [write, sequences_append_sgr _ hall, sequences_of_unbroken hunbroken, ih, parameters,
      List.nil_append]

theorem sequences_write_pointedOut (h : l.Searched token) :
    sequences (l.write (pointedOut token)) = l.pointedParameters := by
  induction h with
  | last hs hunbroken => rw [write, Stretch.sequences_write hunbroken, pointedParameters]
  | next hs hunbroken hall hmore ih =>
    rw [write, sequences_append_sgr _ hall, Stretch.sequences_write hunbroken, ih,
      pointedParameters]

theorem parameters_sublist (l : Line) : List.Sublist l.parameters l.pointedParameters := by
  induction l with
  | last s => exact List.nil_sublist _
  | next s parameters more ih =>
    exact (ih.cons_cons parameters).trans (List.sublist_append_right _ _)

theorem write_sublist (h : List.Sublist token new) (l : Line) :
    List.Sublist (l.write token) (l.write new) := by
  induction l with
  | last s => exact s.write_sublist h
  | next s parameters more ih => exact (s.write_sublist h).append (ih.append_left _)

/-- A line as it is and with the occurrences of a token pointed out. -/
structure PointsOut (l : Line) (token line out : Text) : Prop where
  searched : l.Searched token
  /-- Without what is written around the occurrences, the result is the line. -/
  before : l.write token = line
  after : l.write (pointedOut token) = out
  sequences_before : sequences line = l.parameters
  sequences_after : sequences out = l.pointedParameters
  kept : List.Sublist (sequences line) (sequences out)
  strip_eq : strip out = strip line
  /-- The line is rebuilt from slices, and none of them fails. -/
  slices : rebuild? (substitute token (pointedOut token)) line 0 (places line) = some out

/-- **What is pointed out on a line** is what a search of its stretches finds. -/
theorem exists_pointsOut {θ : Theme} (hθ : θ.paints = true) (hne : token ≠ [])
    (htoken : escape ∉ token) (line : Text) :
    ∃ l : Line, l.PointsOut token line (θ.pointed token line) := by
  obtain ⟨l, hl, rfl⟩ := exists_searched hne line
  have hpointed : θ.pointed token (l.write token) = l.write (pointedOut token) := by
    rw [Theme.pointed_eq hθ hne, paint_highlight htoken, mapVisible_write hne hl]
  have hbefore := sequences_write hl
  have hafter := sequences_write_pointedOut hl
  rw [hpointed]
  refine ⟨l, hl, rfl, rfl, hbefore, hafter, ?_, strip_write hl, ?_⟩
  · rw [hbefore, hafter]
    exact l.parameters_sublist
  · rw [rebuild?_places rfl, mapVisible_write hne hl]

end Line

/-! ## Texts -/

namespace Theme

variable {θ : Theme} {token : Text}

theorem pointed_ne_nil (hθ : θ.paints = true) (hne : token ≠ []) (htoken : escape ∉ token)
    {line : Text} (h : line ≠ []) : θ.pointed token line ≠ [] := by
  obtain ⟨l, hl⟩ := Line.exists_pointsOut hθ hne htoken line
  have hinside : List.Sublist token (pointedOut token) :=
    (List.sublist_append_left _ _).trans (List.sublist_append_right _ _)
  have hsublist := l.write_sublist hinside
  rw [hl.before, hl.after] at hsublist
  intro hnil
  rw [hnil] at hsublist
  exact h (List.sublist_nil.1 hsublist)

/-- The lines of a highlighted text. -/
theorem lines_highlight (hθ : θ.paints = true) (hne : token ≠ []) (htoken : escape ∉ token)
    (hnewline : newline ∉ token) (index : Nat) (t : Text) :
    lines (θ.highlight index token t) = (lines t).modify index (θ.pointed token) := by
  rw [highlight_eq_mapLineAt]
  refine Text.lines_mapLineAt (fun b hb => ?_) (fun b hb hline => ?_) index t
  · exact ⟨θ.pointed token b, newline_notMem_pointed hnewline hb, pointed_append_newline hnewline b⟩
  · exact ⟨pointed_ne_nil hθ hne htoken hb, newline_notMem_pointed hnewline hline⟩

/-- **Highlighting damages no escape sequence.** Whatever the text holds, one line changes, by the
sequences around the occurrences of the token in its stretches. -/
theorem highlight_keeps_sequences (hθ : θ.paints = true) (hne : token ≠ [])
    (htoken : escape ∉ token) (hnewline : newline ∉ token) (index : Nat) (t : Text) :
    (lines (θ.highlight index token t)).length = (lines t).length ∧
      (∀ i, i ≠ index → (lines (θ.highlight index token t))[i]? = (lines t)[i]?) ∧
      strip (θ.highlight index token t) = strip t ∧
      ∀ line, (lines t)[index]? = some line → ∃ (out : Text) (l : Line),
        (lines (θ.highlight index token t))[index]? = some out ∧ l.PointsOut token line out := by
  have hlines := lines_highlight hθ hne htoken hnewline index t
  have hstrip : ∀ line, strip (θ.pointed token line) = strip line := fun line =>
    (Line.exists_pointsOut hθ hne htoken line).elim fun _ hl => hl.strip_eq
  refine ⟨?_, fun i hi => ?_, ?_, fun line hline => ?_⟩
  · rw [hlines, List.length_modify]
  · rw [hlines, List.getElem?_modify_ne _ _ hi.symm]
  · rw [strip_eq_flatMap_lines, hlines, Text.flatMap_modify hstrip, ← strip_eq_flatMap_lines]
  · obtain ⟨l, hl⟩ := Line.exists_pointsOut hθ hne htoken line
    refine ⟨_, l, ?_, hl⟩
    rw [hlines, List.getElem?_modify_eq, hline]
    rfl

/-- A token that looks like a parameter, in front of a sequence and behind one, and in two that are
not complete. -/
theorem highlight_keeps_sequences_truncated :
    let t := "é\n\x1b[3\x1b[33m3é33m\x1b[3\n3\n".toList
    let line := "\x1b[3\x1b[33m3é33m\x1b[3\n".toList
    let out := "\x1b[\x1b[7m3\x1b[0m\x1b[33m\x1b[7m3\x1b[0mé".toList ++
      "\x1b[7m3\x1b[0m\x1b[7m3\x1b[0mm\x1b[\x1b[7m3\x1b[0m\n".toList
    lines (Theme.highlight {} 1 ['3'] t) = ["é\n".toList, out, "3\n".toList] ∧
      ∃ l : Line, l.PointsOut ['3'] line out := by
  intro t line out
  have hlines : lines (Theme.highlight {} 1 ['3'] t) = ["é\n".toList, out, "3\n".toList] := by
    decide +kernel
  obtain ⟨-, -, -, h⟩ :=
    @highlight_keeps_sequences {} ['3'] rfl (by decide) (by decide) (by decide) 1 t
  obtain ⟨_, l, hout, hl⟩ := h line (by decide)
  rw [hlines] at hout
  obtain rfl := Option.some.inj hout
  exact ⟨hlines, l, hl⟩

end Theme

end ErrorReport.Terminal
