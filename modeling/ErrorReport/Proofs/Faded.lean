/-
# ErrorReport.Proofs.Faded — where only the path matters, no colour is left.

The block of such a window is made like any other, with all its colours, and then loses them: it is
moved to the right, stripped and made faint, and the token is pointed out once more. Stripping takes
out exactly what the ansi theme has put in (`ErrorReport.Proofs.Shows`), so the outcome can be told
from what the plain theme prints: it is made faint and the token pointed out in it
(`path_block_of_plain`). How the rows were coloured, numbered, annotated and searched before leaves no
trace, and the sequences that are left are those of the last two steps.
-/
import ErrorReport.Proofs.Aim
import ErrorReport.Proofs.Bounds
import ErrorReport.Proofs.Themes

namespace ErrorReport

open Text (escape newline unlines)

namespace Terminal

/-! ## Which sequences a text holds -/

/-- Every escape character of a text opens a complete sequence, and all sequences are of a kind. -/
structure HoldsOnly (kind : Text → Prop) (t : Text) : Prop where
  clean : escape ∉ strip t
  all : ∀ parameters ∈ sequences t, kind parameters

namespace HoldsOnly

variable {kind : Text → Prop} {s t : Text}

theorem of_notMem (h : escape ∉ t) : HoldsOnly kind t where
  clean := by rwa [strip_of_notMem h]
  all := by simp [sequences_of_notMem h]

theorem append (hs : HoldsOnly kind s) (ht : HoldsOnly kind t) : HoldsOnly kind (s ++ t) where
  clean := by
    rw [strip_append hs.clean]
    exact List.not_mem_append hs.clean ht.clean
  all := by
    rw [sequences_append hs.clean]
    exact List.forall_mem_append.2 ⟨hs.all, ht.all⟩

theorem flatMap {ι : Type} {is : List ι} {f : ι → Text} (h : ∀ i ∈ is, HoldsOnly kind (f i)) :
    HoldsOnly kind (is.flatMap f) := by
  induction is with
  | nil => exact of_notMem List.not_mem_nil
  | cons i is ih =>
    obtain ⟨hi, his⟩ := List.forall_mem_cons.1 h
    rw [List.flatMap_cons]
    exact hi.append (ih his)

theorem unlines {rows : List Text} (h : ∀ row ∈ rows, HoldsOnly kind row) :
    HoldsOnly kind (unlines rows) :=
  flatMap fun row hrow => (h row hrow).append (of_notMem (by decide))

theorem of_sgr {parameters : Text} (hall : parameters.all isParameter = true)
    (h : kind parameters) : HoldsOnly kind (sgr parameters) where
  clean := by
    have hstrip := strip_sgr_append hall []
    rw [List.append_nil, strip_nil] at hstrip
    rw [hstrip]
    exact List.not_mem_nil
  all := by
    have hself := sequences_sgr_append hall []
    rw [List.append_nil, sequences_nil] at hself
    rw [hself]
    exact List.forall_mem_singleton.2 h

theorem paint {a : Style} (ha : kind a.parameters) (hreset : kind ['0']) (h : escape ∉ t) :
    HoldsOnly kind (a.paint t) := by
  by_cases hplain : a = {}
  · rw [Style.paint, if_pos hplain]
    exact of_notMem h
  · rw [paint_of_notMem hplain h]
    exact ((of_sgr a.all_isParameter_parameters ha).append (of_notMem h)).append
      (of_sgr (by decide) hreset)

end HoldsOnly

/-- The kinds of sequences in a faded block: faint, reversed, reset. -/
def IsFading (parameters : Text) : Prop :=
  parameters = ['2'] ∨ parameters = ['7'] ∨ parameters = ['0']

variable {θ : Theme} {token t : Text}

theorem holdsOnly_faint (h : escape ∉ t) : HoldsOnly IsFading (Style.faint.paint t) :=
  .paint (.inl rfl) (.inr (.inr rfl)) h

theorem holdsOnly_pointed_faint (hθ : θ.paints = true) (htoken : escape ∉ token)
    (h : escape ∉ t) : HoldsOnly IsFading (θ.pointed token (Style.faint.paint t)) := by
  by_cases hne : token = []
  · rw [hne, Theme.pointed_nil]
    exact holdsOnly_faint h
  · -- the token is searched in the one visible stretch between the two sequences
    have hstart : ['2'].all isParameter = true := by decide
    have hend : ['0'].all isParameter = true := by decide
    have hpaint : Style.faint.paint t = [] ++ (sgr ['2'] ++ (t ++ (sgr ['0'] ++ []))) := by
      rw [paint_of_notMem (by decide) h, List.nil_append, List.append_nil, List.append_assoc]
      rfl
    rw [Theme.pointed_eq hθ hne, hpaint, mapVisible_append_sgr _ _ hstart,
      mapVisible_append_sgr _ _ hend, mapVisible_of_notMem rfl List.not_mem_nil,
      mapVisible_of_notMem rfl h]
    have hfaint : HoldsOnly IsFading (sgr ['2']) := .of_sgr hstart (.inl rfl)
    have hreset : HoldsOnly IsFading (sgr ['0']) := .of_sgr hend (.inr (.inr rfl))
    have hpieces : HoldsOnly IsFading
        (Text.substitute token (Style.highlight.paint token) t) := by
      refine .flatMap fun piece hpiece => ?_
      cases piece with
      | token => exact .paint (.inr (.inl rfl)) (.inr (.inr rfl)) htoken
      | other c =>
        exact .of_notMem fun hc => h (Text.toText_subset_of_mem_pieces hne hpiece hc)
    exact (HoldsOnly.of_notMem List.not_mem_nil).append
      (hfaint.append (hpieces.append (hreset.append (.of_notMem List.not_mem_nil))))

end Terminal

open Terminal (Theme Style Shows HoldsOnly IsFading strip sequences)

namespace Window

variable {v : View} {w : Window}

/-! ## The line of the location -/

/-- How far the line of the location is behind the first line shown; negative if it comes before
it. Line zero counts as the first. -/
def offset (w : Window) : Int := max (w.location.line.toNat : Int) 1 - 1 - w.start.toNat

/-- The line that is pointed at is the one at the offset, unless that is negative. -/
theorem target?_eq_offset (w : Window) :
    w.target? = if 0 ≤ w.offset then some w.offset.toNat else none := by
  apply Option.ext
  intro target
  rw [target?_eq_some_iff]
  unfold offset
  split
  · rw [Option.some_inj]
    omega
  · refine iff_of_false ?_ nofun
    omega

theorem pointOut_eq_offset (θ : Theme) (w : Window) (block : Text) :
    w.pointOut θ block =
      if 0 ≤ w.offset then θ.highlight w.offset.toNat w.token block else block := by
  unfold pointOut
  rw [target?_eq_offset]
  by_cases hoffset : 0 ≤ w.offset
  · rw [if_pos hoffset, if_pos hoffset]
  · rw [if_neg hoffset, if_neg hoffset]

/-! ## Blocks -/

/-- What the plain theme prints below the heading of a window where only the path matters. -/
theorem render_plain_of_path (hpath : w.emphasis = .path) :
    w.render v.plain =
      w.heading v.plain ++ newline :: Theme.indented margin (w.block v.plain) := by
  have hpoint : ∀ block, w.pointOut v.plain.theme block = block := by
    intro block
    unfold pointOut
    cases w.target? with
    | none => rfl
    | some target => rfl
  unfold render heading
  rw [hpath]
  dsimp only
  rw [hpoint]
  rfl

/-- **Fading takes out what the ansi theme has put in**: the block in colours and the plain one fade
to the same. -/
theorem faded_block (hθ : v.theme.paints = true) (hw : w.EscapeFree v.files)
    (htoken : newline ∉ w.token) :
    v.theme.faded (Theme.indented margin (w.block v)) =
      v.theme.faded (Theme.indented margin (w.block v.plain)) := by
  have hshows : Shows v.theme (Theme.indented margin (w.block v))
      (Theme.indented margin (w.block v.plain)) :=
    (shows_block hw).indented (show escape ∉ margin by decide) (isBlock_block htoken)
  unfold Theme.faded
  rw [Theme.name_eq_ansi hθ]
  dsimp only
  rw [hshows.strip_eq, Terminal.strip_of_notMem hshows.clean]

theorem exists_rows_plain (hw : w.EscapeFree v.files) (htoken : newline ∉ w.token) :
    ∃ rows : List Text, (∀ row ∈ rows, newline ∉ row) ∧ (∀ row ∈ rows, escape ∉ row) ∧
      Theme.indented margin (w.block v.plain) = unlines rows := by
  obtain ⟨rows, hrows, heq⟩ := isBlock_block (v := v.plain) htoken
  have hclean : escape ∉ unlines rows := heq ▸ (shows_block hw).clean
  refine ⟨rows.map (margin ++ ·), ?_, ?_, ?_⟩
  · exact List.forall_mem_map.2 fun row hrow => List.not_mem_append (by decide) (hrows row hrow)
  · refine List.forall_mem_map.2 fun row hrow => List.not_mem_append (by decide) fun hmem => ?_
    exact hclean (List.mem_flatMap.2 ⟨row, hrow, List.mem_append_left _ hmem⟩)
  · rw [heq, Theme.indented, Text.mapLines_unlines margin hrows]

/-- A faded block, with the token pointed out in it or not, holds the sequences of fading only. -/
theorem holdsOnly_pointOut_faded {rows : List Text} (hθ : v.theme.paints = true)
    (htoken : escape ∉ w.token) (hline : newline ∉ w.token) (hsingle : ∀ row ∈ rows, newline ∉ row)
    (hclean : ∀ row ∈ rows, escape ∉ row) :
    HoldsOnly IsFading (w.pointOut v.theme (v.theme.faded (unlines rows))) := by
  have hdulled : ∀ row ∈ rows, v.theme.dulled row = Style.faint.paint row := by
    intro row hrow
    simp only [Theme.dulled, Theme.name_eq_ansi hθ, Theme.paint, hθ, if_true]
    rw [Terminal.strip_of_notMem (hclean row hrow)]
  have hfaint : ∀ row ∈ rows.map Style.faint.paint, newline ∉ row := by
    refine List.forall_mem_map.2 fun row hrow => ?_
    rw [← hdulled row hrow]
    exact Theme.newline_notMem_dulled (hsingle row hrow)
  rw [Theme.faded_unlines hsingle, List.map_congr_left hdulled]
  cases htarget : w.target? with
  | none =>
    unfold pointOut
    rw [htarget]
    exact HoldsOnly.unlines (List.forall_mem_map.2 fun row hrow =>
      Terminal.holdsOnly_faint (hclean row hrow))
  | some target =>
    rw [pointOut_unlines htarget hline hfaint]
    refine .unlines fun row hrow => ?_
    obtain ⟨i, hi⟩ := List.mem_iff_getElem?.1 hrow
    rw [List.getElem?_modify, List.getElem?_map] at hi
    cases hsource : rows[i]? with
    | none => simp [hsource] at hi
    | some source =>
      have hmem := hclean source (List.mem_of_getElem? hsource)
      rw [hsource] at hi
      obtain rfl : (if target = i then v.theme.pointed w.token (Style.faint.paint source)
          else Style.faint.paint source) = row := by simpa using hi
      split
      · exact Terminal.holdsOnly_pointed_faint hθ htoken hmem
      · exact Terminal.holdsOnly_faint hmem

/-- **Where only the path matters, no colour is left.** The block that the ansi theme prints is the
block that the plain theme prints, made faint, with the token pointed out in it at the offset of the
line of the location, unless that is negative. So no sequence is left in it but those for faint and
reversed text and the reset.

The message may have several lines, and the file need not be readable. -/
theorem path_block_of_plain {v : View} {w : Window} (hθ : v.theme.paints = true)
    (hpath : w.emphasis = .path) (hw : w.EscapeFree v.files) (htoken : newline ∉ w.token) :
    ∃ plain code, w.render v.plain = w.heading v.plain ++ newline :: plain ∧
      w.render v = w.heading v ++ newline :: code ∧
      code = (if 0 ≤ w.offset then
          v.theme.highlight w.offset.toNat w.token (v.theme.faded plain)
        else v.theme.faded plain) ∧
      ∀ parameters ∈ sequences code,
        parameters = ['2'] ∨ parameters = ['7'] ∨ parameters = ['0'] := by
  obtain ⟨rows, hsingle, hclean, heq⟩ := exists_rows_plain hw htoken
  have hcode : w.render v =
      w.heading v ++ newline :: w.pointOut v.theme (v.theme.faded (unlines rows)) := by
    rw [← heq, ← faded_block hθ hw htoken, render, heading, hpath]
  refine ⟨unlines rows, _, ?_, hcode, ?_, ?_⟩
  · rw [render_plain_of_path hpath, heq]
  · exact pointOut_eq_offset v.theme w _
  · exact (holdsOnly_pointOut_faded hθ hw.token htoken hsingle hclean).all

/-- A token that is a part of a string, on the second of two lines, in front of a message of two
lines. -/
theorem path_block_of_plain_string :
    let v : View := {
      theme := {}
      directory := ⟨"/app".toList⟩
      files := fun _ => some [102, 111, 111, 10, 34, 102, 111, 111, 34] }
    let w : Window := {
      location := ⟨⟨"/app/a.rb".toList⟩, 2, "m".toList⟩
      range := ⟨-1, 0⟩
      highlight := some "foo".toList
      message := some "foo is\nundefined".toList
      emphasis := .path }
    w.offset = 1 ∧ ∃ plain, w.render v.plain = w.heading v.plain ++ newline :: plain ∧
      w.render v = w.heading v ++ newline ::
        v.theme.highlight 1 "foo".toList (v.theme.faded plain) := by
  intro v w
  have hw : w.EscapeFree v.files := {
    path := by decide
    token := by decide
    message := by decide
    source := by
      rintro _ ⟨⟩
      decide }
  have hoffset : w.offset = 1 := by decide +kernel
  obtain ⟨plain, code, hplain, hcode, heq, -⟩ := path_block_of_plain rfl rfl hw (by decide)
  refine ⟨hoffset, plain, hplain, ?_⟩
  rw [hoffset, if_pos (by decide)] at heq
  rw [hcode, heq]
  rfl

end Window

end ErrorReport
