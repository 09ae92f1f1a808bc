/-
# ErrorReport.Terminal.Sgr — escape sequences in terminal text.

A terminal changes how it shows text when it meets an SGR sequence: the escape character, an opening
bracket, digits and semicolons, and `m`. `segments` cuts a text at all of these, so that what is
visible can be told from what is not: `strip` keeps the visible text only. An escape character that
opens no complete sequence counts as visible.

`segments_toText` says that cutting loses nothing.
-/
import ErrorReport.Text.Basic

namespace ErrorReport.Terminal

/-! ## Sequences -/

/-- A character that may stand between the bracket and the `m` of a sequence. -/
def isParameter (c : Char) : Bool := c.isDigit || c = ';'

/-- The text of the sequence with the given parameters. -/
def sgr (parameters : Text) : Text := Text.escape :: '[' :: parameters ++ ['m']

/-- Takes the terminal back to showing plain text. -/
def reset : Text := sgr ['0']

/-- Reads a sequence behind its escape character: its parameters, and what follows it. -/
def sgrRest? : Text → Option (Text × Text)
  | '[' :: rest =>
    match rest.dropWhile isParameter with
    | 'm' :: after => some (rest.takeWhile isParameter, after)
    | _ => none
  | _ => none

/-- A sequence that has been read is made of its parameters and nothing else. -/
theorem sgrRest?_eq_some {t parameters after : Text}
    (h : sgrRest? t = some (parameters, after)) :
    t = '[' :: parameters ++ 'm' :: after ∧ parameters.all isParameter := by
  unfold sgrRest? at h
  split at h
  · next rest =>
    split at h
    · next tail hdrop =>
      obtain ⟨rfl, rfl⟩ := Prod.mk.inj (Option.some.inj h)
      refine ⟨?_, List.all_takeWhile⟩
      rw [← hdrop, List.cons_append, List.takeWhile_append_dropWhile]
    · cases h
  · cases h

/-! ## Segments -/

/-- A piece of terminal text. -/
inductive Segment where
  | visible (t : Text)
  | sequence (parameters : Text)
  deriving DecidableEq, Repr

namespace Segment

/-- The text of a segment. -/
def toText : Segment → Text
  | visible t => t
  | sequence parameters => sgr parameters

/-- The visible text of a segment. -/
def visibleText : Segment → Text
  | visible t => t
  | sequence _ => []

/-- Puts a visible character in front of segments. -/
def consVisible (c : Char) : List Segment → List Segment
  | visible t :: more => visible (c :: t) :: more
  | segments => visible [c] :: segments

end Segment

/-- Cuts a text into its sequences and the stretches of visible text between them. -/
def segments (t : Text) : List Segment :=
  match t with
  | [] => []
  | c :: rest =>
    if c = Text.escape then
      match h : sgrRest? rest with
      | some (parameters, after) =>
        have : after.length < rest.length := by
          rw [(sgrRest?_eq_some h).1]
          simp only [List.cons_append, List.length_cons, List.length_append]
          omega
        .sequence parameters :: segments after
      | none => Segment.consVisible c (segments rest)
    else Segment.consVisible c (segments rest)
termination_by t.length

theorem toText_consVisible (c : Char) (segs : List Segment) :
    (Segment.consVisible c segs).flatMap Segment.toText = c :: segs.flatMap Segment.toText := by
  unfold Segment.consVisible
  split <;> simp [Segment.toText]

/-- Nothing is lost: the segments of a text, one after the other, are the text. -/
theorem segments_toText (t : Text) : (segments t).flatMap Segment.toText = t := by
  fun_induction segments t with
  | case1 => rfl
  | case2 rest parameters after h _ ih =>
    rw [List.flatMap_cons, ih, (sgrRest?_eq_some h).1]
    simp [Segment.toText, sgr]
  | case3 rest h ih => rw [toText_consVisible, ih]
  | case4 c rest hc ih => rw [toText_consVisible, ih]

/-- The visible part of a text. -/
def strip (t : Text) : Text := (segments t).flatMap Segment.visibleText

/-- Changes every stretch of visible text and leaves the sequences where they are. -/
def mapVisible (f : Text → Text) (t : Text) : Text :=
  (segments t).flatMap fun
    | .visible t => f t
    | .sequence parameters => sgr parameters

end ErrorReport.Terminal
