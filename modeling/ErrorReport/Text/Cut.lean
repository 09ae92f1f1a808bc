/-
# ErrorReport.Text.Cut — where a text is cut: into lines, parts and occurrences.

A line keeps the newline that ends it; only the last line of a text can lack one, and an empty text
has no lines. `lines_flatten` says that cutting a text into lines loses nothing. The *body* of a
line is what stands before its newline; `mapBodies` changes bodies and leaves every newline where
it was.

A frame such as `a:1:b.rb:7:in 'm'` can be cut into path, number and label in more than one way if
the parts may hold colons. All shapes of this library settle that in one way: the part on the left
is as short as it can be so that what follows it still has the wanted form. `cutAt` looks for such a
place from the front; `cutAfter` does so behind the first character, for a part that must not be
empty. `cutAt_eq_some` says what is found.

The occurrences of a token are found from the left and do not overlap. `pieces` cuts a text at them,
and `substitute` puts another text in their place. The replacement is not searched again.
-/
import ErrorReport.Text.Basic

namespace ErrorReport.Text

/-! ## Cutting a text into lines -/

/-- The lines of a text, each with its newline. -/
def lines : Text → List Text
  | [] => []
  | c :: rest =>
    if c = newline then [c] :: lines rest
    else match lines rest with
      | [] => [[c]]
      | line :: more => (c :: line) :: more

/-- Nothing is lost: the lines of a text, one after the other, are the text. -/
theorem lines_flatten (t : Text) : (lines t).flatten = t := by
  induction t with
  | nil => rfl
  | cons c rest ih =>
    rw [lines]
    split
    · simp [ih]
    · split
      · next h => simp [h] at ih; simp [← ih]
      · next line more h => simpa [h] using ih

/-! ## Bodies -/

/-- What a line says before its newline. -/
def body (line : Text) : Text := line.takeWhile (· != newline)

/-- The newline of a line, or nothing for a last line that lacks it. -/
def ending (line : Text) : Text := line.dropWhile (· != newline)

theorem body_append_ending (line : Text) : body line ++ ending line = line :=
  List.takeWhile_append_dropWhile

/-- Changes the body of every line. -/
def mapBodies (f : Text → Text) (t : Text) : Text :=
  (lines t).flatMap fun line => f (body line) ++ ending line

/-- Writes each body as a line of its own. -/
def unlines (bodies : List Text) : Text :=
  bodies.flatMap (· ++ [newline])

/-- The lines of a text with every one of them put through `f`, newline included. -/
def mapLines (f : Text → Text) (t : Text) : Text :=
  (lines t).flatMap f

/-- Changes the line with the given index, counted from zero; the others stay. -/
def mapLineAt (index : Nat) (f : Text → Text) (t : Text) : Text :=
  ((lines t).mapIdx fun i line => if i = index then f line else line).flatten

/-- The first line of a text without its line end, which may be a newline or a carriage return and
a newline. An empty text has no first line. -/
def firstLine? (t : Text) : Option Text :=
  (lines t).head?.map fun line =>
    if (ending line).isEmpty then line
    else
      let b := body line
      if b.getLast? = some '\r' then b.dropLast else b

/-! ## The shortest beginning with an acceptable rest -/

section

variable {α : Type}

/-- The shortest beginning of a text whose rest is accepted, with what the rest was read as. -/
def cutAt (accept : Text → Option α) : Text → Option (Text × α)
  | [] => (accept []).map fun a => ([], a)
  | c :: rest =>
    match accept (c :: rest) with
    | some a => some ([], a)
    | none => (cutAt accept rest).map fun (left, a) => (c :: left, a)

/-- The shortest nonempty beginning of a text whose rest is accepted. -/
def cutAfter (accept : Text → Option α) : Text → Option (Text × α)
  | [] => none
  | c :: rest => (cutAt accept rest).map fun (left, a) => (c :: left, a)

/-- A cut is found exactly at the first place where the rest is accepted. -/
theorem cutAt_eq_some {accept : Text → Option α} {t left : Text} {a : α} :
    cutAt accept t = some (left, a) ↔
      ∃ rest, t = left ++ rest ∧ accept rest = some a ∧
        ∀ l r, t = l ++ r → l.length < left.length → accept r = none := by
  induction t generalizing left with
  | nil =>
    rw [cutAt]
    constructor
    · intro h
      obtain ⟨b, hb, hp⟩ := Option.map_eq_some_iff.1 h
      obtain ⟨rfl, rfl⟩ := Prod.mk.inj hp
      exact ⟨[], rfl, hb, fun l r _ hl => absurd hl (Nat.not_lt_zero _)⟩
    · rintro ⟨rest, ht, ha, -⟩
      obtain ⟨rfl, rfl⟩ := List.append_eq_nil_iff.1 ht.symm
      simp [ha]
  | cons c t ih =>
    rw [cutAt]
    constructor
    · intro h
      split at h
      · next b hb =>
        obtain ⟨rfl, rfl⟩ := Prod.mk.inj (Option.some.inj h)
        exact ⟨c :: t, rfl, hb, fun l r _ hl => absurd hl (Nat.not_lt_zero _)⟩
      · next hb =>
        obtain ⟨⟨left', a'⟩, hcut, hp⟩ := Option.map_eq_some_iff.1 h
        obtain ⟨rfl, rfl⟩ := Prod.mk.inj hp
        obtain ⟨rest, rfl, hacc, hmin⟩ := ih.1 hcut
        refine ⟨rest, rfl, hacc, fun l r hlr hlen => ?_⟩
        cases l with
        | nil =>
          obtain rfl : c :: (left' ++ rest) = r := hlr
          exact hb
        | cons d l =>
          obtain ⟨-, hlr⟩ := List.cons.inj hlr
          exact hmin l r hlr (by simpa using hlen)
    · rintro ⟨rest, ht, hacc, hmin⟩
      cases left with
      | nil =>
        obtain rfl : c :: t = rest := ht
        simp [hacc]
      | cons d left =>
        simp only [List.cons_append, List.cons.injEq] at ht
        obtain ⟨rfl, rfl⟩ := ht
        have hnone : accept (c :: (left ++ rest)) = none :=
          hmin [] _ rfl (by simp)
        rw [hnone]
        have := ih.2 ⟨rest, rfl, hacc, fun l r hlr hlen =>
          hmin (c :: l) r (by simp [hlr]) (by simpa using hlen)⟩
        simp [this]

/-- A cut behind the first character is a cut whose left part is not empty. -/
theorem cutAfter_eq_some {accept : Text → Option α} {t left : Text} {a : α} :
    cutAfter accept t = some (left, a) ↔
      ∃ c l r, t = c :: r ∧ left = c :: l ∧ cutAt accept r = some (l, a) := by
  cases t with
  | nil => simp [cutAfter]
  | cons c rest =>
    simp only [cutAfter, Option.map_eq_some_iff, Prod.mk.injEq, Prod.exists]
    constructor
    · rintro ⟨l, b, h, rfl, rfl⟩
      exact ⟨c, l, rest, rfl, rfl, h⟩
    · rintro ⟨d, l, r, h, rfl, hcut⟩
      obtain ⟨rfl, rfl⟩ := List.cons.inj h
      exact ⟨l, a, hcut, rfl, rfl⟩

end

/-! ## Replacing the occurrences of a token -/

/-- A piece of a text that has been searched for a token: the token itself, or one other
character. -/
inductive Piece where
  | token
  | other (c : Char)
  deriving Repr, DecidableEq

/-- The text without its first `n` characters is searched for `token`, which must not be empty:
the pieces in order, occurrences from the left and without overlap. -/
def piecesFrom (token : Text) : Nat → Text → List Piece
  | _, [] => []
  | n + 1, _ :: rest => piecesFrom token n rest
  | 0, c :: rest =>
    if token.isPrefixOf (c :: rest) then .token :: piecesFrom token (token.length - 1) rest
    else .other c :: piecesFrom token 0 rest

/-- The pieces of a text: every occurrence of the token, and the characters between them. -/
def pieces (token t : Text) : List Piece := piecesFrom token 0 t

/-- The text of a piece when `new` stands for the token. -/
def Piece.toText (new : Text) : Piece → Text
  | .token => new
  | .other c => [c]

/-- Puts `new` in the place of every occurrence of `token`, which must not be empty. -/
def substitute (token new t : Text) : Text :=
  (pieces token t).flatMap (Piece.toText new)

end ErrorReport.Text
