/-
# ErrorReport.Proofs.Text — laws of trimming, numbers, cuts and substitution.

What the operations on text do, as equations that the proofs about frames, messages and windows rest
on: trimming takes off exactly the white space that was put around a text, a number that was written
is read back, a reader that looks for the shortest first part finds a given part exactly when no
shorter one fits, and substitution replaces a token and nothing else.

Texts are Unicode, and a text can be cut by octets only between two characters. `fromOctet?` and
`untilOctet?` are such cuts; they fail within a character and behind the end. `slice?` makes two of
them and fails as well if the second one comes before the first. A cut succeeds where a part of the
text ends: that is how a cut is shown to be in range and between characters.
-/
import ErrorReport.Text.Class
import ErrorReport.Text.Cut
import Mathlib.Data.List.Basic
import Mathlib.Data.List.TakeWhile

namespace ErrorReport.Text

/-! ## Trimming -/

/-- White space in front of a text that does not start with any is all that goes. -/
theorem trimStart_append {before t : Text} (hbefore : ∀ c ∈ before, isBlank c = true)
    (hfirst : ∀ c ∈ t.head?, isBlank c = false) : trimStart (before ++ t) = t := by
  rw [trimStart, List.dropWhile_append_of_pos hbefore]
  cases t with
  | nil => rfl
  | cons c t =>
    have hc : isBlank c = false := hfirst c (by simp)
    rw [List.dropWhile_cons_of_neg (by simp [hc])]

theorem trimEnd_append {t after : Text} (hafter : ∀ c ∈ after, isBlank c = true)
    (hlast : ∀ c ∈ t.getLast?, isBlank c = false) : trimEnd (t ++ after) = t := by
  have hrev : trimStart (after.reverse ++ t.reverse) = t.reverse := by
    apply trimStart_append
    · intro c hc
      exact hafter c (List.mem_reverse.1 hc)
    · intro c hc
      exact hlast c (by rwa [List.head?_reverse] at hc)
  rw [trimStart] at hrev
  rw [trimEnd, List.reverse_append, hrev, List.reverse_reverse]

/-- **Trimming undoes padding.** White space around a text that neither starts nor ends with any is
all that goes. -/
theorem trim_padded {before t after : Text} (hbefore : ∀ c ∈ before, isBlank c = true)
    (hafter : ∀ c ∈ after, isBlank c = true) (hne : t ≠ [])
    (hfirst : ∀ c ∈ t.head?, isBlank c = false) (hlast : ∀ c ∈ t.getLast?, isBlank c = false) :
    trim (before ++ t ++ after) = t := by
  have hstart : trimStart (before ++ (t ++ after)) = t ++ after := by
    apply trimStart_append hbefore
    intro c hc
    rw [List.head?_append_of_ne_nil t hne] at hc
    exact hfirst c hc
  rw [trim, List.append_assoc, hstart, trimEnd_append hafter hlast]

theorem trim_append_blank (t : Text) {c : Char} (hc : isBlank c = true) : trim (t ++ [c]) = trim t := by
  have hstart : trimStart (t ++ [c]) = trimStart t ++ if trimStart t = [] then [] else [c] := by
    induction t with
    | nil => simp [trimStart, hc]
    | cons d t ih =>
      unfold trimStart at ih ⊢
      cases hd : isBlank d with
      | true => simpa [hd] using ih
      | false => simp [hd]
  rw [trim, hstart]
  split
  · rw [List.append_nil, trim]
  · rw [trim, trimEnd, trimEnd, List.reverse_append, List.reverse_singleton, List.singleton_append,
      List.dropWhile_cons_of_pos hc]

/-! ## One line -/

theorem isOneLine_iff {t : Text} : isOneLine t = true ↔ newline ∉ t := by
  simp [isOneLine]

/-! ## Numbers -/

theorem isDigit_of_mem_ofNat {n : Nat} {c : Char} (h : c ∈ ofNat n) : c.isDigit = true :=
  Nat.isDigit_of_mem_toDigits (by decide) (by decide) h

theorem notMem_ofNat {c : Char} (h : c.isDigit = false) (n : Nat) : c ∉ ofNat n := by
  intro hmem
  rw [isDigit_of_mem_ofNat hmem] at h
  cases h

theorem ofNat_ne_nil (n : Nat) : ofNat n ≠ [] := Nat.toDigits_ne_nil

theorem length_ofNat_mono {m n : Nat} (h : m ≤ n) : (ofNat m).length ≤ (ofNat n).length := by
  have hpos : 0 < (ofNat n).length := List.length_pos_iff.2 (ofNat_ne_nil n)
  have hn : n < 10 ^ (ofNat n).length :=
    (Nat.length_toDigits_le_iff (by decide) hpos).1 (Nat.le_refl _)
  exact (Nat.length_toDigits_le_iff (by decide) hpos).2 (Nat.lt_of_le_of_lt h hn)

theorem isBlank_eq_false_of_isDigit {c : Char} (h : c.isDigit = true) : isBlank c = false := by
  have hc : 48 ≤ c.toNat ∧ c.toNat ≤ 57 := by
    simp only [Char.isDigit, Bool.and_eq_true, decide_eq_true_eq] at h
    exact ⟨UInt32.le_iff_toNat_le.1 h.1, UInt32.le_iff_toNat_le.1 h.2⟩
  rw [Bool.eq_false_iff]
  intro hblank
  obtain ⟨r, hr, hle⟩ := CodeRanges.covers_iff.1 hblank
  simp only [blankRanges, List.mem_cons, List.not_mem_nil, or_false] at hr
  rcases hr with rfl | rfl | rfl | rfl | rfl | rfl | rfl | rfl | rfl | rfl <;>
    (simp only at hle; omega)

theorem digitsValue_ofNat (n : Nat) : digitsValue (ofNat n) = n :=
  Nat.ofDigitChars_ten_toDigits

/-- **A word that was written is read back.** -/
theorem toWord?_ofNat (n : UInt64) : toWord? (ofNat n.toNat) = some n := by
  have hne : (ofNat n.toNat).isEmpty = false := by simp [ofNat_ne_nil]
  have hall : (ofNat n.toNat).all Char.isDigit = true := by
    rw [List.all_eq_true]
    intro c hc
    exact isDigit_of_mem_ofNat hc
  have hlt : n.toNat < UInt64.size := n.toNat_lt
  unfold toWord?
  simp only [hne, hall, digitsValue_ofNat, Bool.not_true, Bool.or_self, Bool.false_eq_true,
    if_false, if_pos hlt, UInt64.ofNat_toNat]

/-- The leading digits of a text are a nonempty run of digits that no digit follows. -/
theorem leadingDigits_eq_some {t digits rest : Text} :
    leadingDigits t = some (digits, rest) ↔
      t = digits ++ rest ∧ digits ≠ [] ∧ (∀ c ∈ digits, isDigit c = true) ∧
        ∀ c ∈ rest.head?, isDigit c = false := by
  constructor
  · intro h
    simp only [leadingDigits] at h
    split at h
    · cases h
    · next hne =>
      obtain ⟨rfl, rfl⟩ := Prod.mk.inj (Option.some.inj h)
      refine ⟨List.takeWhile_append_dropWhile.symm, by simpa using hne, ?_, ?_⟩
      · intro c hc
        exact List.mem_takeWhile_imp hc
      · intro c hc
        have := List.head?_dropWhile_not isDigit t
        rw [Option.mem_def.1 hc] at this
        simpa using this
  · rintro ⟨rfl, hne, hall, hrest⟩
    have htake : (digits ++ rest).takeWhile isDigit = digits := by
      rw [List.takeWhile_append_of_pos hall]
      cases rest with
      | nil => simp
      | cons c rest => simp [hrest c (by simp)]
    have hdrop : (digits ++ rest).dropWhile isDigit = rest := by
      rw [List.dropWhile_append_of_pos hall]
      cases rest with
      | nil => rfl
      | cons c rest => simp [hrest c (by simp)]
    simp [leadingDigits, htake, hdrop, hne]

/-- A number that was written is found in front of a text that goes on without digits. -/
theorem leadingDigits_ofNat (n : Nat) {rest : Text} (h : ∀ c ∈ rest.head?, isDigit c = false) :
    leadingDigits (ofNat n ++ rest) = some (ofNat n, rest) :=
  leadingDigits_eq_some.2
    ⟨rfl, ofNat_ne_nil n, fun _ hc => isDigit_of_asciiDigit (isDigit_of_mem_ofNat hc), h⟩

theorem ofNat_toNat_inj {n m : UInt64} (h : ofNat n.toNat = ofNat m.toNat) : n = m := by
  have hword := congrArg toWord? h
  rw [toWord?_ofNat, toWord?_ofNat] at hword
  exact Option.some.inj hword

/-! ## Numerals -/

/-- A run of decimal digits, of whatever script. -/
def IsDigitRun (digits : Text) : Prop := digits ≠ [] ∧ ∀ c ∈ digits, isDigit c = true

/-- Digits of ASCII that stand for a word. -/
structure IsNumeral (digits : Text) (n : UInt64) : Prop where
  nonempty : digits ≠ []
  ascii : ∀ c ∈ digits, c.isDigit = true
  value : digitsValue digits = n.toNat

/-- **Words are read from their numerals**, and from nothing else. -/
theorem toWord?_eq_some {digits : Text} {n : UInt64} :
    toWord? digits = some n ↔ IsNumeral digits n := by
  unfold toWord?
  constructor
  · intro h
    split at h
    · cases h
    · next hdigits =>
      dsimp only at h
      split at h
      · next hlt =>
        obtain rfl := Option.some.inj h
        simp only [Bool.or_eq_true, not_or, Bool.not_eq_true, Bool.not_eq_false',
          List.isEmpty_eq_false_iff, List.all_eq_true] at hdigits
        exact ⟨hdigits.1, hdigits.2, (UInt64.toNat_ofNat_of_lt hlt).symm⟩
      · cases h
  · rintro ⟨hne, hascii, hvalue⟩
    have hempty : digits.isEmpty = false := by simpa using hne
    have hall : digits.all Char.isDigit = true := List.all_eq_true.2 hascii
    simp [hempty, hall, hvalue, n.toNat_lt]

instance (digits : Text) : Decidable (IsDigitRun digits) :=
  decidable_of_iff (digits ≠ [] ∧ digits.all isDigit = true) (by rw [IsDigitRun, List.all_eq_true])

instance (digits : Text) (n : UInt64) : Decidable (IsNumeral digits n) :=
  decidable_of_iff _ toWord?_eq_some

theorem IsNumeral.isDigitRun {digits : Text} {n : UInt64} (h : IsNumeral digits n) :
    IsDigitRun digits :=
  ⟨h.nonempty, fun c hc => isDigit_of_asciiDigit (h.ascii c hc)⟩

/-- A digit of any script is none of the other characters of a wording. -/
theorem IsDigitRun.notMem {digits : Text} (h : IsDigitRun digits) {c : Char}
    (hc : isDigit c = false) : c ∉ digits := by
  intro hmem
  rw [h.2 c hmem] at hc
  cases hc

/-! ## Cuts -/

/-- **The shortest nonempty first part.** A cut behind the first character is found exactly at the
first place there where the rest is accepted. -/
theorem cutAfter_eq_some_iff {α : Type} {accept : Text → Option α} {t left : Text} {a : α} :
    cutAfter accept t = some (left, a) ↔
      left ≠ [] ∧ ∃ rest, t = left ++ rest ∧ accept rest = some a ∧
        ∀ l r, t = l ++ r → l ≠ [] → l.length < left.length → accept r = none := by
  rw [cutAfter_eq_some]
  constructor
  · rintro ⟨c, l, r, rfl, rfl, hcut⟩
    obtain ⟨rest, rfl, haccept, hmin⟩ := cutAt_eq_some.1 hcut
    refine ⟨by simp, rest, rfl, haccept, ?_⟩
    intro l' r' heq hne hlen
    cases l' with
    | nil => exact absurd rfl hne
    | cons d l' =>
      obtain ⟨-, heq⟩ := List.cons.inj heq
      exact hmin l' r' heq (by simpa using hlen)
  · rintro ⟨hne, rest, rfl, haccept, hmin⟩
    cases left with
    | nil => exact absurd rfl hne
    | cons c l =>
      refine ⟨c, l, l ++ rest, rfl, rfl, cutAt_eq_some.2 ⟨rest, rfl, haccept, ?_⟩⟩
      intro l' r' heq hlen
      exact hmin (c :: l') r' (by simp [heq]) (by simp) (by simpa using hlen)

/-- Nothing is accepted behind a shorter first part exactly if no first part behind which something is
accepted is shorter. -/
theorem no_shorter_iff {α : Type} {accept : Text → Option α} {t : Text} {n : Nat} :
    (∀ l r, t = l ++ r → l ≠ [] → l.length < n → accept r = none) ↔
      ∀ l r a, t = l ++ r → l ≠ [] → accept r = some a → n ≤ l.length := by
  constructor
  · intro h l r a ht hl ha
    by_contra hlt
    rw [h l r ht hl (Nat.lt_of_not_le hlt)] at ha
    cases ha
  · intro h l r ht hl hlt
    rw [Option.eq_none_iff_forall_ne_some]
    intro a ha
    exact absurd (h l r a ht hl ha) (Nat.not_le_of_lt hlt)

/-- A place before the end of a first part leaves a nonempty piece of it in the rest. -/
theorem exists_of_append_eq_append_of_length_lt {l r left rest : Text}
    (h : left ++ rest = l ++ r) (hlen : l.length < left.length) :
    ∃ piece, piece ≠ [] ∧ left = l ++ piece ∧ r = piece ++ rest := by
  rcases List.append_eq_append_iff.1 h with ⟨piece, rfl, rfl⟩ | ⟨piece, rfl, rfl⟩
  · rw [List.length_append] at hlen
    omega
  · refine ⟨piece, ?_, rfl, rfl⟩
    rintro rfl
    simp at hlen

/-- A cut is found at a place where the rest is accepted if nothing is accepted before it. -/
theorem cutAt_append {α : Type} {accept : Text → Option α} {left rest : Text} {a : α}
    (haccept : accept rest = some a)
    (hearlier : ∀ front piece, left = front ++ piece → piece ≠ [] →
      accept (piece ++ rest) = none) :
    cutAt accept (left ++ rest) = some (left, a) := by
  refine cutAt_eq_some.2 ⟨rest, rfl, haccept, ?_⟩
  intro l r heq hlen
  obtain ⟨piece, hpiece, hleft, rfl⟩ := exists_of_append_eq_append_of_length_lt heq hlen
  exact hearlier l piece hleft hpiece

/-- The last occurrence of a character tells what stands in front of it from what stands behind. -/
theorem append_cons_inj_of_notMem {c : Char} {s s' t t' : Text} (ht : c ∉ t) (ht' : c ∉ t')
    (h : s ++ c :: t = s' ++ c :: t') : s = s' ∧ t = t' := by
  rcases List.append_eq_append_iff.1 h with ⟨piece, rfl, hpiece⟩ | ⟨piece, rfl, hpiece⟩
  · cases piece with
    | nil => exact ⟨(List.append_nil s).symm, (List.cons.inj hpiece).2⟩
    | cons d piece => exact absurd ((List.cons.inj hpiece).2 ▸ by simp) ht
  · cases piece with
    | nil => exact ⟨List.append_nil s', (List.cons.inj hpiece).2.symm⟩
    | cons d piece => exact absurd ((List.cons.inj hpiece).2 ▸ by simp) ht'

/-! ## Where characters come from -/

theorem mem_intercalate {separator : Text} {ts : List Text} {c : Char}
    (h : c ∈ separator.intercalate ts) : c ∈ separator ∨ ∃ t ∈ ts, c ∈ t := by
  induction ts with
  | nil => simp at h
  | cons t ts ih =>
    cases ts with
    | nil => exact .inr ⟨t, by simp, by simpa using h⟩
    | cons u ts =>
      rw [List.intercalate_cons_cons] at h
      rcases List.mem_append.1 h with h | h
      · rcases List.mem_append.1 h with h | h
        · exact .inr ⟨t, by simp, h⟩
        · exact .inl h
      · rcases ih h with h | ⟨v, hv, hc⟩
        · exact .inl h
        · exact .inr ⟨v, List.mem_cons_of_mem t hv, hc⟩

theorem subset_intercalate (separator : Text) {t : Text} {ts : List Text} (h : t ∈ ts) :
    t ⊆ separator.intercalate ts := by
  induction ts with
  | nil => simp at h
  | cons u ts ih =>
    cases ts with
    | nil =>
      obtain rfl : t = u := by simpa using h
      simp
    | cons v ts =>
      rw [List.intercalate_cons_cons]
      rcases List.mem_cons.1 h with rfl | h
      · exact List.subset_append_of_subset_left _ (List.subset_append_left _ _)
      · exact List.subset_append_of_subset_right _ (ih h)

theorem trim_subset (t : Text) : trim t ⊆ t := by
  intro c hc
  rw [trim, trimEnd, List.mem_reverse] at hc
  have hstart : c ∈ trimStart t := List.mem_reverse.1 ((List.dropWhile_sublist _).subset hc)
  exact (List.dropWhile_sublist _).subset hstart

/-! ## Octets -/

/-- How many octets a text takes up in UTF-8. -/
def octetCount : Text → Nat
  | [] => 0
  | c :: t => c.utf8Size + octetCount t

theorem octetCount_append (s t : Text) : octetCount (s ++ t) = octetCount s + octetCount t := by
  induction s with
  | nil => rw [List.nil_append, octetCount, Nat.zero_add]
  | cons c s ih => rw [List.cons_append, octetCount, octetCount, ih, Nat.add_assoc]

/-- The text from an octet on, if a character starts at that octet or the text ends there. -/
def fromOctet? : Nat → Text → Option Text
  | 0, t => some t
  | _ + 1, [] => none
  | n + 1, c :: t => if c.utf8Size ≤ n + 1 then fromOctet? (n + 1 - c.utf8Size) t else none

/-- The text up to an octet, if a character starts at that octet or the text ends there. -/
def untilOctet? : Nat → Text → Option Text
  | 0, _ => some []
  | _ + 1, [] => none
  | n + 1, c :: t =>
    if c.utf8Size ≤ n + 1 then (untilOctet? (n + 1 - c.utf8Size) t).map (c :: ·) else none

/-- The text between two octets, if both are between characters and in order. -/
def slice? (start stop : Nat) (t : Text) : Option Text :=
  if start ≤ stop then (fromOctet? start t).bind (untilOctet? (stop - start)) else none

theorem exists_utf8Size_add (c : Char) (n : Nat) : ∃ m, c.utf8Size + n = m + 1 :=
  ⟨c.utf8Size + n - 1, by have := c.utf8Size_pos; omega⟩

theorem fromOctet?_utf8Size_add (c : Char) (n : Nat) (t : Text) :
    fromOctet? (c.utf8Size + n) (c :: t) = fromOctet? n t := by
  obtain ⟨m, hm⟩ := exists_utf8Size_add c n
  rw [hm, fromOctet?, if_pos (by omega), ← hm, Nat.add_sub_cancel_left]

theorem untilOctet?_utf8Size_add (c : Char) (n : Nat) (t : Text) :
    untilOctet? (c.utf8Size + n) (c :: t) = (untilOctet? n t).map (c :: ·) := by
  obtain ⟨m, hm⟩ := exists_utf8Size_add c n
  rw [hm, untilOctet?, if_pos (by omega), ← hm, Nat.add_sub_cancel_left]

/-- **A text can be cut where one of its parts ends.** -/
theorem fromOctet?_append (s t : Text) : fromOctet? (octetCount s) (s ++ t) = some t := by
  induction s with
  | nil => cases t with
    | nil => rfl
    | cons c t => rfl
  | cons c s ih => rw [octetCount, List.cons_append, fromOctet?_utf8Size_add, ih]

theorem untilOctet?_append (s t : Text) : untilOctet? (octetCount s) (s ++ t) = some s := by
  induction s with
  | nil => cases t with
    | nil => rfl
    | cons c t => rfl
  | cons c s ih => rw [octetCount, List.cons_append, untilOctet?_utf8Size_add, ih, Option.map_some]

/-- **A part of a text is the slice between the octets where it starts and ends.** -/
theorem slice?_append (s t u : Text) :
    slice? (octetCount s) (octetCount s + octetCount t) (s ++ (t ++ u)) = some t := by
  rw [slice?, if_pos (Nat.le_add_right _ _), fromOctet?_append, Option.bind_some,
    Nat.add_sub_cancel_left, untilOctet?_append]

/-! ## Searching -/

section

variable {token : Text} (hne : token ≠ [])

/-- What is skipped is not searched. -/
theorem piecesFrom_append_length (token s t : Text) :
    piecesFrom token s.length (s ++ t) = pieces token t := by
  induction s with
  | nil => rfl
  | cons c s ih => rw [List.length_cons, List.cons_append, piecesFrom, ih]

include hne

theorem pieces_token_append (t : Text) : pieces token (token ++ t) = .token :: pieces token t := by
  cases token with
  | nil => exact absurd rfl hne
  | cons c token =>
    have hfound : (c :: token).isPrefixOf (c :: (token ++ t)) = true :=
      List.isPrefixOf_iff_prefix.2 (List.prefix_append (c :: token) t)
    rw [List.cons_append, pieces, piecesFrom, if_pos hfound, List.length_cons, Nat.add_sub_cancel,
      piecesFrom_append_length]

omit hne in
theorem pieces_cons {c : Char} {t : Text} (h : ¬ token <+: c :: t) :
    pieces token (c :: t) = .other c :: pieces token t := by
  rw [pieces, piecesFrom, if_neg (by rwa [List.isPrefixOf_iff_prefix])]
  rfl

/-- **Searching a text** from its front: it is empty, or the token stands there, or a character at
which the token does not stand. -/
@[elab_as_elim]
theorem searchInduction {motive : Text → Prop} (nil : motive [])
    (found : ∀ t, motive t → motive (token ++ t))
    (passed : ∀ c t, ¬ token <+: c :: t → motive t → motive (c :: t)) (t : Text) : motive t := by
  induction hlength : t.length using Nat.strong_induction_on generalizing t with
  | h n ih =>
    cases t with
    | nil => exact nil
    | cons c t =>
      by_cases hprefix : token <+: c :: t
      · obtain ⟨rest, hrest⟩ := hprefix
        have hshorter : rest.length < n := by
          have hpos : 0 < token.length := List.length_pos_iff.2 hne
          rw [← hlength, ← hrest, List.length_append]
          omega
        exact hrest ▸ found rest (ih _ hshorter rest rfl)
      · have hshorter : t.length < n := by
          rw [← hlength, List.length_cons]
          omega
        exact passed c t hprefix (ih _ hshorter t rfl)

/-- **Substitution only replaces.** The pieces of a text are the text. -/
theorem flatMap_pieces (t : Text) : (pieces token t).flatMap (Piece.toText token) = t := by
  induction t using searchInduction hne with
  | nil => rfl
  | found t ih =>
    rw [pieces_token_append hne, List.flatMap_cons, ih]
    rfl
  | passed c t hmiss ih =>
    rw [pieces_cons hmiss, List.flatMap_cons, ih]
    rfl

/-- **A token is found exactly where it stands.** -/
theorem token_mem_pieces_iff {t : Text} : .token ∈ pieces token t ↔ token <:+: t := by
  induction t using searchInduction hne with
  | nil =>
    refine iff_of_false List.not_mem_nil fun h => hne (List.infix_nil.1 h)
  | found t _ =>
    rw [pieces_token_append hne]
    exact iff_of_true (List.mem_cons_self ..) (List.prefix_append token t).isInfix
  | passed c t hmiss ih =>
    rw [pieces_cons hmiss, List.mem_cons, ih, List.infix_cons_iff]
    simp [hmiss]

theorem pieces_eq_map_other {t : Text} (h : ¬ token <:+: t) :
    pieces token t = t.map Piece.other := by
  induction t using searchInduction hne with
  | nil => rfl
  | found t _ => exact absurd (List.prefix_append token t).isInfix h
  | passed c t hmiss ih =>
    rw [pieces_cons hmiss, List.map_cons, ih fun hrest => h (List.infix_cons_iff.2 (.inr hrest))]

end

/-! ## Seams -/

/-- An occurrence that is found in two joined texts begins in the first and ends in the second. -/
def Splits (token s t : Text) : Prop :=
  ∃ (ps qs : List Piece) (front back : Text), pieces token (s ++ t) = ps ++ .token :: qs ∧
    s = ps.flatMap (Piece.toText token) ++ front ∧ token = front ++ back ∧ front ≠ [] ∧ back ≠ []

section

variable {token s t : Text} (hne : token ≠ [])

include hne

/-- Two texts are searched one after the other, or an occurrence begins in the first and ends in the
second. What is found up to there is found in the first text alone, and no more than that. -/
theorem pieces_append_or (s t : Text) :
    pieces token (s ++ t) = pieces token s ++ pieces token t ∨
      ∃ (ps qs : List Piece) (front back : Text), pieces token (s ++ t) = ps ++ .token :: qs ∧
        pieces token s = ps ++ front.map Piece.other ∧ token = front ++ back ∧ front ≠ [] ∧
        back ≠ [] := by
  induction s using searchInduction hne with
  | nil => exact .inl rfl
  | found s ih =>
    rw [List.append_assoc, pieces_token_append hne, pieces_token_append hne]
    rcases ih with ih | ⟨ps, qs, front, back, hboth, hfirst, hrest⟩
    · exact .inl (congrArg _ ih)
    · exact .inr ⟨.token :: ps, qs, front, back, congrArg _ hboth, congrArg _ hfirst, hrest⟩
  | passed c s hmiss ih =>
    by_cases hprefix : token <+: c :: (s ++ t)
    · -- the token does not end before the seam
      obtain ⟨back, hback⟩ : ∃ back, token = (c :: s) ++ back := by
        rcases List.prefix_or_prefix_of_prefix hprefix (List.prefix_append (c :: s) t) with h | h
        · exact absurd h hmiss
        · exact h.imp fun _ => Eq.symm
      have hne' : back ≠ [] := by
        rintro rfl
        exact hmiss (by simp [hback])
      have hnone : ¬ token <:+: c :: s := fun h => by
        have hle := h.length_le
        have hpos : 0 < back.length := List.length_pos_iff.2 hne'
        rw [hback, List.length_append] at hle
        omega
      obtain ⟨rest, hrest⟩ := hprefix
      refine .inr ⟨[], pieces token rest, c :: s, back, ?_, ?_, hback, by simp, hne'⟩
      · rw [List.cons_append, ← hrest, pieces_token_append hne, List.nil_append]
      · rw [pieces_eq_map_other hne hnone, List.nil_append]
    · rw [List.cons_append, pieces_cons hprefix, pieces_cons hmiss]
      rcases ih with ih | ⟨ps, qs, front, back, hboth, hfirst, hrest⟩
      · exact .inl (congrArg _ ih)
      · exact .inr ⟨.other c :: ps, qs, front, back, congrArg _ hboth, congrArg _ hfirst, hrest⟩

/-- **Two texts are searched one after the other** exactly if no occurrence is split. -/
theorem pieces_append_iff :
    pieces token (s ++ t) = pieces token s ++ pieces token t ↔ ¬ Splits token s t := by
  constructor
  · rintro hpieces ⟨ps, qs, front, back, hboth, hs, rfl, hfront, hback⟩
    rw [hpieces] at hboth
    have hlength := congrArg List.length hs
    rw [← flatMap_pieces hne s] at hlength
    have hpos : 0 < front.length := List.length_pos_iff.2 hfront
    have hpos' : 0 < back.length := List.length_pos_iff.2 hback
    -- the pieces of the first text end before the occurrence or with it
    rcases List.append_eq_append_iff.1 hboth with ⟨more, rfl, -⟩ | ⟨more, hmore, hrest⟩
    · rw [List.flatMap_append, List.append_assoc, List.length_append, List.length_append] at hlength
      omega
    · cases more with
      | nil =>
        rw [hmore, List.append_nil, List.length_append] at hlength
        omega
      | cons piece more =>
        obtain ⟨rfl, -⟩ := List.cons.inj hrest
        rw [hmore, List.flatMap_append, List.flatMap_cons, Piece.toText] at hlength
        simp only [List.length_append] at hlength
        omega
  · intro h
    rcases pieces_append_or hne s t with hpieces | ⟨ps, qs, front, back, hboth, hfirst, hrest⟩
    · exact hpieces
    · refine absurd ⟨ps, qs, front, back, hboth, ?_, hrest⟩ h
      conv => lhs; rw [← flatMap_pieces hne s, hfirst]
      rw [List.flatMap_append, List.flatMap_map]
      simp [Piece.toText]

/-- A part of a token that is split ends the first text, the rest starts the second. -/
theorem Splits.exists_parts (h : Splits token s t) :
    ∃ front back : Text, token = front ++ back ∧ front ≠ [] ∧ back ≠ [] ∧ front <:+ s ∧
      back <+: t := by
  obtain ⟨ps, qs, front, back, hboth, hs, htoken, hfront, hback⟩ := h
  have htext := flatMap_pieces hne (s ++ t)
  rw [hboth, List.flatMap_append, List.flatMap_cons, Piece.toText] at htext
  have hjoined : s ++ (back ++ qs.flatMap (Piece.toText token)) = s ++ t := by
    conv => lhs; lhs; rw [hs]
    conv at htext => lhs; rhs; lhs; rw [htoken]
    rw [← htext]
    simp only [List.append_assoc]
  exact ⟨front, back, htoken, hfront, hback, ⟨_, hs.symm⟩, _, List.append_cancel_left hjoined⟩

theorem not_splits_cons {c : Char} (hc : c ∉ token) (s t : Text) : ¬ Splits token s (c :: t) := by
  intro h
  obtain ⟨front, back, rfl, -, hback, -, hprefix⟩ := h.exists_parts hne
  cases back with
  | nil => exact hback rfl
  | cons d back =>
    obtain ⟨rfl, -⟩ := List.cons_prefix_cons.1 hprefix
    exact hc (List.mem_append_right _ (List.mem_cons_self ..))

theorem pieces_append_cons {c : Char} (hc : c ∉ token) (s t : Text) :
    pieces token (s ++ c :: t) = pieces token s ++ .other c :: pieces token t := by
  have hmiss : ¬ token <+: c :: t := by
    intro hprefix
    cases token with
    | nil => exact hne rfl
    | cons d token =>
      obtain ⟨rfl, -⟩ := List.cons_prefix_cons.1 hprefix
      exact hc (List.mem_cons_self ..)
  rw [(pieces_append_iff hne).2 (not_splits_cons hne hc s t), pieces_cons hmiss]

end

/-! ## Substitution -/

theorem substitute_append_cons {token : Text} (hne : token ≠ []) {c : Char} (hc : c ∉ token)
    (new s t : Text) :
    substitute token new (s ++ c :: t) = substitute token new s ++ c :: substitute token new t := by
  rw [substitute, pieces_append_cons hne hc, List.flatMap_append, List.flatMap_cons]
  rfl

theorem substitute_eq_self {token t : Text} (hne : token ≠ []) (h : ¬ token <:+: t)
    (new : Text) : substitute token new t = t := by
  rw [substitute, pieces_eq_map_other hne h, List.flatMap_map]
  simp [Piece.toText]

theorem append_dropLast_prefix (front token t : Text) :
    front ++ token.dropLast <+: front ++ (token ++ t) :=
  (List.prefix_append_right_inj front).2
    ((List.dropLast_prefix token).trans (List.prefix_append token t))

/-- The occurrence behind a text in which none starts is replaced, and the search goes on behind
it. -/
theorem substitute_append_token {token front : Text} (hne : token ≠ [])
    (h : ¬ token <:+: front ++ token.dropLast) (new t : Text) :
    substitute token new (front ++ (token ++ t)) = front ++ (new ++ substitute token new t) := by
  induction front with
  | nil =>
    rw [List.nil_append, substitute, pieces_token_append hne, List.flatMap_cons]
    rfl
  | cons c front ih =>
    rw [List.cons_append, List.infix_cons_iff, not_or] at h
    obtain ⟨hstart, hrest⟩ := h
    -- an occurrence at the first character ends before the token that is to be replaced does
    have hmiss : ¬ token <+: c :: (front ++ (token ++ t)) := by
      intro hprefix
      have hpart : c :: (front ++ token.dropLast) <+: c :: (front ++ (token ++ t)) :=
        List.cons_prefix_cons.2 ⟨rfl, append_dropLast_prefix front token t⟩
      refine hstart (List.prefix_of_prefix_length_le hprefix hpart ?_)
      rw [List.length_cons, List.length_append, List.length_dropLast]
      omega
    rw [List.cons_append, substitute, pieces_cons hmiss, List.flatMap_cons]
    exact congrArg (c :: ·) (ih hrest)

/-- A text that holds a token does not start what becomes of it when the token is replaced by a text
with a new character in front. -/
theorem not_prefix_substitute {token new t : Text} {c : Char} (hne : token ≠ [])
    (h : token <:+: t) (hc : c ∉ t) : ¬ t <+: substitute token (c :: new) t := by
  induction t using searchInduction hne with
  | nil => exact absurd (List.infix_nil.1 h) hne
  | found t _ =>
    rw [substitute, pieces_token_append hne, List.flatMap_cons, Piece.toText]
    cases token with
    | nil => exact absurd rfl hne
    | cons d token =>
      intro hprefix
      obtain ⟨rfl, -⟩ := List.cons_prefix_cons.1 hprefix
      exact hc (List.mem_cons_self ..)
  | passed d t hmiss ih =>
    rw [substitute, pieces_cons hmiss, List.flatMap_cons]
    intro hprefix
    have hrest : token <:+: t := (List.infix_cons_iff.1 h).resolve_left hmiss
    exact ih hrest (List.not_mem_of_not_mem_cons hc) (List.cons_prefix_cons.1 hprefix).2

/-- Replacing a token by a longer text makes no text shorter, and a text with the token longer. -/
theorem length_substitute {token new : Text} (hne : token ≠ [])
    (hlength : token.length < new.length) (t : Text) :
    t.length ≤ (substitute token new t).length ∧
      (token <:+: t → t.length < (substitute token new t).length) := by
  have key : ∀ ps : List Piece,
      (ps.flatMap (Piece.toText token)).length ≤ (ps.flatMap (Piece.toText new)).length ∧
        (.token ∈ ps →
          (ps.flatMap (Piece.toText token)).length < (ps.flatMap (Piece.toText new)).length) := by
    intro ps
    induction ps with
    | nil => simp
    | cons piece ps ih =>
      obtain ⟨hle, hlt⟩ := ih
      cases piece with
      | token =>
        simp only [List.flatMap_cons, List.length_append, Piece.toText]
        omega
      | other c =>
        simp only [List.flatMap_cons, List.length_append, Piece.toText]
        refine ⟨by omega, fun hmem => ?_⟩
        have := hlt (by simpa using hmem)
        omega
  obtain ⟨hle, hlt⟩ := key (pieces token t)
  rw [flatMap_pieces hne] at hle hlt
  exact ⟨hle, fun h => hlt ((token_mem_pieces_iff hne).2 h)⟩

end ErrorReport.Text
