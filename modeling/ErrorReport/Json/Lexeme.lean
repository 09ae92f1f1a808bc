/-
# ErrorReport.Json.Lexeme — blanks, literals, strings and numbers of JSON text.

JSON text is read once, from the left, and the first fault decides. A fault is one of three kinds:
the text is malformed, it ends too early, or it is sound so far but holds something else than what
is wanted there. Every reader takes the text that is left and gives a value and the text behind it.

Strings and numbers are read in two ways. Where the value matters, an escaped surrogate has to be
one of a pair and a number has to be finite in double precision. Where a value is only passed over,
neither is looked at, and a number that breaks off counts as malformed rather than as cut short.
-/
import ErrorReport.Text.Basic

namespace ErrorReport.Json

/-- What is wrong with JSON text. -/
inductive Fault where
  /-- It breaks the rules of the format. -/
  | malformed
  /-- It ends too early. -/
  | truncated
  /-- It is sound so far, but a value has the wrong type, or a field is missing, unknown or given
  twice. -/
  | mismatched
  deriving DecidableEq, Repr

/-- Reads a value from the start of a text and gives what follows it. -/
abbrev Reader (α : Type) := Text → Except Fault (α × Text)

/-- Whether a value is wanted or only passed over. -/
inductive Purpose where
  | wanted
  | passed
  deriving DecidableEq, Repr

/-! ## Blanks and literals -/

/-- The characters that may stand between the parts of a JSON text. -/
def isGap (c : Char) : Bool := c = ' ' || c = '\n' || c = '\t' || c = '\r'

/-- The text behind any gap it starts with. -/
def skipGap (t : Text) : Text := t.dropWhile isGap

/-- Reads the rest of a literal such as `null`. -/
def literal : Text → Text → Except Fault Text
  | [], t => .ok t
  | _ :: _, [] => .error .truncated
  | e :: es, c :: t => if c = e then literal es t else .error .malformed

/-! ## Strings -/

/-- The value of a hexadecimal digit. -/
def hexValue? (c : Char) : Option Nat :=
  if '0' ≤ c ∧ c ≤ '9' then some (c.toNat - '0'.toNat)
  else if 'a' ≤ c ∧ c ≤ 'f' then some (c.toNat - 'a'.toNat + 10)
  else if 'A' ≤ c ∧ c ≤ 'F' then some (c.toNat - 'A'.toNat + 10)
  else none

/-- Reads four hexadecimal digits. The text is cut short if fewer than four octets are left. -/
def fourHexDigits : Reader Nat
  | a :: b :: c :: d :: rest =>
    match hexValue? a, hexValue? b, hexValue? c, hexValue? d with
    | some a, some b, some c, some d => .ok (((a * 16 + b) * 16 + c) * 16 + d, rest)
    | _, _, _, _ => .error .malformed
  | short =>
    .error (if short.foldl (fun n c => n + c.utf8Size) 0 < 4 then .truncated else .malformed)

/-- The character that a letter stands for after a backslash. -/
def escapedLetter? : Char → Option Char
  | '"' => some '"'
  | '\\' => some '\\'
  | '/' => some '/'
  | 'b' => some '\x08'
  | 'f' => some '\x0c'
  | 'n' => some '\n'
  | 'r' => some '\r'
  | 't' => some '\t'
  | _ => none

/-- The first half of a pair of surrogates. -/
def isHighSurrogate (n : Nat) : Bool := 0xD800 ≤ n && n < 0xDC00

/-- The second half of a pair of surrogates. -/
def isLowSurrogate (n : Nat) : Bool := 0xDC00 ≤ n && n < 0xE000

/-- The character that a pair of surrogates stands for. -/
def ofSurrogates (high low : Nat) : Char :=
  Char.ofNat (0x10000 + (high - 0xD800) * 0x400 + (low - 0xDC00))

/-- Reads what follows a first surrogate: the escape of a second one. -/
def secondSurrogate (high : Nat) : Reader Char
  | [] => .error .truncated
  | ['\\'] => .error .truncated
  | '\\' :: 'u' :: rest =>
    match fourHexDigits rest with
    | .error fault => .error fault
    | .ok (low, rest) =>
      if isLowSurrogate low then .ok (ofSurrogates high low, rest) else .error .malformed
  | _ => .error .malformed

/-- Reads an escape behind its backslash. -/
def escaped (purpose : Purpose) : Reader Char
  | [] => .error .truncated
  | 'u' :: rest =>
    match fourHexDigits rest with
    | .error fault => .error fault
    | .ok (n, rest) =>
      -- the characters of a string that is passed over are not kept, so half a pair does no harm
      if purpose = .passed then .ok (Char.ofNat n, rest)
      else if isLowSurrogate n then .error .malformed
      else if isHighSurrogate n then secondSurrogate n rest
      else .ok (Char.ofNat n, rest)
  | c :: rest =>
    match escapedLetter? c with
    | some d => .ok (d, rest)
    | none => .error .malformed

theorem length_lt_of_fourHexDigits {t rest : Text} {n : Nat}
    (h : fourHexDigits t = .ok (n, rest)) : rest.length < t.length := by
  unfold fourHexDigits at h
  split at h
  · split at h
    · obtain ⟨-, rfl⟩ := Prod.mk.inj (Except.ok.inj h)
      simp only [List.length_cons]
      omega
    · cases h
  · cases h

theorem length_lt_of_escaped {purpose : Purpose} {t rest : Text} {c : Char}
    (h : escaped purpose t = .ok (c, rest)) : rest.length < t.length := by
  unfold escaped at h
  split at h
  · cases h
  · next r =>
    split at h
    · cases h
    · next n r' hr =>
      have h₁ := length_lt_of_fourHexDigits hr
      have h₂ : rest.length ≤ r'.length := by
        split at h
        · obtain ⟨-, rfl⟩ := Prod.mk.inj (Except.ok.inj h)
          exact Nat.le_refl _
        · split at h
          · cases h
          · split at h
            · unfold secondSurrogate at h
              split at h
              · cases h
              · cases h
              · split at h
                · cases h
                · next hlow =>
                  have h₃ := length_lt_of_fourHexDigits hlow
                  split at h
                  · obtain ⟨-, rfl⟩ := Prod.mk.inj (Except.ok.inj h)
                    simp only [List.length_cons]
                    omega
                  · cases h
              · cases h
            · obtain ⟨-, rfl⟩ := Prod.mk.inj (Except.ok.inj h)
              exact Nat.le_refl _
      simp only [List.length_cons]
      omega
  · split at h
    · obtain ⟨-, rfl⟩ := Prod.mk.inj (Except.ok.inj h)
      simp
    · cases h

/-- Reads a string behind its opening quotation mark. Controls have to be escaped. -/
def stringRest (purpose : Purpose) (t : Text) : Except Fault (Text × Text) :=
  match t with
  | [] => .error .truncated
  | '"' :: rest => .ok ([], rest)
  | '\\' :: rest =>
    match h : escaped purpose rest with
    | .error fault => .error fault
    | .ok (c, rest') =>
      have := length_lt_of_escaped h
      match stringRest purpose rest' with
      | .error fault => .error fault
      | .ok (s, rest) => .ok (c :: s, rest)
  | c :: rest =>
    if c < ' ' then .error .malformed
    else
      match stringRest purpose rest with
      | .error fault => .error fault
      | .ok (s, rest) => .ok (c :: s, rest)
termination_by t.length

end ErrorReport.Json
