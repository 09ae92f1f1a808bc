/-
# ErrorReport.Json.Number — numbers of JSON text.

No value of this library is a number, so a number is read only to be refused or passed over. Its
form still matters, and a number that is not passed over must be finite when it is taken in double
precision: the digits that fit in 64 bits, rounded, times a rounded power of ten. `exceedsDouble`
decides that in exact arithmetic.
-/
import ErrorReport.Json.Lexeme

namespace ErrorReport.Json

/-! ## Size -/

/-- The nearest number with 53 significant bits; of two that are equally near, the even one. -/
def roundTo53Bits (n : Nat) : Nat :=
  let shift := n.log2 - 52
  let kept := n >>> shift
  let place := 1 <<< shift
  let lost := n % place
  -- up if more than half of the last place is lost, or half of it and the last place is odd
  let up := place < 2 * lost || (2 * lost = place && kept % 2 = 1)
  (if up && shift ≠ 0 then kept + 1 else kept) <<< shift

/-- The number `significand * 10 ^ exponent` is beyond the largest double. Both factors are rounded
before they are multiplied; from ten to the 309th on, any number but zero is beyond it. -/
def exceedsDouble (significand : Nat) (exponent : Int) : Bool :=
  if significand = 0 || exponent < 0 then false
  else if 308 < exponent then true
  -- halfway between the largest double and the next power of two, which rounds away from it
  else
    (1 <<< 1024) - (1 <<< 970) ≤
      roundTo53Bits significand * roundTo53Bits (Nat.pow 10 exponent.toNat)

/-- Takes up digits as long as the number fits in 64 bits; gives the number and how many digits
were taken up. -/
def takeUp : Nat → Text → Nat × Nat
  | n, [] => (n, 0)
  | n, c :: rest =>
    let n' := 10 * n + (c.toNat - '0'.toNat)
    if n' < UInt64.size then
      let (m, count) := takeUp n' rest
      (m, count + 1)
    else (n, 0)

/-- A number taken apart: its whole digits, the digits behind the point, and the exponent. -/
structure NumberParts where
  whole : Text
  fraction : Text
  exponent : Int

/-- The number is beyond the largest double. Whole digits that are not taken up count as powers of
ten, and such digits behind the point do not count. -/
def NumberParts.exceedsDouble (parts : NumberParts) : Bool :=
  let (n, wholeTaken) := takeUp 0 parts.whole
  let (n, fractionTaken) := takeUp n parts.fraction
  Json.exceedsDouble n (parts.exponent + (parts.whole.length - wholeTaken) - fractionTaken)

/-! ## Form -/

/-- What is wrong with a number that breaks off at the end of the text. -/
def Purpose.brokenNumber : Purpose → Fault
  | .wanted => .truncated
  | .passed => .malformed

/-- Reads digits, of which there must be one. -/
def someDigits (purpose : Purpose) : Reader Text
  | [] => .error purpose.brokenNumber
  | t =>
    let digits := t.takeWhile Char.isDigit
    if digits.isEmpty then .error .malformed else .ok (digits, t.dropWhile Char.isDigit)

/-- Reads the whole digits of a number: a zero alone, or digits that do not start with one. -/
def wholeDigits (purpose : Purpose) : Reader Text
  | '0' :: c :: rest =>
    if c.isDigit then .error .malformed else .ok (['0'], c :: rest)
  | t => someDigits purpose t

/-- Reads a fraction, if there is one. -/
def fractionDigits (purpose : Purpose) : Reader Text
  | '.' :: rest => someDigits purpose rest
  | t => .ok ([], t)

/-- Reads an exponent, if there is one. -/
def exponentPart (purpose : Purpose) : Reader Int
  | c :: rest =>
    if c = 'e' || c = 'E' then do
      let (negative, rest) :=
        match rest with
        | '-' :: rest => (true, rest)
        | '+' :: rest => (false, rest)
        | rest => (false, rest)
      let (digits, rest) ← someDigits purpose rest
      let n : Nat := digits.foldl (fun n c => 10 * n + (c.toNat - '0'.toNat)) 0
      return (if negative then -(n : Int) else n, rest)
    else .ok (0, c :: rest)
  | [] => .ok (0, [])

/-- Passes over a number, whose sign has been read. -/
def number (purpose : Purpose) (t : Text) : Except Fault Text := do
  let (whole, rest) ← wholeDigits purpose t
  let (fraction, rest) ← fractionDigits purpose rest
  let (exponent, rest) ← exponentPart purpose rest
  let parts : NumberParts := { whole, fraction, exponent }
  if purpose = .wanted && parts.exceedsDouble then .error .malformed else .ok rest

end ErrorReport.Json
