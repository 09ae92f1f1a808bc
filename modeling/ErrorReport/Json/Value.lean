/-
# ErrorReport.Json.Value — passing over values, and refusing them.

`skipValue` passes over a value that is not wanted, whatever it holds. `wrongKind` says what is
wrong where a value of another kind was wanted: a list or an object is refused at its first
character, everything else is read to its end first, so that a fault inside it is found.
-/
import ErrorReport.Json.Number

namespace ErrorReport.Json

/-! ## Passing over a value -/

mutual

/-- Passes over a value; `depth` bounds how deep the steps nest. -/
def skipValueWithin : Nat → Text → Except Fault Text
  | 0, _ => .error .truncated
  | depth + 1, t =>
    match skipGap t with
    | [] => .error .truncated
    | 'n' :: rest => literal "ull".toList rest
    | 't' :: rest => literal "rue".toList rest
    | 'f' :: rest => literal "alse".toList rest
    | '"' :: rest => Prod.snd <$> stringRest .passed rest
    | '-' :: rest => number .passed rest
    | '[' :: rest =>
      match skipGap rest with
      | ']' :: rest => .ok rest
      | rest => skipItemsWithin depth rest
    | '\x7b' :: rest =>
      match skipGap rest with
      | '\x7d' :: rest => .ok rest
      | rest => skipMembersWithin depth rest
    | c :: rest => if c.isDigit then number .passed (c :: rest) else .error .malformed

/-- Passes over the items of a list, of which there is at least one, and its end. -/
def skipItemsWithin : Nat → Text → Except Fault Text
  | 0, _ => .error .truncated
  | depth + 1, t => do
    let rest ← skipValueWithin depth t
    match skipGap rest with
    | [] => .error .truncated
    | ',' :: rest => skipItemsWithin depth rest
    | ']' :: rest => .ok rest
    | _ => .error .malformed

/-- Passes over the members of an object, of which there is at least one, and its end. -/
def skipMembersWithin : Nat → Text → Except Fault Text
  | 0, _ => .error .truncated
  | depth + 1, t =>
    match skipGap t with
    | [] => .error .truncated
    | '"' :: rest => do
      let (_, rest) ← stringRest .passed rest
      match skipGap rest with
      | [] => .error .truncated
      | ':' :: rest =>
        let rest ← skipValueWithin depth rest
        match skipGap rest with
        | [] => .error .truncated
        | ',' :: rest => skipMembersWithin depth rest
        | '\x7d' :: rest => .ok rest
        | _ => .error .malformed
      | _ => .error .malformed
    | _ => .error .malformed

end

/-- Passes over a value. The bound is never reached: of two steps one inside the other, at least one
passes a character before it goes deeper. -/
def skipValue (t : Text) : Except Fault Text := skipValueWithin (2 * t.length + 1) t

/-! ## Refusing a value -/

/-- The fault of what has been read, or a mismatch if it was sound. -/
def mismatchAfter {α : Type} : Except Fault α → Fault
  | .error fault => fault
  | .ok _ => .mismatched

/-- What is wrong with the value a text starts with, where one of another kind was wanted. -/
def wrongKind : Text → Fault
  | 'n' :: rest => mismatchAfter (literal "ull".toList rest)
  | 't' :: rest => mismatchAfter (literal "rue".toList rest)
  | 'f' :: rest => mismatchAfter (literal "alse".toList rest)
  | '"' :: rest => mismatchAfter (stringRest .wanted rest)
  | '-' :: rest => mismatchAfter (number .wanted rest)
  | '[' :: _ => .mismatched
  | '\x7b' :: _ => .mismatched
  | c :: rest => if c.isDigit then mismatchAfter (number .wanted (c :: rest)) else .malformed
  | [] => .truncated

end ErrorReport.Json
