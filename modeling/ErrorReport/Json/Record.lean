/-
# ErrorReport.Json.Record — strings, lists, choices and records in JSON text.

The values this library reads from JSON text are strings, lists, values that may be null, choices
from a few names, and records. A record is an object with known fields in any order, or a list with
the values of the fields in their order; fields at the end of the list may be left out. What an
unknown field means, and whether a record is complete, is said by its `RecordForm`.
-/
import ErrorReport.Json.Value

namespace ErrorReport.Json

/-! ## Strings and values that may be null -/

/-- Reads a string. -/
def string : Reader Text := fun t =>
  match skipGap t with
  | [] => .error .truncated
  | '"' :: rest => stringRest .wanted rest
  | rest => .error (wrongKind rest)

/-- Reads null or a value. -/
def nullable {α : Type} (read : Reader α) : Reader (Option α) := fun t =>
  match skipGap t with
  | 'n' :: rest => do
    let rest ← literal "ull".toList rest
    return (none, rest)
  | rest => do
    let (a, rest) ← read rest
    return (some a, rest)

/-! ## Lists -/

/-- Goes to the next item of a list: gives the text at the item, or nothing at the end of the list,
which is not passed. -/
def nextItem (first : Bool) (t : Text) : Except Fault (Option Text) :=
  match skipGap t with
  | [] => .error .truncated
  | ']' :: _ => .ok none
  | c :: rest =>
    if first then .ok (some (c :: rest))
    else if c = ',' then
      match skipGap rest with
      | [] => .error .truncated
      | ']' :: _ => .error .malformed
      | rest => .ok (some rest)
    else .error .malformed

/-- Passes the end of a list. -/
def endOfList (t : Text) : Except Fault Text :=
  match skipGap t with
  | [] => .error .truncated
  | ']' :: rest => .ok rest
  | _ => .error .malformed

/-- Reads the items of a list; `count` bounds their number. -/
def itemsWithin {α : Type} (read : Reader α) : Nat → Bool → Reader (List α)
  | 0, _, _ => .error .truncated
  | count + 1, first, t => do
    match ← nextItem first t with
    | none => return ([], t)
    | some t =>
      let (a, rest) ← read t
      let (as, rest) ← itemsWithin read count false rest
      return (a :: as, rest)

/-- Reads a list. It has no more items than characters. -/
def list {α : Type} (read : Reader α) : Reader (List α) := fun t =>
  match skipGap t with
  | [] => .error .truncated
  | '[' :: rest => do
    let (as, rest) ← itemsWithin read (rest.length + 1) true rest
    let rest ← endOfList rest
    return (as, rest)
  | rest => .error (wrongKind rest)

/-! ## Choices -/

/-- Passes the colon between a name and its value. -/
def colon (t : Text) : Except Fault Text :=
  match skipGap t with
  | [] => .error .truncated
  | ':' :: rest => .ok rest
  | _ => .error .malformed

/-- Reads null. -/
def null : Reader Unit := fun t =>
  match skipGap t with
  | [] => .error .truncated
  | 'n' :: rest => do
    let rest ← literal "ull".toList rest
    return ((), rest)
  | rest => .error (wrongKind rest)

/-- Reads one of the given names. -/
def name {α : Type} (names : List (Text × α)) : Reader α := fun t => do
  let (s, rest) ← string t
  match names.lookup s with
  | some a => return (a, rest)
  | none => .error .mismatched

/-- Reads a choice: one of the given names, or an object with that name and null. -/
def choice {α : Type} (names : List (Text × α)) : Reader α := fun t =>
  match skipGap t with
  | [] => .error .truncated
  | '"' :: rest => name names ('"' :: rest)
  | '\x7b' :: rest =>
    match skipGap rest with
    | [] => .error .truncated
    | '"' :: rest => do
      let (a, rest) ← name names ('"' :: rest)
      let rest ← colon rest
      let ((), rest) ← null rest
      match skipGap rest with
      | [] => .error .truncated
      | '\x7d' :: rest => return (a, rest)
      | _ => .error .malformed
    -- as the name of a member, anything but a string breaks the rules of the format
    | _ => .error .malformed
  | _ => .error .malformed

/-! ## Records -/

/-- A field of a record: its name, and how it is read into the record. -/
structure Field (α : Type) where
  name : Text
  read : α → Reader α

/-- The form of a record: its fields in order, whether fields of other names are passed over, and
whether a record that has been read has all it needs. -/
structure RecordForm (α : Type) where
  fields : List (Field α)
  allowsOthers : Bool
  isComplete : α → Bool := fun _ => true

/-- A field that is read by `read` and stored by `store`. -/
def Field.of {α β : Type} (name : Text) (read : Reader β) (store : α → β → α) : Field α where
  name := name
  read := fun a t => do
    let (b, rest) ← read t
    return (store a b, rest)

/-- Goes to the next member of an object: gives the text at its name, or nothing at the end of the
object, which is not passed. -/
def nextMember (first : Bool) (t : Text) : Except Fault (Option Text) :=
  match skipGap t with
  | [] => .error .truncated
  | '\x7d' :: _ => .ok none
  | c :: rest =>
    if first then
      if c = '"' then .ok (some (c :: rest)) else .error .malformed
    else if c = ',' then
      match skipGap rest with
      | [] => .error .truncated
      | '"' :: rest => .ok (some ('"' :: rest))
      | _ => .error .malformed
    else .error .malformed

namespace RecordForm

variable {α : Type}

/-- Reads the members of an object into a record; `seen` are the names of the fields read so far,
and `count` bounds the number of members. An unwanted name and a repeated one are found at once. -/
def membersWithin (form : RecordForm α) : Nat → List Text → Bool → α → Reader α
  | 0, _, _, _, _ => .error .truncated
  | count + 1, seen, first, a, t => do
    match ← nextMember first t with
    | none => if form.isComplete a then return (a, t) else .error .mismatched
    | some t =>
      let (key, rest) ← string t
      match form.fields.find? (·.name = key) with
      | some field =>
        if seen.contains key then .error .mismatched
        else
          let rest ← colon rest
          let (a, rest) ← field.read a rest
          form.membersWithin count (key :: seen) false a rest
      | none =>
        if form.allowsOthers then
          let rest ← colon rest
          let rest ← skipValue rest
          form.membersWithin count seen false a rest
        else .error .mismatched

/-- Passes the end of an object. -/
def endOfObject (t : Text) : Except Fault Text :=
  match skipGap t with
  | [] => .error .truncated
  | '\x7d' :: rest => .ok rest
  | _ => .error .malformed

/-- Reads the items of a list into a record, one for each field. -/
def itemsInOrder (form : RecordForm α) : List (Field α) → Bool → α → Reader α
  | [], _, a, t => if form.isComplete a then .ok (a, t) else .error .mismatched
  | field :: fields, first, a, t => do
    match ← nextItem first t with
    | none => if form.isComplete a then return (a, t) else .error .mismatched
    | some t =>
      let (a, rest) ← field.read a t
      form.itemsInOrder fields false a rest

/-- Reads a record, starting from one in which no field has been read. -/
def read (form : RecordForm α) (start : α) : Reader α := fun t =>
  match skipGap t with
  | [] => .error .truncated
  | '[' :: rest => do
    let (a, rest) ← form.itemsInOrder form.fields true start rest
    let rest ← endOfList rest
    return (a, rest)
  | '\x7b' :: rest => do
    let (a, rest) ← form.membersWithin (rest.length + 1) [] true start rest
    let rest ← endOfObject rest
    return (a, rest)
  | rest => .error (wrongKind rest)

end RecordForm

/-! ## Whole texts -/

/-- Reads a text that holds one value and nothing else. -/
def document {α : Type} (read : Reader α) (t : Text) : Except Fault α := do
  let (a, rest) ← read t
  if (skipGap rest).isEmpty then return a else .error .malformed

end ErrorReport.Json
