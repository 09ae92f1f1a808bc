/-
# ErrorReport.Inspection.Failure — values and failures laid out for a developer.

An inspected value is an atom, a labelled value, or a group of values between brackets. It can be
laid out on one line or with one item to a line, indented by four spaces for each group around it.
A group may end in two dots, which stand for what it does not show.

A failure shows what has been read out of an exception, field by field. The exception itself is not
shown, so the account of a failure ends in dots.
-/
import ErrorReport.Failure.Basic

namespace ErrorReport

/-- A value to be laid out. -/
inductive Inspection where
  | atom (t : Text)
  | labelled (label : Text) (value : Inspection)
  /-- Values between brackets. `airy` groups have a space inside the brackets on one line, and
  `partly` groups show only part of what they stand for. -/
  | group (opening closing : Text) (airy partly : Bool) (items : List Inspection)

namespace Inspection

/-! ## Kinds of values -/

/-- A text, shown between quotation marks. -/
def text (t : Text) : Inspection := atom (Text.quoted t)

/-- A number. -/
def number (n : Nat) : Inspection := atom (Text.ofNat n)

/-- Values in order. -/
def list (items : List Inspection) : Inspection :=
  group ['['] [']'] false false items

/-- The members of a set. -/
def set (items : List Inspection) : Inspection :=
  group ['\x7b'] ['\x7d'] false false items

/-- A value that may be missing. -/
def option : Option Inspection → Inspection
  | none => atom "None".toList
  | some value => group "Some(".toList [')'] false false [value]

/-- A value with named fields. -/
def record (name : Text) (fields : List Inspection) (partly : Bool := false) : Inspection :=
  group (name ++ " \x7b".toList) ['\x7d'] true partly fields

/-! ## Layouts -/

/-- Texts with a comma and a space between them. -/
def commaSeparated (ts : List Text) : Text := ", ".toList.intercalate ts

/-- Stands at the end of a group for what is not shown. -/
def ellipsis (partly : Bool) : List Text := if partly then ["..".toList] else []

mutual

/-- A value on one line. -/
def inline : Inspection → Text
  | atom t => t
  | labelled label value => label ++ ": ".toList ++ inline value
  | group opening closing airy partly items =>
    let gap := if airy then [' '] else []
    opening ++ gap ++ commaSeparated (inlineAll items ++ ellipsis partly) ++ gap ++ closing

/-- Values on one line each. -/
def inlineAll : List Inspection → List Text
  | [] => []
  | item :: items => inline item :: inlineAll items

end

/-- A line inside `depth` groups. -/
def indentedLine (depth : Nat) (t : Text) : Text :=
  List.replicate (4 * depth) ' ' ++ t ++ [Text.newline]

mutual

/-- A value inside `depth` groups, with one item of a group to a line. -/
def spread (depth : Nat) : Inspection → Text
  | atom t => t
  | labelled label value => label ++ ": ".toList ++ spread depth value
  | group opening closing _ partly items =>
    if items.isEmpty && !partly then opening ++ closing
    else
      opening ++ [Text.newline] ++ spreadAll (depth + 1) items ++
        (ellipsis partly).flatMap (indentedLine (depth + 1)) ++
        List.replicate (4 * depth) ' ' ++ closing

/-- The items of a group, each on a line of its own with a comma. -/
def spreadAll (depth : Nat) : List Inspection → Text
  | [] => []
  | item :: items => indentedLine depth (spread depth item ++ [',']) ++ spreadAll depth items

end

/-- A value over as many lines as it takes. -/
def pretty (value : Inspection) : Text := spread 0 value

end Inspection

/-! ## Failures -/

/-- A location, field by field. -/
def Location.inspect (l : Location) : Inspection :=
  .record "BacktraceLocation".toList [
    .labelled "path".toList (.text l.path.text),
    .labelled "linenum".toList (.number l.line.toNat),
    .labelled "label".toList (.text l.label)]

namespace Failure

/-- The details of a failure, field by field. -/
def Details.inspect : Details → Inspection
  | .generic => .atom "Generic".toList
  | .arity counts =>
    .record "WrongNumberOfArguments".toList [
      .labelled "num_expected".toList (.number counts.expected.toNat),
      .labelled "num_received".toList (.number counts.received.toNat)]
  | .undefinedMethod name =>
    .record "NoMethodError".toList [.labelled "undefined_method_name".toList (.text name)]
  | .unloadable path =>
    .record "LoadError".toList [.labelled "unloadable_path".toList (.text path)]
  | .brokenSource location reason =>
    .record "SyntaxError".toList [
      .labelled "location".toList location.inspect,
      .labelled "reason".toList (.text reason)]

/-- A failure, field by field. -/
def inspect (f : Failure) : Inspection :=
  .record "ExceptionInfo".toList [
    .labelled "classname".toList (.text f.classname),
    .labelled "explanation".toList (.text f.explanation),
    .labelled "backtrace".toList (.list (f.backtrace.map Location.inspect)),
    .labelled "details".toList f.details.inspect] true

end Failure

end ErrorReport
