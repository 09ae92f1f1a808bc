/-
# ErrorReport.Path.Basic — file paths, their components, and paths read from a directory.

A path is kept as it was written. What it means is read off its *components*: the root of an
absolute path or the leading dot of a path written from here, and then the names and `..` steps
between the slashes. Repeated and trailing slashes and dots further on mean nothing; such pieces are
called *fillers*. Two spellings with the same components name the same place.

The text of a path is its `head` (one slash, one dot or nothing) followed by its `tail`, and the
pieces of the tail are the components with fillers in between. `parent?` and `afterComponents` cut
that list of pieces and join what is left, so a spelling survives except for the fillers at the cut.

A relative path means something only from somewhere: `join` reads it from a directory, `parent?`
names the directory a path lies in, `relativeTo?` undoes `join` for a path that lies below another,
and `absoluteFrom` writes a path out from the root. None of them looks at the file system, and none
of them removes a `..` step.
-/
import ErrorReport.Text.Basic

namespace ErrorReport

/-- A file path, as it was written. -/
structure Path where
  text : Text
  deriving DecidableEq, Repr, Inhabited

namespace Path

/-- Stands between the pieces of a path. -/
def separator : Char := '/'

/-- The path with no text. -/
def empty : Path := ⟨[]⟩

/-- The directory one is in. -/
def here : Path := ⟨['.']⟩

/-! ## Pieces -/

/-- A path is absolute if it starts at the root. -/
def isAbsolute (p : Path) : Bool := p.text.head? = some separator

/-- What a path starts with before its pieces: the slash of the root, or the dot of a path written
from here, or nothing. -/
def head (p : Path) : Text :=
  match p.text with
  | '/' :: _ => ['/']
  | ['.'] => ['.']
  | '.' :: '/' :: _ => ['.']
  | _ => []

/-- The path behind its head. -/
def tail (p : Path) : Text := p.text.drop p.head.length

theorem head_append_tail (p : Path) : p.head ++ p.tail = p.text := by
  obtain ⟨t⟩ := p
  unfold tail head
  split <;> simp_all

/-- The texts between the slashes of the tail. -/
def pieces (p : Path) : List Text := p.tail.splitOn separator

/-- The path made of pieces. -/
def joinPieces (ps : List Text) : Text := [separator].intercalate ps

/-- A piece that names nothing: the empty text between two slashes, or a dot. -/
def isFiller (piece : Text) : Bool := piece = [] || piece = ['.']

/-- The pieces without the fillers at their end. -/
def dropFillersAtEnd (ps : List Text) : List Text := (ps.reverse.dropWhile isFiller).reverse

/-- The pieces behind the first `n` that are no fillers, starting with one that is none. -/
def afterPieces : Nat → List Text → List Text
  | _, [] => []
  | n, piece :: ps =>
    if isFiller piece then afterPieces n ps
    else match n with
      | 0 => piece :: ps
      | n + 1 => afterPieces n ps

/-! ## Components -/

/-- A step of a path. -/
inductive Component where
  /-- The root of the file system. -/
  | root
  /-- The dot that a path written from here starts with. -/
  | here
  /-- Up to the directory above. -/
  | up
  /-- Down to a file or directory. -/
  | name (t : Text)
  deriving DecidableEq, Repr

/-- The component that a piece stands for, if it is no filler. -/
def Component.ofPiece (piece : Text) : Component :=
  if piece = ['.', '.'] then .up else .name piece

/-- A component as a path of its own. -/
def Component.toPath : Component → Path
  | .root => ⟨[separator]⟩
  | .here => Path.here
  | .up => ⟨['.', '.']⟩
  | .name t => ⟨t⟩

/-- The component that the head of a path stands for. -/
def headComponents (p : Path) : List Component :=
  match p.head with
  | [] => []
  | '.' :: _ => [.here]
  | _ => [.root]

/-- The steps of a path. -/
def components (p : Path) : List Component :=
  p.headComponents ++ (p.pieces.filter (!isFiller ·)).map Component.ofPiece

/-- Two spellings of one path. -/
def same (p q : Path) : Bool := p.components = q.components

/-- The path begins with the steps of another. -/
def startsWith (p base : Path) : Bool := base.components.isPrefixOf p.components

/-- The path ends with the steps of another. -/
def endsWith (p child : Path) : Bool := child.components.isSuffixOf p.components

/-- The last step of a path if it is a name, otherwise nothing. -/
def fileName (p : Path) : Text :=
  match p.components.getLast? with
  | some (.name t) => t
  | _ => []

/-! ## Directories -/

/-- A path read from a directory. An absolute path stays as it is. -/
def join (base p : Path) : Path :=
  if p.isAbsolute then p
  else if base.text = [] || base.text.getLast? = some separator then ⟨base.text ++ p.text⟩
  else ⟨base.text ++ separator :: p.text⟩

/-- The path without its last step. The root and the empty path have no parent. -/
def parent? (p : Path) : Option Path :=
  match p.pieces.reverse.dropWhile isFiller with
  | _ :: front => some ⟨p.head ++ joinPieces (front.dropWhile isFiller).reverse⟩
  | [] => if p.head = here.text then some empty else none

/-- The path without its first `n` steps. -/
def afterComponents (p : Path) : Nat → Path
  | 0 => ⟨p.head ++ joinPieces (dropFillersAtEnd p.pieces)⟩
  | n + 1 =>
    let inTail := if p.head = [] then n + 1 else n
    ⟨joinPieces (dropFillersAtEnd (afterPieces inTail p.pieces))⟩

/-- What leads from `base` to the path, if the path lies below `base`. -/
def relativeTo? (p base : Path) : Option Path :=
  if p.startsWith base then some (p.afterComponents base.components.length) else none

/-- A path starts with exactly two slashes; such a path keeps them when it is written out. -/
def hasDoubleRoot (p : Path) : Bool :=
  match p.text with
  | '/' :: '/' :: '/' :: _ => false
  | '/' :: '/' :: _ => true
  | _ => false

/-- A path written out from the root, read from the directory `base` if it is relative. Fillers go,
a trailing slash stays, and the empty path stays empty. -/
def absoluteFrom (base p : Path) : Path :=
  if p.text = [] then p
  else
    -- a leading dot says nothing once the directory is in front of it
    let steps := ((p.relativeTo? here).getD p).components
    let whole :=
      if p.hasDoubleRoot then steps.tail.foldl (fun q c => q.join c.toPath) ⟨['/', '/']⟩
      else steps.foldl (fun q c => q.join c.toPath) (if p.isAbsolute then empty else base)
    -- joining nothing leaves a slash at the end
    if p.text.getLast? = some separator then whole.join empty else whole

end Path

end ErrorReport
