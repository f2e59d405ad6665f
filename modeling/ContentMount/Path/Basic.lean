/-
This file defines paths as lists of segments, with their text form and the order of ancestry.
-/

namespace ContentMount

/-- A path leads from the root down to one item. -/
structure Path where
  segments : List String
  deriving DecidableEq, Inhabited

/-- The root has no segments. -/
def Path.root : Path := ⟨[]⟩

/-- The pieces of a text between its slashes. A text without a slash is one piece. -/
def Path.pieces (text : String) : List String :=
  (text.toList.splitOn '/').map String.ofList

/-- An empty piece or a single point stays where it is. -/
def Path.isIdle (piece : String) : Bool :=
  piece == "" || piece == "."

/-- Reading keeps each piece that is not idle, two points included. -/
def Path.parse (text : String) : Path :=
  ⟨(Path.pieces text).filter fun piece => !Path.isIdle piece⟩

/-- Every segment is written after a slash. The root is a single slash. -/
def Path.text (path : Path) : String :=
  if path.segments.isEmpty then "/"
  else String.ofList (path.segments.flatMap fun segment => '/' :: segment.toList)

/-- This test holds for the root alone. -/
def Path.isRoot (path : Path) : Bool :=
  path.segments.isEmpty

/-- The depth counts the segments. -/
def Path.depth (path : Path) : Nat :=
  path.segments.length

/-- The name is the last segment. The root has none. -/
def Path.name? (path : Path) : Option String :=
  path.segments.getLast?

/-- The path one segment up. It stays at the root. -/
def Path.up (path : Path) : Path :=
  ⟨path.segments.dropLast⟩

/-- The parent of every path but the root. -/
def Path.parent? (path : Path) : Option Path :=
  if path.isRoot then none else some path.up

/-- The ancestor with the given number of segments. -/
def Path.take (path : Path) (depth : Nat) : Path :=
  ⟨path.segments.take depth⟩

/-- One step along a piece. Two points lead up, and any other piece that is not idle leads
down. -/
def Path.step (path : Path) (piece : String) : Path :=
  if Path.isIdle piece then path
  else if piece == ".." then path.up
  else ⟨path.segments ++ [piece]⟩

/-- Following a text takes a step along each of its pieces. -/
def Path.join (path : Path) (text : String) : Path :=
  (Path.pieces text).foldl Path.step path

/-- The first path leads to the second or to something above it. -/
def Path.isAncestorOrSelf (path other : Path) : Bool :=
  path.segments.isPrefixOf other.segments

/-- The first path leads to something above the second. -/
def Path.isAncestor (path other : Path) : Bool :=
  path.segments.length < other.segments.length && path.isAncestorOrSelf other

/-- A text is absolute when it starts with a slash. -/
def Path.isAbsolute (text : String) : Bool :=
  text.toList.head? == some '/'

/-- An absolute text is followed from the root and any other text from the path. -/
def Path.resolve (path : Path) (text : String) : Path :=
  if Path.isAbsolute text then Path.root.join text else path.join text

@[simp] theorem Path.isRoot_root : Path.root.isRoot = true := rfl

@[simp] theorem Path.text_root : Path.root.text = "/" := rfl

theorem Path.isAncestorOrSelf_refl (path : Path) : path.isAncestorOrSelf path = true := by
  simp [isAncestorOrSelf]

theorem Path.parent?_eq_some_iff (path parent : Path) :
    path.parent? = some parent ↔ path ≠ Path.root ∧ path.up = parent := by
  rcases path with ⟨segments⟩
  cases segments <;> simp [parent?, isRoot, root]

end ContentMount
