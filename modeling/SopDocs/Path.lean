import SopDocs.Text.Search
/-!
Paths of files. A path keeps its text; its meaning is the list of its components. Repeated slashes,
trailing slashes and dots other than a leading one leave no component.
-/

namespace SopDocs

structure Path where
  text : String
deriving DecidableEq, Inhabited

namespace Path

inductive Component where
  | root
  | here
  | up
  | name (text : String)
deriving DecidableEq, Inhabited

/-- The component that a piece between slashes stands for; `first` marks the start of a relative
path. -/
def Component.ofPiece? (first : Bool) (piece : List Char) : Option Component :=
  match piece with
  | [] => none
  | ['.'] => if first then some .here else none
  | ['.', '.'] => some .up
  | piece => some (.name (String.ofList piece))

/-- Components of pieces that start after `position` characters, each with the number of characters
up to its end. -/
def componentsFrom (first : Bool) (position : Nat) :
    List (List Char) → List (Component × Nat)
  | [] => []
  | piece :: r =>
    let stop := position + piece.length
    let rest := componentsFrom false (stop + 1) r
    match Component.ofPiece? first piece with
    | some c => (c, stop) :: rest
    | none => rest

def isAbsoluteText (s : List Char) : Bool := s.head? == some '/'

/-- The components of a path with the length of the text that ends with each. -/
def marked (p : Path) : List (Component × Nat) :=
  let s := p.text.toList
  let found := componentsFrom (!isAbsoluteText s) 0 (Text.pieces (· == '/') s)
  if isAbsoluteText s then (.root, 1) :: found else found

def components (p : Path) : List Component := p.marked.map (·.1)

def isAbsolute (p : Path) : Bool := isAbsoluteText p.text.toList

/-- The path without its last component; none for a root and for the empty path. -/
def parent? (p : Path) : Option Path :=
  match p.marked.reverse with
  | [] => none
  | (.root, _) :: _ => none
  | [_] => some ⟨""⟩
  | _ :: (_, stop) :: _ => some ⟨String.ofList (p.text.toList.take stop)⟩

/-- The last component, if it is a name. -/
def fileName? (p : Path) : Option String :=
  match p.components.getLast? with
  | some (.name s) => some s
  | _ => none

/-- What stands before the last dot; a name that only starts with a dot has no extension. -/
def stemOf (name : List Char) : List Char :=
  match (name.reverse.dropWhile (· != '.')).reverse with
  | [] => name
  | '.' :: [] => name
  | stem => stem.dropLast

/-- The file name without its extension. -/
def fileStem? (p : Path) : Option String :=
  p.fileName?.map fun name => String.ofList (stemOf name.toList)

/-- A path below another one; an absolute path stands for itself. -/
def join (base p : Path) : Path :=
  if p.isAbsolute then p
  else if base.text.isEmpty || base.text.toList.getLast? == some '/' then ⟨base.text ++ p.text⟩
  else ⟨base.text ++ "/" ++ p.text⟩

/-- Position of a component among the kinds of components. -/
def Component.rank : Component → Nat
  | .root => 0
  | .here => 1
  | .up => 2
  | .name _ => 3

def Component.compare : Component → Component → Ordering
  | .name s, .name t => Ord.compare s t
  | c, d => Ord.compare c.rank d.rank

def compareComponents : List Component → List Component → Ordering
  | [], [] => .eq
  | [], _ :: _ => .lt
  | _ :: _, [] => .gt
  | c :: cs, d :: ds =>
    match c.compare d with
    | .eq => compareComponents cs ds
    | o => o

/-- Paths are ordered by their components. -/
def compare (p q : Path) : Ordering := compareComponents p.components q.components

/-- Paths with the same components are the same path, however they are spelled. -/
def same (p q : Path) : Bool := p.components == q.components

end Path

end SopDocs
