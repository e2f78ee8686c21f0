/-!
# Paths

A path is kept as it was written: its text shows in messages and in the list
of files. Where paths are compared or taken apart, empty pieces and pieces `.`
do not count, except that a leading `.` is a piece of its own.
-/

namespace Scad

structure Path where
  text : String
deriving DecidableEq, Repr

namespace Path

/-- The text between separators. -/
def split : List Char → List (List Char)
  | [] => [[]]
  | c :: rest =>
      if c = '/' then [] :: split rest
      else
        match split rest with
        | [] => [[c]]
        | piece :: pieces => (c :: piece) :: pieces

def pieces (p : Path) : List String :=
  (split p.text.toList).map String.ofList

def isEmpty (p : Path) : Bool := p.text == ""

def isAbsolute (p : Path) : Bool := p.text.toList.head? == some '/'

/-- The path is some spelling of `.`, such as `./` or `./.`. -/
def isHere (p : Path) : Bool :=
  match p.pieces with
  | [] => false
  | first :: rest => first == "." && rest.all fun piece => piece == "" || piece == "."

/-- The names along the path, `..` among them. -/
def names (p : Path) : List String :=
  p.pieces.filter fun piece => piece != "" && piece != "."

/-! ## Entries of a directory -/

/-- The path of an entry. No separator is added behind one that is there. -/
def join (dir : Path) (name : String) : Path :=
  if dir.isEmpty then ⟨name⟩
  else if dir.text.toList.getLast? == some '/' then ⟨dir.text ++ name⟩
  else ⟨dir.text ++ "/" ++ name⟩

/-- The path of an entry, without the directory where that is the current one. -/
def entry (dir : Path) (name : String) : Path :=
  if dir.isHere then ⟨name⟩ else dir.join name

/-! ## The directory of a path -/

/-- Drops pieces from the end of the reversed list that do not count. -/
def trimPieces : List String → List String
  | [] => []
  | [first] => if first == "" then [] else [first]
  | last :: before =>
      if last == "" || last == "." then trimPieces before else last :: before

/-- The path without its last piece, `none` if it has no piece. The parent of a
relative path of one piece is the empty path. -/
def parent (p : Path) : Option Path :=
  match trimPieces p.pieces.reverse with
  | [] => none
  | _ :: before =>
      match trimPieces before with
      | [] => some ⟨if p.isAbsolute then "/" else ""⟩
      | kept => some ⟨"/".intercalate kept.reverse⟩

end Path

end Scad
