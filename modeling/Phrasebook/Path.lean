import Phrasebook.Text.Case

/-!
# Paths

A path is a root and the names below it. Writing a path leaves out empty names and single points; two points stay, since
they mean the directory above only where the directory before them exists.
-/

namespace Phrasebook

/-- A path: its root, empty for a relative one, and its names. -/
structure Path where
  root : String
  names : List String
  deriving DecidableEq, Repr, Inhabited

namespace Path

def pieces (cs : List Char) : List (List Char) :=
  cs.foldr
    (fun c parts =>
      match parts with
      | [] => if c == '/' then [[], []] else [[c]]
      | p :: ps => if c == '/' then [] :: p :: ps else (c :: p) :: ps)
    [[]]

/-- The path that a text writes. Exactly two slashes at its start are a root of their own. -/
def ofString (s : String) : Path :=
  let cs := s.toList
  let root :=
    match cs with
    | '/' :: '/' :: '/' :: _ => "/"
    | '/' :: '/' :: _ => "//"
    | '/' :: _ => "/"
    | _ => ""
  ⟨root, ((pieces cs).map String.ofList).filter fun name => name != "" && name != "."⟩

/-- The text of a path; the empty one is a point. -/
def toString (p : Path) : String :=
  if p.root.isEmpty && p.names.isEmpty then "." else p.root ++ "/".intercalate p.names

/-- The root, if there is one, and the names. -/
def parts (p : Path) : List String := if p.root.isEmpty then p.names else p.root :: p.names

def isAbsolute (p : Path) : Bool := !p.root.isEmpty

/-- A path below another; an absolute one stands for itself. -/
def join (base below : Path) : Path :=
  if below.isAbsolute then below else ⟨base.root, base.names ++ below.names⟩

def child (p : Path) (name : String) : Path := ⟨p.root, p.names ++ [name]⟩

def parent (p : Path) : Path := ⟨p.root, p.names.dropLast⟩

def ancestors (p : Path) : List Path :=
  ((List.range p.names.length).map fun n => (⟨p.root, p.names.take n⟩ : Path)).reverse

/-- The last name, empty if there is none. -/
def name (p : Path) : String := p.names.getLast?.getD ""

def withName (p : Path) (name : String) : Path := p.parent.child name

/-- The last name from its last point on; empty if the point is its first or last character. -/
def suffix (p : Path) : String :=
  let reversed := p.name.toList.reverse
  let after := reversed.takeWhile (· != '.')
  let before := reversed.drop (after.length + 1)
  if after.length < reversed.length && !after.isEmpty && !before.isEmpty then
    String.ofList ('.' :: after.reverse)
  else ""

def lowerSuffix (p : Path) : String := Text.lowerString p.suffix

/-- The names below another path, if the path starts with it. -/
def relativeTo (p base : Path) : Option Path :=
  if p.root == base.root && base.names.isPrefixOf p.names then
    some ⟨"", p.names.drop base.names.length⟩
  else none

/-- The names of a path without two points: each takes away the name before it. -/
def collapsed (names : List String) : List String :=
  names.foldl (fun kept name => if name == ".." then kept.dropLast else kept ++ [name]) []

/-- A path from a directory on, straight from the root. -/
def resolved (p directory : Path) : Path := ⟨"/", collapsed (directory.join p).names⟩

/-- Whether a path does not come after another: names are compared one by one. -/
def precedes (a b : Path) : Bool := !decide (b.parts < a.parts)

end Path
end Phrasebook
