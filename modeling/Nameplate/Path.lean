import Nameplate.Text.Pieces

/-!
Paths.

A path is a walk.  It starts at the root or in the directory that is worked in
and goes from part to part: a name leads down, two points lead up, and an empty
part or a single point stays.  Where a walk leads depends on the parts alone; if
it can be made is up to the files on the way.
-/

namespace Nameplate.Path

def parts (path : String) : List (List Char) :=
  Text.pieces '/' path.toList

/-- Whether a part leads nowhere else. -/
def isIdle (part : List Char) : Bool :=
  part.isEmpty || part = ['.']

/-- The slashes at the start of a path that stay in its shortest form. -/
def rootOf (path : String) : List Char :=
  match path.toList with
  | '/' :: '/' :: '/' :: _ => ['/']
  | '/' :: '/' :: _ => ['/', '/']
  | '/' :: _ => ['/']
  | _ => []

def steps (path : String) : List (List Char) :=
  (parts path).filter fun part => !isIdle part

/-- The shortest form of a path: no doubled slashes, none at the end, and no
parts that lead nowhere. -/
def normalized (path : String) : String :=
  let whole := rootOf path ++ ['/'].intercalate (steps path)
  if whole.isEmpty then "." else String.ofList whole

/-- The ending of a path's last step, from its last point on.  A point at either
end of the step starts no ending. -/
def suffix (path : String) : String :=
  match (steps path).getLast? with
  | none => ""
  | some name =>
      let ending := name.reverse.takeWhile (· ≠ '.')
      let stem := name.reverse.drop (ending.length + 1)
      if ending.isEmpty || stem.isEmpty then "" else String.ofList ('.' :: ending.reverse)

/-- Where a place is counted from: the root, or a directory some levels above
the one that is worked in. -/
inductive Origin where
  | root
  | above (levels : Nat)
deriving DecidableEq, Repr

/-- A place that a walk leads to: names that lead down from an origin. -/
structure Place where
  origin : Origin
  names : List (List Char)
deriving DecidableEq, Repr

namespace Place

/-- The place one level up.  Nothing is above the root. -/
def parent (place : Place) : Place :=
  match place.names, place.origin with
  | [], .root => place
  | [], .above levels => ⟨.above (levels + 1), []⟩
  | _ :: _, origin => ⟨origin, place.names.dropLast⟩

def child (place : Place) (name : List Char) : Place :=
  { place with names := place.names ++ [name] }

def next (place : Place) (part : List Char) : Place :=
  if isIdle part then place
  else if part = ['.', '.'] then place.parent
  else place.child part

def isUnder (place other : Place) : Bool :=
  place.origin = other.origin && other.names.isPrefixOf place.names

end Place

def start (path : String) : Place :=
  ⟨if path.startsWith "/" then .root else .above 0, []⟩

def place (path : String) : Place :=
  (parts path).foldl Place.next (start path)

example : (place "a/./b/../c").names = [['a'], ['c']] ∧
    place "a/../.." = ⟨.above 1, []⟩ ∧ place "/../x/" = ⟨.root, [['x']]⟩ ∧
    normalized ".//a/../b/" = "a/../b" := by
  decide +kernel

/-- The beginnings of a path that end before one of its slashes; `seen` holds
the characters so far, the last one first. -/
def beginnings (seen : List Char) : List Char → List String
  | [] => []
  | character :: rest =>
      let later := beginnings (character :: seen) rest
      if character = '/' then String.ofList seen.reverse :: later else later

end Nameplate.Path
