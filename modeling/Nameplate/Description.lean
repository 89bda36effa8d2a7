import Nameplate.Catalog
import Nameplate.Resolution

/-!
Descriptions: the names of the objects of a catalog.

A catalog holds the present records by id.  Describing one id refuses ids that
are not there and clients; describing all of them goes through the devices and
nodes in ascending order of their ids.
-/

namespace Nameplate

structure Description where
  id : Int
  kind : Kind
  resolution : Resolution
deriving Repr

inductive DescriptionError where
  | notFound (id : Int)
  | notNameable (id : Int)
deriving DecidableEq, Repr

def DescriptionError.message : DescriptionError → String
  | .notFound id => unknownIdMessage id
  | .notNameable id => "Client " ++ toString id ++ " has no display name of its own"

def Description.name (description : Description) : Option String :=
  description.resolution.name

namespace Catalog

def describeRecord (catalog : Catalog) (names : Names) (record : Record) :
    Logged DescriptionError Description := do
  let resolution ← (record.explain catalog.get? names).mapError fun _ =>
    .notNameable record.id
  return ⟨record.id, record.kind, resolution⟩

def describe (catalog : Catalog) (names : Names) (id : Int) :
    Logged DescriptionError Description :=
  match catalog.get? id with
  | none => Logged.fail (.notFound id)
  | some record => catalog.describeRecord names record

/-- The records of the devices and nodes, in ascending order of the ids under
which they are found. -/
def nameable (catalog : Catalog) : List Record :=
  (catalog.sortedIds.filterMap catalog.get?).filter fun record => record.category?.isSome

/-- Describes every device and node, and reports how many have no name. -/
def describeAll (catalog : Catalog) (names : Names) :
    Logged DescriptionError (List Description) := do
  let descriptions ← Logged.forEach (catalog.describeRecord names) catalog.nameable
  let unnamed := descriptions.countP fun description => description.name.isNone
  if unnamed = 0 then
    return descriptions
  else
    Logged.note .debug .service
      (toString unnamed ++ " of " ++ toString descriptions.length ++ " objects have no name")
    return descriptions

/-- The names of every device and node, by the ids that the objects carry. -/
def displayNames (catalog : Catalog) (names : Names) :
    Logged DescriptionError (IdMap (Option String)) := do
  let descriptions ← catalog.describeAll names
  return IdMap.ofList (descriptions.map fun description => (description.id, description.name))

end Catalog

end Nameplate
