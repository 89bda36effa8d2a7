import Nameplate.Description
import Nameplate.Document

/-!
Snapshots: documents that list the objects of the graph at one moment.

A snapshot is a mapping with a list of records for each kind.  A record is a
mapping with an integer id and properties that are scalars; numbers and truth
values become text, except in links, which are ids.  Ids are distinct across
the whole snapshot.  Sections are read in a fixed order, whatever the order of
the keys, and the members of a record in the order in which they are written.
-/

namespace Nameplate

namespace Snapshot

def sectionOf : Kind → String
  | .device => "devices"
  | .node => "nodes"
  | .client => "clients"

structure Place where
  kind : Kind
  position : Nat
deriving DecidableEq, Repr

def Place.text (place : Place) : String :=
  sectionOf place.kind ++ "[" ++ toString place.position ++ "]"

inductive Error where
  | notMapping
  | sectionNotList (kind : Kind)
  | recordNotMapping (place : Place)
  | idNotInteger (place : Place) (found : Document)
  | notScalar (place : Place) (key : String) (found : Document)
  | linkNotInteger (place : Place) (link : LinkField)
  | duplicateId (id : Int) (place : Place)
deriving DecidableEq, Repr

def Error.message : Error → String
  | .notMapping => "Snapshot must be a mapping of sections"
  | .sectionNotList kind => "Snapshot section '" ++ sectionOf kind ++ "' must be a list"
  | .recordNotMapping place => place.text ++ ": record must be a mapping"
  | .idNotInteger place found =>
      place.text ++ ": 'id' must be an integer, got " ++ found.shown
  | .notScalar place key found =>
      place.text ++ ": '" ++ key ++ "' must be a scalar, got " ++ found.shown
  | .linkNotInteger place link => place.text ++ ": '" ++ link.key ++ "' must be an integer"
  | .duplicateId id place => "Duplicate object id " ++ toString id ++ " at " ++ place.text

/-- Whether a value can be a property: null, a text, an integer or a truth
value. -/
def isScalar : Document → Bool
  | .null | .bool _ | .integer _ | .text _ => true
  | _ => false

def scalarText? : Document → Option String
  | .text value => some value
  | .integer value => some (toString value)
  | .bool value => some (if value then "True" else "False")
  | _ => none

/-- The field of a record's member, with its value.  The id was examined
before; an unknown key is reported and left out. -/
def fieldOfMember (place : Place) (key : String) (value : Document) :
    Logged Error (Option (Field × Document)) :=
  match Field.ofKey? place.kind key with
  | none => do
      Logged.note .warning .snapshot
        (place.text ++ ": ignoring unknown " ++ place.kind.text ++ " property '" ++ key ++ "'")
      return none
  | some field =>
      if field = .id ∨ isScalar value then pure (some (field, value))
      else Logged.fail (.notScalar place key value)

def changeOfField (place : Place) : Field × Document → Except Error (Option Change)
  | (.id, _) => .ok none
  | (.text field, value) => .ok (some (.text field (scalarText? value)))
  | (.link field, .integer id) => .ok (some (.link field (some id)))
  | (.link field, .null) => .ok (some (.link field none))
  | (.link field, _) => .error (.linkNotInteger place field)

def idOfMembers (place : Place) (members : List (String × Document)) : Except Error Int :=
  match Document.memberOrNull members "id" with
  | .integer id => .ok id
  | found => .error (.idNotInteger place found)

/-- The object that a record describes.  Every member is examined before any
link is. -/
def recordOfDocument (place : Place) : Document → Logged Error Record
  | .mapping members => do
      let id ← Logged.ofExcept (idOfMembers place members)
      let fields ← Logged.forEach
        (fun (member : String × Document) => fieldOfMember place member.1 member.2) members
      let changes ← Logged.ofExcept ((fields.filterMap fun field => field).mapM
        (changeOfField place))
      return (Record.blank place.kind id).assignAll (changes.filterMap fun change => change)
  | _ => Logged.fail (.recordNotMapping place)

/-- Adds the objects of the records of a section, which are counted from
`position` on, to a catalog. -/
def addRecords (kind : Kind) (catalog : Catalog) (position : Nat) :
    List Document → Logged Error Catalog
  | [] => pure catalog
  | document :: rest => do
      let place : Place := ⟨kind, position⟩
      let record ← recordOfDocument place document
      if catalog.contains record.id then
        Logged.fail (.duplicateId record.id place)
      else
        addRecords kind (catalog.insert record.id record) (position + 1) rest

def addSection (members : List (String × Document)) (catalog : Catalog) (kind : Kind) :
    Logged Error Catalog :=
  match (Document.memberOrNull members (sectionOf kind)).orEmptyList with
  | .list documents => addRecords kind catalog 0 documents
  | _ => Logged.fail (.sectionNotList kind)

def addSections (members : List (String × Document)) (catalog : Catalog) :
    List Kind → Logged Error Catalog
  | [] => pure catalog
  | kind :: rest => do
      let next ← addSection members catalog kind
      addSections members next rest

/-- The objects of a snapshot.  Unknown sections are reported after the known
ones were read. -/
def ofDocument : Document → Logged Error Catalog
  | .mapping members => do
      let catalog ← addSections members IdMap.empty Kind.all
      let unknown := members.filter fun member =>
        !(Kind.all.map sectionOf).contains member.1
      let _ ← Logged.forEach (fun (member : String × Document) =>
        Logged.note .warning .snapshot
          ("Ignoring unknown snapshot section '" ++ member.1 ++ "'")) unknown
      Logged.note .info .snapshot ("Loaded " ++ toString catalog.size ++ " objects")
      return catalog
  | _ => Logged.fail .notMapping

end Snapshot

end Nameplate
