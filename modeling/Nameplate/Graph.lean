import Nameplate.Catalog
import Nameplate.Journal

/-!
The registry of the audio graph and the objects it shares with its callers.

Objects are held by reference.  A caller may keep the reference of an object it
registered, found or removed, and one object may stand under several ids; a
change through any of them is seen through all.  `Graph` holds every object
that was ever made and the registry, which maps ids to references.  What a
reader of the registry sees is its catalog: the present records by id.
-/

namespace Nameplate

/-- A reference to an object: its place among all objects ever made. -/
structure Ref where
  index : Nat
deriving DecidableEq, Repr

/-- Objects, and the registry that maps ids to them.  The registry holds no
reference to an object that was never made. -/
structure Graph where
  cells : List Record
  registry : IdMap Ref
  closed : ∀ entry ∈ registry.entries, entry.2.index < cells.length

inductive ChangeError where
  | unknownId (id : Int)
  | noProperty (kind : Kind) (key : String)
  /-- A property is given under a name that an update uses for something else. -/
  | reservedName (key : String)
  | noField (typeName key : String)
  /-- What the object shows under the name follows from its fields. -/
  | derivedField (typeName key : String)
  /-- What the object shows under the name is the same for all of its type. -/
  | fixedField (typeName key : String)
deriving DecidableEq, Repr

def ChangeError.message : ChangeError → String
  | .unknownId id => unknownIdMessage id
  | .noProperty kind key => kind.text ++ " has no property '" ++ key ++ "'"
  | .reservedName key =>
      "ObjectRegistry.update() got multiple values for argument '" ++ key ++ "'"
  | .noField typeName key => "'" ++ typeName ++ "' object has no attribute '" ++ key ++ "'"
  | .derivedField typeName key =>
      "property '" ++ key ++ "' of '" ++ typeName ++ "' object has no setter"
  | .fixedField typeName key =>
      "'" ++ typeName ++ "' object attribute '" ++ key ++ "' is read-only"

/-- The names that an update uses for the registry and for the id that it is
asked to change, so that no property can be given under them. -/
def reservedNames : List String := ["self", "object_id"]

/-- Why an object does not take a value under a name that is none of its
fields. -/
def ChangeError.ofName (record : Record) (key : String) : ChangeError :=
  if key = "kind" then .fixedField record.typeName key
  else if key = "is_endpoint" ∧ record.kind = .node then .derivedField record.typeName key
  else .noField record.typeName key

namespace Graph

def empty : Graph :=
  ⟨[], IdMap.empty, by simp [IdMap.empty]⟩

def load? (graph : Graph) (ref : Ref) : Option Record :=
  graph.cells[ref.index]?

theorem index_lt_of_load? {graph : Graph} {ref : Ref} {record : Record}
    (loaded : graph.load? ref = some record) : ref.index < graph.cells.length :=
  (List.getElem?_eq_some_iff.mp loaded).1

def store (graph : Graph) (ref : Ref) (record : Record) : Graph where
  cells := graph.cells.set ref.index record
  registry := graph.registry
  closed := by simpa using graph.closed

/-- The graph with more objects, which are not registered yet. -/
def extend (graph : Graph) (records : List Record) : Graph where
  cells := graph.cells ++ records
  registry := graph.registry
  closed entry member := by
    have bound := graph.closed entry member
    rw [List.length_append]
    omega

def withRegistry (graph : Graph) (registry : IdMap Ref)
    (closed : ∀ entry ∈ registry.entries, entry.2.index < graph.cells.length) : Graph :=
  ⟨graph.cells, registry, closed⟩

/-- Makes a new object, which is not registered yet. -/
def allocate (graph : Graph) (record : Record) : Graph × Ref :=
  (graph.extend [record], ⟨graph.cells.length⟩)

def catalog (graph : Graph) : Catalog :=
  graph.registry.filterMap graph.load?

def ref? (graph : Graph) (id : Int) : Option Ref :=
  graph.registry.get? id

def get? (graph : Graph) (id : Int) : Option Record :=
  (graph.ref? id).bind graph.load?

/-- Registers an object under the id that it carries now.  A reference to no
object registers nothing. -/
def put (graph : Graph) (ref : Ref) : Graph :=
  match loaded : graph.load? ref with
  | none => graph
  | some record =>
      graph.withRegistry (graph.registry.insert record.id ref) fun entry member => by
        rcases IdMap.mem_entries_insert member with rfl | present
        · exact index_lt_of_load? loaded
        · exact graph.closed entry present

/-- What is reported when an object takes the place of one of another kind. -/
def replacementNote? (graph : Graph) (ref : Ref) : Option String := do
  let record ← graph.load? ref
  let previous ← graph.get? record.id
  if previous.kind = record.kind then none
  else
    some ("Object " ++ toString record.id ++ " replaced: " ++ previous.kind.text ++ " -> " ++
      record.kind.text)

/-- Registers an object and reports a change of kind under its id. -/
def register {ε : Type} (graph : Graph) (ref : Ref) : Logged ε Graph :=
  ⟨.ok (graph.put ref),
    (graph.replacementNote? ref).toList.map fun message => ⟨.debug, .registry, message⟩⟩

def registerAll {ε : Type} (graph : Graph) : List Ref → Logged ε Graph
  | [] => pure graph
  | ref :: rest => do
      let next ← graph.register ref
      next.registerAll rest

def clear (graph : Graph) : Graph :=
  graph.withRegistry IdMap.empty (by simp [IdMap.empty])

def identified (graph : Graph) (refs : List Ref) : List (Int × Ref) :=
  refs.filterMap fun ref => (graph.load? ref).map fun record => (record.id, ref)

/-- The registry that holds exactly the given objects, in one step. -/
def replaceAll (graph : Graph) (refs : List Ref) : Graph :=
  graph.withRegistry (IdMap.ofList (graph.identified refs)) fun entry member => by
    obtain ⟨ref, _, made⟩ := List.mem_filterMap.mp (IdMap.mem_entries_ofList member)
    obtain ⟨record, loaded, rfl⟩ := Option.map_eq_some_iff.mp made
    exact index_lt_of_load? loaded

/-- Replaces every registered object and reports how many there are now. -/
def replace {ε : Type} (graph : Graph) (refs : List Ref) : Logged ε Graph := do
  let next := graph.replaceAll refs
  Logged.note .info .registry
    ("Object registry replaced (" ++ toString next.registry.size ++ " objects)")
  return next

/-- Removes an id.  The object stays, for those who hold its reference. -/
def remove (graph : Graph) (id : Int) : Graph :=
  graph.withRegistry (graph.registry.erase id) fun entry member =>
    graph.closed entry (IdMap.mem_entries_erase member)

/-- Changes properties of the object under an id.  Every name is checked before
anything is changed, so a refused update changes nothing; a reserved name is
refused even if there is no such object. -/
def update (graph : Graph) (id : Int) (changes : List Change) : Except ChangeError Graph :=
  match changes.find? fun change => reservedNames.contains change.key with
  | some change => .error (.reservedName change.key)
  | none =>
      match graph.ref? id with
      | none => .error (.unknownId id)
      | some ref =>
          match graph.load? ref with
          | none => .error (.unknownId id)
          | some record =>
              match changes.find? fun change => !record.hasProperty change.key with
              | some change => .error (.noProperty record.kind change.key)
              | none => .ok (graph.store ref (record.assignAll changes))

/-- Changes one field of an object through its reference, whether or not it is
registered.  The id may change as well; the registry keeps the object where it
is.  A reference to no object changes nothing. -/
def assign (graph : Graph) (ref : Ref) (change : Change) : Except ChangeError Graph :=
  match graph.load? ref with
  | none => .ok graph
  | some record =>
      match record.assign? change with
      | none => .error (ChangeError.ofName record change.key)
      | some changed => .ok (graph.store ref changed)

def newRefs (graph : Graph) (records : List Record) : List Ref :=
  (List.range records.length).map fun position => ⟨graph.cells.length + position⟩

/-- Replaces the registry by one that holds new objects, one for each record of
a catalog. -/
def adopt (graph : Graph) (catalog : Catalog) : Graph :=
  (graph.extend catalog.values).withRegistry
    (IdMap.ofList (catalog.ids.zip (graph.newRefs catalog.values))) fun entry member => by
      have isNew := (List.of_mem_zip (IdMap.mem_entries_ofList member)).2
      obtain ⟨position, inRange, same⟩ := List.mem_map.mp isNew
      have bound := List.mem_range.mp inRange
      rw [← same]
      simp only [extend, List.length_append]
      omega

end Graph

end Nameplate
