import Nameplate.Proofs.Description.Bulk
import Nameplate.Proofs.Resolution.Locality

/-!
Renaming ids.

Ids are compared and never looked into.  A renaming that keeps different ids
apart, applied to a whole registry, renames the ids of its answers and changes
nothing else: links lead to the renamed records, which have the same properties.
-/

namespace Nameplate

/-- A rename of ids that keeps different ids apart. -/
structure Renaming where
  apply : Int → Int
  injective : Function.Injective apply

instance : CoeFun Renaming fun _ => Int → Int := ⟨Renaming.apply⟩

/-- An object under its new id, with its links led to new ids.  A link that is
absent stays absent. -/
def Record.renamed (rename : Renaming) : Record → Record
  | .device d => .device { d with id := rename d.id }
  | .node n =>
      .node { n with
        id := rename n.id
        deviceId := n.deviceId.map rename
        clientId := n.clientId.map rename }
  | .client c => .client { c with id := rename c.id }

namespace IdMap

variable {α : Type}

def renamed (rename : Renaming) (map : IdMap α) : IdMap α where
  entries := map.entries.map fun entry => (rename entry.1, entry.2)
  nodup := by
    rw [List.map_map]
    change (map.entries.map (rename ∘ Prod.fst)).Nodup
    rw [← List.map_map]
    exact List.Pairwise.map _ (fun _ _ differs same => differs (rename.injective same)) map.nodup

theorem get?_renamed (rename : Renaming) (map : IdMap α) (id : Int) :
    (map.renamed rename).get? (rename id) = map.get? id := by
  ext value
  rw [get?_eq_some_iff, get?_eq_some_iff]
  simp only [renamed, List.mem_map, Prod.mk.injEq]
  constructor
  · rintro ⟨⟨key, held⟩, member, same, rfl⟩
    rwa [← rename.injective same]
  · intro member
    exact ⟨(id, value), member, rfl, rfl⟩

end IdMap

def Graph.renamed (rename : Renaming) (graph : Graph) : Graph where
  cells := graph.cells.map (Record.renamed rename)
  registry := graph.registry.renamed rename
  closed entry member := by
    obtain ⟨original, present, rfl⟩ := List.mem_map.mp member
    rw [List.length_map]
    exact graph.closed original present

def Description.renamed (rename : Renaming) (description : Description) : Description :=
  { description with id := rename description.id }

def DescriptionError.renamed (rename : Renaming) : DescriptionError → DescriptionError
  | .notFound id => .notFound (rename id)
  | .notNameable id => .notNameable (rename id)

namespace Lookup

variable {rename : Renaming} {first second : Lookup}
  (related : ∀ id, second (rename id) = (first id).map (Record.renamed rename))

include related

theorem device?_property_renamed (link : Option Int) (property : DeviceProperty) :
    (second.device? (link.map rename)).bind (Device.property · property) =
      (first.device? link).bind (Device.property · property) := by
  cases link with
  | none => rfl
  | some target =>
      simp only [device?, Option.map_some, Option.bind_some, related]
      cases first target with
      | none => rfl
      | some record => cases record <;> cases property <;> rfl

theorem client?_property_renamed (link : Option Int) (property : ClientProperty) :
    (second.client? (link.map rename)).bind (Client.property · property) =
      (first.client? link).bind (Client.property · property) := by
  cases link with
  | none => rfl
  | some target =>
      simp only [client?, Option.map_some, Option.bind_some, related]
      cases first target with
      | none => rfl
      | some record => cases record <;> cases property <;> rfl

end Lookup

namespace Record

variable {rename : Renaming}

@[simp] theorem id_renamed (record : Record) : (record.renamed rename).id = rename record.id := by
  cases record <;> rfl

@[simp] theorem kind_renamed (record : Record) : (record.renamed rename).kind = record.kind := by
  cases record <;> rfl

theorem category_renamed (record : Record) :
    (record.renamed rename).category = record.category := by
  cases record with
  | device device => rfl
  | node node => exact category_eq_of_mediaClass rfl
  | client client => rfl

theorem ownName_renamed (record : Record) : (record.renamed rename).ownName = record.ownName := by
  cases record <;> rfl

theorem tagValue_renamed {first second : Lookup}
    (related : ∀ id, second (rename id) = (first id).map (Record.renamed rename))
    (record : Record) (tag : Tag) :
    (record.renamed rename).tagValue second tag = record.tagValue first tag := by
  cases record with
  | device device => cases tag with
    | device property => cases property <;> rfl
    | node property => rfl
    | client property => rfl
  | node node =>
      refine tagValue_node_congr ?_ (Lookup.device?_property_renamed related node.deviceId)
        (Lookup.client?_property_renamed related node.clientId) tag
      intro property
      cases property <;> rfl
  | client client => cases tag with
    | device property => rfl
    | node property => rfl
    | client property => cases property <;> rfl

end Record

namespace Graph

theorem get?_renamed (rename : Renaming) (graph : Graph) (id : Int) :
    (graph.renamed rename).get? (rename id) = (graph.get? id).map (Record.renamed rename) := by
  have held : (graph.renamed rename).ref? (rename id) = graph.ref? id :=
    graph.registry.get?_renamed rename id
  have loaded (ref : Ref) :
      (graph.renamed rename).load? ref = (graph.load? ref).map (Record.renamed rename) :=
    List.getElem?_map
  rw [get?, get?, held, Option.map_bind, funext loaded]
  rfl

theorem describeRecord_renamed (rename : Renaming) (graph : Graph) (names : Names)
    (record : Record) :
    ((graph.renamed rename).catalog.describeRecord names (record.renamed rename)).outcome =
      ((graph.catalog.describeRecord names record).outcome.map
        (Description.renamed rename)).mapError (DescriptionError.renamed rename) := by
  by_cases nameable : record.kind = .client
  · cases record with
    | device device => contradiction
    | node node => contradiction
    | client client => rfl
  · have related (id : Int) : (graph.renamed rename).catalog.get? (rename id) =
        (graph.catalog.get? id).map (Record.renamed rename) := by
      rw [get?_catalog, get?_catalog, get?_renamed]
    obtain ⟨resolution, explained, renamed⟩ := Names.resolveAlike_of_tagValue nameable
      record.category_renamed.symm record.ownName_renamed.symm
      (fun tag => (record.tagValue_renamed related tag).symm) names
    rw [Catalog.describeRecord, Catalog.describeRecord, Logged.outcome_bind, Logged.outcome_bind,
      Logged.outcome_mapError, Logged.outcome_mapError, explained, renamed, Record.id_renamed,
      Record.kind_renamed]
    rfl

theorem describe_renamed (rename : Renaming) (graph : Graph) (names : Names) (id : Int) :
    ((graph.renamed rename).catalog.describe names (rename id)).outcome =
      ((graph.catalog.describe names id).outcome.map
        (Description.renamed rename)).mapError (DescriptionError.renamed rename) := by
  rw [Catalog.describe, Catalog.describe, get?_catalog, get?_catalog, get?_renamed]
  cases graph.get? id with
  | none => rfl
  | some record => exact describeRecord_renamed rename graph names record

end Graph

end Nameplate
