import Nameplate.Description
import Nameplate.Proofs.Graph.Keys
import Nameplate.Proofs.Resolution.Precedence
import Nameplate.Settings

/-!
Describing everything and describing one id at a time.

Describing an id comes to one of three things: the id is not there, it holds a
client, or there is a description.  The descriptions of everything are those of
the ids that hold no client, in ascending order of the ids.  They are filed
under the ids that the objects carry, so the names that are shown for all are
complete as long as every object carries the id under which it is found.
-/

namespace Nameplate

theorem Record.category?_isSome_iff {record : Record} :
    record.category?.isSome = true ↔ record.kind ≠ .client := by
  cases record <;> simp [category?, kind]

namespace Catalog

/-- Whether an id is that of a client. -/
def holdsClient (catalog : Catalog) (id : Int) : Bool :=
  (catalog.get? id).any fun record => record.kind = .client

def nameableIds (catalog : Catalog) : List Int :=
  catalog.sortedIds.filter fun id => !catalog.holdsClient id

variable {catalog : Catalog} {record : Record} {id : Int} {names : Names}

theorem describe_of_get? (found : catalog.get? id = some record) (names : Names) :
    catalog.describe names id = catalog.describeRecord names record := by
  rw [describe, found]

theorem describeRecord_client (catalog : Catalog) (names : Names) (client : Client) :
    (catalog.describeRecord names (.client client)).outcome = .error (.notNameable client.id) := rfl

theorem describeRecord_nameable (nameable : record.kind ≠ .client) (catalog : Catalog)
    (names : Names) :
    ∃ resolution, (catalog.describeRecord names record).outcome =
      .ok ⟨record.id, record.kind, resolution⟩ := by
  obtain ⟨category, categorized⟩ := Record.category_exists nameable
  have explained := Record.explain_of_category categorized catalog.get? names
  rw [describeRecord, Logged.outcome_bind, Logged.outcome_mapError, explained]
  exact ⟨_, rfl⟩

/-- What describing an id comes to. -/
theorem describe_cases (catalog : Catalog) (names : Names) (id : Int) :
    (catalog.get? id = none ∧ (catalog.describe names id).outcome = .error (.notFound id)) ∨
    (∃ client, catalog.get? id = some (.client client) ∧
      (catalog.describe names id).outcome = .error (.notNameable client.id)) ∨
    ∃ record resolution, catalog.get? id = some record ∧ record.kind ≠ .client ∧
      (catalog.describe names id).outcome = .ok ⟨record.id, record.kind, resolution⟩ := by
  cases found : catalog.get? id with
  | none => exact .inl ⟨rfl, by rw [describe, found]; rfl⟩
  | some record =>
      rw [describe_of_get? found]
      by_cases isClient : record.kind = .client
      · cases record with
        | device device => contradiction
        | node node => contradiction
        | client client => exact .inr (.inl ⟨client, rfl, describeRecord_client catalog names client⟩)
      · obtain ⟨resolution, described⟩ := describeRecord_nameable isClient catalog names
        exact .inr (.inr ⟨record, resolution, rfl, isClient, described⟩)

/-- A description carries the resolution of the object that is found. -/
theorem describe_eq_ok_iff {description : Description} :
    (catalog.describe names id).outcome = .ok description ↔
      ∃ record category, catalog.get? id = some record ∧ record.category = .ok category ∧
        description = ⟨record.id, record.kind,
          names.resolve category (record.tagValue catalog.get?) record.ownName⟩ := by
  cases found : catalog.get? id with
  | none => simp [describe, found]
  | some record =>
      rw [describe_of_get? found]
      by_cases isClient : record.kind = .client
      · cases record with
        | device device => contradiction
        | node node => contradiction
        | client client => simp [describeRecord_client, Record.category, Record.category?]
      · obtain ⟨category, categorized⟩ := Record.category_exists isClient
        rw [describeRecord, Logged.outcome_bind, Logged.outcome_mapError,
          Record.explain_of_category categorized, mapError_ok, ok_bind]
        simp [categorized, eq_comm]

theorem holdsClient_of_get? (found : catalog.get? id = some record) :
    catalog.holdsClient id = decide (record.kind = .client) := by
  rw [holdsClient, found, Option.any_some]

/-- An unknown id is not found, a client is refused, and everything else is
described. -/
theorem describe_outcome_iff (catalog : Catalog) (names : Names) (id : Int) :
    ((∃ missing, (catalog.describe names id).outcome = .error (.notFound missing)) ↔
      catalog.contains id = false) ∧
    ((∃ carried, (catalog.describe names id).outcome = .error (.notNameable carried)) ↔
      catalog.holdsClient id = true) ∧
    ((∃ description, (catalog.describe names id).outcome = .ok description) ↔
      catalog.contains id = true ∧ catalog.holdsClient id = false) := by
  rw [IdMap.contains_eq_isSome]
  rcases catalog.describe_cases names id with
    ⟨found, missing⟩ | ⟨client, found, refused⟩ | ⟨record, resolution, found, nameable, described⟩
  · have noClient : catalog.holdsClient id = false := by rw [holdsClient, found, Option.any_none]
    simp [missing, found, noClient]
  · simp [refused, found, holdsClient_of_get? found, Record.kind]
  · simp [described, found, holdsClient_of_get? found, nameable]

theorem mem_nameableIds_iff :
    id ∈ catalog.nameableIds ↔ ∃ record, catalog.get? id = some record ∧ record.kind ≠ .client := by
  rw [nameableIds, List.mem_filter, IdMap.mem_sortedIds_iff, IdMap.mem_ids_iff]
  constructor
  · rintro ⟨⟨record, found⟩, kept⟩
    rw [holdsClient_of_get? found] at kept
    exact ⟨record, found, by simpa using kept⟩
  · rintro ⟨record, found, nameable⟩
    refine ⟨⟨record, found⟩, ?_⟩
    rw [holdsClient_of_get? found]
    simpa using nameable

theorem pairwise_nameableIds (catalog : Catalog) : catalog.nameableIds.Pairwise (· < ·) :=
  catalog.pairwise_sortedIds.filter _

/-- Looking up ids and leaving out clients is the same as leaving out the ids of
clients. -/
theorem filter_filterMap_get? (catalog : Catalog) {ids : List Int}
    (present : ∀ id ∈ ids, id ∈ catalog.ids) :
    ((ids.filterMap catalog.get?).filter fun record => record.category?.isSome).map
        (fun record => (catalog.describeRecord names record).outcome) =
      (ids.filter fun id => !catalog.holdsClient id).map fun id =>
        (catalog.describe names id).outcome := by
  induction ids with
  | nil => rfl
  | cons id rest inductionHypothesis =>
      obtain ⟨record, found⟩ := IdMap.mem_ids_iff.mp (present id List.mem_cons_self)
      have later := inductionHypothesis fun other member =>
        present other (List.mem_cons_of_mem _ member)
      have kept : record.category?.isSome = !catalog.holdsClient id := by
        rw [holdsClient_of_get? found, Bool.eq_iff_iff, Record.category?_isSome_iff]
        simp
      rw [List.filterMap_cons, found, List.filter_cons, List.filter_cons, kept]
      split
      · rw [List.map_cons, List.map_cons, later, describe_of_get? found]
      · exact later

/-- Counting the descriptions without a name does not change them. -/
theorem describeAll_outcome (catalog : Catalog) (names : Names) :
    (catalog.describeAll names).outcome =
      catalog.nameable.mapM fun record => (catalog.describeRecord names record).outcome := by
  rw [describeAll, Logged.outcome_bind, Logged.outcome_forEach]
  cases catalog.nameable.mapM fun record => (catalog.describeRecord names record).outcome with
  | error error => rfl
  | ok descriptions =>
      change Logged.outcome (ite _ _ _) = _
      split <;> rfl

theorem describeAll_exists (catalog : Catalog) (names : Names) :
    ∃ descriptions, (catalog.describeAll names).outcome = .ok descriptions ∧
      (catalog.nameableIds.map fun id => (catalog.describe names id).outcome) =
        descriptions.map .ok := by
  have described : ∀ id ∈ catalog.nameableIds,
      ∃ description, (catalog.describe names id).outcome = .ok description := by
    intro id member
    obtain ⟨record, found, nameable⟩ := mem_nameableIds_iff.mp member
    obtain ⟨resolution, described⟩ := describeRecord_nameable nameable catalog names
    exact ⟨_, by rw [describe_of_get? found, described]⟩
  obtain ⟨descriptions, listed⟩ := exists_map_ok described
  refine ⟨descriptions, ?_, listed⟩
  rw [describeAll_outcome, mapM_eq_ok_iff, nameable, filter_filterMap_get?, ← listed, nameableIds]
  exact fun id member => IdMap.mem_sortedIds_iff.mp member

theorem KeysMatch.id_of_describe (matched : catalog.KeysMatch) {description : Description}
    (described : (catalog.describe names id).outcome = .ok description) : description.id = id := by
  rcases catalog.describe_cases names id with ⟨_, missing⟩ | ⟨_, _, client⟩ | ⟨record, _, found, _, ok⟩
  · rw [missing] at described
    contradiction
  · rw [client] at described
    contradiction
  · rw [ok] at described
    cases described
    exact matched id record found

/-- Descriptions carry the ids that were asked for, in their order. -/
theorem KeysMatch.ids_of_describe (matched : catalog.KeysMatch) {ids : List Int}
    {descriptions : List Description}
    (listed : (ids.map fun id => (catalog.describe names id).outcome) = descriptions.map .ok) :
    descriptions.map Description.id = ids := by
  have each : ∀ id ∈ ids,
      ((catalog.describe names id).outcome.map Description.id) = .ok id := by
    intro id member
    obtain ⟨description, _, described⟩ := List.mem_map.mp (listed ▸ List.mem_map_of_mem member)
    rw [← described, Except.map, matched.id_of_describe described.symm]
  apply (List.map_inj_right fun _ _ same => Except.ok.inj same).mp
  calc (descriptions.map Description.id).map (Except.ok : Int → Except DescriptionError Int)
      = (descriptions.map .ok).map (Except.map Description.id) := by
        rw [List.map_map, List.map_map]
        rfl
    _ = ids.map fun id => (catalog.describe names id).outcome.map Description.id := by
        rw [← listed, List.map_map]
        rfl
    _ = ids.map .ok := List.map_congr_left each

theorem KeysMatch.displayNames_exists (matched : catalog.KeysMatch) (names : Names) :
    ∃ shown, (catalog.displayNames names).outcome = .ok shown ∧ shown.ids = catalog.nameableIds ∧
      ∀ id name, shown.get? id = some name ↔
        (catalog.describe names id).outcome.map Description.name = .ok name := by
  obtain ⟨descriptions, described, listed⟩ := catalog.describeAll_exists names
  have carried := matched.ids_of_describe listed
  have keys : (descriptions.map fun description => (description.id, description.name)).map Prod.fst =
      catalog.nameableIds := by
    rw [List.map_map]
    exact carried
  have distinct : (catalog.nameableIds).Nodup :=
    catalog.pairwise_nameableIds.imp fun ordered => Int.ne_of_lt ordered
  have stored := IdMap.entries_ofList (keys ▸ distinct)
  refine ⟨IdMap.ofList (descriptions.map fun description => (description.id, description.name)),
    ?_, ?_, ?_⟩
  · rw [displayNames, Logged.outcome_bind, described]
    rfl
  · rw [IdMap.ids, stored, keys]
  · intro id name
    rw [IdMap.get?_eq_some_iff, stored, List.mem_map]
    constructor
    · rintro ⟨description, member, same⟩
      cases same
      have answered : .ok description ∈
          catalog.nameableIds.map fun id => (catalog.describe names id).outcome :=
        listed ▸ List.mem_map_of_mem member
      obtain ⟨id, _, found⟩ := List.mem_map.mp answered
      rw [matched.id_of_describe found, found]
      rfl
    · intro shown
      rcases catalog.describe_cases names id with
        ⟨_, missing⟩ | ⟨_, _, client⟩ | ⟨record, resolution, found, nameable, answered⟩
      · rw [missing] at shown
        contradiction
      · rw [client] at shown
        contradiction
      · have member : id ∈ catalog.nameableIds := mem_nameableIds_iff.mpr ⟨record, found, nameable⟩
        obtain ⟨description, included, same⟩ :=
          List.mem_map.mp (listed ▸ List.mem_map_of_mem member)
        refine ⟨description, included, ?_⟩
        rw [← same] at shown
        rw [matched.id_of_describe same.symm, Except.ok.inj shown]

end Catalog

namespace Graph

theorem KeysMatch.catalog {graph : Graph} (matched : graph.KeysMatch) :
    graph.catalog.KeysMatch := by
  intro id record found
  rw [get?_catalog] at found
  obtain ⟨ref, held, loaded⟩ := Option.bind_eq_some_iff.mp found
  exact matched.id_eq held loaded

theorem describeAll_eq_describe (graph : Graph) (settings : Settings) :
    (graph.registry.sortedIds.Pairwise (· < ·) ∧
      ∀ id, id ∈ graph.registry.sortedIds ↔ graph.registry.contains id = true) ∧
    (∃ descriptions, (graph.catalog.describeAll settings.names).outcome = .ok descriptions ∧
      ((graph.registry.sortedIds.filter fun id => !graph.catalog.holdsClient id).map fun id =>
        (graph.catalog.describe settings.names id).outcome) = descriptions.map .ok) ∧
    (∀ id,
      ((∃ missing, (graph.catalog.describe settings.names id).outcome =
          .error (.notFound missing)) ↔ graph.registry.contains id = false) ∧
      ((∃ carried, (graph.catalog.describe settings.names id).outcome =
          .error (.notNameable carried)) ↔ graph.catalog.holdsClient id = true) ∧
      ((∃ description, (graph.catalog.describe settings.names id).outcome = .ok description) ↔
        graph.registry.contains id = true ∧ graph.catalog.holdsClient id = false)) ∧
    (graph.KeysMatch → ∃ shown, (graph.catalog.displayNames settings.names).outcome = .ok shown ∧
      shown.ids = graph.registry.sortedIds.filter (fun id => !graph.catalog.holdsClient id) ∧
      ∀ id name, shown.get? id = some name ↔
        (graph.catalog.describe settings.names id).outcome.map Description.name = .ok name) := by
  have contained (id : Int) : graph.registry.contains id = graph.catalog.contains id := by
    rw [IdMap.contains, IdMap.contains, ids_catalog]
  simp only [← sortedIds_catalog, contained]
  refine ⟨⟨graph.catalog.pairwise_sortedIds, ?_⟩, graph.catalog.describeAll_exists settings.names,
    graph.catalog.describe_outcome_iff settings.names,
    fun matched => matched.catalog.displayNames_exists settings.names⟩
  intro id
  rw [IdMap.mem_sortedIds_iff, IdMap.contains_iff]

/-- Objects that are registered in no order of their ids, one of them a client
and one of them without any name. -/
def unsorted : Graph :=
  (Graph.empty.extend [.device ⟨9, some "card", none, none⟩, .client ⟨7, some "player", none⟩,
    .node ⟨0, none, none, none, none, none, some 9, some 7⟩,
    .node ⟨-3, some "mic", none, none, none, none, none, none⟩]).replaceAll [⟨0⟩, ⟨1⟩, ⟨2⟩, ⟨3⟩]

theorem describeAll_eq_describe_unsorted :
    unsorted.KeysMatch ∧
      ∃ shown, (unsorted.catalog.displayNames Settings.default.names).outcome = .ok shown ∧
        shown.ids = [-3, 0, 9] ∧ shown.get? (-3) = some (some "mic") ∧
        shown.get? 0 = some none := by
  have matched : unsorted.KeysMatch := .replaceAll _ _
  obtain ⟨_, _, _, complete⟩ := unsorted.describeAll_eq_describe Settings.default
  obtain ⟨shown, answered, ids, names⟩ := complete matched
  have ascending : (unsorted.registry.sortedIds.filter fun id =>
      !unsorted.catalog.holdsClient id) = [-3, 0, 9] := by
    have registered : unsorted.registry.ids = [9, 7, 0, -3] := rfl
    have sorted : unsorted.registry.sortedIds = [-3, 0, 7, 9] := by
      simp [IdMap.sortedIds, registered, List.mergeSort]
    rw [sorted]
    rfl
  exact ⟨matched, shown, answered, ids.trans ascending, (names _ _).mpr rfl, (names _ _).mpr rfl⟩

end Graph

end Nameplate
