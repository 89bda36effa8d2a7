import Nameplate.Proofs.Graph.Run
import Nameplate.Snapshot

/-!
The keys of a registry are the ids of its objects.

An object gets its id when it is made.  Registering files an object under the id
that it carries, an update refuses to set an id, and the loader of snapshots
files every record under its own id.  So only an assignment to an id can part an
object from its key, and without one no run does.
-/

namespace Nameplate

namespace Record

theorem key_ne_id_of_hasProperty {record : Record} {key : String}
    (found : record.hasProperty key = true) : key ≠ "id" := by
  rintro rfl
  cases record <;> contradiction

theorem id_of_assign? {record changed : Record} {change : Change}
    (assigned : record.assign? change = some changed) (notId : change.key ≠ "id") :
    changed.id = record.id := by
  cases change with
  | id value => exact absurd rfl notId
  | text field value =>
      cases record <;> cases field <;> cases assigned <;> rfl
  | link field value =>
      cases record <;> cases field <;> cases assigned <;> rfl
  | other key => contradiction

theorem id_assignAll {record : Record} {changes : List Change}
    (notIds : ∀ change ∈ changes, change.key ≠ "id") :
    (record.assignAll changes).id = record.id := by
  rw [assignAll]
  induction changes generalizing record with
  | nil => rfl
  | cons change rest inductionHypothesis =>
      have later : ∀ other ∈ rest, other.key ≠ "id" :=
        fun other member => notIds other (List.mem_cons_of_mem _ member)
      rw [List.foldl_cons, inductionHypothesis later]
      cases assigned : record.assign? change with
      | none => rfl
      | some changed => exact id_of_assign? assigned (notIds change List.mem_cons_self)

end Record

/-- Every record is found under the id that it carries. -/
def Catalog.KeysMatch (catalog : Catalog) : Prop :=
  ∀ id record, catalog.get? id = some record → record.id = id

theorem Catalog.keysMatch_empty : Catalog.KeysMatch IdMap.empty := by
  intro id record impossible
  contradiction

theorem Catalog.KeysMatch.insert {catalog : Catalog} (matched : catalog.KeysMatch)
    (record : Record) : Catalog.KeysMatch (IdMap.insert catalog record.id record) := by
  intro id other found
  rw [IdMap.get?_insert] at found
  split at found
  · rename_i same
    cases found
    exact same
  · exact matched id other found

namespace Snapshot

theorem keysMatch_addRecords {kind : Kind} {documents : List Document} {catalog next : Catalog}
    {position : Nat} (matched : catalog.KeysMatch)
    (added : (addRecords kind catalog position documents).outcome = .ok next) :
    next.KeysMatch := by
  induction documents generalizing catalog position with
  | nil =>
      cases added
      exact matched
  | cons document rest inductionHypothesis =>
      rw [addRecords, Logged.outcome_bind_eq_ok_iff] at added
      obtain ⟨record, _, added⟩ := added
      split at added
      · contradiction
      · exact inductionHypothesis (matched.insert record) added

theorem keysMatch_addSections {members : List (String × Document)} {kinds : List Kind}
    {catalog next : Catalog} (matched : catalog.KeysMatch)
    (added : (addSections members catalog kinds).outcome = .ok next) : next.KeysMatch := by
  induction kinds generalizing catalog with
  | nil =>
      cases added
      exact matched
  | cons kind rest inductionHypothesis =>
      rw [addSections, Logged.outcome_bind_eq_ok_iff] at added
      obtain ⟨current, first, added⟩ := added
      rw [addSection] at first
      split at first
      · exact inductionHypothesis (keysMatch_addRecords matched first) added
      · contradiction

theorem keysMatch_ofDocument {document : Document} {catalog : Catalog}
    (read : (ofDocument document).outcome = .ok catalog) : catalog.KeysMatch := by
  unfold ofDocument at read
  split at read
  · obtain ⟨found, added, read⟩ := Logged.outcome_bind_eq_ok_iff.mp read
    obtain ⟨_, _, read⟩ := Logged.outcome_bind_eq_ok_iff.mp read
    obtain ⟨_, _, read⟩ := Logged.outcome_bind_eq_ok_iff.mp read
    cases read
    exact keysMatch_addSections Catalog.keysMatch_empty added
  · contradiction

end Snapshot

namespace Graph

/-- Every id of the registry holds an object that carries this id. -/
def KeysMatch (graph : Graph) : Prop :=
  ∀ id ref, graph.ref? id = some ref →
    ∃ record, graph.load? ref = some record ∧ record.id = id

namespace KeysMatch

variable {graph : Graph} {ref : Ref} {record : Record}

theorem id_eq (matched : graph.KeysMatch) {id : Int} (held : graph.ref? id = some ref)
    (loaded : graph.load? ref = some record) : record.id = id := by
  obtain ⟨found, present, carried⟩ := matched id ref held
  rw [loaded] at present
  cases present
  exact carried

theorem extend (matched : graph.KeysMatch) (records : List Record) :
    (graph.extend records).KeysMatch := by
  intro id ref held
  obtain ⟨record, loaded, carried⟩ := matched id ref held
  exact ⟨record, load?_extend loaded records, carried⟩

theorem put (matched : graph.KeysMatch) (ref : Ref) : (graph.put ref).KeysMatch := by
  cases loaded : graph.load? ref with
  | none =>
      rw [put_of_load?_eq_none loaded]
      exact matched
  | some record =>
      intro id held found
      rw [ref?_put loaded] at found
      rw [load?_put]
      split at found
      · rename_i carried
        cases found
        exact ⟨record, loaded, carried⟩
      · exact matched id held found

theorem foldl_put (matched : graph.KeysMatch) (refs : List Ref) :
    (refs.foldl Graph.put graph).KeysMatch := by
  induction refs generalizing graph with
  | nil => exact matched
  | cons ref rest inductionHypothesis => exact inductionHypothesis (matched.put ref)

theorem replaceAll (graph : Graph) (refs : List Ref) : (graph.replaceAll refs).KeysMatch := by
  intro id ref held
  have entry := IdMap.mem_entries_ofList (IdMap.get?_eq_some_iff.mp held)
  obtain ⟨given, _, made⟩ := List.mem_filterMap.mp entry
  obtain ⟨record, loaded, same⟩ := Option.map_eq_some_iff.mp made
  cases same
  exact ⟨record, loaded, rfl⟩

theorem remove (matched : graph.KeysMatch) (removed : Int) : (graph.remove removed).KeysMatch := by
  intro id ref held
  rw [ref?_remove] at held
  split at held
  · contradiction
  · exact matched id ref held

theorem clear (graph : Graph) : graph.clear.KeysMatch := by
  intro id ref impossible
  contradiction

/-- New objects are registered in the order of the entries that they come
from. -/
theorem adopt (graph : Graph) {catalog : Catalog} (matched : catalog.KeysMatch) :
    (graph.adopt catalog).KeysMatch := by
  intro id ref held
  have entry := IdMap.mem_entries_ofList (IdMap.get?_eq_some_iff.mp held)
  obtain ⟨position, placed⟩ := List.mem_iff_getElem?.mp entry
  obtain ⟨named, made⟩ := List.getElem?_zip_eq_some.mp placed
  rw [IdMap.ids, List.getElem?_map, Option.map_eq_some_iff] at named
  obtain ⟨⟨key, record⟩, present, rfl⟩ := named
  have valued : catalog.values[position]? = some record := by
    rw [IdMap.values, List.getElem?_map, present, Option.map_some]
  have bound : position < catalog.values.length := (List.getElem?_eq_some_iff.mp valued).1
  have isNew : (⟨graph.cells.length + position⟩ : Ref) = ref := by
    simpa [newRefs, List.getElem?_range bound] using made
  refine ⟨record, ?_, matched _ _ (IdMap.get?_eq_some_iff.mpr (List.mem_of_getElem? present))⟩
  change (graph.cells ++ catalog.values)[ref.index]? = some record
  rw [← isNew, List.getElem?_append_right (Nat.le_add_right _ _), Nat.add_sub_cancel_left, valued]

theorem store (matched : graph.KeysMatch) (loaded : graph.load? ref = some record)
    {changed : Record} (sameId : changed.id = record.id) : (graph.store ref changed).KeysMatch := by
  intro id held found
  by_cases same : held = ref
  · subst same
    refine ⟨changed, load?_store loaded changed, ?_⟩
    rw [sameId]
    exact matched.id_eq found loaded
  · rw [load?_store_other same]
    exact matched id held found

theorem update (matched : graph.KeysMatch) {id : Int} {changes : List Change} {next : Graph}
    (updated : graph.update id changes = .ok next) : next.KeysMatch := by
  obtain ⟨ref, record, _, loaded, known, rfl⟩ := update_cases updated
  refine matched.store loaded (Record.id_assignAll ?_)
  exact fun change member => Record.key_ne_id_of_hasProperty (known change member)

theorem assign (matched : graph.KeysMatch) {change : Change} {next : Graph}
    (assigned : graph.assign ref change = .ok next) (notId : change.key ≠ "id") :
    next.KeysMatch := by
  rcases assign_cases assigned with ⟨_, rfl⟩ | ⟨record, changed, loaded, present, rfl⟩
  · exact matched
  · exact matched.store loaded (Record.id_of_assign? present notId)

end KeysMatch

end Graph

/-- Whether an operation assigns nothing to an id. -/
def Operation.KeepsIds : Operation → Prop
  | .assign _ change => change.key ≠ "id"
  | _ => True

namespace Graph

theorem KeysMatch.perform {graph : Graph} (matched : graph.KeysMatch) {operation : Operation}
    (keeps : operation.KeepsIds) : (graph.perform operation).KeysMatch := by
  unfold Graph.perform
  split
  · rename_i next performed
    cases operation with
    | make record =>
        cases performed
        exact matched.extend [record]
    | register ref =>
        cases performed
        exact matched.put ref
    | registerAll refs =>
        rw [Operation.outcome, outcome_registerAll] at performed
        cases performed
        exact matched.foldl_put refs
    | replace refs =>
        cases performed
        exact .replaceAll graph refs
    | remove id =>
        cases performed
        exact matched.remove id
    | update id changes => exact matched.update performed
    | clear =>
        cases performed
        exact .clear graph
    | assign ref change => exact matched.assign performed keeps
  · exact matched

theorem KeysMatch.run {graph : Graph} (matched : graph.KeysMatch) {operations : List Operation}
    (keep : ∀ operation ∈ operations, operation.KeepsIds) : (graph.run operations).KeysMatch := by
  induction operations generalizing graph with
  | nil => exact matched
  | cons operation rest inductionHypothesis =>
      have performed := matched.perform (keep operation List.mem_cons_self)
      exact inductionHypothesis performed fun other member =>
        keep other (List.mem_cons_of_mem _ member)

/-- Where runs start: at the empty registry, or at the registry that a snapshot
was loaded into. -/
inductive Initial : Graph → Prop where
  | empty : Initial Graph.empty
  | loaded (graph : Graph) {document : Document} {catalog : Catalog}
      (read : (Snapshot.ofDocument document).outcome = .ok catalog) :
      Initial (graph.adopt catalog)

theorem Initial.keysMatch {graph : Graph} (initial : graph.Initial) : graph.KeysMatch := by
  cases initial with
  | empty =>
      intro id ref impossible
      contradiction
  | loaded graph read => exact .adopt graph (Snapshot.keysMatch_ofDocument read)

theorem keysMatch_of_run {start : Graph} (initial : start.Initial) (operations : List Operation)
    (keep : ∀ operation ∈ operations, operation.KeepsIds) :
    (start.run operations).KeysMatch ∧
      (∀ id other ref, (start.run operations).ref? id = some ref →
        (start.run operations).ref? other = some ref → id = other) ∧
      ∀ id record, (start.run operations).get? id = some record →
        (start.run operations).get? record.id = some record := by
  have matched := initial.keysMatch.run keep
  refine ⟨matched, ?_, ?_⟩
  · intro id other ref held alsoHeld
    obtain ⟨record, loaded, carried⟩ := matched id ref held
    rw [← carried, matched.id_eq alsoHeld loaded]
  · intro id record found
    obtain ⟨ref, held, loaded⟩ := Option.bind_eq_some_iff.mp found
    rw [matched.id_eq held loaded]
    exact found

/-- A card and a node that is linked to it, loaded from a snapshot. -/
def linkedPair : Graph :=
  Graph.empty.adopt (IdMap.ofList [(40, .device ⟨40, some "card", none, none⟩),
    (51, .node ⟨51, none, none, none, none, none, some 40, none⟩)])

/-- A client takes the id of the card, the node is removed and registered again,
and an update that names the id is refused. -/
def reusingOperations : List Operation :=
  [.make (.client ⟨40, some "player", none⟩), .register ⟨2⟩, .remove 51, .registerAll [⟨1⟩, ⟨0⟩],
    .update 51 [.text .name (some "sink"), .id 7], .update 51 [.text .nick (some "front")],
    .assign ⟨1⟩ (.link .device none), .replace [⟨1⟩, ⟨0⟩, ⟨2⟩]]

theorem keysMatch_of_run_reused :
    linkedPair.Initial ∧ (∀ operation ∈ reusingOperations, operation.KeepsIds) ∧
      (linkedPair.run reusingOperations).KeysMatch ∧
      (linkedPair.run reusingOperations).registry.entries = [(51, ⟨1⟩), (40, ⟨2⟩)] := by
  have read : (Snapshot.ofDocument (.mapping [
      ("nodes", .list [.mapping [("id", .integer 51), ("device_id", .integer 40)]]),
      ("devices", .list [.mapping [("id", .integer 40), ("name", .text "card")]])])).outcome =
        .ok (IdMap.ofList [(40, .device ⟨40, some "card", none, none⟩),
          (51, .node ⟨51, none, none, none, none, none, some 40, none⟩)]) := rfl
  have initial : linkedPair.Initial := .loaded Graph.empty read
  have keep : ∀ operation ∈ reusingOperations, operation.KeepsIds := by
    simp [reusingOperations, Operation.KeepsIds, Change.key, LinkField.key]
  exact ⟨initial, keep, (keysMatch_of_run initial _ keep).1, rfl⟩

end Graph

end Nameplate
