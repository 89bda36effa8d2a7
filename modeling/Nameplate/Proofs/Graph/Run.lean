import Nameplate.Graph.Run
import Nameplate.Proofs.IdMap.Entries

/-!
What an operation does to a graph.

It is told by two views of the graph: the reference under an id, and the record
behind a reference.
-/

namespace Nameplate

namespace Graph

variable {graph : Graph} {ref other : Ref} {record : Record} {id : Int}

/-- Every registered reference leads to an object. -/
theorem load?_exists (held : graph.ref? id = some ref) :
    ∃ record, graph.load? ref = some record := by
  have entry : (id, ref) ∈ graph.registry.entries := IdMap.get?_eq_some_iff.mp held
  exact ⟨_, List.getElem?_eq_getElem (graph.closed _ entry)⟩

theorem get?_catalog (graph : Graph) (id : Int) : graph.catalog.get? id = graph.get? id :=
  IdMap.get?_filterMap graph.registry graph.load? id

theorem ids_catalog (graph : Graph) : graph.catalog.ids = graph.registry.ids :=
  IdMap.ids_filterMap fun _ member => load?_exists (IdMap.get?_eq_some_iff.mpr member)

theorem sortedIds_catalog (graph : Graph) : graph.catalog.sortedIds = graph.registry.sortedIds := by
  rw [IdMap.sortedIds, IdMap.sortedIds, ids_catalog]

theorem load?_store (loaded : graph.load? ref = some record) (stored : Record) :
    (graph.store ref stored).load? ref = some stored :=
  List.getElem?_set_self (index_lt_of_load? loaded)

theorem load?_store_other (differs : other ≠ ref) (stored : Record) :
    (graph.store ref stored).load? other = graph.load? other := by
  have apart : ref.index ≠ other.index := by
    rintro same
    apply differs
    cases ref
    cases other
    exact congrArg Ref.mk same.symm
  exact List.getElem?_set_ne apart

theorem load?_extend (loaded : graph.load? ref = some record) (records : List Record) :
    (graph.extend records).load? ref = some record := by
  rw [← loaded]
  exact List.getElem?_append_left (index_lt_of_load? loaded)

theorem put_of_load?_eq_none (missing : graph.load? ref = none) : graph.put ref = graph := by
  unfold put
  split
  · rfl
  · rename_i loaded
    rw [missing] at loaded
    contradiction

theorem ref?_put (loaded : graph.load? ref = some record) (id : Int) :
    (graph.put ref).ref? id = if record.id = id then some ref else graph.ref? id := by
  unfold put
  split
  · rename_i missing
    rw [loaded] at missing
    contradiction
  · rename_i found present
    obtain rfl : record = found := Option.some.inj (loaded.symm.trans present)
    exact IdMap.get?_insert graph.registry record.id id ref

theorem load?_put (graph : Graph) (ref other : Ref) :
    (graph.put ref).load? other = graph.load? other := by
  unfold put
  split <;> rfl

theorem registry_put (loaded : graph.load? ref = some record) :
    (graph.put ref).registry = graph.registry.insert record.id ref := by
  unfold put
  split
  · rename_i missing
    rw [loaded] at missing
    contradiction
  · rename_i found present
    obtain rfl : record = found := Option.some.inj (loaded.symm.trans present)
    rfl

theorem load?_foldl_put (graph : Graph) (refs : List Ref) (other : Ref) :
    (refs.foldl put graph).load? other = graph.load? other := by
  induction refs generalizing graph with
  | nil => rfl
  | cons ref rest inductionHypothesis =>
      rw [List.foldl_cons, inductionHypothesis, load?_put]

/-- Objects that are registered one after another are filed under the ids that
they carry. -/
theorem registry_foldl_put (graph : Graph) (refs : List Ref) :
    (refs.foldl put graph).registry =
      (graph.identified refs).foldl (fun map pair => map.insert pair.1 pair.2) graph.registry := by
  induction refs generalizing graph with
  | nil => rfl
  | cons ref rest inductionHypothesis =>
      have carried : (graph.put ref).identified rest = graph.identified rest := by
        simp only [identified, load?_put]
      rw [List.foldl_cons, inductionHypothesis, carried, identified, identified]
      cases loaded : graph.load? ref with
      | none => rw [put_of_load?_eq_none loaded, List.filterMap_cons, loaded, Option.map_none]
      | some record =>
          rw [registry_put loaded, List.filterMap_cons, loaded, Option.map_some, List.foldl_cons]

theorem ref?_remove (graph : Graph) (removed id : Int) :
    (graph.remove removed).ref? id = if removed = id then none else graph.ref? id :=
  IdMap.get?_erase graph.registry removed id

/-- An update that is not refused found an object under the id which has every
property that is given. -/
theorem update_cases {changes : List Change} {next : Graph}
    (updated : graph.update id changes = .ok next) :
    ∃ ref record, graph.ref? id = some ref ∧ graph.load? ref = some record ∧
      (∀ change ∈ changes, record.hasProperty change.key = true) ∧
      next = graph.store ref (record.assignAll changes) := by
  unfold update at updated
  split at updated
  · contradiction
  split at updated
  · contradiction
  rename_i ref held
  split at updated
  · contradiction
  rename_i record loaded
  split at updated
  · contradiction
  rename_i known
  cases updated
  refine ⟨ref, record, held, loaded, ?_, rfl⟩
  intro change member
  simpa using List.find?_eq_none.mp known change member

theorem assign_cases {change : Change} {next : Graph}
    (assigned : graph.assign ref change = .ok next) :
    (graph.load? ref = none ∧ next = graph) ∨
      ∃ record changed, graph.load? ref = some record ∧ record.assign? change = some changed ∧
        next = graph.store ref changed := by
  unfold assign at assigned
  split at assigned
  · rename_i missing
    cases assigned
    exact .inl ⟨missing, rfl⟩
  rename_i record loaded
  split at assigned
  · contradiction
  rename_i changed present
  cases assigned
  exact .inr ⟨record, changed, loaded, present, rfl⟩

theorem outcome_registerAll {ε : Type} (graph : Graph) (refs : List Ref) :
    (graph.registerAll refs : Logged ε Graph).outcome = .ok (refs.foldl put graph) := by
  induction refs generalizing graph with
  | nil => rfl
  | cons ref rest inductionHypothesis =>
      rw [registerAll, Logged.outcome_bind]
      exact inductionHypothesis (graph.put ref)

end Graph

end Nameplate
