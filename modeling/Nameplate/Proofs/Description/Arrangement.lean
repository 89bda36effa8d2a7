import Nameplate.Proofs.Description.Bulk

/-!
Names and the order of registration.

Descriptions look records up by their ids and go through all of them in ascending
order, so they depend on what each id holds and on nothing else of a catalog.
Objects with distinct ids stand in nobody's place, so in whatever order they are
registered, each id holds the same object in the end.
-/

namespace Nameplate

namespace Catalog

variable {first second : Catalog} (same : ∀ id, first.get? id = second.get? id) (names : Names)

include same

theorem describeRecord_eq_of_get?_eq (record : Record) :
    first.describeRecord names record = second.describeRecord names record := by
  rw [describeRecord, describeRecord, funext same]

theorem describe_eq_of_get?_eq (id : Int) : first.describe names id = second.describe names id := by
  rw [describe, describe, same]
  cases second.get? id with
  | none => rfl
  | some record => exact describeRecord_eq_of_get?_eq same names record

theorem describeAll_eq_of_get?_eq : first.describeAll names = second.describeAll names := by
  have nameable : first.nameable = second.nameable := by
    rw [Catalog.nameable, Catalog.nameable, IdMap.sortedIds_eq_of_get?_eq same, funext same]
  rw [describeAll, describeAll, nameable, funext (describeRecord_eq_of_get?_eq same names)]

theorem displayNames_eq_of_get?_eq : first.displayNames names = second.displayNames names := by
  rw [displayNames, displayNames, describeAll_eq_of_get?_eq same]

end Catalog

namespace Graph

/-- Two registries give the same answers about names, with the same reports. -/
structure NamesAlike (first second : Graph) (names : Names) : Prop where
  describeAll : first.catalog.describeAll names = second.catalog.describeAll names
  displayNames : first.catalog.displayNames names = second.catalog.displayNames names
  describe (id : Int) : first.catalog.describe names id = second.catalog.describe names id

theorem namesAlike_of_get?_eq {first second : Graph} (same : ∀ id, first.get? id = second.get? id)
    (names : Names) : first.NamesAlike second names := by
  have sameRecords (id : Int) : first.catalog.get? id = second.catalog.get? id := by
    rw [get?_catalog, get?_catalog, same]
  exact ⟨Catalog.describeAll_eq_of_get?_eq sameRecords names,
    Catalog.displayNames_eq_of_get?_eq sameRecords names,
    Catalog.describe_eq_of_get?_eq sameRecords names⟩

section Registration

variable {graph : Graph} {refs others : List Ref}

/-- Objects with distinct ids are all found, each under its own id. -/
theorem ref?_foldl_put_clear (distinct : ((graph.identified refs).map Prod.fst).Nodup) (id : Int)
    (ref : Ref) :
    (refs.foldl put graph.clear).ref? id = some ref ↔ (id, ref) ∈ graph.identified refs := by
  have registered : (refs.foldl put graph.clear).registry = IdMap.ofList (graph.identified refs) :=
    registry_foldl_put graph.clear refs
  rw [ref?, registered, IdMap.get?_eq_some_iff, IdMap.entries_ofList distinct]

theorem get?_foldl_put_clear_of_perm (distinct : ((graph.identified refs).map Prod.fst).Nodup)
    (arranged : refs.Perm others) (id : Int) :
    (refs.foldl put graph.clear).get? id = (others.foldl put graph.clear).get? id := by
  have identified : (graph.identified refs).Perm (graph.identified others) :=
    arranged.filterMap _
  have otherDistinct : ((graph.identified others).map Prod.fst).Nodup :=
    (identified.map Prod.fst).nodup_iff.mp distinct
  have sameRef : (refs.foldl put graph.clear).ref? id = (others.foldl put graph.clear).ref? id := by
    ext ref
    rw [ref?_foldl_put_clear distinct, ref?_foldl_put_clear otherDistinct, identified.mem_iff]
  have sameCells : (refs.foldl put graph.clear).load? = (others.foldl put graph.clear).load? := by
    funext ref
    rw [load?_foldl_put, load?_foldl_put]
  rw [get?, get?, sameRef, sameCells]

theorem run_register (graph : Graph) (refs : List Ref) :
    graph.run (refs.map .register) = refs.foldl put graph := by
  rw [run, List.foldl_map]
  rfl

theorem run_registerAll (graph : Graph) (refs : List Ref) :
    graph.run [.registerAll refs] = refs.foldl put graph := by
  rw [run, List.foldl_cons, List.foldl_nil, perform, Operation.outcome, outcome_registerAll]

end Registration

theorem namesAlike_of_arrangement (names : Names) :
    (∀ first second : Graph, (∀ id, first.get? id = second.get? id) →
      first.NamesAlike second names) ∧
    (∀ (graph : Graph) (refs others : List Ref), ((graph.identified refs).map Prod.fst).Nodup →
      refs.Perm others →
      (graph.clear.run [.registerAll refs]).NamesAlike
          (graph.clear.run [.registerAll others]) names ∧
        (graph.clear.run (refs.map .register)).NamesAlike
          (graph.clear.run (others.map .register)) names) := by
  refine ⟨fun first second same => namesAlike_of_get?_eq same names, ?_⟩
  intro graph refs others distinct arranged
  have alike := namesAlike_of_get?_eq (get?_foldl_put_clear_of_perm distinct arranged) names
  rw [run_registerAll, run_registerAll, run_register, run_register]
  exact ⟨alike, alike⟩

/-- A stream with its card and its application, and a sink whose device is unknown. -/
def scattered : Graph :=
  Graph.empty.extend [.node ⟨5, none, none, none, none, none, some 9, some 7⟩,
    .client ⟨7, some "player", none⟩, .device ⟨9, none, some "card", none⟩,
    .node ⟨0, none, none, some "out", none, some ⟨"Audio/Sink"⟩, some 8, none⟩]

theorem namesAlike_of_arrangement_scattered :
    (((scattered.identified [⟨0⟩, ⟨1⟩, ⟨2⟩, ⟨3⟩]).map Prod.fst).Nodup ∧
        [(⟨0⟩ : Ref), ⟨1⟩, ⟨2⟩, ⟨3⟩].Perm [⟨3⟩, ⟨2⟩, ⟨0⟩, ⟨1⟩]) ∧
      (scattered.clear.run [.registerAll [⟨0⟩, ⟨1⟩, ⟨2⟩, ⟨3⟩]]).registry.ids = [5, 7, 9, 0] ∧
      (scattered.clear.run [.registerAll [⟨3⟩, ⟨2⟩, ⟨0⟩, ⟨1⟩]]).registry.ids = [0, 9, 5, 7] ∧
      (scattered.clear.run [.registerAll [⟨0⟩, ⟨1⟩, ⟨2⟩, ⟨3⟩]]).NamesAlike
        (scattered.clear.run [.registerAll [⟨3⟩, ⟨2⟩, ⟨0⟩, ⟨1⟩]]) Names.default ∧
      (scattered.clear.run ([⟨0⟩, ⟨1⟩, ⟨2⟩, ⟨3⟩].map .register)).NamesAlike
        (scattered.clear.run ([⟨3⟩, ⟨2⟩, ⟨0⟩, ⟨1⟩].map .register)) Names.default := by
  obtain ⟨stores, registered⟩ := namesAlike_of_arrangement Names.default
  have distinct : ((scattered.identified [⟨0⟩, ⟨1⟩, ⟨2⟩, ⟨3⟩]).map Prod.fst).Nodup := by decide
  have arranged : [(⟨0⟩ : Ref), ⟨1⟩, ⟨2⟩, ⟨3⟩].Perm [⟨3⟩, ⟨2⟩, ⟨0⟩, ⟨1⟩] := by decide
  have same := get?_foldl_put_clear_of_perm distinct arranged
  rw [← run_registerAll, ← run_registerAll] at same
  exact ⟨⟨distinct, arranged⟩, rfl, rfl, stores _ _ same,
    (registered scattered _ _ distinct arranged).2⟩

end Graph

end Nameplate
