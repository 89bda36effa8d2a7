import Nameplate.Proofs.Graph.Run

/-!
Replacing every object at once.

A replacement builds the new registry aside and puts it in the place of the old one,
so that no reader sees a half of it.  What is there afterwards is what clearing the
registry and registering the objects one after another leaves behind: every id stands
where its first object did and leads to its last object, and the objects themselves
are as they were.
-/

namespace Nameplate.Graph

theorem eq_of_cells_of_registry {first second : Graph} (cells : first.cells = second.cells)
    (registry : first.registry = second.registry) : first = second := by
  cases first
  cases second
  cases cells
  cases registry
  rfl

theorem cells_put (graph : Graph) (ref : Ref) : (graph.put ref).cells = graph.cells := by
  unfold put
  split <;> rfl

theorem cells_foldl_put (graph : Graph) (refs : List Ref) :
    (refs.foldl put graph).cells = graph.cells := by
  induction refs generalizing graph with
  | nil => rfl
  | cons ref rest inductionHypothesis => rw [List.foldl_cons, inductionHypothesis, cells_put]

/-- Objects that are registered one after another in an empty registry make up the
registry that a replacement builds at once. -/
theorem foldl_put_clear (graph : Graph) (refs : List Ref) :
    refs.foldl put graph.clear = graph.replaceAll refs :=
  eq_of_cells_of_registry (cells_foldl_put graph.clear refs) (registry_foldl_put graph.clear refs)

/-- Replacing the objects and registering them in a cleared registry both succeed with
the same graph, whichever ids and objects are repeated. -/
theorem replace_eq_clear_registerAll {ε : Type} (graph : Graph) (refs : List Ref) :
    ∃ next, (graph.replace refs : Logged ε Graph).outcome = .ok next ∧
      (graph.clear.registerAll refs : Logged ε Graph).outcome = .ok next ∧
      next.cells = graph.cells ∧
      next.registry.ids = ((graph.identified refs).map Prod.fst).eraseDups ∧
      ∀ id, next.ref? id = (graph.identified refs).reverse.lookup id := by
  refine ⟨graph.replaceAll refs, rfl, ?_, rfl, ?_, ?_⟩
  · rw [outcome_registerAll, foldl_put_clear]
  · exact IdMap.ids_ofList (graph.identified refs)
  · exact IdMap.get?_ofList (graph.identified refs)

/-- A card and a client under one id, the client given twice: the id keeps the place of
the card and leads to the client. -/
example :
    let graph := Graph.empty.extend [.device ⟨4, none, none, none⟩, .client ⟨2, none, none⟩,
      .client ⟨4, none, none⟩]
    (graph.replaceAll [⟨0⟩, ⟨2⟩, ⟨1⟩, ⟨2⟩]).registry.entries = [(4, ⟨2⟩), (2, ⟨1⟩)] :=
  rfl

end Nameplate.Graph
