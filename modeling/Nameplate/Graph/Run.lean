import Nameplate.Graph

/-!
Runs of a graph.

Callers make objects, register and remove them, and change them through the
registry or through references that they kept.  A run performs such operations
one after another; one that is refused leaves the graph as it is.
-/

namespace Nameplate

/-- What callers do with a registry and with the objects that they share with
it. -/
inductive Operation where
  | make (record : Record)
  | register (ref : Ref)
  | registerAll (refs : List Ref)
  | replace (refs : List Ref)
  | remove (id : Int)
  | update (id : Int) (changes : List Change)
  | clear
  | assign (ref : Ref) (change : Change)

def Operation.outcome (graph : Graph) : Operation → Except ChangeError Graph
  | .make record => .ok (graph.allocate record).1
  | .register ref => (graph.register ref).outcome
  | .registerAll refs => (graph.registerAll refs).outcome
  | .replace refs => (graph.replace refs).outcome
  | .remove id => .ok (graph.remove id)
  | .update id changes => graph.update id changes
  | .clear => .ok graph.clear
  | .assign ref change => graph.assign ref change

namespace Graph

/-- The graph after an operation.  An operation that is refused changes
nothing. -/
def perform (graph : Graph) (operation : Operation) : Graph :=
  match operation.outcome graph with
  | .ok next => next
  | .error _ => graph

def run (graph : Graph) (operations : List Operation) : Graph :=
  operations.foldl perform graph

end Graph

end Nameplate
