import Nameplate.Graph.Run

/-!
How objects keep their media classes.

An object keeps a media class wrapped, or as the plain text that an assignment left.
Constructors wrap what they are given, and so does every update in the end, also one
that does not name the media class.  Records show the text alone; the two forms are kept
beside them here, through everything that happens to a graph.
-/

namespace Nameplate

/-- A media class in the form in which an object keeps it. -/
inductive KeptClass where
  | wrapped (mediaClass : MediaClass)
  | plain (text : String)
deriving DecidableEq, Repr

namespace KeptClass

def text : KeptClass → String
  | .wrapped mediaClass => mediaClass.text
  | .plain text => text

def wrap : KeptClass → KeptClass
  | .wrapped mediaClass => .wrapped mediaClass
  | .plain text => .wrapped ⟨text⟩

/-- A text in the form in which a caller hands it over. -/
def given (wrapping : Bool) (text : String) : KeptClass :=
  if wrapping then .wrapped ⟨text⟩ else .plain text

/-- The classification of what is kept; a plain text is wrapped for it and stays plain. -/
def isEndpoint : KeptClass → Bool
  | .wrapped mediaClass => mediaClass.isEndpoint
  | .plain text => MediaClass.isEndpoint ⟨text⟩

end KeptClass

/-- What an assignment leaves as the media class: the value that it is given, if it is
about the media class at all. -/
def Change.classOver (wrapping : Bool) (kept : Option KeptClass) : Change → Option KeptClass
  | .text .mediaClass value => value.map (KeptClass.given wrapping)
  | _ => kept

/-- What a new object keeps: its constructor wrapped the text. -/
def Record.madeClass (record : Record) : Option KeptClass :=
  (record.text? .mediaClass).map (KeptClass.given true)

/-- A graph, and the media class that each of its objects keeps. -/
structure KeptGraph where
  graph : Graph
  classes : Ref → Option KeptClass

namespace KeptGraph

def empty : KeptGraph := ⟨Graph.empty, fun _ => none⟩

/-- An operation of a caller, who hands media classes over in one form or the other, or
the objects of a snapshot taking the place of all others. -/
inductive Action where
  | operate (operation : Operation) (wrapping : Bool)
  | load (catalog : Catalog)

def classesWithNew (state : KeptGraph) (records : List Record) (ref : Ref) : Option KeptClass :=
  if ref.index < state.graph.cells.length then state.classes ref
  else (records[ref.index - state.graph.cells.length]?).bind Record.madeClass

/-- What objects keep when one of them keeps something else. -/
def classesWith (state : KeptGraph) (ref : Ref) (kept : Option KeptClass) (other : Ref) :
    Option KeptClass :=
  if other = ref then kept else state.classes other

/-- What objects keep after an operation; one that is refused changes nothing. -/
def classesAfter (state : KeptGraph) (wrapping : Bool) : Operation → Ref → Option KeptClass
  | .make record => state.classesWithNew [record]
  | .update id changes =>
      match state.graph.update id changes, state.graph.ref? id with
      | .ok _, some ref => state.classesWith ref
          ((changes.foldl (Change.classOver wrapping) (state.classes ref)).map KeptClass.wrap)
      | _, _ => state.classes
  | .assign ref change =>
      match state.graph.assign ref change with
      | .ok _ => state.classesWith ref (change.classOver wrapping (state.classes ref))
      | .error _ => state.classes
  | .register _ | .registerAll _ | .replace _ | .remove _ | .clear => state.classes

def act (state : KeptGraph) : Action → KeptGraph
  | .operate operation wrapping =>
      ⟨state.graph.perform operation, state.classesAfter wrapping operation⟩
  | .load catalog => ⟨state.graph.adopt catalog, state.classesWithNew catalog.values⟩

def run (state : KeptGraph) (actions : List Action) : KeptGraph :=
  actions.foldl act state

end KeptGraph

end Nameplate
