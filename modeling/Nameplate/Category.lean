import Nameplate.Record

/-!
Categories of nameable objects.

Each category has name templates of its own.  A device is its own category; a
node is an endpoint while it looks like a sink or a source and a stream
otherwise; a client has no category, because it is never named itself.
-/

namespace Nameplate

inductive Category where
  | device
  | endpoint
  | stream
deriving DecidableEq, Repr

namespace Category

def text : Category → String
  | .device => "device"
  | .endpoint => "endpoint"
  | .stream => "stream"

/-- Every category, in the order in which messages list them.  It is also the
ascending order of their words. -/
def all : List Category := [.device, .endpoint, .stream]

def ofText? (word : String) : Option Category :=
  all.find? fun category => category.text = word

theorem ofText?_eq_some_iff {word : String} {category : Category} :
    ofText? word = some category ↔ word = category.text := by
  constructor
  · intro found
    exact (by simpa using List.find?_some found : category.text = word).symm
  · rintro rfl
    cases category <;> rfl

end Category

structure CategorySet where
  device : Bool
  endpoint : Bool
  stream : Bool
deriving DecidableEq, Repr

namespace CategorySet

def contains (set : CategorySet) : Category → Bool
  | .device => set.device
  | .endpoint => set.endpoint
  | .stream => set.stream

def ofList (categories : List Category) : CategorySet where
  device := categories.contains .device
  endpoint := categories.contains .endpoint
  stream := categories.contains .stream

/-- The members of a set, in ascending order of their words. -/
def toList (set : CategorySet) : List Category :=
  Category.all.filter set.contains

theorem ofList_toList (set : CategorySet) : ofList set.toList = set := by
  rcases set with ⟨device, endpoint, stream⟩
  cases device <;> cases endpoint <;> cases stream <;> rfl

end CategorySet

/-- The category of an object in its current state; none for a client. -/
def Record.category? : Record → Option Category
  | .device _ => some .device
  | .node n => some (if n.isEndpoint then .endpoint else .stream)
  | .client _ => none

end Nameplate
