import Nameplate.Category
import Nameplate.Template.Reader

/-!
Name rules: the templates of every category and the overrides.

Order is precedence.  The first override that matches an object replaces the
templates of its category, and the first template that renders makes the name.
-/

namespace Nameplate

/-- Templates for the objects of some categories that have one exact property
value.  No templates at all means that such an object falls back to its own
name. -/
structure Override where
  types : CategorySet
  property : Tag
  value : String
  templates : List Template
deriving Repr

/-- Overrides are equal when their rules are; templates count by their written
forms. -/
instance : BEq Override where
  beq left right :=
    left.types == right.types && left.property == right.property &&
      left.value == right.value && left.templates == right.templates

structure Names where
  stream : List Template
  endpoint : List Template
  device : List Template
  overrides : List Override
deriving Repr

/-- Name rules are equal when they have equal templates and overrides in the
same order. -/
instance : BEq Names where
  beq left right :=
    left.stream == right.stream && left.endpoint == right.endpoint &&
      left.device == right.device && left.overrides == right.overrides

/-- Whether an override applies to an object of a category.  Its property is
asked for only if the category is one of its types, and a property without a
value equals no text. -/
def Override.appliesM {m : Type → Type} [Monad m] (override : Override) (category : Category)
    (ask : Tag → m (Option String)) : m Bool := do
  if override.types.contains category then
    let value ← ask override.property
    return value == some override.value
  else
    return false

def Override.applies (override : Override) (category : Category)
    (value : Tag → Option String) : Bool :=
  override.appliesM (m := Id) category value

def Override.appliesTrace (override : Override) (category : Category)
    (value : Tag → Option String) : Bool × List Tag :=
  let ask (tag : Tag) : StateM (List Tag) (Option String) := do
    modify (· ++ [tag])
    return value tag
  (override.appliesM category ask).run []

namespace Names

def defaultStream : List Template :=
  [⟨[.tag (.node .name), .literal ": ", .tag (.node .mediaName)]⟩]

def defaultEndpoint : List Template :=
  [⟨[.tag (.device .nick)]⟩, ⟨[.tag (.node .description)]⟩]

def defaultDevice : List Template :=
  [⟨[.tag (.device .nick)]⟩, ⟨[.tag (.device .description)]⟩]

def default : Names :=
  ⟨defaultStream, defaultEndpoint, defaultDevice, []⟩

/-- The templates of a category, for objects that no override matches. -/
def templatesFor (names : Names) : Category → List Template
  | .device => names.device
  | .endpoint => names.endpoint
  | .stream => names.stream

def withOverrides (names : Names) (overrides : List Override) : Names :=
  { names with overrides }

end Names

end Nameplate
