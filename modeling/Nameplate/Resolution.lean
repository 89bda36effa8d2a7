import Nameplate.Journal
import Nameplate.Names
import Nameplate.Text.Quoted

/-!
Resolving names.

A device or a client answers only its own tags.  A node answers node tags
itself and passes the other tags on to the device or the client it links to;
a link to nothing, or to an object of another kind, is no link.

The name of an object comes from the first override that matches it, or else
from the templates of its category, or else from the object itself.  A
`Resolution` says which.
-/

namespace Nameplate

abbrev Lookup := Int → Option Record

def Device.property (device : Device) : DeviceProperty → Option String
  | .name => device.name
  | .nick => device.nick
  | .description => device.description

def Node.property (node : Node) : NodeProperty → Option String
  | .name => node.name
  | .nick => node.nick
  | .description => node.description
  | .mediaName => node.mediaName

def Client.property (client : Client) : ClientProperty → Option String
  | .applicationName => client.applicationName
  | .processBinary => client.processBinary

namespace Lookup

def device? (lookup : Lookup) (link : Option Int) : Option Device :=
  match link.bind lookup with
  | some (.device device) => some device
  | _ => none

def client? (lookup : Lookup) (link : Option Int) : Option Client :=
  match link.bind lookup with
  | some (.client client) => some client
  | _ => none

end Lookup

/-- The value of a tag as seen from an object; absent if the tag does not
apply, was never observed, or leads to no object. -/
def Record.tagValue (lookup : Lookup) : Record → Tag → Option String
  | .device d, .device property => d.property property
  | .client c, .client property => c.property property
  | .node n, .node property => n.property property
  | .node n, .device property =>
      (lookup.device? n.deviceId).bind fun device => device.property property
  | .node n, .client property =>
      (lookup.client? n.clientId).bind fun client => client.property property
  | _, _ => none

/-- The value of a tag that is given by its text.  A device or a client finds
its own tags by their texts as well; a node does not. -/
def Record.taggedValue (record : Record) (text : String) : Option String :=
  match record with
  | .node _ => none
  | _ => ((Tag.ofKind record.kind).find? fun tag => tag.text = text).bind
      (record.tagValue fun _ => none)

def Record.ownName : Record → Option String
  | .device d => d.name
  | .node n => n.name
  | .client _ => none

inductive Origin where
  | override
  | template
  | fallback
  | none
deriving DecidableEq, Repr

def Origin.text : Origin → String
  | .override => "override"
  | .template => "template"
  | .fallback => "fallback"
  | .none => "none"

structure Resolution where
  name : Option String
  category : Category
  origin : Origin
  template : Option Template
  overrideIndex : Option Nat
deriving Repr

namespace Names

/-- The first override that applies to an object of a category, with its place
in the list, which is counted from `position` on. -/
def firstOverrideM {m : Type → Type} [Monad m] (category : Category)
    (ask : Tag → m (Option String)) (position : Nat) :
    List Override → m (Option (Nat × Override))
  | [] => pure none
  | override :: rest => do
      if ← override.appliesM category ask then
        return some (position, override)
      else
        firstOverrideM category ask (position + 1) rest

def firstOverride (names : Names) (category : Category) (value : Tag → Option String) :
    Option (Nat × Override) :=
  firstOverrideM (m := Id) category value 0 names.overrides

/-- The templates to try for an object: those of the override that applies, or
else those of its category. -/
def candidates (names : Names) (category : Category) (value : Tag → Option String) :
    List Template :=
  match names.firstOverride category value with
  | some (_, override) => override.templates
  | none => names.templatesFor category

end Names

def firstRendered (value : Tag → Option String) : List Template → Option (Template × String)
  | [] => none
  | template :: rest =>
      match template.render value with
      | some name => some (template, name)
      | none => firstRendered value rest

def Names.resolve (names : Names) (category : Category) (value : Tag → Option String)
    (ownName : Option String) : Resolution :=
  let found := names.firstOverride category value
  let overrideIndex := found.map Prod.fst
  match firstRendered value (names.candidates category value) with
  | some (template, name) =>
      { name := some name, category, template := some template, overrideIndex
        origin := if found.isSome then .override else .template }
  | none =>
      { name := ownName, category, template := none, overrideIndex
        origin := if ownName.isSome then .fallback else .none }

def shownText : Option String → String
  | some text => Text.quoted text
  | none => "None"

/-- What is reported of a resolution: the override that applied, and the
template that rendered or the fallback. -/
def Resolution.note (names : Names) (record : Record) (resolution : Resolution) :
    List String :=
  let object := "Object " ++ toString record.id ++ ": "
  let override := (resolution.overrideIndex.bind fun index =>
      names.overrides[index]?.map fun override =>
        object ++ "override #" ++ toString index ++ " matched (" ++ override.property.text ++
          "=" ++ Text.quoted override.value ++ ")").toList
  let result := match resolution.template with
    | some template =>
        object ++ "rendered '" ++ template.text ++ "' as " ++ shownText resolution.name
    | none => object ++ "no template rendered, fallback " ++ shownText resolution.name
  override ++ [result]

inductive NamingError where
  | noTags (typeName : String)
  | notNameable (typeName : String)
deriving DecidableEq, Repr

def NamingError.message : NamingError → String
  | .noTags typeName => "Cannot resolve tags on " ++ typeName
  | .notNameable typeName => typeName ++ " objects are not nameable"

namespace Record

/-- The category of an object, which clients do not have. -/
def category (record : Record) : Except NamingError Category :=
  match record.category? with
  | some category => .ok category
  | none => .error (.notNameable record.typeName)

def fallback (record : Record) : Except NamingError (Option String) :=
  match record.category? with
  | some _ => .ok record.ownName
  | none => .error (.notNameable record.typeName)

def templates (record : Record) (lookup : Lookup) (names : Names) :
    Except NamingError (List Template) := do
  let category ← record.category
  return names.candidates category (record.tagValue lookup)

def explain (record : Record) (lookup : Lookup) (names : Names) :
    Logged NamingError Resolution := do
  let category ← Logged.ofExcept record.category
  let resolution := names.resolve category (record.tagValue lookup) record.ownName
  let _ ← Logged.forEach (Logged.note .debug .resolution) (resolution.note names record)
  return resolution

def resolvedName (record : Record) (lookup : Lookup) (names : Names) :
    Logged NamingError (Option String) := do
  let resolution ← record.explain lookup names
  return resolution.name

end Record

end Nameplate
