import Nameplate.Document
import Nameplate.Journal
import Nameplate.Names

/-!
Name rules in a configuration document.

The section is a mapping with a list of templates for each category and a list
of overrides.  Lists that are left out keep their defaults, and an empty list
stays empty.  Entries are examined in a fixed order, whatever the order of the
keys, and the first that is wrong is blamed at its place.
-/

namespace Nameplate

inductive Step where
  | key (name : String)
  | index (position : Nat)
deriving DecidableEq, Repr

def Step.text : Step → String
  | .key name => "." ++ name
  | .index position => "[" ++ toString position ++ "]"

/-- A place in a document: a name for the whole and the steps that lead there. -/
structure Location where
  root : String
  steps : List Step
deriving DecidableEq, Repr

namespace Location

def key (location : Location) (name : String) : Location :=
  { location with steps := location.steps ++ [.key name] }

def index (location : Location) (position : Nat) : Location :=
  { location with steps := location.steps ++ [.index position] }

def text (location : Location) : String :=
  location.root ++ String.join (location.steps.map Step.text)

end Location

namespace Names

inductive Cause where
  | notMapping
  | notTemplateList
  | notTemplateText (found : Document)
  | template (error : Template.Error)
  | notOverrideList
  | overrideNotMapping
  | notTypeList
  | unknownType (found : Document)
  | missingProperty
  | propertyNotText
  | property (error : TagError)
  | missingValue
  | valueNotText (found : Document)
deriving DecidableEq, Repr

structure Error where
  location : Location
  cause : Cause
deriving DecidableEq, Repr

def Cause.message : Cause → String
  | .notMapping => "expected a mapping"
  | .notTemplateList => "expected a list of template strings"
  | .notTemplateText found => "template must be a string, got " ++ found.shown
  | .template error => error.message
  | .notOverrideList => "expected a list of overrides"
  | .overrideNotMapping => "override must be a mapping"
  | .notTypeList => "expected a type or list of types"
  | .unknownType found =>
      "unknown type " ++ found.shown ++ ". Expected one of: " ++
        ", ".intercalate (Category.all.map Category.text)
  | .missingProperty => "missing 'property'"
  | .propertyNotText => "expected a tag like 'node:node.name'"
  | .property error => error.message
  | .missingValue => "missing 'value'"
  | .valueNotText found => "value must be a string, got " ++ found.shown

def Error.message (error : Error) : String :=
  error.location.text ++ ": " ++ error.cause.message

def templateOfDocument (location : Location) : Document → Except Error Template
  | .text source =>
      match Template.parse source with
      | .error error => .error ⟨location, .template error⟩
      | .ok template => .ok template
  | found => .error ⟨location, .notTemplateText found⟩

def templatesOfDocument (location : Location) : Document → Except Error (List Template)
  | .list items =>
      items.zipIdx.mapM fun (item, position) =>
        templateOfDocument (location.index position) item
  | _ => .error ⟨location, .notTemplateList⟩

def categoryOfDocument (location : Location) (document : Document) : Except Error Category :=
  match document with
  | .text word =>
      match Category.ofText? word with
      | some category => .ok category
      | none => .error ⟨location, .unknownType document⟩
  | _ => .error ⟨location, .unknownType document⟩

/-- The types of an override: every category if they are left out, and one
category or a list of categories otherwise. -/
def typesOfDocument (location : Location) : Option Document → Except Error CategorySet
  | none => .ok (CategorySet.ofList Category.all)
  | some (.text word) =>
      (categoryOfDocument location (.text word)).map fun category =>
        CategorySet.ofList [category]
  | some (.list items) => (items.mapM (categoryOfDocument location)).map CategorySet.ofList
  | some _ => .error ⟨location, .notTypeList⟩

def propertyOfDocument (location : Location) : Option Document → Except Error Tag
  | none => .error ⟨location, .missingProperty⟩
  | some (.text text) =>
      match Tag.ofText text with
      | .error error => .error ⟨location.key "property", .property error⟩
      | .ok tag => .ok tag
  | some _ => .error ⟨location.key "property", .propertyNotText⟩

def valueOfDocument (location : Location) : Option Document → Except Error String
  | none => .error ⟨location, .missingValue⟩
  | some (.text text) => .ok text
  | some found => .error ⟨location.key "value", .valueNotText found⟩

/-- The override that an item of the override list holds.  Templates that are
left out are no templates. -/
def overrideOfDocument (location : Location) : Document → Except Error Override
  | .mapping members => do
      let types ← typesOfDocument (location.key "types") (Document.member? members "types")
      let property ← propertyOfDocument location (Document.member? members "property")
      let value ← valueOfDocument location (Document.member? members "value")
      let templates ← templatesOfDocument (location.key "templates")
        ((Document.member? members "templates").getD (.list []))
      return ⟨types, property, value, templates⟩
  | _ => .error ⟨location, .overrideNotMapping⟩

def overridesOfDocument (location : Location) : Document → Except Error (List Override)
  | .list items =>
      items.zipIdx.mapM fun (item, position) =>
        overrideOfDocument (location.index position) item
  | _ => .error ⟨location, .notOverrideList⟩

/-- The templates of a category's list, the defaults if it is left out. -/
def templatesOfMember (location : Location) (members : List (String × Document))
    (key : String) (defaults : List Template) : Except Error (List Template) :=
  match Document.member? members key with
  | none => .ok defaults
  | some document => templatesOfDocument (location.key key) document

def ofMembers (location : Location) (members : List (String × Document)) :
    Except Error Names := do
  let stream ← templatesOfMember location members "stream" defaultStream
  let endpoint ← templatesOfMember location members "endpoint" defaultEndpoint
  let device ← templatesOfMember location members "device" defaultDevice
  let overrides ← overridesOfDocument (location.key "overrides")
    (Document.memberOrNull members "overrides").orEmptyList
  return ⟨stream, endpoint, device, overrides⟩

def sectionKeys : List String := ["stream", "endpoint", "device", "overrides"]

def summary (names : Names) : String :=
  "Loaded names: " ++ toString names.stream.length ++ " stream, " ++
    toString names.endpoint.length ++ " endpoint, " ++
    toString names.device.length ++ " device templates, " ++
    toString names.overrides.length ++ " overrides"

/-- The name rules of a section at a place.  A missing section gives the
defaults; unknown keys are reported before anything is examined. -/
def ofDocument (document : Document) (location : Location) : Logged Error Names :=
  match document with
  | .null => pure default
  | .mapping members => do
      let unknown := members.filter fun member => !sectionKeys.contains member.1
      let _ ← Logged.forEach (fun member =>
        Logged.note .warning .names
          (location.text ++ ": ignoring unknown key '" ++ member.1 ++ "'")) unknown
      let names ← Logged.ofExcept (ofMembers location members)
      Logged.note .info .names names.summary
      return names
  | _ => Logged.fail ⟨location, .notMapping⟩

def templatesToDocument (templates : List Template) : Document :=
  .list (templates.map fun template => .text template.text)

def overrideToDocument (override : Override) : Document :=
  .mapping [
    ("types", .list (override.types.toList.map fun category => .text category.text)),
    ("property", .text override.property.text),
    ("value", .text override.value),
    ("templates", templatesToDocument override.templates)]

def toDocument (names : Names) : Document :=
  .mapping [
    ("stream", templatesToDocument names.stream),
    ("endpoint", templatesToDocument names.endpoint),
    ("device", templatesToDocument names.device),
    ("overrides", .list (names.overrides.map overrideToDocument))]

end Names

end Nameplate
