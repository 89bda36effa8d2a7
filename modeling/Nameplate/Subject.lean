import Nameplate.Document
import Nameplate.Resolution

/-!
Asking for names of anything.

Callers may ask about a value that is no object of the graph, most often
because they looked up an id that is not there.  Such a value has no tags and
no name, and the refusal names its type.
-/

namespace Nameplate

/-- Something that a name is asked of. -/
inductive Subject where
  | object (record : Record)
  | value (document : Document)
deriving Repr

namespace Subject

/-- What an id leads to: an object, or nothing at all. -/
def ofLookup (found : Option Record) : Subject :=
  match found with
  | some record => .object record
  | none => .value .null

def typeName : Subject → String
  | .object record => record.typeName
  | .value document => document.typeName

def tagValue (subject : Subject) (lookup : Lookup) (tag : Tag) :
    Except NamingError (Option String) :=
  match subject with
  | .object record => .ok (record.tagValue lookup tag)
  | .value document => .error (.noTags document.typeName)

def taggedValue (subject : Subject) (text : String) : Except NamingError (Option String) :=
  match subject with
  | .object record => .ok (record.taggedValue text)
  | .value document => .error (.noTags document.typeName)

def category : Subject → Except NamingError Category
  | .object record => record.category
  | .value document => .error (.notNameable document.typeName)

def fallback : Subject → Except NamingError (Option String)
  | .object record => record.fallback
  | .value document => .error (.notNameable document.typeName)

def templates (subject : Subject) (lookup : Lookup) (names : Names) :
    Except NamingError (List Template) :=
  match subject with
  | .object record => record.templates lookup names
  | .value document => .error (.notNameable document.typeName)

/-- The templates of the first override that applies to a subject taken to be
of a category; none if no override applies.  Only overrides of that category
look at the subject. -/
def overrideTemplates (subject : Subject) (lookup : Lookup) (overrides : List Override)
    (category : Category) : Except NamingError (Option (List Template)) := do
  let found ← Names.firstOverrideM category (subject.tagValue lookup) 0 overrides
  return found.map fun (_, override) => override.templates

def explain (subject : Subject) (lookup : Lookup) (names : Names) :
    Logged NamingError Resolution :=
  match subject with
  | .object record => record.explain lookup names
  | .value document => Logged.fail (.notNameable document.typeName)

def resolvedName (subject : Subject) (lookup : Lookup) (names : Names) :
    Logged NamingError (Option String) :=
  match subject with
  | .object record => record.resolvedName lookup names
  | .value document => Logged.fail (.notNameable document.typeName)

end Subject

end Nameplate
