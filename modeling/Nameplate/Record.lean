import Nameplate.Tag
import Nameplate.MediaClass
import Nameplate.Text.Quoted

/-!
Records of the objects in the audio graph.

A device is a sound card or a headset, a node is a sink, a source or an
application's stream, and a client is an application.  A node refers to its
device and its client by id.  Properties that were never observed are absent,
which is not the same as empty.

A `Change` names a field and the value it gets.  Fields can be named that a
record does not have, so changing a record may be refused.
-/

namespace Nameplate

structure Device where
  id : Int
  name : Option String
  nick : Option String
  description : Option String
deriving DecidableEq, Repr

/-- A processing node.  The objects that its links name need not exist. -/
structure Node where
  id : Int
  name : Option String
  nick : Option String
  description : Option String
  mediaName : Option String
  mediaClass : Option MediaClass
  deviceId : Option Int
  clientId : Option Int
deriving DecidableEq, Repr

structure Client where
  id : Int
  applicationName : Option String
  processBinary : Option String
deriving DecidableEq, Repr

inductive Record where
  | device (device : Device)
  | node (node : Node)
  | client (client : Client)
deriving DecidableEq, Repr

/-- Whether a node looks like a sink or a source at the moment. -/
def Node.isEndpoint (node : Node) : Bool :=
  node.mediaClass.any MediaClass.isEndpoint

def unknownIdMessage (id : Int) : String :=
  Text.quoted ("Unknown object id: " ++ toString id)

inductive TextField where
  | name
  | nick
  | description
  | mediaName
  | mediaClass
  | applicationName
  | processBinary
deriving DecidableEq, Repr

inductive LinkField where
  | device
  | client
deriving DecidableEq, Repr

def TextField.key : TextField → String
  | .name => "name"
  | .nick => "nick"
  | .description => "description"
  | .mediaName => "media_name"
  | .mediaClass => "media_class"
  | .applicationName => "application_name"
  | .processBinary => "application_process_binary"

def LinkField.key : LinkField → String
  | .device => "device_id"
  | .client => "client_id"

inductive Field where
  | id
  | text (field : TextField)
  | link (field : LinkField)
deriving DecidableEq, Repr

namespace Field

def key : Field → String
  | .id => "id"
  | .text field => field.key
  | .link field => field.key

def ofKind : Kind → List Field
  | .device => [.id, .text .name, .text .nick, .text .description]
  | .node => [.id, .text .name, .text .nick, .text .description, .text .mediaName,
      .text .mediaClass, .link .device, .link .client]
  | .client => [.id, .text .applicationName, .text .processBinary]

def ofKey? (kind : Kind) (key : String) : Option Field :=
  (ofKind kind).find? fun field => field.key = key

end Field

inductive Change where
  | id (value : Int)
  | text (field : TextField) (value : Option String)
  | link (field : LinkField) (value : Option Int)
  /-- A name that no record has as a field. -/
  | other (key : String)
deriving DecidableEq, Repr

def Change.key : Change → String
  | .id _ => "id"
  | .text field _ => field.key
  | .link field _ => field.key
  | .other key => key

def Change.id? : Change → Option Int
  | .id value => some value
  | _ => none

def Kind.typeName : Kind → String
  | .device => "Device"
  | .node => "Node"
  | .client => "Client"

inductive MakeError where
  | unknownField (kind : Kind) (key : String)
  /-- The name stands for the object itself. -/
  | reservedName (kind : Kind) (key : String)
  | missingId (kind : Kind)
deriving DecidableEq, Repr

def MakeError.message : MakeError → String
  | .unknownField kind key =>
      kind.typeName ++ ".__init__() got an unexpected keyword argument '" ++ key ++ "'"
  | .reservedName kind key =>
      kind.typeName ++ ".__init__() got multiple values for argument '" ++ key ++ "'"
  | .missingId kind =>
      kind.typeName ++ ".__init__() missing 1 required positional argument: 'id'"

namespace Record

def kind : Record → Kind
  | .device _ => .device
  | .node _ => .node
  | .client _ => .client

def typeName (record : Record) : String :=
  record.kind.typeName

def id : Record → Int
  | .device d => d.id
  | .node n => n.id
  | .client c => c.id

def blank (kind : Kind) (id : Int) : Record :=
  match kind with
  | .device => .device ⟨id, none, none, none⟩
  | .node => .node ⟨id, none, none, none, none, none, none, none⟩
  | .client => .client ⟨id, none, none⟩

/-- The value of a text field; absent also when the object has no such field. -/
def text? : Record → TextField → Option String
  | .device d, .name => d.name
  | .device d, .nick => d.nick
  | .device d, .description => d.description
  | .node n, .name => n.name
  | .node n, .nick => n.nick
  | .node n, .description => n.description
  | .node n, .mediaName => n.mediaName
  | .node n, .mediaClass => n.mediaClass.map MediaClass.text
  | .client c, .applicationName => c.applicationName
  | .client c, .processBinary => c.processBinary
  | _, _ => none

def link? : Record → LinkField → Option Int
  | .node n, .device => n.deviceId
  | .node n, .client => n.clientId
  | _, _ => none

def setId (id : Int) : Record → Record
  | .device d => .device { d with id }
  | .node n => .node { n with id }
  | .client c => .client { c with id }

/-- The object with another text in a field, if it has the field. -/
def setText? (field : TextField) (value : Option String) : Record → Option Record
  | .device d =>
      match field with
      | .name => some (.device { d with name := value })
      | .nick => some (.device { d with nick := value })
      | .description => some (.device { d with description := value })
      | _ => none
  | .node n =>
      match field with
      | .name => some (.node { n with name := value })
      | .nick => some (.node { n with nick := value })
      | .description => some (.node { n with description := value })
      | .mediaName => some (.node { n with mediaName := value })
      | .mediaClass => some (.node { n with mediaClass := value.map MediaClass.mk })
      | _ => none
  | .client c =>
      match field with
      | .applicationName => some (.client { c with applicationName := value })
      | .processBinary => some (.client { c with processBinary := value })
      | _ => none

def setLink? (field : LinkField) (value : Option Int) : Record → Option Record
  | .node n =>
      match field with
      | .device => some (.node { n with deviceId := value })
      | .client => some (.node { n with clientId := value })
  | _ => none

def assign? (record : Record) : Change → Option Record
  | .id value => some (record.setId value)
  | .text field value => record.setText? field value
  | .link field value => record.setLink? field value
  | .other _ => none

/-- Whether the object has a field other than its id under this name. -/
def hasProperty (record : Record) (key : String) : Bool :=
  (Field.ofKind record.kind).any fun field => field != .id && field.key == key

/-- The object after several changes, the later ones on top of the earlier
ones.  A change that does not apply leaves the object as it is. -/
def assignAll (record : Record) (changes : List Change) : Record :=
  changes.foldl (fun current change => (current.assign? change).getD current) record

/-- The name that stands for an object itself. -/
def reservedName : String := "self"

/-- The object of a kind with the given values.  The first name that is no field
is the error; an id has to be among the values. -/
def make (kind : Kind) (changes : List Change) : Except MakeError Record :=
  match changes.find? fun change => (Field.ofKey? kind change.key).isNone with
  | some change =>
      if change.key = reservedName then .error (.reservedName kind change.key)
      else .error (.unknownField kind change.key)
  | none =>
      match changes.findSome? Change.id? with
      | none => .error (.missingId kind)
      | some id => .ok ((blank kind id).assignAll changes)

end Record

end Nameplate
