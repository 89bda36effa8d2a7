import Nameplate.Text.Pieces

/-!
Tags: one observable property of one kind of object.

A tag is written `<kind>:<path>`, and that text is what stands between the
braces of a template placeholder.  Reading and writing agree: `Tag.ofText`
accepts exactly the texts of tags.
-/

namespace Nameplate

inductive Kind where
  | device
  | node
  | client
deriving DecidableEq, Repr

namespace Kind

def text : Kind → String
  | .device => "device"
  | .node => "node"
  | .client => "client"

/-- Every kind, in the order in which messages list them. -/
def all : List Kind := [.device, .node, .client]

def ofText? (word : String) : Option Kind :=
  all.find? fun kind => kind.text = word

theorem ofText?_eq_some_iff {word : String} {kind : Kind} :
    ofText? word = some kind ↔ word = kind.text := by
  constructor
  · intro found
    exact (by simpa using List.find?_some found : kind.text = word).symm
  · rintro rfl
    cases kind <;> decide

end Kind

inductive DeviceProperty where
  | name
  | nick
  | description
deriving DecidableEq, Repr

inductive NodeProperty where
  | name
  | nick
  | description
  | mediaName
deriving DecidableEq, Repr

inductive ClientProperty where
  | applicationName
  | processBinary
deriving DecidableEq, Repr

/-- One property of one kind of object. -/
inductive Tag where
  | device (property : DeviceProperty)
  | node (property : NodeProperty)
  | client (property : ClientProperty)
deriving DecidableEq, Repr

inductive TagError where
  | noColon (text : String)
  | unknownKind (kind path : String)
  | unknownProperty (kind : Kind) (path : String)
deriving DecidableEq, Repr

namespace Tag

def kind : Tag → Kind
  | .device _ => .device
  | .node _ => .node
  | .client _ => .client

def path : Tag → String
  | .device .name => "device.name"
  | .device .nick => "device.nick"
  | .device .description => "device.description"
  | .node .name => "node.name"
  | .node .nick => "node.nick"
  | .node .description => "node.description"
  | .node .mediaName => "media.name"
  | .client .applicationName => "application.name"
  | .client .processBinary => "application.process.binary"

def text (tag : Tag) : String :=
  tag.kind.text ++ ":" ++ tag.path

/-- Every tag, in ascending order of its text. -/
def all : List Tag := [
  .client .applicationName,
  .client .processBinary,
  .device .description,
  .device .name,
  .device .nick,
  .node .mediaName,
  .node .description,
  .node .name,
  .node .nick]

/-- The tags of one kind, in ascending order of their paths. -/
def ofKind (kind : Kind) : List Tag :=
  all.filter fun tag => tag.kind = kind

def ofParts (kindText pathText : String) : Except TagError Tag :=
  match Kind.ofText? kindText with
  | none => .error (.unknownKind kindText pathText)
  | some kind =>
      match (ofKind kind).find? fun tag => tag.path = pathText with
      | none => .error (.unknownProperty kind pathText)
      | some tag => .ok tag

/-- The tag that a text writes.  The first colon divides kind and path. -/
def ofText (text : String) : Except TagError Tag :=
  match Text.cut? ':' text.toList with
  | none => .error (.noColon text)
  | some (kindText, pathText) => ofParts (String.ofList kindText) (String.ofList pathText)

def sort (tags : List Tag) : List Tag :=
  tags.mergeSort fun left right => left.text ≤ right.text

theorem mem_all (tag : Tag) : tag ∈ all := by
  rcases tag with property | property | property <;> cases property <;> decide

theorem mem_ofKind {tag : Tag} {kind : Kind} : tag ∈ ofKind kind ↔ tag.kind = kind := by
  simp [ofKind, mem_all]

theorem ofParts_eq_ok_iff {kindText pathText : String} {tag : Tag} :
    ofParts kindText pathText = .ok tag ↔
      kindText = tag.kind.text ∧ pathText = tag.path := by
  unfold ofParts
  constructor
  · intro accepted
    split at accepted
    · contradiction
    · rename_i kind kindFound
      split at accepted
      · contradiction
      · rename_i found pathFound
        cases accepted
        have sameKind := mem_ofKind.mp (List.mem_of_find?_eq_some pathFound)
        have samePath : tag.path = pathText := by simpa using List.find?_some pathFound
        exact ⟨sameKind ▸ Kind.ofText?_eq_some_iff.mp kindFound, samePath.symm⟩
  · rintro ⟨rfl, rfl⟩
    rcases tag with property | property | property <;> cases property <;> rfl

/-- The first colon of a tag's text ends its kind. -/
theorem cut?_text (tag : Tag) :
    Text.cut? ':' tag.text.toList = some (tag.kind.text.toList, tag.path.toList) := by
  have kindClear : ':' ∉ tag.kind.text.toList := by
    cases tag.kind <;> decide
  exact Text.cut?_eq_some_iff.mpr ⟨by simp [text, String.toList_append], kindClear⟩

theorem ofText_eq_ok_iff {source : String} {tag : Tag} :
    ofText source = .ok tag ↔ source = tag.text := by
  constructor
  · intro accepted
    unfold ofText at accepted
    split at accepted
    · contradiction
    · rename_i kindText pathText found
      obtain ⟨divided, _⟩ := Text.cut?_eq_some_iff.mp found
      obtain ⟨sameKind, samePath⟩ := ofParts_eq_ok_iff.mp accepted
      apply String.toList_injective
      rw [divided, text, ← sameKind, ← samePath]
      simp
  · rintro rfl
    unfold ofText
    rw [cut?_text]
    exact ofParts_eq_ok_iff.mpr ⟨by simp, by simp⟩

end Tag

def TagError.message : TagError → String
  | .noColon text => "Invalid tag '" ++ text ++ "'. Expected '<kind>:<property>'."
  | .unknownKind kind _ =>
      "Unknown tag kind '" ++ kind ++ "'. Expected one of: " ++
        ", ".intercalate (Kind.all.map Kind.text) ++ "."
  | .unknownProperty kind path =>
      "Unknown " ++ kind.text ++ " property '" ++ path ++ "'. Expected one of: " ++
        ", ".intercalate ((Tag.ofKind kind).map Tag.path) ++ "."

/-- What was written for the kind; the whole text if nothing divides it. -/
def TagError.kindText : TagError → String
  | .noColon text => text
  | .unknownKind kind _ => kind
  | .unknownProperty kind _ => kind.text

/-- What was written for the path. -/
def TagError.path? : TagError → Option String
  | .noColon _ => none
  | .unknownKind _ path => some path
  | .unknownProperty _ path => some path

end Nameplate
