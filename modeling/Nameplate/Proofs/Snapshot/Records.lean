import Nameplate.Proofs.Document.Keys
import Nameplate.Proofs.Record.Fields
import Nameplate.Snapshot

/-!
Records of snapshots.

A record describes an object if the value under the key of every field gives what
the field holds; a key that is left out gives the same as null.  Reading a record
succeeds exactly when it describes an object, and makes that object.  What stands
under other keys does not matter.
-/

namespace Nameplate

namespace Snapshot

/-- Whether a value may stand in a record under the key of a field. -/
def Accepts : Field → Document → Prop
  | .id, .integer _ => True
  | .text _, .null | .text _, .text _ | .text _, .integer _ | .text _, .bool _ => True
  | .link _, .null | .link _, .integer _ => True
  | _, _ => False

/-- What the value under the key of a field makes the field hold. -/
inductive Gives : Field → Document → Change → Prop where
  | id (id : Int) : Gives .id (.integer id) (.id id)
  | unobserved (field : TextField) : Gives (.text field) .null (.text field none)
  | text (field : TextField) (value : String) :
      Gives (.text field) (.text value) (.text field (some value))
  | integer (field : TextField) (value : Int) :
      Gives (.text field) (.integer value) (.text field (some (toString value)))
  | yes (field : TextField) : Gives (.text field) (.bool true) (.text field (some "True"))
  | no (field : TextField) : Gives (.text field) (.bool false) (.text field (some "False"))
  | unlinked (field : LinkField) : Gives (.link field) .null (.link field none)
  | link (field : LinkField) (id : Int) : Gives (.link field) (.integer id) (.link field (some id))

/-- A valid record of a kind. -/
def IsRecord (kind : Kind) (document : Document) : Prop :=
  ∃ members, document = .mapping members ∧
    ∀ field ∈ Field.ofKind kind, Accepts field (Document.memberOrNull members field.key)

/-- What a record says about an object of a kind. -/
def Describes (kind : Kind) (document : Document) (record : Record) : Prop :=
  record.kind = kind ∧ ∃ members, document = .mapping members ∧
    ∀ field ∈ Field.ofKind kind,
      Gives field (Document.memberOrNull members field.key) (record.held field)

theorem Gives.accepts {field : Field} {value : Document} {content : Change}
    (gives : Gives field value content) : Accepts field value := by
  cases gives <;> trivial

theorem Gives.unique {field : Field} {value : Document} {first second : Change}
    (gives : Gives field value first) (alsoGives : Gives field value second) : first = second := by
  cases gives <;> cases alsoGives <;> rfl

/-- The change that a field's value makes; the id is no change of an object. -/
def changeOfValue : Field × Document → Option Change
  | (.id, _) => none
  | (.text field, value) => some (.text field (scalarText? value))
  | (.link field, .integer id) => some (.link field (some id))
  | (.link field, _) => some (.link field none)

theorem gives_changeOfValue {field : Field} {value : Document} (accepted : Accepts field value)
    (notId : field ≠ .id) :
    ∃ content, changeOfValue (field, value) = some content ∧ Gives field value content := by
  cases field with
  | id => exact absurd rfl notId
  | text field =>
      refine ⟨_, rfl, ?_⟩
      cases value with
      | null => exact .unobserved field
      | text value => exact .text field value
      | integer value => exact .integer field value
      | bool value =>
          cases value with
          | true => exact .yes field
          | false => exact .no field
      | decimal value => contradiction
      | list items => contradiction
      | mapping members => contradiction
  | link field =>
      cases value with
      | null => exact ⟨_, rfl, .unlinked field⟩
      | integer id => exact ⟨_, rfl, .link field id⟩
      | bool value => contradiction
      | text value => contradiction
      | decimal value => contradiction
      | list items => contradiction
      | mapping members => contradiction

theorem field?_of_changeOfValue {field : Field} {value : Document} {change : Change}
    (changed : changeOfValue (field, value) = some change) : change.field? = some field := by
  cases field with
  | id => contradiction
  | text field =>
      cases changed
      rfl
  | link field =>
      cases value <;> cases changed <;> rfl

theorem Gives.exists_of_accepts {field : Field} {value : Document} (accepted : Accepts field value) :
    ∃ content, Gives field value content := by
  by_cases isId : field = .id
  · subst isId
    cases value with
    | integer id => exact ⟨_, .id id⟩
    | _ => contradiction
  · obtain ⟨content, _, gives⟩ := gives_changeOfValue accepted isId
    exact ⟨content, gives⟩

section Reading

variable {place : Place} {kind : Kind} {members : List (String × Document)} {record : Record}

/-- The field that a member is about, with the member's value. -/
def knownMember (kind : Kind) (member : String × Document) : Option (Field × Document) :=
  (Field.ofKey? kind member.1).map (·, member.2)

theorem fieldOfMember_eq_ok_iff (member : String × Document) (result : Option (Field × Document)) :
    (fieldOfMember place member.1 member.2).outcome = .ok result ↔
      (∀ known, knownMember place.kind member = some known → known.1 = .id ∨ isScalar known.2) ∧
        result = knownMember place.kind member := by
  unfold fieldOfMember knownMember
  cases named : Field.ofKey? place.kind member.1 with
  | none =>
      simp only [Logged.outcome_bind, Logged.outcome_note, Logged.outcome_pure]
      constructor
      · intro same
        cases same
        exact ⟨by simp, rfl⟩
      · intro both
        rw [both.2]
        rfl
  | some field =>
      by_cases fits : field = .id ∨ isScalar member.2 = true
      · simp only [if_pos fits]
        constructor
        · intro same
          cases same
          refine ⟨?_, rfl⟩
          intro known isKnown
          cases isKnown
          exact fits
        · intro both
          rw [both.2]
          rfl
      · simp only [if_neg fits]
        constructor
        · intro impossible
          contradiction
        · intro both
          exact absurd (both.1 _ rfl) fits

theorem changeOfField_eq_ok_iff (known : Field × Document) (result : Option Change) :
    changeOfField place known = .ok result ↔
      (∀ link, known.1 = .link link → Accepts known.1 known.2) ∧ result = changeOfValue known := by
  obtain ⟨field, value⟩ := known
  cases field with
  | id => simp [changeOfField, changeOfValue, eq_comm]
  | text field => simp [changeOfField, changeOfValue, eq_comm]
  | link field => cases value <;> simp [changeOfField, changeOfValue, Accepts, eq_comm]

/-- The changes that the members of a record make, in their order. -/
def changesOf (kind : Kind) (members : List (String × Document)) : List Change :=
  (members.filterMap (knownMember kind)).filterMap changeOfValue

theorem accepts_iff_of_ne_id {known : Field × Document} (notId : known.1 ≠ .id) :
    Accepts known.1 known.2 ↔
      isScalar known.2 ∧ ∀ link, known.1 = .link link → Accepts known.1 known.2 := by
  obtain ⟨field, value⟩ := known
  cases field with
  | id => exact absurd rfl notId
  | text field => cases value <;> simp [Accepts, isScalar]
  | link field => cases value <;> simp [Accepts, isScalar]

theorem idOfMembers_eq_ok_iff (id : Int) :
    idOfMembers place members = .ok id ↔ Document.memberOrNull members "id" = .integer id := by
  unfold idOfMembers
  split
  · rename_i found same
    simp [same]
  · rename_i found other
    constructor
    · intro impossible
      contradiction
    · intro same
      exact absurd same (other id)

theorem recordOfDocument_mapping :
    (recordOfDocument place (.mapping members)).outcome = .ok record ↔
      ∃ id, Document.memberOrNull members "id" = .integer id ∧
        (∀ known ∈ members.filterMap (knownMember place.kind),
          known.1 ≠ .id → Accepts known.1 known.2) ∧
        record = (Record.blank place.kind id).assignAll (changesOf place.kind members) := by
  have joined : ∀ {α β : Type} (f : α → Option β) (list : List α),
      (list.map f).filterMap (fun item => item) = list.filterMap f := by
    intro α β f list
    rw [List.filterMap_map]
    rfl
  simp only [recordOfDocument, Logged.outcome_bind, Logged.outcome_ofExcept, Logged.outcome_forEach,
    Logged.outcome_pure, bind_eq_ok_iff, idOfMembers_eq_ok_iff,
    mapM_eq_ok_iff_of_accepts fieldOfMember_eq_ok_iff,
    mapM_eq_ok_iff_of_accepts changeOfField_eq_ok_iff]
  constructor
  · intro accepted
    obtain ⟨id, found, fields, ⟨scalar, sameFields⟩, changes, ⟨linked, sameChanges⟩, made⟩ := accepted
    subst sameFields sameChanges
    rw [joined] at linked
    refine ⟨id, found, ?_, ?_⟩
    · intro known isKnown notId
      obtain ⟨member, isMember, same⟩ := List.mem_filterMap.mp isKnown
      have plain := (scalar member isMember known same).resolve_left notId
      exact (accepts_iff_of_ne_id notId).mpr ⟨plain, linked known isKnown⟩
    · cases made
      rw [joined, joined]
      rfl
  · intro described
    obtain ⟨id, found, accepted, made⟩ := described
    refine ⟨id, found, _, ⟨?_, rfl⟩, _, ⟨?_, rfl⟩, ?_⟩
    · intro member isMember known same
      by_cases isId : known.1 = .id
      · exact .inl isId
      · have isKnown := List.mem_filterMap.mpr ⟨member, isMember, same⟩
        exact .inr ((accepts_iff_of_ne_id isId).mp (accepted known isKnown isId)).1
    · intro known isKnown link isLink
      rw [joined] at isKnown
      have notId : known.1 ≠ .id := by simp [isLink]
      exact accepted known isKnown notId
    · rw [joined, joined, made]
      rfl

theorem mem_filterMap_knownMember {field : Field} {value : Document} :
    (field, value) ∈ members.filterMap (knownMember kind) ↔
      field ∈ Field.ofKind kind ∧ (field.key, value) ∈ members := by
  simp only [List.mem_filterMap, knownMember, Option.map_eq_some_iff, Field.ofKey?_eq_some_iff]
  constructor
  · intro listed
    obtain ⟨member, isMember, named, known, same⟩ := listed
    cases same
    refine ⟨known.1, ?_⟩
    rw [known.2]
    exact isMember
  · intro listed
    exact ⟨(field.key, value), listed.2, field, ⟨listed.1, rfl⟩, rfl⟩

/-- Every member is accepted if every field is: a field without a member has null. -/
theorem accepts_members_iff (distinct : (members.map Prod.fst).Nodup) :
    (∀ known ∈ members.filterMap (knownMember kind), known.1 ≠ .id → Accepts known.1 known.2) ↔
      ∀ field ∈ Field.ofKind kind, field ≠ .id →
        Accepts field (Document.memberOrNull members field.key) := by
  constructor
  · intro accepted field known notId
    by_cases present : field.key ∈ members.map Prod.fst
    · obtain ⟨⟨key, value⟩, isMember, same⟩ := List.mem_map.mp present
      subst same
      rw [Document.memberOrNull_of_mem distinct isMember]
      exact accepted (field, value) (mem_filterMap_knownMember.mpr ⟨known, isMember⟩) notId
    · rw [Document.memberOrNull_of_notMem present]
      cases field with
      | id => exact absurd rfl notId
      | text field => trivial
      | link field => trivial
  · intro accepted known isKnown notId
    obtain ⟨field, value⟩ := known
    obtain ⟨inKind, isMember⟩ := mem_filterMap_knownMember.mp isKnown
    have fits := accepted field inKind notId
    rwa [Document.memberOrNull_of_mem distinct isMember] at fits

theorem field?_ne_of_mem_changesOf {field : Field} {change : Change}
    (absent : field.key ∉ members.map Prod.fst) (isChange : change ∈ changesOf kind members) :
    change.field? ≠ some field := by
  obtain ⟨⟨other, value⟩, isKnown, changed⟩ := List.mem_filterMap.mp isChange
  rw [field?_of_changeOfValue changed]
  intro same
  cases same
  exact absent (List.mem_map.mpr ⟨_, (mem_filterMap_knownMember.mp isKnown).2, rfl⟩)

/-- A field of the object that is made holds what its value in the record gives. -/
theorem gives_assignAll_changesOf (distinct : (members.map Prod.fst).Nodup) {id : Int} {field : Field}
    (known : field ∈ Field.ofKind kind) (notId : field ≠ .id)
    (accepted : Accepts field (Document.memberOrNull members field.key)) :
    Gives field (Document.memberOrNull members field.key)
      (((Record.blank kind id).assignAll (changesOf kind members)).held field) := by
  by_cases present : field.key ∈ members.map Prod.fst
  · obtain ⟨⟨key, value⟩, isMember, same⟩ := List.mem_map.mp present
    have named : key = field.key := same
    subst named
    rw [Document.memberOrNull_of_mem distinct isMember] at accepted ⊢
    obtain ⟨content, changed, gives⟩ := gives_changeOfValue accepted notId
    obtain ⟨earlier, later, divided⟩ := List.append_of_mem isMember
    subst divided
    have absent : field.key ∉ later.map Prod.fst := by
      rw [List.map_append, List.map_cons] at distinct
      exact (List.nodup_cons.mp (List.nodup_append.mp distinct).2.1).1
    have found : knownMember kind (field.key, value) = some (field, value) := by
      simp [knownMember, Field.ofKey?_key known]
    have made : changesOf kind (earlier ++ (field.key, value) :: later) =
        changesOf kind earlier ++ content :: changesOf kind later := by
      simp [changesOf, List.filterMap_append, found, changed]
    have inBlank : field ∈ Field.ofKind (Record.blank kind id).kind := by
      rwa [Record.kind_blank]
    rw [made, Record.held_assignAll_of_last _ inBlank (field?_of_changeOfValue changed)
      (fun other isOther => field?_ne_of_mem_changesOf absent isOther)]
    exact gives
  · rw [Document.memberOrNull_of_notMem present,
      Record.held_assignAll_of_forall_ne _ (fun other isOther =>
        field?_ne_of_mem_changesOf present isOther), Record.held_blank]
    cases field with
    | id => exact absurd rfl notId
    | text field => exact .unobserved field
    | link field => exact .unlinked field

theorem describes_assignAll_changesOf (distinct : (members.map Prod.fst).Nodup) {id : Int}
    (found : Document.memberOrNull members "id" = .integer id)
    (accepted : ∀ field ∈ Field.ofKind kind, field ≠ .id →
      Accepts field (Document.memberOrNull members field.key)) :
    Describes kind (.mapping members) ((Record.blank kind id).assignAll (changesOf kind members)) := by
  refine ⟨by rw [Record.kind_assignAll, Record.kind_blank], members, rfl, ?_⟩
  intro field known
  by_cases isId : field = .id
  · subst isId
    -- No change is about the id, so it is the one that the object was made with.
    have others : ∀ change ∈ changesOf kind members, change.field? ≠ some .id := by
      intro change isChange about
      obtain ⟨⟨other, value⟩, _, changed⟩ := List.mem_filterMap.mp isChange
      cases (field?_of_changeOfValue changed).symm.trans about
      contradiction
    rw [Record.held_assignAll_of_forall_ne _ others, Record.held_blank, Field.key, found]
    exact .id id
  · exact gives_assignAll_changesOf distinct known isId (accepted field known isId)

theorem Describes.unique {document : Document} {first second : Record}
    (describes : Describes kind document first) (alsoDescribes : Describes kind document second) :
    first = second := by
  obtain ⟨firstKind, members, isMapping, gives⟩ := describes
  obtain ⟨secondKind, same, alsoMapping, alsoGives⟩ := alsoDescribes
  subst isMapping
  cases alsoMapping
  refine Record.eq_of_held_eq (firstKind.trans secondKind.symm) ?_
  intro field known
  rw [firstKind] at known
  exact (gives field known).unique (alsoGives field known)

/-- A record is read exactly when it describes an object, which is then the one that is
made. -/
theorem recordOfDocument_mapping_eq_ok_iff (distinct : (members.map Prod.fst).Nodup) :
    (recordOfDocument place (.mapping members)).outcome = .ok record ↔
      Describes place.kind (.mapping members) record := by
  rw [recordOfDocument_mapping]
  constructor
  · intro read
    obtain ⟨id, found, accepted, made⟩ := read
    rw [accepts_members_iff distinct] at accepted
    rw [made]
    exact describes_assignAll_changesOf distinct found accepted
  · intro describes
    obtain ⟨sameKind, _, isMapping, gives⟩ := describes
    cases isMapping
    have accepted : ∀ field ∈ Field.ofKind place.kind, field ≠ .id →
        Accepts field (Document.memberOrNull members field.key) :=
      fun field known _ => (gives field known).accepts
    have found : Document.memberOrNull members "id" = .integer record.id := by
      generalize value : Document.memberOrNull members "id" = present
      have given := gives .id (Field.id_mem_ofKind _)
      rw [Field.key, value] at given
      cases given
      rfl
    refine ⟨record.id, found, (accepts_members_iff distinct).mpr accepted, ?_⟩
    exact Describes.unique ⟨sameKind, members, rfl, gives⟩
      (describes_assignAll_changesOf distinct found accepted)

theorem recordOfDocument_eq_ok_iff {document : Document} (distinct : document.KeysDistinct) :
    (recordOfDocument place document).outcome = .ok record ↔
      Describes place.kind document record := by
  cases document with
  | mapping members => exact recordOfDocument_mapping_eq_ok_iff distinct.keys
  | _ => simp [recordOfDocument, Describes]

/-- Exactly the valid records describe an object. -/
theorem isRecord_iff {document : Document} (distinct : document.KeysDistinct) :
    IsRecord kind document ↔ ∃ record, Describes kind document record := by
  constructor
  · intro valid
    obtain ⟨members, isMapping, accepted⟩ := valid
    subst isMapping
    obtain ⟨content, gives⟩ := Gives.exists_of_accepts (accepted .id (Field.id_mem_ofKind kind))
    generalize value : Document.memberOrNull members Field.id.key = present at gives
    cases gives with
    | id id =>
        exact ⟨_, describes_assignAll_changesOf distinct.keys value
          fun field known _ => accepted field known⟩
  · intro described
    obtain ⟨record, _, members, isMapping, gives⟩ := described
    exact ⟨members, isMapping, fun field known => (gives field known).accepts⟩

end Reading

end Snapshot

end Nameplate
