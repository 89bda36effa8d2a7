import Nameplate.Record

/-!
Reading the fields of an object back.

What a field holds is told as the change that would give the field this value.
A change of a field that the object has is then what the field holds afterwards,
and no other field is affected.  Of several changes of one field the last one
stays.
-/

namespace Nameplate

namespace Field

theorem id_mem_ofKind (kind : Kind) : .id ∈ ofKind kind := by
  cases kind <;> decide

theorem ofKey?_key {kind : Kind} {field : Field} (known : field ∈ ofKind kind) :
    ofKey? kind field.key = some field := by
  have each : ∀ other ∈ ofKind kind, ofKey? kind other.key = some other := by
    cases kind <;> decide
  exact each field known

/-- The fields of a kind have different keys. -/
theorem ofKey?_eq_some_iff {kind : Kind} {key : String} {field : Field} :
    ofKey? kind key = some field ↔ field ∈ ofKind kind ∧ field.key = key := by
  constructor
  · intro found
    have named : field.key = key := by simpa using List.find?_some found
    exact ⟨List.mem_of_find?_eq_some found, named⟩
  · intro known
    rw [← known.2]
    exact ofKey?_key known.1

end Field

/-- The field that a change is about. -/
def Change.field? : Change → Option Field
  | .id _ => some .id
  | .text field _ => some (.text field)
  | .link field _ => some (.link field)
  | .other _ => none

namespace Record

/-- What a field of the object holds. -/
def held (record : Record) : Field → Change
  | .id => .id record.id
  | .text field => .text field (record.text? field)
  | .link field => .link field (record.link? field)

/-- The object after a change, or as it is if it has no such field. -/
def assigned (record : Record) (change : Change) : Record :=
  (record.assign? change).getD record

section Setters

variable {record changed : Record}

theorem setText?_isSome (record : Record) (field : TextField) (value : Option String) :
    (record.setText? field value).isSome = decide (.text field ∈ Field.ofKind record.kind) := by
  cases record <;> cases field <;> rfl

theorem setLink?_isSome (record : Record) (field : LinkField) (value : Option Int) :
    (record.setLink? field value).isSome = decide (.link field ∈ Field.ofKind record.kind) := by
  cases record <;> cases field <;> rfl

theorem held_setId (record : Record) (id : Int) (field : Field) :
    (record.setId id).held field = if field = .id then .id id else record.held field := by
  cases field with
  | id => cases record <;> rfl
  | text text => cases record <;> cases text <;> rfl
  | link link => cases record <;> cases link <;> rfl

theorem held_of_setText? {field : TextField} {value : Option String}
    (set : record.setText? field value = some changed) (other : Field) :
    changed.held other = if other = .text field then .text field value else record.held other := by
  cases other with
  | id => cases record <;> cases field <;> cases set <;> rfl
  | link link => cases record <;> cases field <;> cases set <;> cases link <;> rfl
  | text text =>
      have shown : changed.text? text = if text = field then value else record.text? text := by
        cases record <;> cases field <;> cases set <;> cases text <;> simp [text?, Function.comp_def]
      by_cases same : text = field
      · subst same
        simp [held, shown]
      · simp [held, shown, same]

theorem held_of_setLink? {field : LinkField} {value : Option Int}
    (set : record.setLink? field value = some changed) (other : Field) :
    changed.held other = if other = .link field then .link field value else record.held other := by
  cases other with
  | id => cases record <;> cases field <;> cases set <;> rfl
  | text text => cases record <;> cases field <;> cases set <;> cases text <;> rfl
  | link link => cases record <;> cases field <;> cases set <;> cases link <;> rfl

end Setters

theorem kind_assigned (record : Record) (change : Change) :
    (record.assigned change).kind = record.kind := by
  cases change with
  | id value => cases record <;> rfl
  | text field value => cases record <;> cases field <;> rfl
  | link field value => cases record <;> cases field <;> rfl
  | other key => rfl

/-- A setter that succeeds for the fields of the object, and then affects one
field only. -/
theorem held_getD {record : Record} {attempt : Option Record} {field : Field} {change : Change}
    (settable : attempt.isSome = decide (field ∈ Field.ofKind record.kind))
    (sets : ∀ after, attempt = some after → ∀ other,
      after.held other = if other = field then change else record.held other) (other : Field) :
    (attempt.getD record).held other =
      if some field = some other ∧ other ∈ Field.ofKind record.kind then change
      else record.held other := by
  cases tried : attempt with
  | none =>
      have unknown : field ∉ Field.ofKind record.kind := by simpa [tried] using settable
      have unaffected : ¬(some field = some other ∧ other ∈ Field.ofKind record.kind) := by
        intro both
        exact unknown (Option.some.inj both.1 ▸ both.2)
      rw [if_neg unaffected, Option.getD_none]
  | some after =>
      have known : field ∈ Field.ofKind record.kind := by simpa [tried] using settable
      rw [Option.getD_some, sets after tried]
      by_cases same : other = field
      · subst same
        simp [known]
      · have differs : ¬field = other := fun equal => same equal.symm
        simp [same, differs]

theorem held_assigned (record : Record) (change : Change) (field : Field) :
    (record.assigned change).held field =
      if change.field? = some field ∧ field ∈ Field.ofKind record.kind then change
      else record.held field := by
  cases change with
  | id value =>
      have settable := Field.id_mem_ofKind record.kind
      refine held_getD (by simp [assign?, settable]) ?_ field
      intro after changed other
      cases changed
      exact held_setId record value other
  | text changed value =>
      exact held_getD (record.setText?_isSome changed value) (fun _ => held_of_setText?) field
  | link changed value =>
      exact held_getD (record.setLink?_isSome changed value) (fun _ => held_of_setLink?) field
  | other key => simp [assigned, assign?, Change.field?]

theorem kind_assignAll (record : Record) (changes : List Change) :
    (record.assignAll changes).kind = record.kind := by
  induction changes generalizing record with
  | nil => rfl
  | cons change rest inductionHypothesis =>
      exact (inductionHypothesis (record.assigned change)).trans (record.kind_assigned change)

/-- Changes of other fields leave a field as it is. -/
theorem held_assignAll_of_forall_ne {field : Field} {changes : List Change} (record : Record)
    (others : ∀ change ∈ changes, change.field? ≠ some field) :
    (record.assignAll changes).held field = record.held field := by
  induction changes generalizing record with
  | nil => rfl
  | cons change rest inductionHypothesis =>
      have apart := others change (by simp)
      have later : ((record.assigned change).assignAll rest).held field =
          (record.assigned change).held field :=
        inductionHypothesis _ (fun other member => others other (by simp [member]))
      have first : (record.assigned change).held field = record.held field := by
        simp [held_assigned, apart]
      exact later.trans first

/-- The last change of a field is what the field holds in the end. -/
theorem held_assignAll_of_last {field : Field} {change : Change} {earlier later : List Change}
    (record : Record) (known : field ∈ Field.ofKind record.kind)
    (about : change.field? = some field) (others : ∀ other ∈ later, other.field? ≠ some field) :
    (record.assignAll (earlier ++ change :: later)).held field = change := by
  have divided : record.assignAll (earlier ++ change :: later) =
      ((record.assignAll earlier).assigned change).assignAll later := by
    simp [assignAll, assigned]
  rw [divided, held_assignAll_of_forall_ne _ others, held_assigned, kind_assignAll]
  simp [about, known]

theorem held_blank (kind : Kind) (id : Int) (field : Field) :
    (blank kind id).held field = match field with
      | .id => .id id
      | .text text => .text text none
      | .link link => .link link none := by
  cases field with
  | id => cases kind <;> rfl
  | text text => cases kind <;> cases text <;> rfl
  | link link => cases kind <;> cases link <;> rfl

theorem kind_blank (kind : Kind) (id : Int) : (blank kind id).kind = kind := by
  cases kind <;> rfl

theorem mediaClass_eq_of_text_eq {left right : Option MediaClass}
    (same : left.map MediaClass.text = right.map MediaClass.text) : left = right := by
  refine Option.map_injective ?_ same
  intro first second equal
  cases first
  cases second
  exact congrArg MediaClass.mk equal

/-- An object is determined by its kind and by what its fields hold. -/
theorem eq_of_held_eq {left right : Record} (sameKind : left.kind = right.kind)
    (same : ∀ field ∈ Field.ofKind left.kind, left.held field = right.held field) :
    left = right := by
  cases left with
  | device left =>
      cases right with
      | node right => contradiction
      | client right => contradiction
      | device right =>
          simp only [Field.ofKind, kind, List.mem_cons, List.not_mem_nil, or_false, held, id, text?,
            forall_eq_or_imp, Change.id.injEq, Change.text.injEq, true_and, forall_eq] at same
          cases left
          cases right
          simp_all
  | node left =>
      cases right with
      | device right => contradiction
      | client right => contradiction
      | node right =>
          simp only [Field.ofKind, kind, List.mem_cons, List.not_mem_nil, or_false, held, id, text?,
            link?, forall_eq_or_imp, Change.id.injEq, Change.text.injEq, Change.link.injEq, true_and,
            forall_eq] at same
          have sameClass : left.mediaClass = right.mediaClass :=
            mediaClass_eq_of_text_eq (by simp [same])
          cases left
          cases right
          simp_all
  | client left =>
      cases right with
      | device right => contradiction
      | node right => contradiction
      | client right =>
          simp only [Field.ofKind, kind, List.mem_cons, List.not_mem_nil, or_false, held, id, text?,
            forall_eq_or_imp, Change.id.injEq, Change.text.injEq, true_and, forall_eq] at same
          cases left
          cases right
          simp_all

end Record

end Nameplate
