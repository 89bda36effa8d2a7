import Nameplate.Names.Section
import Nameplate.Proofs.Template.NormalForm
import Nameplate.Proofs.Resolution.Precedence

/-!
Name rules with their templates in normal form.

They are equal to the rules as they were built, have the same document, and
explain every name in the same way: each scan of the resolver stops at the same
place, at the normal form of what it found there.
-/

namespace Nameplate

/-- A list whose elements are restated as equal ones is an equal list. -/
theorem map_beq_self {α : Type} [BEq α] {restate : α → α}
    (same : ∀ element, (restate element == element) = true) (list : List α) :
    (list.map restate == list) = true := by
  induction list with
  | nil => rfl
  | cons element rest inductionHypothesis =>
      rw [List.map_cons, List.cons_beq_cons, same, inductionHypothesis]
      rfl

namespace Override

def normalForm (override : Override) : Override :=
  { override with templates := override.templates.map Template.normalForm }

theorem normalForm_beq (override : Override) : (override.normalForm == override) = true := by
  change (override.types == override.types && override.property == override.property &&
    override.value == override.value &&
      override.templates.map Template.normalForm == override.templates) = true
  simp [map_beq_self Template.normalForm_beq]

end Override

namespace Names

def normalForm (names : Names) : Names where
  stream := names.stream.map Template.normalForm
  endpoint := names.endpoint.map Template.normalForm
  device := names.device.map Template.normalForm
  overrides := names.overrides.map Override.normalForm

theorem normalForm_beq (names : Names) : (names.normalForm == names) = true := by
  change (names.stream.map Template.normalForm == names.stream &&
    names.endpoint.map Template.normalForm == names.endpoint &&
    names.device.map Template.normalForm == names.device &&
      names.overrides.map Override.normalForm == names.overrides) = true
  simp only [map_beq_self Template.normalForm_beq, map_beq_self Override.normalForm_beq,
    Bool.and_self]

theorem templatesToDocument_normalForm (templates : List Template) :
    templatesToDocument (templates.map Template.normalForm) = templatesToDocument templates := by
  simp [templatesToDocument]

theorem overrideToDocument_normalForm (override : Override) :
    overrideToDocument override.normalForm = overrideToDocument override := by
  simp only [overrideToDocument, Override.normalForm, templatesToDocument_normalForm]

theorem toDocument_normalForm (names : Names) : names.normalForm.toDocument = names.toDocument := by
  simp [toDocument, normalForm, templatesToDocument_normalForm, overrideToDocument_normalForm]

variable {category : Category} {value : Tag → Option String}

theorem firstRendered_normalForm (templates : List Template) :
    firstRendered value (templates.map Template.normalForm) =
      (firstRendered value templates).map fun found => (found.1.normalForm, found.2) := by
  induction templates with
  | nil => rfl
  | cons template rest inductionHypothesis =>
      rw [List.map_cons, firstRendered, firstRendered, Template.render_normalForm]
      cases template.render value with
      | none => exact inductionHypothesis
      | some name => rfl

theorem firstOverrideM_normalForm (position : Nat) (overrides : List Override) :
    firstOverrideM (m := Id) category value position (overrides.map Override.normalForm) =
      (firstOverrideM (m := Id) category value position overrides).map fun found =>
        (found.1, found.2.normalForm) := by
  induction overrides generalizing position with
  | nil => rfl
  | cons override rest inductionHypothesis =>
      rw [List.map_cons, firstOverrideM_cons, firstOverrideM_cons, inductionHypothesis]
      have same : override.normalForm.applies category value = override.applies category value := rfl
      rw [same]
      split <;> rfl

theorem firstOverride_normalForm (names : Names) :
    names.normalForm.firstOverride category value =
      (names.firstOverride category value).map fun found => (found.1, found.2.normalForm) :=
  firstOverrideM_normalForm 0 names.overrides

theorem templatesFor_normalForm (names : Names) (category : Category) :
    names.normalForm.templatesFor category =
      (names.templatesFor category).map Template.normalForm := by
  cases category <;> rfl

theorem candidates_normalForm (names : Names) :
    names.normalForm.candidates category value =
      (names.candidates category value).map Template.normalForm := by
  rw [candidates, candidates, firstOverride_normalForm]
  cases names.firstOverride category value with
  | none => exact names.templatesFor_normalForm category
  | some found => rfl

/-- Name rules in normal form resolve to the same name by the same rule, and the
template they report is the normal form of the reported one. -/
theorem resolve_normalForm (names : Names) (ownName : Option String) :
    names.normalForm.resolve category value ownName =
      { names.resolve category value ownName with
        template := (names.resolve category value ownName).template.map Template.normalForm } := by
  unfold resolve
  rw [candidates_normalForm, firstRendered_normalForm, firstOverride_normalForm]
  cases firstRendered value (names.candidates category value) <;>
    cases names.firstOverride category value <;> rfl

end Names

end Nameplate
