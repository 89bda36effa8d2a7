import Nameplate.Proofs.Names.NormalForm
import Nameplate.Proofs.Template.RoundTrip

/-!
Reading the section that name rules write.

The section names every list, so no default is used when it is read: an empty
list stays an empty list, and an empty set of types stays empty.  Only
templates change on the way, to their normal forms.
-/

namespace Nameplate

theorem mapM_ok {ε α β : Type} {read : α → Except ε β} (result : α → β) {items : List α}
    (reads : ∀ item ∈ items, read item = .ok (result item)) :
    items.mapM read = .ok (items.map result) := by
  rw [mapM_eq_ok_iff, List.map_map]
  exact List.map_congr_left reads

namespace Names

/-- Items that are read one by one, each at its own place, are read as a list. -/
theorem mapM_zipIdx_ok {α β : Type} {write : α → Document}
    {read : Location → Document → Except Error β} {result : α → β}
    (reads : ∀ location item, read location (write item) = .ok (result item))
    (location : Location) (items : List α) :
    ((items.map write).zipIdx.mapM fun (item, position) => read (location.index position) item) =
      .ok (items.map result) := by
  have each : ∀ entry ∈ items.zipIdx,
      read (location.index entry.2) (write entry.1) = .ok ((result ∘ Prod.fst) entry) :=
    fun entry _ => reads (location.index entry.2) entry.1
  have dropped := mapM_ok _ each
  rw [← List.map_map, List.zipIdx_map_fst] at dropped
  rw [List.zipIdx_map, List.mapM_map]
  exact dropped

theorem templateOfDocument_text (location : Location) (template : Template) :
    templateOfDocument location (.text template.text) = .ok template.normalForm := by
  have parsed : Template.parse template.text = .ok template.normalForm :=
    Template.parse_eq_ok_iff.mpr ⟨template.text_normalForm, template.isNormal_normalForm⟩
  rw [templateOfDocument, parsed]

theorem templatesOfDocument_toDocument (location : Location) (templates : List Template) :
    templatesOfDocument location (templatesToDocument templates) =
      .ok (templates.map Template.normalForm) :=
  mapM_zipIdx_ok templateOfDocument_text location templates

theorem typesOfDocument_texts (location : Location) (categories : List Category) :
    typesOfDocument location (some (.list (categories.map fun category => .text category.text))) =
      .ok (CategorySet.ofList categories) := by
  have each : ∀ category ∈ categories,
      categoryOfDocument location (.text category.text) = .ok (id category) := by
    intro category _
    rw [categoryOfDocument, Category.ofText?_eq_some_iff.mpr rfl]
    rfl
  have read := mapM_ok id each
  rw [List.map_id] at read
  rw [typesOfDocument, List.mapM_map]
  change Except.map CategorySet.ofList (categories.mapM fun category =>
    categoryOfDocument location (.text category.text)) = _
  rw [read, Except.map]

theorem overrideOfDocument_toDocument (location : Location) (override : Override) :
    overrideOfDocument location (overrideToDocument override) = .ok override.normalForm := by
  have property : propertyOfDocument location (some (.text override.property.text)) =
      .ok override.property := by
    rw [propertyOfDocument, Tag.ofText_eq_ok_iff.mpr rfl]
  have templates := templatesOfDocument_toDocument (location.key "templates") override.templates
  have fields : overrideOfDocument location (overrideToDocument override) = (do
      let types ← typesOfDocument (location.key "types")
        (some (.list (override.types.toList.map fun category => .text category.text)))
      let property ← propertyOfDocument location (some (.text override.property.text))
      let templates ← templatesOfDocument (location.key "templates")
        (templatesToDocument override.templates)
      return ⟨types, property, override.value, templates⟩) := rfl
  rw [fields, typesOfDocument_texts, CategorySet.ofList_toList, property, templates]
  rfl

/-- A list of overrides is read as a list, also an empty one. -/
theorem overridesOfDocument_toDocument (location : Location) (overrides : List Override) :
    overridesOfDocument location
      (Document.list (overrides.map overrideToDocument)).orEmptyList =
        .ok (overrides.map Override.normalForm) := by
  have kept : (Document.list (overrides.map overrideToDocument)).orEmptyList =
      .list (overrides.map overrideToDocument) := by
    cases overrides <;> rfl
  rw [kept]
  exact mapM_zipIdx_ok overrideOfDocument_toDocument location overrides

/-- Reports about unknown keys never stand in the way of reading a section. -/
theorem outcome_ofDocument_mapping (members : List (String × Document)) (location : Location) :
    (ofDocument (.mapping members) location).outcome = ofMembers location members := by
  simp only [ofDocument, Logged.outcome_bind, Logged.outcome_forEach_note, Logged.outcome_ofExcept,
    Logged.outcome_note, Logged.outcome_pure]
  cases ofMembers location members <;> rfl

theorem ofDocument_toDocument (names : Names) (location : Location) :
    (ofDocument names.toDocument location).outcome = .ok names.normalForm := by
  have fields : (ofDocument names.toDocument location).outcome = (do
      let stream ← templatesOfDocument (location.key "stream") (templatesToDocument names.stream)
      let endpoint ← templatesOfDocument (location.key "endpoint")
        (templatesToDocument names.endpoint)
      let device ← templatesOfDocument (location.key "device") (templatesToDocument names.device)
      let overrides ← overridesOfDocument (location.key "overrides")
        (Document.list (names.overrides.map overrideToDocument)).orEmptyList
      return ⟨stream, endpoint, device, overrides⟩) := by
    rw [toDocument, outcome_ofDocument_mapping]
    rfl
  rw [fields, templatesOfDocument_toDocument, templatesOfDocument_toDocument,
    templatesOfDocument_toDocument, overridesOfDocument_toDocument]
  rfl

end Names

end Nameplate
