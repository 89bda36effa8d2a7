import Mathlib.Data.List.Forall2
import Nameplate.Proofs.Names.Section

/-!
Valid sections of name rules.

A section is valid if each list of templates that is given holds texts of templates
only, and if its overrides, unless they count as nothing, are a list of valid ones.
Exactly the valid sections are accepted, and what is read from one holds its templates
and overrides entry by entry.
-/

namespace Nameplate

namespace Names

section Rules

/-- A text that is written as a template. -/
def HoldsTemplate (document : Document) (template : Template) : Prop :=
  ∃ source, document = .text source ∧ Template.parse source = .ok template

def HoldsCategory (document : Document) (category : Category) : Prop :=
  document = .text category.text

/-- A list that holds something in each of its items, in the same order. -/
def HoldsList {α : Type} (holds : Document → α → Prop) (document : Document) (values : List α) :
    Prop :=
  ∃ items, document = .list items ∧ List.Forall₂ holds items values

/-- The templates of a list that may be left out. -/
def HoldsTemplates (defaults : List Template) : Option Document → List Template → Prop
  | none, templates => defaults = templates
  | some document, templates => HoldsList HoldsTemplate document templates

/-- The types of an override: all of them if they are left out, or else a single one or
those of a list. -/
def HoldsTypes : Option Document → CategorySet → Prop
  | none, types => CategorySet.ofList Category.all = types
  | some document, types =>
      (∃ category, HoldsCategory document category ∧ CategorySet.ofList [category] = types) ∨
        ∃ categories, HoldsList HoldsCategory document categories ∧
          CategorySet.ofList categories = types

def HoldsProperty (found : Option Document) (property : Tag) : Prop :=
  ∃ text, found = some (.text text) ∧ Tag.ofText text = .ok property

def HoldsValue (found : Option Document) (value : String) : Prop :=
  found = some (.text value)

inductive HoldsOverride : Document → Override → Prop where
  | mapping {members : List (String × Document)} {override : Override}
      (types : HoldsTypes (Document.member? members "types") override.types)
      (property : HoldsProperty (Document.member? members "property") override.property)
      (value : HoldsValue (Document.member? members "value") override.value)
      (templates : HoldsTemplates [] (Document.member? members "templates") override.templates) :
      HoldsOverride (.mapping members) override

/-- The name rules that a section holds. -/
inductive HoldsNames : Document → Names → Prop where
  | null : HoldsNames .null default
  | mapping {members : List (String × Document)} {names : Names}
      (stream : HoldsTemplates defaultStream (Document.member? members "stream") names.stream)
      (endpoint : HoldsTemplates defaultEndpoint (Document.member? members "endpoint")
        names.endpoint)
      (device : HoldsTemplates defaultDevice (Document.member? members "device") names.device)
      (overrides : HoldsList HoldsOverride (Document.memberOrNull members "overrides").orEmptyList
        names.overrides) :
      HoldsNames (.mapping members) names

end Rules

section Validity

def IsTemplate (document : Document) : Prop :=
  ∃ template, HoldsTemplate document template

def IsCategory (document : Document) : Prop :=
  ∃ category, HoldsCategory document category

def IsListOf (valid : Document → Prop) (document : Document) : Prop :=
  ∃ items, document = .list items ∧ ∀ item ∈ items, valid item

def IsTypes (found : Option Document) : Prop :=
  ∀ document, found = some document → IsCategory document ∨ IsListOf IsCategory document

def IsProperty (found : Option Document) : Prop :=
  ∃ property, HoldsProperty found property

def IsValue (found : Option Document) : Prop :=
  ∃ value, HoldsValue found value

/-- A list of templates that may be left out. -/
def IsTemplates (found : Option Document) : Prop :=
  ∀ document, found = some document → IsListOf IsTemplate document

def IsOverride (document : Document) : Prop :=
  ∃ members, document = .mapping members ∧
    IsTypes (Document.member? members "types") ∧
    IsProperty (Document.member? members "property") ∧
    IsValue (Document.member? members "value") ∧
    IsTemplates (Document.member? members "templates")

/-- The keys of the lists of templates, in the order in which they are read. -/
def templateKeys : List String := ["stream", "endpoint", "device"]

def IsSection (document : Document) : Prop :=
  document = .null ∨ ∃ members, document = .mapping members ∧
    (∀ key ∈ templateKeys, IsTemplates (Document.member? members key)) ∧
    ((Document.memberOrNull members "overrides").isNothing = true ∨
      IsListOf IsOverride (Document.memberOrNull members "overrides"))

end Validity

section Reading

variable {document : Document} {location : Location} {found : Option Document}

/-- Items that are read one by one hold what is read. -/
theorem mapM_eq_ok_iff_forall₂ {α β : Type} {read : α → Except Error β} {holds : α → β → Prop}
    (reads : ∀ item value, read item = .ok value ↔ holds item value) {items : List α}
    {values : List β} : items.mapM read = .ok values ↔ List.Forall₂ holds items values := by
  induction items generalizing values with
  | nil =>
      rw [mapM_eq_ok_iff, List.map_nil, List.forall₂_nil_left_iff]
      cases values <;> simp
  | cons item rest inductionHypothesis =>
      rw [List.mapM_cons, List.forall₂_cons_left_iff, bind_eq_ok_iff]
      constructor
      · intro read
        obtain ⟨value, first, others⟩ := read
        obtain ⟨more, later, same⟩ := bind_eq_ok_iff.mp others
        cases same
        exact ⟨value, more, (reads item value).mp first, inductionHypothesis.mp later, rfl⟩
      · intro held
        obtain ⟨value, more, first, later, same⟩ := held
        subst same
        have others := inductionHypothesis.mpr later
        exact ⟨value, (reads item value).mpr first, bind_eq_ok_iff.mpr ⟨more, others, rfl⟩⟩

/-- The places at which items are read do not matter for what they hold. -/
theorem mapM_zipIdx_eq_ok_iff {α : Type} {read : Location → Document → Except Error α}
    {holds : Document → α → Prop}
    (reads : ∀ location item value, read location item = .ok value ↔ holds item value)
    (location : Location) {items : List Document} {values : List α} :
    (items.zipIdx.mapM fun (item, position) => read (location.index position) item) = .ok values ↔
      List.Forall₂ holds items values := by
  rw [mapM_eq_ok_iff_forall₂ fun entry value => reads (location.index entry.2) entry.1 value,
    ← List.forall₂_map_left_iff (f := Prod.fst), List.zipIdx_map_fst]

theorem templateOfDocument_eq_ok_iff (location : Location) (document : Document)
    (template : Template) :
    templateOfDocument location document = .ok template ↔ HoldsTemplate document template := by
  cases document with
  | text source =>
      cases parsed : Template.parse source with
      | error error => simp [templateOfDocument, HoldsTemplate, parsed]
      | ok made => simp [templateOfDocument, HoldsTemplate, parsed]
  | _ => simp [templateOfDocument, HoldsTemplate]

theorem templatesOfDocument_eq_ok_iff {templates : List Template} :
    templatesOfDocument location document = .ok templates ↔
      HoldsList HoldsTemplate document templates := by
  cases document with
  | list items =>
      rw [templatesOfDocument, mapM_zipIdx_eq_ok_iff templateOfDocument_eq_ok_iff]
      simp [HoldsList]
  | _ => simp [templatesOfDocument, HoldsList]

theorem categoryOfDocument_eq_ok_iff {category : Category} :
    categoryOfDocument location document = .ok category ↔ HoldsCategory document category := by
  cases document with
  | text word =>
      rw [HoldsCategory, Document.text.injEq, ← Category.ofText?_eq_some_iff]
      cases named : Category.ofText? word with
      | none => simp [categoryOfDocument, named]
      | some other => simp [categoryOfDocument, named]
  | _ => simp [categoryOfDocument, HoldsCategory]

theorem typesOfDocument_eq_ok_iff {types : CategorySet} :
    typesOfDocument location found = .ok types ↔ HoldsTypes found types := by
  have listRead (items : List Document) (categories : List Category) :
      items.mapM (categoryOfDocument location) = .ok categories ↔
        List.Forall₂ HoldsCategory items categories :=
    mapM_eq_ok_iff_forall₂ fun _ _ => categoryOfDocument_eq_ok_iff
  cases found with
  | none => simp [typesOfDocument, HoldsTypes]
  | some document =>
      cases document with
      | text word =>
          simp [typesOfDocument, HoldsTypes, HoldsList, map_eq_ok_iff, categoryOfDocument_eq_ok_iff]
      | list items =>
          have noText (category : Category) : ¬HoldsCategory (.list items) category := by
            simp [HoldsCategory]
          simp [typesOfDocument, HoldsTypes, HoldsList, map_eq_ok_iff, listRead, noText]
      | _ => simp [typesOfDocument, HoldsTypes, HoldsList, HoldsCategory]

theorem propertyOfDocument_eq_ok_iff {property : Tag} :
    propertyOfDocument location found = .ok property ↔ HoldsProperty found property := by
  unfold propertyOfDocument HoldsProperty
  split
  · simp
  · rename_i text
    cases read : Tag.ofText text <;> simp [read]
  · rename_i other noText
    simp only [reduceCtorEq, Option.some.injEq, false_iff]
    intro held
    obtain ⟨text, isText, _⟩ := held
    exact noText text isText

theorem valueOfDocument_eq_ok_iff {value : String} :
    valueOfDocument location found = .ok value ↔ HoldsValue found value := by
  unfold valueOfDocument HoldsValue
  split
  · simp
  · simp
  · rename_i other noText
    simp only [reduceCtorEq, Option.some.injEq, false_iff]
    exact noText value

theorem templatesOfMember_eq_ok_iff {members : List (String × Document)} {key : String}
    {defaults templates : List Template} :
    templatesOfMember location members key defaults = .ok templates ↔
      HoldsTemplates defaults (Document.member? members key) templates := by
  unfold templatesOfMember
  cases Document.member? members key with
  | none => simp [HoldsTemplates]
  | some document => exact templatesOfDocument_eq_ok_iff

/-- Templates that an override leaves out are read as an empty list. -/
theorem templatesOfDocument_getD_eq_ok_iff {templates : List Template} :
    templatesOfDocument location (found.getD (.list [])) = .ok templates ↔
      HoldsTemplates [] found templates := by
  rw [templatesOfDocument_eq_ok_iff]
  cases found with
  | none => simp [HoldsTemplates, HoldsList, eq_comm]
  | some document => rfl

theorem overrideOfDocument_eq_ok_iff (location : Location) (document : Document)
    (override : Override) :
    overrideOfDocument location document = .ok override ↔ HoldsOverride document override := by
  cases document with
  | mapping members =>
      simp only [overrideOfDocument, bind_eq_ok_iff, typesOfDocument_eq_ok_iff,
        propertyOfDocument_eq_ok_iff, valueOfDocument_eq_ok_iff, templatesOfDocument_getD_eq_ok_iff]
      constructor
      · intro read
        obtain ⟨types, holdsTypes, property, holdsProperty, value, holdsValue, templates,
          holdsTemplates, same⟩ := read
        cases same
        exact .mapping holdsTypes holdsProperty holdsValue holdsTemplates
      · intro held
        cases held with
        | mapping types property value templates =>
            exact ⟨_, types, _, property, _, value, _, templates, rfl⟩
  | _ =>
      constructor
      · intro impossible
        contradiction
      · intro impossible
        cases impossible

theorem overridesOfDocument_eq_ok_iff {overrides : List Override} :
    overridesOfDocument location document = .ok overrides ↔
      HoldsList HoldsOverride document overrides := by
  cases document with
  | list items =>
      rw [overridesOfDocument, mapM_zipIdx_eq_ok_iff overrideOfDocument_eq_ok_iff]
      simp [HoldsList]
  | _ => simp [overridesOfDocument, HoldsList]

/-- Reading a section succeeds exactly with the name rules that it holds. -/
theorem ofDocument_eq_ok_iff {names : Names} :
    (ofDocument document location).outcome = .ok names ↔ HoldsNames document names := by
  cases document with
  | null =>
      constructor
      · intro read
        cases read
        exact .null
      · intro held
        cases held
        rfl
  | mapping members =>
      simp only [outcome_ofDocument_mapping, ofMembers, bind_eq_ok_iff, templatesOfMember_eq_ok_iff,
        overridesOfDocument_eq_ok_iff]
      constructor
      · intro read
        obtain ⟨stream, holdsStream, endpoint, holdsEndpoint, device, holdsDevice, overrides,
          holdsOverrides, same⟩ := read
        cases same
        exact .mapping holdsStream holdsEndpoint holdsDevice holdsOverrides
      · intro held
        cases held with
        | mapping stream endpoint device overrides =>
            exact ⟨_, stream, _, endpoint, _, device, _, overrides, rfl⟩
  | _ =>
      constructor
      · intro impossible
        contradiction
      · intro impossible
        cases impossible

end Reading

section Existence

theorem isListOf_iff {α : Type} {holds : Document → α → Prop} {document : Document} :
    IsListOf (fun item => ∃ value, holds item value) document ↔
      ∃ values, HoldsList holds document values := by
  have itemwise (items : List Document) :
      (∀ item ∈ items, ∃ value, holds item value) ↔ ∃ values, List.Forall₂ holds items values := by
    induction items with
    | nil => simp
    | cons item rest inductionHypothesis =>
        simp only [List.forall_mem_cons, inductionHypothesis, List.forall₂_cons_left_iff]
        constructor
        · intro both
          obtain ⟨⟨value, first⟩, more, later⟩ := both
          exact ⟨_, value, more, first, later, rfl⟩
        · intro held
          obtain ⟨_, value, more, first, later, _⟩ := held
          exact ⟨⟨value, first⟩, more, later⟩
  constructor
  · intro valid
    obtain ⟨items, isList, each⟩ := valid
    obtain ⟨values, held⟩ := (itemwise items).mp each
    exact ⟨values, items, isList, held⟩
  · intro held
    obtain ⟨values, items, isList, each⟩ := held
    exact ⟨items, isList, (itemwise items).mpr ⟨values, each⟩⟩

theorem isTypes_iff {found : Option Document} : IsTypes found ↔ ∃ types, HoldsTypes found types := by
  cases found with
  | none => simp [IsTypes, HoldsTypes]
  | some document =>
      have listed : IsListOf IsCategory document ↔
          ∃ categories, HoldsList HoldsCategory document categories := isListOf_iff
      simp only [IsTypes, HoldsTypes, Option.some.injEq, forall_eq', listed]
      constructor
      · intro valid
        rcases valid with ⟨category, holds⟩ | ⟨categories, holds⟩
        · exact ⟨_, .inl ⟨category, holds, rfl⟩⟩
        · exact ⟨_, .inr ⟨categories, holds, rfl⟩⟩
      · intro held
        obtain ⟨types, ⟨category, holds, _⟩ | ⟨categories, holds, _⟩⟩ := held
        · exact .inl ⟨category, holds⟩
        · exact .inr ⟨categories, holds⟩

theorem isTemplates_iff {defaults : List Template} {found : Option Document} :
    IsTemplates found ↔ ∃ templates, HoldsTemplates defaults found templates := by
  cases found with
  | none => simp [IsTemplates, HoldsTemplates]
  | some document =>
      simp only [IsTemplates, HoldsTemplates, Option.some.injEq, forall_eq']
      exact isListOf_iff

theorem isOverride_iff (document : Document) :
    IsOverride document ↔ ∃ override, HoldsOverride document override := by
  constructor
  · intro valid
    obtain ⟨members, isMapping, types, ⟨property, holdsProperty⟩, ⟨value, holdsValue⟩, templates⟩ :=
      valid
    subst isMapping
    obtain ⟨types, holdsTypes⟩ := isTypes_iff.mp types
    obtain ⟨templates, holdsTemplates⟩ := isTemplates_iff.mp templates
    exact ⟨⟨types, property, value, templates⟩,
      .mapping holdsTypes holdsProperty holdsValue holdsTemplates⟩
  · intro held
    obtain ⟨override, held⟩ := held
    cases held with
    | mapping types property value templates =>
        exact ⟨_, rfl, isTypes_iff.mpr ⟨_, types⟩, ⟨_, property⟩, ⟨_, value⟩,
          isTemplates_iff.mpr ⟨_, templates⟩⟩

/-- What counts as nothing is an empty list. -/
theorem isListOf_orEmptyList_iff {valid : Document → Prop} {document : Document} :
    IsListOf valid document.orEmptyList ↔ document.isNothing = true ∨ IsListOf valid document := by
  unfold Document.orEmptyList
  split
  · rename_i nothing
    simp [nothing, IsListOf]
  · rename_i something
    simp [something]

theorem isSection_iff {document : Document} :
    IsSection document ↔ ∃ names, HoldsNames document names := by
  have overridesHeld {value : Document} : (value.isNothing = true ∨ IsListOf IsOverride value) ↔
      ∃ overrides, HoldsList HoldsOverride value.orEmptyList overrides := by
    rw [← isListOf_orEmptyList_iff, funext fun item => propext (isOverride_iff item)]
    exact isListOf_iff
  simp only [IsSection, templateKeys, List.forall_mem_cons, overridesHeld]
  constructor
  · intro valid
    rcases valid with isNull | ⟨members, isMapping, ⟨stream, endpoint, device, _⟩, overrides, held⟩
    · subst isNull
      exact ⟨_, .null⟩
    · subst isMapping
      obtain ⟨stream, holdsStream⟩ := isTemplates_iff.mp stream
      obtain ⟨endpoint, holdsEndpoint⟩ := isTemplates_iff.mp endpoint
      obtain ⟨device, holdsDevice⟩ := isTemplates_iff.mp device
      exact ⟨⟨stream, endpoint, device, overrides⟩,
        .mapping holdsStream holdsEndpoint holdsDevice held⟩
  · intro held
    obtain ⟨names, held⟩ := held
    cases held with
    | null => exact .inl rfl
    | mapping stream endpoint device overrides =>
        refine .inr ⟨_, rfl, ⟨?_, ?_, ?_, by simp⟩, _, overrides⟩
        · exact isTemplates_iff.mpr ⟨_, stream⟩
        · exact isTemplates_iff.mpr ⟨_, endpoint⟩
        · exact isTemplates_iff.mpr ⟨_, device⟩

end Existence

end Names

end Nameplate
