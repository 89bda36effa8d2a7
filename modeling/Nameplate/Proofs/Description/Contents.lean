import Nameplate.Proofs.Description.Bulk
import Nameplate.Proofs.Template.NormalForm
import Nameplate.Proofs.Template.Rendering

/-!
The characters of names.

Naming puts literals of the templates and properties of the objects together and adds
nothing to them.  A character that no template and no property has is in no name, and
in none of the templates that names are explained by.
-/

namespace Nameplate

variable {character : Char} {value : Tag → Option String}

/-- None of the values that tags can have holds the character. -/
def Tag.ValuesLack (value : Tag → Option String) (character : Char) : Prop :=
  ∀ tag text, value tag = some text → character ∉ text.toList

/-- None of the object's own properties holds the character. -/
def Record.Lacks (record : Record) (character : Char) : Prop :=
  Tag.ValuesLack (record.tagValue fun _ => none) character

def Catalog.Lacks (catalog : Catalog) (character : Char) : Prop :=
  ∀ id record, catalog.get? id = some record → record.Lacks character

namespace Names

/-- The templates of every category and of every override. -/
def allTemplates (names : Names) : List Template :=
  names.stream ++ names.endpoint ++ names.device ++ names.overrides.flatMap Override.templates

def Lacks (names : Names) (character : Char) : Prop :=
  ∀ template ∈ names.allTemplates, character ∉ template.text.toList

end Names

/-- Neither the name nor the template that made it holds the character. -/
structure Resolution.Lacks (resolution : Resolution) (character : Char) : Prop where
  name : ∀ name, resolution.name = some name → character ∉ name.toList
  template : ∀ template, resolution.template = some template → character ∉ template.text.toList

section Rendering

theorem Symbol.mem_written_char (character : Char) : character ∈ (char character).written := by
  unfold written
  split <;> simp_all

/-- Writing a literal doubles braces and drops no character. -/
theorem Segment.mem_escape {characters : List Char} (member : character ∈ characters) :
    character ∈ escape characters := by
  rw [escape_eq_flatMap]
  exact List.mem_flatMap.mpr ⟨character, member, Symbol.mem_written_char character⟩

theorem Segment.Shows.notMem {segment : Segment} {piece : String}
    (shows : segment.Shows value piece) (unwritten : character ∉ segment.written)
    (lacks : Tag.ValuesLack value character) : character ∉ piece.toList := by
  cases shows with
  | literal text => exact fun member => unwritten (mem_escape member)
  | tag found => exact lacks _ _ found

theorem Segment.Shows.notMem_join {segments : List Segment} {pieces : List String}
    (shows : List.Forall₂ (Shows value) segments pieces)
    (unwritten : character ∉ segments.flatMap written) (lacks : Tag.ValuesLack value character) :
    character ∉ (String.join pieces).toList := by
  induction shows with
  | nil => simp
  | cons first later inductionHypothesis =>
      rw [List.flatMap_cons, List.mem_append, not_or] at unwritten
      rw [String.join_cons, String.toList_append, List.mem_append, not_or]
      exact ⟨first.notMem unwritten.1 lacks, inductionHypothesis unwritten.2⟩

theorem Template.notMem_of_render {template : Template} {name : String}
    (unwritten : character ∉ template.text.toList) (lacks : Tag.ValuesLack value character)
    (rendered : template.render value = some name) : character ∉ name.toList := by
  obtain ⟨pieces, shows, rfl⟩ := (render_eq_some_iff value template name).mp rendered
  rw [text, String.toList_ofList] at unwritten
  exact Segment.Shows.notMem_join shows unwritten lacks

end Rendering

namespace Lookup

variable {lookup : Lookup} {link : Option Int}

theorem exists_of_device? {device : Device} (leads : lookup.device? link = some device) :
    ∃ target, lookup target = some (.device device) := by
  unfold device? at leads
  split at leads
  · rename_i linked
    cases leads
    obtain ⟨target, _, found⟩ := Option.bind_eq_some_iff.mp linked
    exact ⟨target, found⟩
  · contradiction

theorem exists_of_client? {client : Client} (leads : lookup.client? link = some client) :
    ∃ target, lookup target = some (.client client) := by
  unfold client? at leads
  split at leads
  · rename_i linked
    cases leads
    obtain ⟨target, _, found⟩ := Option.bind_eq_some_iff.mp linked
    exact ⟨target, found⟩
  · contradiction

end Lookup

namespace Record

variable {record : Record} {lookup : Lookup}

theorem valuesLack_tagValue (lacks : record.Lacks character)
    (linked : ∀ id other, lookup id = some other → other.Lacks character) :
    Tag.ValuesLack (record.tagValue lookup) character := by
  intro tag text found
  cases record with
  | device device => exact lacks tag text (by cases tag <;> exact found)
  | client client => exact lacks tag text (by cases tag <;> exact found)
  | node node =>
      cases tag with
      | node property => exact lacks (.node property) text found
      | device property =>
          obtain ⟨device, leads, shown⟩ := Option.bind_eq_some_iff.mp found
          obtain ⟨target, held⟩ := Lookup.exists_of_device? leads
          exact linked target _ held (.device property) text shown
      | client property =>
          obtain ⟨client, leads, shown⟩ := Option.bind_eq_some_iff.mp found
          obtain ⟨target, held⟩ := Lookup.exists_of_client? leads
          exact linked target _ held (.client property) text shown

theorem notMem_ownName (lacks : record.Lacks character) {name : String}
    (named : record.ownName = some name) : character ∉ name.toList := by
  cases record with
  | device device => exact lacks (.device .name) name named
  | node node => exact lacks (.node .name) name named
  | client client => contradiction

end Record

namespace Names

variable {names : Names} {category : Category}

theorem templatesFor_subset (names : Names) (category : Category) :
    names.templatesFor category ⊆ names.allTemplates := by
  intro template member
  cases category <;> simp_all [templatesFor, allTemplates]

theorem Selects.subset {place : Option Nat} {chosen : List Template}
    (selects : names.Selects category value place chosen) : chosen ⊆ names.allTemplates := by
  intro template member
  cases selects with
  | override first =>
      exact List.mem_append_right _ (List.mem_flatMap.mpr ⟨_, first.mem, member⟩)
  | default unmatched => exact names.templatesFor_subset category member

theorem lacks_resolve {ownName : Option String} (unwritten : names.Lacks character)
    (lacks : Tag.ValuesLack value character)
    (ownLacks : ∀ name, ownName = some name → character ∉ name.toList) :
    (names.resolve category value ownName).Lacks character := by
  have chosen := (names.selects_firstOverride category value).subset
  have follows := names.follows_resolve category value ownName
  generalize names.resolve category value ownName = resolution at follows ⊢
  cases follows with
  | unrendered fails => exact ⟨ownLacks, nofun⟩
  | @rendered position template name first made =>
      have clear := unwritten template (chosen first.mem)
      constructor
      · intro shown same
        exact Option.some.inj same ▸ Template.notMem_of_render clear lacks made
      · intro winner same
        exact Option.some.inj same ▸ clear

end Names

namespace Catalog

variable {catalog : Catalog} {names : Names} {id : Int} {description : Description}

theorem lacks_describe (lacks : catalog.Lacks character) (unwritten : names.Lacks character)
    (described : (catalog.describe names id).outcome = .ok description) :
    description.resolution.Lacks character := by
  obtain ⟨record, category, found, _, rfl⟩ := describe_eq_ok_iff.mp described
  have own := lacks id record found
  exact Names.lacks_resolve unwritten (Record.valuesLack_tagValue own lacks)
    fun _ => Record.notMem_ownName own

end Catalog

end Nameplate
