import Nameplate.Proofs.Names.Validity

/-!
Faults of sections of name rules.

Reading a section carries out checks, each of which is about one place: a list, a
template in it, an override or one of its fields.  The order of the checks does not
depend on the order of the keys.  A section that is not valid is refused at the place
of the first check that fails.
-/

namespace Nameplate

namespace Names

/-- What is asked of a place in a section. -/
structure Check where
  location : Location
  passes : Prop

section Checks

/-- A value has to be a list, and then each of its items is looked at. -/
def listChecks (each : Location → Document → List Check) (location : Location)
    (document : Document) : List Check :=
  ⟨location, ∃ items, document = .list items⟩ ::
    match document with
    | .list items => items.zipIdx.flatMap fun (item, position) =>
        each (location.index position) item
    | _ => []

def templateChecks (location : Location) (document : Document) : List Check :=
  [⟨location, IsTemplate document⟩]

/-- A list that is left out is not looked at. -/
def optionalChecks (location : Location) : Option Document → List Check
  | some document => listChecks templateChecks location document
  | none => []

/-- A missing property or value is a fault of the override, a wrong one of its field. -/
def fieldChecks (location : Location) (members : List (String × Document)) : List Check :=
  [⟨location.key "types", IsTypes (Document.member? members "types")⟩,
    ⟨location, Document.member? members "property" ≠ none⟩,
    ⟨location.key "property", IsProperty (Document.member? members "property")⟩,
    ⟨location, Document.member? members "value" ≠ none⟩,
    ⟨location.key "value", IsValue (Document.member? members "value")⟩] ++
    optionalChecks (location.key "templates") (Document.member? members "templates")

def overrideChecks (location : Location) (document : Document) : List Check :=
  ⟨location, ∃ members, document = .mapping members⟩ ::
    match document with
    | .mapping members => fieldChecks location members
    | _ => []

/-- Everything that is asked of a section, in the order in which it is asked. -/
def sectionChecks (location : Location) (document : Document) : List Check :=
  ⟨location, document = .null ∨ ∃ members, document = .mapping members⟩ ::
    match document with
    | .mapping members =>
        templateKeys.flatMap (fun key =>
          optionalChecks (location.key key) (Document.member? members key)) ++
          listChecks overrideChecks (location.key "overrides")
            (Document.memberOrNull members "overrides").orEmptyList
    | _ => []

end Checks

/-- An outcome of checks that are carried out one after another: a value if all of them
pass, or else an error at the place of the first one that fails. -/
inductive Examines {α : Type} (checks : List Check) : Except Error α → Prop where
  | accepted (value : α) (all : ∀ check ∈ checks, check.passes) : Examines checks (.ok value)
  | blamed {error : Error} {earlier later : List Check} {check : Check}
      (divided : checks = earlier ++ check :: later) (before : ∀ other ∈ earlier, other.passes)
      (fails : ¬check.passes) (placed : error.location = check.location) :
      Examines checks (.error error)

namespace Examines

variable {α β : Type} {checks more : List Check} {outcome : Except Error α}

/-- Checks that pass in front of the others do not count. -/
theorem append (all : ∀ check ∈ checks, check.passes) (examined : Examines more outcome) :
    Examines (checks ++ more) outcome := by
  cases examined with
  | accepted value others =>
      refine .accepted value ?_
      intro check member
      exact (List.mem_append.mp member).elim (all check) (others check)
  | @blamed error earlier later check divided before fails placed =>
      refine .blamed (by rw [divided, List.append_assoc]) ?_ fails placed
      intro other member
      exact (List.mem_append.mp member).elim (all other) (before other)

theorem bind {next : α → Except Error β} (examined : Examines checks outcome)
    (continued : ∀ value, outcome = .ok value → Examines more (next value)) :
    Examines (checks ++ more) (outcome >>= next) := by
  cases examined with
  | accepted value all => exact (continued value rfl).append all
  | blamed divided before fails placed =>
      exact .blamed (by rw [divided, List.append_assoc, List.cons_append]) before fails placed

theorem map (restate : α → β) (examined : Examines checks outcome) :
    Examines checks (outcome.map restate) := by
  cases examined with
  | accepted value all => exact .accepted (restate value) all
  | blamed divided before fails placed => exact .blamed divided before fails placed

/-- Items that are read one by one are checked one by one. -/
theorem mapM {ι : Type} {each : ι → List Check} {read : ι → Except Error α}
    (examined : ∀ item, Examines (each item) (read item)) (items : List ι) :
    Examines (items.flatMap each) (items.mapM read) := by
  induction items with
  | nil => exact .accepted [] (by simp)
  | cons item rest inductionHypothesis =>
      rw [List.flatMap_cons, List.mapM_cons]
      refine (examined item).bind fun value _ => ?_
      exact inductionHypothesis.map (value :: ·)

theorem cons {first : Check} (passes : first.passes) (examined : Examines more outcome) :
    Examines (first :: more) outcome := by
  have front : Examines ([first] ++ more) outcome := examined.append (by simpa using passes)
  exact front

/-- The first check may refuse everything. -/
theorem refused {first : Check} {error : Error} (fails : ¬first.passes)
    (placed : error.location = first.location) :
    Examines (first :: more) (.error error : Except Error α) := by
  have divided : first :: more = [] ++ first :: more := rfl
  exact .blamed divided (by simp) fails placed

/-- A single check decides an outcome that is accepted exactly if it passes. -/
theorem single {location : Location} {passes : Prop}
    (accepts : passes ↔ ∃ value, outcome = .ok value)
    (placed : ∀ error, outcome = .error error → error.location = location) :
    Examines [⟨location, passes⟩] outcome := by
  cases result : outcome with
  | ok value => exact .accepted value (by simpa using accepts.mpr ⟨value, result⟩)
  | error error =>
      have fails : ¬passes := by
        intro holds
        obtain ⟨value, accepted⟩ := accepts.mp holds
        rw [result] at accepted
        contradiction
      exact refused fails (placed error result)

end Examines

section Reading

variable {location : Location} {error : Error} {found : Option Document}

theorem location_of_templateOfDocument {document : Document}
    (failed : templateOfDocument location document = .error error) : error.location = location := by
  unfold templateOfDocument at failed
  split at failed
  · split at failed
    · cases failed
      rfl
    · contradiction
  · cases failed
    rfl

theorem location_of_categoryOfDocument {document : Document}
    (failed : categoryOfDocument location document = .error error) : error.location = location := by
  unfold categoryOfDocument at failed
  split at failed
  · split at failed
    · contradiction
    · cases failed
      rfl
  · cases failed
    rfl

/-- Every fault of the types is blamed on the types as a whole. -/
theorem location_of_typesOfDocument (failed : typesOfDocument location found = .error error) :
    error.location = location := by
  unfold typesOfDocument at failed
  split at failed
  · contradiction
  · exact location_of_categoryOfDocument (map_eq_error_iff.mp failed)
  · obtain ⟨_, item, _, _, _, itemFailed⟩ := mapM_eq_error_iff.mp (map_eq_error_iff.mp failed)
    exact location_of_categoryOfDocument itemFailed
  · cases failed
    rfl

theorem examines_template (location : Location) (document : Document) :
    Examines (templateChecks location document) (templateOfDocument location document) := by
  refine .single ?_ fun _ => location_of_templateOfDocument
  simp only [IsTemplate, templateOfDocument_eq_ok_iff]

theorem examines_types (location : Location) (found : Option Document) :
    Examines [⟨location, IsTypes found⟩] (typesOfDocument location found) := by
  refine .single ?_ fun _ => location_of_typesOfDocument
  simp only [isTypes_iff, typesOfDocument_eq_ok_iff]

theorem examines_property (location : Location) (found : Option Document) :
    Examines [⟨location, found ≠ none⟩, ⟨location.key "property", IsProperty found⟩]
      (propertyOfDocument location found) := by
  cases found with
  | none => exact .refused (by simp) rfl
  | some document =>
      refine .cons (by simp) (.single ?_ ?_)
      · simp only [IsProperty, propertyOfDocument_eq_ok_iff]
      · intro error failed
        unfold propertyOfDocument at failed
        split at failed
        · contradiction
        · split at failed
          · cases failed
            rfl
          · contradiction
        · cases failed
          rfl

theorem examines_value (location : Location) (found : Option Document) :
    Examines [⟨location, found ≠ none⟩, ⟨location.key "value", IsValue found⟩]
      (valueOfDocument location found) := by
  cases found with
  | none => exact .refused (by simp) rfl
  | some document =>
      refine .cons (by simp) (.single ?_ ?_)
      · simp only [IsValue, valueOfDocument_eq_ok_iff]
      · intro error failed
        unfold valueOfDocument at failed
        split at failed
        · contradiction
        · contradiction
        · cases failed
          rfl

/-- Whatever the items are, a list of them is examined like its items. -/
theorem examines_items {α : Type} {each : Location → Document → List Check}
    {read : Location → Document → Except Error α}
    (examined : ∀ location item, Examines (each location item) (read location item))
    (location : Location) (items : List Document) :
    Examines (listChecks each location (.list items))
      (items.zipIdx.mapM fun (item, position) => read (location.index position) item) := by
  refine .cons ⟨items, rfl⟩ (Examines.mapM ?_ items.zipIdx)
  exact fun entry => examined (location.index entry.2) entry.1

theorem examines_templates (location : Location) (document : Document) :
    Examines (listChecks templateChecks location document)
      (templatesOfDocument location document) := by
  cases document with
  | list items => exact examines_items examines_template location items
  | _ => exact .refused (by simp) rfl

theorem examines_templatesOfMember (location : Location) (members : List (String × Document))
    (key : String) (defaults : List Template) :
    Examines (optionalChecks (location.key key) (Document.member? members key))
      (templatesOfMember location members key defaults) := by
  unfold templatesOfMember
  cases Document.member? members key with
  | none => exact .accepted defaults (by simp [optionalChecks])
  | some document => exact examines_templates (location.key key) document

theorem examines_templates_getD (location : Location) (found : Option Document) :
    Examines (optionalChecks location found)
      (templatesOfDocument location (found.getD (.list []))) := by
  cases found with
  | none => exact .accepted [] (by simp [optionalChecks])
  | some document => exact examines_templates location document

theorem examines_override (location : Location) (document : Document) :
    Examines (overrideChecks location document) (overrideOfDocument location document) := by
  cases document with
  | mapping members =>
      refine .cons ⟨members, rfl⟩ ?_
      refine (examines_types _ _).bind fun types _ => ?_
      refine (examines_property _ _).bind fun property _ => ?_
      refine (examines_value _ _).bind fun value _ => ?_
      exact (examines_templates_getD _ _).map (Override.mk types property value)
  | _ => exact .refused (by simp) rfl

theorem examines_overrides (location : Location) (document : Document) :
    Examines (listChecks overrideChecks location document)
      (overridesOfDocument location document) := by
  cases document with
  | list items => exact examines_items examines_override location items
  | _ => exact .refused (by simp) rfl

theorem examines_section (location : Location) (document : Document) :
    Examines (sectionChecks location document) (ofDocument document location).outcome := by
  cases document with
  | null => exact .accepted default (by simp [sectionChecks])
  | mapping members =>
      rw [outcome_ofDocument_mapping]
      refine .cons (.inr ⟨members, rfl⟩) ?_
      simp only [templateKeys, List.flatMap_cons, List.flatMap_nil, List.append_nil,
        List.append_assoc]
      refine (examines_templatesOfMember _ _ _ _).bind fun stream _ => ?_
      refine (examines_templatesOfMember _ _ _ _).bind fun endpoint _ => ?_
      refine (examines_templatesOfMember _ _ _ _).bind fun device _ => ?_
      exact (examines_overrides _ _).map (Names.mk stream endpoint device)
  | _ => exact .refused (by simp) rfl

end Reading

theorem ofDocument_blames_first (document : Document) (location : Location) :
    ((∃ names, (ofDocument document location).outcome = .ok names) ↔ IsSection document) ∧
      (∀ names, (ofDocument document location).outcome = .ok names ↔ HoldsNames document names) ∧
      (¬IsSection document → ∃ error earlier check later,
        (ofDocument document location).outcome = .error error ∧
        sectionChecks location document = earlier ++ check :: later ∧
        (∀ other ∈ earlier, other.passes) ∧ ¬check.passes ∧ error.location = check.location) := by
  have accepts : (∃ names, (ofDocument document location).outcome = .ok names) ↔
      IsSection document := by
    simp only [ofDocument_eq_ok_iff, isSection_iff]
  refine ⟨accepts, fun names => ofDocument_eq_ok_iff, ?_⟩
  intro invalid
  have examined := examines_section location document
  generalize (ofDocument document location).outcome = outcome at examined accepts
  cases examined with
  | accepted names all => exact absurd (accepts.mp ⟨names, rfl⟩) invalid
  | @blamed error earlier later check divided before fails placed =>
      exact ⟨error, earlier, check, later, rfl, divided, before, fails, placed⟩

/-- Faults in the overrides, in the device templates and in a stream template, written in
this order. -/
def faultySection : Document :=
  .mapping [("overrides", .list [.null]), ("device", .text "speakers"),
    ("stream", .list [.text "\x7bnode:node.name\x7d", .text "\x7bnode:node.name"])]

/-- The stream template is blamed, as it is read first. -/
theorem ofDocument_blames_first_faulty :
    ¬IsSection faultySection ∧ ∃ error earlier check later,
      (ofDocument faultySection ⟨"names", []⟩).outcome = .error error ∧
      sectionChecks ⟨"names", []⟩ faultySection = earlier ++ check :: later ∧
      (∀ other ∈ earlier, other.passes) ∧ ¬check.passes ∧
      check.location = ((⟨"names", []⟩ : Location).key "stream").index 1 := by
  obtain ⟨accepts, _, blames⟩ := ofDocument_blames_first faultySection ⟨"names", []⟩
  have invalid : ¬IsSection faultySection := by
    rw [← accepts]
    intro accepted
    obtain ⟨names, read⟩ := accepted
    cases read
  obtain ⟨error, earlier, check, later, failed, divided, before, fails, placed⟩ := blames invalid
  refine ⟨invalid, error, earlier, check, later, failed, divided, before, fails, ?_⟩
  rw [← placed]
  cases failed
  rfl

end Names

end Nameplate
