import Nameplate.Subject

/-!
The precedence of name rules.

Which override decides, and which template makes the name, is stated by the
least place of a list at which a condition holds.  The scans of the resolver
find exactly that place, so the override and the templates that callers can ask
for are the ones by which a name is explained.
-/

namespace Nameplate

/-- The first place of a list at which a condition holds, with the element that
stands there. -/
structure IsFirst {α : Type} (condition : α → Prop) (list : List α) (place : Nat)
    (element : α) : Prop where
  found : list[place]? = some element
  holds : condition element
  earlier : ∀ before < place, ∀ other, list[before]? = some other → ¬condition other

namespace IsFirst

variable {α : Type} {condition : α → Prop} {first element : α} {rest list : List α} {place : Nat}

theorem head (holds : condition first) : IsFirst condition (first :: rest) 0 first where
  found := rfl
  holds := holds
  earlier before impossible := absurd impossible (Nat.not_lt_zero before)

theorem tail (fails : ¬condition first) (later : IsFirst condition rest place element) :
    IsFirst condition (first :: rest) (place + 1) element where
  found := by simpa using later.found
  holds := later.holds
  earlier before earlier other found := by
    cases before with
    | zero =>
        obtain rfl : first = other := by simpa using found
        exact fails
    | succ before =>
        exact later.earlier before (Nat.lt_of_succ_lt_succ earlier) other (by simpa using found)

theorem unique {otherPlace : Nat} {other : α} (left : IsFirst condition list place element)
    (right : IsFirst condition list otherPlace other) : place = otherPlace ∧ element = other := by
  have same : place = otherPlace := by
    rcases Nat.lt_trichotomy place otherPlace with before | same | after
    · exact absurd left.holds (right.earlier place before element left.found)
    · exact same
    · exact absurd right.holds (left.earlier otherPlace after other right.found)
  subst same
  exact ⟨rfl, Option.some.inj (left.found.symm.trans right.found)⟩

theorem mem (isFirst : IsFirst condition list place element) : element ∈ list :=
  List.mem_of_getElem? isFirst.found

end IsFirst

/-- An override applies to an object of one of its types that has its value.  A
property without a value has no value that could be equal. -/
def Override.Matches (override : Override) (category : Category)
    (value : Tag → Option String) : Prop :=
  override.types.contains category = true ∧ value override.property = some override.value

namespace Override

theorem applies_eq (override : Override) (category : Category) (value : Tag → Option String) :
    override.applies category value =
      (override.types.contains category && value override.property == some override.value) := by
  cases typed : override.types.contains category <;> simp [applies, appliesM, typed] <;> rfl

theorem applies_iff {override : Override} {category : Category} {value : Tag → Option String} :
    override.applies category value = true ↔ override.Matches category value := by
  rw [applies_eq, Bool.and_eq_true, beq_iff_eq, Matches]

/-- Asking a source that answers at once is using its answers. -/
theorem appliesM_pure {m : Type → Type} [Monad m] [LawfulMonad m] (override : Override)
    (category : Category) (value : Tag → Option String) :
    override.appliesM category (fun tag => (pure (value tag) : m (Option String))) =
      pure (override.applies category value) := by
  rw [applies_eq]
  cases typed : override.types.contains category <;> simp [appliesM, typed]

end Override

namespace Names

section Scan

variable {category : Category} {value : Tag → Option String} {position place : Nat}
  {override : Override} {overrides : List Override}

theorem firstOverrideM_cons (position : Nat) (override : Override) (rest : List Override) :
    firstOverrideM (m := Id) category value position (override :: rest) =
      if override.applies category value then some (position, override)
      else firstOverrideM (m := Id) category value (position + 1) rest := rfl

theorem firstOverrideM_pure {m : Type → Type} [Monad m] [LawfulMonad m] (position : Nat)
    (overrides : List Override) :
    firstOverrideM category (fun tag => (pure (value tag) : m (Option String))) position overrides =
      pure (firstOverrideM (m := Id) category value position overrides) := by
  induction overrides generalizing position with
  | nil => rfl
  | cons override rest inductionHypothesis =>
      rw [firstOverrideM, Override.appliesM_pure, pure_bind, firstOverrideM_cons]
      split
      · rfl
      · exact inductionHypothesis (position + 1)

theorem isFirst_of_firstOverrideM
    (found : firstOverrideM (m := Id) category value position overrides = some (place, override)) :
    ∃ offset, place = position + offset ∧
      IsFirst (fun rule => rule.Matches category value) overrides offset override := by
  induction overrides generalizing position with
  | nil => contradiction
  | cons rule rest inductionHypothesis =>
      rw [firstOverrideM_cons] at found
      split at found
      · rename_i applies
        cases found
        exact ⟨0, rfl, .head (Override.applies_iff.mp applies)⟩
      · rename_i fails
        obtain ⟨offset, same, later⟩ := inductionHypothesis found
        refine ⟨offset + 1, by omega, later.tail ?_⟩
        intro isMatch
        exact fails (Override.applies_iff.mpr isMatch)

theorem not_matches_of_firstOverrideM
    (missing : firstOverrideM (m := Id) category value position overrides = none) :
    ∀ rule ∈ overrides, ¬rule.Matches category value := by
  induction overrides generalizing position with
  | nil => simp
  | cons rule rest inductionHypothesis =>
      rw [firstOverrideM_cons] at missing
      split at missing
      · contradiction
      · rename_i fails
        intro other member isMatch
        rcases List.mem_cons.mp member with rfl | later
        · exact fails (Override.applies_iff.mpr isMatch)
        · exact inductionHypothesis missing other later isMatch

end Scan

/-- The override that decides and the templates that it leaves to try: those of
the first override that matches, or those of the category if none does. -/
inductive Selects (names : Names) (category : Category) (value : Tag → Option String) :
    Option Nat → List Template → Prop where
  | override {place : Nat} {rule : Override}
      (first : IsFirst (fun rule => rule.Matches category value) names.overrides place rule) :
      Selects names category value (some place) rule.templates
  | default (unmatched : ∀ rule ∈ names.overrides, ¬rule.Matches category value) :
      Selects names category value none (names.templatesFor category)

section Selection

variable {names : Names} {category : Category} {value : Tag → Option String}
  {place : Option Nat} {chosen : List Template}

theorem Selects.unique {otherPlace : Option Nat} {others : List Template}
    (left : names.Selects category value place chosen)
    (right : names.Selects category value otherPlace others) :
    otherPlace = place ∧ others = chosen := by
  cases left with
  | override first =>
      cases right with
      | override second =>
          obtain ⟨rfl, rfl⟩ := first.unique second
          exact ⟨rfl, rfl⟩
      | default unmatched => exact absurd first.holds (unmatched _ first.mem)
  | default unmatched =>
      cases right with
      | override second => exact absurd second.holds (unmatched _ second.mem)
      | default _ => exact ⟨rfl, rfl⟩

theorem selects_firstOverride (names : Names) (category : Category) (value : Tag → Option String) :
    names.Selects category value ((names.firstOverride category value).map Prod.fst)
      (names.candidates category value) := by
  unfold candidates
  cases found : names.firstOverride category value with
  | none => exact .default (not_matches_of_firstOverrideM found)
  | some entry =>
      obtain ⟨place, rule⟩ := entry
      obtain ⟨offset, same, first⟩ := isFirst_of_firstOverrideM found
      obtain rfl : place = offset := by omega
      exact .override first

end Selection

end Names

section Rendering

variable {value : Tag → Option String} {templates : List Template}

theorem isFirst_of_firstRendered {template : Template} {name : String}
    (found : firstRendered value templates = some (template, name)) :
    template.render value = some name ∧
      ∃ place, IsFirst (fun made => made.render value ≠ none) templates place template := by
  induction templates with
  | nil => contradiction
  | cons first rest inductionHypothesis =>
      rw [firstRendered] at found
      split at found
      · rename_i rendered made
        cases found
        exact ⟨made, 0, .head (by simp [made])⟩
      · rename_i fails
        obtain ⟨made, place, later⟩ := inductionHypothesis found
        exact ⟨made, place + 1, later.tail (by simp [fails])⟩

theorem render_eq_none_of_firstRendered (missing : firstRendered value templates = none) :
    ∀ template ∈ templates, template.render value = none := by
  induction templates with
  | nil => simp
  | cons first rest inductionHypothesis =>
      rw [firstRendered] at missing
      split at missing
      · contradiction
      · rename_i fails
        intro template member
        rcases List.mem_cons.mp member with rfl | later
        · exact fails
        · exact inductionHypothesis missing template later

end Rendering

/-- How a resolution follows from the templates that were chosen: the first one
that renders makes the name, or else the object's own name is kept, if it has
one.  An empty text is a name like any other. -/
inductive Resolution.Follows (category : Category) (value : Tag → Option String)
    (ownName : Option String) (place : Option Nat) (chosen : List Template) : Resolution → Prop where
  | rendered {position : Nat} {template : Template} {name : String}
      (first : IsFirst (fun made => made.render value ≠ none) chosen position template)
      (made : template.render value = some name) :
      Follows category value ownName place chosen {
        name := some name, category, template := some template, overrideIndex := place
        origin := if place = none then .template else .override }
  | unrendered (fails : ∀ template ∈ chosen, template.render value = none) :
      Follows category value ownName place chosen {
        name := ownName, category, template := none, overrideIndex := place
        origin := if ownName = none then .none else .fallback }

theorem Names.follows_resolve (names : Names) (category : Category)
    (value : Tag → Option String) (ownName : Option String) :
    (names.resolve category value ownName).Follows category value ownName
      ((names.firstOverride category value).map Prod.fst) (names.candidates category value) := by
  unfold resolve
  cases rendered : firstRendered value (names.candidates category value) with
  | none =>
      have fails := render_eq_none_of_firstRendered rendered
      cases ownName with
      | none => exact .unrendered fails
      | some name => exact .unrendered fails
  | some entry =>
      obtain ⟨template, name⟩ := entry
      obtain ⟨made, position, first⟩ := isFirst_of_firstRendered rendered
      cases names.firstOverride category value with
      | none => exact .rendered first made
      | some override => exact .rendered first made

namespace Record

variable {record : Record} {category : Category}

theorem category_exists (nameable : record.kind ≠ .client) :
    ∃ category, record.category = .ok category := by
  cases record with
  | device device => exact ⟨_, rfl⟩
  | node node => exact ⟨_, rfl⟩
  | client client => exact absurd rfl nameable

theorem templates_of_category (found : record.category = .ok category) (lookup : Lookup)
    (names : Names) :
    record.templates lookup names = .ok (names.candidates category (record.tagValue lookup)) := by
  rw [templates, found]
  rfl

/-- Reports never stand in the way of a resolution. -/
theorem explain_of_category (found : record.category = .ok category) (lookup : Lookup)
    (names : Names) :
    (record.explain lookup names).outcome =
      .ok (names.resolve category (record.tagValue lookup) record.ownName) := by
  have noted (messages : List String) :
      (Logged.forEach (Logged.note .debug .resolution) messages : Logged NamingError _).outcome =
        .ok (messages.map fun _ => ()) :=
    Logged.outcome_forEach_note .debug .resolution (fun message => message) messages
  simp only [explain, Logged.outcome_bind, Logged.outcome_ofExcept, found, noted,
    Logged.outcome_pure]
  rfl

theorem resolvedName_outcome (lookup : Lookup) (names : Names) :
    (record.resolvedName lookup names).outcome =
      (record.explain lookup names).outcome.map Resolution.name := by
  rw [resolvedName, Logged.outcome_bind]
  cases (record.explain lookup names).outcome <;> rfl

theorem overrideTemplates_object (lookup : Lookup) (names : Names) (category : Category) :
    (Subject.object record).overrideTemplates lookup names.overrides category =
      .ok ((names.firstOverride category (record.tagValue lookup)).map
        fun found => found.2.templates) := by
  have scanned : Names.firstOverrideM category ((Subject.object record).tagValue lookup) 0
      names.overrides = pure (names.firstOverride category (record.tagValue lookup)) :=
    Names.firstOverrideM_pure 0 names.overrides
  rw [Subject.overrideTemplates, scanned]
  rfl

theorem explain_follows_precedence (record : Record) (nameable : record.kind ≠ .client)
    (lookup : Lookup) (names : Names) :
    ∃ category place chosen resolution,
      record.category = .ok category ∧
      names.Selects category (record.tagValue lookup) place chosen ∧
      (∀ otherPlace others, names.Selects category (record.tagValue lookup) otherPlace others →
        otherPlace = place ∧ others = chosen) ∧
      (Subject.object record).overrideTemplates lookup names.overrides category =
        .ok (place.map fun _ => chosen) ∧
      record.templates lookup names = .ok chosen ∧
      (record.explain lookup names).outcome = .ok resolution ∧
      resolution.Follows category (record.tagValue lookup) record.ownName place chosen ∧
      (record.resolvedName lookup names).outcome = .ok resolution.name ∧
      ((Subject.object record).resolvedName lookup names).outcome = .ok resolution.name := by
  obtain ⟨category, categorized⟩ := category_exists nameable
  have selected := names.selects_firstOverride category (record.tagValue lookup)
  have explained := explain_of_category categorized lookup names
  have named : (record.resolvedName lookup names).outcome = .ok
      (names.resolve category (record.tagValue lookup) record.ownName).name := by
    rw [resolvedName_outcome, explained]
    rfl
  refine ⟨category, _, _, _, categorized, selected, fun _ _ other => selected.unique other, ?_,
    templates_of_category categorized lookup names, explained,
    names.follows_resolve category (record.tagValue lookup) record.ownName, named, named⟩
  rw [overrideTemplates_object, Names.candidates]
  cases names.firstOverride category (record.tagValue lookup) <;> rfl

/-- An empty name matches the override of empty names, whose template does not
render, and is kept. -/
theorem explain_follows_precedence_emptyName :
    (Record.device ⟨7, some "", none, none⟩).kind ≠ .client ∧
      ∃ resolution,
        ((Record.device ⟨7, some "", none, none⟩).explain (fun _ => none)
          (Names.default.withOverrides [⟨⟨false, true, true⟩, .device .name, "", []⟩,
            ⟨⟨true, false, false⟩, .device .name, "", [⟨[.tag (.device .nick)]⟩]⟩])).outcome =
          .ok resolution ∧
        resolution.Follows .device
          ((Record.device ⟨7, some "", none, none⟩).tagValue fun _ => none) (some "") (some 1)
          [⟨[.tag (.device .nick)]⟩] ∧
        resolution.name = some "" ∧ resolution.origin = .fallback := by
  refine ⟨by decide, ?_⟩
  obtain ⟨category, place, chosen, resolution, categorized, _, unique, _, _, explained, follows, _⟩ :=
    explain_follows_precedence (.device ⟨7, some "", none, none⟩) (by decide) (fun _ => none)
      (Names.default.withOverrides [⟨⟨false, true, true⟩, .device .name, "", []⟩,
        ⟨⟨true, false, false⟩, .device .name, "", [⟨[.tag (.device .nick)]⟩]⟩])
  cases categorized
  -- The first override has another type, so the second one decides although it has an empty value.
  obtain ⟨rfl, rfl⟩ := unique (some 1) [⟨[.tag (.device .nick)]⟩] (Names.selects_firstOverride _ _ _)
  cases explained
  exact ⟨_, rfl, follows, rfl, rfl⟩

end Record

end Nameplate
