import Mathlib.Logic.Relation
import Nameplate.Proofs.Document.Rearrangement
import Nameplate.Proofs.Names.Validity

/-!
Rearranged sections of name rules.

Unknown keys of the section and of its overrides have no meaning, and neither has the
order of the keys.  The types of an override are a set, so their list may have another
order and repetitions.  All of this holds for outcomes of every kind: a section that is
refused is refused with the same error at the same place.
-/

namespace Nameplate

namespace Names

open Document (ItemsAlike)

/-- How an item of the override list is read at every place. -/
def readingOverride (item : Document) (location : Location) : Except Error Override :=
  overrideOfDocument location item

section Reading

variable {members others : List (String × Document)} {location : Location}

theorem overridesOfDocument_alike {first second : Document}
    (alike : ItemsAlike readingOverride first second) :
    overridesOfDocument location first = overridesOfDocument location second := by
  have throughReadings (items : List Document) :
      overridesOfDocument location (.list items) =
        (items.map readingOverride).zipIdx.mapM fun (reading, position) =>
          reading (location.index position) := by
    rw [List.zipIdx_map, List.mapM_map]
    rfl
  cases alike with
  | same => rfl
  | list alike => rw [throughReadings, throughReadings, alike]

/-- What a section holds depends on its lists of templates and on how its overrides are
read. -/
theorem ofMembers_congr
    (templates : ∀ key ∈ templateKeys, Document.member? members key = Document.member? others key)
    (overrides : ItemsAlike readingOverride (Document.memberOrNull members "overrides")
      (Document.memberOrNull others "overrides")) :
    ofMembers location members = ofMembers location others := by
  have stream := templates "stream" (by decide)
  have endpoint := templates "endpoint" (by decide)
  have device := templates "device" (by decide)
  have lastOnes : overridesOfDocument (location.key "overrides")
      (Document.memberOrNull members "overrides").orEmptyList =
        overridesOfDocument (location.key "overrides")
          (Document.memberOrNull others "overrides").orEmptyList :=
    overridesOfDocument_alike overrides.orEmptyList
  simp only [ofMembers, templatesOfMember, stream, endpoint, device, lastOnes]

end Reading

section Unknown

def overrideKeys : List String := ["types", "property", "value", "templates"]

/-- The section without its unknown keys and without those of its overrides. -/
def withoutUnknown (document : Document) : Document :=
  (document.keepKeys sectionKeys).mapValues fun key value =>
    if key = "overrides" then value.mapItems (Document.keepKeys overrideKeys) else value

theorem readingOverride_keepKeys (item : Document) :
    readingOverride (item.keepKeys overrideKeys) = readingOverride item := by
  funext location
  cases item with
  | mapping members =>
      have kept : ∀ key ∈ overrideKeys, Document.member?
          (members.filter fun member => overrideKeys.contains member.1) key =
            Document.member? members key := fun key known => Document.member?_filter known
      have types := kept "types" (by decide)
      have property := kept "property" (by decide)
      have value := kept "value" (by decide)
      have templates := kept "templates" (by decide)
      simp only [readingOverride, Document.keepKeys, overrideOfDocument, types, property, value,
        templates]
  | _ => rfl

theorem outcome_ofDocument_withoutUnknown (document : Document) (location : Location) :
    (ofDocument (withoutUnknown document) location).outcome =
      (ofDocument document location).outcome := by
  cases document with
  | mapping members =>
      simp only [withoutUnknown, Document.keepKeys, Document.mapValues, outcome_ofDocument_mapping]
      refine ofMembers_congr ?_ ?_
      · intro key known
        have inSection : key ∈ sectionKeys := List.mem_append_left ["overrides"] known
        have noOverrides : key ≠ "overrides" := by
          intro same
          subst same
          exact absurd known (by decide)
        rw [Document.member?_mapMembers_filter _ inSection]
        simp [noOverrides]
      · have inSection : "overrides" ∈ sectionKeys := by decide
        rw [Document.memberOrNull, Document.memberOrNull,
          Document.member?_mapMembers_filter _ inSection]
        cases Document.member? members "overrides" with
        | none => exact .same _
        | some value => exact ItemsAlike.mapItems readingOverride_keepKeys value
  | _ => rfl

end Unknown

section Order

/-- An override is written in another way: with its members in another order, or with
another list of the same types. -/
inductive RearrangesOverride : Document → Document → Prop where
  | keys {members others : List (String × Document)} (distinct : (members.map Prod.fst).Nodup)
      (reordered : members.Perm others) : RearrangesOverride (.mapping members) (.mapping others)
  | types (earlier later : List (String × Document)) {listed others : List Category}
      (sameTypes : ∀ category, category ∈ listed ↔ category ∈ others) :
      RearrangesOverride
        (.mapping (earlier ++
          ("types", .list (listed.map fun category => .text category.text)) :: later))
        (.mapping (earlier ++
          ("types", .list (others.map fun category => .text category.text)) :: later))

/-- A section is written in another way: with its members in another order, or with one
of its overrides written in another way. -/
inductive Rearranges : Document → Document → Prop where
  | keys {members others : List (String × Document)} (distinct : (members.map Prod.fst).Nodup)
      (reordered : members.Perm others) : Rearranges (.mapping members) (.mapping others)
  | override (earlier later : List (String × Document)) (before after : List Document)
      {item other : Document} (rearranged : RearrangesOverride item other) :
      Rearranges (.mapping (earlier ++ ("overrides", .list (before ++ item :: after)) :: later))
        (.mapping (earlier ++ ("overrides", .list (before ++ other :: after)) :: later))

theorem ofList_eq_of_mem_iff {listed others : List Category}
    (sameTypes : ∀ category, category ∈ listed ↔ category ∈ others) :
    CategorySet.ofList listed = CategorySet.ofList others := by
  have contains (category : Category) : listed.contains category = others.contains category := by
    rw [Bool.eq_iff_iff, List.contains_iff_mem, List.contains_iff_mem]
    exact sameTypes category
  simp only [CategorySet.ofList, contains]

theorem RearrangesOverride.reading_eq {item other : Document}
    (rearranged : RearrangesOverride item other) : readingOverride item = readingOverride other := by
  funext location
  cases rearranged with
  | keys distinct reordered =>
      simp only [readingOverride, overrideOfDocument, Document.member?_perm distinct reordered]
  | @types earlier later listed others sameTypes =>
      -- The types are read from the same member of both, or the first of two lists is read.
      have change := Document.member?_replaced earlier later "types"
        (.list (listed.map fun category => .text category.text))
        (.list (others.map fun category => .text category.text))
      have sameSet := ofList_eq_of_mem_iff sameTypes
      have types := change "types"
      have property := (change "property").resolve_right (by simp)
      have value := (change "value").resolve_right (by simp)
      have templates := (change "templates").resolve_right (by simp)
      simp only [readingOverride, overrideOfDocument, property, value, templates]
      rcases types with same | ⟨_, found, alsoFound⟩
      · rw [same]
      · rw [found, alsoFound, typesOfDocument_texts, typesOfDocument_texts, sameSet]

theorem Rearranges.outcome_eq {first second : Document} (rearranged : Rearranges first second)
    (location : Location) :
    (ofDocument first location).outcome = (ofDocument second location).outcome := by
  cases rearranged with
  | keys distinct reordered =>
      have sameMember := Document.member?_perm distinct reordered
      simp only [outcome_ofDocument_mapping]
      refine ofMembers_congr (fun key _ => sameMember key) ?_
      rw [Document.memberOrNull_perm distinct reordered]
      exact .same _
  | override earlier later before after rearranged =>
      have alike := ItemsAlike.replaced before after rearranged.reading_eq
      simp only [outcome_ofDocument_mapping]
      refine ofMembers_congr ?_ (.memberOrNull_replaced earlier later fun _ => alike)
      intro key known
      refine (Document.member?_replaced earlier later "overrides" _ _ key).resolve_right ?_
      intro changed
      rw [changed.1] at known
      exact absurd known (by decide)

/-- A section may be rearranged any number of times. -/
theorem outcome_eq_of_rearranged {first second : Document}
    (rearranged : Relation.ReflTransGen Rearranges first second) (location : Location) :
    (ofDocument first location).outcome = (ofDocument second location).outcome := by
  induction rearranged with
  | refl => rfl
  | tail _ last inductionHypothesis => rw [inductionHypothesis, last.outcome_eq location]

end Order

end Names

end Nameplate
