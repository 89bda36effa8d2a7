import Nameplate.Proofs.Document.Keys

/-!
Rearranged documents.

Who reads a mapping key by key sees neither the order of its members nor the members
under other keys.  What is read item by item stays the same when the items are changed
in ways that their reader does not see.
-/

namespace Nameplate.Document

/-- The document without the members whose keys are not listed. -/
def keepKeys (keys : List String) : Document → Document
  | .mapping members => .mapping (members.filter fun member => keys.contains member.1)
  | document => document

def mapItems (change : Document → Document) : Document → Document
  | .list items => .list (items.map change)
  | document => document

/-- The members with other values, each of which may depend on its key. -/
def mapMembers (change : String → Document → Document) (members : List (String × Document)) :
    List (String × Document) :=
  members.map fun member => (member.1, change member.1 member.2)

def mapValues (change : String → Document → Document) : Document → Document
  | .mapping members => .mapping (mapMembers change members)
  | document => document

section Lookup

variable {members others : List (String × Document)}

theorem member?_perm (distinct : (members.map Prod.fst).Nodup) (reordered : members.Perm others)
    (key : String) : member? members key = member? others key := by
  have alsoDistinct : (others.map Prod.fst).Nodup :=
    (reordered.map Prod.fst).nodup_iff.mp distinct
  apply Option.ext
  intro value
  rw [member?_eq_some_iff distinct, member?_eq_some_iff alsoDistinct]
  exact reordered.mem_iff

theorem memberOrNull_perm (distinct : (members.map Prod.fst).Nodup)
    (reordered : members.Perm others) (key : String) :
    memberOrNull members key = memberOrNull others key := by
  rw [memberOrNull, memberOrNull, member?_perm distinct reordered]

theorem member?_filter {keys : List String} {key : String} (kept : key ∈ keys) :
    member? (members.filter fun member => keys.contains member.1) key = member? members key := by
  have sameTest (member : String × Document) :
      (keys.contains member.1 = true ∧ decide (member.1 = key) = true) ↔ member.1 = key := by
    by_cases same : member.1 = key <;> simp [same, kept]
  simp only [member?, List.find?_filter, sameTest]

theorem member?_mapMembers (change : String → Document → Document) (key : String) :
    member? (mapMembers change members) key = (member? members key).map (change key) := by
  induction members with
  | nil => rfl
  | cons member rest inductionHypothesis =>
      by_cases same : member.1 = key
      · simp [mapMembers, member?, same]
      · simpa [mapMembers, member?, same] using inductionHypothesis

theorem member?_mapMembers_filter (change : String → Document → Document) {keys : List String}
    {key : String} (kept : key ∈ keys) :
    member? (mapMembers change (members.filter fun member => keys.contains member.1)) key =
      (member? members key).map (change key) := by
  rw [member?_mapMembers, member?_filter kept]

/-- A member with another value makes a difference under its own key only, and not even
there if the key occurs before. -/
theorem member?_replaced (earlier later : List (String × Document)) (key : String)
    (value other : Document) (wanted : String) :
    member? (earlier ++ (key, value) :: later) wanted =
        member? (earlier ++ (key, other) :: later) wanted ∨
      wanted = key ∧ member? (earlier ++ (key, value) :: later) wanted = some value ∧
        member? (earlier ++ (key, other) :: later) wanted = some other := by
  cases before : earlier.find? fun member => member.1 = wanted with
  | some member => simp [member?, before]
  | none =>
      by_cases same : key = wanted
      · simp [member?, before, same]
      · simp [member?, before, same]

end Lookup

section Items

variable {α : Type} {reading : Document → α}

/-- Two values whose items, if they are lists, are the same for their reader. -/
inductive ItemsAlike (reading : Document → α) : Document → Document → Prop where
  | same (document : Document) : ItemsAlike reading document document
  | list {items others : List Document} (alike : items.map reading = others.map reading) :
      ItemsAlike reading (.list items) (.list others)

theorem ItemsAlike.mapItems {change : Document → Document}
    (unseen : ∀ item, reading (change item) = reading item) (document : Document) :
    ItemsAlike reading (document.mapItems change) document := by
  cases document with
  | list items =>
      refine .list ?_
      rw [List.map_map]
      exact List.map_congr_left fun item _ => unseen item
  | _ => exact .same _

theorem ItemsAlike.replaced (before after : List Document) {item other : Document}
    (alike : reading item = reading other) :
    ItemsAlike reading (.list (before ++ item :: after)) (.list (before ++ other :: after)) := by
  refine .list ?_
  simp only [List.map_append, List.map_cons, alike]

theorem ItemsAlike.orEmptyList {first second : Document} (alike : ItemsAlike reading first second) :
    ItemsAlike reading first.orEmptyList second.orEmptyList := by
  cases alike with
  | same => exact .same _
  | @list items others alike =>
      have kept (items : List Document) : (Document.list items).orEmptyList = .list items := by
        cases items <;> rfl
      rw [kept, kept]
      exact .list alike

/-- A member whose value is changed in ways that the reader of its items does not see. -/
theorem ItemsAlike.memberOrNull_replaced (earlier later : List (String × Document))
    {key wanted : String} {value other : Document}
    (alike : wanted = key → ItemsAlike reading value other) :
    ItemsAlike reading (memberOrNull (earlier ++ (key, value) :: later) wanted)
      (memberOrNull (earlier ++ (key, other) :: later) wanted) := by
  unfold memberOrNull
  rcases member?_replaced earlier later key value other wanted with same | ⟨named, found, alsoFound⟩
  · rw [same]
    exact .same _
  · rw [found, alsoFound]
    exact alike named

end Items

end Nameplate.Document
