/-!
Maps from ids to values that remember the order of insertion.

Storing a value under an id that is present keeps the place of the id; storing
it under a new id puts it last.  So an id that is removed and stored again
moves to the end.  No id occurs twice.
-/

namespace Nameplate

/-- Entries in order of insertion, with distinct ids. -/
structure IdMap (α : Type) where
  entries : List (Int × α)
  nodup : (entries.map Prod.fst).Nodup

namespace IdMap

variable {α β : Type}

def ids (map : IdMap α) : List Int :=
  map.entries.map Prod.fst

def values (map : IdMap α) : List α :=
  map.entries.map Prod.snd

def size (map : IdMap α) : Nat :=
  map.entries.length

def empty : IdMap α :=
  ⟨[], List.nodup_nil⟩

def find? (id : Int) : List (Int × α) → Option α
  | [] => none
  | (key, value) :: rest => if key = id then some value else find? id rest

def get? (map : IdMap α) (id : Int) : Option α :=
  find? id map.entries

def contains (map : IdMap α) (id : Int) : Bool :=
  map.ids.contains id

def put (id : Int) (value : α) : List (Int × α) → List (Int × α)
  | [] => [(id, value)]
  | (key, current) :: rest =>
      if key = id then (key, value) :: rest else (key, current) :: put id value rest

/-- The ids after storing: the same ones, or the new id behind them. -/
theorem map_fst_put (id : Int) (value : α) (entries : List (Int × α)) :
    (put id value entries).map Prod.fst =
      if id ∈ entries.map Prod.fst then entries.map Prod.fst
      else entries.map Prod.fst ++ [id] := by
  induction entries with
  | nil => simp [put]
  | cons entry rest inductionHypothesis =>
      obtain ⟨key, current⟩ := entry
      by_cases same : key = id
      · simp [put, same]
      · have differs : ¬id = key := fun equal => same equal.symm
        simp only [put, same, if_false, List.map_cons, inductionHypothesis, List.mem_cons,
          differs, false_or]
        split <;> simp

private theorem nodup_put (id : Int) (value : α) {entries : List (Int × α)}
    (distinct : (entries.map Prod.fst).Nodup) :
    ((put id value entries).map Prod.fst).Nodup := by
  rw [map_fst_put]
  split
  · exact distinct
  · rename_i absent
    rw [List.nodup_append]
    refine ⟨distinct, by simp, ?_⟩
    intro present isPresent other isOther
    rw [List.mem_singleton] at isOther
    subst isOther
    rintro rfl
    exact absent isPresent

def insert (map : IdMap α) (id : Int) (value : α) : IdMap α :=
  ⟨put id value map.entries, nodup_put id value map.nodup⟩

private theorem nodup_filter {entries : List (Int × α)} (keep : Int × α → Bool)
    (distinct : (entries.map Prod.fst).Nodup) :
    ((entries.filter keep).map Prod.fst).Nodup :=
  distinct.sublist (List.filter_sublist.map Prod.fst)

def erase (map : IdMap α) (id : Int) : IdMap α :=
  ⟨map.entries.filter fun entry => entry.1 != id, nodup_filter _ map.nodup⟩

def ofList (pairs : List (Int × α)) : IdMap α :=
  pairs.foldl (fun map pair => map.insert pair.1 pair.2) empty

private theorem nodup_filterMap (restate : α → Option β) {entries : List (Int × α)}
    (distinct : (entries.map Prod.fst).Nodup) :
    ((entries.filterMap fun entry => (restate entry.2).map (entry.1, ·)).map
      Prod.fst).Nodup := by
  induction entries with
  | nil => simp
  | cons entry rest inductionHypothesis =>
      rw [List.map_cons, List.nodup_cons] at distinct
      rw [List.filterMap_cons]
      cases restated : restate entry.2 with
      | none => exact inductionHypothesis distinct.2
      | some value =>
          simp only [Option.map_some, List.map_cons, List.nodup_cons]
          refine ⟨?_, inductionHypothesis distinct.2⟩
          intro occurs
          apply distinct.1
          simp only [List.mem_map, List.mem_filterMap, Option.map_eq_some_iff] at occurs ⊢
          obtain ⟨_, ⟨other, isOther, _, _, rfl⟩, same⟩ := occurs
          exact ⟨other, isOther, same⟩

/-- The map with its values restated, without the entries whose value has no
counterpart. -/
def filterMap (map : IdMap α) (restate : α → Option β) : IdMap β :=
  ⟨map.entries.filterMap fun entry => (restate entry.2).map (entry.1, ·),
    nodup_filterMap restate map.nodup⟩

def sortedIds (map : IdMap α) : List Int :=
  map.ids.mergeSort (· ≤ ·)

@[simp] theorem get?_empty (id : Int) : (empty : IdMap α).get? id = none := rfl

private theorem find?_put (id key : Int) (value : α) (entries : List (Int × α)) :
    find? id (put key value entries) = if key = id then some value else find? id entries := by
  induction entries with
  | nil => simp [put, find?]
  | cons entry rest inductionHypothesis =>
      obtain ⟨first, current⟩ := entry
      by_cases same : first = key
      · subst same
        by_cases hit : first = id <;> simp [put, find?, hit]
      · by_cases hit : first = id
        · subst hit
          have miss : ¬key = first := fun equal => same equal.symm
          simp [put, find?, same, miss]
        · simp [put, find?, same, hit, inductionHypothesis]

/-- What was stored last under an id is found under it, and no other id is
affected. -/
@[simp] theorem get?_insert (map : IdMap α) (key id : Int) (value : α) :
    (map.insert key value).get? id = if key = id then some value else map.get? id :=
  find?_put id key value map.entries

private theorem mem_put {id : Int} {value : α} {entries : List (Int × α)} {entry : Int × α}
    (member : entry ∈ put id value entries) : entry = (id, value) ∨ entry ∈ entries := by
  induction entries with
  | nil => simpa [put] using member
  | cons first rest inductionHypothesis =>
      obtain ⟨key, current⟩ := first
      by_cases same : key = id
      · subst same
        simp only [put, if_true, List.mem_cons] at member
        exact member.imp_right (List.mem_cons_of_mem _)
      · simp only [put, same, if_false, List.mem_cons] at member
        rcases member with rfl | later
        · exact .inr List.mem_cons_self
        · exact (inductionHypothesis later).imp_right (List.mem_cons_of_mem _)

theorem mem_entries_insert {map : IdMap α} {id : Int} {value : α} {entry : Int × α}
    (member : entry ∈ (map.insert id value).entries) :
    entry = (id, value) ∨ entry ∈ map.entries :=
  mem_put member

theorem mem_entries_erase {map : IdMap α} {id : Int} {entry : Int × α}
    (member : entry ∈ (map.erase id).entries) : entry ∈ map.entries :=
  (List.mem_filter.mp member).1

private theorem mem_entries_foldl_insert {pairs : List (Int × α)} {map : IdMap α}
    {entry : Int × α}
    (member : entry ∈ (pairs.foldl (fun map pair => map.insert pair.1 pair.2) map).entries) :
    entry ∈ pairs ∨ entry ∈ map.entries := by
  induction pairs generalizing map with
  | nil => exact .inr member
  | cons pair rest inductionHypothesis =>
      rcases inductionHypothesis member with later | earlier
      · exact .inl (List.mem_cons_of_mem _ later)
      · rcases mem_entries_insert earlier with rfl | present
        · exact .inl List.mem_cons_self
        · exact .inr present

theorem mem_entries_ofList {pairs : List (Int × α)} {entry : Int × α}
    (member : entry ∈ (ofList pairs).entries) : entry ∈ pairs :=
  (mem_entries_foldl_insert member).resolve_right (by simp [empty])

private theorem find?_filter (id key : Int) (entries : List (Int × α)) :
    find? id (entries.filter fun entry => entry.1 != key) =
      if key = id then none else find? id entries := by
  induction entries with
  | nil => simp [find?]
  | cons entry rest inductionHypothesis =>
      obtain ⟨first, current⟩ := entry
      by_cases same : first = key
      · subst same
        by_cases hit : first = id
        · subst hit; simpa [find?] using inductionHypothesis
        · simp [find?, hit, inductionHypothesis]
      · by_cases hit : first = id
        · subst hit
          have miss : ¬key = first := fun equal => same equal.symm
          simp [find?, same, miss]
        · simp [find?, same, hit, inductionHypothesis]

@[simp] theorem get?_erase (map : IdMap α) (key id : Int) :
    (map.erase key).get? id = if key = id then none else map.get? id :=
  find?_filter id key map.entries

end IdMap

end Nameplate
