import Mathlib.Data.List.Induction
import Nameplate.IdMap

/-!
What a map of ids holds.

No id has two entries, so the value found under an id is the value of its one
entry.  The ids in ascending order are strictly ascending.  A list of pairs with
distinct ids is stored entry by entry; if ids repeat, the first pair of an id gives its
place and the last one its value.
-/

namespace Nameplate.IdMap

variable {α β : Type}

private theorem find?_eq_some_iff {entries : List (Int × α)}
    (distinct : (entries.map Prod.fst).Nodup) {id : Int} {value : α} :
    find? id entries = some value ↔ (id, value) ∈ entries := by
  induction entries with
  | nil => simp [find?]
  | cons entry rest inductionHypothesis =>
      obtain ⟨key, current⟩ := entry
      rw [List.map_cons, List.nodup_cons] at distinct
      by_cases same : key = id
      · subst same
        have absent : (key, value) ∉ rest := fun member =>
          distinct.1 (List.mem_map.mpr ⟨_, member, rfl⟩)
        simp [find?, absent, eq_comm]
      · have differs : ¬id = key := fun equal => same equal.symm
        simp [find?, same, differs, inductionHypothesis distinct.2]

theorem get?_eq_some_iff {map : IdMap α} {id : Int} {value : α} :
    map.get? id = some value ↔ (id, value) ∈ map.entries :=
  find?_eq_some_iff map.nodup

theorem mem_ids_iff {map : IdMap α} {id : Int} :
    id ∈ map.ids ↔ ∃ value, map.get? id = some value := by
  simp only [ids, List.mem_map, get?_eq_some_iff]
  constructor
  · rintro ⟨⟨key, value⟩, member, rfl⟩
    exact ⟨value, member⟩
  · rintro ⟨value, member⟩
    exact ⟨(id, value), member, rfl⟩

theorem contains_iff {map : IdMap α} {id : Int} : map.contains id = true ↔ id ∈ map.ids :=
  List.contains_iff_mem

theorem contains_eq_isSome (map : IdMap α) (id : Int) :
    map.contains id = (map.get? id).isSome := by
  rw [Bool.eq_iff_iff, contains_iff, mem_ids_iff, Option.isSome_iff_exists]

theorem mem_sortedIds_iff {map : IdMap α} {id : Int} : id ∈ map.sortedIds ↔ id ∈ map.ids :=
  List.mem_mergeSort

theorem length_sortedIds (map : IdMap α) : map.sortedIds.length = map.size := by
  rw [sortedIds, List.length_mergeSort, ids, List.length_map, size]

theorem pairwise_sortedIds (map : IdMap α) : map.sortedIds.Pairwise (· < ·) := by
  have ascending : map.sortedIds.Pairwise fun left right => decide (left ≤ right) = true :=
    List.pairwise_mergeSort (fun _ _ _ => by simp; omega) (fun _ _ => by simp; omega) map.ids
  have distinct : map.sortedIds.Nodup :=
    (List.mergeSort_perm map.ids _).nodup_iff.mpr map.nodup
  refine (ascending.and distinct).imp ?_
  rintro left right ⟨ordered, differs⟩
  have bound := of_decide_eq_true ordered
  omega

theorem ids_insert (map : IdMap α) (id : Int) (value : α) :
    (map.insert id value).ids = if id ∈ map.ids then map.ids else map.ids ++ [id] :=
  map_fst_put id value map.entries

theorem ids_erase (map : IdMap α) (id : Int) :
    (map.erase id).ids = map.ids.filter fun key => key != id := by
  rw [ids, ids, List.filter_map]
  rfl

/-- Maps that hold the same value under every id have the same ids. -/
theorem sortedIds_eq_of_get?_eq {first second : IdMap α}
    (same : ∀ id, first.get? id = second.get? id) : first.sortedIds = second.sortedIds := by
  have members (id : Int) : id ∈ first.ids ↔ id ∈ second.ids := by
    simp only [mem_ids_iff, same]
  have arranged : first.ids.Perm second.ids :=
    (List.perm_ext_iff_of_nodup first.nodup second.nodup).mpr members
  have sorted : first.sortedIds.Perm second.sortedIds :=
    (List.mergeSort_perm _ _).trans (arranged.trans (List.mergeSort_perm _ _).symm)
  refine sorted.eq_of_pairwise ?_ first.pairwise_sortedIds second.pairwise_sortedIds
  intro left right _ _ less more
  omega

theorem map_get?_ids (map : IdMap α) : map.ids.map map.get? = map.values.map some := by
  rw [ids, values, List.map_map, List.map_map]
  exact List.map_congr_left fun entry member => get?_eq_some_iff.mpr member

theorem get?_filterMap (map : IdMap α) (restate : α → Option β) (id : Int) :
    (map.filterMap restate).get? id = (map.get? id).bind restate := by
  ext value
  rw [get?_eq_some_iff, Option.bind_eq_some_iff]
  simp only [filterMap, List.mem_filterMap, Option.map_eq_some_iff, get?_eq_some_iff]
  constructor
  · rintro ⟨⟨key, held⟩, member, restated, found, same⟩
    cases same
    exact ⟨held, member, found⟩
  · rintro ⟨held, member, found⟩
    exact ⟨(id, held), member, value, found, rfl⟩

private theorem map_fst_filterMap {restate : α → Option β} {entries : List (Int × α)}
    (total : ∀ entry ∈ entries, ∃ value, restate entry.2 = some value) :
    (entries.filterMap fun entry => (restate entry.2).map (entry.1, ·)).map Prod.fst =
      entries.map Prod.fst := by
  induction entries with
  | nil => rfl
  | cons entry rest inductionHypothesis =>
      obtain ⟨value, restated⟩ := total entry List.mem_cons_self
      have later := inductionHypothesis fun other member =>
        total other (List.mem_cons_of_mem _ member)
      rw [List.filterMap_cons, restated]
      exact congrArg (entry.1 :: ·) later

/-- Restating every value keeps every id at its place. -/
theorem ids_filterMap {map : IdMap α} {restate : α → Option β}
    (total : ∀ entry ∈ map.entries, ∃ value, restate entry.2 = some value) :
    (map.filterMap restate).ids = map.ids :=
  map_fst_filterMap total

theorem put_eq_append {id : Int} {value : α} {entries : List (Int × α)}
    (isNew : id ∉ entries.map Prod.fst) : put id value entries = entries ++ [(id, value)] := by
  induction entries with
  | nil => rfl
  | cons entry rest inductionHypothesis =>
      rw [List.map_cons, List.mem_cons, not_or] at isNew
      have differs : ¬entry.1 = id := fun equal => isNew.1 equal.symm
      rw [put, if_neg differs, inductionHypothesis isNew.2, List.cons_append]

theorem entries_foldl_insert {pairs : List (Int × α)} {map : IdMap α}
    (distinct : ((map.entries ++ pairs).map Prod.fst).Nodup) :
    (pairs.foldl (fun map pair => map.insert pair.1 pair.2) map).entries =
      map.entries ++ pairs := by
  induction pairs generalizing map with
  | nil => simp
  | cons pair rest inductionHypothesis =>
      have isNew : pair.1 ∉ map.entries.map Prod.fst := by
        rw [List.map_append, List.nodup_append] at distinct
        exact fun present => distinct.2.2 _ present _ List.mem_cons_self rfl
      have stored : (map.insert pair.1 pair.2).entries = map.entries ++ [pair] :=
        put_eq_append isNew
      have shape : (map.insert pair.1 pair.2).entries ++ rest = map.entries ++ pair :: rest := by
        rw [stored, List.append_assoc, List.singleton_append]
      rw [List.foldl_cons, inductionHypothesis (by rwa [shape]), shape]

theorem entries_ofList {pairs : List (Int × α)} (distinct : (pairs.map Prod.fst).Nodup) :
    (ofList pairs).entries = pairs :=
  entries_foldl_insert distinct

theorem ofList_append_singleton (pairs : List (Int × α)) (pair : Int × α) :
    ofList (pairs ++ [pair]) = (ofList pairs).insert pair.1 pair.2 := by
  rw [ofList, List.foldl_append]
  rfl

/-- Pairs that are stored one after another leave every id at the place of its first
pair. -/
theorem ids_ofList (pairs : List (Int × α)) :
    (ofList pairs).ids = (pairs.map Prod.fst).eraseDups := by
  induction pairs using List.reverseRecOn with
  | nil => rfl
  | append_singleton pairs pair inductionHypothesis =>
      rw [ofList_append_singleton, ids_insert, inductionHypothesis, List.map_append,
        List.eraseDups_append, List.map_singleton]
      by_cases present : pair.1 ∈ pairs.map Prod.fst
      · have known : pair.1 ∈ (pairs.map Prod.fst).eraseDups := List.mem_eraseDups.mpr present
        have dropped : [pair.1].removeAll (pairs.map Prod.fst) = [] := by
          simpa [List.removeAll] using present
        rw [if_pos known, dropped, List.eraseDups_nil, List.append_nil]
      · have isNew : pair.1 ∉ (pairs.map Prod.fst).eraseDups := by rwa [List.mem_eraseDups]
        have kept : [pair.1].removeAll (pairs.map Prod.fst) = [pair.1] := by
          simpa [List.removeAll] using present
        rw [if_neg isNew, kept, List.eraseDups_cons, List.filter_nil, List.eraseDups_nil]

/-- Pairs that are stored one after another leave every id with the value of its last
pair. -/
theorem get?_ofList (pairs : List (Int × α)) (id : Int) :
    (ofList pairs).get? id = pairs.reverse.lookup id := by
  induction pairs using List.reverseRecOn with
  | nil => rfl
  | append_singleton pairs pair inductionHypothesis =>
      rw [ofList_append_singleton, get?_insert, inductionHypothesis, List.reverse_append,
        List.reverse_singleton, List.singleton_append, List.lookup_cons]
      by_cases same : pair.1 = id
      · simp [same]
      · have differs : (id == pair.1) = false := beq_false_of_ne fun equal => same equal.symm
        rw [if_neg same, differs]

end Nameplate.IdMap
