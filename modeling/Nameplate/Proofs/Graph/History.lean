import Mathlib.Data.List.Induction
import Nameplate.Proofs.Graph.Run

/-!
The history of a registry.

A run files objects under ids, gives ids up again and empties the whole
registry; nothing else touches the ids.  These events, in their order, tell
everything that readers of the registry see: which object an id leads to, which
ids there are, and since when each of them has been present without a break.
-/

namespace Nameplate.Graph

/-- What happens to the ids of a registry. -/
inductive Event where
  | filed (id : Int) (ref : Ref)
  | dropped (id : Int)
  | emptied

namespace Event

def Files (id : Int) : Event → Prop
  | .filed key _ => key = id
  | .dropped _ => False
  | .emptied => False

/-- Whether an id is given up, by itself or together with all others. -/
def Drops (id : Int) : Event → Prop
  | .filed _ _ => False
  | .dropped key => key = id
  | .emptied => True

def apply (registry : IdMap Ref) : Event → IdMap Ref
  | .filed id ref => registry.insert id ref
  | .dropped id => registry.erase id
  | .emptied => IdMap.empty

end Event

def filings (graph : Graph) (refs : List Ref) : List Event :=
  (graph.identified refs).map fun (id, ref) => .filed id ref

/-- The events that an operation brings about.  Objects are filed under the ids
that they carry at that time, and a replacement empties the registry first. -/
def events (graph : Graph) : Operation → List Event
  | .make _ => []
  | .register ref => graph.filings [ref]
  | .registerAll refs => graph.filings refs
  | .replace refs => .emptied :: graph.filings refs
  | .remove id => [.dropped id]
  | .update _ _ => []
  | .clear => [.emptied]
  | .assign _ _ => []

/-- The events of a run, oldest first. -/
def history (graph : Graph) : List Operation → List Event
  | [] => []
  | operation :: rest => graph.events operation ++ (graph.perform operation).history rest

/-- The object that was filed last under an id, if the id was not given up since. -/
def LastFiled (history : List Event) (id : Int) (ref : Ref) : Prop :=
  ∃ before after, history = before ++ .filed id ref :: after ∧
    ∀ event ∈ after, ¬event.Files id ∧ ¬event.Drops id

/-- The place in history since which an id has been present: an object was filed
under it there, the id was absent before, and it was not given up since. -/
def PresentSince (history : List Event) (id : Int) (place : Nat) : Prop :=
  ∃ before ref after, history = before ++ .filed id ref :: after ∧ before.length = place ∧
    (∀ other, ¬LastFiled before id other) ∧ ∀ event ∈ after, ¬event.Drops id

section Extension

variable {history : List Event} {event : Event} {id : Int} {ref : Ref} {place : Nat}

theorem append_singleton_eq_iff {α : Type} {list before after : List α} {last element : α} :
    list ++ [last] = before ++ element :: after ↔
      (after = [] ∧ before = list ∧ element = last) ∨
        ∃ middle, after = middle ++ [last] ∧ list = before ++ element :: middle := by
  constructor
  · intro divided
    rcases List.eq_nil_or_concat after with rfl | ⟨middle, final, rfl⟩
    · obtain ⟨whole, same⟩ := List.append_inj' divided rfl
      exact .inl ⟨rfl, whole.symm, (List.cons.inj same).1.symm⟩
    · have regrouped : list ++ [last] = (before ++ element :: middle) ++ [final] := by
        simpa using divided
      obtain ⟨whole, same⟩ := List.append_inj' regrouped rfl
      exact .inr ⟨middle, by rw [(List.cons.inj same).1, List.concat_eq_append], whole⟩
  · rintro (⟨rfl, rfl, rfl⟩ | ⟨middle, rfl, rfl⟩)
    · rfl
    · rw [List.append_assoc, List.cons_append]

/-- What one more event does to the object that was filed last. -/
theorem lastFiled_append_singleton :
    LastFiled (history ++ [event]) id ref ↔
      event = .filed id ref ∨ (LastFiled history id ref ∧ ¬event.Files id ∧ ¬event.Drops id) := by
  constructor
  · rintro ⟨before, after, divided, kept⟩
    rcases append_singleton_eq_iff.mp divided with ⟨_, _, same⟩ | ⟨middle, rfl, earlier⟩
    · exact .inl same.symm
    · refine .inr ⟨⟨before, middle, earlier, ?_⟩, kept event (by simp)⟩
      exact fun other member => kept other (List.mem_append_left _ member)
  · rintro (rfl | ⟨⟨before, after, rfl, kept⟩, untouched⟩)
    · exact ⟨history, [], rfl, by simp⟩
    · refine ⟨before, after ++ [event], by simp, ?_⟩
      intro other member
      rcases List.mem_append.mp member with earlier | last
      · exact kept other earlier
      · rw [List.mem_singleton.mp last]
        exact untouched

/-- What one more event does to the place since which an id is present. -/
theorem presentSince_append_singleton :
    PresentSince (history ++ [event]) id place ↔
      ((∃ ref, event = .filed id ref) ∧ place = history.length ∧
          ∀ other, ¬LastFiled history id other) ∨
        (PresentSince history id place ∧ ¬event.Drops id) := by
  constructor
  · rintro ⟨before, ref, after, divided, counted, absent, kept⟩
    rcases append_singleton_eq_iff.mp divided with ⟨_, rfl, same⟩ | ⟨middle, rfl, earlier⟩
    · exact .inl ⟨⟨ref, same.symm⟩, counted.symm, absent⟩
    · refine .inr ⟨⟨before, ref, middle, earlier, counted, absent, ?_⟩, kept event (by simp)⟩
      exact fun other member => kept other (List.mem_append_left _ member)
  · rintro (⟨⟨ref, rfl⟩, rfl, absent⟩ | ⟨⟨before, ref, after, rfl, counted, absent, kept⟩, remains⟩)
    · exact ⟨history, ref, [], rfl, rfl, absent, by simp⟩
    · refine ⟨before, ref, after ++ [event], by simp, counted, absent, ?_⟩
      intro other member
      rcases List.mem_append.mp member with earlier | last
      · exact kept other earlier
      · rw [List.mem_singleton.mp last]
        exact remains

theorem PresentSince.lt_length (present : PresentSince history id place) :
    place < history.length := by
  obtain ⟨before, ref, after, rfl, rfl, _, _⟩ := present
  simp

theorem presentSince_filed {key : Int} :
    PresentSince (history ++ [.filed key ref]) id place ↔
      (key = id ∧ place = history.length ∧ ∀ other, ¬LastFiled history id other) ∨
        PresentSince history id place := by
  simp [presentSince_append_singleton, Event.Drops]

/-- An id leads to an object exactly if it has been present since some event. -/
theorem exists_lastFiled_iff :
    (∃ ref, LastFiled history id ref) ↔ ∃ place, PresentSince history id place := by
  induction history using List.reverseRecOn with
  | nil => simp [LastFiled, PresentSince]
  | append_singleton history event inductionHypothesis =>
      simp only [lastFiled_append_singleton, presentSince_append_singleton]
      constructor
      · rintro ⟨ref, rfl | ⟨filed, _, remains⟩⟩
        · by_cases already : ∃ other, LastFiled history id other
          · obtain ⟨place, present⟩ := inductionHypothesis.mp already
            exact ⟨place, .inr ⟨present, fun impossible => impossible⟩⟩
          · exact ⟨history.length, .inl ⟨⟨ref, rfl⟩, rfl, not_exists.mp already⟩⟩
        · obtain ⟨place, present⟩ := inductionHypothesis.mp ⟨ref, filed⟩
          exact ⟨place, .inr ⟨present, remains⟩⟩
      · rintro ⟨place, ⟨⟨ref, rfl⟩, _⟩ | ⟨present, remains⟩⟩
        · exact ⟨ref, .inl rfl⟩
        · obtain ⟨ref, filed⟩ := inductionHypothesis.mpr ⟨place, present⟩
          cases event with
          | filed key other =>
              by_cases same : key = id
              · exact ⟨other, .inl (by rw [same])⟩
              · exact ⟨ref, .inr ⟨filed, same, remains⟩⟩
          | dropped key => exact ⟨ref, .inr ⟨filed, fun impossible => impossible, remains⟩⟩
          | emptied => exact absurd trivial remains

end Extension

/-- A registry shows what its history says: the object that was filed last under
each id, and the ids in the order in which they became present. -/
structure Tracks (history : List Event) (registry : IdMap Ref) : Prop where
  found (id : Int) (ref : Ref) : registry.get? id = some ref ↔ LastFiled history id ref
  ordered : registry.ids.Pairwise fun former later => ∀ place next,
    PresentSince history former place → PresentSince history later next → place < next

namespace Tracks

variable {history : List Event} {registry : IdMap Ref}

theorem empty : Tracks [] IdMap.empty where
  found id ref := by simp [LastFiled]
  ordered := List.Pairwise.nil

theorem mem_ids_iff (tracks : Tracks history registry) {id : Int} :
    id ∈ registry.ids ↔ ∃ ref, LastFiled history id ref := by
  rw [IdMap.mem_ids_iff]
  exact exists_congr fun ref => tracks.found id ref

theorem filed (tracks : Tracks history registry) (id : Int) (ref : Ref) :
    Tracks (history ++ [.filed id ref]) (registry.insert id ref) where
  found key other := by
    rw [IdMap.get?_insert, lastFiled_append_singleton, ← tracks.found]
    by_cases same : id = key
    · simp [same, Event.Files]
    · simp [same, Event.Files, Event.Drops]
  ordered := by
    rw [IdMap.ids_insert]
    -- An id that is there keeps its place; a new one comes after all that are there.
    split
    · rename_i present
      obtain ⟨held, filed⟩ := tracks.mem_ids_iff.mp present
      have unchanged {key : Int} {place : Nat}
          (since : PresentSince (history ++ [.filed id ref]) key place) :
          PresentSince history key place := by
        rcases presentSince_filed.mp since with ⟨rfl, _, absent⟩ | earlier
        · exact absurd filed (absent held)
        · exact earlier
      exact tracks.ordered.imp fun before place next former later =>
        before place next (unchanged former) (unchanged later)
    · rename_i absent
      have unchanged {key : Int} {place : Nat} (member : key ∈ registry.ids)
          (since : PresentSince (history ++ [.filed id ref]) key place) :
          PresentSince history key place := by
        rcases presentSince_filed.mp since with ⟨rfl, _, _⟩ | earlier
        · exact absurd member absent
        · exact earlier
      rw [List.pairwise_append]
      refine ⟨?_, List.pairwise_singleton _ _, ?_⟩
      · refine tracks.ordered.imp_of_mem ?_
        intro former later isFormer isLater before place next first second
        exact before place next (unchanged isFormer first) (unchanged isLater second)
      · intro former isFormer later isNew place next first second
        rw [List.mem_singleton] at isNew
        subst isNew
        rcases presentSince_filed.mp second with ⟨_, last, _⟩ | earlier
        · rw [last]
          exact (unchanged isFormer first).lt_length
        · exact absurd (tracks.mem_ids_iff.mpr (exists_lastFiled_iff.mpr ⟨next, earlier⟩)) absent

theorem dropped (tracks : Tracks history registry) (id : Int) :
    Tracks (history ++ [.dropped id]) (registry.erase id) where
  found key ref := by
    rw [IdMap.get?_erase, lastFiled_append_singleton, ← tracks.found]
    by_cases same : id = key <;> simp [same, Event.Files, Event.Drops]
  ordered := by
    rw [IdMap.ids_erase]
    refine (tracks.ordered.filter _).imp ?_
    intro former later before place next first second
    simp only [presentSince_append_singleton, reduceCtorEq, exists_false, false_and,
      false_or] at first second
    exact before place next first.1 second.1

theorem emptied (history : List Event) : Tracks (history ++ [.emptied]) IdMap.empty where
  found id ref := by simp [lastFiled_append_singleton, Event.Drops]
  ordered := List.Pairwise.nil

theorem apply (tracks : Tracks history registry) (event : Event) :
    Tracks (history ++ [event]) (event.apply registry) := by
  cases event with
  | filed id ref => exact tracks.filed id ref
  | dropped id => exact tracks.dropped id
  | emptied => exact .emptied history

theorem foldl_apply (tracks : Tracks history registry) (events : List Event) :
    Tracks (history ++ events) (events.foldl Event.apply registry) := by
  induction events generalizing history registry with
  | nil => simpa using tracks
  | cons event rest inductionHypothesis =>
      have step := inductionHypothesis (tracks.apply event)
      rwa [List.append_assoc, List.singleton_append] at step

end Tracks

theorem foldl_apply_filings (graph : Graph) (refs : List Ref) (registry : IdMap Ref) :
    (graph.filings refs).foldl Event.apply registry =
      (graph.identified refs).foldl (fun map pair => map.insert pair.1 pair.2) registry := by
  rw [filings, List.foldl_map]
  rfl

/-- What an operation does to the registry is told by its events. -/
theorem registry_perform (graph : Graph) (operation : Operation) :
    (graph.perform operation).registry =
      (graph.events operation).foldl Event.apply graph.registry := by
  cases operation with
  | make record => rfl
  | register ref =>
      rw [events, foldl_apply_filings, ← registry_foldl_put]
      rfl
  | registerAll refs =>
      rw [events, foldl_apply_filings, ← registry_foldl_put, perform, Operation.outcome,
        outcome_registerAll]
  | replace refs =>
      rw [events, List.foldl_cons, foldl_apply_filings]
      rfl
  | remove id => rfl
  | update id changes =>
      rw [perform]
      split
      · rename_i next updated
        obtain ⟨ref, record, _, _, _, rfl⟩ := update_cases updated
        rfl
      · rfl
  | clear => rfl
  | assign ref change =>
      rw [perform]
      split
      · rename_i next assigned
        rcases assign_cases assigned with ⟨_, rfl⟩ | ⟨record, changed, _, _, rfl⟩
        · rfl
        · rfl
      · rfl

theorem registry_run (graph : Graph) (operations : List Operation) :
    (graph.run operations).registry =
      (graph.history operations).foldl Event.apply graph.registry := by
  induction operations generalizing graph with
  | nil => rfl
  | cons operation rest inductionHypothesis =>
      rw [history, List.foldl_append, ← registry_perform]
      exact inductionHypothesis (graph.perform operation)

theorem tracks_run (operations : List Operation) :
    Tracks (Graph.empty.history operations) (Graph.empty.run operations).registry := by
  rw [registry_run]
  exact Tracks.empty.foldl_apply _

end Nameplate.Graph

namespace Nameplate

section Kinds

theorem perm_filter_kinds (records : List Record) :
    (records.filter (fun record => record.kind = .device) ++
      records.filter (fun record => record.kind = .node) ++
      records.filter (fun record => record.kind = .client)).Perm records := by
  induction records with
  | nil => exact .refl []
  | cons record rest inductionHypothesis =>
      cases record with
      | device device => simpa [Record.kind] using inductionHypothesis.cons (.device device)
      | node node =>
          simp only [Record.kind, List.filter_cons, reduceCtorEq, decide_false, decide_true,
            Bool.false_eq_true, if_true, if_false, List.append_assoc, List.cons_append]
          rw [List.append_assoc] at inductionHypothesis
          exact List.perm_middle.trans (inductionHypothesis.cons _)
      | client client =>
          simp only [Record.kind, List.filter_cons, reduceCtorEq, decide_false, decide_true,
            Bool.false_eq_true, if_true, if_false]
          exact List.perm_middle.trans (inductionHypothesis.cons _)

theorem map_filterMap_eq_filter {α : Type} {kind : Kind} {pick : Record → Option α}
    {restore : α → Record} (picks : ∀ record, (pick record).map restore =
      if record.kind = kind then some record else none) (records : List Record) :
    (records.filterMap pick).map restore = records.filter fun record => record.kind = kind := by
  rw [List.map_filterMap, funext picks, ← List.filterMap_eq_filter]
  congr
  funext record
  simp [Option.guard]

theorem Catalog.map_devices (catalog : Catalog) : catalog.devices.map Record.device =
    catalog.values.filter fun record => record.kind = .device :=
  map_filterMap_eq_filter (fun record => by cases record <;> rfl) catalog.values

theorem Catalog.map_nodes (catalog : Catalog) : catalog.nodes.map Record.node =
    catalog.values.filter fun record => record.kind = .node :=
  map_filterMap_eq_filter (fun record => by cases record <;> rfl) catalog.values

theorem Catalog.map_clients (catalog : Catalog) : catalog.clients.map Record.client =
    catalog.values.filter fun record => record.kind = .client :=
  map_filterMap_eq_filter (fun record => by cases record <;> rfl) catalog.values

end Kinds

namespace Graph

/-- Readers of a registry see what its history says.  Objects are listed by kind,
in the order in which their ids became present. -/
structure Follows (graph : Graph) (history : List Event) : Prop where
  ref?_iff (id : Int) (ref : Ref) : graph.ref? id = some ref ↔ LastFiled history id ref
  get?_iff (id : Int) (record : Record) : graph.get? id = some record ↔
    ∃ ref, LastFiled history id ref ∧ graph.load? ref = some record
  get?_eq_none_iff (id : Int) : graph.get? id = none ↔ ∀ ref, ¬LastFiled history id ref
  contains_iff (id : Int) : graph.registry.contains id = true ↔ ∃ ref, LastFiled history id ref
  size_eq : graph.registry.size = graph.registry.sortedIds.length
  ascending : graph.registry.sortedIds.Pairwise (· < ·)
  mem_sortedIds_iff (id : Int) : id ∈ graph.registry.sortedIds ↔ ∃ ref, LastFiled history id ref
  arranged : ∃ (order : List Int) (records : List Record),
    (∀ id, id ∈ order ↔ ∃ place, PresentSince history id place) ∧
    order.Pairwise (fun former later => ∀ place next,
      PresentSince history former place → PresentSince history later next → place < next) ∧
    order.map graph.get? = records.map some ∧
    graph.catalog.devices.map Record.device = records.filter (fun record => record.kind = .device) ∧
    graph.catalog.nodes.map Record.node = records.filter (fun record => record.kind = .node) ∧
    graph.catalog.clients.map Record.client = records.filter (fun record => record.kind = .client) ∧
    (graph.catalog.devices.map Record.device ++ graph.catalog.nodes.map Record.node ++
      graph.catalog.clients.map Record.client).Perm records

theorem map_get?_ids (graph : Graph) :
    graph.registry.ids.map graph.get? = graph.catalog.values.map some := by
  rw [← ids_catalog, ← funext graph.get?_catalog]
  exact graph.catalog.map_get?_ids

theorem Tracks.follows {graph : Graph} {history : List Event}
    (tracks : Tracks history graph.registry) : graph.Follows history where
  ref?_iff := tracks.found
  get?_iff id record := by
    rw [get?, Option.bind_eq_some_iff]
    exact exists_congr fun ref => and_congr_left' (tracks.found id ref)
  get?_eq_none_iff id := by
    constructor
    · intro missing ref filed
      have held := (tracks.found id ref).mpr filed
      obtain ⟨record, loaded⟩ := load?_exists held
      rw [get?, ref?, held, Option.bind_some, loaded] at missing
      contradiction
    · intro absent
      have unheld : graph.ref? id = none := by
        rw [Option.eq_none_iff_forall_ne_some]
        exact fun ref held => absent ref ((tracks.found id ref).mp held)
      rw [get?, unheld, Option.bind_none]
  contains_iff id := by rw [IdMap.contains_iff, tracks.mem_ids_iff]
  size_eq := graph.registry.length_sortedIds.symm
  ascending := graph.registry.pairwise_sortedIds
  mem_sortedIds_iff id := by rw [IdMap.mem_sortedIds_iff, tracks.mem_ids_iff]
  arranged := by
    refine ⟨graph.registry.ids, graph.catalog.values, ?_, tracks.ordered, graph.map_get?_ids,
      graph.catalog.map_devices, graph.catalog.map_nodes, graph.catalog.map_clients, ?_⟩
    · intro id
      rw [tracks.mem_ids_iff, exists_lastFiled_iff]
    · rw [graph.catalog.map_devices, graph.catalog.map_nodes, graph.catalog.map_clients]
      exact perm_filter_kinds graph.catalog.values

theorem follows_run (operations : List Operation) :
    (Graph.empty.run operations).Follows (Graph.empty.history operations) :=
  (tracks_run operations).follows

/-- Registering an id again keeps its place, unless it was removed in between. -/
example :
    let graph := Graph.empty.extend [.client ⟨4, none, none⟩, .client ⟨2, none, none⟩]
    (graph.run [.registerAll [⟨0⟩, ⟨1⟩], .register ⟨0⟩]).registry.ids = [4, 2] ∧
      (graph.run [.registerAll [⟨0⟩, ⟨1⟩], .remove 4, .register ⟨0⟩]).registry.ids = [2, 4] :=
  ⟨rfl, rfl⟩

end Graph

end Nameplate
