import Nameplate.Proofs.Graph.Run
import Nameplate.Proofs.Record.Fields

/-!
Updates through the registry.

An update names properties of one object.  The names are looked at before the
object is touched, and a name that passes is the name of a field that takes its
value, so the assignments that follow cannot fail half way.  What is changed is one
object, which is seen under every id and through every reference that leads to it.
-/

namespace Nameplate

namespace Field

/-- Every field of every kind. -/
def all : List Field := Kind.all.flatMap ofKind

theorem mem_all (field : Field) : field ∈ all := by
  cases field with
  | id => decide
  | text field => cases field <;> decide
  | link field => cases field <;> decide

/-- A key names the same field in every kind that has it. -/
theorem key_injective : Function.Injective key := by
  have each : ∀ first ∈ all, ∀ second ∈ all, first.key = second.key → first = second := by decide
  intro first second same
  exact each first (mem_all first) second (mem_all second) same

theorem key_notMem_reservedNames (field : Field) : field.key ∉ reservedNames := by
  have each : ∀ other ∈ all, other.key ∉ reservedNames := by decide
  exact each field (mem_all field)

end Field

namespace Change

theorem key_of_field? {change : Change} {field : Field} (about : change.field? = some field) :
    field.key = change.key := by
  cases change <;> cases about <;> rfl

/-- Whether a change that is about no field has a name that is none of a property. -/
def IsNamed (change : Change) : Prop :=
  change.field? = none → ∀ field : Field, field ≠ .id → field.key ≠ change.key

theorem IsNamed.of_field? {change : Change} {field : Field} (about : change.field? = some field) :
    change.IsNamed := by
  intro absent
  rw [about] at absent
  contradiction

theorem IsNamed.field?_eq {change : Change} (named : change.IsNamed) {field : Field}
    (notId : field ≠ .id) (sameKey : field.key = change.key) : change.field? = some field := by
  cases about : change.field? with
  | none => exact absurd sameKey (named about field notId)
  | some other =>
      have sameField : other = field := Field.key_injective ((key_of_field? about).trans sameKey.symm)
      rw [sameField]

end Change

namespace Record

theorem hasProperty_iff {record : Record} {key : String} :
    record.hasProperty key = true ↔
      ∃ field ∈ Field.ofKind record.kind, field ≠ .id ∧ field.key = key := by
  simp [hasProperty]

/-- A field that the object has takes every value of its own type. -/
theorem assign?_exists {record : Record} {change : Change} {field : Field}
    (about : change.field? = some field) (known : field ∈ Field.ofKind record.kind) :
    ∃ changed, record.assign? change = some changed := by
  rw [← Option.isSome_iff_exists]
  cases change with
  | id value => rfl
  | text other value =>
      cases about
      exact (record.setText?_isSome other value).trans (decide_eq_true known)
  | link other value =>
      cases about
      exact (record.setLink?_isSome other value).trans (decide_eq_true known)
  | other key => contradiction

/-- Of changes with different names, each one is what its field holds in the end. -/
theorem held_assignAll_of_mem {record : Record} {changes : List Change} {change : Change}
    {field : Field} (distinct : (changes.map Change.key).Nodup) (member : change ∈ changes)
    (about : change.field? = some field) (known : field ∈ Field.ofKind record.kind) :
    (record.assignAll changes).held field = change := by
  obtain ⟨earlier, later, divided⟩ := List.append_of_mem member
  subst divided
  rw [List.map_append, List.map_cons] at distinct
  have onlyHere := (List.nodup_cons.mp (List.nodup_append.mp distinct).2.1).1
  refine held_assignAll_of_last record known about ?_
  intro other isLater alsoAbout
  have sameKey := (Change.key_of_field? alsoAbout).symm.trans (Change.key_of_field? about)
  exact onlyHere (List.mem_map.mpr ⟨other, isLater, sameKey⟩)

end Record

namespace Graph

variable {graph next : Graph} {id : Int} {ref : Ref} {record changed : Record} {changes : List Change}

theorem store_self (loaded : graph.load? ref = some record) : graph.store ref record = graph := by
  obtain ⟨cells, registry, closed⟩ := graph
  obtain ⟨bound, found⟩ := List.getElem?_eq_some_iff.mp loaded
  subst record
  simp [store]

theorem store_store (graph : Graph) (ref : Ref) (first second : Record) :
    (graph.store ref first).store ref second = graph.store ref second := by
  simp [store]

theorem assign_of_assign? {change : Change} (loaded : graph.load? ref = some record)
    (assigned : record.assign? change = some changed) :
    graph.assign ref change = .ok (graph.store ref changed) := by
  simp [assign, loaded, assigned]

/-- Assigns changes to an object one after another.  One that is refused ends this, and
what was assigned before it stays assigned. -/
def assignEach (ref : Ref) (graph : Graph) : List Change → Except ChangeError Unit × Graph
  | [] => (.ok (), graph)
  | change :: rest =>
      match graph.assign ref change with
      | .ok next => next.assignEach ref rest
      | .error error => (.error error, graph)

/-- An update that is carried out in place, with the graph as it is left behind when
the update ends, also when it ends with an error. -/
def updateInPlace (graph : Graph) (id : Int) (changes : List Change) :
    Except ChangeError Unit × Graph :=
  match changes.find? fun change => reservedNames.contains change.key with
  | some change => (.error (.reservedName change.key), graph)
  | none =>
      match graph.ref? id with
      | none => (.error (.unknownId id), graph)
      | some ref =>
          match graph.load? ref with
          | none => (.error (.unknownId id), graph)
          | some record =>
              match changes.find? fun change => !record.hasProperty change.key with
              | some change => (.error (.noProperty record.kind change.key), graph)
              | none => graph.assignEach ref changes

theorem assignEach_eq (loaded : graph.load? ref = some record)
    (fits : ∀ change ∈ changes, ∃ field ∈ Field.ofKind record.kind, change.field? = some field) :
    graph.assignEach ref changes = (.ok (), graph.store ref (record.assignAll changes)) := by
  induction changes generalizing graph record with
  | nil => simp [assignEach, Record.assignAll, store_self loaded]
  | cons change rest inductionHypothesis =>
      obtain ⟨field, known, about⟩ := fits change List.mem_cons_self
      obtain ⟨changed, assigned⟩ := record.assign?_exists about known
      -- The object keeps its kind, so the fields that it had are there for the next change.
      have sameKind : changed.kind = record.kind := by
        simpa [Record.assigned, assigned] using record.kind_assigned change
      have later : ∀ other ∈ rest,
          ∃ field ∈ Field.ofKind changed.kind, other.field? = some field := by
        intro other member
        rw [sameKind]
        exact fits other (List.mem_cons_of_mem _ member)
      have front : record.assignAll (change :: rest) = changed.assignAll rest := by
        simp [Record.assignAll, assigned]
      rw [assignEach, assign_of_assign? loaded assigned]
      change (graph.store ref changed).assignEach ref rest = _
      rw [inductionHypothesis (load?_store loaded changed) later, store_store, front]

theorem exists_field_of_isNamed (named : ∀ change ∈ changes, change.IsNamed)
    (known : ∀ change ∈ changes, record.hasProperty change.key = true) :
    ∀ change ∈ changes, ∃ field ∈ Field.ofKind record.kind, change.field? = some field := by
  intro change member
  obtain ⟨field, inKind, notId, sameKey⟩ := Record.hasProperty_iff.mp (known change member)
  exact ⟨field, inKind, (named change member).field?_eq notId sameKey⟩

/-- In place or not, an update comes out the same: its assignments are never refused. -/
theorem updateInPlace_eq (graph : Graph) (id : Int) (named : ∀ change ∈ changes, change.IsNamed) :
    graph.updateInPlace id changes =
      match graph.update id changes with
      | .ok next => (.ok (), next)
      | .error error => (.error error, graph) := by
  unfold updateInPlace update
  cases reserved : changes.find? fun change => reservedNames.contains change.key with
  | some change => rfl
  | none =>
      cases graph.ref? id with
      | none => rfl
      | some ref =>
          cases loaded : graph.load? ref with
          | none => simp [loaded]
          | some record =>
              cases unknown : changes.find? fun change => !record.hasProperty change.key with
              | some change => simp [loaded, unknown]
              | none =>
                  have known : ∀ change ∈ changes, record.hasProperty change.key = true := by
                    intro change member
                    simpa using List.find?_eq_none.mp unknown change member
                  simp only [loaded, unknown]
                  exact assignEach_eq loaded (exists_field_of_isNamed named known)

theorem update_exists_iff :
    (∃ next, graph.update id changes = .ok next) ↔
      ∃ record, graph.get? id = some record ∧
        ∀ change ∈ changes, record.hasProperty change.key = true := by
  constructor
  · intro updated
    obtain ⟨next, updated⟩ := updated
    obtain ⟨ref, record, held, loaded, known, _⟩ := update_cases updated
    exact ⟨record, Option.bind_eq_some_iff.mpr ⟨ref, held, loaded⟩, known⟩
  · intro present
    obtain ⟨record, found, known⟩ := present
    obtain ⟨ref, held, loaded⟩ := Option.bind_eq_some_iff.mp found
    have unreserved : changes.find? (fun change => reservedNames.contains change.key) = none := by
      rw [List.find?_eq_none]
      intro change member reserved
      obtain ⟨field, _, _, sameKey⟩ := Record.hasProperty_iff.mp (known change member)
      rw [← sameKey] at reserved
      exact field.key_notMem_reservedNames (List.contains_iff_mem.mp reserved)
    have nothingUnknown : changes.find? (fun change => !record.hasProperty change.key) = none := by
      rw [List.find?_eq_none]
      intro change member
      simp [known change member]
    refine ⟨graph.store ref (record.assignAll changes), ?_⟩
    simp only [update, unreserved, held, loaded, nothingUnknown]

/-- One object changed from a record to another by the given values for some of its
fields, and nothing else changed.  Every id of the object shows the new record. -/
structure Updates (graph : Graph) (ref : Ref) (record changed : Record) (changes : List Change)
    (next : Graph) : Prop where
  before : graph.load? ref = some record
  after : next.load? ref = some changed
  kind : changed.kind = record.kind
  given : ∀ change ∈ changes, ∃ field ∈ Field.ofKind record.kind,
    field ≠ .id ∧ field.key = change.key ∧ changed.held field = change
  kept : ∀ field : Field, field.key ∉ changes.map Change.key →
    changed.held field = record.held field
  others : ∀ other, other ≠ ref → next.load? other = graph.load? other
  registry : next.registry = graph.registry
  shown : ∀ key, graph.ref? key = some ref → next.get? key = some changed

theorem updates_store (loaded : graph.load? ref = some record)
    (distinct : (changes.map Change.key).Nodup) (named : ∀ change ∈ changes, change.IsNamed)
    (known : ∀ change ∈ changes, record.hasProperty change.key = true) :
    graph.Updates ref record (record.assignAll changes) changes
      (graph.store ref (record.assignAll changes)) where
  before := loaded
  after := load?_store loaded _
  kind := record.kind_assignAll changes
  given change member := by
    obtain ⟨field, inKind, notId, sameKey⟩ := Record.hasProperty_iff.mp (known change member)
    have about := (named change member).field?_eq notId sameKey
    exact ⟨field, inKind, notId, sameKey,
      Record.held_assignAll_of_mem distinct member about inKind⟩
  kept field unnamed := by
    refine record.held_assignAll_of_forall_ne ?_
    intro change member about
    exact unnamed (List.mem_map.mpr ⟨change, member, (Change.key_of_field? about).symm⟩)
  others other differs := load?_store_other differs _
  registry := rfl
  shown key held := Option.bind_eq_some_iff.mpr ⟨ref, held, load?_store loaded _⟩

theorem update_atomic (graph : Graph) (id : Int) (changes : List Change)
    (distinct : (changes.map Change.key).Nodup) (named : ∀ change ∈ changes, change.IsNamed) :
    ((∃ next, graph.update id changes = .ok next) ↔
      ∃ record, graph.get? id = some record ∧ ∀ change ∈ changes,
        ∃ field ∈ Field.ofKind record.kind, field ≠ .id ∧ field.key = change.key) ∧
      (∀ error, graph.update id changes = .error error →
        graph.updateInPlace id changes = (.error error, graph)) ∧
      (∀ next, graph.update id changes = .ok next →
        graph.updateInPlace id changes = (.ok (), next) ∧
          ∃ ref record changed, graph.ref? id = some ref ∧
            graph.Updates ref record changed changes next) := by
  have inPlace := graph.updateInPlace_eq id named
  refine ⟨?_, ?_, ?_⟩
  · simp only [update_exists_iff, Record.hasProperty_iff]
  · intro error failed
    rw [inPlace, failed]
  · intro next updated
    obtain ⟨ref, record, held, loaded, known, same⟩ := update_cases updated
    refine ⟨by rw [inPlace, updated], ref, record, record.assignAll changes, held, ?_⟩
    rw [same]
    exact updates_store loaded distinct named known

/-- A sink that is registered under two ids, and its card. -/
def sharedSink : Graph where
  cells := [.node ⟨51, some "sink", none, none, none, some ⟨"Audio/Sink"⟩, some 40, none⟩,
    .device ⟨40, none, some "HDA", none⟩]
  registry := IdMap.ofList [(51, ⟨0⟩), (40, ⟨1⟩), (7, ⟨0⟩)]
  closed := by decide

/-- What is set through one id is seen through the other; one name that the sink does not
have refuses the whole update. -/
theorem update_atomic_sharedSink :
    (∃ next, sharedSink.update 7 [.text .nick (some "front"), .link .device none] = .ok next ∧
      next.registry = sharedSink.registry ∧
      next.get? 51 = some (.node
        ⟨51, some "sink", some "front", none, none, some ⟨"Audio/Sink"⟩, none, none⟩)) ∧
      sharedSink.updateInPlace 7 [.text .nick (some "front"), .other "volume", .text .name none] =
        (.error (.noProperty .node "volume"), sharedSink) := by
  have unknownName : (Change.other "volume").IsNamed := by
    intro _ field _
    have each : ∀ other ∈ Field.all, other.key ≠ "volume" := by decide
    exact each field field.mem_all
  have named : ∀ change ∈ [Change.text .nick (some "front"), .link .device none],
      change.IsNamed := by
    simp only [List.forall_mem_cons]
    exact ⟨.of_field? rfl, .of_field? rfl, by simp⟩
  have refusedNamed : ∀ change ∈
      [Change.text .nick (some "front"), .other "volume", .text .name none], change.IsNamed := by
    simp only [List.forall_mem_cons]
    exact ⟨.of_field? rfl, unknownName, .of_field? rfl, by simp⟩
  obtain ⟨_, _, succeeds⟩ := update_atomic sharedSink 7 _ (by decide) named
  obtain ⟨_, fails, _⟩ := update_atomic sharedSink 7 _ (by decide) refusedNamed
  obtain ⟨_, ref, _, _, held, updates⟩ := succeeds _ rfl
  have sameRef : (⟨0⟩ : Ref) = ref := Option.some.inj held
  subst sameRef
  exact ⟨⟨_, rfl, updates.registry, rfl⟩, fails _ rfl⟩

end Graph

end Nameplate
