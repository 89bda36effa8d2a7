import Nameplate.Category
import Nameplate.Graph.MediaClasses
import Nameplate.Proofs.Graph.Updates
import Nameplate.Proofs.MediaClass.Components
import Nameplate.Proofs.Snapshot.Records

/-!
The classification of nodes.

The two forms in which objects keep their media classes always show the text that the
record has, and a node is classified by that text alone.
-/

namespace Nameplate

namespace KeptClass

@[simp] theorem text_wrap (kept : KeptClass) : kept.wrap.text = kept.text := by
  cases kept <;> rfl

@[simp] theorem text_given (wrapping : Bool) (text : String) : (given wrapping text).text = text := by
  cases wrapping <;> rfl

theorem isEndpoint_eq (kept : KeptClass) : kept.isEndpoint = MediaClass.isEndpoint ⟨kept.text⟩ := by
  cases kept <;> rfl

theorem map_text_map_wrap (kept : Option KeptClass) :
    (kept.map wrap).map text = kept.map text := by
  simp [Function.comp_def]

theorem map_text_map_given (wrapping : Bool) (value : Option String) :
    (value.map (given wrapping)).map text = value := by
  simp [Function.comp_def]

end KeptClass

namespace Change

theorem exists_of_field?_text {change : Change} {field : TextField}
    (about : change.field? = some (.text field)) : ∃ value, change = .text field value := by
  cases change <;> cases about
  exact ⟨_, rfl⟩

theorem classOver_of_field?_ne {wrapping : Bool} {kept : Option KeptClass} {change : Change}
    (elsewhere : change.field? ≠ some (.text .mediaClass)) :
    change.classOver wrapping kept = kept := by
  unfold classOver
  split
  · exact absurd rfl elsewhere
  · rfl

end Change

namespace Record

/-- Whether a change is about a media class only if the object has one. -/
def Fits (record : Record) (change : Change) : Prop :=
  change.field? = some (.text .mediaClass) → .text .mediaClass ∈ Field.ofKind record.kind

section Assigning

variable {record changed : Record} {change : Change} {changes : List Change} {wrapping : Bool}
  {kept : Option KeptClass}

/-- A property that is there under the key of a field is this field. -/
theorem mem_ofKind_of_hasProperty {field : Field} (about : change.field? = some field)
    (known : record.hasProperty change.key = true) : field ∈ Field.ofKind record.kind := by
  obtain ⟨other, inKind, _, sameKey⟩ := hasProperty_iff.mp known
  have sameField := Field.key_injective (sameKey.trans (Change.key_of_field? about).symm)
  rwa [sameField] at inKind

theorem assigned_of_assign? (taken : record.assign? change = some changed) :
    record.assigned change = changed := by
  rw [assigned, taken, Option.getD_some]

theorem fits_of_assign? (assigned : record.assign? change = some changed) : record.Fits change := by
  intro about
  obtain ⟨value, same⟩ := Change.exists_of_field?_text about
  subst same
  have settable := record.setText?_isSome .mediaClass value
  rw [assign?] at assigned
  rw [assigned] at settable
  exact of_decide_eq_true settable.symm

theorem Fits.of_kind_eq (fits : record.Fits change) (sameKind : changed.kind = record.kind) :
    changed.Fits change := by
  intro about
  rw [sameKind]
  exact fits about

/-- One assignment keeps the form and the record in step. -/
theorem map_text_classOver (fits : record.Fits change)
    (shown : kept.map KeptClass.text = record.text? .mediaClass) :
    (change.classOver wrapping kept).map KeptClass.text =
      (record.assigned change).text? .mediaClass := by
  have held := record.held_assigned change (.text .mediaClass)
  by_cases about : change.field? = some (.text .mediaClass)
  · rw [if_pos ⟨about, fits about⟩] at held
    obtain ⟨value, same⟩ := Change.exists_of_field?_text about
    subst same
    exact (KeptClass.map_text_map_given wrapping value).trans (Change.text.inj held).2.symm
  · rw [if_neg (fun both => about both.1)] at held
    rw [Change.classOver_of_field?_ne about, shown]
    exact (Change.text.inj held).2.symm

theorem map_text_foldl_classOver (fits : ∀ change ∈ changes, record.Fits change)
    (shown : kept.map KeptClass.text = record.text? .mediaClass) :
    (changes.foldl (Change.classOver wrapping) kept).map KeptClass.text =
      (record.assignAll changes).text? .mediaClass := by
  induction changes generalizing record kept with
  | nil => exact shown
  | cons change rest inductionHypothesis =>
      have later : ∀ other ∈ rest, (record.assigned change).Fits other := by
        intro other member
        exact (fits other (List.mem_cons_of_mem _ member)).of_kind_eq (record.kind_assigned change)
      exact inductionHypothesis later (map_text_classOver (fits change List.mem_cons_self) shown)

end Assigning

end Record

namespace KeptGraph

/-- Whether what each object keeps shows the text that its record has. -/
def Agrees (state : KeptGraph) : Prop :=
  ∀ ref record, state.graph.load? ref = some record →
    (state.classes ref).map KeptClass.text = record.text? .mediaClass

theorem agrees_empty : empty.Agrees := by
  intro ref record loaded
  contradiction

namespace Agrees

variable {state : KeptGraph} {graph : Graph} {ref : Ref} {record stored : Record}
  {kept : Option KeptClass}

theorem of_load?_eq (agrees : state.Agrees)
    (same : ∀ ref, graph.load? ref = state.graph.load? ref) :
    Agrees ⟨graph, state.classes⟩ := by
  intro ref record loaded
  exact agrees ref record ((same ref).symm.trans loaded)

/-- New objects keep what their constructors wrapped; the others are as they were. -/
theorem withNew (agrees : state.Agrees) {records : List Record}
    (extended : graph.cells = state.graph.cells ++ records) :
    Agrees ⟨graph, state.classesWithNew records⟩ := by
  intro ref record loaded
  rw [Graph.load?, extended, List.getElem?_append] at loaded
  change (state.classesWithNew records ref).map KeptClass.text = _
  rw [classesWithNew]
  split at loaded
  · rename_i earlier
    rw [if_pos earlier]
    exact agrees ref record loaded
  · rename_i new
    rw [if_neg new, loaded, Option.bind_some, Record.madeClass, KeptClass.map_text_map_given]

theorem store (agrees : state.Agrees) (loaded : state.graph.load? ref = some record)
    (shown : kept.map KeptClass.text = stored.text? .mediaClass) :
    Agrees ⟨state.graph.store ref stored, state.classesWith ref kept⟩ := by
  intro other found loadedAfter
  by_cases same : other = ref
  · subst same
    have isStored := (Graph.load?_store loaded stored).symm.trans loadedAfter
    cases isStored
    simpa [classesWith] using shown
  · have before := (Graph.load?_store_other same stored).symm.trans loadedAfter
    simpa [classesWith, same] using agrees other found before

theorem operate (agrees : state.Agrees) (operation : Operation) (wrapping : Bool) :
    (state.act (.operate operation wrapping)).Agrees := by
  cases operation with
  | make record => exact agrees.withNew rfl
  | register ref => exact agrees.of_load?_eq (state.graph.load?_put ref)
  | registerAll refs =>
      refine agrees.of_load?_eq ?_
      intro ref
      rw [Graph.perform, Operation.outcome, Graph.outcome_registerAll]
      exact state.graph.load?_foldl_put refs ref
  | replace refs => exact agrees.of_load?_eq fun _ => rfl
  | remove id => exact agrees.of_load?_eq fun _ => rfl
  | clear => exact agrees.of_load?_eq fun _ => rfl
  | update id changes =>
      simp only [act, classesAfter, Graph.perform, Operation.outcome]
      cases updated : state.graph.update id changes with
      | error error => exact agrees
      | ok next =>
          obtain ⟨ref, record, held, loaded, known, same⟩ := Graph.update_cases updated
          subst same
          simp only [held]
          refine agrees.store loaded ?_
          rw [KeptClass.map_text_map_wrap]
          exact Record.map_text_foldl_classOver
            (fun change member about => Record.mem_ofKind_of_hasProperty about (known change member))
            (agrees ref record loaded)
  | assign ref change =>
      simp only [act, classesAfter, Graph.perform, Operation.outcome]
      cases assigned : state.graph.assign ref change with
      | error error => exact agrees
      | ok next =>
          obtain ⟨missing, same⟩ | ⟨record, changed, loaded, taken, same⟩ :=
            Graph.assign_cases assigned
          · subst same
            intro other found loaded
            have differs : other ≠ ref := by
              intro equal
              subst equal
              exact absurd (missing.symm.trans loaded) (by simp)
            simpa [classesWith, differs] using agrees other found loaded
          · subst same
            refine agrees.store loaded ?_
            rw [← Record.assigned_of_assign? taken]
            exact Record.map_text_classOver (Record.fits_of_assign? taken)
              (agrees ref record loaded)

theorem act (agrees : state.Agrees) (action : Action) : (state.act action).Agrees := by
  cases action with
  | operate operation wrapping => exact agrees.operate operation wrapping
  | load catalog => exact agrees.withNew rfl

theorem run (agrees : state.Agrees) (actions : List Action) : (state.run actions).Agrees := by
  induction actions generalizing state with
  | nil => exact agrees
  | cons action rest inductionHypothesis => exact inductionHypothesis (agrees.act action)

end Agrees

end KeptGraph

section Writing

variable {field : Field} {change : Change} {changes : List Change} {record : Record}
  {graph next : Graph} {id : Int} {ref : Ref}

/-- A constructor gives a field the value that is named for it. -/
theorem Record.held_of_make {kind : Kind} (distinct : (changes.map Change.key).Nodup)
    (given : change ∈ changes) (about : change.field? = some field)
    (known : field ∈ Field.ofKind kind) (made : Record.make kind changes = .ok record) :
    record.held field = change := by
  rw [make] at made
  split at made
  · split at made <;> contradiction
  split at made
  · contradiction
  rename_i id _
  have inBlank : field ∈ Field.ofKind (blank kind id).kind := by
    rwa [kind_blank]
  rw [← Except.ok.inj made]
  exact held_assignAll_of_mem distinct given about inBlank

theorem Graph.held_of_update (distinct : (changes.map Change.key).Nodup) (given : change ∈ changes)
    (about : change.field? = some field) (updated : graph.update id changes = .ok next)
    (shown : next.get? id = some record) : record.held field = change := by
  obtain ⟨ref, before, held, loaded, known, same⟩ := update_cases updated
  subst same
  have after : (graph.store ref (before.assignAll changes)).get? id =
      some (before.assignAll changes) :=
    Option.bind_eq_some_iff.mpr ⟨ref, held, load?_store loaded _⟩
  rw [← Option.some.inj (after.symm.trans shown)]
  exact Record.held_assignAll_of_mem distinct given about
    (Record.mem_ofKind_of_hasProperty about (known change given))

theorem Graph.held_of_assign (known : field ∈ Field.ofKind record.kind)
    (about : change.field? = some field) (assigned : graph.assign ref change = .ok next)
    (shown : next.load? ref = some record) : record.held field = change := by
  obtain ⟨missing, same⟩ | ⟨before, changed, loaded, taken, same⟩ := assign_cases assigned
  · subst same
    rw [missing] at shown
    contradiction
  · subst same
    have isAfter : before.assigned change = record :=
      (Record.assigned_of_assign? taken).trans
        (Option.some.inj ((load?_store loaded changed).symm.trans shown))
    have inKind : field ∈ Field.ofKind before.kind := by
      rwa [← before.kind_assigned change, isAfter]
    rw [← isAfter, Record.held_assigned, if_pos ⟨about, inKind⟩]

theorem Snapshot.Gives.text?_eq {text : TextField} {value : Document}
    (gives : Gives (.text text) value (record.held (.text text))) :
    record.text? text = scalarText? value := by
  rw [Record.held] at gives
  generalize record.text? text = shown at gives
  cases gives <;> rfl

end Writing

namespace Node

/-- A node whose media class got a value, which may be none, from its constructor, from a
snapshot, in an update or by an assignment.  What the node had before is left open. -/
inductive ClassWritten (value : Option String) : Node → Prop where
  | made {changes : List Change} {node : Node} (distinct : (changes.map Change.key).Nodup)
      (given : .text .mediaClass value ∈ changes)
      (made : Record.make .node changes = .ok (.node node)) : ClassWritten value node
  | read {position : Nat} {members : List (String × Document)} {node : Node}
      (distinct : (members.map Prod.fst).Nodup)
      (given : value = Snapshot.scalarText? (Document.memberOrNull members "media_class"))
      (read : (Snapshot.recordOfDocument ⟨.node, position⟩ (.mapping members)).outcome =
        .ok (.node node)) : ClassWritten value node
  | updated {graph next : Graph} {id : Int} {changes : List Change} {node : Node}
      (distinct : (changes.map Change.key).Nodup) (given : .text .mediaClass value ∈ changes)
      (updated : graph.update id changes = .ok next) (shown : next.get? id = some (.node node)) :
      ClassWritten value node
  | assigned {graph next : Graph} {ref : Ref} {node : Node}
      (assigned : graph.assign ref (.text .mediaClass value) = .ok next)
      (shown : next.load? ref = some (.node node)) : ClassWritten value node

variable {node : Node} {value : Option String}

theorem text?_of_held (held : (Record.node node).held (.text .mediaClass) = .text .mediaClass value) :
    node.mediaClass.map MediaClass.text = value :=
  (Change.text.inj held).2

theorem mediaClass_mem_ofKind : Field.text .mediaClass ∈ Field.ofKind .node := by
  decide

theorem ClassWritten.text_eq (written : node.ClassWritten value) :
    node.mediaClass.map MediaClass.text = value := by
  cases written with
  | made distinct given made =>
      exact text?_of_held (Record.held_of_make distinct given rfl mediaClass_mem_ofKind made)
  | read distinct given read =>
      obtain ⟨_, _, isMapping, gives⟩ :=
        (Snapshot.recordOfDocument_mapping_eq_ok_iff distinct).mp read
      cases isMapping
      rw [given]
      exact (gives (.text .mediaClass) mediaClass_mem_ofKind).text?_eq
  | updated distinct given updated shown =>
      exact text?_of_held (Graph.held_of_update distinct given rfl updated shown)
  | assigned assigned shown =>
      exact text?_of_held (Graph.held_of_assign mediaClass_mem_ofKind rfl assigned shown)

/-- A node is classified by the text of its media class alone. -/
theorem category?_eq_endpoint_iff (node : Node) :
    (Record.node node).category? = some .endpoint ↔
      ∃ text, node.mediaClass.map MediaClass.text = some text ∧ MediaClass.NamesEnd ⟨text⟩ := by
  have classified : (Record.node node).category? = some .endpoint ↔ node.isEndpoint = true := by
    rw [Record.category?]
    cases node.isEndpoint <;> decide
  rw [classified, isEndpoint]
  cases node.mediaClass with
  | none => simp
  | some mediaClass => simpa using mediaClass.isEndpoint_iff

/-- The form in which a class is kept makes no difference to the classification. -/
theorem isEndpoint_eq_any {kept : Option KeptClass}
    (shown : kept.map KeptClass.text = node.mediaClass.map MediaClass.text) :
    node.isEndpoint = kept.any KeptClass.isEndpoint := by
  have byText : node.isEndpoint = (node.mediaClass.map MediaClass.text).any fun text =>
      MediaClass.isEndpoint ⟨text⟩ := by
    rw [Option.any_map]
    rfl
  rw [byText, ← shown, Option.any_map]
  exact congrArg kept.any (funext fun held => held.isEndpoint_eq.symm)

/-- Classes are told by their components, and nodes by the text of their class: in every
graph, in whatever form a node keeps the class, and however the class was written last. -/
theorem classified_by_components :
    (∀ first second, MediaClass.components ⟨first ++ "/" ++ second⟩ =
        MediaClass.components ⟨first⟩ ++ MediaClass.components ⟨second⟩) ∧
      (∀ text : String, '/' ∉ text.toList →
        MediaClass.components ⟨text⟩ = if text = "" then [] else [text]) ∧
      (∀ text, MediaClass.components ⟨"/" ++ text⟩ = MediaClass.components ⟨text⟩ ∧
        MediaClass.components ⟨text ++ "/"⟩ = MediaClass.components ⟨text⟩) ∧
      (∀ first second, MediaClass.components ⟨first ++ "//" ++ second⟩ =
        MediaClass.components ⟨first ++ "/" ++ second⟩) ∧
      (∀ mediaClass : MediaClass,
        (∀ word ∈ mediaClass.components, word ≠ "" ∧ '/' ∉ word.toList) ∧
          (mediaClass.isEndpoint = true ↔
            ∃ word ∈ mediaClass.components, word = "Sink" ∨ word = "Source" ∨ word = "Duplex")) ∧
      (∀ first second : MediaClass, first.components.Perm second.components →
        first.isEndpoint = second.isEndpoint) ∧
      (∀ actions ref node kept,
        (KeptGraph.empty.run actions).graph.load? ref = some (.node node) →
        (KeptGraph.empty.run actions).classes ref = kept →
        kept.map KeptClass.text = node.mediaClass.map MediaClass.text ∧
          node.isEndpoint = kept.any KeptClass.isEndpoint ∧
          ((Record.node node).category? = some .endpoint ↔
            ∃ text, kept.map KeptClass.text = some text ∧ MediaClass.NamesEnd ⟨text⟩)) ∧
      (∀ value node, ClassWritten value node →
        ((Record.node node).category? = some .endpoint ↔
          ∃ text, value = some text ∧ MediaClass.NamesEnd ⟨text⟩)) := by
  refine ⟨MediaClass.components_slash, fun _ => MediaClass.components_of_notMem, ?_,
    MediaClass.components_slash_slash, ?_, fun _ _ => MediaClass.isEndpoint_eq_of_perm, ?_, ?_⟩
  · intro text
    exact ⟨MediaClass.components_slash_front text, MediaClass.components_slash_end text⟩
  · intro mediaClass
    exact ⟨fun word member => MediaClass.of_mem_components member, mediaClass.isEndpoint_iff⟩
  · intro actions ref node kept loaded isKept
    have shown := KeptGraph.agrees_empty.run actions ref (.node node) loaded
    rw [isKept] at shown
    refine ⟨shown, isEndpoint_eq_any shown, ?_⟩
    rw [shown]
    exact node.category?_eq_endpoint_iff
  · intro value node written
    rw [← written.text_eq]
    exact node.category?_eq_endpoint_iff

/-- A sink of a snapshot that becomes a stream, gets a nick, and becomes a duplex node. -/
def reclassified : List KeptGraph.Action :=
  [.load (IdMap.ofList [(51, .node ⟨51, none, none, none, none, some ⟨"Audio//Sink"⟩, none, none⟩)]),
    .operate (.assign ⟨0⟩ (.text .mediaClass (some "Stream/SinkInput"))) false,
    .operate (.update 51 [.text .nick (some "front")]) false,
    .operate (.assign ⟨0⟩ (.text .mediaClass (some "/Duplex/"))) false]

/-- The stream's class is wrapped by an update of the nick; the last assignment leaves a
plain text, which makes the node an endpoint. -/
theorem classified_by_components_duplex :
    let duplex : Node := ⟨51, none, some "front", none, none, some ⟨"/Duplex/"⟩, none, none⟩
    (KeptGraph.empty.run (reclassified.take 3)).classes ⟨0⟩ =
        some (.wrapped ⟨"Stream/SinkInput"⟩) ∧
      (KeptGraph.empty.run reclassified).classes ⟨0⟩ = some (.plain "/Duplex/") ∧
      (KeptGraph.empty.run reclassified).graph.load? ⟨0⟩ = some (.node duplex) ∧
      duplex.isEndpoint = KeptClass.isEndpoint (.plain "/Duplex/") ∧
      ClassWritten (some "/Duplex/") duplex ∧
      (Record.node duplex).category? = some .endpoint := by
  intro duplex
  obtain ⟨_, _, _, _, _, _, everyRun, everyWriting⟩ := classified_by_components
  have loaded : (KeptGraph.empty.run reclassified).graph.load? ⟨0⟩ = some (.node duplex) := rfl
  have assigned : (KeptGraph.empty.run (reclassified.take 3)).graph.assign ⟨0⟩
      (.text .mediaClass (some "/Duplex/")) = .ok (KeptGraph.empty.run reclassified).graph := rfl
  have written : ClassWritten (some "/Duplex/") duplex := .assigned assigned loaded
  have namesEnd : MediaClass.NamesEnd ⟨"/Duplex/"⟩ := ⟨"Duplex", by decide, by decide⟩
  have sameAnswer := (everyRun reclassified ⟨0⟩ duplex _ loaded rfl).2.1
  exact ⟨rfl, rfl, loaded, sameAnswer, written,
    (everyWriting _ _ written).mpr ⟨"/Duplex/", rfl, namesEnd⟩⟩

end Node

end Nameplate
