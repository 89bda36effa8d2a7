import Mathlib.Data.List.Forall2
import Nameplate.Files.Loading
import Nameplate.Proofs.IdMap.Entries
import Nameplate.Proofs.Snapshot.Records

/-!
Valid snapshots.

A snapshot is valid if each of its sections is a list or counts as nothing, all
listed records are valid, and no id is listed twice.  Exactly the valid snapshots
are accepted, and the catalog of one has an object for every listed record and no
other ones, in the order in which the records are listed.
-/

namespace Nameplate

namespace Snapshot

/-- Whether a value may stand under the key of a section. -/
def IsSection (value : Document) : Prop :=
  value.isNothing = true ∨ ∃ documents, value = .list documents

def itemsOf : Document → List Document
  | .list documents => documents
  | _ => []

/-- The records of some kinds, each with the kind of its section. -/
def recordsOf (members : List (String × Document)) (kinds : List Kind) : List (Kind × Document) :=
  kinds.flatMap fun kind =>
    (itemsOf (Document.memberOrNull members (sectionOf kind))).map fun document => (kind, document)

/-- All records of a snapshot in the order in which they are read. -/
def listed : Document → List (Kind × Document)
  | .mapping members => recordsOf members Kind.all
  | _ => []

def idOf? : Document → Option Int
  | .mapping members =>
      match Document.memberOrNull members Field.id.key with
      | .integer id => some id
      | _ => none
  | _ => none

def HasSections (document : Document) : Prop :=
  ∃ members, document = .mapping members ∧
    ∀ kind, IsSection (Document.memberOrNull members (sectionOf kind))

structure IsSnapshot (document : Document) : Prop where
  sections : HasSections document
  records : ∀ entry ∈ listed document, IsRecord entry.1 entry.2
  ids : ((listed document).filterMap fun entry => idOf? entry.2).Nodup

/-- Whether an entry of a catalog is the object of a listed record, under its own id. -/
def Stores (entry : Kind × Document) (stored : Int × Record) : Prop :=
  stored.1 = stored.2.id ∧ Describes entry.1 entry.2 stored.2

theorem Stores.idOf?_eq {entry : Kind × Document} {stored : Int × Record}
    (stores : Stores entry stored) : idOf? entry.2 = some stored.1 := by
  obtain ⟨kind, document⟩ := entry
  obtain ⟨sameId, _, members, isMapping, gives⟩ := stores
  change document = .mapping members at isMapping
  subst isMapping
  have given := gives .id (Field.id_mem_ofKind kind)
  simp only [idOf?]
  generalize Document.memberOrNull members Field.id.key = value at given ⊢
  cases given
  rw [sameId]

theorem filterMap_idOf?_eq {entries : List (Kind × Document)} {stored : List (Int × Record)}
    (agree : List.Forall₂ Stores entries stored) :
    entries.filterMap (fun entry => idOf? entry.2) = stored.map Prod.fst := by
  induction agree with
  | nil => rfl
  | cons stores _ inductionHypothesis =>
      rw [List.filterMap_cons, stores.idOf?_eq, List.map_cons, inductionHypothesis]

theorem orEmptyList_eq_list_iff {value : Document} {documents : List Document} :
    value.orEmptyList = .list documents ↔ IsSection value ∧ documents = itemsOf value := by
  unfold Document.orEmptyList IsSection
  by_cases nothing : value.isNothing = true
  · -- A list that counts as nothing is empty.
    have empty : itemsOf value = [] := by
      cases value with
      | list items => simpa [itemsOf, Document.isNothing] using nothing
      | _ => rfl
    simp [nothing, empty, eq_comm]
  · cases value with
    | list items => simp [nothing, itemsOf, eq_comm]
    | _ => simp [nothing]

section Reading

variable {kind : Kind} {catalog next : Catalog} {members : List (String × Document)}

theorem addRecords_eq_ok_iff {documents : List Document} {position : Nat}
    (distinct : ∀ document ∈ documents, document.KeysDistinct) :
    (addRecords kind catalog position documents).outcome = .ok next ↔
      ∃ stored, List.Forall₂ Stores (documents.map fun document => (kind, document)) stored ∧
        next.entries = catalog.entries ++ stored := by
  induction documents generalizing catalog position with
  | nil =>
      cases catalog
      cases next
      simp [addRecords, eq_comm]
  | cons document rest inductionHypothesis =>
      have later : ∀ other ∈ rest, other.KeysDistinct := by
        intro other member
        exact distinct other (List.mem_cons_of_mem _ member)
      have first := distinct document List.mem_cons_self
      simp only [addRecords, Logged.outcome_bind_eq_ok_iff, recordOfDocument_eq_ok_iff first]
      constructor
      · intro read
        obtain ⟨record, describes, added⟩ := read
        split at added
        · contradiction
        · rename_i isNew
          rw [IdMap.contains_iff] at isNew
          obtain ⟨stored, agree, same⟩ := (inductionHypothesis later).mp added
          have put : (IdMap.insert catalog record.id record).entries =
              catalog.entries ++ [(record.id, record)] := IdMap.put_eq_append isNew
          refine ⟨(record.id, record) :: stored, .cons ⟨rfl, describes⟩ agree, ?_⟩
          rw [same, put, List.append_assoc, List.singleton_append]
      · intro filed
        obtain ⟨stored, agree, same⟩ := filed
        cases agree with
        | @cons _ entry _ stored stores agree =>
            obtain ⟨id, record⟩ := entry
            obtain ⟨sameId, describes⟩ := stores
            change id = record.id at sameId
            subst sameId
            -- The id is new because the catalog that is made has no id twice.
            have isNew : record.id ∉ catalog.ids := by
              have keys := next.nodup
              rw [same, List.map_append, List.map_cons, List.nodup_append] at keys
              intro present
              exact keys.2.2 _ present _ List.mem_cons_self rfl
            have put : (IdMap.insert catalog record.id record).entries =
                catalog.entries ++ [(record.id, record)] := IdMap.put_eq_append isNew
            refine ⟨record, describes, ?_⟩
            rw [if_neg (fun present => isNew (IdMap.contains_iff.mp present)),
              inductionHypothesis later]
            refine ⟨stored, agree, ?_⟩
            rw [same, put, List.append_assoc, List.singleton_append]

theorem addSection_eq_ok_iff (distinct : Document.KeysDistinct (.mapping members)) :
    (addSection members catalog kind).outcome = .ok next ↔
      IsSection (Document.memberOrNull members (sectionOf kind)) ∧
        ∃ stored, List.Forall₂ Stores (recordsOf members [kind]) stored ∧
          next.entries = catalog.entries ++ stored := by
  have present := distinct.memberOrNull (sectionOf kind)
  simp only [addSection, recordsOf, List.flatMap_cons, List.flatMap_nil, List.append_nil]
  split
  · rename_i documents isList
    obtain ⟨isSection, same⟩ := orEmptyList_eq_list_iff.mp isList
    have each : ∀ document ∈ documents, document.KeysDistinct := by
      generalize Document.memberOrNull members (sectionOf kind) = value at present same
      subst same
      cases value with
      | list items => exact fun document member => present.of_mem_list member
      | _ => simp [itemsOf]
    rw [addRecords_eq_ok_iff each, same]
    simp [isSection]
  · rename_i noList
    constructor
    · intro impossible
      contradiction
    · intro filed
      exact absurd (orEmptyList_eq_list_iff.mpr ⟨filed.1, rfl⟩) (noList _)

private theorem forall₂_append_left_iff {α β : Type} {agrees : α → β → Prop} {first second : List α}
    {results : List β} :
    List.Forall₂ agrees (first ++ second) results ↔
      ∃ earlier later, List.Forall₂ agrees first earlier ∧ List.Forall₂ agrees second later ∧
        results = earlier ++ later := by
  induction first generalizing results with
  | nil => simp
  | cons item rest inductionHypothesis =>
      simp only [List.cons_append, List.forall₂_cons_left_iff, inductionHypothesis]
      constructor
      · intro divided
        obtain ⟨result, more, agree, ⟨earlier, later, front, back, same⟩, whole⟩ := divided
        subst same whole
        exact ⟨result :: earlier, later, ⟨result, earlier, agree, front, rfl⟩, back, rfl⟩
      · intro divided
        obtain ⟨_, later, ⟨result, earlier, agree, front, same⟩, back, whole⟩ := divided
        subst same whole
        exact ⟨result, earlier ++ later, agree, ⟨earlier, later, front, back, rfl⟩, rfl⟩

theorem addSections_eq_ok_iff {kinds : List Kind}
    (distinct : Document.KeysDistinct (.mapping members)) :
    (addSections members catalog kinds).outcome = .ok next ↔
      (∀ kind ∈ kinds, IsSection (Document.memberOrNull members (sectionOf kind))) ∧
        ∃ stored, List.Forall₂ Stores (recordsOf members kinds) stored ∧
          next.entries = catalog.entries ++ stored := by
  induction kinds generalizing catalog with
  | nil =>
      cases catalog
      cases next
      simp [addSections, recordsOf, eq_comm]
  | cons kind rest inductionHypothesis =>
      have divided : recordsOf members (kind :: rest) =
          recordsOf members [kind] ++ recordsOf members rest := by
        simp [recordsOf]
      simp only [addSections, Logged.outcome_bind_eq_ok_iff, addSection_eq_ok_iff distinct,
        inductionHypothesis, divided, forall₂_append_left_iff, List.forall_mem_cons]
      constructor
      · intro added
        obtain ⟨current, ⟨isSection, earlier, front, same⟩, others, later, back, whole⟩ := added
        refine ⟨⟨isSection, others⟩, _, ⟨earlier, later, front, back, rfl⟩, ?_⟩
        rw [whole, same, List.append_assoc]
      · intro filed
        obtain ⟨⟨isSection, others⟩, _, ⟨earlier, later, front, back, same⟩, whole⟩ := filed
        subst same
        rw [← List.append_assoc] at whole
        -- What stands before the other sections has distinct ids, as a part of the whole.
        have keys : ((catalog.entries ++ earlier).map Prod.fst).Nodup := by
          have all := next.nodup
          rw [whole, List.map_append] at all
          exact (List.nodup_append.mp all).1
        exact ⟨⟨_, keys⟩, ⟨isSection, earlier, front, rfl⟩, others, later, back, whole⟩

/-- The catalog of a snapshot stores the listed records one by one. -/
theorem ofDocument_eq_ok_iff {document : Document} (distinct : document.KeysDistinct) :
    (ofDocument document).outcome = .ok catalog ↔
      HasSections document ∧ List.Forall₂ Stores (listed document) catalog.entries := by
  cases document with
  | mapping members =>
      have every : ∀ kind, kind ∈ Kind.all := by
        intro kind
        cases kind <;> decide
      simp only [ofDocument, Logged.outcome_bind_eq_ok_iff, addSections_eq_ok_iff distinct,
        Logged.outcome_forEach_note, Logged.outcome_note, Logged.outcome_pure, listed]
      constructor
      · intro read
        obtain ⟨found, ⟨sections, stored, agree, same⟩, _, _, _, _, result⟩ := read
        cases result
        refine ⟨⟨members, rfl, fun kind => sections kind (every kind)⟩, ?_⟩
        rw [same]
        exact agree
      · intro filed
        obtain ⟨⟨_, isMapping, sections⟩, agree⟩ := filed
        cases isMapping
        exact ⟨catalog, ⟨fun kind _ => sections kind, _, agree, rfl⟩, _, rfl, (), trivial, rfl⟩
  | null => simp [ofDocument, HasSections]
  | bool value => simp [ofDocument, HasSections]
  | integer value => simp [ofDocument, HasSections]
  | decimal value => simp [ofDocument, HasSections]
  | text value => simp [ofDocument, HasSections]
  | list items => simp [ofDocument, HasSections]

/-- The documents of files have no repeated keys either, if the reader of YAML makes none. -/
theorem ofFile_eq_ok_iff {readers : Readers} {files : Files} {path : String}
    (reading : readers.KeysDistinct) :
    (ofFile readers files path).outcome = .ok catalog ↔
      ∃ content document, files.content (Path.normalized path) = .ok content ∧
        readers.read .snapshot (formatOf (Path.normalized path)) content = .ok document ∧
        HasSections document.orEmptyMapping ∧
        List.Forall₂ Stores (listed document.orEmptyMapping) catalog.entries := by
  have rootDistinct : ∀ {document : Document}, document.KeysDistinct →
      document.orEmptyMapping.KeysDistinct := by
    intro document distinct
    unfold Document.orEmptyMapping
    split
    · exact .mapping (by simp) (by simp)
    · exact distinct
  simp only [ofFile, Logged.outcome_bind_eq_ok_iff, Logged.outcome_ofExcept, Logged.outcome_note,
    Logged.outcome_mapError, mapError_eq_ok_iff]
  constructor
  · intro loaded
    obtain ⟨content, found, document, read, _, _, accepted⟩ := loaded
    have distinct := rootDistinct (reading.read read)
    exact ⟨content, document, found, read, (ofDocument_eq_ok_iff distinct).mp accepted⟩
  · intro filed
    obtain ⟨content, document, found, read, filed⟩ := filed
    have distinct := rootDistinct (reading.read read)
    exact ⟨content, found, document, read, (), trivial, (ofDocument_eq_ok_iff distinct).mpr filed⟩

theorem keysDistinct_of_mem_listed {document : Document} (distinct : document.KeysDistinct)
    {entry : Kind × Document} (member : entry ∈ listed document) : entry.2.KeysDistinct := by
  cases document with
  | mapping members =>
      obtain ⟨kind, _, isListed⟩ := List.mem_flatMap.mp member
      obtain ⟨record, isItem, same⟩ := List.mem_map.mp isListed
      subst same
      have present := distinct.memberOrNull (sectionOf kind)
      generalize Document.memberOrNull members (sectionOf kind) = value at present isItem
      cases value with
      | list items => exact present.of_mem_list isItem
      | _ => simp [itemsOf] at isItem
  | _ => simp [listed] at member

theorem exists_forall₂_stores {entries : List (Kind × Document)}
    (distinct : ∀ entry ∈ entries, entry.2.KeysDistinct)
    (valid : ∀ entry ∈ entries, IsRecord entry.1 entry.2) :
    ∃ stored, List.Forall₂ Stores entries stored := by
  induction entries with
  | nil => exact ⟨[], .nil⟩
  | cons entry rest inductionHypothesis =>
      rw [List.forall_mem_cons] at distinct valid
      obtain ⟨record, describes⟩ := (isRecord_iff distinct.1).mp valid.1
      obtain ⟨stored, agree⟩ := inductionHypothesis distinct.2 valid.2
      exact ⟨(record.id, record) :: stored, .cons ⟨rfl, describes⟩ agree⟩

theorem isRecord_of_forall₂_stores {entries : List (Kind × Document)} {stored : List (Int × Record)}
    (agree : List.Forall₂ Stores entries stored) (distinct : ∀ entry ∈ entries, entry.2.KeysDistinct) :
    ∀ entry ∈ entries, IsRecord entry.1 entry.2 := by
  induction agree with
  | nil => simp
  | cons stores _ inductionHypothesis =>
      rw [List.forall_mem_cons] at distinct ⊢
      exact ⟨(isRecord_iff distinct.1).mpr ⟨_, stores.2⟩, inductionHypothesis distinct.2⟩

theorem ofDocument_accepts_iff {document : Document} (distinct : document.KeysDistinct) :
    ((∃ catalog, (ofDocument document).outcome = .ok catalog) ↔ IsSnapshot document) ∧
      (∀ catalog, (ofDocument document).outcome = .ok catalog →
        List.Forall₂ Stores (listed document) catalog.entries) ∧
      (¬IsSnapshot document → ∃ error : Error, (ofDocument document).outcome = .error error) := by
  have accepts : (∃ catalog, (ofDocument document).outcome = .ok catalog) ↔ IsSnapshot document := by
    constructor
    · intro accepted
      obtain ⟨catalog, read⟩ := accepted
      obtain ⟨sections, agree⟩ := (ofDocument_eq_ok_iff distinct).mp read
      refine ⟨sections, ?_, ?_⟩
      · exact isRecord_of_forall₂_stores agree fun _ => keysDistinct_of_mem_listed distinct
      · rw [filterMap_idOf?_eq agree]
        exact catalog.nodup
    · intro valid
      obtain ⟨stored, agree⟩ :=
        exists_forall₂_stores (fun _ => keysDistinct_of_mem_listed distinct) valid.records
      have ids := valid.ids
      rw [filterMap_idOf?_eq agree] at ids
      exact ⟨⟨stored, ids⟩, (ofDocument_eq_ok_iff distinct).mpr ⟨valid.sections, agree⟩⟩
  refine ⟨accepts, ?_, ?_⟩
  · intro catalog read
    exact ((ofDocument_eq_ok_iff distinct).mp read).2
  · intro invalid
    cases read : (ofDocument document).outcome with
    | ok catalog => exact absurd (accepts.mp ⟨catalog, read⟩) invalid
    | error error => exact ⟨error, rfl⟩

/-- Sections out of order, one of which is false, with values that become text and a
member that a node does not have. -/
def streamAndPlayer : Document :=
  .mapping [
    ("clients", .list [.mapping [("id", .integer 70), ("application_name", .text "player"),
      ("device_id", .bool true)]]),
    ("zones", .null),
    ("nodes", .list [.mapping [("name", .bool true), ("id", .integer 88), ("nick", .integer (-4)),
      ("volume", .list []), ("client_id", .integer 70), ("device_id", .null)]]),
    ("devices", .bool false)]

theorem ofDocument_accepts_iff_streamAndPlayer :
    streamAndPlayer.KeysDistinct ∧ IsSnapshot streamAndPlayer ∧
      List.Forall₂ Stores (listed streamAndPlayer)
        [(88, .node ⟨88, some "True", some "-4", none, none, none, none, some 70⟩),
          (70, .client ⟨70, some "player", none⟩)] := by
  have distinct : streamAndPlayer.KeysDistinct := by
    refine .mapping (by decide) ?_
    simp only [List.forall_mem_cons]
    refine ⟨.list ?_, .null, .list ?_, .bool false, by simp⟩
    · simp only [List.forall_mem_singleton]
      refine .mapping (by decide) ?_
      simp [Document.KeysDistinct.integer, Document.KeysDistinct.text, Document.KeysDistinct.bool]
    · simp only [List.forall_mem_singleton]
      refine .mapping (by decide) ?_
      simp [Document.KeysDistinct.integer, Document.KeysDistinct.bool, Document.KeysDistinct.null,
        Document.KeysDistinct.list]
  have read : (ofDocument streamAndPlayer).outcome = .ok (IdMap.ofList
      [(88, .node ⟨88, some "True", some "-4", none, none, none, none, some 70⟩),
        (70, .client ⟨70, some "player", none⟩)]) := rfl
  have main := ofDocument_accepts_iff distinct
  exact ⟨distinct, main.1.mp ⟨_, read⟩, main.2.1 _ read⟩

end Reading

end Snapshot

end Nameplate
