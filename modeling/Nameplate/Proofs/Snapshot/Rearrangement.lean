import Nameplate.Proofs.Names.Rearrangement
import Nameplate.Proofs.Snapshot.Records

/-!
Rearranged snapshots.

Unknown sections, unknown properties of records and the order of the sections have no
meaning.  The members of a record are examined in the order in which they are written,
so of several faults in one record the order decides which is reported; but it decides
neither whether the snapshot is accepted nor what is read from it.
-/

namespace Nameplate

namespace Snapshot

open Document (ItemsAlike)

section Reading

variable {δ : Type} {restate : Error → δ} {kind : Kind}

/-- How a record of a section is read at every position, with its errors restated. -/
def readingRecord (restate : Error → δ) (kind : Kind) (document : Document) (position : Nat) :
    Except δ Record :=
  (recordOfDocument ⟨kind, position⟩ document).outcome.mapError restate

theorem addRecords_alike {items others : List Document}
    (alike : items.map (readingRecord restate kind) = others.map (readingRecord restate kind))
    (catalog : Catalog) (position : Nat) :
    (addRecords kind catalog position items).outcome.mapError restate =
      (addRecords kind catalog position others).outcome.mapError restate := by
  induction items generalizing others catalog position with
  | nil =>
      cases others with
      | nil => rfl
      | cons other more => contradiction
  | cons item rest inductionHypothesis =>
      cases others with
      | nil => contradiction
      | cons other more =>
          obtain ⟨first, later⟩ := List.cons.inj alike
          simp only [addRecords, Logged.outcome_bind]
          refine mapError_bind_congr (congrFun first position) ?_
          intro record
          split
          · rfl
          · exact inductionHypothesis later _ _

variable {members others : List (String × Document)}

theorem addSections_alike
    (alike : ∀ kind, ItemsAlike (readingRecord restate kind)
      (Document.memberOrNull members (sectionOf kind))
      (Document.memberOrNull others (sectionOf kind)))
    (kinds : List Kind) (catalog : Catalog) :
    (addSections members catalog kinds).outcome.mapError restate =
      (addSections others catalog kinds).outcome.mapError restate := by
  induction kinds generalizing catalog with
  | nil => rfl
  | cons kind rest inductionHypothesis =>
      simp only [addSections, Logged.outcome_bind]
      refine mapError_bind_congr ?_ inductionHypothesis
      have sectionAlike := (alike kind).orEmptyList
      unfold addSection
      generalize (Document.memberOrNull members (sectionOf kind)).orEmptyList = first at sectionAlike
      generalize (Document.memberOrNull others (sectionOf kind)).orEmptyList = second at sectionAlike
      cases sectionAlike with
      | same => rfl
      | list itemsAlike => exact addRecords_alike itemsAlike catalog 0

/-- Reports about unknown sections never stand in the way of reading a snapshot. -/
theorem outcome_ofDocument_mapping (members : List (String × Document)) :
    (ofDocument (.mapping members)).outcome =
      (addSections members IdMap.empty Kind.all).outcome := by
  simp only [ofDocument, Logged.outcome_bind, Logged.outcome_forEach_note, Logged.outcome_note,
    Logged.outcome_pure]
  cases (addSections members IdMap.empty Kind.all).outcome <;> rfl

/-- A snapshot is read as its sections are. -/
theorem ofDocument_alike
    (alike : ∀ kind, ItemsAlike (readingRecord restate kind)
      (Document.memberOrNull members (sectionOf kind))
      (Document.memberOrNull others (sectionOf kind))) :
    (ofDocument (.mapping members)).outcome.mapError restate =
      (ofDocument (.mapping others)).outcome.mapError restate := by
  rw [outcome_ofDocument_mapping, outcome_ofDocument_mapping]
  exact addSections_alike alike Kind.all IdMap.empty

/-- Nothing is restated here, so a snapshot that is refused is refused with the same error. -/
theorem outcome_eq_of_alike
    (alike : ∀ kind, ItemsAlike (readingRecord id kind)
      (Document.memberOrNull members (sectionOf kind))
      (Document.memberOrNull others (sectionOf kind))) :
    (ofDocument (.mapping members)).outcome = (ofDocument (.mapping others)).outcome := by
  have same := ofDocument_alike alike
  rwa [mapError_id, mapError_id] at same

end Reading

section Unknown

def sectionKeys : List String := Kind.all.map sectionOf

def recordKeys (kind : Kind) : List String := (Field.ofKind kind).map Field.key

/-- The snapshot without its unknown sections and without the unknown properties of its
records. -/
def withoutUnknown (document : Document) : Document :=
  (document.keepKeys sectionKeys).mapValues fun key value =>
    match Kind.all.find? fun kind => sectionOf kind = key with
    | some kind => value.mapItems (Document.keepKeys (recordKeys kind))
    | none => value

/-- Elements that are read as nothing may as well be left out. -/
theorem mapM_filter_bind {ε α β γ : Type} {read : α → Except ε (Option β)} {keep : α → Bool}
    (dropped : ∀ item, keep item = false → read item = .ok none) (items : List α)
    (next : List β → Except ε γ) :
    ((items.filter keep).mapM read >>= fun results => next (results.filterMap fun result => result)) =
      items.mapM read >>= fun results => next (results.filterMap fun result => result) := by
  induction items generalizing next with
  | nil => rfl
  | cons item rest inductionHypothesis =>
      cases kept : keep item with
      | false =>
          rw [List.filter_cons_of_neg (by simp [kept]), List.mapM_cons, dropped item kept]
          simp only [bind_assoc, pure_bind]
          exact inductionHypothesis next
      | true =>
          rw [List.filter_cons_of_pos kept, List.mapM_cons, List.mapM_cons]
          simp only [bind_assoc, pure_bind]
          cases read item with
          | error error => rfl
          | ok result =>
              cases result with
              | none => exact inductionHypothesis next
              | some value => exact inductionHypothesis fun values => next (value :: values)

theorem fieldOfMember_unknown {place : Place} {key : String} (value : Document)
    (unknown : key ∉ recordKeys place.kind) :
    (fieldOfMember place key value).outcome = .ok none := by
  have noField : Field.ofKey? place.kind key = none := by
    rw [Field.ofKey?, List.find?_eq_none]
    intro field known named
    exact unknown (List.mem_map.mpr ⟨field, known, of_decide_eq_true named⟩)
  simp only [fieldOfMember, noField]
  rfl

theorem recordOfDocument_keepKeys (place : Place) (document : Document) :
    (recordOfDocument place (document.keepKeys (recordKeys place.kind))).outcome =
      (recordOfDocument place document).outcome := by
  cases document with
  | mapping members =>
      have idKept : "id" ∈ recordKeys place.kind :=
        List.mem_map.mpr ⟨.id, Field.id_mem_ofKind place.kind, rfl⟩
      have sameId : idOfMembers place
          (members.filter fun member => (recordKeys place.kind).contains member.1) =
            idOfMembers place members := by
        rw [idOfMembers, idOfMembers, Document.memberOrNull, Document.memberOrNull,
          Document.member?_filter idKept]
      simp only [Document.keepKeys, recordOfDocument, Logged.outcome_bind, Logged.outcome_ofExcept,
        Logged.outcome_forEach, Logged.outcome_pure, sameId]
      refine congrArg (idOfMembers place members >>= ·) (funext fun id => ?_)
      refine mapM_filter_bind ?_ members fun fields => do
        let changes ← fields.mapM (changeOfField place)
        return (Record.blank place.kind id).assignAll (changes.filterMap fun change => change)
      intro member left
      exact fieldOfMember_unknown member.2 (by simpa using left)
  | _ => rfl

theorem outcome_ofDocument_withoutUnknown (document : Document) :
    (ofDocument (withoutUnknown document)).outcome = (ofDocument document).outcome := by
  cases document with
  | mapping members =>
      refine outcome_eq_of_alike fun kind => ?_
      have known : sectionOf kind ∈ sectionKeys := by cases kind <;> decide
      have named : (Kind.all.find? fun other => sectionOf other = sectionOf kind) = some kind := by
        cases kind <;> rfl
      rw [Document.memberOrNull, Document.memberOrNull, Document.member?_mapMembers_filter _ known,
        named]
      cases Document.member? members (sectionOf kind) with
      | none => exact .same _
      | some value =>
          refine ItemsAlike.mapItems (fun item => funext fun position => ?_) value
          exact congrArg (Except.mapError id) (recordOfDocument_keepKeys ⟨kind, position⟩ item)
  | _ => rfl

example :
    withoutUnknown (.mapping [("zones", .null),
      ("nodes", .list [.mapping [("volume", .integer 3), ("id", .integer 51)], .text "sink"])]) =
        .mapping [("nodes", .list [.mapping [("id", .integer 51)], .text "sink"])] := rfl

end Unknown

section Order

variable {members others : List (String × Document)}

theorem outcome_ofDocument_perm (distinct : (members.map Prod.fst).Nodup)
    (reordered : members.Perm others) :
    (ofDocument (.mapping members)).outcome = (ofDocument (.mapping others)).outcome := by
  refine outcome_eq_of_alike fun kind => ?_
  rw [Document.memberOrNull_perm distinct reordered]
  exact .same _

/-- The members of one record are written in another order. -/
inductive RearrangesRecord : Document → Document → Prop where
  | keys (kind : Kind) (earlier later : List (String × Document)) (before after : List Document)
      {members others : List (String × Document)} (distinct : (members.map Prod.fst).Nodup)
      (reordered : members.Perm others) :
      RearrangesRecord
        (.mapping (earlier ++
          (sectionOf kind, .list (before ++ .mapping members :: after)) :: later))
        (.mapping (earlier ++
          (sectionOf kind, .list (before ++ .mapping others :: after)) :: later))

theorem readingRecord_perm (kind : Kind) (distinct : (members.map Prod.fst).Nodup)
    (reordered : members.Perm others) :
    readingRecord (fun _ => ()) kind (.mapping members) =
      readingRecord (fun _ => ()) kind (.mapping others) := by
  have alsoDistinct : (others.map Prod.fst).Nodup :=
    (reordered.map Prod.fst).nodup_iff.mp distinct
  funext position
  -- What a record describes is said by the values under its keys, not by their order.
  refine mapError_const_eq_iff.mpr fun record => ?_
  rw [recordOfDocument_mapping_eq_ok_iff distinct, recordOfDocument_mapping_eq_ok_iff alsoDistinct]
  simp only [Describes, Document.mapping.injEq, exists_eq_left',
    Document.memberOrNull_perm distinct reordered]

theorem sectionOf_injective : Function.Injective sectionOf := by
  intro first second same
  cases first <;> cases second <;> first | rfl | exact absurd same (by decide)

theorem RearrangesRecord.outcome_eq {first second : Document}
    (rearranged : RearrangesRecord first second) :
    ((ofDocument first).outcome.mapError fun _ => ()) =
      (ofDocument second).outcome.mapError fun _ => () := by
  cases rearranged with
  | keys kind earlier later before after distinct reordered =>
      refine ofDocument_alike fun other => ?_
      refine .memberOrNull_replaced earlier later fun named => ?_
      rw [sectionOf_injective named]
      exact .replaced before after (readingRecord_perm kind distinct reordered)

theorem outcome_eq_of_rearranged {first second : Document}
    (rearranged : Relation.ReflTransGen RearrangesRecord first second) (catalog : Catalog) :
    (ofDocument first).outcome = .ok catalog ↔ (ofDocument second).outcome = .ok catalog := by
  have same : ((ofDocument first).outcome.mapError fun _ => ()) =
      (ofDocument second).outcome.mapError fun _ => () := by
    induction rearranged with
    | refl => rfl
    | tail _ last inductionHypothesis => rw [inductionHypothesis, last.outcome_eq]
  exact mapError_const_eq_iff.mp same catalog

end Order

end Snapshot

/-- What is read from a section of name rules and from a snapshot depends neither on unknown
keys nor on the order of the keys. -/
theorem unknownKeys_and_order_meaningless :
    (∀ document location, (Names.ofDocument (Names.withoutUnknown document) location).outcome =
      (Names.ofDocument document location).outcome) ∧
    (∀ document, (Snapshot.ofDocument (Snapshot.withoutUnknown document)).outcome =
      (Snapshot.ofDocument document).outcome) ∧
    (∀ first second location, Relation.ReflTransGen Names.Rearranges first second →
      (Names.ofDocument first location).outcome = (Names.ofDocument second location).outcome) ∧
    (∀ members others, (members.map Prod.fst).Nodup → members.Perm others →
      (Snapshot.ofDocument (.mapping members)).outcome =
        (Snapshot.ofDocument (.mapping others)).outcome) ∧
    (∀ first second, Relation.ReflTransGen Snapshot.RearrangesRecord first second →
      ∀ catalog, (Snapshot.ofDocument first).outcome = .ok catalog ↔
        (Snapshot.ofDocument second).outcome = .ok catalog) := by
  refine ⟨Names.outcome_ofDocument_withoutUnknown, Snapshot.outcome_ofDocument_withoutUnknown,
    ?_, ?_, ?_⟩
  · intro first second location rearranged
    exact Names.outcome_eq_of_rearranged rearranged location
  · intro members others distinct reordered
    exact Snapshot.outcome_ofDocument_perm distinct reordered
  · intro first second rearranged catalog
    exact Snapshot.outcome_eq_of_rearranged rearranged catalog

/-- The members of an override of a player's name for some types. -/
def playerOverride (types : List Category) : List (String × Document) :=
  [("types", .list (types.map fun category => .text category.text)),
    ("property", .text "node:node.name"), ("value", .text "player")]

/-- The members of a section with one override and an unknown key. -/
def sectionWith (override : List (String × Document)) : List (String × Document) :=
  [("overrides", .list [.mapping override]), ("volume", .integer 3)]

def playerRecord : List (String × Document) :=
  [("application_name", .text "player"), ("zone", .list []), ("id", .integer 70)]

/-- The members of a snapshot with one client and a section that counts as nothing. -/
def snapshotWith (record : List (String × Document)) : List (String × Document) :=
  [("clients", .list [.mapping record]), ("nodes", .bool false)]

theorem unknownKeys_and_order_meaningless_player :
    (Names.ofDocument (.mapping (sectionWith (playerOverride [.stream, .device])))
        ⟨"names", []⟩).outcome =
      (Names.ofDocument
        (.mapping (sectionWith (playerOverride [.device, .stream, .device]).reverse).reverse)
        ⟨"names", []⟩).outcome ∧
    (Snapshot.ofDocument (.mapping (snapshotWith playerRecord))).outcome =
      (Snapshot.ofDocument (.mapping (snapshotWith playerRecord).reverse)).outcome ∧
    (Snapshot.ofDocument (.mapping (snapshotWith playerRecord.reverse))).outcome =
      .ok (IdMap.ofList [(70, .client ⟨70, some "player", none⟩)]) := by
  obtain ⟨_, _, namesOrder, sectionOrder, recordOrder⟩ := unknownKeys_and_order_meaningless
  have types : Names.RearrangesOverride (.mapping (playerOverride [.stream, .device]))
      (.mapping (playerOverride [.device, .stream, .device])) :=
    .types [] _ fun category => by cases category <;> decide
  have keys : Names.RearrangesOverride (.mapping (playerOverride [.device, .stream, .device]))
      (.mapping (playerOverride [.device, .stream, .device]).reverse) :=
    .keys (by decide) (List.reverse_perm _).symm
  have inSection {item other : Document} (rearranged : Names.RearrangesOverride item other) :
      Names.Rearranges (.mapping [("overrides", .list [item]), ("volume", .integer 3)])
        (.mapping [("overrides", .list [other]), ("volume", .integer 3)]) :=
    .override [] _ [] _ rearranged
  have sectionKeys : Names.Rearranges
      (.mapping (sectionWith (playerOverride [.device, .stream, .device]).reverse))
      (.mapping (sectionWith (playerOverride [.device, .stream, .device]).reverse).reverse) :=
    .keys (by decide) (List.reverse_perm _).symm
  have record : Snapshot.RearrangesRecord (.mapping (snapshotWith playerRecord))
      (.mapping (snapshotWith playerRecord.reverse)) :=
    .keys .client [] _ [] _ (by decide) (List.reverse_perm _).symm
  refine ⟨?_, ?_, ?_⟩
  · refine namesOrder _ _ _ ?_
    exact ((Relation.ReflTransGen.single (inSection types)).tail (inSection keys)).tail sectionKeys
  · exact sectionOrder _ _ (by decide) (List.reverse_perm _).symm
  · exact (recordOrder _ _ (.single record) _).mp rfl

end Nameplate
