import Nameplate.Files.Plain
import Nameplate.Journal

/-!
Keys of mappings.

In a value of JSON no mapping has a key twice.  The type of documents leaves room
for repeated keys, but no document that is read from a text makes use of it, as a
repeated key takes over the place of the earlier one.
-/

namespace Nameplate.Document

/-- No mapping in the document has a key twice. -/
inductive KeysDistinct : Document → Prop where
  | null : KeysDistinct .null
  | bool (value : Bool) : KeysDistinct (.bool value)
  | integer (value : Int) : KeysDistinct (.integer value)
  | decimal (value : Decimal) : KeysDistinct (.decimal value)
  | text (value : String) : KeysDistinct (.text value)
  | list {items : List Document} (each : ∀ item ∈ items, KeysDistinct item) :
      KeysDistinct (.list items)
  | mapping {members : List (String × Document)} (distinct : (members.map Prod.fst).Nodup)
      (each : ∀ member ∈ members, KeysDistinct member.2) : KeysDistinct (.mapping members)

variable {members : List (String × Document)} {key : String} {value : Document}

theorem KeysDistinct.of_mem_list {items : List Document} {item : Document}
    (distinct : KeysDistinct (.list items)) (member : item ∈ items) : KeysDistinct item := by
  cases distinct with
  | list each => exact each item member

theorem KeysDistinct.keys (distinct : KeysDistinct (.mapping members)) :
    (members.map Prod.fst).Nodup := by
  cases distinct with
  | mapping keys each => exact keys

/-- A key that does not occur has no value, and a key that occurs has the value that is
written behind it. -/
theorem member?_eq_some_iff (distinct : (members.map Prod.fst).Nodup) :
    member? members key = some value ↔ (key, value) ∈ members := by
  induction members with
  | nil => simp [member?]
  | cons member rest inductionHypothesis =>
      obtain ⟨first, current⟩ := member
      simp only [List.map_cons, List.nodup_cons] at distinct
      by_cases same : first = key
      · subst first
        have absent : (key, value) ∉ rest := by
          intro later
          exact distinct.1 (List.mem_map.mpr ⟨_, later, rfl⟩)
        simp [member?, absent, eq_comm]
      · have differs : ¬key = first := fun equal => same equal.symm
        have later := inductionHypothesis distinct.2
        simpa [member?, same, differs] using later

theorem memberOrNull_of_mem (distinct : (members.map Prod.fst).Nodup)
    (member : (key, value) ∈ members) : memberOrNull members key = value := by
  rw [memberOrNull, (member?_eq_some_iff distinct).mpr member, Option.getD_some]

theorem memberOrNull_of_notMem (absent : key ∉ members.map Prod.fst) :
    memberOrNull members key = .null := by
  have missing : member? members key = none := by
    rw [member?, Option.map_eq_none_iff, List.find?_eq_none]
    intro member isMember named
    exact absent (List.mem_map.mpr ⟨member, isMember, by simpa using named⟩)
  rw [memberOrNull, missing, Option.getD_none]

/-- The value under a key is part of the mapping or null. -/
theorem KeysDistinct.memberOrNull (distinct : KeysDistinct (.mapping members)) (key : String) :
    KeysDistinct (memberOrNull members key) := by
  cases distinct with
  | mapping keys each =>
      by_cases present : key ∈ members.map Prod.fst
      · obtain ⟨member, isMember, same⟩ := List.mem_map.mp present
        subst key
        rw [memberOrNull_of_mem keys isMember]
        exact each member isMember
      · rw [memberOrNull_of_notMem present]
        exact .null

theorem map_fst_putMember (members : List (String × Document)) (key : String) (value : Document) :
    (putMember members key value).map Prod.fst =
      if key ∈ members.map Prod.fst then members.map Prod.fst
      else members.map Prod.fst ++ [key] := by
  have occurs : (members.any fun member => member.1 = key) = true ↔ key ∈ members.map Prod.fst := by
    simp [List.any_eq_true]
  unfold putMember
  by_cases present : key ∈ members.map Prod.fst
  · rw [if_pos (occurs.mpr present), if_pos present, List.map_map]
    apply List.map_congr_left
    intro member _
    by_cases same : member.1 = key <;> simp [same]
  · rw [if_neg (fun found => present (occurs.mp found)), if_neg present]
    simp

theorem KeysDistinct.putMember (distinct : KeysDistinct (.mapping members))
    (valueDistinct : KeysDistinct value) (key : String) :
    KeysDistinct (.mapping (putMember members key value)) := by
  cases distinct with
  | mapping keys each =>
      refine .mapping ?_ ?_
      · rw [map_fst_putMember]
        split
        · exact keys
        · rename_i absent
          simpa [List.nodup_append] using ⟨keys, fun name other present same => by
            subst name
            exact absent (List.mem_map.mpr ⟨_, present, rfl⟩)⟩
      · intro member isMember
        unfold Document.putMember at isMember
        split at isMember
        · obtain ⟨earlier, isEarlier, changed⟩ := List.mem_map.mp isMember
          split at changed
          · subst member
            exact valueDistinct
          · subst member
            exact each earlier isEarlier
        · rcases List.mem_append.mp isMember with earlier | last
          · exact each member earlier
          · have same := List.mem_singleton.mp last
            subst member
            exact valueDistinct

section Reading

variable {dialect : Dialect} {document : Document} {input rest : List Char}

theorem keysDistinct_readNumber (read : readNumber dialect input = .ok (document, rest)) :
    KeysDistinct document := by
  -- A number is a text, an integer or a decimal, and none of them has keys.
  simp only [readNumber] at read
  repeat' split at read
  all_goals first
    | contradiction
    | cases read; constructor

/-- With this much fuel the readers make values without repeated keys. -/
structure ReadsDistinct (dialect : Dialect) (fuel : Nat) : Prop where
  value : ∀ {level input document rest},
    readValue dialect fuel level input = .ok (document, rest) → KeysDistinct document
  items : ∀ {level seen input document rest}, (∀ item ∈ seen, KeysDistinct item) →
    readItems dialect fuel level seen input = .ok (document, rest) → KeysDistinct document
  members : ∀ {level seen input document rest}, KeysDistinct (.mapping seen) →
    readMembers dialect fuel level seen input = .ok (document, rest) → KeysDistinct document

theorem keysDistinct_readValue (plain : ∀ word ∈ dialect.words, KeysDistinct word.2) {fuel level : Nat}
    (inner : ReadsDistinct dialect fuel)
    (read : readValue dialect (fuel + 1) level input = .ok (document, rest)) :
    KeysDistinct document := by
  unfold readValue at read
  split at read
  · split at read
    · contradiction
    · cases read
      exact .text _
  · split at read
    · split at read
      · cases read
        exact .list (by simp)
      · exact inner.items (by simp) read
    · contradiction
  · split at read
    · split at read
      · cases read
        exact .mapping (by simp) (by simp)
      · exact inner.members (.mapping (by simp) (by simp)) read
    · contradiction
  · split at read
    · rename_i result found
      cases read
      obtain ⟨word, present, same⟩ := Option.map_eq_some_iff.mp found
      cases same
      exact plain word (List.mem_of_find?_eq_some present)
    · exact keysDistinct_readNumber read

theorem keysDistinct_readItems {fuel level : Nat} {seen : List Document}
    (inner : ReadsDistinct dialect fuel) (earlier : ∀ item ∈ seen, KeysDistinct item)
    (read : readItems dialect (fuel + 1) level seen input = .ok (document, rest)) :
    KeysDistinct document := by
  unfold readItems at read
  split at read
  · contradiction
  · rename_i item behind first
    have each : ∀ other ∈ item :: seen, KeysDistinct other := by
      intro other member
      rcases List.mem_cons.mp member with same | before
      · subst other
        exact inner.value first
      · exact earlier other before
    split at read
    · cases read
      exact .list fun other member => each other (List.mem_reverse.mp member)
    · exact inner.items each read
    · contradiction

theorem keysDistinct_readMembers {fuel level : Nat} {seen : List (String × Document)}
    (inner : ReadsDistinct dialect fuel) (earlier : KeysDistinct (.mapping seen))
    (read : readMembers dialect (fuel + 1) level seen input = .ok (document, rest)) :
    KeysDistinct document := by
  unfold readMembers at read
  split at read
  · split at read
    · contradiction
    split at read
    · split at read
      · split at read
        · contradiction
        · rename_i value afterValue first
          have next := earlier.putMember (inner.value first)
          split at read
          · cases read
            exact next _
          · exact inner.members (next _) read
          · contradiction
      · contradiction
    · contradiction
  · contradiction

theorem readsDistinct (plain : ∀ word ∈ dialect.words, KeysDistinct word.2) (fuel : Nat) :
    ReadsDistinct dialect fuel := by
  induction fuel with
  | zero =>
      refine ⟨?_, ?_, ?_⟩
      · intro level input document rest read
        simp [readValue] at read
      · intro level seen input document rest _ read
        simp [readItems] at read
      · intro level seen input document rest _ read
        simp [readMembers] at read
  | succ fuel inner =>
      exact ⟨keysDistinct_readValue plain inner, keysDistinct_readItems inner,
        keysDistinct_readMembers inner⟩

theorem keysDistinct_read (plain : ∀ word ∈ dialect.words, KeysDistinct word.2) {text : String}
    (accepted : read dialect text = .ok document) : KeysDistinct document := by
  simp only [read] at accepted
  split at accepted
  · contradiction
  · rename_i found
    split at accepted
    · cases accepted
      exact (readsDistinct plain _).value found
    · contradiction

end Reading

end Nameplate.Document

namespace Nameplate

open Document (KeysDistinct)

theorem PlainYaml.keysDistinct_document {levels : Option Nat} {content : String}
    {document : Document} (accepted : PlainYaml.document levels content = .ok document) :
    document.KeysDistinct := by
  have plain : ∀ word ∈ (dialect levels).words, KeysDistinct word.2 := by
    simp [dialect, KeysDistinct.null, KeysDistinct.bool]
  simp only [PlainYaml.document] at accepted
  split at accepted
  · contradiction
  split at accepted
  · cases accepted
    exact .null
  split at accepted
  · cases accepted
    exact .text _
  obtain ⟨found, read, kept⟩ := bind_eq_ok_iff.mp accepted
  split at kept
  · contradiction
  · cases kept
    exact Document.keysDistinct_read plain read

namespace Readers

variable {readers : Readers} {use : FileUse} {format : FileFormat} {content : String}
  {document : Document}

/-- The documents that the reader of YAML makes have no repeated keys. -/
def KeysDistinct (readers : Readers) : Prop :=
  ∀ use content document, readers.yaml use content = .ok document → document.KeysDistinct

theorem keysDistinct_plain (jsonLevels yamlLevels : Option Nat) :
    (plain jsonLevels yamlLevels).KeysDistinct := by
  intro use content document accepted
  exact PlainYaml.keysDistinct_document (mapError_eq_ok_iff.mp accepted)

/-- What a file holds is then a document without repeated keys, in either format. -/
theorem KeysDistinct.read (distinct : readers.KeysDistinct)
    (accepted : readers.read use format content = .ok document) : document.KeysDistinct := by
  cases format with
  | json =>
      have plain : ∀ word ∈ (readers.jsonDialect use).words, word.2.KeysDistinct := by
        simp [jsonDialect, Document.Dialect.json, Document.KeysDistinct.null,
          Document.KeysDistinct.bool, Document.KeysDistinct.decimal]
      exact Document.keysDistinct_read plain (mapError_eq_ok_iff.mp accepted)
  | yaml => exact distinct use content document accepted

end Readers

end Nameplate
