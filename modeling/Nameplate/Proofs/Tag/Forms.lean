import Nameplate.Proofs.Template.RoundTrip

/-!
The ways of writing a tag.

A tag is named by its text, by its kind and its path apart, or by a placeholder.
The three readers know the same tags.  What one of the first two refuses the other
refuses too, in the same words as long as the kind holds no colon: it is the first
colon of a text that divides it.
-/

namespace Nameplate

namespace Kind

theorem colon_notMem_text (kind : Kind) : ':' ∉ kind.text.toList := by
  cases kind <;> decide

theorem ofText?_eq_none_iff {word : String} :
    ofText? word = none ↔ ∀ kind : Kind, kind.text ≠ word := by
  constructor
  · intro missing kind same
    rw [ofText?_eq_some_iff.mpr same.symm] at missing
    contradiction
  · intro unknown
    cases found : ofText? word with
    | none => rfl
    | some kind => exact absurd (ofText?_eq_some_iff.mp found).symm (unknown kind)

end Kind

namespace Tag

variable {kindText pathText : String}

theorem colon_notMem_path (tag : Tag) : ':' ∉ tag.path.toList := by
  rcases tag with property | property | property <;> cases property <;> decide

theorem ofParts_unknownKind (unknown : ∀ kind : Kind, kind.text ≠ kindText) :
    ofParts kindText pathText = .error (.unknownKind kindText pathText) := by
  simp only [ofParts, Kind.ofText?_eq_none_iff.mpr unknown]

theorem ofParts_unknownProperty {kind : Kind}
    (missing : ∀ tag : Tag, tag.kind = kind → tag.path ≠ pathText) :
    ofParts kind.text pathText = .error (.unknownProperty kind pathText) := by
  have known : Kind.ofText? kind.text = some kind := Kind.ofText?_eq_some_iff.mpr rfl
  have unlisted : (ofKind kind).find? (fun tag => tag.path = pathText) = none := by
    rw [List.find?_eq_none]
    intro tag listed
    simpa using missing tag (mem_ofKind.mp listed)
  simp only [ofParts, known, unlisted]

/-- Kind and path name a tag, unless the kind is unknown or its tags have other paths. -/
theorem parts_cases (kindText pathText : String) :
    (∃ tag : Tag, kindText = tag.kind.text ∧ pathText = tag.path) ∨
      (∀ kind : Kind, kind.text ≠ kindText) ∨
        ∃ kind : Kind, kindText = kind.text ∧ ∀ tag : Tag, tag.kind = kind → tag.path ≠ pathText := by
  by_cases known : ∃ kind : Kind, kind.text = kindText
  · obtain ⟨kind, named⟩ := known
    by_cases listed : ∃ tag : Tag, tag.kind = kind ∧ tag.path = pathText
    · obtain ⟨tag, sameKind, samePath⟩ := listed
      exact .inl ⟨tag, by rw [sameKind, named], samePath.symm⟩
    · exact .inr (.inr ⟨kind, named.symm, fun tag inKind same => listed ⟨tag, inKind, same⟩⟩)
  · exact .inr (.inl fun kind named => known ⟨kind, named⟩)

/-- An error of kind and path tells both as they were written. -/
theorem written_of_ofParts {error : TagError} (refused : ofParts kindText pathText = .error error) :
    error.kindText = kindText ∧ error.path? = some pathText := by
  rcases parts_cases kindText pathText with ⟨tag, named⟩ | unknown | ⟨kind, named, missing⟩
  · rw [ofParts_eq_ok_iff.mpr named] at refused
    contradiction
  · rw [ofParts_unknownKind unknown] at refused
    cases refused
    exact ⟨rfl, rfl⟩
  · rw [named, ofParts_unknownProperty missing] at refused
    cases refused
    exact ⟨named.symm, rfl⟩

theorem ofText_joined (noColon : ':' ∉ kindText.toList) :
    ofText (kindText ++ ":" ++ pathText) = ofParts kindText pathText := by
  have divided : Text.cut? ':' (kindText ++ ":" ++ pathText).toList =
      some (kindText.toList, pathText.toList) :=
    Text.cut?_eq_some_iff.mpr ⟨by simp, noColon⟩
  simp only [ofText, divided, String.ofList_toList]

/-- A text that is joined from kind and path writes the tag that they name, and no tag if
the kind holds a colon: the text of a tag has one colon only. -/
theorem ofText_joined_eq_ok_iff {tag : Tag} :
    ofText (kindText ++ ":" ++ pathText) = .ok tag ↔ ofParts kindText pathText = .ok tag := by
  by_cases noColon : ':' ∈ kindText.toList
  · rw [ofText_eq_ok_iff, ofParts_eq_ok_iff]
    constructor
    · intro written
      have colons := congrArg (fun text => text.toList.count ':') written
      have inKind := List.count_eq_zero_of_not_mem tag.kind.colon_notMem_text
      have inPath := List.count_eq_zero_of_not_mem tag.colon_notMem_path
      have here := List.count_pos_iff.mpr noColon
      simp only [text, String.toList_append, List.count_append, inKind, inPath] at colons
      omega
    · rintro ⟨named, _⟩
      rw [named] at noColon
      exact absurd noColon tag.kind.colon_notMem_text
  · rw [ofText_joined noColon]

/-- A template of one tag only is written as the tag's placeholder. -/
theorem parse_placeholder_eq_ok_iff {source : String} {tag : Tag} :
    Template.parse ("\x7b" ++ source ++ "\x7d") = .ok ⟨[.tag tag]⟩ ↔ source = tag.text := by
  have written : Template.text ⟨[.tag tag]⟩ = "\x7b" ++ tag.text ++ "\x7d" := by
    apply String.toList_injective
    simp [Template.text, Segment.written]
  have empty : Template.IsNormal ⟨[]⟩ := ⟨by simp, .nil⟩
  rw [Template.parse_eq_ok_iff, written]
  constructor
  · rintro ⟨same, _⟩
    have characters := congrArg String.toList same
    simp only [String.toList_append, List.append_cancel_left_eq,
      List.append_cancel_right_eq] at characters
    exact (String.toList_injective characters).symm
  · rintro rfl
    exact ⟨rfl, empty.cons_tag tag⟩

theorem forms_agree :
    (∀ (source : String) (tag : Tag),
      (ofText source = .ok tag ↔ source = tag.text) ∧
        (Template.parse ("\x7b" ++ source ++ "\x7d") = .ok ⟨[.tag tag]⟩ ↔ source = tag.text)) ∧
      ∀ kindText pathText : String,
        ((∃ tag, ofParts kindText pathText = .ok tag ∧
            ofText (kindText ++ ":" ++ pathText) = .ok tag) ∨
          ∃ apart joined, ofParts kindText pathText = .error apart ∧
            ofText (kindText ++ ":" ++ pathText) = .error joined) ∧
        (':' ∉ kindText.toList → ∀ error, ofParts kindText pathText = .error error →
          ofText (kindText ++ ":" ++ pathText) = .error error ∧
            error.kindText = kindText ∧ error.path? = some pathText) := by
  refine ⟨fun source tag => ⟨ofText_eq_ok_iff, parse_placeholder_eq_ok_iff⟩, ?_⟩
  intro kindText pathText
  refine ⟨?_, ?_⟩
  · cases apart : ofParts kindText pathText with
    | ok tag => exact .inl ⟨tag, rfl, ofText_joined_eq_ok_iff.mpr apart⟩
    | error error =>
        cases joined : ofText (kindText ++ ":" ++ pathText) with
        | error other => exact .inr ⟨error, other, rfl, rfl⟩
        | ok tag =>
            rw [ofText_joined_eq_ok_iff.mp joined] at apart
            contradiction
  · intro noColon error refused
    rw [ofText_joined noColon]
    exact ⟨refused, written_of_ofParts refused⟩

/-- A kind that exists, with a path of another kind and a colon too many. -/
theorem forms_agree_foreignPath :
    ':' ∉ "device".toList ∧
      ofText "device:media.name:x" = .error (.unknownProperty .device "media.name:x") ∧
      TagError.path? (.unknownProperty .device "media.name:x") = some "media.name:x" := by
  obtain ⟨joined, _, path⟩ := (forms_agree.2 "device" "media.name:x").2 (by decide)
    (.unknownProperty .device "media.name:x") rfl
  exact ⟨by decide, joined, path⟩

/-- With a colon in the kind the readers put the blame in different places. -/
example : ofParts "node:media" "name" = .error (.unknownKind "node:media" "name") ∧
    ofText "node:media:name" = .error (.unknownProperty .node "media:name") := ⟨rfl, rfl⟩

end Tag

end Nameplate
