import Mathlib.Data.Option.NAry
import Nameplate.Proofs.Template.Faults

/-!
Templates one after another.

The segments of one template behind those of another make a template whose
written form, tags and renderings are those of the parts, one behind the other.
So a source behind an accepted source is read as it is read alone, except that
its places are counted from further left.
-/

namespace Nameplate

namespace Template

instance : Append Template where
  append first second := ⟨first.segments ++ second.segments⟩

variable (first second : Template)

theorem segments_append : (first ++ second).segments = first.segments ++ second.segments := rfl

theorem text_append : (first ++ second).text = first.text ++ second.text := by
  simp [text, segments_append]

theorem tags_append : (first ++ second).tags = first.tags ++ second.tags := by
  simp [tags, segments_append]

/-- A template behind another renders to the two names joined, and to none if
either part has none. -/
theorem render_append (value : Tag → Option String) :
    (first ++ second).render value =
      Option.map₂ (· ++ ·) (first.render value) (second.render value) := by
  obtain ⟨segments⟩ := first
  induction segments with
  | nil =>
      change second.render value = Option.map₂ (· ++ ·) (some "") (second.render value)
      cases second.render value <;> simp
  | cons segment rest inductionHypothesis =>
      have split : (⟨segment :: rest⟩ : Template) ++ second =
          ⟨segment :: ((⟨rest⟩ : Template) ++ second).segments⟩ := rfl
      cases segment with
      | literal text =>
          rw [split, render_literal, render_literal, inductionHypothesis, Option.map_map₂,
            Option.map₂_map_left]
          simp [String.append_assoc]
      | tag reference =>
          rw [split, render_tag, render_tag, inductionHypothesis]
          cases value reference with
          | none => simp
          | some shown =>
              simp only [Option.bind_some, Option.map_map₂, Option.map₂_map_left,
                String.append_assoc]

theorem tags_eq_filterMap_symbols (template : Template) :
    template.tags = template.symbols.filterMap fun
      | .char _ => none
      | .tag tag => some tag := by
  obtain ⟨segments⟩ := template
  induction segments with
  | nil => rfl
  | cons segment rest inductionHypothesis =>
      simp only [tags, symbols] at inductionHypothesis
      cases segment with
      | literal text => simp [tags, symbols, Segment.symbols, inductionHypothesis]
      | tag reference => simp [tags, symbols, Segment.symbols, inductionHypothesis]

@[simp] theorem tags_normalForm (template : Template) :
    template.normalForm.tags = template.tags := by
  rw [tags_eq_filterMap_symbols, tags_eq_filterMap_symbols, symbols_normalForm]

/-- A fault does not depend on where the reading started, apart from its place. -/
theorem scan_behind {position : Nat} {text : List Char} {fault : Fault}
    (failed : scan position text = .error fault) (offset : Nat) :
    scan (offset + position) text = .error ⟨offset + fault.position, fault.cause⟩ := by
  obtain ⟨symbols, rest, shape, stuck, place⟩ := scan_eq_error_iff.mp failed
  refine scan_eq_error_iff.mpr ⟨symbols, rest, shape, stuck, ?_⟩
  change offset + fault.position = _
  omega

section Sources

variable {head tail : String} {template : Template}

theorem parse_append_of_ok {other : Template} (accepted : parse head = .ok template)
    (alsoAccepted : parse tail = .ok other) :
    parse (head ++ tail) = .ok (template ++ other).normalForm := by
  have headText : template.text = head := (parse_eq_ok_iff.mp accepted).1
  have tailText : other.text = tail := (parse_eq_ok_iff.mp alsoAccepted).1
  refine parse_eq_ok_iff.mpr ⟨?_, isNormal_normalForm _⟩
  rw [text_normalForm, text_append, headText, tailText]

theorem parse_append_of_error {error : Error} (accepted : parse head = .ok template)
    (rejected : parse tail = .error error) :
    parse (head ++ tail) =
      .error ⟨head ++ tail, head.length + error.position, error.cause⟩ := by
  obtain ⟨symbols, written⟩ := parse_exists_iff.mp ⟨template, accepted⟩
  have failed := scan_behind (parse_eq_error_iff.mp rejected).2 head.length
  rw [Nat.add_zero] at failed
  refine parse_eq_error_iff.mpr ⟨rfl, ?_⟩
  rw [String.toList_append, written, scan_symbols, ← written, String.length_toList, Nat.zero_add,
    failed]
  rfl

theorem parse_append (accepted : parse head = .ok template) (tail : String) :
    ((∃ whole, parse (head ++ tail) = .ok whole) ↔ ∃ other, parse tail = .ok other) ∧
      (∀ other, parse tail = .ok other →
        ∃ whole, parse (head ++ tail) = .ok whole ∧ whole.tags = template.tags ++ other.tags ∧
          ∀ value, whole.render value =
            Option.map₂ (· ++ ·) (template.render value) (other.render value)) ∧
      ∀ error, parse tail = .error error →
        ∃ shifted, parse (head ++ tail) = .error shifted ∧
          shifted.position = head.length + error.position ∧ shifted.cause = error.cause ∧
          shifted.placeholder? = error.placeholder? := by
  refine ⟨⟨?_, ?_⟩, ?_, ?_⟩
  · intro wholeAccepted
    cases alone : parse tail with
    | ok other => exact ⟨other, rfl⟩
    | error error =>
        obtain ⟨whole, wholeAccepted⟩ := wholeAccepted
        rw [parse_append_of_error accepted alone] at wholeAccepted
        contradiction
  · intro tailAccepted
    obtain ⟨other, alsoAccepted⟩ := tailAccepted
    exact ⟨_, parse_append_of_ok accepted alsoAccepted⟩
  · intro other alsoAccepted
    refine ⟨_, parse_append_of_ok accepted alsoAccepted, ?_, ?_⟩
    · rw [tags_normalForm, tags_append]
    · intro value
      rw [render_normalForm, render_append]
  · intro error rejected
    exact ⟨_, parse_append_of_error accepted rejected, rfl, rfl, rfl⟩

/-- A lone brace is no template, also behind an escaped one. -/
theorem parse_append_braces :
    parse "\x7b\x7b" = .ok ⟨[.literal "\x7b"]⟩ ∧
      parse "\x7b" = .error ⟨"\x7b", 0, .unterminated ""⟩ ∧
      ∃ shifted, parse ("\x7b\x7b" ++ "\x7b") = .error shifted ∧ shifted.position = 2 ∧
        shifted.placeholder? = some "\x7b" := by
  have accepted : parse "\x7b\x7b" = .ok ⟨[.literal "\x7b"]⟩ := rfl
  have rejected : parse "\x7b" = .error ⟨"\x7b", 0, .unterminated ""⟩ := rfl
  obtain ⟨shifted, failed, place, _, shown⟩ := (parse_append accepted "\x7b").2.2 _ rejected
  exact ⟨accepted, rejected, shifted, failed, place, shown⟩

end Sources

end Template

end Nameplate
