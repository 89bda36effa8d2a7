import Nameplate.Proofs.Names.Section
import Nameplate.Report

/-!
Printed templates.

A report prints a template segment by segment.  With colour off the segments join to
the written form, so what is printed can be put into a configuration again and is
read as an equal template.  Only a template that has nothing to show, one of empty
literals, is printed as something else.
-/

namespace Nameplate

theorem Segment.written_eq_nil_iff {segment : Segment} :
    segment.written = [] ↔ segment = .literal "" := by
  cases segment with
  | tag reference => simp [written]
  | literal text =>
      rw [written, escape_eq_flatMap, List.flatMap_eq_nil_iff]
      constructor
      · intro unwritten
        have empty : text.toList = [] := by
          rw [List.eq_nil_iff_forall_not_mem]
          intro character member
          have positive := (Symbol.char character).written_length_pos
          rw [unwritten character member] at positive
          contradiction
        rw [String.toList_eq_nil_iff.mp empty]
      · intro same
        cases same
        simp

theorem Template.text_eq_empty_iff {template : Template} :
    template.text = "" ↔ ∀ segment ∈ template.segments, segment = .literal "" := by
  rw [text, String.ofList_eq_empty_iff, List.flatMap_eq_nil_iff]
  exact forall₂_congr fun _ _ => Segment.written_eq_nil_iff

namespace Report

theorem segment_plain (part : Segment) : segment none part = String.ofList part.written := by
  cases part with
  | literal text => rfl
  | tag reference =>
      apply String.toList_injective
      simp [segment, Segment.written]

theorem join_segments_plain (segments : List Segment) :
    String.join (segments.map (segment none)) = Template.text ⟨segments⟩ := by
  apply String.toList_injective
  simp only [String.toList_join, List.flatMap_map, segment_plain, String.toList_ofList,
    Template.text]

theorem template_plain (made : Template) :
    template none made = if made.text = "" then "\"\"" else made.text := by
  simp only [template, join_segments_plain, paint_none, String.isEmpty_iff]

theorem printed_template_reads_back (made : Template) :
    (made.text ≠ "" → template none made = made.text) ∧
      (made.text = "" → template none made = "\"\"") ∧
      (made.text = "" ↔ ∀ part ∈ made.segments, part = .literal "") ∧
      (made.text ≠ "" → ∀ location, ∃ read,
        Names.templateOfDocument location (.text (template none made)) = .ok read ∧
          (read == made) = true) := by
  have printed : made.text ≠ "" → template none made = made.text := by
    intro shown
    rw [template_plain, if_neg shown]
  refine ⟨printed, ?_, Template.text_eq_empty_iff, ?_⟩
  · intro unshown
    rw [template_plain, if_pos unshown]
  · intro shown location
    rw [printed shown]
    exact ⟨made.normalForm, Names.templateOfDocument_text location made, made.normalForm_beq⟩

/-- Braces in divided literals beside a tag, with empty literals between them. -/
theorem printed_template_reads_back_divided :
    Template.text ⟨[.literal "\x7b", .literal "", .literal "\x7d", .tag (.device .nick)]⟩ ≠ "" ∧
      ∃ read, Names.templateOfDocument ⟨"names", []⟩ (.text (template none
          ⟨[.literal "\x7b", .literal "", .literal "\x7d", .tag (.device .nick)]⟩)) = .ok read ∧
        read.segments = [.literal "\x7b\x7d", .tag (.device .nick)] := by
  have shown : Template.text
      ⟨[.literal "\x7b", .literal "", .literal "\x7d", .tag (.device .nick)]⟩ ≠ "" := by decide
  obtain ⟨_, _, _, reads⟩ := printed_template_reads_back
    ⟨[.literal "\x7b", .literal "", .literal "\x7d", .tag (.device .nick)]⟩
  obtain ⟨read, accepted, _⟩ := reads shown ⟨"names", []⟩
  refine ⟨shown, read, accepted, ?_⟩
  cases accepted
  rfl

end Report

end Nameplate
