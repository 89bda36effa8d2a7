import Mathlib.Data.List.Forall2
import Nameplate.Template

/-!
What a rendering makes, and what it asks for.

A name has one piece for each segment, so a single tag without a value leaves no
name at all.  The tags are asked for from left to right, each as often as it
occurs, and the first one without a value is the last to be asked for.
-/

namespace Nameplate

/-- What a segment adds to a name: a literal its own text, a tag its value. -/
inductive Segment.Shows (value : Tag → Option String) : Segment → String → Prop where
  | literal (text : String) : Shows value (.literal text) text
  | tag {tag : Tag} {shown : String} (found : value tag = some shown) : Shows value (.tag tag) shown

namespace Template

variable (value : Tag → Option String)

theorem tags_literal (text : String) (rest : List Segment) :
    tags ⟨.literal text :: rest⟩ = tags ⟨rest⟩ := rfl

theorem tags_tag (tag : Tag) (rest : List Segment) :
    tags ⟨.tag tag :: rest⟩ = tag :: tags ⟨rest⟩ := rfl

theorem render_eq_some_iff (template : Template) (name : String) :
    template.render value = some name ↔
      ∃ pieces, List.Forall₂ (Segment.Shows value) template.segments pieces ∧
        name = String.join pieces := by
  obtain ⟨segments⟩ := template
  induction segments generalizing name with
  | nil =>
      constructor
      · intro rendered
        cases rendered
        exact ⟨[], .nil, rfl⟩
      · intro shown
        obtain ⟨pieces, shows, joined⟩ := shown
        cases shows
        rw [joined]
        rfl
  | cons segment rest inductionHypothesis =>
      constructor
      · intro rendered
        cases segment with
        | literal text =>
            rw [render_literal, Option.map_eq_some_iff] at rendered
            obtain ⟨later, restRendered, joined⟩ := rendered
            obtain ⟨pieces, shows, same⟩ := (inductionHypothesis later).mp restRendered
            exact ⟨text :: pieces, .cons (.literal text) shows,
              by rw [← joined, same, String.join_cons]⟩
        | tag reference =>
            rw [render_tag, Option.bind_eq_some_iff] at rendered
            obtain ⟨shown, found, rendered⟩ := rendered
            obtain ⟨later, restRendered, joined⟩ := Option.map_eq_some_iff.mp rendered
            obtain ⟨pieces, shows, same⟩ := (inductionHypothesis later).mp restRendered
            exact ⟨shown :: pieces, .cons (.tag found) shows,
              by rw [← joined, same, String.join_cons]⟩
      · intro shown
        obtain ⟨pieces, shows, joined⟩ := shown
        cases shows with
        | @cons _ piece _ pieces first later =>
            have restRendered := (inductionHypothesis _).mpr ⟨pieces, later, rfl⟩
            rw [joined, String.join_cons]
            cases first with
            | literal text => rw [render_literal, restRendered, Option.map_some]
            | tag found => rw [render_tag, found, Option.bind_some, restRendered, Option.map_some]

theorem render_eq_none_iff (template : Template) :
    template.render value = none ↔ ∃ tag ∈ template.tags, value tag = none := by
  obtain ⟨segments⟩ := template
  induction segments with
  | nil => simp [render, renderM, renderSegments, tags]
  | cons segment rest inductionHypothesis =>
      cases segment with
      | literal text =>
          rw [render_literal, tags_literal, Option.map_eq_none_iff, inductionHypothesis]
      | tag reference =>
          rw [render_tag, tags_tag]
          cases found : value reference with
          | none => simp [found]
          | some shown => simp [found, inductionHypothesis]

/-- Answers from a valuation and notes every tag that is asked for. -/
def noting (tag : Tag) : StateM (List Tag) (Option String) := do
  modify (· ++ [tag])
  return value tag

/-- The tags up to the first one that has no value, or all of them. -/
def throughFirstMissing (tags : List Tag) : List Tag :=
  tags.take (tags.findIdx (fun tag => (value tag).isNone) + 1)

theorem throughFirstMissing_cons (tag : Tag) (rest : List Tag) :
    throughFirstMissing value (tag :: rest) =
      tag :: if (value tag).isNone then [] else throughFirstMissing value rest := by
  cases found : value tag with
  | none => simp [throughFirstMissing, List.findIdx_cons, found]
  | some shown => simp [throughFirstMissing, List.findIdx_cons, found]

/-- Result and questions of a rendering, with `asked` the tags asked for before. -/
theorem renderSegments_noting (segments : List Segment) (asked : List Tag) :
    ((renderSegments (noting value) segments).run asked).run =
      (render ⟨segments⟩ value, asked ++ throughFirstMissing value (tags ⟨segments⟩)) := by
  induction segments generalizing asked with
  | nil =>
      have nothing : throughFirstMissing value (tags ⟨[]⟩) = [] := rfl
      rw [nothing, List.append_nil]
      rfl
  | cons segment rest inductionHypothesis =>
      cases segment with
      | literal text =>
          simp [renderSegments, inductionHypothesis, render_literal, tags_literal]
      | tag reference =>
          rw [render_tag, tags_tag, throughFirstMissing_cons]
          cases found : value reference with
          | none => simp [renderSegments, noting, found]
          | some shown => simp [renderSegments, noting, found, inductionHypothesis]

theorem renderTrace_eq (template : Template) :
    template.renderTrace value =
      (template.render value, throughFirstMissing value template.tags) :=
  renderSegments_noting value template.segments []

/-- Values are taken as they are, also empty ones and such that hold braces. -/
theorem renderTrace_complete (template : Template) :
    (template.renderTrace value).1 = template.render value ∧
      (template.render value = none ↔ ∃ tag ∈ template.tags, value tag = none) ∧
      (∀ name, template.render value = some name ↔
        ∃ pieces, List.Forall₂ (Segment.Shows value) template.segments pieces ∧
          name = String.join pieces) ∧
      (template.renderTrace value).2 = throughFirstMissing value template.tags := by
  rw [renderTrace_eq]
  exact ⟨rfl, render_eq_none_iff value template, render_eq_some_iff value template, rfl⟩

/-- A tag is asked for again where it occurs again, and none behind a miss. -/
example :
    renderTrace ⟨[.tag (.node .name), .literal "\x7b", .tag (.node .name), .tag (.device .nick),
        .tag (.client .processBinary)]⟩
      (fun tag => if tag = .device .nick then none else some "") =
        (none, [.node .name, .node .name, .device .nick]) := rfl

end Template

end Nameplate
