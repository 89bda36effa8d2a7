import Nameplate.Graph
import Nameplate.Proofs.Resolution.Precedence
import Nameplate.Proofs.Template.Rendering

/-!
Learning more about an object.

Between two states of the graph an object may gain properties, links and linked
objects.  As long as it loses no value, a template that rendered makes the same
name as before.  Templates in front of it may begin to render, so the winner can
only move forward in the list, and an object that had a name still has one.
-/

namespace Nameplate

/-- Every tag that has a value keeps it.  Tags without a value may gain one. -/
def Tag.KeepValues (value later : Tag → Option String) : Prop :=
  ∀ tag text, value tag = some text → later tag = some text

section Rendering

variable {value later : Tag → Option String}

theorem Segment.Shows.of_keepValues (kept : Tag.KeepValues value later) {segment : Segment}
    {piece : String} (shows : segment.Shows value piece) : segment.Shows later piece := by
  cases shows with
  | literal => exact .literal _
  | tag found => exact .tag (kept _ _ found)

theorem Template.render_of_keepValues (kept : Tag.KeepValues value later) {template : Template}
    {name : String} (rendered : template.render value = some name) :
    template.render later = some name := by
  rw [render_eq_some_iff] at rendered ⊢
  obtain ⟨pieces, shows, joined⟩ := rendered
  exact ⟨pieces, shows.imp fun _ _ => Segment.Shows.of_keepValues kept, joined⟩

end Rendering

/-- If a condition holds somewhere in a list, it holds for the first time there or
earlier. -/
theorem IsFirst.exists_le {α : Type} {condition : α → Prop} {list : List α} {place : Nat}
    {element : α} (found : list[place]? = some element) (holds : condition element) :
    ∃ earlier other, earlier ≤ place ∧ IsFirst condition list earlier other := by
  induction list generalizing place with
  | nil => simp at found
  | cons first rest inductionHypothesis =>
      by_cases atOnce : condition first
      · exact ⟨0, first, Nat.zero_le place, .head atOnce⟩
      · cases place with
        | zero =>
            have same : first = element := by simpa using found
            subst first
            exact absurd holds atOnce
        | succ place =>
            have behind : rest[place]? = some element := by simpa using found
            obtain ⟨earlier, other, bound, isFirst⟩ := inductionHypothesis behind
            exact ⟨earlier + 1, other, Nat.succ_le_succ bound, isFirst.tail atOnce⟩

namespace Record

theorem kind_eq_of_category_eq {record later : Record} {category : Category}
    (categorized : record.category = .ok category) (alsoCategorized : later.category = .ok category) :
    later.kind = record.kind := by
  have kindOf {object : Record} (found : object.category = .ok category) :
      object.kind = if category = .device then .device else .node := by
    cases object with
    | device device =>
        cases found
        rfl
    | node node =>
        cases endpoint : node.isEndpoint <;> simp [Record.category, category?, endpoint] at found <;>
          subst category <;> rfl
    | client client => contradiction
  rw [kindOf categorized, kindOf alsoCategorized]

/-- The own name of an object is among the values that it keeps. -/
theorem ownName_of_keepValues {record later : Record} {lookup laterLookup : Lookup} {name : String}
    (kept : Tag.KeepValues (record.tagValue lookup) (later.tagValue laterLookup))
    (sameKind : later.kind = record.kind) (named : record.ownName = some name) :
    later.ownName = some name := by
  cases record with
  | device device =>
      cases later with
      | device other => exact kept (.device .name) name named
      | node other => contradiction
      | client other => contradiction
  | node node =>
      cases later with
      | node other => exact kept (.node .name) name named
      | device other => contradiction
      | client other => contradiction
  | client client => contradiction

end Record

namespace Resolution.Follows

variable {category : Category} {value later : Tag → Option String} {ownName laterName : Option String}
  {place : Option Nat} {chosen : List Template} {before after : Resolution}

/-- Where a template won, one of the same list wins later, and not behind it. -/
theorem winner_of_keepValues (kept : Tag.KeepValues value later)
    (follows : before.Follows category value ownName place chosen)
    (laterFollows : after.Follows category later laterName place chosen) {template : Template}
    (won : before.template = some template) :
    ∃ position earlier other,
      IsFirst (fun made => made.render value ≠ none) chosen position template ∧
      earlier ≤ position ∧ IsFirst (fun made => made.render later ≠ none) chosen earlier other ∧
      after.template = some other ∧ (earlier = position → after.name = before.name) := by
  cases follows with
  | unrendered fails => contradiction
  | @rendered position _ name first made =>
      cases won
      have stillMade := Template.render_of_keepValues kept made
      have stillRenders : template.render later ≠ none := by simp [stillMade]
      cases laterFollows with
      | unrendered fails => exact absurd (fails template first.mem) stillRenders
      | @rendered earlier other laterName laterFirst laterMade =>
          -- The winner is the only template that comes first, so it is not behind the old one.
          have renders : ∃ least other, least ≤ position ∧
              IsFirst (fun made => made.render later ≠ none) chosen least other :=
            IsFirst.exists_le first.found stillRenders
          obtain ⟨least, _, bound, isFirst⟩ := renders
          obtain ⟨samePlace, _⟩ := isFirst.unique laterFirst
          refine ⟨position, earlier, other, first, samePlace ▸ bound, laterFirst, rfl, ?_⟩
          intro unmoved
          have sameTemplate : other = template := by
            have found := laterFirst.found
            rw [unmoved, first.found] at found
            exact (Option.some.inj found).symm
          rw [sameTemplate, stillMade] at laterMade
          exact laterMade.symm

theorem name_ne_none_of_keepValues (kept : Tag.KeepValues value later)
    (follows : before.Follows category value ownName place chosen)
    (laterFollows : after.Follows category later laterName place chosen)
    (stillNamed : ∀ name, ownName = some name → laterName = some name) (named : before.name ≠ none) :
    after.name ≠ none := by
  cases laterFollows with
  | rendered first made => simp
  | unrendered laterFails =>
      cases follows with
      | @rendered _ template _ first made =>
          have stillMade := Template.render_of_keepValues kept made
          rw [laterFails template first.mem] at stillMade
          contradiction
      | unrendered fails =>
          obtain ⟨name, found⟩ := Option.ne_none_iff_exists'.mp named
          have still : laterName = some name := stillNamed name found
          simp [still]

end Resolution.Follows

theorem Names.name_kept_of_learning (names : Names) {record later : Record}
    {lookup laterLookup : Lookup} {category : Category}
    (kept : Tag.KeepValues (record.tagValue lookup) (later.tagValue laterLookup))
    (categorized : record.category = .ok category) (sameCategory : later.category = .ok category)
    (sameOverride : names.firstOverride category (later.tagValue laterLookup) =
      names.firstOverride category (record.tagValue lookup)) :
    ∃ before after chosen,
      (record.explain lookup names).outcome = .ok before ∧
      (later.explain laterLookup names).outcome = .ok after ∧
      record.templates lookup names = .ok chosen ∧ later.templates laterLookup names = .ok chosen ∧
      (∀ template, before.template = some template → ∃ position earlier other,
        IsFirst (fun made => made.render (record.tagValue lookup) ≠ none) chosen position template ∧
        earlier ≤ position ∧
        IsFirst (fun made => made.render (later.tagValue laterLookup) ≠ none) chosen earlier other ∧
        after.template = some other ∧ (earlier = position → after.name = before.name)) ∧
      (before.name ≠ none → after.name ≠ none) := by
  have sameCandidates : names.candidates category (later.tagValue laterLookup) =
      names.candidates category (record.tagValue lookup) := by
    rw [candidates, candidates, sameOverride]
  have follows := names.follows_resolve category (record.tagValue lookup) record.ownName
  have laterFollows := names.follows_resolve category (later.tagValue laterLookup) later.ownName
  rw [sameOverride, sameCandidates] at laterFollows
  have sameKind := Record.kind_eq_of_category_eq categorized sameCategory
  refine ⟨_, _, _, Record.explain_of_category categorized lookup names,
    Record.explain_of_category sameCategory laterLookup names,
    Record.templates_of_category categorized lookup names, ?_, ?_, ?_⟩
  · rw [Record.templates_of_category sameCategory, sameCandidates]
  · exact fun template won => follows.winner_of_keepValues kept laterFollows won
  · exact follows.name_ne_none_of_keepValues kept laterFollows
      (fun name => Record.ownName_of_keepValues kept sameKind)

/-- A sink whose device was not observed yet. -/
def Node.speakers : Node :=
  ⟨51, some "sink", none, some "Speakers", none, some ⟨"Audio/Sink"⟩, some 40, none⟩

/-- Once the device is known, its nick makes the name and not the description of the
node any more. -/
theorem Names.name_kept_of_learning_speakers :
    Tag.KeepValues ((Record.node .speakers).tagValue Graph.empty.get?)
        ((Record.node .speakers).tagValue
          (Graph.empty.adopt (IdMap.ofList [(40, .device ⟨40, none, some "HDA", none⟩)])).get?) ∧
      ∃ before after,
        ((Record.node .speakers).explain Graph.empty.get? Names.default).outcome = .ok before ∧
        ((Record.node .speakers).explain
          (Graph.empty.adopt (IdMap.ofList [(40, .device ⟨40, none, some "HDA", none⟩)])).get?
          Names.default).outcome = .ok after ∧
        before.name = some "Speakers" ∧ after.name = some "HDA" ∧
        (before.name ≠ none → after.name ≠ none) := by
  have kept : Tag.KeepValues ((Record.node .speakers).tagValue Graph.empty.get?)
      ((Record.node .speakers).tagValue
        (Graph.empty.adopt (IdMap.ofList [(40, .device ⟨40, none, some "HDA", none⟩)])).get?) := by
    intro tag text found
    cases tag with
    | device property => contradiction
    | node property => exact found
    | client property => contradiction
  have endpoint : (Record.node .speakers).category = .ok .endpoint := rfl
  obtain ⟨before, after, _, explained, laterExplained, _, _, _, named⟩ :=
    Names.default.name_kept_of_learning kept endpoint endpoint rfl
  cases explained
  cases laterExplained
  exact ⟨kept, _, _, rfl, rfl, rfl, rfl, named⟩

end Nameplate
