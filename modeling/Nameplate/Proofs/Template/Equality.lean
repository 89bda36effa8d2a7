import Nameplate.Proofs.Template.RoundTrip

/-!
Equality of templates is sameness of behaviour.

Templates are equal when their written forms are.  A written form determines
the symbols of a template, and the symbols determine what a rendering asks for
and what it makes.

For the converse, a valuation that gives every tag a single character turns
symbols into characters one by one.  Two different sequences of symbols are then
told apart at a place where they differ, although values and literals share one
alphabet.
-/

namespace Nameplate

private theorem exists_char_ne (character : Char) : ∃ other : Char, other ≠ character := by
  by_cases isZero : character = '0'
  · subst isZero
    exact ⟨'1', by decide⟩
  · exact ⟨'0', fun same => isZero same.symm⟩

namespace Symbol

/-- The character that stands for a symbol when every tag has a value of one
character. -/
def face (value : Tag → Char) : Symbol → Char
  | .char character => character
  | .tag reference => value reference

theorem eq_of_face_eq {left right : Symbol}
    (same : ∀ value, left.face value = right.face value) : left = right := by
  cases left with
  | char character =>
      cases right with
      | char other => exact congrArg char (same fun _ => '0')
      | tag reference =>
          obtain ⟨other, differs⟩ := exists_char_ne character
          have equal : character = other := same fun _ => other
          exact absurd equal.symm differs
  | tag reference =>
      cases right with
      | char character =>
          obtain ⟨other, differs⟩ := exists_char_ne character
          have equal : other = character := same fun _ => other
          exact absurd equal differs
      | tag other =>
          -- Only the left tag has the value 1.
          have equal : '1' = if other = reference then '1' else '0' := by
            simpa [face] using same fun tag => if tag = reference then '1' else '0'
          split at equal
          · rename_i isSame
            rw [isSame]
          · contradiction

theorem eq_of_map_face_eq {left right : List Symbol}
    (same : ∀ value, left.map (face value) = right.map (face value)) : left = right := by
  induction left generalizing right with
  | nil =>
      have empty : right.map (face fun _ => '0') = [] := (same fun _ => '0').symm
      exact (List.map_eq_nil_iff.mp empty).symm
  | cons symbol rest inductionHypothesis =>
      cases right with
      | nil =>
          have impossible := same fun _ => '0'
          contradiction
      | cons other more =>
          have heads : symbol = other := eq_of_face_eq fun value => (List.cons.inj (same value)).1
          have tails : rest = more :=
            inductionHypothesis fun value => (List.cons.inj (same value)).2
          rw [heads, tails]

end Symbol

namespace Template

/-- A text is the written form of one sequence of symbols only. -/
theorem text_eq_iff_symbols_eq {left right : Template} :
    left.text = right.text ↔ left.symbols = right.symbols := by
  constructor
  · intro same
    have scanned := left.scan_text
    rw [same, right.scan_text] at scanned
    exact (Except.ok.inj scanned).symm
  · intro same
    rw [text_eq_ofList_symbols, text_eq_ofList_symbols, same]

theorem renderM_eq_of_symbols_eq {m : Type → Type} [Monad m] [LawfulMonad m]
    (ask : Tag → m (Option String)) {left right : Template} (same : left.symbols = right.symbols) :
    left.renderM ask = right.renderM ask := by
  have normal : left.normalForm = right.normalForm := by
    rw [← ofSymbols_symbols, ← ofSymbols_symbols, same]
  rw [← renderM_normalForm ask left, normal, renderM_normalForm]

/-- With one character for every tag, a template renders to the faces of its
symbols. -/
theorem render_faces (template : Template) (value : Tag → Char) :
    template.render (fun tag => some (String.singleton (value tag))) =
      some (String.ofList (template.symbols.map (Symbol.face value))) := by
  obtain ⟨segments⟩ := template
  rw [symbols]
  induction segments with
  | nil => rfl
  | cons segment rest inductionHypothesis =>
      cases segment with
      | literal text =>
          have faces : (text.toList.map Symbol.char).map (Symbol.face value) = text.toList := by
            rw [List.map_map]
            exact List.map_id text.toList
          rw [render_literal, inductionHypothesis, List.flatMap_cons, Segment.symbols,
            List.map_append, faces, String.ofList_append, String.ofList_toList, Option.map_some]
      | tag reference =>
          rw [render_tag, inductionHypothesis, List.flatMap_cons, Segment.symbols,
            List.map_append, String.ofList_append]
          rfl

theorem symbols_eq_of_render_eq {left right : Template}
    (same : ∀ value, left.render value = right.render value) : left.symbols = right.symbols := by
  apply Symbol.eq_of_map_face_eq
  intro value
  have rendered := same fun tag => some (String.singleton (value tag))
  rw [left.render_faces, right.render_faces] at rendered
  exact String.ofList_injective (Option.some.inj rendered)

theorem beq_iff_render_eq (left right : Template) :
    ((left == right) = true ↔ ∀ value, left.render value = right.render value) ∧
      ((left == right) = true →
        ∀ value, (left.renderTrace value).2 = (right.renderTrace value).2) := by
  rw [beq_iff, text_eq_iff_symbols_eq]
  refine ⟨⟨?_, symbols_eq_of_render_eq⟩, ?_⟩
  · intro same value
    exact renderM_eq_of_symbols_eq (m := Id) value same
  · intro same value
    rw [renderTrace, renderTrace, renderM_eq_of_symbols_eq _ same]

/-- A literal brace with empty literals at different places around it. -/
theorem beq_iff_render_eq_divided :
    ((⟨[.literal "\x7b", .literal "", .tag (.device .nick), .tag (.node .name)]⟩ : Template) ==
        ⟨[.literal "", .literal "\x7b", .tag (.device .nick), .literal "",
          .tag (.node .name)]⟩) = true ∧
      ∀ value,
        (renderTrace ⟨[.literal "\x7b", .literal "", .tag (.device .nick), .tag (.node .name)]⟩
          value).2 =
        (renderTrace ⟨[.literal "", .literal "\x7b", .tag (.device .nick), .literal "",
          .tag (.node .name)]⟩ value).2 := by
  have equal : ((⟨[.literal "\x7b", .literal "", .tag (.device .nick), .tag (.node .name)]⟩ :
      Template) == ⟨[.literal "", .literal "\x7b", .tag (.device .nick), .literal "",
        .tag (.node .name)]⟩) = true := by decide
  exact ⟨equal, (beq_iff_render_eq _ _).2 equal⟩

/-- A literal that spells a placeholder is no placeholder. -/
example : ((⟨[.literal "\x7bnode:node.name\x7d"]⟩ : Template) ==
    ⟨[.tag (.node .name)]⟩) = false := by decide

end Template

end Nameplate
