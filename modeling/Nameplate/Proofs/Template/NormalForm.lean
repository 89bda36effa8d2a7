import Mathlib.Data.List.Chain
import Nameplate.Template

/-!
Normal forms of templates.

A template may be built with empty literals and with neighbouring literals.
Its normal form drops the empty ones and joins neighbours.  Symbols, written
form and renderings of a template are those of its normal form, and grouping
the symbols of a template gives its normal form.
-/

namespace Nameplate

/-- The written form of one symbol. -/
def Symbol.written : Symbol → List Char
  | .char '{' => ['{', '{']
  | .char '}' => ['}', '}']
  | .char character => [character]
  | .tag reference => '{' :: reference.text.toList ++ ['}']

namespace Symbol

theorem written_plain {character : Char} (notOpening : character ≠ '{')
    (notClosing : character ≠ '}') : (char character).written = [character] := by
  unfold written
  split <;> simp_all

theorem written_length_pos (symbol : Symbol) : 0 < symbol.written.length := by
  unfold written
  split <;> simp

end Symbol

namespace Segment

def isLiteral : Segment → Bool
  | .literal _ => true
  | .tag _ => false

theorem escape_eq_flatMap (characters : List Char) :
    escape characters = characters.flatMap fun character => (Symbol.char character).written := by
  fun_induction escape characters with
  | case1 => rfl
  | case2 rest inductionHypothesis => simp [inductionHypothesis, Symbol.written]
  | case3 rest inductionHypothesis => simp [inductionHypothesis, Symbol.written]
  | case4 character rest notOpening notClosing inductionHypothesis =>
      rw [inductionHypothesis, List.flatMap_cons,
        Symbol.written_plain notOpening notClosing,
        List.singleton_append]

theorem written_eq_flatMap_symbols (segment : Segment) :
    segment.written = segment.symbols.flatMap Symbol.written := by
  cases segment with
  | literal text => rw [written, symbols, escape_eq_flatMap, List.flatMap_map]
  | tag reference => simp [written, symbols, Symbol.written]

end Segment

namespace Template

/-- Puts a literal in front of segments: it joins a literal that stands there,
and an empty one disappears. -/
def prependLiteral (text : String) : List Segment → List Segment
  | .literal more :: rest => .literal (text ++ more) :: rest
  | segments => if text = "" then segments else .literal text :: segments

/-- The segments without empty literals and with neighbouring literals joined. -/
def joinLiterals : List Segment → List Segment
  | [] => []
  | .literal text :: rest => prependLiteral text (joinLiterals rest)
  | .tag reference :: rest => .tag reference :: joinLiterals rest

def normalForm (template : Template) : Template :=
  ⟨joinLiterals template.segments⟩

/-- No literal is empty and no two literals are neighbours. -/
structure IsNormal (template : Template) : Prop where
  nonempty : ∀ text, .literal text ∈ template.segments → text ≠ ""
  separated : template.segments.IsChain fun left right => ¬(left.isLiteral ∧ right.isLiteral)

/-- The written form only depends on the symbols. -/
theorem text_eq_ofList_symbols (template : Template) :
    template.text = String.ofList (template.symbols.flatMap Symbol.written) := by
  have written : Segment.written = fun segment => segment.symbols.flatMap Symbol.written :=
    funext Segment.written_eq_flatMap_symbols
  rw [text, symbols, List.flatMap_assoc, written]

theorem symbols_prependLiteral (text : String) (segments : List Segment) :
    (prependLiteral text segments).flatMap Segment.symbols =
      text.toList.map .char ++ segments.flatMap Segment.symbols := by
  unfold prependLiteral
  split
  · simp [Segment.symbols]
  · split
    · rename_i empty
      simp [empty]
    · simp [Segment.symbols]

theorem symbols_joinLiterals (segments : List Segment) :
    (joinLiterals segments).flatMap Segment.symbols = segments.flatMap Segment.symbols := by
  induction segments with
  | nil => rfl
  | cons segment rest inductionHypothesis =>
      cases segment with
      | literal text =>
          rw [joinLiterals, symbols_prependLiteral, inductionHypothesis, List.flatMap_cons,
            Segment.symbols]
      | tag reference => rw [joinLiterals, List.flatMap_cons, List.flatMap_cons, inductionHypothesis]

@[simp] theorem symbols_normalForm (template : Template) :
    template.normalForm.symbols = template.symbols :=
  symbols_joinLiterals template.segments

@[simp] theorem text_normalForm (template : Template) :
    template.normalForm.text = template.text := by
  rw [text_eq_ofList_symbols, text_eq_ofList_symbols, symbols_normalForm]

theorem beq_iff {left right : Template} : (left == right) = true ↔ left.text = right.text :=
  beq_iff_eq (a := left.text)

theorem normalForm_beq (template : Template) : (template.normalForm == template) = true :=
  beq_iff.mpr template.text_normalForm

theorem IsNormal.cons_tag {segments : List Segment} (reference : Tag)
    (normal : IsNormal ⟨segments⟩) : IsNormal ⟨.tag reference :: segments⟩ := by
  refine ⟨?_, ?_⟩
  · intro text member
    rcases List.mem_cons.mp member with same | later
    · contradiction
    · exact normal.nonempty text later
  · refine List.isChain_cons.mpr ⟨?_, normal.separated⟩
    intro next _ both
    simp [Segment.isLiteral] at both

theorem IsNormal.prepend {segments : List Segment} (text : String)
    (normal : IsNormal ⟨segments⟩) : IsNormal ⟨prependLiteral text segments⟩ := by
  obtain ⟨nonempty, separated⟩ := normal
  unfold prependLiteral
  split
  · rename_i more rest
    have moreNonempty : more ≠ "" := nonempty more List.mem_cons_self
    refine ⟨?_, ?_⟩
    · intro literal member
      rcases List.mem_cons.mp member with same | later
      · cases same
        simp [moreNonempty]
      · exact nonempty literal (List.mem_cons_of_mem _ later)
    · obtain ⟨head, tail⟩ := List.isChain_cons.mp separated
      exact List.isChain_cons.mpr ⟨head, tail⟩
  · rename_i notLiteral
    split
    · exact ⟨nonempty, separated⟩
    · rename_i textNonempty
      refine ⟨?_, ?_⟩
      · intro literal member
        rcases List.mem_cons.mp member with same | later
        · cases same
          exact textNonempty
        · exact nonempty literal later
      · refine List.isChain_cons.mpr ⟨?_, separated⟩
        intro next first both
        obtain ⟨rest, rfl⟩ := List.head?_eq_some_iff.mp first
        cases next with
        | literal more => exact notLiteral more rest rfl
        | tag reference => simp [Segment.isLiteral] at both

theorem prependLiteral_prependLiteral (first second : String) (segments : List Segment) :
    prependLiteral first (prependLiteral second segments) =
      prependLiteral (first ++ second) segments := by
  cases segments with
  | nil => by_cases empty : second = "" <;> simp [prependLiteral, empty]
  | cons segment rest =>
      cases segment with
      | literal text => simp [prependLiteral, String.append_assoc]
      | tag reference => by_cases empty : second = "" <;> simp [prependLiteral, empty]

theorem literalRun_append_tag (run : List Char) (reference : Tag) (rest : List Segment) :
    literalRun run ++ .tag reference :: rest =
      prependLiteral (String.ofList run.reverse) (.tag reference :: rest) := by
  cases run <;> simp [literalRun, prependLiteral]

/-- The pending run of literal characters is a literal in front of what the
remaining symbols make. -/
theorem groupSymbols_eq_prependLiteral (run : List Char) (symbols : List Symbol) :
    groupSymbols run symbols =
      prependLiteral (String.ofList run.reverse) (groupSymbols [] symbols) := by
  induction symbols generalizing run with
  | nil => cases run <;> simp [groupSymbols, literalRun, prependLiteral]
  | cons symbol rest inductionHypothesis =>
      cases symbol with
      | char character =>
          rw [groupSymbols, inductionHypothesis (character :: run), groupSymbols,
            inductionHypothesis [character], prependLiteral_prependLiteral]
          simp
      | tag reference => rw [groupSymbols, literalRun_append_tag]; rfl

theorem groupSymbols_chars (characters : List Char) (rest : List Symbol) :
    groupSymbols [] (characters.map .char ++ rest) =
      prependLiteral (String.ofList characters) (groupSymbols [] rest) := by
  induction characters with
  | nil => exact groupSymbols_eq_prependLiteral [] rest
  | cons character more inductionHypothesis =>
      rw [List.map_cons, List.cons_append, groupSymbols, groupSymbols_eq_prependLiteral,
        inductionHypothesis, prependLiteral_prependLiteral]
      simp

theorem ofSymbols_symbols (template : Template) :
    ofSymbols template.symbols = template.normalForm := by
  obtain ⟨segments⟩ := template
  suffices grouped : groupSymbols [] (segments.flatMap Segment.symbols) = joinLiterals segments by
    rw [ofSymbols, symbols, grouped, normalForm]
  induction segments with
  | nil => rfl
  | cons segment rest inductionHypothesis =>
      cases segment with
      | literal text =>
          rw [List.flatMap_cons, Segment.symbols, groupSymbols_chars, inductionHypothesis,
            String.ofList_toList, joinLiterals]
      | tag reference =>
          rw [List.flatMap_cons, Segment.symbols, List.singleton_append, groupSymbols,
            inductionHypothesis, joinLiterals]
          rfl

theorem symbols_ofSymbols (symbols : List Symbol) : (ofSymbols symbols).symbols = symbols := by
  change (groupSymbols [] symbols).flatMap Segment.symbols = symbols
  induction symbols with
  | nil => rfl
  | cons symbol rest inductionHypothesis =>
      cases symbol with
      | char character =>
          rw [groupSymbols, groupSymbols_eq_prependLiteral, symbols_prependLiteral,
            inductionHypothesis]
          simp
      | tag reference => simp [groupSymbols, literalRun, Segment.symbols, inductionHypothesis]

theorem isNormal_ofSymbols (symbols : List Symbol) : (ofSymbols symbols).IsNormal := by
  unfold ofSymbols
  induction symbols with
  | nil => exact ⟨by simp [groupSymbols, literalRun], .nil⟩
  | cons symbol rest inductionHypothesis =>
      cases symbol with
      | char character =>
          rw [groupSymbols, groupSymbols_eq_prependLiteral]
          exact inductionHypothesis.prepend _
      | tag reference => exact inductionHypothesis.cons_tag reference

theorem isNormal_normalForm (template : Template) : template.normalForm.IsNormal := by
  rw [← ofSymbols_symbols]
  exact isNormal_ofSymbols template.symbols

theorem IsNormal.normalForm_eq {template : Template} (normal : template.IsNormal) :
    template.normalForm = template := by
  obtain ⟨segments⟩ := template
  suffices joined : joinLiterals segments = segments by rw [normalForm, joined]
  induction segments with
  | nil => rfl
  | cons segment rest inductionHypothesis =>
      obtain ⟨nonempty, separated⟩ := normal
      obtain ⟨boundary, separated⟩ := List.isChain_cons.mp separated
      have tail : joinLiterals rest = rest :=
        inductionHypothesis ⟨fun text member => nonempty text (List.mem_cons_of_mem _ member), separated⟩
      cases segment with
      | tag reference => rw [joinLiterals, tail]
      | literal text =>
          have textNonempty : text ≠ "" := nonempty text List.mem_cons_self
          rw [joinLiterals, tail]
          unfold prependLiteral
          split
          · exact absurd ⟨rfl, rfl⟩ (boundary _ rfl)
          · rw [if_neg textNonempty]

section Rendering

variable {m : Type → Type} [Monad m] [LawfulMonad m] (ask : Tag → m (Option String))

theorem renderSegments_prependLiteral (text : String) (segments : List Segment) :
    renderSegments ask (prependLiteral text segments) =
      (fun rendered => rendered.map (text ++ ·)) <$> renderSegments ask segments := by
  unfold prependLiteral
  split
  · simp [renderSegments, Function.comp_def, String.append_assoc]
  · split
    · rename_i empty
      simp [empty]
    · simp [renderSegments]

/-- Rendering asks for the same tags in the same order, and gets the same text,
however the literals are divided. -/
theorem renderM_normalForm (template : Template) :
    template.normalForm.renderM ask = template.renderM ask := by
  obtain ⟨segments⟩ := template
  change renderSegments ask (joinLiterals segments) = renderSegments ask segments
  induction segments with
  | nil => rfl
  | cons segment rest inductionHypothesis =>
      cases segment with
      | literal text =>
          rw [joinLiterals, renderSegments_prependLiteral, inductionHypothesis]
          simp [renderSegments]
      | tag reference => simp only [joinLiterals, renderSegments, inductionHypothesis]

end Rendering

@[simp] theorem render_normalForm (template : Template) (value : Tag → Option String) :
    template.normalForm.render value = template.render value :=
  renderM_normalForm (m := Id) value template

end Template

end Nameplate
