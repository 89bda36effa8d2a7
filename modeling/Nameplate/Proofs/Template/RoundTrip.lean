import Nameplate.Proofs.Template.NormalForm
import Nameplate.Template.Reader

/-!
Reading templates undoes writing them, and writing undoes reading.

The scanner is tied to the written forms of symbols.  Whatever text follows,
it reads the written form of a symbol as that symbol and goes on behind it, so
a brace of one symbol never pairs with a brace of its neighbour.  In the other
direction, every symbol that it returns was written out in the text.
-/

namespace Nameplate

namespace Tag

theorem opening_notMem_text (tag : Tag) : '{' ∉ tag.text.toList := by
  rcases tag with property | property | property <;> cases property <;> decide

theorem closing_notMem_text (tag : Tag) : '}' ∉ tag.text.toList := by
  rcases tag with property | property | property <;> cases property <;> decide

theorem isKindWord_kind_text (tag : Tag) : Placeholder.isKindWord tag.kind.text.toList = true := by
  cases tag.kind <;> decide

theorem isDottedPath_path (tag : Tag) : Placeholder.isDottedPath tag.path.toList = true := by
  rcases tag with property | property | property <;> cases property <;> decide

end Tag

namespace Template

theorem placeholderTag_eq_ok_iff {body : List Char} {tag : Tag} :
    placeholderTag body = .ok tag ↔ body = tag.text.toList := by
  constructor
  · intro accepted
    unfold placeholderTag at accepted
    split at accepted
    · contradiction
    · rename_i kind path divided
      split at accepted
      · split at accepted
        · contradiction
        · rename_i found recognised
          cases accepted
          obtain ⟨sameKind, samePath⟩ := Tag.ofParts_eq_ok_iff.mp recognised
          obtain ⟨whole, _⟩ := Text.cut?_eq_some_iff.mp divided
          rw [whole, Tag.text, ← sameKind, ← samePath]
          simp
      · contradiction
  · rintro rfl
    have recognised : Tag.ofParts tag.kind.text tag.path = .ok tag :=
      Tag.ofParts_eq_ok_iff.mpr ⟨rfl, rfl⟩
    simp only [placeholderTag, Tag.cut?_text, Tag.isKindWord_kind_text, Tag.isDottedPath_path,
      Bool.and_true, if_true, String.ofList_toList, recognised]

theorem closedTag_eq_ok_iff {body : List Char} {tag : Tag} :
    closedTag body = .ok tag ↔ body = tag.text.toList := by
  unfold closedTag
  split
  · rename_i nested
    constructor
    · intro accepted
      contradiction
    · rintro rfl
      exact absurd nested tag.opening_notMem_text
  · exact placeholderTag_eq_ok_iff

theorem scan_plain {character : Char} (notOpening : character ≠ '{')
    (notClosing : character ≠ '}') (position : Nat) (rest : List Char) :
    scan position (character :: rest) =
      (scan (position + 1) rest).map (.char character :: ·) := by
  rw [scan] <;> simp_all

theorem scan_opening {text : List Char} (single : text.head? ≠ some '{') (position : Nat) :
    scan position ('{' :: text) = scanBody position [] text := by
  rw [scan]
  rintro rest rfl
  exact single rfl

/-- A placeholder ends at the first closing brace. -/
theorem scanBody_closed {body : List Char} (clear : '}' ∉ body) (opened : Nat)
    (seen rest : List Char) :
    scanBody opened seen (body ++ '}' :: rest) =
      match closedTag (seen.reverse ++ body) with
      | .error cause => .error ⟨opened, cause⟩
      | .ok tag => (scan (opened + (seen.length + body.length) + 2) rest).map (.tag tag :: ·) := by
  induction body generalizing seen with
  | nil =>
      rw [List.nil_append, scanBody, List.append_nil]
      rfl
  | cons character more inductionHypothesis =>
      obtain ⟨differs, clear⟩ := List.ne_and_not_mem_of_not_mem_cons clear
      rw [List.cons_append, scanBody, inductionHypothesis clear]
      · simp only [List.reverse_cons, List.append_assoc, List.singleton_append, List.length_cons,
          Nat.add_assoc, Nat.add_comm 1]
      · exact fun same => differs same.symm

theorem scan_closed {body rest : List Char} (single : (body ++ '}' :: rest).head? ≠ some '{')
    (noClosing : '}' ∉ body) (position : Nat) :
    scan position ('{' :: (body ++ '}' :: rest)) =
      match closedTag body with
      | .error cause => .error ⟨position, cause⟩
      | .ok tag => (scan (position + body.length + 2) rest).map (.tag tag :: ·) := by
  rw [scan_opening single, scanBody_closed noClosing]
  simp

theorem head?_closed_ne_opening {body : List Char} (noOpening : '{' ∉ body) (rest : List Char) :
    (body ++ '}' :: rest).head? ≠ some '{' := by
  cases body with
  | nil => simp
  | cons first more =>
      intro doubled
      exact noOpening (by simp_all)

theorem scan_tag (tag : Tag) (position : Nat) (rest : List Char) :
    scan position ((Symbol.tag tag).written ++ rest) =
      (scan (position + (Symbol.tag tag).written.length) rest).map (.tag tag :: ·) := by
  have accepted : closedTag tag.text.toList = .ok tag := closedTag_eq_ok_iff.mpr rfl
  have width : (Symbol.tag tag).written.length = tag.text.toList.length + 2 := by
    simp [Symbol.written]
  have shape : (Symbol.tag tag).written ++ rest = '{' :: (tag.text.toList ++ '}' :: rest) := by
    simp [Symbol.written]
  rw [shape, width, scan_closed (head?_closed_ne_opening tag.opening_notMem_text rest)
    tag.closing_notMem_text, accepted, Nat.add_assoc]

/-- The scanner reads the written form of a symbol as that symbol, whatever
text follows. -/
theorem scan_symbol (symbol : Symbol) (position : Nat) (rest : List Char) :
    scan position (symbol.written ++ rest) =
      (scan (position + symbol.written.length) rest).map (symbol :: ·) := by
  cases symbol with
  | tag reference => exact scan_tag reference position rest
  | char character =>
      by_cases opening : character = '{'
      · subst opening
        rfl
      · by_cases closing : character = '}'
        · subst closing
          rfl
        · rw [Symbol.written_plain opening closing]
          exact scan_plain opening closing position rest

theorem scan_symbols (symbols : List Symbol) (position : Nat) (rest : List Char) :
    scan position (symbols.flatMap Symbol.written ++ rest) =
      (scan (position + (symbols.flatMap Symbol.written).length) rest).map (symbols ++ ·) := by
  induction symbols generalizing position with
  | nil => cases outcome : scan position rest <;> simp [outcome, Except.map]
  | cons symbol more inductionHypothesis =>
      rw [List.flatMap_cons, List.append_assoc, scan_symbol, inductionHypothesis,
        List.length_append, Nat.add_assoc]
      cases scan (position + (symbol.written.length + (more.flatMap Symbol.written).length)) rest <;>
        rfl

/-- Texts at whose first character, a brace, the scanner stops. -/
inductive Stuck : List Char → Cause → Prop where
  | unterminated {body : List Char} (single : body.head? ≠ some '{') (noClosing : '}' ∉ body) :
      Stuck ('{' :: body) (.unterminated (String.ofList body))
  | refused {body rest : List Char} {cause : Cause}
      (single : (body ++ '}' :: rest).head? ≠ some '{') (noClosing : '}' ∉ body)
      (reason : closedTag body = .error cause) : Stuck ('{' :: (body ++ '}' :: rest)) cause
  | unmatched {rest : List Char} (single : rest.head? ≠ some '}') : Stuck ('}' :: rest) .unmatched

theorem scanBody_unterminated {body : List Char} (noClosing : '}' ∉ body) (opened : Nat)
    (seen : List Char) :
    scanBody opened seen body =
      .error ⟨opened, .unterminated (String.ofList (seen.reverse ++ body))⟩ := by
  induction body generalizing seen with
  | nil => rw [scanBody, List.append_nil]
  | cons character more inductionHypothesis =>
      obtain ⟨differs, clear⟩ := List.ne_and_not_mem_of_not_mem_cons noClosing
      rw [scanBody, inductionHypothesis clear]
      · simp
      · exact fun same => differs same.symm

theorem Stuck.scan {text : List Char} {cause : Cause} (stuck : Stuck text cause)
    (position : Nat) : scan position text = .error ⟨position, cause⟩ := by
  cases stuck with
  | unterminated single noClosing =>
      rw [scan_opening single, scanBody_unterminated noClosing]
      rfl
  | refused single noClosing reason => rw [scan_closed single noClosing, reason]
  | unmatched single =>
      rw [Template.scan]
      rintro rest rfl
      exact single rfl

/-- What stands at the front of a text: nothing, a whole symbol, or a brace that
belongs to none. -/
theorem front_cases (text : List Char) :
    text = [] ∨ (∃ symbol rest, text = Symbol.written symbol ++ rest) ∨ ∃ cause, Stuck text cause := by
  rcases text with _ | ⟨character, rest⟩
  · exact .inl rfl
  refine .inr ?_
  -- The order of the cases is the scanner's: a doubled brace comes before a placeholder.
  by_cases opening : character = '{'
  · subst opening
    by_cases doubled : rest.head? = some '{'
    · obtain ⟨more, rfl⟩ := List.head?_eq_some_iff.mp doubled
      exact .inl ⟨.char '{', more, rfl⟩
    · cases divided : Text.cut? '}' rest with
      | none => exact .inr ⟨_, .unterminated doubled (Text.cut?_eq_none_iff.mp divided)⟩
      | some parts =>
          obtain ⟨body, after⟩ := parts
          obtain ⟨rfl, noClosing⟩ := Text.cut?_eq_some_iff.mp divided
          cases closed : closedTag body with
          | error cause => exact .inr ⟨cause, .refused doubled noClosing closed⟩
          | ok tag =>
              obtain rfl := closedTag_eq_ok_iff.mp closed
              exact .inl ⟨.tag tag, after, by simp [Symbol.written]⟩
  · by_cases closing : character = '}'
    · subst closing
      by_cases doubled : rest.head? = some '}'
      · obtain ⟨more, rfl⟩ := List.head?_eq_some_iff.mp doubled
        exact .inl ⟨.char '}', more, rfl⟩
      · exact .inr ⟨_, .unmatched doubled⟩
    · exact .inl ⟨.char character, rest, by rw [Symbol.written_plain opening closing]; rfl⟩

/-- Induction along the symbols at the front of a text, down to its end or to a
brace at which the scanner stops. -/
theorem front_induction {motive : List Char → Prop} (nil : motive [])
    (symbol : ∀ symbol rest, motive rest → motive (Symbol.written symbol ++ rest))
    (stuck : ∀ text cause, Stuck text cause → motive text) (text : List Char) : motive text := by
  induction size : text.length using Nat.strong_induction_on generalizing text with
  | h size inductionHypothesis =>
      rcases front_cases text with rfl | ⟨first, rest, rfl⟩ | ⟨cause, isStuck⟩
      · exact nil
      · have nonempty := first.written_length_pos
        exact symbol first rest (inductionHypothesis rest.length
          (by rw [← size, List.length_append]; omega) rest rfl)
      · exact stuck text cause isStuck

/-- The scanner accepts exactly what symbols write, and returns those symbols. -/
theorem scan_eq_ok_iff {position : Nat} {text : List Char} {symbols : List Symbol} :
    scan position text = .ok symbols ↔ symbols.flatMap Symbol.written = text := by
  constructor
  · intro scanned
    -- The scanner may read several characters at a time, so the induction goes by symbols.
    induction text using front_induction generalizing position symbols with
    | nil =>
        cases scanned
        rfl
    | symbol first rest inductionHypothesis =>
        rw [scan_symbol] at scanned
        cases later : scan (position + first.written.length) rest with
        | error fault => rw [later] at scanned; contradiction
        | ok others =>
            rw [later] at scanned
            cases scanned
            rw [List.flatMap_cons, inductionHypothesis later]
    | stuck text cause isStuck =>
        rw [isStuck.scan] at scanned
        contradiction
  · rintro rfl
    have scanned := scan_symbols symbols position []
    rw [List.append_nil] at scanned
    rw [scanned, scan, Except.map, List.append_nil]

theorem scan_text (template : Template) :
    scan 0 template.text.toList = .ok template.symbols := by
  rw [scan_eq_ok_iff, text_eq_ofList_symbols, String.toList_ofList]

/-- A template is read from the text that it writes and from no other, and only
if it is in normal form. -/
theorem parse_eq_ok_iff {source : String} {template : Template} :
    parse source = .ok template ↔ template.text = source ∧ template.IsNormal := by
  unfold parse
  constructor
  · intro accepted
    split at accepted
    · contradiction
    · rename_i symbols scanned
      cases accepted
      refine ⟨?_, isNormal_ofSymbols symbols⟩
      rw [text_eq_ofList_symbols, symbols_ofSymbols, scan_eq_ok_iff.mp scanned,
        String.ofList_toList]
  · rintro ⟨rfl, normal⟩
    rw [scan_text]
    change Except.ok (ofSymbols template.symbols) = _
    rw [ofSymbols_symbols, normal.normalForm_eq]

theorem text_of_parse {source : String} {template : Template}
    (accepted : parse source = .ok template) :
    template.text = source ∧ template.IsNormal ∧
      ∀ other, parse other = .ok template → other = source := by
  obtain ⟨written, normal⟩ := parse_eq_ok_iff.mp accepted
  refine ⟨written, normal, ?_⟩
  intro other alsoAccepted
  rw [← written, (parse_eq_ok_iff.mp alsoAccepted).1]

/-- Doubled braces right beside the braces of a placeholder. -/
theorem text_of_parse_braces :
    parse "\x7b\x7b\x7bnode:media.name\x7d\x7d\x7d: \x7d\x7d\x7b\x7b" =
        .ok ⟨[.literal "\x7b", .tag (.node .mediaName), .literal "\x7d: \x7d\x7b"]⟩ ∧
      Template.text ⟨[.literal "\x7b", .tag (.node .mediaName), .literal "\x7d: \x7d\x7b"]⟩ =
        "\x7b\x7b\x7bnode:media.name\x7d\x7d\x7d: \x7d\x7d\x7b\x7b" :=
  ⟨rfl, (text_of_parse rfl).1⟩

theorem parse_text_eq_normalForm :
    (∀ template : Template, parse template.text = .ok template.normalForm) ∧
      ∀ source, (∃ template, parse source = .ok template) ↔
        ∃ template : Template, template.text = source := by
  have reads (template : Template) : parse template.text = .ok template.normalForm :=
    parse_eq_ok_iff.mpr ⟨template.text_normalForm, template.isNormal_normalForm⟩
  refine ⟨reads, ?_⟩
  intro source
  constructor
  · rintro ⟨template, accepted⟩
    exact ⟨template, (parse_eq_ok_iff.mp accepted).1⟩
  · rintro ⟨template, rfl⟩
    exact ⟨template.normalForm, reads template⟩

end Template

end Nameplate
