/-!
Cutting texts at a separator.

`cut?` divides a text at its first separator, `pieces` at every separator.
Both keep every character: joining the parts with the separator gives the text
back.
-/

namespace Nameplate.Text

/-- The characters before the first separator and the characters after it;
`none` when the separator does not occur. -/
def cut? (separator : Char) : List Char → Option (List Char × List Char)
  | [] => none
  | character :: rest =>
      if character = separator then some ([], rest)
      else (cut? separator rest).map fun (before, after) => (character :: before, after)

/-- The texts between separators.  There is one piece more than there are
separators, so the empty text has one empty piece. -/
def pieces (separator : Char) : List Char → List (List Char)
  | [] => [[]]
  | character :: rest =>
      if character = separator then [] :: pieces separator rest
      else match pieces separator rest with
        | [] => [[character]]
        | piece :: more => (character :: piece) :: more

/-- A separator that occurs is found, and what is found is where it first
occurs. -/
theorem cut?_eq_some_iff {separator : Char} {text before after : List Char} :
    cut? separator text = some (before, after) ↔
      text = before ++ separator :: after ∧ separator ∉ before := by
  induction text generalizing before with
  | nil => simp [cut?]
  | cons character rest inductionHypothesis =>
      by_cases same : character = separator
      · subst same
        cases before with
        | nil => simp [cut?, eq_comm]
        | cons first before => simp [cut?]; intro equal _ differs; exact absurd equal differs
      · cases before with
        | nil => simp [cut?, same]
        | cons first before =>
            simp only [cut?, same, if_false, Option.map_eq_some_iff, Prod.mk.injEq,
              List.cons.injEq, List.cons_append, List.mem_cons, not_or]
            constructor
            · rintro ⟨⟨otherBefore, otherAfter⟩, found, ⟨rfl, rfl⟩, rfl⟩
              obtain ⟨rfl, absent⟩ := inductionHypothesis.mp found
              exact ⟨⟨rfl, rfl⟩, fun equal => same equal.symm, absent⟩
            · rintro ⟨⟨rfl, rfl⟩, _, absent⟩
              exact ⟨(before, after), inductionHypothesis.mpr ⟨rfl, absent⟩, ⟨rfl, rfl⟩, rfl⟩

theorem cut?_eq_none_iff {separator : Char} {text : List Char} :
    cut? separator text = none ↔ separator ∉ text := by
  induction text with
  | nil => simp [cut?]
  | cons character rest inductionHypothesis =>
      by_cases same : character = separator
      · simp [cut?, same]
      · have differs : ¬separator = character := fun equal => same equal.symm
        simp [cut?, same, differs, inductionHypothesis]

theorem pieces_ne_nil (separator : Char) (text : List Char) :
    pieces separator text ≠ [] := by
  induction text with
  | nil => simp [pieces]
  | cons character rest inductionHypothesis =>
      unfold pieces
      split
      · simp
      · split <;> simp

theorem separator_notMem_of_mem_pieces {separator : Char} {text piece : List Char}
    (isPiece : piece ∈ pieces separator text) : separator ∉ piece := by
  induction text generalizing piece with
  | nil => simp_all [pieces]
  | cons character rest inductionHypothesis =>
      unfold pieces at isPiece
      split at isPiece
      · rcases List.mem_cons.mp isPiece with rfl | later
        · simp
        · exact inductionHypothesis later
      · rename_i differs
        have differs' : ¬separator = character := fun equal => differs equal.symm
        split at isPiece
        · rename_i empty
          exact absurd empty (pieces_ne_nil separator rest)
        · rename_i first more split
          rcases List.mem_cons.mp isPiece with rfl | later
          · have clear := inductionHypothesis (split ▸ List.mem_cons_self)
            simp [differs', clear]
          · exact inductionHypothesis (split ▸ List.mem_cons_of_mem _ later)

/-- A separator divides: the pieces before it are followed by the pieces behind it. -/
theorem pieces_append_separator (separator : Char) (before after : List Char) :
    pieces separator (before ++ separator :: after) =
      pieces separator before ++ pieces separator after := by
  induction before with
  | nil => simp [pieces]
  | cons character rest inductionHypothesis =>
      by_cases same : character = separator
      · simp [pieces, same, inductionHypothesis]
      · obtain ⟨piece, more, divided⟩ := List.exists_cons_of_ne_nil (pieces_ne_nil separator rest)
        simp [pieces, same, inductionHypothesis, divided]

/-- Characters in front that are no separators belong to the first piece. -/
theorem pieces_append_of_notMem {separator : Char} {front rest piece : List Char}
    {more : List (List Char)} (absent : separator ∉ front)
    (divided : pieces separator rest = piece :: more) :
    pieces separator (front ++ rest) = (front ++ piece) :: more := by
  induction front with
  | nil => exact divided
  | cons character front inductionHypothesis =>
      rw [List.mem_cons, not_or] at absent
      obtain ⟨differs, later⟩ := absent
      have same : ¬character = separator := fun equal => differs equal.symm
      simp [pieces, same, inductionHypothesis later]

theorem length_pieces (separator : Char) (text : List Char) :
    (pieces separator text).length = text.count separator + 1 := by
  induction text with
  | nil => rfl
  | cons character rest inductionHypothesis =>
      by_cases same : character = separator
      · simp [pieces, same, inductionHypothesis]
      · obtain ⟨piece, more, divided⟩ := List.exists_cons_of_ne_nil (pieces_ne_nil separator rest)
        rw [divided] at inductionHypothesis
        simpa [pieces, same, divided] using inductionHypothesis

end Nameplate.Text
