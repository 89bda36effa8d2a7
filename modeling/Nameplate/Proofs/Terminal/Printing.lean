import Nameplate.Proofs.Text.Plain

/-!
Printing to an output that may refuse a text.

Everything up to the first text that the output cannot encode is printed, and nothing
behind it.  A plain text is never refused.
-/

namespace Nameplate

theorem join_endedLines (lines : List String) : String.join (endedLines lines) = unlines lines := by
  induction lines with
  | nil => rfl
  | cons line rest inductionHypothesis =>
      rw [endedLines, List.flatMap_cons, ← endedLines, String.join_append, inductionHypothesis]
      simp [unlines]

namespace Output

variable {output : Output} {texts rest lines : List String} {refused : String}

theorem encodes_of_isPlain {character : Char} (plain : Text.IsPlain character) :
    output.encodes character = true :=
  output.encodes_of_ascii character (Nat.lt_trans plain.2 (by decide))

theorem takes_of_forall {text : String}
    (each : ∀ character ∈ text.toList, output.encodes character = true) :
    output.takes text = true :=
  List.all_eq_true.mpr each

theorem takes_lineBreak : output.takes "\n" = true := by
  refine takes_of_forall fun character member => output.encodes_of_ascii character ?_
  rw [List.mem_singleton.mp member]
  decide

/-- Texts that the output takes are printed, whatever becomes of those behind them. -/
theorem print_append (taken : ∀ text ∈ texts, output.takes text = true) (rest : List String) :
    output.print (texts ++ rest) =
      (String.join texts ++ (output.print rest).1, (output.print rest).2) := by
  induction texts with
  | nil => simp
  | cons text more inductionHypothesis =>
      rw [List.forall_mem_cons] at taken
      rw [List.cons_append, print, if_pos taken.1, inductionHypothesis taken.2, String.join_cons,
        String.append_assoc]

theorem print_of_taken (taken : ∀ text ∈ texts, output.takes text = true) :
    output.print texts = (String.join texts, none) := by
  have printed := print_append taken []
  rwa [List.append_nil, print, String.append_empty] at printed

theorem print_of_refused (taken : ∀ text ∈ texts, output.takes text = true)
    (missed : output.takes refused = false) :
    output.print (texts ++ refused :: rest) = (String.join texts, some refused) := by
  rw [print_append taken, print, if_neg (by simp [missed]), String.append_empty]

theorem takes_of_mem_endedLines (taken : ∀ line ∈ lines, output.takes line = true) :
    ∀ text ∈ endedLines lines, output.takes text = true := by
  intro text member
  obtain ⟨line, isLine, isPart⟩ := List.mem_flatMap.mp member
  simp only [List.mem_cons, List.not_mem_nil, or_false] at isPart
  obtain same | same := isPart
  · rw [same]
    exact taken line isLine
  · rw [same]
    exact takes_lineBreak

theorem print_endedLines (taken : ∀ line ∈ lines, output.takes line = true) :
    output.print (endedLines lines) = (unlines lines, none) := by
  rw [print_of_taken (takes_of_mem_endedLines taken), join_endedLines]

/-- A line that is refused is the end of the printing, with all lines before it printed. -/
theorem print_endedLines_refused (taken : ∀ line ∈ lines, output.takes line = true)
    (missed : output.takes refused = false) (later : List String) :
    output.print (endedLines (lines ++ refused :: later)) = (unlines lines, some refused) := by
  rw [endedLines, List.flatMap_append, List.flatMap_cons, ← endedLines, ← endedLines,
    List.cons_append, print_of_refused (takes_of_mem_endedLines taken) missed, join_endedLines]

end Output

end Nameplate
