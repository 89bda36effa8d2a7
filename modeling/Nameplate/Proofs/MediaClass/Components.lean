import Nameplate.MediaClass

/-!
The components of media classes.

A slash divides: the components of two texts with a slash between them are those of
the first and then those of the second.  A text without a slash is one component, or
none if it is empty.  These two laws tell the components of every text, and the
components alone tell whether a class is an end of the graph.
-/

namespace Nameplate.MediaClass

variable {text : String}

theorem components_slash (first second : String) :
    components ⟨first ++ "/" ++ second⟩ = components ⟨first⟩ ++ components ⟨second⟩ := by
  have shape : (first ++ "/" ++ second).toList = first.toList ++ '/' :: second.toList := by simp
  simp only [components, shape, Text.pieces_append_separator, List.filter_append, List.map_append]

theorem components_of_notMem (noSlash : '/' ∉ text.toList) :
    components ⟨text⟩ = if text = "" then [] else [text] := by
  have nothing : Text.pieces '/' [] = [[]] := rfl
  have whole : Text.pieces '/' text.toList = [text.toList] := by
    simpa using Text.pieces_append_of_notMem noSlash nothing
  simp only [components, whole]
  by_cases empty : text = ""
  · subst empty
    rfl
  · simp [empty]

@[simp] theorem components_empty : components ⟨""⟩ = [] := rfl

theorem of_mem_components {mediaClass : MediaClass} {word : String}
    (member : word ∈ mediaClass.components) : word ≠ "" ∧ '/' ∉ word.toList := by
  obtain ⟨piece, kept, rfl⟩ := List.mem_map.mp member
  obtain ⟨isPiece, nonempty⟩ := List.mem_filter.mp kept
  rw [String.toList_ofList]
  exact ⟨by simpa using nonempty, Text.separator_notMem_of_mem_pieces isPiece⟩

theorem components_slash_front (text : String) : components ⟨"/" ++ text⟩ = components ⟨text⟩ := by
  simpa using components_slash "" text

theorem components_slash_end (text : String) : components ⟨text ++ "/"⟩ = components ⟨text⟩ := by
  simpa using components_slash text ""

theorem components_slash_slash (first second : String) :
    components ⟨first ++ "//" ++ second⟩ = components ⟨first ++ "/" ++ second⟩ := by
  have shape : first ++ "//" ++ second = first ++ "/" ++ ("/" ++ second) := by
    apply String.toList_injective
    simp
  rw [shape, components_slash, components_slash_front, components_slash]

/-- Whether a component is one of the words for the ends of the graph. -/
def NamesEnd (mediaClass : MediaClass) : Prop :=
  ∃ word ∈ mediaClass.components, word = "Sink" ∨ word = "Source" ∨ word = "Duplex"

theorem isEndpoint_iff (mediaClass : MediaClass) :
    mediaClass.isEndpoint = true ↔ mediaClass.NamesEnd := by
  simp only [isEndpoint, isSink, isSource, NamesEnd, Bool.or_eq_true, List.any_eq_true,
    decide_eq_true_eq, ← exists_or, ← and_or_left]
  refine exists_congr fun word => and_congr_right fun _ => ?_
  grind

theorem isEndpoint_eq_of_perm {first second : MediaClass}
    (arranged : first.components.Perm second.components) :
    first.isEndpoint = second.isEndpoint := by
  rw [Bool.eq_iff_iff, isEndpoint_iff, isEndpoint_iff]
  exact exists_congr fun word => and_congr_left' arranged.mem_iff

end Nameplate.MediaClass
