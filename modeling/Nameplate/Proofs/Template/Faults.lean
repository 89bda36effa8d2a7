import Mathlib.Order.Bounds.Basic
import Nameplate.Proofs.Template.RoundTrip

/-!
Where reading a template stops.

A text that is no template is whole symbols up to a brace at which the scanner
is stuck.  The scanner reads whole symbols whatever follows them, so it gets
past every beginning that is a template.  Hence no such beginning is longer
than what stands before the brace.
-/

namespace Nameplate

namespace Template

theorem placeholder?_of_closedTag {body : List Char} {cause : Cause}
    (refused : closedTag body = .error cause) :
    cause.placeholder? = some ("\x7b" ++ String.ofList body ++ "\x7d") := by
  unfold closedTag at refused
  split at refused
  · cases refused
    rfl
  · unfold placeholderTag at refused
    split at refused
    · cases refused
      rfl
    · split at refused
      · split at refused
        · cases refused
          rfl
        · contradiction
      · cases refused
        rfl

/-- A stuck scanner blames a closing brace alone, or an opening brace together
with the text that stands there. -/
theorem Stuck.placeholder?_cases {text : List Char} {cause : Cause} (stuck : Stuck text cause) :
    (cause.placeholder? = none ∧ text.head? = some '}') ∨
      ∃ shown, cause.placeholder? = some shown ∧ text.head? = some '{' ∧
        shown.toList <+: text := by
  cases stuck with
  | @unterminated body single noClosing =>
      refine .inr ⟨_, rfl, rfl, ?_⟩
      simp
  | @refused body rest cause single noClosing reason =>
      refine .inr ⟨_, placeholder?_of_closedTag reason, rfl, rest, ?_⟩
      simp
  | unmatched single => exact .inl ⟨rfl, rfl⟩

/-- The scanner fails behind whole symbols, at a brace at which it is stuck. -/
theorem scan_eq_error_iff {position : Nat} {text : List Char} {fault : Fault} :
    scan position text = .error fault ↔
      ∃ (symbols : List Symbol) (rest : List Char),
        text = symbols.flatMap Symbol.written ++ rest ∧ Stuck rest fault.cause ∧
          fault.position = position + (symbols.flatMap Symbol.written).length := by
  constructor
  · intro failed
    induction text using front_induction generalizing position with
    | nil => contradiction
    | symbol first rest inductionHypothesis =>
        rw [scan_symbol] at failed
        cases later : scan (position + first.written.length) rest with
        | ok symbols => rw [later] at failed; contradiction
        | error other =>
            rw [later] at failed
            cases failed
            obtain ⟨symbols, stuckRest, shape, stuck, place⟩ := inductionHypothesis later
            refine ⟨first :: symbols, stuckRest, by simp [shape], stuck, ?_⟩
            rw [place, List.flatMap_cons, List.length_append, Nat.add_assoc]
    | stuck text cause isStuck =>
        rw [isStuck.scan] at failed
        cases failed
        exact ⟨[], text, rfl, isStuck, rfl⟩
  · intro located
    obtain ⟨symbols, rest, shape, stuck, place⟩ := located
    rw [shape, scan_symbols, stuck.scan, ← place]
    rfl

theorem le_position_of_scan {position : Nat} {text : List Char} {fault : Fault}
    (failed : scan position text = .error fault) : position ≤ fault.position := by
  obtain ⟨symbols, rest, _, _, place⟩ := scan_eq_error_iff.mp failed
  omega

theorem parse_eq_error_iff {source : String} {error : Error} :
    parse source = .error error ↔
      error.source = source ∧ scan 0 source.toList = .error ⟨error.position, error.cause⟩ := by
  unfold parse
  obtain ⟨blamed, position, cause⟩ := error
  cases scanned : scan 0 source.toList with
  | ok symbols => simp
  | error fault =>
      obtain ⟨place, reason⟩ := fault
      simp [eq_comm]

/-- A source is accepted if it is written by symbols. -/
theorem parse_exists_iff {source : String} :
    (∃ template, parse source = .ok template) ↔
      ∃ symbols : List Symbol, source.toList = symbols.flatMap Symbol.written := by
  constructor
  · intro accepted
    obtain ⟨template, accepted⟩ := accepted
    have written := (parse_eq_ok_iff.mp accepted).1
    rw [← written, text_eq_ofList_symbols, String.toList_ofList]
    exact ⟨template.symbols, rfl⟩
  · intro written
    obtain ⟨symbols, written⟩ := written
    have scanned : scan 0 source.toList = .ok symbols := scan_eq_ok_iff.mpr written.symm
    exact ⟨ofSymbols symbols, by simp only [parse, scanned]⟩

/-- The lengths of the beginnings of a source that are templates themselves. -/
def acceptedLengths (source : String) : Set Nat :=
  {length | ∃ beginning rest : String, source = beginning ++ rest ∧ beginning.length = length ∧
    ∃ template, parse beginning = .ok template}

theorem isGreatest_position {source : String} {error : Error}
    (rejected : parse source = .error error) :
    IsGreatest (acceptedLengths source) error.position := by
  obtain ⟨_, failed⟩ := parse_eq_error_iff.mp rejected
  refine ⟨?_, ?_⟩
  · obtain ⟨symbols, rest, shape, _, place⟩ := scan_eq_error_iff.mp failed
    have width : error.position = (symbols.flatMap Symbol.written).length := by simpa using place
    refine ⟨String.ofList (symbols.flatMap Symbol.written), String.ofList rest, ?_, ?_, ?_⟩
    · rw [← String.ofList_append, ← shape, String.ofList_toList]
    · rw [String.length_ofList, width]
    · exact parse_exists_iff.mpr ⟨symbols, String.toList_ofList⟩
  · -- The scanner gets past every beginning that is accepted.
    intro length isAccepted
    obtain ⟨beginning, rest, shape, width, accepted⟩ := isAccepted
    obtain ⟨symbols, written⟩ := parse_exists_iff.mp accepted
    rw [shape, String.toList_append, written, scan_symbols, ← written, Nat.zero_add,
      String.length_toList, width] at failed
    cases behind : scan length rest.toList with
    | ok others => rw [behind] at failed; contradiction
    | error fault =>
        rw [behind] at failed
        cases failed
        exact le_position_of_scan behind

theorem parse_error_located {source : String} {error : Error}
    (rejected : parse source = .error error) :
    error.source = source ∧
      IsGreatest (acceptedLengths source) error.position ∧
      (source.toList[error.position]? = some '{' ∨ source.toList[error.position]? = some '}') ∧
      (error.placeholder? = none ↔ source.toList[error.position]? = some '}') ∧
      ∀ shown, error.placeholder? = some shown →
        (source.toList.drop error.position).take shown.length = shown.toList := by
  obtain ⟨blamed, failed⟩ := parse_eq_error_iff.mp rejected
  obtain ⟨symbols, rest, shape, stuck, place⟩ := scan_eq_error_iff.mp failed
  have width : error.position = (symbols.flatMap Symbol.written).length := by simpa using place
  have remaining : source.toList.drop error.position = rest := by
    rw [shape, width, List.drop_left]
  have character : source.toList[error.position]? = rest.head? := by
    rw [← remaining, List.head?_drop]
  refine ⟨blamed, isGreatest_position rejected, ?_⟩
  rw [character, remaining]
  have shows : error.placeholder? = error.cause.placeholder? := rfl
  rcases stuck.placeholder?_cases with ⟨unshown, closing⟩ | ⟨text, isShown, opening, stands⟩
  · refine ⟨.inr closing, by simp [shows, unshown, closing], ?_⟩
    intro shown isShown
    rw [shows, unshown] at isShown
    contradiction
  · refine ⟨.inl opening, by simp [shows, isShown, opening], ?_⟩
    intro shown alsoShown
    rw [shows, isShown] at alsoShown
    cases alsoShown
    rw [← String.length_toList]
    exact (List.prefix_iff_eq_take.mp stands).symm

/-- Escaped braces and a placeholder stand before one that names no property;
the brace behind it is never reached. -/
theorem parse_error_located_unknownProperty :
    parse "\x7d\x7d\x7b\x7b \x7bnode:media.name\x7d: \x7bdevice:nick\x7d\x7d" =
        .error ⟨"\x7d\x7d\x7b\x7b \x7bnode:media.name\x7d: \x7bdevice:nick\x7d\x7d", 24,
          .unknownTag "device:nick" (.unknownProperty .device "nick")⟩ ∧
      IsGreatest (acceptedLengths
        "\x7d\x7d\x7b\x7b \x7bnode:media.name\x7d: \x7bdevice:nick\x7d\x7d") 24 := by
  have rejected :
      parse "\x7d\x7d\x7b\x7b \x7bnode:media.name\x7d: \x7bdevice:nick\x7d\x7d" =
        .error ⟨"\x7d\x7d\x7b\x7b \x7bnode:media.name\x7d: \x7bdevice:nick\x7d\x7d", 24,
          .unknownTag "device:nick" (.unknownProperty .device "nick")⟩ := rfl
  exact ⟨rejected, (parse_error_located rejected).2.1⟩

end Template

end Nameplate
