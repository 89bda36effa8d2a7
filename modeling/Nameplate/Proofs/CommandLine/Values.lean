import Nameplate.CommandLine.Arguments
import Nameplate.Journal

/-!
Values of options.

An option that takes a value is given one, unless the grammar strikes values out.  So
where nothing is struck out, every configuration option has its path and every id option
its id.
-/

namespace Nameplate.CommandLine

variable {ω : Type} {grammar : Grammar ω} {option : ω} {event : Event ω}

namespace Grammar

/-- An option that stands without a value. -/
def IsFlag (grammar : Grammar ω) (option : ω) : Prop :=
  (∃ letter, (letter, option) ∈ grammar.letters) ∨ ∃ name, (name, option, false) ∈ grammar.names

/-- What the role of a word says about options is true of the grammar. -/
def Admits (grammar : Grammar ω) : Role ω → Prop
  | .letters option _ => grammar.IsFlag option
  | .name option takesValue _ => ∃ name, (name, option, takesValue) ∈ grammar.names
  | _ => True

/-- An event without a value is that of a flag. -/
def Explains (grammar : Grammar ω) : Event ω → Prop
  | .option option none => grammar.IsFlag option
  | _ => True

theorem isFlag_of_letter? {letter : Char} (known : grammar.letter? letter = some option) :
    grammar.IsFlag option := by
  obtain ⟨before, after, listed, _⟩ := List.lookup_eq_some_iff.mp known
  refine .inl ⟨letter, ?_⟩
  rw [listed]
  exact List.mem_append_right _ List.mem_cons_self

theorem admits_of_nameRole? {text : List Char} {role : Role ω}
    (clear : grammar.nameRole? text = some role) : grammar.Admits role := by
  simp only [nameRole?] at clear
  split at clear
  · rename_i found
    cases clear
    exact ⟨_, List.mem_of_find?_eq_some found⟩
  split at clear
  · rename_i found
    cases clear
    exact ⟨_, List.mem_of_find?_eq_some found⟩
  split at clear
  · cases clear
    trivial
  · rename_i only
    cases clear
    have listed := List.mem_filter.mp (only ▸ List.mem_cons_self)
    exact ⟨_, listed.1⟩
  · contradiction

theorem admits_of_role? {word : String} {role : Role ω} (clear : grammar.role? word = some role) :
    grammar.Admits role := by
  -- A word that is no option of the grammar is an operand, or of an unknown role.
  have otherwise {looksLikeOperand : Bool} :
      grammar.Admits (if looksLikeOperand then .operand else .unknown) := by
    cases looksLikeOperand <;> trivial
  simp only [role?] at clear
  split at clear
  · split at clear
    · cases clear
      exact otherwise
    · exact admits_of_nameRole? clear
  · split at clear
    · cases clear
      exact otherwise
    · rename_i known
      have flag := isFlag_of_letter? known
      split at clear <;> cases clear <;> exact flag
  · cases clear
    trivial

theorem admits_of_mem_classify {words : List String} {classified : List (Word ω)}
    (clear : grammar.classify words = some classified) {word : Word ω}
    (member : word ∈ classified) : grammar.Admits word.role := by
  induction words generalizing classified with
  | nil =>
      cases clear
      contradiction
  | cons text rest inductionHypothesis =>
      rw [classify] at clear
      split at clear
      · cases clear
        obtain rfl | operand := List.mem_cons.mp member
        · trivial
        · obtain ⟨_, _, rfl⟩ := List.mem_map.mp operand
          trivial
      · obtain ⟨role, known, more⟩ := Option.bind_eq_some_iff.mp clear
        obtain ⟨later, read, same⟩ := Option.bind_eq_some_iff.mp more
        cases same
        obtain rfl | behind := List.mem_cons.mp member
        · exact admits_of_role? known
        · exact inductionHypothesis read behind

theorem isFlag_of_mapM_letter? {letters : List Char} {others : List ω}
    (known : letters.mapM grammar.letter? = some others) (member : option ∈ others) :
    grammar.IsFlag option := by
  induction letters generalizing others with
  | nil =>
      cases known
      contradiction
  | cons letter rest inductionHypothesis =>
      rw [List.mapM_cons] at known
      obtain ⟨first, isKnown, more⟩ := Option.bind_eq_some_iff.mp known
      obtain ⟨later, areKnown, same⟩ := Option.bind_eq_some_iff.mp more
      cases same
      obtain rfl | behind := List.mem_cons.mp member
      · exact isFlag_of_letter? isKnown
      · exact inductionHypothesis areKnown behind

theorem explains_of_mem_letterEvents? {letters : List Char} {events : List (Event ω)}
    (flag : grammar.IsFlag option) (asked : grammar.letterEvents? option letters = some events)
    (member : event ∈ events) : grammar.Explains event := by
  obtain ⟨others, known, same⟩ := Option.bind_eq_some_iff.mp asked
  cases same
  obtain ⟨other, isOther, rfl⟩ := List.mem_map.mp member
  obtain rfl | behind := List.mem_cons.mp isOther
  · exact flag
  · exact isFlag_of_mapM_letter? known behind

theorem valueOf_of_not_strikes (kept : grammar.strikes = false) (text : String) :
    grammar.valueOf text = some text := by
  simp [valueOf, kept]

theorem explains_before {events : List (Event ω)} {reading : Reading ω}
    (first : ∀ event ∈ events, grammar.Explains event)
    (later : ∀ event ∈ reading.events, grammar.Explains event) :
    ∀ event ∈ (before events reading).events, grammar.Explains event := by
  intro event member
  rcases List.mem_append.mp member with before | behind
  · exact first event before
  · exact later event behind

theorem explains_cons {head : Event ω} {reading : Reading ω} (first : grammar.Explains head)
    (later : ∀ event ∈ reading.events, grammar.Explains event) :
    ∀ event ∈ (before [head] reading).events, grammar.Explains event :=
  explains_before (fun _ member => List.mem_singleton.mp member ▸ first) later

/-- The induction is that of the reader: each word adds events that the grammar explains. -/
theorem explains_of_mem_read (kept : grammar.strikes = false) {commands taken : Bool}
    {operands : Nat} {words : List (Word ω)} (admitted : ∀ word ∈ words, grammar.Admits word.role) :
    ∀ event ∈ (grammar.read commands operands taken words).events, grammar.Explains event := by
  fun_induction read grammar commands operands taken words with
  | case1 => nofun
  | case2 taken text rest inductionHypothesis =>
      exact explains_cons trivial (inductionHypothesis (List.forall_mem_cons.mp admitted).2)
  | case3 => exact fun _ member => List.mem_singleton.mp member ▸ trivial
  | case4 taken text rest wanted _ inductionHypothesis =>
      exact explains_cons trivial (inductionHypothesis (List.forall_mem_cons.mp admitted).2)
  | case5 operands text rest inductionHypothesis =>
      exact inductionHypothesis (List.forall_mem_cons.mp admitted).2
  | case6 operands taken text rest _ _ inductionHypothesis =>
      exact explains_cons trivial (inductionHypothesis (List.forall_mem_cons.mp admitted).2)
  | case7 => nofun
  | case8 operands taken text rest _ _ _ inductionHypothesis =>
      exact inductionHypothesis (List.forall_mem_cons.mp admitted).2
  | case9 operands taken text rest inductionHypothesis =>
      exact explains_cons trivial (inductionHypothesis (List.forall_mem_cons.mp admitted).2)
  | case10 => nofun
  | case11 operands taken text option attached rest events asked inductionHypothesis =>
      obtain ⟨flag, others⟩ := List.forall_mem_cons.mp admitted
      obtain ⟨letters, _, asks⟩ := Option.bind_eq_some_iff.mp asked
      exact explains_before (fun _ => explains_of_mem_letterEvents? flag asks)
        (inductionHypothesis others)
  | case12 operands taken word option text rest inductionHypothesis =>
      rw [valueOf_of_not_strikes kept]
      exact explains_cons trivial (inductionHypothesis (List.forall_mem_cons.mp admitted).2)
  | case13 operands taken text option value more inductionHypothesis =>
      have others := (List.forall_mem_cons.mp (List.forall_mem_cons.mp admitted).2).2
      exact explains_cons trivial (inductionHypothesis others)
  | case14 => nofun
  | case15 => nofun
  | case16 operands taken text option rest inductionHypothesis =>
      obtain ⟨named, others⟩ := List.forall_mem_cons.mp admitted
      exact explains_cons (.inr named) (inductionHypothesis others)

end Grammar

/-- What every step keeps holds of the result of all steps. -/
theorem foldlM_keeps {ε α β : Type} {step : β → α → Except ε β} {items : List α} (holds : β → Prop)
    (keeps : ∀ state next, ∀ item ∈ items, holds state → step state item = .ok next → holds next)
    {start result : β} (first : holds start) (folded : items.foldlM step start = .ok result) :
    holds result := by
  induction items generalizing start with
  | nil =>
      cases folded
      exact first
  | cons item rest inductionHypothesis =>
      rw [List.foldlM_cons] at folded
      obtain ⟨next, stepped, later⟩ := bind_eq_ok_iff.mp folded
      have kept := keeps start next item List.mem_cons_self first stepped
      exact inductionHypothesis
        (fun state after other member => keeps state after other (List.mem_cons_of_mem _ member))
        kept later

namespace CommandWords

/-- A path and ids are there, as far as their options were given. -/
def Given (words : CommandWords) : Prop :=
  words.config ≠ some Option.none ∧ Option.none ∉ words.ids

theorem Given.take {words next : CommandWords} {event : Event Flag} (given : words.Given)
    (explained : (resolveGrammar false).Explains event) (taken : words.take event = .ok next) :
    next.Given := by
  obtain ⟨config, ids⟩ := given
  have valued : ¬(resolveGrammar false).IsFlag .config ∧ ¬(resolveGrammar false).IsFlag .id := by
    simp [Grammar.IsFlag, resolveGrammar]
  unfold CommandWords.take at taken
  split at taken
  · contradiction
  · rename_i value
    cases taken
    cases value with
    | none => exact absurd explained valued.1
    | some path => exact ⟨by simp, ids⟩
  · exact absurd explained valued.2
  · split at taken
    · cases taken
      exact ⟨config, by simpa using ids⟩
    · contradiction
  all_goals
    cases taken
    exact ⟨config, ids⟩

end CommandWords

theorem given_of_readCommand {operands : Nat} {words : List String} {result : CommandWords}
    (read : readCommand (resolveGrammar false) operands words = .ok result) : result.Given := by
  unfold readCommand at read
  split at read
  · contradiction
  rename_i classified clear
  obtain ⟨taken, folded, kept⟩ := bind_eq_ok_iff.mp read
  split at kept
  · cases kept
    have explained : ∀ event ∈ ((resolveGrammar false).read false operands false classified).events,
        (resolveGrammar false).Explains event :=
      Grammar.explains_of_mem_read rfl fun _ => Grammar.admits_of_mem_classify clear
    have unasked : CommandWords.none.Given := by
      simp [CommandWords.Given, CommandWords.none]
    exact foldlM_keeps CommandWords.Given
      (fun _ _ event member given => given.take (explained event member)) unasked folded
  · contradiction

/-- The options of a command have the values that they take. -/
def Command.Given : Command → Prop
  | .resolve arguments => arguments.config ≠ some none ∧ none ∉ arguments.ids
  | .check _ => True
  | .tags => True

theorem given_of_commandOf {name : String} {words : List String} {command : Command}
    {surplus : Bool} (read : commandOf false name words = .ok (command, surplus)) : command.Given := by
  unfold commandOf at read
  split at read
  · obtain ⟨result, taken, kept⟩ := bind_eq_ok_iff.mp read
    split at kept
    · contradiction
    · cases kept
      exact given_of_readCommand taken
  split at read
  · obtain ⟨result, _, kept⟩ := bind_eq_ok_iff.mp read
    split at kept
    · contradiction
    · cases kept
      trivial
  split at read
  · obtain ⟨result, _, kept⟩ := bind_eq_ok_iff.mp read
    cases kept
    trivial
  · contradiction

/-- Where no value is struck out, the options of every command have their values. -/
theorem Arguments.given_of_ofWords {words : List String} {arguments : Arguments} {command : Command}
    (understood : Arguments.ofWords false words = .ok arguments)
    (asked : arguments.command = some command) : command.Given := by
  simp only [Arguments.ofWords] at understood
  split at understood
  · contradiction
  obtain ⟨result, folded, kept⟩ := bind_eq_ok_iff.mp understood
  split at kept
  · cases kept
    refine foldlM_keeps (fun words => ∀ command, words.arguments.command = some command →
      command.Given) ?_ nofun folded command asked
    intro words next event _ given taken command asked
    unfold ProgramWords.take at taken
    split at taken
    case h_6 =>
      obtain ⟨⟨found, surplus⟩, read, same⟩ := bind_eq_ok_iff.mp taken
      cases same
      cases asked
      exact given_of_commandOf read
    case h_1 => contradiction
    all_goals
      cases taken
      exact given command asked
  · contradiction

end Nameplate.CommandLine
