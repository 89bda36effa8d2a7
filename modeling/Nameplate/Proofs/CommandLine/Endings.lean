import Mathlib.Control.Monad.Basic
import Nameplate.CommandLine.Run
import Nameplate.Proofs.CommandLine.Values

/-!
How runs end.

A run that understood its words ends with status 0 or 1, and a command that ends
with 1 has told why.  What a command does not expect breaks through instead: an
option whose value was struck out, a configured level that is no text, and a file
whose reading broke off.  Each counts only if nothing went wrong before it, and
nothing has been printed by then.
-/

namespace Nameplate.CommandLine

/-- The configuration file that the command of a run reads; none in the place of
its path if the option is given without one. -/
def Arguments.config (arguments : Arguments) : Option (Option String) :=
  match arguments.command with
  | some (.resolve resolve) => resolve.config
  | some (.check config) => some (some config)
  | some .tags => none
  | none => none

/-- What the command of a run does with the settings, if it reads any. -/
def Arguments.body? (arguments : Arguments) (readers : Readers) (files : Files)
    (palette : Option Palette) : Option (Settings → Logged Failure (List String)) :=
  match arguments.command with
  | some (.resolve resolve) => some (resolveBody resolve readers files palette)
  | some (.check config) => some (checkBody config palette)
  | some .tags => none
  | none => none

/-- The settings of a run were read, and their level is known if it counts. -/
structure Prepared (arguments : Arguments) (readers : Readers) (files : Files)
    (settings : Settings) : Prop where
  loaded : (loadSettings readers files arguments.config).outcome = .ok settings
  level : arguments.config.isSome → arguments.logLevel = none →
    ∃ name weight, settings.reporting.level = .text name ∧ threshold? name = some weight

/-- What breaks through a run of a command, each failure with all that has to go
right before it. -/
inductive Unforeseen (arguments : Arguments) (readers : Readers) (files : Files) :
    Failure → Prop where
  | noPath (given : arguments.config = some none) : Unforeseen arguments readers files .noPath
  | brokenSettings {path content words : String} (given : arguments.config = some (some path))
      (opened : files.content path = .ok content)
      (broken : readers.read .settings (Settings.formatOf path) content =
        .error (.broken words)) :
      Unforeseen arguments readers files
        (.settings (.unreadable (Settings.formatOf path) (.broken words)))
  | level {path : String} {settings : Settings} (given : arguments.config = some (some path))
      (counts : arguments.logLevel = none)
      (loaded : (Settings.ofFile readers files path).outcome = .ok settings)
      (strange : ∀ name, settings.reporting.level ≠ .text name) :
      Unforeseen arguments readers files (.levelType settings.reporting.level.typeName)
  | brokenSnapshot {resolve : ResolveArguments} {settings : Settings} {content words : String}
      (command : arguments.command = some (.resolve resolve))
      (prepared : Prepared arguments readers files settings)
      (opened : files.content (Path.normalized resolve.snapshot) = .ok content)
      (broken : readers.read .snapshot (Snapshot.formatOf (Path.normalized resolve.snapshot))
        content = .error (.broken words)) :
      Unforeseen arguments readers files (.snapshot (.unreadable (Path.normalized resolve.snapshot)
        (Snapshot.formatOf (Path.normalized resolve.snapshot)) (.broken words)))
  | noId {resolve : ResolveArguments} {settings : Settings} {catalog : Catalog}
      {earlier later : List (Option Int)} (command : arguments.command = some (.resolve resolve))
      (prepared : Prepared arguments readers files settings)
      (read : (Snapshot.ofFile readers files resolve.snapshot).outcome = .ok catalog)
      (listed : resolve.ids = earlier ++ none :: later)
      (answered : ∀ id ∈ earlier, ∃ description,
        (describeGiven catalog settings.names id).outcome = .ok description) :
      Unforeseen arguments readers files .noId

/-- How a run ends that nothing breaks through. -/
inductive Regular (arguments : Arguments) (palette : Option Palette) : Outcome → Prop where
  | done (written reports : String) : Regular arguments palette (.finished 0 written reports)
  | told (written reports message : String) :
      Regular arguments palette (.finished 1 written (reports ++ errorLine palette message))
  | noCommand (idle : arguments.command = none) :
      Regular arguments palette (.finished 1 helpText "")

section Reading

variable {readers : Readers} {files : Files}

theorem settings_isUnexpected_iff {error : Settings.FileError} :
    (Failure.settings error).isUnexpected = true ↔
      ∃ format words, error = .unreadable format (.broken words) := by
  cases error with
  | file error => simp [Failure.isUnexpected]
  | settings error => simp [Failure.isUnexpected]
  | unreadable format fault => cases fault <;> simp [Failure.isUnexpected]

theorem snapshot_isUnexpected_iff {error : Snapshot.FileError} :
    (Failure.snapshot error).isUnexpected = true ↔
      ∃ path format words, error = .unreadable path format (.broken words) := by
  cases error with
  | missing path => simp [Failure.isUnexpected]
  | file error => simp [Failure.isUnexpected]
  | snapshot error => simp [Failure.isUnexpected]
  | unreadable path format fault => cases fault <;> simp [Failure.isUnexpected]

theorem settings_ofFile_broken_iff {path words : String} {format : FileFormat} :
    (Settings.ofFile readers files path).outcome =
        .error (.unreadable format (.broken words)) ↔
      ∃ content, files.content path = .ok content ∧
        readers.read .settings (Settings.formatOf path) content = .error (.broken words) ∧
        Settings.formatOf path = format := by
  rw [Settings.ofFile]
  simp only [Logged.outcome_bind, Logged.outcome_ofExcept, Logged.outcome_mapError,
    bind_eq_error_iff, mapError_eq_ok_iff, mapError_eq_error_iff]
  simp

theorem snapshot_ofFile_broken_iff {path place words : String} {format : FileFormat} :
    (Snapshot.ofFile readers files path).outcome =
        .error (.unreadable place format (.broken words)) ↔
      ∃ content, files.content (Path.normalized path) = .ok content ∧
        readers.read .snapshot (Snapshot.formatOf (Path.normalized path)) content =
          .error (.broken words) ∧
        Path.normalized path = place ∧ Snapshot.formatOf (Path.normalized path) = format := by
  -- The error of a place that leads to no text is never about its values.
  have opened (cause : FileError) : Snapshot.fileErrorOf (Path.normalized path) cause ≠
      .unreadable place format (.broken words) := by
    cases cause <;> simp [Snapshot.fileErrorOf]
  rw [Snapshot.ofFile]
  simp only [Logged.outcome_bind, Logged.outcome_ofExcept, Logged.outcome_mapError,
    Logged.outcome_note, bind_eq_error_iff, mapError_eq_ok_iff, mapError_eq_error_iff]
  simp only [opened, and_false, exists_false, or_false, false_or, reduceCtorEq,
    Snapshot.FileError.unreadable.injEq]
  constructor
  · intro unread
    obtain ⟨content, found, fault, broken, located, formatted, same⟩ := unread
    subst same
    exact ⟨content, found, broken, located, formatted⟩
  · intro broke
    obtain ⟨content, found, broken, located, formatted⟩ := broke
    exact ⟨content, found, _, broken, located, formatted, rfl⟩

end Reading

section Threshold

variable {arguments : Arguments} {config : Option (Option String)} {threshold : Nat}
  {settings : Settings} {level : Document} {failure : Failure}

theorem levelThreshold_text (name : String) :
    levelThreshold (.text name) =
      match threshold? name with
      | some weight => .ok weight
      | none => .error (.unknownLevel (Text.upper name)) := rfl

theorem levelThreshold_strange (strange : ∀ name, level ≠ .text name) :
    levelThreshold level = .error (.levelType level.typeName) := by
  cases level with
  | text name => exact absurd rfl (strange name)
  | _ => rfl

theorem levelThreshold_exists_iff :
    (∃ weight, levelThreshold level = .ok weight) ↔
      ∃ name weight, level = .text name ∧ threshold? name = some weight := by
  by_cases textual : ∃ name, level = .text name
  · obtain ⟨name, rfl⟩ := textual
    cases known : threshold? name <;> simp [levelThreshold_text, known]
  · have strange (name : String) : level ≠ .text name := fun same => textual ⟨name, same⟩
    simp [levelThreshold_strange strange, strange]

theorem levelThreshold_unexpected (failed : levelThreshold level = .error failure)
    (unexpected : failure.isUnexpected = true) :
    (∀ name, level ≠ .text name) ∧ failure = .levelType level.typeName := by
  by_cases textual : ∃ name, level = .text name
  · obtain ⟨name, rfl⟩ := textual
    rw [levelThreshold_text] at failed
    split at failed
    · contradiction
    · cases failed
      contradiction
  · have strange (name : String) : level ≠ .text name := fun same => textual ⟨name, same⟩
    rw [levelThreshold_strange strange] at failed
    cases failed
    exact ⟨strange, rfl⟩

/-- The level of a configuration counts if a file was named and the words of the
run name no level. -/
theorem thresholdAfter_counting (given : config.isSome = true)
    (silent : arguments.logLevel = none) :
    thresholdAfter arguments config threshold settings =
      levelThreshold settings.reporting.level := by
  simp [thresholdAfter, given, silent]

theorem thresholdAfter_otherwise (idle : ¬(config.isSome = true ∧ arguments.logLevel = none)) :
    thresholdAfter arguments config threshold settings = .ok threshold := by
  rw [thresholdAfter, if_neg]
  simpa using idle

theorem thresholdAfter_exists_iff :
    (∃ applied, thresholdAfter arguments config threshold settings = .ok applied) ↔
      (config.isSome = true → arguments.logLevel = none →
        ∃ name weight, settings.reporting.level = .text name ∧ threshold? name = some weight) := by
  by_cases counts : config.isSome = true ∧ arguments.logLevel = none
  · rw [thresholdAfter_counting counts.1 counts.2, levelThreshold_exists_iff]
    exact ⟨fun known _ _ => known, fun known => known counts.1 counts.2⟩
  · rw [thresholdAfter_otherwise counts]
    exact ⟨fun _ given silent => absurd ⟨given, silent⟩ counts, fun _ => ⟨threshold, rfl⟩⟩

theorem thresholdAfter_unexpected
    (failed : thresholdAfter arguments config threshold settings = .error failure)
    (unexpected : failure.isUnexpected = true) :
    config.isSome = true ∧ arguments.logLevel = none ∧
      (∀ name, settings.reporting.level ≠ .text name) ∧
      failure = .levelType settings.reporting.level.typeName := by
  by_cases counts : config.isSome = true ∧ arguments.logLevel = none
  · rw [thresholdAfter_counting counts.1 counts.2] at failed
    exact ⟨counts.1, counts.2, levelThreshold_unexpected failed unexpected⟩
  · rw [thresholdAfter_otherwise counts] at failed
    contradiction

end Threshold

/-- What a command that reads files comes to, its reports left aside. -/
def commandOutcome (arguments : Arguments) (readers : Readers) (files : Files) (threshold : Nat)
    (body : Settings → Logged Failure (List String)) : Except Failure (List String) := do
  let settings ← (loadSettings readers files arguments.config).outcome
  let _ ← thresholdAfter arguments arguments.config threshold settings
  (body settings).outcome

/-- The reports of two stages, each with its own threshold, are the lines of one
journal. -/
theorem visible_append_visible (threshold applied : Nat) (first second : List Entry) :
    visible threshold first ++ visible applied second =
      unlines ((first.filter (fun entry => threshold ≤ entry.level.weight) ++
        second.filter (fun entry => applied ≤ entry.level.weight)).map Entry.text) := by
  rw [visible, visible, List.map_append, unlines_append]

section Commands

variable {arguments : Arguments} {host : Host} {readers : Readers} {files : Files}
  {palette : Option Palette} {threshold : Nat} {settings : Settings} {failure : Failure}
  {body : Settings → Logged Failure (List String)}

theorem prepared_iff (threshold : Nat) :
    Prepared arguments readers files settings ↔
      (loadSettings readers files arguments.config).outcome = .ok settings ∧
        ∃ applied, thresholdAfter arguments arguments.config threshold settings = .ok applied := by
  rw [thresholdAfter_exists_iff]
  exact ⟨fun prepared => ⟨prepared.loaded, prepared.level⟩, fun ⟨loaded, level⟩ => ⟨loaded, level⟩⟩

theorem commandOutcome_eq_error_iff :
    commandOutcome arguments readers files threshold body = .error failure ↔
      (loadSettings readers files arguments.config).outcome = .error failure ∨
      (∃ settings, (loadSettings readers files arguments.config).outcome = .ok settings ∧
        thresholdAfter arguments arguments.config threshold settings = .error failure) ∨
      ∃ settings, Prepared arguments readers files settings ∧
        (body settings).outcome = .error failure := by
  simp only [commandOutcome, bind_eq_error_iff, prepared_iff threshold, and_or_left,
    exists_or, and_assoc, exists_and_right]

theorem runWith_of_error (palette : Option Palette)
    (stopped : commandOutcome arguments host.readers files threshold body = .error failure) :
    ∃ (applied : Nat) (journal : List Entry),
      runWith arguments host files palette threshold arguments.config body =
        failed palette applied "" (unlines (journal.map Entry.text)) failure := by
  rw [runWith]
  rcases commandOutcome_eq_error_iff.mp stopped with
    unread | ⟨settings, loaded, unset⟩ | ⟨settings, prepared, unanswered⟩
  · rw [unread]
    exact ⟨_, _, rfl⟩
  · rw [loaded]
    dsimp only
    rw [unset]
    exact ⟨_, _, rfl⟩
  · obtain ⟨loaded, applied, set⟩ := (prepared_iff threshold).mp prepared
    rw [loaded]
    dsimp only
    rw [set]
    dsimp only
    rw [unanswered, visible_append_visible]
    exact ⟨_, _, rfl⟩

theorem runWith_of_ok {texts : List String} (palette : Option Palette)
    (done : commandOutcome arguments host.readers files threshold body = .ok texts) :
    ∃ (applied : Nat) (journal : List Entry),
      runWith arguments host files palette threshold arguments.config body =
        printing host.output palette applied (unlines (journal.map Entry.text)) texts := by
  obtain ⟨settings, loaded, rest⟩ := bind_eq_ok_iff.mp done
  obtain ⟨applied, set, answered⟩ := bind_eq_ok_iff.mp rest
  rw [runWith, loaded]
  dsimp only
  rw [set]
  dsimp only
  rw [answered, visible_append_visible]
  exact ⟨_, _, rfl⟩

theorem failed_unexpected (unexpected : failure.isUnexpected = true) (written reports : String) :
    failed palette threshold written reports failure = .escaped failure written reports := by
  rw [failed, if_pos unexpected]

theorem regular_failed (expected : failure.isUnexpected = false) (written reports : String) :
    Regular arguments palette (failed palette threshold written reports failure) := by
  rw [failed, if_neg (by simp [expected])]
  exact .told _ _ _

/-- Printing that stops midway is told, so it never breaks through. -/
theorem regular_printing (output : Output) (reports : String) (texts : List String) :
    Regular arguments palette (printing output palette threshold reports texts) := by
  rw [printing]
  split
  · exact .done _ _
  · exact regular_failed rfl _ _

/-- A command that reads files ends with a failure that it does not expect, or
regularly. -/
theorem runWith_cases (arguments : Arguments) (host : Host) (files : Files)
    (palette : Option Palette) (threshold : Nat)
    (body : Settings → Logged Failure (List String)) :
    (∃ failure reports,
      commandOutcome arguments host.readers files threshold body = .error failure ∧
      failure.isUnexpected = true ∧
      runWith arguments host files palette threshold arguments.config body =
        .escaped failure "" reports) ∨
    (∀ failure, commandOutcome arguments host.readers files threshold body = .error failure →
      failure.isUnexpected = false) ∧
      Regular arguments palette
        (runWith arguments host files palette threshold arguments.config body) := by
  cases came : commandOutcome arguments host.readers files threshold body with
  | ok texts =>
      obtain ⟨applied, journal, printed⟩ := runWith_of_ok palette came
      rw [printed]
      exact .inr ⟨nofun, regular_printing _ _ _⟩
  | error failure =>
      obtain ⟨applied, journal, stopped⟩ := runWith_of_error palette came
      rw [stopped]
      cases kind : failure.isUnexpected with
      | true => exact .inl ⟨failure, _, rfl, kind, failed_unexpected kind _ _⟩
      | false =>
          refine .inr ⟨?_, regular_failed kind _ _⟩
          intro other same
          cases same
          exact kind

end Commands

section Unforeseen

variable {arguments : Arguments} {readers : Readers} {files : Files} {palette : Option Palette}
  {threshold : Nat} {settings : Settings} {failure : Failure} {resolve : ResolveArguments}
  {path : String} {body : Settings → Logged Failure (List String)} {catalog : Catalog}
  {names : Names} {ids : List (Option Int)}

theorem Unforeseen.isUnexpected (unforeseen : Unforeseen arguments readers files failure) :
    failure.isUnexpected = true := by
  cases unforeseen <;> rfl

theorem Unforeseen.of_loadSettings
    (unread : (loadSettings readers files arguments.config).outcome = .error failure)
    (unexpected : failure.isUnexpected = true) : Unforeseen arguments readers files failure := by
  cases given : arguments.config with
  | none => simp [loadSettings, given] at unread
  | some option =>
      rw [given] at unread
      cases option with
      | none =>
          cases unread
          exact .noPath given
      | some path =>
          obtain ⟨cause, stopped, rfl⟩ := mapError_eq_error_iff.mp unread
          obtain ⟨format, words, rfl⟩ := settings_isUnexpected_iff.mp unexpected
          obtain ⟨content, opened, broken, rfl⟩ := settings_ofFile_broken_iff.mp stopped
          exact .brokenSettings given opened broken

theorem Unforeseen.of_thresholdAfter
    (loaded : (loadSettings readers files arguments.config).outcome = .ok settings)
    (unset : thresholdAfter arguments arguments.config threshold settings = .error failure)
    (unexpected : failure.isUnexpected = true) : Unforeseen arguments readers files failure := by
  obtain ⟨named, counts, strange, rfl⟩ := thresholdAfter_unexpected unset unexpected
  cases given : arguments.config with
  | none => simp [given] at named
  | some option =>
      rw [given] at loaded
      cases option with
      | none => cases loaded
      | some path => exact .level given counts (mapError_eq_ok_iff.mp loaded) strange

theorem describeGiven_unexpected {id : Option Int}
    (stopped : (describeGiven catalog names id).outcome = .error failure)
    (unexpected : failure.isUnexpected = true) : id = none ∧ failure = .noId := by
  cases id with
  | none =>
      cases stopped
      exact ⟨rfl, rfl⟩
  | some id =>
      obtain ⟨cause, _, rfl⟩ := mapError_eq_error_iff.mp stopped
      contradiction

theorem describeSelection_unexpected
    (stopped : (describeSelection catalog names ids).outcome = .error failure)
    (unexpected : failure.isUnexpected = true) : failure = .noId := by
  rw [describeSelection] at stopped
  split at stopped
  · obtain ⟨cause, _, rfl⟩ := mapError_eq_error_iff.mp stopped
    contradiction
  · rw [Logged.outcome_forEach, mapM_eq_error_iff] at stopped
    obtain ⟨_, id, _, _, _, stopped⟩ := stopped
    exact (describeGiven_unexpected stopped unexpected).2

/-- An id is missed when it is its turn, after all ids before it were answered. -/
theorem describeSelection_noId_iff :
    (describeSelection catalog names ids).outcome = .error .noId ↔
      ∃ earlier later, ids = earlier ++ none :: later ∧
        ∀ id ∈ earlier, ∃ description,
          (describeGiven catalog names id).outcome = .ok description := by
  rw [describeSelection]
  split
  · rename_i empty
    rw [List.isEmpty_iff] at empty
    simp [empty, mapError_eq_error_iff]
  · rw [Logged.outcome_forEach, mapM_eq_error_iff]
    constructor
    · intro stopped
      obtain ⟨earlier, id, later, listed, answered, missed⟩ := stopped
      obtain ⟨rfl, -⟩ := describeGiven_unexpected missed rfl
      exact ⟨earlier, later, listed, answered⟩
    · intro struck
      obtain ⟨earlier, later, listed, answered⟩ := struck
      exact ⟨earlier, none, later, listed, answered, rfl⟩

theorem resolveBody_eq_error_iff :
    (resolveBody resolve readers files palette settings).outcome = .error failure ↔
      (∃ cause, (Snapshot.ofFile readers files resolve.snapshot).outcome = .error cause ∧
        .snapshot cause = failure) ∨
      ∃ catalog, (Snapshot.ofFile readers files resolve.snapshot).outcome = .ok catalog ∧
        (describeSelection catalog settings.names resolve.ids).outcome = .error failure := by
  rw [resolveBody]
  simp only [Logged.outcome_bind, Logged.outcome_mapError, Logged.outcome_pure, bind_eq_error_iff,
    mapError_eq_error_iff, mapError_eq_ok_iff, reduceCtorEq, and_false, exists_false, or_false]

theorem Unforeseen.of_resolveBody (command : arguments.command = some (.resolve resolve))
    (prepared : Prepared arguments readers files settings)
    (stopped : (resolveBody resolve readers files palette settings).outcome = .error failure)
    (unexpected : failure.isUnexpected = true) : Unforeseen arguments readers files failure := by
  rcases resolveBody_eq_error_iff.mp stopped with ⟨cause, unread, rfl⟩ | ⟨catalog, read, missed⟩
  · obtain ⟨path, format, words, rfl⟩ := snapshot_isUnexpected_iff.mp unexpected
    obtain ⟨content, opened, broken, rfl, rfl⟩ := snapshot_ofFile_broken_iff.mp unread
    exact .brokenSnapshot command prepared opened broken
  · cases describeSelection_unexpected missed unexpected
    obtain ⟨earlier, later, listed, answered⟩ := describeSelection_noId_iff.mp missed
    exact .noId command prepared read listed answered

theorem loadSettings_file (given : arguments.config = some (some path)) :
    (loadSettings readers files arguments.config).outcome =
      (Settings.ofFile readers files path).outcome.mapError .settings := by
  rw [given]
  rfl

theorem Unforeseen.commandOutcome_eq (unforeseen : Unforeseen arguments readers files failure)
    (does : arguments.body? readers files palette = some body) (threshold : Nat) :
    commandOutcome arguments readers files threshold body = .error failure := by
  rw [commandOutcome_eq_error_iff]
  cases unforeseen with
  | noPath given =>
      rw [given]
      exact .inl rfl
  | brokenSettings given opened broken =>
      rw [loadSettings_file given, mapError_eq_error_iff]
      exact .inl ⟨_, settings_ofFile_broken_iff.mpr ⟨_, opened, broken, rfl⟩, rfl⟩
  | @level _ settings given counts loaded strange =>
      refine .inr (.inl ⟨settings, ?_, ?_⟩)
      · rw [loadSettings_file given, mapError_eq_ok_iff]
        exact loaded
      · rw [thresholdAfter_counting (by simp [given]) counts, levelThreshold_strange strange]
  | brokenSnapshot command prepared opened broken =>
      simp only [Arguments.body?, command, Option.some.injEq] at does
      refine .inr (.inr ⟨_, prepared, ?_⟩)
      rw [← does, resolveBody_eq_error_iff]
      exact .inl ⟨_, snapshot_ofFile_broken_iff.mpr ⟨_, opened, broken, rfl, rfl⟩, rfl⟩
  | noId command prepared read listed answered =>
      simp only [Arguments.body?, command, Option.some.injEq] at does
      refine .inr (.inr ⟨_, prepared, ?_⟩)
      rw [← does, resolveBody_eq_error_iff]
      exact .inr ⟨_, read, describeSelection_noId_iff.mpr ⟨_, _, listed, answered⟩⟩

/-- A command that reads files is stopped by a failure that it does not expect
exactly when something unforeseen happens. -/
theorem unforeseen_iff (does : arguments.body? readers files palette = some body) :
    Unforeseen arguments readers files failure ↔
      commandOutcome arguments readers files threshold body = .error failure ∧
        failure.isUnexpected = true := by
  constructor
  · intro unforeseen
    exact ⟨unforeseen.commandOutcome_eq does threshold, unforeseen.isUnexpected⟩
  · intro broke
    obtain ⟨stopped, unexpected⟩ := broke
    rcases commandOutcome_eq_error_iff.mp stopped with
      unread | ⟨settings, loaded, unset⟩ | ⟨settings, prepared, unanswered⟩
    · exact .of_loadSettings unread unexpected
    · exact .of_thresholdAfter loaded unset unexpected
    · cases command : arguments.command with
      | none => simp [Arguments.body?, command] at does
      | some given =>
          simp only [Arguments.body?, command] at does
          cases given with
          | tags => contradiction
          | check config =>
              cases does
              contradiction
          | resolve resolve =>
              cases does
              exact .of_resolveBody command prepared unanswered unexpected

theorem Unforeseen.body?_exists (unforeseen : Unforeseen arguments readers files failure)
    (palette : Option Palette) :
    ∃ body, arguments.body? readers files palette = some body := by
  have reads : arguments.config.isSome = true ∨
      ∃ resolve, arguments.command = some (.resolve resolve) := by
    cases unforeseen <;> simp [*]
  rw [Arguments.body?]
  rcases reads with configured | ⟨resolve, command⟩
  · rw [Arguments.config] at configured
    split at configured <;> simp_all
  · rw [command]
    exact ⟨_, rfl⟩

/-- At most one thing breaks through a run. -/
theorem Unforeseen.unique {other : Failure}
    (unforeseen : Unforeseen arguments readers files failure)
    (another : Unforeseen arguments readers files other) : failure = other := by
  obtain ⟨body, does⟩ := unforeseen.body?_exists none
  have stopped := unforeseen.commandOutcome_eq does 0
  rw [another.commandOutcome_eq does 0] at stopped
  exact (Except.error.inj stopped).symm

end Unforeseen

section Runs

variable {words : List String} {arguments : Arguments} {host : Host} {files : Files}
  {palette : Option Palette} {threshold : Nat} {body : Settings → Logged Failure (List String)}
  {outcome : Outcome} {failure : Failure}

theorem Regular.not_escaped (regular : Regular arguments palette outcome) (failure : Failure)
    (stdout stderr : String) : outcome ≠ .escaped failure stdout stderr := by
  cases regular <;> exact Outcome.noConfusion

theorem runArguments_unstarted (unknown : startThreshold? arguments.logLevel = none)
    (host : Host) (files : Files) :
    Regular arguments (arguments.palette host.output) (runArguments arguments host files) := by
  rw [runArguments, unknown]
  have told : Regular arguments (arguments.palette host.output) _ :=
    .told "" "" ("Unknown log level: " ++ arguments.logLevel.getD "")
  rwa [String.empty_append] at told

theorem runArguments_reading (started : startThreshold? arguments.logLevel = some threshold)
    (does : arguments.body? host.readers files (arguments.palette host.output) = some body) :
    runArguments arguments host files =
      runWith arguments host files (arguments.palette host.output) threshold arguments.config
        body := by
  rw [runArguments, started]
  rw [Arguments.body?] at does
  split at does <;> simp_all [Arguments.config]

theorem runArguments_idle
    (idle : arguments.body? host.readers files (arguments.palette host.output) = none) :
    Regular arguments (arguments.palette host.output) (runArguments arguments host files) := by
  cases started : startThreshold? arguments.logLevel with
  | none => exact runArguments_unstarted started host files
  | some threshold =>
      rw [runArguments, started]
      rw [Arguments.body?] at idle
      split at idle
      · contradiction
      · contradiction
      · rename_i command
        rw [command]
        exact regular_printing _ _ _
      · rename_i command
        rw [command]
        exact .noCommand command

theorem runArguments_cases (arguments : Arguments) (host : Host) (files : Files) :
    (∃ failure reports, startThreshold? arguments.logLevel ≠ none ∧
      Unforeseen arguments host.readers files failure ∧
      runArguments arguments host files = .escaped failure "" reports) ∨
    (startThreshold? arguments.logLevel = none ∨
        ∀ failure, ¬Unforeseen arguments host.readers files failure) ∧
      Regular arguments (arguments.palette host.output) (runArguments arguments host files) := by
  cases started : startThreshold? arguments.logLevel with
  | none => exact .inr ⟨.inl rfl, runArguments_unstarted started host files⟩
  | some threshold =>
      cases does : arguments.body? host.readers files (arguments.palette host.output) with
      | none =>
          refine .inr ⟨.inr ?_, runArguments_idle does⟩
          intro failure unforeseen
          obtain ⟨body, found⟩ := unforeseen.body?_exists (arguments.palette host.output)
          rw [does] at found
          contradiction
      | some body =>
          rw [runArguments_reading started does]
          rcases runWith_cases arguments host files (arguments.palette host.output) threshold body
            with ⟨failure, reports, stopped, unexpected, escaped⟩ | ⟨expected, regular⟩
          · have unforeseen := (unforeseen_iff does).mpr ⟨stopped, unexpected⟩
            exact .inl ⟨failure, reports, nofun, unforeseen, escaped⟩
          · refine .inr ⟨.inr ?_, regular⟩
            intro failure unforeseen
            obtain ⟨stopped, unexpected⟩ := (unforeseen_iff does).mp unforeseen
            rw [expected failure stopped] at unexpected
            contradiction

/-- No value is missing where values are taken as they are written. -/
theorem Unforeseen.ne_missing (unforeseen : Unforeseen arguments host.readers files failure)
    (understood : Arguments.ofWords host.strikes words = .ok arguments)
    (kept : host.strikes = false) : failure ≠ .noPath ∧ failure ≠ .noId := by
  rw [kept] at understood
  cases unforeseen with
  | noPath missing =>
      rw [Arguments.config] at missing
      split at missing
      · rename_i command
        exact absurd missing (Arguments.given_of_ofWords understood command).1
      all_goals cases missing
  | noId command prepared read listed answered =>
      refine absurd ?_ (Arguments.given_of_ofWords understood command).2
      rw [listed]
      exact List.mem_append_right _ List.mem_cons_self
  | brokenSettings => exact ⟨nofun, nofun⟩
  | level => exact ⟨nofun, nofun⟩
  | brokenSnapshot => exact ⟨nofun, nofun⟩

/-- A run that understood its words ends regularly unless something unforeseen
happens while it reads files, which then breaks through before anything is printed.
Whatever the readers and the outputs of its host do, nothing else breaks through; and
where values are not struck out, only levels and readers do. -/
theorem run_escapes_iff_unforeseen
    (understood : Arguments.ofWords host.strikes words = .ok arguments) (files : Files) :
    (∀ failure, (∃ stdout reports, run host words files = .escaped failure stdout reports) ↔
      startThreshold? arguments.logLevel ≠ none ∧
        Unforeseen arguments host.readers files failure) ∧
    ((∀ failure stdout stderr, run host words files ≠ .escaped failure stdout stderr) ↔
      Regular arguments (arguments.palette host.output) (run host words files)) ∧
    (∀ failure stdout stderr, run host words files = .escaped failure stdout stderr →
      stdout = "") ∧
    (host.strikes = false → ∀ failure, Unforeseen arguments host.readers files failure →
      failure ≠ .noPath ∧ failure ≠ .noId) := by
  have ran : run host words files = runArguments arguments host files := by
    rw [run, understood]
  rw [ran]
  have present (kept : host.strikes = false) (failure : Failure)
      (unforeseen : Unforeseen arguments host.readers files failure) :=
    unforeseen.ne_missing understood kept
  rcases runArguments_cases arguments host files with
    ⟨failure, reports, started, unforeseen, escaped⟩ | ⟨foreseen, regular⟩
  -- No other failure can break through in its place, since it is the only unforeseen one.
  · refine ⟨fun other => ⟨?_, ?_⟩, ⟨?_, ?_⟩, ?_, present⟩
    · intro broke
      obtain ⟨stdout, stderr, same⟩ := broke
      rw [escaped] at same
      cases same
      exact ⟨started, unforeseen⟩
    · intro another
      cases unforeseen.unique another.2
      exact ⟨"", reports, escaped⟩
    · intro kept
      exact absurd escaped (kept failure "" reports)
    · intro regular
      exact absurd escaped (regular.not_escaped failure "" reports)
    · intro other stdout stderr same
      rw [escaped] at same
      cases same
      rfl
  · refine ⟨fun other => ⟨?_, ?_⟩, ⟨fun _ => regular, fun _ => regular.not_escaped⟩, ?_, present⟩
    · intro broke
      obtain ⟨stdout, stderr, escaped⟩ := broke
      exact absurd escaped (regular.not_escaped other stdout stderr)
    · intro another
      obtain ⟨started, unforeseen⟩ := another
      rcases foreseen with unstarted | never
      · exact absurd unstarted started
      · exact absurd unforeseen (never other)
    · intro other stdout stderr escaped
      exact absurd escaped (regular.not_escaped other stdout stderr)

/-- A configured level that is no text breaks through. -/
theorem run_escapes_iff_unforeseen_numericLevel :
    Arguments.ofWords true ["check", "c.json"] = .ok ⟨none, false, some (.check "c.json")⟩ ∧
    (startThreshold? none ≠ none ∧
      Unforeseen ⟨none, false, some (.check "c.json")⟩ (Host.usual false).readers
        [("c.json", .text "\x7b\"logging\": \x7b\"level\": 5\x7d\x7d")] (.levelType "int")) := by
  have understood : Arguments.ofWords (Host.usual false).strikes ["check", "c.json"] =
      .ok ⟨none, false, some (.check "c.json")⟩ := by decide +kernel
  refine ⟨understood, ((run_escapes_iff_unforeseen understood _).1 _).mp ⟨"", "", ?_⟩⟩
  decide +kernel

/-- So not every run that understood its words tells what went wrong. -/
theorem check_escapes_numericLevel :
    run (Host.usual false) ["check", "c.json"]
      [("c.json", .text "\x7b\"logging\": \x7b\"level\": 5\x7d\x7d")] =
      .escaped (.levelType "int") "" "" := by
  decide +kernel

end Runs

end Nameplate.CommandLine
