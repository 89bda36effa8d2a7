import Nameplate.Proofs.CommandLine.Endings
import Nameplate.Proofs.Description.Bulk
import Nameplate.Proofs.Document.Written
import Nameplate.Proofs.Files.Roots

/-!
Runs that ask for the names of given ids.

Every id is described before anything is printed, so an id without a description leaves
the standard output empty, in whatever form the answers were to be shown.  The error that
is told then is the one of the first such id.  If there is none, all ids are answered; but
a table is printed row by row, so a row that the output cannot encode ends it.
-/

namespace Nameplate

namespace Catalog

variable {catalog : Catalog} {names : Names} {id : Int}

/-- Whether an id is that of a device or a node. -/
def Nameable (catalog : Catalog) (id : Int) : Prop :=
  ∃ record, catalog.get? id = some record ∧ record.kind ≠ .client

theorem describe_exists_iff (names : Names) :
    (∃ description, (catalog.describe names id).outcome = .ok description) ↔
      catalog.Nameable id := by
  rcases catalog.describe_cases names id with
    ⟨found, missing⟩ | ⟨client, found, refused⟩ | ⟨record, resolution, found, nameable, described⟩
  · simp [missing, Nameable, found]
  · simp [refused, Nameable, found, Record.kind]
  · simp [described, Nameable, found, nameable]

/-- The error of an id without a description: it is that of a client, or unknown. -/
theorem KeysMatch.describe_eq_error (matched : catalog.KeysMatch)
    (unnameable : ¬catalog.Nameable id) :
    (catalog.describe names id).outcome =
      .error (if catalog.contains id then .notNameable id else .notFound id) := by
  rw [IdMap.contains_eq_isSome]
  rcases catalog.describe_cases names id with
    ⟨found, missing⟩ | ⟨client, found, refused⟩ | ⟨record, resolution, found, nameable, described⟩
  · simp [missing, found]
  · have carried : client.id = id := matched id (.client client) found
    simp [refused, found, carried]
  · exact absurd ⟨record, found, nameable⟩ unnameable

end Catalog

theorem Snapshot.keysMatch_ofFile {readers : Readers} {files : Files} {path : String}
    {catalog : Catalog} (read : (ofFile readers files path).outcome = .ok catalog) :
    catalog.KeysMatch := by
  simp only [ofFile, Logged.outcome_bind_eq_ok_iff, Logged.outcome_mapError,
    mapError_eq_ok_iff] at read
  obtain ⟨_, _, _, _, _, _, accepted⟩ := read
  exact keysMatch_ofDocument accepted

namespace CommandLine

section Selection

variable {catalog : Catalog} {names : Names} {ids : List Int}

theorem outcome_describeSelection (given : ids ≠ []) :
    (describeSelection catalog names (ids.map some)).outcome =
      (ids.mapM fun id => (catalog.describe names id).outcome).mapError .description := by
  have present : (ids.map some).isEmpty = false := by simpa using given
  rw [describeSelection, present, if_neg Bool.false_ne_true, Logged.outcome_forEach,
    List.mapM_map, ← mapM_mapError]
  rfl

theorem describeSelection_eq_ok_iff (given : ids ≠ []) {descriptions : List Description} :
    (describeSelection catalog names (ids.map some)).outcome = .ok descriptions ↔
      (ids.map fun id => (catalog.describe names id).outcome) = descriptions.map .ok := by
  rw [outcome_describeSelection given, mapError_eq_ok_iff, mapM_eq_ok_iff]

/-- Ids are all described if they can be. -/
theorem describeSelection_exists (names : Names) (given : ids ≠ [])
    (nameable : ∀ id ∈ ids, catalog.Nameable id) :
    ∃ descriptions,
      (describeSelection catalog names (ids.map some)).outcome = .ok descriptions := by
  obtain ⟨descriptions, described⟩ := exists_map_ok fun id member =>
    (Catalog.describe_exists_iff names).mpr (nameable id member)
  exact ⟨descriptions, (describeSelection_eq_ok_iff given).mpr described⟩

/-- Of several ids that cannot be described the first one is told. -/
theorem describeSelection_stops (names : Names) (given : ids ≠ [])
    (matched : catalog.KeysMatch) (unnameable : ∃ id ∈ ids, ¬catalog.Nameable id) :
    ∃ earlier id later error, ids = earlier ++ id :: later ∧
      (∀ other ∈ earlier, catalog.Nameable other) ∧ ¬catalog.Nameable id ∧
      error = (if catalog.contains id then .notNameable id else .notFound id) ∧
      (catalog.describe names id).outcome = .error error ∧
      (describeSelection catalog names (ids.map some)).outcome = .error (.description error) := by
  rw [outcome_describeSelection given]
  cases came : ids.mapM fun id => (catalog.describe names id).outcome with
  | ok descriptions =>
      obtain ⟨id, member, missed⟩ := unnameable
      have described : (catalog.describe names id).outcome ∈ descriptions.map .ok := by
        rw [← mapM_eq_ok_iff.mp came]
        exact List.mem_map_of_mem member
      obtain ⟨description, _, same⟩ := List.mem_map.mp described
      exact absurd ((Catalog.describe_exists_iff names).mp ⟨description, same.symm⟩) missed
  | error error =>
      obtain ⟨earlier, id, later, listed, described, failed⟩ := mapM_eq_error_iff.mp came
      have missed : ¬catalog.Nameable id := by
        intro nameable
        obtain ⟨description, answered⟩ := (Catalog.describe_exists_iff names).mpr nameable
        rw [failed] at answered
        contradiction
      have cause := failed.symm.trans (matched.describe_eq_error missed)
      exact ⟨earlier, id, later, error, listed,
        fun other member => (Catalog.describe_exists_iff names).mp (described other member), missed,
        Except.error.inj cause, failed, rfl⟩

/-- Whatever is selected, each of the descriptions is that of an id. -/
theorem exists_describe_of_mem {options : List (Option Int)} {descriptions : List Description}
    (selected : (describeSelection catalog names options).outcome = .ok descriptions)
    {description : Description} (member : description ∈ descriptions) :
    ∃ id, (catalog.describe names id).outcome = .ok description := by
  rw [describeSelection] at selected
  split at selected
  · obtain ⟨everything, described, listed⟩ := catalog.describeAll_exists names
    rw [Logged.outcome_mapError, mapError_eq_ok_iff, described] at selected
    cases selected
    obtain ⟨id, _, answered⟩ := List.mem_map.mp (listed ▸ List.mem_map_of_mem member)
    exact ⟨id, answered⟩
  · rw [Logged.outcome_forEach, mapM_eq_ok_iff] at selected
    obtain ⟨option, _, answered⟩ := List.mem_map.mp (selected ▸ List.mem_map_of_mem member)
    cases option with
    | none => contradiction
    | some id =>
        rw [describeGiven, Logged.outcome_mapError, mapError_eq_ok_iff] at answered
        exact ⟨id, answered⟩

theorem renderDescriptions_of_ne_nil {descriptions : List Description}
    (nonempty : descriptions ≠ []) (arguments : ResolveArguments) (palette : Option Palette) :
    renderDescriptions arguments palette descriptions =
      if arguments.json then
        [Document.indented (.list (descriptions.map Description.toDocument))]
      else descriptions.map (Report.row palette arguments.verbose) := by
  have present : descriptions.isEmpty = false := by simpa using nonempty
  rw [renderDescriptions, Report.table, present, if_neg Bool.false_ne_true]

end Selection

section Printing

variable {α : Type} {output : Output} {palette : Option Palette} {threshold : Nat}
  {failure : Failure} {row : α → String} {items shown : List α} {outcome : Outcome}

/-- How a run ends that prints a row for each of some items: all rows are printed, or those
in front of the first one that the output refuses, which is told then. -/
inductive Prints (output : Output) (palette : Option Palette) (row : α → String) :
    List α → List α → Outcome → Prop where
  | all {items : List α} (journal : List Entry)
      (taken : ∀ item ∈ items, output.takes (row item) = true) :
      Prints output palette row items items
        (.finished 0 (unlines (items.map row)) (unlines (journal.map Entry.text)))
  | part {shown later : List α} {refused : α} (journal : List Entry)
      (taken : ∀ item ∈ shown, output.takes (row item) = true)
      (missed : output.takes (row refused) = false) :
      Prints output palette row (shown ++ refused :: later) shown
        (.finished 1 (unlines (shown.map row))
          (unlines (journal.map Entry.text) ++
            errorLine palette (output.complaint (row refused))))

/-- A failure that is told stands behind the reports of the run. -/
theorem exists_failed_eq (palette : Option Palette) (threshold : Nat)
    (expected : failure.isUnexpected = false) (written : String) (journal : List Entry) :
    ∃ told : List Entry,
      failed palette threshold written (unlines (journal.map Entry.text)) failure =
        .finished 1 written (unlines (told.map Entry.text) ++
          errorLine palette failure.message) := by
  rw [failed, if_neg (by simp [expected]), visible, ← unlines_append, ← List.map_append]
  exact ⟨_, rfl⟩

theorem printing_of_taken {lines : List String} {reports : String}
    (taken : ∀ line ∈ lines, output.takes line = true) :
    printing output palette threshold reports (endedLines lines) =
      .finished 0 (unlines lines) reports := by
  rw [printing, Output.print_endedLines taken]

theorem exists_prints (journal : List Entry) (row : α → String) (items : List α) :
    ∃ shown, Prints output palette row items shown
      (printing output palette threshold (unlines (journal.map Entry.text))
        (endedLines (items.map row))) := by
  cases found : items.find? fun item => !output.takes (row item) with
  | none =>
      have taken : ∀ item ∈ items, output.takes (row item) = true := by
        simpa using List.find?_eq_none.mp found
      rw [printing_of_taken (by simpa using taken)]
      exact ⟨items, .all journal taken⟩
  | some refused =>
      obtain ⟨missed, shown, later, same, before⟩ := List.find?_eq_some_iff_append.mp found
      have taken : ∀ item ∈ shown, output.takes (row item) = true := by simpa using before
      have missed : output.takes (row refused) = false := by simpa using missed
      subst same
      rw [List.map_append, List.map_cons, printing,
        Output.print_endedLines_refused (by simpa using taken) missed]
      have expected : (Failure.output (output.complaint (row refused))).isUnexpected = false := rfl
      obtain ⟨told, ended⟩ :=
        exists_failed_eq palette threshold expected (unlines (shown.map row)) journal
      dsimp only
      rw [ended]
      exact ⟨shown, .part told taken missed⟩

theorem Prints.exists_finished (prints : Prints output palette row items shown outcome) :
    ∃ status stderr, outcome = .finished status (unlines (shown.map row)) stderr := by
  cases prints with
  | all journal => exact ⟨_, _, rfl⟩
  | part journal => exact ⟨_, _, rfl⟩

theorem Prints.subset (prints : Prints output palette row items shown outcome) :
    shown ⊆ items := by
  cases prints with
  | all => exact List.Subset.refl _
  | part => exact List.subset_append_left _ _

/-- If no row is refused then all rows are printed. -/
theorem Prints.eq_of_taken {status : Nat} {written stderr : String}
    (prints : Prints output palette row items shown (.finished status written stderr))
    (taken : ∀ item ∈ items, output.takes (row item) = true) : shown = items ∧ status = 0 := by
  cases prints with
  | all => exact ⟨rfl, rfl⟩
  | @part _ _ refused _ _ missed =>
      have isTaken := taken refused (List.mem_append_right _ List.mem_cons_self)
      rw [missed] at isTaken
      contradiction

end Printing

/-- The words of a run ask for names, and everything that the answers depend on could be
read and applied. -/
structure Loaded (host : Host) (words : List String) (files : Files) (arguments : Arguments)
    (resolve : ResolveArguments) (settings : Settings) (catalog : Catalog) : Prop where
  understood : Arguments.ofWords host.strikes words = .ok arguments
  command : arguments.command = some (.resolve resolve)
  started : startThreshold? arguments.logLevel ≠ none
  prepared : Prepared arguments host.readers files settings
  read : (Snapshot.ofFile host.readers files resolve.snapshot).outcome = .ok catalog

namespace Loaded

variable {host : Host} {words : List String} {files : Files} {arguments : Arguments}
  {resolve : ResolveArguments} {settings : Settings} {catalog : Catalog}
  {descriptions : List Description} {failure : Failure}

theorem run_eq (loaded : Loaded host words files arguments resolve settings catalog) :
    ∃ threshold, run host words files =
      runWith arguments host files (arguments.palette host.output) threshold arguments.config
        (resolveBody resolve host.readers files (arguments.palette host.output)) := by
  obtain ⟨threshold, started⟩ := Option.ne_none_iff_exists'.mp loaded.started
  have does : arguments.body? host.readers files (arguments.palette host.output) =
      some (resolveBody resolve host.readers files (arguments.palette host.output)) := by
    rw [Arguments.body?, loaded.command]
  refine ⟨threshold, ?_⟩
  rw [run, loaded.understood]
  exact runArguments_reading started does

/-- What such a run comes to depends on the selected descriptions alone. -/
theorem commandOutcome_eq (loaded : Loaded host words files arguments resolve settings catalog)
    (threshold : Nat) (palette : Option Palette) :
    commandOutcome arguments host.readers files threshold
        (resolveBody resolve host.readers files palette) =
      (describeSelection catalog settings.names resolve.ids).outcome.map fun descriptions =>
        endedLines (renderDescriptions resolve palette descriptions) := by
  obtain ⟨read, applied, set⟩ := (prepared_iff threshold).mp loaded.prepared
  simp only [commandOutcome, read, set, ok_bind, resolveBody, Logged.outcome_bind,
    Logged.outcome_mapError, loaded.read, mapError_ok, Logged.outcome_pure]
  cases (describeSelection catalog settings.names resolve.ids).outcome <;> rfl

theorem run_answered (loaded : Loaded host words files arguments resolve settings catalog)
    (answered :
      (describeSelection catalog settings.names resolve.ids).outcome = .ok descriptions) :
    ∃ (threshold : Nat) (journal : List Entry), run host words files =
      printing host.output (arguments.palette host.output) threshold
        (unlines (journal.map Entry.text))
        (endedLines (renderDescriptions resolve (arguments.palette host.output) descriptions)) := by
  obtain ⟨threshold, ran⟩ := loaded.run_eq
  have done := loaded.commandOutcome_eq threshold (arguments.palette host.output)
  rw [answered] at done
  rw [ran]
  exact runWith_of_ok _ done

/-- One document is plain, so it is always printed. -/
theorem run_document (loaded : Loaded host words files arguments resolve settings catalog)
    (answered : (describeSelection catalog settings.names resolve.ids).outcome = .ok descriptions)
    (asDocument : resolve.json = true) :
    ∃ journal : List Entry, run host words files = .finished 0
      (Document.indented (.list (descriptions.map Description.toDocument)) ++ "\n")
      (unlines (journal.map Entry.text)) := by
  obtain ⟨threshold, journal, ran⟩ := loaded.run_answered answered
  rw [renderDescriptions, if_pos asDocument, printing_of_taken
    (List.forall_mem_singleton.mpr (host.output.takes_indented _))] at ran
  refine ⟨journal, ran.trans ?_⟩
  simp [unlines]

theorem run_table (loaded : Loaded host words files arguments resolve settings catalog)
    (answered : (describeSelection catalog settings.names resolve.ids).outcome = .ok descriptions)
    (nonempty : descriptions ≠ []) (tabular : resolve.json = false) :
    ∃ shown, Prints host.output (arguments.palette host.output)
      (Report.row (arguments.palette host.output) resolve.verbose) descriptions shown
      (run host words files) := by
  obtain ⟨threshold, journal, ran⟩ := loaded.run_answered answered
  rw [renderDescriptions_of_ne_nil nonempty, tabular, if_neg Bool.false_ne_true] at ran
  rw [ran]
  exact exists_prints journal _ descriptions

theorem run_refused (loaded : Loaded host words files arguments resolve settings catalog)
    (refused : (describeSelection catalog settings.names resolve.ids).outcome = .error failure)
    (expected : failure.isUnexpected = false) :
    ∃ journal : List Entry, run host words files =
      .finished 1 "" (unlines (journal.map Entry.text) ++
        errorLine (arguments.palette host.output) failure.message) := by
  obtain ⟨threshold, ran⟩ := loaded.run_eq
  have stopped := loaded.commandOutcome_eq threshold (arguments.palette host.output)
  rw [refused] at stopped
  obtain ⟨applied, journal, failed⟩ := runWith_of_error (arguments.palette host.output) stopped
  rw [ran, failed]
  exact exists_failed_eq _ _ expected "" journal

end Loaded

section Runs

variable {host : Host} {words : List String} {files : Files} {arguments : Arguments}
  {resolve : ResolveArguments} {settings : Settings} {catalog : Catalog} {ids : List Int}

/-- A run that asks for ids answers all of them in their order, or it writes nothing and
tells the error of the first id that is unknown or that of a client.  The answers are
written at once as a document, and row by row as a table, which ends where the output
refuses a row. -/
theorem run_answers_all_or_none
    (loaded : Loaded host words files arguments resolve settings catalog)
    (given : resolve.ids = ids.map some) (present : ids ≠ []) :
    let palette := arguments.palette host.output
    ((∀ id ∈ ids, catalog.Nameable id) → ∃ descriptions : List Description,
      (ids.map fun id => (catalog.describe settings.names id).outcome) = descriptions.map .ok ∧
      descriptions.map Description.id = ids ∧
      (resolve.json = true → ∃ journal : List Entry, run host words files = .finished 0
        (Document.indented (.list (descriptions.map Description.toDocument)) ++ "\n")
        (unlines (journal.map Entry.text))) ∧
      (resolve.json = false → ∃ shown, Prints host.output palette
        (Report.row palette resolve.verbose) descriptions shown (run host words files))) ∧
    ((∃ id ∈ ids, ¬catalog.Nameable id) →
      ∃ (earlier : List Int) (id : Int) (later : List Int) (error : DescriptionError)
        (journal : List Entry), ids = earlier ++ id :: later ∧
      (∀ other ∈ earlier, catalog.Nameable other) ∧ ¬catalog.Nameable id ∧
      error = (if catalog.contains id then .notNameable id else .notFound id) ∧
      (catalog.describe settings.names id).outcome = .error error ∧
      run host words files = .finished 1 "" (unlines (journal.map Entry.text) ++
        errorLine palette error.message)) := by
  have matched := Snapshot.keysMatch_ofFile loaded.read
  intro palette
  constructor
  · intro nameable
    obtain ⟨descriptions, answered⟩ := describeSelection_exists settings.names present nameable
    have listed := (describeSelection_eq_ok_iff present).mp answered
    have nonempty : descriptions ≠ [] := by
      intro empty
      subst empty
      exact present (by simpa using listed)
    rw [← given] at answered
    exact ⟨descriptions, listed, matched.ids_of_describe listed, loaded.run_document answered,
      loaded.run_table answered nonempty⟩
  · intro unnameable
    obtain ⟨earlier, id, later, error, listed, before, missed, cause, failed, stopped⟩ :=
      describeSelection_stops settings.names present matched unnameable
    rw [← given] at stopped
    obtain ⟨journal, ran⟩ := loaded.run_refused stopped rfl
    exact ⟨earlier, id, later, error, journal, listed, before, missed, cause, failed, ran⟩

def cardAndClientText : String :=
  "\x7b\"devices\": [\x7b\"id\": 5, \"name\": \"card\"\x7d], \"clients\": [\x7b\"id\": 7\x7d]\x7d"

def cardAndClientDocument : Document :=
  .mapping [("devices", .list [.mapping [("id", .integer 5), ("name", .text "card")]]),
    ("clients", .list [.mapping [("id", .integer 7)]])]

def cardAndClient : Catalog :=
  IdMap.ofList [(5, .device ⟨5, some "card", none, none⟩), (7, .client ⟨7, none, none⟩)]

def askFor (ids : List Int) : ResolveArguments :=
  ⟨"s.json", none, ids.map some, false, false⟩

/-- A run with a snapshot in JSON and without a configuration. -/
theorem loaded_askFor {text : String} {document : Document}
    (understood : Arguments.ofWords host.strikes words =
      .ok ⟨none, false, some (.resolve (askFor ids))⟩)
    (opened : Files.content [("s.json", .text text)] (Path.normalized "s.json") = .ok text)
    (read : host.readers.read .snapshot (Snapshot.formatOf (Path.normalized "s.json")) text =
      .ok document)
    (accepted : (Snapshot.ofDocument document.orEmptyMapping).outcome = .ok catalog) :
    Loaded host words [("s.json", .text text)] ⟨none, false, some (.resolve (askFor ids))⟩
      (askFor ids) Settings.default catalog where
  understood := understood
  command := rfl
  started := (by decide +kernel : startThreshold? none ≠ none)
  prepared := ⟨rfl, nofun⟩
  read := by
    rw [askFor, Snapshot.outcome_ofFile opened read, accepted, mapError_ok]

theorem loaded_cardAndClient (understood : Arguments.ofWords true words =
    .ok ⟨none, false, some (.resolve (askFor ids))⟩) :
    Loaded (.usual false) words [("s.json", .text cardAndClientText)]
      ⟨none, false, some (.resolve (askFor ids))⟩ (askFor ids) Settings.default cardAndClient := by
  have opened : Files.content [("s.json", .text cardAndClientText)] (Path.normalized "s.json") =
      .ok cardAndClientText := by decide +kernel
  have read : (Host.usual false).readers.read .snapshot
      (Snapshot.formatOf (Path.normalized "s.json")) cardAndClientText =
        .ok cardAndClientDocument := by decide +kernel
  exact loaded_askFor understood opened read rfl

/-- The card is answered as often as it is asked for, and the client is refused before
the unknown id behind it is noticed. -/
theorem run_answers_all_or_none_cardAndClient :
    let host := Host.usual false
    (cardAndClient.Nameable 5 ∧ ¬cardAndClient.Nameable 7) ∧
    (∃ descriptions shown : List Description, descriptions.map Description.id = [5, 5] ∧
      Prints host.output none (Report.row none false) descriptions shown
        (run host ["resolve", "s.json", "--id", "5", "--id=5"]
          [("s.json", .text cardAndClientText)])) ∧
    ∃ (earlier : List Int) (id : Int) (later : List Int) (error : DescriptionError)
      (journal : List Entry), [5, 7, 9] = earlier ++ id :: later ∧
      ¬cardAndClient.Nameable id ∧
      run host ["resolve", "s.json", "--id", "5", "--id", "7", "--id", "9"]
          [("s.json", .text cardAndClientText)] =
        .finished 1 "" (unlines (journal.map Entry.text) ++ errorLine none error.message) := by
  have nameable : cardAndClient.Nameable 5 := ⟨_, rfl, by decide⟩
  have unnameable : ¬cardAndClient.Nameable 7 := by
    intro nameable
    obtain ⟨record, found, notClient⟩ := nameable
    cases found
    exact notClient rfl
  have both : Arguments.ofWords true ["resolve", "s.json", "--id", "5", "--id=5"] =
      .ok ⟨none, false, some (.resolve (askFor [5, 5]))⟩ := by decide +kernel
  have mixed : Arguments.ofWords true ["resolve", "s.json", "--id", "5", "--id", "7", "--id", "9"] =
      .ok ⟨none, false, some (.resolve (askFor [5, 7, 9]))⟩ := by decide +kernel
  obtain ⟨answers, _⟩ := run_answers_all_or_none (loaded_cardAndClient both) rfl (by simp)
  obtain ⟨_, refuses⟩ := run_answers_all_or_none (loaded_cardAndClient mixed) rfl (by simp)
  obtain ⟨descriptions, _, carried, _, table⟩ := answers (by simpa using nameable)
  obtain ⟨shown, printed⟩ := table rfl
  obtain ⟨earlier, id, later, error, reports, listed, _, missed, _, _, refused⟩ :=
    refuses ⟨7, by simp, unnameable⟩
  exact ⟨⟨nameable, unnameable⟩, ⟨descriptions, shown, carried, printed⟩,
    earlier, id, later, error, reports, listed, missed, refused⟩

def highHalf : String := String.singleton (Text.charOfCode 0xd800)

/-- The second of two devices has half of a surrogate pair for a name. -/
def halfNamedText : String :=
  "\x7b\"devices\": [\x7b\"id\": 1, \"name\": \"ok\"\x7d, " ++
    "\x7b\"id\": 2, \"name\": \"\\ud800\"\x7d]\x7d"

def halfNamedDocument : Document :=
  .mapping [("devices", .list [.mapping [("id", .integer 1), ("name", .text "ok")],
    .mapping [("id", .integer 2), ("name", .text highHalf)]])]

def halfNamed : Catalog :=
  IdMap.ofList [(1, .device ⟨1, some "ok", none, none⟩),
    (2, .device ⟨2, some highHalf, none, none⟩)]

/-- Both devices can be described, but the run ends when the first of them has been printed.
A struck out id even breaks through. -/
theorem run_answers_in_part :
    let host := Host.usual false
    Loaded host ["resolve", "s.json", "--id=1", "--id=2"] [("s.json", .text halfNamedText)]
      ⟨none, false, some (.resolve (askFor [1, 2]))⟩ (askFor [1, 2]) Settings.default halfNamed ∧
    (halfNamed.Nameable 1 ∧ halfNamed.Nameable 2) ∧
    run host ["resolve", "s.json", "--id=1", "--id=2"] [("s.json", .text halfNamedText)] =
      .finished 1 "     1  device  device    ok\n"
        ("Error: 'utf-8' codec can't encode character '\\ud800' in position 26: " ++
          "surrogates not allowed\n") ∧
    run host ["resolve", "s.json", "--id=--"] [("s.json", .text halfNamedText)] =
      .escaped .noId "" "" := by
  have understood : Arguments.ofWords true ["resolve", "s.json", "--id=1", "--id=2"] =
      .ok ⟨none, false, some (.resolve (askFor [1, 2]))⟩ := by decide +kernel
  have opened : Files.content [("s.json", .text halfNamedText)] (Path.normalized "s.json") =
      .ok halfNamedText := by decide +kernel
  have read : (Host.usual false).readers.read .snapshot
      (Snapshot.formatOf (Path.normalized "s.json")) halfNamedText =
        .ok halfNamedDocument := by decide +kernel
  refine ⟨loaded_askFor understood opened read rfl, ⟨⟨_, rfl, by decide⟩, ⟨_, rfl, by decide⟩⟩,
    ?_, ?_⟩
  · decide +kernel
  · decide +kernel

end Runs

end CommandLine

end Nameplate
