import Mathlib.Algebra.GroupWithZero.Nat
import Mathlib.Data.List.Forall2
import Nameplate.Proofs.CommandLine.Selection
import Nameplate.Proofs.Description.Contents

/-!
Lines of the table of names.

A table is printed without any escaping.  The columns in front of a name hold no line
feed, so every row begins on a line of its own; it goes on for one more line for each
line feed of the texts that it shows.  There is a line for each row exactly if none of
these texts has a line feed, and a text without one cannot add, remove or imitate a row.

Lines end with line feeds here.  Readers that break lines at other characters as well see
the same lines if neither the properties nor the templates have such a character, as the
columns are plain.
-/

namespace Nameplate

namespace Text

/-- The lines of a text, each of which is ended by a line feed. -/
def lines (text : String) : List (List Char) :=
  (pieces '\n' text.toList).dropLast

/-- A printed text takes as many lines as it has pieces. -/
theorem lines_unlines (rows : List String) :
    lines (unlines rows) = rows.flatMap fun row => pieces '\n' row.toList := by
  induction rows with
  | nil => rfl
  | cons row rest inductionHypothesis =>
      have printed : (unlines (row :: rest)).toList =
          row.toList ++ '\n' :: (unlines rest).toList := by
        simp [unlines]
      rw [lines, printed, pieces_append_separator,
        List.dropLast_append_of_ne_nil (pieces_ne_nil '\n' _), List.flatMap_cons,
        ← inductionHypothesis, lines]

end Text

namespace Report

variable {verbose : Bool} {description : Description} {descriptions : List Description}

/-- What stands behind the columns of a row: the name, and in a verbose row the template
that made it. -/
def rowTail (verbose : Bool) (description : Description) : String :=
  description.resolution.name.getD unnamed ++
    match description.resolution.template with
    | some made => if verbose then "  <- " ++ made.text else ""
    | none => ""

theorem row_plain (verbose : Bool) (description : Description) :
    row none verbose description = rowHead description ++ rowTail verbose description := by
  rw [row, rowTail, ← String.append_assoc]
  cases description.resolution.template <;> rfl

theorem allPlain_rowHead (description : Description) :
    Text.AllPlain (rowHead description).toList := by
  have kind : Text.AllPlain description.kind.text.toList := by
    cases description.kind <;> decide
  have category : Text.AllPlain description.resolution.category.text.toList := by
    cases description.resolution.category <;> decide
  have blanks : Text.AllPlain "  ".toList := by decide
  simp only [rowHead, String.toList_append, Text.allPlain_append]
  exact ⟨⟨⟨⟨⟨Text.allPlain_padLeft (Text.allPlain_int description.id), blanks⟩,
    Text.allPlain_padRight kind⟩, blanks⟩, Text.allPlain_padRight category⟩, blanks⟩

/-- Only names and templates bring characters into a row that are not plain. -/
theorem notMem_rowTail {character : Char} (special : ¬Text.IsPlain character)
    (lacks : description.resolution.Lacks character) (verbose : Bool) :
    character ∉ (rowTail verbose description).toList := by
  have fixed {words : String} (plain : Text.AllPlain words.toList) : character ∉ words.toList :=
    plain.notMem special
  have nothing : character ∉ "".toList := fixed (by decide)
  have name : character ∉ (description.resolution.name.getD unnamed).toList := by
    cases named : description.resolution.name with
    | none => exact fixed (by decide)
    | some name => exact lacks.name name named
  rw [rowTail, String.toList_append, List.mem_append, not_or]
  refine ⟨name, ?_⟩
  cases made : description.resolution.template with
  | none => exact nothing
  | some template =>
      cases verbose with
      | false => exact nothing
      | true =>
          simp only [if_true, String.toList_append, List.mem_append, not_or]
          exact ⟨fixed (by decide), lacks.template template made⟩

theorem notMem_row {character : Char} (special : ¬Text.IsPlain character)
    (lacks : description.resolution.Lacks character) (verbose : Bool) :
    character ∉ (row none verbose description).toList := by
  rw [row_plain, String.toList_append, List.mem_append, not_or]
  exact ⟨(allPlain_rowHead description).notMem special, notMem_rowTail special lacks verbose⟩

theorem takes_row {output : Output} (lacks : ∀ character, output.encodes character = false →
    description.resolution.Lacks character) (verbose : Bool) :
    output.takes (row none verbose description) = true := by
  refine Output.takes_of_forall fun character member => ?_
  cases encoded : output.encodes character with
  | true => rfl
  | false =>
      have special : ¬Text.IsPlain character := fun plain =>
        absurd ((Output.encodes_of_isPlain plain).symm.trans encoded) (by decide)
      exact absurd member (notMem_row special (lacks character encoded) verbose)

/-- A cell that holds a text at its right end, with blanks in front up to a width. -/
def AlignedRight (width : Nat) (text : String) (cell : List Char) : Prop :=
  ∃ blanks, cell = List.replicate blanks ' ' ++ text.toList ∧
    cell.length = max width text.length

/-- A cell that holds a text at its left end, with blanks behind it up to a width. -/
def AlignedLeft (width : Nat) (text : String) (cell : List Char) : Prop :=
  ∃ blanks, cell = text.toList ++ List.replicate blanks ' ' ∧
    cell.length = max width text.length

theorem alignedRight_padLeft (width : Nat) (text : String) :
    AlignedRight width text (padLeft width text).toList := by
  refine ⟨width - text.length, by rw [padLeft, String.toList_append, String.toList_ofList], ?_⟩
  rw [padLeft, String.toList_append, String.toList_ofList, List.length_append,
    List.length_replicate, String.length_toList]
  omega

theorem alignedLeft_padRight (width : Nat) (text : String) :
    AlignedLeft width text (padRight width text).toList := by
  refine ⟨width - text.length, by rw [padRight, String.toList_append, String.toList_ofList], ?_⟩
  rw [padRight, String.toList_append, String.toList_ofList, List.length_append,
    List.length_replicate, String.length_toList]
  omega

/-- A line begins with the columns of a row: the id at the right end of six columns, then
the kind and the category. -/
def Starts (description : Description) (line : List Char) : Prop :=
  ∃ id kind category rest,
    AlignedRight 6 (toString description.id) id ∧ AlignedLeft 6 description.kind.text kind ∧
    AlignedLeft 8 description.resolution.category.text category ∧
    line = id ++ [' ', ' '] ++ kind ++ [' ', ' '] ++ category ++ [' ', ' '] ++ rest

theorem starts_rowHead_append (description : Description) (rest : List Char) :
    Starts description ((rowHead description).toList ++ rest) := by
  refine ⟨_, _, _, rest, alignedRight_padLeft 6 _, alignedLeft_padRight 6 _,
    alignedLeft_padRight 8 _, ?_⟩
  rw [rowHead]
  simp only [String.toList_append]
  rfl

def rowLines (verbose : Bool) (description : Description) : List (List Char) :=
  Text.pieces '\n' (row none verbose description).toList

/-- A row begins on its first line.  Each line break behind the columns begins another
line. -/
theorem exists_rowLines_eq (verbose : Bool) (description : Description) :
    ∃ first more, rowLines verbose description = first :: more ∧ Starts description first ∧
      more.length = (rowTail verbose description).toList.count '\n' := by
  obtain ⟨piece, more, divided⟩ := List.exists_cons_of_ne_nil
    (Text.pieces_ne_nil '\n' (rowTail verbose description).toList)
  refine ⟨(rowHead description).toList ++ piece, more, ?_, starts_rowHead_append _ piece, ?_⟩
  · rw [rowLines, row_plain, String.toList_append]
    exact Text.pieces_append_of_notMem ((allPlain_rowHead description).notMem (by decide)) divided
  · have counted := Text.length_pieces '\n' (rowTail verbose description).toList
    rw [divided, List.length_cons] at counted
    exact Nat.succ.inj counted

theorem length_flatMap_rowLines (verbose : Bool) (descriptions : List Description) :
    (descriptions.flatMap (rowLines verbose)).length =
      descriptions.length + (descriptions.map fun description =>
        (rowTail verbose description).toList.count '\n').sum := by
  induction descriptions with
  | nil => rfl
  | cons description rest inductionHypothesis =>
      obtain ⟨first, more, divided, _, counted⟩ := exists_rowLines_eq verbose description
      rw [List.flatMap_cons, List.length_append, inductionHypothesis, divided, List.length_cons,
        counted, List.map_cons, List.sum_cons, List.length_cons]
      omega

/-- There is a line for each row if and only if no row goes on behind its first line. -/
theorem forall₂_starts_iff :
    List.Forall₂ Starts descriptions (descriptions.flatMap (rowLines verbose)) ↔
      ∀ description ∈ descriptions, '\n' ∉ (rowTail verbose description).toList := by
  constructor
  · intro starts
    have noMore := starts.length_eq
    rw [length_flatMap_rowLines, Nat.left_eq_add, List.sum_eq_zero_iff_forall_eq_nat] at noMore
    intro description member
    exact List.count_eq_zero.mp (noMore _ (List.mem_map_of_mem member))
  · intro unbroken
    induction descriptions with
    | nil => exact .nil
    | cons description rest inductionHypothesis =>
        rw [List.forall_mem_cons] at unbroken
        obtain ⟨first, more, divided, starts, counted⟩ := exists_rowLines_eq verbose description
        rw [List.count_eq_zero.mpr unbroken.1, List.length_eq_zero_iff] at counted
        rw [List.flatMap_cons, divided, counted]
        exact .cons starts (inductionHypothesis unbroken.2)

end Report

theorem Names.lacks_default {character : Char} (special : ¬Text.IsPlain character) :
    Names.default.Lacks character := by
  have plain : ∀ template ∈ Names.default.allTemplates,
      Text.AllPlain template.text.toList := by decide
  exact fun template member => (plain template member).notMem special

namespace CommandLine

variable {host : Host} {words : List String} {files : Files} {arguments : Arguments}
  {resolve : ResolveArguments} {settings : Settings} {catalog : Catalog}
  {descriptions : List Description}

/-- The table holds the rows in the order of the descriptions, and nothing else.  It ends
where the output refuses a row, which it does not if it can encode all properties and
templates.  A row takes a line, which begins with its columns, and another one for each line
feed that its texts have.  So the lines are the rows exactly if these texts have no line
feed, which is so if no property and no template has one.  Only properties and templates
bring other characters than plain ones into a row, be they line breaks of another kind. -/
theorem run_table_rows (loaded : Loaded host words files arguments resolve settings catalog)
    (answered : (describeSelection catalog settings.names resolve.ids).outcome = .ok descriptions)
    (nonempty : descriptions ≠ []) (tabular : resolve.json = false)
    (plain : arguments.palette host.output = none) :
    ∃ (shown : List Description) (status : Nat) (written stderr : String),
      run host words files = .finished status written stderr ∧
      Prints host.output none (Report.row none resolve.verbose) descriptions shown
        (.finished status written stderr) ∧
      Text.lines written = shown.flatMap (Report.rowLines resolve.verbose) ∧
      (∀ description ∈ shown, ∃ first more,
        Report.rowLines resolve.verbose description = first :: more ∧
        Report.Starts description first ∧
        more.length = (Report.rowTail resolve.verbose description).toList.count '\n') ∧
      (List.Forall₂ Report.Starts shown (Text.lines written) ↔
        ∀ description ∈ shown,
          '\n' ∉ (Report.rowTail resolve.verbose description).toList) ∧
      (catalog.Lacks '\n' → settings.names.Lacks '\n' →
        List.Forall₂ Report.Starts shown (Text.lines written)) ∧
      ((∀ character, host.output.encodes character = false →
          catalog.Lacks character ∧ settings.names.Lacks character) →
        shown = descriptions ∧ status = 0) ∧
      (∀ character, ¬Text.IsPlain character → catalog.Lacks character →
        settings.names.Lacks character → ∀ description ∈ descriptions,
          character ∉ (Report.row none resolve.verbose description).toList) := by
  obtain ⟨shown, prints⟩ := loaded.run_table answered nonempty tabular
  rw [plain] at prints
  obtain ⟨status, stderr, ran⟩ := prints.exists_finished
  rw [ran] at prints
  have divided : Text.lines (unlines (shown.map (Report.row none resolve.verbose))) =
      shown.flatMap (Report.rowLines resolve.verbose) := by
    rw [Text.lines_unlines, List.flatMap_map]
    rfl
  have lacking {character : Char} (lacks : catalog.Lacks character)
      (unwritten : settings.names.Lacks character) (description : Description)
      (member : description ∈ descriptions) : description.resolution.Lacks character := by
    obtain ⟨id, described⟩ := exists_describe_of_mem answered member
    exact Catalog.lacks_describe lacks unwritten described
  refine ⟨shown, status, _, stderr, ran, prints, divided, ?_, ?_, ?_, ?_, ?_⟩
  · exact fun description _ => Report.exists_rowLines_eq resolve.verbose description
  · rw [divided]
    exact Report.forall₂_starts_iff
  · intro lacks unwritten
    rw [divided, Report.forall₂_starts_iff]
    intro description member
    exact Report.notMem_rowTail (by decide)
      (lacking lacks unwritten description (prints.subset member)) resolve.verbose
  · intro encodable
    refine prints.eq_of_taken fun description member => Report.takes_row ?_ resolve.verbose
    intro character unencoded
    obtain ⟨lacks, unwritten⟩ := encodable character unencoded
    exact lacking lacks unwritten description member
  · intro character special lacks unwritten description member
    exact Report.notMem_row special (lacking lacks unwritten description member) resolve.verbose

theorem lacks_cardAndClient {character : Char} (special : ¬Text.IsPlain character) :
    cardAndClient.Lacks character := by
  have plain : Text.AllPlain "card".toList := by decide
  intro id record found tag text shown
  have held : (id, record) ∈ [((5 : Int), Record.device ⟨5, some "card", none, none⟩),
      (7, .client ⟨7, none, none⟩)] := IdMap.get?_eq_some_iff.mp found
  simp only [List.mem_cons, Prod.mk.injEq, List.not_mem_nil, or_false] at held
  obtain ⟨_, isCard⟩ | ⟨_, isClient⟩ := held
  · subst isCard
    cases tag with
    | device property =>
        cases property with
        | name =>
            cases shown
            exact plain.notMem special
        | nick => contradiction
        | description => contradiction
    | node property => contradiction
    | client property => contradiction
  · subst isClient
    cases tag with
    | device property => contradiction
    | node property => contradiction
    | client property => cases property <;> contradiction

/-- The card alone is described, and a line for it is the whole table. -/
theorem run_table_rows_cardAndClient :
    let host := Host.usual false
    ∃ (description : Description) (written stderr : String),
      description.id = 5 ∧ (cardAndClient.Lacks '\n' ∧ Names.default.Lacks '\n') ∧
      run host ["resolve", "s.json", "--id", "5"] [("s.json", .text cardAndClientText)] =
        .finished 0 written stderr ∧
      List.Forall₂ Report.Starts [description] (Text.lines written) := by
  intro host
  have understood : Arguments.ofWords true ["resolve", "s.json", "--id", "5"] =
      .ok ⟨none, false, some (.resolve (askFor [5]))⟩ := by decide +kernel
  have answered :
      (describeSelection cardAndClient Settings.default.names (askFor [5]).ids).outcome =
        .ok [⟨5, .device, ⟨some "card", .device, .fallback, none, none⟩⟩] := rfl
  have special {character : Char} (unencoded : host.output.encodes character = false) :
      ¬Text.IsPlain character := by
    intro plain
    rw [Output.encodes_of_isPlain plain] at unencoded
    contradiction
  have broken : ¬Text.IsPlain '\n' := by decide
  obtain ⟨shown, status, written, stderr, ran, _, _, _, _, lines, complete, _⟩ :=
    run_table_rows (loaded_cardAndClient understood) answered (by simp) rfl rfl
  obtain ⟨isAll, isDone⟩ := complete fun character unencoded =>
    ⟨lacks_cardAndClient (special unencoded), Names.lacks_default (special unencoded)⟩
  rw [isAll] at lines
  rw [isDone] at ran
  have lacks := lacks_cardAndClient broken
  have unwritten := Names.lacks_default broken
  exact ⟨_, written, stderr, rfl, ⟨lacks, unwritten⟩, ran, lines lacks unwritten⟩

def imitationText : String :=
  "\x7b\"devices\": [\x7b\"id\": 1, \"name\": \"a\\n     2  device  device    b\"\x7d]\x7d"

def imitationDocument : Document :=
  .mapping [("devices", .list [.mapping [("id", .integer 1),
    ("name", .text "a\n     2  device  device    b")]])]

def imitation : Catalog :=
  IdMap.ofList [(1, .device ⟨1, some "a\n     2  device  device    b", none, none⟩)]

def imitatedTable : String :=
  unlines ["     1  device  device    a", "     2  device  device    b"]

/-- The name of the only device is printed as it stands, so it ends with a line that looks
like the row of a device that does not exist. -/
theorem run_table_imitated :
    let host := Host.usual false
    ∃ description : Description,
      Loaded host ["resolve", "s.json", "--id", "1"] [("s.json", .text imitationText)]
        ⟨none, false, some (.resolve (askFor [1]))⟩ (askFor [1]) Settings.default imitation ∧
      (describeSelection imitation Settings.default.names [some 1]).outcome = .ok [description] ∧
      imitation.get? 2 = none ∧
      run host ["resolve", "s.json", "--id", "1"] [("s.json", .text imitationText)] =
        .finished 0 imitatedTable "" ∧
      ¬List.Forall₂ Report.Starts [description] (Text.lines imitatedTable) := by
  intro host
  have understood : Arguments.ofWords true ["resolve", "s.json", "--id", "1"] =
      .ok ⟨none, false, some (.resolve (askFor [1]))⟩ := by decide +kernel
  have opened : Files.content [("s.json", .text imitationText)] (Path.normalized "s.json") =
      .ok imitationText := by decide +kernel
  have read : host.readers.read .snapshot (Snapshot.formatOf (Path.normalized "s.json"))
      imitationText = .ok imitationDocument := by decide +kernel
  have answered : (describeSelection imitation Settings.default.names (askFor [1]).ids).outcome =
      .ok [⟨1, .device, ⟨some "a\n     2  device  device    b", .device, .fallback, none, none⟩⟩] :=
    rfl
  have two : (Text.lines imitatedTable).length = 2 := by decide +kernel
  refine ⟨_, loaded_askFor understood opened read rfl, answered, rfl, by decide +kernel, ?_⟩
  intro starts
  have single : 1 = 2 := starts.length_eq.trans two
  exact absurd single (by decide)

end CommandLine

end Nameplate
