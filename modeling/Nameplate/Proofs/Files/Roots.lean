import Mathlib.Control.Monad.Basic
import Nameplate.Files.Loading
import Nameplate.Files.Plain

/-!
Files and the values that they hold.

A file means what its value means, with one exception.  A root that counts as nothing
is read as an empty mapping: in every snapshot file, and in a configuration file in
YAML.  So a false, zero or empty root that is no mapping passes there, while as a value
it is refused for not being a mapping.
-/

namespace Nameplate

namespace Document

variable {document : Document}

/-- Whether a value counts as nothing and is no mapping: null, false, a zero, an empty
text or an empty list. -/
structure IsHollow (document : Document) : Prop where
  nothing : document.isNothing = true
  notMapping (members : List (String × Document)) : document ≠ .mapping members

theorem IsHollow.orEmptyMapping_eq (hollow : document.IsHollow) :
    document.orEmptyMapping = .mapping [] := by
  rw [orEmptyMapping, if_pos hollow.nothing]

/-- The only mapping that counts as nothing is the empty one, so a value that is not
hollow stays what it is. -/
theorem orEmptyMapping_of_not_isHollow (solid : ¬document.IsHollow) :
    document.orEmptyMapping = document := by
  by_cases nothing : document.isNothing = true
  · cases document with
    | mapping members =>
        have empty : members = [] := by simpa [isNothing] using nothing
        rw [empty]
        rfl
    | _ => exact absurd ⟨nothing, nofun⟩ solid
  · rw [orEmptyMapping, if_neg nothing]

end Document

namespace Snapshot

variable {readers : Readers} {files : Files} {path content : String} {value : Document}

theorem ofDocument_empty : (ofDocument (.mapping [])).outcome = .ok IdMap.empty := rfl

theorem ofDocument_of_isHollow (hollow : value.IsHollow) :
    (ofDocument value).outcome = .error .notMapping := by
  cases value with
  | mapping members => exact absurd rfl (hollow.notMapping members)
  | _ => rfl

theorem outcome_ofFile (opened : files.content (Path.normalized path) = .ok content)
    (read : readers.read .snapshot (formatOf (Path.normalized path)) content = .ok value) :
    (ofFile readers files path).outcome =
      (ofDocument value.orEmptyMapping).outcome.mapError .snapshot := by
  simp only [ofFile, Logged.outcome_bind, Logged.outcome_ofExcept, Logged.outcome_note,
    Logged.outcome_mapError, opened, read, mapError_ok, ok_bind]

theorem outcome_ofFile_of_isHollow (opened : files.content (Path.normalized path) = .ok content)
    (read : readers.read .snapshot (formatOf (Path.normalized path)) content = .ok value)
    (hollow : value.IsHollow) :
    (ofFile readers files path).outcome = .ok IdMap.empty := by
  rw [outcome_ofFile opened read, hollow.orEmptyMapping_eq, ofDocument_empty, mapError_ok]

theorem outcome_ofFile_eq_iff (opened : files.content (Path.normalized path) = .ok content)
    (read : readers.read .snapshot (formatOf (Path.normalized path)) content = .ok value) :
    (ofFile readers files path).outcome = (ofDocument value).outcome.mapError .snapshot ↔
      ¬value.IsHollow := by
  constructor
  · intro same hollow
    rw [outcome_ofFile_of_isHollow opened read hollow, ofDocument_of_isHollow hollow] at same
    contradiction
  · intro solid
    rw [outcome_ofFile opened read, Document.orEmptyMapping_of_not_isHollow solid]

end Snapshot

namespace Settings

variable {readers : Readers} {files : Files} {path content : String} {value : Document}

theorem ofDocument_empty : (ofDocument (.mapping [])).outcome = .ok default := rfl

theorem ofDocument_of_isHollow (hollow : value.IsHollow) :
    (ofDocument value).outcome = .error (.notMapping value.typeName) := by
  cases value with
  | mapping members => exact absurd rfl (hollow.notMapping members)
  | _ => rfl

theorem outcome_ofFile (opened : files.content path = .ok content)
    (read : readers.read .settings (formatOf path) content = .ok value) :
    (ofFile readers files path).outcome =
      (ofDocument (if formatOf path = .yaml then value.orEmptyMapping else value)).outcome.mapError
        .settings := by
  simp only [ofFile, Logged.outcome_bind, Logged.outcome_ofExcept, Logged.outcome_mapError, opened,
    read, mapError_ok, ok_bind]

theorem outcome_ofFile_of_isHollow (opened : files.content path = .ok content)
    (read : readers.read .settings (formatOf path) content = .ok value)
    (inYaml : formatOf path = .yaml) (hollow : value.IsHollow) :
    (ofFile readers files path).outcome = .ok default := by
  rw [outcome_ofFile opened read, if_pos inYaml, hollow.orEmptyMapping_eq, ofDocument_empty,
    mapError_ok]

theorem outcome_ofFile_eq_iff (opened : files.content path = .ok content)
    (read : readers.read .settings (formatOf path) content = .ok value) :
    (ofFile readers files path).outcome = (ofDocument value).outcome.mapError .settings ↔
      (formatOf path = .yaml → ¬value.IsHollow) := by
  constructor
  · intro same inYaml hollow
    rw [outcome_ofFile_of_isHollow opened read inYaml hollow,
      ofDocument_of_isHollow hollow] at same
    contradiction
  · intro solid
    rw [outcome_ofFile opened read]
    split
    · rename_i inYaml
      rw [Document.orEmptyMapping_of_not_isHollow (solid inYaml)]
    · rfl

end Settings

/-- A file means what its value means unless its root is hollow.  A snapshot file with a
hollow root is an empty snapshot and a configuration file in YAML with one is the default
configuration, whereas the root itself is refused. -/
theorem ofFile_eq_ofDocument_iff (readers : Readers) (files : Files) (path content : String)
    (value : Document) :
    (files.content (Path.normalized path) = .ok content →
      readers.read .snapshot (Snapshot.formatOf (Path.normalized path)) content = .ok value →
      ((Snapshot.ofFile readers files path).outcome =
          (Snapshot.ofDocument value).outcome.mapError .snapshot ↔ ¬value.IsHollow) ∧
        (value.IsHollow → (Snapshot.ofFile readers files path).outcome = .ok IdMap.empty ∧
          (Snapshot.ofDocument value).outcome = .error .notMapping)) ∧
    (files.content path = .ok content →
      readers.read .settings (Settings.formatOf path) content = .ok value →
      ((Settings.ofFile readers files path).outcome =
          (Settings.ofDocument value).outcome.mapError .settings ↔
        (Settings.formatOf path = .yaml → ¬value.IsHollow)) ∧
        (value.IsHollow → Settings.formatOf path = .yaml →
          (Settings.ofFile readers files path).outcome = .ok Settings.default ∧
          (Settings.ofDocument value).outcome = .error (.notMapping value.typeName))) := by
  constructor
  · intro opened read
    refine ⟨Snapshot.outcome_ofFile_eq_iff opened read, fun hollow => ?_⟩
    exact ⟨Snapshot.outcome_ofFile_of_isHollow opened read hollow,
      Snapshot.ofDocument_of_isHollow hollow⟩
  · intro opened read
    refine ⟨Settings.outcome_ofFile_eq_iff opened read, fun hollow inYaml => ?_⟩
    exact ⟨Settings.outcome_ofFile_of_isHollow opened read inYaml hollow,
      Settings.ofDocument_of_isHollow hollow⟩

/-- A snapshot of one device. -/
def oneDevice : Document :=
  .mapping [("devices", .list [.mapping [("id", .integer 1)]])]

/-- The text of one device, in a file of either format. -/
def oneDeviceFiles : Files :=
  [("s.yml", .text "\x7b\"devices\": [\x7b\"id\": 1\x7d]\x7d"),
    ("c.json", .text "\x7b\"devices\": [\x7b\"id\": 1\x7d]\x7d")]

theorem ofFile_eq_ofDocument_iff_oneDevice :
    let readers := Readers.plain none none
    ∃ content,
      (oneDeviceFiles.content (Path.normalized "s.yml") = .ok content ∧
        readers.read .snapshot (Snapshot.formatOf (Path.normalized "s.yml")) content =
          .ok oneDevice ∧
        (Snapshot.ofFile readers oneDeviceFiles "s.yml").outcome =
          (Snapshot.ofDocument oneDevice).outcome.mapError .snapshot) ∧
      (oneDeviceFiles.content "c.json" = .ok content ∧
        readers.read .settings (Settings.formatOf "c.json") content = .ok oneDevice ∧
        (Settings.ofFile readers oneDeviceFiles "c.json").outcome =
          (Settings.ofDocument oneDevice).outcome.mapError .settings) := by
  intro readers
  let content := "\x7b\"devices\": [\x7b\"id\": 1\x7d]\x7d"
  have opened : oneDeviceFiles.content (Path.normalized "s.yml") = .ok content := by decide +kernel
  have read : readers.read .snapshot (Snapshot.formatOf (Path.normalized "s.yml")) content =
      .ok oneDevice := by decide +kernel
  have otherOpened : oneDeviceFiles.content "c.json" = .ok content := by decide +kernel
  have otherRead : readers.read .settings (Settings.formatOf "c.json") content =
      .ok oneDevice := by decide +kernel
  have solid : ¬oneDevice.IsHollow := fun hollow => hollow.notMapping _ rfl
  obtain ⟨snapshots, _⟩ := ofFile_eq_ofDocument_iff readers oneDeviceFiles "s.yml" content oneDevice
  obtain ⟨_, settings⟩ := ofFile_eq_ofDocument_iff readers oneDeviceFiles "c.json" content oneDevice
  exact ⟨content, ⟨opened, read, (snapshots opened read).1.mpr solid⟩, otherOpened, otherRead,
    (settings otherOpened otherRead).1.mpr fun _ => solid⟩

/-- An empty list is refused as a configuration, also in a file whose name ends in
`.json`.  In a file with another ending it is the default configuration, and in every
file it is an empty snapshot. -/
theorem emptyList_accepted_in_files :
    let readers := Readers.plain none none
    (∀ use format, readers.read use format "[]" = .ok (.list [])) ∧
    ((Settings.ofDocument (.list [])).outcome = .error (.notMapping "list") ∧
      (Settings.ofFile readers [("c.json", .text "[]")] "c.json").outcome =
        .error (.settings (.notMapping "list")) ∧
      (Settings.ofFile readers [("c.yaml", .text "[]")] "c.yaml").outcome =
        .ok Settings.default) ∧
    (Snapshot.ofDocument (.list [])).outcome = .error .notMapping ∧
    (Snapshot.ofFile readers [("s.json", .text "[]")] "s.json").outcome = .ok IdMap.empty := by
  intro readers
  have read (use : FileUse) (format : FileFormat) :
      readers.read use format "[]" = .ok (.list []) := by
    cases use <;> cases format <;> decide +kernel
  have hollow : (Document.list []).IsHollow := ⟨rfl, nofun⟩
  refine ⟨read, ⟨rfl, ?_, ?_⟩, rfl, ?_⟩
  · have opened : Files.content [("c.json", .text "[]")] "c.json" = .ok "[]" := by decide +kernel
    have format : Settings.formatOf "c.json" = .json := by decide +kernel
    rw [Settings.outcome_ofFile opened (read .settings _), format]
    rfl
  · have opened : Files.content [("c.yaml", .text "[]")] "c.yaml" = .ok "[]" := by decide +kernel
    have format : Settings.formatOf "c.yaml" = .yaml := by decide +kernel
    exact Settings.outcome_ofFile_of_isHollow opened (read .settings _) format hollow
  · have opened : Files.content [("s.json", .text "[]")] (Path.normalized "s.json") = .ok "[]" := by
      decide +kernel
    exact Snapshot.outcome_ofFile_of_isHollow opened (read .snapshot _) hollow

end Nameplate
