import Nameplate.Proofs.Names.Section
import Nameplate.Settings

/-!
Saving settings and reading them again.

What is read back has the same reporting options and the name rules in normal
form.  These are equal to the saved ones, are saved as the same document, and
name every object in the same way.
-/

namespace Nameplate

namespace Settings

def normalForm (settings : Settings) : Settings :=
  { settings with names := settings.names.normalForm }

theorem normalForm_beq (settings : Settings) : (settings.normalForm == settings) = true := by
  change (settings.names.normalForm == settings.names &&
    settings.reporting == settings.reporting) = true
  rw [settings.names.normalForm_beq, beq_self_eq_true, Bool.and_self]

theorem toDocument_normalForm (settings : Settings) :
    settings.normalForm.toDocument = settings.toDocument := by
  rw [toDocument, toDocument, normalForm, Names.toDocument_normalForm]

theorem ofDocument_toDocument (settings : Settings) :
    (ofDocument settings.toDocument).outcome = .ok settings.normalForm := by
  have reporting : reportingOfDocument (.mapping [("level", settings.reporting.level),
      ("format", settings.reporting.format)]) = .ok settings.reporting := rfl
  have members : (ofDocument settings.toDocument).outcome = (do
      let reporting ← reportingOfDocument (.mapping [("level", settings.reporting.level),
        ("format", settings.reporting.format)])
      let names ← (Names.ofDocument settings.names.toDocument namesLocation).outcome.mapError
        Error.names
      return ⟨names, reporting⟩) := by
    simp only [ofDocument, toDocument, Logged.outcome_bind, Logged.outcome_ofExcept,
      Logged.outcome_mapError, Logged.outcome_pure]
    rfl
  rw [members, reporting, Names.ofDocument_toDocument]
  rfl

theorem reload_preserves_settings (settings : Settings) :
    ∃ reloaded, (ofDocument settings.toDocument).outcome = .ok reloaded ∧
      (reloaded == settings) = true ∧
      reloaded.toDocument = settings.toDocument ∧
      ∀ (record : Record) (lookup : Lookup), record.kind ≠ .client →
        ∃ before after, (record.explain lookup settings.names).outcome = .ok before ∧
          (record.explain lookup reloaded.names).outcome = .ok after ∧
          after.name = before.name ∧ after.category = before.category ∧
          after.origin = before.origin ∧ after.overrideIndex = before.overrideIndex ∧
          (after.template == before.template) = true := by
  refine ⟨settings.normalForm, settings.ofDocument_toDocument, settings.normalForm_beq,
    settings.toDocument_normalForm, ?_⟩
  intro record lookup nameable
  obtain ⟨category, categorized⟩ := Record.category_exists nameable
  refine ⟨_, _, Record.explain_of_category categorized lookup settings.names,
    Record.explain_of_category categorized lookup settings.names.normalForm, ?_⟩
  rw [Names.resolve_normalForm]
  refine ⟨rfl, rfl, rfl, rfl, ?_⟩
  cases (settings.names.resolve category (record.tagValue lookup) record.ownName).template with
  | none => rfl
  | some template => exact template.normalForm_beq

/-- Divided and empty literals, an override of no category, and options that are
no texts. -/
theorem reload_preserves_settings_unmerged :
    (Record.device ⟨3, none, some "HDA", none⟩).kind ≠ .client ∧
      ∃ reloaded after,
        (ofDocument (toDocument ⟨⟨[], [],
            [⟨[.literal "\x7b", .literal "", .literal ":", .tag (.device .nick)]⟩],
            [⟨⟨false, false, false⟩, .device .nick, "HDA", []⟩]⟩,
          ⟨.null, .integer 3⟩⟩)).outcome = .ok reloaded ∧
        ((Record.device ⟨3, none, some "HDA", none⟩).explain (fun _ => none)
          reloaded.names).outcome = .ok after ∧
        after.name = some "\x7b:HDA" := by
  obtain ⟨reloaded, read, _, _, explained⟩ := reload_preserves_settings ⟨⟨[], [],
      [⟨[.literal "\x7b", .literal "", .literal ":", .tag (.device .nick)]⟩],
      [⟨⟨false, false, false⟩, .device .nick, "HDA", []⟩]⟩,
    ⟨.null, .integer 3⟩⟩
  obtain ⟨before, after, made, again, sameName, _⟩ :=
    explained (.device ⟨3, none, some "HDA", none⟩) (fun _ => none) (by decide)
  cases made
  exact ⟨by decide, reloaded, after, read, again, sameName⟩

end Settings

end Nameplate
