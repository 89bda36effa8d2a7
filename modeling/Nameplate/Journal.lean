/-!
Journals: what the program reports while it works.

A logged computation has an outcome and a journal, and the journal is kept also
when the outcome is an error.  Outcomes do not depend on journals: taking the
outcome of a logged computation turns its steps into steps of `Except`.
-/

namespace Nameplate

inductive Level where
  | debug
  | info
  | warning
deriving DecidableEq, Repr

def Level.text : Level → String
  | .debug => "DEBUG"
  | .info => "INFO"
  | .warning => "WARNING"

def Level.weight : Level → Nat
  | .debug => 10
  | .info => 20
  | .warning => 30

inductive Channel where
  | names
  | resolution
  | snapshot
  | registry
  | service
  | command
deriving DecidableEq, Repr

def Channel.text : Channel → String
  | .names => "audio_names.naming.loader"
  | .resolution => "audio_names.naming.resolver"
  | .snapshot => "audio_names.state.loader"
  | .registry => "audio_names.state.registry"
  | .service => "audio_names.service"
  | .command => "audio_names.cli"

structure Entry where
  level : Level
  channel : Channel
  message : String
deriving DecidableEq, Repr

def Entry.text (entry : Entry) : String :=
  entry.level.text ++ " " ++ entry.channel.text ++ ": " ++ entry.message

/-- The outcome of a computation together with its reports, oldest first. -/
structure Logged (ε α : Type) where
  outcome : Except ε α
  journal : List Entry

theorem ok_bind {ε α β : Type} (value : α) (next : α → Except ε β) :
    (.ok value >>= next) = next value := rfl

theorem bind_eq_ok_iff {ε α β : Type} {first : Except ε α} {next : α → Except ε β} {result : β} :
    (first >>= next) = .ok result ↔ ∃ value, first = .ok value ∧ next value = .ok result := by
  cases first with
  | error error =>
      constructor
      · intro impossible
        contradiction
      · rintro ⟨value, impossible, _⟩
        contradiction
  | ok value =>
      constructor
      · intro continued
        exact ⟨value, rfl, continued⟩
      · rintro ⟨other, same, continued⟩
        cases same
        exact continued

theorem bind_eq_error_iff {ε α β : Type} {first : Except ε α} {next : α → Except ε β} {error : ε} :
    (first >>= next) = .error error ↔
      first = .error error ∨ ∃ value, first = .ok value ∧ next value = .error error := by
  cases first with
  | error other =>
      constructor
      · intro failed
        cases failed
        exact .inl rfl
      · rintro (failed | ⟨value, impossible, _⟩)
        · cases failed
          rfl
        · contradiction
  | ok value =>
      constructor
      · intro failed
        exact .inr ⟨value, rfl, failed⟩
      · rintro (impossible | ⟨other, same, failed⟩)
        · contradiction
        · cases same
          exact failed

theorem map_eq_ok_iff {ε α β : Type} {outcome : Except ε α} {restate : α → β} {result : β} :
    outcome.map restate = .ok result ↔ ∃ value, outcome = .ok value ∧ restate value = result := by
  cases outcome with
  | error cause => simp [Except.map]
  | ok value => simp [Except.map]

theorem map_eq_error_iff {ε α β : Type} {outcome : Except ε α} {restate : α → β} {error : ε} :
    outcome.map restate = .error error ↔ outcome = .error error := by
  cases outcome with
  | error cause => simp [Except.map]
  | ok value => simp [Except.map]

theorem mapError_ok {ε δ α : Type} (value : α) (restate : ε → δ) :
    (.ok value : Except ε α).mapError restate = .ok value := rfl

theorem mapError_eq_ok_iff {ε δ α : Type} {outcome : Except ε α} {restate : ε → δ} {value : α} :
    outcome.mapError restate = .ok value ↔ outcome = .ok value := by
  cases outcome with
  | error cause => exact ⟨nofun, nofun⟩
  | ok result =>
      constructor
      · intro same
        cases same
        rfl
      · intro same
        cases same
        rfl

theorem mapError_eq_error_iff {ε δ α : Type} {outcome : Except ε α} {restate : ε → δ} {error : δ} :
    outcome.mapError restate = .error error ↔
      ∃ cause, outcome = .error cause ∧ restate cause = error := by
  cases outcome with
  | error cause =>
      constructor
      · intro failed
        exact ⟨cause, rfl, Except.error.inj failed⟩
      · rintro ⟨other, same, rfl⟩
        cases same
        rfl
  | ok result =>
      constructor
      · intro impossible
        contradiction
      · rintro ⟨other, impossible, _⟩
        contradiction

theorem mapError_id {ε α : Type} (outcome : Except ε α) : outcome.mapError id = outcome := by
  cases outcome <;> rfl

/-- Two outcomes are the same but for their errors if both succeed with the same value or
both fail. -/
theorem mapError_const_eq_iff {ε α : Type} {first second : Except ε α} :
    (first.mapError fun _ => ()) = (second.mapError fun _ => ()) ↔
      ∀ value, first = .ok value ↔ second = .ok value := by
  constructor
  · intro agree value
    have firstKept : (first.mapError fun _ => ()) = .ok value ↔ first = .ok value :=
      mapError_eq_ok_iff
    have secondKept : (second.mapError fun _ => ()) = .ok value ↔ second = .ok value :=
      mapError_eq_ok_iff
    rw [← firstKept, ← secondKept, agree]
  · intro agree
    cases first with
    | error cause =>
        cases second with
        | error other => rfl
        | ok value =>
            have impossible := (agree value).mpr rfl
            contradiction
    | ok value =>
        rw [(agree value).mp rfl]

/-- Computations that agree step by step up to a restatement of their errors agree as a
whole. -/
theorem mapError_bind_congr {ε δ α β : Type} {first second : Except ε α}
    {next other : α → Except ε β} {restate : ε → δ}
    (agree : first.mapError restate = second.mapError restate)
    (continued : ∀ value, (next value).mapError restate = (other value).mapError restate) :
    (first >>= next).mapError restate = (second >>= other).mapError restate := by
  cases first with
  | error cause =>
      cases second with
      | error otherCause => exact congrArg Except.error (Except.error.inj agree)
      | ok value => contradiction
  | ok value =>
      cases second with
      | error cause => contradiction
      | ok otherValue =>
          have same : value = otherValue := Except.ok.inj agree
          rw [same]
          exact continued otherValue

/-- A list is read as a whole exactly when every element is read. -/
theorem mapM_eq_ok_iff {ε α β : Type} {read : α → Except ε β} {items : List α} {results : List β} :
    items.mapM read = .ok results ↔ items.map read = results.map .ok := by
  induction items generalizing results with
  | nil => cases results <;> simp [pure, Except.pure]
  | cons item rest inductionHypothesis =>
      rw [List.mapM_cons, bind_eq_ok_iff]
      constructor
      · rintro ⟨value, first, others⟩
        obtain ⟨values, later, same⟩ := bind_eq_ok_iff.mp others
        cases same
        rw [List.map_cons, first, inductionHypothesis.mp later, List.map_cons]
      · intro listed
        cases results with
        | nil => contradiction
        | cons result more =>
            obtain ⟨first, later⟩ := List.cons.inj listed
            exact ⟨result, first, bind_eq_ok_iff.mpr ⟨more, inductionHypothesis.mpr later, rfl⟩⟩

/-- A list is read as a whole exactly when every element is accepted. -/
theorem mapM_eq_ok_iff_of_accepts {ε α β : Type} {read : α → Except ε β} {accepts : α → Prop}
    {result : α → β}
    (reads : ∀ item value, read item = .ok value ↔ accepts item ∧ value = result item)
    {items : List α} {values : List β} :
    items.mapM read = .ok values ↔ (∀ item ∈ items, accepts item) ∧ values = items.map result := by
  rw [mapM_eq_ok_iff]
  induction items generalizing values with
  | nil => cases values <;> simp
  | cons item rest inductionHypothesis =>
      cases values with
      | nil => simp
      | cons value more =>
          have first := reads item value
          have later : rest.map read = more.map .ok ↔
              (∀ other ∈ rest, accepts other) ∧ more = rest.map result := inductionHypothesis
          simp only [List.map_cons, List.cons.injEq, List.forall_mem_cons, first, later]
          constructor
          · intro both
            exact ⟨⟨both.1.1, both.2.1⟩, both.1.2, both.2.2⟩
          · intro both
            exact ⟨⟨both.1.1, both.2.1⟩, both.1.2, both.2.2⟩

/-- Restating the errors of each step restates the error of the whole. -/
theorem mapM_mapError {ε δ α β : Type} (read : α → Except ε β) (restate : ε → δ)
    (items : List α) :
    (items.mapM fun item => (read item).mapError restate) = (items.mapM read).mapError restate := by
  induction items with
  | nil => rfl
  | cons item rest inductionHypothesis =>
      rw [List.mapM_cons, List.mapM_cons, inductionHypothesis]
      cases read item with
      | error error => rfl
      | ok result => cases rest.mapM read <;> rfl

/-- Reading a list fails at the first element that cannot be read. -/
theorem mapM_eq_error_iff {ε α β : Type} {read : α → Except ε β} {items : List α} {error : ε} :
    items.mapM read = .error error ↔
      ∃ earlier item later, items = earlier ++ item :: later ∧
        (∀ other ∈ earlier, ∃ result, read other = .ok result) ∧ read item = .error error := by
  induction items with
  | nil => simp [pure, Except.pure]
  | cons item rest inductionHypothesis =>
      rw [List.mapM_cons, bind_eq_error_iff]
      constructor
      · rintro (failed | ⟨value, first, others⟩)
        · exact ⟨[], item, rest, rfl, by simp, failed⟩
        · rcases bind_eq_error_iff.mp others with failed | ⟨_, _, impossible⟩
          · obtain ⟨earlier, stuck, later, same, succeed, fails⟩ := inductionHypothesis.mp failed
            refine ⟨item :: earlier, stuck, later, by rw [same, List.cons_append], ?_, fails⟩
            intro other member
            rcases List.mem_cons.mp member with rfl | before
            · exact ⟨value, first⟩
            · exact succeed other before
          · contradiction
      · rintro ⟨earlier, stuck, later, same, succeed, fails⟩
        cases earlier with
        | nil =>
            cases same
            exact .inl fails
        | cons head before =>
            obtain ⟨rfl, rfl⟩ := List.cons.inj same
            obtain ⟨value, first⟩ := succeed item List.mem_cons_self
            have failed := inductionHypothesis.mpr ⟨before, stuck, later, rfl,
              fun other member => succeed other (List.mem_cons_of_mem _ member), fails⟩
            exact .inr ⟨value, first, bind_eq_error_iff.mpr (.inl failed)⟩

theorem exists_map_ok {ε α β : Type} {read : α → Except ε β} {items : List α}
    (reads : ∀ item ∈ items, ∃ result, read item = .ok result) :
    ∃ results : List β, items.map read = results.map .ok := by
  induction items with
  | nil => exact ⟨[], rfl⟩
  | cons item rest inductionHypothesis =>
      obtain ⟨result, first⟩ := reads item List.mem_cons_self
      obtain ⟨results, others⟩ := inductionHypothesis fun other member =>
        reads other (List.mem_cons_of_mem _ member)
      exact ⟨result :: results, by rw [List.map_cons, first, others, List.map_cons]⟩

namespace Logged

variable {ε δ α β : Type}

def ofExcept (outcome : Except ε α) : Logged ε α :=
  ⟨outcome, []⟩

def note (level : Level) (channel : Channel) (message : String) : Logged ε Unit :=
  ⟨.ok (), [⟨level, channel, message⟩]⟩

def fail (error : ε) : Logged ε α :=
  ⟨.error error, []⟩

/-- One computation after another.  An error ends the reports as well. -/
def andThen (first : Logged ε α) (next : α → Logged ε β) : Logged ε β :=
  match first.outcome with
  | .error error => ⟨.error error, first.journal⟩
  | .ok value =>
      let second := next value
      ⟨second.outcome, first.journal ++ second.journal⟩

instance : Monad (Logged ε) where
  pure value := ⟨.ok value, []⟩
  bind := andThen

def mapError (restate : ε → δ) (computation : Logged ε α) : Logged δ α :=
  ⟨computation.outcome.mapError restate, computation.journal⟩

@[simp] theorem outcome_pure (value : α) :
    (pure value : Logged ε α).outcome = .ok value := rfl

@[simp] theorem outcome_bind (first : Logged ε α) (next : α → Logged ε β) :
    (first >>= next).outcome = first.outcome >>= fun value => (next value).outcome := by
  change (andThen first next).outcome = _
  unfold andThen
  cases first.outcome <;> rfl

theorem outcome_bind_eq_ok_iff {first : Logged ε α} {next : α → Logged ε β} {result : β} :
    (first >>= next).outcome = .ok result ↔
      ∃ value, first.outcome = .ok value ∧ (next value).outcome = .ok result := by
  rw [outcome_bind]
  exact bind_eq_ok_iff

@[simp] theorem outcome_note (level : Level) (channel : Channel) (message : String) :
    (note level channel message : Logged ε Unit).outcome = .ok () := rfl

@[simp] theorem outcome_fail (error : ε) :
    (fail error : Logged ε α).outcome = .error error := rfl

@[simp] theorem outcome_ofExcept (outcome : Except ε α) :
    (ofExcept outcome).outcome = outcome := rfl

@[simp] theorem outcome_mapError (restate : ε → δ) (computation : Logged ε α) :
    (computation.mapError restate).outcome = computation.outcome.mapError restate := rfl

/-- Applies a logged function to every element in order, up to the first that
fails. -/
def forEach (step : α → Logged ε β) : List α → Logged ε (List β)
  | [] => pure []
  | value :: rest => do
      let result ← step value
      let results ← forEach step rest
      return result :: results

@[simp] theorem outcome_forEach (step : α → Logged ε β) (values : List α) :
    (forEach step values).outcome = values.mapM fun value => (step value).outcome := by
  induction values with
  | nil => rfl
  | cons value rest inductionHypothesis =>
      simp only [forEach, outcome_bind, inductionHypothesis, outcome_pure, List.mapM_cons]
      rfl

/-- Reports about values never fail. -/
theorem outcome_forEach_note (level : Level) (channel : Channel) (message : α → String)
    (values : List α) :
    (forEach (fun value => note level channel (message value) : α → Logged ε Unit) values).outcome =
      .ok (values.map fun _ => ()) := by
  rw [outcome_forEach]
  exact List.mapM_pure

end Logged

end Nameplate
