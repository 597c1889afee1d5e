import SmarTune.Library.Timeline
import SmarTune.Quiet.Watchdog

/-!
# The data quality of a quiet run

`held_clean` vouches that collectors stood down for the whole of a hold.  A
record keeps, beside the system, the stretches of time since the current hold
was entered.  `held_clean` looks at the owner and at `_user_exited` only, so its
word is good exactly while the lease of the hold has not lapsed.
-/

namespace SmarTune

open Timeline

/-- The system with the stretches of the current hold. -/
structure QuietRecord (Owner : Type*) where
  system : QuietSystem Owner
  /-- Ghost: what was in force, and when, since the hold was entered. -/
  hold : List (Stretch (QuietMode Owner) ℚ)

namespace QuietRecord

variable {Owner : Type*} [DecidableEq Owner]

/-- The service starts without a hold. -/
def init (ttlS : Ttl) (now : ℚ) : QuietRecord Owner :=
  ⟨.init ttlS now, []⟩

/-- An `enter` that does not renew the hold of its run starts a new one. -/
def entersAnew (system : QuietSystem Owner) : QuietStep Owner → Bool
  | .enter owner _ _ => decide (system.quiet.previous system.now ≠ some owner)
  | _ => false

/-- One step, with the stretch of time it adds to the hold. -/
def step (record : QuietRecord Owner)
    (label : QuietStep Owner) : QuietRecord Owner :=
  let after := record.system.step label
  { system := after
    hold :=
      if entersAnew record.system label then
        [⟨after.quiet, after.now, after.now⟩]
      else if after.quiet.owner.isNone then []
      else record.hold ++ [⟨after.quiet, record.system.now, after.now⟩] }

/-- A hold reported clean kept the gate up at every instant since its start. -/
def CleanMeansQuiet (record : QuietRecord Owner) : Prop :=
  record.system.quiet.heldClean = true →
    Throughout (fun quiet time => quiet.isActive time = true) record.hold

/-- The lease of a hold that the user did not interrupt has not lapsed. -/
def LeaseKept (system : QuietSystem Owner) : Prop :=
  system.quiet.owner = none ∨ system.quiet.userExited = true ∨
    (system.now : WithTop ℚ) ≤ system.quiet.deadline

instance (system : QuietSystem Owner) : Decidable (LeaseKept system) :=
  inferInstanceAs (Decidable (_ ∨ _ ∨ _))

/-! ## What a hold remembers -/

/-- The stretches of the current hold against its present state. -/
structure Faithful (record : QuietRecord Owner) : Prop where
  /-- The present moment belongs to the hold. -/
  present : record.system.quiet.owner ≠ none → ∃ start ≤ record.system.now,
      ⟨record.system.quiet, start, record.system.now⟩ ∈ record.hold
  /-- The gate was up as long as the user did not drop it. -/
  raised : record.system.quiet.owner ≠ none →
    record.system.quiet.userExited = false → ∀ stretch ∈ record.hold,
        stretch.state.owner ≠ none ∧ stretch.state.gateUp = true
  /-- A lease that has not lapsed never had. -/
  leased : record.system.quiet.owner ≠ none →
    (record.system.now : WithTop ℚ) ≤ record.system.quiet.deadline →
      ∀ stretch ∈ record.hold,
        (stretch.finish : WithTop ℚ) ≤ stretch.state.deadline

omit [DecidableEq Owner] in
theorem faithful_init (ttlS : Ttl) (now : ℚ) :
    Faithful (init ttlS now : QuietRecord Owner) :=
  ⟨fun held => absurd rfl held, fun held => absurd rfl held,
    fun held => absurd rfl held⟩

/-- What a step that neither starts nor ends a hold does to it. -/
structure Continues (before after : QuietSystem Owner) : Prop where
  held : before.quiet.owner ≠ none
  notBefore : before.now ≤ after.now
  exited : after.quiet.userExited = false → before.quiet.userExited = false
  raised : after.quiet.userExited = false →
    before.quiet.gateUp = true → after.quiet.gateUp = true
  leased : (after.now : WithTop ℚ) ≤ after.quiet.deadline →
    (before.now : WithTop ℚ) ≤ before.quiet.deadline

omit [DecidableEq Owner] in
/-- Nothing happens to the hold. -/
theorem Continues.of_quiet_eq {before after : QuietSystem Owner}
    (same : after.quiet = before.quiet) (notBefore : before.now ≤ after.now)
    (held : after.quiet.owner ≠ none) :
    Continues before after where
  held := same ▸ held
  notBefore := notBefore
  exited := fun clean => same ▸ clean
  raised := fun _ up => same ▸ up
  leased := by
    rw [same]
    exact (WithTop.coe_le_coe.mpr notBefore).trans

variable {system : QuietSystem Owner} {label : QuietStep Owner}
  {record : QuietRecord Owner}

/-- A hold survives a step only by going on. -/
theorem continues_of_step (notAnew : entersAnew system label = false)
    (held : (system.step label).quiet.owner ≠ none) :
    Continues system (system.step label) := by
  cases label with
  | elapse seconds =>
    exact .of_quiet_eq rfl (le_add_of_nonneg_right seconds.2) held
  | enter owner ttl wall =>
    have found : system.quiet.previous system.now = some owner := by
      simpa [entersAnew] using notAnew
    obtain ⟨holder, lives⟩ := QuietMode.previous_eq_some_iff.mp found
    have renewed : (system.step (.enter owner ttl wall)).quiet =
        { system.quiet with
          deadline := (system.now : WithTop ℚ) +
            ttl.getD system.quiet.ttlS } := by
      simp [QuietSystem.step, QuietMode.enter, found]
    refine ⟨by simp [holder], le_rfl, ?_, ?_, fun _ => lives⟩
    · rw [renewed]
      exact id
    · rw [renewed]
      exact fun _ up => up
  | exit owner =>
    exact .of_quiet_eq (QuietSystem.exit_eq_self_of_held held) le_rfl held
  | heartbeat owner =>
    by_cases renewed : system.quiet.owner = some owner ∧
        (system.now : WithTop ℚ) ≤ system.quiet.deadline
    · refine ⟨by simp [renewed.1], le_rfl, ?_, ?_, fun _ => renewed.2⟩
      · simp [QuietSystem.step, QuietMode.heartbeat, renewed]
      · simp [QuietSystem.step, QuietMode.heartbeat, renewed]
    · refine .of_quiet_eq ?_ le_rfl held
      simp [QuietSystem.step, QuietMode.heartbeat, renewed]
  | setGate up =>
    have present : system.quiet.owner ≠ none := by
      intro free
      simp [QuietSystem.step, QuietMode.setGate, free] at held
    have moved : (system.step (.setGate up)).quiet =
        { system.quiet with
          gateUp := up
          userExited := system.quiet.userExited || !up } := by
      simp [QuietSystem.step, QuietMode.setGate, present]
    refine ⟨present, le_rfl, ?_, ?_, ?_⟩
    · rw [moved]
      simp only [Bool.or_eq_false_iff]
      exact And.left
    · rw [moved]
      simp only [Bool.or_eq_false_iff, Bool.not_eq_false']
      exact fun clean _ => clean.2
    · rw [moved]
      exact id
  | observe =>
    refine .of_quiet_eq ?_ ?_ held
    · simp only [QuietSystem.step]
      split <;> rfl
    · simp only [QuietSystem.step]
      split <;> exact le_rfl
  | reclaim =>
    refine .of_quiet_eq ?_ ?_ held
    · simp only [QuietSystem.step] at held ⊢
      split at held
      · simp at held
      · rename_i idle
        rw [if_neg idle]
    · simp only [QuietSystem.step]
      split <;> exact le_rfl

/-- A new hold is raised and its run holds it. -/
theorem entered_of_anew (anew : entersAnew system label = true) :
    (system.step label).quiet.owner ≠ none ∧
      (system.step label).quiet.gateUp = true := by
  cases label with
  | enter owner ttl wall =>
    have absent : system.quiet.previous system.now ≠ some owner := by
      simpa [entersAnew] using anew
    simp [QuietSystem.step, QuietMode.enter, absent]
  | _ => cases anew

theorem faithful_step (faithful : record.Faithful) (label : QuietStep Owner) :
    (record.step label).Faithful := by
  by_cases anew : entersAnew record.system label = true
  · -- The hold starts: its only instant is the present one.
    have started : (record.step label).hold =
        [⟨(record.system.step label).quiet, (record.system.step label).now,
          (record.system.step label).now⟩] := by
      simp [step, anew]
    refine ⟨fun _ => ⟨_, le_rfl, ?_⟩, ?_, ?_⟩
    · rw [started]
      exact List.mem_singleton_self _
    · intro _ _ stretch member
      rw [started, List.mem_singleton] at member
      exact member ▸ entered_of_anew anew
    · intro _ lives stretch member
      rw [started, List.mem_singleton] at member
      exact member ▸ lives
  · by_cases held : (record.system.step label).quiet.owner = none
    · exact ⟨fun present => absurd held present,
        fun present => absurd held present,
        fun present => absurd held present⟩
    · -- The hold goes on: one more stretch, the earlier ones as they were.
      rw [Bool.not_eq_true] at anew
      have goesOn := continues_of_step anew held
      obtain ⟨start, _, current⟩ := faithful.present goesOn.held
      have grown : (record.step label).hold = record.hold ++
          [⟨(record.system.step label).quiet, record.system.now,
            (record.system.step label).now⟩] := by
        simp [step, anew, held]
      refine ⟨fun _ => ⟨record.system.now, goesOn.notBefore, ?_⟩, ?_, ?_⟩
      · rw [grown]
        exact List.mem_append_right _ (List.mem_singleton_self _)
      · intro _ clean stretch member
        have earlier := faithful.raised goesOn.held (goesOn.exited clean)
        rw [grown, List.mem_append, List.mem_singleton] at member
        rcases member with member | rfl
        · exact earlier stretch member
        · exact ⟨held, goesOn.raised clean (earlier _ current).2⟩
      · intro _ lives stretch member
        rw [grown, List.mem_append, List.mem_singleton] at member
        rcases member with member | rfl
        · exact faithful.leased goesOn.held (goesOn.leased lives) stretch member
        · exact lives

theorem faithful_run (ttlS : Ttl) (now : ℚ) (labels : List (QuietStep Owner)) :
    (Runs.run step (init ttlS now) labels).Faithful := by
  have guarded : Runs.EveryStep step (fun _ _ => True) (init ttlS now) labels :=
    Runs.everyStep_of_forall (fun _ _ => trivial) _ _
  refine Runs.invariant_run Faithful ?_ (faithful_init ttlS now) guarded
  intro record label faithful _
  exact faithful_step faithful label

/-! ## When a clean report is right -/

omit [DecidableEq Owner] in
/-- Time only takes the activity of a state away. -/
theorem isActive_earlier (quiet : QuietMode Owner) (earlier later : ℚ)
    (ordered : earlier ≤ later) (active : quiet.isActive later = true) :
    quiet.isActive earlier = true := by
  rw [QuietMode.isActive_iff] at active ⊢
  obtain ⟨held, up, lives⟩ := active
  exact ⟨held, up, (WithTop.coe_le_coe.mpr ordered).trans lives⟩

omit [DecidableEq Owner] in
/-- A clean report is right exactly when the lease of the hold is kept. -/
theorem cleanMeansQuiet_iff (faithful : record.Faithful) :
    record.CleanMeansQuiet ↔ LeaseKept record.system := by
  constructor
  · intro law
    by_cases held : record.system.quiet.owner = none
    · exact .inl held
    by_cases exited : record.system.quiet.userExited = true
    · exact .inr (.inl exited)
    have clean : record.system.quiet.heldClean = true :=
      QuietMode.heldClean_iff.mpr ⟨held, by simpa using exited⟩
    obtain ⟨start, ordered, current⟩ := faithful.present held
    have active := (law clean).at_finish current ordered
    exact .inr (.inr (QuietMode.isActive_iff.mp active).2.2)
  · intro kept clean
    obtain ⟨held, unexited⟩ := QuietMode.heldClean_iff.mp clean
    have lives : (record.system.now : WithTop ℚ) ≤
        record.system.quiet.deadline := by
      rcases kept with free | exited | lives
      · exact absurd free held
      · simp [unexited] at exited
      · exact lives
    apply throughout_of_finish isActive_earlier
    intro stretch member
    obtain ⟨owned, up⟩ := faithful.raised held unexited stretch member
    exact QuietMode.isActive_iff.mpr
      ⟨owned, up, faithful.leased held lives stretch member⟩

/-- After every run, the clean report is right exactly when the lease is kept;
a heartbeat revives no expired lease; and the calls of a stale owner change
nothing. -/
theorem quiet_data_quality (ttlS : Ttl) (now : ℚ)
    (labels : List (QuietStep Owner)) :
    let record := Runs.run step (init ttlS now) labels
    (record.CleanMeansQuiet ↔ LeaseKept record.system) ∧
      (∀ owner, record.system.quiet.expired record.system.now = true →
        record.system.step (.heartbeat owner) = record.system) ∧
      ∀ owner, record.system.quiet.owner ≠ some owner →
        record.system.step (.exit (some owner)) = record.system ∧
          record.system.step (.heartbeat owner) = record.system := by
  intro record
  refine ⟨cleanMeansQuiet_iff (faithful_run ttlS now labels), ?_, ?_⟩
  · intro owner lapsed
    simp [QuietSystem.step, QuietMode.heartbeat_of_expired lapsed]
  · intro owner stale
    constructor
    · simp [QuietSystem.step, QuietMode.exit_of_stale stale]
    · simp [QuietSystem.step, QuietMode.heartbeat_of_stale stale]

/-- The sampler dies, the lease lapses, and the hold is still reported clean. -/
theorem lapsed_hold_reported_clean :
    ¬ (Runs.run step (init ((120 : ℚ) : WithTop ℚ) 0 : QuietRecord String)
      [.enter "run" none 0, .elapse 121]).CleanMeansQuiet := by
  rw [cleanMeansQuiet_iff (faithful_run _ _ _)]
  decide +kernel

end QuietRecord

end SmarTune
