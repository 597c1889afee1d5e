import SmarTune.Oom.OomPriority

/-!
# Runs in which the protection follows the priority

A process that was written to has the score it had at first, unless it belongs
to a critical app under control.
-/

namespace SmarTune
namespace OomSystem

variable {App : Type} [DecidableEq App] {system : OomSystem App}

/-- Every process written to is guarded or has its first score. -/
def Settled (guard : ℕ → Prop) (system : OomSystem App) : Prop :=
  ∀ pid value, system.alive pid = true → system.first pid = some value →
    guard pid ∨ system.score pid = value

/-- The processes written to are listed. -/
def Touched (system : OomSystem App) : Prop :=
  ∀ pid, (system.first pid).isSome = true → pid ∈ system.written

/-! ## Writes -/

section Writes

omit [DecidableEq App]

theorem settled_mono {guard stronger : ℕ → Prop}
    (settled : Settled guard system)
    (weaker : ∀ pid, guard pid → stronger pid) : Settled stronger system := by
  intro pid value lives first
  exact (settled pid value lives first).imp_left (weaker pid)

theorem settled_write {guard : ℕ → Prop} (settled : Settled guard system)
    {pid : ℕ} {value : ℤ} (right : guard pid ∨ system.first pid = some value) :
    Settled guard (system.write pid value) := by
  intro other held lives first
  by_cases own : other = pid
  · subst own
    rcases right with guarded | known
    · exact .inl guarded
    · right
      have same : value = held := by simpa [write, known] using first
      simpa [write] using same
  · have before := settled other held lives (by simpa [write, own] using first)
    simpa [write, own] using before

theorem touched_write (touched : Touched system) (pid : ℕ)
    (value : ℤ) : Touched (system.write pid value) := by
  intro other known
  by_cases own : other = pid
  · rw [own]
    exact List.mem_cons_self
  · exact List.mem_cons_of_mem _ (touched other (by
      simpa [write, own] using known))

end Writes

/-! ## The loops -/

section Frame

variable (app : App) (outcome : ℕ → PidOutcome)

/-- What the loops leave as it is. -/
structure SameApps (before after : OomSystem App) : Prop where
  alive : after.alive = before.alive
  belongs : after.belongs = before.belongs
  row : after.row = before.row

omit [DecidableEq App] in
theorem SameApps.guarded_iff {before after : OomSystem App}
    (same : SameApps before after)
    (pid : ℕ) : after.Guarded pid ↔ before.Guarded pid := by
  unfold Guarded protects
  rw [same.belongs, same.row]

theorem adjustPids_same (pids : List ℕ) (system : OomSystem App) :
    SameApps system (adjustPids app outcome pids system) := by
  induction pids generalizing system with
  | nil => exact ⟨rfl, rfl, rfl⟩
  | cons pid pids ih =>
    unfold adjustPids
    split
    · split
      · obtain ⟨alive, belongs, row⟩ :=
          ih (system.write pid (-1000))
        exact ⟨alive, belongs, row⟩
      · exact ⟨rfl, rfl, rfl⟩
    · split
      · split
        · obtain ⟨alive, belongs, row⟩ :=
            ih ((system.record app pid).write pid (-1000))
          exact ⟨alive, belongs, row⟩
        · exact ⟨rfl, rfl, rfl⟩
      · exact ⟨rfl, rfl, rfl⟩

theorem restorePids_same (entries : List (ℕ × ℤ)) (system : OomSystem App) :
    SameApps system (restorePids app outcome entries system) := by
  induction entries generalizing system with
  | nil => exact ⟨rfl, rfl, rfl⟩
  | cons entry entries ih =>
    unfold restorePids
    split
    · split
      · obtain ⟨alive, belongs, row⟩ :=
          ih (system.write entry.1 entry.2)
        exact ⟨alive, belongs, row⟩
      · exact ⟨rfl, rfl, rfl⟩
    · exact ih system

theorem touched_adjustPids (pids : List ℕ) (touched : Touched system) :
    Touched (adjustPids app outcome pids system) := by
  induction pids generalizing system with
  | nil => exact touched
  | cons pid pids ih =>
    unfold adjustPids
    split
    · split
      · exact ih (touched_write touched pid _)
      · exact touched
    · split
      · split
        · have recorded : Touched (system.record app pid) := touched
          exact ih (touched_write recorded pid _)
        · exact touched
      · exact touched

theorem touched_restorePids (entries : List (ℕ × ℤ))
    (touched : Touched system) :
    Touched (restorePids app outcome entries system) := by
  induction entries generalizing system with
  | nil => exact touched
  | cons entry entries ih =>
    unfold restorePids
    split
    · split
      · exact ih (touched_write touched _ _)
      · exact touched
    · exact ih touched

theorem settled_adjustPids {guard : ℕ → Prop} (pids : List ℕ)
    (settled : Settled guard system) (guarded : ∀ pid ∈ pids, guard pid) :
    Settled guard (adjustPids app outcome pids system) := by
  induction pids generalizing system with
  | nil => exact settled
  | cons pid pids ih =>
    have here := guarded pid List.mem_cons_self
    have later : ∀ other ∈ pids, guard other := fun other member =>
      guarded other (List.mem_cons_of_mem _ member)
    unfold adjustPids
    split
    · split
      · exact ih (settled_write settled (.inl here)) later
      · exact settled
    · split
      · split
        · have recorded : Settled guard (system.record app pid) := settled
          exact ih (settled_write recorded (.inl here)) later
        · exact settled
      · exact settled

theorem settled_restorePids {guard : ℕ → Prop} {through : Prop}
    (entries : List (ℕ × ℤ))
    (right : ∀ entry ∈ entries, system.alive entry.1 = true →
      guard entry.1 ∨ system.first entry.1 = some entry.2)
    (settled : ∀ pid value, system.alive pid = true →
      system.first pid = some value → guard pid ∨ system.score pid = value ∨
        (through ∧ pid ∈ entries.map Prod.fst))
    (writes : through → ∀ entry ∈ entries, system.alive entry.1 = true →
      (outcome entry.1).writes = true) :
    Settled guard (restorePids app outcome entries system) := by
  induction entries generalizing system with
  | nil =>
    intro pid value lives first
    rcases settled pid value lives first with guarded | back | ⟨_, member⟩
    · exact .inl guarded
    · exact .inr back
    · cases member
  | cons entry entries ih =>
    unfold restorePids
    split
    · rename_i here
      split
      · apply ih
        · intro other member lives
          rcases right other (List.mem_cons_of_mem _ member) lives with
            guarded | known
          · exact .inl guarded
          · right
            by_cases own : other.1 = entry.1
            · simp [write, ← own, known]
            · simpa [write, own] using known
        · intro pid value lives first
          by_cases own : pid = entry.1
          · subst own
            rcases right entry List.mem_cons_self here with guarded | known
            · exact .inl guarded
            · right
              left
              have same : entry.2 = value := by
                simpa [write, known] using first
              simpa [write] using same
          · have before := settled pid value lives
              (by simpa [write, own] using first)
            simpa [write, own] using before
        · intro goes other member
          exact writes goes other (List.mem_cons_of_mem _ member)
      · rename_i refused
        intro pid value lives first
        rcases settled pid value lives first with guarded | back | ⟨goes, _⟩
        · exact .inl guarded
        · exact .inr back
        · exact absurd (writes goes entry List.mem_cons_self here) refused
    · rename_i gone
      apply ih
      · intro other member
        exact right other (List.mem_cons_of_mem _ member)
      · intro pid value lives first
        rcases settled pid value lives first with
          guarded | back | ⟨goes, member⟩
        · exact .inl guarded
        · exact .inr (.inl back)
        · rcases List.mem_cons.mp member with own | later
          · exact absurd (own ▸ lives) gone
          · exact .inr (.inr ⟨goes, later⟩)
      · intro goes other member
        exact writes goes other (List.mem_cons_of_mem _ member)

end Frame

/-! ## Rows -/

variable {app : App} {pid : ℕ} {outcome : ℕ → PidOutcome}

theorem guarded_setRow_of_but (row : Option OomRow)
    (guarded : system.GuardedBut app pid) :
    (system.setRow app row).Guarded pid := by
  obtain ⟨other, apart, belongs, protected_⟩ := guarded
  exact ⟨other, belongs, by simpa [protects, setRow, apart] using protected_⟩

/-- The row of an app that stays or becomes critical under control. -/
theorem settled_setRow_protects (settled : Settled system.Guarded system)
    {row : Option OomRow}
    (protected_ : (system.setRow app row).protects app = true) :
    Settled (system.setRow app row).Guarded (system.setRow app row) := by
  have weaker : Settled (system.setRow app row).Guarded system := by
    apply settled_mono settled
    rintro pid ⟨other, belongs, guards⟩
    by_cases own : other = app
    · subst own
      exact ⟨other, belongs, protected_⟩
    · exact guarded_setRow_of_but row ⟨other, own, belongs, guards⟩
  exact weaker

theorem settled_setRow_leaves (settled : Settled system.Guarded system)
    (touched : Touched system) (row : Option OomRow)
    (leaves : system.LeavesSettled app) :
    Settled (system.setRow app row).Guarded (system.setRow app row) := by
  intro pid value lives first
  have known : system.first pid = some value := first
  by_cases back : system.score pid = value
  · exact .inr back
  · left
    have changed : system.unsettled pid = true := by
      simpa [unsettled, known] using Ne.symm back
    rcases settled pid value lives known with
      ⟨other, belongs, guards⟩ | same
    · by_cases own : other = app
      · subst own
        exact guarded_setRow_of_but row (leaves pid
          (touched pid (by rw [known]; rfl)) lives belongs changed)
      · exact guarded_setRow_of_but row ⟨other, own, belongs, guards⟩
    · exact absurd same back

theorem settled_adjust (settled : Settled system.Guarded system) {app : App}
    {critical : Bool} {found : List ℕ} (outcome : ℕ → PidOutcome)
    (allowed : critical = true →
      system.protects app = true ∨ system.matching app found = []) :
    Settled (system.adjust app critical found outcome).Guarded
      (system.adjust app critical found outcome) := by
  unfold adjust
  split
  · rename_i raised
    rcases allowed raised with guards | nothing
    · have same := adjustPids_same app outcome (system.matching app found) system
      apply settled_mono (settled_adjustPids app outcome
        (system.matching app found) settled _)
      · exact fun pid guarded => (same.guarded_iff pid).mpr guarded
      · intro pid member
        have matched := (List.mem_filter.mp member).2
        rw [Bool.and_eq_true] at matched
        exact ⟨app, matched.2, guards⟩
    · rw [nothing]
      exact settled
  · exact settled

theorem touched_adjust (touched : Touched system) (app : App) (critical : Bool)
    (found : List ℕ) (outcome : ℕ → PidOutcome) :
    Touched (system.adjust app critical found outcome) := by
  unfold adjust
  split
  · exact touched_adjustPids app outcome _ touched
  · exact touched

/-! ## A step -/

/-- What holds between the steps. -/
structure Sound (system : OomSystem App) : Prop where
  settled : Settled system.Guarded system
  touched : Touched system

theorem sound_setPriority (sound : Sound system) {app : App}
    {critical stored : Bool} {found : List ℕ} {outcome : ℕ → PidOutcome}
    (calm : FollowsPriority system
      (.setPriority app critical stored found outcome)) :
    Sound (system.setPriority app critical stored found outcome) := by
  unfold setPriority
  split
  · rename_i row known
    split
    · rename_i done
      have allowed := calm row known done
      have touched : Touched (system.setRow app
          (some { row with critical })) := sound.touched
      refine ⟨?_, touched_adjust touched app critical found outcome⟩
      cases critical with
      | true =>
        rcases allowed with controlled | nothing
        · have guards : (system.setRow app
              (some { row with critical := true })).protects app = true := by
            simp [protects, setRow, controlled]
          exact settled_adjust (settled_setRow_protects sound.settled guards)
            outcome fun _ => .inl guards
        · have none : (system.setRow app (some { row with
              critical := true })).matching app found = [] := nothing
          unfold adjust
          rw [if_pos rfl, none]
          have weaker : Settled (system.setRow app (some { row with
              critical := true })).Guarded system := by
            apply settled_mono sound.settled
            rintro pid ⟨other, belongs, guards⟩
            by_cases own : other = app
            · subst own
              have same : row = ⟨true, true⟩ := by
                simpa [protects, known] using guards
              exact ⟨other, belongs, by simp [protects, setRow, same]⟩
            · exact guarded_setRow_of_but _ ⟨other, own, belongs, guards⟩
          exact weaker
      | false =>
        exact settled_adjust (settled_setRow_leaves sound.settled
          sound.touched _ allowed) outcome fun raised => by cases raised
    · exact sound
  · exact sound

theorem sound_setToControl (sound : Sound system) {app : App}
    {controlled critical stored : Bool} {found : List ℕ}
    {outcome : ℕ → PidOutcome}
    (calm : FollowsPriority system
      (.setToControl app controlled critical stored found outcome)) :
    Sound (system.setToControl app controlled critical stored found
      outcome) := by
  obtain ⟨allowed, leaves⟩ := calm
  have row : Sound (system.controlRow app controlled critical stored) := by
    unfold controlRow
    split
    · rename_i done
      refine ⟨?_, sound.touched⟩
      by_cases guards : (controlled && critical) = true
      · apply settled_setRow_protects sound.settled
        rw [Bool.and_eq_true] at guards
        simp [protects, setRow, guards.1, guards.2]
      · exact settled_setRow_leaves sound.settled sound.touched _
          (leaves done (by simpa using guards))
    · exact sound
  refine ⟨settled_adjust row.settled outcome ?_,
    touched_adjust row.touched app critical found outcome⟩
  intro raised
  apply (allowed raised).imp_right
  intro nothing
  have same : (system.controlRow app controlled critical stored).matching app
      found = system.matching app found := by
    unfold controlRow
    split <;> rfl
  rw [same]
  exact nothing

theorem sound_purge (sound : Sound system) {asked deleted : Bool}
    (calm : FollowsPriority system (.purge app asked deleted outcome)) :
    Sound (system.purge app asked deleted outcome) := by
  obtain ⟨right, all⟩ := calm
  have kept : ∀ pid, system.GuardedBut app pid → system.Guarded pid := by
    rintro pid ⟨other, _, belongs, guards⟩
    exact ⟨other, belongs, guards⟩
  have unsettled : ∀ pid value, system.first pid = some value →
      system.score pid ≠ value → system.unsettled pid = true := by
    intro pid value first changed
    simpa [OomSystem.unsettled, first] using Ne.symm changed
  have only : deleted = true → ∀ pid value, system.alive pid = true →
      system.first pid = some value →
        system.GuardedBut app pid ∨ system.score pid = value ∨
          ((asked && (system.row app).isSome) = true ∧
            (∀ entry ∈ system.original app, system.alive entry.1 = true →
              (outcome entry.1).writes = true)) ∧
            pid ∈ (system.original app).map Prod.fst := by
    intro gone pid value lives first
    by_cases back : system.score pid = value
    · exact .inr (.inl back)
    · rcases sound.settled pid value lives first with
        ⟨other, belongs, guards⟩ | same
      · by_cases own : other = app
        · subst own
          rcases all gone pid (sound.touched pid (by rw [first]; rfl)) lives
            belongs (unsettled pid value first back) with
              but | ⟨goes, member, writes⟩
          · exact .inl but
          · exact .inr (.inr ⟨⟨goes, writes⟩, member⟩)
        · exact .inl ⟨other, own, belongs, guards⟩
      · exact absurd same back
  unfold purge
  cases deleted with
  | true =>
    rw [if_pos rfl]
    by_cases goes : (asked && (system.row app).isSome) = true
    · rw [if_pos goes]
      have same := restorePids_same app outcome (system.original app) system
      have restored : Settled (system.GuardedBut app)
          (restorePids app outcome (system.original app) system) :=
        settled_restorePids app outcome (system.original app)
          (fun entry member lives => (right goes entry member lives).2.symm)
          (only rfl) (fun through => through.2)
      refine ⟨?_, touched_restorePids app outcome _ sound.touched⟩
      intro pid value lives first
      apply (restored pid value lives first).imp_left
      rintro ⟨other, apart, belongs, guards⟩
      apply guarded_setRow_of_but
      refine ⟨other, apart, ?_, ?_⟩
      · rw [same.belongs]
        exact belongs
      · rw [protects, same.row]
        exact guards
    · rw [if_neg goes]
      refine ⟨?_, sound.touched⟩
      intro pid value lives first
      rcases only rfl pid value lives first with
        but | back | ⟨⟨asks, _⟩, _⟩
      · exact .inl (guarded_setRow_of_but none but)
      · exact .inr back
      · exact absurd asks goes
  | false =>
    rw [if_neg (by simp)]
    by_cases goes : (asked && (system.row app).isSome) = true
    · rw [if_pos goes]
      have same := restorePids_same app outcome (system.original app) system
      refine ⟨?_, touched_restorePids app outcome _ sound.touched⟩
      have written : ∀ entry ∈ system.original app,
          system.alive entry.1 = true → system.Guarded entry.1 ∨
              system.first entry.1 = some entry.2 := by
        intro entry member lives
        exact (right goes entry member lives).2.symm.imp_left (kept entry.1)
      have before : ∀ pid value, system.alive pid = true →
          system.first pid = some value → system.Guarded pid ∨
            system.score pid = value ∨
              (False ∧ pid ∈ (system.original app).map Prod.fst) := by
        intro pid value lives first
        exact (sound.settled pid value lives first).imp_right .inl
      have restored := settled_restorePids app outcome (system.original app)
        written before (fun never => never.elim)
      exact settled_mono restored fun pid guarded =>
        (same.guarded_iff pid).mpr guarded
    · rw [if_neg goes]
      exact sound

theorem sound_spawn (sound : Sound system) (pid : ℕ) (score : ℤ)
    (belongs : App → Bool) : Sound (system.step (.spawn pid score belongs)) := by
  simp only [step]
  split
  · exact sound
  · constructor
    · intro other value lives first
      by_cases own : other = pid
      · simp [own] at first
      · have before := sound.settled other value
          (by simpa [own] using lives) (by simpa [own] using first)
        rcases before with ⟨app, member, guards⟩ | back
        · exact .inl ⟨app, by simpa [own] using member, guards⟩
        · exact .inr (by simpa [own] using back)
    · intro other known
      by_cases own : other = pid
      · simp [own] at known
      · exact sound.touched other (by simpa [own] using known)

theorem sound_step (sound : Sound system) (label : OomStep App)
    (calm : FollowsPriority system label) : Sound (system.step label) := by
  cases label with
  | spawn pid score belongs => exact sound_spawn sound pid score belongs
  | exit pid =>
    refine ⟨?_, sound.touched⟩
    intro other value lives first
    by_cases own : other = pid
    · simp [step, own] at lives
    · exact sound.settled other value (by simpa [step, own] using lives) first
  | setPriority app critical stored found outcome =>
    exact sound_setPriority sound calm
  | setToControl app controlled critical stored found outcome =>
    exact sound_setToControl sound calm
  | launch app found outcome =>
    exact ⟨settled_adjust sound.settled outcome fun guards => .inl guards,
      touched_adjust sound.touched app _ found outcome⟩
  | setOomScore app found outcome =>
    refine ⟨settled_adjust sound.settled outcome ?_,
      touched_adjust sound.touched app _ found outcome⟩
    intro raised
    cases known : system.row app with
    | none =>
      rw [known] at raised
      cases raised
    | some row =>
      have critical : row.critical = true := by simpa [known] using raised
      apply (calm row known critical).imp_left
      intro controlled
      obtain ⟨_, _⟩ := row
      cases controlled
      cases critical
      simp [protects, known]
  | purge app asked deleted outcome => exact sound_purge sound calm

/-! ## Runs -/

omit [DecidableEq App] in
theorem oomFollows_of_sound (sound : Sound system) : OomFollows system := by
  constructor
  · intro pid value lives first differs carries
    rcases sound.settled pid value lives first with guarded | back
    · exact guarded
    · exact absurd (back.symm.trans carries) differs
  · intro pid value lives first free
    exact (sound.settled pid value lives first).resolve_left free

omit [DecidableEq App] in
theorem mem_restoredPids {entries : List (ℕ × ℤ)}
    (member : pid ∈ system.restoredPids outcome entries) :
    ∃ entry ∈ entries, entry.1 = pid ∧ system.alive entry.1 = true := by
  induction entries with
  | nil => cases member
  | cons entry entries ih =>
    have later : pid ∈ system.restoredPids outcome entries →
        ∃ one ∈ entry :: entries, one.1 = pid ∧ system.alive one.1 = true := by
      intro among
      obtain ⟨one, listed, rest⟩ := ih among
      exact ⟨one, List.mem_cons_of_mem _ listed, rest⟩
    unfold restoredPids at member
    split at member
    · rename_i lives
      split at member
      · rcases List.mem_cons.mp member with rfl | among
        · exact ⟨entry, List.mem_cons_self, rfl, lives⟩
        · exact later among
      · cases member
    · exact later member

/-- A purge under the condition restores adjusted processes. -/
theorem restoresAdjusted_of_calm (label : OomStep App)
    (calm : FollowsPriority system label) : RestoresAdjusted system label := by
  cases label with
  | purge app asked deleted outcome =>
    intro goes pid member
    obtain ⟨entry, listed, rfl, lives⟩ := mem_restoredPids member
    exact (calm.1 goes entry listed lives).1
  | _ => trivial

/-- In every run whose steps follow the priority, so does the protection, and
no restore writes to a process that was not adjusted. -/
theorem runs_protect_critical_apps (alive : ℕ → Bool) (belongs : ℕ → App → Bool)
    (score : ℕ → ℤ) (row : App → Option OomRow) (labels : List (OomStep App))
    (calm : Runs.EveryStep step FollowsPriority
      (init alive belongs score row) labels) :
    Runs.EveryPrefix step OomFollows (init alive belongs score row) labels ∧
      Runs.EveryStep step RestoresAdjusted (init alive belongs score row)
        labels := by
  have initially : Sound (init alive belongs score row) := by
    constructor
    · intro pid value _ first
      cases first
    · intro pid known
      cases known
  have preserved : ∀ (system : OomSystem App) label, Sound system →
      FollowsPriority system label → Sound (system.step label) := by
    intro system label sound calm
    exact sound_step sound label calm
  constructor
  · exact Runs.everyPrefix_of_invariant Sound preserved
      (fun _ sound => oomFollows_of_sound sound) initially calm
  · exact Runs.everyStep_of_guarded Sound preserved
      (fun _ label _ calm => restoresAdjusted_of_calm label calm) initially
      calm

def twoPatterns (pid : ℕ) (app : Bool) : Bool :=
  if app then pid = 7 else pid = 8

/-- Two apps without rows. -/
def twoApps : OomSystem Bool :=
  init (fun _ => true) twoPatterns (fun _ => 100) (fun _ => none)

/-- One app is protected and purged; the other is demoted when its process has
ended, and the PID is used again. -/
def protectedAndPurged : List (OomStep Bool) :=
  let outcome := fun _ => PidOutcome.accepting
  [.setToControl true true true true [7] outcome,
    .setToControl false true false true [] outcome,
    .setPriority false true true [8] outcome, .launch false [8] outcome,
    .exit 8, .setPriority false false true [] outcome,
    .spawn 8 0 (fun _ => false), .setOomScore true [7] outcome,
    .purge true true true outcome]

theorem runs_protect_critical_apps_witness :
    Runs.EveryPrefix step OomFollows twoApps protectedAndPurged ∧
      Runs.EveryStep step RestoresAdjusted twoApps protectedAndPurged :=
  runs_protect_critical_apps (fun _ => true) twoPatterns (fun _ => 100)
    (fun _ => none) protectedAndPurged (by decide)

/-- A demoted app keeps the protection, and the purge of an app writes to a
process that uses one of its PIDs again. -/
theorem demoted_app_stays_protected :
    ¬ Runs.EveryPrefix step OomFollows twoApps
        [.setToControl true true true true [7] (fun _ => .accepting),
          .setPriority true false true [] (fun _ => .accepting)] ∧
      ¬ Runs.EveryStep step RestoresAdjusted twoApps
        [.setToControl true true true true [7] (fun _ => .accepting),
          .exit 7, .spawn 7 0 (fun _ => false),
          .purge true true true (fun _ => .accepting)] := by
  constructor
  · intro follows
    have free : ¬ (Runs.run step twoApps
        [.setToControl true true true true [7] (fun _ => .accepting),
          .setPriority true false true [] (fun _ => .accepting)]).Guarded
            7 := by
      unfold Guarded
      decide
    have back := follows.finally.back 7 100 (by decide)
      (by decide) free
    revert back
    decide
  · intro restores
    have adjusted := restores.2.2.2.1 (by decide) 7 (by decide)
    revert adjusted
    decide

end OomSystem
end SmarTune
