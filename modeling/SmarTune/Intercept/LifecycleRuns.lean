import SmarTune.Intercept.LifecycleTables
import Mathlib.Data.List.Chain

/-!
# Runs that tell the lifecycle

While the tables stay in line, an app is told up as long as it has live PIDs.
-/

namespace SmarTune
namespace AppTracker

variable {App : Type} [DecidableEq App] {system : AppTracker App}

/-- The notifications follow the live PIDs. -/
structure ToldSound (system : AppTracker App) : Prop where
  up : ∀ app, system.toldUp app = true ↔ system.live app ≠ ∅
  alternates : ∀ app, (system.notices app).IsChain
    fun later earlier => later.isUp ≠ earlier.isUp

theorem toldSound_init (alive : ℕ → Bool) :
    ToldSound (init alive : AppTracker App) := by
  constructor <;> simp [init, toldUp, notices]

variable {after : AppTracker App} {app other : App} {status : AppStatus}
  {pid timer : ℕ} {runningNow : Option Bool} {persisted : Option AppStatus}

theorem toldSound_silent (told : ToldSound system)
    (sent : after.sent = system.sent)
    (live : ∀ app, after.live app ≠ ∅ ↔ system.live app ≠ ∅) :
    ToldSound after := by
  have notices : ∀ app, after.notices app = system.notices app := by
    intro app
    rw [AppTracker.notices, sent]
    rfl
  constructor
  · intro app
    rw [toldUp, notices, live]
    exact told.up app
  · intro app
    rw [notices]
    exact told.alternates app

theorem notices_cons (sent : after.sent = (app, status) :: system.sent)
    (other : App) :
    after.notices other =
      if app = other then status :: system.notices other
      else system.notices other := by
  by_cases own : app = other
  · simp [notices, sent, own]
  · simp [notices, sent, own]

/-- A notification in turn about an app, whose live PIDs it follows. -/
theorem toldSound_tell (told : ToldSound system)
    (sent : after.sent = (app, status) :: system.sent)
    (turn : ∀ earlier ∈ (system.notices app).head?, status.isUp ≠ earlier.isUp)
    (own : status.isUp = true ↔ after.live app ≠ ∅)
    (others : ∀ other, other ≠ app → after.live other = system.live other) :
    ToldSound after := by
  constructor
  · intro other
    rw [toldUp, notices_cons sent]
    by_cases here : app = other
    · subst here
      simpa using own
    · rw [if_neg here, others other (Ne.symm here)]
      exact told.up other
  · intro other
    rw [notices_cons sent]
    by_cases here : app = other
    · subst here
      rw [if_pos rfl, List.isChain_cons]
      exact ⟨turn, told.alternates app⟩
    · rw [if_neg here]
      exact told.alternates other

theorem turn_of_idle (told : ToldSound system) (idle : system.live app = ∅)
    (up : status.isUp = true) :
    ∀ earlier ∈ (system.notices app).head?, status.isUp ≠ earlier.isUp := by
  intro earlier last same
  rw [up] at same
  have now : system.toldUp app = true := by
    rw [toldUp, Option.mem_def.mp last]
    exact same.symm
  exact (told.up app).mp now idle

theorem turn_of_live (told : ToldSound system) (live : system.live app ≠ ∅) :
    ∀ earlier ∈ (system.notices app).head?,
      AppStatus.stopped.isUp ≠ earlier.isUp := by
  intro earlier last same
  have now := (told.up app).mpr live
  rw [toldUp, Option.mem_def.mp last] at now
  have up : earlier.isUp = true := now
  rw [up] at same
  cases same

/-! ## Launches -/

theorem register_live_ne (pid : ℕ)
    (app : App) : (system.register pid app).live app ≠ ∅ := by
  simp [register]

theorem register_live_other (pid : ℕ) (apart : other ≠ app) :
    (system.register pid app).live other = system.live other := by
  simp [register, apart]

theorem toldSound_register (told : ToldSound system) {status : Option AppStatus}
    (silent : status = none → system.live app ≠ ∅)
    (speaks : ∀ told ∈ status, told.isUp = true ∧ system.live app = ∅) :
    ToldSound ((system.register pid app).tell app status) := by
  cases status with
  | none =>
    have same : ((system.register pid app).tell app none).sent =
        system.sent := rfl
    refine toldSound_silent told same ?_
    intro other
    by_cases own : other = app
    · subst own
      exact iff_of_true (register_live_ne pid other) (silent rfl)
    · exact iff_of_eq (congrArg (· ≠ ∅) (register_live_other pid own))
  | some status =>
    obtain ⟨up, idle⟩ := speaks status rfl
    apply toldSound_tell told rfl (turn_of_idle told idle up)
    · exact iff_of_true up (register_live_ne pid app)
    · exact fun other apart => register_live_other pid apart

theorem preferPersistedLimitedStatus_isUp (persisted : Option AppStatus) :
    (preferPersistedLimitedStatus persisted .running).isUp = true := by
  unfold preferPersistedLimitedStatus
  split <;> rfl

theorem adoptPid_sent (app : App)
    (pid : ℕ) : (adoptPid app system pid).sent = system.sent := by
  unfold adoptPid
  split <;> rfl

theorem adoptPid_live_other (pid : ℕ) (apart : other ≠ app) :
    (adoptPid app system pid).live other = system.live other := by
  unfold adoptPid
  split
  · rfl
  · exact register_live_other pid apart

theorem foldl_adoptPid_sent (pids : List ℕ) (app : App)
    (system : AppTracker App) :
    (pids.foldl (adoptPid app) system).sent = system.sent := by
  induction pids generalizing system with
  | nil => rfl
  | cons pid pids ih => rw [List.foldl_cons, ih, adoptPid_sent]

theorem foldl_adoptPid_live_other (pids : List ℕ) (apart : other ≠ app)
    (system : AppTracker App) :
    (pids.foldl (adoptPid app) system).live other = system.live other := by
  induction pids generalizing system with
  | nil => rfl
  | cons pid pids ih => rw [List.foldl_cons, ih, adoptPid_live_other pid apart]

theorem foldl_adoptPid_live_mono (pids : List ℕ) (app : App)
    (system : AppTracker App) :
    system.live app ⊆ (pids.foldl (adoptPid app) system).live app := by
  induction pids generalizing system with
  | nil => exact subset_rfl
  | cons pid pids ih =>
    refine subset_trans ?_ (ih _)
    unfold adoptPid
    split
    · exact subset_rfl
    · simp [register, Finset.subset_insert]

theorem foldl_adoptPid_live (pids : List ℕ) (app : App)
    (system : AppTracker App)
    (found : ∃ pid ∈ pids, (system.launched pid).isNone = true) :
    (pids.foldl (adoptPid app) system).live app ≠ ∅ := by
  induction pids generalizing system with
  | nil => simp at found
  | cons pid pids ih =>
    rw [List.foldl_cons]
    cases known : system.launched pid with
    | some holder =>
      have same : adoptPid app system pid = system := by
        simp [adoptPid, known]
      rw [same]
      apply ih
      obtain ⟨other, member, unknown⟩ := found
      rcases List.mem_cons.mp member with rfl | later
      · simp [known] at unknown
      · exact ⟨other, later, unknown⟩
    | none =>
      have first : pid ∈ (adoptPid app system pid).live app := by
        simp [adoptPid, known, register]
      exact Finset.ne_empty_of_mem (foldl_adoptPid_live_mono pids app _ first)

/-! ## A step -/

/-- The tables agree, and the notifications follow them. -/
structure Sound (system : AppTracker App) : Prop where
  tables : TablesSound system
  told : ToldSound system

theorem sound_execEvent (sound : Sound system) {parents : Option (List ℕ)}
    {path : LaunchPath} {app : Option App}
    (calm : InLine system (.execEvent pid parents app path)) :
    Sound (system.execEvent pid parents path app) := by
  obtain ⟨tables, told⟩ := sound
  cases app with
  | none => exact ⟨tables, told⟩
  | some app =>
    simp only [execEvent]
    split
    · rename_i open_
      rw [Bool.and_eq_true, Bool.not_eq_true'] at open_
      obtain ⟨unchecked, own, joins⟩ := calm open_.1 open_.2 app rfl
      refine ⟨tablesSound_tell (tablesSound_register tables unchecked own)
        app _, ?_⟩
      apply toldSound_register told
      · intro silent
        cases path with
        | free => simpa [LaunchPath.status] using silent
        | resumed => cases silent
        | vanished => exact joins
        | queued => cases silent
      · intro status spoken
        cases path with
        | free =>
          obtain ⟨idle, same⟩ : system.live app = ∅ ∧ .running = status := by
            simpa [LaunchPath.status] using spoken
          subst same
          exact ⟨rfl, idle⟩
        | resumed =>
          cases spoken
          exact ⟨rfl, joins⟩
        | vanished => cases spoken
        | queued =>
          cases spoken
          exact ⟨rfl, joins⟩
    · exact ⟨tables, told⟩

theorem sound_fire (sound : Sound system)
    (calm : InLine system (.fire timer runningNow)) :
    Sound (system.fire timer runningNow) := by
  obtain ⟨tables, told⟩ := sound
  unfold fire
  split
  · rename_i pid app waits
    split
    · have ended := tablesSound_cancelTimer tables timer
      rw [cancelTimer_waiting waits] at ended
      exact ⟨ended, toldSound_silent told rfl fun _ => Iff.rfl⟩
    · rename_i gone
      have gone : system.alive pid = false := by simpa using gone
      have stays : (system.live app).erase pid ≠ ∅ → runningNow ≠ some false :=
        calm (pid, app) (by simp [firesFor, waits, gone])
      obtain ⟨_, launched, open_⟩ := tables.waiting timer pid app waits
      have member : pid ∈ system.live app :=
        (tables.live app pid).mpr ⟨launched, open_⟩
      have left : (if (system.live app).erase pid ≠ ∅ ∧
          runningNow ≠ some false then (system.live app).erase pid
            else ∅) = (system.live app).erase pid := by
        by_cases last : (system.live app).erase pid = ∅
        · simp [last]
        · rw [if_pos ⟨last, stays last⟩]
      simp only [left]
      refine ⟨tablesSound_tell (tablesSound_check tables waits gone) app _, ?_⟩
      have others : ∀ other, other ≠ app →
          Function.update system.live app ((system.live app).erase pid) other =
            system.live other := by
        intro other apart
        simp [apart]
      by_cases last : (system.live app).erase pid = ∅
      · rw [if_neg (by simp [last])]
        apply toldSound_tell told rfl
          (turn_of_live told (Finset.ne_empty_of_mem member)) _ others
        simp [tell, last, AppStatus.isUp]
      · rw [if_pos ⟨last, stays last⟩]
        have silent : (tell { system with
            handled := Function.update system.handled pid false
            exitChecked := Function.update system.exitChecked pid true
            live := Function.update system.live app
              ((system.live app).erase pid)
            timers := Function.update system.timers timer
              (.checked pid) } app none).sent = system.sent := rfl
        refine toldSound_silent told silent ?_
        intro other
        by_cases own : other = app
        · subst own
          simpa [tell] using iff_of_true last (Finset.ne_empty_of_mem member)
        · exact iff_of_eq (congrArg (· ≠ ∅) (others other own))
  · exact ⟨tables, told⟩

theorem sound_adopt (sound : Sound system) {pids : List ℕ}
    (calm : InLine system (.adopt app pids)) :
    Sound (system.adopt app pids) := by
  obtain ⟨tables, told⟩ := sound
  obtain ⟨idle, found, unchecked⟩ := calm
  constructor
  · exact tablesSound_tell
      (tablesSound_foldl_adoptPid pids app tables unchecked) app _
  · have sent : (system.adopt app pids).sent = (app, .running) :: system.sent :=
      congrArg ((app, AppStatus.running) :: ·)
        (foldl_adoptPid_sent pids app system)
    apply toldSound_tell told sent (turn_of_idle told idle rfl)
    · exact iff_of_true rfl (foldl_adoptPid_live pids app system found)
    · exact fun other apart => foldl_adoptPid_live_other pids apart system

theorem sound_scanProcess (sound : Sound system) (parents : Option (List ℕ))
    (persisted : Option AppStatus) (app : Option App)
    (unchecked : system.exitChecked pid = false) :
    Sound (system.scanProcess pid parents persisted app) := by
  obtain ⟨tables, told⟩ := sound
  cases app with
  | none => exact ⟨tables, told⟩
  | some app =>
    simp only [scanProcess]
    split
    · exact ⟨tables, told⟩
    · rename_i unknown
      have unknown : system.launched pid = none := by
        by_contra known
        apply unknown
        rw [Option.isSome_iff_ne_none.mpr known]
        rfl
      have registered : TablesSound (system.register pid app) :=
        tablesSound_register tables unchecked (by simp [unknown])
      constructor
      · exact tablesSound_same (tablesSound_tell registered app _)
          rfl rfl rfl rfl rfl rfl rfl
      · have launched : ToldSound ((system.register pid app).tell app
            (if system.live app = ∅ then
              some (preferPersistedLimitedStatus persisted .running)
            else none)) := by
          apply toldSound_register told
          · intro silent
            simpa using silent
          · intro status spoken
            obtain ⟨idle, same⟩ : system.live app = ∅ ∧
                preferPersistedLimitedStatus persisted .running =
                  status := by
              simpa using spoken
            subst same
            exact ⟨preferPersistedLimitedStatus_isUp persisted, idle⟩
        exact toldSound_silent launched rfl fun _ => Iff.rfl

theorem sound_scanReport (sound : Sound system) {runningNow : Bool}
    (calm : InLine system (.scanReport app runningNow persisted)) :
    Sound (system.scanReport app runningNow persisted) := by
  obtain ⟨tables, told⟩ := sound
  unfold scanReport
  split
  · exact ⟨tables, told⟩
  · rename_i undetected
    obtain ⟨rfl, idle, first⟩ := calm (by simpa using undetected)
    have first : system.notices app = [] := by simpa using first
    refine ⟨tablesSound_tell tables app _, ?_⟩
    apply toldSound_tell told rfl
    · simp [first]
    · simp [tell, idle, AppStatus.isUp]
    · exact fun _ _ => rfl

omit [DecidableEq App] in
theorem cancelTimer_sent (timer : ℕ) :
    (system.cancelTimer timer).sent = system.sent := by
  unfold cancelTimer
  split <;> rfl

omit [DecidableEq App] in
theorem cancelTimer_live (timer : ℕ) :
    (system.cancelTimer timer).live = system.live := by
  unfold cancelTimer
  split <;> rfl

omit [DecidableEq App] in
theorem schedule_sent : system.schedule.sent = system.sent := by
  unfold schedule
  split
  · rename_i pid _
    cases system.pendingExit pid with
    | none =>
      dsimp only
      split <;> rfl
    | some timer =>
      dsimp only
      split <;> exact cancelTimer_sent timer
  · rfl

omit [DecidableEq App] in
theorem schedule_live : system.schedule.live = system.live := by
  unfold schedule
  split
  · rename_i pid _
    cases system.pendingExit pid with
    | none =>
      dsimp only
      split <;> rfl
    | some timer =>
      dsimp only
      split <;> exact cancelTimer_live timer
  · rfl

theorem sound_step (sound : Sound system) (label : LifecycleStep App)
    (calm : InLine system label) : Sound (system.step label) := by
  cases label with
  | spawn pid =>
    simp only [step]
    split
    · exact sound
    · rename_i dead
      obtain ⟨unknown, finished⟩ := calm (by simpa using dead)
      exact ⟨tablesSound_spawn sound.tables (by simpa using unknown) finished,
        toldSound_silent sound.told rfl fun _ => Iff.rfl⟩
  | die pid =>
    exact ⟨tablesSound_die sound.tables pid,
      toldSound_silent sound.told rfl fun _ => Iff.rfl⟩
  | execEvent pid parents app path => exact sound_execEvent sound calm
  | exitEvent pid =>
    simp only [step, exitEvent]
    split
    · exact ⟨tablesSound_same sound.tables rfl rfl rfl rfl rfl rfl rfl,
        toldSound_silent sound.told rfl fun _ => Iff.rfl⟩
    · exact sound
  | schedule =>
    refine ⟨tablesSound_schedule sound.tables calm, ?_⟩
    apply toldSound_silent sound.told schedule_sent
    intro app
    rw [schedule_live]
  | fire timer runningNow => exact sound_fire sound calm
  | untrack timer =>
    refine ⟨tablesSound_untrack sound.tables timer, ?_⟩
    simp only [step, untrack]
    split
    · split <;> exact toldSound_silent sound.told rfl fun _ => Iff.rfl
    · exact sound.told
  | unpend timer =>
    refine ⟨tablesSound_unpend sound.tables timer, ?_⟩
    simp only [step, unpend]
    split
    · exact toldSound_silent sound.told rfl fun _ => Iff.rfl
    · exact sound.told
  | adopt app pids => exact sound_adopt sound calm
  | scanStart =>
    exact ⟨tablesSound_same sound.tables rfl rfl rfl rfl rfl rfl rfl,
      toldSound_silent sound.told rfl fun _ => Iff.rfl⟩
  | scanProcess pid parents app persisted =>
    exact sound_scanProcess sound parents persisted app calm
  | scanReport app runningNow persisted => exact sound_scanReport sound calm

/-! ## Runs -/

theorem lifecycleTold_of_sound (sound : Sound system) :
    LifecycleTold system := by
  refine ⟨sound.told.alternates, ?_, sound.tables.unraised⟩
  intro app up
  obtain ⟨pid, member⟩ :=
    Finset.nonempty_iff_ne_empty.mpr ((sound.told.up app).mp up)
  exact ⟨pid, (sound.tables.live app pid).mp member⟩

omit [DecidableEq App] in
theorem dead_of_last (tables : TablesSound system) {gone : ℕ}
    (dead : system.alive gone = false) (last : (system.live app).erase gone = ∅)
    (launched : system.launched pid = some app) :
    system.alive pid = false := by
  by_cases own : pid = gone
  · rw [own]
    exact dead
  · apply tables.dead
    by_contra unchecked
    have member : pid ∈ (system.live app).erase gone :=
      Finset.mem_erase.mpr ⟨own, (tables.live app pid).mpr
        ⟨launched, by simpa using unchecked⟩⟩
    rw [last] at member
    cases member

omit [DecidableEq App] in
theorem tell_sent_stopped {status : Option AppStatus}
    (sent : (system.tell app status).sent = (other, .stopped) :: system.sent) :
    other = app ∧ status = some .stopped := by
  cases status with
  | none => simp [tell] at sent
  | some status =>
    obtain ⟨same, stopped⟩ : app = other ∧ status = .stopped := by
      simpa [tell] using sent
    exact ⟨same.symm, by rw [stopped]⟩

theorem stopsDead_fire (sound : Sound system)
    (calm : InLine system (.fire timer runningNow)) :
    StopsDead system (.fire timer runningNow) := by
  intro other sent pid launched
  simp only [step, fire] at sent
  split at sent
  · rename_i gone app waits
    split at sent
    · exact absurd sent.symm (List.cons_ne_self _ _)
    · rename_i dead
      have dead : system.alive gone = false := by simpa using dead
      obtain ⟨same, stopped⟩ := tell_sent_stopped sent
      subst same
      have last : (system.live other).erase gone = ∅ := by
        by_contra rest
        have stays := calm (gone, other) (by simp [firesFor, waits, dead]) rest
        rw [if_pos ⟨rest, stays⟩] at stopped
        cases stopped
      exact dead_of_last sound.tables dead last launched
  · exact absurd sent.symm (List.cons_ne_self _ _)

theorem stopsDead_execEvent (pid : ℕ) (parents : Option (List ℕ))
    (app : Option App) (path : LaunchPath) :
    StopsDead system (.execEvent pid parents app path) := by
  intro other sent
  cases app with
  | none => exact absurd sent.symm (List.cons_ne_self _ _)
  | some app =>
    simp only [step, execEvent] at sent
    split at sent
    · obtain ⟨_, stopped⟩ := tell_sent_stopped sent
      cases path with
      | free => simp [LaunchPath.status] at stopped
      | resumed => cases stopped
      | vanished => cases stopped
      | queued => cases stopped
    · exact absurd sent.symm (List.cons_ne_self _ _)

theorem stopsDead_scanProcess (pid : ℕ) (parents : Option (List ℕ))
    (app : Option App) (persisted : Option AppStatus) :
    StopsDead system (.scanProcess pid parents app persisted) := by
  intro other sent
  cases app with
  | none => exact absurd sent.symm (List.cons_ne_self _ _)
  | some app =>
    simp only [step, scanProcess] at sent
    split at sent
    · exact absurd sent.symm (List.cons_ne_self _ _)
    · obtain ⟨_, stopped⟩ := tell_sent_stopped sent
      have up := preferPersistedLimitedStatus_isUp persisted
      split at stopped
      · rw [Option.some.inj stopped] at up
        cases up
      · cases stopped

theorem stopsDead_scanReport (sound : Sound system) {runningNow : Bool}
    (calm : InLine system (.scanReport app runningNow persisted)) :
    StopsDead system (.scanReport app runningNow persisted) := by
  intro other sent pid launched
  simp only [step, scanReport] at sent
  split at sent
  · exact absurd sent.symm (List.cons_ne_self _ _)
  · rename_i undetected
    obtain ⟨_, idle, _⟩ := calm (by simpa using undetected)
    obtain ⟨same, _⟩ := tell_sent_stopped sent
    subst same
    apply sound.tables.dead
    by_contra unchecked
    have member := (sound.tables.live other pid).mpr
      ⟨launched, by simpa using unchecked⟩
    rw [idle] at member
    cases member

theorem stopsDead_of_sound (sound : Sound system) (label : LifecycleStep App)
    (calm : InLine system label) : StopsDead system label := by
  cases label with
  | execEvent pid parents app path =>
    exact stopsDead_execEvent pid parents app path
  | fire timer runningNow => exact stopsDead_fire sound calm
  | scanProcess pid parents app persisted =>
    exact stopsDead_scanProcess pid parents app persisted
  | scanReport app runningNow persisted => exact stopsDead_scanReport sound calm
  | adopt app pids =>
    intro other sent
    have adopted := foldl_adoptPid_sent pids app system
    simp only [step, adopt] at sent
    rw [← adopted] at sent
    obtain ⟨_, stopped⟩ := tell_sent_stopped sent
    cases stopped
  | spawn pid =>
    intro other sent
    simp only [step] at sent
    split at sent <;> exact absurd sent.symm (List.cons_ne_self _ _)
  | exitEvent pid =>
    intro other sent
    simp only [step, exitEvent] at sent
    split at sent <;> exact absurd sent.symm (List.cons_ne_self _ _)
  | schedule =>
    intro other sent
    rw [step, schedule_sent] at sent
    exact absurd sent.symm (List.cons_ne_self _ _)
  | untrack timer =>
    intro other sent
    simp only [step, untrack] at sent
    split at sent
    · split at sent <;> exact absurd sent.symm (List.cons_ne_self _ _)
    · exact absurd sent.symm (List.cons_ne_self _ _)
  | unpend timer =>
    intro other sent
    simp only [step, unpend] at sent
    split at sent <;> exact absurd sent.symm (List.cons_ne_self _ _)
  | die pid =>
    intro other sent
    exact absurd sent.symm (List.cons_ne_self _ _)
  | scanStart =>
    intro other sent
    exact absurd sent.symm (List.cons_ne_self _ _)

/-- In every run whose steps keep the tables in line, the notifications tell
the lifecycle of every app, no deferred check raises, and stopped is sent only
when no tracked process is alive. -/
theorem runs_tell_the_lifecycle (alive : ℕ → Bool)
    (labels : List (LifecycleStep App))
    (calm : Runs.EveryStep step InLine (init alive) labels) :
    Runs.EveryPrefix step LifecycleTold (init alive) labels ∧
      Runs.EveryStep step StopsDead (init alive) labels := by
  have initially : Sound (init alive : AppTracker App) :=
    ⟨tablesSound_init alive, toldSound_init alive⟩
  have preserved : ∀ (system : AppTracker App) label, Sound system →
      InLine system label → Sound (system.step label) := by
    intro system label sound calm
    exact sound_step sound label calm
  constructor
  · exact Runs.everyPrefix_of_invariant Sound preserved
      (fun _ sound => lifecycleTold_of_sound sound) initially calm
  · exact Runs.everyStep_of_guarded Sound preserved
      (fun _ label sound calm => stopsDead_of_sound sound label calm)
      initially calm

/-- An app is scanned, forks a second process that execs, loses a thread, ends,
and comes back; another is found running and adopted. -/
def launchedAndStopped : List (LifecycleStep Bool) :=
  [.scanStart, .scanReport true false none,
    .execEvent 7 (some [1]) (some true) .queued,
    .execEvent 8 (some [1]) (some true) .free,
    .exitEvent 7, .schedule, .fire 0 none,
    .die 7, .exitEvent 7, .schedule, .exitEvent 7, .schedule,
    .fire 2 (some true), .untrack 2, .unpend 2,
    .die 8, .exitEvent 8, .schedule, .fire 3 none, .untrack 3, .unpend 3,
    .spawn 7, .execEvent 7 (some []) (some true) .free,
    .adopt false [9, 7], .scanStart,
    .scanProcess 10 (some [1]) (some false) (some .limited)]

theorem runs_tell_the_lifecycle_witness :
    Runs.EveryPrefix step LifecycleTold (init fun _ => true)
        launchedAndStopped ∧
      Runs.EveryStep step StopsDead (init fun _ => true) launchedAndStopped :=
  runs_tell_the_lifecycle (fun _ => true) launchedAndStopped (by decide)

/-- A further exit event during the check of its PID leads to a check that
tells stopped again and raises; and of two processes that end together, the
second is told stopped again. -/
theorem exit_event_during_check_stops_twice :
    ¬ Runs.EveryPrefix step LifecycleTold
        (init (fun _ => true) : AppTracker Bool)
        [.execEvent 7 (some []) (some true) .free, .die 7, .exitEvent 7,
          .schedule, .fire 0 none, .exitEvent 7, .schedule, .untrack 0,
          .unpend 0, .fire 1 none, .untrack 1] ∧
      ¬ Runs.EveryPrefix step LifecycleTold
        (init (fun _ => true) : AppTracker Bool)
        [.execEvent 7 (some []) (some true) .free,
          .execEvent 8 (some []) (some true) .free, .die 7, .die 8,
          .exitEvent 7, .schedule, .exitEvent 8, .schedule,
          .fire 0 (some false), .untrack 0, .unpend 0, .fire 1 none] := by
  constructor
  · intro told
    exact told.finally.unraised 1 (by decide)
  · intro told
    have alternates := told.finally.alternates true
    revert alternates
    decide

end AppTracker
end SmarTune
