import SmarTune.Intercept.Lifecycle

/-!
# The tables of the lifecycle

The three tables of the intercept thread and the deferred checks stay in line:
the live PIDs of an app are the PIDs launched under it that no check has found
gone, and a PID has one check waiting or under way.
-/

namespace SmarTune
namespace AppTracker

variable {App : Type} {system : AppTracker App}

/-- The tables and the deferred checks agree. -/
structure TablesSound (system : AppTracker App) : Prop where
  waiting : ∀ timer pid app, system.timers timer = .waiting pid app →
    system.pendingExit pid = some timer ∧ system.launched pid = some app ∧
      system.exitChecked pid = false
  checked : ∀ timer pid, system.timers timer = .checked pid →
    (system.launched pid).isSome = true ∧ system.exitChecked pid = true
  once : ∀ first second pid, system.timers first = .checked pid →
    system.timers second = .checked pid → first = second
  untracked : ∀ timer pid, system.timers timer = .untracked pid →
    system.exitChecked pid = true
  unraised : ∀ timer, system.timers timer ≠ .raised
  fresh : ∀ timer, system.nextTimer ≤ timer → system.timers timer = .unused
  dead : ∀ pid, system.exitChecked pid = true → system.alive pid = false
  underWay : ∀ pid, (system.launched pid).isSome = true →
    system.exitChecked pid = true → ∃ timer, system.timers timer = .checked pid
  live : ∀ app pid, pid ∈ system.live app ↔
    system.launched pid = some app ∧ system.exitChecked pid = false

theorem tablesSound_same {after : AppTracker App} (sound : TablesSound system)
    (alive : after.alive = system.alive)
    (exitChecked : after.exitChecked = system.exitChecked)
    (launched : after.launched = system.launched)
    (live : after.live = system.live)
    (pendingExit : after.pendingExit = system.pendingExit)
    (timers : after.timers = system.timers)
    (nextTimer : after.nextTimer = system.nextTimer) : TablesSound after := by
  constructor
  · rw [timers, pendingExit, launched, exitChecked]
    exact sound.waiting
  · rw [timers, launched, exitChecked]
    exact sound.checked
  · rw [timers]
    exact sound.once
  · rw [timers, exitChecked]
    exact sound.untracked
  · rw [timers]
    exact sound.unraised
  · rw [timers, nextTimer]
    exact sound.fresh
  · rw [exitChecked, alive]
    exact sound.dead
  · rw [launched, exitChecked, timers]
    exact sound.underWay
  · rw [live, launched, exitChecked]
    exact sound.live

theorem tablesSound_init (alive : ℕ → Bool) :
    TablesSound (init alive : AppTracker App) := by
  constructor <;> simp [init]

theorem tablesSound_tell (sound : TablesSound system) (app : App)
    (status : Option AppStatus) : TablesSound (system.tell app status) := by
  cases status with
  | none => exact sound
  | some status => exact tablesSound_same sound rfl rfl rfl rfl rfl rfl rfl

variable {timer pid : ℕ} {app : App}

theorem TablesSound.lt_next (sound : TablesSound system)
    (used : system.timers timer ≠ .unused) : timer < system.nextTimer := by
  by_contra beyond
  exact used (sound.fresh timer (Nat.le_of_not_lt beyond))

/-! ## Processes -/

theorem tablesSound_spawn (sound : TablesSound system) {pid : ℕ}
    (unknown : system.launched pid = none)
    (finished : ∀ timer < system.nextTimer,
      system.timers timer ≠ .untracked pid) :
    TablesSound
      { system with
        alive := Function.update system.alive pid true
        exitChecked := Function.update system.exitChecked pid false } := by
  constructor
  · intro timer other app waits
    obtain ⟨pending, launched, unchecked⟩ := sound.waiting timer other app waits
    refine ⟨pending, launched, ?_⟩
    by_cases own : other = pid
    · simp [own]
    · simp [own, unchecked]
  · intro timer other checks
    obtain ⟨launched, checked⟩ := sound.checked timer other checks
    have apart : other ≠ pid := by
      intro own
      rw [own, unknown] at launched
      cases launched
    simp [apart, launched, checked]
  · exact sound.once
  · intro timer other untracks
    have apart : other ≠ pid := by
      intro own
      have used : system.timers timer ≠ .unused := by
        intro unused
        have untracks : system.timers timer = .untracked other := untracks
        rw [unused] at untracks
        cases untracks
      exact finished timer (sound.lt_next used) (own ▸ untracks)
    simpa [apart] using sound.untracked timer other untracks
  · exact sound.unraised
  · exact sound.fresh
  · intro other checked
    by_cases own : other = pid
    · simp [own] at checked
    · simpa [own] using sound.dead other (by simpa [own] using checked)
  · intro other launched checked
    by_cases own : other = pid
    · simp [own] at checked
    · exact sound.underWay other launched (by simpa [own] using checked)
  · intro app other
    rw [sound.live]
    by_cases own : other = pid
    · simp [own, unknown]
    · simp [own]

theorem tablesSound_die (sound : TablesSound system) (pid : ℕ) :
    TablesSound
      { system with alive := Function.update system.alive pid false } := by
  refine { sound with dead := ?_ }
  intro other checked
  by_cases own : other = pid
  · simp [own]
  · simpa [own] using sound.dead other checked

/-! ## Launches -/

variable [DecidableEq App]

theorem tablesSound_register (sound : TablesSound system)
    (unchecked : system.exitChecked pid = false)
    (own : ∀ other ∈ system.launched pid, other = app) :
    TablesSound (system.register pid app) := by
  constructor
  · intro timer other held waits
    obtain ⟨pending, launched, open_⟩ := sound.waiting timer other held waits
    refine ⟨pending, ?_, open_⟩
    by_cases here : other = pid
    · subst here
      have same := own held launched
      simp [register, same]
    · simpa [register, here] using launched
  · intro timer other checks
    obtain ⟨launched, checked⟩ := sound.checked timer other checks
    refine ⟨?_, checked⟩
    by_cases here : other = pid
    · simp [register, here]
    · simpa [register, here] using launched
  · exact sound.once
  · exact sound.untracked
  · exact sound.unraised
  · exact sound.fresh
  · exact sound.dead
  · intro other launched checked
    have apart : other ≠ pid := by
      intro here
      have checked : system.exitChecked other = true := checked
      rw [here, unchecked] at checked
      cases checked
    exact sound.underWay other (by simpa [register, apart] using launched)
      checked
  · intro held other
    have before := sound.live held other
    by_cases here : other = pid
    · subst here
      by_cases same : held = app
      · subst same
        simp [register, unchecked]
      · have absent : other ∉ system.live held := by
          intro member
          exact same (own held (before.mp member).1)
        simp [register, same, Ne.symm same, absent]
    · by_cases same : held = app
      · subst same
        simpa [register, here] using before
      · simpa [register, here, same] using before

theorem adoptPid_exitChecked (system : AppTracker App) (app : App) (pid : ℕ) :
    (adoptPid app system pid).exitChecked = system.exitChecked := by
  unfold adoptPid
  split <;> rfl

theorem tablesSound_adoptPid (sound : TablesSound system) (app : App)
    (unchecked : system.exitChecked pid = false) :
    TablesSound (adoptPid app system pid) := by
  unfold adoptPid
  split
  · exact sound
  · rename_i unknown
    have unknown : system.launched pid = none := by simpa using unknown
    exact tablesSound_register sound unchecked (by simp [unknown])

theorem tablesSound_foldl_adoptPid (pids : List ℕ) (app : App)
    (sound : TablesSound system)
    (unchecked : ∀ pid ∈ pids, system.exitChecked pid = false) :
    TablesSound (pids.foldl (adoptPid app) system) := by
  induction pids generalizing system with
  | nil => exact sound
  | cons pid pids ih =>
    apply ih
    · exact tablesSound_adoptPid sound app (unchecked pid List.mem_cons_self)
    · intro other member
      rw [adoptPid_exitChecked]
      exact unchecked other (List.mem_cons_of_mem _ member)

/-! ## Exit events and deferred checks -/

omit [DecidableEq App] in
theorem timer_before {timers : ℕ → ExitTimer App} {other : ℕ}
    {entered phase : ExitTimer App}
    (here : Function.update timers timer entered other = phase)
    (differs : phase ≠ entered) : other ≠ timer ∧ timers other = phase := by
  by_cases own : other = timer
  · subst own
    exact absurd (by simpa using here.symm) differs
  · exact ⟨own, by simpa [own] using here⟩

omit [DecidableEq App] in
/-- A timer that has not fired is at its end. -/
theorem tablesSound_cancelTimer (sound : TablesSound system)
    (timer : ℕ) : TablesSound (system.cancelTimer timer) := by
  unfold cancelTimer
  split
  · rename_i pid app waits
    constructor
    · intro other held holder here
      exact sound.waiting other held holder (timer_before here (by simp)).2
    · intro other held here
      exact sound.checked other held (timer_before here (by simp)).2
    · intro first second held here there
      exact sound.once first second held (timer_before here (by simp)).2
        (timer_before there (by simp)).2
    · intro other held here
      exact sound.untracked other held (timer_before here (by simp)).2
    · intro other here
      exact sound.unraised other (timer_before here (by simp)).2
    · intro other beyond
      have before := sound.fresh other beyond
      have differs : other ≠ timer := by
        intro own
        rw [own, waits] at before
        cases before
      simpa [differs] using before
    · exact sound.dead
    · intro held launched checked
      obtain ⟨other, checks⟩ := sound.underWay held launched checked
      have differs : other ≠ timer := by
        intro own
        rw [own, waits] at checks
        cases checks
      exact ⟨other, by simpa [differs] using checks⟩
    · exact sound.live
  · exact sound

omit [DecidableEq App] in
theorem tablesSound_start (sound : TablesSound system)
    (launched : system.launched pid = some app)
    (alone : ∀ timer other, system.timers timer ≠ .waiting pid other)
    (unchecked : ∀ timer, system.timers timer ≠ .checked pid) :
    TablesSound
      { system with
        timers :=
          Function.update system.timers system.nextTimer (.waiting pid app)
        pendingExit :=
          Function.update system.pendingExit pid (some system.nextTimer)
        nextTimer := system.nextTimer + 1
        exiting := none } := by
  have open_ : system.exitChecked pid = false := by
    by_contra checked
    obtain ⟨timer, checks⟩ := sound.underWay pid (by rw [launched]; rfl)
      (by simpa using checked)
    exact unchecked timer checks
  constructor
  · intro timer held holder here
    by_cases new : timer = system.nextTimer
    · subst new
      have same : pid = held ∧ app = holder := by simpa using here
      obtain ⟨rfl, rfl⟩ := same
      simp [launched, open_]
    · have waits : system.timers timer = .waiting held holder := by
        simpa [new] using here
      have apart : held ≠ pid := by
        intro own
        exact alone timer holder (own ▸ waits)
      simpa [apart] using sound.waiting timer held holder waits
  · intro timer held here
    exact sound.checked timer held (timer_before here (by simp)).2
  · intro first second held here there
    exact sound.once first second held (timer_before here (by simp)).2
      (timer_before there (by simp)).2
  · intro timer held here
    exact sound.untracked timer held (timer_before here (by simp)).2
  · intro timer here
    exact sound.unraised timer (timer_before here (by simp)).2
  · intro timer beyond
    have beyond : system.nextTimer + 1 ≤ timer := beyond
    have apart : timer ≠ system.nextTimer := by omega
    simpa [apart] using sound.fresh timer (by omega)
  · exact sound.dead
  · intro held tracked checked
    obtain ⟨timer, checks⟩ := sound.underWay held tracked checked
    have used : system.timers timer ≠ .unused := by simp [checks]
    have apart : timer ≠ system.nextTimer := (sound.lt_next used).ne
    exact ⟨timer, by simpa [apart] using checks⟩
  · exact sound.live

omit [DecidableEq App] in
theorem cancelTimer_waiting (waits : system.timers timer = .waiting pid app) :
    system.cancelTimer timer =
      { system with timers := Function.update system.timers timer .done } := by
  simp [cancelTimer, waits]

omit [DecidableEq App] in
theorem tablesSound_schedule (sound : TablesSound system)
    (calm : ∀ pid ∈ system.exiting,
      ∀ timer < system.nextTimer, system.timers timer ≠ .checked pid) :
    TablesSound system.schedule := by
  unfold schedule
  split
  · rename_i pid here
    have unchecked : ∀ timer, system.timers timer ≠ .checked pid := by
      intro timer checks
      have used : system.timers timer ≠ .unused := by simp [checks]
      exact calm pid here timer (sound.lt_next used) checks
    cases pending : system.pendingExit pid with
    | none =>
      dsimp only
      split
      · rename_i app launched
        apply tablesSound_start sound launched _ unchecked
        intro timer other waits
        have known := (sound.waiting timer pid other waits).1
        rw [pending] at known
        cases known
      · exact tablesSound_same sound rfl rfl rfl rfl rfl rfl rfl
    | some last =>
      dsimp only
      have cancelled := tablesSound_cancelTimer sound last
      split
      · rename_i app launched
        apply tablesSound_start cancelled launched
        · intro timer other waits
          unfold cancelTimer at waits
          split at waits
          · have waits : Function.update system.timers last .done timer =
                .waiting pid other := waits
            by_cases own : timer = last
            · simp [own] at waits
            · have known := (sound.waiting timer pid other
                (by simpa [own] using waits)).1
              rw [pending] at known
              exact own (Option.some.inj known).symm
          · rename_i quiet
            have known := (sound.waiting timer pid other waits).1
            rw [pending] at known
            cases known
            exact quiet pid other waits
        · intro timer checks
          unfold cancelTimer at checks
          split at checks
          · have checks : Function.update system.timers last .done timer =
                .checked pid := checks
            by_cases own : timer = last
            · simp [own] at checks
            · exact unchecked timer (by simpa [own] using checks)
          · exact unchecked timer checks
      · exact tablesSound_same cancelled rfl rfl rfl rfl rfl rfl rfl
  · exact sound

/-- The check finds the process gone. -/
theorem tablesSound_check (sound : TablesSound system)
    (waits : system.timers timer = .waiting pid app)
    (dead : system.alive pid = false) :
    TablesSound
      { system with
        handled := Function.update system.handled pid false
        exitChecked := Function.update system.exitChecked pid true
        live := Function.update system.live app ((system.live app).erase pid)
        timers := Function.update system.timers timer (.checked pid) } := by
  obtain ⟨pending, launched, open_⟩ := sound.waiting timer pid app waits
  have first : ∀ other, Function.update system.timers timer (.checked pid)
      other = .checked pid → other = timer := by
    intro other here
    by_contra apart
    have checks : system.timers other = .checked pid := by
      simpa [apart] using here
    have checked := (sound.checked other pid checks).2
    rw [open_] at checked
    cases checked
  constructor
  · intro other held holder here
    obtain ⟨apart, still⟩ := timer_before here (by simp)
    obtain ⟨known, tracked, unchecked⟩ := sound.waiting other held holder still
    refine ⟨known, tracked, ?_⟩
    have differs : held ≠ pid := by
      intro own
      rw [own, pending] at known
      exact apart (Option.some.inj known).symm
    simpa [differs] using unchecked
  · intro other held here
    by_cases own : held = pid
    · subst own
      simp [launched]
    · obtain ⟨_, still⟩ := timer_before here (by simpa using own)
      simpa [own] using sound.checked other held still
  · intro one two held here there
    by_cases own : held = pid
    · subst own
      rw [first one here, first two there]
    · exact sound.once one two held (timer_before here (by simpa using own)).2
        (timer_before there (by simpa using own)).2
  · intro other held here
    obtain ⟨_, still⟩ := timer_before here (by simp)
    by_cases own : held = pid
    · simp [own]
    · simpa [own] using sound.untracked other held still
  · intro other here
    exact sound.unraised other (timer_before here (by simp)).2
  · intro other beyond
    have unused := sound.fresh other beyond
    have apart : other ≠ timer := by
      intro own
      rw [own, waits] at unused
      cases unused
    simpa [apart] using unused
  · intro held checked
    by_cases own : held = pid
    · rw [own]
      exact dead
    · exact sound.dead held (by simpa [own] using checked)
  · intro held tracked checked
    by_cases own : held = pid
    · subst own
      exact ⟨timer, by simp⟩
    · obtain ⟨other, checks⟩ := sound.underWay held tracked
        (by simpa [own] using checked)
      have apart : other ≠ timer := by
        intro same
        rw [same, waits] at checks
        cases checks
      exact ⟨other, by simpa [apart] using checks⟩
  · intro holder held
    have known := sound.live holder held
    by_cases own : held = pid
    · subst own
      by_cases same : holder = app
      · subst same
        simp
      · have absent : held ∉ system.live holder := by
          intro member
          have tracked := (known.mp member).1
          rw [launched] at tracked
          exact same (Option.some.inj tracked).symm
        simp [same, absent]
    · by_cases same : holder = app
      · subst same
        simpa [own] using known
      · simpa [own, same] using known

omit [DecidableEq App] in
theorem tablesSound_untrack (sound : TablesSound system)
    (timer : ℕ) : TablesSound (system.untrack timer) := by
  unfold untrack
  split
  · rename_i pid checks
    obtain ⟨tracked, checked⟩ := sound.checked timer pid checks
    split
    · constructor
      · intro other held holder here
        obtain ⟨_, still⟩ := timer_before here (by simp)
        obtain ⟨pending, launched, open_⟩ :=
          sound.waiting other held holder still
        have differs : held ≠ pid := by
          intro own
          rw [own, checked] at open_
          cases open_
        exact ⟨pending, by simpa [differs] using launched, open_⟩
      · intro other held here
        obtain ⟨apart, still⟩ := timer_before here (by simp)
        have differs : held ≠ pid := by
          intro own
          exact apart (sound.once other timer pid (own ▸ still) checks)
        simpa [differs] using sound.checked other held still
      · intro first second held here there
        exact sound.once first second held (timer_before here (by simp)).2
          (timer_before there (by simp)).2
      · intro other held here
        by_cases own : held = pid
        · rw [own]
          exact checked
        · exact sound.untracked other held
            (timer_before here (by simpa using own)).2
      · intro other here
        exact sound.unraised other (timer_before here (by simp)).2
      · intro other beyond
        have unused := sound.fresh other beyond
        have apart : other ≠ timer := by
          intro own
          rw [own, checks] at unused
          cases unused
        simpa [apart] using unused
      · exact sound.dead
      · intro held launched known
        have differs : held ≠ pid := by
          intro own
          simp [own] at launched
        obtain ⟨other, still⟩ := sound.underWay held
          (by simpa [differs] using launched) known
        have apart : other ≠ timer := by
          intro same
          rw [same, checks] at still
          cases still
          exact differs rfl
        exact ⟨other, by simpa [apart] using still⟩
      · intro holder held
        have known := sound.live holder held
        by_cases own : held = pid
        · subst own
          simpa [checked] using known
        · simpa [own] using known
    · rename_i unknown
      rw [unknown] at tracked
      cases tracked
  · exact sound

omit [DecidableEq App] in
theorem tablesSound_unpend (sound : TablesSound system)
    (timer : ℕ) : TablesSound (system.unpend timer) := by
  unfold unpend
  split
  · rename_i pid untracks
    have checked := sound.untracked timer pid untracks
    constructor
    · intro other held holder here
      obtain ⟨pending, launched, open_⟩ :=
        sound.waiting other held holder (timer_before here (by simp)).2
      have differs : held ≠ pid := by
        intro own
        rw [own, checked] at open_
        cases open_
      exact ⟨by simpa [differs] using pending, launched, open_⟩
    · intro other held here
      exact sound.checked other held (timer_before here (by simp)).2
    · intro first second held here there
      exact sound.once first second held (timer_before here (by simp)).2
        (timer_before there (by simp)).2
    · intro other held here
      exact sound.untracked other held (timer_before here (by simp)).2
    · intro other here
      exact sound.unraised other (timer_before here (by simp)).2
    · intro other beyond
      have unused := sound.fresh other beyond
      have apart : other ≠ timer := by
        intro own
        rw [own, untracks] at unused
        cases unused
      simpa [apart] using unused
    · exact sound.dead
    · intro held launched known
      obtain ⟨other, still⟩ := sound.underWay held launched known
      have apart : other ≠ timer := by
        intro same
        rw [same, untracks] at still
        cases still
      exact ⟨other, by simpa [apart] using still⟩
    · exact sound.live
  · exact sound

end AppTracker
end SmarTune
