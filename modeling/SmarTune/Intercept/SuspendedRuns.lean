import SmarTune.Intercept.Custody

/-!
# Runs in which no process is left suspended

The launches keep their places along every run that loses none.
-/

namespace SmarTune
namespace Suspension

variable {Client : Type} {system : Suspension Client}

/-! ## A request under way -/

variable {after : Suspension Client} {pid : ℕ}

theorem scanned_same (scanned : Scanned system)
    (queue : after.queue = system.queue)
    (removals : after.removals = system.removals) : Scanned after := by
  constructor
  · rw [queue, removals]
    exact scanned.seen
  · rw [removals]
    exact scanned.alone

theorem scanned_none (none : ∀ client, (after.removals client).isNone = true) :
    Scanned after := by
  constructor
  · intro client kept removed some
    have absent := none client
    rw [some] at absent
    cases absent
  · intro first _ present
    have absent := none first
    rw [Option.isNone_iff_eq_none] at absent
    rw [absent] at present
    cases present

theorem removals_foldl_gone (removed : List PendingApp)
    (system : Suspension Client) :
    (removed.foldl (fun system app => system.gone app.pid) system).removals =
      system.removals := by
  induction removed generalizing system with
  | nil => rfl
  | cons app rest ih =>
    rw [List.foldl_cons, ih]
    rfl

theorem scanned_requeue (scanned : Scanned system)
    (calm : ∀ app ∈ system.hand.apps, system.hand ≠ .got app →
      ∀ client, (system.removals client).isNone = true) :
    Scanned system.requeue := by
  unfold requeue
  split
  · rename_i app priority here
    apply scanned_none
    intro client
    refine calm app ?_ ?_ client
    · simp [here, HandleHand.apps]
    · simp [here]
  · exact scanned

theorem scanned_drain (scanned : Scanned system)
    (calm : system.draining = true →
      ∀ client, (system.removals client).isNone = true) :
    Scanned system.drain := by
  unfold drain
  split
  · rename_i draining
    split
    · exact scanned_none (calm draining)
    · exact scanned_same scanned rfl rfl
  · exact scanned

variable [DecidableEq Client]

theorem scanned_scan (scanned : Scanned system) {client : Client}
    {appId : String} (calm : ∀ other, (system.removals other).isNone = true) :
    Scanned (system.scan client appId) := by
  have own : ∀ other, (Function.update system.removals client
        (some (system.queue.partition fun app => app.appId = appId))
          other).isSome = true → other = client := by
    intro other present
    by_contra apart
    rw [Function.update_of_ne apart] at present
    have absent := calm other
    rw [Option.isNone_iff_eq_none] at absent
    rw [absent] at present
    cases present
  unfold scan
  split
  · constructor
    · intro other kept removed saw
      have here : other = client :=
        own other (Option.isSome_iff_exists.mpr ⟨_, saw⟩)
      subst here
      have saw : system.queue.partition (fun app => app.appId = appId) =
          (kept, removed) := by simpa using saw
      have perm := system.queue.perm_partition (fun app => app.appId = appId)
      rwa [saw] at perm
    · intro first second present also
      rw [own first present, own second also]
  · exact scanned

theorem scanned_cancel (scanned : Scanned system)
    (client : Client) : Scanned (system.cancel client) := by
  unfold cancel
  split
  · rename_i kept removed here
    apply scanned_none
    intro other
    rw [removals_foldl_gone]
    change (Function.update system.removals client none other).isNone = true
    by_cases own : other = client
    · simp [own]
    · rw [Function.update_of_ne own]
      by_contra present
      have here : (system.removals client).isSome = true := by rw [here]; rfl
      exact own (scanned.alone other client
        (by simpa [Option.isSome_iff_ne_none] using present) here)
  · exact scanned

/-! ## Processes that come and go -/

omit [DecidableEq Client] in
theorem custody_spawn (custody : Custody system system.holders)
    (dead : system.alive pid = false) (fresh : pid ∉ system.holders) :
    Custody
      { system with
        alive := Function.update system.alive pid true
        ours := Function.update system.ours pid false }
      system.holders := by
  constructor
  · intro other stopped
    have held := custody.held other stopped
    have apart : other ≠ pid := by
      intro own
      rw [own, dead] at held
      cases held.1.1
    simpa [apart] using held
  · intro other lives running
    by_cases own : other = pid
    · rw [own]
      exact fresh
    · exact custody.free other (by simpa [own] using lives) running
  · exact custody.marked
  · exact custody.shut

omit [DecidableEq Client] in
theorem custody_forget (custody : Custody system system.holders)
    (dead : system.alive pid = false) :
    Custody { system with handled := Function.update system.handled pid false }
      system.holders := by
  refine ⟨custody.held, custody.free, ?_, custody.shut⟩
  intro other stopped
  have held := custody.held other stopped
  have apart : other ≠ pid := by
    intro own
    rw [own, dead] at held
    cases held.1.1
  simpa [apart] using custody.marked other stopped

omit [DecidableEq Client] in
theorem custody_shutdownDone (custody : Custody system system.holders)
    (calm : ∀ pid ∈ system.holders, system.suspended pid = false) :
    Custody { system with completed := true } system.holders := by
  refine ⟨custody.held, custody.free, custody.marked, ?_⟩
  intro _ pid
  by_contra stopped
  have stopped : system.suspended pid = true := by simpa using stopped
  have member : pid ∈ system.holders :=
    List.count_pos_iff.mp (by rw [(custody.held pid stopped).2]; decide)
  rw [calm pid member] at stopped
  cases stopped

/-! ## A step -/

/-- The launches are at their places, and requests see the queue. -/
structure Sound (system : Suspension Client) : Prop where
  custody : Custody system system.holders
  scanned : Scanned system

omit [DecidableEq Client] in
theorem sound_init (critical : Bool) (alive : ℕ → Bool) :
    Sound (init critical alive : Suspension Client) := by
  constructor
  · constructor
    · intro pid stopped
      cases stopped
    · intro pid _ _ member
      cases member
    · intro pid stopped
      cases stopped
    · intro done
      cases done
  · exact scanned_none fun _ => rfl

theorem sound_step (sound : Sound system) (label : SuspensionStep Client)
    (calm : LosesNone system label) : Sound (system.step label) := by
  obtain ⟨custody, scanned⟩ := sound
  cases label with
  | setCritical critical =>
    exact ⟨custody_move custody (.refl _) rfl rfl rfl (fun _ marked => marked)
      id, scanned_same scanned rfl rfl⟩
  | spawn pid =>
    simp only [step]
    split
    · exact ⟨custody, scanned⟩
    · rename_i dead
      have dead : system.alive pid = false := by simpa using dead
      exact ⟨custody_spawn custody dead (calm dead),
        scanned_same scanned rfl rfl⟩
  | exit pid => exact ⟨custody_gone custody pid, scanned_same scanned rfl rfl⟩
  | forget pid =>
    simp only [step]
    split
    · exact ⟨custody, scanned⟩
    · rename_i dead
      exact ⟨custody_forget custody (by simpa using dead),
        scanned_same scanned rfl rfl⟩
  | stop app refused =>
    refine ⟨custody_stop custody calm, ?_⟩
    simp only [step, stop, sigstop]
    split
    · split
      · exact scanned_same scanned rfl rfl
      · split <;> exact scanned_same scanned rfl rfl
    · exact scanned
  | recheck =>
    refine ⟨custody_recheck custody, ?_⟩
    simp only [step, recheck]
    split
    · split <;> exact scanned_same scanned rfl rfl
    · exact scanned
  | announce raises =>
    refine ⟨custody_announce custody calm, ?_⟩
    simp only [step, announce]
    split
    · split <;> exact scanned_same scanned rfl rfl
    · exact scanned
  | enqueue raises =>
    refine ⟨custody_enqueue custody calm, ?_⟩
    simp only [step, enqueue]
    split
    · split <;> exact scanned_same scanned rfl rfl
    · exact scanned
  | loopTop =>
    refine ⟨custody_loopTop custody, ?_⟩
    simp only [step, loopTop]
    split
    · exact scanned_same scanned rfl rfl
    · exact scanned
  | dequeue =>
    refine ⟨custody_dequeue custody, ?_⟩
    simp only [step, dequeue]
    split
    · exact scanned_same scanned rfl rfl
    · exact scanned
  | timeout =>
    refine ⟨custody_timeout custody, ?_⟩
    simp only [step, timeout]
    split
    · exact scanned_same scanned rfl rfl
    · exact scanned
  | rate priority =>
    refine ⟨custody_rate custody calm, ?_⟩
    simp only [step, rate]
    split
    · exact scanned_same scanned rfl rfl
    · exact scanned
  | requeue => exact ⟨custody_requeue custody, scanned_requeue scanned calm⟩
  | look =>
    simp only [step, look]
    split
    · exact ⟨custody_move custody (.refl _) rfl rfl rfl
        (fun _ marked => marked) id, scanned_same scanned rfl rfl⟩
    · exact ⟨custody, scanned⟩
  | drain => exact ⟨custody_drain custody, scanned_drain scanned calm⟩
  | scan client appId =>
    refine ⟨?_, scanned_scan scanned calm⟩
    simp only [step, scan]
    split
    · exact custody_move custody (.refl _) rfl rfl rfl
        (fun _ marked => marked) id
    · exact custody
  | cancel client =>
    exact ⟨custody_cancel custody scanned client, scanned_cancel scanned client⟩
  | shutdown =>
    exact ⟨custody_move custody (.refl _) rfl rfl rfl (fun _ marked => marked)
      id, scanned_same scanned rfl rfl⟩
  | shutdownDone =>
    simp only [step]
    split
    · exact ⟨custody, scanned⟩
    · rename_i stopped
      exact ⟨custody_shutdownDone custody (calm (by simpa using stopped)),
        scanned_same scanned rfl rfl⟩

/-! ## What the places say -/

omit [DecidableEq Client] in
theorem noneLeft_of_sound (sound : Sound system) : NoneLeft system := by
  constructor
  · intro pid stopped apart
    have held := (sound.custody.held pid stopped).2
    simp only [holders, queued, List.map_append, List.count_append] at held ⊢
    have launch : (system.launch.apps.map PendingApp.pid).count pid = 0 :=
      List.count_eq_zero.mpr apart
    omega
  · exact sound.custody.shut

omit [DecidableEq Client] in
theorem Custody.owns {places : List ℕ} (custody : Custody system places)
    (member : pid ∈ places)
    (lives : system.alive pid = true) : system.ours pid = true := by
  by_cases stopped : system.suspended pid = true
  · exact (custody.held pid stopped).1.2
  · exact absurd member (custody.free pid lives (by simpa using stopped))

omit [DecidableEq Client] in
/-- The signals of a step go to launches at their places. -/
theorem signalled_held (scanned : Scanned system)
    (label : SuspensionStep Client) :
    ∀ pid ∈ system.signalled label, pid ∈ system.holders := by
  intro pid member
  cases label with
  | recheck =>
    simp only [signalled] at member
    split at member
    · rename_i app here
      split at member
      · cases member
      · have apps : system.launch.apps = [app] := by rw [here]; rfl
        rw [holders_launch apps]
        have own : pid = app.pid := by simpa using member
        simp [own]
    · cases member
  | drain =>
    simp only [signalled] at member
    split at member
    · cases got : system.queue.get with
      | none => simp [got] at member
      | some pair =>
        obtain ⟨app, rest⟩ := pair
        have own : pid = app.pid := by simpa [got] using member
        have first : app ∈ system.queue.items :=
          (MaxPriorityQueue.perm_of_get got).symm.subset List.mem_cons_self
        have there : app.pid ∈ system.queue.items.map PendingApp.pid :=
          List.mem_map.mpr ⟨app, first, rfl⟩
        simp only [holders, List.map_append, List.mem_append]
        exact .inr (own ▸ there)
    · cases member
  | cancel client =>
    simp only [signalled] at member
    cases here : system.removals client with
    | none => simp [here] at member
    | some pair =>
      obtain ⟨kept, removed⟩ := pair
      obtain ⟨app, first, own⟩ : ∃ app ∈ removed, app.pid = pid := by
        simpa [here] using member
      have there : app ∈ system.queue.items :=
        (scanned.seen client kept removed here).symm.subset
          (List.mem_append_right _ first)
      have there : app.pid ∈ system.queue.items.map PendingApp.pid :=
        List.mem_map.mpr ⟨app, there, rfl⟩
      simp only [holders, List.map_append, List.mem_append]
      exact .inr (own ▸ there)
  | _ => cases member

omit [DecidableEq Client] in
theorem signalsOwn_of_sound (sound : Sound system)
    (label : SuspensionStep Client) : SignalsOwn system label := by
  intro pid member lives
  exact sound.custody.owns (signalled_held sound.scanned label pid member) lives

/-! ## Runs -/

/-- In every run that loses no launch, no process is left suspended, and only
processes that the service stopped are continued or killed. -/
theorem runs_leave_none_suspended (critical : Bool) (alive : ℕ → Bool)
    (labels : List (SuspensionStep Client))
    (calm : Runs.EveryStep step LosesNone (init critical alive) labels) :
    Runs.EveryPrefix step NoneLeft (init critical alive) labels ∧
      Runs.EveryStep step SignalsOwn (init critical alive) labels := by
  have preserved : ∀ (system : Suspension Client) label, Sound system →
      LosesNone system label → Sound (system.step label) := by
    intro system label sound calm
    exact sound_step sound label calm
  constructor
  · exact Runs.everyPrefix_of_invariant Sound preserved
      (fun _ sound => noneLeft_of_sound sound) (sound_init critical alive) calm
  · exact Runs.everyStep_of_guarded Sound preserved
      (fun _ label sound _ => signalsOwn_of_sound sound label)
      (sound_init critical alive) calm

/-- Two launches are stopped; one is continued by a drain, the other killed on
request, and the service shuts down. -/
def suspendedAndFreed : List (SuspensionStep Bool) :=
  let first : PendingApp := ⟨7, "viewer", "Viewer"⟩
  let second : PendingApp := ⟨8, "editor", "Editor"⟩
  [.stop first false, .recheck, .announce false, .enqueue false,
    .stop second false, .recheck, .announce false, .enqueue false,
    .loopTop, .dequeue, .rate (some 2), .requeue,
    .loopTop, .dequeue, .rate (some 1), .requeue,
    .look, .drain, .scan true "editor", .cancel true,
    .shutdown, .shutdownDone]

theorem runs_leave_none_suspended_witness :
    Runs.EveryPrefix step NoneLeft (init true fun _ => true) suspendedAndFreed ∧
      Runs.EveryStep step SignalsOwn (init true fun _ => true)
        suspendedAndFreed :=
  runs_leave_none_suspended true (fun _ => true) suspendedAndFreed
    (by decide)

/-- A launch whose priority has no value is lost by the handle loop, and one
that is queued at the shutdown stays suspended. -/
theorem unrated_launch_stays_suspended :
    ¬ Runs.EveryPrefix step NoneLeft
        (init true (fun _ => true) : Suspension Bool)
        [.stop ⟨7, "viewer", "Viewer"⟩ false, .recheck, .announce false,
          .enqueue false, .loopTop, .dequeue, .rate none] ∧
      ¬ Runs.EveryPrefix step NoneLeft
        (init true (fun _ => true) : Suspension Bool)
        [.stop ⟨7, "viewer", "Viewer"⟩ false, .recheck, .announce false,
          .enqueue false, .shutdown, .shutdownDone] := by
  constructor
  · intro kept
    have held := kept.finally.held 7 (by decide) (by decide)
    revert held
    decide
  · intro kept
    have resumed := kept.finally.shut (by decide) 7
    revert resumed
    decide

end Suspension
end SmarTune
