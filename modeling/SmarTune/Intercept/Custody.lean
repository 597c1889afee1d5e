import SmarTune.Intercept.Suspension

/-!
# Who has the suspended processes

Every suspended process is at exactly one place: in the hand of a thread or in
a queue.  A step takes a launch from one place to another, or takes it from
its place when it continues or kills the process.
-/

namespace SmarTune
namespace Suspension

variable {Client : Type} {system : Suspension Client}

/-- The launches at the places are those of the suspended processes. -/
structure Custody (system : Suspension Client) (places : List ℕ) : Prop where
  held : ∀ pid, system.suspended pid = true →
    (system.alive pid = true ∧ system.ours pid = true) ∧ places.count pid = 1
  free : ∀ pid, system.alive pid = true → system.suspended pid = false →
    pid ∉ places
  marked : ∀ pid, system.suspended pid = true →
    system.handled pid = true ∨ pid ∈ system.launch.apps.map PendingApp.pid
  shut : system.completed = true → ∀ pid, system.suspended pid = false

/-- A request under way has seen the queue that is there, and is alone. -/
structure Scanned (system : Suspension Client) : Prop where
  seen : ∀ client kept removed, system.removals client = some (kept, removed) →
    system.queue.items.Perm ((system.queue.replace kept).items ++ removed)
  alone : ∀ first second, (system.removals first).isSome = true →
    (system.removals second).isSome = true → first = second

/-! ## Places -/

theorem custody_move {after : Suspension Client} {places others : List ℕ}
    (custody : Custody system places) (perm : places.Perm others)
    (alive : after.alive = system.alive)
    (suspended : after.suspended = system.suspended)
    (ours : after.ours = system.ours)
    (marked : ∀ pid, system.handled pid = true ∨
        pid ∈ system.launch.apps.map PendingApp.pid →
      after.handled pid = true ∨ pid ∈ after.launch.apps.map PendingApp.pid)
    (completed : after.completed = true → system.completed = true) :
    Custody after others := by
  constructor
  · intro pid stopped
    rw [suspended] at stopped
    rw [alive, ours, ← perm.count_eq]
    exact custody.held pid stopped
  · intro pid lives running
    rw [alive] at lives
    rw [suspended] at running
    rw [← perm.mem_iff]
    exact custody.free pid lives running
  · intro pid stopped
    rw [suspended] at stopped
    exact marked pid (custody.marked pid stopped)
  · intro done
    rw [suspended]
    exact custody.shut (completed done)

theorem custody_release {after : Suspension Client} {pid : ℕ} {places : List ℕ}
    (custody : Custody system (pid :: places))
    (suspended : after.suspended = Function.update system.suspended pid false)
    (alive : ∀ other, after.alive other = true → system.alive other = true)
    (others : ∀ other, other ≠ pid → after.alive other = system.alive other)
    (ours : after.ours = system.ours)
    (marked : ∀ other, other ≠ pid → system.handled other = true ∨
        other ∈ system.launch.apps.map PendingApp.pid →
      after.handled other = true ∨ other ∈ after.launch.apps.map PendingApp.pid)
    (completed : after.completed = true → system.completed = true) :
    Custody after places := by
  have still : ∀ other, after.suspended other = true →
      other ≠ pid ∧ system.suspended other = true := by
    intro other stopped
    rw [suspended] at stopped
    by_cases here : other = pid
    · subst here
      simp at stopped
    · exact ⟨here, by simpa [here] using stopped⟩
  constructor
  · intro other stopped
    obtain ⟨apart, before⟩ := still other stopped
    rw [others other apart, ours]
    have held := custody.held other before
    rwa [List.count_cons_of_ne (Ne.symm apart)] at held
  · intro other lives running
    by_cases here : other = pid
    · subst here
      have before := alive other lives
      by_cases stopped : system.suspended other = true
      · have held := (custody.held other stopped).2
        rw [List.count_cons_self] at held
        exact List.count_eq_zero.mp (Nat.succ.inj held)
      · have free := custody.free other before (by simpa using stopped)
        exact absurd List.mem_cons_self free
    · have before : system.suspended other = false := by
        simpa [suspended, here] using running
      have free := custody.free other (alive other lives) before
      exact fun member => free (List.mem_cons_of_mem _ member)
  · intro other stopped
    obtain ⟨apart, before⟩ := still other stopped
    exact marked other apart (custody.marked other before)
  · intro done other
    have before := custody.shut (completed done) other
    by_cases here : other = pid
    · subst here
      simp [suspended]
    · simp [suspended, here, before]

theorem custody_drop {after : Suspension Client} {pid : ℕ} {places : List ℕ}
    (custody : Custody system (pid :: places))
    (running : system.suspended pid = false)
    (suspended : after.suspended = system.suspended)
    (alive : after.alive = system.alive) (ours : after.ours = system.ours)
    (marked : ∀ other, other ≠ pid → system.handled other = true ∨
        other ∈ system.launch.apps.map PendingApp.pid →
      after.handled other = true ∨ other ∈ after.launch.apps.map PendingApp.pid)
    (completed : after.completed = true → system.completed = true) :
    Custody after places := by
  apply custody_release custody _ _ _ ours marked completed
  · rw [suspended, eq_comm, Function.update_eq_self_iff]
    exact running.symm
  · intro other lives
    rwa [alive] at lives
  · intro other _
    rw [alive]

variable {places : List ℕ} {app : PendingApp} {raises : Bool}

theorem Custody.of_perm {others : List ℕ} (custody : Custody system places)
    (perm : places.Perm others) : Custody system others :=
  custody_move custody perm rfl rfl rfl (fun _ marked => marked) id

/-- The process that has the PID is gone, and nothing is taken away. -/
theorem custody_gone (custody : Custody system places)
    (pid : ℕ) : Custody (system.gone pid) places := by
  have still : ∀ other, (system.gone pid).suspended other = true →
      other ≠ pid ∧ system.suspended other = true := by
    intro other stopped
    by_cases here : other = pid
    · simp [gone, here] at stopped
    · exact ⟨here, by simpa [gone, here] using stopped⟩
  constructor
  · intro other stopped
    obtain ⟨apart, before⟩ := still other stopped
    simpa [gone, apart] using custody.held other before
  · intro other lives running
    by_cases here : other = pid
    · simp [gone, here] at lives
    · exact custody.free other (by simpa [gone, here] using lives)
        (by simpa [gone, here] using running)
  · intro other stopped
    exact custody.marked other (still other stopped).2
  · intro done other
    by_cases here : other = pid
    · simp [gone, here]
    · simpa [gone, here] using custody.shut done other

/-- The launches of the processes killed are taken away. -/
theorem custody_foldl_gone (removed : List PendingApp)
    (custody : Custody system (removed.map PendingApp.pid ++ places)) :
    Custody (removed.foldl (fun system app => system.gone app.pid) system)
      places := by
  induction removed generalizing system with
  | nil => exact custody
  | cons app rest ih =>
    apply ih
    have first := custody_gone custody app.pid
    rw [List.map_cons, List.cons_append] at first
    exact custody_drop first (by simp [gone]) rfl rfl rfl
      (fun _ _ marked => marked) id

/-! ## The intercept thread -/

theorem holders_idle (idle : system.launch = .idle) :
    system.holders = system.queued := by
  simp [holders, queued, idle, LaunchHand.apps]

theorem holders_launch (launch : system.launch.apps = [app]) :
    system.holders = app.pid :: system.queued := by
  simp [holders, queued, launch]

theorem marked_launched {app : PendingApp} (here : system.launch.apps = [app])
    (pid : ℕ)
    (marked : system.handled pid = true ∨
      pid ∈ system.launch.apps.map PendingApp.pid) :
    (system.launched app).handled pid = true ∨
      pid ∈ (system.launched app).launch.apps.map PendingApp.pid := by
  left
  by_cases own : pid = app.pid
  · simp [launched, own]
  · have before : system.handled pid = true := by
      rcases marked with before | launching
      · exact before
      · rw [here] at launching
        simp [own] at launching
    simp [launched, own, before]

theorem custody_stop (custody : Custody system system.holders) {refused : Bool}
    (calm : LosesNone system (.stop app refused)) :
    Custody (system.stop app refused) (system.stop app refused).holders := by
  unfold stop
  split
  · rename_i here
    obtain ⟨idle, critical, unhandled⟩ := here
    have unhandled : system.handled app.pid = false := by simpa using unhandled
    have unlaunched : system.launch.apps = [] := by rw [idle]; rfl
    by_cases lives : system.alive app.pid = true
    · obtain ⟨rfl, open_⟩ := calm idle critical unhandled lives
      have running : system.suspended app.pid = false := by
        by_contra stopped
        rcases custody.marked app.pid (by simpa using stopped) with
          before | launching
        · rw [unhandled] at before
          cases before
        · simp [unlaunched] at launching
      have fresh := custody.free app.pid lives running
      have places : ({ (system.sigstop app.pid) with
          launch := .stopped app } : Suspension Client).holders =
            app.pid :: system.holders := by
        simp [holders, sigstop, lives, idle, LaunchHand.apps]
      simp only [Bool.false_eq_true, if_false]
      rw [places]
      constructor
      · intro pid stopped
        by_cases own : pid = app.pid
        · subst own
          refine ⟨⟨?_, ?_⟩, ?_⟩
          · simp [sigstop, lives]
          · simp [sigstop, lives]
          · rw [List.count_cons_self, List.count_eq_zero.mpr fresh]
        · have before : system.suspended pid = true := by
            simpa [sigstop, lives, own] using stopped
          have held := custody.held pid before
          rw [List.count_cons_of_ne (Ne.symm own)]
          simpa [sigstop, lives, own] using held
      · intro pid pid_lives pid_running
        by_cases own : pid = app.pid
        · subst own
          simp [sigstop, lives] at pid_running
        · have before : system.suspended pid = false := by
            simpa [sigstop, lives, own] using pid_running
          have alive : system.alive pid = true := by
            simpa [sigstop, lives] using pid_lives
          simpa [own] using custody.free pid alive before
      · intro pid stopped
        by_cases own : pid = app.pid
        · right
          simp [LaunchHand.apps, own]
        · have before : system.suspended pid = true := by
            simpa [sigstop, lives, own] using stopped
          rcases custody.marked pid before with marked | launching
          · left
            simpa [sigstop, lives] using marked
          · simp [unlaunched] at launching
      · intro done
        have done : system.completed = true := by
          simpa [sigstop, lives] using done
        rw [open_] at done
        cases done
    · have same : (if refused then system else system.sigstop app.pid) =
          system := by
        split
        · rfl
        · simp [sigstop, lives]
      rw [same]
      have places : ({ system with
          launch := .stopped app } : Suspension Client).holders =
            app.pid :: system.holders := by
        simp [holders, idle, LaunchHand.apps]
      rw [places]
      have apart : ∀ pid, system.alive pid = true → pid ≠ app.pid := by
        intro pid pid_lives own
        rw [own] at pid_lives
        exact lives pid_lives
      refine ⟨?_, ?_, ?_, custody.shut⟩
      · intro pid stopped
        have held := custody.held pid stopped
        rwa [List.count_cons_of_ne (Ne.symm (apart pid held.1.1))]
      · intro pid pid_lives running
        simpa [apart pid pid_lives] using custody.free pid pid_lives running
      · intro pid stopped
        rcases custody.marked pid stopped with marked | launching
        · exact .inl marked
        · simp [unlaunched] at launching
  · exact custody

theorem custody_recheck (custody : Custody system system.holders) :
    Custody system.recheck system.recheck.holders := by
  unfold recheck
  split
  · rename_i app here
    have apps : system.launch.apps = [app] := by rw [here]; rfl
    split
    · refine custody_move custody ?_ rfl rfl rfl ?_ id
      · rw [holders_launch apps]
        exact .refl _
      · intro pid marked
        rwa [apps] at marked
    · rw [holders_launch apps] at custody
      rw [holders_idle rfl]
      have resumed : (system.sigcont app.pid).launch.apps = [app] := apps
      exact custody_release custody rfl (fun _ lives => lives)
        (fun _ _ => rfl) rfl
        (fun pid _ marked => marked_launched resumed pid marked) id
  · exact custody

theorem custody_announce (custody : Custody system system.holders)
    (calm : LosesNone system (.announce raises)) :
    Custody (system.announce raises) (system.announce raises).holders := by
  unfold announce
  split
  · rename_i app here
    have apps : system.launch.apps = [app] := by rw [here]; rfl
    split
    · rename_i raised
      have running : system.suspended app.pid = false := by
        by_contra stopped
        rw [calm app (by simp [apps]) here (by simpa using stopped)] at raised
        cases raised
      rw [holders_launch apps] at custody
      rw [holders_idle rfl]
      exact custody_drop custody running rfl rfl rfl
        (fun pid _ => marked_launched apps pid) id
    · refine custody_move custody ?_ rfl rfl rfl ?_ id
      · rw [holders_launch apps]
        exact .refl _
      · intro pid marked
        rwa [apps] at marked
  · exact custody

theorem custody_enqueue (custody : Custody system system.holders)
    (calm : LosesNone system (.enqueue raises)) :
    Custody (system.enqueue raises) (system.enqueue raises).holders := by
  unfold enqueue
  split
  · rename_i app here
    have apps : system.launch.apps = [app] := by rw [here]; rfl
    rw [holders_launch apps] at custody
    split
    · rename_i raised
      have running : system.suspended app.pid = false := by
        by_contra stopped
        rw [calm app (by simp [apps]) here (by simpa using stopped)] at raised
        cases raised
      rw [holders_idle rfl]
      exact custody_drop custody running rfl rfl rfl
        (fun pid _ => marked_launched apps pid) id
    · refine custody_move custody ?_ rfl rfl rfl ?_ id
      · rw [holders_idle rfl]
        simp only [queued, launched, List.append_assoc, List.map_append]
        exact List.perm_middle.symm
      · exact fun pid => marked_launched apps pid
  · exact custody

/-! ## The handle loop -/

theorem custody_loopTop (custody : Custody system system.holders) :
    Custody system.loopTop system.loopTop.holders := by
  unfold loopTop
  split
  · rename_i top
    refine custody_move custody ?_ rfl rfl rfl (fun _ marked => marked) id
    by_cases running : system.isRunning = true
    · simp [holders, top, running, HandleHand.apps]
    · simp [holders, top, running, HandleHand.apps]
  · exact custody

theorem custody_dequeue (custody : Custody system system.holders) :
    Custody system.dequeue system.dequeue.holders := by
  unfold dequeue
  split
  · rename_i app rest waiting pending
    refine custody_move custody ?_ rfl rfl rfl (fun _ marked => marked) id
    simp only [holders, waiting, pending, HandleHand.apps, List.append_assoc,
      List.nil_append, List.cons_append, List.map_append, List.map_cons,
      List.append_nil]
    exact (List.perm_middle.symm).append_left _
  · exact custody

theorem custody_timeout (custody : Custody system system.holders) :
    Custody system.timeout system.timeout.holders := by
  unfold timeout
  split
  · rename_i waiting
    refine custody_move custody ?_ rfl rfl rfl (fun _ marked => marked) id
    simp [holders, waiting, HandleHand.apps]
  · exact custody

/-- What the handle loop has in its hand can be named first. -/
theorem holders_hand (hand : system.hand.apps = [app]) :
    system.holders.Perm (app.pid :: (system.launch.apps ++ system.pending ++
        system.queue.items).map PendingApp.pid) := by
  simp only [holders, hand, List.append_assoc, List.map_append, List.map_cons,
    List.cons_append, List.nil_append]
  rw [← List.append_assoc, ← List.append_assoc]
  exact List.perm_middle

theorem custody_rate (custody : Custody system system.holders)
    {priority : Option ℤ} (calm : LosesNone system (.rate priority)) :
    Custody (system.rate priority) (system.rate priority).holders := by
  unfold rate
  split
  · rename_i app here
    have apps : system.hand.apps = [app] := by rw [here]; rfl
    cases priority with
    | some priority =>
      refine custody_move custody ?_ rfl rfl rfl (fun _ marked => marked) id
      simp [holders, here, HandleHand.apps]
    | none =>
      have running : system.suspended app.pid = false := by
        by_contra stopped
        have rated := calm app (by simp [apps]) here (by simpa using stopped)
        cases rated
      have first := custody.of_perm (holders_hand apps)
      have dropped : Custody { system with hand := .top } _ :=
        custody_drop first running rfl rfl rfl (fun _ _ marked => marked) id
      simpa [holders, HandleHand.apps] using dropped
  · exact custody

theorem custody_requeue (custody : Custody system system.holders) :
    Custody system.requeue system.requeue.holders := by
  unfold requeue
  split
  · rename_i app priority here
    have apps : system.hand.apps = [app] := by rw [here]; rfl
    refine custody_move custody ?_ rfl rfl rfl (fun _ marked => marked) id
    refine (holders_hand apps).trans ?_
    simp only [holders, HandleHand.apps, MaxPriorityQueue.items_put,
      List.append_nil, List.map_append, List.map_cons]
    exact List.perm_middle.symm
  · exact custody

/-! ## Drains and requests -/

theorem custody_drain (custody : Custody system system.holders) :
    Custody system.drain system.drain.holders := by
  unfold drain
  split
  · split
    · rename_i app rest got
      have first : system.holders.Perm
          (app.pid :: (system.launch.apps ++ system.pending ++
            system.hand.apps ++ rest.items).map PendingApp.pid) := by
        have perm := (MaxPriorityQueue.perm_of_get got).map PendingApp.pid
        simp only [holders, List.map_append]
        refine (perm.append_left _).trans ?_
        rw [List.map_cons]
        exact List.perm_middle
      exact custody_release (custody.of_perm first) rfl (fun _ lives => lives)
        (fun _ _ => rfl) rfl (fun _ _ marked => marked) id
    · exact custody_move custody (.refl _) rfl rfl rfl
        (fun _ marked => marked) id
  · exact custody

theorem holders_foldl_gone (removed : List PendingApp)
    (system : Suspension Client) :
    (removed.foldl (fun system app => system.gone app.pid) system).holders =
      system.holders := by
  induction removed generalizing system with
  | nil => rfl
  | cons app rest ih =>
    rw [List.foldl_cons, ih]
    rfl

variable [DecidableEq Client]

theorem custody_cancel (custody : Custody system system.holders)
    (scanned : Scanned system) (client : Client) :
    Custody (system.cancel client) (system.cancel client).holders := by
  unfold cancel
  split
  · rename_i kept removed here
    rw [holders_foldl_gone]
    apply custody_foldl_gone
    refine custody_move custody ?_ rfl rfl rfl (fun _ marked => marked) id
    have perm := (scanned.seen client kept removed here).map PendingApp.pid
    simp only [holders, List.map_append] at perm ⊢
    refine (perm.append_left _).trans ?_
    rw [← List.append_assoc]
    exact List.perm_append_comm
  · exact custody

end Suspension
end SmarTune
