import SmarTune.Library.Runs
import Mathlib.Data.Fintype.Basic
import Mathlib.Algebra.Order.Ring.Int

/-!
# OOM protection

`adjust_oom_priority` writes -1000 to the `oom_score_adj` of the processes of a
critical app and keeps what it found there; the purge of an app writes that
back.  A process belongs to the apps whose pattern its command line matches.
-/

namespace SmarTune

/-- Whether `oom_score_adj` of a process can be read, and written. -/
structure PidOutcome where
  reads : Bool
  writes : Bool

/-- Both succeed. -/
def PidOutcome.accepting : PidOutcome := ⟨true, true⟩

/-- The row of an app, as far as the protection goes by it. -/
structure OomRow where
  controlled : Bool
  /-- The priority is critical. -/
  critical : Bool
  deriving DecidableEq

/-- The processes, the rows of the apps, and the snapshots. -/
structure OomSystem (App : Type) where
  alive : ℕ → Bool
  /-- The pattern of the app matches the process. -/
  belongs : ℕ → App → Bool
  /-- `oom_score_adj`. -/
  score : ℕ → ℤ
  /-- The score before the first write to the process. -/
  first : ℕ → Option ℤ
  /-- The PIDs written to so far. -/
  written : List ℕ
  row : App → Option OomRow
  /-- `_original_oom_scores`. -/
  original : App → List (ℕ × ℤ)

/-- What can happen next; `found` is what `pgrep` lists. -/
inductive OomStep (App : Type)
  | spawn (pid : ℕ) (score : ℤ) (belongs : App → Bool)
  | exit (pid : ℕ)
  | setPriority (app : App) (critical stored : Bool) (found : List ℕ)
      (outcome : ℕ → PidOutcome)
  | setToControl (app : App) (controlled critical stored : Bool)
      (found : List ℕ) (outcome : ℕ → PidOutcome)
  /-- An exec event of the app, or the start of the service. -/
  | launch (app : App) (found : List ℕ) (outcome : ℕ → PidOutcome)
  | setOomScore (app : App) (found : List ℕ) (outcome : ℕ → PidOutcome)
  /-- The row may be unreadable, and its deletion may fail. -/
  | purge (app : App) (asked deleted : Bool) (outcome : ℕ → PidOutcome)

namespace OomSystem

variable {App : Type} [DecidableEq App]

/-- The service starts. -/
def init (alive : ℕ → Bool) (belongs : ℕ → App → Bool) (score : ℕ → ℤ)
    (row : App → Option OomRow) : OomSystem App where
  alive := alive
  belongs := belongs
  score := score
  first := fun _ => none
  written := []
  row := row
  original := fun _ => []

/-- `write_cgroup_file` to `oom_score_adj`. -/
def write (system : OomSystem App) (pid : ℕ) (value : ℤ) : OomSystem App :=
  { system with
    score := Function.update system.score pid value
    first := Function.update system.first pid
      (some ((system.first pid).getD (system.score pid)))
    written := pid :: system.written }

/-- The score found is kept in the snapshot of the app. -/
def record (system : OomSystem App) (app : App) (pid : ℕ) : OomSystem App :=
  { system with
    original := Function.update system.original app
      (system.original app ++ [(pid, system.score pid)]) }

/-- The loop of `adjust_oom_priority`; an exception ends it. -/
def adjustPids (app : App)
    (outcome : ℕ → PidOutcome) : List ℕ → OomSystem App → OomSystem App
  | [], system => system
  | pid :: pids, system =>
    if (system.original app).any fun entry => entry.1 = pid then
      if (outcome pid).writes then
        adjustPids app outcome pids (system.write pid (-1000))
      else system
    else if (outcome pid).reads then
      if (outcome pid).writes then
        adjustPids app outcome pids ((system.record app pid).write pid (-1000))
      else system.record app pid
    else system

/-- The loop of `adjust_oom_priority` with `restore`; an exception ends it. -/
def restorePids (app : App) (outcome : ℕ → PidOutcome) :
    List (ℕ × ℤ) → OomSystem App → OomSystem App
  | [], system =>
    { system with original := Function.update system.original app [] }
  | entry :: entries, system =>
    if system.alive entry.1 then
      if (outcome entry.1).writes then
        restorePids app outcome entries (system.write entry.1 entry.2)
      else
        { system with
          original := Function.update system.original app
            (entry :: entries) }
    else restorePids app outcome entries system

/-- The processes that `pgrep` can list for an app. -/
def matching (system : OomSystem App) (app : App) (found : List ℕ) : List ℕ :=
  found.filter fun pid => system.alive pid && system.belongs pid app

/-- `adjust_oom_priority` for a priority. -/
def adjust (system : OomSystem App) (app : App) (critical : Bool)
    (found : List ℕ) (outcome : ℕ → PidOutcome) : OomSystem App :=
  if critical then
    adjustPids app outcome (system.matching app found) system
  else system

def setRow (system : OomSystem App) (app : App)
    (row : Option OomRow) : OomSystem App :=
  { system with row := Function.update system.row app row }

/-- `set_priority`. -/
def setPriority (system : OomSystem App) (app : App) (critical stored : Bool)
    (found : List ℕ) (outcome : ℕ → PidOutcome) : OomSystem App :=
  match system.row app with
  | some row =>
    if stored then
      (system.setRow app (some { row with critical })).adjust app critical
        found outcome
    else system
  | none => system

/-- The row that `set_to_control` leaves. -/
def controlRow (system : OomSystem App) (app : App)
    (controlled critical stored : Bool) : OomSystem App :=
  if stored then system.setRow app (some ⟨controlled, critical⟩) else system

/-- `set_to_control`; it goes on when the row could not be stored. -/
def setToControl (system : OomSystem App) (app : App)
    (controlled critical stored : Bool) (found : List ℕ)
    (outcome : ℕ → PidOutcome) : OomSystem App :=
  (system.controlRow app controlled critical stored).adjust app critical found
    outcome

/-- A critical app among the controlled ones. -/
def protects (system : OomSystem App) (app : App) : Bool :=
  system.row app = some ⟨true, true⟩

/-- `purge_controlled_app`; without a row nothing is restored. -/
def purge (system : OomSystem App) (app : App) (asked deleted : Bool)
    (outcome : ℕ → PidOutcome) : OomSystem App :=
  let restored := if asked && (system.row app).isSome
    then restorePids app outcome (system.original app) system else system
  if deleted then restored.setRow app none else restored

def step (system : OomSystem App) : OomStep App → OomSystem App
  | .spawn pid score belongs =>
    if system.alive pid then system
    else
      { system with
        alive := Function.update system.alive pid true
        belongs := Function.update system.belongs pid belongs
        score := Function.update system.score pid score
        first := Function.update system.first pid none }
  | .exit pid => { system with alive := Function.update system.alive pid false }
  | .setPriority app critical stored found outcome =>
    system.setPriority app critical stored found outcome
  | .setToControl app controlled critical stored found outcome =>
    system.setToControl app controlled critical stored found outcome
  | .launch app found outcome =>
    system.adjust app (system.protects app) found outcome
  | .setOomScore app found outcome =>
    system.adjust app ((system.row app).any OomRow.critical) found outcome
  | .purge app asked deleted outcome => system.purge app asked deleted outcome

/-! ## What the protection owes -/

/-- The process belongs to a controlled app whose priority is critical. -/
def Guarded (system : OomSystem App) (pid : ℕ) : Prop :=
  ∃ app, system.belongs pid app = true ∧ system.protects app = true

/-- The protection follows the priority. -/
structure OomFollows (system : OomSystem App) : Prop where
  /-- Only processes of critical apps carry a -1000 of the service. -/
  only : ∀ pid value, system.alive pid = true →
    system.first pid = some value → value ≠ -1000 →
      system.score pid = -1000 → system.Guarded pid
  /-- The others have the score they had before. -/
  back : ∀ pid value, system.alive pid = true →
    system.first pid = some value → ¬ system.Guarded pid →
      system.score pid = value

/-- The PIDs that the restore loop writes to. -/
def restoredPids (system : OomSystem App)
    (outcome : ℕ → PidOutcome) : List (ℕ × ℤ) → List ℕ
  | [] => []
  | entry :: entries =>
    if system.alive entry.1 then
      if (outcome entry.1).writes then
        entry.1 :: system.restoredPids outcome entries
      else []
    else system.restoredPids outcome entries

/-- A restore writes to no process that was not adjusted. -/
def RestoresAdjusted (system : OomSystem App) : OomStep App → Prop
  | .purge app asked _ outcome =>
    (asked && (system.row app).isSome) = true →
      ∀ pid ∈ system.restoredPids outcome (system.original app),
        (system.first pid).isSome = true
  | _ => True

/-! ## The condition -/

/-- The process belongs to another controlled app whose priority is
critical. -/
def GuardedBut (system : OomSystem App) (app : App) (pid : ℕ) : Prop :=
  ∃ other, other ≠ app ∧ system.belongs pid other = true ∧
    system.protects other = true

/-- The score of the process is not the one it had at first. -/
def unsettled (system : OomSystem App) (pid : ℕ) : Bool :=
  (system.first pid).any fun value => value ≠ system.score pid

/-- No process of the app with a changed score is left without another critical
app. -/
def LeavesSettled (system : OomSystem App) (app : App) : Prop :=
  ∀ pid ∈ system.written, system.alive pid = true →
    system.belongs pid app = true → system.unsettled pid = true →
      system.GuardedBut app pid

/-- The snapshot of the app is one of processes that were adjusted, and has the
scores they had at first, but for processes of another critical app. -/
def SnapshotRight (system : OomSystem App) (app : App) : Prop :=
  ∀ entry ∈ system.original app, system.alive entry.1 = true →
    (system.first entry.1).isSome = true ∧
      (system.first entry.1 = some entry.2 ∨ system.GuardedBut app entry.1)

/-- The snapshot has every process of the app with a changed score, but for
those of another critical app, and the restore goes through. -/
def RestoresAll (system : OomSystem App) (app : App) (asked : Bool)
    (outcome : ℕ → PidOutcome) : Prop :=
  ∀ pid ∈ system.written, system.alive pid = true →
    system.belongs pid app = true → system.unsettled pid = true →
      system.GuardedBut app pid ∨
        (asked = true ∧ pid ∈ (system.original app).map Prod.fst ∧
          ∀ entry ∈ system.original app, system.alive entry.1 = true →
            (outcome entry.1).writes = true)

/-- Only critical apps under control are adjusted, critical status ends where
no score is left behind, and a purge restores. -/
def FollowsPriority (system : OomSystem App) : OomStep App → Prop
  | .spawn _ _ _ => True
  | .exit _ => True
  | .setPriority app critical stored found _ =>
    ∀ row ∈ system.row app, stored = true →
      if critical then row.controlled = true ∨ system.matching app found = []
      else system.LeavesSettled app
  | .setToControl app controlled critical stored found _ =>
    (critical = true →
      (system.controlRow app controlled critical stored).protects app =
        true ∨ system.matching app found = []) ∧
      (stored = true → (controlled && critical) = false →
        system.LeavesSettled app)
  | .launch _ _ _ => True
  | .setOomScore app found _ =>
    ∀ row ∈ system.row app, row.critical = true →
      row.controlled = true ∨ system.matching app found = []
  | .purge app asked deleted outcome =>
    ((asked && (system.row app).isSome) = true → system.SnapshotRight app) ∧
      (deleted = true →
        system.RestoresAll app (asked && (system.row app).isSome) outcome)

section Decide

variable [Fintype App]

instance (system : OomSystem App) (app : App) (pid : ℕ) :
    Decidable (system.GuardedBut app pid) :=
  inferInstanceAs (Decidable (∃ other, other ≠ app ∧
    system.belongs pid other = true ∧ system.protects other = true))

instance (system : OomSystem App) (app : App) :
    Decidable (system.LeavesSettled app) :=
  inferInstanceAs (Decidable (∀ pid ∈ system.written,
    system.alive pid = true → system.belongs pid app = true →
      system.unsettled pid = true → system.GuardedBut app pid))

instance (system : OomSystem App) (app : App) :
    Decidable (system.SnapshotRight app) :=
  inferInstanceAs (Decidable (∀ entry ∈ system.original app,
    system.alive entry.1 = true → (system.first entry.1).isSome = true ∧
      (system.first entry.1 = some entry.2 ∨ system.GuardedBut app entry.1)))

instance
    (system : OomSystem App)
    (app : App)
    (asked : Bool)
    (outcome : ℕ → PidOutcome) :
    Decidable (system.RestoresAll app asked outcome) :=
  inferInstanceAs (Decidable (∀ pid ∈ system.written,
    system.alive pid = true → system.belongs pid app = true →
      system.unsettled pid = true → system.GuardedBut app pid ∨
        (asked = true ∧ pid ∈ (system.original app).map Prod.fst ∧
          ∀ entry ∈ system.original app, system.alive entry.1 = true →
            (outcome entry.1).writes = true)))

instance (system : OomSystem App) (label : OomStep App) :
    Decidable (FollowsPriority system label) :=
  match label with
  | .spawn _ _ _ => .isTrue trivial
  | .exit _ => .isTrue trivial
  | .setPriority app critical stored found _ =>
    inferInstanceAs (Decidable (∀ row ∈ system.row app, stored = true →
      if critical then row.controlled = true ∨ system.matching app found = []
      else system.LeavesSettled app))
  | .setToControl app controlled critical stored found _ =>
    inferInstanceAs (Decidable ((critical = true →
      (system.controlRow app controlled critical stored).protects app =
        true ∨ system.matching app found = []) ∧
      (stored = true → (controlled && critical) = false →
        system.LeavesSettled app)))
  | .launch _ _ _ => .isTrue trivial
  | .setOomScore app found _ =>
    inferInstanceAs (Decidable (∀ row ∈ system.row app, row.critical = true →
        row.controlled = true ∨ system.matching app found = []))
  | .purge app asked deleted outcome =>
    inferInstanceAs (Decidable (((asked && (system.row app).isSome) = true →
      system.SnapshotRight app) ∧
      (deleted = true →
        system.RestoresAll app (asked && (system.row app).isSome) outcome)))

end Decide

end OomSystem

end SmarTune
