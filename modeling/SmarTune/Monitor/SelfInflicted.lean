import SmarTune.Library.Runs
import Mathlib.Algebra.Order.BigOperators.Group.List
import Mathlib.Algebra.Order.Field.Basic
import Mathlib.Data.List.Nodup
import Mathlib.Tactic.Linarith

/-!
# Self-inflicted pressure

`get_self_inflicted_fraction` divides the stall rate of the limited cgroups by
that of the system.  Each rate is taken since the last reading of its own file;
only the files of the cgroups of a call are read, and a call without cgroups
reads none.
-/

namespace SmarTune

/-- A pressure file, read at a time: the `some` total, in microseconds. -/
structure PsiSample where
  now : ℚ
  total : Option ℕ

/-- The resources with a fraction that is measured. -/
inductive FractionResource
  | cpu
  | io

/-- The cgroups of a call, and what it reads of a resource: the system file
and the file of each cgroup, by its position. -/
structure FractionCall where
  paths : List String
  sys : FractionResource → PsiSample
  cgroup : FractionResource → ℕ → PsiSample

/-- `_frac_last` for one resource. -/
abbrev FracLast := String → Option (ℚ × ℕ)

/-- `_frac_last`, `_frac_smoothed`, and the call before. -/
structure FractionMonitor where
  fracLast : FractionResource → FracLast
  fracSmoothed : FractionResource → Option ℚ
  previous : Option FractionCall

namespace FractionCall

variable (call : FractionCall) (res : FractionResource)

/-- The cgroup files that a call reads. -/
def cgroups : List (String × PsiSample) :=
  call.paths.zipIdx.map fun entry => (entry.1, call.cgroup res entry.2)

/-- The files that a call reads, the system file under `"sys"`. -/
def reads : List (String × PsiSample) :=
  if call.paths = [] then [] else ("sys", call.sys res) :: call.cgroups res

/-- What a call reads under a key. -/
def sampleOf (key : String) : Option PsiSample :=
  ((call.reads res).find? fun read => read.1 = key).map Prod.snd

end FractionCall

/-- The rate of `_some_total_delta_rate` since an earlier reading. -/
def deltaRate (last : Option (ℚ × ℕ)) (sample : PsiSample) : Option ℚ :=
  match sample.total, last with
  | some total, some (time, before) =>
    if sample.now - time ≤ 0 then none
    else some (max 0
      (min (((total : ℚ) - before) / 1000000 / (sample.now - time)) 1))
  | _, _ => none

/-- The history after `_some_total_delta_rate`. -/
def remember (last : FracLast) (key : String) (sample : PsiSample) : FracLast :=
  match sample.total with
  | none => last
  | some total => Function.update last key (some (sample.now, total))

/-- The cgroup rates of a call, and the history after them. -/
def cgroupRates (last : FracLast) :
    List (String × PsiSample) → List ℚ × FracLast
  | [] => ([], last)
  | (key, sample) :: rest =>
    let later := cgroupRates (remember last key sample) rest
    ((deltaRate (last key) sample).toList ++ later.1, later.2)

/-- The quotient of a call; `if sys_rate and have_cg`. -/
def quotient (sysRate : Option ℚ) (rates : List ℚ) : Option ℚ :=
  match sysRate with
  | none => none
  | some rate =>
    if rate ≠ 0 ∧ rates ≠ [] then some (min 1 (rates.sum / rate)) else none

namespace FractionMonitor

variable (monitor : FractionMonitor) (call : FractionCall)
  (res : FractionResource)

/-- What a call reads of a resource: its raw fraction, and the history. -/
def measure : Option ℚ × FracLast :=
  if call.paths = [] then (none, monitor.fracLast res)
  else
    let rates := cgroupRates
      (remember (monitor.fracLast res) "sys" (call.sys res)) (call.cgroups res)
    (quotient (deltaRate (monitor.fracLast res "sys") (call.sys res)) rates.1,
      rates.2)

/-- `_FRAC_EWMA_ALPHA`. -/
def fracEwmaAlpha : ℚ := 3 / 10

/-- The smoothed fraction after a call. -/
def smoothed : Option ℚ :=
  match (monitor.measure call res).1, monitor.fracSmoothed res with
  | none, held => held
  | some raw, none => some raw
  | some raw, some held =>
    some (fracEwmaAlpha * raw + (1 - fracEwmaAlpha) * held)

/-- The history after `get_self_inflicted_fraction`. -/
def step : FractionMonitor where
  fracLast := fun res => (monitor.measure call res).2
  fracSmoothed := monitor.smoothed call
  previous := some call

/-- `get_self_inflicted_fraction`; that of memory is always zero. -/
def fraction : ℚ :=
  if call.paths = [] then 0 else (monitor.smoothed call res).getD 0

/-- A monitor that has not measured. -/
def initial : FractionMonitor := ⟨fun _ _ => none, fun _ => none, none⟩

end FractionMonitor

/-! ## What a fraction should be -/

/-- The rate of a file from one call to another. -/
def rateBetween (first : FractionCall) (res : FractionResource) (key : String)
    (sample : PsiSample) : Option ℚ :=
  (first.sampleOf res key).bind fun earlier =>
    deltaRate (earlier.total.map (earlier.now, ·)) sample

/-- The fraction of the interval between two calls. -/
def fractionBetween (first second : FractionCall) (res : FractionResource) :
    Option ℚ :=
  quotient (rateBetween first res "sys" (second.sys res))
    ((second.cgroups res).filterMap fun read =>
      rateBetween first res read.1 read.2)

namespace FractionMonitor

/-- A raw fraction is a fraction, and that of the interval since the call
before. -/
def OneInterval (monitor : FractionMonitor) (call : FractionCall) : Prop :=
  ∀ res raw, (monitor.measure call res).1 = some raw →
    (0 ≤ raw ∧ raw ≤ 1) ∧
      ∃ first ∈ monitor.previous, fractionBetween first call res = some raw

/-- No cgroup is passed twice or goes by the name of the system, and a file
that can be read and has been read before was read by the call before. -/
def Fresh (monitor : FractionMonitor) (call : FractionCall) : Prop :=
  call.paths.Nodup ∧ "sys" ∉ call.paths ∧
    ∀ res, ∀ read ∈ call.reads res, read.2.total.isSome →
      (monitor.fracLast res read.1).isSome → ∃ first ∈ monitor.previous,
        ∃ earlier ∈ first.sampleOf res read.1, earlier.total.isSome

/-- What the call before has read is remembered. -/
def Sound (monitor : FractionMonitor) : Prop :=
  ∀ first ∈ monitor.previous, ∀ res key,
    ∀ sample ∈ first.sampleOf res key, ∀ total ∈ sample.total,
      monitor.fracLast res key = some (sample.now, total)

/-! ## Reading -/

theorem remember_of_ne {last : FracLast} {key other : String}
    (sample : PsiSample) (apart : other ≠ key) :
    remember last key sample other = last other := by
  unfold remember
  cases sample.total with
  | none => rfl
  | some total => exact Function.update_of_ne apart _ _

theorem cgroupRates_of_not_mem {last : FracLast} {key : String}
    {reads : List (String × PsiSample)} (absent : key ∉ reads.map Prod.fst) :
    (cgroupRates last reads).2 key = last key := by
  induction reads generalizing last with
  | nil => rfl
  | cons read reads ih =>
    simp only [List.map_cons, List.mem_cons, not_or] at absent
    exact (ih absent.2).trans (remember_of_ne read.2 absent.1)

/-- Rates of different files do not depend on each other. -/
theorem cgroupRates_fst {last : FracLast} {reads : List (String × PsiSample)}
    (once : (reads.map Prod.fst).Nodup) :
    (cgroupRates last reads).1 =
      reads.filterMap fun read => deltaRate (last read.1) read.2 := by
  induction reads generalizing last with
  | nil => rfl
  | cons read reads ih =>
    simp only [List.map_cons, List.nodup_cons] at once
    have later : ∀ other ∈ reads,
        deltaRate (remember last read.1 read.2 other.1) other.2 =
          deltaRate (last other.1) other.2 := by
      intro other member
      have apart : other.1 ≠ read.1 := fun same =>
        once.1 (same ▸ List.mem_map_of_mem member)
      rw [remember_of_ne read.2 apart]
    rw [cgroupRates, ih once.2, List.filterMap_congr later]
    cases found : deltaRate (last read.1) read.2 with
    | none => simp [found]
    | some rate => simp [found]

/-- Each file that was read is remembered. -/
theorem cgroupRates_snd {last : FracLast} {reads : List (String × PsiSample)}
    (once : (reads.map Prod.fst).Nodup) {read : String × PsiSample}
    (member : read ∈ reads) {total : ℕ} (readable : total ∈ read.2.total) :
    (cgroupRates last reads).2 read.1 = some (read.2.now, total) := by
  induction reads generalizing last with
  | nil => cases member
  | cons first reads ih =>
    simp only [List.map_cons, List.nodup_cons] at once
    rcases List.mem_cons.mp member with rfl | later
    · refine (cgroupRates_of_not_mem once.1).trans ?_
      rw [remember, Option.mem_def.mp readable]
      exact Function.update_self _ _ _
    · exact ih once.2 later

variable {monitor : FractionMonitor} {call : FractionCall}

theorem keys_reads (fresh : monitor.Fresh call) (res : FractionResource) :
    ((call.reads res).map Prod.fst).Nodup := by
  have keys : (call.cgroups res).map Prod.fst = call.paths := by
    simp [FractionCall.cgroups, Function.comp_def]
  unfold FractionCall.reads
  split
  · exact List.nodup_nil
  · rw [List.map_cons, keys]
    exact List.nodup_cons.mpr ⟨fresh.2.1, fresh.1⟩

/-- A call is read as if all its files were cgroups. -/
theorem measure_snd (call : FractionCall) (res : FractionResource) :
    (monitor.measure call res).2 =
      (cgroupRates (monitor.fracLast res) (call.reads res)).2 := by
  unfold measure FractionCall.reads
  split <;> rfl

theorem sound_step (fresh : monitor.Fresh call) : (monitor.step call).Sound := by
  rintro _ ⟨⟩ res key sample found total readable
  obtain ⟨read, listed, rfl⟩ := Option.map_eq_some_iff.mp found
  have named := List.find?_some listed
  obtain rfl := of_decide_eq_true named
  exact (congrFun (measure_snd call res) read.1).trans
    (cgroupRates_snd (keys_reads fresh res) (List.mem_of_find?_eq_some listed)
      readable)

/-- Where each file has been read by the call before, rates are over the
interval between the calls. -/
theorem deltaRate_eq_rateBetween (sound : monitor.Sound)
    (fresh : monitor.Fresh call) {first : FractionCall}
    (before : first ∈ monitor.previous) {res : FractionResource}
    {read : String × PsiSample} (member : read ∈ call.reads res) :
    deltaRate (monitor.fracLast res read.1) read.2 =
      rateBetween first res read.1 read.2 := by
  unfold rateBetween
  cases readable : read.2.total with
  | none => simp [deltaRate, readable]
  | some total =>
    cases known : monitor.fracLast res read.1 with
    | none =>
      cases earlier : first.sampleOf res read.1 with
      | none => simp [deltaRate, readable]
      | some sample =>
        cases past : sample.total with
        | none => simp [deltaRate, readable, past]
        | some total =>
          have held := sound first before res read.1 sample earlier total past
          rw [known] at held
          cases held
    | some base =>
      obtain ⟨_, same, sample, earlier, past⟩ := fresh.2.2 res read member
        (by rw [readable]; rfl) (by rw [known]; rfl)
      obtain rfl := Option.mem_unique before same
      obtain ⟨total, past⟩ := Option.isSome_iff_exists.mp past
      have held := sound first before res read.1 sample earlier total past
      rw [known] at held
      rw [Option.mem_def.mp earlier, Option.bind_some, past, held]
      rfl

theorem quotient_mem {sysRate : Option ℚ} {rates : List ℚ} {raw : ℚ}
    (system : ∀ rate ∈ sysRate, 0 ≤ rate) (cgroups : ∀ rate ∈ rates, 0 ≤ rate)
    (found : quotient sysRate rates = some raw) : 0 ≤ raw ∧ raw ≤ 1 := by
  unfold quotient at found
  split at found
  · cases found
  next rate =>
    split at found
    · cases found
      exact ⟨le_min zero_le_one (div_nonneg (List.sum_nonneg cgroups)
        (system rate rfl)), min_le_left _ _⟩
    · cases found

theorem deltaRate_nonneg {last : Option (ℚ × ℕ)} {sample : PsiSample} {rate : ℚ}
    (found : rate ∈ deltaRate last sample) : 0 ≤ rate := by
  unfold deltaRate at found
  split at found
  · split at found
    · cases found
    · cases found
      exact le_max_left _ _
  · cases found

theorem cgroupRates_nonneg {last : FracLast}
    {reads : List (String × PsiSample)} :
    ∀ rate ∈ (cgroupRates last reads).1, 0 ≤ rate := by
  induction reads generalizing last with
  | nil => simp [cgroupRates]
  | cons read reads ih =>
    intro rate member
    rcases List.mem_append.mp member with first | later
    · exact deltaRate_nonneg (Option.mem_toList.mp first)
    · exact ih rate later

theorem measure_mem {res : FractionResource} {raw : ℚ}
    (found : (monitor.measure call res).1 = some raw) : 0 ≤ raw ∧ raw ≤ 1 := by
  unfold measure at found
  split at found
  · cases found
  · exact quotient_mem (fun _ => deltaRate_nonneg) cgroupRates_nonneg found

/-- A rate takes an earlier reading and a readable file. -/
theorem isSome_of_deltaRate {last : Option (ℚ × ℕ)} {sample : PsiSample}
    {rate : ℚ} (found : deltaRate last sample = some rate) :
    sample.total.isSome ∧ last.isSome := by
  unfold deltaRate at found
  split at found
  · next readable => exact ⟨by rw [readable]; rfl, rfl⟩
  · cases found

theorem oneInterval_of_fresh (sound : monitor.Sound)
    (fresh : monitor.Fresh call) : monitor.OneInterval call := by
  intro res raw found
  refine ⟨measure_mem found, ?_⟩
  unfold measure at found
  split at found
  · cases found
  next nonempty =>
    have reads : call.reads res = ("sys", call.sys res) :: call.cgroups res :=
      if_neg nonempty
    have once := keys_reads fresh res
    rw [reads, List.map_cons, List.nodup_cons] at once
    have rates : (cgroupRates (remember (monitor.fracLast res) "sys"
        (call.sys res)) (call.cgroups res)).1 =
        (call.cgroups res).filterMap fun read =>
          deltaRate (monitor.fracLast res read.1) read.2 := by
      rw [cgroupRates_fst once.2]
      apply List.filterMap_congr
      intro read member
      rw [remember_of_ne]
      exact fun same => once.1 (List.mem_map.mpr ⟨read, member, same⟩)
    simp only [rates] at found
    have system : ("sys", call.sys res) ∈ call.reads res := by
      rw [reads]
      exact List.mem_cons_self
    have measured : ∃ rate, deltaRate (monitor.fracLast res "sys")
        (call.sys res) = some rate := by
      cases taken : deltaRate (monitor.fracLast res "sys") (call.sys res) with
      | none => simp [taken, quotient] at found
      | some rate => exact ⟨rate, rfl⟩
    obtain ⟨readable, known⟩ := isSome_of_deltaRate measured.choose_spec
    obtain ⟨first, before, -⟩ := fresh.2.2 res _ system readable known
    refine ⟨first, before, ?_⟩
    unfold fractionBetween
    rw [← found, ← deltaRate_eq_rateBetween sound fresh before system]
    congr 1
    apply List.filterMap_congr
    intro read member
    have among : read ∈ call.reads res := by
      rw [reads]
      exact List.mem_cons_of_mem _ member
    exact (deltaRate_eq_rateBetween sound fresh before among).symm

/-- Whatever is called when, a smoothed fraction is a fraction. -/
theorem fraction_mem_run (calls : List FractionCall) :
    Runs.EveryStep step (fun monitor call => ∀ res,
      0 ≤ monitor.fraction call res ∧ monitor.fraction call res ≤ 1)
      initial calls := by
  have smooth : ∀ (monitor : FractionMonitor) call,
      (∀ res, ∀ held ∈ monitor.fracSmoothed res, 0 ≤ held ∧ held ≤ 1) →
      ∀ res, ∀ next ∈ monitor.smoothed call res, 0 ≤ next ∧ next ≤ 1 := by
    intro monitor call bounded res next found
    unfold smoothed at found
    split at found
    · exact bounded res next found
    · next raw _ =>
      cases found
      exact measure_mem raw
    · next raw held =>
      cases found
      have fresh := measure_mem raw
      have old := bounded res _ held
      unfold fracEwmaAlpha
      constructor <;> linarith
  refine Runs.everyStep_of_invariant (fun monitor : FractionMonitor =>
    ∀ res, ∀ held ∈ monitor.fracSmoothed res, 0 ≤ held ∧ held ≤ 1)
    (fun monitor call bounded => smooth monitor call bounded) ?_ calls
    (by rintro _ _ ⟨⟩)
  intro monitor call bounded res
  unfold fraction
  split
  · exact ⟨le_rfl, zero_le_one⟩
  · cases found : monitor.smoothed call res with
    | none => exact ⟨le_rfl, zero_le_one⟩
    | some next => exact smooth monitor call bounded res next found

/-- A call that reads the same of both resources. -/
def callAt (paths : List String) (time : ℚ) (system cgroup : ℕ) :
    FractionCall where
  paths := paths
  sys := fun _ => ⟨time, some system⟩
  cgroup := fun _ _ => ⟨time, some cgroup⟩

end FractionMonitor
end SmarTune
