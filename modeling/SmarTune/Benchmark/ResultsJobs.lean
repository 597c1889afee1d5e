import SmarTune.Benchmark.RunRequests
import SmarTune.Identity.Names

/-!
# Run directories and jobs

A run directory is listed under the job that its name gives without a device
suffix, of the devices that its rows name among others.  `delete_job` goes by
the name alone, and `result_snapshot` by what the name begins with.
-/

namespace SmarTune

/-! ## Blanks -/

section Strip

variable {text whole : List Char}

/-- Blanks are stripped off both ends. -/
theorem stripText_cases (text : List Char) :
    ∃ lead trail, text = lead ++ stripText text ++ trail ∧
      (∀ char ∈ lead, UnicodeText.isSpace char = true) ∧
      (∀ char ∈ trail, UnicodeText.isSpace char = true) ∧
      ∀ char, (stripText text).head? = some char →
        UnicodeText.isSpace char = false := by
  let rest := text.dropWhile UnicodeText.isSpace
  have kept : stripText text = rest.rdropWhile UnicodeText.isSpace := rfl
  have whole : rest = stripText text ++ rest.rtakeWhile UnicodeText.isSpace := by
    rw [kept, List.rdropWhile_append_rtakeWhile]
  refine ⟨text.takeWhile UnicodeText.isSpace,
    rest.rtakeWhile UnicodeText.isSpace, ?_, fun char member => ?_,
    fun char member => ?_, fun char first => ?_⟩
  · rw [List.append_assoc, ← whole, List.takeWhile_append_dropWhile]
  · exact List.mem_takeWhile_imp member
  · exact List.mem_rtakeWhile_imp member
  · have start : rest.head? = some char := by
      rw [whole, List.head?_append, first]
      rfl
    have blank := List.head?_dropWhile_not UnicodeText.isSpace text
    rw [start] at blank
    simpa using blank

theorem stripText_eq_self (begins : text <+: whole)
    (stripped : stripText text <+: whole) (written : stripText text ≠ [])
    (next : ∀ char, whole[(stripText text).length]? = some char →
      UnicodeText.isSpace char = false) :
    stripText text = text := by
  obtain ⟨lead, trail, split, leadBlank, trailBlank, first⟩ := stripText_cases text
  obtain ⟨rest, rfl⟩ := begins
  generalize stripText text = kept at *
  subst split
  cases lead with
  | cons char lead =>
    obtain ⟨head, kept, rfl⟩ := List.exists_cons_of_ne_nil written
    obtain ⟨tail, same⟩ := stripped
    have equal : head = char := by
      simp only [List.cons_append, List.cons.injEq] at same
      exact same.1
    have blank := leadBlank char List.mem_cons_self
    rw [← equal, first head rfl] at blank
    exact absurd blank Bool.false_ne_true
  | nil =>
    cases trail with
    | nil => simp
    | cons char trail =>
      have blank := trailBlank char List.mem_cons_self
      rw [next char (by simp)] at blank
      exact absurd blank Bool.false_ne_true

end Strip

/-! ## Jobs -/

/-- `text.lower().endswith(suffix.lower())`. -/
def endsAlike (text suffix : List Char) : Bool :=
  (suffix.map Char.toLower).isSuffixOf (text.map Char.toLower)

/-- The devices whose suffixes are looked for, the longest first. -/
def deviceCandidates (devices : List (List Char)) : List (List Char) :=
  ((devices.map stripText).filter (· ≠ []) ++
    ["CPU".toList, "GPU".toList, "NPU".toList]).insertionSort
      fun one other => other.length ≤ one.length

/-- How many characters `_job_name` takes off a name: the suffix of a device,
but not the whole name. -/
def deviceCut (name : List Char) (devices : List (List Char)) : ℕ :=
  match (deviceCandidates devices).find? fun device =>
      endsAlike name ('_' :: device) with
  | none => 0
  | some device =>
    if name.length ≤ device.length + 1 then 0 else device.length + 1

/-- `_job_name`. -/
def jobName (name : List Char) (devices : List (List Char)) : List Char :=
  match (deviceCandidates devices).find? fun device =>
      endsAlike name ('_' :: device) with
  | none => name
  | some device =>
    let job := name.take (name.length - (device.length + 1))
    if job = [] then name else job

/-- A run directory, with the name of the run that produced it and the devices
of the rows of its summary. -/
structure RunDir where
  run : List Char
  /-- The group and the device. -/
  rest : List Char
  devices : List (List Char)
  hasSummary : Bool
  /-- Whether `shutil.rmtree` succeeds. -/
  removable : Bool
  named : run ≠ []
  separated : rest = [] ∨ rest.head? = some '_'
  deriving DecidableEq

namespace RunDir

/-- The name of the directory. -/
def name (dir : RunDir) : List Char := dir.run ++ dir.rest

/-- The job that `collect` reports. -/
def job (dir : RunDir) : List Char := jobName dir.name dir.devices

end RunDir

/-- `BACKENDS`. -/
inductive ResultsBackendName
  | genai
  | ovms
  | app
  deriving DecidableEq

abbrev RunTree := ResultsBackendName → List RunDir

namespace RunTree

variable (tree : RunTree)

def all : List (ResultsBackendName × RunDir) :=
  [ResultsBackendName.genai, .ovms, .app].flatMap fun backend =>
    (tree backend).map (backend, ·)

/-- The run directories that `collect` reports. -/
def collected : List (ResultsBackendName × RunDir) :=
  tree.all.filter fun entry => entry.2.hasSummary

/-- The jobs that `matrix` lists. -/
def jobs : List (List Char) :=
  ((tree.collected.map fun entry => entry.2.job).filter (· ≠ [])).eraseDups

/-- The directories that `delete_job` removes. -/
def deleteJob (job : List Char) : List (ResultsBackendName × RunDir) :=
  let wanted := stripText job
  if wanted = [] then []
  else
    tree.all.filter fun entry =>
      jobName entry.2.name [] = wanted ∧ entry.2.removable

/-- The directories that `result_snapshot` summarises. -/
def resultSnapshot (runName : List Char) : List (ResultsBackendName × RunDir) :=
  let wanted := stripText runName
  if wanted = [] then []
  else
    tree.collected.filter fun entry =>
      entry.2.name = wanted ∨ wanted ++ ['_'] <+: entry.2.name

/-- A listed job is deleted with the directories that are reported under it,
and a run is summarised by those that it produced. -/
structure GoesByJob : Prop where
  deletes : ∀ job ∈ tree.jobs, ∀ entry,
    entry ∈ tree.deleteJob job ↔ entry ∈ tree.collected ∧ entry.2.job = job
  summarises : ∀ maker ∈ tree.all, ∀ entry,
    entry ∈ tree.resultSnapshot maker.2.run ↔
      entry ∈ tree.collected ∧ entry.2.run = maker.2.run

/-- The devices of the rows make no difference to the suffix of a directory that
is reported; no job and no run has blanks around its name; all reported
directories can be removed, and no other one that can be is named like the job
of one; and no reported directory is named after another run. -/
structure NamesApart : Prop where
  suffixes : ∀ entry ∈ tree.collected,
    deviceCut entry.2.name entry.2.devices = deviceCut entry.2.name []
  blanks : ∀ entry ∈ tree.collected,
    stripText (jobName entry.2.name []) = jobName entry.2.name []
  removable : ∀ entry ∈ tree.collected, entry.2.removable
  summaries : ∀ entry ∈ tree.all, entry.2.hasSummary = false →
    entry.2.removable → ∀ other ∈ tree.collected,
      jobName entry.2.name [] ≠ jobName other.2.name []
  stripped : ∀ entry ∈ tree.collected, stripText entry.2.run = entry.2.run
  runs : ∀ entry ∈ tree.collected, ∀ maker ∈ tree.all,
    maker.2.run ≠ entry.2.run → stripText maker.2.run ≠ [] →
      ¬ (entry.2.name = stripText maker.2.run ∨
        stripText maker.2.run ++ ['_'] <+: entry.2.name)

end RunTree

/-! ## What is taken off a name -/

section Cut

variable {name : List Char} {devices : List (List Char)}

/-- What is taken off begins with an underscore, and never is the whole name. -/
theorem deviceCut_cases (name : List Char) (devices : List (List Char)) :
    jobName name devices = name.take (name.length - deviceCut name devices) ∧
      (name ≠ [] → deviceCut name devices < name.length) ∧
      (deviceCut name devices ≠ 0 →
        name[name.length - deviceCut name devices]? = some '_') := by
  unfold jobName deviceCut
  split
  · exact ⟨by simp, List.length_pos_of_ne_nil, fun cut => absurd rfl cut⟩
  · next device found =>
      dsimp only
      by_cases short : name.length ≤ device.length + 1
      · have nothing : name.take (name.length - (device.length + 1)) = [] := by
          rw [Nat.sub_eq_zero_of_le short, List.take_zero]
        rw [if_pos short, if_pos nothing]
        exact ⟨by simp, List.length_pos_of_ne_nil, fun cut => absurd rfl cut⟩
      · rw [if_neg short, if_neg]
        · refine ⟨rfl, fun _ => by omega, fun _ => ?_⟩
          have ends := List.find?_some found
          simp only [endsAlike, List.isSuffixOf_iff_suffix] at ends
          obtain ⟨start, same⟩ := ends
          have length := congrArg List.length same
          simp only [List.length_append, List.length_map, List.length_cons]
            at length
          have char := congrArg (·[start.length]?) same
          have place : name.length - (device.length + 1) = start.length := by
            omega
          rw [List.getElem?_append_right le_rfl, List.map_cons, Nat.sub_self,
            List.getElem?_cons_zero, List.getElem?_map] at char
          obtain ⟨found, there, lowered⟩ := Option.map_eq_some_iff.mp char.symm
          rw [place, there,
            (toLower_eq_iff (by decide : '_'.isAlpha = false)).mp lowered]
        · intro nothing
          have length := congrArg List.length nothing
          rw [List.length_take, List.length_nil] at length
          omega

theorem jobName_ne_nil (devices : List (List Char)) (named : name ≠ []) :
    jobName name devices ≠ [] := by
  obtain ⟨same, shorter, -⟩ := deviceCut_cases name devices
  intro nothing
  rw [same] at nothing
  have length := congrArg List.length nothing
  rw [List.length_take, List.length_nil] at length
  have := shorter named
  omega

/-- The name without any devices of rows is the stripped job exactly if the
devices make no difference and there is nothing to strip. -/
theorem jobName_eq_stripText_iff (named : name ≠ []) :
    jobName name [] = stripText (jobName name devices) ↔
      deviceCut name devices = deviceCut name [] ∧
        stripText (jobName name []) = jobName name [] := by
  obtain ⟨bare, bareShorter, bareNext⟩ := deviceCut_cases name []
  obtain ⟨job, jobShorter, -⟩ := deviceCut_cases name devices
  have bareLess := bareShorter named
  have jobLess := jobShorter named
  constructor
  · intro same
    have whole : stripText (jobName name devices) = jobName name devices := by
      refine stripText_eq_self (job ▸ List.take_prefix _ _)
        (same ▸ bare ▸ List.take_prefix _ _) (same ▸ jobName_ne_nil [] named) ?_
      intro char next
      rw [← same, bare, List.length_take,
        Nat.min_eq_left (Nat.sub_le _ _)] at next
      by_cases uncut : deviceCut name [] = 0
      · simp [uncut] at next
      · rw [bareNext uncut, Option.some_inj] at next
        rw [← next]
        decide
    rw [whole] at same
    refine ⟨?_, by rw [same, whole]⟩
    rw [bare, job] at same
    have length := congrArg List.length same
    rw [List.length_take, List.length_take] at length
    omega
  · rintro ⟨cuts, blanks⟩
    rw [job, cuts, ← bare, blanks]

end Cut

/-! ## What goes by which name -/

namespace RunTree

variable {tree : RunTree}

theorem RunDir.name_ne_nil (dir : RunDir) : dir.name ≠ [] := by
  simp [RunDir.name, dir.named]

variable {job : List Char} {entry : ResultsBackendName × RunDir}

theorem mem_jobs_iff :
    job ∈ tree.jobs ↔ ∃ entry ∈ tree.collected, entry.2.job = job := by
  simp only [jobs, List.mem_eraseDups, List.mem_filter, List.mem_map,
    decide_eq_true_eq]
  constructor
  · exact fun listed => listed.1
  · rintro ⟨entry, member, rfl⟩
    exact ⟨⟨entry, member, rfl⟩, jobName_ne_nil _ (RunDir.name_ne_nil entry.2)⟩

theorem mem_collected_iff :
    entry ∈ tree.collected ↔ entry ∈ tree.all ∧ entry.2.hasSummary = true :=
  List.mem_filter

theorem mem_deleteJob_iff :
    entry ∈ tree.deleteJob job ↔ entry ∈ tree.all ∧
      jobName entry.2.name [] = stripText job ∧ entry.2.removable = true := by
  unfold deleteJob
  dsimp only
  split
  · next blank =>
      rw [blank]
      simp [jobName_ne_nil [] (RunDir.name_ne_nil entry.2)]
  · simp [List.mem_filter]

theorem mem_resultSnapshot_iff {runName : List Char} :
    entry ∈ tree.resultSnapshot runName ↔ entry ∈ tree.collected ∧
      stripText runName ≠ [] ∧ (entry.2.name = stripText runName ∨
        stripText runName ++ ['_'] <+: entry.2.name) := by
  unfold resultSnapshot
  dsimp only
  split
  · next blank => simp [blank]
  · next written => simp [List.mem_filter, written]

theorem goesBy_iff (dir : RunDir) :
    (stripText dir.run ≠ [] ∧ (dir.name = stripText dir.run ∨
      stripText dir.run ++ ['_'] <+: dir.name)) ↔ stripText dir.run = dir.run := by
  constructor
  · rintro ⟨written, goes⟩
    refine @stripText_eq_self dir.run dir.name (List.prefix_append _ _) ?_
      written ?_
    · rcases goes with same | begins
      · exact same ▸ List.prefix_rfl
      · exact (List.prefix_append _ _).trans begins
    · intro char next
      rcases goes with same | ⟨rest, same⟩
      · rw [same] at next
        simp at next
      · rw [← same, List.append_assoc, List.getElem?_append_right le_rfl] at next
        simp only [Nat.sub_self, List.cons_append, List.getElem?_cons_zero,
          Option.some_inj] at next
        rw [← next]
        decide
  · intro same
    rw [same]
    refine ⟨dir.named, ?_⟩
    rcases dir.separated with none | start
    · left
      rw [RunDir.name, none, List.append_nil]
    · right
      obtain ⟨rest, split⟩ : ∃ rest, dir.rest = '_' :: rest := by
        cases rest : dir.rest with
        | nil => simp [rest] at start
        | cons char tail =>
          rw [rest, List.head?_cons, Option.some_inj] at start
          exact ⟨tail, by rw [start]⟩
      exact ⟨rest, by simp [RunDir.name, split]⟩

end RunTree

/-- A run on a device that is none of the three. -/
def otherDeviceRun : RunDir where
  run := "r".toList
  rest := "_DGPU".toList
  devices := ["DGPU".toList]
  hasSummary := true
  removable := true
  named := by decide
  separated := by decide

def otherDeviceTree : RunTree
  | .genai => [otherDeviceRun]
  | _ => []

end SmarTune
