import SmarTune.Benchmark.ResultsJoin

/-!
# Deleting results

`delete_cases` goes over the paths that it is given and removes their
directories; then it goes over the runs that these lie in, drops the rows of
the cases from each `summary.tsv`, and removes a run that has no rows left.

What the system answers is a parameter: where a path leads, whether a directory
can be removed and what is left of it otherwise, and whether a summary can be
read and written.
-/

namespace SmarTune

/-! ## The tree -/

/-- A `summary.tsv`. -/
structure Summary where
  columns : List (List Char)
  rows : List CsvRow
  named : ∀ row ∈ rows, ∀ entry ∈ row, entry.1 ∈ columns

/-- The directories and, by the directories that they are in, the summaries. -/
structure ResultsTree where
  dirs : PosixPath → Bool
  summary : PosixPath → Option Summary

/-- What is left of the directories and of the summaries below a directory that
could not be removed. -/
structure Leftover where
  dir : PosixPath → Bool
  summary : PosixPath → Bool

/-- The answers of the system. -/
structure ResultsOs where
  /-- `Path(raw).resolve()`. -/
  resolve : ResultsTree → List Char → Option PosixPath
  /-- `shutil.rmtree`, with what it leaves when it fails. -/
  rmtree : ResultsTree → PosixPath → Option Leftover
  /-- Whether a summary can be read. -/
  reads : ResultsTree → PosixPath → Bool
  /-- What is in a summary that could not be written. -/
  write : ResultsTree → PosixPath → Option Summary

namespace ResultsTree

/-- The rows of the summary in a directory. -/
def rows (tree : ResultsTree) (run : PosixPath) : List CsvRow :=
  match tree.summary run with
  | some summary => summary.rows
  | none => []

/-- The tree after a directory was removed, with what is left of it. -/
def without (tree : ResultsTree) (dir : PosixPath) (left : Leftover) :
    ResultsTree where
  dirs path := tree.dirs path && (!decide (dir.Under path) || left.dir path)
  summary path :=
    if dir.Under path ∧ left.summary path = false then none
    else tree.summary path

/-- The tree after `shutil.rmtree`, and whether it succeeded.  The directory
itself goes last. -/
def rmtree (os : ResultsOs) (tree : ResultsTree) (dir : PosixPath) :
    ResultsTree × Bool :=
  match os.rmtree tree dir with
  | none => (tree.without dir ⟨fun _ => false, fun _ => false⟩, true)
  | some left =>
    (tree.without dir
      ⟨fun path => path = dir || left.dir path, left.summary⟩, false)

def rewrite (tree : ResultsTree) (run : PosixPath) (summary : Summary) :
    ResultsTree where
  dirs := tree.dirs
  summary path := if path = run then some summary else tree.summary path

end ResultsTree

/-! ## The cases -/

/-- What comes of a path. -/
inductive Verdict
  /-- It leads out of the benchmarks directory, or nowhere. -/
  | rejected
  /-- It leads to that directory or to one of its backends. -/
  | refused
  /-- It cannot be removed. -/
  | undeletable
  /-- It is gone. -/
  | recorded (caseDir : PosixPath)
  deriving DecidableEq

/-- The case that is recorded as removed. -/
def Verdict.case? : Verdict → Option PosixPath
  | .recorded caseDir => some caseDir
  | _ => none

section Delete

variable (os : ResultsOs) (root : PosixPath)

/-- The body of the loop of `delete_cases` over the paths. -/
def caseTurn (tree : ResultsTree) (raw : List Char) : ResultsTree × Verdict :=
  match os.resolve tree raw with
  | none => (tree, .rejected)
  | some caseDir =>
    if ¬ root.Under caseDir then (tree, .rejected)
    else if caseDir = root ∨ caseDir.parent = root then (tree, .refused)
    else if tree.dirs caseDir then
      match tree.rmtree os caseDir with
      | (after, true) => (after, .recorded caseDir)
      | (after, false) => (after, .undeletable)
    else (tree, .recorded caseDir)

/-- The loop over the paths: the trees that it meets, with the paths. -/
def caseTurns (tree : ResultsTree) (raws : List (List Char)) :
    List (ResultsTree × List Char) :=
  Runs.visits (fun tree raw => (caseTurn os root tree raw).1) tree raws

/-- The tree after the loop over the paths. -/
def afterCases (tree : ResultsTree) (raws : List (List Char)) : ResultsTree :=
  Runs.run (fun tree raw => (caseTurn os root tree raw).1) tree raws

def recordedCases (tree : ResultsTree) (raws : List (List Char)) :
    List PosixPath :=
  (caseTurns os root tree raws).filterMap fun turn =>
    (caseTurn os root turn.1 turn.2).2.case?

/-- `removed.setdefault(case_dir.parent, set()).add(str(case_dir))`, for all
cases. -/
def removedByRun (cases : List PosixPath) : List (PosixPath × List (List Char)) :=
  Grouping.collect PosixPath.parent (fun caseDir => [caseDir.toText])
    (fun texts caseDir => texts.insert caseDir.toText) cases

/-! ## The runs -/

/-- The text of the case directory that a row names. -/
def CsvRow.caseText (row : CsvRow) : List Char :=
  (PosixPath.ofText (row.text "log_file".toList)).parent.toText

def CsvRow.written (columns : List (List Char)) (row : CsvRow) : CsvRow :=
  columns.map fun column => (column, some (row.cell column))

def Summary.withRows (summary : Summary) (kept : List CsvRow) : Summary where
  columns := summary.columns
  rows := kept.map (CsvRow.written summary.columns)
  named := by
    intro row member entry inside
    obtain ⟨old, -, rfl⟩ := List.mem_map.mp member
    obtain ⟨column, known, rfl⟩ := List.mem_map.mp inside
    exact known

/-- `_rewrite_summary`, with the number of the rows that are left. -/
def rewriteSummary (tree : ResultsTree) (run : PosixPath) (summary : Summary)
    (removed : List (List Char)) : ResultsTree × Option ℕ :=
  let kept := summary.rows.filter fun row => row.caseText ∉ removed
  if os.reads tree run = false then (tree, none)
  else if summary.columns = [] then (tree, some kept.length)
  else
    match os.write tree run with
    | some left => (tree.rewrite run left, none)
    | none => (tree.rewrite run (summary.withRows kept), some kept.length)

/-- The body of the loop of `delete_cases` over the runs, and whether it
removes the run. -/
def runTurn (tree : ResultsTree) (group : PosixPath × List (List Char)) :
    ResultsTree × Bool :=
  match tree.summary group.1 with
  | none => (tree, false)
  | some summary =>
    match rewriteSummary os tree group.1 summary group.2 with
    | (after, some 0) => after.rmtree os group.1
    | (after, _) => (after, false)

/-- The loop over the runs: the trees that it meets, with the runs and what is
removed from them. -/
def runTurns (tree : ResultsTree) (raws : List (List Char)) :
    List (ResultsTree × PosixPath × List (List Char)) :=
  Runs.visits (fun tree group => (runTurn os tree group).1)
    (afterCases os root tree raws)
    (removedByRun (recordedCases os root tree raws))

/-- What `delete_cases` returns. -/
structure DeletionReport where
  removed : ℕ
  runsRemoved : ℕ
  skipped : List (List Char)
  deriving DecidableEq

/-- `delete_cases`. -/
def deleteCases (tree : ResultsTree) (raws : List (List Char)) :
    ResultsTree × DeletionReport :=
  let groups := removedByRun (recordedCases os root tree raws)
  (Runs.run (fun tree group => (runTurn os tree group).1)
    (afterCases os root tree raws) groups,
    { removed := (groups.map fun group => group.2.length).sum
      runsRemoved :=
        (runTurns os root tree raws).countP fun step =>
          (runTurn os step.1 step.2).2
      skipped :=
        ((caseTurns os root tree raws).filter fun turn =>
          (caseTurn os root turn.1 turn.2).2.case?.isNone).map Prod.snd })

/-! ## What a deletion should do -/

/-- A case directory: inside a run directory of a backend. -/
def IsCase (path : PosixPath) : Prop := root.AtDepth 3 path

/-- A run directory. -/
def IsRun (path : PosixPath) : Prop := root.AtDepth 2 path

def caseOf (tree : ResultsTree) (row : CsvRow) : Option PosixPath :=
  (caseDirOf (row.cell "log_file".toList)).bind fun caseDir =>
    os.resolve tree caseDir.toText

def NamesOne (tree : ResultsTree) (cases : List PosixPath)
    (row : CsvRow) : Prop :=
  ∃ caseDir ∈ cases, caseOf os tree row = some caseDir

instance (tree : ResultsTree) (cases : List PosixPath) (row : CsvRow) :
    Decidable (NamesOne os tree cases row) :=
  inferInstanceAs (Decidable (∃ caseDir ∈ cases, _))

/-- A case is there, as a directory or as a row of its run; what the row names
is seen in another tree. -/
def CaseIn (seen tree : ResultsTree) (caseDir : PosixPath) : Prop :=
  tree.dirs caseDir ∨
    ∃ row ∈ tree.rows caseDir.parent, caseOf os seen row = some caseDir

/-- A directory or a summary that is no longer there. -/
def ResultsTree.Loses (before after : ResultsTree) (path : PosixPath) : Prop :=
  (before.dirs path ∧ ¬ after.dirs path) ∨
    ((before.summary path).isSome ∧ (after.summary path).isNone)

/-- What `delete_cases` should do: what goes is a case that a path names, or a
run without cases; a path that names no case is skipped; other cases stay as
they are; the rows that go are those of removed cases; and the removed cases are
counted. -/
structure DeletesCases (tree : ResultsTree) (raws : List (List Char)) : Prop where
  removes : ∀ turn ∈ caseTurns os root tree raws, ∀ path,
    turn.1.Loses (caseTurn os root turn.1 turn.2).1 path →
      ∃ caseDir, os.resolve turn.1 turn.2 = some caseDir ∧
        IsCase root caseDir ∧ caseDir.Under path
  skips : ∀ turn ∈ caseTurns os root tree raws, ∀ path,
    os.resolve turn.1 turn.2 = some path → ¬ IsCase root path →
      (caseTurn os root turn.1 turn.2).2.case? = none
  empties : ∀ step ∈ runTurns os root tree raws, ∀ path,
    step.1.dirs path → ¬ (runTurn os step.1 step.2).1.dirs path →
      IsRun root step.2.1 ∧ step.2.1.Under path ∧
        ∀ caseDir, step.1.dirs caseDir → caseDir.parent ≠ step.2.1
  keeps : ∀ caseDir, IsCase root caseDir → tree.dirs caseDir →
    (∀ turn ∈ caseTurns os root tree raws,
      os.resolve turn.1 turn.2 ≠ some caseDir) → ∀ path, caseDir.Under path →
          (deleteCases os root tree raws).1.dirs path = tree.dirs path
  rows : ∀ run, IsRun root run →
    ((deleteCases os root tree raws).1.rows run).map CsvRow.cell =
      ((tree.rows run).filter fun row =>
        ¬ NamesOne os tree (recordedCases os root tree raws) row).map
          CsvRow.cell
  count : ∃ cases : List PosixPath, cases.Nodup ∧
    cases.length = (deleteCases os root tree raws).2.removed ∧
      ∀ caseDir, caseDir ∈ cases ↔
        IsCase root caseDir ∧ CaseIn os tree tree caseDir ∧
          ¬ CaseIn os tree (deleteCases os root tree raws).1 caseDir

/-! ## When it does so -/

/-- A path that is neither rejected nor refused. -/
def Accepted (tree : ResultsTree) (raw : List Char) (path : PosixPath) : Prop :=
  os.resolve tree raw = some path ∧ root.Under path ∧ path ≠ root ∧
    path.parent ≠ root

/-- A path that is accepted and gone, or can be removed. -/
def Removable (tree : ResultsTree) (raw : List Char) (path : PosixPath) : Prop :=
  Accepted os root tree raw path ∧ (tree.dirs path → os.rmtree tree path = none)

/-- Removing the directory fails, with nothing gone. -/
def Stays (tree : ResultsTree) (dir : PosixPath) : Prop :=
  ∃ left, os.rmtree tree dir = some left ∧ ∀ path, dir.Under path →
    (tree.dirs path → path = dir ∨ left.dir path) ∧
      ((tree.summary path).isSome → left.summary path)

/-- The same, for the directories alone. -/
def DirsStay (tree : ResultsTree) (dir : PosixPath) : Prop :=
  ∃ left, os.rmtree tree dir = some left ∧ ∀ path, dir.Under path →
    tree.dirs path → path = dir ∨ left.dir path

instance (tree : ResultsTree) (raw : List Char) (path : PosixPath) :
    Decidable (Removable os root tree raw path) :=
  inferInstanceAs (Decidable ((_ ∧ _ ∧ _ ∧ _) ∧ (_ → _)))

/-- A row names a case that one of the paths names and that is gone, or can be
removed. -/
def NamesRemovable (tree : ResultsTree) (raws : List (List Char))
    (row : CsvRow) : Prop :=
  ∃ turn ∈ caseTurns os root tree raws, ∃ caseDir ∈ caseOf os tree row,
    Removable os root turn.1 turn.2 caseDir

instance (tree : ResultsTree) (raws : List (List Char)) (row : CsvRow) :
    Decidable (NamesRemovable os root tree raws row) :=
  inferInstanceAs (Decidable (∃ turn ∈ _, ∃ caseDir ∈ _, _))

/-- The summary of a run is left with the right rows. -/
def LeavesRows (tree : ResultsTree) (raws : List (List Char))
    (before : ResultsTree) (group : PosixPath × List (List Char))
    (summary : Summary) : Prop :=
  if os.reads before group.1 = false then
    ∀ row ∈ summary.rows, ¬ NamesRemovable os root tree raws row
  else
    match if summary.columns = [] then none else os.write before group.1 with
    | some left =>
      left.rows.map CsvRow.cell = (summary.rows.filter fun row =>
          ¬ NamesRemovable os root tree raws row).map CsvRow.cell
    | none =>
      ∀ row ∈ summary.rows,
        row.caseText ∈ group.2 ↔ NamesRemovable os root tree raws row

/-- The summary of a run is left without rows. -/
def LeavesNone (before : ResultsTree) (group : PosixPath × List (List Char))
    (summary : Summary) : Prop :=
  os.reads before group.1 = true ∧
    (summary.columns = [] ∨ os.write before group.1 = none) ∧
      ∀ row ∈ summary.rows, row.caseText ∈ group.2

/-- A path that is accepted leads to a case, or cannot be removed at all; the
case is there before, as a directory or as a row; each summary is left without
the rows of the removed cases, and no other summary has such rows; and a run
that is left without rows has no case directories. -/
structure DeletionCondition (tree : ResultsTree)
    (raws : List (List Char)) : Prop where
  cases : ∀ turn ∈ caseTurns os root tree raws, ∀ path,
    Accepted os root turn.1 turn.2 path →
      IsCase root path ∨ (turn.1.dirs path ∧ Stays os turn.1 path)
  known : ∀ turn ∈ caseTurns os root tree raws, ∀ path,
    Accepted os root turn.1 turn.2 path → CaseIn os tree tree path
  rewrites : ∀ step ∈ runTurns os root tree raws, ∀ summary,
    step.1.summary step.2.1 = some summary →
      LeavesRows os root tree raws step.1 step.2 summary
  others : ∀ run, IsRun root run →
    (∀ turn ∈ caseTurns os root tree raws, ∀ path,
      Removable os root turn.1 turn.2 path → path.parent ≠ run) →
        ∀ row ∈ tree.rows run, ¬ NamesRemovable os root tree raws row
  empties : ∀ step ∈ runTurns os root tree raws, ∀ summary,
    step.1.summary step.2.1 = some summary →
      LeavesNone os step.1 step.2 summary →
        (∀ caseDir, step.1.dirs caseDir → caseDir.parent ≠ step.2.1) ∨
          DirsStay os (rewriteSummary os step.1 step.2.1 summary step.2.2).1
            step.2.1

/-! ## What a step does -/

section Steps

variable {os root} {tree : ResultsTree}

theorem rmtree_of_not_under {dir path : PosixPath} (apart : ¬ dir.Under path) :
    (tree.rmtree os dir).1.dirs path = tree.dirs path ∧
      (tree.rmtree os dir).1.summary path = tree.summary path := by
  unfold ResultsTree.rmtree
  split <;> simp [ResultsTree.without, apart]

theorem dirs_of_rmtree {dir path : PosixPath}
    (there : (tree.rmtree os dir).1.dirs path) :
    tree.dirs path := by
  unfold ResultsTree.rmtree at there
  split at there
  all_goals exact (Bool.and_eq_true_iff.mp there).1

theorem not_dirs_rmtree {dir path : PosixPath}
    (removed : os.rmtree tree dir = none) (below : dir.Under path) :
    (tree.rmtree os dir).1.dirs path = false := by
  simp [ResultsTree.rmtree, removed, ResultsTree.without, below]

theorem summary_rmtree (dir path : PosixPath) :
    (tree.rmtree os dir).1.summary path = tree.summary path ∨
      (tree.rmtree os dir).1.summary path = none := by
  unfold ResultsTree.rmtree
  split
  all_goals
    dsimp only [ResultsTree.without]
    split
    · exact .inr rfl
    · exact .inl rfl

/-- What a removal loses lies below the directory. -/
theorem under_of_loses_rmtree {dir path : PosixPath}
    (loses : tree.Loses (tree.rmtree os dir).1 path) :
    dir.Under path := by
  by_contra apart
  obtain ⟨sameDirs, sameSummary⟩ :=
    @rmtree_of_not_under os tree dir path apart
  rcases loses with ⟨there, gone⟩ | ⟨there, gone⟩
  · exact gone (sameDirs ▸ there)
  · rw [sameSummary] at gone
    simp_all

/-- A removal that loses nothing of a directory that is there is one that
fails with nothing gone. -/
theorem stays_iff {dir : PosixPath} (there : tree.dirs dir) :
    Stays os tree dir ↔ ∀ path, ¬ tree.Loses (tree.rmtree os dir).1 path := by
  constructor
  · rintro ⟨left, failed, kept⟩ path loses
    obtain ⟨keptDirs, keptSummary⟩ := kept path (under_of_loses_rmtree loses)
    rcases loses with ⟨was, gone⟩ | ⟨was, gone⟩
    · refine gone ?_
      simp [ResultsTree.rmtree, failed, ResultsTree.without, was, keptDirs was]
    · simp [ResultsTree.rmtree, failed, ResultsTree.without,
        keptSummary was] at gone
      simp [gone] at was
  · intro nothing
    cases failed : os.rmtree tree dir with
    | none =>
      exact absurd (.inl ⟨there, by
        rw [not_dirs_rmtree failed dir.under_refl]
        exact Bool.false_ne_true⟩) (nothing dir)
    | some left =>
      refine ⟨left, failed, fun path below => ⟨fun was => ?_, fun was => ?_⟩⟩
      · by_contra gone
        refine nothing path (.inl ⟨was, ?_⟩)
        simp [ResultsTree.rmtree, failed, ResultsTree.without, below, gone]
      · by_contra gone
        refine nothing path (.inr ⟨was, ?_⟩)
        simp [ResultsTree.rmtree, failed, ResultsTree.without, below, gone]

theorem caseTurn_cases (tree : ResultsTree) (raw : List Char) :
    ((∀ path, ¬ Accepted os root tree raw path) ∧
      (caseTurn os root tree raw).1 = tree ∧
      (caseTurn os root tree raw).2.case? = none) ∨
    ∃ path, Accepted os root tree raw path ∧ ((tree.dirs path ∧
        (caseTurn os root tree raw).1 = (tree.rmtree os path).1 ∧
        ((os.rmtree tree path = none ∧
            (caseTurn os root tree raw).2.case? = some path) ∨
          (os.rmtree tree path ≠ none ∧
            (caseTurn os root tree raw).2.case? = none))) ∨
      (¬ tree.dirs path ∧ (caseTurn os root tree raw).1 = tree ∧
        (caseTurn os root tree raw).2.case? = some path)) := by
  cases resolved : os.resolve tree raw with
  | none =>
    refine .inl ⟨fun path accepted => ?_, ?_⟩
    · simp [Accepted, resolved] at accepted
    · simp [caseTurn, resolved, Verdict.case?]
  | some path =>
    by_cases accepted : root.Under path ∧ path ≠ root ∧ path.parent ≠ root
    · right
      obtain ⟨below, notRoot, notBackend⟩ := accepted
      refine ⟨path, ⟨resolved, below, notRoot, notBackend⟩, ?_⟩
      by_cases there : tree.dirs path = true
      · cases removed : os.rmtree tree path <;>
          simp [caseTurn, resolved, below, notRoot, notBackend, there,
            ResultsTree.rmtree, removed, Verdict.case?]
      · simp [caseTurn, resolved, below, notRoot, notBackend, there,
          Verdict.case?]
    · refine .inl ⟨fun other given => ?_, ?_⟩
      · obtain ⟨same, rest⟩ := given
        rw [resolved, Option.some_inj] at same
        exact accepted (same ▸ rest)
      · simp only [caseTurn, resolved]
        split
        · exact ⟨rfl, rfl⟩
        · next below =>
            rw [if_pos]
            · exact ⟨rfl, rfl⟩
            · simp only [not_not] at below
              simp only [below, true_and, not_and_or, not_not] at accepted
              exact accepted

theorem not_loses_self (tree : ResultsTree) (path : PosixPath) :
    ¬ tree.Loses tree path := by
  rintro (⟨there, gone⟩ | ⟨there, gone⟩)
  · exact gone there
  · simp_all

theorem Accepted.eq {raw : List Char} {path other : PosixPath}
    (one : Accepted os root tree raw path)
    (two : Accepted os root tree raw other) :
    other = path :=
  Option.some_inj.mp (two.1.symm.trans one.1)

/-- What is recorded is what is gone or can be removed. -/
theorem case?_eq_some_iff {raw : List Char} {path : PosixPath} :
    (caseTurn os root tree raw).2.case? = some path ↔
      Removable os root tree raw path := by
  rcases @caseTurn_cases os root tree raw with
    ⟨none, -, nothing⟩ | ⟨found, accepted, removal | ⟨gone, -, recorded⟩⟩
  · simp only [nothing, reduceCtorEq, false_iff]
    exact fun removable => none path removable.1
  · obtain ⟨there, -, ⟨removed, recorded⟩ | ⟨failed, nothing⟩⟩ := removal
    · rw [recorded, Option.some_inj]
      constructor
      · rintro rfl
        exact ⟨accepted, fun _ => removed⟩
      · exact fun removable => (accepted.eq removable.1).symm
    · simp only [nothing, reduceCtorEq, false_iff]
      intro removable
      rw [accepted.eq removable.1] at removable
      exact failed (removable.2 there)
  · rw [recorded, Option.some_inj]
    constructor
    · rintro rfl
      exact ⟨accepted, fun there => absurd there gone⟩
    · exact fun removable => (accepted.eq removable.1).symm

/-- A path leaves the tree as it is, or removes what it leads to. -/
theorem caseTurn_eq (tree : ResultsTree) (raw : List Char) :
    (caseTurn os root tree raw).1 = tree ∨
      ∃ path, Accepted os root tree raw path ∧ tree.dirs path ∧
        (caseTurn os root tree raw).1 = (tree.rmtree os path).1 := by
  rcases @caseTurn_cases os root tree raw with
    ⟨-, same, -⟩ | ⟨path, accepted, ⟨there, same, -⟩ | ⟨-, same, -⟩⟩
  · exact .inl same
  · exact .inr ⟨path, accepted, there, same⟩
  · exact .inl same

theorem dirs_of_caseTurn {raw : List Char} {path : PosixPath}
    (there : (caseTurn os root tree raw).1.dirs path) :
    tree.dirs path := by
  rcases @caseTurn_eq os root tree raw with
    same | ⟨removed, -, -, same⟩
  · rwa [same] at there
  · rw [same] at there
    exact dirs_of_rmtree there

/-- A path leads to a case, or it changes nothing. -/
def SparesOthers (os : ResultsOs) (root : PosixPath) (tree : ResultsTree)
    (raw : List Char) : Prop :=
  ∀ path, Accepted os root tree raw path →
    IsCase root path ∨ (tree.dirs path ∧ Stays os tree path)

/-- What goes with a path lies below the case that it leads to. -/
theorem SparesOthers.exists_case {raw : List Char} {path : PosixPath}
    (spares : SparesOthers os root tree raw)
    (loses : tree.Loses (caseTurn os root tree raw).1 path) :
    ∃ caseDir, Accepted os root tree raw caseDir ∧ IsCase root caseDir ∧
      tree.dirs caseDir ∧ caseDir.Under path ∧
        (caseTurn os root tree raw).1 = (tree.rmtree os caseDir).1 := by
  rcases @caseTurn_eq os root tree raw with
    same | ⟨removed, accepted, there, same⟩
  · rw [same] at loses
    exact absurd loses (not_loses_self tree path)
  · rw [same] at loses
    rcases spares removed accepted with isCase | ⟨-, stays⟩
    · exact ⟨removed, accepted, isCase, there, under_of_loses_rmtree loses,
        same⟩
    · exact absurd loses ((stays_iff there).mp stays path)

/-- A path removes nothing but a case that it leads to, and is skipped if it
leads to none, exactly if it leads to a case or changes nothing. -/
theorem sparesOthers_iff (tree : ResultsTree) (raw : List Char) :
    SparesOthers os root tree raw ↔
      (∀ path, tree.Loses (caseTurn os root tree raw).1 path →
        ∃ caseDir, os.resolve tree raw = some caseDir ∧
          IsCase root caseDir ∧ caseDir.Under path) ∧
      ∀ path, os.resolve tree raw = some path → ¬ IsCase root path →
        (caseTurn os root tree raw).2.case? = none := by
  constructor
  · refine fun spares => ⟨fun path loses => ?_, fun path resolved notCase => ?_⟩
    · obtain ⟨caseDir, accepted, isCase, -, below, -⟩ := spares.exists_case loses
      exact ⟨caseDir, accepted.1, isCase, below⟩
    · rw [Option.eq_none_iff_forall_ne_some]
      intro found recorded
      obtain ⟨accepted, removable⟩ := case?_eq_some_iff.mp recorded
      obtain rfl : path = found :=
        Option.some_inj.mp (resolved.symm.trans accepted.1)
      obtain ⟨there, left, failed, -⟩ :=
        (spares path accepted).resolve_left notCase
      simp [removable there] at failed
  · rintro ⟨removes, skips⟩ path accepted
    by_cases isCase : IsCase root path
    · exact .inl isCase
    right
    have nothing := skips path accepted.1 isCase
    have there : tree.dirs path := by
      by_contra gone
      have removable : Removable os root tree raw path :=
        ⟨accepted, fun there => absurd there gone⟩
      simp [case?_eq_some_iff.mpr removable] at nothing
    refine ⟨there, (stays_iff there).mpr fun lost loses => ?_⟩
    rcases @caseTurn_cases os root tree raw with
      ⟨none, -⟩ | ⟨found, given, ⟨-, same, -⟩ | ⟨gone, -⟩⟩
    · exact none path accepted
    · rw [← given.eq accepted] at same
      rw [← same] at loses
      obtain ⟨caseDir, resolved, caseIs, -⟩ := removes lost loses
      rw [Option.some_inj.mp (accepted.1.symm.trans resolved)] at isCase
      exact isCase caseIs
    · exact gone (given.eq accepted ▸ there)

theorem SparesOthers.removable {raw : List Char} {caseDir : PosixPath}
    (spares : SparesOthers os root tree raw) (isCase : IsCase root caseDir)
    (there : tree.dirs caseDir)
    (gone : ¬ (caseTurn os root tree raw).1.dirs caseDir) :
    Removable os root tree raw caseDir := by
  obtain ⟨found, accepted, foundCase, -, below, same⟩ :=
    spares.exists_case (.inl ⟨there, gone⟩)
  obtain rfl : caseDir = found := foundCase.eq_of_under isCase below
  refine ⟨accepted, fun _ => ?_⟩
  rw [same] at gone
  by_contra failed
  obtain ⟨left, failed⟩ := Option.ne_none_iff_exists'.mp failed
  refine gone ?_
  simp [ResultsTree.rmtree, failed, ResultsTree.without, there]

theorem SparesOthers.summary_eq {raw : List Char} {run : PosixPath}
    (spares : SparesOthers os root tree raw) (isRun : IsRun root run) :
    (caseTurn os root tree raw).1.summary run = tree.summary run := by
  by_contra changed
  rcases @caseTurn_eq os root tree raw with
    same | ⟨removed, -, -, same⟩
  · exact changed (by rw [same])
  have lost := (same ▸ summary_rmtree removed run :
    (caseTurn os root tree raw).1.summary run = tree.summary run ∨
      (caseTurn os root tree raw).1.summary run = none).resolve_left changed
  have loses : tree.Loses (caseTurn os root tree raw).1 run := by
    refine .inr ⟨?_, by rw [lost]; rfl⟩
    rw [Option.isSome_iff_ne_none]
    intro nothing
    exact changed (lost.trans nothing.symm)
  obtain ⟨caseDir, -, isCase, -, below, -⟩ := spares.exists_case loses
  have shorter := below.2.length_le
  have caseLength := isCase.2
  have runLength := isRun.2
  omega

end Steps

/-! ## The loop over the paths -/

section Cases

variable {os root} {tree : ResultsTree} {raws : List (List Char)}

theorem mem_recordedCases_iff {caseDir : PosixPath} :
    caseDir ∈ recordedCases os root tree raws ↔
      ∃ turn ∈ caseTurns os root tree raws,
        Removable os root turn.1 turn.2 caseDir := by
  simp only [recordedCases, List.mem_filterMap, case?_eq_some_iff]

theorem namesOne_recordedCases_iff {row : CsvRow} :
    NamesOne os tree (recordedCases os root tree raws) row ↔
      NamesRemovable os root tree raws row := by
  simp only [NamesOne, NamesRemovable, mem_recordedCases_iff, Option.mem_def]
  constructor
  · rintro ⟨caseDir, ⟨turn, member, removable⟩, names⟩
    exact ⟨turn, member, caseDir, names, removable⟩
  · rintro ⟨turn, member, caseDir, names, removable⟩
    exact ⟨caseDir, ⟨turn, member, removable⟩, names⟩

theorem caseOf_congr {row other : CsvRow} (same : row.cell = other.cell) :
    caseOf os tree row = caseOf os tree other := by
  rw [caseOf, caseOf, same]

theorem not_dirs_caseRun {path : PosixPath} (gone : ¬ tree.dirs path) :
    ¬ (afterCases os root tree raws).dirs path :=
  Runs.run_of_preserved (fun after : ResultsTree => ¬ after.dirs path)
    (fun _ _ gone there => gone (dirs_of_caseTurn there)) gone raws

theorem dirs_of_mem_caseTurns {turn : ResultsTree × List Char}
    {path : PosixPath} (member : turn ∈ caseTurns os root tree raws)
    (there : turn.1.dirs path) :
    tree.dirs path := by
  obtain ⟨before, after, -, same⟩ := Runs.mem_visits_iff.mp member
  by_contra gone
  rw [same] at there
  exact not_dirs_caseRun gone there

/-- What is recorded is gone after the loop. -/
theorem not_dirs_of_mem_recordedCases {caseDir : PosixPath}
    (recorded : caseDir ∈ recordedCases os root tree raws) :
    ¬ (afterCases os root tree raws).dirs caseDir := by
  obtain ⟨turn, member, accepted, removable⟩ := mem_recordedCases_iff.mp recorded
  obtain ⟨before, after, rfl, same⟩ := Runs.mem_visits_iff.mp member
  rw [afterCases, Runs.run_append, Runs.run_cons, ← same]
  refine not_dirs_caseRun ?_
  rcases @caseTurn_cases os root turn.1 turn.2 with
    ⟨none, -⟩ | ⟨found, given, ⟨there, same, -⟩ | ⟨gone, same, -⟩⟩
  · exact absurd accepted (none caseDir)
  · rw [given.eq accepted] at removable
    rw [same, given.eq accepted,
      not_dirs_rmtree (removable there) found.under_refl]
    exact Bool.false_ne_true
  · rw [same, given.eq accepted]
    exact gone

variable (spares : ∀ turn ∈ caseTurns os root tree raws,
  SparesOthers os root turn.1 turn.2)

include spares

theorem isCase_of_mem_recordedCases {caseDir : PosixPath}
    (recorded : caseDir ∈ recordedCases os root tree raws) :
    IsCase root caseDir := by
  obtain ⟨turn, member, accepted, removable⟩ := mem_recordedCases_iff.mp recorded
  rcases spares turn member caseDir accepted with isCase | ⟨there, left, failed, -⟩
  · exact isCase
  · simp [removable there] at failed

theorem summary_afterCases {run : PosixPath} (isRun : IsRun root run) :
    (afterCases os root tree raws).summary run = tree.summary run := by
  by_contra changed
  obtain ⟨turn, member, same, other⟩ := Runs.exists_visit_of_lost
    (fun before : ResultsTree => before.summary run = tree.summary run) rfl
    changed
  exact other (((spares turn member).summary_eq isRun).trans same)

/-- What goes in the loop over the paths lies below a case that goes with a
path. -/
theorem exists_turn_of_lost {path : PosixPath} (there : tree.dirs path)
    (gone : ¬ (afterCases os root tree raws).dirs path) :
    ∃ turn ∈ caseTurns os root tree raws, ∃ caseDir,
      Accepted os root turn.1 turn.2 caseDir ∧ IsCase root caseDir ∧
        caseDir.Under path ∧ turn.1.dirs path ∧
          ¬ (caseTurn os root turn.1 turn.2).1.dirs path := by
  obtain ⟨turn, member, was, lost⟩ := Runs.exists_visit_of_lost
    (fun before : ResultsTree => before.dirs path = true) there gone
  obtain ⟨caseDir, accepted, isCase, -, below, -⟩ :=
    (spares turn member).exists_case (.inl ⟨was, lost⟩)
  exact ⟨turn, member, caseDir, accepted, isCase, below, was, lost⟩

theorem mem_recordedCases_of_lost {caseDir : PosixPath}
    (isCase : IsCase root caseDir) (there : tree.dirs caseDir)
    (gone : ¬ (afterCases os root tree raws).dirs caseDir) :
    caseDir ∈ recordedCases os root tree raws := by
  obtain ⟨turn, member, -, -, -, -, was, lost⟩ :=
    exists_turn_of_lost spares there gone
  exact mem_recordedCases_iff.mpr
    ⟨turn, member, (spares turn member).removable isCase was lost⟩

end Cases

/-! ## The cases by their runs -/

/-- `set.add` for each case. -/
def caseTexts (cases : List PosixPath) : List (List Char) :=
  cases.foldl (fun texts caseDir => texts.insert caseDir.toText) []

theorem caseTexts_append_singleton (cases : List PosixPath)
    (caseDir : PosixPath) :
    caseTexts (cases ++ [caseDir]) =
      (caseTexts cases).insert caseDir.toText := by
  simp [caseTexts, List.foldl_append]

theorem mem_caseTexts_iff {cases : List PosixPath} {text : List Char} :
    text ∈ caseTexts cases ↔ ∃ caseDir ∈ cases, caseDir.toText = text := by
  induction cases using List.reverseRecOn with
  | nil => simp [caseTexts]
  | append_singleton cases caseDir ih =>
    rw [caseTexts_append_singleton, List.mem_insert_iff, ih]
    simp only [List.mem_append, List.mem_singleton]
    constructor
    · rintro (rfl | ⟨other, member, rfl⟩)
      · exact ⟨caseDir, .inr rfl, rfl⟩
      · exact ⟨other, .inl member, rfl⟩
    · rintro ⟨other, member | rfl, rfl⟩
      · exact .inr ⟨other, member, rfl⟩
      · exact .inl rfl

theorem nodup_caseTexts (cases : List PosixPath) : (caseTexts cases).Nodup := by
  induction cases using List.reverseRecOn with
  | nil => exact List.nodup_nil
  | append_singleton cases caseDir ih =>
    rw [caseTexts_append_singleton]
    exact ih.insert

theorem removedByRun_eq (cases : List PosixPath) :
    removedByRun cases = (cases.map PosixPath.parent).eraseDups.map fun run =>
      (run, caseTexts (cases.filter fun caseDir => caseDir.parent == run)) := by
  refine Grouping.collect_eq PosixPath.parent _ _ (fun caseDir => ?_)
    (fun members caseDir _ => caseTexts_append_singleton members caseDir) cases
  simp [caseTexts]

theorem nodup_runs_removedByRun (cases : List PosixPath) :
    ((removedByRun cases).map Prod.fst).Nodup := by
  rw [removedByRun_eq, List.map_map]
  simpa [Function.comp_def] using Grouping.nodup_eraseDups _

theorem mem_removedByRun {cases : List PosixPath}
    {group : PosixPath × List (List Char)}
    (member : group ∈ removedByRun cases) :
    (∃ caseDir ∈ cases, caseDir.parent = group.1) ∧ (∀ text, text ∈ group.2 ↔
        ∃ caseDir ∈ cases, caseDir.parent = group.1 ∧ caseDir.toText = text) ∧
      group.2.Nodup := by
  rw [removedByRun_eq] at member
  obtain ⟨run, known, rfl⟩ := List.mem_map.mp member
  rw [List.mem_eraseDups] at known
  refine ⟨List.mem_map.mp known, fun text => ?_, nodup_caseTexts _⟩
  simp [mem_caseTexts_iff, and_assoc]

theorem exists_group_of_mem {cases : List PosixPath} {caseDir : PosixPath}
    (member : caseDir ∈ cases) :
    ∃ group ∈ removedByRun cases, group.1 = caseDir.parent := by
  rw [removedByRun_eq]
  refine ⟨_, List.mem_map_of_mem (List.mem_eraseDups.mpr
    (List.mem_map_of_mem member)), rfl⟩

theorem length_removedByRun (cases : List PosixPath) :
    ((removedByRun cases).map fun group => group.2.length).sum =
      cases.eraseDups.length := by
  have apart : ((removedByRun cases).flatMap Prod.snd).Nodup := by
    refine List.nodup_flatMap.mpr
      ⟨fun group member => (mem_removedByRun member).2.2, ?_⟩
    have distinct := nodup_runs_removedByRun cases
    rw [List.Nodup, List.pairwise_map] at distinct
    refine distinct.imp_of_mem fun {one other} left right different => ?_
    intro text inOne inOther
    obtain ⟨first, -, firstRun, rfl⟩ := ((mem_removedByRun left).2.1 _).mp inOne
    obtain ⟨second, -, secondRun, same⟩ :=
      ((mem_removedByRun right).2.1 _).mp inOther
    rw [PosixPath.toText_injective same] at secondRun
    exact different (firstRun.symm.trans secondRun)
  have texts : ((removedByRun cases).flatMap Prod.snd).Perm
      (cases.eraseDups.map PosixPath.toText) := by
    refine (List.perm_ext_iff_of_nodup apart
      ((Grouping.nodup_eraseDups cases).map PosixPath.toText_injective)).mpr ?_
    intro text
    simp only [List.mem_flatMap, List.mem_map, List.mem_eraseDups]
    constructor
    · rintro ⟨group, member, inside⟩
      obtain ⟨caseDir, known, -, same⟩ := ((mem_removedByRun member).2.1 _).mp inside
      exact ⟨caseDir, known, same⟩
    · rintro ⟨caseDir, known, rfl⟩
      obtain ⟨group, member, same⟩ := exists_group_of_mem known
      exact ⟨group, member,
        ((mem_removedByRun member).2.1 _).mpr ⟨caseDir, known, same.symm, rfl⟩⟩
  rw [← List.length_flatMap, texts.length_eq, List.length_map]

/-! ## The loop over the runs -/

section RunLoop

variable {os root} {tree : ResultsTree}

theorem dirs_rewriteSummary (run : PosixPath) (summary : Summary)
    (removed : List (List Char)) :
    (rewriteSummary os tree run summary removed).1.dirs = tree.dirs := by
  unfold rewriteSummary
  dsimp only
  split
  · rfl
  · split
    · rfl
    · split <;> rfl

theorem summary_rewriteSummary_of_ne {run path : PosixPath} (summary : Summary)
    (removed : List (List Char)) (different : path ≠ run) :
    (rewriteSummary os tree run summary removed).1.summary path =
      tree.summary path := by
  unfold rewriteSummary
  dsimp only
  split
  · rfl
  · split
    · rfl
    · split <;> simp [ResultsTree.rewrite, different]

/-- No rows are left exactly if the summary is left without rows. -/
theorem rewriteSummary_eq_zero_iff (group : PosixPath × List (List Char))
    (summary : Summary) :
    (rewriteSummary os tree group.1 summary group.2).2 = some 0 ↔
      LeavesNone os tree group summary := by
  unfold rewriteSummary LeavesNone
  dsimp only
  have none : (summary.rows.filter fun row =>
        row.caseText ∉ group.2).length = 0 ↔
      ∀ row ∈ summary.rows, row.caseText ∈ group.2 := by
    simp [List.filter_eq_nil_iff]
  split
  · next unread => simp [unread]
  · next read =>
      rw [Bool.not_eq_false] at read
      split
      · next blank => simp only [Option.some_inj, none, read, blank, true_or, true_and]
      · next columns =>
          split
          · next left written => simp [columns, written]
          · next written =>
              simp only [Option.some_inj, none, read, columns, written, or_true,
                true_and]

/-- A run without rows is removed. -/
theorem runTurn_of_leavesNone {group : PosixPath × List (List Char)}
    {summary : Summary} (found : tree.summary group.1 = some summary)
    (leaves : LeavesNone os tree group summary) :
    runTurn os tree group =
      (rewriteSummary os tree group.1 summary group.2).1.rmtree os group.1 := by
  have zero := (rewriteSummary_eq_zero_iff group summary).mpr leaves
  rw [runTurn, found]
  dsimp only
  split
  · next same => rw [same]
  · next left other same =>
      rw [same] at zero
      exact (other zero).elim

theorem runTurn_of_not_leavesNone {group : PosixPath × List (List Char)}
    {summary : Summary} (found : tree.summary group.1 = some summary)
    (leaves : ¬ LeavesNone os tree group summary) :
    (runTurn os tree group).1 =
      (rewriteSummary os tree group.1 summary group.2).1 := by
  rw [runTurn, found]
  dsimp only
  split
  · next same =>
      refine absurd ((rewriteSummary_eq_zero_iff group summary).mp ?_) leaves
      rw [same]
  · next same => rw [same]

theorem runTurn_of_none {group : PosixPath × List (List Char)}
    (missing : tree.summary group.1 = none) :
    runTurn os tree group = (tree, false) := by
  rw [runTurn, missing]

theorem dirs_of_runTurn {group : PosixPath × List (List Char)}
    {path : PosixPath} (there : (runTurn os tree group).1.dirs path) :
    tree.dirs path := by
  cases found : tree.summary group.1 with
  | none => rwa [runTurn_of_none found] at there
  | some summary =>
    by_cases leaves : LeavesNone os tree group summary
    · rw [runTurn_of_leavesNone found leaves] at there
      have kept := dirs_of_rmtree there
      rwa [dirs_rewriteSummary] at kept
    · rwa [runTurn_of_not_leavesNone found leaves, dirs_rewriteSummary] at there

/-- Away from its directory a run changes nothing. -/
theorem runTurn_of_not_under {group : PosixPath × List (List Char)}
    {path : PosixPath} (apart : ¬ group.1.Under path) :
    (runTurn os tree group).1.dirs path = tree.dirs path ∧
      (runTurn os tree group).1.summary path = tree.summary path := by
  have different : path ≠ group.1 := by
    rintro rfl
    exact apart group.1.under_refl
  cases found : tree.summary group.1 with
  | none => simp [runTurn_of_none found]
  | some summary =>
    by_cases leaves : LeavesNone os tree group summary
    · rw [runTurn_of_leavesNone found leaves, (rmtree_of_not_under apart).1,
        (rmtree_of_not_under apart).2, dirs_rewriteSummary,
        summary_rewriteSummary_of_ne summary group.2 different]
      exact ⟨rfl, rfl⟩
    · rw [runTurn_of_not_leavesNone found leaves, dirs_rewriteSummary,
        summary_rewriteSummary_of_ne summary group.2 different]
      exact ⟨rfl, rfl⟩

/-- A run removes directories only when it has no case left, exactly if a run
that is left without rows has no case or keeps its directories. -/
theorem empties_iff (group : PosixPath × List (List Char))
    (isRun : IsRun root group.1) :
    (∀ path, tree.dirs path → ¬ (runTurn os tree group).1.dirs path →
      IsRun root group.1 ∧ group.1.Under path ∧
        ∀ caseDir, tree.dirs caseDir → caseDir.parent ≠ group.1) ↔
    ∀ summary, tree.summary group.1 = some summary →
      LeavesNone os tree group summary →
        (∀ caseDir, tree.dirs caseDir → caseDir.parent ≠ group.1) ∨
          DirsStay os (rewriteSummary os tree group.1 summary group.2).1
            group.1 := by
  constructor
  · intro empties summary found leaves
    by_cases without : ∀ caseDir, tree.dirs caseDir → caseDir.parent ≠ group.1
    · exact .inl without
    right
    have kept : ∀ path, tree.dirs path →
        (runTurn os tree group).1.dirs path := by
      intro path there
      by_contra gone
      exact without (empties path there gone).2.2
    rw [runTurn_of_leavesNone found leaves] at kept
    push Not at without
    obtain ⟨caseDir, there, parent⟩ := without
    have below : group.1.Under caseDir := parent ▸ caseDir.under_parent
    cases failed : os.rmtree
        (rewriteSummary os tree group.1 summary group.2).1 group.1 with
    | none =>
      have gone := kept caseDir there
      rw [not_dirs_rmtree failed below] at gone
      exact absurd gone Bool.false_ne_true
    | some left =>
      refine ⟨left, failed, fun path below was => ?_⟩
      rw [dirs_rewriteSummary] at was
      have still := kept path was
      simpa [ResultsTree.rmtree, failed, ResultsTree.without, below,
        dirs_rewriteSummary, was] using still
  · intro stays path there gone
    have below : group.1.Under path := by
      by_contra apart
      rw [(runTurn_of_not_under apart).1] at gone
      exact gone there
    refine ⟨isRun, below, ?_⟩
    cases found : tree.summary group.1 with
    | none =>
      rw [runTurn_of_none found] at gone
      exact absurd there gone
    | some summary =>
      by_cases leaves : LeavesNone os tree group summary
      · refine (stays summary found leaves).resolve_right ?_
        rintro ⟨left, failed, kept⟩
        rw [runTurn_of_leavesNone found leaves] at gone
        refine gone ?_
        have held := kept path below (by rwa [dirs_rewriteSummary])
        simpa [ResultsTree.rmtree, failed, ResultsTree.without, below,
          dirs_rewriteSummary, there] using held
      · rw [runTurn_of_not_leavesNone found leaves, dirs_rewriteSummary] at gone
        exact absurd there gone

end RunLoop

/-! ## The rows that are left -/

theorem cell_written {columns : List (List Char)} {row : CsvRow}
    (named : ∀ entry ∈ row, entry.1 ∈ columns) :
    (row.written columns).cell = row.cell := by
  funext column
  have look : ∀ columns : List (List Char),
      CsvRow.cell (columns.map fun other => (other, some (row.cell other)))
        column = if column ∈ columns then row.cell column else [] := by
    intro columns
    induction columns with
    | nil => rfl
    | cons first columns ih =>
      rw [CsvRow.cell, List.map_cons, List.lookup_cons]
      by_cases same : column = first
      · simp [same]
      · rw [CsvRow.cell] at ih
        have other : (column == first) = false := by simpa using same
        simp only [other, ih, List.mem_cons, same, false_or]
  rw [CsvRow.written, look]
  split
  · rfl
  · next unknown =>
      have missing : row.lookup column = none := by
        rw [List.lookup_eq_none_iff]
        intro entry member
        simp only [bne_iff_ne, ne_eq]
        rintro rfl
        exact unknown (named entry member)
      simp [CsvRow.cell, missing]

/-- Filters by what the cells of a row tell agree on the cells exactly if they
agree on the rows. -/
theorem map_filter_eq_iff {ι κ : Type*} {view : ι → κ} {keeps wanted : ι → Prop}
    [DecidablePred keeps] [DecidablePred wanted]
    (sameKeeps : ∀ one other, view one = view other → (keeps one ↔ keeps other))
    (sameWanted : ∀ one other, view one = view other →
      (wanted one ↔ wanted other))
    (items : List ι) :
    (items.filter fun item => keeps item).map view =
        (items.filter fun item => wanted item).map view ↔
      ∀ item ∈ items, keeps item ↔ wanted item := by
  constructor
  · intro equal item member
    constructor
    · intro kept
      have inside : view item ∈
          (items.filter fun item => wanted item).map view := by
        rw [← equal]
        exact List.mem_map_of_mem (List.mem_filter.mpr ⟨member, by simpa⟩)
      obtain ⟨other, given, same⟩ := List.mem_map.mp inside
      exact (sameWanted other item same).mp
        (by simpa using (List.mem_filter.mp given).2)
    · intro known
      have inside : view item ∈
          (items.filter fun item => keeps item).map view := by
        rw [equal]
        exact List.mem_map_of_mem (List.mem_filter.mpr ⟨member, by simpa⟩)
      obtain ⟨other, given, same⟩ := List.mem_map.mp inside
      exact (sameKeeps other item same).mp
        (by simpa using (List.mem_filter.mp given).2)
  · intro same
    congr 1
    exact List.filter_congr fun item member => by simp [same item member]

theorem map_eq_map_filter_not_iff {ι κ : Type*} {view : ι → κ}
    {wanted : ι → Prop} [DecidablePred wanted]
    (sameWanted : ∀ one other, view one = view other →
      (wanted one ↔ wanted other))
    (items : List ι) :
    items.map view = (items.filter fun item => ¬ wanted item).map view ↔
      ∀ item ∈ items, ¬ wanted item := by
  have whole := @map_filter_eq_iff ι κ view (fun _ => True)
    (fun item => ¬ wanted item) _ _ (fun _ _ _ => Iff.rfl)
    (fun one other same => not_congr (sameWanted one other same)) items
  simpa using whole

section Rows

variable {os root} {tree before : ResultsTree} {raws : List (List Char)}

theorem namesRemovable_congr (one other : CsvRow)
    (same : one.cell = other.cell) :
    NamesRemovable os root tree raws one ↔
      NamesRemovable os root tree raws other := by
  rw [NamesRemovable, NamesRemovable, caseOf_congr same]

theorem caseText_congr {one other : CsvRow} (same : one.cell = other.cell) :
    one.caseText = other.caseText := by
  rw [CsvRow.caseText, CsvRow.caseText, CsvRow.text, CsvRow.text, same]

theorem map_cell_kept_eq_iff (removed : List (List Char)) (rows : List CsvRow) :
    (rows.filter fun row => row.caseText ∉ removed).map CsvRow.cell =
        (rows.filter fun row => ¬ NamesRemovable os root tree raws row).map
          CsvRow.cell ↔
      ∀ row ∈ rows,
        row.caseText ∈ removed ↔ NamesRemovable os root tree raws row := by
  rw [map_filter_eq_iff (fun one other same => by rw [caseText_congr same])
    (fun one other same => not_congr (namesRemovable_congr one other same))]
  exact forall₂_congr fun row _ => not_iff_not

theorem caseText_of_blank {summary : Summary} (blank : summary.columns = [])
    {row : CsvRow} (member : row ∈ summary.rows) :
    row.caseText = ['.'] := by
  have nothing : row = [] := by
    rw [List.eq_nil_iff_forall_not_mem]
    intro entry inside
    have named := summary.named row member entry inside
    rw [blank] at named
    exact List.not_mem_nil named
  subst nothing
  decide

/-- The rows after a run was rewritten are those of the rewritten summary, also
when the run was removed then. -/
theorem rows_runTurn {group : PosixPath × List (List Char)} {summary : Summary}
    (found : before.summary group.1 = some summary)
    (dotless : ['.'] ∉ group.2) :
    (runTurn os before group).1.rows group.1 =
      (rewriteSummary os before group.1 summary group.2).1.rows group.1 := by
  by_cases leaves : LeavesNone os before group summary
  · rw [runTurn_of_leavesNone found leaves]
    obtain ⟨read, written, all⟩ := leaves
    have nothing : (rewriteSummary os before group.1 summary group.2).1.rows
        group.1 = [] := by
      by_cases blank : summary.columns = []
      · have rowless : summary.rows = [] := by
          rw [List.eq_nil_iff_forall_not_mem]
          intro row member
          exact dotless (caseText_of_blank blank member ▸ all row member)
        simp [rewriteSummary, read, blank, ResultsTree.rows, found, rowless]
      · have succeeds := written.resolve_left blank
        have dropped : (summary.rows.filter fun row =>
            row.caseText ∉ group.2) = [] := by
          simpa [List.filter_eq_nil_iff] using all
        simp only [rewriteSummary, read, blank, succeeds, ResultsTree.rows,
          ResultsTree.rewrite, Summary.withRows, dropped]
        simp
    rcases @summary_rmtree os (rewriteSummary os before group.1 summary
      group.2).1 group.1 group.1 with same | none
    · rw [ResultsTree.rows, same, ← ResultsTree.rows]
    · rw [ResultsTree.rows, none, nothing]
  · rw [runTurn_of_not_leavesNone found leaves]

theorem leavesRows_iff {group : PosixPath × List (List Char)}
    {summary : Summary} (found : before.summary group.1 = some summary)
    (dotless : ['.'] ∉ group.2) :
    ((runTurn os before group).1.rows group.1).map CsvRow.cell =
        (summary.rows.filter fun row =>
          ¬ NamesRemovable os root tree raws row).map CsvRow.cell ↔
      LeavesRows os root tree raws before group summary := by
  rw [rows_runTurn found dotless, LeavesRows, rewriteSummary]
  split
  · rw [ResultsTree.rows, found]
    exact map_eq_map_filter_not_iff namesRemovable_congr summary.rows
  · by_cases blank : summary.columns = []
    · rw [if_pos blank, if_pos blank, ResultsTree.rows, found,
        ← map_cell_kept_eq_iff]
      have kept : (summary.rows.filter fun row => row.caseText ∉ group.2) =
          summary.rows := by
        rw [List.filter_eq_self]
        intro row member
        simpa [caseText_of_blank blank member] using dotless
      rw [kept]
    · rw [if_neg blank, if_neg blank]
      cases written : os.write before group.1 with
      | some left => simp [ResultsTree.rows, ResultsTree.rewrite]
      | none =>
        rw [← map_cell_kept_eq_iff]
        have same : ((summary.withRows (summary.rows.filter fun row =>
              row.caseText ∉ group.2)).rows).map CsvRow.cell =
            (summary.rows.filter fun row => row.caseText ∉ group.2).map
              CsvRow.cell := by
          rw [Summary.withRows, List.map_map]
          refine List.map_congr_left fun row member => ?_
          exact cell_written (summary.named row (List.mem_filter.mp member).1)
        simp only [ResultsTree.rows, ResultsTree.rewrite, if_true, same]

end Rows

/-! ## The whole call -/

section Whole

variable {os root} {tree : ResultsTree} {raws : List (List Char)}

theorem not_dirs_runRun {path : PosixPath}
    {groups : List (PosixPath × List (List Char))} (gone : ¬ tree.dirs path) :
    ¬ (Runs.run (fun tree group => (runTurn os tree group).1) tree groups).dirs
      path :=
  Runs.run_of_preserved (fun after : ResultsTree => ¬ after.dirs path)
    (fun _ _ gone there => gone (dirs_of_runTurn there)) gone groups

theorem runRun_of_not_under {path : PosixPath}
    {groups : List (PosixPath × List (List Char))}
    (apart : ∀ group ∈ groups, ¬ group.1.Under path) :
    (Runs.run (fun tree group => (runTurn os tree group).1) tree
      groups).summary path = tree.summary path := by
  induction groups generalizing tree with
  | nil => rfl
  | cons group groups ih =>
    rw [Runs.run_cons, ih fun other member =>
      apart other (List.mem_cons_of_mem group member)]
    exact (runTurn_of_not_under (apart group List.mem_cons_self)).2

theorem dirs_of_deleteCases {path : PosixPath}
    (there : (deleteCases os root tree raws).1.dirs path) :
    (afterCases os root tree raws).dirs path := by
  by_contra gone
  exact not_dirs_runRun gone there

theorem mem_group_of_mem_runTurns
    {step : ResultsTree × PosixPath × List (List Char)}
    (member : step ∈ runTurns os root tree raws) :
    step.2 ∈ removedByRun (recordedCases os root tree raws) := by
  obtain ⟨before, after, split, -⟩ := Runs.mem_visits_iff.mp member
  rw [split]
  exact List.mem_append_right _ List.mem_cons_self

theorem exists_runTurn_of_mem {group : PosixPath × List (List Char)}
    (member : group ∈ removedByRun (recordedCases os root tree raws)) :
    ∃ before, (before, group) ∈ runTurns os root tree raws := by
  obtain ⟨first, second, split⟩ := List.append_of_mem member
  exact ⟨_, Runs.mem_visits_iff.mpr ⟨first, second, split, rfl⟩⟩

theorem exists_recorded_iff {run : PosixPath} :
    (∃ group ∈ removedByRun (recordedCases os root tree raws), group.1 = run) ↔
      ∃ turn ∈ caseTurns os root tree raws, ∃ path,
        Removable os root turn.1 turn.2 path ∧ path.parent = run := by
  constructor
  · rintro ⟨group, member, rfl⟩
    obtain ⟨⟨caseDir, recorded, same⟩, -⟩ := mem_removedByRun member
    obtain ⟨turn, inside, removable⟩ := mem_recordedCases_iff.mp recorded
    exact ⟨turn, inside, caseDir, removable, same⟩
  · rintro ⟨turn, member, path, removable, rfl⟩
    exact exists_group_of_mem (mem_recordedCases_iff.mpr ⟨turn, member, removable⟩)

variable (spares : ∀ turn ∈ caseTurns os root tree raws,
  SparesOthers os root turn.1 turn.2)

include spares

theorem isRun_of_mem_removedByRun {group : PosixPath × List (List Char)}
    (member : group ∈ removedByRun (recordedCases os root tree raws)) :
    IsRun root group.1 := by
  obtain ⟨⟨caseDir, recorded, same⟩, -⟩ := mem_removedByRun member
  rw [← same]
  exact (isCase_of_mem_recordedCases spares recorded).parent

theorem dot_not_mem_removedByRun {group : PosixPath × List (List Char)}
    (member : group ∈ removedByRun (recordedCases os root tree raws)) :
    ['.'] ∉ group.2 := by
  intro inside
  obtain ⟨caseDir, recorded, -, same⟩ :=
    ((mem_removedByRun member).2.1 ['.']).mp inside
  have whole : caseDir = ⟨.relative, [], by simp⟩ :=
    PosixPath.toText_injective (same.trans (by decide))
  have length := (isCase_of_mem_recordedCases spares recorded).2
  rw [whole, List.length_nil] at length
  omega

theorem summary_runTurns {step : ResultsTree × PosixPath × List (List Char)}
    (member : step ∈ runTurns os root tree raws) :
    step.1.summary step.2.1 = tree.summary step.2.1 ∧
      (deleteCases os root tree raws).1.summary step.2.1 =
        (runTurn os step.1 step.2).1.summary step.2.1 := by
  have isRun := isRun_of_mem_removedByRun spares
    (mem_group_of_mem_runTurns member)
  obtain ⟨first, second, split, same⟩ := Runs.mem_visits_iff.mp member
  have distinct := nodup_runs_removedByRun (recordedCases os root tree raws)
  rw [split, List.map_append, List.map_cons, List.nodup_append,
    List.nodup_cons] at distinct
  obtain ⟨-, ⟨notSecond, -⟩, apart⟩ := distinct
  have notUnder : ∀ group ∈ removedByRun (recordedCases os root tree raws),
      group.1 ≠ step.2.1 → ¬ group.1.Under step.2.1 :=
    fun group inside different below => different
      ((isRun_of_mem_removedByRun spares inside).eq_of_under isRun below).symm
  constructor
  · rw [same, runRun_of_not_under, summary_afterCases spares isRun]
    intro group inside
    refine notUnder group (split ▸ List.mem_append_left _ inside) ?_
    exact apart group.1 (List.mem_map_of_mem inside) step.2.1 List.mem_cons_self
  · rw [deleteCases]
    dsimp only
    rw [split, Runs.run_append, Runs.run_cons, ← same, runRun_of_not_under]
    intro group inside
    refine notUnder group
      (split ▸ List.mem_append_right _ (List.mem_cons_of_mem _ inside)) ?_
    intro equal
    exact notSecond (equal ▸ List.mem_map_of_mem inside)

theorem summary_of_not_recorded {run : PosixPath} (isRun : IsRun root run)
    (unknown : ¬ ∃ group ∈ removedByRun (recordedCases os root tree raws),
      group.1 = run) :
    (deleteCases os root tree raws).1.summary run = tree.summary run := by
  rw [deleteCases]
  dsimp only
  rw [runRun_of_not_under, summary_afterCases spares isRun]
  intro group member below
  exact unknown ⟨group, member,
    ((isRun_of_mem_removedByRun spares member).eq_of_under isRun below).symm⟩

theorem rows_iff :
    (∀ run, IsRun root run →
      ((deleteCases os root tree raws).1.rows run).map CsvRow.cell =
        ((tree.rows run).filter fun row =>
          ¬ NamesRemovable os root tree raws row).map CsvRow.cell) ↔
    (∀ step ∈ runTurns os root tree raws, ∀ summary,
      step.1.summary step.2.1 = some summary →
        LeavesRows os root tree raws step.1 step.2 summary) ∧
    ∀ run, IsRun root run → (∀ turn ∈ caseTurns os root tree raws, ∀ path,
        Removable os root turn.1 turn.2 path → path.parent ≠ run) →
          ∀ row ∈ tree.rows run, ¬ NamesRemovable os root tree raws row := by
  constructor
  · refine fun rows => ⟨fun step member summary found => ?_,
      fun run isRun unknown => ?_⟩
    · have inside := mem_group_of_mem_runTurns member
      obtain ⟨same, final⟩ := summary_runTurns spares member
      rw [← leavesRows_iff found (dot_not_mem_removedByRun spares inside)]
      have wanted := rows step.2.1 (isRun_of_mem_removedByRun spares inside)
      rw [ResultsTree.rows, final, ← ResultsTree.rows] at wanted
      simpa only [ResultsTree.rows, ← same, found] using wanted
    · have wanted := rows run isRun
      rw [ResultsTree.rows, summary_of_not_recorded spares isRun,
        ← ResultsTree.rows] at wanted
      · exact (map_eq_map_filter_not_iff namesRemovable_congr _).mp wanted
      · rw [exists_recorded_iff]
        rintro ⟨turn, member, path, removable, same⟩
        exact unknown turn member path removable same
  · rintro ⟨rewrites, others⟩ run isRun
    by_cases known : ∃ group ∈ removedByRun (recordedCases os root tree raws),
        group.1 = run
    · obtain ⟨group, inside, rfl⟩ := known
      obtain ⟨before, member⟩ := exists_runTurn_of_mem inside
      obtain ⟨same, final⟩ := summary_runTurns spares member
      dsimp only at same final
      rw [ResultsTree.rows, final, ← ResultsTree.rows]
      cases found : before.summary group.1 with
      | none =>
        rw [runTurn_of_none found]
        simp [ResultsTree.rows, ← same, found]
      | some summary =>
        have leaves := rewrites _ member summary found
        rw [← leavesRows_iff found (dot_not_mem_removedByRun spares inside)]
          at leaves
        simpa only [ResultsTree.rows, ← same, found] using leaves
    · rw [ResultsTree.rows, summary_of_not_recorded spares isRun known,
        ← ResultsTree.rows, map_eq_map_filter_not_iff namesRemovable_congr]
      refine others run isRun fun turn member path removable same => known ?_
      exact exists_recorded_iff.mpr ⟨turn, member, path, removable, same⟩

variable
  (empties : ∀ step ∈ runTurns os root tree raws, ∀ path,
    step.1.dirs path → ¬ (runTurn os step.1 step.2).1.dirs path →
      IsRun root step.2.1 ∧ step.2.1.Under path ∧
        ∀ caseDir, step.1.dirs caseDir → caseDir.parent ≠ step.2.1)

include empties

omit spares in
theorem dirs_deleteCases_of_afterCases {caseDir path : PosixPath}
    (isCase : IsCase root caseDir)
    (there : (afterCases os root tree raws).dirs caseDir)
    (below : caseDir.Under path)
    (inside : (afterCases os root tree raws).dirs path) :
    (deleteCases os root tree raws).1.dirs path := by
  by_contra gone
  obtain ⟨step, member, ⟨caseWas, pathWas⟩, lost⟩ := Runs.exists_visit_of_lost
    (fun before : ResultsTree =>
      before.dirs caseDir = true ∧ before.dirs path = true)
    ⟨there, inside⟩ (fun both => gone both.2)
  obtain ⟨lostPath, lostBelow, was, gone⟩ : ∃ lostPath,
      caseDir.Under lostPath ∧ step.1.dirs lostPath ∧
        ¬ (runTurn os step.1 step.2).1.dirs lostPath := by
    by_cases kept : (runTurn os step.1 step.2).1.dirs caseDir = true
    · exact ⟨path, below, pathWas, fun both => lost ⟨kept, both⟩⟩
    · exact ⟨caseDir, caseDir.under_refl, caseWas, kept⟩
  obtain ⟨isRun, runBelow, caseless⟩ := empties step member lostPath was gone
  have caseLength := isCase.2
  have runLength := isRun.2
  refine caseless caseDir caseWas (PosixPath.Under.parent_eq
    (runBelow.of_length_le lostBelow ?_) ?_) <;> omega

theorem dirs_deleteCases_of_unnamed {caseDir : PosixPath}
    (isCase : IsCase root caseDir) (there : tree.dirs caseDir)
    (unnamed : ∀ turn ∈ caseTurns os root tree raws,
      os.resolve turn.1 turn.2 ≠ some caseDir)
    {path : PosixPath}
    (below : caseDir.Under path) :
    (deleteCases os root tree raws).1.dirs path = tree.dirs path := by
  have stays : ∀ {path}, caseDir.Under path → tree.dirs path →
      (afterCases os root tree raws).dirs path := by
    intro path below was
    by_contra gone
    obtain ⟨turn, member, found, accepted, foundCase, foundBelow, -⟩ :=
      exists_turn_of_lost spares was gone
    have same : found = caseDir := isCase.eq_of_under foundCase
      (below.of_length_le foundBelow (isCase.2.trans foundCase.2.symm).le)
    exact unnamed turn member (same ▸ accepted.1)
  rw [Bool.eq_iff_iff]
  constructor
  · intro final
    by_contra gone
    exact not_dirs_caseRun gone (dirs_of_deleteCases final)
  · intro was
    exact dirs_deleteCases_of_afterCases empties isCase
      (stays caseDir.under_refl there) below (stays below was)

variable
  (rows : ∀ run, IsRun root run →
    ((deleteCases os root tree raws).1.rows run).map CsvRow.cell =
      ((tree.rows run).filter fun row =>
        ¬ NamesOne os tree (recordedCases os root tree raws) row).map
          CsvRow.cell)

include rows

/-- What is recorded is no longer there, and of what was there before nothing
else is gone. -/
theorem mem_recordedCases_iff_of_caseIn {caseDir : PosixPath}
    (isCase : IsCase root caseDir) (was : CaseIn os tree tree caseDir) :
    caseDir ∈ recordedCases os root tree raws ↔
      ¬ CaseIn os tree (deleteCases os root tree raws).1 caseDir := by
  have sameRows := rows caseDir.parent isCase.parent
  constructor
  · rintro recorded (there | ⟨row, member, names⟩)
    · exact not_dirs_of_mem_recordedCases recorded (dirs_of_deleteCases there)
    · have inside : row.cell ∈ ((deleteCases os root tree raws).1.rows
          caseDir.parent).map CsvRow.cell := List.mem_map_of_mem member
      rw [sameRows] at inside
      obtain ⟨old, kept, same⟩ := List.mem_map.mp inside
      have other := (List.mem_filter.mp kept).2
      rw [decide_eq_true_eq] at other
      exact other ⟨caseDir, recorded, (caseOf_congr same).trans names⟩
  · intro gone
    by_contra unrecorded
    rcases was with there | ⟨row, member, names⟩
    · have kept : (afterCases os root tree raws).dirs caseDir := by
        by_contra lost
        exact unrecorded (mem_recordedCases_of_lost spares isCase there lost)
      exact gone (.inl (dirs_deleteCases_of_afterCases empties isCase
        kept caseDir.under_refl kept))
    · have kept : row ∈ (tree.rows caseDir.parent).filter fun row =>
          ¬ NamesOne os tree (recordedCases os root tree raws) row := by
        refine List.mem_filter.mpr ⟨member, ?_⟩
        rw [decide_eq_true_eq]
        rintro ⟨other, recorded, same⟩
        rw [names, Option.some_inj] at same
        exact unrecorded (same ▸ recorded)
      have inside : row.cell ∈ ((tree.rows caseDir.parent).filter fun row =>
          ¬ NamesOne os tree (recordedCases os root tree raws) row).map
            CsvRow.cell := List.mem_map_of_mem kept
      rw [← sameRows] at inside
      obtain ⟨final, left, same⟩ := List.mem_map.mp inside
      exact gone (.inr ⟨final, left, (caseOf_congr same).trans names⟩)

/-- The count is right exactly if what is recorded was there before. -/
theorem count_iff :
    (∃ cases : List PosixPath, cases.Nodup ∧
      cases.length = (deleteCases os root tree raws).2.removed ∧
        ∀ caseDir, caseDir ∈ cases ↔
          IsCase root caseDir ∧ CaseIn os tree tree caseDir ∧
            ¬ CaseIn os tree (deleteCases os root tree raws).1 caseDir) ↔
    ∀ turn ∈ caseTurns os root tree raws, ∀ path,
      Accepted os root turn.1 turn.2 path → CaseIn os tree tree path := by
  have removed : (deleteCases os root tree raws).2.removed =
      (recordedCases os root tree raws).eraseDups.length :=
    length_removedByRun _
  rw [removed]
  constructor
  · rintro ⟨cases, distinct, length, gone⟩ turn member path accepted
    by_cases removable : turn.1.dirs path → os.rmtree turn.1 path = none
    · have recorded : path ∈ recordedCases os root tree raws :=
        mem_recordedCases_iff.mpr ⟨turn, member, accepted, removable⟩
      have inside : cases ⊆ (recordedCases os root tree raws).eraseDups := by
        intro caseDir known
        obtain ⟨isCase, was, lost⟩ := (gone caseDir).mp known
        rw [List.mem_eraseDups]
        exact (mem_recordedCases_iff_of_caseIn spares empties rows isCase
          was).mpr lost
      have whole := (List.subperm_of_subset distinct inside).perm_of_length_le
        length.ge
      exact ((gone path).mp (whole.mem_iff.mpr
        (List.mem_eraseDups.mpr recorded))).2.1
    · push Not at removable
      exact .inl (dirs_of_mem_caseTurns member removable.1)
  · intro known
    refine ⟨(recordedCases os root tree raws).eraseDups,
      Grouping.nodup_eraseDups _, rfl, fun caseDir => ?_⟩
    rw [List.mem_eraseDups]
    constructor
    · intro recorded
      obtain ⟨turn, member, accepted, -⟩ := mem_recordedCases_iff.mp recorded
      have isCase := isCase_of_mem_recordedCases spares recorded
      have was := known turn member caseDir accepted
      exact ⟨isCase, was, (mem_recordedCases_iff_of_caseIn spares empties rows
        isCase was).mp recorded⟩
    · rintro ⟨isCase, was, lost⟩
      exact (mem_recordedCases_iff_of_caseIn spares empties rows isCase
        was).mpr lost

end Whole

end Delete

/-- For every tree, every list of paths and all answers of the system:
`delete_cases` removes the cases that the paths name, and what goes with them,
and nothing else, exactly under the condition. -/
theorem deletes_cases_iff (os : ResultsOs) (root : PosixPath)
    (tree : ResultsTree) (raws : List (List Char)) :
    DeletesCases os root tree raws ↔ DeletionCondition os root tree raws := by
  have sameRows : (∀ run, IsRun root run →
      ((deleteCases os root tree raws).1.rows run).map CsvRow.cell =
        ((tree.rows run).filter fun row =>
          ¬ NamesOne os tree (recordedCases os root tree raws) row).map
            CsvRow.cell) ↔
      ∀ run, IsRun root run →
        ((deleteCases os root tree raws).1.rows run).map CsvRow.cell =
          ((tree.rows run).filter fun row =>
            ¬ NamesRemovable os root tree raws row).map CsvRow.cell := by
    simp only [namesOne_recordedCases_iff]
  constructor
  · rintro ⟨removes, skips, empties, -, rows, count⟩
    have spares : ∀ turn ∈ caseTurns os root tree raws,
        SparesOthers os root turn.1 turn.2 := fun turn member =>
      (sparesOthers_iff turn.1 turn.2).mpr
        ⟨removes turn member, skips turn member⟩
    obtain ⟨rewrites, others⟩ := (rows_iff spares).mp (sameRows.mp rows)
    refine ⟨spares, (count_iff spares empties rows).mp count, rewrites, others,
      fun step member => ?_⟩
    exact (empties_iff step.2 (isRun_of_mem_removedByRun spares
      (mem_group_of_mem_runTurns member))).mp (empties step member)
  · rintro ⟨spares, known, rewrites, others, runs⟩
    have empties : ∀ step ∈ runTurns os root tree raws, ∀ path,
        step.1.dirs path → ¬ (runTurn os step.1 step.2).1.dirs path →
          IsRun root step.2.1 ∧ step.2.1.Under path ∧
            ∀ caseDir, step.1.dirs caseDir → caseDir.parent ≠ step.2.1 :=
      fun step member => (empties_iff step.2 (isRun_of_mem_removedByRun spares
        (mem_group_of_mem_runTurns member))).mpr (runs step member)
    have rows := sameRows.mpr ((rows_iff spares).mpr ⟨rewrites, others⟩)
    have spares : ∀ turn ∈ caseTurns os root tree raws,
        SparesOthers os root turn.1 turn.2 := spares
    have each := fun turn member =>
      (sparesOthers_iff _ _).mp (spares turn member)
    exact ⟨fun turn member => (each turn member).1,
      fun turn member => (each turn member).2, empties,
      fun caseDir isCase there unnamed path below =>
        dirs_deleteCases_of_unnamed spares empties isCase there unnamed below,
      rows, (count_iff spares empties rows).mpr known⟩

/-- A system that allows everything, without links. -/
def plainOs : ResultsOs where
  resolve _ raw := some (PosixPath.ofText raw)
  rmtree _ _ := none
  reads _ _ := true
  write _ _ := none

/-- A run directory. -/
def sampleRun : PosixPath := PosixPath.ofText "/b/genai/r_CPU".toList

def sampleCase : PosixPath := PosixPath.ofText "/b/genai/r_CPU/m_int4".toList

/-- A tree with one run and one case. -/
def sampleTree : ResultsTree where
  dirs path := path = sampleRun || path = sampleCase
  summary _ := none

/-- A run directory that is named in the list is removed, with a case that is
not, and counted as a case. -/
theorem named_run_is_removed :
    (deleteCases plainOs (PosixPath.ofText "/b".toList) sampleTree
        ["/b/genai/r_CPU".toList]).1.dirs sampleCase = false ∧
    (deleteCases plainOs (PosixPath.ofText "/b".toList) sampleTree
        ["/b/genai/r_CPU".toList]).2 = ⟨1, 0, []⟩ ∧
    ¬ DeletesCases plainOs (PosixPath.ofText "/b".toList) sampleTree
        ["/b/genai/r_CPU".toList] := by
  refine ⟨by decide, by decide, fun right => ?_⟩
  have skipped := right.skips (sampleTree, "/b/genai/r_CPU".toList)
    List.mem_cons_self sampleRun (by decide)
    (by unfold IsCase; decide)
  revert skipped
  decide

end SmarTune
