import Mathlib.Data.List.Basic

/-!
# Runs of a labelled step function

A system is a step function on states and labels.  A run is a list of labels;
`EveryStep` says that each step of a run meets a condition on its label and on
the state it starts from.  An invariant preserved by every step meeting the
condition holds after every run whose steps all meet it.
-/

namespace Runs

variable {State Label : Type*} (step : State → Label → State)

def run (start : State) (labels : List Label) : State :=
  labels.foldl step start

@[simp] theorem run_nil (start : State) : run step start [] = start := rfl

@[simp] theorem run_cons (start : State) (label : Label) (labels : List Label) :
    run step start (label :: labels) = run step (step start label) labels := rfl

theorem run_append (start : State) (first second : List Label) :
    run step start (first ++ second) = run step (run step start first) second :=
  List.foldl_append

theorem run_flatMap {Action : Type*} (effects : Action → List Label)
    (start : State) (actions : List Action) :
    run step start (actions.flatMap effects) =
      run (fun state action => run step state (effects action)) start
        actions := by
  induction actions generalizing start with
  | nil => rfl
  | cons action actions ih =>
    rw [List.flatMap_cons, run_append, ih]
    rfl

/-- Every step of the run meets the condition. -/
def EveryStep (condition : State → Label → Prop) : State → List Label → Prop
  | _, [] => True
  | start, label :: labels =>
    condition start label ∧ EveryStep condition (step start label) labels

instance decidableEveryStep
    (condition : State → Label → Prop)
    [∀ state label, Decidable (condition state label)] :
    ∀ (start : State) (labels : List Label),
      Decidable (EveryStep step condition start labels)
  | _, [] => .isTrue trivial
  | start, label :: labels =>
    @instDecidableAnd _ _ inferInstance
      (decidableEveryStep condition (step start label) labels)

variable {step} {condition : State → Label → Prop}

@[simp] theorem everyStep_nil (start : State) :
    EveryStep step condition start [] := trivial

@[simp] theorem everyStep_cons (start : State) (label : Label)
    (labels : List Label) :
    EveryStep step condition start (label :: labels) ↔ condition start label ∧
        EveryStep step condition (step start label) labels := Iff.rfl

theorem everyStep_append (start : State) (first second : List Label) :
    EveryStep step condition start (first ++ second) ↔
      EveryStep step condition start first ∧
        EveryStep step condition (run step start first) second := by
  induction first generalizing start with
  | nil => simp
  | cons label labels ih => simp [ih, and_assoc]

theorem everyStep_of_forall (holds : ∀ state label, condition state label)
    (start : State) (labels : List Label) :
    EveryStep step condition start labels := by
  induction labels generalizing start with
  | nil => trivial
  | cons label labels ih => exact ⟨holds start label, ih _⟩

variable {other : State → Label → Prop} {start : State}

/-- Equivalent conditions are met by the same runs. -/
theorem everyStep_congr
    (same : ∀ state label, condition state label ↔ other state label)
    (start : State) (labels : List Label) :
    EveryStep step condition start labels ↔
      EveryStep step other start labels := by
  induction labels generalizing start with
  | nil => exact Iff.rfl
  | cons label labels ih => exact and_congr (same start label) (ih _)

theorem everyStep_congr_of_invariant {other : State → Label → Prop}
    (invariant : State → Prop)
    (preserved : ∀ state label, invariant state → invariant (step state label))
    (same : ∀ state label,
      invariant state → (condition state label ↔ other state label))
    {start : State}
    (labels : List Label)
    (initially : invariant start) :
    EveryStep step condition start labels ↔
      EveryStep step other start labels := by
  induction labels generalizing start with
  | nil => exact Iff.rfl
  | cons label labels ih =>
    exact and_congr (same start label initially)
      (ih (preserved start label initially))

/-- Every step meets two conditions when it meets each of them. -/
theorem everyStep_and (start : State) (labels : List Label) :
    EveryStep step (fun state label => condition state label ∧
        other state label) start labels ↔
      EveryStep step condition start labels ∧
        EveryStep step other start labels := by
  induction labels generalizing start with
  | nil => simp
  | cons label labels ih =>
    simp only [everyStep_cons, ih]
    tauto

theorem invariant_run (invariant : State → Prop)
    (preserved : ∀ state label,
      invariant state → condition state label → invariant (step state label))
    {start : State}
    {labels : List Label}
    (initially : invariant start)
    (guarded : EveryStep step condition start labels) :
    invariant (run step start labels) := by
  induction labels generalizing start with
  | nil => exact initially
  | cons label labels ih =>
    exact ih (preserved start label initially guarded.1) guarded.2

theorem everyStep_of_invariant (invariant : State → Prop)
    (preserved : ∀ state label, invariant state → invariant (step state label))
    (holds : ∀ state label, invariant state → condition state label)
    (labels : List Label) (initially : invariant start) :
    EveryStep step condition start labels := by
  induction labels generalizing start with
  | nil => trivial
  | cons label labels ih =>
    exact ⟨holds start label initially, ih (preserved start label initially)⟩

theorem everyStep_of_guarded {guard : State → Label → Prop}
    (invariant : State → Prop)
    (preserved : ∀ state label,
      invariant state → guard state label → invariant (step state label))
    (holds : ∀ state label,
      invariant state → guard state label → condition state label)
    {start : State}
    {labels : List Label}
    (initially : invariant start)
    (guarded : EveryStep step guard start labels) :
    EveryStep step condition start labels := by
  induction labels generalizing start with
  | nil => trivial
  | cons label labels ih =>
    refine ⟨holds start label initially guarded.1, ?_⟩
    exact ih (preserved start label initially guarded.1) guarded.2

theorem run_of_preserved (property : State → Prop)
    (preserved : ∀ state label, property state → property (step state label))
    (initially : property start) (labels : List Label) :
    property (run step start labels) := by
  induction labels generalizing start with
  | nil => exact initially
  | cons label labels ih => exact ih (preserved start label initially)

/-! ## Runs cut short -/

/-- The property holds wherever the run is cut short, the start and the end
included. -/
def EveryPrefix (step : State → Label → State) (property : State → Prop)
    (start : State) (labels : List Label) : Prop :=
  ∀ count, property (run step start (labels.take count))

section EveryPrefix

variable {property : State → Prop} {start : State}

@[simp] theorem everyPrefix_nil :
    EveryPrefix step property start [] ↔ property start := by
  simp [EveryPrefix]

@[simp] theorem everyPrefix_cons (label : Label) (labels : List Label) :
    EveryPrefix step property start (label :: labels) ↔
      property start ∧ EveryPrefix step property (step start label) labels := by
  constructor
  · intro holds
    exact ⟨holds 0, fun count => holds (count + 1)⟩
  · rintro ⟨initially, later⟩ count
    cases count with
    | zero => exact initially
    | succ count => exact later count

theorem EveryPrefix.initially {labels : List Label}
    (holds : EveryPrefix step property start labels) :
    property start :=
  holds 0

theorem EveryPrefix.finally {labels : List Label}
    (holds : EveryPrefix step property start labels) :
    property (run step start labels) := by
  have whole := holds labels.length
  rwa [List.take_length] at whole

theorem everyPrefix_of_invariant (invariant : State → Prop)
    (preserved : ∀ state label,
      invariant state → condition state label → invariant (step state label))
    (holds : ∀ state, invariant state → property state)
    {labels : List Label}
    (initially : invariant start)
    (guarded : EveryStep step condition start labels) :
    EveryPrefix step property start labels := by
  induction labels generalizing start with
  | nil => exact everyPrefix_nil.mpr (holds start initially)
  | cons label labels ih =>
    refine (everyPrefix_cons label labels).mpr ⟨holds start initially, ?_⟩
    exact ih (preserved start label initially guarded.1) guarded.2

/-- A run keeps a property at every cut exactly when its steps meet a
condition, if that is so for one step from a state of an invariant, and the
condition keeps the invariant. -/
theorem everyPrefix_iff_everyStep (invariant : State → Prop)
    (holds : ∀ state, invariant state → property state)
    (exact_ : ∀ state label, invariant state →
      (property (step state label) ↔ condition state label))
    (preserved : ∀ state label,
      invariant state → condition state label → invariant (step state label))
    (initially : invariant start)
    (labels : List Label) :
    EveryPrefix step property start labels ↔
      EveryStep step condition start labels := by
  induction labels generalizing start with
  | nil => simpa using holds start initially
  | cons label labels ih =>
    rw [everyPrefix_cons, everyStep_cons, and_iff_right (holds start initially)]
    constructor
    · intro later
      have met := (exact_ start label initially).mp later.initially
      exact ⟨met, (ih (preserved start label initially met)).mp later⟩
    · rintro ⟨met, later⟩
      exact (ih (preserved start label initially met)).mpr later

theorem everyPrefix_append (first second : List Label) :
    EveryPrefix step property start (first ++ second) ↔
      EveryPrefix step property start first ∧
        EveryPrefix step property (run step start first) second := by
  induction first generalizing start with
  | nil =>
    simp only [List.nil_append, everyPrefix_nil, run_nil]
    exact ⟨fun holds => ⟨holds.initially, holds⟩, fun holds => holds.2⟩
  | cons label labels ih => simp [ih, and_assoc]

/-- A run of composed steps holds at every cut when the steps do, each one
assuming that the one before it ended well. -/
theorem everyPrefix_flatMap_iff {Action : Type*} {effects : Action → List Label}
    {keeps : State → Action → Prop}
    (exact_ : ∀ state action, property state →
      (EveryPrefix step property state (effects action) ↔ keeps state action))
    (initially : property start)
    (actions : List Action) :
    EveryPrefix step property start (actions.flatMap effects) ↔
      EveryStep (fun state action => run step state (effects action)) keeps
        start actions := by
  induction actions generalizing start with
  | nil => simpa using initially
  | cons action actions ih =>
    rw [List.flatMap_cons, everyPrefix_append, everyStep_cons,
      exact_ start action initially]
    apply and_congr_right
    intro kept
    exact ih ((exact_ start action initially).mpr kept).finally

end EveryPrefix

/-! ## What the steps of a run show -/

/-- What each step of a run shows, in order. -/
def observations {Observation : Type*} (step : State → Label → State)
    (observe : State → Label → Observation) :
    State → List Label → List Observation
  | _, [] => []
  | start, label :: labels =>
    observe start label :: observations step observe (step start label) labels

/-- What a composed run shows is shown by its parts. -/
theorem observations_append {Observation : Type*}
    (observe : State → Label → Observation) (start : State)
    (first second : List Label) :
    observations step observe start (first ++ second) =
      observations step observe start first ++
        observations step observe (run step start first) second := by
  induction first generalizing start with
  | nil => rfl
  | cons label labels ih => exact congrArg (observe start label :: ·) (ih _)

section Observations

variable {Observation : Type*} {observe : State → Label → Observation}
  {relation : Observation → Observation → Prop}

theorem related_observations (bound : State → Observation → Prop)
    (kept : ∀ state label observation, condition state label →
      bound state observation → bound (step state label) observation)
    (related : ∀ state label observation, condition state label →
      bound state observation → relation observation (observe state label))
    {start : State}
    {labels : List Label}
    {earlier : Observation}
    (bounded : bound start earlier)
    (guarded : EveryStep step condition start labels) :
    ∀ later ∈ observations step observe start labels,
      relation earlier later := by
  induction labels generalizing start with
  | nil => exact fun _ member => by cases member
  | cons label labels ih =>
    intro later member
    rcases List.mem_cons.mp member with rfl | member
    · exact related start label earlier guarded.1 bounded
    · exact ih (kept start label earlier guarded.1 bounded)
        guarded.2 later member

theorem pairwise_observations (bound : State → Observation → Prop)
    (shown : ∀ state label, condition state label →
      bound (step state label) (observe state label))
    (kept : ∀ state label observation, condition state label →
      bound state observation → bound (step state label) observation)
    (related : ∀ state label observation, condition state label →
      bound state observation → relation observation (observe state label))
    {start : State}
    {labels : List Label}
    (guarded : EveryStep step condition start labels) :
    (observations step observe start labels).Pairwise relation := by
  induction labels generalizing start with
  | nil => exact List.Pairwise.nil
  | cons label labels ih =>
    refine List.Pairwise.cons ?_ (ih guarded.2)
    exact related_observations bound kept related
      (shown start label guarded.1) guarded.2

/-- Consecutive steps show related things when every two steps do. -/
theorem isChain_observations
    (related : ∀ state label next,
      relation (observe state label) (observe (step state label) next))
    (start : State)
    (labels : List Label) :
    (observations step observe start labels).IsChain relation := by
  induction labels generalizing start with
  | nil => exact List.IsChain.nil
  | cons label labels ih =>
    cases labels with
    | nil => exact List.IsChain.singleton _
    | cons next labels =>
      exact List.IsChain.cons_cons (related start label next)
        (ih (step start label))

/-- What holds of whatever a step shows holds of all a run shows. -/
theorem forall_mem_observations {property : Observation → Prop}
    (holds : ∀ state label, property (observe state label)) {start : State}
    {labels : List Label} :
    ∀ shown ∈ observations step observe start labels, property shown := by
  induction labels generalizing start with
  | nil => exact fun _ member => by cases member
  | cons label labels ih =>
    intro shown member
    rcases List.mem_cons.mp member with rfl | member
    · exact holds start label
    · exact ih shown member

end Observations

/-- The states that a run steps from, with the labels that it takes there. -/
def visits (step : State → Label → State) (start : State)
    (labels : List Label) : List (State × Label) :=
  observations step Prod.mk start labels

variable {start : State} {labels : List Label}

theorem mem_visits_iff {visit : State × Label} :
    visit ∈ visits step start labels ↔
      ∃ before after, labels = before ++ visit.2 :: after ∧
        visit.1 = run step start before := by
  induction labels generalizing start with
  | nil => simp [visits, observations]
  | cons label labels ih =>
    rw [visits, observations, List.mem_cons, ← visits, ih]
    constructor
    · rintro (rfl | ⟨before, after, rfl, same⟩)
      · exact ⟨[], labels, rfl, rfl⟩
      · exact ⟨label :: before, after, rfl, same⟩
    · rintro ⟨before, after, split, same⟩
      cases before with
      | nil =>
        obtain ⟨rfl, rfl⟩ := List.cons.inj split
        exact .inl (Prod.ext same rfl)
      | cons first before =>
        obtain ⟨rfl, rfl⟩ := List.cons.inj split
        exact .inr ⟨before, after, rfl, same⟩

theorem exists_visit_of_lost (property : State → Prop)
    (initially : property start)
    (finally_ : ¬ property (run step start labels)) :
    ∃ visit ∈ visits step start labels,
      property visit.1 ∧ ¬ property (step visit.1 visit.2) := by
  induction labels generalizing start with
  | nil => exact absurd initially finally_
  | cons label labels ih =>
    by_cases kept : property (step start label)
    · obtain ⟨visit, member, lost⟩ := ih kept finally_
      exact ⟨visit, List.mem_cons_of_mem _ member, lost⟩
    · exact ⟨(start, label), List.mem_cons_self, initially, kept⟩

end Runs
