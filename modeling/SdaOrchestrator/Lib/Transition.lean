import Mathlib.Logic.Relation
import Mathlib.Data.List.Basic

namespace transition

variable {State Label : Type*}

/-- A finite run of a labelled step relation from a state: every entry is a label
and the state its step leads to, oldest first. -/
inductive Run (step : State → Label → State → Prop) : State → List (Label × State) → Prop where
  | nil (start : State) : Run step start []
  | cons {start next : State} {label : Label} {rest : List (Label × State)}
      (hstep : step start label next) (hrest : Run step next rest) :
      Run step start ((label, next) :: rest)

/-- The states a run visits, its start included. -/
def visited (start : State) (run : List (Label × State)) : List State :=
  start :: run.map Prod.snd

/-- The guard holds of every step of the run, in the state the step is taken from. -/
def Guarded (guard : State → Label → Prop) : State → List (Label × State) → Prop
  | _, [] => True
  | start, (label, next) :: rest => guard start label ∧ Guarded guard next rest

@[simp] theorem visited_nil (start : State) :
    visited start ([] : List (Label × State)) = [start] := rfl

@[simp] theorem visited_cons (start next : State) (label : Label) (rest : List (Label × State)) :
    visited start ((label, next) :: rest) = start :: visited next rest := rfl

theorem visited_self_mem (start : State) (run : List (Label × State)) :
    start ∈ visited start run := by
  simp [visited]

/-- The state in which a run ends. -/
def last : State → List (Label × State) → State
  | start, [] => start
  | _, (_, next) :: rest => last next rest

theorem last_mem_visited (start : State) (run : List (Label × State)) :
    last start run ∈ visited start run := by
  induction run generalizing start with
  | nil => exact visited_self_mem start []
  | cons entry rest ih => exact List.mem_cons_of_mem _ (ih entry.2)

theorem last_append (start : State) (first second : List (Label × State)) :
    last start (first ++ second) = last (last start first) second := by
  induction first generalizing start with
  | nil => rfl
  | cons entry rest ih => exact ih entry.2

theorem Run.append {step : State → Label → State → Prop} {start : State}
    {first second : List (Label × State)} (hfirst : Run step start first)
    (hsecond : Run step (last start first) second) : Run step start (first ++ second) := by
  induction hfirst with
  | nil start => exact hsecond
  | cons hstep _ ih => exact .cons hstep (ih hsecond)

/-- A property every step preserves holds in every state of a run that starts in it. -/
theorem Run.invariant {step : State → Label → State → Prop} (inv : State → Prop)
    (hpreserve : ∀ s label t, inv s → step s label t → inv t)
    {start : State} {run : List (Label × State)} (hrun : Run step start run) (hstart : inv start) :
    ∀ s ∈ visited start run, inv s := by
  induction hrun with
  | nil start => simpa using hstart
  | cons hstep _ ih =>
    intro s hs
    rw [visited_cons, List.mem_cons] at hs
    rcases hs with rfl | hs
    · exact hstart
    · exact ih (hpreserve _ _ _ hstart hstep) s hs

/-- When a property is preserved by the steps that meet a guard, it holds in every
state of a run whose steps all meet the guard. The unconditional invariant is
available at every step. -/
theorem Run.guarded_invariant {step : State → Label → State → Prop} (base inv : State → Prop)
    (guard : State → Label → Prop)
    (hbase : ∀ s label t, base s → step s label t → base t)
    (hpreserve : ∀ s label t, base s → inv s → guard s label → step s label t → inv t)
    {start : State} {run : List (Label × State)} (hrun : Run step start run)
    (hstart : base start) (hinv : inv start) (hguard : Guarded guard start run) :
    ∀ s ∈ visited start run, inv s := by
  induction hrun with
  | nil start => simpa using hinv
  | cons hstep _ ih =>
    obtain ⟨hhere, hlater⟩ := hguard
    intro s hs
    rw [visited_cons, List.mem_cons] at hs
    rcases hs with rfl | hs
    · exact hinv
    · exact ih (hbase _ _ _ hstart hstep) (hpreserve _ _ _ hstart hinv hhere hstep) hlater s hs

/-- When the guard is exactly what a step needs to preserve a property, the runs
that stay inside the property are exactly the runs whose steps all meet the guard. -/
theorem Run.invariant_iff_guarded {step : State → Label → State → Prop} (base inv : State → Prop)
    (guard : State → Label → Prop)
    (hbase : ∀ s label t, base s → step s label t → base t)
    (hexact : ∀ s label t, base s → inv s → step s label t → (inv t ↔ guard s label))
    {start : State} {run : List (Label × State)} (hrun : Run step start run)
    (hstart : base start) (hinv : inv start) :
    (∀ s ∈ visited start run, inv s) ↔ Guarded guard start run := by
  constructor
  · intro hall
    induction hrun with
    | nil start => trivial
    | @cons start next label rest hstep _ ih =>
      have hnext : inv next := hall next (by simp [visited])
      refine ⟨(hexact _ _ _ hstart hinv hstep).mp hnext, ?_⟩
      apply ih (hbase _ _ _ hstart hstep) hnext
      intro s hs
      exact hall s (List.mem_cons_of_mem _ hs)
  · exact hrun.guarded_invariant base inv guard hbase
      (fun s label t hb hi hg hstep => (hexact s label t hb hi hstep).mpr hg) hstart hinv

/-- The steps of a run: the state before, the label and the state after. -/
def steps : State → List (Label × State) → List (State × Label × State)
  | _, [] => []
  | start, (label, next) :: rest => (start, label, next) :: steps next rest

/-- What every step preserves holds before every step of a run that starts in it. -/
theorem Run.invariant_steps {step : State → Label → State → Prop} (inv : State → Prop)
    (hpreserve : ∀ s label t, inv s → step s label t → inv t)
    {start : State} {run : List (Label × State)} (hrun : Run step start run) (hstart : inv start) :
    ∀ entry ∈ steps start run, inv entry.1 ∧ step entry.1 entry.2.1 entry.2.2 := by
  induction hrun with
  | nil start => simp [steps]
  | cons hstep _ ih =>
    intro entry hentry
    rw [steps, List.mem_cons] at hentry
    obtain rfl | hentry := hentry
    · exact ⟨hstart, hstep⟩
    · exact ih (hpreserve _ _ _ hstart hstep) entry hentry

/-- What happens when labels are executed in order, each by a total function. -/
def trace (exec : State → Label → State) : State → List Label → List (Label × State)
  | _, [] => []
  | start, label :: rest => (label, exec start label) :: trace exec (exec start label) rest

theorem trace_run (exec : State → Label → State) (start : State) (labels : List Label) :
    Run (fun s label t => t = exec s label) start (trace exec start labels) := by
  induction labels generalizing start with
  | nil => exact .nil start
  | cons label rest ih => exact .cons rfl (ih (exec start label))

/-- The state after executing labels in order, where every one of them is a step. -/
def execute (exec : State → Label → Option State) : State → List Label → Option State
  | start, [] => some start
  | start, label :: rest => (exec start label).bind fun next => execute exec next rest

/-- Executing labels gives a run that takes exactly these labels. -/
theorem execute_run {exec : State → Label → Option State} {start finish : State}
    {labels : List Label} (hexecute : execute exec start labels = some finish) :
    ∃ run, Run (fun s label t => exec s label = some t) start run ∧
      run.map Prod.fst = labels ∧ last start run = finish := by
  induction labels generalizing start with
  | nil =>
    exact ⟨[], .nil start, rfl, Option.some.inj hexecute⟩
  | cons label rest ih =>
    obtain ⟨next, hnext, hrest⟩ := Option.bind_eq_some_iff.mp hexecute
    obtain ⟨run, hrun, hlabels, hlast⟩ := ih hrest
    exact ⟨(label, next) :: run, .cons hnext hrun, by simp [hlabels], hlast⟩

end transition
