import SdaOrchestrator.Store.Transactions

open python

namespace orchestrator.store

/-- What an operation returns, and the core tables that it leaves. -/
def core_result {α : Type} (result : Py (α × Store)) : Py (α × CoreTables) :=
  result.map fun done => (done.1, done.2.core)

/-- The operation reads nothing but the core tables. -/
def ReadsCore {α : Type} (operation : Store → Py (α × Store)) : Prop :=
  ∀ store store' : Store, store.core = store'.core →
    core_result (operation store) = core_result (operation store')

theorem core_result_bind {α β : Type} {x : Py β} {f : β → Py (α × Store)} :
    core_result (x >>= f) = x >>= fun b => core_result (f b) := by
  cases x <;> rfl

theorem core_result_pure {α : Type} {value : α} {store : Store} :
    core_result (pure (value, store)) = pure (value, store.core) := rfl

/-- Stores with the same core tables differ in intents, approvals, evidence and events. -/
theorem reads_core_of {α : Type} {operation : Store → Py (α × Store)}
    (h : ∀ (store : Store) intents approvals evidence audit_events,
      core_result (operation { store with intents, approvals, evidence, audit_events }) =
        core_result (operation store)) : ReadsCore operation := by
  intro store store' hcore
  have hsame : { store with
      intents := store'.intents, approvals := store'.approvals, evidence := store'.evidence
      audit_events := store'.audit_events } = store' := by
    simp only [Store.core, CoreTables.mk.injEq] at hcore
    obtain ⟨hplans, hruns, hlocks, hreservations, hnetwork, hscalar, hmanifests⟩ := hcore
    rw [hplans, hruns, hlocks, hreservations, hnetwork, hscalar, hmanifests]
  have hresult := h store store'.intents store'.approvals store'.evidence store'.audit_events
  rw [hsame] at hresult
  exact hresult.symm

theorem transition_run_reads_core {platform : Platform} {run_id : String} {new_status : RunStatus}
    {actor : String} {detail : Value} {ambient : Ambient} :
    ReadsCore (transition_run platform run_id new_status actor detail ambient) := by
  apply reads_core_of
  intros
  simp only [transition_run, core_result_bind]
  rfl

theorem complete_apply_reads_core {platform : Platform} {run_id artifact_hash : String}
    {owned_state : Value} {actor : String} {detail : Value} {ambient : Ambient} :
    ReadsCore (complete_apply platform run_id artifact_hash owned_state actor detail ambient) := by
  apply reads_core_of
  intros
  simp only [complete_apply, core_result_bind]
  rfl

theorem transition_design_reservation_reads_core {platform : Platform} {reservation_id : String}
    {new_state : ReservationState} {actor : String} {verified : Bool} {ambient : Ambient} :
    ReadsCore
      (transition_design_reservation platform reservation_id new_state actor verified ambient) := by
  apply reads_core_of
  intros
  simp only [transition_design_reservation, core_result_bind]
  rfl

/-- Evidence of a stored run is accepted whatever it says, and leaves the core tables. -/
theorem add_evidence_core_result {platform : Platform} {run_id phase_id evidence_type : String}
    {payload : Value} {actor : String} {device_id : Option String} {ambient : Ambient}
    {store : Store} :
    (core_result (add_evidence platform run_id phase_id evidence_type payload actor device_id ambient
      store)).map (Prod.map (fun _ => ()) id) =
      if (table.lookup RunRow.run_id run_id store.core.runs).isNone then
        .error (NotFoundError "Run not found")
      else .ok ((), store.core) := by
  have hruns : store.core.runs = store.runs := rfl
  simp only [add_evidence, core_result_bind, Store.find_run, hruns]
  cases table.lookup RunRow.run_id run_id store.runs with
  | none => rfl
  | some run =>
    simp only [Option.isNone_some, raise_if, Bool.false_eq_true, if_false]
    split <;> rfl

end orchestrator.store
