import SdaOrchestrator.Store.Authorization

open python

namespace orchestrator.store

/-! ## The actors that rows name -/

/-- A kind of row that names an actor. -/
inductive Signed where
  | intent
  | reservation
  | plan
  | approval
  | run (mode : Mode)
  | evidence
  | manifest (source_type : SourceType)
  | audit

/-- The actors that the rows of a kind name. -/
def Store.signers (store : Store) : Signed → List String
  | .intent => store.intents.map IntentRow.created_by
  | .reservation => store.design_reservations.map ReservationRow.created_by
  | .plan => store.plans.map PlanRow.created_by
  | .approval => store.approvals.map ApprovalRow.approver
  | .run mode => (store.runs.filter fun row => row.mode = mode).map RunRow.requested_by
  | .evidence => store.evidence.map EvidenceRow.created_by
  | .manifest source_type =>
    (store.owned_state_manifests.filter fun row => row.source_type = source_type).map OwnedStateRow.created_by
  | .audit => store.audit_events.map AuditEvent.actor

/-- The actor under whom a transaction is recorded. -/
def Transaction.actor : Transaction → String
  | .save_intent _ actor => actor
  | .reserve_design _ _ _ actor => actor
  | .save_plan _ _ actor _ _ _ => actor
  | .record_approval _ _ approver _ _ => approver
  | .create_run _ _ _ requested_by _ _ _ _ => requested_by
  | .transition_run _ _ actor _ => actor
  | .complete_apply _ _ _ actor _ => actor
  | .transition_design_reservation _ _ actor _ => actor
  | .add_evidence _ _ _ _ actor _ => actor
  | .adopt_manifest _ _ _ _ _ approver => strip approver

/-- The kinds of rows that a transaction adds. -/
inductive Transaction.Adds : Transaction → Signed → Prop where
  | intent {intent : Value} {actor : String} : Adds (.save_intent intent actor) .intent
  | reservation {requirements policy : Value} {idempotency_key actor : String} :
      Adds (.reserve_design requirements policy idempotency_key actor) .reservation
  | plan {intent_id actor artifact_hash intent_version : String} {plan : Value} {reservation_id : Option String} :
      Adds (.save_plan intent_id plan actor artifact_hash intent_version reservation_id) .plan
  | approval {plan_id decision approver change_reference expires_at : String} :
      Adds (.record_approval plan_id decision approver change_reference expires_at) .approval
  | run {plan_id mode idempotency_key requested_by : String} {execution_enabled : Bool}
      {maintenance_start maintenance_end : Option String} {lock_ttl_seconds : Int} {parsed : Mode}
      (hmode : Mode.parse mode = .ok parsed) (henabled : parsed = .apply → execution_enabled = true) :
      Adds (.create_run plan_id mode idempotency_key requested_by execution_enabled maintenance_start maintenance_end
        lock_ttl_seconds) (.run parsed)
  | evidence {run_id phase_id evidence_type actor : String} {payload : Value} {device_id : Option String} :
      Adds (.add_evidence run_id phase_id evidence_type payload actor device_id) .evidence
  | committed {run_id artifact_hash actor : String} {owned_state detail : Value} :
      Adds (.complete_apply run_id artifact_hash owned_state actor detail) (.manifest .successful_apply)
  | adopted {fabric_id evidence_hash change_reference discovered_by approver : String} {manifest : Value} :
      Adds (.adopt_manifest fabric_id manifest evidence_hash change_reference discovered_by approver)
        (.manifest .adopted_discovery)
  | audit {transaction : Transaction} : Adds transaction .audit

/-- What names an actor after a transaction named it before, or is new and names the actor of the transaction. -/
def Attributed (store next : Store) (transaction : Transaction) : Prop :=
  ∀ kind actor, actor ∈ next.signers kind → actor ∈ store.signers kind ∨ transaction.Adds kind ∧ actor = transaction.actor

section Attributed

variable {platform : Platform} {derive_fabric_intent : Derive} {ambient : Ambient} {store next : Store}

theorem attributed_refl (transaction : Transaction) : Attributed store store transaction :=
  fun _ _ hactor => .inl hactor

/-- One more row names one more actor. -/
theorem mem_signers_append {α : Type} {signer : α → String} {rows : List α} {row : α} {actor : String}
    (hactor : actor ∈ (rows ++ [row]).map signer) : actor ∈ rows.map signer ∨ actor = signer row := by
  rw [List.map_append, List.mem_append, List.map_singleton, List.mem_singleton] at hactor
  exact hactor

/-- One more row, where the rows are chosen. -/
theorem mem_signers_filter_append {α : Type} {signer : α → String} {chosen : α → Bool} {rows : List α} {row : α}
    {actor : String} (hactor : actor ∈ ((rows ++ [row]).filter chosen).map signer) :
    actor ∈ (rows.filter chosen).map signer ∨ chosen row = true ∧ actor = signer row := by
  rw [List.filter_append, List.map_append, List.mem_append] at hactor
  obtain hold | hnew := hactor
  · exact .inl hold
  · obtain ⟨found, hfound, rfl⟩ := List.mem_map.mp hnew
    obtain ⟨hmem, hchosen⟩ := List.mem_filter.mp hfound
    obtain rfl := List.mem_singleton.mp hmem
    exact .inr ⟨hchosen, rfl⟩

/-- An update that keeps the signers names nobody new. -/
theorem mem_signers_update {α : Type} {key : α → String} {k : String} {change : α → α} {signer : α → String}
    {rows : List α} {actor : String} (hactor : actor ∈ (table.update key k change rows).map signer)
    (hsigner : ∀ row, signer (change row) = signer row) : actor ∈ rows.map signer := by
  obtain ⟨row, hrow, rfl⟩ := List.mem_map.mp hactor
  obtain ⟨old, hold, rfl⟩ := table.mem_update.mp hrow
  refine List.mem_map.mpr ⟨old, hold, ?_⟩
  split
  · exact (hsigner old).symm
  · rfl

/-- An update that keeps the signers and the choice of the rows, where the rows are chosen. -/
theorem mem_signers_filter_update {α : Type} {key : α → String} {k : String} {change : α → α} {signer : α → String}
    {chosen : α → Bool} {rows : List α} {actor : String}
    (hactor : actor ∈ ((table.update key k change rows).filter chosen).map signer)
    (hsigner : ∀ row, signer (change row) = signer row) (hchosen : ∀ row, chosen (change row) = chosen row) :
    actor ∈ (rows.filter chosen).map signer := by
  obtain ⟨row, hrow, rfl⟩ := List.mem_map.mp hactor
  obtain ⟨hmem, hrow_chosen⟩ := List.mem_filter.mp hrow
  obtain ⟨old, hold, rfl⟩ := table.mem_update.mp hmem
  refine List.mem_map.mpr ⟨old, ?_, ?_⟩
  · refine List.mem_filter.mpr ⟨hold, ?_⟩
    split at hrow_chosen
    · exact hchosen old ▸ hrow_chosen
    · exact hrow_chosen
  · split
    · exact (hsigner old).symm
    · rfl

theorem save_intent_attributed {intent : Value} {actor : String} {row : IntentRow} {created : Bool}
    (hresult : save_intent platform intent actor ambient store = .ok ((row, created), next)) :
    Attributed store next (.save_intent intent actor) := by
  simp only [save_intent, bind_eq_ok_iff] at hresult
  obtain ⟨_, -, _, -, _, -, _, -, hresult⟩ := hresult
  split at hresult
  · simp only [pure_eq_ok_iff, Prod.mk.injEq] at hresult
    exact hresult.2 ▸ attributed_refl _
  · simp only [bind_eq_ok_iff, raise_if_eq_ok, pure_eq_ok_iff, Prod.mk.injEq] at hresult
    obtain ⟨-, -, -, rfl⟩ := hresult
    intro kind name hname
    cases kind with
    | intent => exact (mem_signers_append hname).imp id fun hnew => ⟨.intent, hnew⟩
    | audit => exact (mem_signers_append hname).imp id fun hnew => ⟨.audit, hnew⟩
    | _ => exact .inl hname

theorem reserve_design_attributed {requirements policy : Value} {idempotency_key actor : String}
    {record : ReservationRecord} {created : Bool}
    (hresult : reserve_design platform derive_fabric_intent requirements policy idempotency_key actor ambient store =
      .ok ((record, created), next)) :
    Attributed store next (.reserve_design requirements policy idempotency_key actor) := by
  simp only [reserve_design, bind_eq_ok_iff, raise_if_eq_ok] at hresult
  obtain ⟨_, -, _, -, hresult⟩ := hresult
  split at hresult
  · simp only [bind_eq_ok_iff, raise_if_eq_ok, pure_eq_ok_iff, Prod.mk.injEq] at hresult
    obtain ⟨-, -, -, rfl⟩ := hresult
    exact attributed_refl _
  · simp only [bind_eq_ok_iff, raise_if_eq_ok, pure_eq_ok_iff, Prod.mk.injEq] at hresult
    obtain ⟨_, -, _, -, _, -, -, rfl⟩ := hresult
    intro kind name hname
    cases kind with
    | reservation => exact (mem_signers_append hname).imp id fun hnew => ⟨.reservation, hnew⟩
    | audit => exact (mem_signers_append hname).imp id fun hnew => ⟨.audit, hnew⟩
    | _ => exact .inl hname

theorem save_plan_attributed {intent_id actor artifact_hash intent_version : String} {plan : Value}
    {reservation_id : Option String} {row : PlanRow} {created : Bool}
    (hresult : save_plan platform intent_id plan actor artifact_hash intent_version reservation_id ambient store =
      .ok ((row, created), next)) :
    Attributed store next (.save_plan intent_id plan actor artifact_hash intent_version reservation_id) := by
  simp only [save_plan, bind_eq_ok_iff, raise_if_eq_ok] at hresult
  obtain ⟨_, -, _, -, _, -, _, -, _, -, _, -, _, -, hresult⟩ := hresult
  split at hresult
  · simp only [save_existing_plan, bind_eq_ok_iff, raise_if_eq_ok] at hresult
    obtain ⟨_, -, hresult⟩ := hresult
    split at hresult
    · simp only [pure_eq_ok_iff, Prod.mk.injEq] at hresult
      exact hresult.2 ▸ attributed_refl _
    · simp only [bind_eq_ok_iff, raise_if_eq_ok, pure_eq_ok_iff, Prod.mk.injEq] at hresult
      obtain ⟨_, -, _, -, _, -, -, rfl⟩ := hresult
      intro kind name hname
      cases kind with
      | plan => exact .inl (mem_signers_update hname fun _ => rfl)
      | audit => exact (mem_signers_append hname).imp id fun hnew => ⟨.audit, hnew⟩
      | _ => exact .inl hname
  · simp only [insert_plan, bind_eq_ok_iff, raise_if_eq_ok, pure_eq_ok_iff, Prod.mk.injEq] at hresult
    obtain ⟨_, -, _, -, _, -, -, rfl⟩ := hresult
    intro kind name hname
    cases kind with
    | plan => exact (mem_signers_append hname).imp id fun hnew => ⟨.plan, hnew⟩
    | audit => exact (mem_signers_append hname).imp id fun hnew => ⟨.audit, hnew⟩
    | _ => exact .inl hname

theorem record_approval_attributed {plan_id decision approver change_reference expires_at : String} {row : ApprovalRow}
    (hresult : record_approval platform plan_id decision approver change_reference expires_at ambient store =
      .ok (row, next)) :
    Attributed store next (.record_approval plan_id decision approver change_reference expires_at) := by
  simp only [record_approval, bind_eq_ok_iff, raise_if_eq_ok, pure_eq_ok_iff, Prod.mk.injEq] at hresult
  obtain ⟨_, -, _, -, _, -, _, -, _, -, _, -, _, -, _, -, -, rfl⟩ := hresult
  intro kind name hname
  cases kind with
  | approval => exact (mem_signers_append hname).imp id fun hnew => ⟨.approval, hnew⟩
  | audit => exact (mem_signers_append hname).imp id fun hnew => ⟨.audit, hnew⟩
  | _ => exact .inl hname

/-- A lock changes the locks only. -/
theorem take_fabric_lock_locks {mode : Mode} {fabric_id run_id created_at : String} {lock_ttl_seconds : Int}
    {now : Datetime}
    (hresult : take_fabric_lock platform mode fabric_id run_id created_at lock_ttl_seconds now store = .ok next) :
    next = { store with fabric_locks := next.fabric_locks } := by
  cases mode with
  | dry_run =>
    cases hresult
    rfl
  | apply =>
    simp only [take_fabric_lock, raise_if_bind_eq_ok_iff, pure_eq_ok_iff] at hresult
    obtain ⟨-, rfl⟩ := hresult
    rfl

theorem create_run_attributed {plan_id mode idempotency_key requested_by : String} {execution_enabled : Bool}
    {maintenance_start maintenance_end : Option String} {lock_ttl_seconds : Int} {row : RunRow} {created : Bool}
    (hresult : create_run platform plan_id mode idempotency_key requested_by execution_enabled maintenance_start
      maintenance_end lock_ttl_seconds ambient store = .ok ((row, created), next)) :
    Attributed store next (.create_run plan_id mode idempotency_key requested_by execution_enabled maintenance_start
      maintenance_end lock_ttl_seconds) := by
  simp only [create_run, bind_eq_ok_iff, raise_if_eq_ok] at hresult
  obtain ⟨parsed, hparsed, _, -, _, hdisabled, window, -, plan, -, hresult⟩ := hresult
  split at hresult
  · simp only [bind_eq_ok_iff, raise_if_eq_ok, pure_eq_ok_iff, Prod.mk.injEq] at hresult
    obtain ⟨-, -, -, rfl⟩ := hresult
    exact attributed_refl _
  · simp only [bind_eq_ok_iff, raise_if_eq_ok, pure_eq_ok_iff, Prod.mk.injEq] at hresult
    obtain ⟨approval, -, _, -, _, -, _, -, _, -, locked, hlocked, ⟨rfl, -⟩, rfl⟩ := hresult
    have henabled : parsed = .apply → execution_enabled = true := by
      rintro rfl
      simpa using hdisabled
    rw [take_fabric_lock_locks hlocked]
    intro kind name hname
    cases kind with
    | run run_mode =>
      obtain hold | ⟨hmode, hnew⟩ := mem_signers_filter_append hname
      · exact .inl hold
      · obtain rfl := of_decide_eq_true hmode
        exact .inr ⟨.run hparsed henabled, hnew⟩
    | audit => exact (mem_signers_append hname).imp id fun hnew => ⟨.audit, hnew⟩
    | _ => exact .inl hname

theorem transition_run_attributed {run_id actor : String} {new_status : RunStatus} {detail : Value} {row : RunRow}
    (hresult : transition_run platform run_id new_status actor detail ambient store = .ok (row, next)) :
    Attributed store next (.transition_run run_id new_status actor detail) := by
  simp only [transition_run, bind_eq_ok_iff, raise_if_eq_ok, pure_eq_ok_iff, Prod.mk.injEq] at hresult
  obtain ⟨run, -, _, -, -, rfl⟩ := hresult
  intro kind name hname
  cases kind with
  | run mode => exact .inl (mem_signers_filter_update hname (fun _ => rfl) fun _ => rfl)
  | audit => exact (mem_signers_append hname).imp id fun hnew => ⟨.audit, hnew⟩
  | _ => exact .inl hname

theorem complete_apply_attributed {run_id artifact_hash actor : String} {owned_state detail : Value} {row : RunRow}
    (hresult : complete_apply platform run_id artifact_hash owned_state actor detail ambient store = .ok (row, next)) :
    Attributed store next (.complete_apply run_id artifact_hash owned_state actor detail) := by
  simp only [complete_apply, bind_eq_ok_iff, raise_if_eq_ok, pure_eq_ok_iff, Prod.mk.injEq] at hresult
  obtain ⟨_, -, _, -, run, -, _, -, _, -, _, -, _, -, _, -, _, -, -, rfl⟩ := hresult
  intro kind name hname
  cases kind with
  | run mode => exact .inl (mem_signers_filter_update hname (fun _ => rfl) fun _ => rfl)
  | manifest source_type =>
    obtain hold | ⟨hsource, hnew⟩ := mem_signers_filter_append hname
    · exact .inl hold
    · obtain rfl := of_decide_eq_true hsource
      exact .inr ⟨.committed, hnew⟩
  | audit =>
    obtain hname | hnew := mem_signers_append hname
    · exact (mem_signers_append hname).imp id fun hnew => ⟨.audit, hnew⟩
    · exact .inr ⟨.audit, hnew⟩
  | _ => exact .inl hname

theorem transition_reservation_attributed {reservation_id actor : String} {new_state : ReservationState}
    {verified : Bool} {record : ReservationRecord}
    (hresult : transition_design_reservation platform reservation_id new_state actor verified ambient store =
      .ok (record, next)) :
    Attributed store next (.transition_design_reservation reservation_id new_state actor verified) := by
  simp only [transition_design_reservation, bind_eq_ok_iff, raise_if_eq_ok, pure_eq_ok_iff, Prod.mk.injEq] at hresult
  obtain ⟨_, -, row, -, _, -, _, -, -, rfl⟩ := hresult
  intro kind name hname
  cases kind with
  | reservation => exact .inl (mem_signers_update hname fun _ => rfl)
  | audit => exact (mem_signers_append hname).imp id fun hnew => ⟨.audit, hnew⟩
  | _ => exact .inl hname

theorem add_evidence_attributed {run_id phase_id evidence_type actor : String} {payload : Value}
    {device_id : Option String} {row : EvidenceRow}
    (hresult : add_evidence platform run_id phase_id evidence_type payload actor device_id ambient store =
      .ok (row, next)) :
    Attributed store next (.add_evidence run_id phase_id evidence_type payload actor device_id) := by
  simp only [add_evidence, bind_eq_ok_iff, raise_if_eq_ok] at hresult
  obtain ⟨_, -, hresult⟩ := hresult
  split at hresult
  · simp only [pure_eq_ok_iff, Prod.mk.injEq] at hresult
    exact hresult.2 ▸ attributed_refl _
  · simp only [pure_eq_ok_iff, Prod.mk.injEq] at hresult
    obtain ⟨-, rfl⟩ := hresult
    intro kind name hname
    cases kind with
    | evidence => exact (mem_signers_append hname).imp id fun hnew => ⟨.evidence, hnew⟩
    | audit => exact (mem_signers_append hname).imp id fun hnew => ⟨.audit, hnew⟩
    | _ => exact .inl hname

theorem adopt_manifest_attributed {fabric_id evidence_hash change_reference discovered_by approver : String}
    {manifest : Value}
    (hresult : adopt_manifest platform fabric_id manifest evidence_hash change_reference discovered_by approver ambient
      store = .ok next) :
    Attributed store next (.adopt_manifest fabric_id manifest evidence_hash change_reference discovered_by approver) := by
  simp only [adopt_manifest, bind_eq_ok_iff, raise_if_eq_ok] at hresult
  obtain ⟨_, -, _, -, _, -, _, -, _, -, _, -, hresult⟩ := hresult
  split at hresult
  · simp only [bind_eq_ok_iff, raise_if_eq_ok, pure_eq_ok_iff] at hresult
    obtain ⟨-, -, rfl⟩ := hresult
    exact attributed_refl _
  · obtain rfl := pure_eq_ok_iff.mp hresult
    intro kind name hname
    cases kind with
    | manifest source_type =>
      obtain hold | ⟨hsource, hnew⟩ := mem_signers_filter_append hname
      · exact .inl hold
      · obtain rfl := of_decide_eq_true hsource
        exact .inr ⟨.adopted, hnew⟩
    | audit => exact (mem_signers_append hname).imp id fun hnew => ⟨.audit, hnew⟩
    | _ => exact .inl hname

/-- Whatever a transaction writes names its actor. -/
theorem perform_attributed {transaction : Transaction}
    (hstep : perform platform derive_fabric_intent ambient store transaction = .ok next) :
    Attributed store next transaction := by
  cases transaction with
  | save_intent intent actor =>
    obtain ⟨⟨row, created⟩, hvalue⟩ := map_snd_eq_ok_iff.mp hstep
    exact save_intent_attributed hvalue
  | reserve_design requirements policy idempotency_key actor =>
    obtain ⟨⟨record, created⟩, hvalue⟩ := map_snd_eq_ok_iff.mp hstep
    exact reserve_design_attributed hvalue
  | save_plan intent_id plan actor artifact_hash intent_version reservation_id =>
    obtain ⟨⟨row, created⟩, hvalue⟩ := map_snd_eq_ok_iff.mp hstep
    exact save_plan_attributed hvalue
  | record_approval plan_id decision approver change_reference expires_at =>
    obtain ⟨row, hvalue⟩ := map_snd_eq_ok_iff.mp hstep
    exact record_approval_attributed hvalue
  | create_run plan_id mode idempotency_key requested_by execution_enabled maintenance_start maintenance_end
      lock_ttl_seconds =>
    obtain ⟨⟨row, created⟩, hvalue⟩ := map_snd_eq_ok_iff.mp hstep
    exact create_run_attributed hvalue
  | transition_run run_id new_status actor detail =>
    obtain ⟨row, hvalue⟩ := map_snd_eq_ok_iff.mp hstep
    exact transition_run_attributed hvalue
  | complete_apply run_id artifact_hash owned_state actor detail =>
    obtain ⟨row, hvalue⟩ := map_snd_eq_ok_iff.mp hstep
    exact complete_apply_attributed hvalue
  | transition_design_reservation reservation_id new_state actor verified =>
    obtain ⟨record, hvalue⟩ := map_snd_eq_ok_iff.mp hstep
    exact transition_reservation_attributed hvalue
  | add_evidence run_id phase_id evidence_type payload actor device_id =>
    obtain ⟨row, hvalue⟩ := map_snd_eq_ok_iff.mp hstep
    exact add_evidence_attributed hvalue
  | adopt_manifest fabric_id manifest evidence_hash change_reference discovered_by approver =>
    exact adopt_manifest_attributed hstep

end Attributed

end orchestrator.store
