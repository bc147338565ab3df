import Mathlib.Data.List.Induction
import SdaOrchestrator.Store.Valid

open python

namespace orchestrator.store

/-! ## Requests and the rows that answer them -/

/-- The digest under which a request with an idempotency key is stored. -/
def idempotency_key_hash (platform : Platform) (idempotency_key : String) : String :=
  platform.sha256 (chars (strip idempotency_key))

/-- The unique columns in which the tables find a repeated request. -/
structure Keys where
  runs : List String
  intents : List String
  evidence : List String

def Store.keys (store : Store) : Keys where
  runs := store.runs.map RunRow.idempotency_key_hash
  intents := store.intents.map IntentRow.intent_hash
  evidence := store.evidence.map EvidenceRow.evidence_id

def Store.active_reservations (store : Store) : List ReservationRow :=
  store.design_reservations.filter fun row => row.state.active

/-- The request meets a row that it or another request with its key has left: a run in
whatever state it is in, an active reservation, an intent or an evidence row. -/
def Replayed (platform : Platform) (store : Store) : Transaction → Prop
  | .create_run _ _ idempotency_key _ _ _ _ _ =>
    idempotency_key_hash platform idempotency_key ∈ store.keys.runs
  | .reserve_design _ _ idempotency_key _ =>
    idempotency_key_hash platform idempotency_key ∈
      store.active_reservations.map ReservationRow.idempotency_key_hash
  | .save_intent intent _ => platform.sha256_json intent ∈ store.keys.intents
  | .add_evidence run_id phase_id evidence_type payload _ device_id =>
    evidence_id platform run_id phase_id evidence_type (platform.sha256_json payload) device_id ∈
      store.keys.evidence
  | _ => False

/-- The requests whose rows are never withdrawn. -/
def Transaction.kept : Transaction → Bool
  | .create_run .. | .save_intent .. | .add_evidence .. => true
  | _ => false

/-- What a transaction can do to the keys: it leaves them, or it adds the key of its
request, which was not there. -/
inductive KeyEffect (platform : Platform) (store : Store) : Transaction → Keys → Prop where
  | other {transaction : Transaction} (hother : transaction.kept = false) :
      KeyEffect platform store transaction store.keys
  | replay {transaction : Transaction} (hreplayed : Replayed platform store transaction) :
      KeyEffect platform store transaction store.keys
  | run {plan_id mode idempotency_key requested_by : String} {execution_enabled : Bool}
      {maintenance_start maintenance_end : Option String} {lock_ttl_seconds : Int}
      (hnew : idempotency_key_hash platform idempotency_key ∉ store.keys.runs) :
      KeyEffect platform store
        (.create_run plan_id mode idempotency_key requested_by execution_enabled maintenance_start
          maintenance_end lock_ttl_seconds)
        { store.keys with runs := store.keys.runs ++ [idempotency_key_hash platform idempotency_key] }
  | intent {intent : Value} {actor : String} (hnew : platform.sha256_json intent ∉ store.keys.intents) :
      KeyEffect platform store (.save_intent intent actor)
        { store.keys with intents := store.keys.intents ++ [platform.sha256_json intent] }
  | evidence {run_id phase_id evidence_type : String} {payload : Value} {actor : String}
      {device_id : Option String}
      (hnew : evidence_id platform run_id phase_id evidence_type (platform.sha256_json payload) device_id ∉
        store.keys.evidence) :
      KeyEffect platform store (.add_evidence run_id phase_id evidence_type payload actor device_id)
        { store.keys with
          evidence := store.keys.evidence ++
            [evidence_id platform run_id phase_id evidence_type (platform.sha256_json payload) device_id] }

theorem keys_set_run_status {run_id : String} {status : RunStatus} {updated_at : String} {runs : List RunRow} :
    (set_run_status run_id status updated_at runs).map RunRow.idempotency_key_hash =
      runs.map RunRow.idempotency_key_hash := by
  unfold set_run_status table.update
  rw [List.map_map]
  refine List.map_congr_left fun row _ => ?_
  by_cases hid : row.run_id = run_id <;> simp [hid]

theorem mem_keys_of_lookup {α : Type} {key : α → String} {k : String} {rows : List α} {row : α}
    (hlookup : table.lookup key k rows = some row) : k ∈ rows.map key :=
  table.lookup_key hlookup ▸ List.mem_map_of_mem (table.lookup_mem hlookup)

theorem not_mem_keys {α : Type} {key : α → String} {k : String} {rows : List α}
    (hlookup : table.lookup key k rows = none) : k ∉ rows.map key := by
  intro hmem
  obtain ⟨row, hrow, hkey⟩ := List.mem_map.mp hmem
  exact table.lookup_eq_none_iff.mp hlookup row hrow hkey

section Operations

variable {platform : Platform} {derive_fabric_intent : Derive} {ambient : Ambient} {store next : Store}

/-- `save_intent` answers from the intent of its hash or stores one. -/
theorem save_intent_keys {intent : Value} {actor : String} {result : IntentRow × Bool}
    (hresult : save_intent platform intent actor ambient store = .ok (result, next)) :
    Replayed platform store (.save_intent intent actor) ∧ next = store ∨
      platform.sha256_json intent ∉ store.keys.intents ∧ next.keys = { store.keys with
        intents := store.keys.intents ++ [platform.sha256_json intent] } := by
  simp only [save_intent, bind_eq_ok_iff] at hresult
  obtain ⟨_, _, _, _, _, _, _, _, hresult⟩ := hresult
  split at hresult
  · rename_i existing hexisting
    simp only [pure_eq_ok_iff, Prod.mk.injEq] at hresult
    exact .inl ⟨mem_keys_of_lookup hexisting, hresult.2.symm⟩
  · rename_i hnone
    simp only [bind_eq_ok_iff, pure_eq_ok_iff, Prod.mk.injEq] at hresult
    obtain ⟨_, -, -, rfl⟩ := hresult
    refine .inr ⟨not_mem_keys hnone, ?_⟩
    simp [Store.keys, Store._append_audit]

theorem add_evidence_keys {run_id phase_id evidence_type : String} {payload : Value} {actor : String}
    {device_id : Option String} {row : EvidenceRow}
    (hresult : add_evidence platform run_id phase_id evidence_type payload actor device_id ambient store =
      .ok (row, next)) :
    Replayed platform store (.add_evidence run_id phase_id evidence_type payload actor device_id) ∧
        next = store ∨
      evidence_id platform run_id phase_id evidence_type (platform.sha256_json payload) device_id ∉
          store.keys.evidence ∧
        next.keys = { store.keys with
          evidence := store.keys.evidence ++
            [evidence_id platform run_id phase_id evidence_type (platform.sha256_json payload) device_id] } := by
  simp only [add_evidence, bind_eq_ok_iff, raise_if_eq_ok] at hresult
  obtain ⟨_, -, hresult⟩ := hresult
  split at hresult
  · rename_i existing hexisting
    simp only [pure_eq_ok_iff, Prod.mk.injEq] at hresult
    exact .inl ⟨mem_keys_of_lookup hexisting, hresult.2.symm⟩
  · rename_i hnone
    simp only [pure_eq_ok_iff, Prod.mk.injEq] at hresult
    obtain ⟨-, rfl⟩ := hresult
    refine .inr ⟨not_mem_keys hnone, ?_⟩
    simp [Store.keys, Store._append_audit]

theorem create_run_keys {plan_id mode idempotency_key requested_by : String} {execution_enabled : Bool}
    {maintenance_start maintenance_end : Option String} {lock_ttl_seconds : Int} {result : RunRow × Bool}
    (hresult : create_run platform plan_id mode idempotency_key requested_by execution_enabled maintenance_start
      maintenance_end lock_ttl_seconds ambient store = .ok (result, next)) :
    Replayed platform store (.create_run plan_id mode idempotency_key requested_by execution_enabled
        maintenance_start maintenance_end lock_ttl_seconds) ∧ next = store ∨
      idempotency_key_hash platform idempotency_key ∉ store.keys.runs ∧ next.keys = { store.keys with
        runs := store.keys.runs ++ [idempotency_key_hash platform idempotency_key] } := by
  simp only [create_run, bind_eq_ok_iff, raise_if_eq_ok, require_eq_ok] at hresult
  obtain ⟨parsed, -, _, -, _, -, window, -, plan, -, hresult⟩ := hresult
  split at hresult
  · rename_i existing hexisting
    simp only [bind_eq_ok_iff, pure_eq_ok_iff, Prod.mk.injEq] at hresult
    obtain ⟨_, -, -, rfl⟩ := hresult
    exact .inl ⟨mem_keys_of_lookup hexisting, rfl⟩
  · rename_i hnone
    simp only [bind_eq_ok_iff, pure_eq_ok_iff, Prod.mk.injEq] at hresult
    obtain ⟨approval, -, _, -, _, -, _, -, _, -, locked, hlocked, -, rfl⟩ := hresult
    refine .inr ⟨not_mem_keys hnone, ?_⟩
    cases parsed with
    | dry_run =>
      obtain rfl := Except.ok.inj hlocked
      simp [Store.keys, Store._append_audit, idempotency_key_hash]
    | apply =>
      simp only [take_fabric_lock, raise_if_bind_eq_ok_iff, pure_eq_ok_iff] at hlocked
      obtain ⟨-, rfl⟩ := hlocked
      simp [Store.keys, Store._append_audit, idempotency_key_hash]

theorem reserve_design_keys {requirements policy : Value} {idempotency_key actor : String}
    {result : ReservationRecord × Bool}
    (hresult : reserve_design platform derive_fabric_intent requirements policy idempotency_key actor ambient
      store = .ok (result, next)) :
    result.1.row.idempotency_key_hash = idempotency_key_hash platform idempotency_key ∧
      (Replayed platform store (.reserve_design requirements policy idempotency_key actor) → next = store) ∧
      next.keys = store.keys := by
  simp only [reserve_design, bind_eq_ok_iff, raise_if_eq_ok] at hresult
  obtain ⟨_, -, _, -, hresult⟩ := hresult
  split at hresult
  · rename_i existing hexisting
    simp only [bind_eq_ok_iff, pure_eq_ok_iff, Prod.mk.injEq] at hresult
    obtain ⟨_, -, rfl, rfl⟩ := hresult
    have hkey := List.find?_some hexisting
    simp only [decide_eq_true_eq] at hkey
    exact ⟨hkey.1, fun _ => rfl, rfl⟩
  · rename_i hnone
    simp only [bind_eq_ok_iff, pure_eq_ok_iff, Prod.mk.injEq] at hresult
    obtain ⟨_, -, _, -, _, -, rfl, rfl⟩ := hresult
    refine ⟨rfl, fun hreplayed => ?_, by simp [Store.keys, Store._append_audit]⟩
    obtain ⟨row, hrow, hkey⟩ := List.mem_map.mp hreplayed
    obtain ⟨hmem, hactive⟩ := List.mem_filter.mp hrow
    have hinactive := List.find?_eq_none.mp hnone row hmem
    simp only [decide_eq_true_eq, not_and] at hinactive
    exact absurd hactive (hinactive hkey)

theorem save_plan_keys {intent_id : String} {plan : Value} {actor artifact_hash intent_version : String}
    {reservation_id : Option String} {result : PlanRow × Bool}
    (hresult : save_plan platform intent_id plan actor artifact_hash intent_version reservation_id ambient
      store = .ok (result, next)) : next.keys = store.keys := by
  simp only [save_plan, bind_eq_ok_iff, raise_if_eq_ok, require_eq_ok] at hresult
  obtain ⟨_, -, _, -, intent, -, _, -, _, -, _, -, plan_id, -, hresult⟩ := hresult
  split at hresult
  · simp only [save_existing_plan, bind_eq_ok_iff, raise_if_eq_ok] at hresult
    obtain ⟨_, -, hresult⟩ := hresult
    split at hresult
    · simp only [pure_eq_ok_iff, Prod.mk.injEq] at hresult
      rw [hresult.2]
    · simp only [bind_eq_ok_iff, pure_eq_ok_iff, Prod.mk.injEq] at hresult
      obtain ⟨_, -, _, -, _, -, -, rfl⟩ := hresult
      rfl
  · simp only [insert_plan, bind_eq_ok_iff, pure_eq_ok_iff, Prod.mk.injEq] at hresult
    obtain ⟨_, -, _, -, _, -, -, rfl⟩ := hresult
    rfl

/-- Every transaction that commits has one of the effects on the keys. -/
theorem perform_key_effect {transaction : Transaction}
    (hstep : perform platform derive_fabric_intent ambient store transaction = .ok next) :
    KeyEffect platform store transaction next.keys := by
  have hsame {transaction : Transaction} (hother : transaction.kept = false) (hkeys : next.keys = store.keys) :
      KeyEffect platform store transaction next.keys := hkeys ▸ .other hother
  cases transaction with
  | save_intent intent actor =>
    obtain ⟨value, hvalue⟩ := map_snd_eq_ok_iff.mp hstep
    obtain ⟨hreplayed, rfl⟩ | ⟨hnew, hkeys⟩ := save_intent_keys hvalue
    · exact .replay hreplayed
    · rw [hkeys]
      exact .intent hnew
  | reserve_design requirements policy idempotency_key actor =>
    obtain ⟨value, hvalue⟩ := map_snd_eq_ok_iff.mp hstep
    exact hsame rfl (reserve_design_keys hvalue).2.2
  | save_plan intent_id plan actor artifact_hash intent_version reservation_id =>
    obtain ⟨value, hvalue⟩ := map_snd_eq_ok_iff.mp hstep
    exact hsame rfl (save_plan_keys hvalue)
  | record_approval plan_id decision approver change_reference expires_at =>
    obtain ⟨value, hvalue⟩ := map_snd_eq_ok_iff.mp hstep
    simp only [record_approval, bind_eq_ok_iff, raise_if_eq_ok, require_eq_ok, pure_eq_ok_iff,
      Prod.mk.injEq] at hvalue
    obtain ⟨_, _, _, _, _, _, _, _, _, _, _, _, _, _, _, _, _, rfl⟩ := hvalue
    exact hsame rfl rfl
  | create_run plan_id mode idempotency_key requested_by execution_enabled maintenance_start
      maintenance_end lock_ttl_seconds =>
    obtain ⟨value, hvalue⟩ := map_snd_eq_ok_iff.mp hstep
    obtain ⟨hreplayed, rfl⟩ | ⟨hnew, hkeys⟩ := create_run_keys hvalue
    · exact .replay hreplayed
    · rw [hkeys]
      exact .run hnew
  | transition_run run_id new_status actor detail =>
    obtain ⟨value, hvalue⟩ := map_snd_eq_ok_iff.mp hstep
    simp only [transition_run, bind_eq_ok_iff, pure_eq_ok_iff, Prod.mk.injEq] at hvalue
    obtain ⟨_, -, _, -, -, rfl⟩ := hvalue
    exact hsame rfl (by simp [Store.keys, Store._append_audit, keys_set_run_status])
  | complete_apply run_id artifact_hash owned_state actor detail =>
    obtain ⟨value, hvalue⟩ := map_snd_eq_ok_iff.mp hstep
    simp only [complete_apply, bind_eq_ok_iff, raise_if_eq_ok, require_eq_ok, pure_eq_ok_iff,
      Prod.mk.injEq] at hvalue
    obtain ⟨_, -, _, -, _, -, _, -, _, -, _, -, _, -, _, -, _, -, -, rfl⟩ := hvalue
    exact hsame rfl (by simp [Store.keys, Store._append_audit, keys_set_run_status])
  | transition_design_reservation reservation_id new_state actor verified =>
    obtain ⟨value, hvalue⟩ := map_snd_eq_ok_iff.mp hstep
    simp only [transition_design_reservation, bind_eq_ok_iff, raise_if_eq_ok, require_eq_ok,
      pure_eq_ok_iff, Prod.mk.injEq] at hvalue
    obtain ⟨_, -, _, -, _, -, _, -, -, rfl⟩ := hvalue
    exact hsame rfl rfl
  | add_evidence run_id phase_id evidence_type payload actor device_id =>
    obtain ⟨value, hvalue⟩ := map_snd_eq_ok_iff.mp hstep
    obtain ⟨hreplayed, rfl⟩ | ⟨hnew, hkeys⟩ := add_evidence_keys hvalue
    · exact .replay hreplayed
    · rw [hkeys]
      exact .evidence hnew
  | adopt_manifest fabric_id manifest evidence_hash change_reference discovered_by approver =>
    simp only [perform, adopt_manifest, bind_eq_ok_iff, raise_if_eq_ok] at hstep
    obtain ⟨_, -, _, -, _, -, _, -, _, -, _, -, hstep⟩ := hstep
    split at hstep
    · simp only [bind_eq_ok_iff, pure_eq_ok_iff] at hstep
      obtain ⟨_, -, rfl⟩ := hstep
      exact hsame rfl rfl
    · rw [pure_eq_ok_iff] at hstep
      subst hstep
      exact hsame rfl rfl

end Operations

/-! ## One row for each key -/

structure Keys.Unique (keys : Keys) : Prop where
  runs : keys.runs.Nodup
  intents : keys.intents.Nodup
  evidence : keys.evidence.Nodup

/-- No key disappears. -/
structure Keys.Grows (keys keys' : Keys) : Prop where
  runs : keys.runs ⊆ keys'.runs
  intents : keys.intents ⊆ keys'.intents
  evidence : keys.evidence ⊆ keys'.evidence

theorem Keys.Grows.refl (keys : Keys) : keys.Grows keys :=
  ⟨List.Subset.refl _, List.Subset.refl _, List.Subset.refl _⟩

theorem Keys.Grows.trans {first second third : Keys} (h : first.Grows second) (h' : second.Grows third) :
    first.Grows third :=
  ⟨List.Subset.trans h.runs h'.runs, List.Subset.trans h.intents h'.intents,
    List.Subset.trans h.evidence h'.evidence⟩

theorem nodup_concat {keys : List String} {key : String} (hkeys : keys.Nodup) (hnew : key ∉ keys) :
    (keys ++ [key]).Nodup := by
  rw [List.nodup_append]
  refine ⟨hkeys, List.nodup_singleton key, fun old hold added hadded => ?_⟩
  rw [List.mem_singleton.mp hadded]
  exact fun heq => hnew (heq ▸ hold)

section Effects

variable {platform : Platform} {derive_fabric_intent : Derive} {store next : Store} {transaction : Transaction}

theorem KeyEffect.unique {keys : Keys} (heffect : KeyEffect platform store transaction keys)
    (hunique : store.keys.Unique) : keys.Unique := by
  cases heffect with
  | other => exact hunique
  | replay => exact hunique
  | run hnew => exact { hunique with runs := nodup_concat hunique.runs hnew }
  | intent hnew => exact { hunique with intents := nodup_concat hunique.intents hnew }
  | evidence hnew => exact { hunique with evidence := nodup_concat hunique.evidence hnew }

theorem KeyEffect.grows {keys : Keys} (heffect : KeyEffect platform store transaction keys) :
    store.keys.Grows keys := by
  have hgrows := Keys.Grows.refl store.keys
  cases heffect with
  | other => exact hgrows
  | replay => exact hgrows
  | run => exact { hgrows with runs := List.subset_append_left _ _ }
  | intent => exact { hgrows with intents := List.subset_append_left _ _ }
  | evidence => exact { hgrows with evidence := List.subset_append_left _ _ }

/-- A row that is never withdrawn answers its request in every later state. -/
theorem replayed_of_grows (hkept : transaction.kept) (hgrows : store.keys.Grows next.keys)
    (hreplayed : Replayed platform store transaction) : Replayed platform next transaction := by
  cases transaction with
  | create_run => exact hgrows.runs hreplayed
  | save_intent => exact hgrows.intents hreplayed
  | add_evidence => exact hgrows.evidence hreplayed
  | _ => cases hkept

/-- A request that commits is answered from its row from then on. -/
theorem KeyEffect.replayed (heffect : KeyEffect platform store transaction next.keys)
    (hkept : transaction.kept) : Replayed platform next transaction := by
  have hgrows := heffect.grows
  generalize hkeys : next.keys = keys at heffect
  cases heffect with
  | other hother => rw [hother] at hkept; cases hkept
  | replay hreplayed => exact replayed_of_grows hkept hgrows hreplayed
  | run | intent | evidence => simp [Replayed, hkeys]

/-- A request that meets its row changes nothing. -/
theorem called_of_replayed {ambient : Ambient} (hreplayed : Replayed platform store transaction) :
    called platform derive_fabric_intent store (transaction, ambient) = store := by
  obtain hstep | hsame := called_cases platform derive_fabric_intent store (transaction, ambient)
  · generalize called platform derive_fabric_intent store (transaction, ambient) = next at hstep ⊢
    cases transaction with
    | save_intent intent actor =>
      obtain ⟨value, hvalue⟩ := map_snd_eq_ok_iff.mp hstep
      obtain ⟨-, hsame⟩ | ⟨hnew, -⟩ := save_intent_keys hvalue
      · exact hsame
      · exact absurd hreplayed hnew
    | reserve_design requirements policy idempotency_key actor =>
      obtain ⟨value, hvalue⟩ := map_snd_eq_ok_iff.mp hstep
      exact (reserve_design_keys hvalue).2.1 hreplayed
    | create_run plan_id mode idempotency_key requested_by execution_enabled maintenance_start
        maintenance_end lock_ttl_seconds =>
      obtain ⟨value, hvalue⟩ := map_snd_eq_ok_iff.mp hstep
      obtain ⟨-, hsame⟩ | ⟨hnew, -⟩ := create_run_keys hvalue
      · exact hsame
      · exact absurd hreplayed hnew
    | add_evidence run_id phase_id evidence_type payload actor device_id =>
      obtain ⟨value, hvalue⟩ := map_snd_eq_ok_iff.mp hstep
      obtain ⟨-, hsame⟩ | ⟨hnew, -⟩ := add_evidence_keys hvalue
      · exact hsame
      · exact absurd hreplayed hnew
    | _ => exact hreplayed.elim
  · exact hsame

end Effects

/-! ## One active reservation for each key -/

/-- The columns under which a reservation is found and answers its request. -/
def ReservationRow.identity (row : ReservationRow) : String × String :=
  (row.reservation_id, row.idempotency_key_hash)

theorem identity_set_reservation_state {reservation_id : String} {state : ReservationState} {updated_at : String}
    {rows : List ReservationRow} :
    (set_reservation_state reservation_id state updated_at rows).map ReservationRow.identity =
      rows.map ReservationRow.identity := by
  unfold set_reservation_state table.update
  rw [List.map_map]
  refine List.map_congr_left fun row _ => ?_
  by_cases hid : row.reservation_id = reservation_id <;> simp [hid, ReservationRow.identity]

theorem effect_identities {derive_fabric_intent : Derive} {store : Store} {transaction : Transaction}
    {tables : CoreTables} (heffect : Effect derive_fabric_intent store transaction tables) :
    store.design_reservations.map ReservationRow.identity <+:
      tables.design_reservations.map ReservationRow.identity := by
  cases heffect with
  | reserve => simp
  | move => exact identity_set_reservation_state.symm ▸ List.prefix_rfl
  | _ => exact List.prefix_rfl

/-- Only an active reservation changes its state. -/
theorem active_of_allowed {source target : ReservationState}
    (hallowed : target ∈ transition_design_reservation.allowed source) : source.active := by
  cases source with
  | released => simp [transition_design_reservation.allowed] at hallowed
  | _ => rfl

/-- Rows of which some cease to be active leave a part of the keys. -/
theorem active_keys_sublist {change : ReservationRow → ReservationRow} {rows : List ReservationRow}
    (hkey : ∀ row, (change row).idempotency_key_hash = row.idempotency_key_hash)
    (hactive : ∀ row ∈ rows, (change row).state.active → row.state.active) :
    (((rows.map change).filter fun row => row.state.active).map ReservationRow.idempotency_key_hash).Sublist
      ((rows.filter fun row => row.state.active).map ReservationRow.idempotency_key_hash) := by
  induction rows with
  | nil => exact List.Sublist.slnil
  | cons row rest ih =>
    rw [List.forall_mem_cons] at hactive
    have hrest := ih hactive.2
    rw [List.map_cons, List.filter_cons, List.filter_cons]
    by_cases hchanged : (change row).state.active
    · rw [if_pos hchanged, if_pos (hactive.1 hchanged), List.map_cons, List.map_cons, hkey]
      exact hrest.cons_cons _
    · rw [if_neg hchanged]
      split
      · exact hrest.cons _
      · exact hrest

theorem effect_active_keys {derive_fabric_intent : Derive} {store : Store} {transaction : Transaction}
    {tables : CoreTables} (hvalid : store.core.Valid)
    (heffect : Effect derive_fabric_intent store transaction tables)
    (hunique : (store.active_reservations.map ReservationRow.idempotency_key_hash).Nodup) :
    ((tables.design_reservations.filter fun row => row.state.active).map
      ReservationRow.idempotency_key_hash).Nodup := by
  cases heffect with
  | @reserve _ _ _ _ row _ hnew =>
    have hactive : row.state.active := by rw [hnew.reserved]; rfl
    rw [List.filter_append, List.filter_singleton, hactive, cond_true, List.map_append, List.map_singleton]
    refine nodup_concat hunique fun hmem => ?_
    obtain ⟨other, hother, hkey⟩ := List.mem_map.mp hmem
    obtain ⟨hrow, hother_active⟩ := List.mem_filter.mp hother
    rw [hnew.unreserved_key other hrow hkey] at hother_active
    cases hother_active
  | @move reservation_id new_state _ _ found updated_at hfind hallowed =>
    refine hunique.sublist (active_keys_sublist (fun row => by split <;> rfl) fun row hrow hchanged => ?_)
    split at hchanged
    · rename_i hid
      -- the row under this id is the one whose state allowed the change
      have hfound : table.lookup ReservationRow.reservation_id row.reservation_id store.design_reservations =
          some row := table.lookup_of_mem hvalid.reservation_ids hrow
      have hlookup : table.lookup ReservationRow.reservation_id reservation_id store.design_reservations =
          some found := hfind
      rw [hid, hlookup] at hfound
      obtain rfl := Option.some.inj hfound
      exact active_of_allowed hallowed
    · exact hchanged
  | _ => exact hunique

/-! ## Whole sequences -/

section Calls

variable {platform : Platform} {derive_fabric_intent : Derive}

theorem keys_called (store : Store) (call : Transaction × Ambient) :
    KeyEffect platform store call.1 (called platform derive_fabric_intent store call).keys ∨
      called platform derive_fabric_intent store call = store :=
  (called_cases platform derive_fabric_intent store call).imp_left perform_key_effect

theorem keys_unique (calls : List (Transaction × Ambient)) :
    (after_calls platform derive_fabric_intent calls).keys.Unique := by
  induction calls using List.reverseRecOn with
  | nil => exact ⟨List.nodup_nil, List.nodup_nil, List.nodup_nil⟩
  | append_singleton calls call ih =>
    rw [after_calls_concat]
    obtain heffect | hsame := @keys_called platform derive_fabric_intent
      (after_calls platform derive_fabric_intent calls) call
    · exact heffect.unique ih
    · rw [hsame]
      exact ih

theorem keys_grow (before rest : List (Transaction × Ambient)) :
    (after_calls platform derive_fabric_intent before).keys.Grows
      (after_calls platform derive_fabric_intent (before ++ rest)).keys := by
  induction rest using List.reverseRecOn with
  | nil => rw [List.append_nil]; exact Keys.Grows.refl _
  | append_singleton rest call ih =>
    rw [← List.append_assoc, after_calls_concat]
    obtain heffect | hsame := @keys_called platform derive_fabric_intent
      (after_calls platform derive_fabric_intent (before ++ rest)) call
    · exact ih.trans heffect.grows
    · rw [hsame]
      exact ih

theorem valid_after_calls (calls : List (Transaction × Ambient)) :
    (after_calls platform derive_fabric_intent calls).core.Valid := by
  induction calls using List.reverseRecOn with
  | nil => exact empty_valid
  | append_singleton calls call ih =>
    rw [after_calls_concat]
    obtain hstep | hsame := called_cases platform derive_fabric_intent
      (after_calls platform derive_fabric_intent calls) call
    · exact step_valid ih hstep
    · rw [hsame]
      exact ih

theorem active_keys_unique (calls : List (Transaction × Ambient)) :
    ((after_calls platform derive_fabric_intent calls).active_reservations.map
      ReservationRow.idempotency_key_hash).Nodup := by
  induction calls using List.reverseRecOn with
  | nil => exact List.nodup_nil
  | append_singleton calls call ih =>
    rw [after_calls_concat]
    obtain hstep | hsame := called_cases platform derive_fabric_intent
      (after_calls platform derive_fabric_intent calls) call
    · exact effect_active_keys (valid_after_calls calls) (perform_effect hstep) ih
    · rw [hsame]
      exact ih

theorem identities_grow (before rest : List (Transaction × Ambient)) :
    (after_calls platform derive_fabric_intent before).design_reservations.map ReservationRow.identity <+:
      (after_calls platform derive_fabric_intent (before ++ rest)).design_reservations.map
        ReservationRow.identity := by
  induction rest using List.reverseRecOn with
  | nil => rw [List.append_nil]
  | append_singleton rest call ih =>
    rw [← List.append_assoc, after_calls_concat]
    obtain hstep | hsame := called_cases platform derive_fabric_intent
      (after_calls platform derive_fabric_intent (before ++ rest)) call
    · exact ih.trans (effect_identities (perform_effect hstep))
    · rw [hsame]
      exact ih

/-- The reservation that a committed request was answered with. -/
theorem reserved_row {requirements policy : Value} {idempotency_key actor : String} {ambient : Ambient}
    {store next : Store} {result : ReservationRecord × Bool} (hvalid : store.core.Valid)
    (hresult : reserve_design platform derive_fabric_intent requirements policy idempotency_key actor ambient
      store = .ok (result, next)) :
    next.find_reservation result.1.row.reservation_id = some result.1.row := by
  obtain ⟨rfl, hrow, -⟩ | ⟨derived, hnew, hcore⟩ := reserve_design_core hresult
  · exact table.lookup_of_mem hvalid.reservation_ids hrow
  · have hrows : next.design_reservations = store.design_reservations ++ [result.1.row] :=
      congrArg CoreTables.design_reservations hcore
    rw [Store.find_reservation, hrows]
    exact (table.lookup_append_fresh hnew.fresh).mpr (.inr ⟨rfl, rfl⟩)

end Calls

/-- What retries leave: one row for each key, and a repeated request changes no table
once its row is there. -/
structure ExactlyOnce (platform : Platform) (derive_fabric_intent : Derive)
    (calls : List (Transaction × Ambient)) : Prop where
  runs : ((after_calls platform derive_fabric_intent calls).runs.map RunRow.idempotency_key_hash).Nodup
  reservations : ((after_calls platform derive_fabric_intent calls).active_reservations.map
    ReservationRow.idempotency_key_hash).Nodup
  intents : ((after_calls platform derive_fabric_intent calls).intents.map IntentRow.intent_hash).Nodup
  evidence : ((after_calls platform derive_fabric_intent calls).evidence.map EvidenceRow.evidence_id).Nodup
  /-- A request that meets its row leaves the whole store as it is. -/
  unchanged : ∀ transaction ambient,
    Replayed platform (after_calls platform derive_fabric_intent calls) transaction →
      called platform derive_fabric_intent (after_calls platform derive_fabric_intent calls)
        (transaction, ambient) = after_calls platform derive_fabric_intent calls
  /-- A committed `create_run`, `save_intent` or `add_evidence` meets its row ever after. -/
  repeated : ∀ before call rest next, calls = before ++ call :: rest → call.1.kept →
    perform platform derive_fabric_intent call.2 (after_calls platform derive_fabric_intent before) call.1 =
      .ok next → Replayed platform (after_calls platform derive_fabric_intent calls) call.1
  /-- A committed `reserve_design` meets its row while that reservation is active. -/
  reserved : ∀ before requirements policy idempotency_key actor ambient rest result next,
    calls = before ++ (.reserve_design requirements policy idempotency_key actor, ambient) :: rest →
    reserve_design platform derive_fabric_intent requirements policy idempotency_key actor ambient
      (after_calls platform derive_fabric_intent before) = .ok (result, next) →
    ∀ row, (after_calls platform derive_fabric_intent calls).find_reservation
        result.1.row.reservation_id = some row → row.state.active →
      Replayed platform (after_calls platform derive_fabric_intent calls)
        (.reserve_design requirements policy idempotency_key actor)

/-- Retries are harmless after every sequence of calls. -/
theorem exactly_once (platform : Platform) (derive_fabric_intent : Derive)
    (calls : List (Transaction × Ambient)) : ExactlyOnce platform derive_fabric_intent calls where
  runs := (keys_unique calls).runs
  reservations := active_keys_unique calls
  intents := (keys_unique calls).intents
  evidence := (keys_unique calls).evidence
  unchanged _ _ hreplayed := called_of_replayed hreplayed
  repeated := by
    rintro before call rest next rfl hkept hstep
    have hcalled : called platform derive_fabric_intent (after_calls platform derive_fabric_intent before) call =
        next := by rw [called, hstep]
    have hnext : after_calls platform derive_fabric_intent (before ++ [call]) = next := by
      rw [after_calls_concat, hcalled]
    have hreplayed : Replayed platform next call.1 := (perform_key_effect hstep).replayed hkept
    have hgrows := @keys_grow platform derive_fabric_intent (before ++ [call]) rest
    rw [List.append_assoc, List.singleton_append, hnext] at hgrows
    exact replayed_of_grows hkept hgrows hreplayed
  reserved := by
    rintro before requirements policy idempotency_key actor ambient rest result next rfl hresult row hrow hactive
    have hcalled : called platform derive_fabric_intent (after_calls platform derive_fabric_intent before)
        (.reserve_design requirements policy idempotency_key actor, ambient) = next := by
      simp [called, perform, hresult, Except.map]
    have hnext : after_calls platform derive_fabric_intent
        (before ++ [(.reserve_design requirements policy idempotency_key actor, ambient)]) = next := by
      rw [after_calls_concat, hcalled]
    have hgrows := @identities_grow platform derive_fabric_intent
      (before ++ [(.reserve_design requirements policy idempotency_key actor, ambient)]) rest
    rw [List.append_assoc, List.singleton_append, hnext] at hgrows
    obtain ⟨kept, hkept, hidentity⟩ := table.lookup_of_grows ReservationRow.identity Prod.fst (fun _ => rfl) hgrows
      (reserved_row (valid_after_calls before) hresult)
    obtain rfl : row = kept := Option.some.inj (hrow.symm.trans hkept)
    have hkey : row.idempotency_key_hash = idempotency_key_hash platform idempotency_key :=
      (congrArg Prod.snd hidentity).trans (reserve_design_keys hresult).1
    have hmem : row ∈ (after_calls platform derive_fabric_intent
        (before ++ (.reserve_design requirements policy idempotency_key actor, ambient) :: rest)).active_reservations :=
      List.mem_filter.mpr ⟨table.lookup_mem hkept, hactive⟩
    rw [Replayed, ← hkey]
    exact List.mem_map_of_mem hmem

end orchestrator.store
