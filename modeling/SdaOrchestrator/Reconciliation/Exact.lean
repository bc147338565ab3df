import SdaOrchestrator.Reconciliation.Manifest
import SdaOrchestrator.Store.Cpython

open python orchestrator.store

namespace orchestrator.reconciliation

open orchestrator.intent orchestrator.renderer

/-! ## Lists under keys -/

section Lists

variable {α β κ : Type} [DecidableEq κ] {f : α → κ} {items : List α}

theorem filter_key_of_mem (hnodup : (items.map f).Nodup) {item : α} (hitem : item ∈ items) :
    items.filter (fun other => f other = f item) = [item] := by
  induction items with
  | nil => cases hitem
  | cons first rest ih =>
    rw [List.map_cons, List.nodup_cons] at hnodup
    rcases List.mem_cons.mp hitem with rfl | hrest
    · rw [List.filter_cons_of_pos (by simp), List.filter_eq_nil_iff.mpr]
      intro other hother
      have hne : f other ≠ f item := fun hsame => hnodup.1 (hsame ▸ List.mem_map_of_mem hother)
      simpa using hne
    · have hne : f first ≠ f item := fun hsame => hnodup.1 (hsame ▸ List.mem_map_of_mem hrest)
      rw [List.filter_cons_of_neg (by simpa using hne), ih hnodup.2 hrest]

theorem filter_key_of_not_mem {key : κ} (hmissing : key ∉ items.map f) :
    items.filter (fun other => f other = key) = [] := by
  rw [List.filter_eq_nil_iff]
  intro other hother
  have hne : f other ≠ key := fun hsame => hmissing (hsame ▸ List.mem_map_of_mem hother)
  simpa using hne

/-- What keeps the keys keeps the choice by a key. -/
theorem forall₂_filter_key {g : β → κ} {R : α → β → Prop} {others : List β}
    (hall : List.Forall₂ R items others) (hkeys : ∀ item other, R item other → g other = f item)
    (key : κ) :
    List.Forall₂ R (items.filter fun item => f item = key) (others.filter fun other => g other = key) := by
  refine List.rel_filter (fun item other hrel => ?_) hall
  show decide (f item = key) = true ↔ decide (g other = key) = true
  rw [hkeys item other hrel]

theorem flatten_ite_singleton {p : α → Bool} :
    (items.map fun item => if p item then [item] else []).flatten = items.filter p := by
  induction items with
  | nil => rfl
  | cons item rest ih =>
    rw [List.map_cons, List.flatten_cons, ih, List.filter_cons]
    split <;> rfl

end Lists

/-! ## The stale resources -/

/-- The baseline owns the resource; the current manifest lacks it or holds it in another state. -/
def Stale (previous current : Value) (device_id key : String) (item : Value) : Prop :=
  Owns previous device_id key item ∧
    ∀ other, Owns current device_id key other → ∀ old new, item.item "state_hash" = .ok old →
      other.item "state_hash" = .ok new → old.toStr ≠ new.toStr

/-- `int(item.get("remove_order", 0))`. -/
def remove_order (item : Value) : Py Int := do
  (← item.getD "remove_order" (.int 0)).toInt

/-- Where an order of removal is given, it is an integer. -/
def IntegerOrders (manifest : Value) : Prop :=
  ∀ device_id key item order, Owns manifest device_id key item → item.item "remove_order" = .ok order →
    ∃ n, order = .int n

/-- The resources of a manifest that are looked at. -/
structure Listed (manifest : Value) (found : List Keyed) : Prop where
  nodup : (found.map Prod.fst).Nodup
  owns : ∀ device_id key item, ((device_id, key), item) ∈ found ↔ Owns manifest device_id key item
  states : ∀ entry ∈ found, ∃ digest, entry.2.item "state_hash" = .ok digest

namespace Listed

variable {previous current : Value} {previous_resources current_resources : List Keyed}
  (hprevious : Listed previous previous_resources) (hcurrent : Listed current current_resources)

include hprevious hcurrent

theorem is_stale_of_mem {entry : Keyed} (hentry : entry ∈ previous_resources) :
    ∃ stale, is_stale current_resources entry = .ok stale ∧
      (stale = true ↔ Stale previous current entry.1.1 entry.1.2 entry.2) := by
  obtain ⟨⟨device_id, key⟩, item⟩ := entry
  have howns := (hprevious.owns device_id key item).mp hentry
  obtain ⟨old, hold⟩ := hprevious.states _ hentry
  simp only [is_stale]
  cases hlookup : assoc.lookup (device_id, key) current_resources with
  | none =>
    refine ⟨true, rfl, fun _ => ⟨howns, fun other hother => ?_⟩, fun _ => rfl⟩
    have hmem := (hcurrent.owns device_id key other).mpr hother
    rw [assoc.lookup_of_mem hcurrent.nodup hmem] at hlookup
    cases hlookup
  | some other =>
    have hmem := assoc.lookup_mem hlookup
    obtain ⟨new, hnew⟩ := hcurrent.states _ hmem
    simp only [hnew, hold]
    refine ⟨decide (new.toStr ≠ old.toStr), rfl, ?_⟩
    rw [decide_eq_true_eq]
    constructor
    · intro hne
      refine ⟨howns, fun another hanother first second hfirst hsecond => ?_⟩
      have hsame := assoc.lookup_of_mem hcurrent.nodup ((hcurrent.owns device_id key another).mpr hanother)
      obtain rfl := Option.some.inj (hsame.symm.trans hlookup)
      obtain rfl := Except.ok.inj (hfirst.symm.trans hold)
      obtain rfl := Except.ok.inj (hsecond.symm.trans hnew)
      exact hne.symm
    · rintro ⟨-, hdifferent⟩
      exact (hdifferent other ((hcurrent.owns device_id key other).mp hmem) old new hold hnew).symm

/-- The stale resources are computed, each once. -/
theorem stale_resources_ok :
    ∃ stale, stale_resources previous_resources current_resources = .ok stale ∧
      (stale.map Prod.fst).Nodup ∧
      ∀ device_id key item, ((device_id, key), item) ∈ stale ↔ Stale previous current device_id key item := by
  let stale (entry : Keyed) : Bool := (is_stale current_resources entry).toOption.getD false
  have hstale {entry : Keyed} (hentry : entry ∈ previous_resources) :
      is_stale current_resources entry = .ok (stale entry) ∧
        (stale entry = true ↔ Stale previous current entry.1.1 entry.1.2 entry.2) := by
    obtain ⟨found, hfound, hiff⟩ := hprevious.is_stale_of_mem hcurrent hentry
    have hsame : stale entry = found := by
      simp only [stale, hfound]
      rfl
    rw [hsame]
    exact ⟨hfound, hiff⟩
  refine ⟨previous_resources.filter stale, ?_, ?_, fun device_id key item => ?_⟩
  · have hmapM : (previous_resources.mapM fun entry => do
        return if ← is_stale current_resources entry then [entry] else [] : Py (List (List Keyed))) =
          .ok (previous_resources.map fun entry => if stale entry then [entry] else []) := by
      refine mapM_of_ok fun entry hentry => ?_
      rw [(hstale hentry).1]
      rfl
    rw [stale_resources, collect, hmapM]
    exact congrArg Except.ok flatten_ite_singleton
  · exact hprevious.nodup.sublist ((List.filter_sublist).map _)
  · rw [List.mem_filter]
    constructor
    · rintro ⟨hmem, htrue⟩
      exact (hstale hmem).2.mp htrue
    · intro hdifferent
      have hmem := (hprevious.owns device_id key item).mpr hdifferent.1
      exact ⟨hmem, (hstale hmem).2.mpr hdifferent⟩

end Listed

/-! ## Their order -/

theorem remove_order_ok {manifest : Value} (horders : IntegerOrders manifest) {device_id key : String}
    {item : Value} (howns : Owns manifest device_id key item) : ∃ order, remove_order item = .ok order := by
  obtain ⟨_, _, _, _, -, -, -, -, hkey, -⟩ := id howns
  cases item with
  | dict fields =>
    have hread : remove_order (.dict fields) =
        ((assoc.lookup "remove_order" fields).getD (.int 0)).toInt := rfl
    rw [hread]
    cases hlookup : assoc.lookup "remove_order" fields with
    | none => exact ⟨0, rfl⟩
    | some order =>
      obtain ⟨n, rfl⟩ := horders device_id key (.dict fields) order howns (item_of_lookup hlookup)
      exact ⟨n, rfl⟩
  | _ => cases hkey

/-- The stale resources of a device are removed in an order that does not rise. -/
structure Ordered (stale ordered : List Keyed) : Prop where
  perm : ordered.Perm stale
  falls : ∀ device_id, (ordered.filter (·.1.1 = device_id)).Pairwise fun first second =>
    ∀ order other, remove_order first.2 = .ok order → remove_order second.2 = .ok other → other ≤ order

theorem sorted_stale_ok {stale : List Keyed}
    (horders : ∀ entry ∈ stale, ∃ order, remove_order entry.2 = .ok order) :
    ∃ ordered, sorted_stale stale = .ok ordered ∧ Ordered stale ordered := by
  let order (entry : Keyed) : Int := (remove_order entry.2).toOption.getD 0
  have horder {entry : Keyed} (hentry : entry ∈ stale) : remove_order entry.2 = .ok (order entry) := by
    obtain ⟨found, hfound⟩ := horders entry hentry
    simp only [order, hfound]
    rfl
  have hranked : (stale.mapM fun entry => do
      return (← (← entry.2.getD "remove_order" (.int 0)).toInt, entry) : Py (List (Int × Keyed))) =
        .ok (stale.map fun entry => (order entry, entry)) := by
    refine mapM_of_ok fun entry hentry => ?_
    have hread := horder hentry
    simp only [remove_order, bind_eq_ok_iff] at hread ⊢
    obtain ⟨value, hvalue, hint⟩ := hread
    exact ⟨value, hvalue, order entry, hint, rfl⟩
  let ranked := sortedBy (fun (ranked : Int × Keyed) =>
    toLex (ranked.2.1.1, toLex (-ranked.1, ranked.2.1.2))) (stale.map fun entry => (order entry, entry))
  have hperm : ranked.Perm (stale.map fun entry => (order entry, entry)) := List.perm_insertionSort _ _
  have hsorted : ranked.Pairwise fun first second =>
      toLex (first.2.1.1, toLex (-first.1, first.2.1.2)) ≤
        toLex (second.2.1.1, toLex (-second.1, second.2.1.2)) := by
    exact pairwise_sortedBy _ _
  have hrank {pair : Int × Keyed} (hpair : pair ∈ ranked) : remove_order pair.2.2 = .ok pair.1 := by
    obtain ⟨entry, hentry, rfl⟩ := List.mem_map.mp (hperm.mem_iff.mp hpair)
    exact horder hentry
  refine ⟨ranked.map Prod.snd, ?_, ?_, ?_⟩
  · rw [sorted_stale, hranked]
    rfl
  · have hsnd := hperm.map Prod.snd
    rw [List.map_map] at hsnd
    exact hsnd.trans (List.Perm.of_eq (List.map_id stale))
  · intro device_id
    rw [List.pairwise_filter, List.pairwise_map]
    refine hsorted.imp_of_mem fun {first second} hfirst hsecond hle howner hother order other hread hlast => ?_
    obtain rfl := Except.ok.inj ((hrank hfirst).symm.trans hread)
    obtain rfl := Except.ok.inj ((hrank hsecond).symm.trans hlast)
    have hsame : first.2.1.1 = second.2.1.1 :=
      (of_decide_eq_true howner).trans (of_decide_eq_true hother).symm
    rw [Prod.Lex.toLex_le_toLex] at hle
    rcases hle with hlt | ⟨-, hle⟩
    · exact absurd hlt (hsame ▸ lt_irrefl _)
    · rw [Prod.Lex.toLex_le_toLex] at hle
      rcases hle with hlt | ⟨heq, -⟩
      · exact (neg_lt_neg_iff.mp hlt).le
      · exact (neg_inj.mp heq).ge

/-! ## What is emitted -/

/-- The removal blocks emitted for a device and a key. -/
def removals (devices : List (String × ReconciledDevice)) (device_id key : String) : List Block :=
  (devices.filter (·.1 = device_id)).flatMap fun entry =>
    entry.2.blocks.filter (·.owned_resource_key = some key)

/-- The absence gates emitted for a device and a key. -/
def absences (devices : List (String × ReconciledDevice)) (device_id key : String) : List Gate :=
  (devices.filter (·.1 = device_id)).flatMap fun entry =>
    entry.2.gates.filter (·.owned_resource_key = some key)

/-- The block runs the removal commands of the resource. -/
def Removes (item : Value) (block : Block) : Prop :=
  ∃ commands, item.item "remove_commands" = .ok (.list commands) ∧
    block.commands = commands.map Value.toStr

/-- The gate checks on the device that the forbidden lines of the resource are absent. -/
def Absent (device_id : String) (item : Value) (gate : Gate) : Prop :=
  gate.device_id = device_id ∧ gate.evaluator = "config_lines_absent" ∧ gate.blocking = true ∧
    ∃ lines, item.item "forbidden_lines" = .ok (.list lines) ∧ gate.expected = [("lines", .list lines)]

/-- What is emitted is what the difference of two manifests asks for. -/
structure Exact (previous current : Value) (devices : List (String × ReconciledDevice)) : Prop where
  stale : ∀ device_id key item, Stale previous current device_id key item →
    (∃ block, removals devices device_id key = [block] ∧ Removes item block) ∧
      ∃ gate, absences devices device_id key = [gate] ∧ Absent device_id item gate
  kept : ∀ device_id key, (∀ item, ¬Stale previous current device_id key item) →
    removals devices device_id key = [] ∧ absences devices device_id key = []
  owned : ∀ entry ∈ devices,
    (∀ block ∈ entry.2.blocks, ∃ key item, block.owned_resource_key = some key ∧
      Stale previous current entry.1 key item ∧ Removes item block) ∧
      ∀ gate ∈ entry.2.gates, ∃ key item, gate.owned_resource_key = some key ∧
        Stale previous current entry.1 key item ∧ Absent entry.1 item gate
  falls : ∀ entry ∈ devices, entry.2.blocks.Pairwise fun first second => ∀ key other item another order last,
    first.owned_resource_key = some key → Owns previous entry.1 key item → remove_order item = .ok order →
      second.owned_resource_key = some other → Owns previous entry.1 other another →
        remove_order another = .ok last → last ≤ order
  unchanged : previous = current → devices = []

section Emitted

variable {platform : Platform} {previous current : Value} {stale ordered : List Keyed}
  {devices : List (String × ReconciledDevice)}

theorem removal_block_eq_ok {entry : Keyed} {block : Block}
    (hok : removal_block platform entry = .ok block) (hlists : ∃ commands,
      entry.2.item "remove_commands" = .ok (.list commands)) :
    block.owned_resource_key = some entry.1.2 ∧ Removes entry.2 block := by
  obtain ⟨⟨device_id, key⟩, item⟩ := entry
  obtain ⟨commands, hcommands⟩ := hlists
  simp only [removal_block, bind_eq_ok_iff, pure_eq_ok_iff] at hok
  obtain ⟨found, hfound, elements, helements, _, -, rfl⟩ := hok
  obtain rfl := Except.ok.inj (hcommands.symm.trans hfound)
  obtain rfl := Except.ok.inj helements
  exact ⟨rfl, commands, hcommands, rfl⟩

theorem absence_gate_eq_ok {entry : Keyed} {gate : Gate}
    (hok : absence_gate platform entry = .ok gate) (hlists : ∃ lines,
      entry.2.item "forbidden_lines" = .ok (.list lines)) :
    gate.owned_resource_key = some entry.1.2 ∧ Absent entry.1.1 entry.2 gate := by
  obtain ⟨⟨device_id, key⟩, item⟩ := entry
  obtain ⟨lines, hlines⟩ := hlists
  simp only [absence_gate, bind_eq_ok_iff, pure_eq_ok_iff] at hok
  obtain ⟨found, hfound, elements, helements, _, -, rfl⟩ := hok
  obtain rfl := Except.ok.inj (hlines.symm.trans hfound)
  obtain rfl := Except.ok.inj helements
  exact ⟨rfl, rfl, rfl, rfl, lines, hlines, rfl⟩

/-- What a device gets is made of its own stale resources, one by one. -/
structure MadeOf (platform : Platform) (ordered : List Keyed) (entry : String × ReconciledDevice) : Prop where
  blocks : List.Forall₂ (fun resource block => removal_block platform resource = .ok block)
    (ordered.filter (·.1.1 = entry.1)) entry.2.blocks
  gates : List.Forall₂ (fun resource gate => absence_gate platform resource = .ok gate)
    (ordered.filter (·.1.1 = entry.1)) entry.2.gates

theorem made_of_reconciled {device_id : String} {entry : String × ReconciledDevice}
    (hok : reconciled_device platform previous ordered device_id = .ok entry) :
    entry.1 = device_id ∧ MadeOf platform ordered entry := by
  simp only [reconciled_device, bind_eq_ok_iff, pure_eq_ok_iff] at hok
  obtain ⟨_, -, _, -, _, -, _, -, blocks, hblocks, gates, hgates, rfl⟩ := hok
  exact ⟨rfl, mapM_eq_ok_iff.mp hblocks, mapM_eq_ok_iff.mp hgates⟩

theorem reconciled_device_ok (hfields : ∀ entry ∈ ordered, ResourceFields entry.2 entry.1.2)
    {device_id : String} {listed device : Value} {fields : List (String × Value)}
    (hlisted : previous.item "devices" = .ok listed) (hdevice : listed.item device_id = .ok device)
    (hdescriptor : device.item "device" = .ok (.dict fields)) :
    ∃ entry, reconciled_device platform previous ordered device_id = .ok entry := by
  let own := ordered.filter (·.1.1 = device_id)
  have hblocks : ∃ blocks, own.mapM (removal_block platform) = .ok blocks := by
    refine mapM_ok_of_forall fun entry hentry => ?_
    have hresource := hfields entry (List.mem_of_mem_filter hentry)
    obtain ⟨commands, hcommands⟩ := hresource.remove_commands
    obtain ⟨digest, hdigest⟩ := hresource.remove_command_hash
    obtain ⟨⟨device_id, key⟩, item⟩ := entry
    simp only [removal_block, hcommands, hdigest]
    exact ⟨_, rfl⟩
  have hgates : ∃ gates, own.mapM (absence_gate platform) = .ok gates := by
    refine mapM_ok_of_forall fun entry hentry => ?_
    have hresource := hfields entry (List.mem_of_mem_filter hentry)
    obtain ⟨lines, hlines⟩ := hresource.forbidden_lines
    obtain ⟨command, hcommand⟩ := hresource.gate_command
    obtain ⟨⟨device_id, key⟩, item⟩ := entry
    simp only [absence_gate, hlines, hcommand]
    exact ⟨_, rfl⟩
  obtain ⟨blocks, hblocks⟩ := hblocks
  obtain ⟨gates, hgates⟩ := hgates
  refine ⟨(device_id, ⟨assoc.distinct fields, blocks, gates⟩), ?_⟩
  simp only [reconciled_device, bind_eq_ok_iff, pure_eq_ok_iff]
  exact ⟨listed, hlisted, device, hdevice, .dict fields, hdescriptor, _, rfl, blocks, hblocks, gates,
    hgates, rfl⟩

section Keys

variable {β : Type} (part : ReconciledDevice → List β) (key_of : β → Option String) {R : Keyed → β → Prop}

/-- What is emitted for a device and a key is made of the stale resources under them. -/
theorem emitted_of_parts (hids : (devices.map Prod.fst).Nodup)
    (hlisted : ∀ entry ∈ ordered, entry.1.1 ∈ devices.map Prod.fst)
    (hparts : ∀ entry ∈ devices, List.Forall₂ R (ordered.filter (·.1.1 = entry.1)) (part entry.2))
    (hkeys : ∀ entry item, R entry item → key_of item = some entry.1.2) (device_id key : String) :
    List.Forall₂ R (ordered.filter (·.1 = (device_id, key)))
      ((devices.filter (·.1 = device_id)).flatMap fun entry =>
        (part entry.2).filter (key_of · = some key)) := by
  have hsplit : ordered.filter (·.1 = (device_id, key)) =
      (ordered.filter (·.1.1 = device_id)).filter fun entry => some entry.1.2 = some key := by
    rw [List.filter_filter]
    refine List.filter_congr fun entry _ => ?_
    simp [Prod.ext_iff, Bool.and_comm]
  by_cases hdevice : device_id ∈ devices.map Prod.fst
  · obtain ⟨entry, hentry, rfl⟩ := List.mem_map.mp hdevice
    rw [filter_key_of_mem hids hentry, hsplit, List.flatMap_singleton]
    exact forall₂_filter_key (hparts entry hentry) hkeys (some key)
  · have hmissing : (device_id, key) ∉ ordered.map Prod.fst := by
      intro hmem
      obtain ⟨entry, hentry, hkey⟩ := List.mem_map.mp hmem
      have howner : entry.1.1 = device_id := congrArg Prod.fst hkey
      exact hdevice (howner ▸ hlisted entry hentry)
    rw [filter_key_of_not_mem hdevice, filter_key_of_not_mem hmissing]
    exact List.Forall₂.nil

end Keys

section Whole

variable (hfields : ∀ device_id key item, Owns previous device_id key item → ResourceFields item key)
  (hnodup : (ordered.map Prod.fst).Nodup)
  (hstale : ∀ device_id key item,
    ((device_id, key), item) ∈ ordered ↔ Stale previous current device_id key item)
  (hemitted : (sortedSet (ordered.map (·.1.1))).mapM (reconciled_device platform previous ordered) =
    .ok devices)

include hemitted

theorem ids_of_emitted : devices.map Prod.fst = sortedSet (ordered.map (·.1.1)) := by
  have hids : devices.map Prod.fst = (sortedSet (ordered.map (·.1.1))).map id :=
    map_of_mapM hemitted fun device_id entry hok => (made_of_reconciled hok).1
  rw [hids, List.map_id]

theorem made_of_emitted : ∀ entry ∈ devices, MadeOf platform ordered entry := by
  intro entry hentry
  obtain ⟨device_id, -, hok⟩ := mem_of_mapM hemitted hentry
  exact (made_of_reconciled hok).2

include hfields hnodup hstale

/-- The devices that are computed hold exactly the stale resources. -/
theorem exact_of_emitted (hself : previous = current → ordered = [])
    (hfalls : ∀ device_id, (ordered.filter (·.1.1 = device_id)).Pairwise fun first second =>
      ∀ order other, remove_order first.2 = .ok order → remove_order second.2 = .ok other → other ≤ order)
    (hunique : ∀ device_id key item other, Owns previous device_id key item →
      Owns previous device_id key other → item = other) :
    Exact previous current devices := by
  have hmade := made_of_emitted hemitted
  have hids := ids_of_emitted hemitted
  have hdevices : (devices.map Prod.fst).Nodup := hids ▸ sortedSet_nodup _
  have hlisted (entry : Keyed) (hentry : entry ∈ ordered) : entry.1.1 ∈ devices.map Prod.fst := by
    rw [hids, mem_sortedSet]
    exact List.mem_map_of_mem hentry
  have hresource (entry : Keyed) (hentry : entry ∈ ordered) : ResourceFields entry.2 entry.1.2 :=
    hfields _ _ _ ((hstale _ _ _).mp hentry).1
  -- What a block and a gate say of the resource they are made of.
  let Removal (entry : Keyed) (block : Block) : Prop :=
    block.owned_resource_key = some entry.1.2 ∧ Removes entry.2 block
  let Absence (entry : Keyed) (gate : Gate) : Prop :=
    gate.owned_resource_key = some entry.1.2 ∧ Absent entry.1.1 entry.2 gate
  have hblocks (entry) (hentry : entry ∈ devices) :
      List.Forall₂ Removal (ordered.filter (·.1.1 = entry.1)) entry.2.blocks := by
    refine forall₂_of_mem (hmade entry hentry).blocks fun resource hmem block hok => ?_
    exact removal_block_eq_ok hok (hresource resource (List.mem_of_mem_filter hmem)).remove_commands
  have hgates (entry) (hentry : entry ∈ devices) :
      List.Forall₂ Absence (ordered.filter (·.1.1 = entry.1)) entry.2.gates := by
    refine forall₂_of_mem (hmade entry hentry).gates fun resource hmem gate hok => ?_
    exact absence_gate_eq_ok hok (hresource resource (List.mem_of_mem_filter hmem)).forbidden_lines
  have hremovals := emitted_of_parts ReconciledDevice.blocks Block.owned_resource_key hdevices hlisted
    hblocks fun _ _ => And.left
  have habsences := emitted_of_parts ReconciledDevice.gates Gate.owned_resource_key hdevices hlisted
    hgates fun _ _ => And.left
  refine ⟨fun device_id key item hdifferent => ?_, fun device_id key hnone => ?_,
    fun entry hentry => ⟨fun block hblock => ?_, fun gate hgate => ?_⟩, fun entry hentry => ?_,
    fun hsame => ?_⟩
  · have hmem := (hstale device_id key item).mpr hdifferent
    have hfilter := filter_key_of_mem hnodup hmem
    have hblock := hremovals device_id key
    have hgate := habsences device_id key
    rw [hfilter, List.forall₂_cons_left_iff] at hblock hgate
    obtain ⟨block, rest, ⟨-, hremoves⟩, hrest, hblocks⟩ := hblock
    obtain ⟨gate, others, ⟨-, habsent⟩, hothers, hgates⟩ := hgate
    rw [List.forall₂_nil_left_iff.mp hrest] at hblocks
    rw [List.forall₂_nil_left_iff.mp hothers] at hgates
    exact ⟨⟨block, hblocks, hremoves⟩, gate, hgates, habsent⟩
  · have hfilter : ordered.filter (·.1 = (device_id, key)) = [] := by
      refine filter_key_of_not_mem fun hmem => ?_
      obtain ⟨⟨_, item⟩, hmem, rfl⟩ := List.mem_map.mp hmem
      exact hnone item ((hstale device_id key item).mp hmem)
    have hblock := hremovals device_id key
    have hgate := habsences device_id key
    rw [hfilter] at hblock hgate
    exact ⟨List.forall₂_nil_left_iff.mp hblock, List.forall₂_nil_left_iff.mp hgate⟩
  · obtain ⟨resource, hmem, hkey, hremoves⟩ := exists_of_forall₂ (hblocks entry hentry).flip hblock
    obtain ⟨hmem, howner⟩ := List.mem_filter.mp hmem
    have hdifferent := (hstale resource.1.1 resource.1.2 resource.2).mp hmem
    rw [of_decide_eq_true howner] at hdifferent
    exact ⟨_, _, hkey, hdifferent, hremoves⟩
  · obtain ⟨resource, hmem, hkey, habsent⟩ := exists_of_forall₂ (hgates entry hentry).flip hgate
    obtain ⟨hmem, howner⟩ := List.mem_filter.mp hmem
    have hdifferent := (hstale resource.1.1 resource.1.2 resource.2).mp hmem
    rw [of_decide_eq_true howner] at hdifferent habsent
    exact ⟨_, _, hkey, hdifferent, habsent⟩
  · refine pairwise_of_forall₂ (hblocks entry hentry) (hfalls entry.1) ?_
    rintro resource hmem another hother first second ⟨hfirst, -⟩ ⟨hsecond, -⟩ hfall
    intro key other item last order final hkey howns horder hlast howned hfinal
    have hresource {resource : Keyed} {block : Block} {key : String} {item : Value}
        (hmem : resource ∈ ordered.filter (·.1.1 = entry.1))
        (hblock : block.owned_resource_key = some resource.1.2)
        (hkey : block.owned_resource_key = some key) (howns : Owns previous entry.1 key item) :
        resource.2 = item := by
      obtain ⟨hmem, howner⟩ := List.mem_filter.mp hmem
      have hstale := ((hstale resource.1.1 resource.1.2 resource.2).mp hmem).1
      rw [of_decide_eq_true howner, Option.some.inj (hblock.symm.trans hkey)] at hstale
      exact hunique _ _ _ _ hstale howns
    rw [← hresource hmem hfirst hkey howns] at horder
    rw [← hresource hother hsecond hlast howned] at hfinal
    exact hfall order final horder hfinal
  · have hnone := hself hsame
    subst hnone
    rw [← List.map_eq_nil_iff, hids]
    rfl

end Whole

end Emitted

/-! ## The whole function -/

section Build

variable {platform : Platform} {manifest : Value} {fabric_id : Option String}

/-- The resources of an accepted manifest are listed. -/
theorem listed_of_valid (hdigest : ∀ text, platform.sha256 text ≠ "")
    (hvalid : validate_owned_state platform manifest fabric_id = .ok ()) :
    ∃ found, resources_of manifest = .ok found ∧ Listed manifest found := by
  obtain ⟨found, hfound, hnodup, howns⟩ := resources_of_valid hdigest hvalid
  refine ⟨found, hfound, hnodup, howns, fun entry hentry => ?_⟩
  exact (fields_of_owns hdigest hvalid ((howns _ _ _).mp hentry)).1.state_hash

theorem Listed.unique {found : List Keyed} (hlisted : Listed manifest found) {device_id key : String}
    {item other : Value} (hitem : Owns manifest device_id key item)
    (hother : Owns manifest device_id key other) : item = other := by
  have hfirst := assoc.lookup_of_mem hlisted.nodup ((hlisted.owns _ _ _).mpr hitem)
  have hsecond := assoc.lookup_of_mem hlisted.nodup ((hlisted.owns _ _ _).mpr hother)
  exact Option.some.inj (hfirst.symm.trans hsecond)

/-- A manifest has no stale resources against itself. -/
theorem not_stale_self {device_id key : String} {item : Value}
    (hstate : Owns manifest device_id key item → ∃ digest, item.item "state_hash" = .ok digest) :
    ¬Stale manifest manifest device_id key item := by
  rintro ⟨howns, hdifferent⟩
  obtain ⟨digest, hdigest⟩ := hstate howns
  exact hdifferent item howns digest digest hdigest hdigest rfl

end Build

/-- For an accepted baseline and an accepted manifest of the same fabric the difference is
computed, and it is exact. A digest is never the empty text. -/
theorem reconciliation_exact (platform : Platform) (hdigest : ∀ text, platform.sha256 text ≠ "")
    (baseline current previous fabric : Value) (hmanifest : baseline.item "manifest" = .ok previous)
    (hbaseline : validate_baseline platform baseline fabric.toStr = .ok ())
    (hcurrent : validate_owned_state platform current (some fabric.toStr) = .ok ())
    (hfabric : current.item "fabric_id" = .ok fabric) (horders : IntegerOrders previous) :
    ∃ delta, build_multicast_reconciliation platform (some baseline) current = .ok (.ready delta) ∧
      Exact previous current delta.devices := by
  obtain ⟨hprevious, baseline_hash, hbaseline_hash⟩ := manifest_of_baseline hbaseline hmanifest
  obtain ⟨previous_hash, hprevious_hash⟩ := manifest_hash_of_valid hprevious
  obtain ⟨current_hash, hcurrent_hash⟩ := manifest_hash_of_valid hcurrent
  obtain ⟨previous_resources, hprevious_resources, hprevious_listed⟩ := listed_of_valid hdigest hprevious
  obtain ⟨current_resources, hcurrent_resources, hcurrent_listed⟩ := listed_of_valid hdigest hcurrent
  obtain ⟨stale, hstale, hnodup, hmem⟩ := hprevious_listed.stale_resources_ok hcurrent_listed
  have hstale_orders (entry : Keyed) (hentry : entry ∈ stale) :
      ∃ order, remove_order entry.2 = .ok order :=
    remove_order_ok horders ((hmem _ _ _).mp hentry).1
  obtain ⟨ordered, hordered, hperm, hfalls⟩ := sorted_stale_ok hstale_orders
  have hordered_mem (device_id key : String) (item : Value) :
      ((device_id, key), item) ∈ ordered ↔ Stale previous current device_id key item := by
    rw [hperm.mem_iff, hmem]
  have hfields (device_id key : String) (item : Value) (howns : Owns previous device_id key item) :=
    fields_of_owns hdigest hprevious howns
  obtain ⟨devices, hdevices⟩ : ∃ devices, (sortedSet (ordered.map (·.1.1))).mapM
      (reconciled_device platform previous ordered) = .ok devices := by
    refine mapM_ok_of_forall fun device_id hdevice => ?_
    rw [mem_sortedSet, List.mem_map] at hdevice
    obtain ⟨entry, hentry, rfl⟩ := hdevice
    obtain ⟨-, _, _, _, hlisted, hdevice, hdescriptor⟩ :=
      hfields _ _ _ ((hordered_mem _ _ _).mp hentry).1
    refine reconciled_device_ok (fun other hother => ?_) hlisted hdevice hdescriptor
    exact (hfields _ _ _ ((hordered_mem _ _ _).mp hother).1).1
  refine ⟨⟨baseline_hash.toStr, previous_hash.toStr, current_hash.toStr, stale.length, devices⟩, ?_, ?_⟩
  · simp only [build_multicast_reconciliation, bind_eq_ok_iff, pure_eq_ok_iff]
    exact ⟨(), valid_of_fabric hcurrent, fabric, hfabric, (), hbaseline, previous, hmanifest,
      previous_resources, hprevious_resources, current_resources, hcurrent_resources, stale, hstale,
      ordered, hordered, devices, hdevices, baseline_hash, hbaseline_hash, previous_hash,
      hprevious_hash, current_hash, hcurrent_hash, rfl⟩
  · refine exact_of_emitted (fun _ _ _ howns => (hfields _ _ _ howns).1)
      ((hperm.map Prod.fst).nodup_iff.mpr hnodup) hordered_mem hdevices ?_ hfalls
      fun _ _ _ _ => hprevious_listed.unique
    rintro rfl
    rw [List.eq_nil_iff_forall_not_mem]
    intro entry hentry
    exact not_stale_self (fun howns => (hfields _ _ _ howns).1.state_hash)
      ((hordered_mem _ _ _).mp hentry)

def lab_retired_manifest : Value :=
  lab_owned_manifest
    [lab_owned_resource ["interface Loopback100"] ["no interface Loopback100"]
      "4fab14f48819b09836f4c5e0a0550aca0008c879db66b0544d28afc09ac3b062"
      "983430090b0faf79bf3fa52a441ea3521175845f77a522c2d027c7478765e3ce"]
    "939ea7603d1f83b6689104a4826fc19589603e9b4fed5edcd74841d3c7515ea3"

def lab_empty_manifest : Value :=
  lab_owned_manifest [] "dc2b902b4813dc01bb09d64796db98f390ff5477773a7c5acf6a4f299b71a0b9"

def lab_retiring_baseline : Value :=
  .dict [("baseline_schema_version", .str "1.0"), ("source_type", .str "adopted_discovery"),
    ("source_reference", .str "lab"), ("manifest", lab_retired_manifest),
    ("manifest_hash", .str "939ea7603d1f83b6689104a4826fc19589603e9b4fed5edcd74841d3c7515ea3"),
    ("evidence_hash", .str "74234e98afe7498fb5daf1f36ac2d78acc339464f950703b8c019892f982b90b"),
    ("baseline_hash", .str "093e3b742ecb27d21a7b6d8596caa72a03d3f3ff522fa993900b76e21583ff1e")]

/-- A loopback that the manifest no longer lists. -/
theorem reconciliation_exact_lab :
    ∃ delta, build_multicast_reconciliation cpython (some lab_retiring_baseline) lab_empty_manifest =
      .ok (.ready delta) ∧ Exact lab_retired_manifest lab_empty_manifest delta.devices := by
  have haccepted : (validate_baseline cpython lab_retiring_baseline "lab").isOk ∧
      (validate_owned_state cpython lab_empty_manifest (some "lab")).isOk := by
    decide +kernel
  have hdigest (text : List Char) : cpython.sha256 text ≠ "" := by
    intro hempty
    have hlength := sha256.hexdigest_length text
    rw [show sha256.hexdigest text = "" from hempty] at hlength
    cases hlength
  obtain ⟨_, hbaseline⟩ := isOk_iff.mp haccepted.1
  obtain ⟨_, hcurrent⟩ := isOk_iff.mp haccepted.2
  refine reconciliation_exact cpython hdigest lab_retiring_baseline lab_empty_manifest
    lab_retired_manifest (.str "lab") rfl hbaseline hcurrent rfl ?_
  -- The only resource gives no order.
  intro device_id key item order howns horder
  obtain ⟨-, -, rfl⟩ := (lab_owns_iff rfl).mp howns
  cases horder

end orchestrator.reconciliation
