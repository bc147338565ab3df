import SdaOrchestrator.Reconciliation.Delta

open python orchestrator.store

namespace orchestrator.reconciliation

open orchestrator.intent orchestrator.renderer

/-! ## What an accepted manifest holds -/

/-- The fields of an accepted resource. -/
structure ResourceFields (item : Value) (key : String) : Prop where
  key : ∃ name, item.item "key" = .ok name ∧ name.toStr = key
  state_hash : ∃ digest, item.item "state_hash" = .ok digest
  remove_commands : ∃ commands, item.item "remove_commands" = .ok (.list commands)
  remove_command_hash : ∃ digest, item.item "remove_command_hash" = .ok digest
  forbidden_lines : ∃ lines, item.item "forbidden_lines" = .ok (.list lines)
  gate_command : ∃ command, item.item "gate_command" = .ok command

/-- The resources of an accepted device are accepted one by one, under distinct keys. -/
structure DeviceFields (device : Value) (keys : List String) : Prop where
  descriptor : ∃ fields, device.item "device" = .ok (.dict fields)
  resources : ∃ resources, device.item "resources" = .ok (.list resources) ∧
    List.Forall₂ ResourceFields resources keys
  nodup : keys.Nodup

theorem item_of_lookup {key : String} {entries : List (String × Value)} {found : Value}
    (hlookup : assoc.lookup key entries = some found) : (Value.dict entries).item key = .ok found := by
  simp only [Value.item, hlookup]

/-- A field that reads as a text that is not empty is there. -/
theorem item_of_text {key : String} {entries : List (String × Value)}
    (htext : ((assoc.lookup key entries).getD (.str "")).toStr ≠ "") :
    ∃ found, (Value.dict entries).item key = .ok found ∧
      found.toStr = ((assoc.lookup key entries).getD (.str "")).toStr := by
  cases hlookup : assoc.lookup key entries with
  | none =>
    rw [hlookup] at htext
    exact absurd rfl htext
  | some found => exact ⟨found, item_of_lookup hlookup, rfl⟩

/-- The devices of an accepted manifest are checked one by one. -/
theorem checked_devices_of_valid {platform : Platform} {manifest : Value} {fabric_id : Option String}
    (hok : validate_owned_state platform manifest fabric_id = .ok ()) :
    ∃ devices, manifest.item "devices" = .ok (.dict devices) ∧
      ∀ entry ∈ assoc.distinct devices, _validate_device platform entry.1 entry.2 = .ok () := by
  simp only [validate_owned_state, bind_eq_ok_iff] at hok
  obtain ⟨_, -, _, -, _, -, _, -, _, -, _, -, _, -, _, -, found, hfound, hdevices⟩ := hok
  have hitem {devices : Value} (hsome : found = some devices) : manifest.item "devices" = .ok devices := by
    cases manifest with
    | dict entries =>
      rw [hsome] at hfound
      exact item_of_lookup (Except.ok.inj hfound)
    | _ => cases hfound
  split at hdevices
  · rename_i devices
    exact ⟨devices, hitem rfl, forM_eq_ok_iff.mp hdevices⟩
  · cases hdevices

/-- The resources of an accepted device are checked one by one. -/
theorem checked_resources_of_ok {platform : Platform} {device_id : String} {device : Value}
    (hok : _validate_device platform device_id device = .ok ()) :
    ∃ resources keys, device.item "resources" = .ok (.list resources) ∧
      resources.mapM (_validate_resource platform) = .ok keys := by
  unfold _validate_device at hok
  split at hok
  · split at hok
    · rename_i resources hresources
      simp only [bind_eq_ok_iff] at hok
      obtain ⟨_, -, keys, hkeys, -⟩ := hok
      exact ⟨resources, keys, item_of_lookup hresources, hkeys⟩
    · cases hok
  · cases hok

section Accepted

variable {platform : Platform} (hdigest : ∀ text, platform.sha256 text ≠ "")

theorem remove_commands_of_ok {commands : Option Value} {normalized : List String}
    (hok : _validate_remove_commands commands = .ok normalized) :
    ∃ items, commands = some (.list items) ∧ normalized = items.map Value.toStr := by
  unfold _validate_remove_commands at hok
  split at hok
  · rename_i first rest
    simp only [bind_eq_ok_iff, pure_eq_ok_iff] at hok
    obtain ⟨_, -, _, -, rfl⟩ := hok
    exact ⟨first :: rest, rfl, rfl⟩
  · cases hok

include hdigest

theorem resource_fields_of_ok {item : Value} {key : String}
    (hok : _validate_resource platform item = .ok key) : ResourceFields item key := by
  unfold _validate_resource at hok
  split at hok
  · rename_i fields
    simp only [bind_eq_ok_iff, raise_if_eq_ok, pure_eq_ok_iff, Bool.or_eq_false_iff,
      decide_eq_false_iff_not, not_not] at hok
    obtain ⟨_, ⟨hkey, -⟩, _, -, commands, hcommands, _, hcommand_hash, _, hstate, configured, -,
      forbidden, hforbidden, _, -, _, ⟨hshow, -⟩, rfl⟩ := hok
    obtain ⟨items, hitems, -⟩ := remove_commands_of_ok hcommands
    obtain ⟨name, hname, hnamed⟩ := item_of_text hkey
    obtain ⟨state_hash, hstate_hash, -⟩ := item_of_text fun hempty => hdigest _ (hstate.trans hempty)
    obtain ⟨command_hash, hcommand, -⟩ := item_of_text fun hempty =>
      hdigest _ (hcommand_hash.trans hempty)
    have hgate : ((assoc.lookup "gate_command" fields).getD (.str "")).toStr ≠ "" := by
      intro hempty
      rw [hempty] at hshow
      exact absurd hshow (by decide)
    obtain ⟨command, hgate_command, -⟩ := item_of_text hgate
    exact ⟨⟨name, hname, hnamed⟩, ⟨_, hstate_hash⟩, ⟨items, item_of_lookup hitems⟩, ⟨_, hcommand⟩,
      ⟨forbidden, item_of_lookup (lines_of_required hforbidden)⟩, ⟨_, hgate_command⟩⟩
  · cases hok

theorem device_fields_of_ok {device_id : String} {device : Value}
    (hok : _validate_device platform device_id device = .ok ()) :
    ∃ keys, DeviceFields device keys := by
  unfold _validate_device at hok
  split at hok
  · rename_i fields
    split at hok
    · rename_i resources hresources
      simp only [bind_eq_ok_iff, raise_if_eq_ok, decide_eq_false_iff_not, not_not] at hok
      obtain ⟨_, hdescriptor, keys, hkeys, hnodup⟩ := hok
      have hfields : List.Forall₂ ResourceFields resources keys :=
        (mapM_eq_ok_iff.mp hkeys).imp fun _ _ hresource => resource_fields_of_ok hdigest hresource
      refine ⟨keys, ?_, ⟨resources, item_of_lookup hresources, hfields⟩, hnodup⟩
      unfold _validate_descriptor at hdescriptor
      split at hdescriptor
      · rename_i descriptor hfound
        exact ⟨descriptor, item_of_lookup hfound⟩
      · cases hdescriptor
    · cases hok
  · cases hok

/-- An accepted manifest holds accepted devices. -/
theorem devices_of_valid {manifest : Value} {fabric_id : Option String}
    (hok : validate_owned_state platform manifest fabric_id = .ok ()) :
    ∃ devices, manifest.item "devices" = .ok (.dict devices) ∧
      ∀ entry ∈ assoc.distinct devices, ∃ keys, DeviceFields entry.2 keys := by
  obtain ⟨devices, hdevices, hchecked⟩ := checked_devices_of_valid hok
  exact ⟨devices, hdevices, fun entry hentry => device_fields_of_ok hdigest (hchecked entry hentry)⟩

end Accepted

section Named

variable {platform : Platform}

/-- A manifest that is accepted for a fabric is accepted. -/
theorem valid_of_fabric {manifest : Value} {fabric_id : Option String}
    (hok : validate_owned_state platform manifest fabric_id = .ok ()) :
    validate_owned_state platform manifest none = .ok () := by
  simp only [validate_owned_state, bind_eq_ok_iff] at hok ⊢
  obtain ⟨version, hversion, _, hsupported, scope, hscope, _, hmulticast, found, hfound, _, -, hrest⟩ := hok
  exact ⟨version, hversion, _, hsupported, scope, hscope, _, hmulticast, found, hfound, (), rfl, hrest⟩

theorem item_of_sha256_hex {value found : Value} {key : String}
    (hfound : value.getD key (.str "") = .ok found) (hhex : is_sha256_hex found.toStr = true) :
    value.item key = .ok found := by
  cases value with
  | dict entries =>
    cases hlookup : assoc.lookup key entries with
    | none =>
      obtain rfl : Value.str "" = found := by simpa [Value.getD, Value.get, hlookup] using hfound
      cases hhex
    | some held =>
      obtain rfl : held = found := by simpa [Value.getD, Value.get, hlookup] using hfound
      exact item_of_lookup hlookup
  | _ => cases hfound

/-- An accepted manifest names its hash. -/
theorem manifest_hash_of_valid {manifest : Value} {fabric_id : Option String}
    (hok : validate_owned_state platform manifest fabric_id = .ok ()) :
    ∃ digest, manifest.item "manifest_hash" = .ok digest := by
  simp only [validate_owned_state, bind_eq_ok_iff, raise_if_eq_ok, Bool.or_eq_false_iff,
    Bool.not_eq_false'] at hok
  obtain ⟨_, -, _, -, _, -, _, -, _, -, _, -, digest, hget, _, ⟨hhex, -⟩, -⟩ := hok
  exact ⟨digest, item_of_sha256_hex hget hhex⟩

/-- An accepted baseline holds an accepted manifest of its fabric and names its hash. -/
theorem manifest_of_baseline {baseline previous : Value} {fabric_id : String}
    (hok : validate_baseline platform baseline fabric_id = .ok ())
    (hmanifest : baseline.item "manifest" = .ok previous) :
    validate_owned_state platform previous (some fabric_id) = .ok () ∧
      ∃ digest, baseline.item "baseline_hash" = .ok digest := by
  simp only [validate_baseline, bind_eq_ok_iff, raise_if_eq_ok, Bool.or_eq_false_iff,
    Bool.not_eq_false'] at hok
  obtain ⟨_, -, _, -, _, -, _, -, _, -, _, -, digest, hget, _, ⟨hhex, -⟩, found, hfound, hrest⟩ := hok
  refine ⟨?_, digest, item_of_sha256_hex hget hhex⟩
  split at hrest
  · rename_i manifest
    simp only [bind_eq_ok_iff] at hrest
    obtain ⟨_, hvalid, -⟩ := hrest
    have hsame : Value.dict manifest = previous := by
      cases baseline with
      | dict entries =>
        have hitem : (Value.dict entries).item "manifest" = .ok (.dict manifest) :=
          item_of_lookup (Except.ok.inj hfound)
        exact Except.ok.inj (hitem.symm.trans hmanifest)
      | _ => cases hmanifest
    exact hsame ▸ hvalid
  · cases hrest

end Named

/-! ## The resources of a manifest -/

/-- The manifest lists a resource under a device and a key. -/
def Owns (manifest : Value) (device_id key : String) (item : Value) : Prop :=
  ∃ devices device resources name, manifest.item "devices" = .ok devices ∧
    devices.item device_id = .ok device ∧ device.item "resources" = .ok (.list resources) ∧
      item ∈ resources ∧ item.item "key" = .ok name ∧ name.toStr = key

/-- What an accepted manifest owns is checked. -/
theorem checked_of_owns {platform : Platform} {manifest : Value} {fabric_id : Option String}
    (hvalid : validate_owned_state platform manifest fabric_id = .ok ()) {device_id key : String}
    {item : Value} (howns : Owns manifest device_id key item) :
    ∃ name, _validate_resource platform item = .ok name := by
  obtain ⟨listed, device, resources, _, hlisted, hdevice, hresources, hitem, -, -⟩ := howns
  obtain ⟨devices, hdevices, hchecked⟩ := checked_devices_of_valid hvalid
  obtain rfl := Except.ok.inj (hdevices.symm.trans hlisted)
  have hpairs : (Value.dict devices).pairs = .ok (assoc.distinct devices) := rfl
  obtain ⟨others, keys, hothers, hkeys⟩ :=
    checked_resources_of_ok (hchecked _ (Value.mem_pairs_of_item hpairs hdevice))
  obtain rfl := Value.list.inj (Except.ok.inj (hothers.symm.trans hresources))
  obtain ⟨name, -, hname⟩ := exists_of_mapM hkeys hitem
  exact ⟨name, hname⟩

section Resources

variable {platform : Platform} {manifest : Value} {fabric_id : Option String}
  (hdigest : ∀ text, platform.sha256 text ≠ "")
  (hvalid : validate_owned_state platform manifest fabric_id = .ok ())

theorem getD_of_item {value found default : Value} {key : String} (hitem : value.item key = .ok found) :
    value.getD key default = .ok found := by
  cases value with
  | dict entries =>
    simp only [Value.item] at hitem
    split at hitem
    · rename_i hlookup
      cases hitem
      simp [Value.getD, Value.get, hlookup]
    · cases hitem
  | _ => cases hitem

/-- The resources of an accepted device, under their keys. -/
theorem device_resources_of_fields {entry : String × Value} {keys : List String}
    (hfields : DeviceFields entry.2 keys) :
    ∃ found, device_resources entry = .ok found ∧
      found.map Prod.fst = keys.map (entry.1, ·) ∧
      ∀ keyed, keyed ∈ found ↔ keyed.1.1 = entry.1 ∧ ∃ resources name,
        entry.2.item "resources" = .ok (.list resources) ∧ keyed.2 ∈ resources ∧
          keyed.2.item "key" = .ok name ∧ name.toStr = keyed.1.2 := by
  obtain ⟨resources, hresources, hall⟩ := hfields.resources
  let keyed_of (item : Value) : Keyed :=
    ((entry.1, ((item.item "key").toOption.map Value.toStr).getD ""), item)
  have hkeyed (item : Value) (key : String) (hitem : ResourceFields item key) :
      (do return ((entry.1, (← item.item "key").toStr), item) : Py Keyed) = .ok (keyed_of item) ∧
        (keyed_of item).1 = (entry.1, key) := by
    obtain ⟨name, hname, rfl⟩ := hitem.key
    simp only [keyed_of, hname]
    exact ⟨rfl, rfl⟩
  refine ⟨resources.map keyed_of, ?_, ?_, ?_⟩
  · have hread : device_resources entry =
        resources.mapM fun item => do return ((entry.1, (← item.item "key").toStr), item) := by
      rw [device_resources, getD_of_item hresources]
      rfl
    rw [hread, mapM_eq_ok_iff, List.forall₂_map_right_iff, List.forall₂_same]
    intro item hitem
    obtain ⟨key, -, hfields⟩ := exists_of_forall₂ hall hitem
    exact (hkeyed item key hfields).1
  · rw [List.map_map]
    clear hresources hfields
    induction hall with
    | nil => rfl
    | cons hitem _ ih =>
      rw [List.map_cons, List.map_cons]
      exact congrArg₂ _ (hkeyed _ _ hitem).2 ih
  · rintro ⟨⟨device_id, key⟩, item⟩
    rw [List.mem_map]
    constructor
    · rintro ⟨listed, hlisted, hsame⟩
      obtain ⟨other, -, hitem⟩ := exists_of_forall₂ hall hlisted
      obtain ⟨name, hname, hnamed⟩ := hitem.key
      rw [(Prod.ext (hkeyed listed other hitem).2 rfl : keyed_of listed = ((entry.1, other), listed))]
        at hsame
      cases hsame
      exact ⟨rfl, resources, name, hresources, hlisted, hname, hnamed⟩
    · rintro ⟨rfl, others, name, hothers, hmem, hname, hnamed⟩
      obtain rfl := Value.list.inj (Except.ok.inj (hothers.symm.trans hresources))
      refine ⟨item, hmem, ?_⟩
      simp only [keyed_of, hname]
      exact congrArg (fun key => ((entry.1, key), item)) hnamed

theorem own_resources {entry : String × Value} {keys : List String}
    (hfields : DeviceFields entry.2 keys) :
    device_resources entry = .ok ((device_resources entry).toOption.getD []) := by
  obtain ⟨found, hfound, -⟩ := device_resources_of_fields hfields
  rw [hfound]
  rfl

include hdigest hvalid

/-- The resources of an accepted manifest, each under its own device and key. -/
theorem resources_of_valid :
    ∃ found, resources_of manifest = .ok found ∧ (found.map Prod.fst).Nodup ∧
      ∀ device_id key item, ((device_id, key), item) ∈ found ↔ Owns manifest device_id key item := by
  obtain ⟨devices, hdevices, hfields⟩ := devices_of_valid hdigest hvalid
  let own (entry : String × Value) : List Keyed := (device_resources entry).toOption.getD []
  have hcollect : collect (assoc.distinct devices) device_resources =
      .ok ((assoc.distinct devices).flatMap own) := by
    have hmapM : (assoc.distinct devices).mapM device_resources =
        .ok ((assoc.distinct devices).map own) := by
      refine mapM_of_ok fun entry hentry => ?_
      obtain ⟨keys, hdevice⟩ := hfields entry hentry
      exact own_resources hdevice
    rw [collect, hmapM, List.flatMap_def]
    rfl
  have hread : resources_of manifest = .ok (dict_of ((assoc.distinct devices).flatMap own)) := by
    have hpairs : (Value.dict devices).pairs = .ok (assoc.distinct devices) := rfl
    rw [resources_of, getD_of_item hdevices]
    show ((Value.dict devices).pairs >>= fun entries => _) = _
    rw [hpairs]
    show (collect (assoc.distinct devices) device_resources >>= fun found => _) = _
    rw [hcollect]
    rfl
  have hown {entry : String × Value} (hentry : entry ∈ assoc.distinct devices) :
      ((own entry).map Prod.fst).Nodup ∧ ∀ keyed, keyed ∈ own entry ↔ keyed.1.1 = entry.1 ∧
        ∃ resources name, entry.2.item "resources" = .ok (.list resources) ∧ keyed.2 ∈ resources ∧
          keyed.2.item "key" = .ok name ∧ name.toStr = keyed.1.2 := by
    obtain ⟨keys, hdevice⟩ := hfields entry hentry
    obtain ⟨found, hfound, hkeys, hmem⟩ := device_resources_of_fields hdevice
    have hsame : own entry = found := by
      simp only [own, hfound]
      rfl
    rw [hsame]
    refine ⟨?_, hmem⟩
    rw [hkeys]
    exact hdevice.nodup.map fun first second heq => (Prod.mk.inj heq).2
  have hnodup : (((assoc.distinct devices).flatMap own).map Prod.fst).Nodup := by
    rw [List.map_flatMap, List.nodup_flatMap]
    refine ⟨fun entry hentry => (hown hentry).1, ?_⟩
    -- The devices are apart by their own names.
    have hdistinct := List.pairwise_map.mp (assoc.keys_distinct_nodup devices)
    refine hdistinct.imp_of_mem fun {first second} hfirst hsecond hne => ?_
    intro pair hpair hother
    obtain ⟨keyed, hkeyed, rfl⟩ := List.mem_map.mp hpair
    obtain ⟨other, hother, hsame⟩ := List.mem_map.mp hother
    have howner := (((hown hfirst).2 keyed).mp hkeyed).1
    have hother_owner := (((hown hsecond).2 other).mp hother).1
    rw [hsame] at hother_owner
    exact hne (howner.symm.trans hother_owner)
  refine ⟨_, hread, keys_dict_of_nodup _, fun device_id key item => ?_⟩
  rw [mem_dict_of_iff hnodup, List.mem_flatMap]
  constructor
  · rintro ⟨⟨name, device⟩, hentry, hmem⟩
    obtain ⟨rfl, resources, label, hresources, hitem, hlabel, hkey⟩ := ((hown hentry).2 _).mp hmem
    exact ⟨_, device, resources, label, hdevices,
      item_of_lookup (assoc.mem_distinct_iff.mp hentry), hresources, hitem, hlabel, hkey⟩
  · rintro ⟨listed, device, resources, label, hlisted, hdevice, hresources, hitem, hlabel, hkey⟩
    obtain rfl := Except.ok.inj (hlisted.symm.trans hdevices)
    have hpairs : (Value.dict devices).pairs = .ok (assoc.distinct devices) := rfl
    have hentry := Value.mem_pairs_of_item hpairs hdevice
    exact ⟨_, hentry, ((hown hentry).2 _).mpr ⟨rfl, resources, label, hresources, hitem, hlabel, hkey⟩⟩

/-- What a manifest owns is an accepted resource of an accepted device. -/
theorem fields_of_owns {device_id key : String} {item : Value} (howns : Owns manifest device_id key item) :
    ResourceFields item key ∧ ∃ devices device fields, manifest.item "devices" = .ok devices ∧
      devices.item device_id = .ok device ∧ device.item "device" = .ok (.dict fields) := by
  obtain ⟨listed, device, resources, name, hlisted, hdevice, hresources, hitem, hname, rfl⟩ := howns
  obtain ⟨devices, hdevices, hfields⟩ := devices_of_valid hdigest hvalid
  obtain rfl := Except.ok.inj (hdevices.symm.trans hlisted)
  have hpairs : (Value.dict devices).pairs = .ok (assoc.distinct devices) := rfl
  obtain ⟨keys, hdevice_fields⟩ := hfields _ (Value.mem_pairs_of_item hpairs hdevice)
  obtain ⟨others, hothers, hall⟩ := hdevice_fields.resources
  obtain rfl := Value.list.inj (Except.ok.inj (hothers.symm.trans hresources))
  obtain ⟨key, -, hresource⟩ := exists_of_forall₂ hall hitem
  obtain ⟨label, hlabel, hkey⟩ := hresource.key
  obtain rfl := Except.ok.inj (hlabel.symm.trans hname)
  obtain ⟨fields, hdescriptor⟩ := hdevice_fields.descriptor
  exact ⟨hkey ▸ hresource, _, device, fields, hlisted, hdevice, hdescriptor⟩

end Resources

/-! ## A manifest of one device -/

def lab_owned_resource (configured_lines remove_commands : List String)
    (remove_command_hash state_hash : String) : Value :=
  .dict [("key", .str "lab"), ("kind", .str "multicast_rp_loopback"),
    ("configured_lines", texts configured_lines), ("remove_commands", texts remove_commands),
    ("remove_command_hash", .str remove_command_hash),
    ("gate_command", .str "show running-config interface"), ("forbidden_lines", texts configured_lines),
    ("state_hash", .str state_hash)]

def lab_owned_manifest (resources : List Value) (manifest_hash : String) : Value :=
  let descriptor := .dict [("id", .str "rp"), ("hostname", .str "rp"), ("platform", .str "C9300"),
    ("software_version", .str "17.12"), ("management_ip", .str "192.0.2.1"), ("roles", texts ["border"]),
    ("credential_ref", .str "secret://rp")]
  .dict [("owned_state_schema_version", .str "1.0"), ("scope", .str "multicast"),
    ("fabric_id", .str "lab"),
    ("devices", .dict [("rp", .dict [("device", descriptor), ("resources", .list resources)])]),
    ("manifest_hash", .str manifest_hash)]

theorem lab_owns_iff {resource : Value} {manifest_hash : String}
    (hkey : resource.item "key" = .ok (.str "lab")) {device_id key : String} {item : Value} :
    Owns (lab_owned_manifest [resource] manifest_hash) device_id key item ↔
      device_id = "rp" ∧ key = "lab" ∧ item = resource := by
  constructor
  · rintro ⟨_, device, resources, name, hdevices, hdevice, hresources, hitem, hname, rfl⟩
    cases hdevices
    simp only [Value.item, assoc.lookup_cons] at hdevice
    split at hdevice
    · rename_i hlookup
      split at hlookup
      · rename_i hid
        cases hlookup
        cases hdevice
        cases hresources
        obtain rfl := List.mem_singleton.mp hitem
        obtain rfl := Except.ok.inj (hkey.symm.trans hname)
        exact ⟨hid.symm, rfl, rfl⟩
      · cases hlookup
    · cases hdevice
  · rintro ⟨rfl, rfl, rfl⟩
    exact ⟨_, _, _, .str "lab", rfl, rfl, rfl, List.mem_singleton_self _, hkey, rfl⟩

end orchestrator.reconciliation
