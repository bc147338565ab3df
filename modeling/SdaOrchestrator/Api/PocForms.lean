import SdaOrchestrator.Api.PocIntake
import SdaOrchestrator.Lib.JsonSchema
import SdaOrchestrator.Lib.Places

open python places

namespace orchestrator.poc_intake

/-! ## The native prompt -/

/-- The label of a field in the native prompt. -/
def native_label (field : String) : String :=
  ((_NATIVE_PROMPT_FIELD_MAP.find? (·.2 = field)).map Prod.fst).getD field

/-- A drop-down list wraps what it selects. -/
def native_choice (field : String) (value : Value) : Value :=
  if native_label field ∈ _NATIVE_PROMPT_ARRAY_FIELDS then .list [value] else value

/-- A canonical form, as the native prompt sends it. -/
def native_form (entries : List (String × Value)) : List (String × Value) :=
  entries.map fun entry => (native_label entry.1, native_choice entry.1 entry.2)

section Forms

variable {entries : List (String × Value)}

/-- The fields of the map are the canonical ones, with their labels. -/
theorem native_fields : _NATIVE_PROMPT_FIELD_MAP.map Prod.snd = _ALLOWED_FIELDS := rfl

theorem native_label_of_mem : ∀ label ∈ _NATIVE_PROMPT_FIELD_MAP, native_label label.2 = label.1 := by
  decide +kernel

theorem native_label_injective : ∀ first ∈ _ALLOWED_FIELDS, ∀ second ∈ _ALLOWED_FIELDS,
    native_label first = native_label second → first = second := by
  decide +kernel

theorem native_label_mem : ∀ field ∈ _ALLOWED_FIELDS, native_label field ∈ _NATIVE_PROMPT_FIELD_MAP.map Prod.fst := by
  decide +kernel

theorem native_label_not_mem : ∀ field ∈ _ALLOWED_FIELDS, native_label field ∉ _ALLOWED_FIELDS := by
  decide +kernel

theorem field_not_label : ∀ field ∈ _ALLOWED_FIELDS, field ∉ _NATIVE_PROMPT_FIELD_MAP.map Prod.fst := by
  decide +kernel

theorem lookup_native_form (hfields : ∀ entry ∈ entries, entry.1 ∈ _ALLOWED_FIELDS) {field : String}
    (hfield : field ∈ _ALLOWED_FIELDS) :
    assoc.lookup (native_label field) (native_form entries) =
      (assoc.lookup field entries).map (native_choice field) := by
  induction entries with
  | nil => rfl
  | cons entry rest ih =>
    obtain ⟨hentry, hrest⟩ := List.forall_mem_cons.mp hfields
    rw [native_form, List.map_cons, assoc.lookup_cons, assoc.lookup_cons]
    by_cases hsame : entry.1 = field
    · rw [if_pos (congrArg native_label hsame), if_pos hsame, hsame]
      rfl
    · rw [if_neg fun hlabel => hsame (native_label_injective _ hentry _ hfield hlabel), if_neg hsame]
      exact ih hrest

/-- A form of some fields, taken from another one. -/
theorem lookup_filterMap (field : String) (fields : List String) :
    assoc.lookup field (fields.filterMap fun name => (assoc.lookup name entries).map fun value => (name, value)) =
      if field ∈ fields then assoc.lookup field entries else none := by
  induction fields with
  | nil => rfl
  | cons name rest ih =>
    rw [List.filterMap_cons]
    cases hfound : assoc.lookup name entries with
    | none =>
      simp only [Option.map_none, ih, List.mem_cons]
      by_cases hsame : field = name
      · subst hsame
        simp [hfound]
      · simp [hsame]
    | some value =>
      simp only [Option.map_some, assoc.lookup_cons, ih, List.mem_cons]
      by_cases hsame : name = field
      · subst hsame
        simp [hfound]
      · simp [hsame, Ne.symm hsame]

theorem mem_keys_distinct {key : String} :
    key ∈ (assoc.distinct entries).map Prod.fst ↔ key ∈ entries.map Prod.fst := by
  rw [← assoc.lookup_isSome_iff, assoc.lookup_distinct, assoc.lookup_isSome_iff]

/-- A canonical form is kept as it is. -/
theorem canonical_of_fields (hfields : ∀ entry ∈ entries, entry.1 ∈ _ALLOWED_FIELDS) :
    _canonical_poc_form_values (assoc.distinct entries) = .ok (assoc.distinct entries) := by
  have hnative : ((assoc.distinct entries).map Prod.fst).any (· ∈ _NATIVE_PROMPT_FIELD_MAP.map Prod.fst) = false := by
    refine List.any_eq_false.mpr fun key hkey => ?_
    obtain ⟨entry, hentry, rfl⟩ := List.mem_map.mp (mem_keys_distinct.mp hkey)
    exact fun hlabel => field_not_label _ (hfields entry hentry) (of_decide_eq_true hlabel)
  simp only [_canonical_poc_form_values, hnative, Bool.false_and, Bool.false_eq_true, if_false]
  rfl

/-- What the native prompt wraps is taken out again. -/
theorem native_value_choice {label : String × String} {value : Value} (hlabel : native_label label.2 = label.1)
    (hplain : label.1 ∉ _NATIVE_PROMPT_ARRAY_FIELDS → ∀ items, value ≠ .list items) :
    native_value label.1 (native_choice label.2 value) = .ok value := by
  rw [native_choice, hlabel]
  unfold native_value
  by_cases harray : label.1 ∈ _NATIVE_PROMPT_ARRAY_FIELDS
  · rw [if_pos harray, if_pos harray]
  · rw [if_neg harray, if_neg harray]
    cases value with
    | list items => exact absurd rfl (hplain harray items)
    | _ => rfl

/-- The native prompt of a canonical form is read as its fields. -/
theorem canonical_of_native (hfields : ∀ entry ∈ entries, entry.1 ∈ _ALLOWED_FIELDS)
    (htexts : ∀ entry ∈ entries, native_label entry.1 ∉ _NATIVE_PROMPT_ARRAY_FIELDS → ∀ items, entry.2 ≠ .list items)
    (hsome : entries ≠ []) :
    _canonical_poc_form_values (assoc.distinct (native_form entries)) =
      .ok (_ALLOWED_FIELDS.filterMap fun name => (assoc.lookup name entries).map fun value => (name, value)) := by
  have hkeys {key : String} (hkey : key ∈ (assoc.distinct (native_form entries)).map Prod.fst) :
      ∃ field ∈ _ALLOWED_FIELDS, native_label field = key := by
    rw [mem_keys_distinct, native_form, List.map_map] at hkey
    obtain ⟨entry, hentry, rfl⟩ := List.mem_map.mp hkey
    exact ⟨entry.1, hfields entry hentry, rfl⟩
  have hnative : ((assoc.distinct (native_form entries)).map Prod.fst).any
      (· ∈ _NATIVE_PROMPT_FIELD_MAP.map Prod.fst) = true := by
    obtain ⟨entry, hentry⟩ := List.exists_mem_of_ne_nil _ hsome
    refine List.any_eq_true.mpr ⟨native_label entry.1, mem_keys_distinct.mpr ?_, ?_⟩
    · exact List.mem_map.mpr ⟨_, List.mem_map.mpr ⟨entry, hentry, rfl⟩, rfl⟩
    · exact decide_eq_true (native_label_mem _ (hfields entry hentry))
  have hcanonical : ((assoc.distinct (native_form entries)).map Prod.fst).any (· ∈ _ALLOWED_FIELDS) = false := by
    refine List.any_eq_false.mpr fun key hkey hallowed => ?_
    obtain ⟨field, hfield, rfl⟩ := hkeys hkey
    exact native_label_not_mem field hfield (of_decide_eq_true hallowed)
  have hexpected : ((assoc.distinct (native_form entries)).map Prod.fst).filter
      (· ∉ _NATIVE_PROMPT_FIELD_MAP.map Prod.fst) = [] := by
    refine List.filter_eq_nil_iff.mpr fun key hkey hother => ?_
    obtain ⟨field, hfield, rfl⟩ := hkeys hkey
    exact of_decide_eq_true hother (native_label_mem field hfield)
  -- every label of the map is read as its field
  have hread : ∀ label ∈ _NATIVE_PROMPT_FIELD_MAP, canonical_field (assoc.distinct (native_form entries)) label =
      .ok ((assoc.lookup label.2 entries).map fun value => (label.2, value)) := by
    intro label hlabel
    have hfield : label.2 ∈ _ALLOWED_FIELDS := native_fields ▸ List.mem_map_of_mem hlabel
    have hlookup := lookup_native_form hfields hfield
    rw [native_label_of_mem label hlabel] at hlookup
    rw [canonical_field, assoc.lookup_distinct, hlookup]
    cases hvalue : assoc.lookup label.2 entries with
    | none => rfl
    | some value =>
      have hchoice : native_value label.1 (native_choice label.2 value) = .ok value := by
        refine native_value_choice (native_label_of_mem label hlabel) fun harray => ?_
        exact htexts _ (assoc.lookup_mem hvalue) (by rwa [native_label_of_mem label hlabel])
      simp only [Option.map_some, hchoice]
      rfl
  simp only [_canonical_poc_form_values, hnative, hcanonical, hexpected, mapM_of_ok hread]
  rw [raise_if_bind_eq_ok_iff]
  refine ⟨rfl, ?_⟩
  rw [if_pos trivial, raise_if_bind_eq_ok_iff]
  refine ⟨rfl, ?_⟩
  refine congrArg Except.ok ?_
  rw [List.filterMap_map, ← native_fields, List.filterMap_map]
  rfl

/-- What is read of a form depends on what its canonical values hold under each field. -/
theorem read_demand_congr {first second values others : List (String × Value)}
    (hfirst : _canonical_poc_form_values (assoc.distinct first) = .ok values)
    (hsecond : _canonical_poc_form_values (assoc.distinct second) = .ok others)
    (hvalues : ∀ key ∈ values.map Prod.fst, key ∈ _ALLOWED_FIELDS)
    (hothers : ∀ key ∈ others.map Prod.fst, key ∈ _ALLOWED_FIELDS)
    (hsame : ∀ field, assoc.lookup field values = assoc.lookup field others) :
    read_demand (.dict first) = read_demand (.dict second) := by
  have hallowed {form : List (String × Value)} (hform : ∀ key ∈ form.map Prod.fst, key ∈ _ALLOWED_FIELDS) :
      (form.map Prod.fst).filter (· ∉ _ALLOWED_FIELDS) = [] :=
    List.filter_eq_nil_iff.mpr fun key hkey hother => of_decide_eq_true hother (hform key hkey)
  have htext (field : String) (pattern : List Char → Bool) :
      _required_text values field pattern = _required_text others field pattern := by
    rw [_required_text, _required_text, hsame]
  have hinteger (field : String) (minimum maximum : Int) :
      _bounded_integer values field minimum maximum = _bounded_integer others field minimum maximum := by
    rw [_bounded_integer, _bounded_integer, hsame]
  have hselects (field text : String) : selects values field text = selects others field text := by
    rw [selects, selects, hsame]
  have hbind (form : List (String × Value)) (f : List (String × Value) → Py Demand) :
      (Except.ok form >>= f) = f form := rfl
  simp only [read_demand, hfirst, hsecond, hbind, hallowed hvalues, hallowed hothers, htext, hinteger, hselects, hsame]

end Forms

/-- The native prompt of a canonical form asks for what the form asks for, whatever it holds. -/
theorem native_form_agrees (profile policy : Value) {entries : List (String × Value)}
    (hfields : ∀ entry ∈ entries, entry.1 ∈ _ALLOWED_FIELDS)
    (htexts : ∀ entry ∈ entries, native_label entry.1 ∉ _NATIVE_PROMPT_ARRAY_FIELDS →
      ∀ items, entry.2 ≠ .list items) :
    sjc23_poc_requirements profile (.dict (native_form entries)) policy =
      sjc23_poc_requirements profile (.dict entries) policy := by
  have hread : read_demand (.dict (native_form entries)) = read_demand (.dict entries) := by
    by_cases hsome : entries = []
    · rw [hsome]
      rfl
    refine read_demand_congr (canonical_of_native hfields htexts hsome) (canonical_of_fields hfields) ?_ ?_ ?_
    · intro key hkey
      obtain ⟨⟨name, value⟩, hentry, rfl⟩ := List.mem_map.mp hkey
      obtain ⟨field, hfield, hfound⟩ := List.mem_filterMap.mp hentry
      obtain ⟨found, -, hsame⟩ := Option.map_eq_some_iff.mp hfound
      exact (Prod.mk.inj hsame).1 ▸ hfield
    · intro key hkey
      obtain ⟨entry, hentry, rfl⟩ := List.mem_map.mp (mem_keys_distinct.mp hkey)
      exact hfields entry hentry
    · intro field
      rw [lookup_filterMap, assoc.lookup_distinct]
      split
      · rfl
      · rename_i hother
        refine (assoc.lookup_eq_none_iff.mpr fun hmem => hother ?_).symm
        obtain ⟨entry, hentry, rfl⟩ := List.mem_map.mp hmem
        exact hfields entry hentry
  rw [sjc23_poc_requirements, sjc23_poc_requirements, hread]

/-- A form that the review accepts. -/
def lab_form : List (String × Value) := [
  ("fabric_name", .str "SJC23 lab"),
  ("change_reference", .str "CHG-0001"),
  ("corporate_users", .str "50"),
  ("guest_users", .int 50),
  ("corporate_attachment", .str "corporate_laptop"),
  ("guest_attachment", .str "guest_laptop"),
  ("dhcp_lease_minutes", .str "60"),
  ("dns_profile", .str "public_google")]

theorem lab_form_fields : ∀ entry ∈ lab_form, entry.1 ∈ _ALLOWED_FIELDS := by
  decide +kernel

theorem lab_form_texts : ∀ entry ∈ lab_form, native_label entry.1 ∉ _NATIVE_PROMPT_ARRAY_FIELDS →
    ∀ items, entry.2 ≠ .list items := by
  simp [lab_form]

/-- The parts of a profile that a form fills in. -/
def lab_profile : Value :=
  let virtual_network (name : String) : Value :=
    .dict [("name", .str name), ("sites", .list [.dict [("site_id", .str "sjc23"), ("dhcp", .dict [])]])]
  .dict [
    ("metadata", .dict [("environment", .str "lab")]),
    ("fabric", .dict [("id", .str "sjc23")]),
    ("virtual_networks", .list [virtual_network "Corporate", virtual_network "Guest"]),
    ("endpoint_attachments", .list [.dict [("id", .str "corp-laptop")], .dict [("id", .str "guest-laptop")]])]

def lab_policy : Value := .dict [("policy_version", .str SJC23_POC_POLICY_VERSION)]

theorem native_form_agrees_lab :
    sjc23_poc_requirements lab_profile (.dict (native_form lab_form)) lab_policy =
      sjc23_poc_requirements lab_profile (.dict lab_form) lab_policy :=
  native_form_agrees lab_profile lab_policy lab_form_fields lab_form_texts

/-! ## What a form changes -/

/-- The demand of a site. -/
def site_places : Set (List Place) :=
  {[.key "users"], [.key "dhcp", .key "lease_minutes"], [.key "dhcp", .key "dns_servers"]}

/-- The demand of a virtual network, at its first site. -/
def virtual_network_places : Set (List Place) := below (.key "sites") (below (.index 0) site_places)

/-- The places of a profile that a form fills in. -/
def reviewed_places : Set (List Place) :=
  {[.key "metadata", .key "name"], [.key "metadata", .key "change_reference"], [.key "fabric", .key "name"]} ∪
    below (.key "virtual_networks") {place | ∃ position, place ∈ below (.index position) virtual_network_places}

/-- A virtual network that is filled in with a demand. -/
structure Filled (demand : Demand) (virtual_network : Value) : Prop where
  users : ∃ users, (users = demand.corporate_users.1 ∨ users = demand.guest_users.1) ∧
    reach [.key "sites", .index 0, .key "users"] virtual_network = some (.int users)
  lease_minutes : reach [.key "sites", .index 0, .key "dhcp", .key "lease_minutes"] virtual_network =
    some (.int demand.lease_minutes.1)
  dns_servers : reach [.key "sites", .index 0, .key "dhcp", .key "dns_servers"] virtual_network =
    some (texts demand.dns_servers.1)

/-- The requirements are the profile, filled in with a demand at the reviewed places and nowhere else. -/
structure FilledIn (demand : Demand) (profile requirements : Value) : Prop where
  frames : Frames reviewed_places profile requirements
  name : reach [.key "metadata", .key "name"] requirements = some (.str demand.fabric_name.1)
  change_reference : reach [.key "metadata", .key "change_reference"] requirements =
    some (.str demand.change_reference.1)
  fabric_name : reach [.key "fabric", .key "name"] requirements = some (.str demand.fabric_name.1)
  virtual_networks : ∀ position virtual_network,
    reach [.key "virtual_networks", .index position] requirements = some virtual_network →
      Filled demand virtual_network

section Frame

/-- An assignment changes nothing but its place. -/
theorem assigned_frames {new before after : Value} {keys : List String}
    (hassigned : assigned new keys before = .ok after) : Frames {keys.map Place.key} before after := by
  induction keys generalizing before after with
  | nil => exact fun place hplace => absurd List.nil_prefix (hplace [] rfl).1
  | cons key rest ih =>
    cases before with
    | dict entries =>
      cases rest with
      | nil =>
        obtain rfl := Except.ok.inj hassigned
        exact frames_set key new entries
      | cons second rest =>
        simp only [assigned, bind_eq_ok_iff, pure_eq_ok_iff] at hassigned
        obtain ⟨inner, hitem, changed, hchanged, rfl⟩ := hassigned
        obtain ⟨_, ⟨⟩, hlookup⟩ := json_schema.item_eq_ok_iff.mp hitem
        refine ((ih hchanged).entry hlookup (Set.singleton_nonempty _)).mono ?_
        rintro _ ⟨_, rfl, rfl⟩
        rfl
    | _ => cases rest <;> cases hassigned

/-- What is assigned is found where it was assigned. -/
theorem assigned_reach {new before after : Value} {keys : List String}
    (hassigned : assigned new keys before = .ok after) : reach (keys.map Place.key) after = some new := by
  induction keys generalizing before after with
  | nil =>
    obtain rfl := Except.ok.inj hassigned
    exact reach_nil new
  | cons key rest ih =>
    cases before with
    | dict entries =>
      cases rest with
      | nil =>
        obtain rfl := Except.ok.inj hassigned
        rw [List.map_cons, reach_key, assoc.lookup_set, if_pos rfl]
        exact reach_nil new
      | cons second rest =>
        simp only [assigned, bind_eq_ok_iff, pure_eq_ok_iff] at hassigned
        obtain ⟨inner, -, changed, hchanged, rfl⟩ := hassigned
        rw [List.map_cons, reach_key, assoc.lookup_set, if_pos rfl]
        exact ih hchanged
    | _ => cases rest <;> cases hassigned

/-- What an assignment leaves at a place apart from its own. -/
theorem assigned_apart {new before after : Value} {keys : List String} {place : List Place}
    (hassigned : assigned new keys before = .ok after) (happart : Apart (keys.map Place.key) place) :
    reach place after = reach place before :=
  assigned_frames hassigned place fun changed hchanged => by
    obtain rfl := hchanged
    exact happart

/-- A change of the first site changes the virtual network there. -/
theorem first_site_frames {change : Value → Py Value} {changes : Set (List Place)} {before after : Value}
    (hsome : changes.Nonempty) (hchange : ∀ site changed, change site = .ok changed → Frames changes site changed)
    (hchanged : first_site_changed change before = .ok after) :
    Frames (below (.key "sites") (below (.index 0) changes)) before after := by
  obtain ⟨sites, hitem, hsites⟩ := bind_eq_ok_iff.mp hchanged
  obtain ⟨entries, rfl, hlookup⟩ := json_schema.item_eq_ok_iff.mp hitem
  have hinside : (below (.index 0) changes).Nonempty := by
    obtain ⟨place, hplace⟩ := hsome
    exact ⟨_, place, hplace, rfl⟩
  cases sites with
  | list items =>
    cases items with
    | nil => cases hsites
    | cons site rest =>
      obtain ⟨changed, hsite, hassigned⟩ := bind_eq_ok_iff.mp hsites
      obtain rfl := Except.ok.inj hassigned
      exact ((hchange site changed hsite).first rest hsome).entry hlookup hinside
  | _ => cases hsites

/-- What a change makes of the first site is found there. -/
theorem first_site_reach {change : Value → Py Value} {before after : Value}
    (hchanged : first_site_changed change before = .ok after) :
    ∃ site changed, reach [.key "sites", .index 0] before = some site ∧ change site = .ok changed ∧
      ∀ place, reach (.key "sites" :: .index 0 :: place) after = reach place changed := by
  obtain ⟨sites, hitem, hsites⟩ := bind_eq_ok_iff.mp hchanged
  obtain ⟨entries, rfl, hlookup⟩ := json_schema.item_eq_ok_iff.mp hitem
  cases sites with
  | list items =>
    cases items with
    | nil => cases hsites
    | cons site rest =>
      obtain ⟨changed, hsite, hassigned⟩ := bind_eq_ok_iff.mp hsites
      obtain rfl := Except.ok.inj hassigned
      refine ⟨site, changed, ?_, hsite, fun place => ?_⟩
      · rw [reach_key, hlookup]
        exact reach_nil site
      · rw [reach_key, assoc.lookup_set, if_pos rfl]
        rfl
  | _ => cases hsites

variable {demand : Demand}

theorem users_cases {virtual_network : Value} {users : Int} (husers : demand.users virtual_network = .ok users) :
    users = demand.corporate_users.1 ∨ users = demand.guest_users.1 := by
  obtain ⟨name, -, hname⟩ := bind_eq_ok_iff.mp husers
  split at hname
  · exact .inl (Except.ok.inj hname).symm
  · exact .inr (Except.ok.inj hname).symm
  · cases hname

theorem at_site_filled {before after : Value} (hchanged : demand.at_site before = .ok after) : Filled demand after := by
  obtain ⟨users, husers, hchanged⟩ := bind_eq_ok_iff.mp hchanged
  obtain ⟨middle, hmiddle, hafter⟩ := bind_eq_ok_iff.mp hchanged
  obtain ⟨_, populated, -, hpopulated, hreach⟩ := first_site_reach hmiddle
  obtain ⟨site, served, hsite, hchange, hfilled⟩ := first_site_reach hafter
  obtain ⟨leased, hleased, hserved⟩ := bind_eq_ok_iff.mp hchange
  obtain rfl : populated = site := by
    have hsame := hreach []
    rw [hsite, reach_nil] at hsame
    exact (Option.some.inj hsame).symm
  refine ⟨⟨users, users_cases husers, ?_⟩, ?_, ?_⟩
  · rw [hfilled, assigned_apart hserved (by decide), assigned_apart hleased (by decide)]
    exact assigned_reach hpopulated
  · rw [hfilled, assigned_apart hserved (by decide)]
    exact assigned_reach hleased
  · rw [hfilled]
    exact assigned_reach hserved

theorem at_site_frames {before after : Value} (hchanged : demand.at_site before = .ok after) :
    Frames virtual_network_places before after := by
  obtain ⟨users, -, hchanged⟩ := bind_eq_ok_iff.mp hchanged
  obtain ⟨middle, husers, hdhcp⟩ := bind_eq_ok_iff.mp hchanged
  have hsome : site_places.Nonempty := ⟨_, .inl rfl⟩
  refine (first_site_frames hsome (fun site changed hsite => ?_) husers).trans
    (first_site_frames hsome (fun site changed hsite => ?_) hdhcp)
  · refine (assigned_frames hsite).mono ?_
    rintro _ rfl
    exact .inl rfl
  · obtain ⟨leased, hleased, hservers⟩ := bind_eq_ok_iff.mp hsite
    refine Frames.trans ((assigned_frames hleased).mono ?_) ((assigned_frames hservers).mono ?_)
    · rintro _ rfl
      exact .inr (.inl rfl)
    · rintro _ rfl
      exact .inr (.inr rfl)

/-- A text is no virtual network. -/
theorem at_site_text (text : String) : ¬∃ after, demand.at_site (.str text) = .ok after := by
  rintro ⟨after, hchanged⟩
  cases hchanged

theorem virtual_networks_frames {before : Value} {items changed : List Value} (helements : before.elements = .ok items)
    (hchanged : items.mapM demand.at_site = .ok changed) :
    Frames {place | ∃ position, place ∈ below (.index position) virtual_network_places} before (.list changed) := by
  have hsome : virtual_network_places.Nonempty := ⟨_, _, ⟨_, .inl rfl, rfl⟩, rfl⟩
  have hnone (htexts : ∀ item ∈ items, ∃ text, item = .str text) : items = [] := by
    refine List.eq_nil_iff_forall_not_mem.mpr fun item hitem => ?_
    obtain ⟨text, rfl⟩ := htexts item hitem
    obtain ⟨after, -, hafter⟩ := exists_of_mapM hchanged hitem
    exact at_site_text text ⟨after, hafter⟩
  cases before with
  | list sites =>
    obtain rfl := Except.ok.inj helements
    exact frames_items ((mapM_eq_ok_iff.mp hchanged).imp fun _ _ => at_site_frames) hsome
  | dict entries =>
    obtain rfl := Except.ok.inj helements
    have hempty := hnone fun item hitem => by
      obtain ⟨entry, -, rfl⟩ := List.mem_map.mp hitem
      exact ⟨entry.1, rfl⟩
    obtain rfl : entries = [] := by
      cases entries with
      | nil => rfl
      | cons entry rest => cases hempty
    obtain rfl := Except.ok.inj hchanged
    exact frames_nothing (fun step rest => by cases step <;> rfl) hsome
  | str text =>
    obtain rfl := Except.ok.inj helements
    have hempty := hnone fun item hitem => by
      obtain ⟨c, -, rfl⟩ := List.mem_map.mp hitem
      exact ⟨_, rfl⟩
    rw [hempty] at hchanged
    obtain rfl := Except.ok.inj hchanged
    exact frames_nothing (fun step rest => by cases step <;> rfl) hsome
  | _ => cases helements

theorem applied_filled {profile requirements : Value} (happlied : demand.applied profile = .ok requirements) :
    FilledIn demand profile requirements := by
  obtain ⟨named, hnamed, happlied⟩ := bind_eq_ok_iff.mp happlied
  obtain ⟨referred, hreferred, happlied⟩ := bind_eq_ok_iff.mp happlied
  obtain ⟨titled, htitled, happlied⟩ := bind_eq_ok_iff.mp happlied
  obtain ⟨networks, hitem, happlied⟩ := bind_eq_ok_iff.mp happlied
  obtain ⟨items, helements, happlied⟩ := bind_eq_ok_iff.mp happlied
  obtain ⟨changed, hchanged, happlied⟩ := bind_eq_ok_iff.mp happlied
  obtain ⟨final, hfinal, happlied⟩ := bind_eq_ok_iff.mp happlied
  obtain ⟨attachments, -, happlied⟩ := bind_eq_ok_iff.mp happlied
  obtain ⟨listed, -, happlied⟩ := bind_eq_ok_iff.mp happlied
  obtain ⟨ids, -, happlied⟩ := bind_eq_ok_iff.mp happlied
  obtain ⟨-, hreturned⟩ := raise_if_bind_eq_ok_iff.mp happlied
  obtain rfl := pure_eq_ok_iff.mp hreturned
  have hnetworks : Frames reviewed_places titled final := by
    obtain ⟨entries, rfl, hlookup⟩ := json_schema.item_eq_ok_iff.mp hitem
    obtain rfl := Except.ok.inj hfinal
    refine ((virtual_networks_frames helements hchanged).entry hlookup ?_).mono Set.subset_union_right
    exact ⟨_, 0, _, ⟨_, ⟨_, .inl rfl, rfl⟩, rfl⟩, rfl⟩
  refine ⟨?_, ?_, ?_, ?_, fun position virtual_network hvirtual => ?_⟩
  · refine (((assigned_frames hnamed).mono ?_).trans ((assigned_frames hreferred).mono ?_)).trans
      (((assigned_frames htitled).mono ?_).trans hnetworks)
    · rintro _ rfl
      exact .inl (.inl rfl)
    · rintro _ rfl
      exact .inl (.inr (.inl rfl))
    · rintro _ rfl
      exact .inl (.inr (.inr rfl))
  · rw [assigned_apart hfinal (by decide), assigned_apart htitled (by decide), assigned_apart hreferred (by decide)]
    exact assigned_reach hnamed
  · rw [assigned_apart hfinal (by decide), assigned_apart htitled (by decide)]
    exact assigned_reach hreferred
  · rw [assigned_apart hfinal (by decide)]
    exact assigned_reach htitled
  · obtain ⟨entries, rfl, hlookup⟩ := json_schema.item_eq_ok_iff.mp hitem
    obtain rfl := Except.ok.inj hfinal
    rw [reach_key, assoc.lookup_set, if_pos rfl, Option.bind_some, reach_index] at hvirtual
    obtain ⟨found, hfound, hreached⟩ := Option.bind_eq_some_iff.mp hvirtual
    obtain rfl := Option.some.inj ((reach_nil found).symm.trans hreached)
    obtain ⟨item, -, hsite⟩ := mem_of_mapM hchanged (List.mem_of_getElem? hfound)
    exact at_site_filled hsite

end Frame

/-- Whatever a form holds, what comes of it is the reviewed profile with a demand within the bounds of the review: it
differs from the profile at the reviewed places only. -/
theorem form_fills_in {profile payload policy requirements : Value}
    (hrequirements : sjc23_poc_requirements profile payload policy = .ok requirements) :
    ∃ demand, read_demand payload = .ok demand ∧ FilledIn demand profile requirements := by
  obtain ⟨-, -, hread⟩ := bind_eq_ok_iff.mp hrequirements
  obtain ⟨demand, hdemand, happlied⟩ := bind_eq_ok_iff.mp hread
  obtain ⟨-, happlied⟩ := raise_if_bind_eq_ok_iff.mp happlied
  exact ⟨demand, hdemand, applied_filled happlied⟩

theorem lab_form_accepted : ∃ requirements,
    sjc23_poc_requirements lab_profile (.dict lab_form) lab_policy = .ok requirements := by
  have haccepted : (sjc23_poc_requirements lab_profile (.dict lab_form) lab_policy).toOption.map (fun _ => ()) =
      some () := by
    decide +kernel
  obtain ⟨requirements, hrequirements, -⟩ := exists_ok_of_map haccepted
  exact ⟨requirements, hrequirements⟩

theorem form_fills_in_lab : ∃ requirements,
    sjc23_poc_requirements lab_profile (.dict lab_form) lab_policy = .ok requirements ∧
      ∃ demand, read_demand (.dict lab_form) = .ok demand ∧ FilledIn demand lab_profile requirements := by
  obtain ⟨requirements, hrequirements⟩ := lab_form_accepted
  exact ⟨requirements, hrequirements, form_fills_in hrequirements⟩

end orchestrator.poc_intake
