import SdaOrchestrator.Intent.Lab
import SdaOrchestrator.Intent.PolicyPlane
import SdaOrchestrator.Ise.Emitted
import SdaOrchestrator.Store.Cpython

open python ipaddress regex orchestrator.store

namespace orchestrator.ise

open orchestrator.intent orchestrator.renderer orchestrator.reconciliation

/-! ## The policy plane of an accepted intent -/

section Accepted

variable {texts : Texts} {intent : FabricIntent} {policy : PolicyPlane}
  (haccepted : Accepted texts intent) (hpolicy : intent.policy_plane = some policy)

include haccepted hpolicy

/-- A contract of an accepted intent has a name and an owned access list of one entry. -/
theorem contract_of_accepted {contract : Contract} (hcontract : contract ∈ policy.contracts) :
    ∃ name sgacl_name, contract.name = some name ∧ contract.sgacl_name = some sgacl_name ∧
      is_safe_name sgacl_name ∧ contract.aces = some contract.expected_aces := by
  have herrors := contract_errors_of_policy haccepted hpolicy
  simp only [PolicyPlane.contract_errors, List.append_eq_nil_iff, items_of_eq_nil] at herrors
  obtain ⟨position, hposition⟩ := List.getElem?_of_mem hcontract
  have hfields := herrors.2 contract position (List.mk_mem_zipIdx_iff_getElem?.mpr hposition)
  simp only [required, List.flatMap_eq_nil_iff, List.mem_cons, List.not_mem_nil, or_false,
    forall_eq_or_imp, forall_eq, fails_if_eq_nil, Bool.not_eq_false'] at hfields
  obtain ⟨name, hname⟩ := Option.isSome_iff_exists.mp hfields.1
  obtain ⟨sgacl_name, hsgacl⟩ := Option.isSome_iff_exists.mp hfields.2.2.2.1
  obtain ⟨earlier, -, -, hclean⟩ := clean_each_mem (issues_of_policy haccepted hpolicy).2.1 hcontract
  simp only [contract_issues, clean_append, clean_add_if, hsgacl, Option.getD_some, Bool.not_eq_false',
    decide_eq_false_iff_not, not_not] at hclean
  exact ⟨name, sgacl_name, hname, hsgacl, safe_of_sgacl_pattern hclean.2, hclean.1.1.2⟩

/-- Groups with safe names have different names. -/
theorem group_names_nodup (hsafe : ∀ group ∈ policy.security_groups, is_safe_name group.name) :
    (policy.security_groups.map (·.name)).Nodup := by
  rw [List.nodup_iff_pairwise_ne, List.pairwise_map]
  refine pairwise_of_clean_each (issues_of_policy haccepted hpolicy).1 ?_
  intro earlier group rest hgroups hclean first hfirst heq
  simp only [security_group_issues, clean_append, clean_check_duplicate, group_names, keys_declared,
    SecurityGroup.group_name] at hclean
  have hname : required_string (some group.name) = some group.name :=
    required_string_of_safe (hsafe group (by rw [hgroups]; simp))
  refine hclean.1.2 group.name hname (List.mem_filterMap.mpr ⟨first, hfirst, ?_⟩)
  show required_string (some first.name) = some group.name
  rw [heq, hname]

/-- A safe name that a contract refers to is that of a group. -/
theorem mem_group_names (hsafe : ∀ group ∈ policy.security_groups, is_safe_name group.name)
    {contract : Contract} (hcontract : contract ∈ policy.contracts) :
    (is_safe_name contract.source → contract.source ∈ policy.security_groups.map (·.name)) ∧
      (is_safe_name contract.destination →
        contract.destination ∈ policy.security_groups.map (·.name)) := by
  obtain ⟨earlier, -, -, hclean⟩ := clean_each_mem (issues_of_policy haccepted hpolicy).2.1 hcontract
  simp only [contract_issues, clean_append] at hclean
  have hreference {name : String} {path : String} (hname : is_safe_name name)
      (hclean : Clean (group_reference_issues policy.security_groups (required_string (some name)) path)) :
      name ∈ policy.security_groups.map (·.name) := by
    rw [required_string_of_safe hname, group_reference_issues, clean_add_if, decide_eq_false_iff_not,
      not_not, group_names, keys_declared] at hclean
    obtain ⟨group, hgroup, hread⟩ := List.mem_filterMap.mp hclean
    have hread' : required_string (some group.name) = some name := hread
    rw [required_string_of_safe (hsafe group hgroup)] at hread'
    exact List.mem_map.mpr ⟨group, hgroup, Option.some.inj hread'⟩
  obtain ⟨⟨⟨⟨⟨⟨⟨⟨⟨-, hsource⟩, hdestination⟩, -⟩, -⟩, -⟩, -⟩, -⟩, -⟩, -⟩ := hclean
  exact ⟨fun h => hreference h hsource, fun h => hreference h hdestination⟩

/-- The node that an accepted intent writes to has an HTTPS origin. -/
theorem write_node_of_accepted (hmode : policy.mode.uses_ise = true) :
    ∃ ise write_node_id node api_base_url, policy.ise = some ise ∧
      ise.write_node_id = some write_node_id ∧
      assoc.lookup write_node_id (nodes_by_id ise) = some node ∧
      node.api_base_url = some api_base_url ∧ bad_origin api_base_url = false ∧
      startswith ise.credential_ref "secret://" := by
  obtain ⟨-, -, hissues, henforcement⟩ := issues_of_policy haccepted hpolicy
  have hise : policy.ise.isNone = false := by
    simp only [enforcement_issues, clean_append, clean_add_if, hmode, Bool.true_and] at henforcement
    exact henforcement.1.1.1.2
  obtain ⟨ise, hise⟩ := Option.isSome_iff_exists.mp (by rwa [Option.isNone_eq_false_iff] at hise)
  have herrors := contract_errors_of_policy haccepted hpolicy
  simp only [PolicyPlane.contract_errors, List.append_eq_nil_iff, present_eq_nil, items_of_eq_nil] at herrors
  obtain ⟨hwrite, hurls⟩ := herrors.1.1.2 ise hise
  simp only [required, List.flatMap_cons, List.flatMap_nil, List.append_nil, fails_if_eq_nil,
    Bool.not_eq_false'] at hwrite hurls
  obtain ⟨write_node_id, hwrite⟩ := Option.isSome_iff_exists.mp hwrite
  have hclean := hissues ise hise
  simp only [ise_issues, clean_append, clean_add_if] at hclean
  obtain ⟨⟨hnodes, hpans⟩, -⟩ := hclean
  rw [hwrite, Option.getD_some, decide_eq_false_iff_not, not_not, Ise.pan_node_ids, List.mem_dedup,
    List.mem_map] at hpans
  obtain ⟨pan, hpan, hid⟩ := hpans
  have hkey : write_node_id ∈ (nodes_by_id ise).map Prod.fst := by
    rw [nodes_by_id, mem_keys_dict_of, List.map_map]
    exact List.mem_map.mpr ⟨pan, List.mem_of_mem_filter hpan, hid⟩
  obtain ⟨node, hnode⟩ := Option.isSome_iff_exists.mp (assoc.lookup_isSome_iff.mpr hkey)
  have hmem : node ∈ ise.nodes := by
    obtain ⟨found, hfound, heq⟩ := List.mem_map.mp (mem_of_mem_dict_of (assoc.lookup_mem hnode))
    rwa [← (Prod.mk.inj heq).2]
  obtain ⟨position, hposition⟩ := List.getElem?_of_mem hmem
  obtain ⟨api_base_url, hurl⟩ := Option.isSome_iff_exists.mp
    (hurls node position (List.mk_mem_zipIdx_iff_getElem?.mpr hposition))
  obtain ⟨earlier, -, -, hclean⟩ := clean_each_mem hnodes hmem
  simp only [ise_node_issues, clean_append, clean_add_if, hurl, Option.getD_some] at hclean
  have hschema := schema_of_policy haccepted hpolicy
  simp only [PolicyPlane.schema_errors, List.append_eq_nil_iff, present_eq_nil] at hschema
  have hsecret := hschema.1.1.1.1.1.1.2 ise hise
  simp only [Ise.schema_errors, List.append_eq_nil_iff, pattern, fails_if_eq_nil, Bool.not_eq_false'] at hsecret
  exact ⟨ise, write_node_id, node, api_base_url, hise, hwrite, hnode, hurl, hclean.2, hsecret.1.1.1.1⟩

end Accepted

/-! ## Names and ids of the emitted operations -/

theorem names_append {resource : Resource} {first second : List Operation} :
    names resource (first ++ second) = names resource first ++ names resource second := by
  rw [names, List.filter_append, List.map_append]
  rfl

theorem names_of_ne {resource : Resource} {operations : List Operation}
    (hne : ∀ operation ∈ operations, operation.resource ≠ resource) : names resource operations = [] := by
  have hfilter : operations.filter (·.resource = resource) = [] := by
    rw [List.filter_eq_nil_iff]
    exact fun operation hoperation => by simpa using hne operation hoperation
  rw [names, hfilter, List.map_nil]

theorem names_of_eq {resource : Resource} {operations : List Operation}
    (heq : ∀ operation ∈ operations, operation.resource = resource) :
    names resource operations = operations.map (·.lookup_text "name") := by
  have hfilter : operations.filter (·.resource = resource) = operations := by
    rw [List.filter_eq_self]
    exact fun operation hoperation => decide_eq_true (heq operation hoperation)
  rw [names, hfilter]

section Ids

variable (platform : Platform)

/-- No two identities share their digits. -/
def NoCollision (identities : List (List (String × Value))) : Prop :=
  ∀ first ∈ identities, ∀ second ∈ identities, digest platform first = digest platform second → first = second

variable {platform} {α : Type} {items : List α} {identity : α → List (String × Value)} {kind : String}

theorem nodup_ids_iff :
    (items.map fun item => kind ++ "-" ++ digest platform (identity item)).Nodup ↔
      (items.map identity).Nodup ∧ NoCollision platform (items.map identity) := by
  have hmap : (items.map fun item => kind ++ "-" ++ digest platform (identity item)) =
      (items.map identity).map fun identity => kind ++ "-" ++ digest platform identity := by
    rw [List.map_map]
    rfl
  have hcancel {first second : List (String × Value)} :
      kind ++ "-" ++ digest platform first = kind ++ "-" ++ digest platform second ↔
        digest platform first = digest platform second := by
    simp
  rw [hmap]
  constructor
  · intro hnodup
    refine ⟨hnodup.of_map _, fun first hfirst second hsecond heq => ?_⟩
    exact List.inj_on_of_nodup_map hnodup hfirst hsecond (hcancel.mpr heq)
  · rintro ⟨hnodup, hno⟩
    exact hnodup.map_on fun first hfirst second hsecond heq =>
      hno first hfirst second hsecond (hcancel.mp heq)

theorem noCollision_perm {identities others : List (List (String × Value))} (hperm : identities.Perm others) :
    NoCollision platform identities ↔ NoCollision platform others := by
  simp only [NoCollision, hperm.mem_iff]

/-- Objects of different names have different identities. -/
theorem identities_nodup_iff {ν : Type} {name : α → ν} {identity : ν → List (String × Value)}
    (hinjective : Function.Injective identity) :
    (items.map fun item => identity (name item)).Nodup ↔ (items.map name).Nodup := by
  have hmap : (items.map fun item => identity (name item)) = (items.map name).map identity := by
    rw [List.map_map]
    rfl
  rw [hmap, List.nodup_map_iff hinjective]

theorem sgt_identity_injective : Function.Injective sgt_identity := by
  intro first second heq
  simpa [sgt_identity] using heq

theorem sgacl_identity_injective : Function.Injective sgacl_identity := by
  intro first second heq
  simpa [sgacl_identity] using heq

theorem cell_identity_injective : Function.Injective cell_identity := by
  intro first second heq
  have hpair : first.1 = second.1 ∧ first.2 = second.2 := by simpa [cell_identity] using heq
  exact Prod.ext hpair.1 hpair.2

end Ids

/-- The ids of two kinds differ. -/
theorem id_ne_of_kind {first second : String} {kind other : String}
    (hkind : ¬(kind ++ "-").toList <+: (other ++ "-").toList ∧ ¬(other ++ "-").toList <+: (kind ++ "-").toList) :
    kind ++ "-" ++ first ≠ other ++ "-" ++ second := by
  intro heq
  have hleft : (kind ++ "-").toList <+: (kind ++ "-" ++ first).toList :=
    ⟨first.toList, String.toList_append.symm⟩
  have hright : (other ++ "-").toList <+: (other ++ "-" ++ second).toList :=
    ⟨second.toList, String.toList_append.symm⟩
  rw [heq] at hleft
  obtain h | h := List.prefix_or_prefix_of_prefix hleft hright
  · exact hkind.1 h
  · exact hkind.2 h

/-! ## The operations of a policy plane -/

section Operations

variable {platform : Platform} {groups : List SecurityGroup} {contracts : List Contract}
  {sgacl cell : Contract → Value}

/-- The operations that are emitted for groups. -/
def group_operations (platform : Platform) (groups : List SecurityGroup) : List Operation :=
  groups.map fun group => operation_of (group_operation platform group)

/-- The operations that are emitted for contracts. -/
def paired_operations (contracts : List Contract) (sgacl cell : Contract → Value) : List Operation :=
  contracts.flatMap fun contract => [operation_of (sgacl contract), operation_of (cell contract)]

theorem resource_of_group {operation : Operation} (h : operation ∈ group_operations platform groups) :
    operation.resource = .sgt := by
  obtain ⟨group, -, rfl⟩ := List.mem_map.mp h
  rw [operation_of_group]

theorem mem_paired_operations {operation : Operation} :
    operation ∈ paired_operations contracts sgacl cell ↔ ∃ contract ∈ contracts,
      operation = operation_of (sgacl contract) ∨ operation = operation_of (cell contract) := by
  simp only [paired_operations, List.mem_flatMap, List.mem_cons, List.not_mem_nil, or_false]

theorem map_operation_of :
    (groups.map (group_operation platform) ++
      contracts.flatMap fun contract => [sgacl contract, cell contract]).map operation_of =
      group_operations platform groups ++ paired_operations contracts sgacl cell := by
  rw [List.map_append, List.map_map, List.map_flatMap]
  rfl

section Emits

variable (hemits : ∀ contract ∈ contracts, Emits platform contract (sgacl contract) (cell contract))

include hemits

theorem names_sgt_emitted :
    names .sgt (group_operations platform groups ++ paired_operations contracts sgacl cell) =
      groups.map (·.name) := by
  have hcells : names .sgt (paired_operations contracts sgacl cell) = [] := by
    refine names_of_ne fun operation hoperation => ?_
    obtain ⟨contract, hcontract, rfl | rfl⟩ := mem_paired_operations.mp hoperation
    · rw [(hemits contract hcontract).sgacl_resource]
      decide
    · rw [(hemits contract hcontract).cell_resource]
      decide
  rw [names_append, hcells, List.append_nil, names_of_eq fun operation => resource_of_group,
    group_operations, List.map_map]
  refine List.map_congr_left fun group _ => ?_
  rw [Function.comp_apply, operation_of_group]
  rfl

theorem names_sgacl_emitted :
    names .sgacl (group_operations platform groups ++ paired_operations contracts sgacl cell) =
      contracts.map fun contract => contract.sgacl_name.getD "" := by
  have hgroups : names .sgacl (group_operations platform groups) = [] := by
    refine names_of_ne fun operation hoperation => ?_
    rw [resource_of_group hoperation]
    decide
  rw [names_append, hgroups, List.nil_append]
  induction contracts with
  | nil => rfl
  | cons contract rest ih =>
    rw [List.forall_mem_cons] at hemits
    rw [paired_operations, List.flatMap_cons, names_append, ← paired_operations, ih hemits.2,
      List.map_cons, ← hemits.1.sgacl_name]
    simp [names, hemits.1.sgacl_resource, hemits.1.cell_resource]

/-- No id comes twice among the emitted operations when none does within a kind. -/
theorem ids_nodup_iff :
    ((group_operations platform groups ++ paired_operations contracts sgacl cell).map
        (·.operation_id.toStr)).Nodup ↔
      (groups.map fun group => "ise-sgt" ++ "-" ++ digest platform (sgt_identity group.name)).Nodup ∧
      (contracts.map fun contract =>
        "ise-sgacl" ++ "-" ++ digest platform (sgacl_identity (contract.sgacl_name.getD ""))).Nodup ∧
      (contracts.map fun contract => "ise-cell" ++ "-" ++
        digest platform (cell_identity (contract.source, contract.destination))).Nodup := by
  have hperm : ((paired_operations contracts sgacl cell).map (·.operation_id.toStr)).Perm
      ((contracts.map fun contract =>
        "ise-sgacl" ++ "-" ++ digest platform (sgacl_identity (contract.sgacl_name.getD ""))) ++
      contracts.map fun contract => "ise-cell" ++ "-" ++
        digest platform (cell_identity (contract.source, contract.destination))) := by
    induction contracts with
    | nil => exact .nil
    | cons contract rest ih =>
      rw [List.forall_mem_cons] at hemits
      rw [paired_operations, List.flatMap_cons, List.map_append, ← paired_operations,
        List.map_cons, List.map_cons, List.map_nil, hemits.1.sgacl_id, hemits.1.cell_id]
      exact ((ih hemits.2).cons _ |>.trans List.perm_middle.symm).cons _
  have hgroups : (group_operations platform groups).map (·.operation_id.toStr) =
      groups.map fun group => "ise-sgt" ++ "-" ++ digest platform (sgt_identity group.name) := by
    rw [group_operations, List.map_map]
    rfl
  rw [List.map_append, hgroups, (List.Perm.append_left _ hperm).nodup_iff, List.nodup_append,
    List.nodup_append]
  constructor
  · rintro ⟨hsgts, ⟨hsgacls, hcells, -⟩, -⟩
    exact ⟨hsgts, hsgacls, hcells⟩
  · rintro ⟨hsgts, hsgacls, hcells⟩
    refine ⟨hsgts, ⟨hsgacls, hcells, ?_⟩, ?_⟩
    · intro first hfirst second hsecond
      obtain ⟨contract, -, rfl⟩ := List.mem_map.mp hfirst
      obtain ⟨other, -, rfl⟩ := List.mem_map.mp hsecond
      exact id_ne_of_kind (by decide)
    · intro first hfirst second hsecond
      obtain ⟨group, -, rfl⟩ := List.mem_map.mp hfirst
      obtain hsecond | hsecond := List.mem_append.mp hsecond
      · obtain ⟨contract, -, rfl⟩ := List.mem_map.mp hsecond
        exact id_ne_of_kind (by decide)
      · obtain ⟨contract, -, rfl⟩ := List.mem_map.mp hsecond
        exact id_ne_of_kind (by decide)

/-- The cells refer to planned groups and access lists when their contracts refer to groups. -/
theorem references_of_names
    (hnames : ∀ contract ∈ contracts, contract.source ∈ groups.map (·.name) ∧
      contract.destination ∈ groups.map (·.name)) :
    (group_operations platform groups ++ paired_operations contracts sgacl cell).forM (_validate_references
      (group_operations platform groups ++ paired_operations contracts sgacl cell)) = .ok () := by
  have hsgts := @names_sgt_emitted platform groups contracts sgacl cell hemits
  have hsgacls := @names_sgacl_emitted platform groups contracts sgacl cell hemits
  rw [forM_eq_ok_iff]
  intro operation hoperation
  obtain hgroup | hcell := List.mem_append.mp hoperation
  · rw [_validate_references, resource_of_group hgroup]
    rfl
  · obtain ⟨contract, hcontract, rfl | rfl⟩ := mem_paired_operations.mp hcell
    · rw [_validate_references, (hemits contract hcontract).sgacl_resource]
      rfl
    · have h := hemits contract hcontract
      obtain ⟨hsource, hdestination⟩ := hnames contract hcontract
      have hsgacl : contract.sgacl_name.getD "" ∈ contracts.map fun contract => contract.sgacl_name.getD "" :=
        List.mem_map_of_mem (f := fun contract : Contract => contract.sgacl_name.getD "") hcontract
      rw [_validate_references, if_pos h.cell_resource, hsgts, hsgacls, h.cell_source, h.cell_destination,
        h.cell_refs]
      simp only [is_planned, decide_eq_true hsource, decide_eq_true hdestination, decide_eq_true hsgacl,
        List.all_cons, List.all_nil, Bool.and_true, Bool.not_true]
      rfl

/-- When the operations of groups and contracts are accepted. -/
theorem operations_accepted_iff (hhex : ∀ text, is_sha256_hex (platform.sha256 text) = true)
    (htags : ∀ group ∈ groups, 2 ≤ group.tag ∧ group.tag ≤ 65519)
    (hnames : (∀ group ∈ groups, is_safe_name group.name) → ∀ contract ∈ contracts,
      (is_safe_name contract.source → contract.source ∈ groups.map (·.name)) ∧
        (is_safe_name contract.destination → contract.destination ∈ groups.map (·.name))) :
    (∃ accepted, _validate_operations "managed-by:meraki-dynamic-sda" []
        (groups.map (group_operation platform) ++
          contracts.flatMap fun contract => [sgacl contract, cell contract]) = .ok accepted ∧
        accepted.forM (_validate_references accepted) = .ok ()) ↔
      (∀ group ∈ groups, is_safe_name group.name) ∧
      (∀ contract ∈ contracts, is_safe_name contract.source ∧ is_safe_name contract.destination ∧
        contract.source ≠ contract.destination ∧ Plain (contract.name.getD "")) ∧
      (group_operations platform groups ++ paired_operations contracts sgacl cell).Pairwise Apart := by
  constructor
  · rintro ⟨accepted, hok, -⟩
    obtain ⟨-, hall, hapart⟩ := exists_validate_operations_iff.mp hok
    rw [map_operation_of] at hapart
    refine ⟨fun group hgroup => ?_, fun contract hcontract => ?_, hapart⟩
    · exact (validate_group_iff hhex (htags group hgroup)).mp
        (hall _ (List.mem_append_left _ (List.mem_map_of_mem hgroup)))
    · refine (hemits contract hcontract).cell_accepted.mp (hall _ (List.mem_append_right _ ?_))
      exact List.mem_flatMap.mpr ⟨contract, hcontract, by simp⟩
  · rintro ⟨hgroups, hcontracts, hapart⟩
    refine ⟨_, exists_validate_operations_iff.mpr ⟨rfl, ?_, by rwa [map_operation_of]⟩, ?_⟩
    · intro value hvalue
      obtain hmem | hcell := List.mem_append.mp hvalue
      · obtain ⟨group, hgroup, rfl⟩ := List.mem_map.mp hmem
        exact (validate_group_iff hhex (htags group hgroup)).mpr (hgroups group hgroup)
      · obtain ⟨contract, hcontract, hmem⟩ := List.mem_flatMap.mp hcell
        have h := hcontracts contract hcontract
        simp only [List.mem_cons, List.not_mem_nil, or_false] at hmem
        obtain rfl | rfl := hmem
        · exact (hemits contract hcontract).sgacl_accepted.mpr h.2.2.2
        · exact (hemits contract hcontract).cell_accepted.mpr h
    · rw [map_operation_of]
      refine references_of_names hemits fun contract hcontract => ?_
      obtain ⟨hsource, hdestination, -⟩ := hcontracts contract hcontract
      exact ⟨(hnames hgroups contract hcontract).1 hsource,
        (hnames hgroups contract hcontract).2 hdestination⟩

end Emits

end Operations

/-! ## Manifests of accepted intents -/

/-- What makes the manifest of a policy plane executable. -/
structure Executable (platform : Platform) (policy : PolicyPlane) : Prop where
  write_node : ∀ ise, policy.ise = some ise → is_safe_name (ise.write_node_id.getD "")
  groups : ∀ group ∈ policy.security_groups, is_safe_name group.name
  contracts : ∀ contract ∈ policy.contracts, is_safe_name contract.source ∧
    is_safe_name contract.destination ∧ contract.source ≠ contract.destination ∧
    Plain (contract.name.getD "")
  access_lists : (policy.contracts.map fun contract => contract.sgacl_name.getD "").Nodup
  pairs : (policy.contracts.map fun contract => (contract.source, contract.destination)).Nodup
  group_digests : NoCollision platform (policy.security_groups.map fun group => sgt_identity group.name)
  access_list_digests :
    NoCollision platform (policy.contracts.map fun contract => sgacl_identity (contract.sgacl_name.getD ""))
  cell_digests : NoCollision platform
    (policy.contracts.map fun contract => cell_identity (contract.source, contract.destination))
  size : policy.security_groups.length + 2 * policy.contracts.length ≤ 10000

section Theorem

variable {platform : Platform} {texts : Texts} {intent : FabricIntent} {policy : PolicyPlane}

theorem contracts_of_named (hnamed : ∀ contract ∈ policy.contracts, ∃ name, contract.name = some name) :
    ∃ contracts, contracts_of policy = .ok contracts ∧ contracts.Perm policy.contracts := by
  have hmap : (policy.contracts.mapM fun contract => do
      return (← require contract.name (KeyError "name"), contract) : Py (List (String × Contract))) =
        .ok (policy.contracts.map fun contract => (contract.name.getD "", contract)) := by
    refine mapM_of_ok fun contract hcontract => ?_
    obtain ⟨name, hname⟩ := hnamed contract hcontract
    rw [hname]
    rfl
  refine ⟨_, bind_eq_ok_iff.mpr ⟨_, hmap, rfl⟩, ?_⟩
  have hperm := (List.perm_insertionSort (fun first second : String × Contract => first.1 ≤ second.1)
    (policy.contracts.map fun contract => (contract.name.getD "", contract))).map Prod.snd
  rwa [List.map_map, Function.comp_def, List.map_id''] at hperm
  exact fun contract => rfl

/-- The renderer emits a manifest of what it emits for the groups and the contracts. -/
theorem manifest_of_accepted (hhex : ∀ text, is_sha256_hex (platform.sha256 text) = true)
    (haccepted : Accepted texts intent) (hpolicy : intent.policy_plane = some policy)
    (hmode : policy.mode = .ise ∨ policy.mode = .hybrid) :
    ∃ (groups : List SecurityGroup) (contracts : List Contract) (sgacl cell : Contract → Value)
      (manifest : Value), groups.Perm policy.security_groups ∧ contracts.Perm policy.contracts ∧
      (∀ contract ∈ contracts, Emits platform contract (sgacl contract) (cell contract)) ∧
      _ise_policy_manifest platform intent = .ok (some manifest) ∧
      ((∃ found, _validate_manifest manifest = .ok found) ↔
        (∀ ise, policy.ise = some ise → is_safe_name (ise.write_node_id.getD "")) ∧
        groups.length + 2 * contracts.length ≤ 10000 ∧
        ∃ accepted, _validate_operations "managed-by:meraki-dynamic-sda" []
            (groups.map (group_operation platform) ++
              contracts.flatMap fun contract => [sgacl contract, cell contract]) = .ok accepted ∧
          accepted.forM (_validate_references accepted) = .ok ()) := by
  have huses : policy.mode.uses_ise = true := by
    rw [PolicyMode.uses_ise, Bool.or_eq_true, decide_eq_true_iff, decide_eq_true_iff]
    exact hmode
  obtain ⟨ise, write_node_id, node, api_base_url, hise, hwrite, hnode, hurl, hgood, hcredential⟩ :=
    write_node_of_accepted haccepted hpolicy huses
  have hnamed : ∀ contract ∈ policy.contracts, ∃ name, contract.name = some name := by
    intro contract hcontract
    obtain ⟨name, -, hname, -⟩ := contract_of_accepted haccepted hpolicy hcontract
    exact ⟨name, hname⟩
  obtain ⟨contracts, hcontracts, hperm⟩ := contracts_of_named hnamed
  have hoperations : ∀ contract, ∃ sgacl cell, contract ∈ contracts →
      contract_operations platform contract = .ok [sgacl, cell] ∧ Emits platform contract sgacl cell := by
    intro contract
    by_cases hcontract : contract ∈ contracts
    · obtain ⟨name, sgacl_name, hname, hsgacl, hsafe, haces⟩ :=
        contract_of_accepted haccepted hpolicy (hperm.mem_iff.mp hcontract)
      obtain ⟨sgacl, cell, hok, hemits⟩ := emits_of_accepted hhex hname hsgacl hsafe haces
      exact ⟨sgacl, cell, fun _ => ⟨hok, hemits⟩⟩
    · exact ⟨default, default, fun h => absurd h hcontract⟩
  choose sgacl cell hemits using hoperations
  have hcollect : collect contracts (contract_operations platform) =
      .ok (contracts.flatMap fun contract => [sgacl contract, cell contract]) := by
    rw [collect, mapM_of_ok fun contract hcontract => (hemits contract hcontract).1, List.flatMap_def]
    rfl
  have hfilter : (intent.policy_plane.filter fun policy => policy.mode = .ise || policy.mode = .hybrid) =
      some policy := by
    rw [hpolicy, Option.filter_some]
    exact if_pos huses
  have hnonempty : 1 ≤ policy.security_groups.length := by
    have hschema := schema_of_policy haccepted hpolicy
    simp only [PolicyPlane.schema_errors, List.append_eq_nil_iff] at hschema
    have hmin := hschema.1.1.1.1.2
    rw [minItems, fails_if_eq_nil, decide_eq_false_iff_not, not_lt] at hmin
    exact hmin
  let groups := sortedBy (·.name) policy.security_groups
  let values := groups.map (group_operation platform) ++
    contracts.flatMap fun contract => [sgacl contract, cell contract]
  have hgroups : groups.Perm policy.security_groups := List.perm_insertionSort _ _
  have hlength : values.length = groups.length + 2 * contracts.length := by
    simp [values, List.length_flatMap, Nat.mul_comm]
  have haddress : (ipv4_address? (chars node.address.str)).isSome := by
    rw [ipv4_address_str]
    rfl
  refine ⟨groups, contracts, sgacl, cell, .dict (manifest_fields write_node_id node.address.str api_base_url
    ise.credential_ref values ++ optional "ca_bundle_ref" (ise.ca_bundle_ref.filter (· ≠ "")) .str),
    hgroups, hperm, fun contract hcontract => (hemits contract hcontract).2, ?_, ?_⟩
  · rw [_ise_policy_manifest, hfilter]
    refine bind_eq_ok_iff.mpr ⟨ise, require_eq_ok.mpr hise, bind_eq_ok_iff.mpr ⟨write_node_id,
      require_eq_ok.mpr hwrite, bind_eq_ok_iff.mpr ⟨node, require_eq_ok.mpr hnode, bind_eq_ok_iff.mpr
        ⟨contracts, hcontracts, bind_eq_ok_iff.mpr ⟨_, hcollect, bind_eq_ok_iff.mpr
          ⟨api_base_url, require_eq_ok.mpr hurl, rfl⟩⟩⟩⟩⟩⟩
  · rw [validate_emitted_iff hgood hcredential haddress, hlength, hgroups.length_eq]
    constructor
    · rintro ⟨hwrite_safe, -, hsize, haccepts⟩
      refine ⟨fun other hother => ?_, hsize, haccepts⟩
      rw [hise] at hother
      rwa [← Option.some.inj hother, hwrite]
    · rintro ⟨hwrite_safe, hsize, haccepts⟩
      have hsafe := hwrite_safe ise hise
      rw [hwrite] at hsafe
      exact ⟨hsafe, by omega, hsize, haccepts⟩

/-- The manifest that is emitted for an accepted intent is accepted exactly when the names are safe, no
two contracts share an access list or a pair of groups, and no two identities share their digits. -/
theorem manifest_accepted_iff (hhex : ∀ text, is_sha256_hex (platform.sha256 text) = true)
    (hvalid : (validate_intent texts intent).is_valid) (hpolicy : intent.policy_plane = some policy)
    (hmode : policy.mode = .ise ∨ policy.mode = .hybrid) :
    ∃ manifest, _ise_policy_manifest platform intent = .ok (some manifest) ∧
      ((∃ found, _validate_manifest manifest = .ok found) ↔ Executable platform policy) := by
  have haccepted := accepted_of_is_valid hvalid
  obtain ⟨groups, contracts, sgacl, cell, manifest, hgroups, hcontracts, hemits, hmanifest, haccepts⟩ :=
    manifest_of_accepted hhex haccepted hpolicy hmode
  have htags : ∀ group ∈ groups, 2 ≤ group.tag ∧ group.tag ≤ 65519 :=
    fun group hgroup => group_of_accepted haccepted hpolicy (hgroups.mem_iff.mp hgroup)
  have hsafe_iff : (∀ group ∈ groups, is_safe_name group.name) ↔
      ∀ group ∈ policy.security_groups, is_safe_name group.name :=
    forall_congr' fun group => by rw [hgroups.mem_iff]
  have hnames : (∀ group ∈ groups, is_safe_name group.name) → ∀ contract ∈ contracts,
      (is_safe_name contract.source → contract.source ∈ groups.map (·.name)) ∧
        (is_safe_name contract.destination → contract.destination ∈ groups.map (·.name)) := by
    intro hsafe contract hcontract
    rw [(hgroups.map _).mem_iff, (hgroups.map _).mem_iff]
    exact mem_group_names haccepted hpolicy (hsafe_iff.mp hsafe) (hcontracts.mem_iff.mp hcontract)
  refine ⟨manifest, hmanifest, ?_⟩
  rw [haccepts, operations_accepted_iff hemits hhex htags hnames, pairwise_apart_iff,
    names_sgt_emitted hemits, names_sgacl_emitted hemits, ids_nodup_iff hemits, nodup_ids_iff, nodup_ids_iff,
    nodup_ids_iff, hgroups.length_eq, hcontracts.length_eq, (hcontracts.map _).nodup_iff,
    (hcontracts.map _).nodup_iff, (hcontracts.map _).nodup_iff, noCollision_perm (hgroups.map _),
    noCollision_perm (hcontracts.map _), noCollision_perm (hcontracts.map _)]
  constructor
  · rintro ⟨hwrite, hsize, hsafe, hall, ⟨⟨-, hgroup_digests⟩, ⟨-, hsgacl_digests⟩, hcells, hcell_digests⟩,
      -, hsgacls⟩
    exact {
      write_node := hwrite
      groups := hsafe_iff.mp hsafe
      contracts := fun contract hcontract => hall contract (hcontracts.mem_iff.mpr hcontract)
      access_lists := hsgacls
      pairs := (identities_nodup_iff cell_identity_injective).mp hcells
      group_digests := hgroup_digests
      access_list_digests := hsgacl_digests
      cell_digests := hcell_digests
      size := hsize }
  · intro h
    have hsgts := group_names_nodup haccepted hpolicy h.groups
    have hgroup_names : (groups.map (·.name)).Nodup := (hgroups.map _).nodup_iff.mpr hsgts
    exact ⟨h.write_node, h.size, hsafe_iff.mpr h.groups,
      fun contract hcontract => h.contracts contract (hcontracts.mem_iff.mp hcontract),
      ⟨⟨(identities_nodup_iff sgt_identity_injective).mpr hgroup_names, h.group_digests⟩,
        ⟨(identities_nodup_iff sgacl_identity_injective).mpr h.access_lists, h.access_list_digests⟩,
        (identities_nodup_iff cell_identity_injective).mpr h.pairs, h.cell_digests⟩, hgroup_names, h.access_lists⟩

end Theorem

/-! ## A policy plane that ISE enforces -/

theorem cpython_sha256_hex (text : List Char) : is_sha256_hex (cpython.sha256 text) := by
  have hdigits : ∀ n < 16, (isAsciiDigit (sha256.hexDigit n) ||
      ('a' ≤ sha256.hexDigit n ∧ sha256.hexDigit n ≤ 'f') ||
      ('A' ≤ sha256.hexDigit n ∧ sha256.hexDigit n ≤ 'F')) = true := by decide
  have hlength : (cpython.sha256 text).length = 64 := sha256.hexdigest_length text
  simp only [is_sha256_hex, len_eq_length, chars_eq_toList, hlength, decide_eq_true_eq, List.all_eq_true,
    true_and]
  intro c hc
  have hmem : c ∈ (sha256.hexdigest text).toList := hc
  rw [sha256.hexdigest, String.toList_ofList, List.mem_flatMap] at hmem
  obtain ⟨word, -, hword⟩ := hmem
  obtain ⟨position, -, rfl⟩ := List.mem_map.mp hword
  exact hdigits _ (Nat.mod_lt _ (by decide))

theorem lab_web_valid : (validate_intent plain_texts (lab_policy_intent (lab_policy [lab_web]))).is_valid := by
  decide +kernel

theorem manifest_accepted_lab :
    ∃ manifest, _ise_policy_manifest cpython (lab_policy_intent (lab_policy [lab_web])) = .ok (some manifest) ∧
      ((∃ found, _validate_manifest manifest = .ok found) ↔ Executable cpython (lab_policy [lab_web])) :=
  manifest_accepted_iff cpython_sha256_hex lab_web_valid rfl (.inl rfl)

/-- Two contracts that let two protocols through between the same groups. -/
def lab_protocols_intent : FabricIntent := lab_policy_intent (lab_policy [lab_web, lab_voice])

theorem manifest_not_accepted :
    (validate_intent plain_texts lab_protocols_intent).is_valid ∧
      (_ise_policy_manifest cpython lab_protocols_intent).toOption.map
        (Option.map fun manifest => (_validate_manifest manifest).isOk) = some (some false) := by
  constructor
  · decide +kernel
  · decide +kernel

end orchestrator.ise
