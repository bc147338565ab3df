import Mathlib.Data.List.Pairwise
import SdaOrchestrator.Intent.Validate

open python ipaddress regex

namespace orchestrator.intent

/-! ## The policy plane of an accepted intent -/

section Accepted

variable {texts : Texts} {intent : FabricIntent} {policy : PolicyPlane}
  (haccepted : Accepted texts intent) (hpolicy : intent.policy_plane = some policy)

include haccepted hpolicy

theorem v1_2_of_policy : intent.schema_version = .v1_2 := by
  have hversion := version_errors_of_schema_errors haccepted.schema
  cases h : intent.schema_version with
  | v1_2 => rfl
  | v1_1 => simp [version_errors, h, excluded, hpolicy] at hversion
  | v1_0 => simp [version_errors, h, excluded, hpolicy] at hversion

theorem policy_of_accepted : intent.policy = some policy := by
  rw [FabricIntent.policy, if_pos (v1_2_of_policy haccepted hpolicy), hpolicy]

theorem schema_of_policy : policy.schema_errors [.key "policy_plane"] = [] := by
  have hschema : present intent.policy_plane (PolicyPlane.schema_errors [.key "policy_plane"]) = [] := by
    refine List.eq_nil_iff_forall_not_mem.mpr fun error herror => ?_
    have hmem : error ∈ schema_errors intent :=
      List.mem_append_left _ (List.mem_append_left _ (List.mem_append_left _ (List.mem_append_right _ herror)))
    rw [haccepted.schema] at hmem
    cases hmem
  exact present_eq_nil.mp hschema policy hpolicy

theorem contract_errors_of_policy : policy.contract_errors [.key "policy_plane"] = [] := by
  have hversion := haccepted.contract_version
  rw [contract_version_issues, if_neg (not_not_intro (v1_2_of_policy haccepted hpolicy)),
    policy_of_accepted haccepted hpolicy, clean_append, clean_add_if] at hversion
  have hschema := schema_of_policy haccepted hpolicy
  simp only [PolicyPlane.schema_errors, List.append_eq_nil_iff, present_eq_nil] at hschema
  cases hcontract : policy.contract_version with
  | none => simp [hcontract] at hversion
  | some version => exact hschema.1.2 version hcontract

theorem issues_of_policy :
    Clean (each policy.security_groups security_group_issues) ∧
      Clean (each policy.contracts (contract_issues policy.security_groups)) ∧
      (∀ ise, policy.ise = some ise → Clean (ise_issues intent.metadata.environment ise)) ∧
      Clean (enforcement_issues intent policy) := by
  have hissues := haccepted.policy
  rw [policy_issues, policy_of_accepted haccepted hpolicy] at hissues
  simp only [clean_append] at hissues
  obtain ⟨⟨⟨⟨henforcement, hgroups⟩, hcontracts⟩, hise⟩, -⟩ := hissues
  refine ⟨hgroups, hcontracts, fun ise hsome => ?_, henforcement⟩
  rw [hsome] at hise
  exact hise

theorem group_of_accepted {group : SecurityGroup} (hgroup : group ∈ policy.security_groups) :
    2 ≤ group.tag ∧ group.tag ≤ 65519 := by
  obtain ⟨earlier, -, -, hclean⟩ := clean_each_mem (issues_of_policy haccepted hpolicy).1 hgroup
  simp only [security_group_issues, clean_append, clean_integer] at hclean
  exact integer_isSome_iff.mp hclean.1.1.2

/-- Security groups have different tags. -/
theorem group_tags_pairwise :
    policy.security_groups.Pairwise fun first second => ∀ tag, first.known_tag = some tag →
      second.known_tag ≠ some tag := by
  refine pairwise_of_clean_each (issues_of_policy haccepted hpolicy).1 ?_
  intro earlier group rest hgroups hclean first hfirst tag hfirst_tag hsecond_tag
  simp only [security_group_issues, clean_append, clean_check_duplicate, keys_declared] at hclean
  exact hclean.2 tag hsecond_tag (List.mem_filterMap.mpr ⟨first, hfirst, hfirst_tag⟩)

omit haccepted hpolicy in
/-- A tag that a name stands for is that of a group. -/
theorem group_of_tag {name : String} {tag : Int}
    (hname : assoc.lookup name (group_tag_values policy.security_groups) = some tag) :
    ∃ group ∈ policy.security_groups, group.group_name = some name ∧ group.known_tag = some tag := by
  have hmem := mem_of_mem_dict_of (assoc.lookup_mem hname)
  obtain ⟨group, hgroup, hread⟩ := List.mem_filterMap.mp hmem
  simp only [Option.bind_eq_bind, Option.bind_eq_some_iff, Option.pure_def, Option.some.injEq,
    Prod.mk.injEq] at hread
  obtain ⟨found, hfound, value, hvalue, rfl, rfl⟩ := hread
  exact ⟨group, hgroup, hfound, hvalue⟩

/-- A tag tells the name of its group. -/
theorem name_of_tag {first second : String} {tag : Int}
    (hfirst : assoc.lookup first (group_tag_values policy.security_groups) = some tag)
    (hsecond : assoc.lookup second (group_tag_values policy.security_groups) = some tag) :
    first = second := by
  obtain ⟨group, hmem, hname, htag⟩ := group_of_tag hfirst
  obtain ⟨other, hother, hother_name, hother_tag⟩ := group_of_tag hsecond
  have : Std.Symm fun first second : SecurityGroup =>
      ∀ tag, first.known_tag = some tag → second.known_tag ≠ some tag :=
    ⟨fun first second h tag hsecond hfirst => h tag hfirst hsecond⟩
  have hsame : group = other := by
    by_contra hne
    exact (group_tags_pairwise haccepted hpolicy).forall hmem hother hne tag htag hother_tag
  subst hsame
  exact Option.some.inj (hname.symm.trans hother_name)

/-- What the checks of a contract leave: its groups, their tags, its entry and the name of its list. -/
theorem checked_contract {contract : Contract} (hcontract : contract ∈ policy.contracts) :
    (∃ source destination, required_string contract.source = some source ∧
      required_string contract.destination = some destination ∧
      contract.source_tag = assoc.lookup source (group_tag_values policy.security_groups) ∧
      contract.destination_tag = assoc.lookup destination (group_tag_values policy.security_groups)) ∧
    contract.aces = some contract.expected_aces ∧
    sgacl_pattern.fullmatch (contract.sgacl_name.getD "") = true := by
  obtain ⟨earlier, -, -, hclean⟩ := clean_each_mem (issues_of_policy haccepted hpolicy).2.1 hcontract
  simp only [contract_issues, clean_append, clean_add_if, clean_required_string, Bool.not_eq_false',
    decide_eq_false_iff_not, not_not] at hclean
  obtain ⟨⟨⟨⟨⟨⟨⟨⟨⟨⟨hsource, hdestination⟩, -⟩, -⟩, -⟩, hsource_tag⟩, hdestination_tag⟩, -⟩, haces⟩, -⟩,
    hpattern⟩ := hclean
  obtain ⟨source, hsource⟩ := Option.isSome_iff_exists.mp hsource
  obtain ⟨destination, hdestination⟩ := Option.isSome_iff_exists.mp hdestination
  rw [hsource, Option.any_some, decide_eq_false_iff_not, not_not] at hsource_tag
  rw [hdestination, Option.any_some, decide_eq_false_iff_not, not_not] at hdestination_tag
  exact ⟨⟨source, destination, hsource, hdestination, hsource_tag, hdestination_tag⟩, haces, hpattern⟩

/-- Contracts between the same two tags are about different protocols. -/
theorem protocols_pairwise : policy.contracts.Pairwise fun first second =>
    ∀ source destination, first.source_tag = some source → first.destination_tag = some destination →
      second.source_tag = some source → second.destination_tag = some destination →
        first.protocol ≠ second.protocol := by
  refine pairwise_of_clean_each (issues_of_policy haccepted hpolicy).2.1 ?_
  intro earlier contract rest hcontracts hclean first hfirst source destination hsource hdestination hsource'
    hdestination' hprotocol
  have hmem : contract ∈ policy.contracts := by rw [hcontracts]; simp
  have hmem_first : first ∈ policy.contracts := by
    rw [hcontracts]
    exact List.mem_append_left _ hfirst
  obtain ⟨⟨from_name, to_name, hfrom, hto, hfrom_tag, hto_tag⟩, -⟩ := checked_contract haccepted hpolicy hmem
  obtain ⟨⟨from_first, to_first, hfrom', hto', hfrom_tag', hto_tag'⟩, -⟩ :=
    checked_contract haccepted hpolicy hmem_first
  have hsame_source : from_first = from_name :=
    name_of_tag haccepted hpolicy (hfrom_tag' ▸ hsource) (hfrom_tag ▸ hsource')
  have hsame_destination : to_first = to_name :=
    name_of_tag haccepted hpolicy (hto_tag' ▸ hdestination) (hto_tag ▸ hdestination')
  simp only [contract_issues, clean_append, clean_check_duplicate, keys_declared] at hclean
  obtain ⟨⟨⟨⟨⟨⟨⟨-, hkeys⟩, -⟩, -⟩, -⟩, -⟩, -⟩, -⟩ := hclean
  refine hkeys (from_name, to_name, contract.protocol.text) ?_ (List.mem_filterMap.mpr ⟨first, hfirst, ?_⟩)
  · simp [Contract.key, hfrom, hto]
  · simp [Contract.key, hfrom', hto', hsame_source, hsame_destination, hprotocol]

end Accepted

end orchestrator.intent
