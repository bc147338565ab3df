import SdaOrchestrator.Intent.Validate

open python ipaddress

namespace orchestrator.intent

/-- A subnet of the address plan with the interface addresses it is for. -/
structure Subnet where
  network : Option IPv4Network
  addresses : List IPv4Address

/-- A single address on a loopback interface. -/
def Subnet.loopback (address : IPv4Address) : Subnet := ⟨some (.host address), [address]⟩

def Link.addressing (link : Link) : Subnet := ⟨link.network, link.endpoints.map (·.ip)⟩

def EndpointPool.addressing (pool : EndpointPool) : Subnet := ⟨pool.network, [pool.gateway]⟩

def HandoffPeer.addressing (peer : HandoffPeer) : Subnet :=
  ⟨peer.network, [peer.local_ip, peer.neighbor_ip]⟩

def ServiceAttachment.addressing (attachment : ServiceAttachment) : Subnet :=
  ⟨attachment.network, [attachment.local_ip, attachment.next_hop]⟩

/-- The subnets of all interfaces but those of the underlay RP. -/
def interface_subnets (intent : FabricIntent) : List Subnet :=
  intent.devices.map (fun device => .loopback device.loopback0_ip) ++
    intent.links.map Link.addressing ++ intent.endpoint_pools.map EndpointPool.addressing ++
    intent.handoff_peers.map HandoffPeer.addressing ++
    intent.service_attachments.map ServiceAttachment.addressing ++
    intent.overlay_policies.flatMap fun policy =>
      policy.segment_loopbacks.map fun loopback => .loopback loopback.address

/-- The address that the RP devices of the underlay share. -/
def underlay_rp (intent : FabricIntent) : Option IPv4Address :=
  (intent.fabric.multicast.filter (·.enabled)).bind (·.rp_address)

/-- All subnets of the address plan; the RP devices count as one owner of their address. -/
def subnets (intent : FabricIntent) : List Subnet :=
  interface_subnets intent ++ (underlay_rp intent).toList.map Subnet.loopback

/-- An address lies in its subnet, and is a host address where the subnet has others. -/
def Assignable (network : Option IPv4Network) (address : IPv4Address) : Prop :=
  ∃ found, network = some found ∧ address ∈ found ∧
    (found.prefixlen ≤ 30 → address ≠ found.network_address ∧ address ≠ found.broadcast_address)

/-- The address plan is sound. -/
structure SoundPlan (intent : FabricIntent) : Prop where
  distinct : ((subnets intent).flatMap Subnet.addresses).Nodup
  assignable : ∀ subnet ∈ subnets intent, ∀ address ∈ subnet.addresses,
    Assignable subnet.network address

/-- What `validate_intent` leaves open: the underlay RP keeps clear of the other addresses,
and neither a link endpoint nor a gateway is the first or the last address of its subnet. -/
structure HostAddresses (intent : FabricIntent) : Prop where
  rp : ∀ address, underlay_rp intent = some address →
    address ∉ (interface_subnets intent).flatMap Subnet.addresses
  links : ∀ link ∈ intent.links, ∀ endpoint ∈ link.endpoints,
    not_usable link.network endpoint.ip = false
  gateways : ∀ pool ∈ intent.endpoint_pools, not_usable pool.network pool.gateway = false

/-! ## What the sections check -/

@[simp] theorem outside_eq_false_iff {network : Option IPv4Network} {address : IPv4Address} :
    outside network address = false ↔ ∀ found, network = some found → address ∈ found := by
  cases network <;> simp [outside]

theorem not_usable_eq_false_iff {network : Option IPv4Network} {address : IPv4Address} :
    not_usable network address = false ↔ ∀ found, network = some found → found.prefixlen ≤ 30 →
      address ≠ found.network_address ∧ address ≠ found.broadcast_address := by
  cases network <;> simp [not_usable]

/-- A subnet whose addresses are distinct members of it. -/
def Subnet.Proper (subnet : Subnet) : Prop :=
  subnet.addresses.Nodup ∧
    ∃ found, subnet.network = some found ∧ ∀ address ∈ subnet.addresses, address ∈ found

theorem proper_loopback (address : IPv4Address) : (Subnet.loopback address).Proper := by
  refine ⟨List.nodup_singleton _, _, rfl, fun member hmember => ?_⟩
  rw [List.mem_singleton.mp hmember, IPv4Network.mem_host]

theorem assignable_iff {subnet : Subnet} (hproper : subnet.Proper) {address : IPv4Address}
    (haddress : address ∈ subnet.addresses) :
    Assignable subnet.network address ↔ not_usable subnet.network address = false := by
  obtain ⟨-, found, hnetwork, hmember⟩ := hproper
  rw [Assignable, not_usable_eq_false_iff, hnetwork]
  constructor
  · rintro ⟨network, hsome, -, husable⟩ other hother
    cases hsome
    cases hother
    exact husable
  · exact fun husable => ⟨found, rfl, hmember address haddress, husable found rfl⟩

theorem proper_of_clean_link {devices : List Device} {earlier : List Link} {link : Link}
    (hclean : Clean (link_issues devices earlier link)) : link.addressing.Proper := by
  simp only [link_issues, clean_append, clean_ipv4_network] at hclean
  obtain ⟨⟨⟨⟨⟨⟨-, hnetwork⟩, -⟩, -⟩, -⟩, hendpoints⟩, -⟩ := hclean
  obtain ⟨found, hfound⟩ := Option.isSome_iff_exists.mp hnetwork
  constructor
  · rw [List.Nodup, Link.addressing, List.pairwise_map]
    refine pairwise_of_clean_each hendpoints fun earlier endpoint rest _ hbody first hfirst heq => ?_
    simp only [endpoint_issues, clean_append, clean_check_duplicate, keys_declared,
      Option.some.injEq, forall_eq'] at hbody
    apply hbody.1.2
    simpa [heq] using ⟨first, hfirst, heq⟩
  · refine ⟨found, hfound, fun address haddress => ?_⟩
    obtain ⟨endpoint, hendpoint, rfl⟩ := List.mem_map.mp haddress
    obtain ⟨earlier, rest, -, hbody⟩ := clean_each_mem hendpoints hendpoint
    simp only [endpoint_issues, clean_append, clean_add_if, outside_eq_false_iff] at hbody
    exact hbody.2 found hfound

theorem proper_of_clean_pool {version : SchemaVersion} {sites : List FabricSite}
    {devices : List Device} {vns : List VirtualNetwork} {earlier : List EndpointPool}
    {pool : EndpointPool} (hclean : Clean (pool_issues version sites devices vns earlier pool)) :
    pool.addressing.Proper := by
  simp only [pool_issues, clean_append, clean_ipv4_network, clean_add_if,
    outside_eq_false_iff] at hclean
  obtain ⟨⟨⟨⟨-, hnetwork⟩, hgateway⟩, -⟩, -⟩ := hclean
  obtain ⟨found, hfound⟩ := Option.isSome_iff_exists.mp hnetwork
  refine ⟨List.nodup_singleton _, found, hfound, fun address haddress => ?_⟩
  rw [List.mem_singleton.mp haddress]
  exact hgateway found hfound

theorem proper_pair {network : Option IPv4Network} {first second : IPv4Address}
    (hnetwork : network.isSome) (hfirst : outside network first = false)
    (hsecond : outside network second = false) (hne : first ≠ second) :
    (Subnet.mk network [first, second]).Proper := by
  obtain ⟨found, rfl⟩ := Option.isSome_iff_exists.mp hnetwork
  rw [outside_eq_false_iff] at hfirst hsecond
  refine ⟨by simpa using hne, found, rfl, fun address haddress => ?_⟩
  obtain rfl | rfl : address = first ∨ address = second := by simpa using haddress
  · exact hfirst found rfl
  · exact hsecond found rfl

theorem proper_of_clean_peer {intent : FabricIntent} {earlier : List HandoffPeer}
    {peer : HandoffPeer} (hclean : Clean (peer_issues intent earlier peer)) :
    peer.addressing.Proper ∧
      ∀ address ∈ peer.addressing.addresses, not_usable peer.network address = false := by
  simp only [peer_issues, clean_append, clean_ipv4_network, clean_add_if,
    decide_eq_false_iff_not] at hclean
  obtain ⟨⟨⟨⟨⟨⟨⟨⟨⟨⟨⟨⟨-, hnetwork⟩, -⟩, -⟩, -⟩, -⟩, hlocal⟩, hneighbor⟩, hlocal_usable⟩,
    hneighbor_usable⟩, hne⟩, -⟩, -⟩ := hclean
  refine ⟨proper_pair hnetwork hlocal hneighbor hne, fun address haddress => ?_⟩
  obtain rfl | rfl : address = peer.local_ip ∨ address = peer.neighbor_ip := by
    simpa [HandoffPeer.addressing] using haddress
  · exact hlocal_usable
  · exact hneighbor_usable

theorem proper_of_clean_attachment {fusions : List FusionNode} {earlier : List ServiceAttachment}
    {attachment : ServiceAttachment}
    (hclean : Clean (service_attachment_issues fusions earlier attachment)) :
    attachment.addressing.Proper ∧
      ∀ address ∈ attachment.addressing.addresses, not_usable attachment.network address = false := by
  simp only [service_attachment_issues, ServiceAttachment.address_issues, clean_append,
    clean_ipv4_network, clean_add_if, decide_eq_false_iff_not] at hclean
  obtain ⟨⟨⟨⟨⟨-, hnetwork⟩, -⟩, hlocal, hlocal_usable⟩, hnext, hnext_usable⟩, hne⟩ := hclean
  refine ⟨proper_pair hnetwork hlocal hnext hne, fun address haddress => ?_⟩
  obtain rfl | rfl : address = attachment.local_ip ∨ address = attachment.next_hop := by
    simpa [ServiceAttachment.addressing] using haddress
  · exact hlocal_usable
  · exact hnext_usable

/-! ## The sections of an accepted intent -/

section Accepted

variable {texts : Texts} {intent : FabricIntent}

theorem Accepted.link_proper (haccepted : Accepted texts intent) {link : Link}
    (hlink : link ∈ intent.links) : link.addressing.Proper := by
  have htopology := haccepted.topology
  simp only [topology_issues, clean_append] at htopology
  obtain ⟨earlier, rest, -, hclean⟩ := clean_each_mem htopology.2 hlink
  exact proper_of_clean_link hclean

theorem Accepted.pool_proper (haccepted : Accepted texts intent) {pool : EndpointPool}
    (hpool : pool ∈ intent.endpoint_pools) : pool.addressing.Proper := by
  have hoverlay := haccepted.overlay
  simp only [overlay_issues, clean_append] at hoverlay
  obtain ⟨earlier, rest, -, hclean⟩ := clean_each_mem hoverlay.1.2 hpool
  exact proper_of_clean_pool hclean

theorem Accepted.peer_clean (haccepted : Accepted texts intent) {peer : HandoffPeer}
    (hpeer : peer ∈ intent.handoff_peers) : ∃ earlier, Clean (peer_issues intent earlier peer) := by
  have hhandoff := haccepted.handoff
  have henabled : intent.handoff_enabled = true := by
    by_contra hdisabled
    rw [FabricIntent.handoff_peers, if_neg hdisabled] at hpeer
    cases hpeer
  simp only [handoff_issues, henabled, if_true, clean_append] at hhandoff
  obtain ⟨earlier, rest, -, hclean⟩ := clean_each_mem hhandoff.2.1.2 hpeer
  exact ⟨earlier, hclean⟩

theorem Accepted.attachment_clean (haccepted : Accepted texts intent)
    {attachment : ServiceAttachment} (hattachment : attachment ∈ intent.service_attachments) :
    ∃ earlier, Clean (service_attachment_issues intent.fusions earlier attachment) := by
  have hshared := haccepted.shared_services
  have hversion : intent.schema_version = .v1_2 := by
    by_contra hversion
    rw [FabricIntent.service_attachments, FabricIntent.services, if_neg hversion] at hattachment
    cases hattachment
  simp only [shared_service_issues, hversion, ne_eq, not_true_eq_false, if_false,
    clean_append] at hshared
  obtain ⟨earlier, rest, -, hclean⟩ := clean_each_mem hshared.1.1.1.2 hattachment
  exact ⟨earlier, hclean⟩

/-- Every subnet of an accepted intent is a network that holds its distinct addresses. -/
theorem Accepted.subnet_proper (haccepted : Accepted texts intent) {subnet : Subnet}
    (hsubnet : subnet ∈ interface_subnets intent) : subnet.Proper := by
  simp only [interface_subnets, List.mem_append, List.mem_map, List.mem_flatMap] at hsubnet
  obtain (((((⟨device, -, rfl⟩ | ⟨link, hlink, rfl⟩) | ⟨pool, hpool, rfl⟩) | ⟨peer, hpeer, rfl⟩) |
    ⟨attachment, hattachment, rfl⟩) | ⟨policy, -, loopback, -, rfl⟩) := hsubnet
  · exact proper_loopback _
  · exact haccepted.link_proper hlink
  · exact haccepted.pool_proper hpool
  · obtain ⟨earlier, hclean⟩ := haccepted.peer_clean hpeer
    exact (proper_of_clean_peer hclean).1
  · obtain ⟨earlier, hclean⟩ := haccepted.attachment_clean hattachment
    exact (proper_of_clean_attachment hclean).1
  · exact proper_loopback _

end Accepted

/-! ## Distinct addresses -/

theorem networks_of_eq {α : Type*} {items : List α} {path : Nat → String} {kind : String}
    {network : α → Option IPv4Network} (hsome : ∀ item ∈ items, (network item).isSome) :
    (networks_of items path kind network).map (fun entry => some entry.network) =
      items.map network := by
  rw [networks_of]
  generalize 0 = start
  induction items generalizing start with
  | nil => rfl
  | cons item rest ih =>
    obtain ⟨found, hfound⟩ := Option.isSome_iff_exists.mp (hsome item List.mem_cons_self)
    have hrest := ih (fun item hitem => hsome item (List.mem_cons_of_mem _ hitem)) (start + 1)
    simp [List.zipIdx_cons, hfound, hrest]

theorem flatMap_zipIdx_fst {α β : Type*} {items : List α} {body : α → List β} :
    (items.zipIdx.flatMap fun entry => body entry.1) = items.flatMap body := by
  conv_rhs => rw [← List.zipIdx_map_fst 0 items]
  rw [List.flatMap_map]

/-- The overlap check sees the network of every interface. -/
theorem address_networks_eq {intent : FabricIntent}
    (hproper : ∀ subnet ∈ interface_subnets intent, subnet.Proper) :
    (address_networks intent).map (fun entry => some entry.network) =
      (interface_subnets intent).map Subnet.network := by
  have hsome : ∀ subnet ∈ interface_subnets intent, subnet.network.isSome := by
    intro subnet hsubnet
    obtain ⟨-, found, hfound, -⟩ := hproper subnet hsubnet
    rw [hfound, Option.isSome_some]
  simp only [interface_subnets, List.forall_mem_append, List.forall_mem_map] at hsome
  obtain ⟨⟨⟨⟨⟨-, hlinks⟩, hpools⟩, hpeers⟩, hattachments⟩, -⟩ := hsome
  simp only [address_networks, interface_subnets, List.map_append, List.map_map, List.map_flatMap]
  congr 1
  · congr 1
    · congr 1
      · congr 1
        · congr 1
          · exact networks_of_eq fun _ _ => rfl
          · exact networks_of_eq hlinks
        · exact networks_of_eq hpools
      · exact networks_of_eq hpeers
    · exact networks_of_eq hattachments
  · conv_rhs => rw [← flatMap_zipIdx_fst]
    congr 1
    funext entry
    exact networks_of_eq fun _ _ => rfl

/-- Subnets that share no address give distinct addresses. -/
theorem nodup_of_disjoint {plan : List Subnet} (hproper : ∀ subnet ∈ plan, subnet.Proper)
    (hdisjoint : plan.Pairwise fun first second => ∀ a ∈ first.network, ∀ b ∈ second.network,
      a.overlaps b = false) : (plan.flatMap Subnet.addresses).Nodup := by
  rw [List.nodup_flatMap]
  refine ⟨fun subnet hsubnet => (hproper subnet hsubnet).1, ?_⟩
  refine hdisjoint.imp_of_mem fun {first second} hfirst hsecond hoverlaps address hleft hright => ?_
  obtain ⟨-, left, hleft_network, hleft_member⟩ := hproper first hfirst
  obtain ⟨-, right, hright_network, hright_member⟩ := hproper second hsecond
  exact IPv4Network.not_overlaps_iff.mp (hoverlaps left hleft_network right hright_network) address
    (hleft_member address hleft) (hright_member address hright)

theorem Accepted.distinct {texts : Texts} {intent : FabricIntent}
    (haccepted : Accepted texts intent) :
    ((interface_subnets intent).flatMap Subnet.addresses).Nodup := by
  have hproper : ∀ subnet ∈ interface_subnets intent, subnet.Proper :=
    fun subnet => haccepted.subnet_proper
  apply nodup_of_disjoint hproper
  have hpairwise := pairwise_of_clean_overlaps haccepted.networks
  have hoptional : ((interface_subnets intent).map Subnet.network).Pairwise
      fun first second => ∀ a ∈ first, ∀ b ∈ second, a.overlaps b = false := by
    rw [← address_networks_eq hproper, List.pairwise_map]
    refine hpairwise.imp fun {first second} hoverlaps a ha b hb => ?_
    cases ha
    cases hb
    exact hoverlaps
  exact List.pairwise_map.mp hoptional

/-! ## The address plan -/

theorem loopback_usable {address member : IPv4Address} :
    not_usable (Subnet.loopback address).network member = false := by
  simp [not_usable, Subnet.loopback, IPv4Network.host]

/-- The handoffs and the loopbacks need no condition: their sections check usable hosts. -/
theorem Accepted.usable {texts : Texts} {intent : FabricIntent} (haccepted : Accepted texts intent)
    (hhosts : HostAddresses intent) {subnet : Subnet} (hsubnet : subnet ∈ interface_subnets intent)
    {address : IPv4Address} (haddress : address ∈ subnet.addresses) :
    not_usable subnet.network address = false := by
  simp only [interface_subnets, List.mem_append, List.mem_map, List.mem_flatMap] at hsubnet
  obtain (((((⟨device, -, rfl⟩ | ⟨link, hlink, rfl⟩) | ⟨pool, hpool, rfl⟩) | ⟨peer, hpeer, rfl⟩) |
    ⟨attachment, hattachment, rfl⟩) | ⟨policy, -, loopback, -, rfl⟩) := hsubnet
  · exact loopback_usable
  · obtain ⟨endpoint, hendpoint, rfl⟩ := List.mem_map.mp haddress
    exact hhosts.links link hlink endpoint hendpoint
  · rw [List.mem_singleton.mp haddress]
    exact hhosts.gateways pool hpool
  · obtain ⟨earlier, hclean⟩ := haccepted.peer_clean hpeer
    exact (proper_of_clean_peer hclean).2 address haddress
  · obtain ⟨earlier, hclean⟩ := haccepted.attachment_clean hattachment
    exact (proper_of_clean_attachment hclean).2 address haddress
  · exact loopback_usable

theorem Accepted.host_addresses {texts : Texts} {intent : FabricIntent}
    (haccepted : Accepted texts intent) (hsound : SoundPlan intent) : HostAddresses intent := by
  have hdistinct := hsound.distinct
  have hassignable : ∀ subnet ∈ interface_subnets intent, ∀ address ∈ subnet.addresses,
      not_usable subnet.network address = false := by
    intro subnet hsubnet address haddress
    exact (assignable_iff (haccepted.subnet_proper hsubnet) haddress).mp
      (hsound.assignable subnet (List.mem_append_left _ hsubnet) address haddress)
  rw [subnets, List.flatMap_append, List.nodup_append] at hdistinct
  simp only [interface_subnets, List.forall_mem_append, List.forall_mem_map] at hassignable
  obtain ⟨⟨⟨⟨⟨-, hlinks⟩, hpools⟩, -⟩, -⟩, -⟩ := hassignable
  constructor
  · intro address hrp hmember
    exact hdistinct.2.2 address hmember address (by simp [hrp, Subnet.loopback]) rfl
  · exact fun link hlink endpoint hendpoint =>
      hlinks link hlink endpoint.ip (List.mem_map_of_mem hendpoint)
  · exact fun pool hpool => hpools pool hpool pool.gateway List.mem_cons_self

theorem Accepted.sound_plan {texts : Texts} {intent : FabricIntent}
    (haccepted : Accepted texts intent) (hhosts : HostAddresses intent) : SoundPlan intent := by
  constructor
  · rw [subnets, List.flatMap_append, List.nodup_append]
    refine ⟨haccepted.distinct, ?_, ?_⟩
    · cases underlay_rp intent <;> simp [Subnet.loopback]
    · intro address hmember other hother heq
      obtain ⟨rp, hrp, hother⟩ : ∃ rp, underlay_rp intent = some rp ∧ other = rp := by
        simpa [Subnet.loopback] using hother
      exact hhosts.rp rp hrp (hother ▸ heq ▸ hmember)
  · intro subnet hsubnet address haddress
    obtain hinterface | hrp := List.mem_append.mp hsubnet
    · exact (assignable_iff (haccepted.subnet_proper hinterface) haddress).mpr
        (haccepted.usable hhosts hinterface haddress)
    · obtain ⟨rp, -, rfl⟩ := List.mem_map.mp hrp
      exact (assignable_iff (proper_loopback rp) haddress).mpr loopback_usable

/-- The address plan of an accepted intent is sound exactly when the underlay RP keeps clear
of the other addresses and no link endpoint or gateway is the network or the broadcast
address of its subnet. -/
theorem sound_plan_iff {texts : Texts} {intent : FabricIntent}
    (hvalid : (validate_intent texts intent).is_valid) :
    SoundPlan intent ↔ HostAddresses intent :=
  ⟨(accepted_of_is_valid hvalid).host_addresses, (accepted_of_is_valid hvalid).sound_plan⟩

theorem sound_plan_iff_lab : SoundPlan lab_intent ↔ HostAddresses lab_intent :=
  @sound_plan_iff plain_texts lab_intent (by decide +kernel)

/-- The lab fabric, with the network address of its first pool as the gateway. -/
def network_gateway_intent : FabricIntent :=
  { lab_intent with
    endpoint_pools := lab_intent.endpoint_pools.map fun pool =>
      if pool.vlan_id = 100 then { pool with gateway := .ofOctets 10 30 100 0 } else pool }

/-- A pool of an accepted intent can have its network address as its gateway. -/
theorem not_sound_plan : ¬ ∀ texts intent, (validate_intent texts intent).is_valid →
    SoundPlan intent := by
  intro hall
  have hvalid : (validate_intent plain_texts network_gateway_intent).is_valid := by decide +kernel
  have hhosts := (accepted_of_is_valid hvalid).host_addresses (hall _ _ hvalid)
  have hgateway : network_gateway_intent.endpoint_pools.any
      fun pool => not_usable pool.network pool.gateway := by decide +kernel
  obtain ⟨pool, hpool, hunusable⟩ := List.any_eq_true.mp hgateway
  rw [hhosts.gateways pool hpool] at hunusable
  cases hunusable

end orchestrator.intent
