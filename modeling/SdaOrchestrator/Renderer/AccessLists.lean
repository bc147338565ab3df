import SdaOrchestrator.Intent.Lab
import SdaOrchestrator.Intent.PolicyPlane
import SdaOrchestrator.Lib.Numerals
import SdaOrchestrator.Renderer.PolicyPlane
import SdaOrchestrator.Store.Cpython

open python ipaddress regex orchestrator.store

namespace orchestrator.renderer

open orchestrator.intent

/-! ## A switch that reads role-based commands -/

/-- The words of a command; a leading space is an empty first word. -/
def words (line : String) : List String := (split ' ' (chars line)).map String.ofList

/-- What a command asks of the role-based access control. -/
inductive Line where
  | remove (name : String)
  | define (name : String)
  | entry (ace : String)
  | default_permission (name : String)
  | permission (source destination : Int) (name : String)
  | other
  deriving DecidableEq

def Line.read (line : String) : Line :=
  match words line with
  | ["no", "ip", "access-list", "role-based", name] => .remove name
  | ["ip", "access-list", "role-based", name] => .define name
  | "" :: _ :: ace => .entry (join " " ace)
  | ["cts", "role-based", "permissions", "default", name] => .default_permission name
  | ["cts", "role-based", "permissions", "from", source, "to", destination, name] =>
    match decimal? (chars source), decimal? (chars destination) with
    | some source, some destination => .permission source destination name
    | _, _ => .other
  | _ => .other

/-- The role-based access control of a switch: its access lists, the one that the next
entries go to, and which list each pair of tags has. -/
structure RoleBased where
  access_lists : String → Option (List String)
  editing : Option String
  permissions : Int → Int → Option String
  default_list : Option String

namespace RoleBased

def empty : RoleBased := ⟨fun _ => none, none, fun _ _ => none, none⟩

variable (state : RoleBased)

def set_list (name : String) (entries : Option (List String)) : RoleBased :=
  { state with access_lists := fun other => if other = name then entries else state.access_lists other }

/-- One command. Defining a list starts it anew. -/
def step : Line → RoleBased
  | .remove name => { state.set_list name none with editing := none }
  | .define name => { state.set_list name (some []) with editing := some name }
  | .entry ace =>
    match state.editing with
    | some name => state.set_list name (some ((state.access_lists name).getD [] ++ [ace]))
    | none => state
  | .default_permission name => { state with default_list := some name, editing := none }
  | .permission source destination name =>
    { state with
      editing := none
      permissions := fun s d =>
        if s = source ∧ d = destination then some name else state.permissions s d }
  | .other => { state with editing := none }

def run (commands : List String) : RoleBased :=
  commands.foldl (fun state line => state.step (.read line)) state

/-- The entries that traffic between two tags meets. -/
def effective (source destination : Int) : List String :=
  (((state.permissions source destination).or state.default_list).bind state.access_lists).getD []

variable {state}

theorem run_append (first second : List String) : state.run (first ++ second) = (state.run first).run second :=
  List.foldl_append

theorem run_cons (line : String) (rest : List String) :
    state.run (line :: rest) = (state.step (.read line)).run rest := rfl

theorem run_nil : state.run [] = state := rfl

end RoleBased

/-- The state of a switch that is sent the blocks in order. -/
def execute (blocks : List Block) : RoleBased := RoleBased.empty.run (blocks.flatMap Block.commands)

def default_acl : String := "SDA-SGACL-DEFAULT-DENY"

/-- The contract is about traffic between these tags. -/
def between (source destination : Int) (contract : Contract) : Bool :=
  contract.source_tag = some source && contract.destination_tag = some destination

/-- The switch lets through what the contracts say and nothing else. -/
structure Faithful (contracts : List Contract) (state : RoleBased) : Prop where
  agreed : ∀ source destination, (∃ contract ∈ contracts, between source destination contract) →
    ∀ ace, ace ∈ state.effective source destination ↔
      ∃ contract ∈ contracts, between source destination contract ∧ ace ∈ contract.aces.getD []
  denied : ∀ source destination, (¬∃ contract ∈ contracts, between source destination contract) →
    state.permissions source destination = none ∧ state.default_list = some default_acl ∧
      state.effective source destination = ["deny ip"]

/-! ## The rendered commands as the switch reads them -/

/-- The words of a command that is written with single spaces. -/
theorem words_join {ws : List String} (hne : ws ≠ []) (hspace : ∀ w ∈ ws, ' ' ∉ w.toList) :
    words (join " " ws) = ws := by
  have hchars : (join " " ws).toList = [' '].intercalate (ws.map String.toList) := by
    rw [join, String.toList_intercalate]
    rfl
  rw [words, chars_eq_toList, hchars, split, List.splitOn_intercalate, List.map_map]
  · exact (List.map_congr_left fun w _ => String.ofList_toList).trans (List.map_id ws)
  · intro w hw
    obtain ⟨text, htext, rfl⟩ := List.mem_map.mp hw
    exact hspace text htext
  · simpa using hne

section Read

variable {name : String} (hname : ' ' ∉ name.toList)

include hname

theorem read_remove : Line.read ("no ip access-list role-based " ++ name) = .remove name := by
  have hline : "no ip access-list role-based " ++ name =
      join " " ["no", "ip", "access-list", "role-based", name] := by
    apply String.toList_injective
    simp [join]
  rw [Line.read, hline, words_join (by simp) (by simp [hname])]
  rfl

theorem read_define : Line.read ("ip access-list role-based " ++ name) = .define name := by
  have hline : "ip access-list role-based " ++ name = join " " ["ip", "access-list", "role-based", name] := by
    apply String.toList_injective
    simp [join]
  rw [Line.read, hline, words_join (by simp) (by simp [hname])]
  rfl

theorem read_default_permission :
    Line.read ("cts role-based permissions default " ++ name) = .default_permission name := by
  have hline : "cts role-based permissions default " ++ name =
      join " " ["cts", "role-based", "permissions", "default", name] := by
    apply String.toList_injective
    simp [join]
  rw [Line.read, hline, words_join (by simp) (by simp [hname])]
  rfl

theorem read_permission {source destination : Nat} :
    Line.read s!"cts role-based permissions from {(source : Int)} to {(destination : Int)} {name}" =
      .permission source destination name := by
  have hline : s!"cts role-based permissions from {(source : Int)} to {(destination : Int)} {name}" =
      join " " ["cts", "role-based", "permissions", "from", toString source, "to", toString destination, name] := by
    apply String.toList_injective
    show ("cts role-based permissions from " ++ toString source ++ " to " ++ toString destination ++ " " ++
      name).toList = _
    simp [join]
  have hspace : ∀ w ∈ ["cts", "role-based", "permissions", "from", toString source, "to", toString destination,
      name], ' ' ∉ w.toList := by
    have hsource : ' ' ∉ (toString source).toList := numerals.not_mem_natText rfl source
    have hdestination : ' ' ∉ (toString destination).toList := numerals.not_mem_natText rfl destination
    simp only [List.forall_mem_cons, hname, hsource, hdestination]
    simp
  rw [Line.read, hline, words_join (by simp) hspace]
  show (match decimal? (chars (toString source)), decimal? (chars (toString destination)) with
    | some source, some destination => Line.permission source destination name
    | _, _ => .other) = _
  rw [chars_eq_toList, chars_eq_toList, (numerals.decimal_toString source).1, (numerals.decimal_toString destination).1]

end Read

/-- The first word of a command, and the others. -/
theorem words_cons {first : String} (hfirst : ' ' ∉ first.toList) (rest : String) :
    words (first ++ " " ++ rest) = first :: words rest := by
  have htext : (first ++ " " ++ rest).toList = first.toList ++ ' ' :: rest.toList := by simp
  have hsplit : (first.toList ++ ' ' :: rest.toList).splitOnP (· == ' ') =
      first.toList :: rest.toList.splitOnP (· == ' ') := by
    refine List.splitOnP_append_cons_of_forall_mem (fun c hc => ?_) ' ' rfl rest.toList
    rw [beq_eq_false_iff_ne]
    rintro rfl
    exact hfirst hc
  rw [words, words, chars_eq_toList, chars_eq_toList, htext, split, List.splitOn, hsplit, List.map_cons,
    String.ofList_toList]
  rfl

theorem read_sxp (rest : String) : Line.read ("cts sxp " ++ rest) = .other := by
  have hline : "cts sxp " ++ rest = "cts" ++ " " ++ ("sxp" ++ " " ++ rest) := by
    apply String.toList_injective
    simp
  rw [Line.read, hline, words_cons (by decide), words_cons (by decide)]
  rfl

theorem read_enforcement (rest : String) : Line.read ("cts role-based enforcement " ++ rest) = .other := by
  have hline : "cts role-based enforcement " ++ rest =
      "cts" ++ " " ++ ("role-based" ++ " " ++ ("enforcement" ++ " " ++ rest)) := by
    apply String.toList_injective
    simp
  rw [Line.read, hline, words_cons (by decide), words_cons (by decide), words_cons (by decide)]
  rfl

theorem read_ace (action : Action) (protocol : Protocol) :
    Line.read (" 10 " ++ (action.text ++ " " ++ protocol.text)) = .entry (action.text ++ " " ++ protocol.text) := by
  cases action <;> cases protocol <;> decide +kernel

/-! ## What the blocks leave on the switch -/

/-- The default list denies everything, and the rest is as it was. -/
theorem run_default_deny {platform : Platform} {vlan_ids : List Int} {state : RoleBased} :
    state.run (default_deny_block platform vlan_ids).commands =
      { state.set_list default_acl (some ["deny ip"]) with
        editing := none, default_list := some default_acl } := by
  have hname : ' ' ∉ default_acl.toList := by decide
  have hvlan : Line.read ("cts role-based enforcement vlan-list " ++ _compress_integer_ranges vlan_ids) = .other :=
    read_enforcement ("vlan-list " ++ _compress_integer_ranges vlan_ids)
  have hcommands : (default_deny_block platform vlan_ids).commands = [
      "no ip access-list role-based " ++ default_acl, "ip access-list role-based " ++ default_acl,
      " 10 " ++ (Action.deny.text ++ " " ++ Protocol.ip.text), "cts role-based permissions default " ++ default_acl,
      "cts role-based enforcement vlan-list " ++ _compress_integer_ranges vlan_ids] := by
    refine List.filter_eq_self.mpr ?_
    simp
  rw [hcommands]
  simp only [RoleBased.run_cons, RoleBased.run_nil, read_remove hname, read_define hname, read_ace,
    read_default_permission hname, hvlan, RoleBased.step, RoleBased.set_list]
  congr 1
  funext other
  split
  · rfl
  · rfl

/-- Every command of a speaker is about SXP. -/
theorem sxp_command {platform : Platform} {policy : PolicyPlane} {device : Device} {blocks : List Block}
    (hblocks : sxp_blocks platform policy device = .ok blocks) {line : String}
    (hline : line ∈ blocks.flatMap Block.commands) : ∃ rest, line = "cts sxp " ++ rest := by
  obtain ⟨block, hblock, hline⟩ := List.mem_flatMap.mp hline
  have hspeaker {source_ip password_ref vrf_suffix : String} {connections : List SxpConnection}
      (hsame : [_block platform "sxp_speaker" (
        ["cts sxp enable", "cts sxp default source-ip " ++ source_ip,
          s!"cts sxp default password <secret:{password_ref}>"] ++
        connections.map (fun connection =>
          "cts sxp connection peer " ++ connection.listener_ip.str ++
            " password default mode local speaker" ++ vrf_suffix) ++
        ["cts sxp log binding-changes"]) [password_ref]] = blocks) : ∃ rest, line = "cts sxp " ++ rest := by
    rw [← hsame, List.mem_singleton] at hblock
    subst hblock
    have hmem := List.mem_of_mem_filter hline
    simp only [List.mem_append, List.mem_cons, List.mem_map, List.not_mem_nil, or_false] at hmem
    obtain ((rfl | rfl | rfl) | ⟨connection, -, rfl⟩) | rfl := hmem
    · exact ⟨"enable", rfl⟩
    · exact ⟨"default source-ip " ++ source_ip, by apply String.toList_injective; simp⟩
    · refine ⟨"default password <secret:" ++ (password_ref ++ ">"), ?_⟩
      show "cts sxp default password <secret:" ++ password_ref ++ ">" = _
      apply String.toList_injective
      simp
    · refine ⟨"connection peer " ++ (connection.listener_ip.str ++
        (" password default mode local speaker" ++ vrf_suffix)), ?_⟩
      apply String.toList_injective
      simp
    · exact ⟨"log binding-changes", rfl⟩
  unfold sxp_blocks at hblocks
  dsimp only at hblocks
  split at hblocks
  · cases hblocks
    cases hblock
  · simp only [bind_eq_ok_iff] at hblocks
    obtain ⟨source_ips, -, transport_vrfs, -, hblocks⟩ := hblocks
    split at hblocks
    · split at hblocks
      · exact hspeaker (pure_eq_ok_iff.mp hblocks)
      · simp only [bind_eq_ok_iff] at hblocks
        obtain ⟨vrf, -, vrf_suffix, -, hblocks⟩ := hblocks
        exact hspeaker (pure_eq_ok_iff.mp hblocks)
    · cases hblocks
    · cases hblocks
    · cases hblocks

/-- Commands that are not about access control leave it as it is. -/
theorem run_other {commands : List String} (hother : ∀ line ∈ commands, Line.read line = .other)
    (state : RoleBased) : ∃ editing, state.run commands = { state with editing } := by
  induction commands generalizing state with
  | nil => exact ⟨state.editing, rfl⟩
  | cons line rest ih =>
    rw [List.forall_mem_cons] at hother
    obtain ⟨editing, hrest⟩ := ih hother.2 (state.step (.read line))
    refine ⟨editing, ?_⟩
    rw [RoleBased.run_cons, hrest, hother.1]
    rfl

section Contracts

variable {texts : Texts} {intent : FabricIntent} {policy : PolicyPlane}
  (haccepted : Accepted texts intent) (hpolicy : intent.policy_plane = some policy)

/-- The entry that a contract allows. -/
def ace_of (contract : Contract) : String := contract.action.text ++ " " ++ contract.protocol.text

/-- The list of a contract and the tags that it is about. -/
structure Cell (contract : Contract) (name : String) (source destination : Int) : Prop where
  sgacl_name : contract.sgacl_name = some name
  owned : name ≠ default_acl
  source_tag : contract.source_tag = some source
  destination_tag : contract.destination_tag = some destination
  aces : contract.aces = some [ace_of contract]

include haccepted hpolicy

/-- The block of a contract gives its pair of tags a list with its one entry. -/
theorem run_contract {platform : Platform} {contract : Contract} {block : Block}
    (hcontract : contract ∈ policy.contracts) (hblock : contract_block platform contract = .ok block) :
    ∃ name source destination, Cell contract name source destination ∧
      ∀ state : RoleBased, state.run block.commands =
        (state.set_list name (some [ace_of contract])).step (.permission source destination name) := by
  obtain ⟨⟨from_name, to_name, -, -, hfrom, hto⟩, haces, hpattern⟩ := checked_contract haccepted hpolicy hcontract
  simp only [contract_block, bind_eq_ok_iff, require_eq_ok, safe_token_eq_ok_iff, pure_eq_ok_iff] at hblock
  obtain ⟨name, hname, _, ⟨hsafe, rfl⟩, aces, hlisted, lines, hlines, source, hsource, destination, hdestination,
    rfl⟩ := hblock
  obtain rfl : aces = [ace_of contract] := Option.some.inj (hlisted.symm.trans haces)
  have hspace : ' ' ∉ name.toList := by
    intro hmem
    simp only [safe_text, chars_eq_toList, Bool.and_eq_true, List.all_eq_true] at hsafe
    cases hsafe.2 ' ' hmem
  have hname_ne : name ≠ default_acl := by
    rintro rfl
    rw [hname] at hpattern
    revert hpattern
    decide +kernel
  obtain rfl : lines = [" 10 " ++ ace_of contract] := by
    have hline := mapM_eq_ok_iff.mp hlines
    simp only [List.zipIdx_cons, List.zipIdx_nil] at hline
    obtain _ | ⟨hline, hrest⟩ := hline
    cases hrest
    simp only [ace_line, bind_eq_ok_iff, safe_spaced_eq_ok_iff, pure_eq_ok_iff] at hline
    obtain ⟨_, ⟨-, rfl⟩, rfl⟩ := hline
    rfl
  have hnonneg {text : String} {tag : Int} {read : Option Int}
      (htag : read = assoc.lookup text (group_tag_values policy.security_groups)) (hread : read = some tag) :
      ∃ n : Nat, tag = n := by
    obtain ⟨group, hgroup, -, hknown⟩ := group_of_tag (htag.symm.trans hread)
    have hbound := (group_of_accepted haccepted hpolicy hgroup).1
    have hsome : (integer (some group.tag) 2 65519).isSome := by
      rw [SecurityGroup.known_tag] at hknown
      rw [hknown]
      rfl
    rw [SecurityGroup.known_tag, integer_eq hsome] at hknown
    obtain rfl := Option.some.inj hknown
    exact Int.eq_ofNat_of_zero_le (by omega)
  obtain ⟨source, rfl⟩ := hnonneg hfrom hsource
  obtain ⟨destination, rfl⟩ := hnonneg hto hdestination
  refine ⟨name, source, destination, ⟨hname, hname_ne, hsource, hdestination, hlisted⟩, fun state => ?_⟩
  have hcommands : (plain_block platform ("policy_contract_" ++ name) (
      ["no ip access-list role-based " ++ name, "ip access-list role-based " ++ name] ++
      [" 10 " ++ ace_of contract] ++
      [s!"cts role-based permissions from {(source : Int)} to {(destination : Int)} {name}"])).commands =
      ["no ip access-list role-based " ++ name, "ip access-list role-based " ++ name, " 10 " ++ ace_of contract,
        s!"cts role-based permissions from {(source : Int)} to {(destination : Int)} {name}"] := by
    have hpermission : s!"cts role-based permissions from {(source : Int)} to {(destination : Int)} {name}" ≠ "" := by
      rw [← String.toList_inj.ne]
      show ("cts role-based permissions from " ++ toString (source : Int) ++ " to " ++
        toString (destination : Int) ++ " " ++ name).toList ≠ _
      simp
    refine List.filter_eq_self.mpr ?_
    simp only [List.cons_append, List.nil_append, List.forall_mem_cons, decide_eq_true_eq]
    exact ⟨by simp, by simp, by simp, hpermission, fun _ hnone => absurd hnone List.not_mem_nil⟩
  rw [hcommands]
  simp only [RoleBased.run_cons, RoleBased.run_nil, read_remove hspace, read_define hspace, ace_of, read_ace,
    read_permission hspace, RoleBased.step, RoleBased.set_list]
  congr 1
  funext other
  split
  · rfl
  · rfl

end Contracts

/-! ## The state that the contracts leave -/

/-- The last contract in order that meets a condition. -/
def last_of (contracts : List Contract) (condition : Contract → Bool) : Option Contract :=
  (contracts.filter condition).getLast?

theorem last_of_concat {contracts : List Contract} {contract : Contract} {condition : Contract → Bool} :
    last_of (contracts ++ [contract]) condition =
      if condition contract then some contract else last_of contracts condition := by
  rw [last_of, List.filter_append]
  cases hcondition : condition contract <;> simp [hcondition, last_of]

theorem last_of_eq_some {contracts : List Contract} {condition : Contract → Bool} {contract : Contract}
    (hlast : last_of contracts condition = some contract) : contract ∈ contracts ∧ condition contract = true :=
  List.mem_filter.mp (List.mem_of_getLast? hlast)

theorem last_of_isSome_iff {contracts : List Contract} {condition : Contract → Bool} :
    (last_of contracts condition).isSome ↔ ∃ contract ∈ contracts, condition contract = true := by
  rw [last_of, Option.isSome_iff_ne_none, ne_eq, List.getLast?_eq_none_iff, List.filter_eq_nil_iff]
  simp

/-- Each pair of tags has the list of its last contract, and each list the entry of the last
contract that defines it. -/
structure Configured (contracts : List Contract) (state : RoleBased) : Prop where
  permissions : ∀ source destination, state.permissions source destination =
    (last_of contracts (between source destination)).bind (·.sgacl_name)
  access_lists : ∀ name, name ≠ default_acl → state.access_lists name =
    (last_of contracts fun contract => contract.sgacl_name = some name).map fun contract => [ace_of contract]
  default_list : state.default_list = some default_acl
  default_entries : state.access_lists default_acl = some ["deny ip"]

theorem Configured.initial (platform : Platform) (vlan_ids : List Int) :
    Configured [] (RoleBased.empty.run (default_deny_block platform vlan_ids).commands) := by
  rw [run_default_deny]
  refine ⟨fun _ _ => rfl, fun name hname => ?_, rfl, ?_⟩
  · exact if_neg hname
  · show (if default_acl = default_acl then some ["deny ip"] else none) = _
    rw [if_pos rfl]

/-- One more contract is the last one of its pair of tags and of its list. -/
theorem Configured.concat {contracts : List Contract} {state : RoleBased}
    (hconfigured : Configured contracts state) {contract : Contract} {name : String} {source destination : Int}
    (hcell : Cell contract name source destination) :
    Configured (contracts ++ [contract])
      ((state.set_list name (some [ace_of contract])).step (.permission source destination name)) where
  permissions s d := by
    rw [last_of_concat]
    show (if s = source ∧ d = destination then some name else state.permissions s d) = _
    by_cases hpair : s = source ∧ d = destination
    · obtain ⟨rfl, rfl⟩ := hpair
      rw [if_pos ⟨rfl, rfl⟩, if_pos (by simp [between, hcell.source_tag, hcell.destination_tag]), Option.bind_some,
        hcell.sgacl_name]
    · rw [if_neg hpair, if_neg, hconfigured.permissions]
      intro hbetween
      simp only [between, hcell.source_tag, hcell.destination_tag, Bool.and_eq_true, decide_eq_true_eq,
        Option.some.injEq] at hbetween
      exact hpair ⟨hbetween.1.symm, hbetween.2.symm⟩
  access_lists other hother := by
    rw [last_of_concat]
    show (if other = name then some [ace_of contract] else state.access_lists other) = _
    by_cases hsame : other = name
    · rw [if_pos hsame, if_pos (by simp [hcell.sgacl_name, hsame]), Option.map_some]
    · rw [if_neg hsame, if_neg (by simpa [hcell.sgacl_name] using Ne.symm hsame),
        hconfigured.access_lists other hother]
  default_list := hconfigured.default_list
  default_entries := by
    show (if default_acl = name then _ else state.access_lists default_acl) = _
    rw [if_neg hcell.owned.symm, hconfigured.default_entries]

/-- The blocks of contracts, in order, extend what is configured. -/
theorem Configured.run {platform : Platform} {texts : Texts} {intent : FabricIntent} {policy : PolicyPlane}
    (haccepted : Accepted texts intent) (hpolicy : intent.policy_plane = some policy)
    {earlier contracts : List Contract} {blocks : List Block} {state : RoleBased}
    (hmem : ∀ contract ∈ contracts, contract ∈ policy.contracts)
    (hblocks : contracts.mapM (contract_block platform) = .ok blocks) (hconfigured : Configured earlier state) :
    Configured (earlier ++ contracts) (state.run (blocks.flatMap Block.commands)) := by
  rw [mapM_eq_ok_iff] at hblocks
  induction hblocks generalizing earlier state with
  | nil => rwa [List.append_nil]
  | @cons contract block rest blocks hblock _ ih =>
    rw [List.forall_mem_cons] at hmem
    obtain ⟨name, source, destination, hcell, hrun⟩ := run_contract haccepted hpolicy hmem.1 hblock
    rw [List.flatMap_cons, RoleBased.run_append, hrun, List.append_cons]
    exact ih hmem.2 (hconfigured.concat hcell)

section Effective

variable {contracts : List Contract} {state : RoleBased} (hconfigured : Configured contracts state)

include hconfigured

/-- A pair of tags without a contract is left to the default list. -/
theorem Configured.uncovered {source destination : Int}
    (hnone : ¬∃ contract ∈ contracts, between source destination contract) :
    state.permissions source destination = none ∧ state.default_list = some default_acl ∧
      state.effective source destination = ["deny ip"] := by
  have hlast : last_of contracts (between source destination) = none := by
    rwa [← last_of_isSome_iff, Option.not_isSome_iff_eq_none] at hnone
  have hpermission : state.permissions source destination = none := by
    rw [hconfigured.permissions, hlast, Option.bind_none]
  refine ⟨hpermission, hconfigured.default_list, ?_⟩
  rw [RoleBased.effective, hpermission, Option.none_or, hconfigured.default_list, Option.bind_some,
    hconfigured.default_entries, Option.getD_some]

variable (hcells : ∀ contract ∈ contracts, ∃ name source destination, Cell contract name source destination)

include hcells

/-- A pair of tags with a contract meets the entry of the last contract that defines the list of the
pair's last contract. -/
theorem Configured.covered {source destination : Int}
    (hsome : ∃ contract ∈ contracts, between source destination contract) :
    ∃ last ∈ contracts, between source destination last ∧
      ∃ final, last_of contracts (fun contract => contract.sgacl_name = last.sgacl_name) = some final ∧
        state.effective source destination = [ace_of final] := by
  obtain ⟨last, hlast⟩ := Option.isSome_iff_exists.mp (last_of_isSome_iff.mpr hsome)
  obtain ⟨hmem, hbetween⟩ := last_of_eq_some hlast
  obtain ⟨name, _, _, hcell⟩ := hcells last hmem
  have hdefined : ∃ contract ∈ contracts, (decide (contract.sgacl_name = some name)) = true :=
    ⟨last, hmem, decide_eq_true hcell.sgacl_name⟩
  obtain ⟨final, hfinal⟩ := Option.isSome_iff_exists.mp (last_of_isSome_iff.mpr hdefined)
  refine ⟨last, hmem, hbetween, final, ?_, ?_⟩
  · rwa [hcell.sgacl_name]
  · rw [RoleBased.effective, hconfigured.permissions, hlast, Option.bind_some, hcell.sgacl_name, Option.some_or,
      Option.bind_some, hconfigured.access_lists name hcell.owned, hfinal, Option.map_some, Option.getD_some]

end Effective

/-- Each pair of tags has one contract, and contracts that share a list agree on its entries. -/
structure Separate (contracts : List Contract) : Prop where
  pairs : contracts.Pairwise fun first second => ¬(first.source_tag = second.source_tag ∧
    first.destination_tag = second.destination_tag)
  lists : ∀ first ∈ contracts, ∀ second ∈ contracts, first.sgacl_name = second.sgacl_name →
    first.aces = second.aces

theorem ace_of_injective {first second : Contract} (hsame : ace_of first = ace_of second) :
    first.protocol = second.protocol := by
  revert hsame
  rw [ace_of, ace_of]
  cases first.action <;> cases second.action <;> cases first.protocol <;> cases second.protocol <;> decide

/-- A contract of its pair, where pairs have one contract each. -/
theorem eq_of_between {contracts : List Contract} {source destination : Int}
    (hpairs : contracts.Pairwise fun first second => ¬(first.source_tag = second.source_tag ∧
      first.destination_tag = second.destination_tag)) {first second : Contract}
    (hfirst : first ∈ contracts) (hsecond : second ∈ contracts) (hbetween : between source destination first)
    (hbetween' : between source destination second) : first = second := by
  have : Std.Symm fun first second : Contract => ¬(first.source_tag = second.source_tag ∧
      first.destination_tag = second.destination_tag) :=
    ⟨fun first second h hsame => h ⟨hsame.1.symm, hsame.2.symm⟩⟩
  simp only [between, Bool.and_eq_true, decide_eq_true_eq] at hbetween hbetween'
  by_contra hne
  exact hpairs.forall hfirst hsecond hne
    ⟨hbetween.1.trans hbetween'.1.symm, hbetween.2.trans hbetween'.2.symm⟩

section Faithful

variable {contracts listed : List Contract} {state : RoleBased}
  (hconfigured : Configured listed state) (hlisted : ∀ contract, contract ∈ listed ↔ contract ∈ contracts)
  (hcells : ∀ contract ∈ contracts, ∃ name source destination, Cell contract name source destination)

include hconfigured hlisted hcells

theorem faithful_of_separate (hseparate : Separate contracts) : Faithful contracts state where
  agreed source destination hsome ace := by
    have hcells_listed := hcells
    simp only [← hlisted] at hcells_listed hsome
    obtain ⟨last, hlast, hbetween, final, hfinal, heffective⟩ := hconfigured.covered hcells_listed hsome
    obtain ⟨hfinal, hname⟩ := last_of_eq_some hfinal
    rw [hlisted] at hlast hfinal
    obtain ⟨_, _, _, hcell_last⟩ := hcells last hlast
    obtain ⟨_, _, _, hcell_final⟩ := hcells final hfinal
    have haces := hseparate.lists final hfinal last hlast (of_decide_eq_true hname)
    rw [hcell_final.aces] at haces
    constructor
    · intro hmem
      refine ⟨last, hlast, hbetween, ?_⟩
      rwa [← haces, Option.getD_some, ← heffective]
    · rintro ⟨contract, hcontract, hbetween', hmem⟩
      obtain rfl := eq_of_between hseparate.pairs hcontract hlast hbetween' hbetween
      rwa [← haces, Option.getD_some, ← heffective] at hmem
  denied source destination hnone := by
    simp only [← hlisted] at hnone
    exact hconfigured.uncovered hnone

variable (hfaithful : Faithful contracts state)

include hfaithful

/-- A pair with a contract meets its one entry. -/
theorem Faithful.effective_eq {source destination : Int} {contract : Contract} (hcontract : contract ∈ contracts)
    (hbetween : between source destination contract) :
    state.effective source destination = [ace_of contract] := by
  have hsome : ∃ contract ∈ contracts, between source destination contract := ⟨contract, hcontract, hbetween⟩
  obtain ⟨_, _, _, hcell⟩ := hcells contract hcontract
  have hmem : ace_of contract ∈ state.effective source destination := by
    refine (hfaithful.agreed source destination hsome _).mpr ⟨contract, hcontract, hbetween, ?_⟩
    rw [hcell.aces]
    exact List.mem_singleton_self _
  simp only [← hlisted] at hcells hsome
  obtain ⟨_, _, _, final, _, heffective⟩ := hconfigured.covered hcells hsome
  rw [heffective, List.mem_singleton] at hmem
  rw [heffective, hmem]

/-- Contracts that share a list have the same entry, where each pair has one contract. -/
theorem Faithful.lists (hpairs : contracts.Pairwise fun first second =>
      ¬(first.source_tag = second.source_tag ∧ first.destination_tag = second.destination_tag)) :
    ∀ first ∈ contracts, ∀ second ∈ contracts, first.sgacl_name = second.sgacl_name →
      first.aces = second.aces := by
  -- the list of a contract has the entry of the last contract that defines it
  have hfinal : ∀ contract ∈ contracts, ∃ final,
      last_of listed (fun other => other.sgacl_name = contract.sgacl_name) = some final ∧
        contract.aces = some [ace_of final] := by
    intro contract hcontract
    obtain ⟨name, source, destination, hcell⟩ := hcells contract hcontract
    have hbetween : between source destination contract = true := by
      simp [between, hcell.source_tag, hcell.destination_tag]
    have heffective := hfaithful.effective_eq hconfigured hlisted hcells hcontract hbetween
    simp only [← hlisted] at hcells
    obtain ⟨last, hlast, hlast_between, final, hfinal, hentries⟩ :=
      hconfigured.covered hcells ⟨contract, (hlisted contract).mpr hcontract, hbetween⟩
    obtain rfl := eq_of_between hpairs hcontract ((hlisted last).mp hlast) hbetween hlast_between
    exact ⟨final, hfinal, by rw [hcell.aces, ← heffective, hentries]⟩
  intro first hfirst second hsecond hname
  obtain ⟨final, hlast, haces⟩ := hfinal first hfirst
  obtain ⟨final', hlast', haces'⟩ := hfinal second hsecond
  rw [hname, hlast', Option.some.injEq] at hlast
  rw [haces, haces', hlast]

end Faithful

section Rendered

variable {platform : Platform} {texts : Texts} {intent : FabricIntent} {policy : PolicyPlane}

theorem contracts_of_perm {listed : List Contract} (hlisted : contracts_of policy = .ok listed) :
    listed.Perm policy.contracts := by
  simp only [contracts_of, bind_eq_ok_iff, pure_eq_ok_iff, mapM_eq_ok_iff] at hlisted
  obtain ⟨named, hnamed, rfl⟩ := hlisted
  have hsnd : named.map Prod.snd = policy.contracts := by
    have hsame : List.Forall₂ (fun contract listed => listed = contract) policy.contracts
        (named.map Prod.snd) := by
      rw [List.forall₂_map_right_iff]
      refine hnamed.imp fun contract entry hread => ?_
      obtain ⟨_, -, rfl⟩ := hread
      rfl
    rw [← List.forall₂_eq_eq_eq]
    exact hsame.flip
  rw [← hsnd]
  exact (List.perm_insertionSort _ named).map Prod.snd

/-- What the rendered blocks leave on an enforcement device. -/
theorem configured_of_rendered (haccepted : Accepted texts intent) (hpolicy : intent.policy_plane = some policy)
    (hmode : policy.mode = .sxp) {device : Device} (hdevice : device.id ∈ policy.enforcement_device_ids.getD [])
    {blocks : List Block} (hblocks : _policy_plane_blocks platform intent device = .ok blocks) :
    ∃ listed, Configured listed (execute blocks) ∧ listed.Perm policy.contracts ∧
      ∀ contract ∈ policy.contracts, ∃ name source destination, Cell contract name source destination := by
  have hplane : intent.policy_plane.filter (·.mode ≠ .none) = some policy := by
    rw [hpolicy, Option.filter_some, if_pos (by rw [hmode]; rfl)]
  simp only [_policy_plane_blocks, hplane, enforcement_blocks, hdevice, hmode, ↓reduceIte, bind_eq_ok_iff,
    pure_eq_ok_iff] at hblocks
  obtain ⟨_, ⟨listed, hlisted, contracts, hcontracts, rfl⟩, sxp, hsxp, rfl⟩ := hblocks
  have hperm := contracts_of_perm hlisted
  have hmem : ∀ contract ∈ listed, contract ∈ policy.contracts := fun contract => hperm.mem_iff.mp
  refine ⟨listed, ?_, hperm, fun contract hcontract => ?_⟩
  · have hdefault := Configured.initial platform (policy.enforcement_vlan_ids.getD [])
    have hconfigured := hdefault.run haccepted hpolicy hmem hcontracts
    have hother : ∀ line ∈ sxp.flatMap Block.commands, Line.read line = .other := by
      intro line hline
      obtain ⟨rest, rfl⟩ := sxp_command hsxp hline
      exact read_sxp rest
    rw [execute, List.cons_append, List.flatMap_cons, List.flatMap_append, RoleBased.run_append,
      RoleBased.run_append]
    obtain ⟨editing, hsame⟩ := run_other hother ((RoleBased.empty.run
      (default_deny_block platform (policy.enforcement_vlan_ids.getD [])).commands).run
        (contracts.flatMap Block.commands))
    rw [hsame]
    exact ⟨hconfigured.permissions, hconfigured.access_lists, hconfigured.default_list,
      hconfigured.default_entries⟩
  · obtain ⟨block, -, hblock⟩ := exists_of_mapM hcontracts (hperm.mem_iff.mpr hcontract)
    obtain ⟨name, source, destination, hcell, -⟩ := run_contract haccepted hpolicy hcontract hblock
    exact ⟨name, source, destination, hcell⟩

/-- On a device that enforces the policy, the switch lets through what the contracts say exactly when no
two of them are about the same pair of tags, and those that share a list agree on its entries. -/
theorem rendered_faithful_iff (hvalid : (validate_intent texts intent).is_valid)
    (hpolicy : intent.policy_plane = some policy) (hmode : policy.mode = .sxp) {device : Device}
    (hdevice : device.id ∈ policy.enforcement_device_ids.getD []) {blocks : List Block}
    (hblocks : _policy_plane_blocks platform intent device = .ok blocks) :
    Faithful policy.contracts (execute blocks) ↔ Separate policy.contracts := by
  have haccepted := accepted_of_is_valid hvalid
  obtain ⟨listed, hconfigured, hperm, hcells⟩ := configured_of_rendered haccepted hpolicy hmode hdevice hblocks
  have hlisted : ∀ contract, contract ∈ listed ↔ contract ∈ policy.contracts := fun contract => hperm.mem_iff
  refine ⟨fun hfaithful => ?_, faithful_of_separate hconfigured hlisted hcells⟩
  have hpairs : policy.contracts.Pairwise fun first second =>
      ¬(first.source_tag = second.source_tag ∧ first.destination_tag = second.destination_tag) := by
    refine (protocols_pairwise haccepted hpolicy).imp_of_mem fun {first second} hfirst hsecond hprotocol hsame => ?_
    obtain ⟨_, source, destination, hcell⟩ := hcells first hfirst
    have hbetween : between source destination first := by
      simp [between, hcell.source_tag, hcell.destination_tag]
    have hbetween' : between source destination second := by
      simp [between, ← hsame.1, ← hsame.2, hcell.source_tag, hcell.destination_tag]
    have heffective := hfaithful.effective_eq hconfigured hlisted hcells hfirst hbetween
    rw [hfaithful.effective_eq hconfigured hlisted hcells hsecond hbetween', List.cons.injEq] at heffective
    refine hprotocol source destination hcell.source_tag hcell.destination_tag ?_ ?_
      (ace_of_injective heffective.1.symm)
    · rw [← hsame.1, hcell.source_tag]
    · rw [← hsame.2, hcell.destination_tag]
  exact ⟨hpairs, hfaithful.lists hconfigured hlisted hcells hpairs⟩

end Rendered

/-- The lab fabric whose edge enforces contracts and tells ISE its bindings. -/
def lab_sxp (contracts : List Contract) : PolicyPlane :=
  { lab_policy contracts with
    mode := .sxp
    ise := none
    sxp := some {
      connections := [{
        id := "sxp-01", speaker_id := "edge-01", transport_vrf := some "global"
        source_ip := some (.ofOctets 10 255 1 11), listener_ip := .ofOctets 10 20 0 31
        listener_prefix := some "10.20.0.0/24", password_ref := "secret://sda-lab/sxp/password"
        local_mode := some () }] } }

def lab_edge : Device where
  id := "edge-01"
  hostname := "SJC23-EDGE-01"
  site := "SJC23"
  platform := "C9300X-48HXN"
  software_version := "17.18.3"
  management_ip := .ofOctets 192 0 2 11
  dashboard_management_ip := none
  loopback0_ip := .ofOctets 10 255 1 11
  roles := [.fabric_edge]
  credential_ref := "secret://sda-lab/devices/edge-01"

/-- The policy plane of the lab edge, and what its switch then lets through between two tags. -/
def lab_effective (contracts : List Contract) : Py (List String) := do
  let blocks ← _policy_plane_blocks cpython (lab_policy_intent (lab_sxp contracts)) lab_edge
  return (execute blocks).effective 10 20

theorem rendered_faithful_lab :
    ∃ blocks, _policy_plane_blocks cpython (lab_policy_intent (lab_sxp [lab_web])) lab_edge = .ok blocks ∧
      (Faithful [lab_web] (execute blocks) ↔ Separate [lab_web]) := by
  have hmap : (lab_effective [lab_web]).toOption.isSome := by decide +kernel
  have hvalid : (validate_intent plain_texts (lab_policy_intent (lab_sxp [lab_web]))).is_valid := by decide +kernel
  have hdevice : lab_edge.id ∈ (lab_sxp [lab_web]).enforcement_device_ids.getD [] := by decide
  unfold lab_effective at hmap
  cases hblocks : _policy_plane_blocks cpython (lab_policy_intent (lab_sxp [lab_web])) lab_edge with
  | error raised =>
    rw [hblocks] at hmap
    cases hmap
  | ok blocks => exact ⟨blocks, rfl, rendered_faithful_iff hvalid rfl rfl hdevice hblocks⟩

/-- Two contracts that let two protocols through between the same groups: the second list takes the place of
the first, and its protocol is dropped. -/
theorem rendered_not_faithful :
    (validate_intent plain_texts (lab_policy_intent (lab_sxp [lab_web, lab_voice]))).is_valid ∧
      lab_edge ∈ (lab_policy_intent (lab_sxp [lab_web, lab_voice])).devices ∧
      ∃ blocks, _policy_plane_blocks cpython (lab_policy_intent (lab_sxp [lab_web, lab_voice])) lab_edge =
        .ok blocks ∧ ¬Faithful [lab_web, lab_voice] (execute blocks) := by
  have hentries : (lab_effective [lab_web, lab_voice]).toOption = some ["permit tcp"] := by decide +kernel
  refine ⟨by decide +kernel, List.mem_cons_of_mem _ List.mem_cons_self, ?_⟩
  unfold lab_effective at hentries
  cases hblocks : _policy_plane_blocks cpython (lab_policy_intent (lab_sxp [lab_web, lab_voice])) lab_edge with
  | error raised =>
    rw [hblocks] at hentries
    cases hentries
  | ok blocks =>
    rw [hblocks] at hentries
    obtain hentries : (execute blocks).effective 10 20 = ["permit tcp"] := Option.some.inj hentries
    refine ⟨blocks, rfl, fun hfaithful => ?_⟩
    have hvoice : "permit udp" ∈ (execute blocks).effective 10 20 :=
      (hfaithful.agreed 10 20 ⟨lab_voice, by simp, by decide⟩ "permit udp").mpr
        ⟨lab_voice, by simp, by decide, by decide⟩
    rw [hentries] at hvoice
    revert hvoice
    decide

end orchestrator.renderer
