import Mathlib.Logic.Function.Basic
import SdaOrchestrator.Adapters.IosXe
import SdaOrchestrator.Store.Cpython

open python effects regex regex.Regex

namespace orchestrator.adapters

open orchestrator.store (Platform cpython)

/-! ## The device -/

/-- A device in a hidden state: its running configuration, the files on its flash, whether
it carries out a copy of the running configuration to a file, the copy that waits for a
confirmation, and how it answers. -/
structure Device (σ Config : Type) where
  running : σ → Config
  flash : σ → String → Option Config
  stores : σ → String → Bool
  awaiting : σ → Option String
  respond : Sent → Program σ Raised String

section Laws

variable {σ Config : Type} (device : Device σ Config)

/-- The running configuration and the flash are as before. -/
def Device.Unchanged (s t : σ) : Prop :=
  device.running t = device.running s ∧ device.flash t = device.flash s

/-- A copy stores the running configuration or leaves the flash as it was. -/
structure Device.Copied (s t : σ) (filename : String) : Prop where
  running : device.running t = device.running s
  flash : device.flash t =
    if device.stores s filename then Function.update (device.flash s) filename (some (device.running s))
    else device.flash s
  awaiting : device.awaiting t = none

/-- The device asks for the destination before it copies. -/
structure Device.Asked (s t : σ) (filename : String) (answer : Except Raised String) : Prop where
  unchanged : device.Unchanged s t
  stores : device.stores t filename = device.stores s filename
  awaiting : device.awaiting t = some filename
  prompt : ∃ text, answer = .ok text ∧ contains "destination filename" (lower text)

/-- `No changes were found`, in any case. -/
def reports_no_changes (text : String) : Prop :=
  "no changes were found".toList <:+: text.toList.map ignore_case

/-- How a device answers the commands of the adapter. -/
structure Device.Behaves : Prop where
  copy : ∀ s filename answer t,
    device.respond (.send_command_timing ("copy running-config flash:" ++ filename)) s = (answer, t) →
      device.Copied s t filename ∨ device.Asked s t filename answer
  confirm : ∀ s answer t, device.respond (.send_command_timing "") s = (answer, t) →
    match device.awaiting s with
    | some filename => device.Copied s t filename
    | none => device.Unchanged s t
  /-- A listing of the file, or an error line that names it. -/
  dir : ∀ s filename answer t, device.respond (.send_command ("dir flash:" ++ filename)) s = (answer, t) →
    device.Unchanged s t ∧ ∀ text, answer = .ok text → contains filename text
  /-- The configuration may be replaced in whole, in part or not at all. -/
  replace : ∀ s filename answer t,
    device.respond (.send_command_timing ("configure replace flash:" ++ filename ++ " force")) s = (answer, t) →
      device.flash t = device.flash s
  differences : ∀ s filename text t,
    device.respond
        (.send_command ("show archive config differences flash:" ++ filename ++ " system:running-config")) s =
      (.ok text, t) → reports_no_changes text → device.flash s filename = some (device.running s)
  display : ∀ s rest answer t, device.respond (.send_command ("show " ++ rest)) s = (answer, t) →
    device.Unchanged s t
  configure : ∀ s commands answer t, device.respond (.send_config_set commands) s = (answer, t) →
    device.flash t = device.flash s

end Laws

/-! ## Runs of the adapter -/

/-- The calls on the adapter of one device. -/
inductive Operation where
  | run_show (command : String)
  | create_checkpoint (run_id : String)
  | apply_block (commands : List String)
  | rollback (checkpoint : String)

def Operation.session (platform : Platform) (connection : Bool) : Operation → Session Value
  | .run_show command => adapters.run_show platform connection command
  | .create_checkpoint run_id => adapters.create_checkpoint platform connection run_id
  | .apply_block commands => adapters.apply_block platform connection commands
  | .rollback checkpoint => adapters.rollback platform connection checkpoint

/-- A call: whether the connection is open, and the operation. -/
abbrev Call := Bool × Operation

section Runs

variable {σ Config : Type} (platform : Platform) (device : Device σ Config)

/-- What a call returns, and the state in which it leaves the device. -/
def Device.perform (s : σ) (call : Call) : Except Raised Value × σ :=
  (call.2.session platform call.1).run device.respond s

/-- The state after a sequence of calls. -/
def Device.after (start : σ) (calls : List Call) : σ :=
  calls.foldl (fun s call => (device.perform platform s call).2) start

/-- The call returns evidence that says `"verified": True`. -/
def Device.Verifies (s : σ) (call : Call) : Prop :=
  ∃ evidence, (device.perform platform s call).1 = .ok evidence ∧ evidence.item "verified" = .ok (.bool true)

/-- A verified checkpoint holds the configuration that was running at the call, and until
its file is written again a verified rollback brings that configuration back. -/
structure Device.Sound (start : σ) (calls : List Call) : Prop where
  checkpoint : ∀ before connection run_id rest,
    calls = before ++ (connection, .create_checkpoint run_id) :: rest →
    device.Verifies platform (device.after platform start before) (connection, .create_checkpoint run_id) →
    device.flash (device.after platform start (before ++ [(connection, .create_checkpoint run_id)]))
        (checkpoint_file run_id) =
      some (device.running (device.after platform start before))
  rollback : ∀ before connection run_id between connection' rest,
    calls = before ++ (connection, .create_checkpoint run_id) :: between ++
      (connection', .rollback ("flash:" ++ checkpoint_file run_id)) :: rest →
    (∀ call ∈ between, ∀ other, call.2 = .create_checkpoint other →
      checkpoint_file other ≠ checkpoint_file run_id) →
    device.Verifies platform (device.after platform start before) (connection, .create_checkpoint run_id) →
    device.Verifies platform
      (device.after platform start (before ++ (connection, .create_checkpoint run_id) :: between))
      (connection', .rollback ("flash:" ++ checkpoint_file run_id)) →
    device.running (device.after platform start (before ++ (connection, .create_checkpoint run_id) :: between ++
        [(connection', .rollback ("flash:" ++ checkpoint_file run_id))])) =
      device.running (device.after platform start before)

/-- The device answers the copy, its confirmation and the listing. -/
def Device.Answers (s : σ) (filename : String) : Prop :=
  ∃ u, (∃ response t,
      device.respond (.send_command_timing ("copy running-config flash:" ++ filename)) s = (.ok response, t) ∧
        if contains "destination filename" (lower response) then
          ∃ confirmation, device.respond (.send_command_timing "") t = (.ok confirmation, u)
        else u = t) ∧
    ∃ listing v, device.respond (.send_command ("dir flash:" ++ filename)) u = (.ok listing, v)

/-- The copy is carried out, or the file already holds the running configuration. -/
def Device.Preserved (s : σ) (filename : String) : Prop :=
  device.stores s filename ∨ device.flash s filename = some (device.running s)

end Runs

/-! ## What the commands do -/

section Sessions

variable {σ Config : Type} {platform : Platform} {device : Device σ Config} {s t : σ}

/-- Reading lower case turns no text that occurs into one that does not. -/
theorem contains_lower {part text : String} (h : contains part text) : contains (lower part) (lower text) := by
  rw [contains_iff] at h ⊢
  obtain ⟨before, after, htext⟩ := h
  simp only [lower, chars_eq_toList, String.toList_ofList, ← htext, List.flatMap_append]
  exact List.infix_append _ _ _

theorem map_of_matches {text : String} {w : List Char} (hw : Matches (literal_ignoring_case text) w) :
    w.map ignore_case = text.toList := by
  rw [literal_ignoring_case] at hw
  induction htext : text.toList generalizing text w with
  | nil =>
    rw [htext] at hw
    rw [Matches.epsilon_iff.mp hw, List.map_nil]
  | cons c rest ih =>
    rw [htext, List.foldr_cons, Matches.seq_iff] at hw
    obtain ⟨u, v, rfl, hu, hv⟩ := hw
    obtain ⟨d, hd, rfl⟩ := Matches.oneOf_iff.mp hu
    have hrest : v.map ignore_case = rest := @ih (String.ofList rest) v (by rwa [String.toList_ofList]) (by simp)
    rw [List.map_append, hrest, List.map_singleton, beq_iff_eq.mp hd, List.singleton_append]

theorem reports_of_search {text : String} (h : search_lines NO_CONFIG_DIFFERENCES text) :
    reports_no_changes text := by
  rw [search_lines, fullmatch_iff] at h
  simp only [matches_concat_cons, NO_CONFIG_DIFFERENCES] at h
  obtain ⟨start, _, htext, -, line, rest, rfl, hline, -⟩ := h
  obtain ⟨indent, _, rfl, -, mark, _, rfl, -, gap, _, rfl, -, phrase, tail, rfl, hmatch, -⟩ := hline
  refine ⟨(start ++ (indent ++ (mark ++ gap))).map ignore_case, (tail ++ rest).map ignore_case, ?_⟩
  rw [htext, ← map_of_matches hmatch]
  simp only [List.map_append, List.append_assoc]

/-- A copy that is confirmed when the device asks has been carried out or refused. -/
structure Device.Moved (device : Device σ Config) (s t : σ) (filename : String) : Prop where
  running : device.running t = device.running s
  flash : device.flash t =
    if device.stores s filename then Function.update (device.flash s) filename (some (device.running s))
    else device.flash s

theorem Device.Copied.moved {filename : String} (h : device.Copied s t filename) :
    device.Moved s t filename := ⟨h.running, h.flash⟩

theorem Device.Moved.unchanged {filename : String} (h : device.Moved s t filename) {u : σ}
    (hsame : device.Unchanged t u) : device.Moved s u filename :=
  ⟨hsame.1.trans h.running, hsame.2.trans h.flash⟩

/-- A confirmation ends the copy that was asked about. -/
theorem Device.Behaves.confirmed (hbehaves : device.Behaves) {filename : String}
    {answer confirmation : Except Raised String} {u : σ}
    (hcopy : device.Copied s t filename ∨ device.Asked s t filename answer)
    (hconfirm : device.respond (.send_command_timing "") t = (confirmation, u)) : device.Moved s u filename := by
  have hlaw := hbehaves.confirm t confirmation u hconfirm
  obtain hcopied | hasked := hcopy
  · rw [hcopied.awaiting] at hlaw
    exact hcopied.moved.unchanged hlaw
  · rw [hasked.awaiting] at hlaw
    refine ⟨hlaw.running.trans hasked.unchanged.1, ?_⟩
    rw [hlaw.flash, hasked.stores, hasked.unchanged.1, hasked.unchanged.2]

/-- What the copy does to the device, and when it is answered. -/
theorem copy_running_config_spec (hbehaves : device.Behaves) (filename : String) :
    device.Moved s ((copy_running_config filename).run device.respond s).2 filename ∧
      ∀ u, (∃ text, (copy_running_config filename).run device.respond s = (.ok text, u)) ↔
        ∃ response t, device.respond (.send_command_timing ("copy running-config flash:" ++ filename)) s =
            (.ok response, t) ∧
          if contains "destination filename" (lower response) then
            ∃ confirmation, device.respond (.send_command_timing "") t = (.ok confirmation, u)
          else u = t := by
  rw [copy_running_config, Query.run_bind, Query.run_fetch]
  rcases hcopy : device.respond (.send_command_timing ("copy running-config flash:" ++ filename)) s with
    ⟨e | response, t⟩
  · obtain hcopied | hasked := hbehaves.copy s filename _ t hcopy
    · simp only [Bind.bind, hcopy]
      refine ⟨hcopied.moved, fun u => ?_⟩
      simp
    · obtain ⟨text, htext, -⟩ := hasked.prompt
      cases htext
  · have hlaw := hbehaves.copy s filename _ t hcopy
    rw [Program.bind_of_ok hcopy]
    by_cases hprompt : contains "destination filename" (lower response)
    · rw [if_pos hprompt, Query.run_bind, Query.run_fetch]
      rcases hconfirm : device.respond (.send_command_timing "") t with ⟨e | confirmation, u⟩
      · simp only [Bind.bind, hconfirm]
        refine ⟨hbehaves.confirmed hlaw hconfirm, fun v => ?_⟩
        simp [hprompt, hconfirm]
      · rw [Program.bind_of_ok hconfirm]
        refine ⟨hbehaves.confirmed hlaw hconfirm, fun v => ?_⟩
        constructor
        · rintro ⟨text, htext⟩
          obtain rfl : u = v := congrArg Prod.snd htext
          exact ⟨response, t, rfl, by rw [if_pos hprompt]; exact ⟨confirmation, hconfirm⟩⟩
        · rintro ⟨response', t', hsame, hbranch⟩
          obtain ⟨hresponse, rfl⟩ := Prod.mk.inj hsame
          cases hresponse
          rw [if_pos hprompt, hconfirm] at hbranch
          obtain ⟨_, hconfirmed⟩ := hbranch
          obtain rfl : u = v := congrArg Prod.snd hconfirmed
          exact ⟨response ++ confirmation, rfl⟩
    · rw [if_neg hprompt, Query.run_pure]
      obtain hcopied | hasked := hlaw
      · refine ⟨hcopied.moved, fun u => ?_⟩
        constructor
        · rintro ⟨text, htext⟩
          obtain rfl : t = u := congrArg Prod.snd htext
          exact ⟨response, t, rfl, by rw [if_neg hprompt]⟩
        · rintro ⟨response', t', hsame, hbranch⟩
          obtain ⟨hresponse, rfl⟩ := Prod.mk.inj hsame
          cases hresponse
          rw [if_neg hprompt] at hbranch
          exact ⟨response, Prod.ext rfl hbranch.symm⟩
      · obtain ⟨text, htext, htext_prompt⟩ := hasked.prompt
        cases htext
        exact absurd htext_prompt hprompt

/-- What `create_checkpoint` does to the device, and when it returns evidence. -/
theorem create_checkpoint_spec (hbehaves : device.Behaves) {run_id : String}
    (hsafe : SAFE_RUN_ID.fullmatch run_id) :
    device.Moved s (device.perform platform s (true, .create_checkpoint run_id)).2 (checkpoint_file run_id) ∧
      (device.Verifies platform s (true, .create_checkpoint run_id) ↔
        device.Answers s (checkpoint_file run_id)) := by
  obtain ⟨hmoved, hanswered⟩ := @copy_running_config_spec _ _ device s hbehaves (checkpoint_file run_id)
  unfold Device.Verifies Device.Answers
  simp only [← hanswered]
  have hrun : device.perform platform s (true, .create_checkpoint run_id) =
      ((copy_running_config (checkpoint_file run_id)).run device.respond >>= fun response =>
        device.respond (.send_command ("dir flash:" ++ checkpoint_file run_id)) >>= fun verification =>
          Program.lift (raise_if (!contains (lower (checkpoint_file run_id)) (lower verification))
              (AdapterError "Checkpoint file was not found after copy")) >>= fun _ =>
            pure (.dict [
              ("checkpoint", .str ("flash:" ++ checkpoint_file run_id)),
              ("copy_output_hash", text_hash platform response), ("verified", .bool true)])) s := by
    simp only [Device.perform, Operation.session, create_checkpoint, _require_connection, hsafe, Query.run_bind,
      Query.run_lift, Query.run_fetch, Query.run_pure]
    rfl
  rw [hrun]
  generalize checkpoint_file run_id = filename at hmoved
  rcases hcopy : (copy_running_config filename).run device.respond s with ⟨e | response, u⟩
  · rw [hcopy] at hmoved
    simp only [Bind.bind, hcopy]
    refine ⟨hmoved, ⟨fun ⟨_, hresult, _⟩ => (nomatch hresult), fun ⟨_, ⟨_, hcopied⟩, _⟩ => ?_⟩⟩
    cases congrArg Prod.fst hcopied
  · rw [hcopy] at hmoved
    rw [Program.bind_of_ok hcopy]
    rcases hdir : device.respond (.send_command ("dir flash:" ++ filename)) u with ⟨e | listing, v⟩
    · have hlisted := (hbehaves.dir u filename _ v hdir).1
      simp only [Bind.bind, hdir]
      refine ⟨hmoved.unchanged hlisted, ⟨fun ⟨_, hresult, _⟩ => (nomatch hresult), ?_⟩⟩
      rintro ⟨u', ⟨text, hcopied⟩, listing, v', hdir'⟩
      obtain rfl : u = u' := congrArg Prod.snd hcopied
      cases congrArg Prod.fst (hdir.symm.trans hdir')
    · obtain ⟨hlisted, hnamed⟩ := hbehaves.dir u filename _ v hdir
      rw [Program.bind_of_ok hdir]
      have hfound : contains (lower filename) (lower listing) := contains_lower (hnamed listing rfl)
      simp only [hfound, Bool.not_true, raise_if, Bool.false_eq_true, if_false]
      exact ⟨hmoved.unchanged hlisted, ⟨fun _ => ⟨u, ⟨response, rfl⟩, listing, v, hdir⟩, fun _ => ⟨_, rfl, rfl⟩⟩⟩

/-- A call that sends nothing leaves the device alone. -/
theorem perform_of_rejected {call : Call} {exception : Raised}
    (hrejected : call.2.session platform call.1 = .raise exception) :
    device.perform platform s call = (.error exception, s) := by
  rw [Device.perform, hrejected]
  rfl

theorem create_checkpoint_rejected {connection : Bool} {run_id : String}
    (h : ¬(connection ∧ SAFE_RUN_ID.fullmatch run_id)) :
    ∃ exception, device.perform platform s (connection, .create_checkpoint run_id) = (.error exception, s) := by
  by_cases hsafe : SAFE_RUN_ID.fullmatch run_id
  · have hclosed : connection = false := by simpa [hsafe] using h
    refine ⟨AdapterError "Device connection is not open", perform_of_rejected ?_⟩
    simp only [Operation.session, create_checkpoint, hsafe, _require_connection, hclosed]
    rfl
  · refine ⟨ConfigurationRejectedError "Unsafe run ID", perform_of_rejected ?_⟩
    simp only [Operation.session, create_checkpoint, hsafe]
    rfl

theorem show_of_safe {command : String} (h : SAFE_SHOW.fullmatch command) :
    ∃ rest, command = "show " ++ rest := by
  rw [fullmatch_iff, SAFE_SHOW, matches_literal_concat_iff] at h
  obtain ⟨rest, htext, -⟩ := h
  refine ⟨String.ofList rest, ?_⟩
  rw [← String.toList_inj, htext, String.toList_append, @String.toList_ofList rest]

theorem flash_of_safe {checkpoint : String} (h : SAFE_CHECKPOINT.fullmatch checkpoint) :
    ∃ filename, checkpoint = "flash:" ++ filename := by
  rw [fullmatch_iff, SAFE_CHECKPOINT, matches_literal_concat_iff] at h
  obtain ⟨rest, htext, -⟩ := h
  refine ⟨String.ofList ("sda-".toList ++ rest), ?_⟩
  rw [← String.toList_inj, htext, String.toList_append, @String.toList_ofList ("sda-".toList ++ rest)]
  rfl

/-- The comparison of a checkpoint with the running configuration is a show command. -/
theorem differences_text (file : String) :
    "show archive config differences " ++ ("flash:" ++ file) ++ " system:running-config" =
      "show " ++ ("archive config differences flash:" ++ file ++ " system:running-config") := by
  have hstart : "show archive config differences " = "show " ++ "archive config differences " := rfl
  have hflash : "archive config differences " ++ "flash:" = "archive config differences flash:" := rfl
  rw [hstart, ← hflash]
  simp only [String.append_assoc]

section Flash

variable {filename : String} {held : Option Config}

/-- A computation keeps what a file holds. -/
abbrev Device.Keeps (device : Device σ Config) (filename : String) (held : Option Config) {α : Type}
    (m : Program σ Raised α) : Prop :=
  Program.Triple (fun s => device.flash s filename = held) m (fun _ s => device.flash s filename = held)
    fun _ s => device.flash s filename = held

/-- A request that leaves the flash alone keeps a file. -/
theorem respond_keeps {request : Sent}
    (hflash : ∀ s answer t, device.respond request s = (answer, t) → device.flash t = device.flash s) :
    device.Keeps filename held (device.respond request) := by
  intro s hs
  rcases hanswer : device.respond request s with ⟨e | text, t⟩
  · exact (congrFun (hflash s _ t hanswer) filename).trans hs
  · exact (congrFun (hflash s _ t hanswer) filename).trans hs

theorem lift_keeps {α : Type} {x : Except Raised α} :
    device.Keeps filename held (Program.lift x : Program σ Raised α) :=
  Program.Triple.lift (fun _ _ _ hs => hs) fun _ _ _ hs => hs

theorem run_show_keeps (hbehaves : device.Behaves) (connection : Bool) (command : String) :
    device.Keeps filename held ((run_show platform connection command).run device.respond) := by
  by_cases hsafe : SAFE_SHOW.fullmatch command
  · obtain ⟨rest, rfl⟩ := show_of_safe hsafe
    simp only [run_show, _require_connection, Query.run_bind, Query.run_lift, Query.run_fetch, Query.run_pure]
    refine Program.Triple.bind _ lift_keeps fun _ => Program.Triple.bind _ lift_keeps fun _ => ?_
    refine Program.Triple.bind _ (respond_keeps fun s answer t hanswer => ?_) fun _ =>
      Program.Triple.pure fun _ hs => hs
    exact (hbehaves.display s rest answer t hanswer).2
  · simp only [run_show, hsafe]
    exact Program.Triple.raise fun _ hs => hs

theorem apply_block_keeps (hbehaves : device.Behaves) (connection : Bool) (commands : List String) :
    device.Keeps filename held ((apply_block platform connection commands).run device.respond) := by
  simp only [apply_block, _require_connection, Query.run_bind, Query.run_lift, Query.run_fetch, Query.run_pure]
  refine Program.Triple.bind _ lift_keeps fun _ => Program.Triple.bind _ lift_keeps fun _ => ?_
  refine Program.Triple.bind _ lift_keeps fun _ => ?_
  refine Program.Triple.bind _ (respond_keeps fun s answer t hanswer => ?_) fun _ => ?_
  · exact hbehaves.configure s commands answer t hanswer
  · exact Program.Triple.bind _ lift_keeps fun _ => Program.Triple.pure fun _ hs => hs

theorem rollback_keeps (hbehaves : device.Behaves) (connection : Bool) (checkpoint : String) :
    device.Keeps filename held ((rollback platform connection checkpoint).run device.respond) := by
  by_cases hsafe : SAFE_CHECKPOINT.fullmatch checkpoint
  · obtain ⟨file, rfl⟩ := flash_of_safe hsafe
    simp only [rollback, _require_connection, Query.run_bind, Query.run_lift, Query.run_fetch, Query.run_pure]
    refine Program.Triple.bind _ lift_keeps fun _ => Program.Triple.bind _ lift_keeps fun _ => ?_
    refine Program.Triple.bind _ (respond_keeps fun s answer t hanswer => ?_) fun _ => ?_
    · exact hbehaves.replace s file answer t (by rwa [← String.append_assoc] at hanswer)
    refine Program.Triple.bind _ lift_keeps fun _ => ?_
    refine Program.Triple.bind _ (respond_keeps fun s answer t hanswer => ?_) fun _ => ?_
    · rw [differences_text] at hanswer
      exact (hbehaves.display s _ answer t hanswer).2
    exact Program.Triple.bind _ lift_keeps fun _ => Program.Triple.pure fun _ hs => hs
  · simp only [rollback, hsafe]
    exact Program.Triple.raise fun _ hs => hs

end Flash

/-- The flash of a device keeps what no checkpoint writes. -/
theorem flash_perform (hbehaves : device.Behaves) {call : Call} {filename : String}
    (hother : ∀ run_id, call.2 = .create_checkpoint run_id → checkpoint_file run_id ≠ filename) :
    device.flash (device.perform platform s call).2 filename = device.flash s filename := by
  obtain ⟨connection, operation⟩ := call
  cases operation with
  | run_show command => exact (run_show_keeps hbehaves connection command).final rfl
  | apply_block commands => exact (apply_block_keeps hbehaves connection commands).final rfl
  | rollback checkpoint => exact (rollback_keeps hbehaves connection checkpoint).final rfl
  | create_checkpoint run_id =>
    by_cases hsent : connection ∧ SAFE_RUN_ID.fullmatch run_id
    · obtain ⟨rfl, hsafe⟩ := hsent
      rw [(create_checkpoint_spec hbehaves hsafe).1.flash]
      split
      · exact Function.update_of_ne (hother run_id rfl).symm _ _
      · rfl
    · obtain ⟨exception, hrejected⟩ := @create_checkpoint_rejected _ _ platform device s _ _ hsent
      rw [hrejected]

/-- Only a device that runs what the checkpoint holds lets a rollback return evidence. -/
theorem rollback_spec (hbehaves : device.Behaves) {connection : Bool} {filename : String}
    (hverified : device.Verifies platform s (connection, .rollback ("flash:" ++ filename))) :
    device.flash s filename =
      some (device.running (device.perform platform s (connection, .rollback ("flash:" ++ filename))).2) := by
  obtain ⟨evidence, hresult, -⟩ := hverified
  have hkeeps := @flash_perform _ _ platform device s hbehaves (connection, .rollback ("flash:" ++ filename)) filename
    (by simp)
  rw [← hkeeps]
  rcases hperform : device.perform platform s (connection, .rollback ("flash:" ++ filename)) with ⟨result, t⟩
  rw [hperform] at hresult
  obtain rfl : result = .ok evidence := hresult
  simp only [Device.perform, Operation.session, rollback, _require_connection, Query.run_bind, Query.run_lift,
    Query.run_fetch, Query.run_pure, Program.returns_bind_iff, Program.returns_lift_iff, Program.returns_pure_iff,
    raise_if_eq_ok] at hperform
  obtain ⟨_, _, -, _, _, -, output, u, -, _, _, ⟨-, rfl⟩, verification, v, hdiffer, _, _, ⟨hsame, rfl⟩, -, rfl⟩ :=
    hperform
  have hreports : search_lines NO_CONFIG_DIFFERENCES verification := by
    simp only [Bool.or_eq_false_iff, Bool.not_eq_false'] at hsame
    exact hsame.2
  have hflash : "show archive config differences " ++ "flash:" = "show archive config differences flash:" := rfl
  have heq : device.flash u filename = some (device.running u) := by
    refine hbehaves.differences u filename verification v ?_ (reports_of_search hreports)
    rwa [← String.append_assoc, hflash] at hdiffer
  rw [differences_text] at hdiffer
  have hunchanged := hbehaves.display u _ _ v hdiffer
  rw [hunchanged.1, hunchanged.2, heq]

end Sessions

/-! ## Whole runs -/

section Runs

variable {σ Config : Type} {platform : Platform} {device : Device σ Config} {start : σ}

theorem after_append (before rest : List Call) :
    device.after platform start (before ++ rest) =
      device.after platform (device.after platform start before) rest :=
  List.foldl_append

theorem after_cons (call : Call) (rest : List Call) :
    device.after platform start (call :: rest) = device.after platform (device.perform platform start call).2 rest :=
  rfl

/-- A file stays as it is through calls that do not write it. -/
theorem flash_after (hbehaves : device.Behaves) {filename : String} {calls : List Call}
    (hother : ∀ call ∈ calls, ∀ run_id, call.2 = .create_checkpoint run_id →
      checkpoint_file run_id ≠ filename) :
    device.flash (device.after platform start calls) filename = device.flash start filename := by
  induction calls generalizing start with
  | nil => rfl
  | cons call rest ih =>
    rw [List.forall_mem_cons] at hother
    rw [after_cons, ih hother.2, flash_perform hbehaves hother.1]

/-- A verified checkpoint holds the running configuration exactly when the copy was
carried out or not needed. -/
theorem checkpoint_holds_iff (hbehaves : device.Behaves) {connection : Bool} {run_id : String}
    (hverified : device.Verifies platform start (connection, .create_checkpoint run_id)) :
    device.flash (device.perform platform start (connection, .create_checkpoint run_id)).2 (checkpoint_file run_id) =
        some (device.running start) ↔
      device.Preserved start (checkpoint_file run_id) := by
  by_cases hsent : connection ∧ SAFE_RUN_ID.fullmatch run_id
  · obtain ⟨rfl, hsafe⟩ := hsent
    rw [(create_checkpoint_spec hbehaves hsafe).1.flash, Device.Preserved]
    by_cases hstores : device.stores start (checkpoint_file run_id)
    · simp [hstores]
    · simp [hstores]
  · obtain ⟨exception, hrejected⟩ := @create_checkpoint_rejected _ _ platform device start _ _ hsent
    obtain ⟨evidence, hresult, -⟩ := hverified
    rw [hrejected] at hresult
    cases hresult

/-- For every device, initial state and sequence of calls: every verified checkpoint
holds the configuration that was running, and every verified rollback brings it back,
exactly when each copy that the device answers is carried out or finds its file holding
the running configuration. -/
theorem checkpoints_sound (hbehaves : device.Behaves) (calls : List Call) :
    device.Sound platform start calls ↔
      ∀ before run_id rest, calls = before ++ (true, .create_checkpoint run_id) :: rest →
        SAFE_RUN_ID.fullmatch run_id →
        device.Answers (device.after platform start before) (checkpoint_file run_id) →
        device.Preserved (device.after platform start before) (checkpoint_file run_id) := by
  constructor
  · intro hsound before run_id rest hcalls hsafe hanswers
    have hverified := (@create_checkpoint_spec _ _ platform device _ hbehaves run_id hsafe).2.mpr hanswers
    have hholds := hsound.checkpoint before true run_id rest hcalls hverified
    rw [after_append] at hholds
    exact (checkpoint_holds_iff hbehaves hverified).mp hholds
  · intro hpreserved
    have hcheckpoint (before : List Call) (connection : Bool) (run_id : String) (rest : List Call)
        (hcalls : calls = before ++ (connection, .create_checkpoint run_id) :: rest)
        (hverified : device.Verifies platform (device.after platform start before)
          (connection, .create_checkpoint run_id)) :
        device.flash (device.perform platform (device.after platform start before)
            (connection, .create_checkpoint run_id)).2 (checkpoint_file run_id) =
          some (device.running (device.after platform start before)) := by
      refine (checkpoint_holds_iff hbehaves hverified).mpr ?_
      by_cases hsent : connection ∧ SAFE_RUN_ID.fullmatch run_id
      · obtain ⟨rfl, hsafe⟩ := hsent
        exact hpreserved before run_id rest hcalls hsafe ((create_checkpoint_spec hbehaves hsafe).2.mp hverified)
      · obtain ⟨exception, hrejected⟩ := @create_checkpoint_rejected _ _ platform device
          (device.after platform start before) _ _ hsent
        obtain ⟨evidence, hresult, -⟩ := hverified
        rw [hrejected] at hresult
        cases hresult
    constructor
    · intro before connection run_id rest hcalls hverified
      rw [after_append]
      exact hcheckpoint before connection run_id rest hcalls hverified
    · intro before connection run_id between connection' rest hcalls hother hverified hrolled
      rw [List.append_assoc, List.cons_append] at hcalls
      have hholds := hcheckpoint before connection run_id _ hcalls hverified
      -- the file survives up to the rollback, which makes the device run what it holds
      have hrestored := rollback_spec hbehaves hrolled
      rw [after_append, after_cons, flash_after hbehaves hother, hholds] at hrestored
      rw [after_append, after_append, after_cons]
      exact (Option.some.inj hrestored).symm

end Runs

/-! ## A lab device -/

/-- The running configuration, the files, and whether the flash is full. -/
structure Box where
  running : String
  flash : String → Option String
  full : Bool

/-- What follows the start of a command. -/
def argument (start command : String) : Option String :=
  if startswith command start then some (drop (len start) command) else none

def without_tail (tail argument : String) : String := take (len argument - len tail) argument

def lab_respond : Sent → Program Box Raised String
  | .send_command_timing command => fun box =>
    match argument "copy running-config flash:" command, argument "configure replace flash:" command with
    | some filename, _ =>
      if box.full then (.ok "%Error copying (No space left on device)", box)
      else (.ok "[OK]", { box with flash := Function.update box.flash filename (some box.running) })
    | none, some replaced =>
      (.ok "", { box with running := (box.flash (without_tail " force" replaced)).getD box.running })
    | none, none => (.ok "", box)
  | .send_command command => fun box =>
    match argument "dir flash:" command, argument "show archive config differences flash:" command with
    | some filename, _ =>
      if (box.flash filename).isSome then (.ok ("-rw- " ++ filename), box)
      else (.ok ("%Error opening flash:" ++ filename ++ " (No such file or directory)"), box)
    | none, some compared =>
      if box.flash (without_tail " system:running-config" compared) = some box.running then
        (.ok "!No changes were found", box)
      else (.ok "!Contextual Config Diffs:", box)
    | none, none => (.ok "", box)
  | .send_config_set commands => fun box => (.ok "", { box with running := join "\n" (box.running :: commands) })

def lab_device : Device Box String where
  running := Box.running
  flash := Box.flash
  stores box _ := !box.full
  awaiting _ := none
  respond := lab_respond

theorem argument_append (start rest : String) : argument start (start ++ rest) = some rest := by
  have hstart : startswith (start ++ rest) start := by
    simp [startswith, String.toList_append]
  have hdrop : drop (len start) (start ++ rest) = rest := by
    rw [drop, chars_eq_toList, String.toList_append, len_eq_length, ← String.length_toList, List.drop_left,
      String.ofList_toList]
  rw [argument, if_pos hstart, hdrop]

/-- Two commands that differ in their first characters are told apart. -/
theorem argument_of_differ {start other : String} (rest : String) (n : Nat) (hstart : n ≤ start.toList.length)
    (hother : n ≤ other.toList.length) (hdiffer : start.toList.take n ≠ other.toList.take n) :
    argument start (other ++ rest) = none := by
  refine if_neg fun h => hdiffer ?_
  rw [startswith, chars_eq_toList, chars_eq_toList, List.isPrefixOf_iff_prefix, String.toList_append] at h
  obtain ⟨tail, htail⟩ := h
  have htake := congrArg (List.take n) htail
  rwa [List.take_append_of_le_length hstart, List.take_append_of_le_length hother] at htake

theorem without_tail_append (tail rest : String) : without_tail tail (rest ++ tail) = rest := by
  have hlength : len (rest ++ tail) - len tail = rest.toList.length := by
    rw [len_eq_length, len_eq_length, String.length_append, Nat.add_sub_cancel, String.length_toList]
  rw [without_tail, hlength, take, chars_eq_toList, String.toList_append, List.take_left, String.ofList_toList]

/-- A command that is not one of configuration changes nothing. -/
theorem lab_send_command {command : String} {box t : Box} {answer : Except Raised String}
    (h : lab_respond (.send_command command) box = (answer, t)) : box = t := by
  simp only [lab_respond] at h
  split at h
  · split at h <;> exact congrArg Prod.snd h
  · split at h <;> exact congrArg Prod.snd h
  · exact congrArg Prod.snd h

theorem lab_device_behaves : lab_device.Behaves where
  copy := by
    intro box filename answer t h
    simp only [lab_device, lab_respond, argument_append] at h
    refine .inl ?_
    by_cases hfull : box.full
    · rw [if_pos hfull, Prod.mk.injEq] at h
      obtain ⟨-, rfl⟩ := h
      exact ⟨rfl, by simp [lab_device, hfull], rfl⟩
    · rw [if_neg hfull, Prod.mk.injEq] at h
      obtain ⟨-, rfl⟩ := h
      exact ⟨rfl, by simp [lab_device, hfull], rfl⟩
  confirm := by
    intro box answer t h
    have hcopy : argument "copy running-config flash:" "" = none := by decide
    have hreplace : argument "configure replace flash:" "" = none := by decide
    simp only [lab_device, lab_respond, hcopy, hreplace] at h
    obtain rfl : box = t := congrArg Prod.snd h
    exact ⟨rfl, rfl⟩
  dir := by
    intro box filename answer t h
    obtain rfl : box = t := lab_send_command h
    refine ⟨⟨rfl, rfl⟩, fun text htext => ?_⟩
    simp only [lab_device, lab_respond, argument_append] at h
    rw [contains_iff]
    split at h
    · obtain rfl : "-rw- " ++ filename = text := Except.ok.inj ((congrArg Prod.fst h).trans htext)
      exact ⟨"-rw- ".toList, [], by simp [String.toList_append]⟩
    · obtain rfl : "%Error opening flash:" ++ filename ++ " (No such file or directory)" = text :=
        Except.ok.inj ((congrArg Prod.fst h).trans htext)
      exact ⟨"%Error opening flash:".toList, " (No such file or directory)".toList, by
        rw [String.toList_append, String.toList_append]⟩
  replace := by
    intro box filename answer t h
    have hcopy : argument "copy running-config flash:" ("configure replace flash:" ++ filename ++ " force") = none := by
      rw [String.append_assoc]
      exact argument_of_differ _ 3 (by decide) (by decide) (by decide)
    have hreplace : argument "configure replace flash:" ("configure replace flash:" ++ filename ++ " force") =
        some (filename ++ " force") := by
      rw [String.append_assoc, argument_append]
    simp only [lab_device, lab_respond, hcopy, hreplace] at h
    obtain rfl := congrArg Prod.snd h
    rfl
  differences := by
    intro box filename text t h hreports
    have hdir : argument "dir flash:"
        ("show archive config differences flash:" ++ filename ++ " system:running-config") = none := by
      rw [String.append_assoc]
      exact argument_of_differ _ 3 (by decide) (by decide) (by decide)
    have hcompared : argument "show archive config differences flash:"
        ("show archive config differences flash:" ++ filename ++ " system:running-config") =
          some (filename ++ " system:running-config") := by
      rw [String.append_assoc, argument_append]
    simp only [lab_device, lab_respond, hdir, hcompared, without_tail_append] at h
    split at h
    · assumption
    · exfalso
      obtain rfl : "!Contextual Config Diffs:" = text := Except.ok.inj (congrArg Prod.fst h)
      exact absurd hreports (by unfold reports_no_changes; decide)
  display := by
    intro box rest answer t h
    obtain rfl : box = t := lab_send_command h
    exact ⟨rfl, rfl⟩
  configure := by
    intro box commands answer t h
    obtain rfl := congrArg Prod.snd h
    rfl

/-- A device with nothing on its flash, which may yet have no room. -/
def lab_edge (full : Bool) : Box := ⟨"hostname edge-1", fun _ => none, full⟩

/-- A checkpoint, a change and its rollback. -/
def lab_run : List Call := [
  (true, .create_checkpoint "run_1"), (true, .apply_block ["router lisp"]),
  (true, .rollback "flash:sda-run_1.cfg")]

theorem checkpoints_sound_lab :
    lab_device.Sound cpython (lab_edge false) lab_run ↔
      ∀ before run_id rest, lab_run = before ++ (true, .create_checkpoint run_id) :: rest →
        SAFE_RUN_ID.fullmatch run_id →
        lab_device.Answers (lab_device.after cpython (lab_edge false) before) (checkpoint_file run_id) →
        lab_device.Preserved (lab_device.after cpython (lab_edge false) before) (checkpoint_file run_id) :=
  checkpoints_sound lab_device_behaves _

/-- A device whose flash is full reports a checkpoint that it has not made. -/
theorem checkpoint_of_failed_copy :
    ¬∀ (σ Config : Type) (device : Device σ Config), device.Behaves → ∀ platform start calls,
      device.Sound platform start calls := by
  intro hclaim
  have hsafe : SAFE_RUN_ID.fullmatch "run_1" := by decide
  have hanswers : lab_device.Answers (lab_edge true) (checkpoint_file "run_1") :=
    ⟨_, ⟨_, _, rfl, rfl⟩, _, _, rfl⟩
  obtain ⟨hmoved, hverifies⟩ := @create_checkpoint_spec _ _ cpython lab_device (lab_edge true)
    lab_device_behaves "run_1" hsafe
  have hholds := (hclaim Box String lab_device lab_device_behaves cpython (lab_edge true)
    [(true, .create_checkpoint "run_1")]).checkpoint [] true "run_1" [] rfl (hverifies.mpr hanswers)
  have hflash := congrFun hmoved.flash (checkpoint_file "run_1")
  exact absurd (hholds.symm.trans hflash) (by simp [lab_device, lab_edge, Device.after])

end orchestrator.adapters
