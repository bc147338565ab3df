import SdaOrchestrator.MerakiWorkflow.NativeExport
import SdaOrchestrator.Intent.PlainTexts

open python regex regex.Regex
open orchestrator.adapters (lower)

namespace orchestrator.meraki_native_export

open orchestrator.intent (Severity dict_of dropWhile_of_none)

/-! ## Documents without findings -/

/-- Nothing in a document is unsafe and every identifier in it is a tenant's own. -/
structure Sound (is_word : Char → Bool) (document : Mapping) : Prop where
  exported : _workflow_objects document ≠ []
  workflows : ∀ path workflow, (path, workflow) ∈ _workflow_objects document →
    startswith (text_of workflow "unique_name") _WORKFLOW_PREFIX ∧
      is_text workflow "type" "generic.workflow" ∧ described workflow
  activities : ∀ path workflow, (path, workflow) ∈ _workflow_objects document →
    ∀ action_path action, (action_path, action) ∈ _activity_objects workflow path →
      startswith (text_of action "unique_name") _ACTIVITY_PREFIX ∧ ¬is_text action "type" "python3.script"
  texts : ∀ path text, (path, Value.str text) ∈ _walk "$" (.dict document) →
    (∀ code marker, (code, marker) ∈ _FORBIDDEN_MARKERS →
      ¬contains marker (String.ofList ((chars (lower text)).filter (· ≠ ' ')))) ∧
        ¬fullmatch (inline_bearer is_word) text
  secrets : ∀ path entries, (path, Value.dict entries) ∈ _walk "$" (.dict document) →
    ∀ key child, assoc.lookup key entries = some child → ¬inline_secret key child

/-- The findings in a document that no expectation causes. -/
def document_issues (is_word : Char → Bool) (document : Mapping) : List NativeExportIssue :=
  issue_if (_workflow_objects document).isEmpty "native.workflow_missing" "$"
    "Export contains no tenant-native definition_workflow object" ++
  (_workflow_objects document).flatMap (fun (path, workflow) => workflow_issues path workflow) ++
  (_walk "$" (.dict document)).flatMap fun (path, value) => value_issues is_word path value

@[simp] theorem issue_if_eq_nil_iff {condition : Bool} {code path message : String} :
    issue_if condition code path message = [] ↔ condition = false := by
  cases condition <;> simp [issue_if]

theorem workflow_issues_eq_nil_iff {path : String} {workflow : Mapping} :
    workflow_issues path workflow = [] ↔
      (startswith (text_of workflow "unique_name") _WORKFLOW_PREFIX ∧
        is_text workflow "type" "generic.workflow" ∧ described workflow) ∧
      ∀ action_path action, (action_path, action) ∈ _activity_objects workflow path →
        startswith (text_of action "unique_name") _ACTIVITY_PREFIX ∧
          ¬is_text action "type" "python3.script" := by
  simp only [workflow_issues, activity_issues, List.append_eq_nil_iff, issue_if_eq_nil_iff,
    Bool.not_eq_false', List.flatMap_eq_nil_iff, Prod.forall, Bool.not_eq_true, and_assoc]

theorem value_issues_eq_nil_iff {is_word : Char → Bool} {path : String} {value : Value} :
    value_issues is_word path value = [] ↔
      (∀ text, value = .str text → (∀ code marker, (code, marker) ∈ _FORBIDDEN_MARKERS →
        ¬contains marker (String.ofList ((chars (lower text)).filter (· ≠ ' ')))) ∧
          ¬fullmatch (inline_bearer is_word) text) ∧
      ∀ entries, value = .dict entries → ∀ key child, assoc.lookup key entries = some child →
        ¬inline_secret key child := by
  cases value with
  | str text =>
    simp only [value_issues, List.append_eq_nil_iff, issue_if_eq_nil_iff, List.flatMap_eq_nil_iff,
      Prod.forall, Bool.not_eq_true, Value.str.injEq, forall_eq', reduceCtorEq, false_implies,
      implies_true, and_true]
  | dict entries =>
    simp only [value_issues, issue_if_eq_nil_iff, List.flatMap_eq_nil_iff, Prod.forall,
      assoc.mem_distinct_iff, Bool.not_eq_true, Value.dict.injEq, forall_eq', reduceCtorEq,
      false_implies, implies_true, true_and]
  | _ => simp [value_issues]

/-- A document has no findings of its own if and only if it is sound. -/
theorem document_issues_eq_nil_iff {is_word : Char → Bool} {document : Mapping} :
    document_issues is_word document = [] ↔ Sound is_word document := by
  simp only [document_issues, List.append_eq_nil_iff, issue_if_eq_nil_iff, List.flatMap_eq_nil_iff,
    Prod.forall, workflow_issues_eq_nil_iff, value_issues_eq_nil_iff, List.isEmpty_eq_false_iff]
  constructor
  · rintro ⟨⟨hexported, hworkflows⟩, hvalues⟩
    exact {
      exported := hexported
      workflows := fun path workflow hmem => (hworkflows path workflow hmem).1
      activities := fun path workflow hmem => (hworkflows path workflow hmem).2
      texts := fun path text hmem => (hvalues path _ hmem).1 text rfl
      secrets := fun path entries hmem => (hvalues path _ hmem).2 entries rfl }
  · intro hsound
    refine ⟨⟨hsound.exported, fun path workflow hmem =>
      ⟨hsound.workflows path workflow hmem, hsound.activities path workflow hmem⟩⟩, fun path value hmem => ⟨?_, ?_⟩⟩
    · rintro text rfl
      exact hsound.texts path text hmem
    · rintro entries rfl
      exact hsound.secrets path entries hmem

/-! ## Reports -/

/-- Every finding counts as an error. -/
def Erroneous (issues : List NativeExportIssue) : Prop := ∀ issue ∈ issues, issue.severity = .error

theorem Erroneous.append {issues others : List NativeExportIssue} (hissues : Erroneous issues)
    (hothers : Erroneous others) : Erroneous (issues ++ others) :=
  List.forall_mem_append.mpr ⟨hissues, hothers⟩

theorem Erroneous.flatMap {α : Type} {items : List α} {body : α → List NativeExportIssue}
    (hbody : ∀ item, Erroneous (body item)) : Erroneous (items.flatMap body) := by
  intro issue hissue
  obtain ⟨item, -, hmem⟩ := List.mem_flatMap.mp hissue
  exact hbody item issue hmem

theorem erroneous_issue_if {condition : Bool} {code path message : String} :
    Erroneous (issue_if condition code path message) := by
  cases condition <;> simp [issue_if, Erroneous]

theorem erroneous_workflow_issues {path : String} {workflow : Mapping} :
    Erroneous (workflow_issues path workflow) := by
  unfold workflow_issues
  refine Erroneous.append (Erroneous.append (Erroneous.append erroneous_issue_if erroneous_issue_if)
    erroneous_issue_if) ?_
  exact Erroneous.flatMap fun _ => erroneous_issue_if.append erroneous_issue_if

theorem erroneous_value_issues {is_word : Char → Bool} {path : String} {value : Value} :
    Erroneous (value_issues is_word path value) := by
  cases value with
  | str text => exact (Erroneous.flatMap fun _ => erroneous_issue_if).append erroneous_issue_if
  | dict entries => exact Erroneous.flatMap fun _ => erroneous_issue_if
  | _ => exact List.forall_mem_nil _

theorem Erroneous.filter_eq {issues : List NativeExportIssue} (herroneous : Erroneous issues) :
    issues.filter (·.severity = .error) = issues :=
  List.filter_eq_self.mpr fun issue hissue => decide_eq_true (herroneous issue hissue)

/-- However the findings are told apart, some of them is kept. -/
theorem ordered_eq_nil_iff {κ ρ : Type} [DecidableEq κ] [LinearOrder ρ] {key : NativeExportIssue → κ}
    {rank : NativeExportIssue → ρ} {issues : List NativeExportIssue} :
    sortedBy rank ((dict_of (issues.map fun issue => (key issue, issue))).map Prod.snd) = [] ↔ issues = [] := by
  constructor
  · intro hnone
    rw [List.eq_nil_iff_forall_not_mem]
    intro issue hissue
    have hkey : key issue ∈ (issues.map fun issue => (key issue, issue)).map Prod.fst := by
      rw [List.map_map]
      exact List.mem_map_of_mem hissue
    obtain ⟨entry, hentry, -⟩ := List.mem_map.mp (intent.mem_keys_dict_of.mpr hkey)
    exact List.eq_nil_iff_forall_not_mem.mp hnone entry.2 (mem_sortedBy.mpr (List.mem_map_of_mem hentry))
  · rintro rfl
    simp [dict_of, sortedBy]

theorem erroneous_ordered {κ ρ : Type} [DecidableEq κ] [LinearOrder ρ] {key : NativeExportIssue → κ}
    {rank : NativeExportIssue → ρ} {issues : List NativeExportIssue} (herroneous : Erroneous issues) :
    Erroneous (sortedBy rank ((dict_of (issues.map fun issue => (key issue, issue))).map Prod.snd)) := by
  intro issue hissue
  obtain ⟨entry, hentry, rfl⟩ := List.mem_map.mp (mem_sortedBy.mp hissue)
  obtain ⟨kept, hkept, rfl⟩ := List.mem_map.mp (intent.mem_of_mem_dict_of hentry)
  exact herroneous kept hkept

/-! ## What the audits require -/

/-- Some workflow of a document has the label. -/
def Labelled (document : Mapping) (name : String) : Prop :=
  ∃ path workflow, (path, workflow) ∈ _workflow_objects document ∧ _label workflow = name

/-- An activity stands in some workflow of a document, at any depth. -/
def Activity (document : Mapping) (action : Mapping) : Prop :=
  ∃ path workflow, (path, workflow) ∈ _workflow_objects document ∧
    ∃ action_path, (action_path, action) ∈ _activity_objects workflow path

/-- The text that the audit of a set looks for the name of an activity in. -/
def inventory_label (action : Mapping) : String := _normalized (_label action ++ " " ++ text_of action "type")

/-- A text without white space at its ends that is not empty. -/
def Trimmed (name : String) : Prop := name ≠ "" ∧ strip name = name

/-- The texts of the activities of a document. -/
def activity_texts (document : Mapping) (text : Mapping → String) : List String :=
  (_workflow_objects document).flatMap fun (workflow_path, workflow) =>
    (_activity_objects workflow workflow_path).map fun (_, action) => text action

theorem any_activity_texts {document : Mapping} {text : Mapping → String} {marker : String} :
    (activity_texts document text).any (contains marker) ↔
      ∃ action, Activity document action ∧ contains marker (text action) := by
  simp only [activity_texts, List.any_eq_true, List.mem_flatMap, List.mem_map, Prod.exists, Activity]
  constructor
  · rintro ⟨-, ⟨path, workflow, hworkflow, action_path, action, haction, rfl⟩, hmarker⟩
    exact ⟨action, ⟨path, workflow, hworkflow, action_path, haction⟩, hmarker⟩
  · rintro ⟨action, ⟨path, workflow, hworkflow, action_path, haction⟩, hmarker⟩
    exact ⟨_, ⟨path, workflow, hworkflow, action_path, action, haction, rfl⟩, hmarker⟩

/-- The inventory of a document lists its activities with their labels and types. -/
theorem activity_texts_inventory (document : Mapping) :
    ((inventory_native_export document).workflows.flatMap fun workflow => workflow.actions.map fun action =>
      _normalized (action.name ++ " " ++ action.type)) = activity_texts document inventory_label := by
  simp only [inventory_native_export, workflow_inventory, List.flatMap_map, List.map_map]
  rfl

theorem missing_eq_nil_iff {names known : List String} :
    sortedTexts (names.filter (!known.contains ·)) = [] ↔ ∀ name ∈ names, name ∈ known := by
  simp only [List.eq_nil_iff_forall_not_mem, mem_sortedTexts, List.mem_filter, not_and, Bool.not_eq_true,
    Bool.not_eq_false', List.contains_iff_mem]

theorem missing_set_eq_nil_iff {names known : List String} :
    sortedSet (names.filter (!known.contains ·)) = [] ↔ ∀ name ∈ names, name ∈ known := by
  simp only [List.eq_nil_iff_forall_not_mem, mem_sortedSet, List.mem_filter, not_and, Bool.not_eq_true,
    Bool.not_eq_false', List.contains_iff_mem]

section Audits

variable {is_word : Char → Bool} {expected_workflow_names required_activity_names : List String}

/-- The findings of the audit of one export, each time it makes them. -/
def export_issues (is_word : Char → Bool) (document : Mapping)
    (expected_workflow_names required_activity_names : List String) : List NativeExportIssue :=
  let actual := (((_workflow_objects document).map fun entry => _label entry.2).filter (· ≠ "")).dedup
  issue_if (_workflow_objects document).isEmpty "native.workflow_missing" "$"
      "Export contains no tenant-native definition_workflow object" ++
    (_workflow_objects document).flatMap (fun (workflow_path, workflow) => workflow_issues workflow_path workflow) ++
    (sortedTexts (((expected_workflow_names.map strip).filter (· ≠ "")).dedup.filter
      (!actual.contains ·))).map (fun missing =>
      { code := "package.workflow_missing", path := "$",
        message := "Native export set is missing workflow " ++ reprText missing }) ++
    required_activity_names.flatMap (fun required_name =>
      issue_if (_normalized required_name ≠ "" &&
          !(activity_texts document activity_label).any (contains (_normalized required_name)))
        "package.activity_missing" "$" ("Native export set is missing activity " ++ reprText required_name)) ++
    (_walk "$" (.dict document)).flatMap fun (path, value) => value_issues is_word path value

theorem erroneous_export_issues {document : Mapping} :
    Erroneous (export_issues is_word document expected_workflow_names required_activity_names) := by
  unfold export_issues
  extract_lets actual
  refine Erroneous.append (Erroneous.append (Erroneous.append (Erroneous.append ?_ ?_) ?_) ?_) ?_
  · exact erroneous_issue_if
  · exact Erroneous.flatMap fun _ => erroneous_workflow_issues
  · exact List.forall_mem_map.mpr fun _ _ => rfl
  · exact Erroneous.flatMap fun _ => erroneous_issue_if
  · exact Erroneous.flatMap fun _ => erroneous_value_issues

theorem issues_audit_native_export {document : Mapping} :
    (audit_native_export is_word document expected_workflow_names required_activity_names).issues =
      sortedBy (fun issue => toLex (issue.path, issue.code))
        ((dict_of ((export_issues is_word document expected_workflow_names required_activity_names).map
          fun issue => ((issue.code, issue.path), issue))).map Prod.snd) :=
  rfl

/-- The labels that the audit knows a document by. -/
theorem mem_actual_iff {document : Mapping} {name : String} :
    name ∈ (((_workflow_objects document).map fun entry => _label entry.2).filter (· ≠ "")).dedup ↔
      name ≠ "" ∧ Labelled document name := by
  simp only [List.mem_dedup, List.mem_filter, List.mem_map, Prod.exists, decide_eq_true_eq, Labelled]
  exact and_comm

theorem workflow_names_audit_native_export {document : Mapping} :
    (audit_native_export is_word document expected_workflow_names required_activity_names).workflow_names =
      sortedTexts (((_workflow_objects document).map fun entry => _label entry.2).filter (· ≠ "")).dedup :=
  rfl

theorem issues_eq_nil_iff {document : Mapping} :
    (audit_native_export is_word document expected_workflow_names required_activity_names).issues = [] ↔
      export_issues is_word document expected_workflow_names required_activity_names = [] := by
  rw [issues_audit_native_export, ordered_eq_nil_iff]

/-- An export passes if and only if its report has no findings. -/
theorem native_export_valid_iff_issues {document : Mapping} :
    (audit_native_export is_word document expected_workflow_names required_activity_names).native_export_valid ↔
      (audit_native_export is_word document expected_workflow_names required_activity_names).issues = [] := by
  have hvalid : (audit_native_export is_word document expected_workflow_names
        required_activity_names).native_export_valid =
      ((audit_native_export is_word document expected_workflow_names required_activity_names).issues.filter
        (·.severity = .error)).isEmpty := rfl
  have herroneous : Erroneous (audit_native_export is_word document expected_workflow_names
      required_activity_names).issues := erroneous_ordered erroneous_export_issues
  rw [hvalid, herroneous.filter_eq, List.isEmpty_iff]

/-- The audit of one export passes it if and only if the document is sound, its workflows have
the expected names, up to white space at the ends, and every required name that has a letter or
a digit occurs in the text of an activity. -/
theorem native_export_valid_iff {document : Mapping} :
    (audit_native_export is_word document expected_workflow_names required_activity_names).native_export_valid ↔
      Sound is_word document ∧
      (∀ name ∈ expected_workflow_names, strip name ≠ "" → Labelled document (strip name)) ∧
      ∀ required_name ∈ required_activity_names, _normalized required_name ≠ "" →
        ∃ action, Activity document action ∧ contains (_normalized required_name) (activity_label action) := by
  rw [native_export_valid_iff_issues, issues_eq_nil_iff, ← document_issues_eq_nil_iff]
  have hnames : (∀ name ∈ ((expected_workflow_names.map strip).filter (· ≠ "")).dedup,
      name ∈ (((_workflow_objects document).map fun entry => _label entry.2).filter (· ≠ "")).dedup) ↔
      ∀ name ∈ expected_workflow_names, strip name ≠ "" → Labelled document (strip name) := by
    simp only [mem_actual_iff]
    simp only [List.mem_dedup, List.mem_filter, List.mem_map, decide_eq_true_eq]
    constructor
    · intro hall name hname hblank
      exact (hall _ ⟨⟨name, hname, rfl⟩, hblank⟩).2
    · rintro hall - ⟨⟨name, hname, rfl⟩, hblank⟩
      exact ⟨hblank, hall name hname hblank⟩
  have hactivities {required_name : String} :
      (_normalized required_name ≠ "" &&
        !(activity_texts document activity_label).any (contains (_normalized required_name))) = false ↔
      (_normalized required_name ≠ "" → ∃ action, Activity document action ∧
        contains (_normalized required_name) (activity_label action)) := by
    rw [← any_activity_texts, Bool.and_eq_false_imp, decide_eq_true_eq, Bool.not_eq_false']
  simp only [export_issues, document_issues, List.append_eq_nil_iff, List.map_eq_nil_iff,
    List.flatMap_eq_nil_iff, issue_if_eq_nil_iff, missing_eq_nil_iff, hnames, hactivities]
  constructor
  · rintro ⟨⟨⟨hworkflows, hexpected⟩, hrequired⟩, hvalues⟩
    exact ⟨⟨hworkflows, hvalues⟩, hexpected, hrequired⟩
  · rintro ⟨⟨hworkflows, hvalues⟩, hexpected, hrequired⟩
    exact ⟨⟨⟨hworkflows, hexpected⟩, hrequired⟩, hvalues⟩

/-- The findings of the audit of a set, each time it makes them. -/
def set_issues (is_word : Char → Bool) (documents : List Mapping)
    (expected_workflow_names required_activity_names : List String) : List NativeExportIssue :=
  let reports := documents.map fun document => audit_native_export is_word document [] []
  let workflow_names := (reports.flatMap (·.workflow_names)).dedup
  let activity_labels := (documents.flatMap (activity_texts · inventory_label)).dedup
  reports.flatMap (·.issues) ++
    (sortedSet (expected_workflow_names.filter (!workflow_names.contains ·))).map (fun missing =>
      { code := "package.workflow_missing", path := "$",
        message := "Missing workflow " ++ reprText missing }) ++
    required_activity_names.flatMap fun required_name =>
      issue_if (!activity_labels.any (contains (_normalized required_name))) "package.activity_missing" "$"
        ("Missing activity " ++ reprText required_name)

theorem issues_audit_native_export_set {documents : List Mapping} :
    (audit_native_export_set is_word documents expected_workflow_names required_activity_names).issues =
      sortedBy (fun issue => toLex (issue.path, toLex (issue.code, issue.message)))
        ((dict_of ((set_issues is_word documents expected_workflow_names required_activity_names).map
          fun issue => ((issue.code, issue.path, issue.message), issue))).map Prod.snd) := by
  have hlabels : ((documents.map fun document => audit_native_export is_word document [] []).flatMap fun report =>
      report.inventory.workflows.flatMap fun workflow => workflow.actions.map fun action =>
        _normalized (action.name ++ " " ++ action.type)) =
      documents.flatMap (activity_texts · inventory_label) := by
    rw [List.flatMap_map]
    exact congrArg (documents.flatMap ·) (funext activity_texts_inventory)
  simp only [audit_native_export_set, set_issues, hlabels]

theorem erroneous_set_issues {documents : List Mapping} :
    Erroneous (set_issues is_word documents expected_workflow_names required_activity_names) := by
  unfold set_issues
  refine Erroneous.append (Erroneous.append ?_ ?_) ?_
  · intro issue hissue
    obtain ⟨report, hreport, hmem⟩ := List.mem_flatMap.mp hissue
    obtain ⟨document, -, rfl⟩ := List.mem_map.mp hreport
    exact erroneous_ordered erroneous_export_issues issue hmem
  · exact List.forall_mem_map.mpr fun _ _ => rfl
  · exact Erroneous.flatMap fun _ => erroneous_issue_if

/-- The audit of a set passes it if and only if its documents are sound, every expected name,
as it stands, is that of a workflow of one of them, and every required name occurs in the
label and type of an activity of one of them. -/
theorem native_export_set_valid_iff {documents : List Mapping} :
    (audit_native_export_set is_word documents expected_workflow_names
      required_activity_names).native_export_set_valid ↔
      (∀ document ∈ documents, Sound is_word document) ∧
      (∀ name ∈ expected_workflow_names, name ≠ "" ∧ ∃ document ∈ documents, Labelled document name) ∧
      ∀ required_name ∈ required_activity_names, ∃ document ∈ documents,
        ∃ action, Activity document action ∧ contains (_normalized required_name) (inventory_label action) := by
  have hvalid : (audit_native_export_set is_word documents expected_workflow_names
        required_activity_names).native_export_set_valid =
      decide (((audit_native_export_set is_word documents expected_workflow_names
        required_activity_names).issues.filter (·.severity = .error)).length = 0) := rfl
  have herroneous : Erroneous (audit_native_export_set is_word documents expected_workflow_names
      required_activity_names).issues := by
    rw [issues_audit_native_export_set]
    exact erroneous_ordered erroneous_set_issues
  rw [hvalid, decide_eq_true_eq, List.length_eq_zero_iff, herroneous.filter_eq,
    issues_audit_native_export_set, ordered_eq_nil_iff]
  have hreports : (documents.map fun document => audit_native_export is_word document [] []).flatMap
      (·.issues) = [] ↔ ∀ document ∈ documents, Sound is_word document := by
    rw [List.flatMap_map, List.flatMap_eq_nil_iff]
    refine forall₂_congr fun document _ => ?_
    rw [← native_export_valid_iff_issues, native_export_valid_iff]
    simp only [List.not_mem_nil, false_implies, implies_true, and_true]
  have hnames {name : String} : name ∈ ((documents.map fun document =>
      audit_native_export is_word document [] []).flatMap (·.workflow_names)).dedup ↔
      name ≠ "" ∧ ∃ document ∈ documents, Labelled document name := by
    rw [List.mem_dedup, List.flatMap_map, List.mem_flatMap]
    simp only [workflow_names_audit_native_export, mem_sortedTexts, mem_actual_iff]
    constructor
    · rintro ⟨document, hdocument, hne, hlabelled⟩
      exact ⟨hne, document, hdocument, hlabelled⟩
    · rintro ⟨hne, document, hdocument, hlabelled⟩
      exact ⟨document, hdocument, hne, hlabelled⟩
  have hactivities {marker : String} :
      (!(documents.flatMap (activity_texts · inventory_label)).dedup.any (contains marker)) = false ↔
        ∃ document ∈ documents, ∃ action, Activity document action ∧ contains marker (inventory_label action) := by
    simp only [Bool.not_eq_false', ← any_activity_texts, List.any_eq_true, List.mem_dedup, List.mem_flatMap]
    constructor
    · rintro ⟨text, ⟨document, hdocument, htext⟩, hmarker⟩
      exact ⟨document, hdocument, text, htext, hmarker⟩
    · rintro ⟨document, hdocument, text, htext, hmarker⟩
      exact ⟨text, ⟨document, hdocument, htext⟩, hmarker⟩
  simp only [set_issues, List.append_eq_nil_iff, List.map_eq_nil_iff, List.flatMap_eq_nil_iff,
    issue_if_eq_nil_iff, hreports, missing_set_eq_nil_iff, hnames, hactivities, and_assoc]

/-! ## The two audits -/

/-- A label is trimmed. -/
theorem trimmed_label {value : Mapping} (hne : _label value ≠ "") : Trimmed (_label value) := by
  refine ⟨hne, ?_⟩
  rw [_label] at hne ⊢
  cases hfound : [assoc.lookup "display_name" (mapping_of value "properties"), assoc.lookup "title" value,
      assoc.lookup "name" value].findSome? nonblank with
  | none =>
    rw [hfound] at hne
    exact absurd rfl hne
  | some text =>
    obtain ⟨candidate, -, hcandidate⟩ := List.exists_of_findSome?_eq_some hfound
    simp only [nonblank] at hcandidate
    split at hcandidate
    · split at hcandidate
      · obtain rfl := Option.some.inj hcandidate
        exact intent.strip_strip _
      · cases hcandidate
    · cases hcandidate

/-- The expected names that a document has as they stand are the trimmed ones among those that
it has up to white space. -/
theorem labelled_iff {document : Mapping} :
    (∀ name ∈ expected_workflow_names, name ≠ "" ∧ Labelled document name) ↔
      (∀ name ∈ expected_workflow_names, strip name ≠ "" → Labelled document (strip name)) ∧
        ∀ name ∈ expected_workflow_names, Trimmed name := by
  constructor
  · intro hall
    have htrimmed : ∀ name ∈ expected_workflow_names, Trimmed name := by
      intro name hname
      obtain ⟨hne, path, workflow, hworkflow, rfl⟩ := hall name hname
      exact trimmed_label hne
    refine ⟨fun name hname _ => ?_, htrimmed⟩
    rw [(htrimmed name hname).2]
    exact (hall name hname).2
  · rintro ⟨hnames, htrimmed⟩ name hname
    obtain ⟨hne, hstrip⟩ := htrimmed name hname
    have hlabelled := hnames name hname (by rwa [hstrip])
    rw [hstrip] at hlabelled
    exact ⟨hne, hlabelled⟩

/-- The audit of a set of one document agrees with the audit of the document if and only if the
document has findings of its own or lacks an expected name, or its activities answer to the
required names under the labels of one audit exactly when they do under those of the other and
every expected name is trimmed. -/
theorem set_audit_agrees_iff {document : Mapping} :
    ((audit_native_export_set is_word [document] expected_workflow_names
        required_activity_names).native_export_set_valid ↔
      (audit_native_export is_word document expected_workflow_names
        required_activity_names).native_export_valid) ↔
      (Sound is_word document →
        (∀ name ∈ expected_workflow_names, strip name ≠ "" → Labelled document (strip name)) →
        ((∀ required_name ∈ required_activity_names, _normalized required_name ≠ "" →
            ∃ action, Activity document action ∧ contains (_normalized required_name) (activity_label action)) ↔
          (∀ name ∈ expected_workflow_names, Trimmed name) ∧
            ∀ required_name ∈ required_activity_names,
              ∃ action, Activity document action ∧
                contains (_normalized required_name) (inventory_label action))) := by
  rw [native_export_set_valid_iff, native_export_valid_iff]
  simp only [List.mem_singleton, forall_eq, exists_eq_left, labelled_iff]
  constructor
  · intro hagree hsound hnames
    constructor
    · intro hactivities
      obtain ⟨-, ⟨-, htrimmed⟩, hlabels⟩ := hagree.mpr ⟨hsound, hnames, hactivities⟩
      exact ⟨htrimmed, hlabels⟩
    · rintro ⟨htrimmed, hlabels⟩
      exact (hagree.mp ⟨hsound, ⟨hnames, htrimmed⟩, hlabels⟩).2.2
  · intro hsame
    constructor
    · rintro ⟨hsound, ⟨hnames, htrimmed⟩, hlabels⟩
      exact ⟨hsound, hnames, (hsame hsound hnames).mpr ⟨htrimmed, hlabels⟩⟩
    · rintro ⟨hsound, hnames, hactivities⟩
      obtain ⟨htrimmed, hlabels⟩ := (hsame hsound hnames).mp hactivities
      exact ⟨hsound, ⟨hnames, htrimmed⟩, hlabels⟩

end Audits

/-- A workflow whose only activity was renamed. -/
def renamed_export : Mapping := [
  ("workflow", .dict [
    ("unique_name", .str "definition_workflow_02"),
    ("title", .str "SDA Fabric"),
    ("type", .str "generic.workflow"),
    ("base_type", .str "workflow"),
    ("properties", .dict [("description", .str "Plan")]),
    ("actions", .list [.dict [
      ("unique_name", .str "definition_activity_02"),
      ("title", .str "Plan"),
      ("name", .str "HTTP Request"),
      ("type", .str "web.call"),
      ("base_type", .str "activity")]])])]

/-- The audit of the export finds the activity by its name, that of the set does not. -/
theorem renamed_activity_not_found :
    ¬((audit_native_export_set (fun c => c.isAlphanum || c = '_') [renamed_export] ["SDA Fabric"]
          ["HTTP Request"]).native_export_set_valid ↔
        (audit_native_export (fun c => c.isAlphanum || c = '_') renamed_export ["SDA Fabric"]
          ["HTTP Request"]).native_export_valid) := by
  decide +kernel

end orchestrator.meraki_native_export
