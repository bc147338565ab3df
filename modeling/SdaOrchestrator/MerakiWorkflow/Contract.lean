import SdaOrchestrator.Lib.Python

/-! The pinned contract of `orchestrator/meraki_workflow_package.py`. -/

open python

namespace orchestrator.meraki_workflow_package

/-- A list of texts in a document. -/
def texts (items : List String) : Value := .list (items.map .str)

def EXPECTED_ROLES : List String := ["planner", "approver", "operator", "auditor"]

def EXPECTED_OPERATOR_INPUT_NAMES : List String := [
  "requirements_json", "requested_mode", "change_reference", "approval_expires_at", "maintenance_start",
  "maintenance_end"]

def EXPECTED_OPERATION_REQUEST_FIELDS : List (String × Value) := [
  ("plan", texts ["requirements_json", "idempotency_key"]),
  ("poc_guided_plan", texts ["form_values", "idempotency_key"]),
  ("poc_guided_options", texts []),
  ("approve", texts ["plan_id", "decision", "change_reference", "expires_at"]),
  ("adopt_owned_state_baseline", texts ["fabric_id", "manifest", "evidence_hash", "change_reference", "discovered_by"]),
  ("get_owned_state_baseline", texts ["fabric_id"]),
  ("create_run", texts ["plan_id", "mode", "idempotency_key", "maintenance_window"]),
  ("process_dry_run", texts ["run_id"]),
  ("status", texts ["run_id"]),
  ("evidence", texts ["run_id"])]

def EXPECTED_REQUIREMENTS_INTAKE_DIMENSIONS : List String := [
  "site_hierarchy", "device_roles_and_links", "endpoint_demand_and_address_pools",
  "virtual_networks_and_vrfs", "border_handoff_selection", "multicast_selection", "policy_plane_selection",
  "telemetry_selection"]

def FORBIDDEN_REQUIREMENTS_SUBMISSION_FIELDS : List String := [
  "generated_cli", "allocated_underlay_prefix", "allocated_overlay_prefix", "allocated_vlan_id",
  "allocated_vni", "allocated_sgt", "device_credential", "lisp_auth_key", "sxp_password", "ise_password"]

def EXPECTED_TERMINAL_STATUSES : List String := [
  "dry_run_succeeded", "dry_run_blocked", "dry_run_failed", "apply_succeeded", "apply_failed",
  "rolled_back", "rollback_failed", "quarantined"]

def ALLOWED_ACCOUNT_KEY_TYPES : List String := [
  "http_bearer_authentication", "http_custom_header_authentication",
  "http_client_certificate_authentication"]

def ALLOWED_ACTIVITIES : List String := [
  "approval_task_rule", "bounded_poll", "build_json", "child_workflow", "condition", "create_prompt",
  "http_request", "json_path_extract", "request_approval", "result_summary"]

def EXPECTED_NATIVE_ACTIVITY_TYPES : List (String × String) := [
  ("http_request", "web-service.http_request"),
  ("create_prompt", "task.prompt_request"),
  ("condition", "logic.if_else"),
  ("condition_branch", "logic.condition_block"),
  ("completed", "logic.completed"),
  ("request_approval", "task.request_approval"),
  ("child_workflow", "workflow.sub_workflow"),
  ("while_loop", "logic.while"),
  ("set_variables", "core.set_multiple_variables"),
  ("sleep", "core.sleep"),
  ("parse_json", "core.parsejson"),
  ("json_path_query", "corejava.jsonpathquery")]

def EXPECTED_NATIVE_EXPORT_TOP_LEVEL_KEYS : List String := ["dependent_workflows", "workflow"]

def EXPECTED_NATIVE_WORKFLOW_TOP_LEVEL_KEYS : List String := [
  "actions", "base_type", "categories", "name", "object_type", "properties", "title", "type", "unique_name",
  "variables"]

def EXPECTED_NATIVE_WORKFLOW_PROPERTY_KEYS : List String := [
  "atomic", "delete_workflow_instance", "description", "display_name", "runtime_user", "target"]

def EXPECTED_NATIVE_VARIABLE_KEYS : List String := ["object_type", "properties", "schema_id", "unique_name"]

def EXPECTED_NATIVE_VARIABLE_PROPERTY_KEYS : List String := [
  "description", "display_on_wizard", "is_invisible", "is_required", "name", "scope", "type", "value",
  "variable_string_format"]

def EXPECTED_NATIVE_PROPERTY_KEYS : List (String × List String) := [
  ("http_request", ["accept", "action_timeout", "allow_auto_redirect", "allow_headers_redirect", "body",
    "continue_on_error_status_code", "continue_on_failure", "description", "display_name", "method",
    "relative_url", "runtime_user", "skip_execution", "target"]),
  ("create_prompt", ["assignee_roles", "assignees", "continue_on_failure", "description", "display_name",
    "expiration_date", "form_elements", "prompt_body", "prompt_title", "skip_execution", "task_owner",
    "task_requestor", "wait_for_prompt_response"]),
  ("condition", ["conditions", "continue_on_failure", "description", "display_name", "skip_execution"]),
  ("condition_branch", ["condition", "continue_on_failure", "display_name", "skip_execution"]),
  ("completed", ["completion_type", "continue_on_failure", "description", "display_name", "skip_execution"]),
  ("request_approval", ["approval_choices_holder", "approval_title", "assignee_roles", "body_text",
    "continue_on_failure", "description", "display_name", "due_date", "expiration_date",
    "expiration_status", "minimum_approvals", "priority", "skip_execution", "task_owner", "task_requestor",
    "wait_for_request_approval_response"]),
  ("child_workflow", ["atomic", "continue_on_failure", "description", "display_name", "input",
    "runtime_user", "skip_execution", "target", "workflow_id", "workflow_name"]),
  ("while_loop", ["continue_on_failure", "description", "display_name", "skip_execution"]),
  ("set_variables", ["continue_on_failure", "description", "display_name", "skip_execution",
    "variables_to_update"]),
  ("sleep", ["continue_on_failure", "description", "display_name", "skip_execution", "sleep_interval"]),
  ("parse_json", ["action_timeout", "continue_on_failure", "description", "display_name", "example_json",
    "input_json", "set_default_value", "skip_execution"]),
  ("json_path_query", ["action_timeout", "continue_on_failure", "description", "display_name", "input_json",
    "jsonpath_queries", "skip_execution"])]

def EXPECTED_NATIVE_SERIALIZATION_TOPOLOGY : Value := .dict [
  ("root_action_sequence", texts [
    "http_request", "create_prompt", "condition", "request_approval", "child_workflow", "while_loop",
    "set_variables", "sleep", "parse_json", "json_path_query"]),
  ("condition", .dict [
    ("children_key", .str "blocks"),
    ("branch_activity", .str "condition_branch"),
    ("branch_actions_key", .str "actions"),
    ("terminal_activity", .str "completed")]),
  ("child_workflow", .dict [("dependency_key", .str "dependent_workflows"), ("embedded_workflows", .bool false)]),
  ("while_loop", .dict [("children_key", .str "blocks"), ("branch_activity", .str "condition_branch")]),
  ("workflow_variables", .dict [
    ("collection_key", .str "variables"),
    ("object_type", .str "variable_workflow"),
    ("unique_name_prefix", .str "variable_workflow_"),
    ("wrapper_keys", texts (sortedTexts EXPECTED_NATIVE_VARIABLE_KEYS)),
    ("property_keys", texts (sortedTexts EXPECTED_NATIVE_VARIABLE_PROPERTY_KEYS))])]

def EXPECTED_NATIVE_ASSEMBLY_CONTRACT : Value := .dict [
  ("contract_version", .str "1.0"),
  ("tenant_identifier_policy", .str "tenant_generated_only"),
  ("compiler_emits_importable_json", .bool false),
  ("portable_activity_recipes", .dict [
    ("approval_task_rule", .dict [
      ("kind", .str "composite"),
      ("native_sequence", texts ["condition"]),
      ("supporting_activities", texts ["condition_branch", "completed"]),
      ("invariants", texts ["approval_decision_exact_match", "rejected_expired_or_cancelled_terminates"])]),
    ("bounded_poll", .dict [
      ("kind", .str "composite"),
      ("native_sequence", texts ["set_variables", "while_loop"]),
      ("loop_body_sequence", texts ["http_request", "condition", "sleep", "set_variables"]),
      ("supporting_activities", texts ["condition_branch", "completed"]),
      ("invariants", texts [
        "attempt_counter_bounded", "terminal_status_exact_match", "http_error_branch_immediate",
        "sleep_only_after_non_terminal_status"])]),
    ("build_json", .dict [
      ("kind", .str "composite"),
      ("native_sequence", texts ["parse_json", "set_variables"]),
      ("invariants", texts [
        "input_json_parsed_before_use", "fixed_request_body_template",
        "no_quoted_user_controlled_interpolation", "payload_substitution_acceptance_required"])]),
    ("child_workflow", .dict [("kind", .str "direct"), ("native_sequence", texts ["child_workflow"])]),
    ("condition", .dict [
      ("kind", .str "composite"),
      ("native_sequence", texts ["condition"]),
      ("supporting_activities", texts ["condition_branch", "completed"]),
      ("invariants", texts ["exact_rule_match", "explicit_terminal_branch"])]),
    ("create_prompt", .dict [("kind", .str "direct"), ("native_sequence", texts ["create_prompt"])]),
    ("http_request", .dict [
      ("kind", .str "direct"),
      ("native_sequence", texts ["http_request"]),
      ("invariants", texts ["fixed_relative_v1_path", "redirects_disabled", "immediate_http_status_branch"])]),
    ("json_path_extract", .dict [
      ("kind", .str "alias"),
      ("native_sequence", texts ["json_path_query"]),
      ("invariants", texts ["declared_output_contract_only"])]),
    ("request_approval", .dict [
      ("kind", .str "direct"),
      ("native_sequence", texts ["request_approval"]),
      ("invariants", texts [
        "minimum_one_approval", "comment_and_acknowledgement_required",
        "expiry_required_for_execution_modes"])]),
    ("result_summary", .dict [
      ("kind", .str "alias"),
      ("native_sequence", texts ["create_prompt"]),
      ("invariants", texts ["wait_for_prompt_response_false", "secret_and_raw_configuration_outputs_forbidden"])])])]

/-- One output of a workflow. -/
def output (name type step channel path : String) : Value := .dict [
  ("name", .str name),
  ("type", .str type),
  ("required", .bool true),
  ("source", .dict [("step", .str step), ("channel", .str channel), ("path", .str path)])]

def EXPECTED_WORKFLOW_OUTPUTS : List (String × Value) := [
  ("parent", .list [
    output "intent_id" "string" "plan" "child_output" "intent_id",
    output "intent_hash" "string" "plan" "child_output" "intent_hash",
    output "plan_id" "string" "plan" "child_output" "plan_id",
    output "plan_hash" "string" "plan" "child_output" "plan_hash",
    output "artifact_hash" "string" "plan" "child_output" "artifact_hash",
    output "blocking_requirements_json" "json" "plan" "child_output" "blocking_requirements_json",
    output "approval_id" "string" "approval" "child_output" "approval_id",
    output "approval_decision" "string" "approval" "child_output" "approval_decision",
    output "approval_expires_at" "string" "approval" "child_output" "approval_expires_at",
    output "run_id" "string" "dry_run" "child_output" "run_id",
    output "run_status" "string" "dry_run" "child_output" "run_status",
    output "evidence_chain_valid" "boolean" "evidence" "child_output" "evidence_chain_valid",
    output "evidence_summary_json" "json" "evidence" "child_output" "evidence_summary_json",
    output "audit_summary_json" "json" "evidence" "child_output" "audit_summary_json"]),
  ("validate_and_plan", .list [
    output "plan_status" "string" "create_plan" "response_body" "$.status",
    output "intent_id" "string" "create_plan" "response_body" "$.intent_id",
    output "intent_hash" "string" "create_plan" "response_body" "$.intent_hash",
    output "plan_id" "string" "create_plan" "response_body" "$.plan_id",
    output "plan_hash" "string" "create_plan" "response_body" "$.plan_hash",
    output "artifact_hash" "string" "create_plan" "response_body" "$.artifact_hash",
    output "blocking_requirements_json" "json" "create_plan" "response_body" "$.blocking_requirements"]),
  ("request_approval", .list [
    output "approval_status" "string" "record_approval" "response_body" "$.status",
    output "approval_id" "string" "record_approval" "response_body" "$.approval_id",
    output "plan_id" "string" "record_approval" "response_body" "$.plan_id",
    output "approval_decision" "string" "record_approval" "response_body" "$.decision",
    output "approval_expires_at" "string" "record_approval" "response_body" "$.expires_at"]),
  ("start_dry_run", .list [
    output "run_id" "string" "poll_dry_run" "response_body" "$.run.run_id",
    output "run_status" "string" "poll_dry_run" "response_body" "$.run.status",
    output "plan_id" "string" "poll_dry_run" "response_body" "$.run.plan_id",
    output "plan_hash" "string" "poll_dry_run" "response_body" "$.run.plan_hash",
    output "artifact_hash" "string" "poll_dry_run" "response_body" "$.run.artifact_hash"]),
  ("start_apply", .list [
    output "run_id" "string" "poll_apply" "response_body" "$.run.run_id",
    output "run_status" "string" "poll_apply" "response_body" "$.run.status"]),
  ("export_evidence", .list [
    output "evidence_status" "string" "retrieve_evidence" "response_body" "$.status",
    output "run_id" "string" "retrieve_evidence" "response_body" "$.run_id",
    output "evidence_chain_valid" "boolean" "retrieve_evidence" "response_body" "$.chain_valid",
    output "evidence_summary_json" "json" "retrieve_evidence" "response_body" "$.evidence",
    output "audit_summary_json" "json" "retrieve_evidence" "response_body" "$.audit"])]

def EXPECTED_MASTER_SUMMARY_FIELDS : List String := [
  "intent_id", "plan_id", "plan_hash", "artifact_hash", "blocking_requirements_json", "approval_id",
  "approval_decision", "approval_expires_at", "run_id", "run_status", "evidence_chain_valid"]

end orchestrator.meraki_workflow_package
