import Iicp.Rust.Interaction
import Iicp.Rust.Json
import Iicp.Rust.Str
import Iicp.Rust.Text

/-!
# The MCP gateway

A gateway offers tools of a local MCP server to the network. It registers at a directory, with one
intent for each tool (`toolToIntent`), and answers tasks: it checks the caller's token, finds the
tool in the payload or in the intent, checks the risk policy and its list of tools, and then sends
the call to the MCP server, with a session that may have to be opened first (`taskHandler`).

The call that is sent is for a tool of the list that the policy allows, and for no other tool than
the one that the checks have found (`addsOnly_taskHandler`, `of_checkTask`). A gateway without a
token asks for none, and the tool in the payload is not compared with the intent (`tool_call_iff`).
-/

namespace Iicp.Mcp

open Rust Interaction List

/-! ### The risk policy -/

def isAsciiAlphanumeric (char : Char) : Bool :=
  ('a' ≤ char && char ≤ 'z') || ('A' ≤ char && char ≤ 'Z') || ('0' ≤ char && char ≤ '9')

def isPlain (char : Char) : Bool :=
  ('a' ≤ char && char ≤ 'z') || ('0' ≤ char && char ≤ '9') || char == '_'

def isCapital (char : Char) : Prop := 'A' ≤ char ∧ char ≤ 'Z'

/-- The libraries: the case table, which leaves no capital ASCII letter, the JSON reader, and the
text of an answer with a content type. -/
structure GatewayCrates where
  unicodeLowercase : String → String
  fromSlice : List UInt8 → Option Json
  bodyText : Option String → List UInt8 → String
  unicode_small : ∀ text : String, ∀ char ∈ (unicodeLowercase text).toList, ¬ isCapital char

def GatewayCrates.toLowercase (crates : GatewayCrates) (text : String) : String :=
  Rust.toLowercase text crates.unicodeLowercase

/-- The kinds of risk with the words that tell them, in the order of the search. -/
def riskKeywords : List (String × List String) :=
  [("shell_exec", ["bash", "shell", "exec", "run_command", "command", "eval", "python_exec"]),
    ("data_read",
      ["read_document", "query_database", "list_resource", "dataset_read", "record_lookup"]),
    ("file_read", ["read_file", "list_dir", "cat", "open_file", "file_read", "list_files"]),
    ("file_write",
      ["write_file", "delete_file", "remove_file", "edit_file", "save_file", "mkdir", "rmdir"]),
    ("network_fetch", ["fetch", "crawl", "http", "web_request", "search_web", "url"]),
    ("browser_control", ["browser", "computer_use", "click", "type", "screenshot", "navigate"]),
    ("credential_access", ["secret", "credential", "token", "ssh_key", "wallet", "password"]),
    ("system_control",
      ["systemctl", "launchctl", "service_restart", "install_package", "firewall", "reboot",
        "shutdown"]),
    ("physical_world",
      ["robot", "drone", "actuator", "iot_control", "medical_device", "industrial_control"]),
    ("regulated_decision",
      ["credit_score", "hire", "employment", "benefit_eligibility", "diagnose", "triage_patient"])]

/-- Replaces the characters that do not pass a test. -/
def replaceOthers (test : Char → Bool) (text : String) : String :=
  String.ofList (text.toList.map fun char ↦ if test char then char else '_')

/-- A character that stays in a name, with these characters besides letters and digits. -/
def keptWith (others : List Char) (char : Char) : Bool :=
  isAsciiAlphanumeric char || others.contains char

section Policy

variable (crates : GatewayCrates)

def toolRiskLabel (toolName : String) : String :=
  let safe := replaceOthers (keptWith ['_', ':', '-']) (crates.toLowercase toolName)
  ((riskKeywords.find? fun risk ↦ risk.2.any (containsText safe)).map Prod.fst).getD "benign_read"

structure McpToolPolicy where
  allowDangerousTools : Bool
  authzPolicy : String
  sandboxProfile : String
  auditRedaction : Bool
  deriving DecidableEq, Repr

namespace McpToolPolicy

variable (policy : McpToolPolicy)

def dangerousReady : Bool :=
  policy.allowDangerousTools && trim policy.authzPolicy != "" &&
    ["1", "true", "strict", "container", "sandbox"].contains
      (crates.toLowercase (trim policy.sandboxProfile)) && policy.auditRedaction

def allows (toolName : String) : Bool :=
  toolRiskLabel crates toolName == "benign_read" || policy.dangerousReady crates

def shortened (length : ℕ) (text : String) : Json :=
  if text = "" then .null else .string (String.ofList (text.toList.take length))

def receipt (toolName decision : String) (argumentCount : ℕ) : Json :=
  let safeName := (replaceOthers (keptWith ['_', ':', '-']) toolName).toList.take 96
  .object [("argument_content", .string "excluded"), ("argument_count", .ofU64 argumentCount),
    ("audit_redacted", .bool policy.auditRedaction),
    ("authz_policy", shortened 96 policy.authzPolicy), ("decision", .string decision),
    ("sandbox_profile", shortened 32 policy.sandboxProfile),
    ("tool_name", .string (String.ofList safeName)),
    ("tool_risk", .string (toolRiskLabel crates toolName))]

end McpToolPolicy

/-! ### Intents -/

def mcpIntent (safe : String) : String := "urn:iicp:intent:mcp:" ++ safe ++ ":v1"

/-- The intent under which a tool is registered. -/
def toolToIntent (name : String) : String :=
  mcpIntent (replaceOthers (keptWith ['_']) (crates.toLowercase name))

end Policy

/-- The name in an intent at the start of a text. The name goes up to the next colon. -/
def captureAt (text : List Char) : Option (List Char) :=
  let opening := "urn:iicp:intent:mcp:".toList
  let name := (text.drop opening.length).takeWhile (· != ':')
  let rest := (text.drop opening.length).dropWhile (· != ':')
  if opening.isPrefixOf text && !name.isEmpty && ":v1".toList.isPrefixOf rest then some name else none

/-- The first match of the pattern `urn:iicp:intent:mcp:([^:]+):v1` anywhere in a text. -/
def captureTool : List Char → Option (List Char)
  | [] => none
  | char :: rest => (captureAt (char :: rest)).or (captureTool rest)

/-! ### The gateway -/

inductive McpRevision where
  | legacy
  | modern
  deriving DecidableEq, Repr

def McpRevision.text : McpRevision → String
  | .legacy => "2025-11-25"
  | .modern => "2026-07-28"

def McpRevision.named (text : String) : Option McpRevision :=
  [McpRevision.legacy, .modern].find? fun revision ↦ revision.text = text

structure GatewayConfig where
  rawTools : String
  toolPolicy : McpToolPolicy
  (mcpRevision mcpServerName mcpExtensions nodeTokenEnv : String)

/-- The parts of a text between commas, without white space around them and without empty ones. -/
def commaParts (text : String) : List String :=
  ((text.toList.splitOn ',').map fun part ↦ trim (String.ofList part)).filter (· ≠ "")

/-- The token after the registration: that of an answer that accepts it and holds one, otherwise the
one from the start. -/
def registeredToken (nodeTokenEnv : String) (registration : Option Json) : String :=
  (registration.bind fun data ↦ (data.field "node_token").asStr).getD nodeTokenEnv

structure Gateway where
  activeTools : List String
  nodeToken : String
  toolPolicy : McpToolPolicy
  revision : McpRevision
  serverName : String
  extensions : List String
  deriving DecidableEq

/-- The gateway after its registration, which may have failed. It does not start with an unsupported
revision, without a server name that the newer revision needs, or without a tool. -/
def runMcpGateway (crates : GatewayCrates) (config : GatewayConfig) (registration : Option Json) :
    Option Gateway :=
  match McpRevision.named config.mcpRevision with
  | none => none
  | some revision =>
    let activeTools := (commaParts config.rawTools).filter (config.toolPolicy.allows crates)
    if revision = .modern ∧ trim config.mcpServerName = "" then none
    else if activeTools.isEmpty then none
    else some ⟨activeTools, registeredToken config.nodeTokenEnv registration, config.toolPolicy,
      revision, config.mcpServerName, (commaParts config.mcpExtensions).map crates.toLowercase⟩

/-! ### Checking a task -/

structure TaskRequest where
  authorization : Option String
  body : List UInt8

structure Response where
  status : ℕ
  body : Json
  deriving DecidableEq

def errorResponse (status : ℕ) (message : String) : Response :=
  ⟨status, .object [("error", .string message)]⟩

variable (body : Json)

def payloadOf : List (String × Json) := ((body.get "payload").bind Json.asObject).getD []

def payloadTool : String :=
  ((Json.getField (payloadOf body) "tool_name").bind Json.asStr).getD ""

def intentOf : Option String := (body.get "intent").bind Json.asStr

/-- The tool of a task: that of the payload, or else that of the intent. -/
def selectTool : String :=
  if payloadTool body ≠ "" then payloadTool body
  else ((intentOf body).bind fun intent ↦ captureTool intent.toList).elim "" String.ofList

/-- A task that has passed the checks. -/
structure ToolTask where
  toolName : String
  arguments : Json
  taskId : Option String
  replaySafe : Bool

def ToolTask.argumentCount (task : ToolTask) : ℕ := (task.arguments.asObject.map length).getD 0

section Handler

variable (crates : GatewayCrates) (gateway : Gateway)

def toolTask (body : Json) : ToolTask where
  toolName := selectTool body
  arguments := (Json.getField (payloadOf body) "arguments").getD (.object [])
  taskId := (body.get "task_id").bind Json.asStr
  replaySafe := ((Json.getField (payloadOf body) "mcp_replay_safe").bind Json.asBool).getD false

def checkTask (request : TaskRequest) : Outcome Response ToolTask :=
  if gateway.nodeToken ≠ "" ∧ request.authorization.getD "" ≠ "Bearer " ++ gateway.nodeToken then
    .err (errorResponse 401 "Unauthorized")
  else
    match crates.fromSlice request.body with
    | none => .err (errorResponse 400 "invalid JSON")
    | some body =>
      let task := toolTask body
      if task.toolName = "" then .err (errorResponse 400 "Cannot determine tool name")
      else if !gateway.toolPolicy.allows crates task.toolName then
        .err ⟨403, .object [("error", .string "Tool not permitted by MCP risk policy"),
          ("policy_receipt",
            gateway.toolPolicy.receipt crates task.toolName "denied" task.argumentCount)]⟩
      else if !gateway.activeTools.isEmpty && !gateway.activeTools.contains task.toolName then
        .err (errorResponse 404 "Tool not available")
      else .ok task

/-! ### Messages to the MCP server -/

structure McpRequest where
  headers : List (String × String)
  body : Json
  deriving DecidableEq

def McpRequest.calls (request : McpRequest) : Option String :=
  if (request.body.field "method").asStr = some "tools/call" then
    ((request.body.field "params").field "name").asStr
  else none

/-- An answer of the MCP server: the status, two headers and the body, where they can be read. -/
structure McpReply where
  status : ℕ
  (sessionId contentType : Option String)
  body : Option (List UInt8)

/-- What the server answers to a message, after earlier messages; nothing when it is not reached. -/
abbrev McpServer := List McpRequest → McpRequest → Option McpReply

structure McpState where
  rpcId : ℕ
  session : Option String

def rpcBody (rpcId : Option ℕ) (method : String) (params : Json) : Json :=
  .object (Json.present [("id", rpcId.map .ofU64), ("jsonrpc", some (.string "2.0")),
    ("method", some (.string method)), ("params", some params)])

variable (reply : McpReply)

def McpReply.success : Bool := decide (200 ≤ reply.status ∧ reply.status < 300)

def McpReply.json : Option Json := reply.body.bind crates.fromSlice

/-- The JSON of an answer, which is the last event if the answer is a stream of events. -/
def responseJson : Option Json :=
  if reply.contentType.any fun value ↦
      containsText (toAsciiLowercase value) "text/event-stream" then do
    let body ← reply.body
    let event ← ((lines (crates.bodyText reply.contentType body)).filterMap
      (stripStart · "data: ")).getLast?
    crates.fromSlice (utf8Bytes event)
  else reply.json crates

def legacyHeaders (session : Option String) : List (String × String) :=
  ("MCP-Protocol-Version", McpRevision.legacy.text) ::
    (session.map fun id ↦ ("Mcp-Session-Id", id)).toList ++
      [("Accept", "application/json, text/event-stream")]

inductive LegacyCallError where
  | expired
  | failed (reason : String)
  deriving DecidableEq, Repr

section Exchange

variable {ε : Type} (server : McpServer)

def post (request : McpRequest) : Interaction McpState McpRequest ε (Option McpReply) :=
  .ask (fun log ↦ server log request) fun _ ↦ request

def nextRpcId : Interaction McpState McpRequest ε ℕ := do
  let state ← .getState
  .setState { state with rpcId := state.rpcId + 1 }
  pure (state.rpcId + 1)

def setSession (session : Option String) : Interaction McpState McpRequest ε Unit := do
  let state ← .getState
  .setState { state with session := session }

def initializeLegacySession (version : String) : Interaction McpState McpRequest String String := do
  let rpcId ← nextRpcId
  let params := Json.object [("capabilities", .object []),
    ("clientInfo", .object [("name", .string "iicp-mcp-gateway"), ("version", .string version)]),
    ("protocolVersion", .string McpRevision.legacy.text)]
  let reply ← post server ⟨legacyHeaders none, rpcBody (some rpcId) "initialize" params⟩
  let response ← .ofOutcome (.okOr "MCP server unreachable" reply)
  .ofOutcome (.require response.success "MCP server rejected legacy initialization")
  let sessionId ← .ofOutcome (.okOr "MCP server did not return a legacy session identifier"
    ((response.sessionId.map trim).filter (· ≠ "")))
  let data ← .ofOutcome (.okOr "invalid MCP response" (responseJson crates response))
  .ofOutcome (.require (data.get "error").isNone "MCP server rejected legacy initialization")
  let noted ← post server
    ⟨legacyHeaders (some sessionId), rpcBody none "notifications/initialized" (.object [])⟩
  let notification ← .ofOutcome (.okOr "MCP server unreachable" noted)
  .ofOutcome (.require notification.success "MCP server rejected initialized notification")
  pure sessionId

def sendLegacyCall (sessionId : String) (rpc : Json) :
    Interaction McpState McpRequest LegacyCallError Json := do
  let reply ← post server ⟨legacyHeaders (some sessionId), rpc⟩
  let response ← .ofOutcome (.okOr (.failed "MCP server unreachable") reply)
  .ofOutcome (.require (response.status != 401 && response.status != 404) .expired)
  .ofOutcome (.require response.success (.failed "MCP server rejected tool call"))
  .ofOutcome (.okOr (.failed "invalid MCP response") (responseJson crates response))

end Exchange

/-! ### Handling a task -/

/-- The answer to the caller when the tool has answered. -/
def finishTask (task : ToolTask) (freshId : String) (data : Json) : Outcome Response Response :=
  if (data.get "error").isSome then .err (errorResponse 422 "MCP tool returned an error")
  else .ok ⟨200, .object [
    ("policy_receipt", gateway.toolPolicy.receipt crates task.toolName "allowed" task.argumentCount),
    ("result", (data.get "result").getD .null), ("status", .string "completed"),
    ("task_id", .string (task.taskId.getD freshId))]⟩

def callParams (task : ToolTask) (metadata : Option Json) : Json :=
  .object (Json.present [("_meta", metadata), ("arguments", some task.arguments),
    ("name", some (.string task.toolName))])

/-- What follows the answer to the call of a task. A session that has expired is opened once more if
the task may be repeated. -/
def answerLegacy (server : McpServer) (version freshId : String) (task : ToolTask) (rpc : Json) :
    Except LegacyCallError Json → Interaction McpState McpRequest Response Response
  | .ok data => .ofOutcome (finishTask crates gateway task freshId data)
  | .error (.failed reason) => .fail (errorResponse 502 reason)
  | .error .expired =>
    if !task.replaySafe then do
      setSession none
      .fail ⟨409, .object [("error", .string "mcp_session_expired_retry_required"),
        ("retryable", .bool true)]⟩
    else do
      match ← .attempt (initializeLegacySession crates server version) with
      | .error reason => do
        setSession none
        .fail (errorResponse 502 reason)
      | .ok replacement => do
        setSession (some replacement)
        match ← .attempt (sendLegacyCall crates server replacement rpc) with
        | .ok data => .ofOutcome (finishTask crates gateway task freshId data)
        | .error _ => do
          setSession none
          .fail (errorResponse 502 "MCP legacy session expired after one reinitialization")

/-- Sends the call of a task in a session, which is opened if there is none. -/
def runLegacy (server : McpServer) (version freshId : String) (task : ToolTask) (rpc : Json) :
    Interaction McpState McpRequest Response Response := do
  let state ← .getState
  let session ← (match state.session with
    | some session => pure session
    | none => do
      match ← .attempt (initializeLegacySession crates server version) with
      | .ok session => setSession (some session); pure session
      | .error reason => .fail (errorResponse 502 reason))
  let answer ← .attempt (sendLegacyCall crates server session rpc)
  answerLegacy crates gateway server version freshId task rpc answer

def supportedExtension (extension : String) : Bool := ["tasks", "skills", "apps"].contains extension

/-- What a call of the newer revision says about itself. -/
def modernMeta : Json :=
  .object (Json.present [("client", some (.object [("name", .string "iicp-gateway")])),
    ("extensions", if gateway.extensions.isEmpty then none
      else some (.array (gateway.extensions.map .string))),
    ("protocolVersion", some (.string McpRevision.modern.text))])

def validateModernMcpResponse (data : Json) : Outcome Response Unit := do
  .require ((data.field "_meta").field "protocolVersion" == .string McpRevision.modern.text)
    (errorResponse 502 "malformed_reserved_metadata")
  .require (((data.field "_meta").field "server").field "name" == .string gateway.serverName)
    (errorResponse 502 "server_identity_mismatch")

def isHeaderValue (text : String) : Bool :=
  (utf8Bytes text).all fun byte ↦ (32 ≤ byte && byte != 127) || byte == 9

/-- Sends the call of a task under the newer revision. Nothing is sent for a tool whose name cannot
stand in a header. -/
def runModern (server : McpServer) (freshId : String) (rpcId : ℕ) (task : ToolTask) :
    Interaction McpState McpRequest Response Response := do
  .ofOutcome (.require (gateway.extensions.all supportedExtension)
    (errorResponse 400 "unsupported_extension"))
  .ofOutcome (.require (isHeaderValue task.toolName) (errorResponse 502 "MCP server unreachable"))
  let headers := [("MCP-Protocol-Version", McpRevision.modern.text), ("Mcp-Method", "tools/call"),
    ("Mcp-Name", task.toolName)]
  let reply ← post server ⟨headers,
    rpcBody (some rpcId) "tools/call" (callParams task (some (modernMeta gateway)))⟩
  let response ← .ofOutcome (.okOr (errorResponse 502 "MCP server unreachable") reply)
  let data ← .ofOutcome (.okOr (errorResponse 502 "invalid MCP response") (response.json crates))
  .ofOutcome (validateModernMcpResponse gateway data)
  .ofOutcome (finishTask crates gateway task freshId data)

def taskHandler (server : McpServer) (version freshId : String) (request : TaskRequest) :
    Interaction McpState McpRequest Response Response := do
  let task ← .ofOutcome (checkTask crates gateway request)
  let rpcId ← nextRpcId
  match gateway.revision with
  | .legacy =>
    runLegacy crates gateway server version freshId task
      (rpcBody (some rpcId) "tools/call" (callParams task none))
  | .modern => runModern crates gateway server freshId rpcId task

/-! ### What is sent -/

section Sent

variable {crates gateway} {server : McpServer} {version freshId tool : String} {task : ToolTask}

def CallsOnly (tool : String) (request : McpRequest) : Prop :=
  ∀ called, request.calls = some called → called = tool

lemma callsOnly_rpcBody (headers : List (String × String)) (rpcId : ℕ) (metadata : Option Json) :
    CallsOnly task.toolName
      ⟨headers, rpcBody (some rpcId) "tools/call" (callParams task metadata)⟩ := by
  intro called hcalled
  cases metadata with
  | none | some => exact (Option.some.inj hcalled).symm

lemma callsOnly_of_method {method : String} {headers : List (String × String)} {rpcId : Option ℕ}
    {params : Json} (hmethod : method ≠ "tools/call") :
    CallsOnly tool ⟨headers, rpcBody rpcId method params⟩ := by
  intro called hcalled
  have hbody : ((rpcBody rpcId method params).field "method").asStr = some method := by
    cases rpcId with
    | none => rfl
    | some => rfl
  rw [McpRequest.calls, hbody, if_neg fun h ↦ hmethod (Option.some.inj h)] at hcalled
  nomatch hcalled

section Parts

variable {ε : Type} {possible : McpRequest → Prop}

lemma addsOnly_post {request : McpRequest} (h : possible request) :
    AddsOnly possible (post server request : Interaction McpState McpRequest ε (Option McpReply)) :=
  addsOnly_ask fun _ ↦ h

lemma addsOnly_nextRpcId : AddsOnly possible (nextRpcId : Interaction McpState McpRequest ε ℕ) :=
  addsOnly_getState.bind fun _ ↦
    (addsOnly_setState _).bind fun _ ↦ addsOnly_pure _

lemma addsOnly_setSession (session : Option String) :
    AddsOnly possible (setSession session : Interaction McpState McpRequest ε Unit) :=
  addsOnly_getState.bind fun _ ↦ addsOnly_setState _

end Parts

lemma addsOnly_initializeLegacySession (tool : String) :
    AddsOnly (CallsOnly tool) (initializeLegacySession crates server version) := by
  refine addsOnly_nextRpcId.bind fun rpcId ↦ ?_
  refine (addsOnly_post (callsOnly_of_method (by decide))).bind fun reply ↦ ?_
  refine addsOnly_ofOutcome_bind fun _ _ ↦ addsOnly_ofOutcome_bind fun _ _ ↦ ?_
  refine addsOnly_ofOutcome_bind fun _ _ ↦ addsOnly_ofOutcome_bind fun _ _ ↦ ?_
  refine addsOnly_ofOutcome_bind fun _ _ ↦ ?_
  refine (addsOnly_post (callsOnly_of_method (by decide))).bind fun noted ↦ ?_
  exact addsOnly_ofOutcome_bind fun _ _ ↦ addsOnly_ofOutcome_bind fun _ _ ↦ addsOnly_pure _

lemma addsOnly_sendLegacyCall {sessionId : String} {rpc : Json}
    (hrpc : ∀ headers, CallsOnly tool ⟨headers, rpc⟩) :
    AddsOnly (CallsOnly tool) (sendLegacyCall crates server sessionId rpc) := by
  refine (addsOnly_post (hrpc _)).bind fun reply ↦ ?_
  refine addsOnly_ofOutcome_bind fun _ _ ↦ addsOnly_ofOutcome_bind fun _ _ ↦ ?_
  exact addsOnly_ofOutcome_bind fun _ _ ↦ addsOnly_ofOutcome _

lemma addsOnly_answerLegacy {rpc : Json} (hrpc : ∀ headers, CallsOnly tool ⟨headers, rpc⟩)
    (answer : Except LegacyCallError Json) :
    AddsOnly (CallsOnly tool)
      (answerLegacy crates gateway server version freshId task rpc answer) := by
  match answer with
  | .ok data => exact addsOnly_ofOutcome _
  | .error (.failed reason) => exact addsOnly_fail _
  | .error .expired =>
    rw [answerLegacy]
    cases hsafe : task.replaySafe with
    | false => exact (addsOnly_setSession _).bind fun _ ↦ addsOnly_fail _
    | true =>
      refine (addsOnly_initializeLegacySession tool).attempt.bind fun opened ↦ ?_
      cases opened with
      | error => exact (addsOnly_setSession _).bind fun _ ↦ addsOnly_fail _
      | ok =>
        refine (addsOnly_setSession _).bind fun _ ↦
          (addsOnly_sendLegacyCall hrpc).attempt.bind fun again ↦ ?_
        cases again with
        | ok => exact addsOnly_ofOutcome _
        | error _ => exact (addsOnly_setSession _).bind fun _ ↦ addsOnly_fail _

lemma addsOnly_runLegacy {rpc : Json} (hrpc : ∀ headers, CallsOnly tool ⟨headers, rpc⟩) :
    AddsOnly (CallsOnly tool) (runLegacy crates gateway server version freshId task rpc) := by
  refine addsOnly_getState.bind fun state ↦ AddsOnly.bind ?_ fun session ↦
    (addsOnly_sendLegacyCall hrpc).attempt.bind (addsOnly_answerLegacy hrpc)
  cases state.session with
  | some session => exact addsOnly_pure session
  | none =>
    refine (addsOnly_initializeLegacySession tool).attempt.bind fun opened ↦ ?_
    cases opened with
    | ok => exact (addsOnly_setSession _).bind fun _ ↦ addsOnly_pure _
    | error => exact addsOnly_fail _

/-- With an unsupported extension nothing is sent. -/
lemma addsOnly_runModern (rpcId : ℕ) :
    AddsOnly (fun sent ↦ CallsOnly task.toolName sent ∧ gateway.extensions.all supportedExtension)
      (runModern crates gateway server freshId rpcId task) := by
  refine addsOnly_ofOutcome_bind fun _ hextensions ↦ addsOnly_ofOutcome_bind fun _ _ ↦ ?_
  have hsupported := (Outcome.require_eq_ok_iff _ _ _).mp hextensions
  refine (addsOnly_post ⟨callsOnly_rpcBody _ rpcId _, hsupported⟩).bind fun reply ↦ ?_
  refine addsOnly_ofOutcome_bind fun _ _ ↦ addsOnly_ofOutcome_bind fun _ _ ↦ ?_
  exact addsOnly_ofOutcome_bind fun _ _ ↦ addsOnly_ofOutcome _

/-- A tool is called for a request that passes the checks, and it is the tool that they have found.
-/
lemma addsOnly_taskHandler (request : TaskRequest) :
    AddsOnly (fun sent ↦ ∀ tool, sent.calls = some tool →
        ∃ task, checkTask crates gateway request = .ok task ∧ task.toolName = tool)
      (taskHandler crates gateway server version freshId request) := by
  refine addsOnly_ofOutcome_bind fun task hcheck ↦ ?_
  refine addsOnly_nextRpcId.bind fun rpcId ↦ AddsOnly.mono ?_
    fun sent (hsent : CallsOnly task.toolName sent) tool hcalls ↦
      ⟨task, hcheck, (hsent tool hcalls).symm⟩
  cases gateway.revision with
  | legacy => exact addsOnly_runLegacy fun headers ↦ callsOnly_rpcBody headers rpcId none
  | modern => exact (addsOnly_runModern rpcId).mono fun _ h ↦ h.1

/-- What a request that passes the checks is like. -/
lemma of_checkTask {request : TaskRequest} (h : checkTask crates gateway request = .ok task) :
    (gateway.nodeToken = "" ∨ request.authorization.getD "" = "Bearer " ++ gateway.nodeToken) ∧
      gateway.toolPolicy.allows crates task.toolName ∧
        (gateway.activeTools = [] ∨ task.toolName ∈ gateway.activeTools) ∧ task.toolName ≠ "" ∧
          ∃ body, crates.fromSlice request.body = some body ∧ task = toolTask body := by
  unfold checkTask at h
  split at h
  · nomatch h
  · next hauth =>
    cases hbody : crates.fromSlice request.body with
    | none =>
      rw [hbody] at h
      nomatch h
    | some body =>
      rw [hbody] at h
      dsimp only at h
      split_ifs at h with hname hallowed hactive
      obtain rfl : toolTask body = task := Outcome.ok.inj h
      refine ⟨?_, by simpa using hallowed, ?_, hname, body, rfl, rfl⟩
      · by_contra hno
        exact hauth (not_or.mp hno)
      · by_cases hempty : gateway.activeTools = []
        · exact .inl hempty
        · refine .inr ?_
          simpa [hempty] using hactive

end Sent

/-! ### The intent of a tool -/

section Intents

variable {crates} {char : Char}

lemma isPlain_of_kept (hkept : keptWith ['_'] char) (hsmall : ¬ isCapital char) : isPlain char := by
  simp only [keptWith, isAsciiAlphanumeric, contains_cons, contains_nil, Bool.or_false,
    Bool.or_eq_true, Bool.and_eq_true, decide_eq_true_eq] at hkept
  simp only [isPlain, Bool.or_eq_true, Bool.and_eq_true, decide_eq_true_eq]
  unfold isCapital at hsmall
  tauto

lemma kept_of_isPlain (h : isPlain char) : keptWith ['_'] char := by
  simp only [isPlain, Bool.or_eq_true, Bool.and_eq_true, decide_eq_true_eq] at h
  simp only [keptWith, isAsciiAlphanumeric, contains_cons, contains_nil, Bool.or_false,
    Bool.or_eq_true, Bool.and_eq_true, decide_eq_true_eq]
  tauto

lemma not_isCapital_of_isPlain (h : isPlain char) : ¬ isCapital char := by
  simp only [isPlain, Bool.or_eq_true, Bool.and_eq_true, decide_eq_true_eq, beq_iff_eq] at h
  rintro ⟨hlow, hhigh⟩
  rcases h with (⟨hstart, -⟩ | ⟨-, hstop⟩) | rfl
  · exact absurd (UInt32.le_trans hstart hhigh) (by decide)
  · exact absurd (UInt32.le_trans hlow hstop) (by decide)
  · exact absurd hhigh (by decide)

lemma isPlain_ne_colon (h : isPlain char) : (char != ':') := by
  rw [bne_iff_ne]
  rintro rfl
  exact absurd h (by decide)

lemma isPlain_lt (h : isPlain char) : char.toNat < 128 := by
  simp only [isPlain, Bool.or_eq_true, Bool.and_eq_true, decide_eq_true_eq, beq_iff_eq] at h
  rcases h with (⟨-, hstop⟩ | ⟨-, hstop⟩) | rfl
  · exact (UInt32.le_iff_toNat_le.mp hstop).trans_lt (by decide)
  · exact (UInt32.le_iff_toNat_le.mp hstop).trans_lt (by decide)
  · decide

lemma toLower_of_not_isCapital (h : ¬ isCapital char) : char.toLower = char := dif_neg h

lemma not_isCapital_toLower (char : Char) : ¬ isCapital char.toLower := by
  by_cases hcapital : isCapital char
  · have hlower : char.toLower.val = char.val + 32 := congrArg Char.val (dif_pos hcapital)
    have hbounds : 'A'.val.toNat = 65 ∧ 'Z'.val.toNat = 90 ∧ (32 : UInt32).toNat = 32 := by decide
    simp only [isCapital, Char.le_def, UInt32.le_iff_toNat_le] at hcapital ⊢
    rw [hlower, UInt32.toNat_add]
    omega
  · rwa [toLower_of_not_isCapital hcapital]

lemma not_isCapital_toLowercase {name : String} (hchar : char ∈ (crates.toLowercase name).toList) :
    ¬ isCapital char := by
  rw [GatewayCrates.toLowercase, toLowercase] at hchar
  split_ifs at hchar
  · rw [toAsciiLowercase, String.toList_ofList] at hchar
    obtain ⟨before, -, rfl⟩ := mem_map.mp hchar
    exact not_isCapital_toLower before
  · exact crates.unicode_small name char hchar

lemma toLowercase_plain {name : String} (h : name.toList.all isPlain) :
    crates.toLowercase name = name := by
  rw [all_eq_true] at h
  have hascii : name.toList.all (·.toNat < 128) :=
    all_eq_true.mpr fun char hchar ↦ decide_eq_true (isPlain_lt (h char hchar))
  have hsame : name.toList.map Char.toLower = name.toList :=
    (map_congr_left (g := id) fun char hchar ↦
      toLower_of_not_isCapital (not_isCapital_of_isPlain (h char hchar))).trans (map_id _)
  rw [GatewayCrates.toLowercase, toLowercase, if_pos hascii, toAsciiLowercase, hsame,
    String.ofList_toList]

lemma all_isPlain_replaceOthers (name : String) :
    (replaceOthers (keptWith ['_']) (crates.toLowercase name)).toList.all isPlain := by
  rw [replaceOthers, String.toList_ofList, all_eq_true]
  intro char hchar
  obtain ⟨before, hbefore, rfl⟩ := mem_map.mp hchar
  split_ifs with hkept
  · exact isPlain_of_kept hkept (not_isCapital_toLowercase hbefore)
  · decide

/-- A plain name stands in its intent as it is. -/
lemma toolToIntent_plain {name : String} (h : name.toList.all isPlain) :
    toolToIntent crates name = mcpIntent name := by
  have hsame : replaceOthers (keptWith ['_']) name = name := by
    rw [replaceOthers, map_congr_left (g := id), map_id, String.ofList_toList]
    intro char hchar
    exact if_pos (kept_of_isPlain (all_eq_true.mp h char hchar))
  rw [toolToIntent, toLowercase_plain h, hsame]

lemma toList_mcpIntent (safe : String) :
    (mcpIntent safe).toList = "urn:iicp:intent:mcp:".toList ++ (safe.toList ++ [':', 'v', '1']) := by
  have hend : ":v1".toList = [':', 'v', '1'] := by decide
  unfold mcpIntent
  rw [String.toList_append, String.toList_append, hend, append_assoc]

lemma captureTool_intent (name : List Char) (hne : name ≠ []) (hplain : name.all isPlain) :
    captureTool (mcpIntent (String.ofList name)).toList = some name := by
  have hcolon : ∀ char ∈ name, (char != ':') :=
    fun char hchar ↦ isPlain_ne_colon (all_eq_true.mp hplain char hchar)
  have htake : (name ++ [':', 'v', '1']).takeWhile (· != ':') = name := by
    rw [takeWhile_append_of_pos hcolon]
    simp
  have hdrop : (name ++ [':', 'v', '1']).dropWhile (· != ':') = [':', 'v', '1'] := by
    rw [dropWhile_append_of_pos hcolon]
    rfl
  have hname : (String.ofList name).toList = name := String.toList_ofList
  have hat : captureAt ("urn:iicp:intent:mcp:".toList ++ (name ++ [':', 'v', '1'])) = some name := by
    unfold captureAt
    dsimp only
    rw [drop_left, htake, hdrop, if_pos]
    simp [hne]
  rw [toList_mcpIntent, hname]
  exact (congrArg (Option.or · _) hat).trans rfl

/-- The intent of the request, if there is one, is that of the tool in the payload. Without a tool
in the payload, the intent has the form that intents of tools have. -/
def IntentAgrees (crates : GatewayCrates) (body : Json) : Prop :=
  ∀ intent, intentOf body = some intent →
    if payloadTool body ≠ "" then toolToIntent crates (payloadTool body) = intent
    else ∃ name : String, name ≠ "" ∧ name.toList.all isPlain = true ∧
      intent = mcpIntent name

/-- A task without a tool in its payload is for the plain name in its intent. -/
lemma selectTool_intent {body : Json} {name : String} (hne : name ≠ "")
    (hplain : name.toList.all isPlain) (hpayload : payloadTool body = "")
    (hintent : intentOf body = some (mcpIntent name)) : selectTool body = name := by
  have hcapture := captureTool_intent name.toList
    (fun h ↦ hne (String.toList_inj.mp (h.trans rfl))) hplain
  rw [String.ofList_toList] at hcapture
  rw [selectTool, if_neg (not_not.mpr hpayload), hintent, Option.bind_some, hcapture]
  exact String.ofList_toList

lemma intentAgrees_iff {body : Json} (htool : selectTool body ≠ "") :
    IntentAgrees crates body ↔
      ∀ intent, intentOf body = some intent → toolToIntent crates (selectTool body) = intent := by
  refine forall₂_congr fun intent hintent ↦ ?_
  by_cases hpayload : payloadTool body ≠ ""
  · rw [if_pos hpayload, selectTool, if_pos hpayload]
  · rw [if_neg hpayload]
    have hselect : selectTool body = (captureTool intent.toList).elim "" String.ofList := by
      rw [selectTool, if_neg hpayload, hintent]
      rfl
    constructor
    · rintro ⟨name, hne, hplain, hform⟩
      rw [selectTool_intent hne hplain (not_not.mp hpayload) (hform ▸ hintent),
        toolToIntent_plain hplain, hform]
    · intro hsame
      refine ⟨replaceOthers (keptWith ['_']) (crates.toLowercase (selectTool body)), ?_,
        all_isPlain_replaceOthers (selectTool body), hsame.symm⟩
      intro hempty
      rw [toolToIntent, hempty] at hsame
      rw [hselect, ← hsame] at htool
      exact htool (by decide +kernel)

end Intents

/-! ### Whom a tool is called for -/

/-- A call of a tool is in order: the request has carried the token, which is not empty, the tool is
offered and allowed, and the intent is that of the tool. -/
structure CalledFor (request : TaskRequest) (tool : String) : Prop where
  token : gateway.nodeToken ≠ ""
  bearer : request.authorization = some ("Bearer " ++ gateway.nodeToken)
  active : tool ∈ gateway.activeTools
  allowed : gateway.toolPolicy.allows crates tool = true
  routed : ∀ body intent, crates.fromSlice request.body = some body → intentOf body = some intent →
    toolToIntent crates tool = intent

end Handler

section Started

variable {crates : GatewayCrates} {config : GatewayConfig} {registration : Option Json}
  {gateway : Gateway}

lemma of_runMcpGateway (h : runMcpGateway crates config registration = some gateway) :
    gateway.nodeToken = registeredToken config.nodeTokenEnv registration ∧
      gateway.activeTools ≠ [] ∧
        ∀ tool ∈ gateway.activeTools, tool ≠ "" ∧ gateway.toolPolicy.allows crates tool := by
  unfold runMcpGateway at h
  cases hrevision : McpRevision.named config.mcpRevision with
  | none =>
    rw [hrevision] at h
    nomatch h
  | some =>
    rw [hrevision] at h
    dsimp only at h
    split_ifs at h with hserver hactive
    obtain rfl := Option.some.inj h
    refine ⟨rfl, fun hempty ↦ hactive (isEmpty_iff.mpr hempty), fun tool htool ↦ ?_⟩
    obtain ⟨hpart, hallowed⟩ := mem_filter.mp htool
    exact ⟨of_decide_eq_true (mem_filter.mp hpart).2, hallowed⟩

/-- Every call of a tool that a request leads to is in order exactly when the gateway has a token
after its registration and the intent of the request agrees with its payload.

Assumes: the gateway has started, and the message is one of those that the request leads to. -/
theorem tool_call_iff (hstart : runMcpGateway crates config registration = some gateway)
    {server : McpServer} {version freshId : String} {request : TaskRequest} {state : McpState}
    {log added : List McpRequest} {sent : McpRequest} {tool : String}
    (hlog : (taskHandler crates gateway server version freshId request state log).2.2 = added ++ log)
    (hsent : sent ∈ added) (hcalls : sent.calls = some tool) :
    CalledFor crates gateway request tool ↔
      registeredToken config.nodeTokenEnv registration ≠ "" ∧
        ∀ body, crates.fromSlice request.body = some body → IntentAgrees crates body := by
  obtain ⟨htoken, hactive, -⟩ := of_runMcpGateway hstart
  obtain ⟨found, hfound, honly⟩ := addsOnly_taskHandler request state log
  have hadded : added = found := append_cancel_right (hlog.symm.trans hfound)
  obtain ⟨_, hcheck, rfl⟩ := honly sent (hadded ▸ hsent) tool hcalls
  obtain ⟨hauth, hallowed, hlisted, hname, body, hbody, rfl⟩ := of_checkTask hcheck
  have hagrees : IntentAgrees crates body ↔ ∀ intent, intentOf body = some intent →
      toolToIntent crates (toolTask body).toolName = intent := intentAgrees_iff hname
  rw [← htoken]
  constructor
  · intro h
    refine ⟨h.token, fun other hother ↦ ?_⟩
    obtain rfl : body = other := Option.some.inj (hbody.symm.trans hother)
    exact hagrees.mpr fun intent hintent ↦ h.routed body intent hbody hintent
  · rintro ⟨hset, hintents⟩
    refine ⟨hset, ?_, hlisted.resolve_left hactive, hallowed, fun other intent hother hintent ↦ ?_⟩
    · have hbearer := hauth.resolve_left hset
      cases hheader : request.authorization with
      | some =>
        rw [hheader] at hbearer
        exact congrArg some hbearer
      | none =>
        rw [hheader] at hbearer
        have hlength := congrArg (fun text ↦ text.toList.length) hbearer
        simp at hlength
    · obtain rfl : body = other := Option.some.inj (hbody.symm.trans hother)
      exact hagrees.mp (hintents body hbody) intent hintent

/-- The server lets a session be opened whenever it is asked to. -/
def OpensSessions (crates : GatewayCrates) (server : McpServer) (version : String) : Prop :=
  ∀ state log, ∃ session, (initializeLegacySession crates server version state log).1 = .ok session

/-- Every intent that the gateway registers leads to its tool: different tools have different
intents, and for an authorised task with the intent of a tool, and without a tool in its payload, the
handler sends a call of this tool. A session that is needed for that can be opened. -/
structure Servable (crates : GatewayCrates) (gateway : Gateway) : Prop where
  distinct : ∀ first ∈ gateway.activeTools, ∀ second ∈ gateway.activeTools,
    toolToIntent crates first = toolToIntent crates second → first = second
  served : ∀ tool ∈ gateway.activeTools, ∀ request body,
    gateway.nodeToken = "" ∨ request.authorization = some ("Bearer " ++ gateway.nodeToken) →
    crates.fromSlice request.body = some body →
    intentOf body = some (toolToIntent crates tool) → payloadTool body = "" →
    ∀ server version freshId state,
      (gateway.revision = .legacy → state.session = none → OpensSessions crates server version) →
      ∃ sent ∈ (taskHandler crates gateway server version freshId request state []).2.2,
        sent.calls = some tool

section Served

variable {server : McpServer} {version freshId : String} {task : ToolTask} {state : McpState}
  {log : List McpRequest} {sent : McpRequest}

lemma calls_rpcBody (headers : List (String × String)) (rpcId : ℕ) (metadata : Option Json) :
    McpRequest.calls ⟨headers, rpcBody (some rpcId) "tools/call" (callParams task metadata)⟩ =
      some task.toolName := by
  cases metadata <;> rfl

lemma mem_post_bind {α ε : Type} {next : Option McpReply → Interaction McpState McpRequest ε α}
    (hnext : ∀ reply, AddsOnly (fun _ ↦ True) (next reply)) :
    sent ∈ ((post server sent >>= next) state log).2.2 :=
  mem_bind (mem_cons_self ..) hnext

/-- Assumes: a session is there or can be opened. The call is sent in it. -/
lemma mem_runLegacy (state : McpState) {rpc : Json} {tool : String}
    (hrpc : ∀ headers, CallsOnly tool ⟨headers, rpc⟩)
    (hopens : state.session = none → OpensSessions crates server version) :
    ∃ headers, ⟨headers, rpc⟩ ∈
      (runLegacy crates gateway server version freshId task rpc state log).2.2 := by
  have hsent : ∀ session state log, ⟨legacyHeaders (some session), rpc⟩ ∈ ((Interaction.attempt
      (sendLegacyCall crates server session rpc) >>=
        answerLegacy crates gateway server version freshId task rpc) state log).2.2 := by
    intro session state log
    refine mem_bind ?_ fun answer ↦ (addsOnly_answerLegacy hrpc answer).mono fun _ _ ↦ trivial
    rw [attempt_log]
    refine mem_post_bind fun reply ↦ ?_
    refine addsOnly_ofOutcome_bind fun _ _ ↦ addsOnly_ofOutcome_bind fun _ _ ↦ ?_
    exact addsOnly_ofOutcome_bind fun _ _ ↦ addsOnly_ofOutcome _
  have hstate : (getState : Interaction McpState McpRequest Response McpState) state log =
      (.ok state, state, log) := rfl
  rw [runLegacy, bind_of_ok hstate]
  cases hsession : state.session with
  | some session => exact ⟨_, hsent session state log⟩
  | none =>
    obtain ⟨session, hopened⟩ := hopens hsession state log
    refine ⟨legacyHeaders (some session), ?_⟩
    rw [bind_of_ok ((bind_of_ok (attempt_of_delivers hopened)).trans rfl)]
    exact hsent session _ _

lemma mem_runModern (rpcId : ℕ) (hextensions : gateway.extensions.all supportedExtension)
    (hname : isHeaderValue task.toolName) :
    ∃ headers, ⟨headers, rpcBody (some rpcId) "tools/call"
        (callParams task (some (modernMeta gateway)))⟩ ∈
      (runModern crates gateway server freshId rpcId task state log).2.2 := by
  have hpass : ∀ (error : Response) (next : Unit → Interaction McpState McpRequest Response Response),
      (ofOutcome (.require true error) >>= next) = next () := fun _ _ ↦ rfl
  rw [runModern, hextensions, hname, hpass, hpass]
  refine ⟨_, mem_post_bind fun reply ↦ ?_⟩
  refine addsOnly_ofOutcome_bind fun _ _ ↦ addsOnly_ofOutcome_bind fun _ _ ↦ ?_
  exact addsOnly_ofOutcome_bind fun _ _ ↦ addsOnly_ofOutcome _

lemma isHeaderValue_of_plain {name : String} (h : name.toList.all isPlain) :
    isHeaderValue name := by
  have hbytes : ∀ code < 128, isPlain (Char.ofNat code) →
      (String.utf8EncodeChar (Char.ofNat code)).all
        fun byte ↦ (32 ≤ byte && byte != 127) || byte == 9 := by
    decide +kernel
  rw [isHeaderValue, utf8Bytes, all_flatMap, all_eq_true]
  intro char hchar
  have hplain := all_eq_true.mp h char hchar
  have hbyte := hbytes char.toNat (isPlain_lt hplain)
  rw [Char.ofNat_toNat] at hbyte
  exact hbyte hplain

lemma calls_of_checkTask {request : TaskRequest}
    (hcheck : checkTask crates gateway request = .ok task)
    (hopens : gateway.revision = .legacy → state.session = none →
      OpensSessions crates server version)
    (hmodern : gateway.revision = .modern →
      gateway.extensions.all supportedExtension ∧ isHeaderValue task.toolName) :
    ∃ sent ∈ (taskHandler crates gateway server version freshId request state log).2.2,
      sent.calls = some task.toolName := by
  rw [taskHandler, hcheck]
  cases hrevision : gateway.revision with
  | legacy =>
    have hrpc := fun headers ↦ @callsOnly_rpcBody task headers (state.rpcId + 1) none
    obtain ⟨_, hmem⟩ := mem_runLegacy { state with rpcId := state.rpcId + 1 } hrpc (hopens hrevision)
    exact ⟨_, hmem, calls_rpcBody ..⟩
  | modern =>
    obtain ⟨hextensions, hname⟩ := hmodern hrevision
    obtain ⟨_, hmem⟩ := mem_runModern (state.rpcId + 1) hextensions hname
    exact ⟨_, hmem, calls_rpcBody ..⟩

end Served

/-- A task with nothing but the intent of a tool is for the name in the intent. -/
lemma selectTool_toolToIntent (tool : String) :
    selectTool (.object [("intent", .string (toolToIntent crates tool))]) =
      replaceOthers (keptWith ['_']) (crates.toLowercase tool) := by
  set safe := replaceOthers (keptWith ['_']) (crates.toLowercase tool) with hsafe
  by_cases hempty : safe = ""
  · rw [toolToIntent, ← hsafe, hempty]
    decide +kernel
  · exact selectTool_intent hempty (hsafe ▸ all_isPlain_replaceOthers tool) rfl rfl

/-- Assumes: the gateway has started, and the library reads a task with the intent of each tool. Every
intent that the gateway registers leads to its tool exactly if the tool names consist of small
letters, digits and underscores, and a gateway of the newer revision names supported extensions only.
-/
theorem advertised_intents_servable_iff
    (hstart : runMcpGateway crates config registration = some gateway)
    (hreads : ∀ tool ∈ gateway.activeTools, ∃ bytes, crates.fromSlice bytes =
      some (.object [("intent", .string (toolToIntent crates tool))])) :
    Servable crates gateway ↔
      (∀ tool ∈ gateway.activeTools, tool.toList.all isPlain) ∧
        (gateway.revision = .modern → gateway.extensions.all supportedExtension) := by
  obtain ⟨-, hactive, htools⟩ := of_runMcpGateway hstart
  constructor
  · intro h
    have hserved : ∀ tool ∈ gateway.activeTools, ∃ bytes, crates.fromSlice bytes =
        some (.object [("intent", .string (toolToIntent crates tool))]) ∧
        ∃ sent ∈ (taskHandler crates gateway (fun _ _ ↦ none) "" ""
            ⟨some ("Bearer " ++ gateway.nodeToken), bytes⟩ ⟨0, some ""⟩ []).2.2,
          sent.calls = some tool := by
      intro tool htool
      obtain ⟨bytes, hbytes⟩ := hreads tool htool
      exact ⟨bytes, hbytes, h.served tool htool _ _ (.inr rfl) hbytes rfl rfl _ _ _ _ nofun⟩
    refine ⟨fun tool htool ↦ ?_, fun hmodern ↦ ?_⟩
    · obtain ⟨bytes, hbytes, sent, hsent, hcalls⟩ := hserved tool htool
      obtain ⟨task, hcheck, hname⟩ := (addsOnly_taskHandler _).of_mem hsent tool hcalls
      obtain ⟨-, -, -, -, body, hbody, rfl⟩ := of_checkTask hcheck
      change selectTool body = tool at hname
      rw [← Option.some.inj (hbytes.symm.trans hbody), selectTool_toolToIntent] at hname
      rw [← hname]
      exact all_isPlain_replaceOthers tool
    · obtain ⟨tool, htool⟩ := exists_mem_of_ne_nil _ hactive
      obtain ⟨bytes, _, sent, hsent, -⟩ := hserved tool htool
      have hadds : AddsOnly (fun _ ↦ gateway.extensions.all supportedExtension) (taskHandler crates
          gateway (fun _ _ ↦ none) "" "" ⟨some ("Bearer " ++ gateway.nodeToken), bytes⟩) := by
        refine addsOnly_ofOutcome_bind fun task _ ↦ addsOnly_nextRpcId.bind fun rpcId ↦ ?_
        rw [hmodern]
        exact (addsOnly_runModern rpcId).mono fun _ h ↦ h.2
      exact hadds.of_mem hsent
  · rintro ⟨hplain, hmodern⟩
    constructor
    · intro first hfirst second hsecond h
      rw [toolToIntent_plain (hplain first hfirst), toolToIntent_plain (hplain second hsecond)] at h
      have hlists := congrArg String.toList h
      rw [toList_mcpIntent, toList_mcpIntent] at hlists
      exact String.toList_inj.mp (append_cancel_right (append_cancel_left hlists))
    · intro tool htool request body hauth hbody hintent hpayload server version freshId state hopens
      obtain ⟨hne, hallowed⟩ := htools tool htool
      rw [toolToIntent_plain (hplain tool htool)] at hintent
      have hname : (toolTask body).toolName = tool :=
        selectTool_intent hne (hplain tool htool) hpayload hintent
      have hlisted : (!gateway.activeTools.isEmpty && !gateway.activeTools.contains tool) = false := by
        simp [htool]
      have hcheck : checkTask crates gateway request = .ok (toolTask body) := by
        unfold checkTask
        rw [if_neg (by obtain h | h := hauth <;> simp [h]), hbody]
        dsimp only
        rw [hname, if_neg hne, hallowed, hlisted]
        rfl
      rw [← hname]
      refine calls_of_checkTask hcheck hopens fun hrevision ↦ ⟨hmodern hrevision, ?_⟩
      rw [hname]
      exact isHeaderValue_of_plain (hplain tool htool)

end Started

/-! ### A gateway with two tools -/

def sampleBody (intentName toolName : String) : Json :=
  .object [("intent", .string (mcpIntent intentName)),
    ("payload", .object [("tool_name", .string toolName)])]

def echoText : String :=
  "\x7b\"intent\":\"urn:iicp:intent:mcp:echo:v1\",\"payload\":\x7b\"tool_name\":\"echo\"\x7d\x7d"

def pingText : String :=
  "\x7b\"intent\":\"urn:iicp:intent:mcp:echo:v1\",\"payload\":\x7b\"tool_name\":\"ping\"\x7d\x7d"

def intentText (name : String) : String := "\x7b\"intent\":\"" ++ mcpIntent name ++ "\"\x7d"

/-- Libraries that know the texts below, and no letters beyond ASCII. -/
def sampleCrates : GatewayCrates where
  unicodeLowercase _ := ""
  fromSlice bytes :=
    ([("\x7b\"result\":null\x7d", Json.object [("result", .null)]),
      (pingText, sampleBody "echo" "ping"), (echoText, sampleBody "echo" "echo"),
      (intentText "echo", .object [("intent", .string (mcpIntent "echo"))]),
      (intentText "ping", .object [("intent", .string (mcpIntent "ping"))])].find?
        fun entry ↦ utf8Bytes entry.1 = bytes).map Prod.snd
  bodyText _ _ := ""
  unicode_small _ _ hchar := by nomatch hchar

def sampleConfig : GatewayConfig :=
  ⟨"echo, ping", ⟨false, "", "", false⟩, "2025-11-25", "", "", ""⟩

def sampleGateway (token : String) : Gateway :=
  ⟨["echo", "ping"], token, ⟨false, "", "", false⟩, .legacy, "", []⟩

lemma sample_starts (registration : Option Json) :
    runMcpGateway sampleCrates sampleConfig registration =
      some (sampleGateway (registeredToken "" registration)) := by
  have hactive : (commaParts sampleConfig.rawTools).filter
      (sampleConfig.toolPolicy.allows sampleCrates) = ["echo", "ping"] := by
    decide +kernel
  have hrevision : McpRevision.named sampleConfig.mcpRevision = some .legacy := by decide +kernel
  have hextensions : commaParts sampleConfig.mcpExtensions = [] := by decide +kernel
  rw [runMcpGateway, hrevision]
  dsimp only
  rw [if_neg (by decide), hactive, hextensions]
  rfl

lemma sample_registered : registeredToken "" (some (.object [("node_token", .string "secret")])) =
    "secret" := by
  decide +kernel

lemma sample_starts_registered :
    runMcpGateway sampleCrates sampleConfig (some (.object [("node_token", .string "secret")])) =
      some (sampleGateway "secret") := by
  rw [sample_starts, sample_registered]

def sampleServer : McpServer := fun _ _ ↦
  some ⟨200, some "session", some "application/json", some (utf8Bytes "\x7b\"result\":null\x7d")⟩

def sampleLog (token : String) (request : TaskRequest) : List McpRequest :=
  (taskHandler sampleCrates (sampleGateway token) sampleServer "0.7.99" "task-1" request ⟨0, none⟩
    []).2.2

/-- A gateway whose registration has failed calls a tool for a request without a token. A registered
one calls another tool than that of the intent. -/
theorem tool_called_out_of_order :
    (runMcpGateway sampleCrates sampleConfig none = some (sampleGateway "") ∧
      (∃ sent ∈ sampleLog "" ⟨none, utf8Bytes echoText⟩, sent.calls = some "echo") ∧
      ¬ CalledFor sampleCrates (sampleGateway "") ⟨none, utf8Bytes echoText⟩ "echo") ∧
    (runMcpGateway sampleCrates sampleConfig (some (.object [("node_token", .string "secret")])) =
        some (sampleGateway "secret") ∧
      (∃ sent ∈ sampleLog "secret" ⟨some "Bearer secret", utf8Bytes pingText⟩,
        sent.calls = some "ping") ∧
      ¬ CalledFor sampleCrates (sampleGateway "secret")
        ⟨some "Bearer secret", utf8Bytes pingText⟩ "ping") := by
  refine ⟨⟨sample_starts none, by decide +kernel, fun h ↦ h.token rfl⟩, sample_starts_registered,
    by decide +kernel, fun h ↦ ?_⟩
  have hrouted := h.routed (sampleBody "echo" "ping") (mcpIntent "echo") (by decide +kernel) rfl
  exact absurd hrouted (by decide +kernel)

/-- A call that is in order. -/
theorem tool_call_registered :
    registeredToken "" (some (.object [("node_token", .string "secret")])) ≠ "" ∧
      ∃ sent ∈ sampleLog "secret" ⟨some "Bearer secret", utf8Bytes echoText⟩,
        sent.calls = some "echo" ∧
          CalledFor sampleCrates (sampleGateway "secret")
            ⟨some "Bearer secret", utf8Bytes echoText⟩ "echo" := by
  have hsent : ∃ sent ∈ sampleLog "secret" ⟨some "Bearer secret", utf8Bytes echoText⟩,
      sent.calls = some "echo" := by
    decide +kernel
  obtain ⟨sent, hmem, hcalls⟩ := hsent
  have htoken : registeredToken "" (some (.object [("node_token", .string "secret")])) ≠ "" := by
    rw [sample_registered]
    decide
  have hbody : sampleCrates.fromSlice (utf8Bytes echoText) = some (sampleBody "echo" "echo") := by
    decide +kernel
  refine ⟨htoken, sent, hmem, hcalls, ?_⟩
  refine (tool_call_iff sample_starts_registered (append_nil _).symm hmem hcalls).mpr ⟨htoken, ?_⟩
  intro body hfound intent hintent
  obtain rfl := Option.some.inj (hbody.symm.trans hfound)
  obtain rfl := Option.some.inj hintent
  rw [if_pos (by decide +kernel)]
  decide +kernel

/-- The intents of these tools lead to them. -/
theorem sample_intents_servable :
    (sampleGateway "").activeTools = ["echo", "ping"] ∧
      Servable sampleCrates (sampleGateway "") := by
  have hreads : ∀ tool ∈ ["echo", "ping"], sampleCrates.fromSlice (utf8Bytes (intentText tool)) =
      some (.object [("intent", .string (toolToIntent sampleCrates tool))]) := by
    decide +kernel
  refine ⟨rfl, (advertised_intents_servable_iff (sample_starts none)
    fun tool htool ↦ ⟨_, hreads tool htool⟩).mpr ⟨by decide +kernel, nofun⟩⟩

/-- Two tools with one intent. -/
theorem tools_share_intent :
    runMcpGateway sampleCrates { sampleConfig with rawTools := "sum-up, sum_up" } none =
        some { sampleGateway "" with activeTools := ["sum-up", "sum_up"] } ∧
      toolToIntent sampleCrates "sum-up" = toolToIntent sampleCrates "sum_up" ∧
        ¬ Servable sampleCrates { sampleGateway "" with activeTools := ["sum-up", "sum_up"] } := by
  have hsame : toolToIntent sampleCrates "sum-up" = toolToIntent sampleCrates "sum_up" := by
    decide +kernel
  refine ⟨by decide +kernel, hsame, fun h ↦ ?_⟩
  exact absurd (h.distinct "sum-up" (by decide) "sum_up" (by decide) hsame) (by decide)

end Iicp.Mcp
