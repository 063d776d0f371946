import HeadEnd.Rpc.Commands

/-! A session at the console. Requests and answers go through the connection as lines of
JSON, one after the other. -/
namespace HeadEnd.Rpc
open Cluster Text

def maxLineLength : Nat := 64 * 1024

/-- What comes of a line that the server has read. -/
inductive Served where
  | hangUp
  | skip
  | answer (line : String) (node : Node) (out : List Outgoing)

/-- `serde_json::from_str`; `mismatch` is the text of the error if the value is no request. -/
def JsonRpcRequest.fromStr (F : JsonFormat) (mismatch : Json → String) (text : String) :
    Except String JsonRpcRequest :=
  match F.fromStr text with
  | .error err => .error err
  | .ok v => (JsonRpcRequest.fromValue v).elim (.error (mismatch v)) .ok

def responseLine (F : JsonFormat) (r : JsonRpcResponse) : String :=
  F.toText r.toJson ++ String.singleton '\n'

/-- One round of `handle_connection`. -/
def serveLine (F : JsonFormat) (mismatch : Json → String) (e : Setting) (s : Node)
    (line : String) : Served :=
  if maxLineLength < line.utf8ByteSize then .hangUp
  else if trim line = "" then .skip
  else
    match JsonRpcRequest.fromStr F mismatch (trim line) with
    | .error err => .answer (responseLine F (.failure .null (.json err))) s []
    | .ok req =>
      let reply := dispatch e s req
      .answer (responseLine F (reply.response req.id)) reply.node reply.out

inductive Shown where
  | help
  | unknownCommand
  | result (v : Json)
  | error (code : Int) (message : String)
  | other (v : Json)
  | raw (text : String)
  | closed

def prettyPrintResponse (F : JsonFormat) (raw : String) : Shown :=
  match (F.fromStr (trim raw)).map Json.ordered with
  | .error _ => .raw (trim raw)
  | .ok val =>
    match val.get "result" with
    | some result => .result result
    | none =>
      match val.get "error" with
      | some error => .error (((error.get "code").bind Json.asI64).getD 0)
          (((error.get "message").bind Json.asStr).getD "unknown error")
      | none => .other val

/-- A line that is typed, with what its request meets if it is one. The node may have changed
in any way since the line before. -/
structure Typed where
  line : String
  e : Setting
  s : Node

/-- The loop of the console. `ask` sends a request and waits for what is shown of the answer;
it gives nothing if the connection has come to its end. -/
def console (ask : Typed → Nat → String → Json → Option Shown) : Nat → List Typed → List Shown
  | _, [] => []
  | nextId, t :: rest =>
    if trim t.line = "" then console ask nextId rest
    else if trim t.line = "exit" ∨ trim t.line = "quit" then []
    else if trim t.line = "help" then .help :: console ask nextId rest
    else
      match commandOf (words (trim t.line)) with
      | none => .unknownCommand :: console ask nextId rest
      | some (method, params) =>
        match ask t nextId method params with
        | none => [.closed]
        | some shown => shown :: console ask (nextId + 1) rest

/-- A request as a line of JSON, and the line that comes back. -/
def askServer (F : JsonFormat) (mismatch : Json → String) (t : Typed) (id : Nat)
    (method : String) (params : Json) : Option Shown :=
  match serveLine F mismatch t.e t.s
      (F.toText (requestJson id method params) ++ String.singleton '\n') with
  | .answer line _ _ => some (prettyPrintResponse F line)
  | _ => none

/- What is shown of a result: its fields in the order of their names. -/
def Shown.ofResult : Except RpcError Json → Shown
  | .ok v => .result v.ordered
  | .error err => .error err.code err.text

/-- A call of the handler itself, with no text in between: only the length of the line counts. -/
def askDirectly (F : JsonFormat) (t : Typed) (id : Nat) (method : String) (params : Json) :
    Option Shown :=
  if maxLineLength < (F.toText (requestJson id method params) ++ String.singleton '\n').utf8ByteSize
  then none
  else some (.ofResult (dispatch t.e t.s ⟨"2.0", method, params, .int id⟩).result)

theorem RpcError.code_range (err : RpcError) : -32768 ≤ err.code ∧ err.code ≤ -32000 := by
  cases err <;> simp [RpcError.code]

section Session
variable {F : JsonFormat} {mismatch : Json → String} {id : Nat} {method : String} {params : Json}
  {t : Typed}

theorem trim_line (v : Json) : trim (F.toText v ++ String.singleton '\n') = F.toText v := by
  rw [trim_append_singleton (by decide) (by rw [F.trimmed]; exact F.nonempty v), F.trimmed]

theorem exact_requestJson (hid : id < 2 ^ 64) (h : params.exact 126 = true) :
    (requestJson id method params).exact 127 = true := by
  simp only [requestJson, Json.exact, List.all_cons, List.all_nil, Bool.and_true, h,
    decide_eq_true_eq]
  omega

theorem serveLine_request {words : List String} (hid : id < 2 ^ 64)
    (hcommand : commandOf words = some (method, params))
    (hlong : ¬ maxLineLength <
      (F.toText (requestJson id method params) ++ String.singleton '\n').utf8ByteSize) :
    serveLine F mismatch t.e t.s
        (F.toText (requestJson id method params) ++ String.singleton '\n') =
      .answer (responseLine F
        ((dispatch t.e t.s ⟨"2.0", method, params, .int id⟩).response (.int id)))
        (dispatch t.e t.s ⟨"2.0", method, params, .int id⟩).node
        (dispatch t.e t.s ⟨"2.0", method, params, .int id⟩).out := by
  have hread : JsonRpcRequest.fromStr F mismatch (F.toText (requestJson id method params)) =
      .ok ⟨"2.0", method, params, .int id⟩ := by
    have hexact := @exact_requestJson _ method _ hid (exact_of_commandOf hcommand 124)
    simp only [JsonRpcRequest.fromStr, F.fromStr_toText _ hexact,
      fromValue_requestJson hcommand, Option.elim_some]
  rw [serveLine, if_neg hlong, trim_line, if_neg (F.nonempty _), hread]

/-- What is shown of the answer to a request that was understood. -/
theorem prettyPrint_response (hid : id < 2 ^ 64) {reply : Reply}
    (h : ∀ v, reply.result = .ok v → v.exact 126 = true) :
    prettyPrintResponse F (responseLine F (reply.response (.int id))) =
      .ofResult reply.result := by
  rw [prettyPrintResponse, responseLine, trim_line, Reply.response]
  cases hresult : reply.result with
  | ok v =>
    have hexact : (JsonRpcResponse.success (.int id) v).toJson.exact 127 = true := by
      have hv := Json.exact_ordered (h v hresult)
      simp [JsonRpcResponse.success, JsonRpcResponse.toJson, Json.exact, hv]
      omega
    have hget : (JsonRpcResponse.success (.int id) v).toJson.get "result" = some v.ordered := by
      simp [JsonRpcResponse.success, JsonRpcResponse.toJson, Json.get, Json.lookup]
    rw [F.fromStr_toText _ hexact]
    simp only [Except.map, Json.get_ordered, hget, Option.map_some, Json.ordered_ordered,
      Shown.ofResult]
  | error err =>
    have hexact : (JsonRpcResponse.failure (.int id) err).toJson.exact 127 = true := by
      have hcode := err.code_range
      simp [JsonRpcResponse.failure, JsonRpcResponse.toJson, Json.exact]
      omega
    have hcode : (Json.int err.code).asI64 = some err.code :=
      Json.asI64_of_range (by have := err.code_range; omega)
    have hnone : (JsonRpcResponse.failure (.int id) err).toJson.get "result" = none := by
      simp [JsonRpcResponse.failure, JsonRpcResponse.toJson, Json.get, Json.lookup]
    have herror : (JsonRpcResponse.failure (.int id) err).toJson.get "error" =
        some (.obj [("code", .int err.code), ("message", .str err.text)]) := by
      simp [JsonRpcResponse.failure, JsonRpcResponse.toJson, Json.get, Json.lookup]
    rw [F.fromStr_toText _ hexact]
    simp only [Except.map, Json.get_ordered, hnone, herror, Option.map_none, Option.map_some,
      Shown.ofResult]
    simp [Json.get, Json.lookup, Json.ordered, hcode, Json.asStr]

theorem askServer_eq_askDirectly {words : List String} (hid : id < 2 ^ 64)
    (hcommand : commandOf words = some (method, params))
    (h : ∀ v, (dispatch t.e t.s ⟨"2.0", method, params, .int id⟩).result = .ok v →
      v.exact 126 = true) :
    askServer F mismatch t id method params = askDirectly F t id method params := by
  rw [askServer, askDirectly]
  by_cases hlong : maxLineLength <
      (F.toText (requestJson id method params) ++ String.singleton '\n').utf8ByteSize
  · rw [if_pos hlong, serveLine, if_pos hlong]
  · rw [if_neg hlong, serveLine_request hid hcommand hlong]
    exact congrArg some (prettyPrint_response hid h)

/-- Two ways to ask that agree on the commands that are typed. -/
theorem console_congr {ask ask' : Typed → Nat → String → Json → Option Shown}
    {typed : List Typed} {id : Nat} (hid : id + typed.length ≤ 2 ^ 64)
    (h : ∀ t ∈ typed, ∀ id < 2 ^ 64, ∀ method params,
      commandOf (words (trim t.line)) = some (method, params) →
        ask t id method params = ask' t id method params) :
    console ask id typed = console ask' id typed := by
  -- the id grows with a request only, so the number of lines bounds it
  induction typed generalizing id with
  | nil => rfl
  | cons t rest ih =>
    rw [List.length_cons] at hid
    have hrest : ∀ u ∈ rest, ∀ id < 2 ^ 64, ∀ method params,
        commandOf (words (trim u.line)) = some (method, params) →
          ask u id method params = ask' u id method params :=
      fun u hu => h u (List.mem_cons_of_mem _ hu)
    simp only [console]
    rw [@ih id (by omega) hrest, @ih (id + 1) (by omega) hrest]
    split_ifs
    · rfl
    · rfl
    · rfl
    · split
      next => rfl
      next method params hcommand =>
        rw [h t List.mem_cons_self id (by omega) method params hcommand]

/-- What the answer to a typed command is, JSON has the numbers for. -/
def Typed.Exact (t : Typed) : Prop :=
  ∀ id method params v, commandOf (words (trim t.line)) = some (method, params) →
    (dispatch t.e t.s ⟨"2.0", method, params, .int id⟩).result = .ok v → v.exact 126 = true

/-- Through the connection an operator sees what calls of the handler give, one for each
command, with the numbers 1, 2, 3, … as their ids: no answer is lost, doubled or taken for
that of another command, until a request is too long. -/
theorem console_eq_calls (typed : List Typed) (hlen : typed.length < 2 ^ 64)
    (hexact : ∀ t ∈ typed, t.Exact) :
    console (askServer F mismatch) 1 typed = console (askDirectly F) 1 typed := by
  refine console_congr (by omega) fun t ht id hid method params hcommand => ?_
  exact askServer_eq_askDirectly hid hcommand fun v => hexact t ht _ method params v hcommand

end Session

/- An operator lists the devices, tries to set a port and leaves. -/
def someLines : List Typed :=
  ["device list --limit 5", "config set backdoor_port 0", "quit"].map
    fun line => ⟨line, calmSetting, loneNode⟩

theorem console_eq_calls_lines : console (askServer Json.plainFormat fun _ => "") 1 someLines =
    console (askDirectly Json.plainFormat) 1 someLines := by
  refine console_eq_calls someLines (by decide) fun t ht id method params v hcommand hresult => ?_
  obtain ⟨line, hline, rfl⟩ := List.mem_map.mp ht
  simp only [List.mem_cons, List.not_mem_nil, or_false] at hline
  obtain rfl | rfl | rfl := hline
  · have hlist : commandOf (words (trim "device list --limit 5")) =
        some ("device.list", .obj [("limit", .int 5), ("offset", .int 0)]) := rfl
    rw [hlist] at hcommand
    cases hcommand
    have hdevices : (dispatch calmSetting loneNode ⟨"2.0", "device.list",
        .obj [("limit", .int 5), ("offset", .int 0)], .int id⟩).result =
          .ok (.obj [("devices", .arr []), ("total", .int 0), ("limit", .int 5),
            ("offset", .int 0)]) := rfl
    obtain rfl := Except.ok.inj (hdevices.symm.trans hresult)
    rfl
  · have hset : commandOf (words (trim "config set backdoor_port 0")) = some
        ("config.set", .obj [("key", .str "backdoor_port"), ("value", .str "0")]) := rfl
    rw [hset] at hcommand
    cases hcommand
    cases hresult
  · have hquit : commandOf (words (trim "quit")) = none := rfl
    rw [hquit] at hcommand
    cases hcommand

end HeadEnd.Rpc
