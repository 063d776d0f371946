import HeadEnd.Cluster.Propagation
import HeadEnd.Cluster.SeedStore
import HeadEnd.Cluster.Shutdown
import HeadEnd.Lib.Json

/-! The methods of the console, and what they answer. A request is taken here to run without
others in between; the settings that several requests change at a time have modules of their
own. -/
namespace HeadEnd.Rpc
open Cluster Text

namespace RpcError

def code : RpcError → Int
  | io _ => -32603
  | json _ => -32700
  | methodNotFound _ => -32601
  | invalidParams _ => -32602
  | internal _ => -32603
  | config _ => -32000
  | clusterNotEnabled => -32001
  | deviceNotFound _ => -32002
  | database _ => -32003

def text : RpcError → String
  | io text => "IO error: " ++ text
  | json text => "JSON error: " ++ text
  | methodNotFound method => "Method not found: " ++ method
  | invalidParams text => "Invalid params: " ++ text
  | internal text => "Internal error: " ++ text
  | config text => "Config error: " ++ text
  | clusterNotEnabled => "Cluster not enabled"
  | deviceNotFound text => "Device not found: " ++ text
  | database text => "Database error: " ++ text

end RpcError

structure JsonRpcRequest where
  jsonrpc : String
  method : String
  params : Json
  id : Json

/-- The derived `Deserialize`, which goes through the fields as they are written: a field is
not there twice, other fields are skipped, and only `params` may be missing. A list of the four
values is accepted as well. -/
def JsonRpcRequest.fromValue : Json → Option JsonRpcRequest
  | .obj fields =>
    if ["jsonrpc", "method", "params", "id"].all
        fun name => decide ((fields.filter fun field => field.1 = name).length ≤ 1) then do
      let jsonrpc ← (Json.lookup "jsonrpc" fields).bind Json.asStr
      let method ← (Json.lookup "method" fields).bind Json.asStr
      let id ← Json.lookup "id" fields
      return ⟨jsonrpc, method, ((Json.lookup "params" fields).getD .null).ordered, id.ordered⟩
    else none
  | .arr [.str jsonrpc, .str method, params, id] =>
    some ⟨jsonrpc, method, params.ordered, id.ordered⟩
  | _ => none

structure JsonRpcError where
  code : Int
  message : String
  data : Option Json

structure JsonRpcResponse where
  jsonrpc : String
  result : Option Json
  error : Option JsonRpcError
  id : Json

namespace JsonRpcResponse

/- The handlers list the fields of a result, which `json!` makes a map of. -/
def success (id result : Json) : JsonRpcResponse := ⟨"2.0", some result.ordered, none, id⟩

def failure (id : Json) (err : RpcError) : JsonRpcResponse :=
  ⟨"2.0", none, some ⟨err.code, err.text, none⟩, id⟩

/-- What is none is left out. -/
def toJson (r : JsonRpcResponse) : Json :=
  .obj ([("jsonrpc", .str r.jsonrpc)] ++ (r.result.map fun v => ("result", v)).toList ++
    (r.error.map fun e => ("error", .obj ([("code", .int e.code), ("message", .str e.message)] ++
      (e.data.map fun v => ("data", v)).toList))).toList ++ [("id", r.id)])

end JsonRpcResponse

/-- What the handlers have access to. -/
structure Node where
  nodeId : Uuid
  rpc : RpcState
  localAddr : SocketAddr
  dm : DeviceManager
  db : InnerDB

/-- What a request meets with: the clock, the texts of the standard library, whether the file
and the datagrams can be written, and the orders in which maps and sets are gone through. -/
structure Setting where
  T : AddrText
  now : Int
  uptimeSecs : Nat
  dateText : Int → String
  rfc3339 : Int → String
  uuidError : String → String
  written : Except String Unit
  sent : SocketAddr → Except String Unit
  updateId : Uuid
  owned : List Uuid
  peers : List NodeInfo
  active : List NodeInfo
  reachable : List NodeInfo
  rows : List ScheduledConnection

/-- A result, the node after it, and what was sent. -/
structure Reply where
  result : Except RpcError Json
  node : Node
  out : List Outgoing

def Reply.response (r : Reply) (id : Json) : JsonRpcResponse :=
  match r.result with
  | .ok result => .success id result
  | .error err => .failure id err

/-- The answer of a method that only looks. -/
def answered (s : Node) (result : Except RpcError Json) : Reply := ⟨result, s, []⟩

def Node.withMembership (s : Node) (ml : MembershipList) : Node :=
  { s with rpc := { s.rpc with cluster := some ml } }

def strParam (params : Json) (name : String) : Option String := (params.get name).bind Json.asStr
def u64Param (params : Json) (name : String) : Option Nat := (params.get name).bind Json.asU64
def i64Param (params : Json) (name : String) : Option Int := (params.get name).bind Json.asI64

def requireStr (params : Json) (name text : String) : Except RpcError String :=
  match strParam params name with
  | some value => .ok value
  | none => .error (.invalidParams text)

def uptimeText (secs : Nat) : String :=
  s!"{secs / 86400}d {secs % 86400 / 3600}h {secs % 3600 / 60}m {secs % 60}s"

namespace Node
variable (e : Setting) (s : Node) (params : Json)

def version : Json :=
  .obj [("version", .str "0.1.0"),
    ("node_id", .str (uuidText s.nodeId)),
    ("node_name", .str (s.rpc.read "node_name")),
    ("database", .str ((s.rpc.config.getConfigValue "database_type").getD "unknown")),
    ("uptime", .str (uptimeText e.uptimeSecs)),
    ("uptime_secs", .int e.uptimeSecs),
    ("cluster", match s.rpc.cluster with
      | some _ => .obj [("enabled", .bool true), ("addr", .str (e.T.toText s.localAddr))]
      | none => .obj [("enabled", .bool false)])]

/-- All keys that have a value. -/
def configList : Json :=
  .obj (ConfigKey.all.filterMap fun key =>
    (s.rpc.config.getAllConfig.lookup key.text).map fun value => (key.text, .str value))

def configGet : Except RpcError Json := do
  let key ← requireStr params "key" "missing 'key'"
  match s.rpc.config.getConfigValue key with
  | some value => return .obj [("key", .str key), ("value", .str value)]
  | none => .error (.invalidParams s!"unknown config key: {key}")

def configSet : Reply :=
  match (do
    let key ← requireStr params "key" "missing 'key'"
    let value ← requireStr params "value" "missing 'value' (must be a string)"
    return (key, value) : Except RpcError (String × String)) with
  | .error err => answered s (.error err)
  | .ok (key, value) =>
    match s.rpc.configSet key value e.written with
    | (rpc, .ok ()) =>
      ⟨.ok (.obj [("key", .str key), ("value", .str value), ("status", .str "ok")]),
        { s with rpc }, []⟩
    | (rpc, .error err) => ⟨.error (.config err.text), { s with rpc }, []⟩

def configPropagate : Reply :=
  match (do
    let key ← requireStr params "key" "missing 'key'"
    let value ← requireStr params "value" "missing 'value'"
    return (key, value) : Except RpcError (String × String)) with
  | .error err => answered s (.error err)
  | .ok (key, value) =>
    match s.rpc.configSet key value e.written with
    | (rpc, .error err) => ⟨.error (.config err.text), { s with rpc }, []⟩
    | (rpc, .ok ()) =>
      let out := (rpc.broadcastConfigUpdate e.reachable e.updateId key value e.now).filter
        fun o => (e.sent o.1).isOk
      ⟨.ok (.obj [("key", .str key), ("value", .str value), ("status", .str "ok"),
        ("propagated_to", .int out.length)]), { s with rpc }, out⟩

def deviceList : Json :=
  let limit := (u64Param params "limit").getD 100
  let offset := (u64Param params "offset").getD 0
  .obj [("devices", .arr (((e.owned.drop offset).take limit).map fun id => .str (uuidText id))),
    ("total", .int s.dm.ownedDevices.card),
    ("limit", .int limit),
    ("offset", .int offset)]

end Node

def optStr (text : Option String) : Json := (text.map Json.str).getD .null

def databaseErrorText : DatabaseError → String
  | .noDataFound => "Error: No data found"
  | .queryError text => "QueryError error: " ++ text

def contains (text words : String) : Bool := decide (words.toList <:+: text.toList)

/-- The error for a device that cannot be read, by what its text says. -/
def deviceError (deviceId : Uuid) (err : DatabaseError) : RpcError :=
  if contains (databaseErrorText err) "not found" || contains (databaseErrorText err) "no rows" then
    .deviceNotFound (uuidText deviceId)
  else .database (databaseErrorText err)

def clusterErrorText : ClusterError → String
  | .nodeNotFound id => "Node not found: " ++ uuidText id
  | .noNodesAvailable => "No nodes available for delegation"
  | .delegationRejected reason => "Delegation rejected: " ++ reason
  | .databaseError err => "Database error: " ++ databaseErrorText err

def parseUuid (e : Setting) (note s : String) : Except RpcError Uuid :=
  match parseStr s with
  | some id => .ok id
  | none => .error (.invalidParams (note ++ e.uuidError s))

/-- The devices that `device.delegate` is asked for: a list, one, or a number of them. -/
def resolveDeviceIds (e : Setting) (params : Json) (snapshot : List Uuid) :
    Except RpcError (List Uuid) :=
  match (params.get "device_ids").bind Json.asArray with
  | some items => do
    let ids ← items.mapM fun item =>
      match item.asStr with
      | none => .error (.invalidParams "device_ids must be strings")
      | some s => parseUuid e s!"invalid UUID '{s}': " s
    if ids.isEmpty then .error (.invalidParams "device_ids is empty") else return ids
  | none =>
    match strParam params "device_id" with
    | some s => do
      let id ← parseUuid e "invalid device_id UUID: " s
      return [id]
    | none =>
      match u64Param params "count" with
      | some n =>
        if n = 0 then .error (.invalidParams "count must be > 0")
        else if (snapshot.take n).isEmpty then .error (.internal "no owned devices to delegate")
        else .ok (snapshot.take n)
      | none => .error (.invalidParams "provide 'device_id', 'device_ids', or 'count'")

namespace Node
variable (e : Setting) (s : Node) (params : Json)

def deviceInfo : Except RpcError Json := do
  let text ← requireStr params "device_id" "missing 'device_id'"
  let id ← parseUuid e "invalid UUID: " text
  match s.db.getDevice id with
  | .ok device =>
    return .obj [("device_id", .str (uuidText device.id)), ("ipv4", optStr device.ipv4),
      ("ipv6", optStr device.ipv6), ("imei", optStr device.imei)]
  | .error err => .error (deviceError id err)

def delegationTargetParam (ml : MembershipList) : Except RpcError (Option Uuid) :=
  match strParam params "target_node_id" with
  | none => .ok none
  | some text => do
    let id ← parseUuid e "invalid target_node_id UUID: " text
    match ml.getNode id with
    | none => .error (.internal s!"node {uuidText id} not found in membership")
    | some _ => return some id

/-- What is checked and read before anything is sent. -/
def delegation (ml : MembershipList) : Except RpcError (Option Uuid × List DelegatedDevice) := do
  let target ← delegationTargetParam e params ml
  let ids ← resolveDeviceIds e params e.owned
  match ids.find? fun id => id ∉ s.dm.ownedDevices with
  | some id => .error (.deviceNotFound s!"device {uuidText id} not owned by this node")
  | none =>
    let devices ← ids.mapM fun id =>
      match s.db.getDevice id with
      | .error err => .error (.database (databaseErrorText err))
      | .ok device =>
        .ok ⟨device.id, device.ipv4, device.ipv6, scheduleTimeOf s.db e.now id⟩
    return (target, devices)

/-- The handler of delegations, under the id that the node has in the cluster. -/
def handler (ml : MembershipList) : Server :=
  ⟨ml, { s.dm with localNodeId := ml.localNodeId }, rfl⟩

def deviceDelegate : Reply :=
  match s.rpc.cluster with
  | none => answered s (.error .clusterNotEnabled)
  | some ml =>
    match s.delegation e params ml with
    | .error err => answered s (.error err)
    | .ok (target, devices) =>
      match (s.handler ml).requestDelegation e.active e.now devices .rebalance target with
      | .error err => answered s (.error (.internal (clusterErrorText err)))
      | .ok (server, out, ids) =>
        match out.head?.elim (.ok ()) fun o => e.sent o.1 with
        | .error text => ⟨.error (.internal text), s.withMembership server.membership, []⟩
        | .ok () =>
          ⟨.ok (.obj [("status", .str "delegation_initiated"),
              ("delegated", .arr (ids.map fun id => .str (uuidText id))),
              ("count", .int ids.length),
              ("target_node_id", optStr (target.map uuidText))]),
            s.withMembership server.membership, out⟩

def statusText : NodeStatus → String
  | .starting => "Starting"
  | .active => "Active"
  | .draining => "Draining"
  | .suspect => "Suspect"
  | .dead => "Dead"

def clusterPeers : Except RpcError Json :=
  match s.rpc.cluster with
  | none => .error .clusterNotEnabled
  | some _ =>
    .ok (.obj [("peers", .arr (e.peers.map fun n =>
      .obj [("node_id", .str (uuidText n.nodeId)),
        ("node_name", .str n.nodeName),
        ("cluster_addr", .str (e.T.toText n.clusterAddr)),
        ("status", .str (statusText n.status)),
        ("device_count", .int n.deviceCount.toNat),
        ("load_percent", .float n.loadPercent),
        ("last_heartbeat", .str (e.rfc3339 n.lastHeartbeat))]))])

/-- The counts are 32 bits wide. -/
def clusterStatus : Except RpcError Json :=
  match s.rpc.cluster with
  | none => .error .clusterNotEnabled
  | some ml =>
    let peerDevices := ((e.peers.filter fun n => n.nodeId ≠ ml.localNodeId).map
      fun n => n.deviceCount).foldl (· + ·) 0
    .ok (.obj [("total_nodes", .int e.peers.length),
      ("active_nodes", .int (e.peers.filter fun n => n.status = .active).length),
      ("total_devices",
        .int (UInt32.ofNat s.dm.ownedDevices.card + peerDevices : UInt32).toNat),
      ("local_node_id", .str (uuidText ml.localNodeId))])

/-- A seed that cannot be saved is only reported in the log. -/
def clusterJoin : Reply :=
  match s.rpc.cluster with
  | none => answered s (.error .clusterNotEnabled)
  | some ml =>
    let seedStr := strParam params "seed"
    match requestedSeed e.T true seedStr ((seedStr.bind e.T.parse).elim (.ok ()) e.sent) with
    | .error err =>
      -- the sequence number is used up even if the datagram could not be sent
      ⟨.error err,
        if (seedStr.bind e.T.parse).isSome then s.withMembership ml.nextSeq else s, []⟩
    | .ok seed =>
      let sent := s.withMembership ml.nextSeq
      let rpc := (sent.rpc.setConfigValue "cluster_seeds"
        (newSeeds (currentSeeds s.rpc.manager) seed.text) e.written).1
      ⟨.ok (.obj [("status", .str "join_requested"), ("seed", .str seed.text),
          ("note", .str "NODE_JOIN sent — peer list updates via incoming heartbeats")]),
        { sent with rpc },
        [(seed.addr,
          (s.handler ml).message .nodeJoin (.nodeJoin ml.createNodeJoinPayload) e.now)]⟩

end Node

/-- What a page is asked to be: at most 200 rows long, and not before the first one. -/
structure Page where
  limit : Int
  offset : Int
  deviceId : Option Uuid

def Page.ofParams (params : Json) : Page where
  limit := max 1 (min ((i64Param params "limit").getD 20) 200)
  offset := max ((i64Param params "offset").getD 0) 0
  deviceId := (strParam params "device_id").bind parseStr

end HeadEnd.Rpc

namespace HeadEnd.InnerDB
open HeadEnd.Rpc

/-- The rows of one page, out of the table in its order. `sort_by` is stable. -/
def connectionPage (rows : List ScheduledConnection) (shown : ScheduledConnection → Bool)
    (before : ScheduledConnection → ScheduledConnection → Bool) (page : Page) :
    List ScheduledConnection :=
  let items := (rows.filter shown).filter fun c => page.deviceId.all fun id => c.fkDevice = id
  ((items.mergeSort before).drop page.offset.toNat).take page.limit.toNat

def awaited (c : ScheduledConnection) : Bool := c.status = .awaiting
def past (c : ScheduledConnection) : Bool := c.status = .done ∨ c.status = .lost
def earlier (a b : ScheduledConnection) : Bool := a.scheduleTime ≤ b.scheduleTime

def getUpcomingConnections (rows : List ScheduledConnection) (page : Page) :
    List ScheduledConnection :=
  connectionPage rows awaited earlier page

def getConnectionHistory (rows : List ScheduledConnection) (page : Page) :
    List ScheduledConnection :=
  connectionPage rows past (fun a b => earlier b a) page

end HeadEnd.InnerDB

namespace HeadEnd.Rpc
open Cluster

def scheduledStatusText : ScheduledStatus → String
  | .done => "done"
  | .lost => "lost"
  | .awaiting => "awaiting"

def upcomingItem (e : Setting) (c : ScheduledConnection) : Json :=
  .obj [("device_id", .str (uuidText c.fkDevice)),
    ("schedule_time", .str (e.dateText c.scheduleTime))]

def historyItem (e : Setting) (c : ScheduledConnection) : Json :=
  .obj [("device_id", .str (uuidText c.fkDevice)),
    ("schedule_time", .str (e.dateText c.scheduleTime)),
    ("connection_time", optStr (c.connectionTime.map e.dateText)),
    ("status", .str (scheduledStatusText c.status))]

def listing (items : List Json) : Json :=
  .obj [("connections", .arr items), ("count", .int items.length)]

def upcoming (e : Setting) (params : Json) : Json :=
  listing ((InnerDB.getUpcomingConnections e.rows (.ofParams params)).map (upcomingItem e))

def history (e : Setting) (params : Json) : Json :=
  listing ((InnerDB.getConnectionHistory e.rows (.ofParams params)).map (historyItem e))

/-- `dispatch_inner`. -/
def dispatch (e : Setting) (s : Node) (req : JsonRpcRequest) : Reply :=
  match req.method with
  | "system.version" => answered s (.ok (s.version e))
  | "config.list" => answered s (.ok s.configList)
  | "config.get" => answered s (s.configGet req.params)
  | "config.set" => s.configSet e req.params
  | "config.propagate" => s.configPropagate e req.params
  | "device.list" => answered s (.ok (s.deviceList e req.params))
  | "device.info" => answered s (s.deviceInfo e req.params)
  | "device.delegate" => s.deviceDelegate e req.params
  | "cluster.peers" => answered s (s.clusterPeers e)
  | "cluster.status" => answered s (s.clusterStatus e)
  | "cluster.join" => s.clusterJoin e req.params
  | "scheduler.upcoming" => answered s (.ok (upcoming e req.params))
  | "scheduler.history" => answered s (.ok (history e req.params))
  | other => answered s (.error (.methodNotFound other))

/- A node without a cluster and without devices. -/
def loneNode : Node where
  nodeId := 1
  rpc := (LiveNode.start (.new ConfigManager.nodeConfig) none).rpc
  localAddr := threeAddr 1
  dm := ⟨1, ∅, ⟨2, .empty, none, 1, false⟩⟩
  db := InnerDB.new

def calmSetting : Setting where
  T := longText
  now := 0
  uptimeSecs := 0
  dateText _ := "1970-01-01 00:00:00"
  rfc3339 _ := "1970-01-01T00:00:00+00:00"
  uuidError _ := "invalid length"
  written := .ok ()
  sent _ := .ok ()
  updateId := 7
  owned := []
  peers := []
  active := []
  reachable := []
  rows := []

theorem lookup_listed (c : HesConfig) (keys : List ConfigKey) (k : ConfigKey) :
    Json.lookup k.text (keys.filterMap fun key =>
      (c.getAllConfig.lookup key.text).map fun value => (key.text, .str value)) =
        if k ∈ keys then (k.get c).map .str else none := by
  induction keys with
  | nil => rfl
  | cons first keys ih =>
    rw [List.filterMap_cons, ConfigKey.lookup_getAllConfig, ConfigKey.getConfigValue_text]
    by_cases hk : k = first
    · rw [← hk, if_pos List.mem_cons_self]
      cases hvalue : k.get c with
      | none => simp [ih, hvalue]
      | some value =>
        simp only [Option.map_some, Json.lookup, ih, hvalue, if_true]
        split <;> rfl
    · have htext : first.text ≠ k.text := fun heq => hk (ConfigKey.text_injective heq).symm
      have hmem : k ∈ first :: keys ↔ k ∈ keys := by simp [hk]
      simp only [hmem, ← ih]
      cases first.get c with
      | none => rfl
      | some value => simp [Json.lookup, htext]

/-- `config.list` shows under each key what `config.get` shows. -/
theorem get_configList (s : Node) (k : ConfigKey) :
    s.configList.get k.text = (s.rpc.config.getConfigValue k.text).map .str := by
  rw [Node.configList, Json.get, lookup_listed, if_pos k.mem_all, ConfigKey.getConfigValue_text]

theorem deviceError_noDataFound (id : Uuid) :
    deviceError id .noDataFound = .database "Error: No data found" := by
  have hfound : contains (databaseErrorText .noDataFound) "not found" = false := by decide +kernel
  have hrows : contains (databaseErrorText .noDataFound) "no rows" = false := by decide +kernel
  rw [deviceError, hfound, hrows]
  rfl

/-- The engine that keeps its tables in memory has its own words for a device that is not
there, and they are taken for a failure of the database: the error for such a device is never
given. -/
theorem deviceInfo_unknown (e : Setting) (s : Node) (params : Json) :
    (∀ text, s.deviceInfo e params ≠ .error (.deviceNotFound text)) ∧
    ∀ text id, strParam params "device_id" = some text → parseStr text = some id →
      s.db.devices.lookup id = none →
      s.deviceInfo e params = .error (.database "Error: No data found") := by
  constructor
  · intro text h
    cases htext : strParam params "device_id" with
    | none =>
      simp only [Node.deviceInfo, requireStr, htext, bind, Except.bind] at h
      cases h
    | some idText =>
      cases hid : parseStr idText with
      | none =>
        simp only [Node.deviceInfo, requireStr, htext, parseUuid, hid, bind, Except.bind] at h
        cases h
      | some id =>
        cases hdevice : s.db.devices.lookup id with
        | none =>
          simp only [Node.deviceInfo, requireStr, htext, parseUuid, hid, InnerDB.getDevice,
            hdevice, deviceError_noDataFound, bind, Except.bind] at h
          cases h
        | some device =>
          simp only [Node.deviceInfo, requireStr, htext, parseUuid, hid, InnerDB.getDevice,
            hdevice, bind, Except.bind] at h
          cases h
  · intro text id htext hid hunknown
    simp only [Node.deviceInfo, requireStr, htext, parseUuid, hid, InnerDB.getDevice, hunknown,
      deviceError_noDataFound, bind, Except.bind]

section Errors
variable {e : Setting} {s : Node} {params : Json} {err : RpcError}

theorem configSet_of_error {rpc rpc' : RpcState} {key value : String} {err : SetError}
    (h : rpc.configSet key value (.ok ()) = (rpc', .error err)) : rpc' = rpc := by
  by_cases hsettable : Settable key value
  · have hok := (@RpcState.setConfigValue_ok_iff rpc key value _).mpr ⟨hsettable, rfl⟩
    rw [RpcState.configSet] at h
    split at h
    next => cases congrArg Prod.snd h
    next hset =>
      rw [hset] at hok
      cases hok
  · obtain ⟨err', hset⟩ := @RpcState.setConfigValue_of_not_settable rpc key value (.ok ()) hsettable
    rw [RpcState.configSet, hset] at h
    exact (congrArg Prod.fst h).symm

/-- Neither the file nor a datagram fails to be written. -/
structure Setting.Writes (e : Setting) : Prop where
  written : e.written = .ok ()
  sent : ∀ a, e.sent a = .ok ()

/-- A reply that reports an error, if it does, leaves everything as it was. -/
def Reply.Clean (s : Node) (r : Reply) : Prop :=
  ∀ err, r.result = .error err → r.node = s ∧ r.out = []

theorem clean_answered (result : Except RpcError Json) : (answered s result).Clean s :=
  fun _ _ => ⟨rfl, rfl⟩

theorem clean_configSet (he : e.Writes) : (s.configSet e params).Clean s := by
  unfold Node.configSet
  split
  next => exact clean_answered _
  next =>
    rw [he.written]
    split
    next => exact fun _ h => by cases h
    next hset =>
      rw [configSet_of_error hset]
      exact fun _ _ => ⟨rfl, rfl⟩

theorem clean_configPropagate (he : e.Writes) : (s.configPropagate e params).Clean s := by
  unfold Node.configPropagate
  split
  next => exact clean_answered _
  next =>
    rw [he.written]
    split
    next hset =>
      rw [configSet_of_error hset]
      exact fun _ _ => ⟨rfl, rfl⟩
    next => exact fun _ h => by cases h

theorem clean_deviceDelegate (he : e.Writes) : (s.deviceDelegate e params).Clean s := by
  unfold Node.deviceDelegate
  split
  next => exact clean_answered _
  next =>
    split
    next => exact clean_answered _
    next =>
      split
      next => exact clean_answered _
      next out _ _ =>
        have hsent : out.head?.elim (.ok ()) (fun o => e.sent o.1) = .ok () := by
          cases out with
          | nil => rfl
          | cons o out => exact he.sent o.1
        rw [hsent]
        exact fun _ h => by cases h

theorem clean_clusterJoin (he : e.Writes) : (s.clusterJoin e params).Clean s := by
  unfold Node.clusterJoin
  split
  next => exact clean_answered _
  next ml _ =>
    dsimp only
    split
    next hseed =>
      have hnone : (strParam params "seed").bind e.T.parse = none := by
        cases htext : strParam params "seed" with
        | none => rfl
        | some text =>
          cases hparse : e.T.parse text with
          | none => exact hparse
          | some addr =>
            have hok := requestedSeed_text ⟨text, addr, hparse⟩
            rw [htext, Option.bind_some, hparse, Option.elim_some, he.sent, hok] at hseed
            cases hseed
      rw [hnone]
      exact fun _ _ => ⟨rfl, rfl⟩
    next => exact fun _ h => by cases h

/-- Whatever is asked for: if the file and the datagrams can be written, an answer that is an
error means that nothing has changed and nothing was sent. -/
theorem dispatch_error_unchanged (he : e.Writes) (req : JsonRpcRequest)
    (h : (dispatch e s req).result = .error err) :
    (dispatch e s req).node = s ∧ (dispatch e s req).out = [] := by
  suffices hclean : (dispatch e s req).Clean s from hclean err h
  unfold dispatch
  split
  all_goals first
    | exact clean_answered _
    | exact clean_configSet he
    | exact clean_configPropagate he
    | exact clean_deviceDelegate he
    | exact clean_clusterJoin he

end Errors

end HeadEnd.Rpc
