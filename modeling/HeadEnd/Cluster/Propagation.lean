import HeadEnd.Cluster.Discovery
import HeadEnd.Cluster.Dispatch
import HeadEnd.HotReload
import HeadEnd.Lib.Broadcast

/-! A setting that is changed on one node and sent to the others. Whoever receives it changes
its own configuration, and sends an answer that nobody waits for. -/
namespace HeadEnd
open Transition Cluster

def ConfigError.text : ConfigError → String
  | .ioError text => s!"IO error: {text}"
  | .yamlParseError text => s!"YAML parse error: {text}"
  | .envVarNotFound name => "Environment variable not found: $\x7b" ++ name ++ "\x7d"
  | .invalidNodeId id => s!"Invalid node_id in config: {id}"
  | .invalidDatabaseType text =>
    s!"Invalid database type '{text}'. Valid values: postgres, in-memory"
  | .noHomeDirectory => "Could not determine home directory"

def SetError.text : SetError → String
  | .rejected text => text
  | .notSaved e => e.text

theorem settable_iff_validate {key value : String} :
    Settable key value ↔ (validate key value).isOk := by
  constructor
  · intro h
    obtain ⟨k, hk, haccepts⟩ := h
    obtain ⟨validated, hchecked⟩ := @ConfigKind.checked_of_accepts value k.kind k.text haccepts
    obtain rfl := ConfigKey.ofText_eq_some.mp hk
    rw [k.validate_text value, hchecked.accepted]
    rfl
  · intro h
    by_contra hnot
    obtain ⟨text, htext⟩ := ConfigManager.setConfigValue_of_not_settable
      (m := .new ConfigManager.nodeConfig) hnot
    cases hvalid : validate key value with
    | error text =>
      rw [hvalid] at h
      cases h
    | ok validated =>
      rw [ConfigManager.setConfigValue, hvalid] at htext
      cases congrArg Prod.snd htext

instance (key value : String) : Decidable (Settable key value) :=
  decidable_of_iff _ settable_iff_validate.symm

namespace RpcState

/-- The peers are read from the list of the node; a node without a cluster has none. -/
def broadcastConfigUpdate (s : RpcState) (reachable : List NodeInfo) (updateId : Uuid)
    (key value : String) (now : Int) : List Outgoing :=
  match s.cluster with
  | none => []
  | some ml =>
    (reachable.filter fun n => n.nodeId ≠ ml.localNodeId).map fun n =>
      (n.clusterAddr,
        .new ml.localNodeId 0 .configUpdate (.configUpdate ⟨updateId, key, value⟩) now)

/-- The answer has the id of the node that it goes to. -/
def handleConfigUpdate (s : RpcState) (nodeId : Uuid) (seq : UInt32) (fromAddr : SocketAddr)
    (update : ConfigUpdatePayload) (written : Except String Unit) (now : Int) :
    RpcState × List Outgoing :=
  let (s', result) := s.setConfigValue update.key update.value written
  let ack : ConfigUpdateAckPayload := match result with
    | .ok () => ⟨update.updateId, true, none⟩
    | .error e => ⟨update.updateId, false, some e.text⟩
  (s', [(fromAddr, .new nodeId (seq + 1) .configUpdateAck (.configUpdateAck ack) now)])

/-- Of the messages only CONFIG_UPDATE changes what `set_config_value` can change. -/
def handleMessage (s : RpcState) (fromAddr : SocketAddr) (msg : ClusterMessage)
    (written : Except String Unit) (now : Int) : RpcState × List Outgoing :=
  match msg.dispatch with
  | .ok (.configUpdate update) =>
    s.handleConfigUpdate msg.nodeId msg.seq fromAddr update written now
  | _ => (s, [])

def setClusterSeeds (s : RpcState) (seeds : Option String) (written : Except String Unit) :
    RpcState :=
  { s with manager := (s.manager.call written (.setClusterSeeds seeds)).1 }

section
variable {s : RpcState} {key value : String} {written : Except String Unit}

theorem setConfigValue_of_not_settable (h : ¬ Settable key value) :
    ∃ e, s.setConfigValue key value written = (s, .error e) := by
  obtain ⟨text, htext⟩ := ConfigManager.setConfigValue_of_not_settable (m := s.manager) h
  cases hvalid : validate key value with
  | error text =>
    exact ⟨.rejected text, by rw [setConfigValue, ConfigManager.setConfigValue, hvalid]⟩
  | ok validated =>
    rw [ConfigManager.setConfigValue, hvalid] at htext
    cases congrArg Prod.snd htext

/-- A change that is accepted is made even if the file cannot be written. -/
theorem setConfigValue_of_settable (h : Settable key value) :
    (s.setConfigValue key value written).1.config.getConfigValue key = canonicalValue key value ∧
    (∀ other, other ≠ key → (s.setConfigValue key value written).1.config.getConfigValue other =
      s.config.getConfigValue other) ∧
    ((s.setConfigValue key value written).2 = .ok () ↔ written = .ok ()) := by
  obtain ⟨k, hk, haccepts⟩ := h
  obtain ⟨validated, hchecked⟩ := @ConfigKind.checked_of_accepts value k.kind k.text haccepts
  have hwrites := ConfigKey.writes_assign hchecked.fits
  have hcanonical : canonicalValue key value = validated.shown := by
    rw [canonicalValue, hk, Option.bind_some, hchecked.shown]
  obtain rfl := ConfigKey.ofText_eq_some.mp hk
  have hvalid := (k.validate_text value).trans hchecked.accepted
  have hconfig : (s.setConfigValue k.text value written).1.config =
      validated.assign k.text s.config := by
    simp only [setConfigValue, ConfigManager.setConfigValue, hvalid]
    cases written <;> rfl
  refine ⟨?_, fun other hother => ?_, ?_⟩
  · rw [hconfig, ConfigKey.getConfigValue_text, (hwrites s.config).1, hcanonical]
  · rw [hconfig]
    exact ConfigManager.getConfigValue_of_writes hwrites s.config hother
  · simp only [setConfigValue, ConfigManager.setConfigValue, hvalid]
    cases written <;> simp [ConfigManager.update, Except.mapError]

/-- What a key shows after any key was set. -/
theorem getConfigValue_setConfigValue (k : String) :
    (s.setConfigValue key value written).1.config.getConfigValue k =
      if key = k ∧ Settable key value then canonicalValue k value
      else s.config.getConfigValue k := by
  by_cases hsettable : Settable key value
  · obtain ⟨hself, hother, -⟩ := @setConfigValue_of_settable s key value written hsettable
    by_cases hkey : key = k
    · rw [if_pos ⟨hkey, hsettable⟩, ← hkey, hself]
    · rw [if_neg fun h => hkey h.1, hother k (Ne.symm hkey)]
  · obtain ⟨e, he⟩ := @setConfigValue_of_not_settable s key value written hsettable
    rw [if_neg fun h => hsettable h.2, he]

theorem setConfigValue_ok_iff : (s.setConfigValue key value written).2 = .ok () ↔
    Settable key value ∧ written = .ok () := by
  by_cases hsettable : Settable key value
  · rw [(setConfigValue_of_settable hsettable).2.2]
    exact (and_iff_right hsettable).symm
  · obtain ⟨e, he⟩ := @setConfigValue_of_not_settable s key value written hsettable
    rw [he]
    exact ⟨fun h => (by cases h), fun h => absurd h.1 hsettable⟩

theorem getConfigValue_setClusterSeeds {seeds : Option String} (h : key ≠ "cluster_seeds") :
    (s.setClusterSeeds seeds written).config.getConfigValue key = s.config.getConfigValue key := by
  have hconfig : (s.setClusterSeeds seeds written).config =
      ConfigManager.setClusterSeeds seeds s.config := by
    cases written <;> rfl
  rw [hconfig]
  unfold HesConfig.getConfigValue
  split
  all_goals first | rfl | exact absurd rfl h

end

end RpcState

namespace Cluster

/-- A call of `config.propagate` that has changed the configuration of its node and has yet to
send the change. -/
structure PropagateCall where
  node : Uuid
  key : String
  value : String
  deriving DecidableEq

/-- What every node shares with its console, and the datagrams under way. -/
structure ConfigNet where
  node : Uuid → RpcState
  pending : Multiset PropagateCall
  net : Multiset Datagram

inductive ConfigNetEvent where
  | set (x : Uuid) (key value : String) (written : Except String Unit)
  | propagate (x : Uuid) (key value : String) (written : Except String Unit)
  | send (call : PropagateCall)
  | seeds (x : Uuid) (seeds : Option String) (written : Except String Unit)
  | work (x : Uuid)
  | deliver (d : Datagram) (written : Except String Unit)
  | duplicate (d : Datagram)
  | lose (d : Datagram)

namespace ConfigNet

def propagate (s : ConfigNet) (x : Uuid) (key value : String) (written : Except String Unit) :
    ConfigNet :=
  let (rpc, result) := (s.node x).setConfigValue key value written
  { s with
    node := Function.update s.node x rpc
    pending := match result with
      | .ok () => ⟨x, key, value⟩ ::ₘ s.pending
      | .error _ => s.pending }

/-- `seeds` is what NODE_JOIN does to the configuration, and `work` anything that a node does
besides: it carries settings over, changes its list, sends other messages. -/
inductive Step (N : Topology) : ConfigNet → ConfigNetEvent → ConfigNet → Prop
  | set {s : ConfigNet} {x : Uuid} {key value : String} {written : Except String Unit} :
      Step N s (.set x key value written)
        { s with
          node := Function.update s.node x ((s.node x).setConfigValue key value written).1 }
  | propagate {s : ConfigNet} {x : Uuid} {key value : String} {written : Except String Unit} :
      Step N s (.propagate x key value written) (s.propagate x key value written)
  | send {s : ConfigNet} {call : PropagateCall} {reachable : List NodeInfo} {updateId : Uuid}
      {now : Int} : call ∈ s.pending →
      (∀ ml, (s.node call.node).cluster = some ml → ml.ReachableNodes reachable) →
      Step N s (.send call)
        { s with
          pending := s.pending.erase call
          net := s.net + Multiset.ofList
            (((s.node call.node).broadcastConfigUpdate reachable updateId call.key call.value
              now).map fun o => ⟨N.addr call.node, o.1, o.2⟩) }
  | seeds {s : ConfigNet} {x : Uuid} {seeds : Option String} {written : Except String Unit} :
      Step N s (.seeds x seeds written)
        { s with node := Function.update s.node x ((s.node x).setClusterSeeds seeds written) }
  | work {s : ConfigNet} {x : Uuid} {rpc : RpcState} {sent : Multiset Datagram} :
      rpc.manager = (s.node x).manager → (∀ d ∈ sent, d.msg.msgType ≠ .configUpdate) →
      Step N s (.work x) { s with node := Function.update s.node x rpc, net := s.net + sent }
  | deliver {s : ConfigNet} {d : Datagram} {y : Uuid} {written : Except String Unit} {now : Int} :
      d ∈ s.net → N.nodeAt d.dst = some y →
      Step N s (.deliver d written)
        { s with
          node := Function.update s.node y ((s.node y).handleMessage d.src d.msg written now).1
          net := s.net.erase d + Multiset.ofList
            (((s.node y).handleMessage d.src d.msg written now).2.map
              fun o => ⟨N.addr y, o.1, o.2⟩) }
  | duplicate {s : ConfigNet} {d : Datagram} : d ∈ s.net →
      Step N s (.duplicate d) { s with net := d ::ₘ s.net }
  | lose {s : ConfigNet} {d : Datagram} : d ∈ s.net →
      Step N s (.lose d) { s with net := s.net.erase d }

end ConfigNet

/-- The change of `key` that a message carries. -/
def ClusterMessage.update (key : String) (msg : ClusterMessage) : Option String :=
  match msg.dispatch with
  | .ok (.configUpdate p) => if p.key = key then some p.value else none
  | _ => none

def PropagateCall.view (key : String) (call : PropagateCall) : Option (Uuid × Option String) :=
  if call.key = key then some (call.node, canonicalValue key call.value) else none

/-- A datagram in the terms of the library. -/
def Topology.update (N : Topology) (key : String) (d : Datagram) : Option (Uuid × Option String) :=
  match N.nodeAt d.dst, d.msg.update key with
  | some y, some value => some (y, canonicalValue key value)
  | _, _ => none

namespace ConfigNet

/-- What the nodes show for a key, and what is under way about it. -/
def view (N : Topology) (key : String) (s : ConfigNet) : Broadcast.State Uuid (Option String) where
  copy x := (s.node x).config.getConfigValue key
  pending := s.pending.filterMap (PropagateCall.view key)
  net := s.net.filterMap (N.update key)

/-- Only what a node has accepted is under way. -/
structure Valid (s : ConfigNet) : Prop where
  pending : ∀ call ∈ s.pending, Settable call.key call.value
  net : ∀ d ∈ s.net, ∀ p, d.msg.dispatch = .ok (.configUpdate p) → Settable p.key p.value

end ConfigNet

theorem ClusterMessage.msgType_of_dispatch {msg : ClusterMessage} {p : ConfigUpdatePayload}
    (h : msg.dispatch = .ok (.configUpdate p)) : msg.msgType = .configUpdate := by
  obtain ⟨version, msgType, nodeId, seq, timestamp, payload⟩ := msg
  cases msgType <;> cases payload <;> first | rfl | cases h

theorem ClusterMessage.update_of_msgType {msg : ClusterMessage} {key : String}
    (h : msg.msgType ≠ .configUpdate) : msg.update key = none := by
  unfold update
  split
  next hdispatch => exact absurd (msgType_of_dispatch hdispatch) h
  next => rfl

theorem Topology.update_of_msgType {N : Topology} {d : Datagram} {key : String}
    (h : d.msg.msgType ≠ .configUpdate) : N.update key d = none := by
  rw [Topology.update, ClusterMessage.update_of_msgType h]
  cases N.nodeAt d.dst <;> rfl

/-- The answers are no changes. -/
theorem msgType_of_mem_handleMessage {s : RpcState} {fromAddr : SocketAddr} {msg : ClusterMessage}
    {written : Except String Unit} {now : Int} {o : Outgoing}
    (h : o ∈ (s.handleMessage fromAddr msg written now).2) : o.2.msgType ≠ .configUpdate := by
  unfold RpcState.handleMessage at h
  split at h
  next =>
    obtain rfl := List.mem_singleton.mp h
    exact ClusterMessageType.noConfusion
  next => cases h

namespace ConfigNet
variable {N : Topology} {s t : ConfigNet} {e : ConfigNetEvent} {key : String}

/-- Nothing about the key is under way. -/
def Quiet (N : Topology) (key : String) (s : ConfigNet) : Prop :=
  (∀ call ∈ s.pending, call.key ≠ key) ∧ ∀ d ∈ s.net, N.update key d = none

theorem quiet_iff_view : s.Quiet N key ↔ (s.view N key).pending = 0 ∧ (s.view N key).net = 0 := by
  simp only [Multiset.eq_zero_iff_forall_notMem, view, Multiset.mem_filterMap, Quiet, not_exists,
    not_and]
  refine and_congr ⟨fun h m call hcall hview => ?_, fun h call hcall hkey => ?_⟩
    ⟨fun h m d hd hupdate => ?_, fun h d hd => ?_⟩
  · rw [PropagateCall.view, if_neg (h call hcall)] at hview
    cases hview
  · exact h _ call hcall (if_pos hkey)
  · rw [h d hd] at hupdate
    cases hupdate
  · exact Option.eq_none_iff_forall_ne_some.mpr fun m => h m d hd

theorem Valid.step (hs : s.Valid) (h : Step N s e t) : t.Valid := by
  cases h with
  | set => exact ⟨hs.pending, hs.net⟩
  | @propagate x key value written =>
    refine ⟨?_, hs.net⟩
    have hcalls : (s.propagate x key value written).pending =
        match ((s.node x).setConfigValue key value written).2 with
        | .ok () => ⟨x, key, value⟩ ::ₘ s.pending
        | .error _ => s.pending := rfl
    rw [hcalls]
    split
    next hok =>
      exact Multiset.forall_mem_cons.mpr ⟨(RpcState.setConfigValue_ok_iff.mp hok).1, hs.pending⟩
    next => exact hs.pending
  | @send call reachable updateId now hcall hreachable =>
    refine ⟨fun c hc => hs.pending c (Multiset.mem_of_mem_erase hc), fun d hd p hp => ?_⟩
    cases Multiset.mem_add.mp hd with
    | inl hd => exact hs.net d hd p hp
    | inr hd =>
      obtain ⟨o, ho, rfl⟩ := List.mem_map.mp (Multiset.mem_coe.mp hd)
      unfold RpcState.broadcastConfigUpdate at ho
      split at ho
      next => cases ho
      next =>
        obtain ⟨n, -, rfl⟩ := List.mem_map.mp ho
        cases hp
        exact hs.pending call hcall
  | seeds => exact ⟨hs.pending, hs.net⟩
  | work hrpc hsent =>
    refine ⟨hs.pending, fun d hd p hp => ?_⟩
    cases Multiset.mem_add.mp hd with
    | inl hd => exact hs.net d hd p hp
    | inr hd => exact absurd (ClusterMessage.msgType_of_dispatch hp) (hsent d hd)
  | deliver hd hy =>
    refine ⟨hs.pending, fun d hd p hp => ?_⟩
    cases Multiset.mem_add.mp hd with
    | inl hd => exact hs.net d (Multiset.mem_of_mem_erase hd) p hp
    | inr hd =>
      obtain ⟨o, ho, rfl⟩ := List.mem_map.mp (Multiset.mem_coe.mp hd)
      exact absurd (ClusterMessage.msgType_of_dispatch hp) (msgType_of_mem_handleMessage ho)
  | duplicate hd => exact ⟨hs.pending, Multiset.forall_mem_cons.mpr ⟨hs.net _ hd, hs.net⟩⟩
  | lose hd => exact ⟨hs.pending, fun d hd => hs.net d (Multiset.mem_of_mem_erase hd)⟩

end ConfigNet

/-- The value of a propagation of `key` that goes out. -/
def ConfigNetEvent.propagated (key : String) : ConfigNetEvent → Option (Option String)
  | .propagate _ k value (.ok ()) =>
    if k = key ∧ Settable k value then some (canonicalValue key value) else none
  | _ => none

def ConfigNetEvent.latest (key : String) (last : Option (Option String)) (e : ConfigNetEvent) :
    Option (Option String) :=
  (e.propagated key).or last

/-- A node sets `key` to what is in `own`, and sends what is in `sent`. -/
def ConfigNetEvent.Within (key : String) (own : Uuid → Set (Option String))
    (sent : Set (Option String)) : ConfigNetEvent → Prop
  | .set x k value _ => k = key → Settable k value → canonicalValue key value ∈ own x
  | .propagate x k value written => k = key → Settable k value →
      canonicalValue key value ∈ own x ∧ (written = .ok () → canonicalValue key value ∈ sent)
  | _ => True

/-- No change of `key` arrives at `y`. -/
def ConfigNetEvent.Unheard (N : Topology) (key : String) (y : Uuid) : ConfigNetEvent → Prop
  | .deliver d _ => ∀ m, N.update key d = some m → m.1 ≠ y
  | _ => True

namespace ConfigNet

section Targets
variable {N : Topology}

/-- Who gets what is sent to the addresses. -/
def targets (N : Topology) (rpc : RpcState) (reachable : List NodeInfo) : Multiset Uuid :=
  match rpc.cluster with
  | none => 0
  | some ml =>
    Multiset.ofList ((reachable.filter fun n => n.nodeId ≠ ml.localNodeId).filterMap
      fun n => N.nodeAt n.clusterAddr)

theorem mem_targets {rpc : RpcState} {reachable : List NodeInfo} {ml : MembershipList}
    (hcluster : rpc.cluster = some ml) (hreachable : ml.ReachableNodes reachable)
    {y : Uuid} {n : NodeInfo} (hn : ml.nodes.lookup y = some n) (hreach : n.isReachable)
    (haddr : N.nodeAt n.clusterAddr = some y) : y ∈ targets N rpc reachable := by
  have hid : n.nodeId = y := ml.nodes_keyed y n hn
  have hne : n.nodeId ≠ ml.localNodeId := by
    intro heq
    have hlocal : ml.nodes.lookup ml.localNodeId = none := ml.lookup_local
    rw [← heq, hid, hn] at hlocal
    cases hlocal
  rw [targets, hcluster]
  refine Multiset.mem_coe.mpr (List.mem_filterMap.mpr ⟨n, List.mem_filter.mpr ⟨?_, ?_⟩, haddr⟩)
  · exact (hreachable.2 n).mpr ⟨hid.symm ▸ hn, hreach⟩
  · simpa using hne

/-- Node `x` has `y` in its list, and nobody at the address of another node. -/
def Knows (N : Topology) (x y : Uuid) (rpc : RpcState) : Prop :=
  ∃ ml, rpc.cluster = some ml ∧ ml.localNodeId = x ∧
    (∀ k n, ml.nodes.lookup k = some n → ∀ z, N.nodeAt n.clusterAddr = some z → z = k) ∧
    ∃ n, ml.nodes.lookup y = some n ∧ n.isReachable ∧ N.nodeAt n.clusterAddr = some y

theorem Knows.targets {x y : Uuid} {rpc : RpcState} (h : Knows N x y rpc)
    {reachable : List NodeInfo}
    (hreachable : ∀ ml, rpc.cluster = some ml → ml.ReachableNodes reachable) :
    y ∈ targets N rpc reachable ∧ x ∉ targets N rpc reachable := by
  obtain ⟨ml, hcluster, hid, hroutes, n, hn, hreach, haddr⟩ := h
  refine ⟨mem_targets hcluster (hreachable ml hcluster) hn hreach haddr, fun hx => ?_⟩
  rw [ConfigNet.targets, hcluster] at hx
  obtain ⟨n', hn', hroute⟩ := List.mem_filterMap.mp (Multiset.mem_coe.mp hx)
  obtain ⟨hmem, hne⟩ := List.mem_filter.mp hn'
  have hlookup := ((hreachable ml hcluster).2 n').mp hmem
  have heq : x = n'.nodeId := hroutes _ n' hlookup.1 x hroute
  exact of_decide_eq_true hne (heq.symm.trans hid.symm)

theorem Knows.of_cluster {x y : Uuid} {rpc rpc' : RpcState} (h : Knows N x y rpc)
    (heq : rpc'.cluster = rpc.cluster) : Knows N x y rpc' := by
  rw [Knows, heq]
  exact h

end Targets

/-- About `key` nothing is set or lost, and no further call is made. When `x` or `y` sends, it
has the other in its list. -/
def Linked (N : Topology) (key : String) (x y : Uuid) (s : ConfigNet) : ConfigNetEvent → Prop
  | .set _ k value _ | .propagate _ k value _ => ¬ (k = key ∧ Settable k value)
  | .send call => call.key = key →
      (call.node = x → Knows N x y (s.node x)) ∧ (call.node = y → Knows N y x (s.node y))
  | .lose d => N.update key d = none
  | _ => True

/-- The key is propagated when nothing about it is under way and the file can be written, by a
node that has all others in its list; it is not set otherwise, and nothing about it is lost. -/
def Serial (N : Topology) (key : String) (s : ConfigNet) : ConfigNetEvent → Prop
  | .set _ k value _ => ¬ (k = key ∧ Settable k value)
  | .propagate _ k value written => k = key → Settable k value → s.Quiet N key ∧ written = .ok ()
  | .send call => call.key = key → ∃ ml, (s.node call.node).cluster = some ml ∧
      ∀ y ∈ N.ids, y ≠ call.node →
        ∃ n, ml.nodes.lookup y = some n ∧ n.isReachable ∧ N.nodeAt n.clusterAddr = some y
  | .lose d => N.update key d = none
  | _ => True

/-- What an event is in the terms of the library. -/
structure Shows (N : Topology) (key : String) (s : ConfigNet) (e : ConfigNetEvent)
    (e' : Broadcast.Event Uuid (Option String)) : Prop where
  latest : ∀ last, e'.latest last = e.latest key last
  serial : s.Serial N key e → Broadcast.Serial N.ids (s.view N key) e'
  within : ∀ own sent, e.Within key own sent → e'.Within own sent
  linked : ∀ x y, s.Linked N key x y e → e'.Between x y
  unheard : ∀ y, e.Unheard N key y → e'.Unheard y

variable {N : Topology} {s t : ConfigNet} {e : ConfigNetEvent} {key : String}

theorem view_update {x : Uuid} {rpc : RpcState} {pending : Multiset PropagateCall}
    {net : Multiset Datagram} :
    view N key ⟨Function.update s.node x rpc, pending, net⟩ =
      ⟨Function.update (s.view N key).copy x (rpc.config.getConfigValue key),
        pending.filterMap (PropagateCall.view key), net.filterMap (N.update key)⟩ := by
  have hcopy : (fun y => (Function.update s.node x rpc y).config.getConfigValue key) =
      Function.update (s.view N key).copy x (rpc.config.getConfigValue key) := by
    funext y
    by_cases hy : y = x
    · rw [hy, Function.update_self, Function.update_self]
    · rw [Function.update_of_ne hy, Function.update_of_ne hy]
      rfl
  rw [view, hcopy]

/-- A node that shows what it has shown. -/
theorem view_update_of_eq {x : Uuid} {rpc : RpcState} {pending : Multiset PropagateCall}
    {net : Multiset Datagram}
    (h : rpc.config.getConfigValue key = (s.node x).config.getConfigValue key) :
    view N key ⟨Function.update s.node x rpc, pending, net⟩ =
      ⟨(s.view N key).copy, pending.filterMap (PropagateCall.view key),
        net.filterMap (N.update key)⟩ := by
  have hsame : Function.update (s.view N key).copy x (rpc.config.getConfigValue key) =
      (s.view N key).copy := by
    rw [h]
    exact Function.update_eq_self x _
  rw [view_update, hsame]

theorem view_withNet {net : Multiset Datagram} {msgs : Multiset (Uuid × Option String)}
    (h : net.filterMap (N.update key) = msgs) :
    view N key { s with net } = { s.view N key with net := msgs } := by
  rw [view, h]
  rfl

theorem filterMap_add_of_msgType {net sent : Multiset Datagram}
    (h : ∀ d ∈ sent, d.msg.msgType ≠ .configUpdate) :
    (net + sent).filterMap (N.update key) = net.filterMap (N.update key) := by
  have hnone : sent.filterMap (N.update key) = 0 := by
    rw [Multiset.eq_zero_iff_forall_notMem]
    intro m hm
    obtain ⟨d, hd, hupdate⟩ := (Multiset.mem_filterMap _ _).mp hm
    rw [Topology.update_of_msgType (h d hd)] at hupdate
    cases hupdate
  rw [Multiset.filterMap_add, hnone, add_zero]

theorem view_set {x : Uuid} {k value : String} {written : Except String Unit}
    (h : Step N s (.set x k value written) t) :
    t.view N key = s.view N key ∨ ∃ e', Broadcast.Step (s.view N key) e' (t.view N key) ∧
      s.Shows N key (.set x k value written) e' := by
  cases h
  by_cases hset : k = key ∧ Settable k value
  · refine .inr ⟨.set x (canonicalValue key value), ?_, fun _ => rfl, fun h => absurd hset h,
      fun own sent h => h hset.1 hset.2, fun _ _ h => absurd hset h, fun _ _ => trivial⟩
    rw [view_update, RpcState.getConfigValue_setConfigValue, if_pos hset]
    exact .set
  · refine .inl (view_update_of_eq ?_)
    rw [RpcState.getConfigValue_setConfigValue, if_neg hset]

theorem view_propagated {x : Uuid} {value : String} (h : Settable key value) :
    (s.propagate x key value (.ok ())).view N key =
      ⟨Function.update (s.view N key).copy x (canonicalValue key value),
        (x, canonicalValue key value) ::ₘ (s.view N key).pending, (s.view N key).net⟩ := by
  have hok : ((s.node x).setConfigValue key value (.ok ())).2 = .ok () :=
    RpcState.setConfigValue_ok_iff.mpr ⟨h, rfl⟩
  have hstate : s.propagate x key value (.ok ()) =
      ⟨Function.update s.node x ((s.node x).setConfigValue key value (.ok ())).1,
        ⟨x, key, value⟩ ::ₘ s.pending, s.net⟩ := by
    simp only [propagate, hok]
  have hview : PropagateCall.view key ⟨x, key, value⟩ = some (x, canonicalValue key value) :=
    if_pos rfl
  rw [hstate, view_update, RpcState.getConfigValue_setConfigValue, if_pos ⟨rfl, h⟩,
    Multiset.filterMap_cons_some _ _ _ hview]
  rfl

theorem view_propagate {x : Uuid} {k value : String} {written : Except String Unit}
    (h : Step N s (.propagate x k value written) t) :
    t.view N key = s.view N key ∧
        (ConfigNetEvent.propagate x k value written).propagated key = none ∨
      ∃ e', Broadcast.Step (s.view N key) e' (t.view N key) ∧
        s.Shows N key (.propagate x k value written) e' := by
  cases h
  have hstate : s.propagate x k value written =
      ⟨Function.update s.node x ((s.node x).setConfigValue k value written).1,
        match ((s.node x).setConfigValue k value written).2 with
        | .ok () => ⟨x, k, value⟩ ::ₘ s.pending
        | .error _ => s.pending, s.net⟩ := rfl
  by_cases hset : k = key ∧ Settable k value
  · obtain ⟨rfl, hsettable⟩ := hset
    refine .inr ?_
    cases written with
    | ok _ =>
      refine ⟨.write x (canonicalValue k value), ?_, fun last => ?_, fun h => ?_,
        fun own sent h => (h rfl hsettable).2 rfl, fun _ _ h => absurd ⟨rfl, hsettable⟩ h,
        fun _ _ => trivial⟩
      · rw [view_propagated hsettable]
        exact .write
      · rw [ConfigNetEvent.latest, ConfigNetEvent.propagated, if_pos ⟨rfl, hsettable⟩]
        rfl
      · exact quiet_iff_view.mp (h rfl hsettable).1
    | error text =>
      -- the value is kept, and the call fails before it sends anything
      refine ⟨.set x (canonicalValue k value), ?_, fun last => rfl,
        fun h => (by cases (h rfl hsettable).2), fun own sent h => (h rfl hsettable).1,
        fun _ _ h => absurd ⟨rfl, hsettable⟩ h, fun _ _ => trivial⟩
      rw [hstate]
      split
      next hok => cases (RpcState.setConfigValue_ok_iff.mp hok).2
      next =>
        rw [view_update, RpcState.getConfigValue_setConfigValue, if_pos ⟨rfl, hsettable⟩]
        exact .set
  · refine .inl ⟨?_, ?_⟩
    · have hshown : ((s.node x).setConfigValue k value written).1.config.getConfigValue key =
          (s.node x).config.getConfigValue key := by
        rw [RpcState.getConfigValue_setConfigValue, if_neg hset]
      rw [hstate, view_update_of_eq hshown]
      split
      next hok =>
        have hkey : k ≠ key := fun hkey => hset ⟨hkey, (RpcState.setConfigValue_ok_iff.mp hok).1⟩
        have hview : PropagateCall.view key ⟨x, k, value⟩ = none := if_neg hkey
        rw [Multiset.filterMap_cons_none _ _ hview]
        rfl
      next => rfl
    · cases written with
      | ok _ => exact if_neg hset
      | error _ => rfl

theorem filterMap_broadcast {rpc : RpcState} {reachable : List NodeInfo} {updateId : Uuid}
    {k value : String} {now : Int} {src : SocketAddr} :
    (Multiset.ofList ((rpc.broadcastConfigUpdate reachable updateId k value now).map
        fun o => (⟨src, o.1, o.2⟩ : Datagram))).filterMap (N.update key) =
      if k = key then (targets N rpc reachable).map fun y => (y, canonicalValue key value)
      else 0 := by
  unfold RpcState.broadcastConfigUpdate targets
  cases rpc.cluster with
  | none => exact (ite_self 0).symm
  | some ml =>
    have hupdate : ∀ n : NodeInfo, N.update key ⟨src, n.clusterAddr,
        .new ml.localNodeId 0 .configUpdate (.configUpdate ⟨updateId, k, value⟩) now⟩ =
        if k = key then (N.nodeAt n.clusterAddr).map fun y => (y, canonicalValue key value)
        else none := by
      intro n
      have hmsg : ClusterMessage.update key (.new ml.localNodeId 0 .configUpdate
          (.configUpdate ⟨updateId, k, value⟩) now) = if k = key then some value else none := rfl
      unfold Topology.update
      rw [hmsg]
      by_cases hkey : k = key
      · rw [if_pos hkey, if_pos hkey]
        cases N.nodeAt n.clusterAddr <;> rfl
      · rw [if_neg hkey, if_neg hkey]
        cases N.nodeAt n.clusterAddr <;> rfl
    simp only [List.map_map, Multiset.filterMap_coe, List.filterMap_map, Function.comp_def, hupdate]
    split
    next => rw [Multiset.map_coe, List.map_filterMap]
    next => simp

/-- What is under way after a call has sent its value. -/
theorem view_sent {call : PropagateCall} {reachable : List NodeInfo} {updateId : Uuid} {now : Int}
    {pending : Multiset PropagateCall} :
    view N key ⟨s.node, pending, s.net + Multiset.ofList
      (((s.node call.node).broadcastConfigUpdate reachable updateId call.key call.value
        now).map fun o => ⟨N.addr call.node, o.1, o.2⟩)⟩ =
      ⟨(s.view N key).copy, pending.filterMap (PropagateCall.view key), (s.view N key).net +
        if call.key = key then (targets N (s.node call.node) reachable).map
          fun y => (y, canonicalValue key call.value) else 0⟩ := by
  rw [view, Multiset.filterMap_add, filterMap_broadcast]
  rfl

theorem view_send {call : PropagateCall} (h : Step N s (.send call) t) :
    t.view N key = s.view N key ∨ ∃ e', Broadcast.Step (s.view N key) e' (t.view N key) ∧
      s.Shows N key (.send call) e' := by
  cases h with
  | @send _ reachable updateId now hcall hreachable =>
  by_cases hkey : call.key = key
  · have hview : call.view key = some (call.node, canonicalValue key call.value) := if_pos hkey
    refine .inr ⟨.send call.node (canonicalValue key call.value)
      (targets N (s.node call.node) reachable), ?_, fun _ => rfl, fun h => ?_, fun _ _ _ => trivial,
      fun x y h => ?_, fun _ _ => trivial⟩
    · rw [view_sent, if_pos hkey, Broadcast.filterMap_erase_some hcall hview]
      exact .send ((Multiset.mem_filterMap _ _).mpr ⟨call, hcall, hview⟩)
    · obtain ⟨ml, hcluster, hall⟩ := h hkey
      intro y hy hne
      obtain ⟨n, hn, hreach, haddr⟩ := hall y hy hne
      exact mem_targets hcluster (hreachable ml hcluster) hn hreach haddr
    · obtain ⟨hx, hy⟩ := h hkey
      exact ⟨fun hcall => hcall ▸ (hcall ▸ hx hcall).targets hreachable,
        fun hcall => hcall ▸ (hcall ▸ hy hcall).targets hreachable⟩
  · refine .inl ?_
    have hview : call.view key = none := if_neg hkey
    rw [view_sent, if_neg hkey, Broadcast.filterMap_erase_none hcall hview, add_zero]
    rfl

theorem update_eq_some {d : Datagram} {m : Uuid × Option String} (h : N.update key d = some m) :
    ∃ p, d.msg.dispatch = .ok (.configUpdate p) ∧ p.key = key ∧ N.nodeAt d.dst = some m.1 ∧
      m.2 = canonicalValue key p.value := by
  unfold Topology.update at h
  split at h
  next y value hy hvalue =>
    obtain rfl := Option.some.inj h
    unfold ClusterMessage.update at hvalue
    split at hvalue
    next p hp =>
      split at hvalue
      next hkey =>
        obtain rfl := Option.some.inj hvalue
        exact ⟨p, hp, hkey, hy, rfl⟩
      next => cases hvalue
    next => cases hvalue
  next => cases h

/-- The answers to a datagram do not count. -/
theorem filterMap_answers {net : Multiset Datagram} {y : Uuid} {d : Datagram}
    {written : Except String Unit} {now : Int} :
    (net + Multiset.ofList (((s.node y).handleMessage d.src d.msg written now).2.map
      fun o => (⟨N.addr y, o.1, o.2⟩ : Datagram))).filterMap (N.update key) =
      net.filterMap (N.update key) := by
  refine filterMap_add_of_msgType fun d' hd' => ?_
  obtain ⟨o, ho, rfl⟩ := List.mem_map.mp (Multiset.mem_coe.mp hd')
  exact msgType_of_mem_handleMessage ho

theorem view_deliver (hs : s.Valid) {d : Datagram} {written : Except String Unit}
    (h : Step N s (.deliver d written) t) :
    t.view N key = s.view N key ∨ ∃ e', Broadcast.Step (s.view N key) e' (t.view N key) ∧
      s.Shows N key (.deliver d written) e' := by
  cases h with
  | @deliver _ y _ now hd hy =>
  cases hupdate : N.update key d with
  | some m =>
    obtain ⟨p, hp, hkey, hdst, hvalue⟩ := update_eq_some hupdate
    obtain rfl := Option.some.inj (hy.symm.trans hdst)
    obtain ⟨y, v⟩ := m
    obtain rfl : v = canonicalValue key p.value := hvalue
    have hshown : ((s.node y).handleMessage d.src d.msg written now).1.config.getConfigValue key =
        canonicalValue key p.value := by
      have hset : ((s.node y).handleMessage d.src d.msg written now).1 =
          ((s.node y).setConfigValue p.key p.value written).1 := by
        rw [RpcState.handleMessage, hp]
        rfl
      rw [hset, RpcState.getConfigValue_setConfigValue, if_pos ⟨hkey, hs.net d hd p hp⟩]
    refine .inr ⟨.deliver y (canonicalValue key p.value), ?_, fun _ => rfl, fun _ => trivial,
      fun _ _ _ => trivial, fun _ _ _ => trivial, fun _ h => h _ hupdate⟩
    rw [view_update, hshown, filterMap_answers, Broadcast.filterMap_erase_some hd hupdate]
    exact .deliver ((Multiset.mem_filterMap _ _).mpr ⟨d, hd, hupdate⟩)
  | none =>
    have hshown : ((s.node y).handleMessage d.src d.msg written now).1.config.getConfigValue key =
        (s.node y).config.getConfigValue key := by
      unfold RpcState.handleMessage
      split
      next p hp =>
        have hset : ((s.node y).handleConfigUpdate d.msg.nodeId d.msg.seq d.src p written now).1 =
          ((s.node y).setConfigValue p.key p.value written).1 := rfl
        have hkey : p.key ≠ key := by
          intro hkey
          simp [Topology.update, hy, ClusterMessage.update, hp, hkey] at hupdate
        rw [hset, RpcState.getConfigValue_setConfigValue, if_neg fun h => hkey h.1]
      next => rfl
    refine .inl ?_
    rw [view_update_of_eq hshown, filterMap_answers, Broadcast.filterMap_erase_none hd hupdate]
    rfl

theorem view_step (hs : s.Valid) (hkey : key ≠ "cluster_seeds") (h : Step N s e t) :
    t.view N key = s.view N key ∧ e.propagated key = none ∨
      ∃ e', Broadcast.Step (s.view N key) e' (t.view N key) ∧ s.Shows N key e e' := by
  cases e with
  | set x k value written => exact (view_set h).imp (⟨·, rfl⟩) id
  | propagate x k value written => exact view_propagate h
  | send call => exact (view_send h).imp (⟨·, rfl⟩) id
  | seeds x seeds written =>
    cases h
    exact .inl ⟨view_update_of_eq (RpcState.getConfigValue_setClusterSeeds hkey), rfl⟩
  | work x =>
    cases h with
    | work hmanager hsent =>
    refine .inl ⟨?_, rfl⟩
    rw [view_update_of_eq (congrArg (fun m => m.config.getConfigValue key) hmanager),
      filterMap_add_of_msgType hsent]
    rfl
  | deliver d written => exact (view_deliver hs h).imp (⟨·, rfl⟩) id
  | duplicate d =>
    cases h with
    | duplicate hd =>
    cases hupdate : N.update key d with
    | none => exact .inl ⟨view_withNet (Multiset.filterMap_cons_none _ _ hupdate), rfl⟩
    | some m =>
      refine .inr ⟨.duplicate m.1 m.2, ?_, fun _ => rfl, fun _ => trivial, fun _ _ _ => trivial,
        fun _ _ _ => trivial, fun _ _ => trivial⟩
      rw [view_withNet (Multiset.filterMap_cons_some _ _ _ hupdate)]
      exact .duplicate ((Multiset.mem_filterMap _ _).mpr ⟨d, hd, hupdate⟩)
  | lose d =>
    cases h with
    | lose hd =>
    cases hupdate : N.update key d with
    | none => exact .inl ⟨view_withNet (Broadcast.filterMap_erase_none hd hupdate), rfl⟩
    | some m =>
      refine .inr ⟨.lose m.1 m.2, ?_, fun _ => rfl, fun h => ?_, fun _ _ _ => trivial,
        fun _ _ h => ?_, fun _ _ => trivial⟩
      · rw [view_withNet (Broadcast.filterMap_erase_some hd hupdate)]
        exact .lose ((Multiset.mem_filterMap _ _).mpr ⟨d, hd, hupdate⟩)
      · cases hupdate.symm.trans h
      · cases hupdate.symm.trans h

/-- The value propagated last. -/
def lastPropagated (key : String) (es : List ConfigNetEvent) : Option (Option String) :=
  es.foldl (ConfigNetEvent.latest key) none

section Runs
variable {es : List ConfigNetEvent}

theorem valid_of_start (hpending : s.pending = 0)
    (hnet : ∀ d ∈ s.net, d.msg.msgType ≠ .configUpdate) : s.Valid where
  pending call hcall := absurd (hpending ▸ hcall) (Multiset.notMem_zero call)
  net d hd _ hp := absurd (ClusterMessage.msgType_of_dispatch hp) (hnet d hd)

theorem quiet_of_start (hpending : s.pending = 0)
    (hnet : ∀ d ∈ s.net, d.msg.msgType ≠ .configUpdate) : s.Quiet N key :=
  ⟨fun call hcall => absurd (hpending ▸ hcall) (Multiset.notMem_zero call),
    fun d hd => Topology.update_of_msgType (hnet d hd)⟩

theorem current_of_run (hkey : key ≠ "cluster_seeds") {last : Option (Option String)}
    (hs : s.Valid) (hcurrent : Broadcast.Current N.ids last (s.view N key))
    (h : Run (Guarded (Serial N key) (Step N)) s es t) :
    Broadcast.Current N.ids (es.foldl (ConfigNetEvent.latest key) last)
      (t.view N key) := by
  induction h generalizing last with
  | nil s => exact hcurrent
  | @cons s u t e es hone hrest ih =>
    obtain ⟨hserial, hstep⟩ := hone
    refine ih (hs.step hstep) ?_
    obtain ⟨hsame, hnone⟩ | ⟨e', hstep', hshows⟩ := view_step hs hkey hstep
    · rw [hsame, ConfigNetEvent.latest, hnone]
      exact hcurrent
    · rw [← hshows.latest last]
      exact hcurrent.step ⟨hshows.serial hserial, hstep'⟩

theorem broadcast_of_run (hkey : key ≠ "cluster_seeds") (hs : s.Valid)
    {own : Uuid → Set (Option String)} {sent : Set (Option String)}
    (hes : ∀ e ∈ es, e.Within key own sent) (h : Run (Step N) s es t) :
    ∃ es', Run Broadcast.Step (s.view N key) es' (t.view N key) ∧
      ∀ e' ∈ es', e'.Within own sent := by
  induction h with
  | nil s => exact ⟨[], .nil _, fun _ h => absurd h List.not_mem_nil⟩
  | @cons s u t e es hone hrest ih =>
    obtain ⟨he, hes⟩ := List.forall_mem_cons.mp hes
    obtain ⟨es', hrun, hwithin⟩ := ih (hs.step hone) hes
    obtain ⟨hsame, -⟩ | ⟨e', hstep, hshows⟩ := view_step hs hkey hone
    · rw [hsame] at hrun
      exact ⟨es', hrun, hwithin⟩
    · exact ⟨e' :: es', .cons hstep hrun,
        List.forall_mem_cons.mpr ⟨hshows.within own sent he, hwithin⟩⟩

end Runs

/-- Everything about the key can be delivered. -/
theorem exists_quiet (N : Topology) (s : ConfigNet) {guard : ConfigNet → ConfigNetEvent → Prop}
    (hguard : ∀ u d, guard u (.deliver d (.ok ())))
    (hpending : ∀ call ∈ s.pending, call.key ≠ key) :
    ∃ (ds : List Datagram) (t : ConfigNet),
      Run (Guarded guard (Step N)) s (ds.map fun d => .deliver d (.ok ())) t ∧
        t.Quiet N key := by
  -- by the number of changes under way, as an answer is no change
  induction hn : (s.net.filterMap (N.update key)).card generalizing s with
  | zero =>
    refine ⟨[], s, .nil s, hpending, fun d hd => ?_⟩
    refine Option.eq_none_iff_forall_ne_some.mpr fun m hm => ?_
    rw [Multiset.card_eq_zero] at hn
    exact Multiset.notMem_zero m (hn ▸ (Multiset.mem_filterMap _ _).mpr ⟨d, hd, hm⟩)
  | succ n ih =>
    obtain ⟨m, hm⟩ := Multiset.card_pos_iff_exists_mem.mp (by rw [hn]; exact n.succ_pos)
    obtain ⟨d, hd, hupdate⟩ := (Multiset.mem_filterMap _ _).mp hm
    obtain ⟨-, -, -, hdst, -⟩ := update_eq_some hupdate
    have hstep := @Step.deliver N s d m.1 (.ok ()) 0 hd hdst
    have hless := congrArg Multiset.card (Broadcast.filterMap_erase_some hd hupdate)
    rw [Multiset.card_erase_of_mem hm, hn, Nat.pred_succ] at hless
    have hnext : ∀ u, Step N s (.deliver d (.ok ())) u → u.pending = s.pending →
        (u.net.filterMap (N.update key)).card = n → ∃ (ds : List Datagram) (t : ConfigNet),
          Run (Guarded guard (Step N)) s (ds.map fun d => .deliver d (.ok ())) t ∧
            t.Quiet N key := by
      intro u hu hsame hcard
      obtain ⟨ds, t, hrun, hquiet⟩ := ih u (hsame ▸ hpending) hcard
      exact ⟨d :: ds, t, .cons ⟨hguard s d, hu⟩ hrun, hquiet⟩
    exact hnext _ hstep rfl ((congrArg Multiset.card filterMap_answers).trans hless)

theorem lastPropagated_append_deliver (es : List ConfigNetEvent) (ds : List Datagram) :
    lastPropagated key (es ++ ds.map fun d => .deliver d (.ok ())) = lastPropagated key es := by
  rw [lastPropagated, List.foldl_append, ← lastPropagated]
  induction ds with
  | nil => rfl
  | cons d ds ih => exact ih

theorem cluster_propagate {x z : Uuid} {value : String} {written : Except String Unit} :
    ((s.propagate x key value written).node z).cluster = (s.node z).cluster := by
  have hnode : (s.propagate x key value written).node =
      Function.update s.node x ((s.node x).setConfigValue key value written).1 := rfl
  rw [hnode]
  by_cases hz : z = x
  · rw [hz, Function.update_self]
    rfl
  · rw [Function.update_of_ne hz]

theorem pending_propagate {x : Uuid} {value : String} (h : Settable key value) :
    (s.propagate x key value (.ok ())).pending = ⟨x, key, value⟩ ::ₘ s.pending := by
  have hok : ((s.node x).setConfigValue key value (.ok ())).2 = .ok () :=
    RpcState.setConfigValue_ok_iff.mpr ⟨h, rfl⟩
  simp only [propagate, hok]

theorem exists_step_send {call : PropagateCall} (h : call ∈ s.pending) :
    ∃ t, Step N s (.send call) t ∧ t.pending = s.pending.erase call ∧ t.node = s.node := by
  have hreachable : ∃ reachable, ∀ ml, (s.node call.node).cluster = some ml →
      ml.ReachableNodes reachable := by
    cases hcluster : (s.node call.node).cluster with
    | none => exact ⟨[], fun ml h => by cases h⟩
    | some ml =>
      obtain ⟨reachable, hreachable⟩ := ml.exists_reachable
      refine ⟨reachable, fun ml' h => ?_⟩
      obtain rfl := Option.some.inj h
      exact hreachable
  obtain ⟨reachable, hreachable⟩ := hreachable
  exact ⟨_, @Step.send N s call reachable 0 0 h hreachable, rfl, rfl⟩

/-- A call can always be brought to its end. -/
theorem exists_propagated {x : Uuid} {value : String} (hquiet : s.Quiet N key)
    (hsettable : Settable key value)
    (hlist : (s.propagate x key value (.ok ())).Serial N key (.send ⟨x, key, value⟩)) :
    ∃ (ds : List Datagram) (t : ConfigNet), Run (Guarded (Serial N key) (Step N)) s
      ([.propagate x key value (.ok ()), .send ⟨x, key, value⟩] ++
        ds.map fun d => .deliver d (.ok ())) t ∧ t.Quiet N key := by
  have hpending := @pending_propagate s key x value hsettable
  obtain ⟨u, hsend, hpending', -⟩ := @exists_step_send N (s.propagate x key value (.ok ()))
    ⟨x, key, value⟩ (hpending ▸ Multiset.mem_cons_self _ _)
  rw [hpending, Multiset.erase_cons_head] at hpending'
  obtain ⟨ds, t, hrun, hend⟩ :=
    @exists_quiet key N u (Serial N key) (fun _ _ => trivial) (hpending' ▸ hquiet.1)
  exact ⟨ds, t, .cons ⟨fun _ _ => ⟨hquiet, rfl⟩, .propagate⟩ (.cons ⟨hlist, hsend⟩ hrun), hend⟩

end ConfigNet

/- Nodes 1 and 2, each with the other in its list. -/
def pairNodes : Topology where
  ids := {1, 2}
  addr := threeAddr
  nodeAt a := [1, 2].find? fun x => threeAddr x = a
  nodeAt_addr := by
    intro x hx
    obtain rfl | rfl : x = 1 ∨ x = 2 := by simpa using hx
    · decide
    · decide
  mem_of_nodeAt := by
    intro a x h
    simpa using List.mem_of_find?_eq_some h

def pairList (x y : Uuid) : MembershipList :=
  (newNode x).membership.addOrUpdateNode (.newLocal y "node" (threeAddr y) 6565 0) 0

def pairStart : ConfigNet where
  node x :=
    { (LiveNode.start (.new ConfigManager.nodeConfig) none).rpc with
      cluster := some (pairList x (3 - x)) }
  pending := 0
  net := 0

theorem pairStart_entry {x y : Uuid} (h : y ≠ x) : ∃ n, (pairList x y).nodes.lookup y = some n ∧
    n.status.Reachable ∧ n.clusterAddr = threeAddr y ∧
    ∀ k, k ≠ y → (pairList x y).nodes.lookup k = none := by
  have hheard : MembershipList.Heard (newNode x).membership y (threeAddr y) .starting
      (pairList x y) := MembershipList.addOrUpdateNode_heard rfl rfl rfl h
  obtain ⟨n, hn, hstatus, haddr⟩ := hheard.entry
  refine ⟨n, hn, ?_, haddr, fun k hk => hheard.other k hk⟩
  rw [hstatus]
  decide

theorem pairStart_knows {x y : Uuid} (h : y ≠ x) (hy : y ∈ pairNodes.ids) (hxy : 3 - x = y) :
    ConfigNet.Knows pairNodes x y (pairStart.node x) := by
  obtain ⟨n, hn, hreach, haddr, hother⟩ := pairStart_entry h
  have hroute : pairNodes.nodeAt n.clusterAddr = some y := haddr ▸ pairNodes.nodeAt_addr y hy
  refine ⟨pairList x y, hxy ▸ rfl, ?_, fun k n' hn' z hz => ?_, n, hn,
    n.isReachable_of_status hreach, hroute⟩
  · exact congrArg NodeInfo.nodeId MembershipList.addOrUpdateNode_localNode
  · by_cases hk : k = y
    · subst hk
      obtain rfl := Option.some.inj (hn.symm.trans hn')
      exact Option.some.inj (hz.symm.trans hroute)
    · cases (hother k hk).symm.trans hn'

namespace ConfigNet
variable {N : Topology} {s t : ConfigNet} {key : String}

/-- If a key is propagated by one call after the other, and nothing gets lost, then all nodes
show the value of the last call once it has arrived; whether the others can write it to their
files does not matter. -/
theorem propagated_everywhere {es : List ConfigNetEvent} (hkey : key ≠ "cluster_seeds")
    (hpending : s.pending = 0) (hnet : ∀ d ∈ s.net, d.msg.msgType ≠ .configUpdate)
    (hrun : Run (Guarded (Serial N key) (Step N)) s es t) (hquiet : t.Quiet N key)
    {v : Option String} (hlast : lastPropagated key es = some v) (x : Uuid) (hx : x ∈ N.ids) :
    (t.node x).config.getConfigValue key = v := by
  have hstart := quiet_iff_view.mp (@quiet_of_start N s key hpending hnet)
  have hcurrent := current_of_run hkey (valid_of_start hpending hnet)
    (Broadcast.Current.start hstart.1 hstart.2) hrun
  rw [lastPropagated] at hlast
  rw [hlast] at hcurrent
  have hend := quiet_iff_view.mp hquiet
  exact hcurrent.agree hend.1 hend.2 x hx

/-- Node 1 propagates a flag to node 2. -/
theorem propagated_everywhere_pair : ∃ es t,
    Run (Guarded (Serial pairNodes "test_mode") (Step pairNodes)) pairStart es t ∧
      t.Quiet pairNodes "test_mode" ∧
      ∀ x ∈ pairNodes.ids, (t.node x).config.getConfigValue "test_mode" = some "true" := by
  have hsettable : Settable "test_mode" "true" := by decide
  have hquiet : pairStart.Quiet pairNodes "test_mode" :=
    quiet_of_start rfl fun d hd => absurd hd (Multiset.notMem_zero d)
  obtain ⟨ml, hcluster, -, -, n, hn, hreach, haddr⟩ :=
    pairStart_knows (x := 1) (y := 2) (by decide) (by decide) rfl
  obtain ⟨ds, t, hrun, hend⟩ := exists_propagated (x := 1) hquiet hsettable fun _ => by
    refine ⟨ml, cluster_propagate.trans hcluster, fun y hy hne => ?_⟩
    obtain rfl | rfl : y = 1 ∨ y = 2 := by simpa [pairNodes] using hy
    · exact absurd rfl hne
    · exact ⟨n, hn, hreach, haddr⟩
  refine ⟨_, t, hrun, hend, propagated_everywhere (by decide) rfl
    (fun d hd => absurd hd (Multiset.notMem_zero d)) hrun hend ?_⟩
  rw [lastPropagated_append_deliver]
  rfl

/-- Whatever gets lost, is doubled or comes late: what a node shows for a key is what it has
shown at first, or was set on the node itself, or was propagated by a node that has saved it.
In each case the check of the key has passed it. -/
theorem shown_origin {es : List ConfigNetEvent} (hkey : key ≠ "cluster_seeds")
    (hpending : s.pending = 0) (hnet : ∀ d ∈ s.net, d.msg.msgType ≠ .configUpdate)
    (hrun : Run (Step N) s es t) (x : Uuid) :
    (t.node x).config.getConfigValue key = (s.node x).config.getConfigValue key ∨
      ∃ value, Settable key value ∧
        (t.node x).config.getConfigValue key = canonicalValue key value ∧
        ((∃ written, .set x key value written ∈ es ∨ .propagate x key value written ∈ es) ∨
          ∃ y, .propagate y key value (.ok ()) ∈ es) := by
  let own : Uuid → Set (Option String) := fun x =>
    { v | ∃ value, Settable key value ∧ v = canonicalValue key value ∧
      ∃ written, .set x key value written ∈ es ∨ .propagate x key value written ∈ es }
  let sent : Set (Option String) :=
    { v | ∃ value, Settable key value ∧ v = canonicalValue key value ∧
      ∃ y, .propagate y key value (.ok ()) ∈ es }
  have hwithin : ∀ e ∈ es, e.Within key own sent := by
    intro e he
    cases e with
    | set x k value written =>
      intro hk hsettable
      subst hk
      exact ⟨value, hsettable, rfl, written, .inl he⟩
    | propagate x k value written =>
      intro hk hsettable
      subst hk
      refine ⟨⟨value, hsettable, rfl, written, .inr he⟩, fun hwritten => ?_⟩
      subst hwritten
      exact ⟨value, hsettable, rfl, x, he⟩
    | _ => trivial
  obtain ⟨es', hrun', hes'⟩ := broadcast_of_run hkey (valid_of_start hpending hnet) hwithin hrun
  have hstart := quiet_iff_view.mp (@quiet_of_start N s key hpending hnet)
  have hempty : ∀ (net : Multiset (Uuid × Option String)), net = 0 → ∀ m ∈ net, m.2 ∈ sent :=
    fun net h m hm => absurd (h ▸ hm) (Multiset.notMem_zero m)
  obtain hsame | ⟨value, hsettable, hvalue, hown⟩ | ⟨value, hsettable, hvalue, hsent⟩ :=
    Broadcast.origin_of_run hrun' (hempty _ hstart.1) (hempty _ hstart.2) hes' x
  · exact .inl hsame
  · exact .inr ⟨value, hsettable, hvalue, .inl hown⟩
  · exact .inr ⟨value, hsettable, hvalue, .inr hsent⟩

theorem shown_origin_pair : ∃ es t, Run (Step pairNodes) pairStart es t ∧
    (t.node 1).config.getConfigValue "test_mode" = some "true" ∧
    ∀ x, (t.node x).config.getConfigValue "test_mode" =
        (pairStart.node x).config.getConfigValue "test_mode" ∨
      ∃ value, Settable "test_mode" value ∧
        (t.node x).config.getConfigValue "test_mode" = canonicalValue "test_mode" value ∧
        ((∃ written, .set x "test_mode" value written ∈ es ∨
            .propagate x "test_mode" value written ∈ es) ∨
          ∃ y, .propagate y "test_mode" value (.ok ()) ∈ es) := by
  have hrun : Run (Step pairNodes) pairStart [.propagate 1 "test_mode" "true" (.ok ())]
      (pairStart.propagate 1 "test_mode" "true" (.ok ())) := .single .propagate
  exact ⟨_, _, hrun, rfl, shown_origin (by decide) rfl
    (fun d hd => absurd hd (Multiset.notMem_zero d)) hrun⟩

section Swap
variable {es : List ConfigNetEvent} {x y : Uuid}

/-- Nothing about the key is under way until it is propagated. -/
theorem quiet_of_run (hkey : key ≠ "cluster_seeds") (hs : s.Valid) (hquiet : s.Quiet N key)
    (h : Run (Guarded (Linked N key x y) (Step N)) s es t) : t.Valid ∧ t.Quiet N key := by
  refine h.invariant (fun u => u.Valid ∧ u.Quiet N key) (fun u e u' hu hstep => ?_) ⟨hs, hquiet⟩
  refine ⟨hu.1.step hstep.2, quiet_iff_view.mpr ?_⟩
  obtain ⟨hpending, hnet⟩ := quiet_iff_view.mp hu.2
  obtain ⟨hsame, -⟩ | ⟨e', hview, hshows⟩ := view_step hu.1 hkey hstep.2
  · rw [hsame]
    exact ⟨hpending, hnet⟩
  · exact hview.quiet (hshows.linked x y hstep.1) hpending hnet

theorem underway_of_run {v : Option String} (hkey : key ≠ "cluster_seeds") (hs : s.Valid)
    (hview : Broadcast.Underway x v y (s.view N key)) (hes : ∀ e ∈ es, e.Unheard N key y)
    (h : Run (Guarded (Linked N key x y) (Step N)) s es t) :
    t.Valid ∧ Broadcast.Underway x v y (t.view N key) := by
  induction h with
  | nil s => exact ⟨hs, hview⟩
  | @cons s u t e es hone hrest ih =>
    obtain ⟨he, hes⟩ := List.forall_mem_cons.mp hes
    refine ih (hs.step hone.2) ?_ hes
    obtain ⟨hsame, -⟩ | ⟨e', hstep, hshows⟩ := view_step hs hkey hone.2
    · rw [hsame]
      exact hview
    · exact hview.step (hshows.linked x y hone.1) (hshows.unheard y he) hstep

theorem crossed_of_run {v w : Option String} (hkey : key ≠ "cluster_seeds") (hxy : x ≠ y)
    (hs : s.Valid) (hview : Broadcast.Crossed x v y w (s.view N key))
    (h : Run (Guarded (Linked N key x y) (Step N)) s es t) :
    Broadcast.Crossed x v y w (t.view N key) := by
  refine (h.invariant (fun u => u.Valid ∧ Broadcast.Crossed x v y w (u.view N key))
    (fun u e u' hu hstep => ⟨hu.1.step hstep.2, ?_⟩) ⟨hs, hview⟩).2
  obtain ⟨hsame, -⟩ | ⟨e', hstep', hshows⟩ := view_step hu.1 hkey hstep.2
  · rw [hsame]
    exact hu.2
  · exact hu.2.step hxy (hshows.linked x y hstep.1) hstep'

theorem write_of_propagate {value : String} (h : Settable key value) :
    Broadcast.Step (s.view N key) (.write x (canonicalValue key value))
      ((s.propagate x key value (.ok ())).view N key) := by
  rw [view_propagated h]
  exact .write

end Swap

/-- Two nodes propagate a key, and the second has not received the change of the first when it
makes its own. In whatever order the calls send and everything is delivered, they have swapped
their values when nothing is under way. -/
theorem overlapping_calls_swap {s₁ s₂ : ConfigNet} {before between after : List ConfigNetEvent}
    {x y : Uuid} {v w : String} (hkey : key ≠ "cluster_seeds") (hpending : s.pending = 0)
    (hnet : ∀ d ∈ s.net, d.msg.msgType ≠ .configUpdate) (hxy : x ≠ y) (hv : Settable key v)
    (hw : Settable key w) (hbefore : Run (Guarded (Linked N key x y) (Step N)) s before s₁)
    (hbetween : Run (Guarded (Linked N key x y) (Step N)) (s₁.propagate x key v (.ok ()))
      between s₂)
    (hunheard : ∀ e ∈ between, e.Unheard N key y)
    (hafter : Run (Guarded (Linked N key x y) (Step N)) (s₂.propagate y key w (.ok ())) after t)
    (hquiet : t.Quiet N key) :
    (t.node x).config.getConfigValue key = canonicalValue key w ∧
      (t.node y).config.getConfigValue key = canonicalValue key v := by
  obtain ⟨hvalid₁, hquiet₁⟩ := quiet_of_run hkey (valid_of_start hpending hnet)
    (quiet_of_start hpending hnet) hbefore
  obtain ⟨hpending₁, hnet₁⟩ := quiet_iff_view.mp hquiet₁
  obtain ⟨hvalid₂, hunderway⟩ := underway_of_run hkey (hvalid₁.step (N := N) .propagate)
    (.of_write hpending₁ hnet₁ (write_of_propagate hv)) hunheard hbetween
  have hcrossed := crossed_of_run hkey hxy (hvalid₂.step (N := N) .propagate)
    (hunderway.crossed (write_of_propagate hw)) hafter
  obtain ⟨hpending', hnet'⟩ := quiet_iff_view.mp hquiet
  exact ⟨hcrossed.copy_eq hpending' hnet', hcrossed.symm.copy_eq hpending' hnet'⟩

/-- Node 2 propagates a name when that of node 1 is on its way. -/
theorem overlapping_calls_swap_pair : ∃ (ds : List Datagram) (t : ConfigNet),
    Run (Step pairNodes) pairStart
      ([.propagate 1 "node_name" "east" (.ok ()), .send ⟨1, "node_name", "east"⟩,
        .propagate 2 "node_name" "west" (.ok ()), .send ⟨2, "node_name", "west"⟩] ++
          ds.map fun d => .deliver d (.ok ())) t ∧
      (t.node 1).config.getConfigValue "node_name" = some "west" ∧
      (t.node 2).config.getConfigValue "node_name" = some "east" := by
  have heast : Settable "node_name" "east" := by decide
  have hwest : Settable "node_name" "west" := by decide
  let s₁ : ConfigNet := pairStart.propagate 1 "node_name" "east" (.ok ())
  have hpending₁ : s₁.pending = {⟨1, "node_name", "east"⟩} := pending_propagate heast
  obtain ⟨s₂, hsend, hpending₂, hnode₂⟩ := @exists_step_send pairNodes s₁ ⟨1, "node_name", "east"⟩
    (hpending₁ ▸ Multiset.mem_singleton_self _)
  let s₃ : ConfigNet := s₂.propagate 2 "node_name" "west" (.ok ())
  have hpending₃ : s₃.pending = {⟨2, "node_name", "west"⟩} := by
    rw [pending_propagate hwest, hpending₂, hpending₁]
    rfl
  obtain ⟨s₄, hsend', hpending₄, -⟩ := @exists_step_send pairNodes s₃ ⟨2, "node_name", "west"⟩
    (hpending₃ ▸ Multiset.mem_singleton_self _)
  have hnone : s₄.pending = 0 := by
    rw [hpending₄, hpending₃]
    exact Multiset.erase_singleton _
  obtain ⟨ds, t, hrun, hend⟩ := @exists_quiet "node_name" pairNodes s₄
    (Linked pairNodes "node_name" 1 2) (fun _ _ => trivial)
    fun call hcall => absurd (hnone ▸ hcall) (Multiset.notMem_zero call)
  have hknows : Knows pairNodes 1 2 (s₁.node 1) :=
    (pairStart_knows (by decide) (by decide) rfl).of_cluster cluster_propagate
  have hknows' : Knows pairNodes 2 1 (s₃.node 2) :=
    (pairStart_knows (by decide) (by decide) rfl).of_cluster
      (cluster_propagate.trans ((congrArg (fun f => (f 2).cluster) hnode₂).trans cluster_propagate))
  have hfirst : Guarded (Linked pairNodes "node_name" 1 2) (Step pairNodes) s₁
      (.send ⟨1, "node_name", "east"⟩) s₂ :=
    ⟨fun _ => ⟨fun _ => hknows, fun h => absurd h (by decide)⟩, hsend⟩
  have hsecond : Guarded (Linked pairNodes "node_name" 1 2) (Step pairNodes) s₃
      (.send ⟨2, "node_name", "west"⟩) s₄ :=
    ⟨fun _ => ⟨fun h => absurd h (by decide), fun _ => hknows'⟩, hsend'⟩
  refine ⟨ds, t, .cons .propagate (.cons hsend (.cons .propagate (.cons hsend' hrun.of_guarded))),
    overlapping_calls_swap (by decide) rfl (fun d hd => absurd hd (Multiset.notMem_zero d))
      (by decide) heast hwest (.nil _) (.single hfirst) (fun e he => ?_) (.cons hsecond hrun) hend⟩
  rw [List.mem_singleton.mp he]
  trivial

end ConfigNet

end Cluster

end HeadEnd
