import HeadEnd.Cluster.Join
import HeadEnd.Lib.Discovery

/-! Nodes join through seeds, several at a time, and find the rest of the cluster from the
answers. A node that gets a STATUS_RESPONSE sends a NODE_JOIN to every node named in it that
it does not have in its list. -/
namespace HeadEnd.Cluster
open Transition
open Discovery (Msg)

namespace MembershipList

def createNodeJoinPayload (ml : MembershipList) : NodeJoinPayload :=
  ⟨ml.localNode.nodeName, ml.localNode.clusterAddr, ml.localNode.backdoorPort⟩

/-- `id` was heard from: only its entry changes, and it keeps the address that it has. -/
structure Heard (ml : MembershipList) (id : Uuid) (fromAddr : SocketAddr) (status : NodeStatus)
    (ml' : MembershipList) : Prop where
  localNode : ml'.localNode = ml.localNode
  other : ∀ k, k ≠ id → ml'.nodes.lookup k = ml.nodes.lookup k
  entry : ∃ n, ml'.nodes.lookup id = some n ∧ n.status = status ∧
    n.clusterAddr = ((ml.nodes.lookup id).map NodeInfo.clusterAddr).getD fromAddr

section Heard
variable {ml ml' : MembershipList} {id : Uuid} {fromAddr : SocketAddr} {status : NodeStatus}
  {now : Int}

theorem addOrUpdateNode_heard {node : NodeInfo} (hid : node.nodeId = id)
    (haddr : node.clusterAddr = fromAddr) (hstatus : node.status = status)
    (h : id ≠ ml.localNodeId) : Heard ml id fromAddr status (ml.addOrUpdateNode node now) where
  localNode := addOrUpdateNode_localNode
  other := fun k hk => lookup_addOrUpdateNode_of_ne (hid ▸ hk)
  entry := by
    subst hid haddr hstatus
    have hne : ¬ node.nodeId = ml.localNode.nodeId := h
    rw [addOrUpdateNode, dif_neg hne]
    cases hlookup : ml.nodes.lookup node.nodeId with
    | none => exact ⟨node, by rw [if_neg (by simp)]; exact Finmap.lookup_insert _, rfl, rfl⟩
    | some old =>
      rw [if_pos (by rfl), lookup_modify_self, hlookup]
      exact ⟨_, rfl, rfl, rfl⟩

theorem handleHeartbeat_heard {heartbeat : HeartbeatPayload} (h : id ≠ ml.localNodeId) :
    Heard ml id fromAddr heartbeat.status (ml.handleHeartbeat id fromAddr heartbeat now) := by
  have hne : ¬ id = ml.localNode.nodeId := h
  unfold handleHeartbeat
  split
  next hknown =>
    rw [modifyAny, if_neg hne]
    refine ⟨modify_localNode, fun k hk => lookup_modify_of_ne hk, ?_⟩
    rw [getNode, if_neg hne] at hknown
    obtain ⟨n, hn⟩ := Option.isSome_iff_exists.mp hknown
    rw [lookup_modify_self, hn]
    exact ⟨_, rfl, rfl, rfl⟩
  next => exact addOrUpdateNode_heard rfl rfl rfl h

theorem handleNodeJoin_heard {join : NodeJoinPayload} (h : id ≠ ml.localNodeId) :
    Heard ml id ⟨fromAddr.ip, join.clusterAddr.port⟩ .starting
      (ml.handleNodeJoin id fromAddr join now) :=
  addOrUpdateNode_heard rfl rfl rfl h

theorem handleStatusResponse_heard {response : StatusResponsePayload}
    (h : id ≠ ml.localNodeId) :
    Heard ml id fromAddr response.status (ml.handleStatusResponse id fromAddr response now) :=
  have hadd := addOrUpdateNode_heard rfl rfl rfl h
  ⟨hadd.localNode, hadd.other, hadd.entry⟩

/-- A node does not take itself up. -/
theorem handleNodeJoin_self {join : NodeJoinPayload} (h : id = ml.localNodeId) :
    ml.handleNodeJoin id fromAddr join now = ml := dif_pos h

theorem handleStatusResponse_self {response : StatusResponsePayload} (h : id = ml.localNodeId) :
    ml.handleStatusResponse id fromAddr response now = ml.nextSeq :=
  congrArg nextSeq (dif_pos h)

theorem Heard.keys_eq (h : Heard ml id fromAddr status ml') :
    ml'.nodes.keys = insert id ml.nodes.keys := by
  ext k
  rw [Finset.mem_insert, Finmap.mem_keys, Finmap.mem_keys, Finmap.mem_iff, Finmap.mem_iff]
  by_cases hk : k = id
  · obtain ⟨n, hn, -⟩ := h.entry
    exact ⟨fun _ => .inl hk, fun _ => ⟨n, hk ▸ hn⟩⟩
  · rw [h.other k hk]
    exact ⟨.inr, fun hor => hor.resolve_left hk⟩

end Heard

theorem exists_reachable (ml : MembershipList) : ∃ l, ml.ReachableNodes l := by
  obtain ⟨ids, hids⟩ := exists_lists ml.nodes.keys
  have hid : ∀ k n, ml.nodes.lookup k = some n → n.nodeId = k := ml.nodes_keyed
  refine ⟨(ids.filterMap ml.nodes.lookup).filter NodeInfo.isReachable, ?_, fun n => ?_⟩
  · have hsub : ((ids.filterMap ml.nodes.lookup).map NodeInfo.nodeId).Sublist ids := by
      have hmap : (ids.filterMap ml.nodes.lookup).map NodeInfo.nodeId =
          ids.filter fun k => (ml.nodes.lookup k).isSome := by
        rw [List.map_filterMap, ← List.filterMap_eq_filter]
        refine List.filterMap_congr fun k _ => ?_
        cases hk : ml.nodes.lookup k with
        | none => simp [Option.guard, hk]
        | some n => simp [Option.guard, hk, hid k n hk]
      rw [hmap]
      exact List.filter_sublist
    exact hids.1.sublist ((List.filter_sublist.map _).trans hsub)
  · rw [List.mem_filter, List.mem_filterMap]
    constructor
    · intro h
      obtain ⟨⟨k, -, hk⟩, hreach⟩ := h
      rw [hid k n hk]
      exact ⟨hk, hreach⟩
    · intro h
      refine ⟨⟨n.nodeId, hids.mem_iff.mpr ?_, h.1⟩, h.2⟩
      exact Finmap.mem_keys.mpr (Finmap.mem_iff.mpr ⟨n, h.1⟩)

end MembershipList

namespace Survivor

def withMembership (s : Survivor) (ml : MembershipList)
    (h : ml.localNodeId = s.membership.localNodeId) : Survivor :=
  { s with membership := ml, localNodeId_dm := s.localNodeId_dm.trans h.symm }

/-- One message, with one sequence number, goes to all seeds. -/
def joinCluster (s : Survivor) (seeds : List SocketAddr) (now : Int) :
    Survivor × List Outgoing :=
  (s.withMembership s.membership.nextSeq rfl,
    seeds.map fun seed =>
      (seed, s.toServer.message .nodeJoin (.nodeJoin s.membership.createNodeJoinPayload) now))

theorem joinCluster_localNodeId {s : Survivor} {seeds : List SocketAddr} {now : Int} :
    (s.joinCluster seeds now).1.membership.localNodeId = s.membership.localNodeId := rfl

/-- One beat of the heartbeat loop. `known` lists the keys of the map, `reachable` the
reachable nodes. -/
def sendHeartbeat (s : Survivor) (known : List Uuid) (reachable : List NodeInfo) (now : Int) :
    Survivor × List Outgoing :=
  (s.withMembership s.membership.nextSeq rfl,
    reachable.map fun n =>
      (n.clusterAddr,
        s.toServer.message .heartbeat (.heartbeat (s.membership.createHeartbeatPayload known)) now))

theorem sendHeartbeat_localNodeId {s : Survivor} {known : List Uuid} {reachable : List NodeInfo}
    {now : Int} :
    (s.sendHeartbeat known reachable now).1.membership.localNodeId = s.membership.localNodeId :=
  rfl

def handleStatusResponse (s : Survivor) (nodeId : Uuid) (fromAddr : SocketAddr)
    (status : StatusResponsePayload) (now : Int) : Survivor × List Outgoing :=
  let s' := s.withMembership (s.membership.handleStatusResponse nodeId fromAddr status now)
    (congrArg NodeInfo.nodeId MembershipList.addOrUpdateNode_localNode)
  let unknown := status.knownNodes.filter fun known =>
    (s'.membership.getNode known.nodeId).isNone
  (s', unknown.map fun known =>
    (known.clusterAddr, .new s'.membership.localNodeId s'.membership.seqCounter .nodeJoin
      (.nodeJoin s'.membership.createNodeJoinPayload) now))

/-- The three types of message that are sent here. `reachable` lists the reachable nodes after
the sender has been taken up. -/
def handleMessage (T : AddrText) (s : Survivor) (fromAddr : SocketAddr) (msg : ClusterMessage)
    (reachable : List NodeInfo) (now : Int) : Option (Survivor × List Outgoing) :=
  match msg.msgType, msg.payload with
  | .nodeJoin, .nodeJoin join =>
    match s.handleNodeJoin T msg.nodeId fromAddr (.nodeJoin join) reachable now with
    | .ok joined => some (joined.node, joined.sent)
    | .error _ => some (s, [])
  | .statusResponse, .statusResponse status =>
    some (s.handleStatusResponse msg.nodeId fromAddr status now)
  | .heartbeat, .heartbeat heartbeat =>
    some (s.withMembership (s.membership.handleHeartbeat msg.nodeId fromAddr heartbeat now)
      MembershipList.handleHeartbeat_localNodeId, [])
  | _, _ => none

section Handling
variable {s : Survivor} {T : AddrText} {nodeId : Uuid} {fromAddr : SocketAddr}
  {reachable : List NodeInfo} {now : Int} {msg : ClusterMessage} {r : Survivor × List Outgoing}

/-- The sender is in the list by then, or it is the node itself. -/
theorem handleNodeJoin_answer (T : AddrText) (s : Survivor) (nodeId : Uuid)
    (fromAddr : SocketAddr) (join : NodeJoinPayload) (reachable : List NodeInfo) (now : Int) :
    ∃ n seeds, (s.addJoined nodeId fromAddr join now).membership.getNode nodeId = some n ∧
      s.handleNodeJoin T nodeId fromAddr (.nodeJoin join) reachable now =
        .ok ⟨((s.addJoined nodeId fromAddr join now).handleStatusRequest nodeId n.clusterAddr
            reachable now).1, seeds,
          ((s.addJoined nodeId fromAddr join now).handleStatusRequest nodeId n.clusterAddr
            reachable now).2⟩ := by
  have hsome : ((s.addJoined nodeId fromAddr join now).membership.getNode nodeId).isSome := by
    rw [MembershipList.getNode_isSome_iff]
    by_cases hself : nodeId = s.membership.localNodeId
    · have hsame : (s.addJoined nodeId fromAddr join now).membership = s.membership :=
        MembershipList.handleNodeJoin_self hself
      rw [hsame]
      exact .inl hself
    · obtain ⟨n, hn, -⟩ := (MembershipList.handleNodeJoin_heard hself).entry
      exact .inr (Finmap.mem_iff.mpr ⟨n, hn⟩)
  obtain ⟨n, hn⟩ := Option.isSome_iff_exists.mp hsome
  simp only [handleNodeJoin, hn]
  exact ⟨n, _, rfl, rfl⟩

theorem handleMessage_localNodeId
    (h : s.handleMessage T fromAddr msg reachable now = some r) :
    r.1.membership.localNodeId = s.membership.localNodeId := by
  unfold handleMessage at h
  split at h
  next join _ _ =>
    obtain ⟨n, seeds, -, heq⟩ := handleNodeJoin_answer T s msg.nodeId fromAddr join reachable now
    rw [heq] at h
    cases h
    exact congrArg NodeInfo.nodeId MembershipList.addOrUpdateNode_localNode
  next =>
    cases h
    exact congrArg NodeInfo.nodeId MembershipList.addOrUpdateNode_localNode
  next =>
    cases h
    exact MembershipList.handleHeartbeat_localNodeId
  next => cases h

end Handling

end Survivor

/-- The nodes; where the datagrams of each come from; whom a datagram for an address
reaches. -/
structure Topology where
  ids : Finset Uuid
  addr : Uuid → SocketAddr
  nodeAt : SocketAddr → Option Uuid
  nodeAt_addr : ∀ x ∈ ids, nodeAt (addr x) = some x
  mem_of_nodeAt : ∀ a x, nodeAt a = some x → x ∈ ids

/-- Every node and the datagrams under way. -/
structure NetState where
  node : Uuid → Survivor
  net : Multiset Datagram
  localNodeId_node : ∀ x, (node x).membership.localNodeId = x

inductive NetEvent where
  | join (x : Uuid) (seeds : List SocketAddr)
  | heartbeat (x : Uuid)
  | work (x : Uuid)
  | deliver (d : Datagram)
  | duplicate (d : Datagram)
  | lose (d : Datagram)

/-- A node of this status is among the reachable ones. -/
def NodeStatus.Reachable (status : NodeStatus) : Prop := status ≠ .suspect ∧ status ≠ .dead

instance : DecidablePred NodeStatus.Reachable := fun _ => inferInstanceAs (Decidable (_ ∧ _))

theorem NodeInfo.isReachable_of_status (n : NodeInfo) (h : n.status.Reachable) :
    n.isReachable := by
  unfold NodeInfo.isReachable
  split
  next => rfl
  next => rfl
  next => rfl
  next hstatus => exact absurd hstatus h.1
  next hstatus => exact absurd hstatus h.2

namespace NetState

/-- The list of node `x`. -/
def list (s : NetState) (x : Uuid) : MembershipList := (s.node x).membership

/-- `x` has done something and has sent some messages; `net` is under way besides. -/
def act (N : Topology) (s : NetState) (x : Uuid) (r : Survivor × List Outgoing)
    (h : r.1.membership.localNodeId = x) (net : Multiset Datagram) : NetState where
  node := Function.update s.node x r.1
  net := net + Multiset.ofList (r.2.map fun o => ⟨N.addr x, o.1, o.2⟩)
  localNodeId_node := by
    intro y
    by_cases hy : y = x
    · rw [hy, Function.update_self, h]
    · rw [Function.update_of_ne hy, s.localNodeId_node]

/-- Only nodes that are not `members` join, nobody leaves or is suspected, and only heartbeats
get lost. `work` is anything that a node does to its devices and to its own record. -/
inductive Step (N : Topology) (T : AddrText) (members : Finset Uuid) :
    NetState → NetEvent → NetState → Prop
  | join {s : NetState} {x : Uuid} {seeds : List SocketAddr} {now : Int} : x ∈ N.ids →
      x ∉ members →
      Step N T members s (.join x seeds)
        (s.act N x ((s.node x).joinCluster seeds now)
          (Survivor.joinCluster_localNodeId.trans (s.localNodeId_node x)) s.net)
  | heartbeat {s : NetState} {x : Uuid} {known : List Uuid} {reachable : List NodeInfo}
      {now : Int} : x ∈ N.ids → Lists known (s.list x).nodes.keys →
      (s.list x).ReachableNodes reachable →
      Step N T members s (.heartbeat x)
        (s.act N x ((s.node x).sendHeartbeat known reachable now)
          (Survivor.sendHeartbeat_localNodeId.trans (s.localNodeId_node x)) s.net)
  | work {s : NetState} {x : Uuid} {node : Survivor} (h : node.membership.localNodeId = x) :
      x ∈ N.ids → node.membership.nodes = (s.list x).nodes →
      node.membership.localNode.clusterAddr = (s.list x).localNode.clusterAddr →
      node.membership.localNode.status.Reachable →
      Step N T members s (.work x) (s.act N x (node, []) h s.net)
  | deliver {s : NetState} {d : Datagram} {y : Uuid} {reachable : List NodeInfo} {now : Int}
      {r : Survivor × List Outgoing} : d ∈ s.net → N.nodeAt d.dst = some y →
      (hr : (s.node y).handleMessage T d.src d.msg reachable now = some r) →
      r.1.membership.ReachableNodes reachable →
      Step N T members s (.deliver d)
        (s.act N y r ((Survivor.handleMessage_localNodeId hr).trans (s.localNodeId_node y))
          (s.net.erase d))
  | duplicate {s : NetState} {d : Datagram} : d ∈ s.net →
      Step N T members s (.duplicate d) { s with net := d ::ₘ s.net }
  | lose {s : NetState} {d : Datagram} : d ∈ s.net → d.msg.msgType = .heartbeat →
      Step N T members s (.lose d) { s with net := s.net.erase d }

end NetState

/-- The port announced is the one in use, and what is sent to the address announced comes to
the node itself or to nobody. -/
structure OwnRecord (N : Topology) (x : Uuid) (n : NodeInfo) : Prop where
  port : n.clusterAddr.port = (N.addr x).port
  route : ∀ y, N.nodeAt n.clusterAddr = some y → y = x
  reachable : n.status.Reachable

/-- What a datagram carries, `known` being the nodes that its sender has in its list. -/
inductive Datagram.Carries (N : Topology) (known : Finset Uuid) (d : Datagram) : Prop
  | join (p : NodeJoinPayload) : d.msg.msgType = .nodeJoin → d.msg.payload = .nodeJoin p →
      p.clusterAddr.port = (N.addr d.msg.nodeId).port → Carries N known d
  | status (p : StatusResponsePayload) : d.msg.msgType = .statusResponse →
      d.msg.payload = .statusResponse p → p.status.Reachable →
      (p.knownNodes.map KnownNodeInfo.nodeId).Nodup →
      (∀ k ∈ p.knownNodes, k.nodeId ∈ known ∧ k.clusterAddr = N.addr k.nodeId) →
      Carries N known d
  | heartbeat (p : HeartbeatPayload) : d.msg.msgType = .heartbeat → d.msg.payload = .heartbeat p →
      p.status.Reachable → (∃ y ∈ known, N.nodeAt d.dst = some y) → Carries N known d

structure Datagram.Genuine (N : Topology) (s : NetState) (d : Datagram) : Prop where
  source_mem : d.msg.nodeId ∈ N.ids
  src : d.src = N.addr d.msg.nodeId
  carries : d.Carries N (s.list d.msg.nodeId).nodes.keys

/-- Every node has the others at their addresses, and every datagram says what its sender
knows. -/
structure NetState.WellFormed (N : Topology) (s : NetState) : Prop where
  own : ∀ x ∈ N.ids, OwnRecord N x (s.list x).localNode
  entry : ∀ x ∈ N.ids, ∀ k n, (s.list x).nodes.lookup k = some n →
    k ∈ N.ids ∧ n.clusterAddr = N.addr k ∧ n.status.Reachable
  genuine : ∀ d ∈ s.net, d.Genuine N s

/-- A datagram in the terms of the library. What a node sends to itself is left out. -/
def Topology.msg (N : Topology) (d : Datagram) : Option (Msg Uuid) :=
  match N.nodeAt d.dst with
  | none => none
  | some y =>
    if y = d.msg.nodeId then none
    else
      match d.msg.payload with
      | .nodeJoin _ => some (.ask d.msg.nodeId y)
      | .statusResponse p =>
        some (.tell d.msg.nodeId y (p.knownNodes.map KnownNodeInfo.nodeId).toFinset)
      | .heartbeat _ => some (.greet d.msg.nodeId y)
      | _ => none

/-- What a node sends to itself counts until it has been answered. -/
def Topology.selfWeight (N : Topology) (d : Datagram) : ℕ :=
  if N.nodeAt d.dst = some d.msg.nodeId then if d.msg.msgType = .nodeJoin then 2 else 1 else 0

def NetState.view (N : Topology) (s : NetState) : Discovery.State Uuid :=
  ⟨fun x => (s.list x).nodes.keys, s.net.filterMap N.msg⟩

namespace Datagram.Carries
variable {N : Topology} {known known' : Finset Uuid} {d : Datagram}

theorem mono (h : d.Carries N known) (hsub : known ⊆ known') : d.Carries N known' := by
  cases h with
  | join p hm hp hport => exact .join p hm hp hport
  | status p hm hp hstatus hnodup hknown =>
    exact .status p hm hp hstatus hnodup fun k hk => ⟨hsub (hknown k hk).1, (hknown k hk).2⟩
  | heartbeat p hm hp hstatus hdst =>
    obtain ⟨y, hy, hroute⟩ := hdst
    exact .heartbeat p hm hp hstatus ⟨y, hsub hy, hroute⟩

end Datagram.Carries

namespace NetState
variable {N : Topology} {T : AddrText} {members : Finset Uuid} {s t : NetState} {x y : Uuid}
  {r : Survivor × List Outgoing} {h : r.1.membership.localNodeId = x} {net : Multiset Datagram}
  {d : Datagram} {reachable : List NodeInfo} {now : Int}

@[simp] theorem list_act_self : (s.act N x r h net).list x = r.1.membership :=
  congrArg Survivor.membership (Function.update_self ..)

theorem list_act_of_ne (hy : y ≠ x) : (s.act N x r h net).list y = s.list y :=
  congrArg Survivor.membership (Function.update_of_ne hy ..)

theorem localNodeId_notMem : x ∉ (s.list x).nodes.keys := by
  rw [Finmap.mem_keys]
  have hlocal : (s.list x).nodes.lookup (s.list x).localNodeId = none := (s.list x).lookup_local
  have hid : (s.list x).localNodeId = x := s.localNodeId_node x
  rw [hid] at hlocal
  exact Finmap.lookup_eq_none.mp hlocal

namespace WellFormed

/-- A node acts: what it adds to its list and what it sends has to be right. -/
theorem act (hs : s.WellFormed N) (hown : OwnRecord N x r.1.membership.localNode)
    (hentry : ∀ k n, r.1.membership.nodes.lookup k = some n →
      k ∈ N.ids ∧ n.clusterAddr = N.addr k ∧ n.status.Reachable)
    (hmono : (s.list x).nodes.keys ⊆ r.1.membership.nodes.keys) (hnet : ∀ d ∈ net, d ∈ s.net)
    (hx : x ∈ N.ids)
    (hsent : ∀ o ∈ r.2, o.2.nodeId = x ∧
      Datagram.Carries N r.1.membership.nodes.keys ⟨N.addr x, o.1, o.2⟩) :
    (s.act N x r h net).WellFormed N where
  own := by
    intro y hy
    by_cases hyx : y = x
    · rw [hyx, list_act_self]
      exact hown
    · rw [list_act_of_ne hyx]
      exact hs.own y hy
  entry := by
    intro y hy
    by_cases hyx : y = x
    · rw [hyx, list_act_self]
      exact hentry
    · rw [list_act_of_ne hyx]
      exact hs.entry y hy
  genuine := by
    intro d hd
    cases Multiset.mem_add.mp hd with
    | inl hd =>
      obtain ⟨hmem, hsrc, hcarries⟩ := hs.genuine d (hnet d hd)
      refine ⟨hmem, hsrc, hcarries.mono ?_⟩
      by_cases hyx : d.msg.nodeId = x
      · rw [hyx, list_act_self]
        exact hmono
      · rw [list_act_of_ne hyx]
    | inr hd =>
      obtain ⟨o, ho, rfl⟩ := List.mem_map.mp (Multiset.mem_coe.mp hd)
      obtain ⟨hid, hcarries⟩ := hsent o ho
      refine ⟨hid ▸ hx, by rw [hid], ?_⟩
      rw [hid, list_act_self]
      exact hcarries

theorem withNet (hs : s.WellFormed N) (hnet : ∀ d ∈ net, d ∈ s.net) :
    { s with net := net }.WellFormed N where
  own := hs.own
  entry := hs.entry
  genuine := fun d hd =>
    have hgen := hs.genuine d (hnet d hd)
    ⟨hgen.source_mem, hgen.src, hgen.carries⟩

/-- Who was heard from is listed at its address. -/
theorem entry_of_heard (hs : s.WellFormed N) (hy : y ∈ N.ids) (hx : x ∈ N.ids)
    {ml : MembershipList} {status : NodeStatus} (hstatus : status.Reachable)
    (hheard : (s.list y).Heard x (N.addr x) status ml) (k : Uuid) (n : NodeInfo)
    (hn : ml.nodes.lookup k = some n) :
    k ∈ N.ids ∧ n.clusterAddr = N.addr k ∧ n.status.Reachable := by
  by_cases hk : k = x
  · subst hk
    obtain ⟨n', hn', hst, haddr⟩ := hheard.entry
    obtain rfl := Option.some.inj (hn.symm.trans hn')
    refine ⟨hx, ?_, hst ▸ hstatus⟩
    rw [haddr]
    cases hold : (s.list y).nodes.lookup k with
    | none => rfl
    | some old => exact (hs.entry y hy k old hold).2.1
  · rw [hheard.other k hk] at hn
    exact hs.entry y hy k n hn

/-- All entries are reachable, so the list of reachable nodes names them all. -/
theorem reachable_iff {ml : MembershipList}
    (hentry : ∀ k n, ml.nodes.lookup k = some n →
      k ∈ N.ids ∧ n.clusterAddr = N.addr k ∧ n.status.Reachable)
    (hreach : ml.ReachableNodes reachable) {k : Uuid} :
    k ∈ reachable.map NodeInfo.nodeId ↔ k ∈ ml.nodes.keys := by
  rw [List.mem_map, Finmap.mem_keys, Finmap.mem_iff]
  constructor
  · intro h
    obtain ⟨n, hn, rfl⟩ := h
    exact ⟨n, ((hreach.2 n).mp hn).1⟩
  · intro h
    obtain ⟨n, hn⟩ := h
    have hid : n.nodeId = k := ml.nodes_keyed k n hn
    obtain ⟨-, -, hstatus⟩ := hentry k n hn
    exact ⟨n, (hreach.2 n).mpr ⟨hid.symm ▸ hn, n.isReachable_of_status hstatus⟩, hid⟩

end WellFormed

/-- What handling a genuine datagram does to the list of the node that it reaches. -/
theorem handled_list (hd : d.Genuine N s) (hdst : N.nodeAt d.dst = some y)
    (hr : (s.node y).handleMessage T d.src d.msg reachable now = some r) :
    r.1.membership.localNode = (s.list y).localNode ∧
      (d.msg.nodeId = y → r.1.membership.nodes = (s.list y).nodes) ∧
      (d.msg.nodeId ≠ y → ∃ status : NodeStatus, status.Reachable ∧
        (s.list y).Heard d.msg.nodeId (N.addr d.msg.nodeId) status r.1.membership) := by
  have hlocal : (s.node y).membership.localNodeId = y := s.localNodeId_node y
  have hsrc := hd.src
  unfold Survivor.handleMessage at hr
  cases hd.carries with
  | join p hm hp hport =>
    obtain ⟨n, seeds, -, heq⟩ :=
      Survivor.handleNodeJoin_answer T (s.node y) d.msg.nodeId d.src p reachable now
    simp only [hm, hp, heq, Option.some.injEq] at hr
    subst hr
    refine ⟨MembershipList.addOrUpdateNode_localNode, fun hself => ?_, fun hne => ?_⟩
    · have hsame : (s.list y).handleNodeJoin d.msg.nodeId d.src p now = s.list y :=
        MembershipList.handleNodeJoin_self (hself.trans hlocal.symm)
      have hnodes := congrArg MembershipList.nodes hsame
      exact hnodes
    · have haddr : (⟨d.src.ip, p.clusterAddr.port⟩ : SocketAddr) = N.addr d.msg.nodeId := by
        rw [hport, hsrc]
      have hheard : (s.list y).Heard d.msg.nodeId ⟨d.src.ip, p.clusterAddr.port⟩ .starting
          ((s.list y).handleNodeJoin d.msg.nodeId d.src p now) :=
        MembershipList.handleNodeJoin_heard (hlocal.symm ▸ hne)
      rw [← haddr]
      exact ⟨.starting, by decide, hheard.localNode, hheard.other, hheard.entry⟩
  | status p hm hp hstatus hnodup hknown =>
    simp only [hm, hp, Option.some.injEq] at hr
    subst hr
    refine ⟨MembershipList.addOrUpdateNode_localNode, fun hself => ?_, fun hne => ?_⟩
    · have hsame : (s.list y).handleStatusResponse d.msg.nodeId d.src p now =
          (s.list y).nextSeq := MembershipList.handleStatusResponse_self (hself.trans hlocal.symm)
      have hnodes := congrArg MembershipList.nodes hsame
      exact hnodes
    · rw [← hsrc]
      exact ⟨p.status, hstatus, MembershipList.handleStatusResponse_heard (hlocal.symm ▸ hne)⟩
  | heartbeat p hm hp hstatus hdst' =>
    -- a node has others in its list only, so it greets others only
    have hne : d.msg.nodeId ≠ y := by
      obtain ⟨z, hz, hroute⟩ := hdst'
      obtain rfl := Option.some.inj (hdst.symm.trans hroute)
      intro heq
      rw [heq] at hz
      exact localNodeId_notMem hz
    simp only [hm, hp, Option.some.injEq] at hr
    subst hr
    have hheard : (s.list y).Heard d.msg.nodeId d.src p.status
        ((s.list y).handleHeartbeat d.msg.nodeId d.src p now) :=
      MembershipList.handleHeartbeat_heard (hlocal.symm ▸ hne)
    rw [← hsrc]
    exact ⟨hheard.localNode, fun hself => absurd hself hne, fun _ => ⟨p.status, hstatus, hheard⟩⟩

/-- What a node whose list is `ml` by then sends because of a datagram. -/
inductive Reply (ml : MembershipList) (reachable : List NodeInfo) (d : Datagram) (now : Int) :
    List Outgoing → Prop
  | answer {join : NodeJoinPayload} {p : StatusResponsePayload} {n : NodeInfo} :
      d.msg.payload = .nodeJoin join → ml.getNode d.msg.nodeId = some n →
      p.status = ml.localNode.status →
      p.knownNodes = (reachable.filter fun n => n.nodeId ≠ d.msg.nodeId).map NodeInfo.known →
      Reply ml reachable d now
        [(n.clusterAddr, .new ml.localNodeId ml.seqCounter .statusResponse (.statusResponse p) now)]
  | joins {p : StatusResponsePayload} : d.msg.payload = .statusResponse p →
      Reply ml reachable d now
        ((p.knownNodes.filter fun k => (ml.getNode k.nodeId).isNone).map fun k =>
          (k.clusterAddr, .new ml.localNodeId ml.seqCounter .nodeJoin
            (.nodeJoin ml.createNodeJoinPayload) now))
  | silent {p : HeartbeatPayload} : d.msg.payload = .heartbeat p → Reply ml reachable d now []

theorem handled_reply (hd : d.Genuine N s)
    (hr : (s.node y).handleMessage T d.src d.msg reachable now = some r) :
    Reply r.1.membership reachable d now r.2 := by
  unfold Survivor.handleMessage at hr
  cases hd.carries with
  | join p hm hp hport =>
    obtain ⟨n, seeds, hn, heq⟩ :=
      Survivor.handleNodeJoin_answer T (s.node y) d.msg.nodeId d.src p reachable now
    simp only [hm, hp, heq, Option.some.injEq] at hr
    subst hr
    exact .answer hp hn rfl rfl
  | status p hm hp hstatus hnodup hknown =>
    simp only [hm, hp, Option.some.injEq] at hr
    subst hr
    exact .joins hp
  | heartbeat p hm hp hstatus hdst =>
    simp only [hm, hp, Option.some.injEq] at hr
    subst hr
    exact .silent hp

theorem entry_of_handled (hs : s.WellFormed N) (hd : d.Genuine N s)
    (hdst : N.nodeAt d.dst = some y)
    (hr : (s.node y).handleMessage T d.src d.msg reachable now = some r) (k : Uuid) (n : NodeInfo)
    (hn : r.1.membership.nodes.lookup k = some n) :
    k ∈ N.ids ∧ n.clusterAddr = N.addr k ∧ n.status.Reachable := by
  have hy : y ∈ N.ids := N.mem_of_nodeAt _ _ hdst
  obtain ⟨-, hself, hother⟩ := handled_list hd hdst hr
  by_cases hne : d.msg.nodeId = y
  · rw [hself hne] at hn
    exact hs.entry y hy k n hn
  · obtain ⟨status, hstatus, hheard⟩ := hother hne
    exact hs.entry_of_heard hy hd.source_mem hstatus hheard k n hn

theorem keys_of_handled (hd : d.Genuine N s) (hdst : N.nodeAt d.dst = some y)
    (hr : (s.node y).handleMessage T d.src d.msg reachable now = some r) :
    r.1.membership.nodes.keys =
      if d.msg.nodeId = y then (s.list y).nodes.keys
      else insert d.msg.nodeId (s.list y).nodes.keys := by
  obtain ⟨-, hself, hother⟩ := handled_list hd hdst hr
  split
  next h => rw [hself h]
  next h =>
    obtain ⟨status, -, hheard⟩ := hother h
    exact hheard.keys_eq

theorem own_of_handled (hs : s.WellFormed N) (hd : d.Genuine N s)
    (hdst : N.nodeAt d.dst = some y)
    (hr : (s.node y).handleMessage T d.src d.msg reachable now = some r) :
    OwnRecord N y r.1.membership.localNode := by
  rw [(handled_list hd hdst hr).1]
  exact hs.own y (N.mem_of_nodeAt _ _ hdst)

theorem carries_of_reply {ml : MembershipList} {out : List Outgoing}
    (hown : OwnRecord N y ml.localNode) (hlocal : ml.localNodeId = y)
    (hentry : ∀ k n, ml.nodes.lookup k = some n →
      k ∈ N.ids ∧ n.clusterAddr = N.addr k ∧ n.status.Reachable)
    (hreach : ml.ReachableNodes reachable) (h : Reply ml reachable d now out) :
    ∀ o ∈ out, o.2.nodeId = y ∧ Datagram.Carries N ml.nodes.keys ⟨N.addr y, o.1, o.2⟩ := by
  intro o ho
  cases h with
  | @answer join p n hp hn hstatus hknown =>
    obtain rfl := List.mem_singleton.mp ho
    have hids : (p.knownNodes.map KnownNodeInfo.nodeId) =
        (reachable.filter fun n => n.nodeId ≠ d.msg.nodeId).map NodeInfo.nodeId := by
      rw [hknown, List.map_map]
      rfl
    refine ⟨hlocal, .status p rfl rfl (hstatus ▸ hown.reachable) ?_ fun k hk => ?_⟩
    · rw [hids]
      exact hreach.1.sublist (List.filter_sublist.map _)
    · rw [hknown] at hk
      obtain ⟨n, hn, rfl⟩ := List.mem_map.mp hk
      have hlookup := ((hreach.2 n).mp (List.mem_of_mem_filter hn)).1
      exact ⟨Finmap.mem_keys.mpr (Finmap.mem_iff.mpr ⟨n, hlookup⟩), (hentry _ n hlookup).2.1⟩
  | @joins p hp =>
    obtain ⟨k, hk, rfl⟩ := List.mem_map.mp ho
    refine ⟨hlocal, .join _ rfl rfl ?_⟩
    have hid : (ClusterMessage.new ml.localNodeId ml.seqCounter .nodeJoin
        (.nodeJoin ml.createNodeJoinPayload) now).nodeId = y := hlocal
    rw [hid]
    exact hown.port
  | silent hp => cases ho

namespace WellFormed

theorem step (hs : s.WellFormed N) {e : NetEvent} (h : Step N T members s e t) :
    t.WellFormed N := by
  cases h with
  | @join x seeds now hx hnew =>
    refine hs.act (hs.own x hx) (hs.entry x hx) subset_rfl (fun _ hd => hd) hx fun o ho => ?_
    obtain ⟨a, -, rfl⟩ := List.mem_map.mp ho
    have hid : ((s.node x).toServer.message .nodeJoin
        (.nodeJoin (s.node x).membership.createNodeJoinPayload) now).nodeId = x :=
      s.localNodeId_node x
    refine ⟨hid, .join _ rfl rfl ?_⟩
    rw [hid]
    exact (hs.own x hx).port
  | @heartbeat x known reachable now hx hknown hreach =>
    refine hs.act (hs.own x hx) (hs.entry x hx) subset_rfl (fun _ hd => hd) hx fun o ho => ?_
    obtain ⟨n, hn, rfl⟩ := List.mem_map.mp ho
    have hlookup := ((hreach.2 n).mp hn).1
    obtain ⟨hmem, haddr, -⟩ := hs.entry x hx _ n hlookup
    refine ⟨s.localNodeId_node x, .heartbeat _ rfl rfl (hs.own x hx).reachable
      ⟨n.nodeId, Finmap.mem_keys.mpr (Finmap.mem_iff.mpr ⟨n, hlookup⟩), ?_⟩⟩
    rw [haddr]
    exact N.nodeAt_addr _ hmem
  | @work x node hid hx hnodes haddr hstatus =>
    refine hs.act ?_ ?_ ?_ (fun _ hd => hd) hx fun o ho => absurd ho List.not_mem_nil
    · obtain ⟨hport, hroute, -⟩ := hs.own x hx
      refine ⟨?_, ?_, hstatus⟩
      · rw [haddr]
        exact hport
      · rw [haddr]
        exact hroute
    · rw [hnodes]
      exact hs.entry x hx
    · rw [hnodes]
  | @deliver d y reachable now r hd hdst hr hreach =>
    have hgen := hs.genuine d hd
    have hy : y ∈ N.ids := N.mem_of_nodeAt _ _ hdst
    have hown := own_of_handled hs hgen hdst hr
    have hentry := entry_of_handled hs hgen hdst hr
    refine hs.act hown hentry ?_ (fun _ hd => Multiset.mem_of_mem_erase hd) hy
      (carries_of_reply hown ?_ hentry hreach (handled_reply hgen hr))
    · rw [keys_of_handled hgen hdst hr]
      split
      next => exact subset_rfl
      next => exact Finset.subset_insert _ _
    · exact (Survivor.handleMessage_localNodeId hr).trans (s.localNodeId_node y)
  | duplicate hd =>
    refine hs.withNet fun d' hd' => ?_
    cases Multiset.mem_cons.mp hd' with
    | inl heq => exact heq ▸ hd
    | inr hd' => exact hd'
  | lose hd hm => exact hs.withNet fun d' hd' => Multiset.mem_of_mem_erase hd'

end WellFormed

section View

theorem view_act : (s.act N x r h net).view N =
    ⟨Function.update (s.view N).known x r.1.membership.nodes.keys,
      net.filterMap N.msg +
        Multiset.ofList (r.2.filterMap fun o => N.msg ⟨N.addr x, o.1, o.2⟩)⟩ := by
  have hknown : (fun y => ((s.act N x r h net).list y).nodes.keys) =
      Function.update (s.view N).known x r.1.membership.nodes.keys := by
    funext y
    by_cases hy : y = x
    · rw [hy, list_act_self, Function.update_self]
    · rw [list_act_of_ne hy, Function.update_of_ne hy]
      rfl
  have hnet : (s.act N x r h net).net.filterMap N.msg = net.filterMap N.msg +
      Multiset.ofList (r.2.filterMap fun o => N.msg ⟨N.addr x, o.1, o.2⟩) := by
    rw [act, Multiset.filterMap_add, Multiset.filterMap_coe, List.filterMap_map]
    rfl
  rw [view, hknown, hnet]

theorem view_withNet {msgs : Multiset (Msg Uuid)} (hnet : net.filterMap N.msg = msgs) :
    ({ s with net := net } : NetState).view N = { s.view N with net := msgs } :=
  congrArg (Discovery.State.mk _) hnet

theorem view_net_erase {m : Msg Uuid} (hd : d ∈ s.net) (hm : N.msg d = some m) :
    (s.net.erase d).filterMap N.msg = (s.view N).net.erase m := by
  have hcons : (s.view N).net = m ::ₘ (s.net.erase d).filterMap N.msg := by
    rw [← Multiset.filterMap_cons_some _ _ _ hm, Multiset.cons_erase hd]
    rfl
  rw [hcons, Multiset.erase_cons_head]

theorem view_net_erase_none (hd : d ∈ s.net) (hm : N.msg d = none) :
    (s.net.erase d).filterMap N.msg = (s.view N).net := by
  rw [← Multiset.filterMap_cons_none _ _ hm, Multiset.cons_erase hd]
  rfl

theorem mem_view_net {m : Msg Uuid} (hd : d ∈ s.net) (hm : N.msg d = some m) :
    m ∈ (s.view N).net :=
  (Multiset.mem_filterMap _ _).mpr ⟨d, hd, hm⟩

theorem msg_self (hdst : N.nodeAt d.dst = some d.msg.nodeId) : N.msg d = none := by
  simp [Topology.msg, hdst]

theorem greet_of_heartbeat {m : Msg Uuid} (hd : d.Genuine N s)
    (htype : d.msg.msgType = .heartbeat) (hm : N.msg d = some m) : ∃ x y, m = .greet x y := by
  cases hd.carries with
  | join p hm' hp => cases htype.symm.trans hm'
  | status p hm' hp => cases htype.symm.trans hm'
  | heartbeat p hm' hp =>
    simp only [Topology.msg, hp] at hm
    split at hm
    next => cases hm
    next y _ =>
      split at hm
      next => cases hm
      next => exact ⟨d.msg.nodeId, y, (Option.some.inj hm).symm⟩

theorem view_join {seeds : List SocketAddr} (hx : x ∈ N.ids) (hnew : x ∉ members)
    (h : ((s.node x).joinCluster seeds now).1.membership.localNodeId = x) :
    ∃ targets : Multiset Uuid, Discovery.Step N.ids members (s.view N) (.start x targets)
        ((s.act N x ((s.node x).joinCluster seeds now) h s.net).view N) ∧
      ∀ a ∈ seeds, ∀ m, N.nodeAt a = some m → m ≠ x → m ∈ targets := by
  let targets := seeds.filterMap fun a => (N.nodeAt a).filter (· ≠ x)
  have hid : ((s.node x).toServer.message .nodeJoin
      (.nodeJoin (s.node x).membership.createNodeJoinPayload) now).nodeId = x :=
    s.localNodeId_node x
  have hmem : ∀ y, y ∈ targets ↔ ∃ a ∈ seeds, N.nodeAt a = some y ∧ y ≠ x := by
    intro y
    simp [targets, List.mem_filterMap, Option.filter_eq_some_iff]
  have hsent : (((s.node x).joinCluster seeds now).2.filterMap fun o =>
      N.msg ⟨N.addr x, o.1, o.2⟩) = targets.map (.ask x) := by
    rw [Survivor.joinCluster, List.filterMap_map, List.map_filterMap]
    refine List.filterMap_congr fun a _ => ?_
    simp only [Function.comp, Topology.msg, hid]
    cases N.nodeAt a with
    | none => rfl
    | some y =>
      by_cases hy : y = x
      · simp [hy]
      · simp [hy, Server.message, ClusterMessage.new]
  refine ⟨targets, ?_, fun a ha m hm hne => (hmem m).mpr ⟨a, ha, hm, hne⟩⟩
  rw [view_act, hsent]
  have hkeys : Function.update (s.view N).known x
      ((s.node x).joinCluster seeds now).1.membership.nodes.keys = (s.view N).known :=
    Function.update_eq_self x _
  rw [hkeys, ← Multiset.map_coe (Msg.ask x)]
  refine .start hx hnew fun y hy => ?_
  obtain ⟨a, -, hroute, hne⟩ := (hmem y).mp hy
  exact ⟨N.mem_of_nodeAt a y hroute, hne⟩

theorem view_heartbeat (hs : s.WellFormed N) {known : List Uuid} (hx : x ∈ N.ids)
    (hreach : (s.list x).ReachableNodes reachable)
    (h : ((s.node x).sendHeartbeat known reachable now).1.membership.localNodeId = x) :
    Discovery.Step N.ids members (s.view N)
      (.salute x (Multiset.ofList (reachable.map NodeInfo.nodeId)))
      ((s.act N x ((s.node x).sendHeartbeat known reachable now) h s.net).view N) := by
  have hid : ((s.node x).toServer.message .heartbeat
      (.heartbeat ((s.node x).membership.createHeartbeatPayload known)) now).nodeId = x :=
    s.localNodeId_node x
  have hmem : ∀ n ∈ reachable, n.nodeId ∈ (s.list x).nodes.keys := by
    intro n hn
    exact Finmap.mem_keys.mpr (Finmap.mem_iff.mpr ⟨n, ((hreach.2 n).mp hn).1⟩)
  have hsent : (((s.node x).sendHeartbeat known reachable now).2.filterMap fun o =>
      N.msg ⟨N.addr x, o.1, o.2⟩) = (reachable.map NodeInfo.nodeId).map (.greet x) := by
    rw [Survivor.sendHeartbeat, List.filterMap_map, List.map_map, ← List.filterMap_eq_map]
    refine List.filterMap_congr fun n hn => ?_
    obtain ⟨hids, haddr, -⟩ := hs.entry x hx _ n ((hreach.2 n).mp hn).1
    have hne : n.nodeId ≠ x := fun heq => localNodeId_notMem (heq ▸ hmem n hn)
    simp only [Function.comp, Topology.msg, hid, haddr, N.nodeAt_addr _ hids, if_neg hne]
    rfl
  rw [view_act, hsent]
  have hkeys : Function.update (s.view N).known x
      ((s.node x).sendHeartbeat known reachable now).1.membership.nodes.keys = (s.view N).known :=
    Function.update_eq_self x _
  rw [hkeys, ← Multiset.map_coe (Msg.greet x)]
  refine .salute hx fun y hy => ?_
  obtain ⟨n, hn, rfl⟩ := List.mem_map.mp (Multiset.mem_coe.mp hy)
  exact hmem n hn

theorem learn_handled (hd : d.Genuine N s) (hdst : N.nodeAt d.dst = some y)
    (hr : (s.node y).handleMessage T d.src d.msg reachable now = some r) (hne : d.msg.nodeId ≠ y)
    {m : Msg Uuid} (hsource : m.source = d.msg.nodeId) (htarget : m.target = y) :
    (s.view N).learn m = Function.update (s.view N).known y r.1.membership.nodes.keys := by
  rw [Discovery.State.learn, hsource, htarget, keys_of_handled hd hdst hr, if_neg hne]
  rfl

theorem sent_answer {ml : MembershipList} {p : StatusResponsePayload} {n : NodeInfo}
    (hlocal : ml.localNodeId = y) (hne : x ≠ y)
    (hentry : ∀ k n, ml.nodes.lookup k = some n →
      k ∈ N.ids ∧ n.clusterAddr = N.addr k ∧ n.status.Reachable)
    (hreach : ml.ReachableNodes reachable) (hn : ml.getNode x = some n)
    (hknown : p.knownNodes = (reachable.filter fun n => n.nodeId ≠ x).map NodeInfo.known) :
    N.msg ⟨N.addr y, n.clusterAddr,
        .new ml.localNodeId ml.seqCounter .statusResponse (.statusResponse p) now⟩ =
      some (.tell y x (ml.nodes.keys.erase x)) := by
  have hlookup : ml.nodes.lookup x = some n := by
    rwa [MembershipList.getNode, if_neg fun heq => hne (heq.trans hlocal)] at hn
  obtain ⟨hids, haddr, -⟩ := hentry x n hlookup
  have hnames : (p.knownNodes.map KnownNodeInfo.nodeId).toFinset = ml.nodes.keys.erase x := by
    ext k
    rw [hknown, List.mem_toFinset, List.map_map, Finset.mem_erase,
      ← WellFormed.reachable_iff hentry hreach, List.mem_map, List.mem_map]
    constructor
    · intro hk
      obtain ⟨n, hn, rfl⟩ := hk
      obtain ⟨hmem, hnx⟩ := List.mem_filter.mp hn
      exact ⟨of_decide_eq_true hnx, n, hmem, rfl⟩
    · intro hk
      obtain ⟨hkx, n, hmem, rfl⟩ := hk
      exact ⟨n, List.mem_filter.mpr ⟨hmem, decide_eq_true hkx⟩, rfl⟩
  simp only [Topology.msg, haddr, N.nodeAt_addr x hids, ClusterMessage.new, hlocal, if_neg hne,
    hnames]

theorem sent_joins {ml : MembershipList} {p : StatusResponsePayload} {known : Finset Uuid}
    (hlocal : ml.localNodeId = y) (hids : known ⊆ N.ids)
    (hnodup : (p.knownNodes.map KnownNodeInfo.nodeId).Nodup)
    (hknown : ∀ k ∈ p.knownNodes, k.nodeId ∈ known ∧ k.clusterAddr = N.addr k.nodeId) :
    Multiset.ofList
        (((p.knownNodes.filter fun k => (ml.getNode k.nodeId).isNone).map fun k =>
          ((k.clusterAddr, .new ml.localNodeId ml.seqCounter .nodeJoin
            (.nodeJoin ml.createNodeJoinPayload) now) : Outgoing)).filterMap
          fun o => N.msg ⟨N.addr y, o.1, o.2⟩) =
      ((((p.knownNodes.map KnownNodeInfo.nodeId).toFinset \ ml.nodes.keys).erase y).val).map
        (Msg.ask y) := by
  have hmem : ∀ k, (ml.getNode k).isNone ↔ k ≠ y ∧ k ∉ ml.nodes.keys := by
    intro k
    rw [← Option.not_isSome_iff_eq_none.trans Option.isNone_iff_eq_none.symm,
      MembershipList.getNode_isSome_iff, hlocal, Finmap.mem_keys, not_or]
  have hmsgs : (((p.knownNodes.filter fun k => (ml.getNode k.nodeId).isNone).map fun k =>
        ((k.clusterAddr, .new ml.localNodeId ml.seqCounter .nodeJoin
          (.nodeJoin ml.createNodeJoinPayload) now) : Outgoing)).filterMap
        fun o => N.msg ⟨N.addr y, o.1, o.2⟩) =
      ((p.knownNodes.filter fun k => (ml.getNode k.nodeId).isNone).map
        KnownNodeInfo.nodeId).map (Msg.ask y) := by
    rw [List.filterMap_map, List.map_map, ← List.filterMap_eq_map]
    refine List.filterMap_congr fun k hk => ?_
    obtain ⟨hk, hnone⟩ := List.mem_filter.mp hk
    obtain ⟨hmemk, haddr⟩ := hknown k hk
    have hne : k.nodeId ≠ y := ((hmem k.nodeId).mp hnone).1
    simp only [Function.comp, Topology.msg, haddr, N.nodeAt_addr _ (hids hmemk),
      ClusterMessage.new, hlocal, if_neg hne]
  rw [hmsgs, ← Multiset.map_coe (Msg.ask y)]
  congr 1
  refine (Multiset.Nodup.ext ?_ (Finset.nodup _)).mpr fun k => ?_
  · exact Multiset.coe_nodup.mpr (hnodup.sublist (List.filter_sublist.map _))
  · rw [Multiset.mem_coe, Finset.mem_val, Finset.mem_erase, Finset.mem_sdiff, List.mem_toFinset,
      List.mem_map, List.mem_map]
    constructor
    · intro h
      obtain ⟨n, hn, rfl⟩ := h
      obtain ⟨hmemn, hnone⟩ := List.mem_filter.mp hn
      obtain ⟨hne, hnew⟩ := (hmem n.nodeId).mp hnone
      exact ⟨hne, ⟨n, hmemn, rfl⟩, hnew⟩
    · intro h
      obtain ⟨hne, ⟨n, hmemn, rfl⟩, hnew⟩ := h
      exact ⟨n, List.mem_filter.mpr ⟨hmemn, (hmem n.nodeId).mpr ⟨hne, hnew⟩⟩, rfl⟩

/-- A datagram from another node arrives: in the view, its message is received. -/
theorem view_deliver (hs : s.WellFormed N) (hd : d ∈ s.net) (hdst : N.nodeAt d.dst = some y)
    (hr : (s.node y).handleMessage T d.src d.msg reachable now = some r)
    (hreach : r.1.membership.ReachableNodes reachable) (hne : d.msg.nodeId ≠ y)
    (h : r.1.membership.localNodeId = y) :
    ∃ m ∈ (s.view N).net, (s.act N y r h (s.net.erase d)).view N = (s.view N).receive m := by
  have hgen := hs.genuine d hd
  have hentry := entry_of_handled hs hgen hdst hr
  have hreply := handled_reply hgen hr
  have hroute : ¬ y = d.msg.nodeId := fun heq => hne heq.symm
  -- what remains to be shown is that what is sent is what the library sends
  have main : ∀ m, N.msg d = some m → m.source = d.msg.nodeId → m.target = y →
      Multiset.ofList (r.2.filterMap fun o => N.msg ⟨N.addr y, o.1, o.2⟩) =
        Discovery.State.sends ((s.view N).learn m) m →
      ∃ m ∈ (s.view N).net, (s.act N y r h (s.net.erase d)).view N = (s.view N).receive m := by
    intro m hm hsource htarget hsends
    refine ⟨m, mem_view_net hd hm, ?_⟩
    rw [view_act, view_net_erase hd hm, hsends, ← learn_handled hgen hdst hr hne hsource htarget]
    rfl
  cases hgen.carries with
  | join p hm hp hport =>
    have hmsg : N.msg d = some (.ask d.msg.nodeId y) := by
      simp only [Topology.msg, hdst, if_neg hroute, hp]
    refine main _ hmsg rfl rfl ?_
    generalize r.2 = out at hreply
    cases hreply with
    | @answer join p n hp' hn hstatus hknown =>
      rw [learn_handled hgen hdst hr hne rfl rfl]
      simp only [List.filterMap_cons, List.filterMap_nil,
        sent_answer h hne hentry hreach hn hknown, Discovery.State.sends, Function.update_self]
      rfl
    | joins hp' => cases hp.symm.trans hp'
    | silent hp' => cases hp.symm.trans hp'
  | status p hm hp hstatus hnodup hknown =>
    have hmsg : N.msg d = some
        (.tell d.msg.nodeId y (p.knownNodes.map KnownNodeInfo.nodeId).toFinset) := by
      simp only [Topology.msg, hdst, if_neg hroute, hp]
    refine main _ hmsg rfl rfl ?_
    have hids : (s.list d.msg.nodeId).nodes.keys ⊆ N.ids := by
      intro k hk
      obtain ⟨n, hn⟩ := Finmap.mem_iff.mp (Finmap.mem_keys.mp hk)
      exact (hs.entry _ hgen.source_mem k n hn).1
    generalize r.2 = out at hreply
    cases hreply with
    | answer hp' => cases hp.symm.trans hp'
    | @joins p' hp' =>
      obtain rfl := ClusterPayload.statusResponse.inj (hp.symm.trans hp')
      rw [sent_joins h hids hnodup hknown, learn_handled hgen hdst hr hne rfl rfl]
      simp only [Discovery.State.sends, Function.update_self]
    | silent hp' => cases hp.symm.trans hp'
  | heartbeat p hm hp hstatus hdst' =>
    have hmsg : N.msg d = some (.greet d.msg.nodeId y) := by
      simp only [Topology.msg, hdst, if_neg hroute, hp]
    refine main _ hmsg rfl rfl ?_
    generalize r.2 = out at hreply
    cases hreply with
    | answer hp' => cases hp.symm.trans hp'
    | joins hp' => cases hp.symm.trans hp'
    | silent hp' => rfl

/-- What a node sends to itself changes nothing. -/
theorem view_deliver_self (hs : s.WellFormed N) (hd : d ∈ s.net) (hdst : N.nodeAt d.dst = some y)
    (hr : (s.node y).handleMessage T d.src d.msg reachable now = some r)
    (hself : d.msg.nodeId = y) (h : r.1.membership.localNodeId = y) :
    (s.act N y r h (s.net.erase d)).view N = s.view N ∧
      (r.2.map fun o => N.selfWeight ⟨N.addr y, o.1, o.2⟩).sum < N.selfWeight d := by
  have hgen := hs.genuine d hd
  have hweight : N.selfWeight d = if d.msg.msgType = .nodeJoin then 2 else 1 :=
    if_pos (hself ▸ hdst)
  obtain ⟨hlocal, hnodes, -⟩ := handled_list hgen hdst hr
  have hreply := handled_reply hgen hr
  have hown := own_of_handled hs hgen hdst hr
  -- what is sent goes to the node itself, or to nobody
  have hsent : (r.2.filterMap fun o => N.msg ⟨N.addr y, o.1, o.2⟩) = [] ∧
      (r.2.map fun o => N.selfWeight ⟨N.addr y, o.1, o.2⟩).sum < N.selfWeight d := by
    rw [hweight]
    generalize r.2 = out at hreply
    cases hreply with
    | @answer join p n hp hn hstatus hknown =>
      have hnode : n = r.1.membership.localNode := by
        have hid : d.msg.nodeId = r.1.membership.localNode.nodeId := hself.trans h.symm
        rw [MembershipList.getNode, if_pos hid] at hn
        exact (Option.some.inj hn).symm
      have hmsg : N.msg ⟨N.addr y, n.clusterAddr, .new r.1.membership.localNodeId
          r.1.membership.seqCounter .statusResponse (.statusResponse p) now⟩ = none := by
        cases hat : N.nodeAt n.clusterAddr with
        | none => simp only [Topology.msg, hat]
        | some z =>
          have hz : z = y := hown.route z (hnode ▸ hat)
          refine msg_self ?_
          rw [hat, hz]
          exact congrArg some h.symm
      have hjoin : d.msg.msgType = .nodeJoin := by
        cases hgen.carries with
        | join p' hm hp' hport => exact hm
        | status p' hm hp' => cases hp.symm.trans hp'
        | heartbeat p' hm hp' => cases hp.symm.trans hp'
      refine ⟨by rw [List.filterMap_cons, hmsg]; rfl, ?_⟩
      rw [if_pos hjoin, List.map_singleton, List.sum_singleton, Topology.selfWeight]
      split
      next => exact Nat.one_lt_two
      next => exact Nat.two_pos
    | @joins p hp =>
      have hnone : (p.knownNodes.filter fun k =>
          (r.1.membership.getNode k.nodeId).isNone) = [] := by
        refine List.filter_eq_nil_iff.mpr fun k hk => ?_
        cases hgen.carries with
        | join p' hm hp' => cases hp.symm.trans hp'
        | status p' hm hp' hstatus hnodup hknown =>
          obtain rfl := ClusterPayload.statusResponse.inj (hp.symm.trans hp')
          have hmem := (hknown k hk).1
          rw [hself, ← hnodes hself, Finmap.mem_keys] at hmem
          rw [Bool.not_eq_true, Option.isNone_eq_false_iff]
          exact MembershipList.getNode_isSome_iff.mpr (.inr hmem)
        | heartbeat p' hm hp' => cases hp.symm.trans hp'
      rw [hnone]
      refine ⟨rfl, ?_⟩
      split <;> simp
    | silent hp =>
      refine ⟨rfl, ?_⟩
      split <;> simp
  refine ⟨?_, hsent.2⟩
  have hmsg : N.msg d = none := msg_self (hself ▸ hdst)
  have hkeys : Function.update (s.view N).known y r.1.membership.nodes.keys =
      (s.view N).known := by
    rw [hnodes hself]
    exact Function.update_eq_self y _
  rw [view_act, hsent.1, view_net_erase_none hd hmsg, hkeys]
  exact congrArg _ (add_zero _)

/-- Every step is a run of the library's, and a join is a start there. -/
theorem view_step (hs : s.WellFormed N) {e : NetEvent} (hstep : Step N T members s e t) :
    ∃ es, Run (Discovery.Step N.ids members) (s.view N) es (t.view N) ∧
      ∀ x seeds, e = .join x seeds → ∃ targets, .start x targets ∈ es ∧
        ∀ a ∈ seeds, ∀ m, N.nodeAt a = some m → m ≠ x → m ∈ targets := by
  cases hstep with
  | @join x seeds now hx hnew =>
    obtain ⟨targets, hstart, htargets⟩ := view_join hx hnew _
    refine ⟨[.start x targets], .single hstart, fun x' seeds' heq => ?_⟩
    cases heq
    exact ⟨targets, List.mem_singleton_self _, htargets⟩
  | @heartbeat x known reachable now hx hknown hreach =>
    exact ⟨_, .single (view_heartbeat hs hx hreach _), fun _ _ heq => by cases heq⟩
  | @work x node hid hx hnodes haddr hstatus =>
    have hsame : (s.act N x (node, []) hid s.net).view N = s.view N := by
      have hkeys : Function.update (s.view N).known x node.membership.nodes.keys =
          (s.view N).known := by
        rw [hnodes]
        exact Function.update_eq_self x _
      rw [view_act, hkeys]
      exact congrArg _ (add_zero _)
    rw [hsame]
    exact ⟨[], .nil _, fun _ _ heq => by cases heq⟩
  | @deliver d y reachable now r hd hdst hr hreach =>
    by_cases hself : d.msg.nodeId = y
    · rw [(view_deliver_self hs hd hdst hr hself _).1]
      exact ⟨[], .nil _, fun _ _ heq => by cases heq⟩
    · obtain ⟨m, hm, hview⟩ := view_deliver hs hd hdst hr hreach hself
        ((Survivor.handleMessage_localNodeId hr).trans (s.localNodeId_node y))
      rw [hview]
      exact ⟨_, .single (.deliver hm), fun _ _ heq => by cases heq⟩
  | @duplicate d hd =>
    cases hm : N.msg d with
    | none =>
      rw [view_withNet (Multiset.filterMap_cons_none _ _ hm)]
      exact ⟨[], .nil _, fun _ _ heq => by cases heq⟩
    | some m =>
      rw [view_withNet (Multiset.filterMap_cons_some _ _ _ hm)]
      exact ⟨_, .single (.copy (mem_view_net hd hm)), fun _ _ heq => by cases heq⟩
  | @lose d hd hm =>
    cases hmsg : N.msg d with
    | none =>
      rw [view_withNet (view_net_erase_none hd hmsg)]
      exact ⟨[], .nil _, fun _ _ heq => by cases heq⟩
    | some m =>
      obtain ⟨x, y, rfl⟩ := greet_of_heartbeat (hs.genuine d hd) hm hmsg
      rw [view_withNet (view_net_erase hd hmsg)]
      exact ⟨_, .single (.lose (mem_view_net hd hmsg)), fun _ _ heq => by cases heq⟩

theorem view_run (hs : s.WellFormed N) {es : List NetEvent} (hrun : Run (Step N T members) s es t) :
    ∃ fs, Run (Discovery.Step N.ids members) (s.view N) fs (t.view N) ∧
      ∀ x seeds, .join x seeds ∈ es → ∃ targets, .start x targets ∈ fs ∧
        ∀ a ∈ seeds, ∀ m, N.nodeAt a = some m → m ≠ x → m ∈ targets := by
  induction hrun with
  | nil s => exact ⟨[], .nil _, fun _ _ hmem => by cases hmem⟩
  | @cons s t u e es hone hrest ih =>
    obtain ⟨fs, hfirst, hjoin⟩ := view_step hs hone
    obtain ⟨gs, hlast, hjoins⟩ := ih (hs.step hone)
    refine ⟨fs ++ gs, hfirst.append hlast, fun x seeds hmem => ?_⟩
    cases List.mem_cons.mp hmem with
    | inl heq =>
      obtain ⟨targets, hstart, htargets⟩ := hjoin x seeds heq.symm
      exact ⟨targets, List.mem_append_left _ hstart, htargets⟩
    | inr hmem =>
      obtain ⟨targets, hstart, htargets⟩ := hjoins x seeds hmem
      exact ⟨targets, List.mem_append_right _ hstart, htargets⟩

end View

/-- Every datagram that still reaches a node is a heartbeat. -/
def Quiet (N : Topology) (s : NetState) : Prop :=
  ∀ d ∈ s.net, (N.nodeAt d.dst).isSome → d.msg.msgType = .heartbeat

/-- The members have each other in their lists and nobody else, the others have nobody, and
nothing is under way. -/
structure Opening (N : Topology) (members : Finset Uuid) (s : NetState) : Prop where
  members_sub : members ⊆ N.ids
  own : ∀ x ∈ N.ids, OwnRecord N x (s.list x).localNode
  mesh : ∀ x ∈ members, (s.list x).nodes.keys = members.erase x
  entry : ∀ x ∈ members, ∀ k n, (s.list x).nodes.lookup k = some n →
    n.clusterAddr = N.addr k ∧ n.status.Reachable
  newcomer : ∀ x ∈ N.ids, x ∉ members → (s.list x).nodes = ∅
  net_empty : s.net = 0

namespace Opening

theorem wellFormed (h : s.Opening N members) : s.WellFormed N where
  own := h.own
  entry := by
    intro x hx k n hn
    by_cases hmem : x ∈ members
    · have hk : k ∈ (s.list x).nodes.keys := Finmap.mem_keys.mpr (Finmap.mem_iff.mpr ⟨n, hn⟩)
      rw [h.mesh x hmem] at hk
      exact ⟨h.members_sub (Finset.mem_of_mem_erase hk), h.entry x hmem k n hn⟩
    · rw [h.newcomer x hx hmem, Finmap.lookup_empty] at hn
      cases hn
  genuine := by
    intro d hd
    rw [h.net_empty] at hd
    cases Multiset.notMem_zero d hd

theorem mem_known_iff (h : s.Opening N members) (hx : x ∈ N.ids) :
    y ∈ (s.view N).known x ↔ x ∈ members ∧ y ∈ members ∧ y ≠ x := by
  have hview : (s.view N).known x = (s.list x).nodes.keys := rfl
  by_cases hmem : x ∈ members
  · rw [hview, h.mesh x hmem, Finset.mem_erase]
    exact ⟨fun hy => ⟨hmem, hy.2, hy.1⟩, fun hy => ⟨hy.2.2, hy.2.1⟩⟩
  · rw [hview, h.newcomer x hx hmem]
    exact ⟨fun hy => absurd hy (by simp), fun hy => absurd hy.1 hmem⟩

theorem sound (h : s.Opening N members) : Discovery.Sound N.ids members (s.view N) := by
  have hnet : (s.view N).net = 0 := by
    rw [view, h.net_empty]
    exact Multiset.filterMap_zero _
  have hnone : ∀ m, m ∉ (s.view N).net := fun m hm => by
    rw [hnet] at hm
    exact Multiset.notMem_zero m hm
  refine ⟨fun x hx y hy => ?_, fun m hm => absurd hm (hnone m),
    fun x y hm => absurd hm (hnone _), fun x y names hm => absurd hm (hnone _),
    fun x y names hm => absurd hm (hnone _), fun x y hm => absurd hm (hnone _),
    fun x hx y hy hxy => ?_, fun x hx y hy => ?_, fun m hm x hx y hy hnew => ?_⟩
  · obtain ⟨-, hymem, hne⟩ := (h.mem_known_iff hx).mp hy
    exact ⟨h.members_sub hymem, hne⟩
  · exact (h.mem_known_iff (h.members_sub hx)).mpr ⟨hx, hy, hxy.symm⟩
  · obtain ⟨hxmem, hymem, hne⟩ := (h.mem_known_iff hx).mp hy
    exact .inl ((h.mem_known_iff (h.members_sub hymem)).mpr ⟨hymem, hxmem, hne.symm⟩)
  · exact absurd ((h.mem_known_iff (h.members_sub hm)).mp hx).2.1 hnew

end Opening

/-- Every node has every other one in its list, at its address. -/
def Complete (N : Topology) (s : NetState) : Prop :=
  ∀ x ∈ N.ids, ∀ y ∈ N.ids, x ≠ y →
    ∃ n, (s.list x).getNode y = some n ∧ n.clusterAddr = N.addr y ∧ n.isReachable

/-- Every node that is not a member has sent a NODE_JOIN to a member. -/
def Asked (N : Topology) (members : Finset Uuid) (es : List NetEvent) : Prop :=
  ∀ x ∈ N.ids, x ∉ members → ∃ seeds, .join x seeds ∈ es ∧
    ∃ a ∈ seeds, ∃ m ∈ members, N.nodeAt a = some m

theorem Asked.append {es : List NetEvent} (h : Asked N members es) (fs : List NetEvent) :
    Asked N members (es ++ fs) := by
  intro x hx hnew
  obtain ⟨seeds, hjoin, hseed⟩ := h x hx hnew
  exact ⟨seeds, List.mem_append_left _ hjoin, hseed⟩

theorem nodeAt_of_msg {m : Msg Uuid} (hm : N.msg d = some m) : ∃ y, N.nodeAt d.dst = some y := by
  cases hat : N.nodeAt d.dst with
  | none => simp [Topology.msg, hat] at hm
  | some y => exact ⟨y, rfl⟩

theorem quiet_view (hs : s.WellFormed N) (hquiet : s.Quiet N) : (s.view N).Quiet := by
  intro m hm
  obtain ⟨d, hd, hmsg⟩ := (Multiset.mem_filterMap _ _).mp hm
  obtain ⟨y, hdst⟩ := nodeAt_of_msg hmsg
  exact greet_of_heartbeat (hs.genuine d hd) (hquiet d hd (by rw [hdst]; rfl)) hmsg

theorem Opening.wellFormed_run {s₀ : NetState} (hopen : s₀.Opening N members)
    {es : List NetEvent} (hrun : Run (Step N T members) s₀ es s) : s.WellFormed N :=
  hrun.invariant (WellFormed N) (fun _ _ _ hs hstep => hs.step hstep) hopen.wellFormed

theorem Opening.complete {s₀ : NetState} (hopen : s₀.Opening N members) (hne : members.Nonempty)
    {es : List NetEvent} (hrun : Run (Step N T members) s₀ es s) (hasked : Asked N members es)
    (hquiet : (s.view N).Quiet) : s.Complete N := by
  obtain ⟨fs, hview, hstart⟩ := view_run hopen.wellFormed hrun
  have hsound := hopen.sound.run hview
  intro x hx y hy hxy
  have hknown : y ∈ (s.view N).known x := by
    refine hsound.complete hquiet hne (fun z hz hnew => ?_) hx hy hxy
    obtain ⟨seeds, hjoin, a, ha, m, hm, hroute⟩ := hasked z hz hnew
    obtain ⟨targets, hmem, htargets⟩ := hstart z seeds hjoin
    have hmz : m ≠ z := fun heq => hnew (heq ▸ hm)
    exact hopen.sound.started_of_mem hview hm hmem (htargets a ha m hroute hmz)
  obtain ⟨n, hn⟩ := Finmap.mem_iff.mp (Finmap.mem_keys.mp hknown)
  obtain ⟨-, haddr, hstatus⟩ := (hopen.wellFormed_run hrun).entry x hx y n hn
  have hlocal : ¬ y = (s.list x).localNode.nodeId := fun heq =>
    hxy (heq.trans (s.localNodeId_node x)).symm
  refine ⟨n, by rw [MembershipList.getNode, if_neg hlocal, hn], haddr, ?_⟩
  exact n.isReachable_of_status hstatus

section Deliveries

/-- A datagram that reaches a node can be delivered. -/
theorem exists_deliver (T : AddrText) (members : Finset Uuid) (hs : s.WellFormed N) (hd : d ∈ s.net)
    (hdst : N.nodeAt d.dst = some y) : ∃ t, Step N T members s (.deliver d) t := by
  obtain ⟨ml, hml⟩ : ∃ ml, ∀ reachable, ∃ r,
      (s.node y).handleMessage T d.src d.msg reachable 0 = some r ∧ r.1.membership = ml := by
    unfold Survivor.handleMessage
    cases (hs.genuine d hd).carries with
    | join p hm hp hport =>
      simp only [hm, hp]
      refine ⟨((s.node y).addJoined d.msg.nodeId d.src p 0).membership.nextSeq,
        fun reachable => ?_⟩
      obtain ⟨n, seeds, -, heq⟩ :=
        Survivor.handleNodeJoin_answer T (s.node y) d.msg.nodeId d.src p reachable 0
      rw [heq]
      exact ⟨_, rfl, rfl⟩
    | status p hm hp =>
      simp only [hm, hp]
      exact ⟨_, fun _ => ⟨_, rfl, rfl⟩⟩
    | heartbeat p hm hp =>
      simp only [hm, hp]
      exact ⟨_, fun _ => ⟨_, rfl, rfl⟩⟩
  obtain ⟨reachable, hreach⟩ := ml.exists_reachable
  obtain ⟨r, hr, hlist⟩ := hml reachable
  exact ⟨_, .deliver hd hdst hr (hlist ▸ hreach)⟩

/-- What the nodes have sent to themselves. -/
def selfLoad (N : Topology) (s : NetState) : ℕ := (s.net.map N.selfWeight).sum

theorem deliver_decreases (hs : s.WellFormed N) (hstep : Step N T members s (.deliver d) t) :
    t.WellFormed N ∧ (Discovery.Delivers (s.view N) (t.view N) ∨
      (t.view N = s.view N ∧ t.selfLoad N < s.selfLoad N)) := by
  refine ⟨hs.step hstep, ?_⟩
  cases hstep with
  | @deliver d y reachable now r hd hdst hr hreach =>
    by_cases hself : d.msg.nodeId = y
    · obtain ⟨hview, hweight⟩ := view_deliver_self hs hd hdst hr hself
        ((Survivor.handleMessage_localNodeId hr).trans (s.localNodeId_node y))
      refine .inr ⟨hview, ?_⟩
      have hload : s.selfLoad N = N.selfWeight d + ((s.net.erase d).map N.selfWeight).sum := by
        rw [← Multiset.sum_cons, ← Multiset.map_cons, Multiset.cons_erase hd]
        rfl
      rw [hload, selfLoad, act, Multiset.map_add, Multiset.sum_add, Multiset.map_coe,
        Multiset.sum_coe, List.map_map]
      rw [Nat.add_comm]
      exact Nat.add_lt_add_right hweight _
    · exact .inl (view_deliver hs hd hdst hr hreach hself _)

theorem Opening.acc {s₀ : NetState} (hopen : s₀.Opening N members) {es : List NetEvent}
    (hrun : Run (Step N T members) s₀ es s) :
    Acc (fun u t => ∃ d, Step N T members t (.deliver d) u) s := by
  obtain ⟨fs, hview, -⟩ := view_run hopen.wellFormed hrun
  refine acc_of_view (view N) (selfLoad N) (WellFormed N) ?_ (hopen.wellFormed_run hrun)
    (hopen.sound.run hview).acc
  intro s t hs hnext
  obtain ⟨d, hstep⟩ := hnext
  exact deliver_decreases hs hstep

/-- If nothing can be delivered, no datagram reaches a node. -/
theorem nodeAt_eq_none_of_last (hs : s.WellFormed N)
    (hlast : ∀ d u, ¬ Step N T members s (.deliver d) u)
    (hd : d ∈ s.net) : N.nodeAt d.dst = none := by
  cases hdst : N.nodeAt d.dst with
  | none => rfl
  | some y =>
    obtain ⟨u, hu⟩ := exists_deliver T members hs hd hdst
    exact absurd hu (hlast d u)

theorem Opening.exists_last {s₀ : NetState} (hopen : s₀.Opening N members) {es : List NetEvent}
    (hrun : Run (Step N T members) s₀ es s) :
    ∃ (ds : List Datagram) (t : NetState), Run (Step N T members) s (ds.map .deliver) t ∧
      ∀ d u, ¬ Step N T members t (.deliver d) u := by
  obtain ⟨t, ⟨ds, hds⟩, hlast⟩ := Transition.exists_last
    (fun s t => ∃ ds : List Datagram, Run (Step N T members) s (ds.map .deliver) t)
    (fun s => ⟨[], .nil s⟩)
    (fun s t u hnext hrest => by
      obtain ⟨d, hstep⟩ := hnext
      obtain ⟨ds, hds⟩ := hrest
      exact ⟨d :: ds, .cons hstep hds⟩)
    (hopen.acc hrun)
  exact ⟨ds, t, hds, fun d u hstep => hlast u ⟨d, hstep⟩⟩

end Deliveries

end NetState

/- Node 1 is the cluster; nodes 2 and 3 join through it. -/
def threeAddr (x : Uuid) : SocketAddr := ⟨.v4 0x0a000001, UInt16.ofNat (7000 + x.toNat)⟩

def threeNodes : Topology where
  ids := {1, 2, 3}
  addr := threeAddr
  nodeAt a := [1, 2, 3].find? fun x => threeAddr x = a
  nodeAt_addr := by
    intro x hx
    obtain rfl | rfl | rfl : x = 1 ∨ x = 2 ∨ x = 3 := by simpa using hx
    · decide
    · decide
    · decide
  mem_of_nodeAt := by
    intro a x h
    simpa using List.mem_of_find?_eq_some h

def newNode (x : Uuid) : Survivor where
  membership := .new ⟨x, "node", threeAddr x, 6565, fromSecs 60, fromSecs 60⟩ 0
  db := InnerDB.new
  dm := ⟨x, ∅, ⟨48, .empty, some ∅, x, false⟩⟩
  localNodeId_dm := rfl

def threeStart : NetState := ⟨newNode, 0, fun _ => rfl⟩

theorem threeStart_opening : threeStart.Opening threeNodes {1} where
  members_sub := by decide
  own := by
    intro x hx
    refine ⟨rfl, fun y hy => ?_, (by decide : NodeStatus.starting.Reachable)⟩
    exact Option.some.inj (hy.symm.trans (threeNodes.nodeAt_addr x hx))
  mesh := by
    intro x hx
    obtain rfl := Finset.mem_singleton.mp hx
    rfl
  entry := by
    intro x hx k n hn
    rw [show (threeStart.list x).nodes = ∅ from rfl, Finmap.lookup_empty] at hn
    cases hn
  newcomer := fun _ _ _ => rfl
  net_empty := rfl

namespace NetState
variable {N : Topology} {T : AddrText} {members : Finset Uuid} {s : NetState}

theorem threeStart_asked :
    Asked threeNodes {1} [.join 2 [threeAddr 1], .join 3 [threeAddr 1]] := by
  intro x hx hnew
  refine ⟨[threeAddr 1], ?_, threeAddr 1, List.mem_singleton_self _, 1, by decide, rfl⟩
  obtain rfl | rfl | rfl : x = 1 ∨ x = 2 ∨ x = 3 := by simpa [threeNodes] using hx
  · exact absurd (Finset.mem_singleton_self 1) hnew
  · exact List.mem_cons_self
  · exact List.mem_cons_of_mem _ (List.mem_singleton_self _)

theorem threeStart_run :
    ∃ s, Run (Step threeNodes longText {1}) threeStart
      [.join 2 [threeAddr 1], .join 3 [threeAddr 1]] s := by
  have hjoin : ∀ (s : NetState) (x : Uuid), x ∈ threeNodes.ids → x ∉ ({1} : Finset Uuid) →
      ∃ t, Step threeNodes longText {1} s (.join x [threeAddr 1]) t :=
    fun s x hx hnew => ⟨_, @Step.join threeNodes _ _ s x _ 0 hx hnew⟩
  obtain ⟨s, hs⟩ := hjoin threeStart 2 (by decide) (by decide)
  obtain ⟨t, ht⟩ := hjoin s 3 (by decide) (by decide)
  exact ⟨t, .cons hs (.single ht)⟩

/-- However the datagrams were delivered, and however often, once nothing but heartbeats is
under way every node has every other one in its list, at its address. -/
theorem complete_of_quiet {s₀ : NetState} (hopen : s₀.Opening N members)
    (hne : members.Nonempty) {es : List NetEvent} (hrun : Run (Step N T members) s₀ es s)
    (hasked : Asked N members es) (hquiet : s.Quiet N) : s.Complete N :=
  hopen.complete hne hrun hasked (quiet_view (hopen.wellFormed_run hrun) hquiet)

/-- Two nodes join at once, and everything that is sent is delivered. -/
theorem three_complete_of_quiet :
    ∃ es s, Run (Step threeNodes longText {1}) threeStart es s ∧
      Asked threeNodes {1} es ∧ s.Quiet threeNodes ∧ s.Complete threeNodes := by
  obtain ⟨s, hrun⟩ := threeStart_run
  obtain ⟨ds, t, hdeliver, hlast⟩ := threeStart_opening.exists_last hrun
  have hall := hrun.append hdeliver
  have hasked : Asked threeNodes {1}
      ([.join 2 [threeAddr 1], .join 3 [threeAddr 1]] ++ ds.map .deliver) :=
    threeStart_asked.append _
  have hquiet : t.Quiet threeNodes := by
    intro d hd hroute
    rw [nodeAt_eq_none_of_last (threeStart_opening.wellFormed_run hall) hlast hd] at hroute
    cases hroute
  exact ⟨_, t, hall, hasked, hquiet,
    complete_of_quiet threeStart_opening (Finset.singleton_nonempty 1) hall hasked hquiet⟩

/-- However the datagrams are delivered, it comes to an end, and then every node has every other
one in its list, at its address. -/
theorem deliveries_complete {s₀ : NetState} (hopen : s₀.Opening N members)
    (hne : members.Nonempty) {es : List NetEvent} (hrun : Run (Step N T members) s₀ es s)
    (hasked : Asked N members es) :
    Acc (fun u t => ∃ d, Step N T members t (.deliver d) u) s ∧
      ∀ (ds : List Datagram) t, Run (Step N T members) s (ds.map .deliver) t →
        (∀ d u, ¬ Step N T members t (.deliver d) u) → t.Complete N := by
  refine ⟨hopen.acc hrun, fun ds t hdeliver hlast => ?_⟩
  have hall := hrun.append hdeliver
  refine hopen.complete hne hall (hasked.append _) fun m hm => ?_
  obtain ⟨d, hd, hmsg⟩ := (Multiset.mem_filterMap _ _).mp hm
  obtain ⟨y, hdst⟩ := nodeAt_of_msg hmsg
  rw [nodeAt_eq_none_of_last (hopen.wellFormed_run hall) hlast hd] at hdst
  cases hdst

theorem three_deliveries_complete :
    ∃ s, Run (Step threeNodes longText {1}) threeStart
        [.join 2 [threeAddr 1], .join 3 [threeAddr 1]] s ∧
      Asked threeNodes {1} [.join 2 [threeAddr 1], .join 3 [threeAddr 1]] ∧
      Acc (fun u t => ∃ d, Step threeNodes longText {1} t (.deliver d) u) s ∧
        ∀ (ds : List Datagram) t,
          Run (Step threeNodes longText {1}) s (ds.map .deliver) t →
          (∀ d u, ¬ Step threeNodes longText {1} t (.deliver d) u) →
          t.Complete threeNodes := by
  obtain ⟨s, hrun⟩ := threeStart_run
  exact ⟨s, hrun, threeStart_asked,
    deliveries_complete threeStart_opening (Finset.singleton_nonempty 1) hrun threeStart_asked⟩

end NetState

end HeadEnd.Cluster
