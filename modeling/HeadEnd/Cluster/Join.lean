import HeadEnd.AddressText
import HeadEnd.Cluster.ReportedLoad

/-! A node joins, perhaps not for the first time. What the others then know of its name,
its address and its backdoor port, and where they answer it. -/
namespace HeadEnd.Cluster

inductive HandlerError where
  | invalidMessage (text : String)
  deriving DecidableEq, Repr

structure Contact where
  nodeName : String
  clusterAddr : SocketAddr
  backdoorPort : UInt16
  deriving DecidableEq, Repr

def NodeInfo.contact (n : NodeInfo) : Contact := ⟨n.nodeName, n.clusterAddr, n.backdoorPort⟩

/-- What a NODE_JOIN that came from `fromAddr` announces. -/
def NodeJoinPayload.contact (join : NodeJoinPayload) (fromAddr : SocketAddr) : Contact :=
  ⟨join.nodeName, ⟨fromAddr.ip, join.clusterAddr.port⟩, join.backdoorPort⟩

/-- What handling a NODE_JOIN leaves: the node, the seeds that it stores, the answer. -/
structure Joined where
  node : Survivor
  seeds : String
  sent : List Outgoing

namespace Survivor

def handleStatusRequest (s : Survivor) (fromNodeId : Uuid) (fromAddr : SocketAddr)
    (reachable : List NodeInfo) (now : Int) : Survivor × List Outgoing :=
  ({ s with membership := s.membership.nextSeq, localNodeId_dm := s.localNodeId_dm },
    [(fromAddr, s.toServer.message .statusResponse
      (.statusResponse (s.statusResponse fromNodeId reachable)) now)])

def addJoined (s : Survivor) (nodeId : Uuid) (fromAddr : SocketAddr) (join : NodeJoinPayload)
    (now : Int) : Survivor :=
  { s with
    membership := s.membership.handleNodeJoin nodeId fromAddr join now
    localNodeId_dm := by
      rw [MembershipList.handleNodeJoin, MembershipList.localNodeId,
        MembershipList.addOrUpdateNode_localNode]
      exact s.localNodeId_dm }

/-- `reachable` lists the reachable nodes after the update. The answer goes to the address
in the list, not to where the message came from. -/
def handleNodeJoin (T : AddrText) (s : Survivor) (nodeId : Uuid) (fromAddr : SocketAddr)
    (payload : ClusterPayload) (reachable : List NodeInfo) (now : Int) :
    Except HandlerError Joined :=
  match payload with
  | .nodeJoin join =>
    let s' := s.addJoined nodeId fromAddr join now
    let others := reachable.filter fun n => n.nodeId ≠ s'.membership.localNodeId
    let seeds := String.intercalate "," (others.map fun n => T.toText n.clusterAddr)
    match s'.membership.getNode nodeId with
    | none => .ok ⟨s', seeds, []⟩
    | some n =>
      let (s'', sent) := s'.handleStatusRequest nodeId n.clusterAddr reachable now
      .ok ⟨s'', seeds, sent⟩
  | _ => .error (.invalidMessage "Expected NodeJoin payload")

end Survivor

namespace MembershipList

def contact (ml : MembershipList) (id : Uuid) : Option Contact :=
  (ml.getNode id).map NodeInfo.contact

section Contacts
variable {ml : MembershipList} {id k : Uuid} {g : NodeInfo → NodeInfo}
  {hg : ∀ n, (g n).nodeId = n.nodeId} {fromAddr : SocketAddr} {now : Int}

theorem contact_of_ne (h : id ≠ ml.localNodeId) :
    ml.contact id = (ml.nodes.lookup id).map NodeInfo.contact := by
  have hne : ¬ id = ml.localNode.nodeId := h
  rw [contact, getNode, if_neg hne]

theorem contact_modify (hkeep : ∀ n, (g n).contact = n.contact) :
    (ml.modify id g hg).contact k = ml.contact k := by
  unfold contact getNode
  rw [modify_localNode]
  by_cases hlocal : k = ml.localNode.nodeId
  · rw [if_pos hlocal, if_pos hlocal]
  · rw [if_neg hlocal, if_neg hlocal]
    by_cases hid : k = id
    · rw [hid, lookup_modify_self, Option.map_map]
      exact congrFun (congrArg Option.map (funext hkeep)) _
    · rw [lookup_modify_of_ne hid]

theorem contact_updateHeartbeat : (ml.updateHeartbeat id now).contact k = ml.contact k :=
  contact_modify fun _ => rfl

theorem contact_markSuspect : (ml.markSuspect id).contact k = ml.contact k :=
  contact_modify fun n => by split <;> rfl

theorem contact_markDead : (ml.markDead id).contact k = ml.contact k :=
  contact_modify fun _ => rfl

theorem contact_modifyAny (hkeep : ∀ n, (g n).contact = n.contact) :
    (ml.modifyAny id g hg).contact k = ml.contact k := by
  unfold modifyAny
  split
  next hlocal =>
    unfold contact getNode modifyLocal
    rw [hg]
    split
    next => exact congrArg some (hkeep _)
    next => rfl
  next => exact contact_modify hkeep

/-- The update takes over the name. The address and the port stay those of the entry. -/
theorem contact_addOrUpdateNode {node : NodeInfo} (hremote : node.nodeId ≠ ml.localNodeId) :
    (ml.addOrUpdateNode node now).contact node.nodeId =
      some { (ml.contact node.nodeId).getD node.contact with nodeName := node.nodeName } := by
  have hne : ¬ node.nodeId = ml.localNode.nodeId := hremote
  have hsame : (ml.addOrUpdateNode node now).localNodeId = ml.localNodeId :=
    congrArg NodeInfo.nodeId addOrUpdateNode_localNode
  rw [contact_of_ne (hsame ▸ hremote), contact_of_ne hremote, addOrUpdateNode, dif_neg hne]
  cases hlookup : ml.nodes.lookup node.nodeId with
  | none =>
    rw [if_neg (by simp), Finmap.lookup_insert]
    rfl
  | some old =>
    rw [if_pos (by rfl), lookup_modify_self, hlookup]
    rfl

theorem contact_handleNodeJoin {join : NodeJoinPayload} (hremote : id ≠ ml.localNodeId) :
    (ml.handleNodeJoin id fromAddr join now).contact id =
      some { (ml.contact id).getD (join.contact fromAddr) with nodeName := join.nodeName } :=
  contact_addOrUpdateNode hremote

theorem contact_handleHeartbeat {heartbeat : HeartbeatPayload} (hremote : id ≠ ml.localNodeId) :
    (ml.handleHeartbeat id fromAddr heartbeat now).contact id =
      some ((ml.contact id).getD ⟨shortName id, fromAddr, 6565⟩) := by
  unfold handleHeartbeat
  split
  next hknown =>
    obtain ⟨n, hn⟩ := Option.isSome_iff_exists.mp hknown
    rw [contact_modifyAny (by exact fun _ => rfl), contact, hn]
    rfl
  next hnew =>
    have hnone : ml.contact id = none := by
      rw [contact, Option.not_isSome_iff_eq_none.mp hnew]
      rfl
    refine (contact_addOrUpdateNode hremote).trans ?_
    rw [hnone]
    rfl

theorem contact_of_known {node : NodeInfo} {c : Contact} (hc : ml.contact k = some c) :
    ∃ name, (ml.addOrUpdateNode node now).contact k = some { c with nodeName := name } := by
  by_cases hlocal : node.nodeId = ml.localNodeId
  · rw [addOrUpdateNode, dif_pos (by exact hlocal)]
    exact ⟨c.nodeName, hc⟩
  · by_cases hk : k = node.nodeId
    · subst hk
      rw [contact_addOrUpdateNode hlocal, hc]
      exact ⟨node.nodeName, rfl⟩
    · refine ⟨c.nodeName, ?_⟩
      rw [contact, getNode, addOrUpdateNode_localNode, lookup_addOrUpdateNode_of_ne hk]
      exact hc

theorem contact_removeNode (h : k ≠ id) : (ml.removeNode id).contact k = ml.contact k := by
  unfold contact getNode removeNode
  rw [Finmap.lookup_erase_ne h]

/-- Both orders leave the name that was announced. They agree on the rest if the heartbeat
made no difference to it. -/
theorem contact_exchange_iff {join : NodeJoinPayload} {heartbeat : HeartbeatPayload}
    {heartbeatAddr : SocketAddr} {first second : Int} (hremote : id ≠ ml.localNodeId)
    (hnew : ml.contact id = none) :
    ((ml.handleHeartbeat id heartbeatAddr heartbeat first).handleNodeJoin
          id fromAddr join second).contact id =
        ((ml.handleNodeJoin id fromAddr join first).handleHeartbeat
          id heartbeatAddr heartbeat second).contact id ↔
      heartbeatAddr = (join.contact fromAddr).clusterAddr ∧ join.backdoorPort = 6565 := by
  have hheartbeat : id ≠ (ml.handleHeartbeat id heartbeatAddr heartbeat first).localNodeId := by
    rw [handleHeartbeat_localNodeId]
    exact hremote
  have hjoin : id ≠ (ml.handleNodeJoin id fromAddr join first).localNodeId := by
    rw [localNodeId, handleNodeJoin, addOrUpdateNode_localNode]
    exact hremote
  rw [contact_handleNodeJoin hheartbeat, contact_handleHeartbeat hjoin,
    contact_handleHeartbeat hremote, contact_handleNodeJoin hremote, hnew]
  simp only [Option.getD_some, Option.getD_none, Option.some.injEq, NodeJoinPayload.contact,
    Contact.mk.injEq, true_and]
  exact and_congr_right fun _ => eq_comm

/-- Of all messages only a NODE_LEAVE changes where a listed node is reached. -/
theorem contact_handleMessage {msg : ClusterMessage} {c : Contact} (hc : ml.contact k = some c)
    (hstays : msg.msgType = .nodeLeave → k ≠ msg.nodeId) :
    ∃ name, (ml.handleMessage fromAddr msg now).contact k = some { c with nodeName := name } := by
  have hdone : Handles ml fromAddr msg now (ml.handleMessage fromAddr msg now) :=
    handleMessage_handles
  generalize ml.handleMessage fromAddr msg now = ml' at hdone
  have same : ml'.contact k = ml.contact k →
      ∃ name, ml'.contact k = some { c with nodeName := name } :=
    fun heq => ⟨c.nodeName, heq.trans hc⟩
  cases hdone with
  | heartbeat _ _ =>
    unfold handleHeartbeat at same ⊢
    split
    next hknown =>
      rw [if_pos hknown] at same
      exact same (contact_modifyAny fun _ => rfl)
    next => exact contact_of_known hc
  | ack _ | alive _ _ _ => exact same contact_updateHeartbeat
  | status _ _ | join _ _ => exact contact_of_known hc
  | leave hm => exact same (contact_removeNode (hstays hm))
  | suspect => exact same contact_markSuspect
  | dead _ _ => exact same contact_markDead
  | kept => exact same rfl

end Contacts

/-- A node that moves is reached where it first was, whatever it sends, until it leaves. -/
theorem contact_run {k : Uuid} {c : Contact} (msgs : List (SocketAddr × ClusterMessage × Int))
    (hstays : ∀ m ∈ msgs, m.2.1.msgType = .nodeLeave → k ≠ m.2.1.nodeId) (ml : MembershipList)
    (hc : ml.contact k = some c) :
    ∃ name, (msgs.foldl (fun ml m => ml.handleMessage m.1 m.2.1 m.2.2) ml).contact k =
      some { c with nodeName := name } := by
  induction msgs generalizing ml c with
  | nil => exact ⟨c.nodeName, hc⟩
  | cons m rest ih =>
    obtain ⟨name, hname⟩ := contact_handleMessage hc (hstays m List.mem_cons_self)
    obtain ⟨name', hname'⟩ := ih (fun m' hm => hstays m' (List.mem_cons_of_mem m hm)) _ hname
    exact ⟨name', hname'⟩

end MembershipList

namespace Survivor
variable {s : Survivor} {nodeId : Uuid}

/-- A NODE_JOIN from another node is always answered, at the address in its entry. -/
theorem handleNodeJoin_eq (T : AddrText) (fromAddr : SocketAddr) (join : NodeJoinPayload)
    (reachable : List NodeInfo) (now : Int) (hremote : nodeId ≠ s.membership.localNodeId) :
    ∃ r, s.handleNodeJoin T nodeId fromAddr (.nodeJoin join) reachable now = .ok r ∧
      r.node.membership.contact nodeId =
        some { (s.membership.contact nodeId).getD (join.contact fromAddr) with
          nodeName := join.nodeName } ∧
      r.sent.map (fun o => (o.1, o.2.msgType)) =
        [(((s.membership.contact nodeId).getD (join.contact fromAddr)).clusterAddr,
          .statusResponse)] := by
  have hcontact : (s.membership.handleNodeJoin nodeId fromAddr join now).contact nodeId = some _ :=
    MembershipList.contact_handleNodeJoin hremote
  obtain ⟨n, hn, hc⟩ := Option.map_eq_some_iff.mp hcontact
  have hget : (s.addJoined nodeId fromAddr join now).membership.getNode nodeId = some n := hn
  simp only [handleNodeJoin, hget]
  refine ⟨_, rfl, hcontact, ?_⟩
  have haddr : n.clusterAddr =
      ((s.membership.contact nodeId).getD (join.contact fromAddr)).clusterAddr :=
    congrArg Contact.clusterAddr hc
  rw [← haddr]
  rfl

theorem nodes_of_handleNodeJoin {T : AddrText} {fromAddr : SocketAddr} {join : NodeJoinPayload}
    {reachable : List NodeInfo} {now : Int} {r : Joined}
    (h : s.handleNodeJoin T nodeId fromAddr (.nodeJoin join) reachable now = .ok r) :
    r.node.membership.nodes = (s.membership.handleNodeJoin nodeId fromAddr join now).nodes := by
  simp only [handleNodeJoin] at h
  split at h
  · obtain rfl := Except.ok.inj h
    rfl
  · obtain rfl := Except.ok.inj h
    rfl

/-- After a NODE_JOIN the sender's entry has the name, address and port that it announces,
and the answer goes there, exactly if the sender was not listed or was listed with this
address and port. A heartbeat and the NODE_JOIN of a new node may be exchanged exactly if
the heartbeat comes from the address announced and the port announced is the default. -/
theorem join_contact_iff (T : AddrText) (fromAddr : SocketAddr) (join : NodeJoinPayload)
    (reachable : List NodeInfo) (now : Int) (hremote : nodeId ≠ s.membership.localNodeId) :
    ((∃ r, s.handleNodeJoin T nodeId fromAddr (.nodeJoin join) reachable now = .ok r ∧
          r.node.membership.contact nodeId = some (join.contact fromAddr) ∧
          r.sent.map (fun o => (o.1, o.2.msgType)) =
            [((join.contact fromAddr).clusterAddr, .statusResponse)]) ↔
        ∀ c, s.membership.contact nodeId = some c →
          c.clusterAddr = (join.contact fromAddr).clusterAddr ∧
            c.backdoorPort = join.backdoorPort) ∧
      (s.membership.contact nodeId = none →
        ∀ (heartbeat : HeartbeatPayload) (heartbeatAddr : SocketAddr) (first second : Int),
          ((s.membership.handleHeartbeat nodeId heartbeatAddr heartbeat first).handleNodeJoin
                nodeId fromAddr join second).contact nodeId =
              ((s.membership.handleNodeJoin nodeId fromAddr join first).handleHeartbeat
                nodeId heartbeatAddr heartbeat second).contact nodeId ↔
            heartbeatAddr = (join.contact fromAddr).clusterAddr ∧ join.backdoorPort = 6565) := by
  refine ⟨?_, fun hnew heartbeat heartbeatAddr first second =>
    MembershipList.contact_exchange_iff hremote hnew⟩
  obtain ⟨r, hr, hentry, hsent⟩ := handleNodeJoin_eq T fromAddr join reachable now hremote
  have hresult : (∃ r', s.handleNodeJoin T nodeId fromAddr (.nodeJoin join) reachable now =
        .ok r' ∧ r'.node.membership.contact nodeId = some (join.contact fromAddr) ∧
        r'.sent.map (fun o => (o.1, o.2.msgType)) =
          [((join.contact fromAddr).clusterAddr, .statusResponse)]) ↔
      r.node.membership.contact nodeId = some (join.contact fromAddr) ∧
        r.sent.map (fun o => (o.1, o.2.msgType)) =
          [((join.contact fromAddr).clusterAddr, .statusResponse)] := by
    rw [hr]
    simp only [Except.ok.injEq, exists_eq_left']
  rw [hresult, hentry, hsent]
  cases s.membership.contact nodeId with
  | none => simp [NodeJoinPayload.contact]
  | some c =>
    simp only [Option.getD_some, NodeJoinPayload.contact, Option.some.injEq, Contact.mk.injEq,
      true_and, List.cons.injEq, Prod.mk.injEq, and_true, forall_eq']
    exact and_iff_left_of_imp And.left

/- A node announces port 7001 and backdoor port 6565, from another host than the one where
   node 1 has node 2 in its list. -/
def movedAddr : SocketAddr := ⟨.v4 0x0a000002, 40000⟩
def joinOf (nodeName : String) : NodeJoinPayload := ⟨nodeName, ⟨.v4 0, 7001⟩, 6565⟩
def nodeThree : NodeInfo := NodeInfo.newLocal 3 "node-3" ⟨.v4 0x0a000002, 7001⟩ 6565 0

/-- Node 2 is suspect, so only node 3 is reachable once it has joined. -/
theorem reachable_three {ml : MembershipList}
    (h : ml.nodes = (survivorOne.membership.handleNodeJoin 3 movedAddr (joinOf "node-3") 0).nodes) :
    ml.ReachableNodes [nodeThree] := by
  have hnodes : ml.nodes = ((∅ : Table NodeInfo).insert 2 suspectTwo).insert 3 nodeThree := h
  refine ⟨List.nodup_singleton _, fun n => ?_⟩
  rw [hnodes, List.mem_singleton]
  constructor
  · intro hn
    rw [hn]
    exact ⟨Finmap.lookup_insert _, rfl⟩
  · intro ⟨hlookup, hreachable⟩
    by_cases hthree : n.nodeId = 3
    · rw [hthree, Finmap.lookup_insert] at hlookup
      exact (Option.some_injective _ hlookup).symm
    · rw [Finmap.lookup_insert_of_ne _ hthree] at hlookup
      by_cases htwo : n.nodeId = 2
      · rw [htwo, Finmap.lookup_insert] at hlookup
        cases hlookup
        cases hreachable
      · rw [Finmap.lookup_insert_of_ne _ htwo, Finmap.lookup_empty] at hlookup
        cases hlookup

/-- Node 3 is new to node 1. -/
theorem join_contact_new :
    (survivorOne.addJoined 3 movedAddr (joinOf "node-3") 0).membership.ReachableNodes
      [nodeThree] ∧
    ∃ r, survivorOne.handleNodeJoin longText 3 movedAddr (.nodeJoin (joinOf "node-3"))
        [nodeThree] 0 = .ok r ∧
      r.node.membership.contact 3 = some ⟨"node-3", ⟨.v4 0x0a000002, 7001⟩, 6565⟩ ∧
      r.sent.map (fun o => (o.1, o.2.msgType)) =
        [(⟨.v4 0x0a000002, 7001⟩, .statusResponse)] := by
  have hremote : 3 ≠ survivorOne.membership.localNodeId := by decide
  have hnew : survivorOne.membership.contact 3 = none := by
    rw [MembershipList.contact_of_ne hremote, lookup_survivorOne_of_ne (by decide)]
    rfl
  refine ⟨reachable_three rfl, ?_⟩
  refine (join_contact_iff longText movedAddr (joinOf "node-3") [nodeThree] 0 hremote).1.mpr ?_
  intro c hc
  rw [hnew] at hc
  cases hc

/-- Node 2 comes back on another host. Node 1 goes on reaching for it, and answers it, where
it was before. -/
theorem join_contact_moved :
    ¬ ∀ (T : AddrText) (s : Survivor) (nodeId : Uuid) (fromAddr : SocketAddr)
      (join : NodeJoinPayload) (reachable : List NodeInfo) (now : Int),
      nodeId ≠ s.membership.localNodeId →
      ∃ r, s.handleNodeJoin T nodeId fromAddr (.nodeJoin join) reachable now = .ok r ∧
        r.node.membership.contact nodeId = some (join.contact fromAddr) ∧
        r.sent.map (fun o => (o.1, o.2.msgType)) =
          [((join.contact fromAddr).clusterAddr, .statusResponse)] := by
  intro h
  have hremote : 2 ≠ survivorOne.membership.localNodeId := by decide
  obtain ⟨r, hr, hentry, -⟩ := h longText survivorOne 2 movedAddr (joinOf "node-2")
    [.newLocal 2 "node-2" remoteAddr 6565 0] 0 hremote
  obtain ⟨r', hr', hentry', -⟩ := handleNodeJoin_eq longText movedAddr (joinOf "node-2")
    [.newLocal 2 "node-2" remoteAddr 6565 0] 0 hremote
  obtain rfl : r = r' := Except.ok.inj (hr.symm.trans hr')
  exact absurd (hentry.symm.trans hentry') (by decide +kernel)

end Survivor

end HeadEnd.Cluster
