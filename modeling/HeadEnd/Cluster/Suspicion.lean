import HeadEnd.Cluster.PeerMessages
import HeadEnd.Cluster.SilentPeer

/-! One suspicion of the failure detector: a node is marked, probed through another one and
perhaps declared Active again, while the server handles messages about it. -/
namespace HeadEnd.Cluster
open Transition

def NodeStatus.suspected : NodeStatus → NodeStatus
  | .active => .suspect
  | status => status

/-- What the message makes of the status of node `k`, which is not the local one. -/
def ClusterMessage.tells (k : Uuid) (msg : ClusterMessage) (status : Option NodeStatus) :
    Option NodeStatus :=
  if msg.concerns = some k then
    match msg.msgType, msg.payload with
    | .heartbeat, .heartbeat heartbeat => some heartbeat.status
    | .statusResponse, .statusResponse response => some response.status
    | .nodeJoin, .nodeJoin _ => some .starting
    | .nodeLeave, _ => none
    | .nodeSuspect, .nodeSuspect _ => status.map NodeStatus.suspected
    | .nodeDead, .nodeDead _ => status.map fun _ => .dead
    | _, _ => status
  else status

namespace MembershipList
variable {ml : MembershipList} {k id : Uuid} {fromAddr : SocketAddr} {msg : ClusterMessage}
  {now : Int}

def statusOf (ml : MembershipList) (k : Uuid) : Option NodeStatus :=
  (ml.nodes.lookup k).map NodeInfo.status

theorem statusOf_congr {ml' : MembershipList} (h : ml'.nodes.lookup k = ml.nodes.lookup k) :
    ml'.statusOf k = ml.statusOf k :=
  congrArg (Option.map NodeInfo.status) h

theorem statusOf_modify {g : NodeInfo → NodeInfo} {hg : ∀ n, (g n).nodeId = n.nodeId} :
    (ml.modify k g hg).statusOf k = (ml.nodes.lookup k).map fun n => (g n).status := by
  rw [statusOf, lookup_modify_self, Option.map_map]
  rfl

theorem statusOf_updateHeartbeat : (ml.updateHeartbeat id now).statusOf k = ml.statusOf k := by
  by_cases hk : k = id
  · subst hk
    unfold updateHeartbeat
    exact statusOf_modify
  · exact statusOf_congr (lookup_updateHeartbeat_of_ne hk)

theorem statusOf_markSuspect :
    (ml.markSuspect k).statusOf k = (ml.statusOf k).map NodeStatus.suspected := by
  rw [markSuspect, statusOf_modify, statusOf, Option.map_map]
  refine congrArg (fun g => Option.map g (ml.nodes.lookup k)) (funext fun n => ?_)
  cases hstatus : n.status <;> simp [hstatus, NodeStatus.suspected]

theorem statusOf_markDead : (ml.markDead k).statusOf k = (ml.statusOf k).map fun _ => .dead := by
  rw [markDead, statusOf_modify, statusOf, Option.map_map]
  rfl

theorem statusOf_removeNode :
    (ml.removeNode id).statusOf k = if id = k then none else ml.statusOf k := by
  split
  next heq =>
    rw [heq, statusOf, lookup_removeNode_self]
    rfl
  next hne => exact statusOf_congr (lookup_removeNode_of_ne (Ne.symm hne))

theorem statusOf_addOrUpdateNode {node : NodeInfo} (hid : node.nodeId = k)
    (hk : k ≠ ml.localNodeId) : (ml.addOrUpdateNode node now).statusOf k = some node.status := by
  subst hid
  have hne : ¬ node.nodeId = ml.localNode.nodeId := hk
  rw [addOrUpdateNode, dif_neg hne]
  split
  next hknown =>
    obtain ⟨n, hn⟩ := Option.isSome_iff_exists.mp hknown
    rw [statusOf_modify, hn]
    rfl
  next =>
    rw [statusOf, Finmap.lookup_insert]
    rfl

theorem statusOf_handleHeartbeat {heartbeat : HeartbeatPayload} (hk : k ≠ ml.localNodeId) :
    (ml.handleHeartbeat k fromAddr heartbeat now).statusOf k = some heartbeat.status := by
  have hentry : (ml.handleHeartbeat k fromAddr heartbeat now).entry k = some heartbeat.report :=
    entry_handleHeartbeat hk
  have hstatus := congrArg (Option.map Report.status) hentry
  rwa [entry, Option.map_map] at hstatus

/-- Whatever the message, the status it leaves is the one it tells. -/
theorem statusOf_handleMessage (hk : k ≠ ml.localNodeId) :
    (ml.handleMessage fromAddr msg now).statusOf k = msg.tells k (ml.statusOf k) := by
  by_cases hconcerns : msg.concerns = some k
  · rw [ClusterMessage.tells, if_pos hconcerns]
    unfold ClusterMessage.concerns at hconcerns
    unfold handleMessage
    split
    next hm hp =>
      rw [hm, hp] at hconcerns ⊢
      cases hconcerns
      exact statusOf_handleHeartbeat hk
    next hm =>
      rw [hm]
      exact statusOf_updateHeartbeat
    next hm hp =>
      rw [hm, hp] at hconcerns ⊢
      cases hconcerns
      exact statusOf_addOrUpdateNode rfl hk
    next hm hp =>
      rw [hm, hp] at hconcerns ⊢
      cases hconcerns
      exact statusOf_addOrUpdateNode rfl hk
    next hm =>
      rw [hm] at hconcerns ⊢
      cases hconcerns
      exact statusOf_removeNode.trans (if_pos rfl)
    next hm hp =>
      rw [hm, hp] at hconcerns ⊢
      cases hconcerns
      exact statusOf_markSuspect
    next hm hp =>
      rw [hm, hp] at hconcerns ⊢
      cases hconcerns
      exact statusOf_markDead
    next hm hp =>
      rw [hm, hp]
      unfold handleProbeResponse
      split
      next => exact statusOf_updateHeartbeat
      next => rfl
    next =>
      -- what is not handled concerns nobody
      split at hconcerns <;> simp_all
  · rw [ClusterMessage.tells, if_neg hconcerns]
    exact statusOf_congr (lookup_handleMessage_of_ne hconcerns)

theorem statusOf_localNodeId : ml.statusOf ml.localNodeId = none :=
  congrArg (Option.map NodeInfo.status) ml.lookup_local

theorem statusOf_revive :
    (DetectorState.revive ml now k).statusOf k = (ml.statusOf k).map fun _ => .active := by
  rw [DetectorState.revive, modifyAny]
  split
  next heq =>
    have hnone : ml.statusOf k = none := heq ▸ statusOf_localNodeId
    rw [hnone]
    exact hnone
  next =>
    rw [statusOf_modify, statusOf, Option.map_map]
    rfl

end MembershipList

/-- What does not come from the detector. -/
def DetectorEvent.outside : DetectorEvent → Bool
  | .message _ _ | .stats _ _ | .forget _ | .localStatus _ | .seq | .clock _ => true
  | _ => false

def DetectorEvent.tells (k : Uuid) (status : Option NodeStatus) :
    DetectorEvent → Option NodeStatus
  | .message _ msg => msg.tells k status
  | .forget id => if id = k then none else status
  | _ => status

/-- The status that node `k` itself gives in a heartbeat. -/
def DetectorEvent.heartbeatOf (k : Uuid) : DetectorEvent → Option NodeStatus
  | .message _ msg => if msg.nodeId = k then msg.asHeartbeat.map HeartbeatPayload.status else none
  | _ => none

namespace DetectorState
variable {k : Uuid} {s t u : DetectorState} {ms : List DetectorEvent} {e : DetectorEvent}

def statusOf (s : DetectorState) (k : Uuid) : Option NodeStatus := s.membership.statusOf k

def lastHeartbeat (k : Uuid) (ms : List DetectorEvent) : Option NodeStatus :=
  (ms.filterMap (DetectorEvent.heartbeatOf k)).getLast?

/-- What the messages handled one after the other make of a status. -/
def told (k : Uuid) (status : Option NodeStatus) (ms : List DetectorEvent) : Option NodeStatus :=
  ms.foldl (DetectorEvent.tells k) status

theorem Step.statusOf_outside (h : Step s e t) (he : e.outside)
    (hk : k ≠ s.membership.localNodeId) : t.statusOf k = e.tells k (s.statusOf k) := by
  cases h with
  | message => exact MembershipList.statusOf_handleMessage hk
  | forget => exact MembershipList.statusOf_removeNode
  | stats | localStatus | seq | clock => rfl
  | collectSuspects _ | suspect | askHelper _ | noHelper _ | probe | revive | collectDead _
  | markDead | syncStats | remove | finish => cases he

theorem Step.phase_outside (h : Step s e t) (he : e.outside) : t.phase = s.phase := by
  cases h with
  | message | forget | stats | localStatus | seq | clock => rfl
  | collectSuspects _ | suspect | askHelper _ | noHelper _ | probe | revive | collectDead _
  | markDead | syncStats | remove | finish => cases he

/-- What the server handles in a stretch decides the status at its end. -/
theorem statusOf_run (h : Run Step s ms t) (hms : ∀ e ∈ ms, e.outside)
    (hk : k ≠ s.membership.localNodeId) : t.statusOf k = told k (s.statusOf k) ms := by
  induction h with
  | nil s => rfl
  | cons hone hrest ih =>
    obtain ⟨he, hms⟩ := List.forall_mem_cons.mp hms
    rw [ih hms (hone.localNodeId ▸ hk), hone.statusOf_outside he hk]
    rfl

theorem phase_run (h : Run Step s ms t) (hms : ∀ e ∈ ms, e.outside) : t.phase = s.phase := by
  induction h with
  | nil s => rfl
  | cons hone hrest ih =>
    obtain ⟨he, hms⟩ := List.forall_mem_cons.mp hms
    rw [ih hms, hone.phase_outside he]

theorem localNodeId_run (h : Run Step s ms t) :
    t.membership.localNodeId = s.membership.localNodeId := by
  induction h with
  | nil s => rfl
  | cons hone hrest ih => rw [ih, hone.localNodeId]

/-- Where the detector stands in a suspicion of node `k`, and what has become of the node's
status since it was marked. -/
structure Reached (k : Uuid) (s : DetectorState) (ms : List DetectorEvent) (phase : DetectorPhase)
    (u : DetectorState) : Prop where
  phase : u.phase = phase
  status : u.statusOf k = told k ((s.statusOf k).map NodeStatus.suspected) ms
  localNodeId : u.membership.localNodeId = s.membership.localNodeId

namespace Reached
variable {phase phase' : DetectorPhase} {ms' : List DetectorEvent}

/-- A stretch of messages. -/
theorem run (h : Reached k s ms phase u) (hrun : Run Step u ms' t) (hms : ∀ e ∈ ms', e.outside)
    (hk : k ≠ s.membership.localNodeId) : Reached k s (ms ++ ms') phase t where
  phase := (phase_run hrun hms).trans h.phase
  status := by
    rw [statusOf_run hrun hms (h.localNodeId ▸ hk), h.status]
    exact List.foldl_append.symm
  localNodeId := (localNodeId_run hrun).trans h.localNodeId

/-- A step of the detector that leaves the list alone. -/
theorem same (h : Reached k s ms phase u) (hml : t.membership = u.membership)
    (hphase : t.phase = phase') : Reached k s ms phase' t where
  phase := hphase
  status := (congrArg (fun ml => ml.statusOf k) hml).trans h.status
  localNodeId := (congrArg MembershipList.localNodeId hml).trans h.localNodeId

end Reached

/- Node 2, Active and silent for 70 seconds, comes to be suspected; node 3, just heard from, is
   asked to probe it. Node 2 sends a heartbeat with the given status while the probe is out. -/
def helperThree : NodeInfo :=
  { NodeInfo.newLocal 3 "node-3" ⟨.v4 0x0a000003, 7001⟩ 6565 (70 * 1000000000) with
    status := .active }

def aboutToSuspect : DetectorState where
  membership := (Watch.beside .active (70 * 1000000000)).node.membership.addOrUpdateNode
    helperThree (70 * 1000000000)
  now := 70 * 1000000000
  phase := .suspects [2]

def probing : DetectorState where
  membership := aboutToSuspect.membership.markSuspect 2
  now := aboutToSuspect.now
  phase := .probing 2 []

def awaiting : DetectorState := { probing with phase := .awaiting 2 [] }

end DetectorState

end HeadEnd.Cluster
