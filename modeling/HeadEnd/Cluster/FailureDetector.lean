import HeadEnd.Cluster.Membership
import HeadEnd.Cluster.Message
import HeadEnd.Lib.Transition

/-! The failure detector of a node, running beside the server that handles
messages. Candidates are collected under a read lock and dealt with one by one
under later write locks. -/
namespace HeadEnd.Cluster
open Transition

namespace MembershipList

/-- Eight hexadecimal digits of the id, as its text begins. -/
def shortName (nodeId : Uuid) : String :=
  let digits := Nat.toDigits 16 (nodeId.toNat / 2 ^ 96)
  "node-" ++ String.ofList (List.replicate (8 - digits.length) '0' ++ digits)

def handleHeartbeat (ml : MembershipList) (nodeId : Uuid) (fromAddr : SocketAddr)
    (heartbeat : HeartbeatPayload) (now : Int) : MembershipList :=
  if (ml.getNode nodeId).isSome then
    ml.modifyAny nodeId
      (fun n => { n with
        status := heartbeat.status
        bucketCount := heartbeat.bucketCount.toUInt32
        deviceCount := heartbeat.deviceCount
        loadPercent := (heartbeat.loadPercent.toNat : ℚ)
        maxDeviceSuggested := heartbeat.maxDeviceSuggested
        lastHeartbeat := now })
      (fun _ => rfl)
  else
    ml.addOrUpdateNode
      { nodeId
        nodeName := shortName nodeId
        clusterAddr := fromAddr
        backdoorPort := 6565
        status := heartbeat.status
        startedAt := now
        lastHeartbeat := now
        bucketCount := heartbeat.bucketCount.toUInt32
        deviceCount := heartbeat.deviceCount
        maxDeviceSuggested := heartbeat.maxDeviceSuggested
        loadPercent := (heartbeat.loadPercent.toNat : ℚ) } now

def handleHeartbeatAck (ml : MembershipList) (nodeId : Uuid) (now : Int) : MembershipList :=
  ml.updateHeartbeat nodeId now

def handleStatusResponse (ml : MembershipList) (nodeId : Uuid) (fromAddr : SocketAddr)
    (status : StatusResponsePayload) (now : Int) : MembershipList :=
  (ml.addOrUpdateNode
    { nodeId
      nodeName := status.nodeName
      clusterAddr := fromAddr
      backdoorPort := status.backdoorPort
      status := status.status
      startedAt := now
      lastHeartbeat := now
      bucketCount := status.bucketCount.toUInt32
      deviceCount := status.deviceCount
      maxDeviceSuggested := status.maxDeviceSuggested
      loadPercent := (status.loadPercent.toNat : ℚ) } now).nextSeq

/-- The port is the one announced, the host the one the datagram came from. -/
def handleNodeJoin (ml : MembershipList) (nodeId : Uuid) (fromAddr : SocketAddr)
    (join : NodeJoinPayload) (now : Int) : MembershipList :=
  ml.addOrUpdateNode
    { nodeId
      nodeName := join.nodeName
      clusterAddr := ⟨fromAddr.ip, join.clusterAddr.port⟩
      backdoorPort := join.backdoorPort
      status := .starting
      startedAt := now
      lastHeartbeat := now
      bucketCount := 0
      deviceCount := 0
      maxDeviceSuggested := NodeInfo.defaultMaxDevices
      loadPercent := 0 } now

def handleProbeResponse (ml : MembershipList) (response : ProbeResponsePayload) (now : Int) :
    MembershipList :=
  if response.isAlive then ml.updateHeartbeat response.targetNodeId now else ml

/-- What handling a message does to the list at once. The rest of what a
NODE_DEAD leads to comes as `stats` and `forget` below. -/
def handleMessage (ml : MembershipList) (fromAddr : SocketAddr) (msg : ClusterMessage)
    (now : Int) : MembershipList :=
  match msg.msgType, msg.payload with
  | .heartbeat, .heartbeat heartbeat => ml.handleHeartbeat msg.nodeId fromAddr heartbeat now
  | .heartbeatAck, _ => ml.handleHeartbeatAck msg.nodeId now
  | .statusResponse, .statusResponse status =>
    ml.handleStatusResponse msg.nodeId fromAddr status now
  | .nodeJoin, .nodeJoin join => ml.handleNodeJoin msg.nodeId fromAddr join now
  | .nodeLeave, _ => ml.removeNode msg.nodeId
  | .nodeSuspect, .nodeSuspect payload => ml.markSuspect payload.suspectNodeId
  | .nodeDead, .nodeDead payload => ml.markDead payload.deadNodeId
  | .probeResponse, .probeResponse payload => ml.handleProbeResponse payload now
  | _, _ => ml

/-- All that handling a message can do to the list. -/
inductive Handles (ml : MembershipList) (fromAddr : SocketAddr) (msg : ClusterMessage)
    (now : Int) : MembershipList → Prop
  | heartbeat {hb : HeartbeatPayload} : msg.msgType = .heartbeat → msg.payload = .heartbeat hb →
      Handles ml fromAddr msg now (ml.handleHeartbeat msg.nodeId fromAddr hb now)
  | ack : msg.msgType = .heartbeatAck →
      Handles ml fromAddr msg now (ml.updateHeartbeat msg.nodeId now)
  | status {st : StatusResponsePayload} : msg.msgType = .statusResponse →
      msg.payload = .statusResponse st →
      Handles ml fromAddr msg now (ml.handleStatusResponse msg.nodeId fromAddr st now)
  | join {j : NodeJoinPayload} : msg.msgType = .nodeJoin → msg.payload = .nodeJoin j →
      Handles ml fromAddr msg now (ml.handleNodeJoin msg.nodeId fromAddr j now)
  | leave : msg.msgType = .nodeLeave → Handles ml fromAddr msg now (ml.removeNode msg.nodeId)
  | suspect {id : Uuid} : Handles ml fromAddr msg now (ml.markSuspect id)
  | dead {p : NodeDeadPayload} : msg.msgType = .nodeDead → msg.payload = .nodeDead p →
      Handles ml fromAddr msg now (ml.markDead p.deadNodeId)
  | alive {p : ProbeResponsePayload} : msg.msgType = .probeResponse →
      msg.payload = .probeResponse p → p.isAlive = true →
      Handles ml fromAddr msg now (ml.updateHeartbeat p.targetNodeId now)
  | kept : Handles ml fromAddr msg now ml

theorem handleMessage_handles {ml : MembershipList} {fromAddr : SocketAddr}
    {msg : ClusterMessage} {now : Int} :
    Handles ml fromAddr msg now (ml.handleMessage fromAddr msg now) := by
  unfold handleMessage
  split
  next hm hp => exact .heartbeat hm hp
  next hm => exact .ack hm
  next hm hp => exact .status hm hp
  next hm hp => exact .join hm hp
  next hm => exact .leave hm
  next => exact .suspect
  next hm hp => exact .dead hm hp
  next hm hp =>
    unfold handleProbeResponse
    split
    next halive => exact .alive hm hp halive
    next => exact .kept
  next => exact .kept

end MembershipList

/-- Where the detector is in its round. -/
inductive DetectorPhase where
  | waiting
  | suspects (rest : List Uuid)
  | probing (nodeId : Uuid) (rest : List Uuid)
  | awaiting (nodeId : Uuid) (rest : List Uuid)
  | reviving (nodeId : Uuid) (rest : List Uuid)
  | dead (rest : List Uuid)
  | burying (nodeId : Uuid) (rest : List Uuid)
  | removing (nodeId : Uuid) (rest : List Uuid)

structure DetectorState where
  membership : MembershipList
  now : Int
  phase : DetectorPhase

inductive DetectorEvent where
  | collectSuspects (l : List Uuid)
  | suspect
  | askHelper (helper : NodeInfo) (sent : Bool)
  | noHelper
  | probe
  | revive
  | collectDead (l : List Uuid)
  | markDead
  | syncStats (deviceCount : UInt32)
  | remove
  | finish
  | message (fromAddr : SocketAddr) (msg : ClusterMessage)
  | stats (bucketCount deviceCount : UInt32)
  | forget (nodeId : Uuid)
  | localStatus (status : NodeStatus)
  | seq
  | clock (now : Int)

namespace DetectorState

/-- `handle_suspect_node` under its write lock: a node heard from meanwhile is
let off. -/
def suspect (ml : MembershipList) (now : Int) (nodeId : Uuid) (rest : List Uuid) :
    MembershipList × DetectorPhase :=
  match ml.getNode nodeId with
  | none => (ml, .suspects rest)
  | some node =>
    if node.timeSinceHeartbeat now ≤ ml.config.suspectTimeout then (ml, .suspects rest)
    else (ml.markSuspect nodeId, .probing nodeId rest)

/-- A node that `indirect_probe` may ask: an active one, other than the target. -/
def IsHelper (ml : MembershipList) (target : Uuid) (n : NodeInfo) : Prop :=
  ml.nodes.lookup n.nodeId = some n ∧ n.isAvailable ∧ n.nodeId ≠ target

/-- The node's heartbeat is fresh after the wait. -/
def probeResult (ml : MembershipList) (now : Int) (nodeId : Uuid) : Bool :=
  (ml.getNode nodeId).any (fun n => n.timeSinceHeartbeat now < ml.config.suspectTimeout)

def revive (ml : MembershipList) (now : Int) (nodeId : Uuid) : MembershipList :=
  ml.modifyAny nodeId (fun n => { n with lastHeartbeat := now, status := .active }) (fun _ => rfl)

/-- `handle_dead_node` under its first write lock: nothing is checked again. -/
def markDead (ml : MembershipList) (nodeId : Uuid) (rest : List Uuid) :
    MembershipList × DetectorPhase :=
  if (ml.getNode nodeId).isSome then (ml.markDead nodeId, .burying nodeId rest)
  else (ml, .dead rest)

inductive Step : DetectorState → DetectorEvent → DetectorState → Prop
  | collectSuspects {ml : MembershipList} {now : Int} {l : List Uuid} :
      Lists l (ml.getSuspectCandidates now) →
      Step ⟨ml, now, .waiting⟩ (.collectSuspects l) ⟨ml, now, .suspects l⟩
  | suspect {ml : MembershipList} {now : Int} {id : Uuid} {rest : List Uuid} :
      Step ⟨ml, now, .suspects (id :: rest)⟩ .suspect
        ⟨(suspect ml now id rest).1, now, (suspect ml now id rest).2⟩
  -- a request that cannot be sent ends the probe, as the lack of a helper does
  | askHelper {ml : MembershipList} {now : Int} {id : Uuid} {rest : List Uuid} {helper : NodeInfo}
      {sent : Bool} : IsHelper ml id helper →
      Step ⟨ml, now, .probing id rest⟩ (.askHelper helper sent)
        ⟨ml, now, if sent then .awaiting id rest else .suspects rest⟩
  | noHelper {ml : MembershipList} {now : Int} {id : Uuid} {rest : List Uuid} :
      (∀ n, ¬ IsHelper ml id n) →
      Step ⟨ml, now, .probing id rest⟩ .noHelper ⟨ml, now, .suspects rest⟩
  | probe {ml : MembershipList} {now : Int} {id : Uuid} {rest : List Uuid} :
      Step ⟨ml, now, .awaiting id rest⟩ .probe
        ⟨ml, now, if probeResult ml now id then .reviving id rest else .suspects rest⟩
  | revive {ml : MembershipList} {now : Int} {id : Uuid} {rest : List Uuid} :
      Step ⟨ml, now, .reviving id rest⟩ .revive ⟨revive ml now id, now, .suspects rest⟩
  | collectDead {ml : MembershipList} {now : Int} {l : List Uuid} :
      Lists l (ml.getDeadCandidates now) →
      Step ⟨ml, now, .suspects []⟩ (.collectDead l) ⟨ml, now, .dead l⟩
  | markDead {ml : MembershipList} {now : Int} {id : Uuid} {rest : List Uuid} :
      Step ⟨ml, now, .dead (id :: rest)⟩ .markDead
        ⟨(markDead ml id rest).1, now, (markDead ml id rest).2⟩
  | syncStats {ml : MembershipList} {now : Int} {id : Uuid} {rest : List Uuid} {count : UInt32} :
      Step ⟨ml, now, .burying id rest⟩ (.syncStats count)
        ⟨ml.updateLocalStats ml.localNode.bucketCount count, now, .removing id rest⟩
  | remove {ml : MembershipList} {now : Int} {id : Uuid} {rest : List Uuid} :
      Step ⟨ml, now, .removing id rest⟩ .remove ⟨ml.removeNode id, now, .dead rest⟩
  | finish {ml : MembershipList} {now : Int} :
      Step ⟨ml, now, .dead []⟩ .finish ⟨ml, now, .waiting⟩
  | message {ml : MembershipList} {now : Int} {phase : DetectorPhase} {fromAddr : SocketAddr}
      {msg : ClusterMessage} :
      Step ⟨ml, now, phase⟩ (.message fromAddr msg) ⟨ml.handleMessage fromAddr msg now, now, phase⟩
  | stats {ml : MembershipList} {now : Int} {phase : DetectorPhase} {b c : UInt32} :
      Step ⟨ml, now, phase⟩ (.stats b c) ⟨ml.updateLocalStats b c, now, phase⟩
  | forget {ml : MembershipList} {now : Int} {phase : DetectorPhase} {id : Uuid} :
      Step ⟨ml, now, phase⟩ (.forget id) ⟨ml.removeNode id, now, phase⟩
  | localStatus {ml : MembershipList} {now : Int} {phase : DetectorPhase} {status : NodeStatus} :
      Step ⟨ml, now, phase⟩ (.localStatus status) ⟨ml.setLocalStatus status, now, phase⟩
  | seq {ml : MembershipList} {now : Int} {phase : DetectorPhase} :
      Step ⟨ml, now, phase⟩ .seq ⟨ml.nextSeq, now, phase⟩
  | clock {ml : MembershipList} {now now' : Int} {phase : DetectorPhase} :
      Step ⟨ml, now, phase⟩ (.clock now') ⟨ml, now', phase⟩

theorem Step.det {s t u : DetectorState} {e : DetectorEvent} (h : Step s e t) (k : Step s e u) :
    t = u := by
  cases h <;> cases k <;> rfl

end DetectorState

end HeadEnd.Cluster
