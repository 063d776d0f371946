import HeadEnd.Cluster.DeadCandidates
import HeadEnd.Cluster.Delegation

/-! A node that probes another one on behalf of a third. Its server takes one datagram
after the other, and the probe waits in the middle of handling one. -/
namespace HeadEnd.Cluster
open Transition

namespace ClusterMessage

def statusRequest (nodeId : Uuid) (seq : UInt32) (now : Int) : ClusterMessage :=
  .new nodeId seq .statusRequest .empty now

def statusResponse (nodeId : Uuid) (seq : UInt32) (payload : StatusResponsePayload) (now : Int) :
    ClusterMessage :=
  .new nodeId seq .statusResponse (.statusResponse payload) now

def probeRequest (nodeId : Uuid) (seq : UInt32) (targetNodeId : Uuid) (now : Int) :
    ClusterMessage :=
  .new nodeId seq .probeRequest (.probeRequest ⟨targetNodeId⟩) now

def probeResponse (nodeId : Uuid) (seq : UInt32) (targetNodeId : Uuid) (isAlive : Bool)
    (now : Int) : ClusterMessage :=
  .new nodeId seq .probeResponse (.probeResponse ⟨targetNodeId, isAlive⟩) now

end ClusterMessage

/-- What the server is in the middle of. -/
inductive ServerTask where
  | idle
  | probing (targetNodeId : Uuid) (requesterAddr : SocketAddr)
  | burying (nodeId : Uuid)

/-- A node with the datagrams that wait in its socket and those it has sent. -/
structure ProbeServer where
  detector : DetectorState
  queue : List (SocketAddr × ClusterMessage)
  task : ServerTask
  sent : List Outgoing

inductive ProbeEvent where
  | arrive (datagram : SocketAddr × ClusterMessage)
  | take (reached : Bool)
  | check
  | bury (removed : Bool)
  | own (e : DetectorEvent)

/-- What the tasks beside the server do. -/
def DetectorEvent.beside : DetectorEvent → Bool
  | .message _ _ | .forget _ => false
  | _ => true

namespace ProbeServer

def membership (s : ProbeServer) : MembershipList := s.detector.membership

def now (s : ProbeServer) : Int := s.detector.now

def setMembership (s : ProbeServer) (ml : MembershipList) : ProbeServer :=
  { s with detector := { s.detector with membership := ml } }

/-- Known, and heard from in the last five seconds. -/
def isAlive (d : DetectorState) (targetNodeId : Uuid) : Bool :=
  (d.membership.getNode targetNodeId).any (fun n => n.timeSinceHeartbeat d.now < fromSecs 5)

def respond (s : ProbeServer) (targetNodeId : Uuid) (requesterAddr : SocketAddr)
    (alive : Bool) : ProbeServer :=
  { s.setMembership s.membership.nextSeq with
    task := .idle
    sent := s.sent ++ [(requesterAddr, .probeResponse s.membership.localNodeId
      s.membership.nextSeq.seqCounter targetNodeId alive s.now)] }

/-- Up to the wait of two seconds. `reached`: the status request could be sent. -/
def handleProbeRequest (s : ProbeServer) (targetNodeId : Uuid) (requesterAddr : SocketAddr)
    (reached : Bool) : ProbeServer :=
  match s.membership.getNode targetNodeId with
  | some node =>
    if reached then
      { s.setMembership s.membership.nextSeq with
        task := .probing targetNodeId requesterAddr
        sent := s.sent ++ [(node.clusterAddr, .statusRequest s.membership.localNodeId
          s.membership.nextSeq.seqCounter s.now)] }
    else
      (s.setMembership s.membership.nextSeq).respond targetNodeId requesterAddr false
  | none => s.respond targetNodeId requesterAddr false

/-- The rest of what a NODE_DEAD leads to can take time as well. -/
def handle (s : ProbeServer) (fromAddr : SocketAddr) (msg : ClusterMessage) (reached : Bool) :
    ProbeServer :=
  match msg.msgType, msg.payload with
  | .probeRequest, .probeRequest payload =>
    s.handleProbeRequest payload.targetNodeId fromAddr reached
  | .nodeDead, .nodeDead payload =>
    { s.setMembership (s.membership.handleMessage fromAddr msg s.now) with
      task := .burying payload.deadNodeId }
  | _, _ => s.setMembership (s.membership.handleMessage fromAddr msg s.now)

/- The check comes after the wait, at whatever the clock then shows. A NODE_DEAD ends with
   the removal of the node unless the database fails. -/
inductive Step : ProbeServer → ProbeEvent → ProbeServer → Prop
  | arrive {s : ProbeServer} {datagram : SocketAddr × ClusterMessage} :
      Step s (.arrive datagram) { s with queue := s.queue ++ [datagram] }
  | take {s : ProbeServer} {fromAddr : SocketAddr} {msg : ClusterMessage}
      {rest : List (SocketAddr × ClusterMessage)} {reached : Bool} :
      s.task = .idle → s.queue = (fromAddr, msg) :: rest →
      Step s (.take reached) ({ s with queue := rest }.handle fromAddr msg reached)
  | check {s : ProbeServer} {targetNodeId : Uuid} {requesterAddr : SocketAddr} :
      s.task = .probing targetNodeId requesterAddr →
      Step s .check (s.respond targetNodeId requesterAddr (isAlive s.detector targetNodeId))
  | bury {s : ProbeServer} {nodeId : Uuid} {removed : Bool} : s.task = .burying nodeId →
      Step s (.bury removed)
        { s.setMembership (if removed then s.membership.removeNode nodeId else s.membership) with
          task := .idle }
  | own {s : ProbeServer} {e : DetectorEvent} {d : DetectorState} : e.beside →
      DetectorState.Step s.detector e d → Step s (.own e) { s with detector := d }

def arrived : ProbeEvent → Option (SocketAddr × ClusterMessage)
  | .arrive datagram => some datagram
  | _ => none

def done : ProbeEvent → Option DetectorEvent
  | .own e => some e
  | _ => none

section Wait
variable {s t u v : ProbeServer} {e : ProbeEvent} {es : List ProbeEvent} {target : Uuid}
  {requester : SocketAddr}

/-- During the wait datagrams pile up, and only the other tasks touch the list. -/
theorem Step.wait (h : Step s e t) (htask : s.task = .probing target requester) (he : e ≠ .check) :
    t.task = .probing target requester ∧ t.sent = s.sent ∧
      t.queue = s.queue ++ (arrived e).toList ∧
      Run DetectorState.Step s.detector (done e).toList t.detector := by
  cases h with
  | arrive => exact ⟨htask, rfl, rfl, .nil _⟩
  | take hidle _ => cases hidle.symm.trans htask
  | check _ => exact absurd rfl he
  | bury hburying => cases hburying.symm.trans htask
  | own _ hstep => exact ⟨htask, rfl, (List.append_nil _).symm, .single hstep⟩

theorem wait_run (h : Run Step s es t) (htask : s.task = .probing target requester)
    (hes : ProbeEvent.check ∉ es) :
    t.task = .probing target requester ∧ t.sent = s.sent ∧
      t.queue = s.queue ++ es.filterMap arrived ∧
      Run DetectorState.Step s.detector (es.filterMap done) t.detector := by
  induction h with
  | nil s => exact ⟨htask, rfl, (List.append_nil _).symm, .nil _⟩
  | @cons s m t e es hone hrest ih =>
    obtain ⟨he, hes⟩ := List.ne_and_not_mem_of_not_mem_cons hes
    obtain ⟨htask, hsent, hqueue, hown⟩ := hone.wait htask he.symm
    obtain ⟨htask', hsent', hqueue', hown'⟩ := ih htask hes
    refine ⟨htask', hsent'.trans hsent, ?_, ?_⟩
    · rw [hqueue', hqueue, List.append_assoc, List.filterMap_eq_flatMap_toList,
        List.filterMap_eq_flatMap_toList, List.flatMap_cons]
    · rw [List.filterMap_eq_flatMap_toList, List.flatMap_cons, ← List.filterMap_eq_flatMap_toList]
      exact hown.append hown'

/-- The status request is sent and the wait begins. -/
theorem handle_probeRequest {request : ClusterMessage} {node : NodeInfo}
    (htype : request.msgType = .probeRequest) (hpayload : request.payload = .probeRequest ⟨target⟩)
    (hknown : s.membership.getNode target = some node) :
    s.handle requester request true =
      { s.setMembership s.membership.nextSeq with
        task := .probing target requester
        sent := s.sent ++ [(node.clusterAddr, .statusRequest s.membership.localNodeId
          s.membership.nextSeq.seqCounter s.now)] } := by
  simp only [handle, htype, hpayload, handleProbeRequest, hknown, if_true]

theorem isAlive_iff {d : DetectorState} : isAlive d target = true ↔
    ∃ m, d.membership.getNode target = some m ∧ m.timeSinceHeartbeat d.now < fromSecs 5 := by
  simp [isAlive, Option.any_eq_true]

/-- The answer is given without anything that has arrived meanwhile: it is positive exactly
if what the tasks beside the server did leaves the target with a heartbeat of the last five
seconds. A status response that is there already is still in the queue. -/
theorem probe_response_alive_iff {rest : List (SocketAddr × ClusterMessage)}
    {request answer : ClusterMessage} {node : NodeInfo} {fromAddr : SocketAddr}
    (hqueue : s.queue = (requester, request) :: rest)
    (htype : request.msgType = .probeRequest) (hpayload : request.payload = .probeRequest ⟨target⟩)
    (hknown : s.membership.getNode target = some node) (htake : Step s (.take true) v)
    (hwait : Run Step v es t) (hes : ProbeEvent.check ∉ es)
    (harrive : .arrive (fromAddr, answer) ∈ es) (hcheck : Step t .check u) :
    (fromAddr, answer) ∈ t.queue ∧ ∃ alive,
      u.sent = s.sent ++
        [(node.clusterAddr, .statusRequest s.membership.localNodeId
          s.membership.nextSeq.seqCounter s.now),
        (requester, .probeResponse t.membership.localNodeId
          t.membership.nextSeq.seqCounter target alive t.now)] ∧
      (alive = true ↔ ∃ d, Run DetectorState.Step v.detector (es.filterMap done) d ∧
        ∃ m, d.membership.getNode target = some m ∧
          m.timeSinceHeartbeat d.now < fromSecs 5) := by
  cases htake with
  | take _ hhead =>
    cases hqueue.symm.trans hhead
    rw [handle_probeRequest (s := { s with queue := rest }) htype hpayload hknown] at hwait ⊢
    obtain ⟨htask, hsent, hpiled, hown⟩ := wait_run hwait rfl hes
    refine ⟨?_, isAlive t.detector target, ?_, ?_⟩
    · rw [hpiled]
      exact List.mem_append_right _ (List.mem_filterMap.mpr ⟨_, harrive, rfl⟩)
    · cases hcheck with
      | check hprobing =>
        cases hprobing.symm.trans htask
        rw [respond, hsent, List.append_assoc]
        rfl
    · rw [isAlive_iff]
      constructor
      · exact fun hfresh => ⟨t.detector, hown, hfresh⟩
      · intro hfresh
        obtain ⟨d, hrun, hfresh⟩ := hfresh
        rwa [hown.det (fun _ _ _ _ h k => h.det k) hrun]

end Wait

/- Node 3 asks node 1 to probe node 2, which was last heard from at time zero. -/
def askedAt (now : Int) : ProbeServer where
  detector := { DetectorState.watching with now }
  queue := [(⟨.v4 0x7f000001, 7002⟩, .probeRequest 3 1 2 now)]
  task := .idle
  sent := []

def waitingAt (now : Int) : ProbeServer :=
  { askedAt now with queue := [] }.handle ⟨.v4 0x7f000001, 7002⟩ (.probeRequest 3 1 2 now) true

def answerOf (now : Int) : SocketAddr × ClusterMessage :=
  (⟨.v4 0x7f000001, 7001⟩, .statusResponse 2 1 ⟨"node-2", .active, 0, 0, 0, 1000, 6565, []⟩ now)

/- The answer has arrived, and two seconds have passed. -/
def answeredAt (now : Int) : ProbeServer :=
  { waitingAt now with
    detector := { (waitingAt now).detector with now := now + 2000000000 }
    queue := [answerOf now] }

theorem take_askedAt (now : Int) : Step (askedAt now) (.take true) (waitingAt now) :=
  .take rfl rfl

theorem run_answeredAt (now : Int) : Run Step (waitingAt now)
    [.arrive (answerOf now), .own (.clock (now + 2000000000))] (answeredAt now) :=
  .cons .arrive (.single (.own rfl .clock))

/-- A target that was heard from a second before the request. -/
theorem probe_response_alive_iff_recent : ∃ u, Step (answeredAt 1000000000) .check u ∧
    (⟨.v4 0x7f000001, 7002⟩, .probeResponse 1 2 2 true 3000000000) ∈ u.sent := by
  have hcheck : Step (answeredAt 1000000000) .check _ := .check rfl
  obtain ⟨-, alive, hsent, halive⟩ := probe_response_alive_iff rfl rfl rfl
    (by decide +kernel : _ = some DetectorState.silentNode) (take_askedAt 1000000000)
    (run_answeredAt 1000000000) (by simp) List.mem_cons_self hcheck
  have hrun : Run DetectorState.Step (waitingAt 1000000000).detector [.clock 3000000000]
      (answeredAt 1000000000).detector := .single .clock
  have htrue : alive = true :=
    halive.mpr ⟨_, hrun, DetectorState.silentNode, by decide +kernel, by decide +kernel⟩
  refine ⟨_, hcheck, ?_⟩
  rw [hsent, htrue]
  exact List.mem_append_right _ (List.mem_cons_of_mem _ (List.mem_singleton.mpr rfl))

theorem answered_probe_not_alive : ¬ ∀ (s t u v : ProbeServer) (es : List ProbeEvent)
    (rest : List (SocketAddr × ClusterMessage)) (request answer : ClusterMessage)
    (node : NodeInfo) (target : Uuid) (fromAddr requester : SocketAddr),
    s.queue = (requester, request) :: rest → request.msgType = .probeRequest →
      request.payload = .probeRequest ⟨target⟩ → s.membership.getNode target = some node →
      Step s (.take true) v → Run Step v es t → ProbeEvent.check ∉ es →
      .arrive (fromAddr, answer) ∈ es → answer.nodeId = target →
      answer.msgType = .statusResponse → Step t .check u →
      (requester, .probeResponse t.membership.localNodeId t.membership.nextSeq.seqCounter target
        true t.now) ∈ u.sent := by
  intro h
  let now : Int := 100000000000
  have hcheck : Step (answeredAt now) .check _ := .check rfl
  have hsent := h (askedAt now) (answeredAt now) _ (waitingAt now) _ [] _ _ DetectorState.silentNode
    2 _ _ rfl rfl rfl (by decide +kernel) (take_askedAt now) (run_answeredAt now) (by simp)
    List.mem_cons_self rfl rfl hcheck
  revert hsent
  decide +kernel

end ProbeServer

end HeadEnd.Cluster
