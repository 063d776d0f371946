import HeadEnd.Cluster.FailureDetector

/-! Is a node that the detector marks Dead still due when it is marked? -/
namespace HeadEnd.Cluster
open Transition

/-- The node whose entry handling the message may renew, create or mark Dead. -/
def ClusterMessage.renews (msg : ClusterMessage) : Option Uuid :=
  match msg.msgType, msg.payload with
  | .heartbeat, .heartbeat _ => some msg.nodeId
  | .heartbeatAck, _ => some msg.nodeId
  | .statusResponse, .statusResponse _ => some msg.nodeId
  | .nodeJoin, .nodeJoin _ => some msg.nodeId
  | .nodeDead, .nodeDead payload => some payload.deadNodeId
  | .probeResponse, .probeResponse payload =>
    if payload.isAlive then some payload.targetNodeId else none
  | _, _ => none

namespace MembershipList
variable {ml : MembershipList} {k : Uuid} {n : NodeInfo} {now : Int} {fromAddr : SocketAddr}
  {msg : ClusterMessage}

theorem lookup_handleHeartbeat_of_ne {id : Uuid} {heartbeat : HeartbeatPayload} (h : k ≠ id) :
    (ml.handleHeartbeat id fromAddr heartbeat now).nodes.lookup k = ml.nodes.lookup k := by
  unfold handleHeartbeat
  split
  · exact lookup_modifyAny_of_ne h
  · exact lookup_addOrUpdateNode_of_ne h

theorem lookup_markSuspect {id : Uuid} (hn : (ml.markSuspect id).nodes.lookup k = some n) :
    ∃ m, ml.nodes.lookup k = some m ∧ (m.status = .suspect → n = m) := by
  by_cases h : k = id
  · subst h
    rw [markSuspect, lookup_modify_self, Option.map_eq_some_iff] at hn
    obtain ⟨m, hm, rfl⟩ := hn
    exact ⟨m, hm, fun hs => by simp [hs]⟩
  · rw [markSuspect, lookup_modify_of_ne h] at hn
    exact ⟨n, hn, fun _ => rfl⟩

/-- A message that is not about node `k` leaves a Suspect entry for `k` alone, or
removes it. -/
theorem lookup_handleMessage (h : msg.renews ≠ some k)
    (hn : (ml.handleMessage fromAddr msg now).nodes.lookup k = some n) :
    ∃ m, ml.nodes.lookup k = some m ∧ (m.status = .suspect → n = m) := by
  have hdone : Handles ml fromAddr msg now (ml.handleMessage fromAddr msg now) :=
    handleMessage_handles
  generalize ml.handleMessage fromAddr msg now = ml' at hdone hn
  have same : ml'.nodes.lookup k = ml.nodes.lookup k →
      ∃ m, ml.nodes.lookup k = some m ∧ (m.status = .suspect → n = m) :=
    fun heq => ⟨n, heq ▸ hn, fun _ => rfl⟩
  have other : ∀ id, msg.renews = some id → k ≠ id := fun id hid he => h (he ▸ hid)
  unfold ClusterMessage.renews at other
  cases hdone with
  | heartbeat hm hp => exact same (lookup_handleHeartbeat_of_ne (other _ (by rw [hm, hp])))
  | ack hm => exact same (lookup_updateHeartbeat_of_ne (other _ (by rw [hm])))
  | status hm hp => exact same (lookup_addOrUpdateNode_of_ne (other _ (by rw [hm, hp])))
  | join hm hp => exact same (lookup_addOrUpdateNode_of_ne (other _ (by rw [hm, hp])))
  | leave _ => exact ⟨n, lookup_of_lookup_removeNode hn, fun _ => rfl⟩
  | suspect => exact lookup_markSuspect hn
  | dead hm hp => exact same (lookup_markDead_of_ne (other _ (by rw [hm, hp])))
  | alive hm hp halive =>
    refine same (lookup_updateHeartbeat_of_ne (other _ ?_))
    rw [hm, hp]
    exact if_pos halive
  | kept => exact same rfl

@[simp] theorem handleMessage_config : (ml.handleMessage fromAddr msg now).config = ml.config := by
  have hdone : Handles ml fromAddr msg now (ml.handleMessage fromAddr msg now) :=
    handleMessage_handles
  generalize ml.handleMessage fromAddr msg now = ml' at hdone
  cases hdone with
  | heartbeat _ _ =>
    unfold handleHeartbeat
    split
    · exact modifyAny_config
    · exact addOrUpdateNode_config
  | ack _ | alive _ _ _ => exact updateHeartbeat_config
  | status _ _ | join _ _ => exact addOrUpdateNode_config
  | suspect | dead _ _ => exact modify_config
  | leave _ | kept => rfl

end MembershipList

namespace DetectorPhase

/-- The candidates that are still to be marked Dead. -/
def pending : DetectorPhase → List Uuid
  | .dead rest | .burying _ rest | .removing _ rest => rest
  | .waiting | .suspects _ | .probing _ _ | .awaiting _ _ | .reviving _ _ => []

/-- With the one that is being dealt with. -/
def queue : DetectorPhase → List Uuid
  | .dead rest => rest
  | .burying id rest | .removing id rest => id :: rest
  | .waiting | .suspects _ | .probing _ _ | .awaiting _ _ | .reviving _ _ => []

end DetectorPhase

namespace DetectorState
variable {s t : DetectorState} {id : Uuid} {n : NodeInfo}

/-- Of a node that waits to be marked Dead, no message is handled that renews its
entry, and the clock does not run backwards. -/
def Undisturbed (s : DetectorState) : DetectorEvent → Prop
  | .message _ msg => ∀ id ∈ s.phase.pending, msg.renews ≠ some id
  | .clock now' => s.phase.pending = [] ∨ s.now ≤ now'
  | _ => True

structure Inv (s : DetectorState) : Prop where
  nodup : s.phase.queue.Nodup
  due : ∀ id ∈ s.phase.pending, ∀ n, s.membership.nodes.lookup id = some n →
    s.membership.isDeadCandidate s.now n

theorem isDeadCandidate_iff {ml : MembershipList} {now : Int} : ml.isDeadCandidate now n ↔
    n.status = .suspect ∧
      ml.config.suspectTimeout + ml.config.deadTimeout < n.timeSinceHeartbeat now := by
  simp [MembershipList.isDeadCandidate]

/-- A change of the list that keeps Suspect entries or drops them. -/
theorem Inv.of_membership {ml ml' : MembershipList} {now : Int} {phase : DetectorPhase}
    (h : Inv ⟨ml, now, phase⟩) (hconfig : ml'.config = ml.config)
    (hkeep : ∀ id ∈ phase.pending, ∀ n, ml'.nodes.lookup id = some n →
      ∃ m, ml.nodes.lookup id = some m ∧ (m.status = .suspect → n = m)) :
    Inv ⟨ml', now, phase⟩ := by
  refine ⟨h.nodup, fun id hid n hn => ?_⟩
  obtain ⟨m, hm, hnm⟩ := hkeep id hid n hn
  have hdue := isDeadCandidate_iff.mp (h.due id hid m hm)
  obtain rfl := hnm hdue.1
  rw [isDeadCandidate_iff, hconfig]
  exact hdue

theorem Inv.step {e : DetectorEvent} (h : s.Inv) (hstep : Guarded Undisturbed Step s e t) :
    t.Inv := by
  obtain ⟨hguard, hstep⟩ := hstep
  cases hstep with
  | collectSuspects _ => exact ⟨List.nodup_nil, by simp [DetectorPhase.pending]⟩
  | @suspect ml now id rest =>
    unfold suspect
    split
    · exact ⟨List.nodup_nil, by simp [DetectorPhase.pending]⟩
    · split <;> exact ⟨List.nodup_nil, by simp [DetectorPhase.pending]⟩
  | askHelper _ | probe => split <;> exact ⟨List.nodup_nil, by simp [DetectorPhase.pending]⟩
  | noHelper _ | revive => exact ⟨List.nodup_nil, by simp [DetectorPhase.pending]⟩
  | @collectDead ml now l hl =>
    refine ⟨hl.1, fun id hid n hn => ?_⟩
    obtain ⟨m, hm, hdue⟩ := MembershipList.mem_candidates.mp (hl.mem_iff.mp hid)
    obtain rfl := Option.some.inj (hn.symm.trans hm)
    exact hdue
  | @markDead ml now id rest =>
    have hnd := List.nodup_cons.mp h.nodup
    have hrest : Inv ⟨ml, now, .dead rest⟩ :=
      ⟨hnd.2, fun k hk => h.due k (List.mem_cons_of_mem id hk)⟩
    unfold markDead
    split
    · -- the other candidates are other nodes
      refine ⟨h.nodup, (hrest.of_membership MembershipList.markDead_config fun k hk n hn => ?_).due⟩
      have hne : k ≠ id := fun he => hnd.1 (he ▸ hk)
      rw [MembershipList.lookup_markDead_of_ne hne] at hn
      exact ⟨n, hn, fun _ => rfl⟩
    · exact hrest
  | syncStats => exact ⟨h.nodup, h.due⟩
  | @remove ml now id rest =>
    have hrest : Inv ⟨ml, now, .dead rest⟩ := ⟨(List.nodup_cons.mp h.nodup).2, h.due⟩
    exact hrest.of_membership rfl fun k _ n hn =>
      ⟨n, MembershipList.lookup_of_lookup_removeNode hn, fun _ => rfl⟩
  | finish => exact ⟨List.nodup_nil, by simp [DetectorPhase.pending]⟩
  | message =>
    exact h.of_membership MembershipList.handleMessage_config fun k hk n hn =>
      MembershipList.lookup_handleMessage (hguard k hk) hn
  | stats => exact ⟨h.nodup, h.due⟩
  | forget =>
    exact h.of_membership rfl fun k _ n hn =>
      ⟨n, MembershipList.lookup_of_lookup_removeNode hn, fun _ => rfl⟩
  | localStatus => exact ⟨h.nodup, h.due⟩
  | seq => exact ⟨h.nodup, h.due⟩
  | @clock ml now now' phase =>
    refine ⟨h.nodup, fun k hk n hn => ?_⟩
    rcases hguard with hnone | hle
    · rw [show phase.pending = [] from hnone] at hk
      cases hk
    · have hdue := isDeadCandidate_iff.mp (h.due k hk n hn)
      exact isDeadCandidate_iff.mpr
        ⟨hdue.1, Nat.lt_of_lt_of_le hdue.2 (n.timeSinceHeartbeat_mono hle)⟩

/-- In every run whose steps are all undisturbed, a node that is about to be
marked Dead is Suspect and has been silent for longer than both timeouts. -/
theorem marked_dead_only_when_due {es : List DetectorEvent} {rest : List Uuid}
    (hstart : s.phase = .waiting) (hrun : Run (Guarded Undisturbed Step) s es t)
    (hphase : t.phase = .dead (id :: rest)) (hn : t.membership.nodes.lookup id = some n) :
    n.status = .suspect ∧ t.membership.config.suspectTimeout + t.membership.config.deadTimeout <
      n.timeSinceHeartbeat t.now := by
  have hinit : s.Inv := by
    refine ⟨?_, ?_⟩
    · rw [hstart]
      exact List.nodup_nil
    · rw [hstart]
      simp [DetectorPhase.pending]
  have hinv := Run.invariant Inv (fun _ _ _ h hstep => h.step hstep) hrun hinit
  refine isDeadCandidate_iff.mp (hinv.due id ?_ n hn)
  rw [hphase]
  exact List.mem_cons_self

/- Node 1 watches node 2, Suspect and silent since time zero. Both timeouts are a
   minute and 200 seconds have passed. -/
def silentNode : NodeInfo :=
  { NodeInfo.newLocal 2 "node-2" ⟨.v4 0x7f000001, 7001⟩ 6565 0 with status := .suspect }

def watching : DetectorState where
  membership := (MembershipList.new ⟨1, "node-1", ⟨.v4 0x7f000001, 7000⟩, 6565,
    fromSecs 60, fromSecs 60⟩ 0).addOrUpdateNode silentNode 0
  now := 200 * 1000000000
  phase := .waiting

def heartbeatFrom (nodeId : Uuid) : ClusterMessage :=
  .new nodeId 1 .heartbeat (.heartbeat ⟨.active, 0, 0, 0, 1000, []⟩) watching.now

def found : DetectorState := { watching with phase := .dead [2] }

theorem watching_finds : Run (Guarded Undisturbed Step) watching
    [.collectSuspects [], .collectDead [2]] found := by
  have hsuspects : Guarded Undisturbed Step watching (.collectSuspects [])
      { watching with phase := .suspects [] } :=
    ⟨trivial, .collectSuspects ⟨List.nodup_nil, by decide +kernel⟩⟩
  have hdead : Guarded Undisturbed Step { watching with phase := .suspects [] }
      (.collectDead [2]) found :=
    ⟨trivial, .collectDead ⟨List.nodup_singleton 2, by decide +kernel⟩⟩
  exact .cons hsuspects (.single hdead)

/-- A heartbeat of node 3 changes nothing for node 2. -/
theorem marked_dead_only_when_due_found :
    silentNode.status = .suspect ∧ fromSecs 60 + fromSecs 60 <
      silentNode.timeSinceHeartbeat watching.now := by
  have hthree : (heartbeatFrom 3).renews = some 3 := rfl
  have hguard : ∀ id ∈ [(2 : Uuid)], (heartbeatFrom 3).renews ≠ some id := by
    intro id hid
    rw [List.mem_singleton.mp hid, hthree]
    decide
  have hother : Guarded Undisturbed Step found (.message ⟨.v4 0x7f000001, 7002⟩ (heartbeatFrom 3))
      _ := ⟨hguard, .message⟩
  exact marked_dead_only_when_due rfl (watching_finds.append (.single hother)) rfl
    (MembershipList.lookup_handleHeartbeat_of_ne (by decide))

/-- A heartbeat of node 2 itself, handled before the detector gets to it. -/
theorem marked_dead_while_alive :
    ¬ ∀ es t id rest n, Run Step watching es t → t.phase = .dead (id :: rest) →
      t.membership.nodes.lookup id = some n →
      n.status = .suspect ∧ t.membership.config.suspectTimeout + t.membership.config.deadTimeout <
        n.timeSinceHeartbeat t.now := by
  intro h
  have hbeat : Step found (.message ⟨.v4 0x7f000001, 7001⟩ (heartbeatFrom 2)) _ := .message
  have hlookup : ((found.membership.handleMessage ⟨.v4 0x7f000001, 7001⟩ (heartbeatFrom 2)
      found.now).nodes.lookup 2).map NodeInfo.status = some .active := by decide +kernel
  obtain ⟨n, hn, hstatus⟩ := Option.map_eq_some_iff.mp hlookup
  have hdue := h _ _ 2 [] n (watching_finds.of_guarded.append (.single hbeat)) rfl hn
  rw [hstatus] at hdue
  exact absurd hdue.1 (by decide)

end DetectorState

end HeadEnd.Cluster
