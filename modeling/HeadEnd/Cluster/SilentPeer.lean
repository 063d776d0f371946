import HeadEnd.Cluster.DeadCandidates
import HeadEnd.Cluster.DeathFaults

/-! A peer that has gone silent. The failure detector moves it from Active to Suspect and
from Suspect out of the list, and knows no other way. -/
namespace HeadEnd.Cluster
open Transition

/-- The node whose entry handling the message may change. -/
def ClusterMessage.concerns (msg : ClusterMessage) : Option Uuid :=
  match msg.msgType, msg.payload with
  | .heartbeat, .heartbeat _ => some msg.nodeId
  | .heartbeatAck, _ => some msg.nodeId
  | .statusResponse, .statusResponse _ => some msg.nodeId
  | .nodeJoin, .nodeJoin _ => some msg.nodeId
  | .nodeLeave, _ => some msg.nodeId
  | .nodeSuspect, .nodeSuspect payload => some payload.suspectNodeId
  | .nodeDead, .nodeDead payload => some payload.deadNodeId
  | .probeResponse, .probeResponse payload =>
    if payload.isAlive then some payload.targetNodeId else none
  | _, _ => none

def NodeInfo.withStatus (n : NodeInfo) (status : NodeStatus) : NodeInfo :=
  { n with status := status }

@[simp] theorem NodeInfo.timeSinceHeartbeat_withStatus (n : NodeInfo) (status : NodeStatus)
    (now : Int) : (n.withStatus status).timeSinceHeartbeat now = n.timeSinceHeartbeat now := rfl

namespace MembershipList
variable {ml : MembershipList} {k id : Uuid} {fromAddr : SocketAddr} {msg : ClusterMessage}
  {now : Int}

theorem markSuspect_config : (ml.markSuspect id).config = ml.config := by
  unfold markSuspect
  exact modify_config

theorem lookup_markSuspect_of_ne (h : k ≠ id) :
    (ml.markSuspect id).nodes.lookup k = ml.nodes.lookup k :=
  lookup_modify_of_ne h

theorem lookup_removeNode_of_ne (h : k ≠ id) :
    (ml.removeNode id).nodes.lookup k = ml.nodes.lookup k :=
  Finmap.lookup_erase_ne h

theorem lookup_removeNode_self : (ml.removeNode id).nodes.lookup id = none :=
  Finmap.lookup_erase id ml.nodes

/-- A message about other nodes leaves the entry of `k` alone. -/
theorem lookup_handleMessage_of_ne (h : msg.concerns ≠ some k) :
    (ml.handleMessage fromAddr msg now).nodes.lookup k = ml.nodes.lookup k := by
  have other : ∀ id, msg.concerns = some id → k ≠ id := fun id hid he => h (he ▸ hid)
  unfold ClusterMessage.concerns at other
  unfold handleMessage
  split
  next hm hp => exact lookup_handleHeartbeat_of_ne (other _ (by rw [hm, hp]))
  next hm => exact lookup_updateHeartbeat_of_ne (other _ (by rw [hm]))
  next hm hp => exact lookup_addOrUpdateNode_of_ne (other _ (by rw [hm, hp]))
  next hm hp => exact lookup_addOrUpdateNode_of_ne (other _ (by rw [hm, hp]))
  next hm => exact lookup_removeNode_of_ne (other _ (by rw [hm]))
  next hm hp => exact lookup_markSuspect_of_ne (other _ (by rw [hm, hp]))
  next hm hp => exact lookup_markDead_of_ne (other _ (by rw [hm, hp]))
  next hm hp =>
    unfold handleProbeResponse
    split
    next halive =>
      refine lookup_updateHeartbeat_of_ne (other _ ?_)
      rw [hm, hp]
      exact if_pos halive
    next => rfl
  next => rfl

theorem getNode_of_lookup {n : NodeInfo} (h : ml.nodes.lookup k = some n) :
    ml.getNode k = some n := by
  have hne : k ≠ ml.localNode.nodeId := by
    intro he
    rw [he, ml.lookup_local] at h
    cases h
  rw [getNode, if_neg hne, h]

theorem lookup_markSuspect_self {n : NodeInfo} {status : NodeStatus}
    (h : ml.nodes.lookup k = some (n.withStatus status))
    (hstatus : status = .active ∨ status = .suspect) :
    (ml.markSuspect k).nodes.lookup k = some (n.withStatus .suspect) := by
  rw [markSuspect, lookup_modify_self, h]
  cases hstatus with
  | inl hactive => simp [NodeInfo.withStatus, hactive]
  | inr hsuspect => simp [NodeInfo.withStatus, hsuspect]

theorem lookup_markDead_self {n : NodeInfo} {status : NodeStatus}
    (h : ml.nodes.lookup k = some (n.withStatus status)) :
    (ml.markDead k).nodes.lookup k = some (n.withStatus .dead) := by
  rw [markDead, lookup_modify_self, h]
  rfl

theorem isSuspectCandidate_iff {n : NodeInfo} {now : Int} : ml.isSuspectCandidate now n ↔
    n.status = .active ∧ ml.config.suspectTimeout < n.timeSinceHeartbeat now := by
  simp [isSuspectCandidate]

theorem lookup_modify_none {g : NodeInfo → NodeInfo} {hg : ∀ n, (g n).nodeId = n.nodeId}
    (h : ml.nodes.lookup k = none) : (ml.modify id g hg).nodes.lookup k = none := by
  by_cases hk : k = id
  · rw [← hk, lookup_modify_self, h]
    rfl
  · rw [lookup_modify_of_ne hk, h]

theorem lookup_markSuspect_none (h : ml.nodes.lookup k = none) :
    (ml.markSuspect id).nodes.lookup k = none := by
  unfold markSuspect
  exact lookup_modify_none h

theorem lookup_markDead_none (h : ml.nodes.lookup k = none) :
    (ml.markDead id).nodes.lookup k = none := by
  unfold markDead
  exact lookup_modify_none h

theorem lookup_modifyAny_none {g : NodeInfo → NodeInfo} {hg : ∀ n, (g n).nodeId = n.nodeId}
    (h : ml.nodes.lookup k = none) : (ml.modifyAny id g hg).nodes.lookup k = none := by
  unfold modifyAny
  split
  · exact h
  · exact lookup_modify_none h

theorem lookup_removeNode_none (h : ml.nodes.lookup k = none) :
    (ml.removeNode id).nodes.lookup k = none := by
  by_cases hk : k = id
  · rw [hk, lookup_removeNode_self]
  · rw [lookup_removeNode_of_ne hk, h]

end MembershipList

namespace DetectorState
variable {ml : MembershipList} {now : Int} {id : Uuid} {rest : List Uuid}

theorem suspect_cases (ml : MembershipList) (now : Int) (id : Uuid) (rest : List Uuid) :
    (suspect ml now id rest = (ml, .suspects rest) ∧
        ∀ n, ml.getNode id = some n → n.timeSinceHeartbeat now ≤ ml.config.suspectTimeout) ∨
      (suspect ml now id rest = (ml.markSuspect id, .probing id rest) ∧
        ∃ n, ml.getNode id = some n ∧ ml.config.suspectTimeout < n.timeSinceHeartbeat now) := by
  unfold suspect
  cases hnode : ml.getNode id with
  | none => exact .inl ⟨rfl, by simp⟩
  | some node =>
    dsimp only
    by_cases hheard : node.timeSinceHeartbeat now ≤ ml.config.suspectTimeout
    · exact .inl ⟨if_pos hheard, by simpa using hheard⟩
    · exact .inr ⟨if_neg hheard, node, rfl, Nat.lt_of_not_le hheard⟩

theorem probeResult_iff : probeResult ml now id = true ↔
    ∃ n, ml.getNode id = some n ∧ n.timeSinceHeartbeat now < ml.config.suspectTimeout := by
  simp [probeResult, Option.any_eq_true]

theorem markDead_cases (ml : MembershipList) (id : Uuid) (rest : List Uuid) :
    (markDead ml id rest = (ml, .dead rest) ∧ ml.getNode id = none) ∨
      (markDead ml id rest = (ml.markDead id, .burying id rest) ∧ (ml.getNode id).isSome) := by
  unfold markDead
  by_cases hknown : (ml.getNode id).isSome
  · exact .inr ⟨if_pos hknown, hknown⟩
  · exact .inl ⟨if_neg hknown, Option.not_isSome_iff_eq_none.mp hknown⟩

end DetectorState

namespace DetectorPhase

/-- The node that is being buried or removed. -/
def current : DetectorPhase → Option Uuid
  | .burying id _ | .removing id _ => some id
  | .waiting | .suspects _ | .probing _ _ | .awaiting _ _ | .reviving _ _ | .dead _ => none

/-- The node that is being probed. -/
@[simp] def probed : DetectorPhase → Option Uuid
  | .probing id _ | .awaiting id _ => some id
  | .waiting | .suspects _ | .reviving _ _ | .dead _ | .burying _ _ | .removing _ _ => none

/-- Every node that the detector has still to deal with in its round. -/
def names : DetectorPhase → List Uuid
  | .waiting => []
  | .suspects rest | .dead rest => rest
  | .probing id rest | .awaiting id rest | .reviving id rest | .burying id rest
  | .removing id rest => id :: rest

end DetectorPhase

/-- In a round that began after the node was due, an Active node is still to be suspected,
and the round does not get to the dead ones without it. -/
def DetectorPhase.OnTrack (k : Uuid) (status : NodeStatus) : DetectorPhase → Prop
  | .waiting => True
  | .suspects rest | .probing _ rest | .awaiting _ rest | .reviving _ rest =>
    status = .active → k ∈ rest
  | .dead _ | .burying _ _ | .removing _ _ => False

namespace DetectorState
variable {ml : MembershipList} {now : Int} {id : Uuid} {rest : List Uuid}

def entry (s : DetectorState) (id : Uuid) : Option NodeInfo := s.membership.nodes.lookup id

/-- Nothing is received about node `k`, and the clock does not run backwards. -/
def Quiet (k : Uuid) (s : DetectorState) : DetectorEvent → Prop
  | .message _ msg => msg.concerns ≠ some k
  | .forget id => id ≠ k
  | .clock now' => s.now ≤ now'
  | _ => True

theorem step_suspect {n : NodeInfo} (hn : ml.getNode id = some n)
    (hlong : ml.config.suspectTimeout < n.timeSinceHeartbeat now) :
    Step ⟨ml, now, .suspects (id :: rest)⟩ .suspect ⟨ml.markSuspect id, now, .probing id rest⟩ := by
  have hnext : suspect ml now id rest = (ml.markSuspect id, .probing id rest) := by
    rw [suspect, hn]
    exact if_neg (Nat.not_le.mpr hlong)
  have hstep := @Step.suspect ml now id rest
  rwa [hnext] at hstep

theorem step_markDead (hknown : (ml.getNode id).isSome) :
    Step ⟨ml, now, .dead (id :: rest)⟩ .markDead ⟨ml.markDead id, now, .burying id rest⟩ := by
  have hnext : markDead ml id rest = (ml.markDead id, .burying id rest) := if_pos hknown
  have hstep := @Step.markDead ml now id rest
  rwa [hnext] at hstep

section Step
variable {k : Uuid} {s t : DetectorState} {e : DetectorEvent}

theorem Step.config (h : Step s e t) : t.membership.config = s.membership.config := by
  cases h with
  | @suspect ml now id rest =>
    obtain ⟨hnext, -⟩ | ⟨hnext, -⟩ := suspect_cases ml now id rest <;> rw [hnext]
    exact MembershipList.markSuspect_config
  | @markDead ml now id rest =>
    obtain ⟨hnext, -⟩ | ⟨hnext, -⟩ := markDead_cases ml id rest <;> rw [hnext]
    exact MembershipList.markDead_config
  | revive => exact MembershipList.modifyAny_config
  | message => exact MembershipList.handleMessage_config
  | collectSuspects _ | askHelper _ | noHelper _ | probe | collectDead _ | syncStats | remove
  | finish | stats | forget | localStatus | seq | clock => rfl

theorem Step.now_le (h : Step s e t) (hquiet : Quiet k s e) : s.now ≤ t.now := by
  cases h with
  | clock => exact hquiet
  | collectSuspects _ | suspect | askHelper _ | noHelper _ | probe | revive | collectDead _
  | markDead | syncStats | remove | finish | message | stats | forget | localStatus | seq =>
    exact le_rfl

/-- Only the detector, and only when it has come to the node, writes the node's entry. It
never makes one. -/
theorem Step.entry (h : Step s e t) (hquiet : Quiet k s e) :
    t.entry k = s.entry k ∨ (k ∈ s.phase.names ∧ (s.entry k = none → t.entry k = none)) := by
  have turn : ∀ {id : Uuid} {rest : List Uuid} {ml ml' : MembershipList},
      (k ≠ id → ml'.nodes.lookup k = ml.nodes.lookup k) →
      (ml.nodes.lookup k = none → ml'.nodes.lookup k = none) →
      ml'.nodes.lookup k = ml.nodes.lookup k ∨
        (k ∈ id :: rest ∧ (ml.nodes.lookup k = none → ml'.nodes.lookup k = none)) := by
    intro id rest ml ml' hne hnone
    by_cases hk : k = id
    · exact .inr ⟨hk ▸ List.mem_cons_self, hnone⟩
    · exact .inl (hne hk)
  cases h with
  | @suspect ml now id rest =>
    unfold DetectorState.entry
    obtain ⟨hnext, -⟩ | ⟨hnext, -⟩ := suspect_cases ml now id rest <;> rw [hnext]
    · exact .inl rfl
    · exact turn MembershipList.lookup_markSuspect_of_ne MembershipList.lookup_markSuspect_none
  | @markDead ml now id rest =>
    unfold DetectorState.entry
    obtain ⟨hnext, -⟩ | ⟨hnext, -⟩ := markDead_cases ml id rest <;> rw [hnext]
    · exact .inl rfl
    · exact turn MembershipList.lookup_markDead_of_ne MembershipList.lookup_markDead_none
  | revive => exact turn MembershipList.lookup_modifyAny_of_ne MembershipList.lookup_modifyAny_none
  | remove =>
    exact turn MembershipList.lookup_removeNode_of_ne MembershipList.lookup_removeNode_none
  | message => exact .inl (MembershipList.lookup_handleMessage_of_ne hquiet)
  | forget => exact .inl (MembershipList.lookup_removeNode_of_ne (Ne.symm hquiet))
  | collectSuspects _ | askHelper _ | noHelper _ | probe | collectDead _ | syncStats | finish
  | stats | localStatus | seq | clock => exact .inl rfl

theorem Step.entry_none (h : Step s e t) (hquiet : Quiet k s e) (hnone : s.entry k = none) :
    t.entry k = none := by
  cases h.entry hquiet with
  | inl hsame => exact hsame.trans hnone
  | inr hturn => exact hturn.2 hnone

/-- A node that is neither Active nor Suspect does not come onto the detector's lists. -/
theorem Step.names {n : NodeInfo} (h : Step s e t) (hn : s.entry k = some n)
    (hactive : n.status ≠ .active) (hsuspect : n.status ≠ .suspect) (hk : k ∉ s.phase.names) :
    k ∉ t.phase.names := by
  cases h with
  | collectSuspects hl =>
    intro hmem
    obtain ⟨m, hm, hcandidate⟩ := MembershipList.mem_candidates.mp (hl.mem_iff.mp hmem)
    cases hm.symm.trans hn
    exact hactive (MembershipList.isSuspectCandidate_iff.mp hcandidate).1
  | collectDead hl =>
    intro hmem
    obtain ⟨m, hm, hcandidate⟩ := MembershipList.mem_candidates.mp (hl.mem_iff.mp hmem)
    cases hm.symm.trans hn
    exact hsuspect (isDeadCandidate_iff.mp hcandidate).1
  | @suspect ml now id rest =>
    obtain ⟨hnext, -⟩ | ⟨hnext, -⟩ := suspect_cases ml now id rest <;> rw [hnext]
    · exact fun hmem => hk (List.mem_cons_of_mem id hmem)
    · exact hk
  | @markDead ml now id rest =>
    obtain ⟨hnext, -⟩ | ⟨hnext, -⟩ := markDead_cases ml id rest <;> rw [hnext]
    · exact fun hmem => hk (List.mem_cons_of_mem id hmem)
    · exact hk
  | @askHelper ml now id rest _ _ _ | @probe ml now id rest =>
    dsimp only
    split
    · exact hk
    · exact fun hmem => hk (List.mem_cons_of_mem id hmem)
  | @noHelper ml now id rest _ | @revive ml now id rest | @remove ml now id rest =>
    exact fun hmem => hk (List.mem_cons_of_mem id hmem)
  | finish => exact List.not_mem_nil
  | syncStats | message | stats | forget | localStatus | seq | clock => exact hk

end Step

/-- Where node `k`, with the entry `n` at first, is on its way out of the list. `due`: the
rounds looked at began after both timeouts. `done`: the nodes whose devices have been
redistributed. -/
inductive Fate (k : Uuid) (n : NodeInfo) (due : Prop) (s : DetectorState) (done : Finset Uuid) :
    Prop
  | watched {status : NodeStatus} : status = .active ∨ status = .suspect →
      s.entry k = some (n.withStatus status) → k ∉ s.phase.queue →
      (∀ rest, s.phase ≠ .reviving k rest) →
      (s.phase.probed = some k →
        s.membership.config.suspectTimeout < n.timeSinceHeartbeat s.now) →
      (due → s.phase.OnTrack k status) → Fate k n due s done
  | doomed : s.entry k = some (n.withStatus .suspect) → k ∈ s.phase.pending →
      s.phase.current ≠ some k → Fate k n due s done
  | buried {rest : List Uuid} : s.entry k = some (n.withStatus .dead) →
      s.phase = .burying k rest → Fate k n due s done
  | leaving {rest : List Uuid} : s.entry k = some (n.withStatus .dead) →
      s.phase = .removing k rest → k ∈ done → Fate k n due s done

namespace Fate
variable {k id : Uuid} {n : NodeInfo} {due : Prop} {s t : DetectorState} {done : Finset Uuid}
  {ml : MembershipList} {now : Int} {rest : List Uuid}

/-- What leaves the entry and the round alone. -/
theorem keep (h : Fate k n due s done) (hentry : t.entry k = s.entry k)
    (hphase : t.phase = s.phase) (hconfig : t.membership.config = s.membership.config)
    (hnow : s.now ≤ t.now) : Fate k n due t done := by
  cases h with
  | watched hstatus hn hqueue hrevive hprobe htrack =>
    refine .watched hstatus (hentry.trans hn) (hphase ▸ hqueue) (hphase ▸ hrevive) ?_
      (hphase ▸ htrack)
    intro hprobed
    rw [hconfig]
    exact Nat.lt_of_lt_of_le (hprobe (hphase ▸ hprobed)) (n.timeSinceHeartbeat_mono hnow)
  | doomed hn hpending hcurrent =>
    exact .doomed (hentry.trans hn) (hphase ▸ hpending) (hphase ▸ hcurrent)
  | buried hn hburying => exact .buried (hentry.trans hn) (hphase.trans hburying)
  | leaving hn hremoving hdone => exact .leaving (hentry.trans hn) (hphase.trans hremoving) hdone

/-- Before the dead ones are looked for, the node is just watched. -/
theorem early (h : Fate k n due s done) (hqueue : s.phase.queue = []) :
    ∃ status, (status = .active ∨ status = .suspect) ∧
      s.entry k = some (n.withStatus status) ∧ (∀ rest, s.phase ≠ .reviving k rest) ∧
      (s.phase.probed = some k →
        s.membership.config.suspectTimeout < n.timeSinceHeartbeat s.now) ∧
      (due → s.phase.OnTrack k status) := by
  cases h with
  | watched hstatus hn _ hrevive hprobe htrack => exact ⟨_, hstatus, hn, hrevive, hprobe, htrack⟩
  | doomed _ hpending _ =>
    have hnone : ∀ phase : DetectorPhase, phase.queue = [] → phase.pending = [] := by
      intro phase hempty
      cases phase <;> simp_all [DetectorPhase.queue, DetectorPhase.pending]
    rw [hnone _ hqueue] at hpending
    cases hpending
  | buried _ hphase =>
    rw [hphase] at hqueue
    cases hqueue
  | leaving _ hphase _ =>
    rw [hphase] at hqueue
    cases hqueue

theorem of_waiting {status : NodeStatus} (hstatus : status = .active ∨ status = .suspect)
    (hn : s.entry k = some (n.withStatus status)) (hphase : s.phase = .waiting) :
    Fate k n due s done := by
  refine .watched hstatus hn ?_ ?_ ?_ ?_ <;> simp [hphase, DetectorPhase.queue,
    DetectorPhase.OnTrack]

/-- While the suspects are dealt with. -/
theorem of_suspects {status : NodeStatus} (hstatus : status = .active ∨ status = .suspect)
    (hn : ml.nodes.lookup k = some (n.withStatus status))
    (htrack : due → status = .active → k ∈ rest) :
    Fate k n due ⟨ml, now, .suspects rest⟩ done := by
  refine .watched hstatus hn ?_ ?_ ?_ htrack <;> simp [DetectorPhase.queue]

/- One lemma for each step of the detector. The phase that the step starts from rules out
   most of the places where the node could be. -/

theorem collectSuspects {l : List Uuid} (h : Fate k n due ⟨ml, now, .waiting⟩ done)
    (hlate : due → ml.config.suspectTimeout + ml.config.deadTimeout < n.timeSinceHeartbeat now)
    (hl : Lists l (ml.getSuspectCandidates now)) : Fate k n due ⟨ml, now, .suspects l⟩ done := by
  obtain ⟨status, hstatus, hn, -, -, -⟩ := h.early rfl
  refine .of_suspects hstatus hn fun hdue hactive => ?_
  refine hl.mem_iff.mpr (MembershipList.mem_candidates.mpr ⟨_, hn, ?_⟩)
  exact MembershipList.isSuspectCandidate_iff.mpr
    ⟨hactive, Nat.lt_of_le_of_lt (Nat.le_add_right _ _) (hlate hdue)⟩

/-- A node that is still silent when its turn comes is marked. -/
theorem suspect (h : Fate k n due ⟨ml, now, .suspects (id :: rest)⟩ done)
    (hlate : due → ml.config.suspectTimeout + ml.config.deadTimeout < n.timeSinceHeartbeat now) :
    Fate k n due ⟨(DetectorState.suspect ml now id rest).1, now,
      (DetectorState.suspect ml now id rest).2⟩ done := by
  have hcases := suspect_cases ml now id rest
  generalize DetectorState.suspect ml now id rest = next at hcases ⊢
  obtain ⟨status, hstatus, hn, -, -, htrack⟩ := h.early rfl
  by_cases hk : k = id
  · subst hk
    have hnode : ml.getNode k = _ := MembershipList.getNode_of_lookup hn
    cases hcases with
    | inl hlet =>
      obtain ⟨rfl, hheard⟩ := hlet
      refine .of_suspects hstatus hn fun hdue => ?_
      have hlong := hlate hdue
      have hshort : n.timeSinceHeartbeat now ≤ ml.config.suspectTimeout :=
        hheard (n.withStatus status) hnode
      omega
    | inr hmark =>
      obtain ⟨rfl, node, hget, hlong⟩ := hmark
      cases hnode.symm.trans hget
      refine .watched (.inr rfl) (MembershipList.lookup_markSuspect_self hn hstatus)
        List.not_mem_nil (by simp) (fun _ => ?_) fun _ => by simp [DetectorPhase.OnTrack]
      rw [MembershipList.markSuspect_config]
      exact hlong
  · have hmem : due → status = .active → k ∈ rest := fun hdue hactive =>
      (List.mem_cons.mp (htrack hdue hactive)).resolve_left hk
    cases hcases with
    | inl hlet =>
      obtain ⟨rfl, -⟩ := hlet
      exact .of_suspects hstatus hn hmem
    | inr hmark =>
      obtain ⟨rfl, -⟩ := hmark
      refine .watched hstatus ((MembershipList.lookup_markSuspect_of_ne hk).trans hn)
        List.not_mem_nil (by simp) (fun heq => ?_) hmem
      exact absurd (Option.some.inj heq).symm hk

theorem askHelper {sent : Bool} (h : Fate k n due ⟨ml, now, .probing id rest⟩ done) :
    Fate k n due ⟨ml, now, if sent then .awaiting id rest else .suspects rest⟩ done := by
  obtain ⟨status, hstatus, hn, -, hprobe, htrack⟩ := h.early rfl
  cases sent with
  | true => exact .watched hstatus hn List.not_mem_nil (by simp) hprobe htrack
  | false => exact .of_suspects hstatus hn htrack

/-- The probe of a silent node finds no fresh heartbeat. -/
theorem probe (h : Fate k n due ⟨ml, now, .awaiting id rest⟩ done) :
    Fate k n due ⟨ml, now, if probeResult ml now id then .reviving id rest
      else .suspects rest⟩ done := by
  obtain ⟨status, hstatus, hn, -, hprobe, htrack⟩ := h.early rfl
  by_cases hfresh : probeResult ml now id = true
  · rw [if_pos hfresh]
    refine .watched hstatus hn List.not_mem_nil (fun rest' heq => ?_) (by simp) htrack
    cases heq
    have hlong := hprobe rfl
    have hnode : ml.getNode k = _ := MembershipList.getNode_of_lookup hn
    obtain ⟨m, hm, hshort⟩ := probeResult_iff.mp hfresh
    cases hnode.symm.trans hm
    rw [NodeInfo.timeSinceHeartbeat_withStatus] at hshort
    exact absurd hshort (Nat.not_lt.mpr hlong.le)
  · rw [if_neg hfresh]
    exact .of_suspects hstatus hn htrack

theorem revive (h : Fate k n due ⟨ml, now, .reviving id rest⟩ done) :
    Fate k n due ⟨DetectorState.revive ml now id, now, .suspects rest⟩ done := by
  obtain ⟨status, hstatus, hn, hrevive, -, htrack⟩ := h.early rfl
  have hk : k ≠ id := fun heq => hrevive rest (by rw [heq])
  exact .of_suspects hstatus ((MembershipList.lookup_modifyAny_of_ne hk).trans hn) htrack

/-- A Suspect node that is due is among the dead ones. -/
theorem collectDead {l : List Uuid} (h : Fate k n due ⟨ml, now, .suspects []⟩ done)
    (hlate : due → ml.config.suspectTimeout + ml.config.deadTimeout < n.timeSinceHeartbeat now)
    (hl : Lists l (ml.getDeadCandidates now)) : Fate k n due ⟨ml, now, .dead l⟩ done := by
  obtain ⟨status, hstatus, hn, -, -, htrack⟩ := h.early rfl
  by_cases hk : k ∈ l
  · obtain ⟨m, hm, hdead⟩ := MembershipList.mem_candidates.mp (hl.mem_iff.mp hk)
    cases hm.symm.trans hn
    have hsuspect : status = .suspect := (isDeadCandidate_iff.mp hdead).1
    exact .doomed (hsuspect ▸ hn) hk (by simp [DetectorPhase.current])
  · refine .watched hstatus hn hk (by simp) (by simp) fun hdue => hk ?_
    have hsuspect : status = .suspect :=
      hstatus.resolve_left fun hactive => absurd (htrack hdue hactive) List.not_mem_nil
    refine hl.mem_iff.mpr (MembershipList.mem_candidates.mpr ⟨_, hn, ?_⟩)
    exact isDeadCandidate_iff.mpr ⟨hsuspect, hlate hdue⟩

theorem markDead (h : Fate k n due ⟨ml, now, .dead (id :: rest)⟩ done) :
    Fate k n due ⟨(DetectorState.markDead ml id rest).1, now,
      (DetectorState.markDead ml id rest).2⟩ done := by
  have hcases := markDead_cases ml id rest
  generalize DetectorState.markDead ml id rest = next at hcases ⊢
  cases h with
  | watched hstatus hn hqueue _ _ htrack =>
    have hk : k ≠ id := fun heq => hqueue (heq ▸ List.mem_cons_self)
    cases hcases with
    | inl hskip =>
      rw [hskip.1]
      exact .watched hstatus hn (fun hmem => hqueue (List.mem_cons_of_mem id hmem)) (by simp)
        (by simp) htrack
    | inr hmark =>
      rw [hmark.1]
      exact .watched hstatus ((MembershipList.lookup_markDead_of_ne hk).trans hn) hqueue (by simp)
        (by simp) htrack
  | doomed hn hpending _ =>
    by_cases hk : k = id
    · subst hk
      have hnode : ml.getNode k = _ := MembershipList.getNode_of_lookup hn
      cases hcases with
      | inl hskip => cases hskip.2.symm.trans hnode
      | inr hmark =>
        rw [hmark.1]
        exact .buried (MembershipList.lookup_markDead_self hn) rfl
    · have hmem : k ∈ rest := (List.mem_cons.mp hpending).resolve_left hk
      cases hcases with
      | inl hskip =>
        rw [hskip.1]
        exact .doomed hn hmem (by simp [DetectorPhase.current])
      | inr hmark =>
        rw [hmark.1]
        refine .doomed ((MembershipList.lookup_markDead_of_ne hk).trans hn) hmem ?_
        exact fun heq => hk (Option.some.inj heq).symm
  | buried _ hphase => cases hphase
  | leaving _ hphase _ => cases hphase

/-- The devices of the node that is being buried are redistributed. -/
theorem redistribute (h : Fate k n due ⟨ml, now, .burying id rest⟩ done) {ml' : MembershipList}
    (hml : ml'.nodes.lookup k = ml.nodes.lookup k) :
    Fate k n due ⟨ml', now, .removing id rest⟩ (insert id done) := by
  cases h with
  | watched hstatus hn hqueue _ _ htrack =>
    exact .watched hstatus (hml.trans hn) hqueue (by simp) (by simp) htrack
  | doomed hn hpending hcurrent => exact .doomed (hml.trans hn) hpending hcurrent
  | buried hn hphase =>
    cases hphase
    exact .leaving (hml.trans hn) rfl (Finset.mem_insert_self _ _)
  | leaving _ hphase _ => cases hphase

theorem remove (h : Fate k n due ⟨ml, now, .removing id rest⟩ done) :
    ((ml.removeNode id).nodes.lookup k = none ∧ k ∈ done) ∨
      Fate k n due ⟨ml.removeNode id, now, .dead rest⟩ done := by
  cases h with
  | watched hstatus hn hqueue _ _ htrack =>
    have hk : k ≠ id := fun heq => hqueue (heq ▸ List.mem_cons_self)
    exact .inr (.watched hstatus ((MembershipList.lookup_removeNode_of_ne hk).trans hn)
      (fun hmem => hqueue (List.mem_cons_of_mem id hmem)) (by simp) (by simp) htrack)
  | doomed hn hpending hcurrent =>
    have hk : k ≠ id := fun heq => hcurrent (by rw [heq]; rfl)
    exact .inr (.doomed ((MembershipList.lookup_removeNode_of_ne hk).trans hn) hpending
      (by simp [DetectorPhase.current]))
  | buried _ hphase => cases hphase
  | leaving _ hphase hdone =>
    cases hphase
    exact .inl ⟨MembershipList.lookup_removeNode_self, hdone⟩

/-- A round that began when the node was due does not end with the node in the list. -/
theorem finish (h : Fate k n due ⟨ml, now, .dead []⟩ done) :
    ¬ due ∧ Fate k n due ⟨ml, now, .waiting⟩ done := by
  cases h with
  | watched hstatus hn _ _ _ htrack => exact ⟨htrack, .of_waiting hstatus hn rfl⟩
  | doomed _ hpending _ => cases hpending
  | buried _ hphase => cases hphase
  | leaving _ hphase _ => cases hphase

theorem step {e : DetectorEvent} (hstep : Step s e t) (hquiet : Quiet k s e)
    (hsync : ∀ count, e ≠ .syncStats count)
    (hlate : due → s.membership.config.suspectTimeout + s.membership.config.deadTimeout <
      n.timeSinceHeartbeat s.now) (h : Fate k n due s done) :
    (t.entry k = none ∧ k ∈ done) ∨ ((due → e ≠ .finish) ∧ Fate k n due t done) := by
  have hkeep : t.entry k = s.entry k → t.phase = s.phase → Fate k n due t done :=
    fun hentry hphase => h.keep hentry hphase hstep.config (hstep.now_le hquiet)
  cases hstep with
  | collectSuspects hl => exact .inr ⟨by simp, h.collectSuspects hlate hl⟩
  | suspect => exact .inr ⟨by simp, h.suspect hlate⟩
  | askHelper _ => exact .inr ⟨by simp, h.askHelper⟩
  | noHelper _ => exact .inr ⟨by simp, @askHelper _ _ _ _ _ _ _ _ false h⟩
  | probe => exact .inr ⟨by simp, h.probe⟩
  | revive => exact .inr ⟨by simp, h.revive⟩
  | collectDead hl => exact .inr ⟨by simp, h.collectDead hlate hl⟩
  | markDead => exact .inr ⟨by simp, h.markDead⟩
  | syncStats => exact absurd rfl (hsync _)
  | remove =>
    cases h.remove with
    | inl hgone => exact .inl hgone
    | inr hfate => exact .inr ⟨by simp, hfate⟩
  | finish => exact .inr ⟨fun hdue => absurd hdue h.finish.1, h.finish.2⟩
  | message =>
    exact .inr ⟨by simp, hkeep (MembershipList.lookup_handleMessage_of_ne hquiet) rfl⟩
  | forget =>
    exact .inr ⟨by simp, hkeep (MembershipList.lookup_removeNode_of_ne (Ne.symm hquiet)) rfl⟩
  | stats | localStatus | seq | clock => exact .inr ⟨by simp, hkeep rfl rfl⟩

end Fate

end DetectorState

theorem Survivor.syncStats_membership (s : Survivor) :
    s.syncStats.membership = s.membership.updateLocalStats s.membership.localNode.bucketCount
      (UInt32.ofNat s.dm.ownedDevices.card) := rfl

/-- A node with its failure detector. `redistributed`: the nodes for which
`redistribute_from_failed` has been called. -/
structure Watch where
  node : Survivor
  now : Int
  phase : DetectorPhase
  redistributed : Finset Uuid

inductive WatchEvent where
  | detector (e : DetectorEvent)
  | redistribute (active : List NodeInfo) (orphaned : List Uuid)
  | devices (db : InnerDB) (dm : DeviceManager)

namespace Watch

def state (s : Watch) : DetectorState := ⟨s.node.membership, s.now, s.phase⟩

def entry (s : Watch) (id : Uuid) : Option NodeInfo := s.node.membership.nodes.lookup id

def config (s : Watch) : ClusterConfig := s.node.membership.config

def move (s : Watch) (t : DetectorState)
    (h : t.membership.localNodeId = s.node.membership.localNodeId) : Watch where
  node :=
    { s.node with
      membership := t.membership
      localNodeId_dm := s.node.localNodeId_dm.trans h.symm }
  now := t.now
  phase := t.phase
  redistributed := s.redistributed

/- No call to the database fails. The redistribution is taken with the sync of the local
   stats that follows it, which reads the device manager and touches no other node's entry.
   The active nodes were listed some time before. Other tasks change devices at any time. -/
inductive Step : Watch → WatchEvent → Watch → Prop
  | detector {s : Watch} {e : DetectorEvent} {t : DetectorState}
      (h : DetectorState.Step s.state e t) : (∀ count, e ≠ .syncStats count) →
      Step s (.detector e) (s.move t h.localNodeId)
  | redistribute {s : Watch} {id : Uuid} {rest : List Uuid} {active : List NodeInfo}
      {orphaned : List Uuid} : s.phase = .burying id rest →
      Lists orphaned (s.node.db.getDevicesByOwner id) →
      Step s (.redistribute active orphaned)
        { s with
          node := (s.node.redistributeFromFailed (fun _ => false) id active orphaned).2.syncStats
          phase := .removing id rest
          redistributed := insert id s.redistributed }
  | devices {s : Watch} {db : InnerDB} {dm : DeviceManager}
      (h : dm.localNodeId = s.node.dm.localNodeId) :
      Step s (.devices db dm)
        { s with node := { s.node with db, dm, localNodeId_dm := h.trans s.node.localNodeId_dm } }

/-- Nothing is received about node `k`, and the clock does not run backwards. -/
def Silent (k : Uuid) (s : Watch) : WatchEvent → Prop
  | .detector e => s.state.Quiet k e
  | .redistribute _ _ | .devices _ _ => True

/-- The node has been silent for longer than both timeouts. -/
def Overdue (s : Watch) (n : NodeInfo) : Prop :=
  s.config.suspectTimeout + s.config.deadTimeout < n.timeSinceHeartbeat s.now

/-- Node `k` has left the list, and its devices have been redistributed. -/
def Gone (s : Watch) (k : Uuid) : Prop := s.entry k = none ∧ k ∈ s.redistributed

/-- The detector's lists do not hold node `k`, nor has it been processed. -/
structure Ignored (s : Watch) (k : Uuid) (n : NodeInfo) : Prop where
  entry : s.entry k = some n
  names : k ∉ s.phase.names
  redistributed : k ∉ s.redistributed

/-- What the detector does without writing the list. -/
theorem Step.phase {s : Watch} {e : DetectorEvent} {phase : DetectorPhase}
    (h : DetectorState.Step s.state e ⟨s.node.membership, s.now, phase⟩)
    (hsync : ∀ count, e ≠ .syncStats count) : Step s (.detector e) { s with phase } :=
  .detector h hsync

section Step
variable {s t : Watch} {e : WatchEvent} {k : Uuid} {n : NodeInfo} {due : Prop}

theorem redistributeFromFailed_nodes {node : Survivor} {id : Uuid} {active : List NodeInfo}
    {orphaned : List Uuid} :
    (node.redistributeFromFailed (fun _ => false) id active orphaned).2.syncStats.membership.nodes =
      node.membership.nodes := by
  rw [Survivor.syncStats_membership, Survivor.redistributeFromFailed_membership]
  rfl

/-- A redistribution is the detector's `syncStats`, with the devices that go with it. -/
theorem Step.state (h : Step s e t) : t.state = s.state ∨
    ∃ e', DetectorState.Step s.state e' t.state ∧ (Silent k s e → s.state.Quiet k e') := by
  cases h with
  | detector h _ => exact .inr ⟨_, h, id⟩
  | @redistribute id rest active orphaned hphase _ =>
    refine .inr ⟨.syncStats (UInt32.ofNat (s.node.redistributeFromFailed (fun _ => false) id
      active orphaned).2.dm.ownedDevices.card), ?_, fun _ => trivial⟩
    unfold Watch.state
    rw [hphase, Survivor.syncStats_membership, Survivor.redistributeFromFailed_membership]
    exact .syncStats
  | devices _ => exact .inl rfl

theorem Step.overdue (h : Guarded (Silent k) Step s e t) (hs : s.Overdue n) : t.Overdue n := by
  obtain ⟨hsilent, hstep⟩ := h
  cases hstep.state (k := k) with
  | inl hsame =>
    have hconfig : t.config = s.config := congrArg (fun st => st.membership.config) hsame
    have hnow : t.now = s.now := congrArg DetectorState.now hsame
    rw [Overdue, hconfig, hnow]
    exact hs
  | inr hmove =>
    obtain ⟨e', hone, hquiet⟩ := hmove
    have hconfig : t.config = s.config := hone.config
    rw [Overdue, hconfig]
    exact Nat.lt_of_lt_of_le hs (n.timeSinceHeartbeat_mono (hone.now_le (hquiet hsilent)))

theorem Step.redistributed (h : Step s e t) : s.redistributed ⊆ t.redistributed := by
  cases h with
  | detector _ _ | devices _ => exact Finset.Subset.refl _
  | redistribute _ _ => exact Finset.subset_insert _ _

theorem Step.gone (h : Guarded (Silent k) Step s e t) (hs : s.Gone k) : t.Gone k := by
  obtain ⟨hsilent, hstep⟩ := h
  refine ⟨?_, hstep.redistributed hs.2⟩
  cases hstep.state (k := k) with
  | inl hsame => exact (congrArg (fun st => st.entry k) hsame).trans hs.1
  | inr hmove =>
    obtain ⟨e', hone, hquiet⟩ := hmove
    exact hone.entry_none (hquiet hsilent) hs.1

theorem Step.ignored (h : Guarded (Silent k) Step s e t) (hactive : n.status ≠ .active)
    (hsuspect : n.status ≠ .suspect) (hs : s.Ignored k n) : t.Ignored k n := by
  obtain ⟨hsilent, hstep⟩ := h
  cases hstep with
  | detector h _ =>
    refine ⟨?_, h.names hs.entry hactive hsuspect hs.names, hs.redistributed⟩
    cases h.entry hsilent with
    | inl hsame => exact hsame.trans hs.entry
    | inr hturn => exact absurd hturn.1 hs.names
  | @redistribute id rest _ _ hphase _ =>
    have hnames : k ∉ id :: rest := by
      have := hs.names
      rwa [hphase] at this
    refine ⟨?_, hnames, ?_⟩
    · rw [Watch.entry, redistributeFromFailed_nodes]
      exact hs.entry
    · rw [Finset.mem_insert]
      exact fun hmem => hmem.elim (fun heq => hnames (heq ▸ List.mem_cons_self)) hs.redistributed
  | devices _ => exact ⟨hs.entry, hs.names, hs.redistributed⟩

/-- A node on its way stays on it, and a round that is due does not end before it is gone. -/
theorem Step.fate (h : Guarded (Silent k) Step s e t) (hlate : due → s.Overdue n)
    (hs : DetectorState.Fate k n due s.state s.redistributed) :
    t.Gone k ∨ ((due → e ≠ .detector .finish) ∧
      DetectorState.Fate k n due t.state t.redistributed) := by
  obtain ⟨hsilent, hstep⟩ := h
  cases hstep with
  | detector h hsync =>
    cases hs.step h hsilent hsync hlate with
    | inl hgone => exact .inl hgone
    | inr hfate => exact .inr ⟨fun hdue heq => hfate.1 hdue (WatchEvent.detector.inj heq), hfate.2⟩
  | redistribute hphase _ =>
    refine .inr ⟨by simp, ?_⟩
    unfold Watch.state at hs
    rw [hphase] at hs
    exact hs.redistribute (congrArg (Finmap.lookup k) redistributeFromFailed_nodes)
  | devices _ => exact .inr ⟨by simp, hs⟩

end Step

section Run
variable {s t u : Watch} {es fs : List WatchEvent} {k : Uuid} {n : NodeInfo}

theorem gone_run (hrun : Run (Guarded (Silent k) Step) s es t) (hs : s.Gone k) : t.Gone k :=
  hrun.invariant (fun w => w.Gone k) (fun _ _ _ hw hstep => Step.gone hstep hw) hs

/-- Rounds at any time leave the node on its way, if they do not remove it. -/
theorem fate_run (hrun : Run (Guarded (Silent k) Step) s es t)
    (hs : DetectorState.Fate k n False s.state s.redistributed) :
    t.Gone k ∨ DetectorState.Fate k n False t.state t.redistributed := by
  refine hrun.invariant
    (fun w => w.Gone k ∨ DetectorState.Fate k n False w.state w.redistributed) ?_ (.inr hs)
  intro v e w hv hstep
  cases hv with
  | inl hgone => exact .inl (Step.gone hstep hgone)
  | inr hfate =>
    cases Step.fate hstep (fun hfalse => hfalse.elim) hfate with
    | inl hgone => exact .inl hgone
    | inr hnext => exact .inr hnext.2

/-- A round that is due removes the node by its end. -/
theorem gone_of_finish (hrun : Run (Guarded (Silent k) Step) s es t) (hlate : s.Overdue n)
    (hs : DetectorState.Fate k n True s.state s.redistributed)
    (hfinish : .detector .finish ∈ es) : t.Gone k := by
  induction hrun with
  | nil s => cases hfinish
  | cons hstep hrest ih =>
    cases Step.fate hstep (fun _ => hlate) hs with
    | inl hgone => exact gone_run hrest hgone
    | inr hnext =>
      have hlater := (List.mem_cons.mp hfinish).resolve_left (hnext.1 trivial).symm
      exact ih (Step.overdue hstep hlate) hnext.2 hlater

/-- A remote node about which nothing is received is out of the list, with its devices
redistributed, at the end of a round that began when both timeouts had passed, exactly if it
was Active or Suspect. -/
theorem silent_peer_removed_iff (hn : s.entry k = some n) (hk : k ∉ s.redistributed)
    (hs : s.phase = .waiting) (hbefore : Run (Guarded (Silent k) Step) s es t)
    (ht : t.phase = .waiting) (hlate : t.Overdue n)
    (hround : Run (Guarded (Silent k) Step) t fs u) (hfinish : .detector .finish ∈ fs) :
    u.Gone k ↔ n.status = .active ∨ n.status = .suspect := by
  constructor
  · intro hgone
    by_contra hstatus
    have hignored : s.Ignored k n := ⟨hn, by rw [hs]; exact List.not_mem_nil, hk⟩
    have hend : u.Ignored k n := (hbefore.append hround).invariant (fun w => w.Ignored k n)
      (fun _ _ _ hw hstep => Step.ignored hstep (fun h => hstatus (.inl h))
        (fun h => hstatus (.inr h)) hw) hignored
    exact hend.redistributed hgone.2
  · intro hstatus
    cases fate_run hbefore (.of_waiting hstatus hn hs) with
    | inl hgone => exact gone_run hround hgone
    | inr hfate =>
      have hqueue : t.state.phase.queue = [] := congrArg DetectorPhase.queue ht
      obtain ⟨status, hstatus', hentry, -⟩ := hfate.early hqueue
      exact gone_of_finish hround hlate (.of_waiting hstatus' hentry ht) hfinish

end Run

/- Node 1 and node 2, last heard from at time zero. Both timeouts are a minute. -/
def beside (status : NodeStatus) (now : Int) : Watch where
  node :=
    { membership := (MembershipList.new ⟨1, "node-1", ⟨.v4 0x7f000001, 7000⟩, 6565,
        fromSecs 60, fromSecs 60⟩ 0).addOrUpdateNode
          (DetectorState.silentNode.withStatus status) 0
      db := InnerDB.new
      dm := ⟨1, ∅, ⟨1, .empty, none, 1, false⟩⟩
      localNodeId_dm := rfl }
  now := now
  phase := .waiting
  redistributed := ∅

theorem beside_entry (status : NodeStatus) (now : Int) :
    (beside status now).entry 2 = some (DetectorState.silentNode.withStatus status) := by
  cases status <;> rfl

/- What rounds after 70 and 200 seconds make of an Active node. -/
def suspected : Watch :=
  (beside .active (70 * 1000000000)).move
    ⟨(beside .active 0).node.membership.markSuspect 2, 70 * 1000000000, .waiting⟩
    (by decide +kernel)

def late : Watch := { suspected with now := 200 * 1000000000 }

def buried : Watch :=
  late.move ⟨late.node.membership.markDead 2, late.now, .burying 2 []⟩ (by decide +kernel)

def cleared : Watch :=
  { buried with
    node := (buried.node.redistributeFromFailed (fun _ => false) 2 [] []).2.syncStats
    phase := .removing 2 []
    redistributed := insert 2 buried.redistributed }

def removed : Watch :=
  cleared.move ⟨cleared.node.membership.removeNode 2, cleared.now, .waiting⟩ rfl

theorem suspected_alone (n : NodeInfo) :
    ¬ DetectorState.IsHelper suspected.node.membership 2 n := by
  intro h
  have hnone : suspected.node.membership.nodes.lookup n.nodeId = none :=
    MembershipList.lookup_markSuspect_none
      ((Finmap.lookup_insert_of_ne _ h.2.2).trans (Finmap.lookup_empty _))
  cases hnone.symm.trans h.1

theorem suspects_active : Run (Guarded (Silent 2) Step) (beside .active (70 * 1000000000))
    [.detector (.collectSuspects [2]), .detector .suspect, .detector .noHelper,
      .detector (.collectDead []), .detector .finish, .detector (.clock (200 * 1000000000))]
    late := by
  have hcollect : Step (beside .active (70 * 1000000000)) (.detector (.collectSuspects [2]))
      { beside .active (70 * 1000000000) with phase := .suspects [2] } :=
    .phase (.collectSuspects ⟨List.nodup_singleton 2, by decide +kernel⟩) (by simp)
  have hmark : Step { beside .active (70 * 1000000000) with phase := .suspects [2] }
      (.detector .suspect) { suspected with phase := .probing 2 [] } :=
    @Step.detector { beside .active (70 * 1000000000) with phase := .suspects [2] } _ _
      (DetectorState.step_suspect (MembershipList.getNode_of_lookup (beside_entry .active 0))
        (by decide +kernel)) (by simp)
  have hprobe : Step { suspected with phase := .probing 2 [] } (.detector .noHelper)
      { suspected with phase := .suspects [] } := .phase (.noHelper suspected_alone) (by simp)
  have hdead : Step { suspected with phase := .suspects [] } (.detector (.collectDead []))
      { suspected with phase := .dead [] } :=
    .phase (.collectDead ⟨List.nodup_nil, by decide +kernel⟩) (by simp)
  have hfinish : Step { suspected with phase := .dead [] } (.detector .finish) suspected :=
    .phase .finish (by simp)
  have hclock : Step suspected (.detector (.clock (200 * 1000000000))) late :=
    @Step.detector suspected _ ⟨_, _, .waiting⟩ .clock (by simp)
  have hlater : suspected.now ≤ 200 * 1000000000 := by decide +kernel
  exact .cons ⟨trivial, hcollect⟩ (.cons ⟨trivial, hmark⟩ (.cons ⟨trivial, hprobe⟩
    (.cons ⟨trivial, hdead⟩ (.cons ⟨trivial, hfinish⟩ (.single ⟨hlater, hclock⟩)))))

theorem removes_suspected : Run (Guarded (Silent 2) Step) late
    [.detector (.collectSuspects []), .detector (.collectDead [2]), .detector .markDead,
      .redistribute [] [], .detector .remove, .detector .finish] removed := by
  have hcollect : Step late (.detector (.collectSuspects [])) { late with phase := .suspects [] } :=
    .phase (.collectSuspects ⟨List.nodup_nil, by decide +kernel⟩) (by simp)
  have hdead : Step { late with phase := .suspects [] } (.detector (.collectDead [2]))
      { late with phase := .dead [2] } :=
    .phase (.collectDead ⟨List.nodup_singleton 2, by decide +kernel⟩) (by simp)
  have hmark : Step { late with phase := .dead [2] } (.detector .markDead) buried :=
    @Step.detector { late with phase := .dead [2] } _ _
      (DetectorState.step_markDead (by decide +kernel)) (by simp)
  have hdevices : Step buried (.redistribute [] []) cleared :=
    .redistribute rfl ⟨List.nodup_nil, by decide +kernel⟩
  have hremove : Step cleared (.detector .remove) { removed with phase := .dead [] } :=
    @Step.detector cleared _ ⟨_, _, .dead []⟩ .remove (by simp)
  have hfinish : Step { removed with phase := .dead [] } (.detector .finish) removed :=
    .phase .finish (by simp)
  exact .cons ⟨trivial, hcollect⟩ (.cons ⟨trivial, hdead⟩ (.cons ⟨trivial, hmark⟩
    (.cons ⟨trivial, hdevices⟩ (.cons ⟨trivial, hremove⟩ (.single ⟨trivial, hfinish⟩)))))

/-- Marked in the first round, the node is removed in the second. -/
theorem silent_peer_removed_iff_active : removed.Gone 2 := by
  have hlate : late.Overdue (DetectorState.silentNode.withStatus .active) := by
    unfold Overdue
    decide +kernel
  have hentry : (beside .active (70 * 1000000000)).entry 2 = some _ := beside_entry .active _
  exact (silent_peer_removed_iff hentry (Finset.notMem_empty 2) rfl suspects_active rfl hlate
    removes_suspected (by simp)).mpr (.inl rfl)

/-- A round without candidates. -/
theorem idle_round {s : Watch} (hs : s.phase = .waiting)
    (hsuspects : s.node.membership.getSuspectCandidates s.now = ∅)
    (hdead : s.node.membership.getDeadCandidates s.now = ∅) : Run (Guarded (Silent k) Step) s
      [.detector (.collectSuspects []), .detector (.collectDead []), .detector .finish] s := by
  obtain ⟨node, now, phase, redistributed⟩ := s
  obtain rfl : phase = .waiting := hs
  have hcollect : Step ⟨node, now, .waiting, redistributed⟩ (.detector (.collectSuspects []))
      ⟨node, now, .suspects [], redistributed⟩ :=
    .phase (.collectSuspects ⟨List.nodup_nil, hsuspects.symm⟩) (by simp)
  have hburied : Step ⟨node, now, .suspects [], redistributed⟩ (.detector (.collectDead []))
      ⟨node, now, .dead [], redistributed⟩ :=
    .phase (.collectDead ⟨List.nodup_nil, hdead.symm⟩) (by simp)
  have hfinish : Step ⟨node, now, .dead [], redistributed⟩ (.detector .finish)
      ⟨node, now, .waiting, redistributed⟩ := .phase .finish (by simp)
  exact .cons ⟨trivial, hcollect⟩ (.cons ⟨trivial, hburied⟩ (.single ⟨trivial, hfinish⟩))

/-- A Draining node is in no list of candidates, neither after 70 nor after 200 seconds. -/
theorem beside_draining_kept : ¬ ∀ (s t u : Watch) (es fs : List WatchEvent) (k : Uuid)
    (n : NodeInfo), s.entry k = some n → k ∉ s.redistributed → s.phase = .waiting →
      s.config.suspectTimeout < n.timeSinceHeartbeat s.now →
      Run (Guarded (Silent k) Step) s es t → .detector .finish ∈ es → t.phase = .waiting →
      t.Overdue n → Run (Guarded (Silent k) Step) t fs u → .detector .finish ∈ fs → u.Gone k := by
  intro h
  let s := beside .draining (70 * 1000000000)
  let t := beside .draining (200 * 1000000000)
  have hlater : s.now ≤ 200 * 1000000000 := by decide +kernel
  have hclock : Guarded (Silent 2) Step s (.detector (.clock (200 * 1000000000))) t :=
    ⟨hlater, @Step.detector s _ ⟨_, _, .waiting⟩ .clock (by simp)⟩
  have hfirst := (@idle_round 2 s rfl (by decide +kernel) (by decide +kernel)).append
    (.single hclock)
  have hsecond := @idle_round 2 t rfl (by decide +kernel) (by decide +kernel)
  have hgone := h s t t _ _ 2 (DetectorState.silentNode.withStatus .draining)
    (beside_entry .draining _) (Finset.notMem_empty 2) rfl (by decide +kernel) hfirst (by simp) rfl
    (by unfold Overdue; decide +kernel) hsecond (by simp)
  exact absurd hgone.2 (Finset.notMem_empty 2)

end Watch

end HeadEnd.Cluster
