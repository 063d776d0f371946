import HeadEnd.Cluster.Suspicion
import HeadEnd.Lib.Tally

/-! The gauges of active and of suspect nodes beside the membership list. The first is set
to a fresh count at the end of some writes; the second is only moved up and down. -/
namespace HeadEnd.Cluster
open Transition Tally

structure ClusterGauges where
  nodesActive : Int
  suspectNodes : Int
  deriving DecidableEq

def MembershipList.countOf (ml : MembershipList) (status : NodeStatus) : Nat :=
  tally ml.nodes fun n => n.status = status

/-- The gauges are the numbers of Active and of Suspect entries. -/
def ClusterGauges.Mirror (g : ClusterGauges) (ml : MembershipList) : Prop :=
  g.nodesActive = ml.countOf .active ∧ g.suspectNodes = ml.countOf .suspect

/-- Handling the message comes to `sync_nodes_active_metric`. A known sender of a heartbeat
is written directly, the local node is never added, and the marks need an entry to write. -/
def ClusterMessage.syncs (msg : ClusterMessage) (ml : MembershipList) : Bool :=
  match msg.msgType, msg.payload with
  | .heartbeat, .heartbeat _ => (ml.getNode msg.nodeId).isNone
  | .statusResponse, .statusResponse _ => msg.nodeId ≠ ml.localNodeId
  | .nodeJoin, .nodeJoin _ => msg.nodeId ≠ ml.localNodeId
  | .nodeLeave, _ => true
  | .nodeSuspect, .nodeSuspect payload => ml.statusOf payload.suspectNodeId = some .active
  | .nodeDead, .nodeDead payload => (ml.statusOf payload.deadNodeId).isSome
  | _, _ => false

/-- What handling the message adds to the suspect gauge. -/
def ClusterMessage.counts (msg : ClusterMessage) : Int :=
  match msg.msgType, msg.payload with
  | .nodeSuspect, .nodeSuspect _ => 1
  | .nodeDead, .nodeDead _ => -1
  | _, _ => 0

/-- `handle_suspect_node` gets past its check. -/
def MembershipList.silent (ml : MembershipList) (now : Int) (id : Uuid) : Bool :=
  (ml.getNode id).any fun n => ml.config.suspectTimeout < n.timeSinceHeartbeat now

namespace DetectorState

def syncs (s : DetectorState) : DetectorEvent → Bool
  | .message _ msg => msg.syncs s.membership
  | .forget _ | .remove => true
  | .suspect =>
    match s.phase with
    | .suspects (id :: _) => s.membership.silent s.now id && s.statusOf id = some .active
    | _ => false
  | .markDead =>
    match s.phase with
    | .dead (id :: _) => (s.statusOf id).isSome
    | _ => false
  | _ => false

def counts (s : DetectorState) : DetectorEvent → Int
  | .message _ msg => msg.counts
  | .suspect =>
    match s.phase with
    | .suspects (id :: _) => if s.membership.silent s.now id then 1 else 0
    | _ => 0
  | .markDead =>
    match s.phase with
    | .dead (id :: _) => if (s.membership.getNode id).isSome then -1 else 0
    | _ => 0
  | _ => 0

end DetectorState

/-- A node with its two gauges. -/
structure Metered where
  detector : DetectorState
  gauges : ClusterGauges

namespace Metered

def fresh (config : ClusterConfig) (now : Int) : Metered :=
  ⟨⟨.new config now, now, .waiting⟩, ⟨0, 0⟩⟩

/- The gauges are written with the list, before anything else can happen. -/
inductive Step : Metered → DetectorEvent → Metered → Prop
  | mk {s t : DetectorState} {g : ClusterGauges} {e : DetectorEvent} :
      DetectorState.Step s e t →
      Step ⟨s, g⟩ e ⟨t, ⟨if s.syncs e then t.membership.countOf .active else g.nodesActive,
        g.suspectNodes + s.counts e⟩⟩

end Metered

/-- The message moves the gauges as it moves the list. -/
def ClusterMessage.Keeps (msg : ClusterMessage) (ml : MembershipList) : Prop :=
  match msg.msgType, msg.payload with
  | .heartbeat, .heartbeat heartbeat => msg.nodeId = ml.localNodeId ∨
    match ml.statusOf msg.nodeId with
    | none => heartbeat.status ≠ .suspect
    | some old => (old = .active ↔ heartbeat.status = .active) ∧
        (old = .suspect ↔ heartbeat.status = .suspect)
  | .statusResponse, .statusResponse response => msg.nodeId = ml.localNodeId ∨
      (ml.statusOf msg.nodeId = some .suspect ↔ response.status = .suspect)
  | .nodeJoin, .nodeJoin _ => ml.statusOf msg.nodeId ≠ some .suspect
  | .nodeLeave, _ => ml.statusOf msg.nodeId ≠ some .suspect
  | .nodeSuspect, .nodeSuspect payload => ml.statusOf payload.suspectNodeId = some .active
  | .nodeDead, .nodeDead payload => ml.statusOf payload.deadNodeId = some .suspect
  | _, _ => True

/-- The event moves the gauges as it moves the list. -/
def DetectorState.Keeps (s : DetectorState) : DetectorEvent → Prop
  | .message _ msg => msg.Keeps s.membership
  | .forget id => s.statusOf id ≠ some .suspect
  | .suspect =>
    match s.phase with
    | .suspects (id :: _) => s.membership.silent s.now id → s.statusOf id = some .active
    | _ => True
  | .markDead =>
    match s.phase with
    | .dead (id :: _) => (s.membership.getNode id).isSome → s.statusOf id = some .suspect
    | _ => True
  | .revive =>
    match s.phase with
    | .reviving id _ => s.statusOf id = none ∨ s.statusOf id = some .active
    | _ => True
  | .remove =>
    match s.phase with
    | .removing id _ => s.statusOf id ≠ some .suspect
    | _ => True
  | _ => True

namespace MembershipList
variable {ml ml' : MembershipList} {id : Uuid} {status : NodeStatus}

theorem weight_status : weight (fun n => decide (n.status = status)) (ml.nodes.lookup id) =
    if ml.statusOf id = some status then 1 else 0 := by
  unfold weight statusOf
  cases ml.nodes.lookup id with
  | none => rfl
  | some n => simp

/-- A write to one entry moves the counts by that entry. -/
theorem countOf_add (h : ∀ j, j ≠ id → ml'.nodes.lookup j = ml.nodes.lookup j) :
    ml'.countOf status + (if ml.statusOf id = some status then 1 else 0) =
      ml.countOf status + (if ml'.statusOf id = some status then 1 else 0) := by
  rw [← weight_status, ← weight_status]
  exact tally_add_weight h

/-- The local node has no status in the map. -/
theorem statusOf_map_remote {f : NodeStatus → NodeStatus} :
    (if id = ml.localNodeId then none else (ml.statusOf id).map f) = (ml.statusOf id).map f := by
  split
  next heq =>
    rw [heq, statusOf_localNodeId]
    rfl
  next => rfl

theorem statusOf_eq_none (h : (ml.getNode id).isSome = false) : ml.statusOf id = none := by
  unfold getNode at h
  split at h
  · cases h
  · rw [statusOf, Option.isNone_iff_eq_none.mp (Option.isSome_eq_false_iff.mp h)]
    rfl

theorem getNode_isNone :
    (ml.getNode id).isNone = (decide (id ≠ ml.localNodeId) && (ml.statusOf id).isNone) := by
  unfold getNode statusOf localNodeId
  by_cases hid : id = ml.localNode.nodeId
  · simp [hid]
  · simp [hid]

theorem statusOf_handleMessage_eq {fromAddr : SocketAddr} {msg : ClusterMessage} {now : Int} :
    (ml.handleMessage fromAddr msg now).statusOf id =
      if id = ml.localNodeId then none else msg.tells id (ml.statusOf id) := by
  by_cases hid : id = ml.localNodeId
  · rw [if_pos hid, hid, ← @handleMessage_localNodeId ml now fromAddr msg]
    exact statusOf_localNodeId
  · rw [if_neg hid]
    exact statusOf_handleMessage hid

end MembershipList

namespace ClusterGauges
variable {ml ml' : MembershipList} {id : Uuid} {g : ClusterGauges} {synced : Bool} {count : Int}

/-- The gauges follow an entry that goes from `old` to `new`: without a sync it must stay on
its side of Active, and the count must be that of the suspects. -/
def Follows (synced : Bool) (count : Int) (old new : Option NodeStatus) : Prop :=
  (synced = false → (old = some .active ↔ new = some .active)) ∧
    (if new = some .suspect then 1 else 0 : Int) = (if old = some .suspect then 1 else 0) + count

theorem mirror_write_iff (hg : g.Mirror ml)
    (h : ∀ j, j ≠ id → ml'.nodes.lookup j = ml.nodes.lookup j) :
    Mirror ⟨if synced then ml'.countOf .active else g.nodesActive, g.suspectNodes + count⟩ ml' ↔
      Follows synced count (ml.statusOf id) (ml'.statusOf id) := by
  have hactive := @MembershipList.countOf_add ml ml' id .active h
  have hsuspect := @MembershipList.countOf_add ml ml' id .suspect h
  obtain ⟨hnodes, hsuspects⟩ := hg
  unfold Mirror
  rw [hnodes, hsuspects]
  refine and_congr ?_ ?_
  · cases synced with
    | true => simp
    | false =>
      by_cases hold : ml.statusOf id = some .active <;>
        by_cases hnew : ml'.statusOf id = some .active
      all_goals simp [hold, hnew] at hactive ⊢
      all_goals omega
  · split_ifs at hsuspect ⊢ <;> dsimp only <;> omega

theorem indicator_eq_iff {p q : Prop} [Decidable p] [Decidable q] :
    ((if p then 1 else 0 : Int) = if q then 1 else 0) ↔ (q ↔ p) := by
  split_ifs <;> simp_all

/-- A mark of a node that is not Active counts one too many. -/
theorem follows_suspected_iff {old : Option NodeStatus} :
    Follows (decide (old = some .active)) 1 old (old.map NodeStatus.suspected) ↔
      old = some .active := by
  unfold Follows
  cases old with
  | none => simp
  | some status => cases status <;> simp [NodeStatus.suspected]

/-- The death of a node that is not Suspect counts one too few. -/
theorem follows_dead_iff {old : Option NodeStatus} :
    Follows old.isSome (-1) old (old.map fun _ => .dead) ↔ old = some .suspect := by
  unfold Follows
  cases old with
  | none => simp
  | some status => cases status <;> simp

/-- A revival writes Active without a count. -/
theorem follows_revived_iff {old : Option NodeStatus} :
    Follows false 0 old (old.map fun _ => .active) ↔ old = none ∨ old = some .active := by
  unfold Follows
  cases old with
  | none => simp
  | some status => cases status <;> simp

/-- A removal ends a suspicion without a count. -/
theorem follows_removed_iff {old : Option NodeStatus} :
    Follows true 0 old none ↔ old ≠ some .suspect := by
  simp [Follows]

/-- Nothing in the list changes, and nothing is counted. -/
theorem mirror_same (h : ∀ j, ml'.nodes.lookup j = ml.nodes.lookup j) :
    Mirror ⟨g.nodesActive, g.suspectNodes + 0⟩ ml' ↔ g.Mirror ml := by
  unfold Mirror MembershipList.countOf
  rw [tally_congr h, tally_congr h, add_zero]

/-- A message that writes no entry leaves the gauges alone. -/
theorem keeps_of_concerns_none {msg : ClusterMessage} (h : msg.concerns = none) :
    msg.syncs ml = false ∧ msg.counts = 0 ∧ msg.Keeps ml := by
  unfold ClusterMessage.concerns at h
  unfold ClusterMessage.syncs ClusterMessage.counts ClusterMessage.Keeps
  split at h <;> simp_all

/-- What a message does to the entry that it writes. -/
theorem follows_message_iff {msg : ClusterMessage} (h : msg.concerns = some id) :
    Follows (msg.syncs ml) msg.counts (ml.statusOf id)
        (if id = ml.localNodeId then none else msg.tells id (ml.statusOf id)) ↔ msg.Keeps ml := by
  rw [ClusterMessage.tells, if_pos h]
  unfold ClusterMessage.concerns at h
  unfold ClusterMessage.syncs ClusterMessage.counts ClusterMessage.Keeps
  have hnone := @MembershipList.statusOf_localNodeId ml
  split at h
  next hm hp =>
    cases h
    rw [hm, hp, MembershipList.getNode_isNone]
    by_cases hid : msg.nodeId = ml.localNodeId
    · simp [Follows, hid, hnone]
    · cases hold : ml.statusOf msg.nodeId with
      | none => simp [Follows, hid]
      | some old => simp [Follows, hid, indicator_eq_iff]
  next hm =>
    cases h
    rw [hm]
    by_cases hid : msg.nodeId = ml.localNodeId
    · simp [Follows, hid, hnone]
    · simp [Follows, hid]
  next hm hp =>
    cases h
    rw [hm, hp]
    by_cases hid : msg.nodeId = ml.localNodeId
    · simp [Follows, hid, hnone]
    · simp [Follows, hid, indicator_eq_iff]
  next hm hp =>
    cases h
    rw [hm, hp]
    by_cases hid : msg.nodeId = ml.localNodeId
    · simp [Follows, hid, hnone]
    · simp [Follows, hid]
  next hm =>
    cases h
    rw [hm, ite_self]
    exact follows_removed_iff
  next payload hm hp =>
    cases h
    rw [hm, hp]
    dsimp only
    rw [MembershipList.statusOf_map_remote]
    exact follows_suspected_iff
  next payload hm hp =>
    cases h
    rw [hm, hp]
    dsimp only
    rw [MembershipList.statusOf_map_remote]
    exact follows_dead_iff
  next payload hm hp =>
    rw [hm, hp]
    by_cases hid : id = ml.localNodeId
    · simp [Follows, hid, hnone]
    · simp [Follows, hid]
  next => cases h

theorem mirror_message_iff {fromAddr : SocketAddr} {msg : ClusterMessage} {now : Int}
    (hg : g.Mirror ml) :
    Mirror ⟨if msg.syncs ml then (ml.handleMessage fromAddr msg now).countOf .active
        else g.nodesActive, g.suspectNodes + msg.counts⟩ (ml.handleMessage fromAddr msg now) ↔
      msg.Keeps ml := by
  cases hconcerns : msg.concerns with
  | none =>
    have hsame : ∀ j, (ml.handleMessage fromAddr msg now).nodes.lookup j = ml.nodes.lookup j :=
      fun j => MembershipList.lookup_handleMessage_of_ne (by rw [hconcerns]; simp)
    obtain ⟨hsyncs, hcounts, hkeeps⟩ := @keeps_of_concerns_none ml msg hconcerns
    rw [hsyncs, hcounts]
    exact iff_of_true ((mirror_same hsame).mpr hg) hkeeps
  | some id =>
    have hother : ∀ j, j ≠ id →
        (ml.handleMessage fromAddr msg now).nodes.lookup j = ml.nodes.lookup j := by
      intro j hj
      refine MembershipList.lookup_handleMessage_of_ne ?_
      rw [hconcerns]
      exact fun heq => hj (Option.some.inj heq).symm
    rw [mirror_write_iff hg hother, MembershipList.statusOf_handleMessage_eq]
    exact follows_message_iff hconcerns

theorem mirror_removeNode_iff (hg : g.Mirror ml) :
    Mirror ⟨(ml.removeNode id).countOf .active, g.suspectNodes + 0⟩ (ml.removeNode id) ↔
      ml.statusOf id ≠ some .suspect := by
  have hwrite := @mirror_write_iff ml (ml.removeNode id) id g true 0 hg
    fun j hj => MembershipList.lookup_removeNode_of_ne hj
  rw [MembershipList.statusOf_removeNode, if_pos rfl, if_pos rfl] at hwrite
  exact hwrite.trans follows_removed_iff

end ClusterGauges

namespace DetectorState
variable {ml : MembershipList} {now : Int} {id : Uuid} {rest : List Uuid}

theorem suspect_fst :
    (suspect ml now id rest).1 = if ml.silent now id then ml.markSuspect id else ml := by
  cases hget : ml.getNode id with
  | none => rw [suspect, MembershipList.silent, hget, Option.any_none, if_neg (by decide)]
  | some node =>
    rw [suspect, MembershipList.silent, hget, Option.any_some]
    by_cases hheard : node.timeSinceHeartbeat now ≤ ml.config.suspectTimeout
    · rw [decide_eq_false (Nat.not_lt.mpr hheard)]
      exact congrArg Prod.fst (if_pos hheard)
    · rw [decide_eq_true (Nat.lt_of_not_le hheard)]
      exact congrArg Prod.fst (if_neg hheard)

theorem markDead_fst :
    (markDead ml id rest).1 = if (ml.getNode id).isSome then ml.markDead id else ml := by
  unfold markDead
  split <;> rfl

end DetectorState

namespace Metered
variable {s t : DetectorState} {e : DetectorEvent} {g : ClusterGauges}

theorem mirror_step_iff (h : DetectorState.Step s e t) (hg : g.Mirror s.membership) :
    ClusterGauges.Mirror ⟨if s.syncs e then t.membership.countOf .active else g.nodesActive,
      g.suspectNodes + s.counts e⟩ t.membership ↔ s.Keeps e := by
  cases h with
  | message => exact ClusterGauges.mirror_message_iff hg
  | forget => exact ClusterGauges.mirror_removeNode_iff hg
  | remove => exact ClusterGauges.mirror_removeNode_iff hg
  | @suspect ml now id rest =>
    unfold DetectorState.syncs DetectorState.counts DetectorState.Keeps
    rw [DetectorState.suspect_fst]
    cases hsilent : ml.silent now id with
    | false =>
      simp only [hsilent, Bool.false_and, Bool.false_eq_true, if_false, false_implies, iff_true]
      exact (ClusterGauges.mirror_same fun _ => rfl).mpr hg
    | true =>
      have hwrite := @ClusterGauges.mirror_write_iff ml (ml.markSuspect id) id g
        (decide (ml.statusOf id = some .active)) 1 hg
        fun j hj => MembershipList.lookup_markSuspect_of_ne hj
      rw [MembershipList.statusOf_markSuspect, ClusterGauges.follows_suspected_iff] at hwrite
      simp only [hsilent, Bool.true_and, if_true, true_implies]
      exact hwrite
  | @markDead ml now id rest =>
    unfold DetectorState.syncs DetectorState.counts DetectorState.Keeps
    rw [DetectorState.markDead_fst]
    cases hknown : (ml.getNode id).isSome with
    | false =>
      have hnone : ml.statusOf id = none := MembershipList.statusOf_eq_none hknown
      simp only [DetectorState.statusOf, hknown, hnone, Option.isSome_none, Bool.false_eq_true,
        if_false, false_implies, iff_true]
      exact (ClusterGauges.mirror_same fun _ => rfl).mpr hg
    | true =>
      have hwrite := @ClusterGauges.mirror_write_iff ml (ml.markDead id) id g
        (ml.statusOf id).isSome (-1) hg fun j hj => MembershipList.lookup_markDead_of_ne hj
      rw [MembershipList.statusOf_markDead, ClusterGauges.follows_dead_iff] at hwrite
      simp only [hknown, if_true, true_implies]
      exact hwrite
  | @revive ml now id rest =>
    have hwrite := @ClusterGauges.mirror_write_iff ml (DetectorState.revive ml now id) id g false 0
      hg fun j hj => MembershipList.lookup_modifyAny_of_ne hj
    rw [MembershipList.statusOf_revive, ClusterGauges.follows_revived_iff] at hwrite
    exact hwrite
  | collectSuspects _ | askHelper _ | noHelper _ | probe | collectDead _ | syncStats | finish
  | stats | localStatus | seq | clock =>
    exact iff_of_true ((ClusterGauges.mirror_same fun _ => rfl).mpr hg) trivial

theorem Step.det {m m₁ m₂ : Metered} (h : Step m e m₁) (k : Step m e m₂) : m₁ = m₂ := by
  cases h with
  | mk hone =>
    cases k with
    | mk htwo => rw [hone.det htwo]

def Mirrored (m : Metered) : Prop := m.gauges.Mirror m.detector.membership

theorem mirrored_fresh (config : ClusterConfig) (now : Int) : (fresh config now).Mirrored :=
  ⟨rfl, rfl⟩

/-- Along a run from a fresh node both gauges are right after every write exactly if every
event moves them as it moves the list. -/
theorem gauges_mirror_iff {config : ClusterConfig} {now : Int} {es : List DetectorEvent}
    {m : Metered} (h : Run Step (fresh config now) es m) :
    (∀ es₁ es₂ u, es = es₁ ++ es₂ → Run Step (fresh config now) es₁ u → u.Mirrored) ↔
      Run (Guarded (fun u e => u.detector.Keeps e) Step) (fresh config now) es m := by
  refine h.forall_good_iff_guarded (fun _ _ _ _ h k => h.det k) ?_ (mirrored_fresh config now)
  intro u e v hu hstep
  cases hstep with
  | mk hone => exact mirror_step_iff hone hu

/-- Node 1 hears of node 2 for the first time. -/
theorem gauges_mirror_iff_heartbeat : ∃ u : Metered, u.gauges = ⟨1, 0⟩ ∧ u.Mirrored ∧
    Run Step (fresh peerConfig 0) [.message remoteAddr (heartbeatOf 2 1 .active 0)] u := by
  have hkeeps : (fresh peerConfig 0).detector.Keeps
      (.message remoteAddr (heartbeatOf 2 1 .active 0)) :=
    .inr (by decide : NodeStatus.active ≠ .suspect)
  have hstep : Step (fresh peerConfig 0) (.message remoteAddr (heartbeatOf 2 1 .active 0)) _ :=
    .mk .message
  have hmirrored := (gauges_mirror_iff (.single hstep)).mpr (.single ⟨hkeeps, hstep⟩)
  exact ⟨_, by decide +kernel, hmirrored _ [] _ rfl (.single hstep), .single hstep⟩

/-- A NODE_SUSPECT about a node that is not in the list is counted. -/
theorem unknown_suspect_counted : ¬ ∀ (config : ClusterConfig) (now : Int)
    (es : List DetectorEvent) (m : Metered), Run Step (fresh config now) es m →
      m.detector.phase = .waiting → m.Mirrored := by
  intro h
  have hstep : Step (fresh peerConfig 0) (.message remoteAddr
      (.new 2 1 .nodeSuspect (.nodeSuspect ⟨9⟩) 0)) _ := .mk .message
  have hmirror := h peerConfig 0 _ _ (.single hstep) rfl
  exact absurd hmirror.2 (by decide +kernel)

end Metered

end HeadEnd.Cluster
