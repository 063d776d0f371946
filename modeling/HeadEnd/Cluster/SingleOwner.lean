import HeadEnd.Cluster.DelegationLoss
import HeadEnd.Lib.Broadcast
import HeadEnd.Lib.Handover

/-! How many nodes hold a device. Delegation is a handover of each device as long as a node
offers only what it holds and nobody is asked twice; two requests for one device at a time
leave it with two nodes. -/
namespace HeadEnd.Cluster
open Transition DeviceManager

/-- What a datagram says about one device. -/
def Datagram.about (d : Uuid) (dg : Datagram) : Option (Handover.Msg SocketAddr) :=
  if d ∈ dg.msg.asks then some (.ask dg.src dg.dst)
  else if d ∈ dg.msg.acceptedIds then some (.taken dg.dst dg.src)
  else none

theorem Datagram.about_of_accepted {dg : Datagram} {d : Uuid} (h : d ∈ dg.msg.acceptedIds) :
    dg.about d = some (.taken dg.dst dg.src) := by
  have hask : dg.msg.asks = [] := by
    unfold ClusterMessage.acceptedIds at h
    unfold ClusterMessage.asks
    split at h
    next htype _ => simp only [htype]
    next => cases h
  rw [about, hask, if_neg List.not_mem_nil, if_pos h]

namespace Server
variable {db : InnerDB} {sv : Server} {src : SocketAddr} {msg : ClusterMessage} {now : Int}
  {d : Uuid}

theorem asks_of_gained (h : d ∈ sv.gained msg) : d ∈ msg.asks := by
  have hasked : ∃ payload : DelegateRequestPayload, msg.msgType = .delegateRequest ∧
      msg.payload = .delegateRequest payload ∧
      d ∈ payload.devices.map DelegatedDevicePayload.deviceId := by
    unfold gained at h
    split at h
    next payload htype hpayload =>
      refine ⟨payload, htype, hpayload, ?_⟩
      split_ifs at h
      · exact h
      · cases h
    next => cases h
  obtain ⟨payload, htype, hpayload, hd⟩ := hasked
  rw [ClusterMessage.asks, htype, hpayload]
  exact hd

/-- Whoever takes a device puts itself on record and tells the sender. -/
theorem handleMessage_owner : (handleMessage db sv src msg now).1.owner d =
    if d ∈ sv.gained msg then (db.owner d).map fun _ => sv.dm.localNodeId else db.owner d := by
  obtain ⟨payload, h, -, hg⟩ | ⟨payload, h, -, hg⟩ | ⟨h, -, hg⟩ | ⟨h, -, hg⟩ :=
    handleMessage_cases db sv src msg now
  · rw [h, hg, handleDelegationRequest]
    split_ifs with hacc hd hd
    · refine foldl_acceptDevice_owner_of_mem now (db, sv.dm) ?_
      rwa [List.map_map]
    · refine foldl_acceptDevice_owner_of_notMem now (db, sv.dm) ?_
      rwa [List.map_map]
    · cases hd
    · rfl
  · rw [h, hg]
    rfl
  · rw [h, hg]
    rfl
  · rw [h, hg]
    rfl

theorem handleMessage_localNodeId :
    (handleMessage db sv src msg now).2.1.dm.localNodeId = sv.dm.localNodeId := by
  obtain ⟨payload, h, -, -⟩ | ⟨payload, h, -, -⟩ | ⟨h, -, -⟩ | ⟨h, -, -⟩ :=
    handleMessage_cases db sv src msg now
  · rw [h, handleDelegationRequest]
    split
    · exact acceptDelegation_localNodeId _ _ _ _
    · rfl
  · rw [h, handleDelegationAccept, foldl_removeScheduledDevice_localNodeId,
      releaseDevices_localNodeId]
  · rw [h]
    rfl
  · rw [h]

theorem about_accept (x y : SocketAddr) (payload : DelegateAcceptPayload) :
    Datagram.about d ⟨x, y, sv.message .delegateAccept (.delegateAccept payload) now⟩ =
      if d ∈ payload.acceptedDeviceIds then some (.taken y x) else none :=
  if_neg List.not_mem_nil

theorem about_reject (x y : SocketAddr) (payload : DelegateRejectPayload) :
    Datagram.about d ⟨x, y, sv.message .delegateReject (.delegateReject payload) now⟩ = none :=
  (if_neg List.not_mem_nil).trans (if_neg List.not_mem_nil)

theorem about_request (x y : SocketAddr) (payload : DelegateRequestPayload) :
    Datagram.about d ⟨x, y, sv.message .delegateRequest (.delegateRequest payload) now⟩ =
      if d ∈ payload.devices.map DelegatedDevicePayload.deviceId then some (.ask x y) else none :=
  congrArg (ite _ _) (if_neg List.not_mem_nil)

theorem requestDelegation_about {active : List NodeInfo} {devices : List DelegatedDevice}
    {reason : DelegationReason} {target : Option Uuid} {sv' : Server} {out : List Outgoing}
    {ids : List Uuid} (h : sv.requestDelegation active now devices reason target =
      .ok (sv', out, ids)) (a : SocketAddr) :
    (d ∉ devices.map DelegatedDevice.deviceId ∧
      (out.map fun o => ⟨a, o.1, o.2⟩).filterMap (Datagram.about d) = []) ∨
    (d ∈ devices.map DelegatedDevice.deviceId ∧
      ∃ node, sv.delegationTarget active target = .ok node ∧
        (out.map fun o => ⟨a, o.1, o.2⟩).filterMap (Datagram.about d) =
          [.ask a node.clusterAddr]) := by
  unfold requestDelegation at h
  split at h
  next hnil =>
    cases h
    exact .inl ⟨hnil ▸ List.not_mem_nil, rfl⟩
  next =>
    split at h
    next => cases h
    next node htarget =>
      cases h
      have hids : (devices.map toPayload).map DelegatedDevicePayload.deviceId =
          devices.map DelegatedDevice.deviceId := List.map_map
      simp only [List.map_cons, List.map_nil, List.filterMap_cons, List.filterMap_nil,
        about_request, hids]
      by_cases hd : d ∈ devices.map DelegatedDevice.deviceId
      · exact .inr ⟨hd, node, htarget, by rw [if_pos hd]⟩
      · exact .inl ⟨hd, by rw [if_neg hd]⟩

theorem handleMessage_about (dst : SocketAddr) :
    ((handleMessage db sv src msg now).2.2.map fun o => ⟨dst, o.1, o.2⟩).filterMap
      (Datagram.about d) = if d ∈ sv.gained msg then [.taken src dst] else [] := by
  obtain ⟨payload, h, -, hg⟩ | ⟨payload, h, -, hg⟩ | ⟨h, -, hg⟩ | ⟨h, -, hg⟩ :=
    handleMessage_cases db sv src msg now
  · rw [h, hg, handleDelegationRequest]
    by_cases hacc : sv.canAccept payload.reason = true
    · have hids : (sv.dm.acceptDelegation db now (payload.devices.map ofPayload)).2.2 =
          payload.devices.map DelegatedDevicePayload.deviceId := List.map_map
      simp only [hacc, if_true, List.map_cons, List.map_nil, List.filterMap_cons,
        List.filterMap_nil, about_accept, hids]
      split_ifs
      all_goals rfl
    · simp only [hacc, Bool.false_eq_true, if_false, List.map_cons, List.map_nil,
        List.filterMap_cons, List.filterMap_nil, about_reject, List.not_mem_nil]
  · rw [h, hg]
    rfl
  · rw [h, hg]
    rfl
  · rw [h, hg]
    rfl

/-- What a node sends to delegate one device. -/
def offer (sv : Server) (device : DelegatedDevice) (now : Int) : ClusterMessage :=
  sv.message .delegateRequest (.delegateRequest ⟨[toPayload device], .rebalance⟩) now

def confirmation (sv : Server) (device : DelegatedDevice) (now : Int) : ClusterMessage :=
  sv.message .delegateAccept (.delegateAccept ⟨[device.deviceId]⟩) now

/-- The node has a job for the device. -/
def Wakes (sv : Server) (d : Uuid) : Prop := ∃ id, sv.dm.jobs.Pending d id

/-- A time that the cron library takes is read from the datagram to the second. -/
theorem wholeSecond_arrived {device : DelegatedDevice} (hnow : 0 ≤ now)
    (h : Scheduler.Wakeable now device.scheduleTime) :
    wholeSecond (ofPayload (toPayload device)).scheduleTime = wholeSecond device.scheduleTime := by
  have hrange : Representable device.scheduleTime := by
    obtain ⟨hahead, hend⟩ := h
    have hcron : Scheduler.cronEnd = 95649120000000000000 := by decide +kernel
    simp only [Representable, minTimestamp, maxTimestamp, wholeSecond, nanosPerSec, hcron]
      at hahead hend ⊢
    omega
  rw [ofPayload_toPayload hrange]
  exact Scheduler.wholeSecond_mul _

theorem handle_offer {sv₀ : Server} {device : DelegatedDevice} {sent : Int}
    (hacc : sv.canAccept .rebalance = true) (hnow : 0 ≤ now)
    (htime : Scheduler.Wakeable now device.scheduleTime) :
    ∃ db' sv', handleMessage db sv src (sv₀.offer device sent) now =
        (db', sv', [(src, sv.confirmation device now)]) ∧
      device.deviceId ∈ sv'.dm.ownedDevices ∧ sv'.Wakes device.deviceId ∧
      db'.owner device.deviceId = (db.owner device.deviceId).map fun _ => sv.dm.localNodeId := by
  have hahead : now < wholeSecond (ofPayload (toPayload device)).scheduleTime := by
    rw [wholeSecond_arrived hnow htime]
    exact htime.1
  exact ⟨_, _, if_pos hacc, Finset.mem_insert_self _ _,
    ⟨_, JobScheduler.pending_submit.mpr (.inl ⟨hahead, rfl, rfl⟩)⟩,
    InnerDB.owner_setDeviceOwner_same⟩

theorem handle_confirmation {sv₀ : Server} {device : DelegatedDevice} {sent : Int} :
    ∃ sv', handleMessage db sv src (sv₀.confirmation device sent) now = (db, sv', []) ∧
      sv'.dm.ownedDevices = sv.dm.ownedDevices.erase device.deviceId :=
  ⟨_, rfl, rfl⟩

end Server

namespace World
variable {w t : World} {a : SocketAddr} {sv : Server} {d : Uuid}

/-- Which node is at an address. -/
def name (w : World) (a : SocketAddr) : Option Uuid := (w.node a).map fun sv => sv.dm.localNodeId

/-- The world as far as one device is concerned. -/
def view (w : World) (d : Uuid) : Handover.State SocketAddr (Option Uuid) :=
  ⟨{a | d ∈ w.owned a}, w.db.owner d, (w.net : Multiset Datagram).filterMap (Datagram.about d)⟩

/-- A node offers what it holds, to others, and asks nobody while a request for the device or
its confirmation is under way. These do not arrive twice, and confirmations are not lost. -/
def Orderly (w : World) : WorldEvent → Prop
  | .request a active _ devices _ target => ∀ sv, w.node a = some sv →
      (∀ d ∈ devices.map DelegatedDevice.deviceId, d ∈ w.owned a ∧
        ∀ dg ∈ w.net, dg.about d = none) ∧
      ∀ node, sv.delegationTarget active target = .ok node → node.clusterAddr ≠ a
  | .duplicate dg => dg.msg.asks = [] ∧ dg.msg.acceptedIds = []
  | .lose dg => dg.msg.acceptedIds = []
  | _ => True

theorem name_update {sv' : Server} {out : List Outgoing} (hsv : w.node a = some sv)
    (h : sv'.dm.localNodeId = sv.dm.localNodeId) : (w.update a sv' out).name = w.name := by
  funext b
  by_cases hb : b = a
  · subst hb
    simp [name, update, hsv, h]
  · simp [name, update, Function.update_of_ne hb]

theorem name_step {e : WorldEvent} (h : Step w e t) : t.name = w.name := by
  cases h with
  | request hsv _ hreq =>
    exact name_update hsv (congrArg _ (Server.requestDelegation_eq_ok hreq).1)
  | @deliver dg now _ =>
    cases hsv : w.node dg.dst with
    | none =>
      simp only [receive, hsv]
      rfl
    | some sv =>
      simp only [receive, hsv]
      exact @name_update { w with net := w.net.erase dg } dg.dst sv _
        (Server.handleMessage w.db sv dg.src dg.msg now).2.2 hsv Server.handleMessage_localNodeId
  | duplicate _ => rfl
  | lose => rfl
  | learn hsv hdm => exact name_update hsv (congrArg _ hdm)

theorem exists_name_of_owned (h : d ∈ w.owned a) :
    ∃ sv, w.node a = some sv ∧ w.name a = some sv.dm.localNodeId := by
  cases hsv : w.node a with
  | none =>
    rw [owned, hsv] at h
    cases h
  | some sv => exact ⟨sv, rfl, by rw [name, hsv]; rfl⟩

/-- A node that keeps its devices changes the view by what it sends. -/
theorem view_update {sv' : Server} {out : List Outgoing} (hsv : w.node a = some sv)
    (hdm : sv'.dm = sv.dm) : (w.update a sv' out).view d =
      { w.view d with net := (w.view d).net +
          ((out.map fun o => ⟨a, o.1, o.2⟩).filterMap (Datagram.about d) : List _) } := by
  have howned : ∀ b, (w.update a sv' out).owned b = w.owned b := by
    intro b
    by_cases hb : b = a
    · subst hb
      rw [owned_update_self, hdm, owned_of_node hsv]
    · exact owned_update_of_ne hb
  have hnet : ((w.update a sv' out).net : Multiset Datagram).filterMap (Datagram.about d) =
      (w.net : Multiset Datagram).filterMap (Datagram.about d) +
        ((out.map fun o => ⟨a, o.1, o.2⟩).filterMap (Datagram.about d) : List _) := by
    rw [update, Multiset.filterMap_coe, List.filterMap_append, Multiset.filterMap_coe,
      Multiset.coe_add]
  simp only [view, howned, hnet]
  rfl

theorem mem_view_net {m : Handover.Msg SocketAddr} :
    m ∈ (w.view d).net ↔ ∃ dg ∈ w.net, dg.about d = some m := by
  rw [view, Multiset.mem_filterMap]
  rfl

theorem view_net_erase_none {dg : Datagram} (hdg : dg ∈ w.net) (h : dg.about d = none) :
    ({ w with net := w.net.erase dg } : World).view d = w.view d := by
  have hnet := Broadcast.filterMap_erase_none (Multiset.mem_coe.mpr hdg) h
  rw [Multiset.coe_erase] at hnet
  simp only [view, hnet]
  rfl

theorem view_net_erase_some {dg : Datagram} {m : Handover.Msg SocketAddr} (hdg : dg ∈ w.net)
    (h : dg.about d = some m) : m ∈ (w.view d).net ∧
      ({ w with net := w.net.erase dg } : World).view d =
        { w.view d with net := (w.view d).net.erase m } := by
  refine ⟨mem_view_net.mpr ⟨dg, hdg, h⟩, ?_⟩
  have hnet := Broadcast.filterMap_erase_some (Multiset.mem_coe.mpr hdg) h
  rw [Multiset.coe_erase] at hnet
  simp only [view, hnet]
  rfl

/-- A datagram other than a confirmation has left the network, and nothing else has changed. -/
theorem step_view_erase {name : SocketAddr → Option Uuid} {dg : Datagram} (hdg : dg ∈ w.net)
    (h : d ∉ dg.msg.acceptedIds) : ({ w with net := w.net.erase dg } : World).view d = w.view d ∨
      Handover.Step name (w.view d) (({ w with net := w.net.erase dg } : World).view d) := by
  by_cases hask : d ∈ dg.msg.asks
  · obtain ⟨hmem, hview⟩ := view_net_erase_some hdg (if_pos hask : dg.about d = _)
    rw [hview]
    exact .inr (.drop hmem)
  · exact .inl (view_net_erase_none hdg ((if_neg hask).trans (if_neg h)))

/-- What the node that a datagram reaches makes of it. -/
theorem view_receive {dg : Datagram} {now : Int} (hsv : w.node dg.dst = some sv) :
    (w.receive dg now).view d =
      ⟨{b | (d ∈ w.owned b ∨ b = dg.dst ∧ d ∈ sv.gained dg.msg) ∧
          ¬ (b = dg.dst ∧ d ∈ dg.msg.acceptedIds)},
        if d ∈ sv.gained dg.msg then (w.db.owner d).map fun _ => sv.dm.localNodeId
          else w.db.owner d,
        (({ w with net := w.net.erase dg } : World).view d).net +
          if d ∈ sv.gained dg.msg then {.taken dg.src dg.dst} else 0⟩ := by
  have hholders : {b | d ∈ (w.receive dg now).owned b} = {b |
      (d ∈ w.owned b ∨ b = dg.dst ∧ d ∈ sv.gained dg.msg) ∧
        ¬ (b = dg.dst ∧ d ∈ dg.msg.acceptedIds)} := by
    ext b
    by_cases hb : b = dg.dst
    · subst hb
      simp [owned_receive_self hsv, owned_of_node hsv]
    · simp [owned_receive_of_ne hb, hb]
  have howner : (w.receive dg now).db.owner d = if d ∈ sv.gained dg.msg then
      (w.db.owner d).map fun _ => sv.dm.localNodeId else w.db.owner d := by
    simp only [receive, hsv]
    exact Server.handleMessage_owner
  have hnet : ((w.receive dg now).net : Multiset Datagram).filterMap (Datagram.about d) =
      (({ w with net := w.net.erase dg } : World).view d).net +
        if d ∈ sv.gained dg.msg then {.taken dg.src dg.dst} else 0 := by
    simp only [receive, hsv, update, view]
    rw [Multiset.filterMap_coe, List.filterMap_append, Server.handleMessage_about,
      ← Multiset.coe_add, Multiset.filterMap_coe]
    split_ifs
    all_goals rfl
  simp only [view, hholders, howner, hnet]

/-- The delivery of a datagram is a step of the handover of each device. -/
theorem step_view_receive {name : SocketAddr → Option Uuid} {dg : Datagram} {now : Int}
    (hname : w.name = name) (h : Handover.Orderly name (w.view d)) (hdg : dg ∈ w.net) :
    (w.receive dg now).view d = w.view d ∨
      Handover.Step name (w.view d) ((w.receive dg now).view d) := by
  cases hsv : w.node dg.dst with
  | none =>
    -- nobody is there: no holder can be waiting for it
    simp only [receive, hsv]
    refine step_view_erase hdg fun hacc => ?_
    have hmem := (view_net_erase_some hdg (Datagram.about_of_accepted hacc)).1
    obtain ⟨sv, hsome, -⟩ := exists_name_of_owned (h.giver_mem hmem)
    rw [hsv] at hsome
    cases hsome
  | some sv =>
    rw [view_receive hsv]
    by_cases hgain : d ∈ sv.gained dg.msg
    · have hask : dg.about d = some (.ask dg.src dg.dst) := if_pos (Server.asks_of_gained hgain)
      obtain ⟨hmem, hview⟩ := view_net_erase_some hdg hask
      have hholders : {b | (d ∈ w.owned b ∨ b = dg.dst ∧ d ∈ sv.gained dg.msg) ∧
          ¬ (b = dg.dst ∧ d ∈ dg.msg.acceptedIds)} = insert dg.dst (w.view d).holders := by
        ext b
        simp [Server.acceptedIds_eq_nil_of_gained hgain, hgain, view, or_comm]
      have howner : (w.db.owner d).map (fun _ => sv.dm.localNodeId) = name dg.dst := by
        -- some holder is on record, so that there is a row to update
        obtain ⟨a, ha, hrecord⟩ := h.exists_record
        obtain ⟨sva, -, hsva⟩ := exists_name_of_owned ha
        have hsome : w.db.owner d = some sva.dm.localNodeId := by rw [← hsva, hname, ← hrecord]; rfl
        rw [hsome, ← hname, World.name, hsv]
        rfl
      rw [if_pos hgain, if_pos hgain, hholders, howner, hview]
      exact .inr (.take hmem)
    · rw [if_neg hgain, if_neg hgain, Multiset.add_zero]
      by_cases hacc : d ∈ dg.msg.acceptedIds
      · obtain ⟨hmem, hview⟩ := view_net_erase_some hdg (Datagram.about_of_accepted hacc)
        have hholders : {b | (d ∈ w.owned b ∨ b = dg.dst ∧ d ∈ sv.gained dg.msg) ∧
            ¬ (b = dg.dst ∧ d ∈ dg.msg.acceptedIds)} = (w.view d).holders \ {dg.dst} := by
          ext b
          simp [hacc, hgain, view]
        rw [hholders, hview]
        exact .inr (.settle hmem)
      · have hholders : {b | (d ∈ w.owned b ∨ b = dg.dst ∧ d ∈ sv.gained dg.msg) ∧
            ¬ (b = dg.dst ∧ d ∈ dg.msg.acceptedIds)} = {b | d ∈ w.owned b} := by
          ext b
          simp [hacc, hgain]
        rw [hholders]
        exact step_view_erase hdg hacc

theorem step_view {name : SocketAddr → Option Uuid} {e : WorldEvent} (hname : w.name = name)
    (h : Handover.Orderly name (w.view d)) (hstep : Guarded Orderly Step w e t) :
    t.view d = w.view d ∨ Handover.Step name (w.view d) (t.view d) := by
  obtain ⟨hguard, hstep⟩ := hstep
  cases hstep with
  | @request a sv sv' _ _ _ _ _ _ _ hsv _ hreq =>
    rw [view_update hsv (Server.requestDelegation_eq_ok hreq).1]
    obtain ⟨-, hout⟩ | ⟨hd, node, htarget, hout⟩ := Server.requestDelegation_about hreq a
    · rw [hout, Multiset.coe_nil, Multiset.add_zero]
      exact .inl rfl
    · obtain ⟨hfree, hother⟩ := hguard sv hsv
      have hnet : (w.view d).net = 0 := by
        refine Multiset.eq_zero_of_forall_notMem fun m hm => ?_
        obtain ⟨dg, hdg, habout⟩ := mem_view_net.mp hm
        rw [(hfree d hd).2 dg hdg] at habout
        cases habout
      rw [hout, Multiset.coe_singleton, hnet, Multiset.zero_add]
      exact .inr (.ask (hfree d hd).1 (hother node htarget).symm hnet)
  | deliver hdg => exact step_view_receive hname h hdg
  | @duplicate dg hdg =>
    have habout : dg.about d = none := by
      obtain ⟨hask, hacc⟩ := hguard
      rw [Datagram.about, hask, hacc, if_neg List.not_mem_nil, if_neg List.not_mem_nil]
    refine .inl ?_
    simp only [view, Multiset.filterMap_coe, List.filterMap_cons, habout]
    rfl
  | @lose dg =>
    by_cases hdg : dg ∈ w.net
    · refine step_view_erase hdg ?_
      rw [show dg.msg.acceptedIds = [] from hguard]
      exact List.not_mem_nil
    · rw [List.erase_of_not_mem hdg]
      exact .inl rfl
  | learn hsv hdm =>
    rw [view_update hsv hdm, List.map_nil, List.filterMap_nil, Multiset.coe_nil, Multiset.add_zero]
    exact .inl rfl

/-- Node `a` alone holds the device, and the database says so. -/
def OwnedBy (w : World) (d : Uuid) (a : SocketAddr) : Prop :=
  (∀ b, d ∈ w.owned b ↔ b = a) ∧ w.db.owner d = w.name a

/-- However requests, confirmations and refusals are delayed and reordered and requests are
lost: a device that one node held and had on record is held by one node, which is on record,
or its confirmation is on the way from the new holder to the former one. -/
theorem single_owner {es : List WorldEvent} (hnet : w.net = []) (hd : w.OwnedBy d a)
    (hrun : Run (Guarded Orderly Step) w es t) :
    (∃ b, t.OwnedBy d b) ∨ ∃ giver taker, giver ≠ taker ∧
      (∀ b, d ∈ t.owned b ↔ b = giver ∨ b = taker) ∧ t.db.owner d = t.name taker ∧
      ∃ dg ∈ t.net, dg.src = taker ∧ dg.dst = giver ∧ d ∈ dg.msg.acceptedIds := by
  have hstart : Handover.Orderly w.name (w.view d) := by
    have hview : w.view d = ⟨{a}, w.name a, 0⟩ := by
      simp only [view, hd.1, hd.2, hnet]
      rfl
    rw [hview]
    exact .kept a
  obtain ⟨hname, horderly⟩ := hrun.invariant
    (fun u => u.name = w.name ∧ Handover.Orderly w.name (u.view d)) (fun u e v hu hstep => by
      refine ⟨(name_step hstep.2).trans hu.1, ?_⟩
      cases step_view hu.1 hu.2 hstep with
      | inl hsame => exact hsame ▸ hu.2
      | inr hmoved => exact hu.2.step hmoved) ⟨rfl, hstart⟩
  generalize hview : t.view d = s at horderly
  have hholders : {b | d ∈ t.owned b} = s.holders := congrArg (·.holders) hview
  have hrecord : t.db.owner d = s.record := congrArg (·.record) hview
  rw [← hname] at horderly
  cases horderly with
  | kept holder => exact .inl ⟨holder, Set.ext_iff.mp hholders, hrecord⟩
  | asked _ => exact .inl ⟨_, Set.ext_iff.mp hholders, hrecord⟩
  | @taken giver taker hne =>
    refine .inr ⟨giver, taker, hne, Set.ext_iff.mp hholders, hrecord, ?_⟩
    have hmem : .taken giver taker ∈ (t.view d).net := by
      rw [hview]
      exact Multiset.mem_singleton_self _
    obtain ⟨dg, hdg, habout⟩ := mem_view_net.mp hmem
    rw [Datagram.about] at habout
    split_ifs at habout with hask hacc
    · cases habout
    · obtain ⟨rfl, rfl⟩ := Handover.Msg.taken.inj (Option.some.inj habout)
      exact ⟨dg, hdg, rfl, rfl, hacc⟩

/-- Node 1 hands device 9 over to node 2. -/
theorem single_owner_pair : ∃ b, pairReleased.OwnedBy 9 b := by
  have howned : pairWorld.OwnedBy 9 homeAddr := by
    refine ⟨fun b => ?_, by decide +kernel⟩
    by_cases hb : b = homeAddr
    · subst hb
      simp only [iff_true]
      decide +kernel
    · by_cases hpeer : b = peerAddr
      · subst hpeer
        simp only [hb, iff_false]
        decide +kernel
      · simp [pairWorld, owned, hb, hpeer]
  have hask : Guarded Orderly Step pairWorld
      (.request homeAddr [] 0 [soleDevice] .rebalance (some 2)) pairAsked := by
    refine ⟨fun sv hsv => ⟨fun d hd => ?_, fun node hnode => ?_⟩,
      .request rfl (fun h => by cases h) rfl⟩
    · obtain rfl := List.mem_singleton.mp hd
      exact ⟨(howned.1 _).mpr rfl, fun dg hdg => by cases hdg⟩
    · obtain rfl := Option.some.inj hsv
      have hpeer : pairServer.delegationTarget [] (some 2) =
          .ok (activeServer 2 peerAddr ∅).membership.localNode := by decide +kernel
      rw [hpeer] at hnode
      cases hnode
      decide
  have htake : Guarded Orderly Step pairAsked (.deliver pairRequest 0) pairTaken :=
    ⟨trivial, .deliver (by decide +kernel)⟩
  have hlet : Guarded Orderly Step pairTaken (.deliver pairAccept 0) pairReleased :=
    ⟨trivial, .deliver (by decide +kernel)⟩
  have hempty : pairReleased.net = [] := by decide +kernel
  refine (single_owner (w := pairWorld) rfl howned
    (.cons hask (.cons htake (.single hlet)))).resolve_right fun h => ?_
  obtain ⟨giver, taker, -, -, -, dg, hdg, -⟩ := h
  rw [hempty] at hdg
  cases hdg

section Overlap
variable {now : Int} {device : DelegatedDevice} {rest : List Datagram}

theorem offer_step {id : Uuid} {node : NodeInfo} (hsv : w.node a = some sv)
    (hnode : sv.membership.getNode id = some node) :
    Step w (.request a [] now [device] .rebalance (some id))
      (w.update a sv.nextSeq [(node.clusterAddr, sv.offer device now)]) := by
  refine @Step.request _ _ _ _ _ _ _ _ _ _ [device.deviceId] hsv (fun h => by cases h) ?_
  simp only [Server.requestDelegation, Server.delegationTarget, hnode, List.map_cons,
    List.map_nil, Server.offer, reduceCtorEq, if_false]

/-- The oldest datagram arrives. -/
theorem deliver_step {dg : Datagram} {db : InnerDB} {sv' : Server} {out : List Outgoing}
    (hnet : w.net = dg :: rest) (hsv : w.node dg.dst = some sv)
    (h : Server.handleMessage w.db sv dg.src dg.msg now = (db, sv', out)) :
    Step w (.deliver dg now) ⟨db, Function.update w.node dg.dst (some sv'),
      rest ++ out.map fun o => ⟨dg.dst, o.1, o.2⟩⟩ := by
  have hreceive : w.receive dg now = ⟨db, Function.update w.node dg.dst (some sv'),
      rest ++ out.map fun o => ⟨dg.dst, o.1, o.2⟩⟩ := by
    simp only [receive, hsv, h, update, hnet, List.erase_cons_head]
  rw [← hreceive]
  exact .deliver (hnet ▸ List.mem_cons_self)

/-- Two delegations of one device overlap: the second request is sent before the first
confirmation has come back. Its wake-up is ahead by the clocks of both that take it. -/
theorem overlapping_requests_split {b c : SocketAddr} {svb svc : Server} {nb nc : NodeInfo}
    {idb idc : Uuid} (hab : a ≠ b) (hac : a ≠ c) (hbc : b ≠ c) (hnet : w.net = [])
    (ha : w.node a = some sv) (hb : w.node b = some svb) (hc : w.node c = some svc)
    (hnb : sv.membership.getNode idb = some nb ∧ nb.clusterAddr = b)
    (hnc : sv.membership.getNode idc = some nc ∧ nc.clusterAddr = c)
    (hbacc : svb.canAccept .rebalance = true) (hcacc : svc.canAccept .rebalance = true)
    (device : DelegatedDevice) (now nowb nowc : Int) (hclocks : 0 ≤ nowb ∧ 0 ≤ nowc)
    (hbtime : Scheduler.Wakeable nowb device.scheduleTime)
    (hctime : Scheduler.Wakeable nowc device.scheduleTime) :
    ∃ t svb' svc', Run Step w
        [.request a [] now [device] .rebalance (some idb),
          .request a [] now [device] .rebalance (some idc),
          .deliver ⟨a, b, sv.offer device now⟩ nowb,
          .deliver ⟨a, c, sv.nextSeq.offer device now⟩ nowc,
          .deliver ⟨b, a, svb.confirmation device nowb⟩ now,
          .deliver ⟨c, a, svc.confirmation device nowc⟩ now] t ∧
      t.net = [] ∧ device.deviceId ∉ t.owned a ∧
      t.node b = some svb' ∧ device.deviceId ∈ t.owned b ∧ svb'.Wakes device.deviceId ∧
      t.node c = some svc' ∧ device.deviceId ∈ t.owned c ∧ svc'.Wakes device.deviceId ∧
      t.db.owner device.deviceId =
        (w.db.owner device.deviceId).map fun _ => svc.dm.localNodeId := by
  obtain ⟨hnb, rfl⟩ := hnb
  obtain ⟨hnc, rfl⟩ := hnc
  let w₁ := w.update a sv.nextSeq [(nb.clusterAddr, sv.offer device now)]
  let w₂ := w₁.update a sv.nextSeq.nextSeq [(nc.clusterAddr, sv.nextSeq.offer device now)]
  have hask₁ : Step w _ w₁ := offer_step ha hnb
  have hask₂ : Step w₁ _ w₂ := offer_step (Function.update_self _ _ _) hnc
  have hnet₂ : w₂.net = [⟨a, nb.clusterAddr, sv.offer device now⟩,
      ⟨a, nc.clusterAddr, sv.nextSeq.offer device now⟩] := by
    simp only [w₂, w₁, update, hnet]
    rfl
  have hnode₂ : ∀ x, x ≠ a → w₂.node x = w.node x := by
    intro x hx
    simp only [w₂, w₁, update, Function.update_of_ne hx]
  obtain ⟨db₃, svb', hb₃, hownb, hwakeb, hdb₃⟩ :=
    @Server.handle_offer w.db svb a nowb sv device now hbacc hclocks.1 hbtime
  obtain ⟨db₄, svc', hc₄, hownc, hwakec, hdb₄⟩ :=
    @Server.handle_offer db₃ svc a nowc sv.nextSeq device now hcacc hclocks.2 hctime
  obtain ⟨sv₅, ha₅, -⟩ :=
    @Server.handle_confirmation db₄ sv.nextSeq.nextSeq nb.clusterAddr now svb device nowb
  obtain ⟨sv₆, ha₆, hown⟩ :=
    @Server.handle_confirmation db₄ sv₅ nc.clusterAddr now svc device nowc
  let n₃ := Function.update w₂.node nb.clusterAddr (some svb')
  let n₄ := Function.update n₃ nc.clusterAddr (some svc')
  let n₅ := Function.update n₄ a (some sv₅)
  let n₆ := Function.update n₅ a (some sv₆)
  have hn₃ : n₃ nc.clusterAddr = some svc :=
    (Function.update_of_ne hbc.symm _ _).trans ((hnode₂ _ hac.symm).trans hc)
  have hn₄ : n₄ a = some sv.nextSeq.nextSeq :=
    (Function.update_of_ne hac _ _).trans
      ((Function.update_of_ne hab _ _).trans (Function.update_self _ _ _))
  have htake₃ : Step w₂ _ ⟨db₃, n₃, _⟩ :=
    deliver_step hnet₂ ((hnode₂ _ hab.symm).trans hb) hb₃
  have htake₄ : Step ⟨db₃, n₃, _⟩ _ ⟨db₄, n₄, _⟩ :=
    @deliver_step ⟨db₃, n₃, _⟩ svc nowc [⟨nb.clusterAddr, a, svb.confirmation device nowb⟩]
      ⟨a, nc.clusterAddr, sv.nextSeq.offer device now⟩ _ _ _ rfl hn₃ hc₄
  have hlet₅ : Step ⟨db₄, n₄, _⟩ _ ⟨db₄, n₅, _⟩ :=
    @deliver_step ⟨db₄, n₄, _⟩ _ now [⟨nc.clusterAddr, a, svc.confirmation device nowc⟩]
      ⟨nb.clusterAddr, a, svb.confirmation device nowb⟩ _ _ _ rfl hn₄ ha₅
  have hlet₆ : Step ⟨db₄, n₅, _⟩ _ ⟨db₄, n₆, []⟩ :=
    @deliver_step ⟨db₄, n₅, _⟩ _ now []
      ⟨nc.clusterAddr, a, svc.confirmation device nowc⟩ _ _ _ rfl (Function.update_self _ _ _) ha₆
  have hnb₆ : n₆ nb.clusterAddr = some svb' :=
    (Function.update_of_ne hab.symm _ _).trans ((Function.update_of_ne hab.symm _ _).trans
      ((Function.update_of_ne hbc _ _).trans (Function.update_self _ _ _)))
  have hnc₆ : n₆ nc.clusterAddr = some svc' :=
    (Function.update_of_ne hac.symm _ _).trans
      ((Function.update_of_ne hac.symm _ _).trans (Function.update_self _ _ _))
  refine ⟨⟨db₄, n₆, []⟩, svb', svc', .cons hask₁ (.cons hask₂ (.cons htake₃ (.cons htake₄
    (.cons hlet₅ (.single hlet₆))))), rfl, ?_, hnb₆, ?_, hwakeb, hnc₆, ?_, hwakec, ?_⟩
  · rw [owned_of_node (Function.update_self _ _ _ : n₆ a = some sv₆), hown]
    exact Finset.notMem_erase _ _
  · rw [owned_of_node hnb₆]
    exact hownb
  · rw [owned_of_node hnc₆]
    exact hownc
  · rw [hdb₄, hdb₃, Option.map_map]
    rfl

end Overlap

/- Node 1 owns device 9 and is told to delegate it to node 2, and then to node 3. -/
def thirdAddr : SocketAddr := ⟨.v4 0x7f000001, 7002⟩

def trioServer : Server where
  membership := pairServer.membership.addOrUpdateNode
    (activeServer 3 thirdAddr ∅).membership.localNode 0
  dm := pairServer.dm
  localNodeId_dm := by decide +kernel

def trioWorld : World where
  db := InnerDB.new.addDeviceToBucket 9 0 1
  node a := if a = homeAddr then some trioServer
    else if a = peerAddr then some (activeServer 2 peerAddr ∅)
    else if a = thirdAddr then some (activeServer 3 thirdAddr ∅) else none
  net := []

theorem overlapping_requests_split_trio : ∃ es t svb svc, Run Step trioWorld es t ∧ t.net = [] ∧
    t.node peerAddr = some svb ∧ 9 ∈ t.owned peerAddr ∧ svb.Wakes 9 ∧
    t.node thirdAddr = some svc ∧ 9 ∈ t.owned thirdAddr ∧ svc.Wakes 9 ∧
    t.db.owner 9 = some 3 := by
  have hb : trioServer.membership.getNode 2 =
      some (activeServer 2 peerAddr ∅).membership.localNode := by decide +kernel
  have hc : trioServer.membership.getNode 3 =
      some (activeServer 3 thirdAddr ∅).membership.localNode := by decide +kernel
  obtain ⟨t, svb, svc, hrun, hnet, -, hpeer, hownb, hwakeb, hthird, hownc, hwakec, howner⟩ :=
    overlapping_requests_split (w := trioWorld) (a := homeAddr) (b := peerAddr) (c := thirdAddr)
      (by decide) (by decide) (by decide) rfl rfl rfl rfl ⟨hb, rfl⟩ ⟨hc, rfl⟩
      (by decide +kernel) (by decide +kernel) soleDevice 0 1 (2 * nanosPerSec)
      (by decide) (by decide +kernel) (by decide +kernel)
  exact ⟨_, t, svb, svc, hrun, hnet, hpeer, hownb, hwakeb, hthird, hownc, hwakec,
    howner.trans (by decide +kernel)⟩

end World

end HeadEnd.Cluster
