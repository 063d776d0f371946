import HeadEnd.Cluster.Delegation

/-! Does delegation keep every device at some node? A device is safe at a holder
that no accept naming the device is on its way to. -/
namespace HeadEnd.Cluster
open Transition DeviceManager

namespace Server
variable {db : InnerDB} {sv : Server} {src : SocketAddr} {msg : ClusterMessage} {now : Int}

/-- What handling a message comes to, with the devices it gains and names. -/
theorem handleMessage_cases (db : InnerDB) (sv : Server) (src : SocketAddr) (msg : ClusterMessage)
    (now : Int) :
    (∃ payload, handleMessage db sv src msg now = handleDelegationRequest db sv src payload now ∧
      msg.acceptedIds = [] ∧ sv.gained msg = if sv.canAccept payload.reason then
        payload.devices.map DelegatedDevicePayload.deviceId else []) ∨
    (∃ payload, handleMessage db sv src msg now = (db, sv.handleDelegationAccept payload, []) ∧
      msg.acceptedIds = payload.acceptedDeviceIds ∧ sv.gained msg = []) ∨
    (handleMessage db sv src msg now = (db, sv.handleNodeLeave msg.nodeId, []) ∧
      msg.acceptedIds = [] ∧ sv.gained msg = []) ∨
    (handleMessage db sv src msg now = (db, sv, []) ∧
      msg.acceptedIds = [] ∧ sv.gained msg = []) := by
  obtain ⟨version, msgType, nodeId, seq, stamp, payload⟩ := msg
  cases msgType with
  | delegateRequest =>
    cases payload with
    | delegateRequest payload => exact .inl ⟨payload, rfl, rfl, rfl⟩
    | _ => exact .inr (.inr (.inr ⟨rfl, rfl, rfl⟩))
  | delegateAccept =>
    cases payload with
    | delegateAccept payload => exact .inr (.inl ⟨payload, rfl, rfl, rfl⟩)
    | _ => exact .inr (.inr (.inr ⟨rfl, rfl, rfl⟩))
  | nodeLeave => exact .inr (.inr (.inl ⟨rfl, rfl, rfl⟩))
  | _ => exact .inr (.inr (.inr ⟨rfl, rfl, rfl⟩))

theorem handleDelegationRequest_ownedDevices (payload : DelegateRequestPayload) :
    (handleDelegationRequest db sv src payload now).2.1.dm.ownedDevices =
      sv.dm.ownedDevices ∪ (if sv.canAccept payload.reason then
        payload.devices.map DelegatedDevicePayload.deviceId else []).toFinset := by
  unfold handleDelegationRequest
  split
  · rw [acceptDelegation_ownedDevices, List.map_map]
    rfl
  · simp [nextSeq]

theorem handleDelegationAccept_ownedDevices (payload : DelegateAcceptPayload) :
    (sv.handleDelegationAccept payload).dm.ownedDevices =
      sv.dm.ownedDevices \ payload.acceptedDeviceIds.toFinset := by
  rw [handleDelegationAccept, foldl_removeScheduledDevice_ownedDevices,
    releaseDevices_ownedDevices]

theorem handleMessage_ownedDevices :
    (handleMessage db sv src msg now).2.1.dm.ownedDevices =
      (sv.dm.ownedDevices ∪ (sv.gained msg).toFinset) \ msg.acceptedIds.toFinset := by
  rcases handleMessage_cases db sv src msg now with
    ⟨payload, h, ha, hg⟩ | ⟨payload, h, ha, hg⟩ | ⟨h, ha, hg⟩ | ⟨h, ha, hg⟩
  · rw [h, ha, hg, handleDelegationRequest_ownedDevices]
    simp
  · rw [h, ha, hg, handleDelegationAccept_ownedDevices]
    simp
  · simp [h, ha, hg, handleNodeLeave]
  · simp [h, ha, hg]

/-- Only an accept is ever answered with devices, to where the request came from. -/
theorem acceptedIds_of_mem_handleMessage {out : Outgoing} {d : Uuid}
    (hout : out ∈ (handleMessage db sv src msg now).2.2) (hd : d ∈ out.2.acceptedIds) :
    out.1 = src ∧ d ∈ sv.gained msg := by
  rcases handleMessage_cases db sv src msg now with
    ⟨payload, h, -, hg⟩ | ⟨payload, h, -, -⟩ | ⟨h, -, -⟩ | ⟨h, -, -⟩
  · rw [h, handleDelegationRequest] at hout
    rw [hg]
    split at hout
    next hacc =>
      rw [List.mem_singleton] at hout
      subst hout
      rw [if_pos hacc]
      refine ⟨rfl, ?_⟩
      change d ∈ (payload.devices.map ofPayload).map DelegatedDevice.deviceId at hd
      simpa [ofPayload] using hd
    next =>
      rw [List.mem_singleton] at hout
      subst hout
      cases hd
  · rw [h] at hout
    cases hout
  · rw [h] at hout
    cases hout
  · rw [h] at hout
    cases hout

theorem acceptedIds_eq_nil_of_gained {d : Uuid} (h : d ∈ sv.gained msg) : msg.acceptedIds = [] := by
  rcases handleMessage_cases .new sv ⟨.v4 0, 0⟩ msg 0 with
    ⟨_, -, ha, -⟩ | ⟨_, -, -, hg⟩ | ⟨-, ha, -⟩ | ⟨-, ha, -⟩
  · exact ha
  · rw [hg] at h
    cases h
  · exact ha
  · exact ha

/-- A request names no device as accepted, and changes nothing but a counter. -/
theorem requestDelegation_eq_ok {active : List NodeInfo} {devices : List DelegatedDevice}
    {reason : DelegationReason} {target : Option Uuid} {sv' : Server} {out : List Outgoing}
    {ids : List Uuid} (h : sv.requestDelegation active now devices reason target =
      .ok (sv', out, ids)) :
    sv'.dm = sv.dm ∧ ∀ o ∈ out, o.2.acceptedIds = [] := by
  unfold requestDelegation at h
  split at h
  · cases h
    simp
  · split at h
    · cases h
    · cases h
      refine ⟨rfl, fun o ho => ?_⟩
      rw [List.mem_singleton.mp ho]
      rfl

end Server

namespace World
variable {w t : World} {a : SocketAddr} {sv : Server} {d : Uuid}

theorem owned_of_node (h : w.node a = some sv) : w.owned a = sv.dm.ownedDevices := by
  rw [owned, h]
  rfl

@[simp] theorem owned_update_self {out : List Outgoing} :
    (w.update a sv out).owned a = sv.dm.ownedDevices := by
  simp [owned, update]

theorem owned_update_of_ne {b : SocketAddr} {out : List Outgoing} (h : b ≠ a) :
    (w.update a sv out).owned b = w.owned b := by
  simp [owned, update, Function.update_of_ne h]

theorem owned_receive_of_ne {b : SocketAddr} {dg : Datagram} {now : Int} (h : b ≠ dg.dst) :
    (w.receive dg now).owned b = w.owned b := by
  unfold receive
  cases hsv : w.node dg.dst with
  | none => rfl
  | some sv => simp [owned, update, Function.update_of_ne h]

theorem owned_receive_self {dg : Datagram} {now : Int} (hsv : w.node dg.dst = some sv) :
    (w.receive dg now).owned dg.dst =
      (sv.dm.ownedDevices ∪ (sv.gained dg.msg).toFinset) \ dg.msg.acceptedIds.toFinset := by
  simp [receive, hsv, owned, update, Server.handleMessage_ownedDevices]

/-- Device `d` is held at `a`, and nothing on its way there will take it away. -/
def SafeAt (w : World) (d : Uuid) (a : SocketAddr) : Prop :=
  d ∈ w.owned a ∧ ∀ dg ∈ w.net, dg.dst = a → d ∉ dg.msg.acceptedIds

/-- No node takes devices over from itself, or while an accept that names one of
them is in flight to it. -/
def Undisturbed (w : World) : WorldEvent → Prop
  | .deliver dg _ => ∀ sv, w.node dg.dst = some sv → ∀ d ∈ sv.gained dg.msg,
      dg.src ≠ dg.dst ∧ ∀ dg' ∈ w.net, dg'.dst = dg.dst → d ∉ dg'.msg.acceptedIds
  | _ => True

/-- A node that keeps its devices and sends no accept leaves every device safe. -/
theorem SafeAt.update {sv' : Server} {out : List Outgoing} {b : SocketAddr} (h : w.SafeAt d b)
    (hsv : w.node a = some sv) (hdm : sv'.dm = sv.dm) (hout : ∀ o ∈ out, o.2.acceptedIds = []) :
    (w.update a sv' out).SafeAt d b := by
  constructor
  · by_cases hb : b = a
    · subst hb
      rw [owned_update_self, hdm, ← owned_of_node hsv]
      exact h.1
    · rw [owned_update_of_ne hb]
      exact h.1
  · intro dg hdg hdst
    rcases List.mem_append.mp hdg with hold | hnew
    · exact h.2 dg hold hdst
    · obtain ⟨o, ho, rfl⟩ := List.mem_map.mp hnew
      rw [hout o ho]
      exact List.not_mem_nil

/-- What is in flight after a delivery: the rest, or an answer to the sender that
names only devices taken over. -/
theorem acceptedIds_of_mem_receive {dg dg' : Datagram} {now : Int}
    (hsv : w.node dg.dst = some sv) (hdg' : dg' ∈ (w.receive dg now).net)
    (hd : d ∈ dg'.msg.acceptedIds) :
    dg' ∈ w.net ∨ (dg'.dst = dg.src ∧ d ∈ sv.gained dg.msg) := by
  simp only [receive, hsv, update] at hdg'
  rcases List.mem_append.mp hdg' with hold | hnew
  · exact .inl (List.mem_of_mem_erase hold)
  · obtain ⟨o, ho, rfl⟩ := List.mem_map.mp hnew
    exact .inr (Server.acceptedIds_of_mem_handleMessage ho hd)

theorem exists_safeAt_receive {dg : Datagram} {now : Int} {b : SocketAddr} (h : w.SafeAt d b)
    (hdg : dg ∈ w.net) (hguard : w.Undisturbed (.deliver dg now)) :
    ∃ b, (w.receive dg now).SafeAt d b := by
  cases hsv : w.node dg.dst with
  | none =>
    refine ⟨b, ?_⟩
    simp only [receive, hsv]
    exact ⟨h.1, fun dg' hdg' => h.2 dg' (List.mem_of_mem_erase hdg')⟩
  | some sv =>
    by_cases hgain : d ∈ sv.gained dg.msg
    · -- the new holder: no accept was on its way, and the one it sends goes elsewhere
      obtain ⟨hne, hfree⟩ := hguard sv hsv d hgain
      refine ⟨dg.dst, ?_, fun dg' hdg' hdst hd => ?_⟩
      · rw [owned_receive_self hsv, Server.acceptedIds_eq_nil_of_gained hgain]
        simp [hgain]
      · rcases acceptedIds_of_mem_receive hsv hdg' hd with hold | ⟨hsrc, -⟩
        · exact hfree dg' hold hdst hd
        · exact hne (hsrc.symm.trans hdst)
    · refine ⟨b, ?_, fun dg' hdg' hdst hd => ?_⟩
      · by_cases hb : b = dg.dst
        · subst hb
          have hkeep := h.2 dg hdg rfl
          have hold := h.1
          rw [owned_of_node hsv] at hold
          rw [owned_receive_self hsv]
          simp [hold, hkeep]
        · rw [owned_receive_of_ne hb]
          exact h.1
      · rcases acceptedIds_of_mem_receive hsv hdg' hd with hold | ⟨-, hnew⟩
        · exact h.2 dg' hold hdst hd
        · exact hgain hnew

theorem exists_safeAt_step {e : WorldEvent} (h : ∃ b, w.SafeAt d b)
    (hstep : Guarded Undisturbed Step w e t) : ∃ b, t.SafeAt d b := by
  obtain ⟨b, hb⟩ := h
  obtain ⟨hguard, hstep⟩ := hstep
  cases hstep with
  | request hsv _ hreq =>
    obtain ⟨hdm, hout⟩ := Server.requestDelegation_eq_ok hreq
    exact ⟨b, hb.update hsv hdm hout⟩
  | deliver hdg => exact exists_safeAt_receive hb hdg hguard
  | duplicate hdg =>
    refine ⟨b, hb.1, fun dg' hdg' hdst => ?_⟩
    rcases List.mem_cons.mp hdg' with rfl | hold
    · exact hb.2 dg' hdg hdst
    · exact hb.2 dg' hold hdst
  | lose => exact ⟨b, hb.1, fun dg' hdg' => hb.2 dg' (List.mem_of_mem_erase hdg')⟩
  | learn hsv hdm => exact ⟨b, hb.update hsv hdm (by simp)⟩

/-- In every run whose steps are all undisturbed, from a state with nothing in
flight, a device that some node held is held by some node throughout. -/
theorem delegation_keeps_devices {es : List WorldEvent} (hnet : w.net = [])
    (hrun : Run (Guarded Undisturbed Step) w es t) (a : SocketAddr) (d : Uuid)
    (hd : d ∈ w.owned a) : ∃ b, d ∈ t.owned b := by
  have hstart : w.SafeAt d a := ⟨hd, by simp [hnet]⟩
  obtain ⟨b, hb⟩ := Run.invariant (fun w => ∃ b, w.SafeAt d b)
    (fun _ _ _ h hstep => exists_safeAt_step h hstep) hrun ⟨a, hstart⟩
  exact ⟨b, hb.1⟩

/- Two addresses of one machine, and an active node with given devices. -/
def homeAddr : SocketAddr := ⟨.v4 0x7f000001, 7000⟩
def peerAddr : SocketAddr := ⟨.v4 0x7f000001, 7001⟩

def activeServer (id : Uuid) (addr : SocketAddr) (owned : Finset Uuid) : Server where
  membership := (MembershipList.new ⟨id, "node", addr, 6565, 0, 0⟩ 0).setLocalStatus .active
  dm := ⟨id, owned, ⟨24, .empty, some owned, id, false⟩⟩
  localNodeId_dm := rfl

def soleDevice : DelegatedDevice := ⟨9, some "10.0.0.9", none, 3600000000000⟩

/- Node 1 owns device 9 and knows node 2, to which it hands the device. -/
def pairServer : Server where
  membership := (activeServer 1 homeAddr {9}).membership.addOrUpdateNode
    (activeServer 2 peerAddr ∅).membership.localNode 0
  dm := (activeServer 1 homeAddr {9}).dm
  localNodeId_dm := by decide +kernel

def pairWorld : World where
  db := InnerDB.new.addDeviceToBucket 9 0 1
  node a := if a = homeAddr then some pairServer
    else if a = peerAddr then some (activeServer 2 peerAddr ∅) else none
  net := []

def pairRequest : Datagram :=
  ⟨homeAddr, peerAddr, pairServer.message .delegateRequest
    (.delegateRequest ⟨[toPayload soleDevice], .rebalance⟩) 0⟩

def pairAsked : World :=
  pairWorld.update homeAddr pairServer.nextSeq [(peerAddr, pairRequest.msg)]

def pairTaken : World := pairAsked.receive pairRequest 0

def pairAccept : Datagram :=
  ⟨peerAddr, homeAddr,
    (activeServer 2 peerAddr ∅).message .delegateAccept (.delegateAccept ⟨[9]⟩) 0⟩

def pairReleased : World := pairTaken.receive pairAccept 0

/-- Node 1 has released device 9, and it is still held. -/
theorem delegation_keeps_devices_pair :
    9 ∉ pairReleased.owned homeAddr ∧ ∃ b, 9 ∈ pairReleased.owned b := by
  have hask : Guarded Undisturbed Step pairWorld
      (.request homeAddr [] 0 [soleDevice] .rebalance (some 2)) pairAsked :=
    ⟨trivial, .request rfl (fun h => nomatch h) rfl⟩
  have htake : Step pairAsked (.deliver pairRequest 0) pairTaken := .deliver (by decide +kernel)
  have hrelease : Step pairTaken (.deliver pairAccept 0) pairReleased :=
    .deliver (by decide +kernel)
  have hguard : pairAsked.Undisturbed (.deliver pairRequest 0) := by
    intro sv hsv d hd
    refine ⟨by decide, fun dg' hdg' _ => ?_⟩
    rw [List.mem_singleton.mp (hdg' : dg' ∈ [pairRequest])]
    exact List.not_mem_nil
  have hlast : pairTaken.Undisturbed (.deliver pairAccept 0) :=
    fun _ _ d hd => absurd hd List.not_mem_nil
  exact ⟨by decide +kernel, delegation_keeps_devices (w := pairWorld) rfl
    (.cons hask (.cons ⟨hguard, htake⟩ (.single ⟨hlast, hrelease⟩))) homeAddr 9
    (by decide +kernel)⟩

/-- One node, number 1, which owns device 9. -/
def soleWorld : World where
  db := InnerDB.new.addDeviceToBucket 9 0 1
  node a := if a = homeAddr then some (activeServer 1 homeAddr {9}) else none
  net := []

def soleRequest : Datagram :=
  ⟨homeAddr, homeAddr, (activeServer 1 homeAddr {9}).message .delegateRequest
    (.delegateRequest ⟨[toPayload soleDevice], .rebalance⟩) 0⟩

def soleAccept : Datagram :=
  ⟨homeAddr, homeAddr, (activeServer 1 homeAddr {9}).nextSeq.message .delegateAccept
    (.delegateAccept ⟨[9]⟩) 0⟩

def soleAsked : World :=
  soleWorld.update homeAddr (activeServer 1 homeAddr {9}).nextSeq [(homeAddr, soleRequest.msg)]

def soleEnd : World := (soleAsked.receive soleRequest 0).receive soleAccept 0

/-- A node asked to delegate to itself accepts, and then releases what it accepted. -/
theorem delegation_to_self_loses :
    ¬ ∀ es t, Run Step soleWorld es t →
      ∀ a, ∀ d ∈ soleWorld.owned a, ∃ b, d ∈ t.owned b := by
  intro h
  have hask : Step soleWorld
      (.request homeAddr [] 0 [soleDevice] .rebalance (some 1)) soleAsked :=
    .request rfl (fun h => nomatch h) rfl
  have haccept : Step soleAsked (.deliver soleRequest 0) _ := .deliver (by decide +kernel)
  have hrelease : Step (soleAsked.receive soleRequest 0) (.deliver soleAccept 0) soleEnd :=
    .deliver (by decide +kernel)
  obtain ⟨b, hb⟩ := h _ _ (.cons hask (.cons haccept (.single hrelease))) homeAddr 9
    (by decide +kernel)
  by_cases hhome : b = homeAddr
  · subst hhome
    revert hb
    decide +kernel
  · have howned : soleEnd.owned b = soleWorld.owned b := by
      rw [soleEnd, owned_receive_of_ne hhome, owned_receive_of_ne hhome, soleAsked,
        owned_update_of_ne hhome]
    rw [howned] at hb
    simp [soleWorld, owned, hhome] at hb

end World

end HeadEnd.Cluster
