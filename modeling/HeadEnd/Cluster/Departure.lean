import HeadEnd.Cluster.Shutdown

/-! What a departing node leaves behind when the others hear its goodbye. -/
namespace HeadEnd.Cluster
open Transition DeviceManager

namespace Server
variable {db : InnerDB} {sv sv' : Server} {now : Int}

theorem msgType_of_mem_handleMessage {src : SocketAddr} {msg : ClusterMessage} {o : Outgoing}
    (ho : o ∈ (handleMessage db sv src msg now).2.2) : o.2.msgType ≠ .nodeLeave := by
  rcases handleMessage_cases db sv src msg now with
    ⟨payload, h, -, -⟩ | ⟨payload, h, -, -⟩ | ⟨h, -, -⟩ | ⟨h, -, -⟩
  · rw [h, handleDelegationRequest] at ho
    split at ho
    all_goals
      rw [List.mem_singleton.mp ho]
      intro heq
      cases heq
  all_goals
    rw [h] at ho
    cases ho

/-- A request that is sent asks for exactly the devices given. -/
theorem requestDelegation_sends {active : List NodeInfo} {devices : List DelegatedDevice}
    {reason : DelegationReason} {target : Option Uuid} {out : List Outgoing} {ids : List Uuid}
    (h : sv.requestDelegation active now devices reason target = .ok (sv', out, ids)) :
    (devices = [] ∧ out = []) ∨
      ∃ addr msg, out = [(addr, msg)] ∧ msg.msgType = .delegateRequest ∧
        msg.payload = .delegateRequest ⟨devices.map toPayload, reason⟩ := by
  unfold requestDelegation at h
  split at h
  next hnil =>
    cases h
    exact .inl ⟨hnil, rfl⟩
  next =>
    split at h
    · cases h
    · cases h
      exact .inr ⟨_, _, rfl, rfl, rfl⟩

theorem msgType_of_mem_requestDelegation {active : List NodeInfo} {devices : List DelegatedDevice}
    {reason : DelegationReason} {target : Option Uuid} {out : List Outgoing} {ids : List Uuid}
    (h : sv.requestDelegation active now devices reason target = .ok (sv', out, ids))
    {o : Outgoing} (ho : o ∈ out) : o.2.msgType ≠ .nodeLeave := by
  rcases requestDelegation_sends h with ⟨-, rfl⟩ | ⟨addr, msg, rfl, htype, -⟩
  · cases ho
  · rw [List.mem_singleton.mp ho, htype]
    intro heq
    cases heq

end Server

namespace World
variable {w w' : World} {a : SocketAddr} {sv : Server} {out : List Outgoing} {dg : Datagram}

theorem mem_update_net :
    dg ∈ (w.update a sv out).net ↔ dg ∈ w.net ∨ ∃ o ∈ out, dg = ⟨a, o.1, o.2⟩ := by
  simp only [update, List.mem_append, List.mem_map, eq_comm]

theorem mem_net_receive {now : Int} {dg' : Datagram} (h : dg' ∈ w.net) (hne : dg' ≠ dg) :
    dg' ∈ (w.receive dg now).net := by
  have herase := (List.mem_erase_of_ne hne).mpr h
  cases hsv : w.node dg.dst with
  | none => simpa [receive, hsv] using herase
  | some sv => simp [receive, hsv, update, herase]

/-- Goodbyes come only from a departing node. -/
theorem Step.mem_of_nodeLeave {e : WorldEvent} (h : w.Step e w') (hdg : dg ∈ w'.net)
    (htype : dg.msg.msgType = .nodeLeave) : dg ∈ w.net := by
  cases h with
  | request _ _ hreq =>
    rcases mem_update_net.mp hdg with hold | ⟨o, ho, rfl⟩
    · exact hold
    · exact absurd htype (Server.msgType_of_mem_requestDelegation hreq ho)
  | @deliver dg' now _ =>
    cases hsv : w.node dg'.dst with
    | none =>
      rw [receive, hsv] at hdg
      exact List.mem_of_mem_erase hdg
    | some sv =>
      simp only [receive, hsv] at hdg
      rcases mem_update_net.mp hdg with hold | ⟨o, ho, rfl⟩
      · exact List.mem_of_mem_erase hold
      · exact absurd htype (Server.msgType_of_mem_handleMessage ho)
  | duplicate hmem =>
    rcases List.mem_cons.mp hdg with rfl | hold
    · exact hmem
    · exact hold
  | lose => exact List.mem_of_mem_erase hdg
  | learn _ _ =>
    rcases mem_update_net.mp hdg with hold | ⟨o, ho, -⟩
    · exact hold
    · cases ho

end World

namespace Departure
variable {p : Departure} {s t : DepartureState} {d : Uuid}

/-- The devices that are still to be asked about. -/
def Pledged : ShutdownPhase → Uuid → Prop
  | .building todo built, d => d ∈ todo ∨ d ∈ built.map DelegatedDevice.deviceId
  | .sending rest, d => ∃ c ∈ rest, d ∈ c.1.map DelegatedDevice.deviceId
  | _, _ => False

/-- The node has looked up what it owns and has not given up. -/
def Collected : ShutdownPhase → Prop
  | .building _ _ | .sending _ | .waiting | .left => True
  | .running | .draining | .failed _ => False

/-- A request of the departing node that names `d` is in flight. -/
def Asked (p : Departure) (w : World) (d : Uuid) : Prop :=
  ∃ dg ∈ w.net, dg.src = p.home ∧ d ∈ dg.msg.shutdownIds

def Farewell (p : Departure) (dg : Datagram) : Prop :=
  dg.msg.msgType = .nodeLeave ∧ dg.msg.nodeId = p.nodeId

/-- The departing node holds what the database says it owns when it looks. After that no
device registers with it, none is assigned to it when a failed node's devices are shared out,
and it accepts none. Its requests all reach a node of another id that accepts them without an
error, and its goodbye is heard only when none of them is in flight. -/
def Orderly (p : Departure) (s : DepartureState) : DepartureEvent → Prop
  | .collect _ => ∀ d, s.world.db.owner d = some p.nodeId → d ∈ s.world.owned p.home
  | .register a _ _ => Collected s.phase → ∀ sv, s.world.node a = some sv →
    sv.dm.scheduler.localNodeId ≠ p.nodeId
  | .redistribute a fails _ others orphaned => Collected s.phase → ∀ sv, s.world.node a = some sv →
    p.nodeId ∉ (updatesMade fails (redistributionPlan
      (allNodes sv.dm.localNodeId sv.dm.ownedDevices.card others) orphaned)).map Prod.snd
  | .acceptFails dg _ _ =>
    (dg.src = p.home → dg.msg.shutdownIds = []) ∧
    (Collected s.phase → ∀ sv, s.world.node dg.dst = some sv →
      sv.membership.localNodeId = p.nodeId → sv.gained dg.msg = [])
  | .other (.deliver dg _) =>
    (dg.src = p.home → dg.msg.shutdownIds ≠ [] → ∃ sv, s.world.node dg.dst = some sv ∧
      sv.canAccept .shutdown ∧ sv.membership.localNodeId ≠ p.nodeId) ∧
    (Collected s.phase → ∀ sv, s.world.node dg.dst = some sv →
      sv.membership.localNodeId = p.nodeId → sv.gained dg.msg = []) ∧
    (p.Farewell dg → ∀ dg' ∈ s.world.net, dg'.src = p.home → dg'.msg.shutdownIds = [])
  | .other (.lose dg) => dg.src = p.home → dg.msg.shutdownIds = []
  | _ => True

structure Inv (p : Departure) (s : DepartureState) : Prop where
  farewell : ∀ dg ∈ s.world.net, p.Farewell dg → s.phase = .left
  covered : Collected s.phase → ∀ d, s.world.db.owner d = some p.nodeId →
    Pledged s.phase d ∨ p.Asked s.world d

theorem Asked.update {w : World} {sv : Server} {out : List Outgoing} {a : SocketAddr}
    (h : p.Asked w d) : p.Asked (w.update a sv out) d := by
  obtain ⟨dg, hdg, hask⟩ := h
  exact ⟨dg, World.mem_update_net.mpr (.inl hdg), hask⟩

/-- A delivery keeps what is asked for asked for, unless it settles it. -/
theorem covered_receive {w : World} {phase : ShutdownPhase} {dg : Datagram} {now : Int}
    (hguard : p.Orderly ⟨w, phase⟩ (.other (.deliver dg now))) (hphase : Collected phase)
    (h : ∀ d, w.db.owner d = some p.nodeId → Pledged phase d ∨ p.Asked w d)
    (ho : (w.receive dg now).db.owner d = some p.nodeId) :
    Pledged phase d ∨ p.Asked (w.receive dg now) d := by
  obtain ⟨haccept, hgain, -⟩ := hguard
  have hold : w.db.owner d = some p.nodeId ∧ ∀ sv, w.node dg.dst = some sv →
      d ∈ sv.gained dg.msg → False := by
    cases hsv : w.node dg.dst with
    | none =>
      rw [World.receive, hsv] at ho
      exact ⟨ho, fun _ h => by cases h⟩
    | some sv =>
      by_cases hd : d ∈ sv.gained dg.msg
      · rw [World.owner_receive_of_mem hsv hd] at ho
        obtain ⟨_, -, hid⟩ := Option.map_eq_some_iff.mp ho
        rw [hgain hphase sv hsv hid] at hd
        cases hd
      · rw [World.owner_receive_of_notMem hsv hd] at ho
        exact ⟨ho, fun sv' hsv' hd' => hd (Option.some.inj hsv' ▸ hd')⟩
  refine (h d hold.1).imp_right fun hask => ?_
  obtain ⟨dg', hdg', hsrc, hids⟩ := hask
  refine ⟨dg', World.mem_net_receive hdg' ?_, hsrc, hids⟩
  rintro rfl
  obtain ⟨sv, hsv, hacc, -⟩ := haccept hsrc (List.ne_nil_of_mem hids)
  exact hold.2 sv hsv (Server.gained_of_shutdownIds hacc hids)

theorem Inv.other {w w' : World} {phase : ShutdownPhase} {e : WorldEvent}
    (h : p.Inv ⟨w, phase⟩) (hguard : p.Orderly ⟨w, phase⟩ (.other e)) (hstep : w.Step e w') :
    p.Inv ⟨w', phase⟩ := by
  refine ⟨fun dg hdg hbye => h.farewell dg (hstep.mem_of_nodeLeave hdg hbye.1) hbye,
    fun hphase d ho => ?_⟩
  have hcov := h.covered hphase
  cases hstep with
  | request _ _ _ => exact (hcov d ho).imp_right Asked.update
  | deliver _ => exact covered_receive hguard hphase hcov ho
  | duplicate _ =>
    refine (hcov d ho).imp_right fun hask => ?_
    obtain ⟨dg', hdg', hrest⟩ := hask
    exact ⟨dg', List.mem_cons_of_mem _ hdg', hrest⟩
  | @lose dg =>
    refine (hcov d ho).imp_right fun hask => ?_
    obtain ⟨dg', hdg', hsrc, hids⟩ := hask
    refine ⟨dg', (List.mem_erase_of_ne ?_).mpr hdg', hsrc, hids⟩
    rintro rfl
    rw [hguard hsrc] at hids
    cases hids
  | learn _ _ => exact (hcov d ho).imp_right Asked.update

/-- Every device is in one of the slices. -/
theorem pledged_of_shutdownPlan {active : List NodeInfo} {devices : List DelegatedDevice}
    {plan : List (List DelegatedDevice × Uuid)} (h : shutdownPlan active devices = .ok plan)
    (hd : d ∈ devices.map DelegatedDevice.deviceId) : Pledged (.sending plan) d := by
  obtain ⟨device, hdevice, rfl⟩ := List.mem_map.mp hd
  unfold shutdownPlan at h
  simp only at h
  split at h
  · cases h
  · next hne =>
    cases h
    have hpos := List.length_pos_of_mem hdevice
    have hper : ∀ m : Nat, 0 < m → 0 < (devices.length + m - 1) / m :=
      fun m hm => Nat.div_pos (by omega) hm
    obtain ⟨c, hc, hmem⟩ := exists_mem_chunks (hper _ (List.length_pos_of_ne_nil hne)) hdevice
    obtain ⟨i, hi⟩ := List.mem_iff_getElem?.mp hc
    refine ⟨(c, _), List.mem_map.mpr ⟨(c, i), ?_, rfl⟩, List.mem_map.mpr ⟨device, hmem, rfl⟩⟩
    rw [List.mem_zipIdx_iff_getElem?]
    exact hi

/-- Sending a slice turns its pledges into requests in flight. -/
theorem covered_send {w : World} {sv sv' : Server} {chunk : List DelegatedDevice} {target : Uuid}
    {rest : List (List DelegatedDevice × Uuid)} {now : Int} {out : List Outgoing} {ids : List Uuid}
    (hreq : sv.requestDelegation [] now chunk .shutdown (some target) = .ok (sv', out, ids))
    (h : Pledged (.sending ((chunk, target) :: rest)) d) :
    Pledged (.sending rest) d ∨ p.Asked (w.update p.home sv' out) d := by
  obtain ⟨c, hc, hd⟩ := h
  rcases List.mem_cons.mp hc with rfl | hlater
  · rcases Server.requestDelegation_sends hreq with ⟨hnil, -⟩ | ⟨addr, msg, rfl, htype, hpay⟩
    · rw [show chunk = [] from hnil] at hd
      cases hd
    · refine .inr ⟨⟨p.home, addr, msg⟩,
        World.mem_update_net.mpr (.inr ⟨_, List.mem_singleton_self _, rfl⟩), rfl, ?_⟩
      simpa [ClusterMessage.shutdownIds, htype, hpay, toPayload] using hd
  · exact .inl ⟨c, hlater, hd⟩

/-- No goodbye is in flight. -/
def Silent (p : Departure) (w : World) : Prop := ∀ dg ∈ w.net, ¬ p.Farewell dg

theorem Silent.update {w : World} {sv : Server} {out : List Outgoing} {a : SocketAddr}
    (h : p.Silent w) (hout : ∀ o ∈ out, o.2.msgType ≠ .nodeLeave) :
    p.Silent (w.update a sv out) := by
  intro dg hdg hbye
  rcases World.mem_update_net.mp hdg with hold | ⟨o, ho, rfl⟩
  · exact h dg hold hbye
  · exact hout o ho hbye.1

theorem Inv.silent {w : World} {phase : ShutdownPhase} (h : p.Inv ⟨w, phase⟩)
    (hphase : phase ≠ .left) : p.Silent w :=
  fun dg hdg hbye => hphase (h.farewell dg hdg hbye)

theorem Inv.of_silent {w : World} {phase : ShutdownPhase} (h : p.Silent w)
    (hcov : Collected phase → ∀ d, w.db.owner d = some p.nodeId →
      Pledged phase d ∨ p.Asked w d) : p.Inv ⟨w, phase⟩ :=
  ⟨fun dg hdg hbye => absurd hbye (h dg hdg), hcov⟩

/-- What a device manager does to the database is in order if it gives nothing to the
departing node. -/
theorem Inv.manage {w : World} {phase : ShutdownPhase} {a : SocketAddr} {sv : Server}
    {db : InnerDB} {dm : DeviceManager} {hdm : dm.localNodeId = sv.dm.localNodeId}
    (h : p.Inv ⟨w, phase⟩) (hkeeps : Collected phase → ∀ d, db.owner d = some p.nodeId →
      w.db.owner d = some p.nodeId) : p.Inv ⟨w.manage a sv db dm hdm, phase⟩ := by
  have hnet : (w.manage a sv db dm hdm).net = w.net := List.append_nil w.net
  refine ⟨fun dg hdg => h.farewell dg (hnet ▸ hdg), fun hphase d ho => ?_⟩
  refine (h.covered hphase d (hkeeps hphase d ho)).imp_right fun hask => ?_
  rw [Asked, hnet]
  exact hask

/-- What is taken over until a call fails is not the departing node's, and none of its requests
is used up. -/
theorem Inv.acceptFails {w : World} {phase : ShutdownPhase} {sv : Server} {dg : Datagram}
    {payload : DelegateRequestPayload} {fault : AcceptFault} {now : Int} (h : p.Inv ⟨w, phase⟩)
    (hguard : p.Orderly ⟨w, phase⟩ (.acceptFails dg fault now)) (hsv : w.node dg.dst = some sv)
    (htype : dg.msg.msgType = .delegateRequest)
    (hpayload : dg.msg.payload = .delegateRequest payload)
    (hacc : sv.canAccept payload.reason = true) (hmeets : Meets fault payload.devices.length) :
    p.Inv ⟨w.receiveWithFault dg sv payload fault now, phase⟩ := by
  obtain ⟨hother, hgain⟩ := hguard
  have hnet : (w.receiveWithFault dg sv payload fault now).net = w.net.erase dg := by
    simp only [World.receiveWithFault, World.update, sent_of_meets hacc hmeets, List.map_nil,
      List.append_nil]
  refine ⟨fun dg' hdg' => h.farewell dg' (List.mem_of_mem_erase (hnet ▸ hdg')),
    fun hphase d ho => ?_⟩
  have hbefore : w.db.owner d = some p.nodeId := by
    by_cases hd : d ∈ claimed fault (payload.devices.map DelegatedDevicePayload.deviceId)
    · have howner : (w.db.owner d).map (fun _ => sv.dm.localNodeId) = some p.nodeId :=
        (handleRequestWithFault_owner hacc hd).symm.trans ho
      obtain ⟨_, -, hid⟩ := Option.map_eq_some_iff.mp howner
      have hgained : sv.gained dg.msg = payload.devices.map DelegatedDevicePayload.deviceId := by
        simp only [Server.gained, htype, hpayload, if_pos hacc]
      have hnone := hgain hphase sv hsv (sv.localNodeId_dm.symm.trans hid)
      rw [← hgained, hnone] at hd
      exact absurd (mem_of_mem_claimed hd) List.not_mem_nil
    · exact (handleRequestWithFault_owner_of_notMem hacc hd).symm.trans ho
  refine (h.covered hphase d hbefore).imp_right fun hask => ?_
  obtain ⟨dg', hdg', hsrc, hids⟩ := hask
  refine ⟨dg', hnet ▸ (List.mem_erase_of_ne ?_).mpr hdg', hsrc, hids⟩
  intro heq
  rw [heq] at hsrc hids
  rw [hother hsrc] at hids
  cases hids

theorem Inv.step {e : DepartureEvent} (h : p.Inv s) (hstep : Guarded p.Orderly p.Step s e t) :
    p.Inv t := by
  obtain ⟨hguard, hstep⟩ := hstep
  cases hstep with
  | begin hsv =>
    exact .of_silent ((h.silent (by simp)).update (by simp)) (fun hphase => hphase.elim)
  | @collect w deviceIds hl =>
    refine .of_silent (h.silent (by simp)) (fun _ d ho => .inl ?_)
    have hmem := hl.mem_iff.mpr (hguard d ho)
    rw [if_neg (List.ne_nil_of_mem hmem)]
    exact .inl hmem
  | @build w x todo built now =>
    refine .of_silent (h.silent (by simp)) (fun hphase d ho => ?_)
    cases hdev : delegatedDevice w.db now x with
    | error e =>
      rw [hdev] at hphase
      exact hphase.elim
    | ok device =>
      refine (h.covered trivial d ho).imp_left fun hpledge => ?_
      obtain ⟨row, -, hid, -, -⟩ := delegatedDevice_eq_ok hdev
      rcases hpledge with htodo | hbuilt
      · rcases List.mem_cons.mp htodo with rfl | hlater
        · exact .inr (by simp [hid])
        · exact .inl hlater
      · exact .inr (by simpa using Or.inl hbuilt)
  | @choose w sv built active hsv hact =>
    refine .of_silent (h.silent (by simp)) (fun hphase d ho => ?_)
    cases hplan : shutdownPlan active built with
    | error e =>
      rw [hplan] at hphase
      exact hphase.elim
    | ok plan =>
      refine (h.covered trivial d ho).imp_left fun hpledge => ?_
      exact pledged_of_shutdownPlan hplan (hpledge.resolve_left List.not_mem_nil)
  | send hsv hreq =>
    refine .of_silent ((h.silent (by simp)).update
      fun _ ho => Server.msgType_of_mem_requestDelegation hreq ho) (fun _ d ho => ?_)
    rcases h.covered trivial d ho with hpledge | hask
    · exact covered_send hreq hpledge
    · exact .inr hask.update
  | sendError hsv hreq => exact .of_silent (h.silent (by simp)) (fun hphase => hphase.elim)
  | leave hphase hsv hreach =>
    refine ⟨fun _ _ _ => rfl, fun _ d ho => .inr ?_⟩
    rcases hphase with rfl | rfl
    · exact ((h.covered trivial d ho).resolve_left id).update
    · refine ((h.covered trivial d ho).resolve_left ?_).update
      rintro ⟨c, hc, -⟩
      cases hc
  | @register w sv phase a now nextWake device db dm hreg hsv =>
    refine h.manage fun hphase d ho => ?_
    obtain ⟨rfl, -, -⟩ := registerDevice_eq_ok hreg
    refine InnerDB.owner_of_addDeviceToBucket ?_ ho
    exact hguard hphase sv hsv
  | @redistribute w sv phase a fails failed others orphaned hsv _ =>
    refine h.manage fun hphase d ho => ?_
    rw [redistributeOrphans_snd] at ho
    refine (owner_of_foldl_assignOrphan _ ho).resolve_left fun hmade => ?_
    exact hguard hphase sv hsv (List.mem_map_of_mem hmade)
  | acceptFails _ hsv htype hpayload hacc hmeets =>
    exact h.acceptFails hguard hsv htype hpayload hacc hmeets
  | other hw => exact h.other hguard hw

theorem db_receive_of_nodeLeave {w : World} {dg : Datagram} {now : Int}
    (h : dg.msg.msgType = .nodeLeave) : (w.receive dg now).db = w.db := by
  unfold World.receive
  cases w.node dg.dst with
  | none => rfl
  | some sv => simp [Server.handleMessage, h]

/-- In every run of a departure whose steps are all orderly, when a node handles
the goodbye, the database records nothing as owned by the departed node. -/
theorem departure_orphans_nothing {es : List DepartureEvent} (hstart : s.phase = .running)
    (hsilent : p.Silent s.world) (hrun : Run (Guarded p.Orderly p.Step) s es t)
    {u : DepartureState} {dg : Datagram} {now : Int}
    (hstep : Guarded p.Orderly p.Step t (.other (.deliver dg now)) u) (hbye : p.Farewell dg) :
    u.world.db.getDevicesByOwner p.nodeId = ∅ := by
  have hinit : p.Inv s := by
    obtain ⟨w, phase⟩ := s
    obtain rfl : phase = .running := hstart
    exact .of_silent hsilent (fun hphase => hphase.elim)
  have hinv := Run.invariant p.Inv (fun _ _ _ h hstep => h.step hstep) hrun hinit
  obtain ⟨⟨-, -, hquiet⟩, hstep⟩ := hstep
  cases hstep with
  | @other w _ phase _ hw =>
    cases hw with
    | deliver hdg =>
      obtain rfl : phase = .left := hinv.farewell dg hdg hbye
      refine Finset.eq_empty_of_forall_notMem fun d hd => ?_
      rw [InnerDB.mem_getDevicesByOwner, db_receive_of_nodeLeave hbye.1] at hd
      obtain ⟨dg', hdg', hsrc, hids⟩ := (hinv.covered trivial d hd).resolve_left id
      rw [hquiet hbye dg' hdg' hsrc] at hids
      cases hids

/- Node 1 departs and owns device 9. It takes node 2 for active; `q` is what
   runs at the address of node 2. -/
def nodeOne : Departure := ⟨World.homeAddr, 1⟩

def nodeTwo : NodeInfo := (World.activeServer 2 World.peerAddr ∅).membership.localNode

def beforeDeparture (q : Server) : World where
  db := (InnerDB.new.addDevice ⟨9, none, none, none⟩).addDeviceToBucket 9 0 1
  node a := if a = World.homeAddr then some World.pairServer
    else if a = World.peerAddr then some q else none
  net := []

def drainingOne : Server := World.pairServer.setLocalStatus .draining

def shutdownDevice : DelegatedDevice := ⟨9, none, none, 86400000000000⟩

def shutdownRequest : Datagram :=
  ⟨World.homeAddr, World.peerAddr, drainingOne.message .delegateRequest
    (.delegateRequest ⟨[toPayload shutdownDevice], .shutdown⟩) 0⟩

def goodbye : Datagram :=
  ⟨World.homeAddr, World.peerAddr, drainingOne.nextSeq.message .nodeLeave .empty 0⟩

def drained (q : Server) : World := (beforeDeparture q).update World.homeAddr drainingOne []

def asked (q : Server) : World :=
  (drained q).update World.homeAddr drainingOne.nextSeq [(World.peerAddr, shutdownRequest.msg)]

theorem lookup_drainingOne (k : Uuid) : drainingOne.membership.nodes.lookup k =
    if k = 2 then some nodeTwo else none := by
  have hnodes : drainingOne.membership.nodes = (∅ : Table NodeInfo).insert 2 nodeTwo := rfl
  rw [hnodes]
  by_cases h : k = 2
  · rw [h, Finmap.lookup_insert, if_pos rfl]
  · rw [Finmap.lookup_insert_of_ne _ h, if_neg h, Finmap.lookup_empty]

theorem mem_nodeTwo_iff {f : NodeInfo → Bool} (hf : f nodeTwo = true) (n : NodeInfo) :
    n ∈ [nodeTwo] ↔ drainingOne.membership.nodes.lookup n.nodeId = some n ∧ f n = true := by
  rw [lookup_drainingOne, List.mem_singleton]
  constructor
  · rintro rfl
    exact ⟨rfl, hf⟩
  · intro h
    split at h
    · exact (Option.some.inj h.1).symm
    · cases h.1

theorem drained_home (q : Server) : (drained q).node nodeOne.home = some drainingOne := rfl

theorem owner_drained {q : Server} (h : (drained q).db.owner d = some 1) : d = 9 := by
  by_contra hne
  have hnone : (drained q).db.owner d = none := by
    change (Finmap.lookup d ((∅ : Table BucketRow).insert 9 ⟨0, 1⟩)).map BucketRow.owner = none
    rw [Finmap.lookup_insert_of_ne _ hne, Finmap.lookup_empty]
    rfl
  rw [hnone] at h
  cases h

theorem departure_asks (q : Server) : Run (Guarded nodeOne.Orderly nodeOne.Step)
    ⟨beforeDeparture q, .running⟩ [.begin, .collect [9], .build 0, .choose [nodeTwo], .send 0]
    ⟨asked q, .sending []⟩ := by
  have hbegin : nodeOne.Step ⟨beforeDeparture q, .running⟩ .begin ⟨drained q, .draining⟩ :=
    .begin rfl
  have hcollect : nodeOne.Step ⟨drained q, .draining⟩ (.collect [9])
      ⟨drained q, .building [9] []⟩ := .collect ⟨by decide, rfl⟩
  have hbuild : nodeOne.Step ⟨drained q, .building [9] []⟩ (.build 0)
      ⟨drained q, .building [] [shutdownDevice]⟩ := .build
  have hchoose : nodeOne.Step ⟨drained q, .building [] [shutdownDevice]⟩ (.choose [nodeTwo])
      ⟨drained q, .sending [([shutdownDevice], 2)]⟩ := by
    exact .choose (drained_home q) ⟨List.nodup_singleton _, mem_nodeTwo_iff rfl⟩
  have hsend : nodeOne.Step ⟨drained q, .sending [([shutdownDevice], 2)]⟩ (.send 0)
      ⟨asked q, .sending []⟩ := .send (drained_home q) rfl
  have hheld : nodeOne.Orderly ⟨drained q, .draining⟩ (.collect [9]) := by
    intro d hd
    rw [owner_drained hd]
    exact Finset.mem_singleton_self 9
  exact .cons ⟨trivial, hbegin⟩ (.cons ⟨hheld, hcollect⟩ (.cons ⟨trivial, hbuild⟩
    (.cons ⟨trivial, hchoose⟩ (.single ⟨trivial, hsend⟩))))

/-- The world when node 2 has handled the request and node 1 has said goodbye. -/
def departed (q : Server) : World :=
  ((asked q).receive shutdownRequest 0).update World.homeAddr drainingOne.nextSeq.nextSeq
    (drainingOne.nextSeq.nodeLeave [nodeTwo] 0)

theorem departure_leaves (q : Server) :
    nodeOne.Step ⟨(asked q).receive shutdownRequest 0, .sending []⟩ (.leave 0 [nodeTwo])
      ⟨departed q, .left⟩ := by
  have hhome : ((asked q).receive shutdownRequest 0).node nodeOne.home =
      some drainingOne.nextSeq := rfl
  exact .leave (.inr rfl) hhome ⟨List.nodup_singleton _, mem_nodeTwo_iff rfl⟩

def activeTwo : Server := World.activeServer 2 World.peerAddr ∅

theorem not_nodeOne_at_peer {w : World} {sv : Server} {ids : List Uuid}
    (hw : (w.node World.peerAddr).map (fun sv => sv.membership.localNodeId) = some 2)
    (hsv : w.node World.peerAddr = some sv) (hid : sv.membership.localNodeId = nodeOne.nodeId) :
    ids = [] := by
  rw [hsv, Option.map_some, Option.some_inj, hid] at hw
  exact absurd hw (by decide)

theorem departure_orphans_nothing_pair :
    ((departed activeTwo).receive goodbye 0).db.getDevicesByOwner 1 = ∅ := by
  have haccept : Guarded nodeOne.Orderly nodeOne.Step ⟨asked activeTwo, .sending []⟩
      (.other (.deliver shutdownRequest 0))
      ⟨(asked activeTwo).receive shutdownRequest 0, .sending []⟩ :=
    ⟨⟨fun _ _ => ⟨activeTwo, rfl, by decide, by decide⟩,
      fun _ sv hsv hid => not_nodeOne_at_peer rfl hsv hid, fun h => nomatch h.1⟩,
      .other (.deliver (by decide +kernel))⟩
  have hbye : Guarded nodeOne.Orderly nodeOne.Step ⟨departed activeTwo, .left⟩
      (.other (.deliver goodbye 0)) ⟨(departed activeTwo).receive goodbye 0, .left⟩ :=
    ⟨⟨fun _ h => absurd rfl h, fun _ sv hsv hid => not_nodeOne_at_peer rfl hsv hid,
      fun _ => by decide +kernel⟩, .other (.deliver (by decide +kernel))⟩
  have hleave : Guarded nodeOne.Orderly nodeOne.Step _ (.leave 0 [nodeTwo]) _ :=
    ⟨trivial, departure_leaves activeTwo⟩
  have hrun := (departure_asks activeTwo).append (.cons haccept (.single hleave))
  exact departure_orphans_nothing rfl (fun _ h => absurd h List.not_mem_nil) hrun hbye ⟨rfl, rfl⟩

/-- Node 2 is draining as well, which node 1 does not know yet. -/
def drainingTwo : Server := activeTwo.setLocalStatus .draining

/-- Node 2 rejects, and nobody takes device 9 over. -/
theorem departure_orphans_device :
    ¬ ∀ es t u dg now, Run nodeOne.Step ⟨beforeDeparture drainingTwo, .running⟩ es t →
      nodeOne.Step t (.other (.deliver dg now)) u → nodeOne.Farewell dg →
      u.world.db.getDevicesByOwner nodeOne.nodeId = ∅ := by
  intro h
  have hreject : nodeOne.Step ⟨asked drainingTwo, .sending []⟩ (.other (.deliver shutdownRequest 0))
      ⟨(asked drainingTwo).receive shutdownRequest 0, .sending []⟩ :=
    .other (.deliver (by decide +kernel))
  have hbye : nodeOne.Step ⟨departed drainingTwo, .left⟩ (.other (.deliver goodbye 0))
      ⟨(departed drainingTwo).receive goodbye 0, .left⟩ := .other (.deliver (by decide +kernel))
  have hrun := (departure_asks drainingTwo).of_guarded.append
    (.cons hreject (.single (departure_leaves drainingTwo)))
  have hnone := h _ _ _ _ _ hrun hbye ⟨rfl, rfl⟩
  have howner : (9 : Uuid) ∈
      ((departed drainingTwo).receive goodbye 0).db.getDevicesByOwner nodeOne.nodeId := by
    rw [InnerDB.mem_getDevicesByOwner]
    decide +kernel
  rw [hnone] at howner
  cases howner

end Departure

end HeadEnd.Cluster
