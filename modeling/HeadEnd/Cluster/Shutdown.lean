import HeadEnd.Cluster.Acceptance
import HeadEnd.Cluster.Redistribution

/-! The graceful departure of a node: drain, ask others to take the devices,
wait, say goodbye. The answers are not waited for. Meanwhile devices register, with the
departing node too, the devices of nodes that failed are shared out, and a node that takes
devices over may fail half-way. -/
namespace HeadEnd.Cluster
open Transition DeviceManager

/-- Slices of `n` elements, the last one possibly shorter. -/
def chunks {α : Type} (n : Nat) (l : List α) : List (List α) :=
  (List.range ((l.length + n - 1) / n)).map (fun i => (l.drop (i * n)).take n)

theorem exists_mem_chunks {α : Type} {n : Nat} (hn : 0 < n) {l : List α} {x : α} (hx : x ∈ l) :
    ∃ c ∈ chunks n l, x ∈ c := by
  obtain ⟨j, hj, hget⟩ := List.getElem_of_mem hx
  have hdiv := Nat.div_add_mod j n
  have hmod := Nat.mod_lt j hn
  refine ⟨(l.drop (j / n * n)).take n, ?_, ?_⟩
  · refine List.mem_map.mpr ⟨j / n, List.mem_range.mpr ?_, rfl⟩
    have hle : j + n ≤ l.length + n - 1 := by omega
    calc j / n < j / n + 1 := Nat.lt_succ_self _
      _ = (j + n) / n := (Nat.add_div_right j hn).symm
      _ ≤ (l.length + n - 1) / n := Nat.div_le_div_right hle
  · have hindex : j / n * n + j % n = j := by rw [Nat.mul_comm]; exact hdiv
    refine List.mem_of_getElem? (i := j % n) ?_
    rw [List.getElem?_take_of_lt hmod, List.getElem?_drop, hindex, List.getElem?_eq_getElem hj,
      hget]

inductive ShutdownPhase where
  | running
  | draining
  | building (todo : List Uuid) (built : List DelegatedDevice)
  | sending (rest : List (List DelegatedDevice × Uuid))
  | waiting
  | left
  | failed (e : ClusterError)

/-- The node that departs, by address and id, in the world it is part of. -/
structure Departure where
  home : SocketAddr
  nodeId : Uuid

structure DepartureState where
  world : World
  phase : ShutdownPhase

inductive DepartureEvent where
  | begin
  | collect (deviceIds : List Uuid)
  | build (now : Int)
  | choose (active : List NodeInfo)
  | send (now : Int)
  | leave (now : Int) (reachable : List NodeInfo)
  | register (a : SocketAddr) (now : Int) (device : Device)
  | redistribute (a : SocketAddr) (fails : DbCall → Bool) (failed : Uuid)
      (others : List (Uuid × Nat)) (orphaned : List Uuid)
  | acceptFails (dg : Datagram) (fault : AcceptFault) (now : Int)
  | other (e : WorldEvent)

/-- The wake-up time on record, or a day from now. -/
def scheduleTimeOf (db : InnerDB) (now : Int) (deviceId : Uuid) : Int :=
  match db.getScheduledConnection deviceId with
  | .ok row => row.scheduleTime
  | .error _ => now + 24 * 3600 * 1000000000

def delegatedDevice (db : InnerDB) (now : Int) (deviceId : Uuid) :
    Except ClusterError DelegatedDevice :=
  match db.getDevice deviceId with
  | .error e => .error (.databaseError e)
  | .ok device => .ok ⟨device.id, device.ipv4, device.ipv6, scheduleTimeOf db now deviceId⟩

theorem delegatedDevice_eq_ok {db : InnerDB} {now : Int} {d : Uuid} {device : DelegatedDevice}
    (h : delegatedDevice db now d = .ok device) :
    ∃ row, db.getDevice d = .ok row ∧ device.deviceId = d ∧ device.ipv4 = row.ipv4 ∧
      device.ipv6 = row.ipv6 := by
  unfold delegatedDevice at h
  cases hrow : db.getDevice d with
  | error e =>
    rw [hrow] at h
    cases h
  | ok row =>
    rw [hrow] at h
    cases h
    exact ⟨row, rfl, InnerDB.getDevice_id hrow, rfl, rfl⟩

/-- The slices, each with the node it goes to, the least loaded first. -/
def shutdownPlan (active : List NodeInfo) (devices : List DelegatedDevice) :
    Except ClusterError (List (List DelegatedDevice × Uuid)) :=
  let targets := (active.insertionSort
    (fun a b => a.deviceCount.toNat ≤ b.deviceCount.toNat)).map NodeInfo.nodeId
  if targets = [] then .error .noNodesAvailable
  else
    let devicesPerNode := (devices.length + targets.length - 1) / targets.length
    .ok ((chunks devicesPerNode devices).zipIdx.map
      (fun p => (p.1, targets.getD (p.2 % targets.length) Uuid.nil)))

namespace Server

def setLocalStatus (sv : Server) (status : NodeStatus) : Server :=
  { sv with
    membership := sv.membership.setLocalStatus status
    localNodeId_dm := sv.localNodeId_dm }

/-- Goodbye to every reachable node. -/
def nodeLeave (sv : Server) (reachable : List NodeInfo) (now : Int) : List Outgoing :=
  reachable.map (fun n => (n.clusterAddr, sv.message .nodeLeave .empty now))

end Server

/-- The device manager of the node at `a` has worked on the database. -/
def World.manage (w : World) (a : SocketAddr) (sv : Server) (db : InnerDB) (dm : DeviceManager)
    (h : dm.localNodeId = sv.dm.localNodeId) : World :=
  { w.update a { sv with dm, localNodeId_dm := h.trans sv.localNodeId_dm } [] with db }

/-- A request is handled until a call to the database or the scheduler fails. -/
def World.receiveWithFault (w : World) (dg : Datagram) (sv : Server)
    (payload : DelegateRequestPayload) (fault : AcceptFault) (now : Int) : World :=
  let h := Server.handleRequestWithFault fault w.db sv dg.src payload now
  { ({ w with net := w.net.erase dg }).update dg.dst h.server h.sent with db := h.db }

namespace Departure

def afterBuild (todo : List Uuid) (built : List DelegatedDevice) :
    Except ClusterError DelegatedDevice → ShutdownPhase
  | .ok device => .building todo (built ++ [device])
  | .error e => .failed e

def afterChoose : Except ClusterError (List (List DelegatedDevice × Uuid)) → ShutdownPhase
  | .ok plan => .sending plan
  | .error e => .failed e

/-- The departing node's own steps, one lock or database call each, between the
steps of everyone else. The backdoor and the cluster server of the departing node go on
until the departure is over. -/
inductive Step (p : Departure) : DepartureState → DepartureEvent → DepartureState → Prop
  | begin {w : World} {sv : Server} : w.node p.home = some sv →
      Step p ⟨w, .running⟩ .begin ⟨w.update p.home (sv.setLocalStatus .draining) [], .draining⟩
  | collect {w : World} {deviceIds : List Uuid} : Lists deviceIds (w.owned p.home) →
      Step p ⟨w, .draining⟩ (.collect deviceIds)
        ⟨w, if deviceIds = [] then .waiting else .building deviceIds []⟩
  | build {w : World} {d : Uuid} {todo : List Uuid} {built : List DelegatedDevice} {now : Int} :
      Step p ⟨w, .building (d :: todo) built⟩ (.build now)
        ⟨w, afterBuild todo built (delegatedDevice w.db now d)⟩
  | choose {w : World} {sv : Server} {built : List DelegatedDevice} {active : List NodeInfo} :
      w.node p.home = some sv → sv.membership.ActiveNodes active →
      Step p ⟨w, .building [] built⟩ (.choose active) ⟨w, afterChoose (shutdownPlan active built)⟩
  | send {w : World} {sv sv' : Server} {chunk : List DelegatedDevice} {target : Uuid}
      {rest : List (List DelegatedDevice × Uuid)} {now : Int} {out : List Outgoing}
      {ids : List Uuid} : w.node p.home = some sv →
      sv.requestDelegation [] now chunk .shutdown (some target) = .ok (sv', out, ids) →
      Step p ⟨w, .sending ((chunk, target) :: rest)⟩ (.send now)
        ⟨w.update p.home sv' out, .sending rest⟩
  | sendError {w : World} {sv : Server} {chunk : List DelegatedDevice} {target : Uuid}
      {rest : List (List DelegatedDevice × Uuid)} {now : Int} {e : ClusterError} :
      w.node p.home = some sv →
      sv.requestDelegation [] now chunk .shutdown (some target) = .error e →
      Step p ⟨w, .sending ((chunk, target) :: rest)⟩ (.send now) ⟨w, .failed e⟩
  | leave {w : World} {sv : Server} {phase : ShutdownPhase} {now : Int}
      {reachable : List NodeInfo} : phase = .waiting ∨ phase = .sending [] →
      w.node p.home = some sv → sv.membership.ReachableNodes reachable →
      Step p ⟨w, phase⟩ (.leave now reachable)
        ⟨w.update p.home sv.nextSeq (sv.nodeLeave reachable now), .left⟩
  | register {w : World} {sv : Server} {phase : ShutdownPhase} {a : SocketAddr}
      {now nextWake : Int} {device : Device} {db : InnerDB} {dm : DeviceManager}
      (h : sv.dm.registerDevice (w.db.addDevice device) now device = .ok (db, dm, nextWake)) :
      w.node a = some sv →
      Step p ⟨w, phase⟩ (.register a now device)
        ⟨w.manage a sv db dm (registerDevice_localNodeId h), phase⟩
  -- the active nodes were listed some time before
  | redistribute {w : World} {sv : Server} {phase : ShutdownPhase} {a : SocketAddr}
      {fails : DbCall → Bool} {failed : Uuid} {others : List (Uuid × Nat)}
      {orphaned : List Uuid} : w.node a = some sv →
      Lists orphaned (w.db.getDevicesByOwner failed) →
      Step p ⟨w, phase⟩ (.redistribute a fails failed others orphaned)
        ⟨w.manage a sv (redistributeOrphans fails w.db sv.dm others orphaned).2.1
          (redistributeOrphans fails w.db sv.dm others orphaned).2.2
          (redistributeOrphans_localNodeId fails w.db sv.dm others orphaned), phase⟩
  | acceptFails {w : World} {sv : Server} {phase : ShutdownPhase} {dg : Datagram}
      {payload : DelegateRequestPayload} {fault : AcceptFault} {now : Int} : dg ∈ w.net →
      w.node dg.dst = some sv → dg.msg.msgType = .delegateRequest →
      dg.msg.payload = .delegateRequest payload → sv.canAccept payload.reason = true →
      Meets fault payload.devices.length →
      Step p ⟨w, phase⟩ (.acceptFails dg fault now)
        ⟨w.receiveWithFault dg sv payload fault now, phase⟩
  | other {w w' : World} {phase : ShutdownPhase} {e : WorldEvent} : w.Step e w' →
      Step p ⟨w, phase⟩ (.other e) ⟨w', phase⟩

end Departure

/-- The devices that a request made on shutdown names. -/
def ClusterMessage.shutdownIds (msg : ClusterMessage) : List Uuid :=
  match msg.msgType, msg.payload with
  | .delegateRequest, .delegateRequest payload =>
    if payload.reason = .shutdown then payload.devices.map DelegatedDevicePayload.deviceId else []
  | _, _ => []

theorem Server.gained_of_shutdownIds {sv : Server} {msg : ClusterMessage} {d : Uuid}
    (hacc : sv.canAccept .shutdown) (hd : d ∈ msg.shutdownIds) : d ∈ sv.gained msg := by
  unfold ClusterMessage.shutdownIds at hd
  unfold gained
  split at hd
  next payload htype hpayload =>
    split at hd
    next hreason => simpa [htype, hpayload, hreason, hacc] using hd
    next => cases hd
  next => cases hd

namespace World
variable {w : World} {dg : Datagram} {now : Int} {sv : Server} {d : Uuid}

theorem owner_receive_of_notMem (hsv : w.node dg.dst = some sv) (hd : d ∉ sv.gained dg.msg) :
    (w.receive dg now).db.owner d = w.db.owner d := by
  simp only [receive, hsv]
  rcases Server.handleMessage_cases w.db sv dg.src dg.msg now with
    ⟨payload, h, -, hg⟩ | ⟨payload, h, -, -⟩ | ⟨h, -, -⟩ | ⟨h, -, -⟩
  · rw [h, Server.handleDelegationRequest]
    rw [hg] at hd
    split
    next hacc =>
      rw [if_pos hacc] at hd
      refine foldl_acceptDevice_owner_of_notMem _ _ ?_
      simpa [ofPayload] using hd
    next => rfl
  · rw [h]
  · rw [h]
  · rw [h]

theorem owner_receive_of_mem (hsv : w.node dg.dst = some sv) (hd : d ∈ sv.gained dg.msg) :
    (w.receive dg now).db.owner d =
      (w.db.owner d).map (fun _ => sv.membership.localNodeId) := by
  simp only [receive, hsv]
  rcases Server.handleMessage_cases w.db sv dg.src dg.msg now with
    ⟨payload, h, -, hg⟩ | ⟨_, -, -, hg⟩ | ⟨-, -, hg⟩ | ⟨-, -, hg⟩
  · rw [h, Server.handleDelegationRequest]
    rw [hg] at hd
    split
    next hacc =>
      rw [if_pos hacc] at hd
      rw [← sv.localNodeId_dm]
      refine foldl_acceptDevice_owner_of_mem now (w.db, sv.dm) ?_
      simpa [ofPayload] using hd
    next hacc =>
      rw [if_neg hacc] at hd
      cases hd
  all_goals
    rw [hg] at hd
    cases hd

end World

end HeadEnd.Cluster
