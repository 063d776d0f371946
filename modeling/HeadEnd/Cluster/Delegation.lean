import HeadEnd.Cluster.Membership
import HeadEnd.Cluster.Message
import HeadEnd.DeviceManager
import HeadEnd.Lib.Transition
import Mathlib.Data.List.MinMax

/-! Handing devices from node to node over datagrams that may be lost, repeated
and reordered. -/
namespace HeadEnd.Cluster
open Transition DeviceManager

inductive ClusterError where
  | nodeNotFound (nodeId : Uuid)
  | noNodesAvailable
  | delegationRejected (reason : String)
  | databaseError (e : DatabaseError)
  deriving DecidableEq, Repr

/- Unix seconds of the first and the last moment that a date and time can hold. -/
def minTimestamp : Int := -8334601228800
def maxTimestamp : Int := 8210266876799

def fromTimestamp (secs : Int) : Option Int :=
  if minTimestamp ≤ secs ∧ secs ≤ maxTimestamp then some (secs * 1000000000) else none

/-- Wake-up times travel as whole seconds. -/
def toPayload (d : DelegatedDevice) : DelegatedDevicePayload :=
  ⟨d.deviceId, d.ipv4, d.ipv6, Int64.ofInt (timestamp d.scheduleTime)⟩

def ofPayload (p : DelegatedDevicePayload) : DelegatedDevice :=
  ⟨p.deviceId, p.ipv4, p.ipv6, (fromTimestamp p.scheduleTime.toInt).getD 0⟩

/-- A time that a date and time can hold. -/
def Representable (t : Int) : Prop :=
  minTimestamp * 1000000000 ≤ t ∧ t < (maxTimestamp + 1) * 1000000000

instance decidableRepresentable (t : Int) : Decidable (Representable t) :=
  inferInstanceAs (Decidable (_ ∧ _))

/-- The device with its wake-up cut to whole seconds. -/
def wholeSeconds (d : DelegatedDevice) : DelegatedDevice :=
  { d with scheduleTime := timestamp d.scheduleTime * 1000000000 }

theorem timestamp_bounds {t : Int} (h : Representable t) :
    minTimestamp ≤ timestamp t ∧ timestamp t ≤ maxTimestamp := by
  obtain ⟨hmin, hmax⟩ := h
  unfold timestamp
  omega

theorem ofPayload_toPayload {d : DelegatedDevice} (h : Representable d.scheduleTime) :
    ofPayload (toPayload d) = wholeSeconds d := by
  have hbounds := timestamp_bounds h
  have hsecs : (Int64.ofInt (timestamp d.scheduleTime)).toInt = timestamp d.scheduleTime := by
    unfold minTimestamp maxTimestamp at hbounds
    exact Int64.toInt_ofInt_of_le (by omega) (by omega)
  simp only [ofPayload, toPayload, hsecs, fromTimestamp, if_pos hbounds, Option.getD_some,
    wholeSeconds]

/-- One node: what it knows of the others and the devices it manages. -/
structure Server where
  membership : MembershipList
  dm : DeviceManager
  localNodeId_dm : dm.localNodeId = membership.localNodeId

abbrev Outgoing := SocketAddr × ClusterMessage

namespace Server

def nextSeq (sv : Server) : Server :=
  { sv with membership := sv.membership.nextSeq, localNodeId_dm := sv.localNodeId_dm }

/-- The message of this node that carries the next sequence number. -/
def message (sv : Server) (msgType : ClusterMessageType) (payload : ClusterPayload) (now : Int) :
    ClusterMessage :=
  .new sv.membership.localNodeId sv.nextSeq.membership.seqCounter msgType payload now

/-- Where a request goes: the node asked for, the local one included, or the
active node with the fewest devices. -/
def delegationTarget (sv : Server) (active : List NodeInfo) (targetNodeId : Option Uuid) :
    Except ClusterError NodeInfo :=
  match targetNodeId with
  | some id =>
    match sv.membership.getNode id with
    | some node => .ok node
    | none => .error (.nodeNotFound id)
  | none =>
    match active.argmin (fun n => n.deviceCount.toNat) with
    | some node => .ok node
    | none => .error .noNodesAvailable

/-- `active` is the order in which the active nodes are met. Nothing is sent
when there is nothing to delegate. -/
def requestDelegation (sv : Server) (active : List NodeInfo) (now : Int)
    (devices : List DelegatedDevice) (reason : DelegationReason) (targetNodeId : Option Uuid) :
    Except ClusterError (Server × List Outgoing × List Uuid) :=
  if devices = [] then .ok (sv, [], [])
  else
    match sv.delegationTarget active targetNodeId with
    | .error e => .error e
    | .ok node =>
      let payload : DelegateRequestPayload := ⟨devices.map toPayload, reason⟩
      .ok (sv.nextSeq,
        [(node.clusterAddr, sv.message .delegateRequest (.delegateRequest payload) now)],
        devices.map DelegatedDevice.deviceId)

def isOverloaded (sv : Server) : Bool := 90 ≤ sv.membership.localNode.loadPercent

/-- A shutdown delegation is taken even by an overloaded node. -/
def canAccept (sv : Server) (reason : DelegationReason) : Bool :=
  if reason = .shutdown then sv.membership.localNode.isAvailable
  else sv.membership.localNode.isAvailable && !sv.isOverloaded

def rejectText : String := "Node is not available or overloaded"

def handleDelegationRequest (db : InnerDB) (sv : Server) (fromAddr : SocketAddr)
    (payload : DelegateRequestPayload) (now : Int) : InnerDB × Server × List Outgoing :=
  if sv.canAccept payload.reason then
    let st := sv.dm.acceptDelegation db now (payload.devices.map ofPayload)
    (st.1,
      { membership := sv.membership.nextSeq
        dm := st.2.1
        localNodeId_dm := (acceptDelegation_localNodeId _ _ _ _).trans sv.localNodeId_dm },
      [(fromAddr, sv.message .delegateAccept (.delegateAccept ⟨st.2.2⟩) now)])
  else
    (db, sv.nextSeq,
      [(fromAddr, sv.message .delegateReject (.delegateReject ⟨rejectText⟩) now)])

/-- Whatever the accept answers, if anything, and whether or not the devices
are still here. -/
def handleDelegationAccept (sv : Server) (payload : DelegateAcceptPayload) : Server :=
  { sv with
    dm := payload.acceptedDeviceIds.foldl removeScheduledDevice
      (sv.dm.releaseDevices payload.acceptedDeviceIds)
    localNodeId_dm := by
      rw [foldl_removeScheduledDevice_localNodeId, releaseDevices_localNodeId]
      exact sv.localNodeId_dm }

def handleNodeLeave (sv : Server) (nodeId : Uuid) : Server :=
  { sv with membership := sv.membership.removeNode nodeId, localNodeId_dm := sv.localNodeId_dm }

/- The messages about delegations, and the farewell of a node. A rejected delegation is only
   reported. NODE_DEAD has the devices of the dead node redistributed, which is an operation of
   its own and not part of this handler. Every other message changes at most the membership
   list; those changes are a step of their own below. -/
def handleMessage (db : InnerDB) (sv : Server) (fromAddr : SocketAddr) (msg : ClusterMessage)
    (now : Int) : InnerDB × Server × List Outgoing :=
  match msg.msgType, msg.payload with
  | .delegateRequest, .delegateRequest payload =>
    handleDelegationRequest db sv fromAddr payload now
  | .delegateAccept, .delegateAccept payload => (db, sv.handleDelegationAccept payload, [])
  | .nodeLeave, _ => (db, sv.handleNodeLeave msg.nodeId, [])
  | _, _ => (db, sv, [])

end Server

/-- The devices a node is asked to take. -/
def ClusterMessage.asks (msg : ClusterMessage) : List Uuid :=
  match msg.msgType, msg.payload with
  | .delegateRequest, .delegateRequest payload =>
    payload.devices.map DelegatedDevicePayload.deviceId
  | _, _ => []

/-- The devices an accept names. -/
def ClusterMessage.acceptedIds (msg : ClusterMessage) : List Uuid :=
  match msg.msgType, msg.payload with
  | .delegateAccept, .delegateAccept payload => payload.acceptedDeviceIds
  | _, _ => []

/-- The devices a node takes over when it handles a message. -/
def Server.gained (sv : Server) (msg : ClusterMessage) : List Uuid :=
  match msg.msgType, msg.payload with
  | .delegateRequest, .delegateRequest payload =>
    if sv.canAccept payload.reason then payload.devices.map DelegatedDevicePayload.deviceId else []
  | _, _ => []

structure Datagram where
  src : SocketAddr
  dst : SocketAddr
  msg : ClusterMessage
  deriving DecidableEq

/-- The nodes, by the address they listen on, the database they share, and the
datagrams in flight. -/
structure World where
  db : InnerDB
  node : SocketAddr → Option Server
  net : List Datagram

inductive WorldEvent where
  | request (a : SocketAddr) (active : List NodeInfo) (now : Int) (devices : List DelegatedDevice)
      (reason : DelegationReason) (targetNodeId : Option Uuid)
  | deliver (dg : Datagram) (now : Int)
  | duplicate (dg : Datagram)
  | lose (dg : Datagram)
  | learn (a : SocketAddr) (ml : MembershipList)

namespace World

def owned (w : World) (a : SocketAddr) : Finset Uuid :=
  ((w.node a).map (fun sv => sv.dm.ownedDevices)).getD ∅

/-- The node at `a` becomes `sv` and sends `out`. -/
def update (w : World) (a : SocketAddr) (sv : Server) (out : List Outgoing) : World :=
  { w with
    node := Function.update w.node a (some sv)
    net := w.net ++ out.map (fun o => ⟨a, o.1, o.2⟩) }

/-- A datagram leaves the network; the node at its destination, if there is
one, handles it. -/
def receive (w : World) (dg : Datagram) (now : Int) : World :=
  let w' := { w with net := w.net.erase dg }
  match w.node dg.dst with
  | none => w'
  | some sv =>
    let r := Server.handleMessage w.db sv dg.src dg.msg now
    { w'.update dg.dst r.2.1 r.2.2 with db := r.1 }

/-- Requests are not checked against what the sender owns: a caller may be
behind. `learn` is anything that changes what a node knows of the others. -/
inductive Step : World → WorldEvent → World → Prop
  | request {w : World} {a : SocketAddr} {sv sv' : Server} {active : List NodeInfo} {now : Int}
      {devices : List DelegatedDevice} {reason : DelegationReason} {targetNodeId : Option Uuid}
      {out : List Outgoing} {ids : List Uuid} :
      w.node a = some sv → (targetNodeId = none → sv.membership.ActiveNodes active) →
      sv.requestDelegation active now devices reason targetNodeId = .ok (sv', out, ids) →
      Step w (.request a active now devices reason targetNodeId) (w.update a sv' out)
  | deliver {w : World} {dg : Datagram} {now : Int} :
      dg ∈ w.net → Step w (.deliver dg now) (w.receive dg now)
  | duplicate {w : World} {dg : Datagram} :
      dg ∈ w.net → Step w (.duplicate dg) { w with net := dg :: w.net }
  | lose {w : World} {dg : Datagram} : Step w (.lose dg) { w with net := w.net.erase dg }
  | learn {w : World} {a : SocketAddr} {sv sv' : Server} :
      w.node a = some sv → sv'.dm = sv.dm →
      Step w (.learn a sv'.membership) (w.update a sv' [])

end World

end HeadEnd.Cluster
