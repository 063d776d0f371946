import HeadEnd.Cluster.Node

/-! Payloads of the inter-node protocol: one encoder and one decoder per type,
each decoder with the size checks it makes and no others. -/
namespace HeadEnd.Cluster
open HeadEnd.Buffer

/- The two texts that come from the standard library (`FromUtf8Error` and
   `AddrParseError`) are kept as what was being parsed. -/
inductive PayloadFault where
  | text (s : String)
  | utf8 (bytes : Bytes)
  | addr (label text : String)
  deriving DecidableEq, Repr

inductive ClusterCodecError where
  | invalidLength
  | unknownMessageType (code : UInt8)
  | invalidPayload (fault : PayloadFault)
  deriving DecidableEq, Repr

abbrev Decode (α : Type) := Reader ClusterCodecError α

def optionSome : UInt8 := 1
def optionNone : UInt8 := 0
def boolTrue : UInt8 := 1
def boolFalse : UInt8 := 0

def uuidSize : Nat := 16
def u8Size : Nat := 1
def u16Size : Nat := 2
def u32Size : Nat := 4
def i64Size : Nat := 8

def putBool (b : Bool) : Bytes := putU8 (if b then boolTrue else boolFalse)

/-- Length-prefixed text. The length is cut to sixteen bits, as in the code. -/
def putString (s : String) : Bytes :=
  putU16 (UInt16.ofNat (asBytes s).length) ++ asBytes s

/-- Length-prefixed text; `extra` is what the size check after the length asks
for beyond the text itself. The length itself is read unchecked. -/
def getString (extra : Nat) : Decode String := do
  let len ← getU16
  ensure (len.toNat + extra) .invalidLength
  let bytes ← copyToSlice len.toNat
  ofOption (.invalidPayload (.utf8 bytes)) (fromUtf8 bytes)

def encodeOptionalString : Option String → Bytes
  | some s => putU8 optionSome ++ putString s
  | none => putU8 optionNone

def decodeOptionalString : Decode (Option String) := do
  let flag ← getU8
  if flag = optionSome then
    let s ← getString 0
    pure (some s)
  else
    pure none

/-- An address inside a payload: its text with a length prefix. -/
def putAddr (T : AddrText) (a : SocketAddr) : Bytes := putString (T.toText a)

def getAddr (T : AddrText) (label : String) : Decode SocketAddr := do
  let s ← getString 0
  ofOption (.invalidPayload (.addr label s)) (T.parse s)

def getStatus (label : String) : Decode NodeStatus := do
  let code ← getU8
  ofOption (.invalidPayload (.text (label ++ toString code))) (NodeStatus.fromCode code)

inductive DelegationReason where
  | overload | shutdown | rebalance | nodeFailure
  deriving DecidableEq, Repr

def DelegationReason.code : DelegationReason → UInt8
  | .overload => 0x01
  | .shutdown => 0x02
  | .rebalance => 0x03
  | .nodeFailure => 0x04

def DelegationReason.fromCode (code : UInt8) : Option DelegationReason :=
  match code with
  | 0x01 => some .overload
  | 0x02 => some .shutdown
  | 0x03 => some .rebalance
  | 0x04 => some .nodeFailure
  | _ => none

@[simp] theorem DelegationReason.fromCode_code (r : DelegationReason) :
    fromCode r.code = some r := by
  cases r <;> rfl

structure HeartbeatPayload where
  status : NodeStatus
  bucketCount : UInt16
  deviceCount : UInt32
  loadPercent : UInt8
  maxDeviceSuggested : UInt32
  knownNodes : List Uuid
  deriving DecidableEq, Repr

namespace HeartbeatPayload

def minSize : Nat := u8Size + u16Size + u32Size + u8Size + u32Size + u16Size

def encode (p : HeartbeatPayload) : Bytes :=
  putU8 p.status.code ++ putU16 p.bucketCount ++ putU32 p.deviceCount ++
  putU8 p.loadPercent ++ putU32 p.maxDeviceSuggested ++
  putU16 (UInt16.ofNat p.knownNodes.length) ++ p.knownNodes.flatMap putU128

def decode : Decode HeartbeatPayload := do
  ensure minSize .invalidLength
  let status ← getStatus "Invalid status code: "
  let bucketCount ← getU16
  let deviceCount ← getU32
  let loadPercent ← getU8
  let maxDeviceSuggested ← getU32
  let nodeCount ← getU16
  ensure (nodeCount.toNat * uuidSize) .invalidLength
  let knownNodes ← repeatN getU128 nodeCount.toNat
  pure { status, bucketCount, deviceCount, loadPercent, maxDeviceSuggested, knownNodes }

end HeartbeatPayload

structure NodeJoinPayload where
  nodeName : String
  clusterAddr : SocketAddr
  backdoorPort : UInt16
  deriving DecidableEq, Repr

namespace NodeJoinPayload

def minSize : Nat := u16Size + u16Size + u16Size

def encode (T : AddrText) (p : NodeJoinPayload) : Bytes :=
  putString p.nodeName ++ putAddr T p.clusterAddr ++ putU16 p.backdoorPort

def decode (T : AddrText) : Decode NodeJoinPayload := do
  ensure minSize .invalidLength
  let nodeName ← getString 0
  ensure (u16Size + u16Size) .invalidLength
  let clusterAddr ← getAddr T "Invalid address: "
  ensure u16Size .invalidLength
  let backdoorPort ← getU16
  pure { nodeName, clusterAddr, backdoorPort }

end NodeJoinPayload

structure DelegatedDevicePayload where
  deviceId : Uuid
  ipv4 : Option String
  ipv6 : Option String
  scheduleTime : Int64
  deriving DecidableEq

namespace DelegatedDevicePayload

def minSize : Nat := uuidSize + u8Size + u8Size + i64Size

def encode (p : DelegatedDevicePayload) : Bytes :=
  putU128 p.deviceId ++ encodeOptionalString p.ipv4 ++ encodeOptionalString p.ipv6 ++
  putI64 p.scheduleTime

def decode : Decode DelegatedDevicePayload := do
  ensure minSize .invalidLength
  let deviceId ← getU128
  let ipv4 ← decodeOptionalString
  let ipv6 ← decodeOptionalString
  ensure 8 .invalidLength
  let scheduleTime ← getI64
  pure { deviceId, ipv4, ipv6, scheduleTime }

end DelegatedDevicePayload

structure DelegateRequestPayload where
  devices : List DelegatedDevicePayload
  reason : DelegationReason
  deriving DecidableEq

namespace DelegateRequestPayload

def minSize : Nat := u16Size + u8Size

def encode (p : DelegateRequestPayload) : Bytes :=
  putU16 (UInt16.ofNat p.devices.length) ++
  p.devices.flatMap DelegatedDevicePayload.encode ++ putU8 p.reason.code

def decode : Decode DelegateRequestPayload := do
  ensure minSize .invalidLength
  let deviceCount ← getU16
  let devices ← repeatN DelegatedDevicePayload.decode deviceCount.toNat
  ensure 1 .invalidLength
  let reasonCode ← getU8
  let reason ← ofOption (.invalidPayload (.text s!"Invalid reason code: {reasonCode}"))
    (DelegationReason.fromCode reasonCode)
  pure { devices, reason }

end DelegateRequestPayload

structure DelegateAcceptPayload where
  acceptedDeviceIds : List Uuid
  deriving DecidableEq, Repr

namespace DelegateAcceptPayload

def minSize : Nat := u16Size

def encode (p : DelegateAcceptPayload) : Bytes :=
  putU16 (UInt16.ofNat p.acceptedDeviceIds.length) ++ p.acceptedDeviceIds.flatMap putU128

def decode : Decode DelegateAcceptPayload := do
  ensure minSize .invalidLength
  let deviceCount ← getU16
  ensure (deviceCount.toNat * 16) .invalidLength
  let acceptedDeviceIds ← repeatN getU128 deviceCount.toNat
  pure { acceptedDeviceIds }

end DelegateAcceptPayload

structure DelegateRejectPayload where
  reason : String
  deriving DecidableEq, Repr

namespace DelegateRejectPayload

def minSize : Nat := u16Size

def encode (p : DelegateRejectPayload) : Bytes := putString p.reason

def decode : Decode DelegateRejectPayload := do
  ensure minSize .invalidLength
  let reason ← getString 0
  pure { reason }

end DelegateRejectPayload

/-- The payloads that are one node id and nothing else. -/
def decodeNodeId : Decode Uuid := do
  ensure uuidSize .invalidLength
  getU128

structure NodeSuspectPayload where
  suspectNodeId : Uuid
  deriving DecidableEq, Repr

def NodeSuspectPayload.encode (p : NodeSuspectPayload) : Bytes := putU128 p.suspectNodeId
def NodeSuspectPayload.decode : Decode NodeSuspectPayload := NodeSuspectPayload.mk <$> decodeNodeId

structure NodeDeadPayload where
  deadNodeId : Uuid
  deriving DecidableEq, Repr

def NodeDeadPayload.encode (p : NodeDeadPayload) : Bytes := putU128 p.deadNodeId
def NodeDeadPayload.decode : Decode NodeDeadPayload := NodeDeadPayload.mk <$> decodeNodeId

structure ProbeRequestPayload where
  targetNodeId : Uuid
  deriving DecidableEq, Repr

def ProbeRequestPayload.encode (p : ProbeRequestPayload) : Bytes := putU128 p.targetNodeId
def ProbeRequestPayload.decode : Decode ProbeRequestPayload :=
  ProbeRequestPayload.mk <$> decodeNodeId

structure ProbeResponsePayload where
  targetNodeId : Uuid
  isAlive : Bool
  deriving DecidableEq, Repr

namespace ProbeResponsePayload

def minSize : Nat := uuidSize + u8Size

def encode (p : ProbeResponsePayload) : Bytes := putU128 p.targetNodeId ++ putBool p.isAlive

def decode : Decode ProbeResponsePayload := do
  ensure minSize .invalidLength
  let targetNodeId ← getU128
  let alive ← getU8
  pure { targetNodeId, isAlive := alive = boolTrue }

end ProbeResponsePayload

structure KnownNodeInfo where
  nodeId : Uuid
  nodeName : String
  clusterAddr : SocketAddr
  backdoorPort : UInt16
  status : NodeStatus
  deriving DecidableEq, Repr

namespace KnownNodeInfo

def encode (T : AddrText) (n : KnownNodeInfo) : Bytes :=
  putU128 n.nodeId ++ putString n.nodeName ++ putAddr T n.clusterAddr ++
  putU16 n.backdoorPort ++ putU8 n.status.code

def decode (T : AddrText) : Decode KnownNodeInfo := do
  ensure (uuidSize + u16Size) .invalidLength
  let nodeId ← getU128
  let nodeName ← getString 0
  ensure u16Size .invalidLength
  let clusterAddr ← getAddr T ""
  ensure (u16Size + u8Size) .invalidLength
  let backdoorPort ← getU16
  let status ← getStatus "Invalid status: "
  pure { nodeId, nodeName, clusterAddr, backdoorPort, status }

end KnownNodeInfo

structure StatusResponsePayload where
  nodeName : String
  status : NodeStatus
  bucketCount : UInt16
  deviceCount : UInt32
  loadPercent : UInt8
  maxDeviceSuggested : UInt32
  backdoorPort : UInt16
  knownNodes : List KnownNodeInfo
  deriving DecidableEq, Repr

namespace StatusResponsePayload

def minSize : Nat := u16Size + u8Size + u16Size + u32Size + u8Size + u32Size + u16Size
def fieldsAfterName : Nat := u8Size + u16Size + u32Size + u8Size + u32Size + u16Size

def encode (T : AddrText) (p : StatusResponsePayload) : Bytes :=
  putString p.nodeName ++ putU8 p.status.code ++ putU16 p.bucketCount ++
  putU32 p.deviceCount ++ putU8 p.loadPercent ++ putU32 p.maxDeviceSuggested ++
  putU16 p.backdoorPort ++ putU16 (UInt16.ofNat p.knownNodes.length) ++
  p.knownNodes.flatMap (KnownNodeInfo.encode T)

/-- The tail is optional: a sender that stops before it has no known nodes. -/
def decodeKnownNodes (T : AddrText) : Decode (List KnownNodeInfo) := do
  let left ← remaining
  if left ≥ u16Size then
    let count ← getU16
    repeatN (KnownNodeInfo.decode T) count.toNat
  else
    pure []

def decode (T : AddrText) : Decode StatusResponsePayload := do
  ensure minSize .invalidLength
  let nodeName ← getString fieldsAfterName
  let status ← getStatus "Invalid status: "
  let bucketCount ← getU16
  let deviceCount ← getU32
  let loadPercent ← getU8
  let maxDeviceSuggested ← getU32
  let backdoorPort ← getU16
  let knownNodes ← decodeKnownNodes T
  pure { nodeName, status, bucketCount, deviceCount, loadPercent, maxDeviceSuggested,
         backdoorPort, knownNodes }

end StatusResponsePayload

structure ConfigUpdatePayload where
  updateId : Uuid
  key : String
  value : String
  deriving DecidableEq, Repr

namespace ConfigUpdatePayload

def minSize : Nat := uuidSize + u16Size + u16Size

def encode (p : ConfigUpdatePayload) : Bytes :=
  putU128 p.updateId ++ putString p.key ++ putString p.value

def decode : Decode ConfigUpdatePayload := do
  ensure minSize .invalidLength
  let updateId ← getU128
  let key ← getString 0
  ensure u16Size .invalidLength
  let value ← getString 0
  pure { updateId, key, value }

end ConfigUpdatePayload

structure ConfigUpdateAckPayload where
  updateId : Uuid
  success : Bool
  errorMessage : Option String
  deriving DecidableEq, Repr

namespace ConfigUpdateAckPayload

def minSize : Nat := uuidSize + u8Size + u8Size

def encode (p : ConfigUpdateAckPayload) : Bytes :=
  putU128 p.updateId ++ putBool p.success ++ encodeOptionalString p.errorMessage

def decode : Decode ConfigUpdateAckPayload := do
  ensure minSize .invalidLength
  let updateId ← getU128
  let success ← getU8
  let errorMessage ← decodeOptionalString
  pure { updateId, success := success = boolTrue, errorMessage }

end ConfigUpdateAckPayload

inductive ClusterPayload where
  | empty
  | heartbeat (p : HeartbeatPayload)
  | nodeJoin (p : NodeJoinPayload)
  | nodeSuspect (p : NodeSuspectPayload)
  | nodeDead (p : NodeDeadPayload)
  | delegateRequest (p : DelegateRequestPayload)
  | delegateAccept (p : DelegateAcceptPayload)
  | delegateReject (p : DelegateRejectPayload)
  | statusResponse (p : StatusResponsePayload)
  | probeRequest (p : ProbeRequestPayload)
  | probeResponse (p : ProbeResponsePayload)
  | configUpdate (p : ConfigUpdatePayload)
  | configUpdateAck (p : ConfigUpdateAckPayload)
  deriving DecidableEq

def ClusterPayload.encode (T : AddrText) : ClusterPayload → Bytes
  | .empty => []
  | .heartbeat p => p.encode
  | .nodeJoin p => p.encode T
  | .nodeSuspect p => p.encode
  | .nodeDead p => p.encode
  | .delegateRequest p => p.encode
  | .delegateAccept p => p.encode
  | .delegateReject p => p.encode
  | .statusResponse p => p.encode T
  | .probeRequest p => p.encode
  | .probeResponse p => p.encode
  | .configUpdate p => p.encode
  | .configUpdateAck p => p.encode

end HeadEnd.Cluster
