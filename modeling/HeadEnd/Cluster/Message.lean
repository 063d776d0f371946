import HeadEnd.Cluster.Payload

/-! Cluster messages, their thirty-byte header, and the codec that the UDP
socket runs on every datagram. -/
namespace HeadEnd.Cluster
open HeadEnd.Buffer

inductive ClusterMessageType where
  | heartbeat | heartbeatAck | statusRequest | statusResponse
  | delegateRequest | delegateAccept | delegateReject
  | nodeJoin | nodeLeave | nodeSuspect | nodeDead
  | probeRequest | probeResponse | configUpdate | configUpdateAck
  deriving DecidableEq, Repr

namespace ClusterMessageType

def code : ClusterMessageType → UInt8
  | heartbeat => 0x01
  | heartbeatAck => 0x02
  | statusRequest => 0x10
  | statusResponse => 0x11
  | delegateRequest => 0x20
  | delegateAccept => 0x21
  | delegateReject => 0x22
  | nodeJoin => 0x30
  | nodeLeave => 0x31
  | nodeSuspect => 0x40
  | nodeDead => 0x41
  | probeRequest => 0x50
  | probeResponse => 0x51
  | configUpdate => 0x60
  | configUpdateAck => 0x61

def fromCode (code : UInt8) : Except ClusterCodecError ClusterMessageType :=
  match code with
  | 0x01 => .ok heartbeat
  | 0x02 => .ok heartbeatAck
  | 0x10 => .ok statusRequest
  | 0x11 => .ok statusResponse
  | 0x20 => .ok delegateRequest
  | 0x21 => .ok delegateAccept
  | 0x22 => .ok delegateReject
  | 0x30 => .ok nodeJoin
  | 0x31 => .ok nodeLeave
  | 0x40 => .ok nodeSuspect
  | 0x41 => .ok nodeDead
  | 0x50 => .ok probeRequest
  | 0x51 => .ok probeResponse
  | 0x60 => .ok configUpdate
  | 0x61 => .ok configUpdateAck
  | _ => .error (.unknownMessageType code)

@[simp] theorem fromCode_code (t : ClusterMessageType) : fromCode t.code = .ok t := by
  cases t <;> rfl

theorem fromCode_eq_ok {c : UInt8} {t : ClusterMessageType} :
    fromCode c = .ok t ↔ c = t.code := by
  constructor
  · unfold fromCode
    intro h
    split at h <;> cases h <;> rfl
  · rintro rfl
    exact fromCode_code t

end ClusterMessageType

structure ClusterMessage where
  version : UInt8
  msgType : ClusterMessageType
  nodeId : Uuid
  seq : UInt32
  timestamp : UInt64
  payload : ClusterPayload
  deriving DecidableEq

def clusterHeaderSize : Nat := 30

namespace ClusterMessage

def encodeHeader (m : ClusterMessage) : Bytes :=
  putU8 m.version ++ putU8 m.msgType.code ++ putU128 m.nodeId ++ putU32 m.seq ++
  putU64 m.timestamp

def protocolVersion : UInt8 := 1

/-- Stamped with the milliseconds since the epoch, zero before it. -/
def new (nodeId : Uuid) (seq : UInt32) (msgType : ClusterMessageType) (payload : ClusterPayload)
    (now : Int) : ClusterMessage :=
  { version := protocolVersion, msgType, nodeId, seq
    timestamp := UInt64.ofNat (now / 1000000).toNat
    payload }

structure Header where
  version : UInt8
  msgType : ClusterMessageType
  nodeId : Uuid
  seq : UInt32
  timestamp : UInt64
  deriving DecidableEq

def header (m : ClusterMessage) : Header :=
  { version := m.version, msgType := m.msgType, nodeId := m.nodeId, seq := m.seq
    timestamp := m.timestamp }

/-- The type code is looked up only after the whole header has been read. -/
def decodeHeader : Decode Header := do
  ensure clusterHeaderSize .invalidLength
  let version ← getU8
  let msgTypeCode ← getU8
  let nodeId ← getU128
  let seq ← getU32
  let timestamp ← getU64
  let msgType ← ofExcept (ClusterMessageType.fromCode msgTypeCode)
  pure { version, msgType, nodeId, seq, timestamp }

end ClusterMessage

def decodePayload (T : AddrText) : ClusterMessageType → Decode ClusterPayload
  | .heartbeat => .heartbeat <$> HeartbeatPayload.decode
  | .heartbeatAck => pure .empty
  | .statusRequest => pure .empty
  | .statusResponse => .statusResponse <$> StatusResponsePayload.decode T
  | .delegateRequest => .delegateRequest <$> DelegateRequestPayload.decode
  | .delegateAccept => .delegateAccept <$> DelegateAcceptPayload.decode
  | .delegateReject => .delegateReject <$> DelegateRejectPayload.decode
  | .nodeJoin => .nodeJoin <$> NodeJoinPayload.decode T
  | .nodeLeave => pure .empty
  | .nodeSuspect => .nodeSuspect <$> NodeSuspectPayload.decode
  | .nodeDead => .nodeDead <$> NodeDeadPayload.decode
  | .probeRequest => .probeRequest <$> ProbeRequestPayload.decode
  | .probeResponse => .probeResponse <$> ProbeResponsePayload.decode
  | .configUpdate => .configUpdate <$> ConfigUpdatePayload.decode
  | .configUpdateAck => .configUpdateAck <$> ConfigUpdateAckPayload.decode

namespace ClusterMessageCodec

def encode (T : AddrText) (m : ClusterMessage) : Bytes :=
  m.encodeHeader ++ m.payload.encode T

/-- A whole message, once the buffer is known to hold a header. -/
def decodeMessage (T : AddrText) : Decode (Option ClusterMessage) := do
  let h ← ClusterMessage.decodeHeader
  let payload ← decodePayload T h.msgType
  pure (some { version := h.version, msgType := h.msgType, nodeId := h.nodeId, seq := h.seq
               timestamp := h.timestamp, payload })

/-- A short datagram is thrown away: no more bytes will follow it. -/
def decode (T : AddrText) : Decode (Option ClusterMessage) :=
  ⟨fun buf =>
    if buf.length < clusterHeaderSize then
      if buf ≠ [] then .err .invalidLength [] else .ok none []
    else (decodeMessage T).run buf⟩

end ClusterMessageCodec

end HeadEnd.Cluster
