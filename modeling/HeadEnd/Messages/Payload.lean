import HeadEnd.Lib.Rlp
import HeadEnd.Common

/-! Payloads of the device protocol. Each is one RLP list, read item by item;
the types without data have an empty payload. -/
namespace HeadEnd.Messages
open HeadEnd.Buffer HeadEnd.Rlp

/- The texts of the RLP and UTF-8 errors are kept as the errors themselves. -/
inductive PayloadFault where
  | rlp (error : DecoderError)
  | utf8 (bytes : Bytes)
  deriving DecidableEq, Repr

inductive MsgCodecError where
  | invalidLength
  | unknownMsgType
  | payloadDecodeError (fault : PayloadFault)
  deriving DecidableEq, Repr

abbrev Parsed (α : Type) := Except MsgCodecError α

def ofRlp : Decoded α → Parsed α
  | .ok a => .ok a
  | .error e => .error (.payloadDecodeError (.rlp e))

def ofUtf8 (bytes : Bytes) : Parsed String :=
  match fromUtf8 bytes with
  | some s => .ok s
  | none => .error (.payloadDecodeError (.utf8 bytes))

def valAt (view : Bytes → Decoded α) (rlp : Bytes) (i : Nat) : Parsed α :=
  ofRlp (itemAt rlp i >>= view)

def bytesAt : Bytes → Nat → Parsed Bytes := valAt decodeValue
def u8At : Bytes → Nat → Parsed UInt8 := valAt (fun r => UInt8.ofNat <$> decodeUInt 1 r)
def u64At : Bytes → Nat → Parsed UInt64 := valAt (fun r => UInt64.ofNat <$> decodeUInt 8 r)

def appendText (s : String) : Bytes := encodeStr (asBytes s)
def appendU8 (v : UInt8) : Bytes := encodeUInt v.toNat
def appendU64 (v : UInt64) : Bytes := encodeUInt v.toNat

def textAt (rlp : Bytes) (i : Nat) : Parsed String := do
  let bytes ← bytesAt rlp i
  ofUtf8 bytes

/-- `for i in 0..count { out.push(read(i)?) }` -/
def collect (count : Nat) (read : Nat → Parsed α) : Parsed (List α) :=
  (List.range count).mapM read

structure HandshakeMessage where
  nonce : Bytes
  deriving DecidableEq, Repr

def HandshakeMessage.encode (m : HandshakeMessage) : Bytes := encodeList [encodeStr m.nonce]

def HandshakeMessage.decode (data : Bytes) : Parsed HandshakeMessage := do
  let nonce ← bytesAt data 0
  pure { nonce }

structure HandshakeResponseMessage where
  status : UInt8
  deriving DecidableEq, Repr

def HandshakeResponseMessage.encode (m : HandshakeResponseMessage) : Bytes :=
  encodeList [appendU8 m.status]

def HandshakeResponseMessage.decode (data : Bytes) : Parsed HandshakeResponseMessage := do
  let status ← u8At data 0
  pure { status }

structure RegistryRequestMessage where
  imei : String
  ipv6 : String
  deriving DecidableEq, Repr

def RegistryRequestMessage.encode (m : RegistryRequestMessage) : Bytes :=
  encodeList [appendText m.imei, appendText m.ipv6]

def RegistryRequestMessage.decode (data : Bytes) : Parsed RegistryRequestMessage := do
  let imeiBytes ← bytesAt data 0
  let ipv6Bytes ← bytesAt data 1
  let imei ← ofUtf8 imeiBytes
  let ipv6 ← ofUtf8 ipv6Bytes
  pure { imei, ipv6 }

structure RegistryResponseMessage where
  flag : UInt8
  nextWakeTime : UInt64
  deriving DecidableEq, Repr

def RegistryResponseMessage.encode (m : RegistryResponseMessage) : Bytes :=
  encodeList [appendU8 m.flag, appendU64 m.nextWakeTime]

def RegistryResponseMessage.decode (data : Bytes) : Parsed RegistryResponseMessage := do
  let flag ← u8At data 0
  let nextWakeTime ← u64At data 1
  pure { flag, nextWakeTime }

structure ReadRequestMessage where
  obisCodes : List String
  deriving DecidableEq, Repr

def ReadRequestMessage.encode (m : ReadRequestMessage) : Bytes :=
  encodeList (m.obisCodes.map appendText)

def ReadRequestMessage.decode (data : Bytes) : Parsed ReadRequestMessage := do
  let count ← ofRlp (itemCount data)
  let obisCodes ← collect count (textAt data)
  pure { obisCodes }

/-- A code with its value: what a device reports, and what it is told to write.
The source has two types with these same fields, one for each direction. -/
structure ObisValue where
  code : String
  value : Bytes
  deriving DecidableEq, Repr

abbrev WriteParameter := ObisValue

def ObisValue.encode (v : ObisValue) : Bytes :=
  encodeList [appendText v.code, encodeStr v.value]

def ObisValue.at (data : Bytes) (i : Nat) : Parsed ObisValue := do
  let item ← ofRlp (itemAt data i)
  let code ← textAt item 0
  let value ← bytesAt item 1
  pure { code, value }

structure ReadResponseMessage where
  values : List ObisValue
  deriving DecidableEq, Repr

def ReadResponseMessage.encode (m : ReadResponseMessage) : Bytes :=
  encodeList (m.values.map ObisValue.encode)

def ReadResponseMessage.decode (data : Bytes) : Parsed ReadResponseMessage := do
  let count ← ofRlp (itemCount data)
  let values ← collect count (ObisValue.at data)
  pure { values }

structure WriteRequestMessage where
  parameters : List WriteParameter
  deriving DecidableEq, Repr

def WriteRequestMessage.encode (m : WriteRequestMessage) : Bytes :=
  encodeList (m.parameters.map ObisValue.encode)

def WriteRequestMessage.decode (data : Bytes) : Parsed WriteRequestMessage := do
  let count ← ofRlp (itemCount data)
  let parameters ← collect count (ObisValue.at data)
  pure { parameters }

structure WriteResponseMessage where
  success : Bool
  writtenCodes : List String
  deriving DecidableEq, Repr

def WriteResponseMessage.encode (m : WriteResponseMessage) : Bytes :=
  encodeList [appendU8 (if m.success then 1 else 0), encodeList (m.writtenCodes.map appendText)]

def WriteResponseMessage.decode (data : Bytes) : Parsed WriteResponseMessage := do
  let successByte ← u8At data 0
  let codesList ← ofRlp (itemAt data 1)
  let count ← ofRlp (itemCount codesList)
  let writtenCodes ← collect count (textAt codesList)
  pure { success := successByte ≠ 0, writtenCodes }

structure NackMessage where
  errorCode : UInt8
  deriving DecidableEq, Repr

def NackMessage.encode (m : NackMessage) : Bytes := encodeList [appendU8 m.errorCode]

def NackMessage.decode (data : Bytes) : Parsed NackMessage := do
  let errorCode ← u8At data 0
  pure { errorCode }

inductive MessagePayload where
  | handshake (m : HandshakeMessage)
  | handshakeResponse (m : HandshakeResponseMessage)
  | registryRequest (m : RegistryRequestMessage)
  | registryResponse (m : RegistryResponseMessage)
  | readRequest (m : ReadRequestMessage)
  | readResponse (m : ReadResponseMessage)
  | writeRequest (m : WriteRequestMessage)
  | writeResponse (m : WriteResponseMessage)
  | executeRequest
  | executeResponse
  | actionRequest
  | actionResponse
  | ack
  | nack (m : NackMessage)
  | sessionStartRequest
  deriving DecidableEq, Repr

def MessagePayload.encode : MessagePayload → Bytes
  | .handshake m => m.encode
  | .handshakeResponse m => m.encode
  | .registryRequest m => m.encode
  | .registryResponse m => m.encode
  | .readRequest m => m.encode
  | .readResponse m => m.encode
  | .writeRequest m => m.encode
  | .writeResponse m => m.encode
  | .executeRequest => []
  | .executeResponse => []
  | .actionRequest => []
  | .actionResponse => []
  | .ack => []
  | .nack m => m.encode
  | .sessionStartRequest => []

def MessagePayload.decode (code : UInt8) (msgData : Bytes) : Parsed MessagePayload :=
  match code with
  | 0x00 => .handshake <$> HandshakeMessage.decode msgData
  | 0x01 => .handshakeResponse <$> HandshakeResponseMessage.decode msgData
  | 0x02 => .registryRequest <$> RegistryRequestMessage.decode msgData
  | 0x03 => .registryResponse <$> RegistryResponseMessage.decode msgData
  | 0x0A => .readRequest <$> ReadRequestMessage.decode msgData
  | 0x0B => .readResponse <$> ReadResponseMessage.decode msgData
  | 0x14 => .writeRequest <$> WriteRequestMessage.decode msgData
  | 0x15 => .writeResponse <$> WriteResponseMessage.decode msgData
  | 0x1E => pure .executeRequest
  | 0x1F => pure .executeResponse
  | 0x28 => pure .actionRequest
  | 0x29 => pure .actionResponse
  | 0xFE => .nack <$> NackMessage.decode msgData
  | 0xFF => pure .ack
  | 0xF0 => pure .sessionStartRequest
  | _ => .error .unknownMsgType

end HeadEnd.Messages
