import HeadEnd.Session

/-! The timestamp in the header of a message. Every constructor writes the seconds of the
clock; the only reader takes the number for milliseconds. -/
namespace HeadEnd
open HeadEnd.Buffer HeadEnd.Messages

def newRegisterRequestMessage (imei ipv6 : String) : Int → Except TaskError Message :=
  newMessage .registerRequest (.registryRequest { imei, ipv6 }) 0 0

def newNackMessage (deviceId : Uuid) (seq : UInt32) (errorCode : UInt8) :
    Int → Except TaskError Message :=
  newMessage .nack (.nack { errorCode }) deviceId seq

def newHandshakeResponseMessage (deviceId : Uuid) (seq : UInt32) (status : UInt8) :
    Int → Except TaskError Message :=
  newMessage .handshakeResponse (.handshakeResponse { status }) deviceId seq

def newReadResponseMessage (deviceId : Uuid) (seq : UInt32) (values : List ObisValue) :
    Int → Except TaskError Message :=
  newMessage .readResponse (.readResponse { values }) deviceId seq

def newWriteResponseMessage (deviceId : Uuid) (seq : UInt32) (success : Bool)
    (writtenCodes : List String) : Int → Except TaskError Message :=
  newMessage .writeResponse (.writeResponse { success, writtenCodes }) deviceId seq

/-- One of the constructors returned the message, with the clock at `now`. -/
inductive Created (now : Int) (msg : Message) : Prop
  | registerRequest {imei ipv6 : String} :
      newRegisterRequestMessage imei ipv6 now = .ok msg → Created now msg
  | registerResponse {d : Uuid} {seq : UInt32} {flag : UInt8} {nextWakeTime : UInt64} :
      newRegisterResponseMessage d seq flag nextWakeTime now = .ok msg → Created now msg
  | handshake {d : Uuid} {seq : UInt32} {nonce : Bytes} :
      newHandshakeMessage d seq nonce now = .ok msg → Created now msg
  | nack {d : Uuid} {seq : UInt32} {errorCode : UInt8} :
      newNackMessage d seq errorCode now = .ok msg → Created now msg
  | ack {d : Uuid} {seq : UInt32} : newAckMessage d seq now = .ok msg → Created now msg
  | handshakeResponse {d : Uuid} {seq : UInt32} {status : UInt8} :
      newHandshakeResponseMessage d seq status now = .ok msg → Created now msg
  | readResponse {d : Uuid} {seq : UInt32} {values : List ObisValue} :
      newReadResponseMessage d seq values now = .ok msg → Created now msg
  | writeResponse {d : Uuid} {seq : UInt32} {success : Bool} {writtenCodes : List String} :
      newWriteResponseMessage d seq success writtenCodes now = .ok msg → Created now msg
  | readRequest {d : Uuid} {seq : UInt32} {obisCodes : List String} :
      newReadRequestMessage d seq obisCodes now = .ok msg → Created now msg
  | writeRequest {d : Uuid} {seq : UInt32} {parameters : List WriteParameter} :
      newWriteRequestMessage d seq parameters now = .ok msg → Created now msg

/-- The reader gets the second at which the message was made. -/
def Messages.Message.ReadsBack (msg : Message) (now : Int) : Prop :=
  msg.getTimestamp.map HeadEnd.timestamp = some (HeadEnd.timestamp now)

/-- When a device registered, according to the store. -/
def InnerDB.registeredAt (db : InnerDB) (d : Uuid) : Option Int :=
  (db.deviceRegistration.lookup d).map Registration.time

/-- The milliseconds from the registration to the ACK, as observed by the metrics. -/
def registrationDuration (db : InnerDB) (d : Uuid) (msg : Message) : Option Int :=
  match db.getDeviceRegistration d, msg.getTimestamp with
  | .ok row, some time => some ((time - row.time).tdiv 1000000)
  | _, _ => none

section
variable {now : Int} {msg : Message}

/-- What all constructors have in common. -/
structure Stamped (now : Int) (msg : Message) : Prop where
  pos : 0 ≤ now
  names : msg.msgType.Names msg.payload
  stamp : msg.timestamp = UInt64.ofInt (timestamp now)

theorem Stamped.of_newMessage {msgType : MsgType} {payload : MessagePayload} {d : Uuid}
    {seq : UInt32} (h : newMessage msgType payload d seq now = .ok msg)
    (hnames : msgType.Names payload) : Stamped now msg := by
  unfold newMessage at h
  split at h
  next => cases h
  next hpos =>
    obtain rfl := Except.ok.inj h
    exact ⟨Int.not_lt.mp hpos, hnames, rfl⟩

theorem Created.stamped (h : Created now msg) : Stamped now msg := by
  cases h with
  | registerResponse h =>
    unfold newRegisterResponseMessage at h
    split at h
    next => cases h
    next hpos =>
      obtain rfl := Except.ok.inj h
      exact ⟨Int.not_lt.mp hpos, ⟨_, rfl⟩, rfl⟩
  | ack h => exact .of_newMessage h rfl
  | registerRequest h | handshake h | nack h | handshakeResponse h | readResponse h
  | writeResponse h | readRequest h | writeRequest h => exact .of_newMessage h ⟨_, rfl⟩

/-- A number of seconds is read as that number of milliseconds. -/
theorem Created.getTimestamp (h : Created now msg) (hrange : timestamp now ≤ maxTimestamp) :
    msg.getTimestamp = some (timestamp now * 1000000) := by
  have hpos : 0 ≤ timestamp now := Int.ediv_nonneg h.stamped.pos (by decide)
  have hmax : maxTimestamp = 8210266876799 := by decide
  obtain ⟨n, hn⟩ := Int.eq_ofNat_of_zero_le hpos
  have hstamp : msg.timestamp.toNat = n := by
    rw [h.stamped.stamp, hn]
    simp only [UInt64.ofInt, UInt64.toNat_ofNat']
    omega
  unfold Message.getTimestamp
  simp only [hstamp, nanosPerSec]
  rw [if_pos (by omega), hn]
  exact congrArg some (by omega)

theorem timestamp_millis_iff (hpos : 0 ≤ now) :
    timestamp (timestamp now * 1000000) = timestamp now ↔ timestamp now = 0 := by
  unfold timestamp
  omega

theorem Created.readsBack_iff (h : Created now msg) (hrange : timestamp now ≤ maxTimestamp) :
    msg.ReadsBack now ↔ timestamp now = 0 := by
  rw [Message.ReadsBack, h.getTimestamp hrange, Option.map_some, Option.some_inj,
    timestamp_millis_iff h.stamped.pos]

end

section
variable {r a : Int} {req ack : Message} {db : InnerDB} {d : Uuid}

theorem registeredAt_registerDevice (time : Int) :
    (db.registerDevice d time).registeredAt d = some time := by
  rw [InnerDB.registeredAt, InnerDB.registerDevice, Finmap.lookup_insert]
  rfl

theorem registrationDuration_registerDevice {time ackTime : Int}
    (hack : ack.getTimestamp = some ackTime) :
    registrationDuration (db.registerDevice d time) d ack =
      some ((ackTime - time).tdiv 1000000) := by
  simp only [registrationDuration, InnerDB.getDeviceRegistration, InnerDB.registerDevice,
    Finmap.lookup_insert, hack]

/-- A request made at `r` and an ACK made at `a`. Of the request the second is read back,
directly or from the wire, and is stored, exactly at the start of 1970, and so it is for the
ACK. The measured delay is right exactly if there is none. -/
theorem message_times_iff (hreq : Created r req) (hack : Created a ack)
    (hr : timestamp r ≤ maxTimestamp) (ha : timestamp a ≤ maxTimestamp) :
    (req.ReadsBack r ↔ timestamp r = 0) ∧
      ((MessageCodec.encode req).length < maxBuffer →
        ((∃ msg rest, MessageCodec.decode.run (MessageCodec.encode req) = .ok (some msg) rest ∧
          msg.ReadsBack r) ↔ timestamp r = 0)) ∧
      ∃ time ackTime, req.getTimestamp = some time ∧ ack.getTimestamp = some ackTime ∧
        (((db.registerDevice d time).registeredAt d).map timestamp = some (timestamp r) ↔
          timestamp r = 0) ∧
        (∃ db', (db.registerDevice d time).updateDeviceRegistration d (some .registered)
            (some ackTime) = .ok db' ∧
          ((db'.registeredAt d).map timestamp = some (timestamp a) ↔ timestamp a = 0)) ∧
        (registrationDuration (db.registerDevice d time) d ack =
          some ((timestamp a - timestamp r) * 1000) ↔ timestamp a = timestamp r) := by
  refine ⟨hreq.readsBack_iff hr, fun hfit => ?_, _, _, hreq.getTimestamp hr, hack.getTimestamp ha,
    ?_, ?_, ?_⟩
  · have htrip := MessageCodec.decode_encode hreq.stamped.names hfit
    rw [← hreq.readsBack_iff hr]
    constructor
    · intro h
      obtain ⟨msg, rest, hdecoded, hback⟩ := h
      cases htrip.symm.trans hdecoded
      exact hback
    · exact fun hback => ⟨req, [], htrip, hback⟩
  · rw [registeredAt_registerDevice, Option.map_some, Option.some_inj,
      timestamp_millis_iff hreq.stamped.pos]
  · rw [InnerDB.updateDeviceRegistration, InnerDB.registerDevice, Finmap.lookup_insert]
    refine ⟨_, rfl, ?_⟩
    rw [InnerDB.registeredAt, Finmap.lookup_insert]
    exact Option.some_inj.trans (timestamp_millis_iff hack.stamped.pos)
  · rw [registrationDuration_registerDevice (hack.getTimestamp ha), Option.some_inj,
      ← Int.sub_mul, Int.mul_tdiv_cancel _ (by decide)]
    omega

end

/- Meter 9 asks to be registered and acknowledges the answer, both at `now`. -/
def requestAt (now : Int) : Message where
  version := currentProtocolVersion
  msgType := .registerRequest
  deviceId := 0
  seq := 0
  timestamp := UInt64.ofInt (timestamp now)
  payload := .registryRequest { imei := "1", ipv6 := "::1" }
  mac := 0

def ackAt (now : Int) : Message where
  version := currentProtocolVersion
  msgType := .ack
  deviceId := 9
  seq := 2
  timestamp := UInt64.ofInt (timestamp now)
  payload := .ack
  mac := 0

/-- The first second of 1970. -/
theorem message_times_iff_epoch : (requestAt 0).ReadsBack 0 ∧
    registrationDuration (InnerDB.new.registerDevice 9 0) 9 (ackAt 0) = some 0 := by
  have hreq : Created 0 (requestAt 0) := .registerRequest rfl
  have hack : Created 0 (ackAt 0) := .ack rfl
  obtain ⟨hback, -, time, ackTime, htime, -, -, -, hdelay⟩ := @message_times_iff 0 0 _ _
    InnerDB.new 9 hreq hack (by decide) (by decide)
  obtain rfl := Option.some.inj htime
  exact ⟨hback.mpr rfl, hdelay.mpr rfl⟩

/-- A request made two seconds into 1970 is read as made in the first. -/
theorem second_read_as_millisecond : ¬ ∀ (now : Int) (msg : Message), Created now msg →
    timestamp now ≤ maxTimestamp → msg.ReadsBack now := by
  intro h
  have hreq : Created 2000000000 (requestAt 2000000000) := .registerRequest rfl
  have hzero := (hreq.readsBack_iff (by decide)).mp (h _ _ hreq (by decide))
  exact absurd hzero (by decide)

end HeadEnd
