import HeadEnd.Messages.Datagrams
import HeadEnd.Session

/-! The datagrams that a session takes for the replies of its device. -/
namespace HeadEnd
open HeadEnd.Buffer HeadEnd.Messages

/-- What `recv` gives within the time for a response. -/
inductive Received where
  | datagram (bytes : Bytes)
  | failed (text : String)
  | timedOut

def recvBufferSize : Nat := 4096

/-- The rest of a datagram that does not fit the buffer is lost. -/
def recvMsg : Received → Except TaskError Message
  | .timedOut => .error (.ioError "device did not respond")
  | .failed text => .error (.ioError text)
  | .datagram bytes =>
    match h : MessageCodec.decode.run (bytes.take recvBufferSize) with
    | .ok (some msg) _ => .ok msg
    | .ok none _ => .error (.ioError "incomplete message")
    | .err e _ => .error (.msgCodecError e)
    | .panic => absurd h (MessageCodec.decode_ne_panic _)

/-- The three replies of a session, taken from the socket one after the other. -/
def Exchange.hearing (x : Exchange) (received : Nat → Received) : Exchange :=
  { x with
    handshake := { x.handshake with reply := recvMsg (received 0) }
    read := { x.read with reply := recvMsg (received 1) }
    write := { x.write with reply := recvMsg (received 2) } }

structure Replies where
  handshake : Message
  read : Message
  write : Message

namespace Replies

/-- These messages are received, whoever sent them. -/
def Heard (m : Replies) (received : Nat → Received) : Prop :=
  recvMsg (received 0) = .ok m.handshake ∧ recvMsg (received 1) = .ok m.read ∧
    recvMsg (received 2) = .ok m.write

def InOrder (m : Replies) : Prop :=
  m.handshake.payload.isHandshakeResponse = true ∧ m.read.payload.isReadResponse = true ∧
    m.write.payload.isWriteResponse = true

def CameFrom (m : Replies) (d : Uuid) : Prop :=
  m.handshake.deviceId = d ∧ m.read.deviceId = d ∧ m.write.deviceId = d

end Replies

/-- The message can be built, and is sent. -/
def Leg.Sends (leg : Leg) : Prop := 0 ≤ leg.sentAt ∧ leg.sending = .ok ()

def Exchange.Sends (x : Exchange) : Prop :=
  x.opened = .ok () ∧ x.handshake.Sends ∧ x.read.Sends ∧ x.write.Sends ∧
    0 ≤ x.closedAt ∧ x.closing = .ok ()

section
variable {db : InnerDB} {d : Uuid} {x : Exchange} {received : Nat → Received}

theorem sendMsg_newMessage {msgType : MsgType} {payload : MessagePayload} {seq : UInt32}
    {sentAt : Int} {sending : Except TaskError Unit} :
    (∃ msg, sendMsg sending (newMessage msgType payload d seq sentAt) = .ok msg) ↔
      0 ≤ sentAt ∧ sending = .ok () := by
  unfold newMessage
  split
  next hneg => exact iff_of_false (fun ⟨_, h⟩ => by cases h) fun h => by omega
  next hpos =>
    cases sending with
    | error e => exact iff_of_false (fun ⟨_, h⟩ => by cases h) fun h => by cases h.2
    | ok _ => exact iff_of_true ⟨_, rfl⟩ ⟨by omega, rfl⟩

theorem expectReply_eq_ok {expected : MsgType} {accepts : MessagePayload → Bool}
    {reply : Except TaskError Message} : expectReply expected accepts reply = .ok () ↔
      ∃ msg, reply = .ok msg ∧ accepts msg.payload = true := by
  unfold expectReply
  cases reply with
  | error e => simp
  | ok msg => cases haccepts : accepts msg.payload <;> simp [haccepts]

/-- A leg goes well if its message is sent, and if the reply is of the expected kind. -/
theorem exchangeLeg_ok_iff {msgType expected : MsgType} {payload : MessagePayload}
    {seq : UInt32} {leg : Leg} {accepts : MessagePayload → Bool} {rest : Prop}
    {next : List Message → List Message × Except TaskError Unit} {sent : List Message}
    (hnext : ∀ sent, (next sent).2 = .ok () ↔ rest) :
    (exchangeLeg sent (newMessage msgType payload d seq) leg expected accepts next).2 = .ok () ↔
      leg.Sends ∧ (∃ msg, leg.reply = .ok msg ∧ accepts msg.payload = true) ∧ rest := by
  unfold exchangeLeg Leg.Sends
  rw [← @sendMsg_newMessage d msgType payload seq, ← @expectReply_eq_ok expected]
  cases sendMsg leg.sending (newMessage msgType payload d seq leg.sentAt) with
  | error e => simp
  | ok msg =>
    cases expectReply expected accepts leg.reply with
    | error e => simp
    | ok _ => simp [hnext]

theorem runSession_ok_iff_converse :
    (runSession db d x).result = .ok () ↔
      (converse d (needsBattery db x.checkedAt d) x).2 = .ok () := by
  unfold runSession
  dsimp only
  split
  next heq => simp [heq]
  next heq => simp [heq]

theorem close_ok_iff {sent : List Message} :
    (match sendMsg x.closing (newAckMessage d 3 x.closedAt) with
      | .error e => (sent, Except.error e)
      | .ok ack => (sent ++ [ack], .ok ())).2 = .ok () ↔ 0 ≤ x.closedAt ∧ x.closing = .ok () := by
  rw [← @sendMsg_newMessage d .ack .ack 3, newAckMessage]
  cases sendMsg x.closing (newMessage .ack .ack d 3 x.closedAt) with
  | error e => simp
  | ok ack => simp

theorem converse_ok_iff {needs : Bool} : (converse d needs (x.hearing received)).2 = .ok () ↔
    x.Sends ∧ ∃ m : Replies, m.Heard received ∧ m.InOrder := by
  unfold converse Exchange.Sends
  cases hopened : (x.hearing received).opened with
  | error e =>
    refine iff_of_false (fun h => by cases h) fun h => ?_
    cases hopened.symm.trans h.1.1
  | ok _ =>
    refine (exchangeLeg_ok_iff fun _ => exchangeLeg_ok_iff fun _ => exchangeLeg_ok_iff fun _ =>
      close_ok_iff).trans ?_
    constructor
    · intro h
      obtain ⟨hhandshake, ⟨m₁, hm₁, hk₁⟩, hread, ⟨m₂, hm₂, hk₂⟩, hwrite, ⟨m₃, hm₃, hk₃⟩,
        hclose⟩ := h
      exact ⟨⟨hopened, hhandshake, hread, hwrite, hclose⟩, ⟨m₁, m₂, m₃⟩, ⟨hm₁, hm₂, hm₃⟩,
        ⟨hk₁, hk₂, hk₃⟩⟩
    · intro h
      obtain ⟨⟨-, hhandshake, hread, hwrite, hclose⟩, m, ⟨hm₁, hm₂, hm₃⟩, hk₁, hk₂, hk₃⟩ := h
      exact ⟨hhandshake, ⟨m.handshake, hm₁, hk₁⟩, hread, ⟨m.read, hm₂, hk₂⟩, hwrite,
        ⟨m.write, hm₃, hk₃⟩, hclose⟩

theorem session_ok_iff : (runSession db d (x.hearing received)).result = .ok () ↔
    x.Sends ∧ ∃ m : Replies, m.Heard received ∧ m.InOrder :=
  runSession_ok_iff_converse.trans converse_ok_iff

/-- The session goes through only with three replies of the device, in order, and otherwise
fails and stores nothing. -/
def CreditsOnly (db : InnerDB) (d : Uuid) (x : Exchange) (received : Nat → Received) : Prop :=
  let session := runSession db d (x.hearing received)
  (session.result = .ok () → ∃ m : Replies, m.Heard received ∧ m.InOrder ∧ m.CameFrom d) ∧
    (session.result ≠ .ok () → (∃ e, session.result = .error e) ∧ session.db = db)

theorem Replies.Heard.unique {m m' : Replies} (h : m.Heard received) (h' : m'.Heard received) :
    m = m' := by
  obtain ⟨h₁, h₂, h₃⟩ := h
  obtain ⟨h₁', h₂', h₃'⟩ := h'
  have heq₁ := Except.ok.inj (h₁.symm.trans h₁')
  have heq₂ := Except.ok.inj (h₂.symm.trans h₂')
  have heq₃ := Except.ok.inj (h₃.symm.trans h₃')
  cases m
  cases m'
  simp_all

/-- Nobody looks at the device id of a reply: a session is credited rightly exactly if
replies of the right kinds, in order, come from its device. -/
theorem session_credited_iff : CreditsOnly db d x received ↔
    (x.Sends → ∀ m : Replies, m.Heard received → m.InOrder → m.CameFrom d) := by
  constructor
  · intro h hsends m hheard horder
    obtain ⟨m', hheard', -, hfrom⟩ := h.1 (session_ok_iff.mpr ⟨hsends, m, hheard, horder⟩)
    rw [hheard.unique hheard']
    exact hfrom
  · intro h
    refine ⟨fun hok => ?_, fun hne => ?_⟩
    · obtain ⟨hsends, m, hheard, horder⟩ := session_ok_iff.mp hok
      exact ⟨m, hheard, horder, h hsends m hheard horder⟩
    · cases hresult : (runSession db d (x.hearing received)).result with
      | ok _ => exact absurd hresult hne
      | error e => exact ⟨⟨e, rfl⟩, runSession_eq_error hresult⟩

end

/- Meter 8 has got the address of meter 9. -/
def reply (msgType : MsgType) (payload : MessagePayload) : Message :=
  ⟨currentProtocolVersion, msgType, 8, 0, 0, payload, 0⟩

def strangerReplies : Replies where
  handshake := reply .handshakeResponse (.handshakeResponse { status := 0 })
  read := reply .readResponse (.readResponse { values := [] })
  write := reply .writeResponse (.writeResponse { success := true, writtenCodes := [] })

def strangerReceived : Nat → Received
  | 0 => .datagram (MessageCodec.encode strangerReplies.handshake)
  | 1 => .datagram (MessageCodec.encode strangerReplies.read)
  | _ => .datagram (MessageCodec.encode strangerReplies.write)

theorem recvMsg_encode {msg : Message} (hnames : msg.msgType.Names msg.payload)
    (hfits : (MessageCodec.encode msg).length ≤ recvBufferSize) :
    recvMsg (.datagram (MessageCodec.encode msg)) = .ok msg := by
  have hsize : recvBufferSize < maxBuffer := by decide
  have htrip := MessageCodec.decode_encode hnames (Nat.lt_of_le_of_lt hfits hsize)
  nth_rewrite 1 [← List.take_of_length_le hfits] at htrip
  simp only [recvMsg]
  split
  next msg' rest heq =>
    cases heq.symm.trans htrip
    rfl
  next rest heq => cases heq.symm.trans htrip
  next e rest heq => cases heq.symm.trans htrip
  next heq => cases heq.symm.trans htrip

theorem strangerReplies_heard : strangerReplies.Heard strangerReceived := by
  refine ⟨recvMsg_encode ⟨_, rfl⟩ ?_, recvMsg_encode ⟨_, rfl⟩ ?_, recvMsg_encode ⟨_, rfl⟩ ?_⟩
  all_goals decide

theorem smoothExchange_sends : (smoothExchange 0).Sends := by
  refine ⟨rfl, ⟨?_, rfl⟩, ⟨?_, rfl⟩, ⟨?_, rfl⟩, ?_, rfl⟩
  all_goals exact Int.le_refl 0

/-- The replies of meter 8 complete the session with meter 9. -/
theorem stranger_credited : ¬ ∀ db d x received, CreditsOnly db d x received := by
  intro h
  have hok := (@session_ok_iff oneMeter 9 (smoothExchange 0) strangerReceived).mpr
    ⟨smoothExchange_sends, strangerReplies, strangerReplies_heard, ⟨rfl, rfl, rfl⟩⟩
  obtain ⟨m, hheard, -, hfrom⟩ := (h oneMeter 9 (smoothExchange 0) strangerReceived).1 hok
  rw [hheard.unique strangerReplies_heard] at hfrom
  exact absurd hfrom.1 (by decide)

end HeadEnd
