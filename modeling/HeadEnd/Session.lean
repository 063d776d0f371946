import HeadEnd.RegisterRequest

/-! The periodic session with a device: HANDSHAKE, READ_REQUEST, WRITE_REQUEST and ACK, each
but the last answered by the device, and up to five attempts at it. -/
namespace HeadEnd
open Transition HeadEnd.Buffer HeadEnd.Messages

namespace Messages

def MsgType.asStr : MsgType → String
  | .handshake => "handshake"
  | .handshakeResponse => "handshake_response"
  | .registerRequest => "register_request"
  | .registerResponse => "register_response"
  | .readRequest => "read_request"
  | .readResponse => "read_response"
  | .writeRequest => "write_request"
  | .writeResponse => "write_response"
  | .executeRequest => "execute_request"
  | .executeResponse => "execute_response"
  | .actionRequest => "action_request"
  | .actionResponse => "action_response"
  | .ack => "ack"
  | .nack => "nack"
  | .sessionStartRequest => "session_start_request"

def MessagePayload.isHandshakeResponse : MessagePayload → Bool
  | .handshakeResponse _ => true
  | _ => false

def MessagePayload.isReadResponse : MessagePayload → Bool
  | .readResponse _ => true
  | _ => false

def MessagePayload.isWriteResponse : MessagePayload → Bool
  | .writeResponse _ => true
  | _ => false

end Messages

inductive TaskError where
  | databaseError (e : DatabaseError)
  | deviceWithNoIP
  | ioError (text : String)
  | maxRetriesExceeded
  | messageError
  | msgCodecError (e : MsgCodecError)
  | unexpectedMsgType (expected got : String)
  deriving DecidableEq, Repr

def obisWaterVolume : String := "1.0.1"
def obisBattery : String := "C.6.1"
def obisClock : String := "0.9.4"
def obisNextWake : String := "0.0.1"

/-- Fails if the clock reads a time before the epoch. -/
def newMessage (msgType : MsgType) (payload : MessagePayload) (deviceId : Uuid) (seq : UInt32)
    (sentAt : Int) : Except TaskError Message :=
  if sentAt < 0 then .error .messageError
  else .ok
    { version := currentProtocolVersion
      msgType, deviceId, seq
      timestamp := UInt64.ofInt (timestamp sentAt)
      payload
      mac := 0 }

def newHandshakeMessage (deviceId : Uuid) (seq : UInt32) (nonce : Bytes) :
    Int → Except TaskError Message :=
  newMessage .handshake (.handshake { nonce }) deviceId seq

def newReadRequestMessage (deviceId : Uuid) (seq : UInt32) (obisCodes : List String) :
    Int → Except TaskError Message :=
  newMessage .readRequest (.readRequest { obisCodes }) deviceId seq

def newWriteRequestMessage (deviceId : Uuid) (seq : UInt32) (parameters : List WriteParameter) :
    Int → Except TaskError Message :=
  newMessage .writeRequest (.writeRequest { parameters }) deviceId seq

def newAckMessage (deviceId : Uuid) (seq : UInt32) : Int → Except TaskError Message :=
  newMessage .ack .ack deviceId seq

/- One message of a session: when it is built, what sending it gives, and what is received
   in answer. -/
structure Leg where
  sentAt : Int
  sending : Except TaskError Unit := .ok ()
  reply : Except TaskError Message

/-- All that a session meets: the socket, the readings of the clock and the device. -/
structure Exchange where
  opened : Except TaskError Unit := .ok ()
  checkedAt : Int
  handshake : Leg
  read : Leg
  wakeFrom : Int
  write : Leg
  closedAt : Int
  closing : Except TaskError Unit := .ok ()
  batteryAt : Int

def sendMsg (sending : Except TaskError Unit) (msg : Except TaskError Message) :
    Except TaskError Message := do
  let msg ← msg
  sending
  return msg

def expectReply (expected : MsgType) (accepts : MessagePayload → Bool)
    (reply : Except TaskError Message) : Except TaskError Unit :=
  match reply with
  | .error e => .error e
  | .ok msg =>
    if accepts msg.payload then .ok ()
    else .error (.unexpectedMsgType expected.asStr msg.msgType.asStr)

/-- Send a message, wait for the reply, and go on. -/
def exchangeLeg (sent : List Message) (build : Int → Except TaskError Message) (leg : Leg)
    (expected : MsgType) (accepts : MessagePayload → Bool)
    (next : List Message → List Message × Except TaskError Unit) :
    List Message × Except TaskError Unit :=
  match sendMsg leg.sending (build leg.sentAt) with
  | .error e => (sent, .error e)
  | .ok msg =>
    match expectReply expected accepts leg.reply with
    | .error e => (sent ++ [msg], .error e)
    | .ok () => next (sent ++ [msg])

def obisCodes (needsBattery : Bool) : List String :=
  [obisWaterVolume, obisClock] ++ if needsBattery then [obisBattery] else []

/-- A day from now. -/
def nextWakeTs (now : Int) : UInt64 := UInt64.ofInt (timestamp (now + secsPerDay * nanosPerSec))

def wakeParameters (now : Int) : List WriteParameter :=
  [{ code := obisNextWake, value := be 8 (nextWakeTs now).toNat }]

/-- The messages of a session, and how it ends. -/
def converse (deviceId : Uuid) (needsBattery : Bool) (x : Exchange) :
    List Message × Except TaskError Unit :=
  match x.opened with
  | .error e => ([], .error e)
  | .ok () =>
    exchangeLeg [] (newHandshakeMessage deviceId 0 (List.replicate 32 0)) x.handshake
      .handshakeResponse MessagePayload.isHandshakeResponse fun sent =>
    exchangeLeg sent (newReadRequestMessage deviceId 1 (obisCodes needsBattery)) x.read
      .readResponse MessagePayload.isReadResponse fun sent =>
    exchangeLeg sent (newWriteRequestMessage deviceId 2 (wakeParameters x.wakeFrom)) x.write
      .writeResponse MessagePayload.isWriteResponse fun sent =>
    match sendMsg x.closing (newAckMessage deviceId 3 x.closedAt) with
    | .error e => (sent, .error e)
    | .ok ack => (sent ++ [ack], .ok ())

structure SessionEnd where
  db : InnerDB
  sent : List Message
  result : Except TaskError Unit

/-- An error of `update_last_battery_read` is only logged. -/
def storeBatteryRead (db : InnerDB) (deviceId : Uuid) (now : Int) : InnerDB :=
  match db.updateLastBatteryRead deviceId now with
  | .error _ => db
  | .ok db' => db'

def runSession (db : InnerDB) (deviceId : Uuid) (x : Exchange) : SessionEnd :=
  let needsBattery := needsBattery db x.checkedAt deviceId
  match converse deviceId needsBattery x with
  | (sent, .error e) => ⟨db, sent, .error e⟩
  | (sent, .ok ()) =>
    ⟨if needsBattery then storeBatteryRead db deviceId x.batteryAt else db, sent, .ok ()⟩

/-- What a wake-up leaves. If an attempt succeeded, `session` is what it met and sent. -/
structure WakeUpEnd where
  db : InnerDB
  session : Option (Exchange × List Message) := none
  result : Except TaskError Unit

def attempts (db : InnerDB) (deviceId : Uuid) : List Exchange → WakeUpEnd
  | [] => { db, result := .error .maxRetriesExceeded }
  | x :: rest =>
    let session := runSession db deviceId x
    match session.result with
    | .ok () => { db := session.db, session := some (x, session.sent), result := .ok () }
    | .error _ => attempts session.db deviceId rest

def runWakeUp (db : InnerDB) (deviceId : Uuid) (exchange : Nat → Exchange) : WakeUpEnd :=
  match db.getDevice deviceId with
  | .error e => { db, result := .error (.databaseError e) }
  | .ok device =>
    match device.ipv4, device.ipv6 with
    | some _, none | none, some _ => attempts db deviceId ((List.range maxRetries).map exchange)
    | _, _ => { db, result := .error .deviceWithNoIP }

namespace Messages

/-- The wake-up time that a WRITE_REQUEST tells. -/
def Message.writtenWakeTime (msg : Message) : Option UInt64 :=
  match msg.payload with
  | .writeRequest m =>
    (m.parameters.find? (·.code = obisNextWake)).map fun p => UInt64.ofNat (beVal p.value)
  | _ => none

/-- A READ_REQUEST that asks for the battery. -/
def Message.asksBattery (msg : Message) : Bool :=
  match msg.payload with
  | .readRequest m => m.obisCodes.contains obisBattery
  | _ => false

end Messages

section Conversation
variable {db : InnerDB} {deviceId : Uuid} {x : Exchange} {sent : List Message}

theorem of_sendMsg_eq_ok {sending : Except TaskError Unit} {build : Except TaskError Message}
    {msg : Message} (h : sendMsg sending build = .ok msg) : build = .ok msg := by
  cases build with
  | error e => cases h
  | ok built =>
    cases sending with
    | error e => cases h
    | ok _ => exact h

theorem exchangeLeg_eq_ok {build : Int → Except TaskError Message} {leg : Leg}
    {expected : MsgType} {accepts : MessagePayload → Bool}
    {next : List Message → List Message × Except TaskError Unit}
    (h : (exchangeLeg sent build leg expected accepts next).2 = .ok ()) :
    ∃ msg, build leg.sentAt = .ok msg ∧ (next (sent ++ [msg])).2 = .ok () ∧
      exchangeLeg sent build leg expected accepts next = next (sent ++ [msg]) := by
  unfold exchangeLeg at h ⊢
  cases hsent : sendMsg leg.sending (build leg.sentAt) with
  | error e =>
    rw [hsent] at h
    cases h
  | ok msg =>
    cases hreply : expectReply expected accepts leg.reply with
    | error e =>
      simp only [hsent, hreply] at h
      cases h
    | ok _ =>
      simp only [hsent, hreply] at h ⊢
      exact ⟨msg, of_sendMsg_eq_ok hsent, h, rfl⟩

theorem payload_of_newMessage {msgType : MsgType} {payload : MessagePayload} {seq : UInt32}
    {sentAt : Int} {msg : Message} (h : newMessage msgType payload deviceId seq sentAt = .ok msg) :
    msg.payload = payload := by
  unfold newMessage at h
  split at h
  next => cases h
  next => rw [← Except.ok.inj h]

/-- A session that goes through sends four messages. -/
theorem converse_eq_ok (deviceId : Uuid) (needsBattery : Bool) (x : Exchange)
    (h : (converse deviceId needsBattery x).2 = .ok ()) :
    ∃ handshake read write ack, (converse deviceId needsBattery x).1 =
        [handshake, read, write, ack] ∧
      handshake.payload = .handshake { nonce := List.replicate 32 0 } ∧
      read.payload = .readRequest { obisCodes := obisCodes needsBattery } ∧
      write.payload = .writeRequest { parameters := wakeParameters x.wakeFrom } ∧
      ack.payload = .ack := by
  unfold converse at h ⊢
  cases hopened : x.opened with
  | error e =>
    rw [hopened] at h
    cases h
  | ok _ =>
    simp only [hopened] at h ⊢
    obtain ⟨handshake, hhandshake, h, heq⟩ := exchangeLeg_eq_ok h
    rw [heq]
    obtain ⟨read, hread, h, heq⟩ := exchangeLeg_eq_ok h
    rw [heq]
    obtain ⟨write, hwrite, h, heq⟩ := exchangeLeg_eq_ok h
    rw [heq]
    cases hclosing : sendMsg x.closing (newAckMessage deviceId 3 x.closedAt) with
    | error e =>
      rw [hclosing] at h
      cases h
    | ok ack =>
      exact ⟨handshake, read, write, ack, rfl, payload_of_newMessage hhandshake,
        payload_of_newMessage hread, payload_of_newMessage hwrite,
        payload_of_newMessage (of_sendMsg_eq_ok hclosing)⟩

/-- What a session that goes through tells the device, what it asks for, and what it stores. -/
theorem runSession_eq_ok (h : (runSession db deviceId x).result = .ok ()) :
    (runSession db deviceId x).sent.findSome? Message.writtenWakeTime =
        some (nextWakeTs x.wakeFrom) ∧
      (runSession db deviceId x).sent.any Message.asksBattery =
        HeadEnd.needsBattery db x.checkedAt deviceId ∧
      (runSession db deviceId x).db =
        if HeadEnd.needsBattery db x.checkedAt deviceId then
          storeBatteryRead db deviceId x.batteryAt
        else db := by
  unfold runSession at h ⊢
  dsimp only at h ⊢
  generalize HeadEnd.needsBattery db x.checkedAt deviceId = needs at h ⊢
  have hsent := converse_eq_ok deviceId needs x
  generalize converse deviceId needs x = talk at h hsent ⊢
  obtain ⟨sent, result⟩ := talk
  cases result with
  | error e => cases h
  | ok _ =>
    obtain ⟨handshake, read, write, ack, rfl, hhandshake, hread, hwrite, hack⟩ := hsent rfl
    refine ⟨?_, ?_, rfl⟩
    · have hvalue : beVal (be 8 (nextWakeTs x.wakeFrom).toNat) = (nextWakeTs x.wakeFrom).toNat :=
        beVal_be (UInt64.toNat_lt _)
      simp [Message.writtenWakeTime, hhandshake, hread, hwrite, wakeParameters, hvalue]
    · cases needs with
      | true => simp [Message.asksBattery, hhandshake, hread, hwrite, hack, obisCodes]
      | false =>
        simp [Message.asksBattery, hhandshake, hread, hwrite, hack, obisCodes, obisBattery,
          obisClock, obisWaterVolume]

theorem runSession_eq_error {e : TaskError} (h : (runSession db deviceId x).result = .error e) :
    (runSession db deviceId x).db = db := by
  unfold runSession at h ⊢
  dsimp only at h ⊢
  generalize converse deviceId _ x = talk at h ⊢
  obtain ⟨sent, result⟩ := talk
  cases result with
  | error e => rfl
  | ok _ => cases h

theorem attempts_of_ok {rest : List Exchange} (h : (runSession db deviceId x).result = .ok ()) :
    attempts db deviceId (x :: rest) =
      { db := (runSession db deviceId x).db
        session := some (x, (runSession db deviceId x).sent)
        result := .ok () } := by
  simp only [attempts, h]

theorem attempts_of_error {rest : List Exchange} {e : TaskError}
    (h : (runSession db deviceId x).result = .error e) :
    attempts db deviceId (x :: rest) = attempts (runSession db deviceId x).db deviceId rest := by
  simp only [attempts, h]

/-- Of the attempts the first that goes through counts; those before it leave no trace in
the database. -/
theorem attempts_eq_ok {xs : List Exchange} (h : (attempts db deviceId xs).result = .ok ()) :
    ∃ x ∈ xs, (runSession db deviceId x).result = .ok () ∧
      (attempts db deviceId xs).session = some (x, (runSession db deviceId x).sent) ∧
      (attempts db deviceId xs).db = (runSession db deviceId x).db := by
  induction xs with
  | nil => cases h
  | cons x rest ih =>
    cases hresult : (runSession db deviceId x).result with
    | ok _ =>
      rw [attempts_of_ok hresult]
      exact ⟨x, List.mem_cons_self, hresult, rfl, rfl⟩
    | error e =>
      rw [attempts_of_error hresult, runSession_eq_error hresult] at h ⊢
      obtain ⟨y, hy, hrest⟩ := ih h
      exact ⟨y, List.mem_cons_of_mem x hy, hrest⟩

theorem runWakeUp_eq_ok {exchange : Nat → Exchange}
    (h : (runWakeUp db deviceId exchange).result = .ok ()) :
    ∃ k < maxRetries, (runSession db deviceId (exchange k)).result = .ok () ∧
      (runWakeUp db deviceId exchange).session =
        some (exchange k, (runSession db deviceId (exchange k)).sent) ∧
      (runWakeUp db deviceId exchange).db = (runSession db deviceId (exchange k)).db := by
  have hattempts : runWakeUp db deviceId exchange =
      attempts db deviceId ((List.range maxRetries).map exchange) := by
    unfold runWakeUp at h ⊢
    cases hdevice : db.getDevice deviceId with
    | error e =>
      rw [hdevice] at h
      cases h
    | ok device =>
      simp only [hdevice] at h ⊢
      split
      next => rfl
      next => rfl
      next hv4 hv6 =>
        split at h
        next hsome hnone => exact absurd hnone (hv4 _ hsome)
        next hnone hsome => exact absurd hsome (hv6 _ hnone)
        next => cases h
  rw [hattempts] at h ⊢
  obtain ⟨x, hx, hrest⟩ := attempts_eq_ok h
  obtain ⟨k, hk, rfl⟩ := List.mem_map.mp hx
  exact ⟨k, List.mem_range.mp hk, hrest⟩

end Conversation

section Turns
variable {s : NodeState} {d : Uuid}

theorem run_session (attempt : Nat) (now : Int) (answered : Bool) :
    s.run (.session d attempt) now answered =
      ⟨s.db, s.dm, .talking d attempt (needsBattery s.db now d) ::
        s.tasks.erase (.session d attempt)⟩ := rfl

theorem run_talking (attempt : Nat) (needs : Bool) (now : Int) (answered : Bool) :
    s.run (.talking d attempt needs) now answered =
      ⟨s.db, s.dm,
        (if answered then if needs then .battery d else .reschedule d
          else if attempt < maxRetries then .session d (attempt + 1) else .lostRead d) ::
        s.tasks.erase (.talking d attempt needs)⟩ := by
  unfold NodeState.run
  cases answered with
  | true => rfl
  | false =>
    by_cases hmore : attempt < maxRetries
    · simp [Task.turn, hmore]
    · simp [Task.turn, hmore]

theorem run_battery (now : Int) (answered : Bool) :
    s.run (.battery d) now answered =
      ⟨storeBatteryRead s.db d now, s.dm, .reschedule d :: s.tasks.erase (.battery d)⟩ := by
  unfold NodeState.run storeBatteryRead
  simp only [Task.turn]
  cases s.db.updateLastBatteryRead d now with
  | error e => rfl
  | ok db' => rfl

/-- The task that follows a session, or a whole wake-up. -/
def followUp (d : Uuid) (failed : Task) : Except TaskError Unit → Task
  | .ok _ => .reschedule d
  | .error _ => failed

/-- What a session leaves is what the turns of its task leave, taken one after the other. -/
theorem runSession_run {attempt : Nat} (htask : Task.session d attempt ∈ s.tasks) (x : Exchange) :
    ∃ es t, Run NodeState.Step s es t ∧ t.db = (runSession s.db d x).db ∧ t.dm = s.dm ∧
      followUp d (if attempt < maxRetries then .session d (attempt + 1) else .lostRead d)
        (runSession s.db d x).result ∈ t.tasks := by
  have hcheck : NodeState.Step s (.run (.session d attempt) x.checkedAt false) _ := .run htask
  have htalk : ∀ answered, NodeState.Step (s.run (.session d attempt) x.checkedAt false)
      (.run (.talking d attempt (needsBattery s.db x.checkedAt d)) 0 answered) _ :=
    fun answered => .run List.mem_cons_self
  cases hresult : (runSession s.db d x).result with
  | error e =>
    have hfailed := htalk false
    rw [run_talking, if_neg Bool.false_ne_true] at hfailed
    exact ⟨_, _, .cons hcheck (.single hfailed), (runSession_eq_error hresult).symm, rfl,
      List.mem_cons_self⟩
  | ok _ =>
    obtain ⟨-, -, hdb⟩ := runSession_eq_ok hresult
    have hdone := htalk true
    rw [run_talking, if_pos rfl] at hdone
    generalize needsBattery s.db x.checkedAt d = needs at hdb hdone
    cases needs with
    | false => exact ⟨_, _, .cons hcheck (.single hdone), hdb.symm, rfl, List.mem_cons_self⟩
    | true =>
      rw [if_pos rfl] at hdb hdone
      have hbattery : ∀ tasks, NodeState.Step ⟨s.db, s.dm, .battery d :: tasks⟩
          (.run (.battery d) x.batteryAt false) _ := fun _ => .run List.mem_cons_self
      simp only [run_battery] at hbattery
      exact ⟨_, _, .cons hcheck (.cons hdone (.single (hbattery _))), hdb.symm, rfl,
        List.mem_cons_self⟩

theorem attempts_run {x : Exchange} {rest : List Exchange} {attempt : Nat}
    (hcount : attempt + rest.length = maxRetries) (htask : Task.session d attempt ∈ s.tasks) :
    ∃ es t, Run NodeState.Step s es t ∧ t.db = (attempts s.db d (x :: rest)).db ∧ t.dm = s.dm ∧
      followUp d (.lostRead d) (attempts s.db d (x :: rest)).result ∈ t.tasks := by
  induction rest generalizing s x attempt with
  | nil =>
    obtain ⟨es, t, hrun, hdb, hdm, hnext⟩ := runSession_run htask x
    rw [if_neg (by simpa using hcount.ge)] at hnext
    cases hresult : (runSession s.db d x).result with
    | ok _ =>
      rw [hresult] at hnext
      rw [attempts_of_ok hresult]
      exact ⟨es, t, hrun, hdb, hdm, hnext⟩
    | error e =>
      rw [hresult] at hnext
      rw [attempts_of_error hresult]
      exact ⟨es, t, hrun, hdb, hdm, hnext⟩
  | cons y rest ih =>
    obtain ⟨es, t, hrun, hdb, hdm, hnext⟩ := runSession_run htask x
    rw [List.length_cons] at hcount
    rw [if_pos (by omega)] at hnext
    cases hresult : (runSession s.db d x).result with
    | ok _ =>
      rw [hresult] at hnext
      rw [attempts_of_ok hresult]
      exact ⟨es, t, hrun, hdb, hdm, hnext⟩
    | error e =>
      rw [hresult] at hnext
      rw [attempts_of_error hresult, ← hdb, ← hdm]
      obtain ⟨es', u, hrun', hrest⟩ := ih (x := y) (by omega) hnext
      exact ⟨es ++ es', u, hrun.append hrun', hrest⟩

/-- A wake-up that succeeds leaves the device to the listener of the reschedule channel, and
any other marks the connection as lost. -/
theorem runWakeUp_run (htask : Task.wakeUp d ∈ s.tasks) (exchange : Nat → Exchange) :
    ∃ es t, Run NodeState.Step s es t ∧ t.db = (runWakeUp s.db d exchange).db ∧ t.dm = s.dm ∧
      followUp d (.lostRead d) (runWakeUp s.db d exchange).result ∈ t.tasks := by
  have hwake : NodeState.Step s (.run (.wakeUp d) 0 false) _ := .run htask
  have hfirst : ∀ tasks, ∃ es t,
      Run NodeState.Step ⟨s.db, s.dm, .session d 1 :: tasks⟩ es t ∧
      t.db = (attempts s.db d ((List.range maxRetries).map exchange)).db ∧ t.dm = s.dm ∧
      followUp d (.lostRead d)
        (attempts s.db d ((List.range maxRetries).map exchange)).result ∈ t.tasks :=
    fun tasks => attempts_run (s := ⟨s.db, s.dm, .session d 1 :: tasks⟩) rfl List.mem_cons_self
  unfold NodeState.run at hwake
  unfold runWakeUp
  cases hdevice : s.db.getDevice d with
  | error e =>
    simp only [Task.turn, hdevice] at hwake
    exact ⟨_, _, .single hwake, rfl, rfl, List.mem_cons_self⟩
  | ok device =>
    simp only [Task.turn, hdevice] at hwake ⊢
    generalize device.ipv4 = ipv4 at hwake ⊢
    generalize device.ipv6 = ipv6 at hwake ⊢
    cases ipv4 with
    | none =>
      cases ipv6 with
      | none => exact ⟨_, _, .single hwake, rfl, rfl, List.mem_cons_self⟩
      | some ip =>
        obtain ⟨es, t, hrun, hrest⟩ := hfirst _
        exact ⟨_, t, .cons hwake hrun, hrest⟩
    | some ip =>
      cases ipv6 with
      | none =>
        obtain ⟨es, t, hrun, hrest⟩ := hfirst _
        exact ⟨_, t, .cons hwake hrun, hrest⟩
      | some ip' => exact ⟨_, _, .single hwake, rfl, rfl, List.mem_cons_self⟩

end Turns

/- A session at which everything goes well, and the clock stands at `now`. -/
def smoothLeg (now : Int) (msgType : MsgType) (payload : MessagePayload) : Leg where
  sentAt := now
  reply := .ok
    { version := currentProtocolVersion, msgType, deviceId := 9, seq := 0, timestamp := 0
      payload, mac := 0 }

def smoothExchange (now : Int) : Exchange where
  checkedAt := now
  handshake := smoothLeg now .handshakeResponse (.handshakeResponse { status := 0 })
  read := smoothLeg now .readResponse (.readResponse { values := [] })
  wakeFrom := now
  write := smoothLeg now .writeResponse (.writeResponse { success := true, writtenCodes := [] })
  closedAt := now
  batteryAt := now

/- One meter, registered, in the first bucket of node 1. -/
def oneMeter : InnerDB :=
  (InnerDB.new.addDevice (Device.new 9 NodeState.meterIp none)).addDeviceToBucket 9 0 1

end HeadEnd
