import HeadEnd.Messages.Codec
import HeadEnd.Registration

/-! The handler of a RegisterRequest. It writes the device row, the bucket with the
owned set, and the registration one after the other, and can stop between them. -/
namespace HeadEnd
open Transition HeadEnd.Calendar HeadEnd.Messages

namespace Messages

def currentProtocolVersion : UInt8 := 1

/-- The last second of the last day that chrono has a date for. -/
def maxTimestamp : Int := (dayNumber ⟨262142, 12, 31⟩ + 1) * secsPerDay - 1

example : maxTimestamp = 8210266876799 := by decide

/-- The header counts milliseconds; a second out of chrono's range is an error. -/
def Message.getTimestamp (msg : Message) : Option Int :=
  let secs : Int := (msg.timestamp.toNat / 1000 : Nat)
  let nanos : Int := (msg.timestamp.toNat % 1000 * 1000000 : Nat)
  if secs ≤ maxTimestamp then some (secs * nanosPerSec + nanos) else none

def MessagePayload.imei : MessagePayload → Option String
  | .registryRequest req => some req.imei
  | _ => none

/-- Fails if the clock reads a time before the epoch. -/
def newRegisterResponseMessage (deviceId : BitVec 128) (seq : UInt32) (flag : UInt8)
    (nextWakeTime : UInt64) (sentAt : Int) : Except BackdoorError Message :=
  if sentAt < 0 then .error .systemTime
  else .ok
    { version := currentProtocolVersion
      msgType := .registerResponse
      deviceId, seq
      timestamp := UInt64.ofInt (HeadEnd.timestamp sentAt)
      payload := .registryResponse { flag, nextWakeTime }
      mac := 0 }

end Messages

/- The handler's return, with what it sends and the task it leaves behind. A panic
   ends the handler's task only. -/
inductive RegisterOutcome where
  | completed (response : Message) (timeout : Task)
  | failed (e : BackdoorError)
  | panicked
  deriving DecidableEq, Repr

structure Handled where
  db : InnerDB
  dm : DeviceManager
  outcome : RegisterOutcome

/-- `msg.seq + 1`: a debug build checks the addition, a release build wraps. -/
def nextSeq (overflowChecks : Bool) (seq : UInt32) : Option UInt32 :=
  if overflowChecks = true ∧ seq.toNat = 2^32 - 1 then none else some (seq + 1)

/-- The calls of the scheduler that come before its first write go through without a panic. The
in-memory engine allocates eight bytes for each bucket, at most `isize::MAX` in all. The clock
is not before the epoch, and what is added to it does not go beyond chrono's last second. -/
def Scheduler.runs (s : Scheduler) (now : Int) : Bool :=
  let ahead := if s.testMode then testModeWakeupSecs else secsPerDay
  8 * s.bucketNumber < 2 ^ 63 && 0 ≤ now && timestamp (now + ahead * nanosPerSec) ≤ maxTimestamp

/-- `id` is the fresh `Uuid::new_v4`, `now` the time the scheduler reads and `sentAt`
the time the response is built at. -/
def handleBackdoorRegisterMsg (overflowChecks : Bool) (db : InnerDB) (dm : DeviceManager)
    (now sentAt : Int) (id : Uuid) (ip : PrintedIp) (msg : Message) : Handled :=
  if msg.deviceId ≠ 0 then ⟨db, dm, .failed .registerRequestInvalidId⟩
  else
    let device := Device.new id ip msg.payload.imei
    let db := db.addDevice device
    if !dm.scheduler.runs now then ⟨db, dm, .panicked⟩
    else
      match dm.registerDevice db now device with
      | .error e =>
        ⟨db, dm, if e = .divideByZero then .panicked else .failed (.deviceManagerErr e)⟩
      | .ok (db, dm, nextWakeUp) =>
        match msg.getTimestamp with
        | none => ⟨db, dm, .failed .invalidTimeStamp⟩
        | some time =>
          let db := db.registerDevice device.id time
          match nextSeq overflowChecks msg.seq with
          | none => ⟨db, dm, .panicked⟩
          | some seq =>
            match newRegisterResponseMessage device.id seq 0
                (UInt64.ofInt (timestamp nextWakeUp)) sentAt with
            | .error e => ⟨db, dm, .failed e⟩
            | .ok response => ⟨db, dm, .completed response (.ackTimeout device.id)⟩

section Handler
variable {checks : Bool} {db : InnerDB} {dm : DeviceManager} {now sentAt : Int} {id : Uuid}
  {ip : PrintedIp} {msg : Message}

theorem eq_of_nextSeq {seq next : UInt32} (h : nextSeq checks seq = some next) :
    next = seq + 1 := by
  unfold nextSeq at h
  split at h
  · cases h
  · exact (Option.some.inj h).symm

theorem device_new_id (imei : Option String) : (Device.new id ip imei).id = id := by
  cases ip <;> rfl

/-- The six ways through the handler, for a request that has no device id yet. -/
inductive Ends (checks : Bool) (db : InnerDB) (dm : DeviceManager) (now sentAt : Int)
    (device : Device) (msg : Message) : Handled → Prop
  | panics : dm.scheduler.runs now = false →
      Ends checks db dm now sentAt device msg ⟨db.addDevice device, dm, .panicked⟩
  | noSlot {e : SchedulerError} {outcome : RegisterOutcome} :
      dm.registerDevice (db.addDevice device) now device = .error e →
      (∀ response timeout, outcome ≠ .completed response timeout) →
      Ends checks db dm now sentAt device msg ⟨db.addDevice device, dm, outcome⟩
  | noTime {db' : InnerDB} {dm' : DeviceManager} {nextWakeUp : Int} :
      dm.registerDevice (db.addDevice device) now device = .ok (db', dm', nextWakeUp) →
      msg.getTimestamp = none →
      Ends checks db dm now sentAt device msg ⟨db', dm', .failed .invalidTimeStamp⟩
  | overflow {db' : InnerDB} {dm' : DeviceManager} {nextWakeUp time : Int} :
      dm.registerDevice (db.addDevice device) now device = .ok (db', dm', nextWakeUp) →
      msg.getTimestamp = some time → nextSeq checks msg.seq = none →
      Ends checks db dm now sentAt device msg ⟨db'.registerDevice device.id time, dm', .panicked⟩
  | noClock {db' : InnerDB} {dm' : DeviceManager} {nextWakeUp time : Int} :
      dm.registerDevice (db.addDevice device) now device = .ok (db', dm', nextWakeUp) →
      msg.getTimestamp = some time → sentAt < 0 →
      Ends checks db dm now sentAt device msg
        ⟨db'.registerDevice device.id time, dm', .failed .systemTime⟩
  | done {db' : InnerDB} {dm' : DeviceManager} {nextWakeUp time : Int} {response : Message} :
      dm.scheduler.runs now = true →
      dm.registerDevice (db.addDevice device) now device = .ok (db', dm', nextWakeUp) →
      msg.getTimestamp = some time → nextSeq checks msg.seq = some (msg.seq + 1) → 0 ≤ sentAt →
      response.msgType = .registerResponse → response.deviceId = device.id →
      response.seq = msg.seq + 1 →
      Ends checks db dm now sentAt device msg
        ⟨db'.registerDevice device.id time, dm', .completed response (.ackTimeout device.id)⟩

theorem handle_ends (hid : msg.deviceId = 0) :
    Ends checks db dm now sentAt (Device.new id ip msg.payload.imei) msg
      (handleBackdoorRegisterMsg checks db dm now sentAt id ip msg) := by
  simp only [handleBackdoorRegisterMsg, if_neg (not_not.mpr hid)]
  generalize Device.new id ip msg.payload.imei = device
  cases hruns : dm.scheduler.runs now with
  | false => exact .panics hruns
  | true =>
    simp only [Bool.not_true, Bool.false_eq_true, if_false]
    cases hreg : dm.registerDevice (db.addDevice device) now device with
    | error e =>
      refine .noSlot hreg fun response timeout => ?_
      split <;> simp
    | ok r =>
      obtain ⟨db', dm', nextWakeUp⟩ := r
      cases htime : msg.getTimestamp with
      | none => exact .noTime hreg htime
      | some time =>
        cases hseq : nextSeq checks msg.seq with
        | none => exact .overflow hreg htime hseq
        | some seq =>
          obtain rfl := eq_of_nextSeq hseq
          by_cases hsent : sentAt < 0
          · simp only [newRegisterResponseMessage, if_pos hsent]
            exact .noClock hreg htime hsent
          · simp only [newRegisterResponseMessage, if_neg hsent]
            exact .done hruns hreg htime hseq (not_lt.mp hsent) rfl rfl rfl

/-- The node after the device manager's section of a new handler. -/
def afterSection (s : NodeState) (now : Int) (device : Device) (time : Option Int) : NodeState :=
  ((s.spawn (.registerAdd device time)).run (.registerAdd device time) now false).run
    (.registerSection device time) now false

theorem run_afterSection {s : NodeState} {device : Device} {time : Option Int} :
    Run NodeState.Step (s.spawn (.registerAdd device time))
      [.run (.registerAdd device time) now false, .run (.registerSection device time) now false]
      (afterSection s now device time) :=
  .cons (.run List.mem_cons_self) (.single (.run List.mem_cons_self))

/-- What the handler leaves is what the turns of its task leave, taken one after the
other. -/
theorem handle_run {s : NodeState} (hid : msg.deviceId = 0) (hfresh : s.db.Unused id) :
    ∃ es t, Run NodeState.Step s es t ∧
      t.db = (handleBackdoorRegisterMsg checks s.db s.dm now sentAt id ip msg).db ∧
      t.dm = (handleBackdoorRegisterMsg checks s.db s.dm now sentAt id ip msg).dm := by
  have hends : Ends checks s.db s.dm now sentAt (Device.new id ip msg.payload.imei) msg
      (handleBackdoorRegisterMsg checks s.db s.dm now sentAt id ip msg) := handle_ends hid
  generalize handleBackdoorRegisterMsg checks s.db s.dm now sentAt id ip msg = after at hends ⊢
  have hspawn : NodeState.Step s (.register id ip msg.payload.imei msg.getTimestamp)
      (s.spawn (.registerAdd (Device.new id ip msg.payload.imei) msg.getTimestamp)) :=
    .register hfresh
  generalize Device.new id ip msg.payload.imei = device at hends hspawn
  have hrun : Run NodeState.Step s _ (afterSection s now device msg.getTimestamp) :=
    .cons hspawn run_afterSection
  cases hends with
  | panics _ =>
    -- the section is never entered
    have hadd : NodeState.Step (s.spawn (.registerAdd device msg.getTimestamp))
        (.run (.registerAdd device msg.getTimestamp) now false) _ := .run List.mem_cons_self
    exact ⟨_, _, .cons hspawn (.single hadd), rfl, rfl⟩
  | noSlot hreg _ =>
    refine ⟨_, _, hrun, ?_⟩
    simp [afterSection, NodeState.run, NodeState.spawn, Task.turn, hreg]
  | noTime hreg htime =>
    refine ⟨_, _, hrun, ?_⟩
    simp [afterSection, NodeState.run, NodeState.spawn, Task.turn, hreg, htime]
  | @overflow db' dm' _ time hreg htime _ | @noClock db' dm' _ time hreg htime _
  | @done db' dm' _ time _ _ hreg htime _ _ _ _ _ =>
    -- one more turn writes the registration
    have hmem : Task.registerRow device.id time ∈
        (afterSection s now device msg.getTimestamp).tasks := by
      simp [afterSection, NodeState.run, NodeState.spawn, Task.turn, hreg, htime]
    have hrow : NodeState.Step (afterSection s now device msg.getTimestamp)
        (.run (.registerRow device.id time) now false) _ := .run hmem
    refine ⟨_, _, hrun.append (.single hrow), ?_⟩
    simp [afterSection, NodeState.run, NodeState.spawn, Task.turn, hreg, htime]

end Handler

/- The first request of a meter to a node with no devices and two buckets. -/
def meterRequest (seq : UInt32) (timestamp : UInt64) : Message where
  version := 1
  msgType := .registerRequest
  deviceId := 0
  seq := seq
  timestamp := timestamp
  payload := .registryRequest { imei := "490154203237518", ipv6 := "" }
  mac := 0

def freshManager : DeviceManager where
  localNodeId := 1
  ownedDevices := ∅
  scheduler := ⟨2, .empty, none, 1, false⟩

theorem unused_new (id : Uuid) : InnerDB.new.Unused id := by
  refine ⟨?_, ?_, ?_, ?_⟩ <;> exact Finmap.notMem_empty

end HeadEnd
