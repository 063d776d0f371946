import HeadEnd.DeviceManager
import HeadEnd.Lib.Transition

/-! The tasks of one node. Every message of a device and every job that fires
starts a task of its own; a task makes one database call, or holds the device
manager's write lock once, and then another task may get its turn. -/
namespace HeadEnd

/-- The address a message came from, as printed. -/
inductive PrintedIp where
  | v4 (text : String)
  | v6 (text : String)
  deriving DecidableEq, Repr

def PrintedIp.text : PrintedIp → String
  | .v4 text => text
  | .v6 text => text

def Device.setIp (device : Device) : PrintedIp → Device
  | .v4 text => { device with ipv4 := some text, ipv6 := none }
  | .v6 text => { device with ipv4 := none, ipv6 := some text }

def Device.new (id : Uuid) (ip : PrintedIp) (imei : Option String) : Device :=
  { id, ipv4 := none, ipv6 := none, imei : Device }.setIp ip

inductive BackdoorError where
  | deviceManagerErr (e : SchedulerError)
  | databaseError (e : DatabaseError)
  | invalidIp
  | invalidTimeStamp
  | registerRequestInvalidId
  | systemTime
  deriving DecidableEq, Repr

/- What is left of a task, named after the call that it makes next. The time of
   a message is missing if it is out of range. -/
inductive Task where
  | registerAdd (device : Device) (time : Option Int)
  | registerSection (device : Device) (time : Option Int)
  | registerRow (deviceId : Uuid) (time : Int)
  | ackTimeout (deviceId : Uuid)
  | ackDevice (deviceId : Uuid) (ip : PrintedIp) (time : Option Int)
  | ackStatus (deviceId : Uuid) (time : Option Int)
  | ackUpdate (deviceId : Uuid) (time : Int)
  | ackSchedule (deviceId : Uuid)
  | ipDevice (deviceId : Uuid) (ip : PrintedIp)
  | ipModify (deviceId : Uuid) (device : Device)
  | ipRead (deviceId : Uuid)
  | ipSchedule (deviceId : Uuid)
  | ipReread (deviceId : Uuid)
  | wakeUp (deviceId : Uuid)
  | session (deviceId : Uuid) (attempt : Nat)
  | talking (deviceId : Uuid) (attempt : Nat) (needsBattery : Bool)
  | battery (deviceId : Uuid)
  | lostRead (deviceId : Uuid)
  | lostWrite (connection : ScheduledConnection)
  | reschedule (deviceId : Uuid)
  deriving DecidableEq, Repr

/-- What one turn of a task leaves: its next calls, or what its handler returns. -/
structure Turn where
  db : InnerDB
  dm : DeviceManager
  next : List Task := []
  answer : Option (Except BackdoorError Unit) := none

def maxRetries : Nat := 5
def batteryReadIntervalDays : Int := 7

def needsBattery (db : InnerDB) (now : Int) (deviceId : Uuid) : Bool :=
  match db.getScheduledConnection deviceId with
  | .error _ => true
  | .ok row =>
    match row.lastBatteryRead with
    | none => true
    | some last => batteryReadIntervalDays ≤ (now - last).tdiv (secsPerDay * nanosPerSec)

namespace Task

def scheduleSection (db : InnerDB) (dm : DeviceManager) (now : Int) (deviceId : Uuid)
    (next : List Task) (answer : Option (Except BackdoorError Unit)) : Turn :=
  match dm.scheduleNextWakeup db now deviceId with
  | .error e => { db, dm, answer := some (.error (.deviceManagerErr e)) }
  | .ok (db', dm') => { db := db', dm := dm', next, answer }

/-- `answered`: whether the device took part in the session, if this is one. -/
def turn (db : InnerDB) (dm : DeviceManager) (now : Int) (answered : Bool) : Task → Turn
  | registerAdd device time =>
    { db := db.addDevice device, dm, next := [registerSection device time] }
  | registerSection device time =>
    match dm.registerDevice db now device with
    | .error e => { db, dm, answer := some (.error (.deviceManagerErr e)) }
    | .ok (db', dm', _) =>
      match time with
      | none => { db := db', dm := dm', answer := some (.error .invalidTimeStamp) }
      | some t => { db := db', dm := dm', next := [registerRow device.id t] }
  | registerRow deviceId time =>
    { db := db.registerDevice deviceId time, dm, next := [ackTimeout deviceId],
      answer := some (.ok ()) }
  | ackTimeout deviceId =>
    match db.registrationTimeout deviceId now with
    | .error _ => { db, dm }
    | .ok (db', _) => { db := db', dm }
  | ackDevice deviceId ip time =>
    match db.getDevice deviceId with
    | .error e => { db, dm, answer := some (.error (.databaseError e)) }
    | .ok device =>
      if some ip.text ≠ device.ipv4 then { db, dm, answer := some (.error .invalidIp) }
      else { db, dm, next := [ackStatus device.id time] }
  | ackStatus deviceId time =>
    match db.getDeviceRegistration deviceId with
    | .error e => { db, dm, answer := some (.error (.databaseError e)) }
    | .ok row =>
      match row.status, time with
      | .ackTimeout, _ | .registered, _ => { db, dm, answer := some (.ok ()) }
      | .pendingAck, none => { db, dm, answer := some (.error .invalidTimeStamp) }
      | .pendingAck, some t => { db, dm, next := [ackUpdate deviceId t] }
  | ackUpdate deviceId time =>
    match db.updateDeviceRegistration deviceId (some .registered) (some time) with
    | .error e => { db, dm, answer := some (.error (.databaseError e)) }
    | .ok db' => { db := db', dm, next := [ackSchedule deviceId] }
  | ackSchedule deviceId => scheduleSection db dm now deviceId [] (some (.ok ()))
  | ipDevice deviceId ip =>
    match db.getDevice deviceId with
    | .error e => { db, dm, answer := some (.error (.databaseError e)) }
    | .ok device => { db, dm, next := [ipModify deviceId (device.setIp ip)] }
  | ipModify deviceId device =>
    match db.modifyDevice device with
    | .error e => { db, dm, answer := some (.error (.databaseError e)) }
    | .ok db' => { db := db', dm, next := [ipRead deviceId] }
  | ipRead deviceId =>
    match db.getScheduledConnection deviceId with
    | .ok _ => { db, dm, answer := some (.ok ()) }
    | .error _ => { db, dm, next := [ipSchedule deviceId] }
  | ipSchedule deviceId => scheduleSection db dm now deviceId [ipReread deviceId] none
  | ipReread deviceId =>
    match db.getScheduledConnection deviceId with
    | .ok _ => { db, dm, answer := some (.ok ()) }
    | .error e => { db, dm, answer := some (.error (.databaseError e)) }
  | wakeUp deviceId =>
    match db.getDevice deviceId with
    | .error _ => { db, dm, next := [lostRead deviceId] }
    | .ok device =>
      match device.ipv4, device.ipv6 with
      | some _, none | none, some _ => { db, dm, next := [session deviceId 1] }
      | _, _ => { db, dm, next := [lostRead deviceId] }
  | session deviceId attempt =>
    { db, dm, next := [talking deviceId attempt (needsBattery db now deviceId)] }
  | talking deviceId attempt needsBattery =>
    if answered then
      { db, dm, next := [if needsBattery then battery deviceId else reschedule deviceId] }
    else if attempt < maxRetries then { db, dm, next := [session deviceId (attempt + 1)] }
    else { db, dm, next := [lostRead deviceId] }
  | battery deviceId =>
    match db.updateLastBatteryRead deviceId now with
    | .error _ => { db, dm, next := [reschedule deviceId] }
    | .ok db' => { db := db', dm, next := [reschedule deviceId] }
  | lostRead deviceId =>
    match db.getScheduledConnection deviceId with
    | .error _ => { db, dm }
    | .ok row =>
      { db, dm, next :=
          [lostWrite { row with status := .lost, renewable := false, jobId := none }] }
  | lostWrite connection => { db := db.updateScheduledConnection connection, dm }
  -- the listener of the reschedule channel; it only logs an error
  | reschedule deviceId => { scheduleSection db dm now deviceId [] none with answer := none }

/-- The device that the task is about to schedule. -/
def schedules : Task → Option Uuid
  | ackSchedule d | ipSchedule d | reschedule d => some d
  | _ => none

/-- All that a turn can do to the database and to the device manager. -/
inductive Write (now : Int) (db : InnerDB) (dm : DeviceManager) :
    Task → InnerDB → DeviceManager → Prop
  | nothing {task : Task} : Write now db dm task db dm
  | device {task : Task} (device : Device) : Write now db dm task (db.addDevice device) dm
  | register {device : Device} {time : Option Int} {db' : InnerDB} {dm' : DeviceManager}
      {nextWake : Int} : dm.registerDevice db now device = .ok (db', dm', nextWake) →
      Write now db dm (registerSection device time) db' dm'
  | pending {d : Uuid} {time : Int} :
      Write now db dm (registerRow d time) (db.registerDevice d time) dm
  | settled {task : Task} (d : Uuid) {row : Registration} : row.status ≠ .pendingAck →
      Write now db dm task
        { db with deviceRegistration := db.deviceRegistration.insert d row } dm
  | schedule {task : Task} {d : Uuid} {db' : InnerDB} {dm' : DeviceManager} :
      task.schedules = some d → dm.scheduleNextWakeup db now d = .ok (db', dm') →
      Write now db dm task db' dm'
  | battery {d : Uuid} {row : ScheduledConnection} : db.scheduledConnections.lookup d = some row →
      Write now db dm (battery d)
        (db.updateScheduledConnection { row with lastBatteryRead := some now }) dm
  | lost {row : ScheduledConnection} :
      Write now db dm (lostWrite row) (db.updateScheduledConnection row) dm

/-- Which task a turn leaves behind. -/
inductive Leads (db : InnerDB) : Task → Task → Prop
  | registerSection {device : Device} {time : Option Int} :
      Leads db (registerAdd device time) (registerSection device time)
  | registerRow {device : Device} {time : Int} :
      Leads db (registerSection device (some time)) (registerRow device.id time)
  | ackTimeout {d : Uuid} {time : Int} : Leads db (registerRow d time) (ackTimeout d)
  | ackStatus {d : Uuid} {ip : PrintedIp} {time : Option Int} :
      Leads db (ackDevice d ip time) (ackStatus d time)
  | ackUpdate {d : Uuid} {time : Int} {row : Registration} :
      db.deviceRegistration.lookup d = some row → row.status = .pendingAck →
      Leads db (ackStatus d (some time)) (ackUpdate d time)
  | ackSchedule {d : Uuid} {time : Int} : Leads db (ackUpdate d time) (ackSchedule d)
  | ipModify {d : Uuid} {ip : PrintedIp} {device : Device} :
      Leads db (ipDevice d ip) (ipModify d device)
  | ipRead {d : Uuid} {device : Device} : Leads db (ipModify d device) (ipRead d)
  | ipSchedule {d : Uuid} : d ∉ db.scheduledConnections → Leads db (ipRead d) (ipSchedule d)
  | ipReread {d : Uuid} : Leads db (ipSchedule d) (ipReread d)
  | session {d : Uuid} : Leads db (wakeUp d) (session d 1)
  | unreachable {d : Uuid} : Leads db (wakeUp d) (lostRead d)
  | talking {d : Uuid} {attempt : Nat} {needsBattery : Bool} :
      Leads db (session d attempt) (talking d attempt needsBattery)
  | retry {d : Uuid} {attempt : Nat} {needsBattery : Bool} :
      Leads db (talking d attempt needsBattery) (session d (attempt + 1))
  | lostRead {d : Uuid} {attempt : Nat} {needsBattery : Bool} :
      Leads db (talking d attempt needsBattery) (lostRead d)
  | battery {d : Uuid} {attempt : Nat} : Leads db (talking d attempt true) (battery d)
  | success {d : Uuid} {attempt : Nat} : Leads db (talking d attempt false) (reschedule d)
  | reschedule {d : Uuid} : Leads db (battery d) (reschedule d)
  | lostWrite {d : Uuid} {row : ScheduledConnection} : row.fkDevice = d →
      Leads db (lostRead d) (lostWrite row)

section Turn
variable {db : InnerDB} {dm : DeviceManager} {now : Int} {answered : Bool} {d : Uuid}

theorem scheduleSection_write {task : Task} {next : List Task}
    {answer : Option (Except BackdoorError Unit)} (h : task.schedules = some d) :
    Write now db dm task (scheduleSection db dm now d next answer).db
      (scheduleSection db dm now d next answer).dm := by
  unfold scheduleSection
  cases hnext : dm.scheduleNextWakeup db now d with
  | error e => exact .nothing
  | ok r => exact .schedule h hnext

/-- The section writes a scheduled connection and nothing else. -/
theorem scheduleSection_db (next : List Task) (answer : Option (Except BackdoorError Unit)) :
    (scheduleSection db dm now d next answer).db = db ∨
      ∃ t job, (scheduleSection db dm now d next answer).db = db.scheduleConnection d t job := by
  unfold scheduleSection
  cases hnext : dm.scheduleNextWakeup db now d with
  | error e => exact .inl rfl
  | ok r =>
    obtain ⟨-, t, -, -, hdb, -⟩ := DeviceManager.scheduleNextWakeup_eq_ok hnext
    exact .inr ⟨t, _, hdb⟩

theorem turn_write (task : Task) : Write now db dm task (task.turn db dm now answered).db
    (task.turn db dm now answered).dm := by
  cases task with
  | registerAdd device time => exact .device device
  | registerSection device time =>
    simp only [turn]
    cases h : dm.registerDevice db now device with
    | error e => exact .nothing
    | ok r =>
      cases time with
      | none => exact .register h
      | some time => exact .register h
  | registerRow deviceId time => exact .pending
  | ackTimeout deviceId =>
    simp only [turn, InnerDB.registrationTimeout]
    cases db.deviceRegistration.lookup deviceId with
    | none => exact .nothing
    | some row =>
      by_cases h : row.status = .pendingAck
      · simp only [if_pos h]
        exact .settled deviceId (by simp)
      · simp only [if_neg h]
        exact .nothing
  | ackUpdate deviceId time =>
    simp only [turn, InnerDB.updateDeviceRegistration]
    cases db.deviceRegistration.lookup deviceId with
    | none => exact .nothing
    | some row => exact .settled deviceId (by simp)
  | ackSchedule deviceId => exact scheduleSection_write rfl
  | ipModify deviceId device =>
    simp only [turn, InnerDB.modifyDevice]
    cases db.devices.lookup device.id with
    | none => exact .nothing
    | some _ => exact .device device
  | ipSchedule deviceId => exact scheduleSection_write rfl
  | battery deviceId =>
    simp only [turn, InnerDB.updateLastBatteryRead]
    cases h : db.scheduledConnections.lookup deviceId with
    | none => exact .nothing
    | some row => exact .battery h
  | lostWrite connection => exact .lost
  | reschedule deviceId => exact scheduleSection_write rfl
  | session deviceId attempt => exact .nothing
  -- the others only read
  | ackDevice deviceId ip time | ackStatus deviceId time | ipDevice deviceId ip
  | ipRead deviceId | ipReread deviceId | wakeUp deviceId | lostRead deviceId
  | talking deviceId attempt needsBattery =>
    simp only [turn]
    repeat' split
    all_goals exact .nothing

theorem Write.jobs {task : Task} {db' : InnerDB} {dm' : DeviceManager}
    (h : Write now db dm task db' dm') : dm'.jobs = dm.jobs ∨
      ∃ d t, task.schedules = some d ∧ dm'.jobs = dm.jobs.submit now ⟨d, wholeSecond t⟩ := by
  cases h with
  | register h =>
    obtain ⟨-, rfl, -⟩ := DeviceManager.registerDevice_eq_ok h
    exact .inl rfl
  | schedule hd h =>
    obtain ⟨-, t, -, -, -, rfl⟩ := DeviceManager.scheduleNextWakeup_eq_ok h
    exact .inr ⟨_, t, hd, rfl⟩
  | _ => exact .inl rfl

/-- A turn leaves a device without a job unless it schedules that device. -/
theorem Write.idle {task : Task} {db' : InnerDB} {dm' : DeviceManager}
    (hw : Write now db dm task db' dm') (h : dm.jobs.Idle d) (hd : task.schedules ≠ some d) :
    dm'.jobs.Idle d := by
  cases hw.jobs with
  | inl hsame =>
    rw [hsame]
    exact h
  | inr hadd =>
    obtain ⟨e, t, he, hjobs⟩ := hadd
    rw [hjobs]
    exact h.submit fun heq => hd (heq ▸ he)

theorem mem_scheduleSection_next {next : List Task} {answer : Option (Except BackdoorError Unit)}
    {t : Task} (h : t ∈ (scheduleSection db dm now d next answer).next) : t ∈ next := by
  unfold scheduleSection at h
  cases hnext : dm.scheduleNextWakeup db now d with
  | error e =>
    rw [hnext] at h
    cases h
  | ok r =>
    rw [hnext] at h
    exact h

theorem turn_next {task t : Task} (h : t ∈ (task.turn db dm now answered).next) :
    Leads db task t := by
  cases task with
  | registerAdd device time =>
    rw [List.mem_singleton.mp h]
    exact .registerSection
  | registerSection device time =>
    simp only [turn] at h
    cases hr : dm.registerDevice db now device with
    | error e => simp [hr] at h
    | ok r =>
      cases time with
      | none => simp [hr] at h
      | some time =>
        simp only [hr, List.mem_singleton] at h
        exact h ▸ .registerRow
  | registerRow deviceId time =>
    rw [List.mem_singleton.mp h]
    exact .ackTimeout
  | ackTimeout deviceId =>
    simp only [turn] at h
    split at h
    all_goals cases h
  | ackDevice deviceId ip time =>
    simp only [turn, InnerDB.getDevice] at h
    cases hr : db.devices.lookup deviceId with
    | none => simp [hr] at h
    | some device =>
      simp only [hr] at h
      split_ifs at h with hip
      · cases h
      · rw [List.mem_singleton.mp h, db.devices_keyed deviceId device hr]
        exact .ackStatus
  | ackStatus deviceId time =>
    simp only [turn, InnerDB.getDeviceRegistration] at h
    cases hr : db.deviceRegistration.lookup deviceId with
    | none => simp [hr] at h
    | some row =>
      simp only [hr] at h
      split at h
      next => cases h
      next => cases h
      next => cases h
      next hpend =>
        rw [List.mem_singleton.mp h]
        exact .ackUpdate hr hpend
  | ackUpdate deviceId time =>
    simp only [turn] at h
    split at h
    · cases h
    · rw [List.mem_singleton.mp h]
      exact .ackSchedule
  | ackSchedule deviceId => exact absurd (mem_scheduleSection_next h) List.not_mem_nil
  | ipDevice deviceId ip =>
    simp only [turn] at h
    split at h
    · cases h
    · rw [List.mem_singleton.mp h]
      exact .ipModify
  | ipModify deviceId device =>
    simp only [turn] at h
    split at h
    · cases h
    · rw [List.mem_singleton.mp h]
      exact .ipRead
  | ipRead deviceId =>
    simp only [turn, InnerDB.getScheduledConnection] at h
    cases hr : db.scheduledConnections.lookup deviceId with
    | none =>
      simp only [hr, List.mem_singleton] at h
      exact h ▸ .ipSchedule (Finmap.lookup_eq_none.mp hr)
    | some row => simp [hr] at h
  | ipSchedule deviceId =>
    rw [List.mem_singleton.mp (mem_scheduleSection_next h)]
    exact .ipReread
  | ipReread deviceId =>
    simp only [turn] at h
    split at h
    all_goals cases h
  | wakeUp deviceId =>
    simp only [turn] at h
    split at h
    · rw [List.mem_singleton.mp h]
      exact .unreachable
    · split at h
      all_goals rw [List.mem_singleton.mp h]
      · exact .session
      · exact .session
      · exact .unreachable
  | session deviceId attempt =>
    rw [List.mem_singleton.mp h]
    exact .talking
  | talking deviceId attempt needsBattery =>
    simp only [turn] at h
    split_ifs at h with hok hbattery htry
    all_goals rw [List.mem_singleton.mp h]
    · rw [hbattery]
      exact .battery
    · rw [Bool.not_eq_true _ |>.mp hbattery]
      exact .success
    · exact .retry
    · exact .lostRead
  | battery deviceId =>
    simp only [turn] at h
    split at h
    all_goals
      rw [List.mem_singleton.mp h]
      exact .reschedule
  | lostRead deviceId =>
    simp only [turn, InnerDB.getScheduledConnection] at h
    cases hr : db.scheduledConnections.lookup deviceId with
    | none => simp [hr] at h
    | some row =>
      simp only [hr, List.mem_singleton] at h
      exact h ▸ .lostWrite (db.connections_keyed deviceId row hr)
  | lostWrite connection => cases h
  | reschedule deviceId => exact absurd (mem_scheduleSection_next h) List.not_mem_nil

end Turn

end Task

/-- No row of the database is about the device. -/
def InnerDB.Unused (db : InnerDB) (d : Uuid) : Prop :=
  d ∉ db.devices ∧ d ∉ db.deviceRegistration ∧ d ∉ db.buckets ∧ d ∉ db.scheduledConnections

structure NodeState where
  db : InnerDB
  dm : DeviceManager
  tasks : List Task

inductive NodeEvent where
  | register (deviceId : Uuid) (ip : PrintedIp) (imei : Option String) (time : Option Int)
  | ack (deviceId : Uuid) (ip : PrintedIp) (time : Option Int)
  | ipUpdate (deviceId : Uuid) (ip : PrintedIp)
  | run (task : Task) (now : Int) (answered : Bool)
  | fire (id : JobId)
  | delegate (now : Int) (devices : List DelegatedDevice)

namespace NodeState

def spawn (s : NodeState) (task : Task) : NodeState := { s with tasks := task :: s.tasks }

def run (s : NodeState) (task : Task) (now : Int) (answered : Bool) : NodeState :=
  let r := task.turn s.db s.dm now answered
  ⟨r.db, r.dm, r.next ++ s.tasks.erase task⟩

def removeJob (dm : DeviceManager) (id : JobId) : DeviceManager :=
  { dm with
    scheduler := { dm.scheduler with jobScheduler := dm.scheduler.jobScheduler.remove id } }

/-- Any task may have the next turn, any message may come in and any job may
fire. A new device gets a random id, which nothing else has. -/
inductive Step : NodeState → NodeEvent → NodeState → Prop
  | register {s : NodeState} {deviceId : Uuid} {ip : PrintedIp} {imei : Option String}
      {time : Option Int} : s.db.Unused deviceId →
      Step s (.register deviceId ip imei time)
        (s.spawn (.registerAdd (Device.new deviceId ip imei) time))
  | ack {s : NodeState} {deviceId : Uuid} {ip : PrintedIp} {time : Option Int} :
      Step s (.ack deviceId ip time) (s.spawn (.ackDevice deviceId ip time))
  | ipUpdate {s : NodeState} {deviceId : Uuid} {ip : PrintedIp} :
      Step s (.ipUpdate deviceId ip) (s.spawn (.ipDevice deviceId ip))
  | run {s : NodeState} {task : Task} {now : Int} {answered : Bool} : task ∈ s.tasks →
      Step s (.run task now answered) (s.run task now answered)
  | fire {s : NodeState} {id : JobId} {job : Job} : s.dm.jobs.jobs.lookup id = some job →
      Step s (.fire id) ⟨s.db, removeJob s.dm id, .wakeUp job.device :: s.tasks⟩
  | delegate {s : NodeState} {now : Int} {devices : List DelegatedDevice} :
      Step s (.delegate now devices)
        ⟨(s.dm.acceptDelegation s.db now devices).1, (s.dm.acceptDelegation s.db now devices).2.1,
          s.tasks⟩

/-- After a turn there are the tasks it leads to and tasks that were there before. -/
theorem mem_run_tasks {s : NodeState} {task u : Task} {now : Int} {answered : Bool}
    (hu : u ∈ (s.run task now answered).tasks) : Task.Leads s.db task u ∨ u ∈ s.tasks := by
  cases List.mem_append.mp hu with
  | inl hnew => exact .inl (Task.turn_next hnew)
  | inr hold => exact .inr (List.mem_of_mem_erase hold)

theorem run_write {s : NodeState} {task : Task} {now : Int} {answered : Bool} :
    Task.Write now s.db s.dm task (s.run task now answered).db (s.run task now answered).dm :=
  Task.turn_write task

end NodeState

end HeadEnd
