import HeadEnd.Cluster.OneWaker
import HeadEnd.OneJob

/-! The registration of a device: what the tasks of a node do to its status, and
that a confirmed registration stands. -/
namespace HeadEnd
open Transition

def InnerDB.registrationStatus (db : InnerDB) (d : Uuid) : Option RegistrationStatus :=
  (db.deviceRegistration.lookup d).map Registration.status

/-- Registered, with a scheduled connection. -/
def InnerDB.Confirmed (db : InnerDB) (d : Uuid) : Prop :=
  db.registrationStatus d = some .registered ∧ d ∈ db.scheduledConnections

namespace Task
variable {db : InnerDB} {dm : DeviceManager} {now : Int} {answered : Bool} {d : Uuid}

/-- How a turn can change the status of a device: only the last call of a
registration, the update by an ACK handler and the timeout write it. -/
inductive Restatus (db : InnerDB) (d : Uuid) : Task → Option RegistrationStatus → Prop
  | same {task : Task} : Restatus db d task (db.registrationStatus d)
  | pending {time : Int} : Restatus db d (registerRow d time) (some .pendingAck)
  | registered {time : Int} : Restatus db d (ackUpdate d time) (some .registered)
  | expired : db.registrationStatus d = some .pendingAck →
      Restatus db d (ackTimeout d) (some .ackTimeout)

theorem registrationStatus_insert_self (d : Uuid) (row : Registration) :
    InnerDB.registrationStatus
      { db with deviceRegistration := db.deviceRegistration.insert d row } d = some row.status := by
  simp [InnerDB.registrationStatus]

theorem registrationStatus_insert_of_ne {e : Uuid} (h : d ≠ e) (row : Registration) :
    InnerDB.registrationStatus
      { db with deviceRegistration := db.deviceRegistration.insert e row } d =
      db.registrationStatus d := by
  simp [InnerDB.registrationStatus, Finmap.lookup_insert_of_ne _ h]

theorem scheduleSection_registrationStatus {next : List Task}
    {answer : Option (Except BackdoorError Unit)} (e : Uuid) :
    (scheduleSection db dm now e next answer).db.registrationStatus d =
      db.registrationStatus d := by
  cases @scheduleSection_db db dm now e next answer with
  | inl hsame => rw [hsame]
  | inr hwritten =>
    obtain ⟨t, job, hwritten⟩ := hwritten
    rw [hwritten]
    rfl

theorem turn_restatus (task : Task) (d : Uuid) :
    Restatus db d task ((task.turn db dm now answered).db.registrationStatus d) := by
  have kept : (task.turn db dm now answered).db.registrationStatus d = db.registrationStatus d →
      Restatus db d task ((task.turn db dm now answered).db.registrationStatus d) := by
    intro h
    rw [h]
    exact .same
  cases task with
  | registerAdd device time => exact kept rfl
  | registerSection device time =>
    refine kept ?_
    simp only [turn]
    cases hr : dm.registerDevice db now device with
    | error e => rfl
    | ok r =>
      obtain ⟨db', dm', nextWake⟩ := r
      obtain ⟨rfl, -, -⟩ := DeviceManager.registerDevice_eq_ok hr
      cases time with
      | none => rfl
      | some t => rfl
  | registerRow e time =>
    by_cases h : d = e
    · subst h
      simp only [turn, InnerDB.registerDevice, registrationStatus_insert_self]
      exact .pending
    · exact kept (registrationStatus_insert_of_ne h _)
  | ackTimeout e =>
    simp only [turn, InnerDB.registrationTimeout]
    cases hrow : db.deviceRegistration.lookup e with
    | none => exact .same
    | some row =>
      by_cases hpend : row.status = .pendingAck
      · simp only [if_pos hpend]
        by_cases h : d = e
        · subst h
          rw [registrationStatus_insert_self]
          exact .expired (by simp [InnerDB.registrationStatus, hrow, hpend])
        · rw [registrationStatus_insert_of_ne h]
          exact .same
      · simp only [if_neg hpend]
        exact .same
  | ackUpdate e time =>
    simp only [turn, InnerDB.updateDeviceRegistration]
    cases db.deviceRegistration.lookup e with
    | none => exact .same
    | some row =>
      by_cases h : d = e
      · subst h
        simp only [registrationStatus_insert_self]
        exact .registered
      · simp only [registrationStatus_insert_of_ne h]
        exact .same
  | ackSchedule e => exact kept (scheduleSection_registrationStatus e)
  | ipSchedule e => exact kept (scheduleSection_registrationStatus e)
  | reschedule e => exact kept (scheduleSection_registrationStatus e)
  | ipModify e device =>
    refine kept ?_
    simp only [turn, InnerDB.modifyDevice]
    cases db.devices.lookup device.id with
    | none => rfl
    | some _ => rfl
  | battery e =>
    refine kept ?_
    simp only [turn, InnerDB.updateLastBatteryRead]
    cases db.scheduledConnections.lookup e with
    | none => rfl
    | some row => rfl
  | lostWrite connection => exact kept rfl
  | session e attempt => exact kept rfl
  | ackDevice e ip time | ackStatus e time | ipDevice e ip | ipRead e | ipReread e | wakeUp e
  | lostRead e | talking e attempt needsBattery =>
    refine kept ?_
    simp only [turn]
    repeat' split
    all_goals rfl

variable {task : Task} {status : Option RegistrationStatus}

theorem Restatus.ne_none (h : Restatus db d task status) (hdb : db.registrationStatus d ≠ none) :
    status ≠ none := by
  cases h with
  | same => exact hdb
  | pending | registered | expired => simp

/-- Nothing but a new registration takes the status Registered away. -/
theorem Restatus.eq_registered (h : Restatus db d task status) (htask : task.registers ≠ some d)
    (hdb : db.registrationStatus d = some .registered) : status = some .registered := by
  cases h with
  | same => exact hdb
  | pending => exact absurd rfl htask
  | registered => rfl
  | expired hpend =>
    rw [hdb] at hpend
    cases hpend

/-- A handler gets as far as scheduling only if its update succeeded. -/
theorem registered_of_ackSchedule_mem
    (h : ackSchedule d ∈ (task.turn db dm now answered).next) :
    (task.turn db dm now answered).db.registrationStatus d = some .registered := by
  cases hleads : turn_next h with
  | @ackSchedule _ time =>
    simp only [turn, InnerDB.updateDeviceRegistration] at h ⊢
    cases hrow : db.deviceRegistration.lookup d with
    | none => simp [hrow] at h
    | some row =>
      simp only [registrationStatus_insert_self]
      rfl

end Task

namespace NodeState
variable {s t u v : NodeState} {d : Uuid} {e : NodeEvent}

theorem acceptDelegation_registrationStatus (db : InnerDB) (dm : DeviceManager) (now : Int)
    (devices : List DelegatedDevice) (d : Uuid) :
    (dm.acceptDelegation db now devices).1.registrationStatus d = db.registrationStatus d := by
  have hfold : ∀ st : InnerDB × DeviceManager,
      (devices.foldl (DeviceManager.acceptDevice now) st).1.registrationStatus d =
        st.1.registrationStatus d := by
    induction devices with
    | nil => exact fun st => rfl
    | cons device devices ih =>
      intro st
      rw [List.foldl_cons, ih]
      have howner : (st.1.setDeviceOwner device.deviceId st.2.localNodeId).registrationStatus d =
          st.1.registrationStatus d := by
        unfold InnerDB.setDeviceOwner
        split <;> rfl
      exact howner
  exact hfold (db, dm)

/-- A step leaves the status alone, or is a turn of a task. -/
theorem Step.restatus (h : Step s e t) (d : Uuid) :
    t.db.registrationStatus d = s.db.registrationStatus d ∨
      ∃ task ∈ s.tasks, Task.Restatus s.db d task (t.db.registrationStatus d) := by
  cases h with
  | run htask => exact .inr ⟨_, htask, Task.turn_restatus _ d⟩
  | delegate => exact .inl (acceptDelegation_registrationStatus _ _ _ _ d)
  | register | ack | ipUpdate | fire => exact .inl rfl

theorem Step.eq_registered (h : Step s e t) (hs : s.db.registrationStatus d = some .registered)
    (hun : ∀ task ∈ s.tasks, task.registers ≠ some d) :
    t.db.registrationStatus d = some .registered := by
  cases h.restatus d with
  | inl hsame => rw [hsame, hs]
  | inr hturn =>
    obtain ⟨task, htask, hre⟩ := hturn
    exact hre.eq_registered (hun task htask) hs

/-- The device has a registration row, no task of the node registers it again, and
a handler that is about to schedule it has set it to Registered. -/
structure Enrolled (s : NodeState) (d : Uuid) : Prop where
  known : s.db.registrationStatus d ≠ none
  unregistered : ∀ task ∈ s.tasks, task.registers ≠ some d
  updated : Task.ackSchedule d ∈ s.tasks → s.db.registrationStatus d = some .registered

/-- A task that comes in new is at the beginning of its handler. -/
theorem Enrolled.add_task {task : Task} (h : s.Enrolled d) (hdb : t.db = s.db)
    (htasks : t.tasks = task :: s.tasks) (hreg : task.registers ≠ some d)
    (hack : task ≠ .ackSchedule d) : t.Enrolled d := by
  refine ⟨hdb ▸ h.known, ?_, fun hmem => ?_⟩
  · rw [htasks]
    exact List.forall_mem_cons.mpr ⟨hreg, h.unregistered⟩
  · rw [htasks, List.mem_cons] at hmem
    rw [hdb]
    exact h.updated (hmem.resolve_left hack.symm)

theorem Enrolled.step (h : s.Enrolled d) (hstep : Step s e t) : t.Enrolled d := by
  have hknown : t.db.registrationStatus d ≠ none := by
    cases hstep.restatus d with
    | inl hsame =>
      rw [hsame]
      exact h.known
    | inr hturn =>
      obtain ⟨task, -, hre⟩ := hturn
      exact hre.ne_none h.known
  have hkept := fun hs => hstep.eq_registered hs h.unregistered
  cases hstep with
  | @register id ip imei time hfresh =>
    refine h.add_task rfl rfl (fun heq => h.known ?_) (by simp)
    have hid : (Device.new id ip imei).id = id := by cases ip <;> rfl
    rw [← Option.some.inj heq, hid, InnerDB.registrationStatus,
      Finmap.lookup_eq_none.mpr hfresh.2.1]
    rfl
  | ack => exact h.add_task rfl rfl (by simp [Task.registers]) (by simp)
  | ipUpdate => exact h.add_task rfl rfl (by simp [Task.registers]) (by simp)
  | @run task now answered htask =>
    refine ⟨hknown, fun u hu hd => ?_, fun hmem => ?_⟩
    · cases mem_run_tasks hu with
      | inl hnew => exact h.unregistered task htask (hnew.registers hd)
      | inr hold => exact h.unregistered u hold hd
    · cases List.mem_append.mp hmem with
      | inl hnew => exact Task.registered_of_ackSchedule_mem hnew
      | inr hold => exact hkept (h.updated (List.mem_of_mem_erase hold))
  | @fire id job hjob => exact h.add_task rfl rfl (by simp [Task.registers]) (by simp)
  | delegate => exact ⟨hknown, h.unregistered, fun hmem => hkept (h.updated hmem)⟩

/-- The confirming ACK goes out after the scheduling section. -/
theorem scheduled_of_answer {now : Int} {answered : Bool}
    (h : ((Task.ackSchedule d).turn s.db s.dm now answered).answer = some (.ok ())) :
    d ∈ (s.run (.ackSchedule d) now answered).db.scheduledConnections := by
  simp only [run, Task.turn, Task.scheduleSection] at h ⊢
  cases hnext : s.dm.scheduleNextWakeup s.db now d with
  | error err => simp [hnext] at h
  | ok r =>
    obtain ⟨db', dm'⟩ := r
    obtain ⟨-, t, -, -, rfl, -⟩ := DeviceManager.scheduleNextWakeup_eq_ok hnext
    exact Finmap.mem_insert.mpr (.inl rfl)

/-- What holds from the confirming ACK on. -/
structure Confirming (s : NodeState) (d : Uuid) : Prop where
  confirmed : s.db.Confirmed d
  unregistered : ∀ task ∈ s.tasks, task.registers ≠ some d

theorem Confirming.known (h : s.Confirming d) : s.Known d := by
  refine ⟨⟨fun row hrow => ?_, h.confirmed.2⟩, h.unregistered⟩
  have hstatus := h.confirmed.1
  rw [InnerDB.registrationStatus, hrow] at hstatus
  rw [Option.some.inj hstatus]
  simp

theorem Confirming.step (h : s.Confirming d) (hstep : Step s e t) : t.Confirming d :=
  ⟨⟨hstep.eq_registered h.confirmed.1 h.unregistered, (h.known.step hstep).established.scheduled⟩,
    (h.known.step hstep).unregistered⟩

/-- Once an ACK handler has sent its confirming ACK the registration stands, in every
later state; and a timeout only ends a registration that waits for its ACK. -/
theorem confirmed_never_revoked {es fs : List NodeEvent} {now : Int} {answered : Bool}
    (hknown : s.db.registrationStatus d ≠ none)
    (hun : ∀ task ∈ s.tasks, task.registers ≠ some d) (hack : Task.ackSchedule d ∉ s.tasks)
    (hrun : Run Step s es t) (hstep : Step t (.run (.ackSchedule d) now answered) u)
    (hanswer : ((Task.ackSchedule d).turn t.db t.dm now answered).answer = some (.ok ()))
    (hlater : Run Step u fs v) :
    v.db.Confirmed d ∧
      ∀ (w : NodeState) (now : Int) (answered : Bool) (e : Uuid),
        (w.run (.ackTimeout d) now answered).db.registrationStatus e = w.db.registrationStatus e ∨
          (e = d ∧ w.db.registrationStatus d = some .pendingAck ∧
            (w.run (.ackTimeout d) now answered).db.registrationStatus d = some .ackTimeout) := by
  have htimeout : ∀ (w : NodeState) (now : Int) (answered : Bool) (e : Uuid),
      (w.run (.ackTimeout d) now answered).db.registrationStatus e = w.db.registrationStatus e ∨
        (e = d ∧ w.db.registrationStatus d = some .pendingAck ∧
          (w.run (.ackTimeout d) now answered).db.registrationStatus d = some .ackTimeout) := by
    intro w now answered e
    have hre : Task.Restatus w.db e (.ackTimeout d)
        ((w.run (.ackTimeout d) now answered).db.registrationStatus e) := Task.turn_restatus _ e
    generalize hstatus :
      (w.run (.ackTimeout d) now answered).db.registrationStatus e = status at hre
    cases hre with
    | same => exact .inl rfl
    | expired hpend => exact .inr ⟨rfl, hpend, hstatus⟩
  have henrolled : t.Enrolled d :=
    hrun.invariant (fun s => s.Enrolled d) (fun _ _ _ hs hone => hs.step hone)
      ⟨hknown, hun, fun h => absurd h hack⟩
  have hu := henrolled.step hstep
  have hconfirming : u.Confirming d := by
    cases hstep with
    | run htask =>
      refine ⟨⟨?_, scheduled_of_answer hanswer⟩, hu.unregistered⟩
      exact (Step.run htask).eq_registered (henrolled.updated htask) henrolled.unregistered
  have hv : v.Confirming d :=
    hlater.invariant (fun s => s.Confirming d) (fun _ _ _ hs hone => hs.step hone) hconfirming
  exact ⟨hv.confirmed, htimeout⟩

/- Meter 9 has registered and its timeout is armed. The timeout gets its turn
   between the read and the update of the ACK handler. -/
def armedMeter : NodeState := { waitingForAck with tasks := [.ackTimeout 9] }

def armedAck : NodeState := armedMeter.spawn (.ackDevice 9 meterIp (some 0))
def armedChecked : NodeState := armedAck.run (.ackDevice 9 meterIp (some 0)) 0 false
def armedDue : NodeState := armedChecked.run (.ackStatus 9 (some 0)) 0 false
def expiredDue : NodeState := armedDue.run (.ackTimeout 9) 5 false
def expiredStored : NodeState := expiredDue.run (.ackUpdate 9 0) 6 false
def expiredAcked : NodeState := expiredStored.run (.ackSchedule 9) 7 false

theorem confirmed_never_revoked_expired :
    expiredDue.db.registrationStatus 9 = some .ackTimeout ∧
      (expiredAcked.spawn (.ipDevice 9 meterIp)).db.Confirmed 9 := by
  have hrun : Run Step armedMeter
      [.ack 9 meterIp (some 0), .run (.ackDevice 9 meterIp (some 0)) 0 false,
        .run (.ackStatus 9 (some 0)) 0 false, .run (.ackTimeout 9) 5 false,
        .run (.ackUpdate 9 0) 6 false] expiredStored := by
    have hdevice : Step armedAck (.run (.ackDevice 9 meterIp (some 0)) 0 false) armedChecked :=
      .run List.mem_cons_self
    have hstatus : Step armedChecked (.run (.ackStatus 9 (some 0)) 0 false) armedDue :=
      .run List.mem_cons_self
    have htimeout : Step armedDue (.run (.ackTimeout 9) 5 false) expiredDue :=
      .run (List.mem_cons_of_mem _ List.mem_cons_self)
    have hupdate : Step expiredDue (.run (.ackUpdate 9 0) 6 false) expiredStored :=
      .run List.mem_cons_self
    exact .cons .ack (.cons hdevice (.cons hstatus (.cons htimeout (.single hupdate))))
  have hstep : Step expiredStored (.run (.ackSchedule 9) 7 false) expiredAcked :=
    .run List.mem_cons_self
  have hun : ∀ task ∈ armedMeter.tasks, task.registers ≠ some 9 := by
    intro task htask
    rw [List.mem_singleton.mp htask]
    simp [Task.registers]
  have hknown : armedMeter.db.registrationStatus 9 ≠ none := by decide +kernel
  have hack : Task.ackSchedule 9 ∉ armedMeter.tasks := by decide
  have hlater : Run Step expiredAcked [.ipUpdate 9 meterIp]
      (expiredAcked.spawn (.ipDevice 9 meterIp)) := .single .ipUpdate
  exact ⟨by decide +kernel,
    (confirmed_never_revoked hknown hun hack hrun hstep rfl hlater).1⟩

end NodeState

end HeadEnd
