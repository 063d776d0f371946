import HeadEnd.Tasks

/-! How many wake-up jobs a device has on one node, and which of them the
database knows. -/
namespace HeadEnd
open Transition

/-- Every pending job is the one on record for its device. -/
def Recorded (jobs : JobScheduler) (rows : Table ScheduledConnection) : Prop :=
  ∀ d id, jobs.Pending d id → (rows.lookup d).bind ScheduledConnection.jobId = some id

namespace Recorded
variable {jobs : JobScheduler} {rows : Table ScheduledConnection} {d : Uuid} {id : JobId}

theorem schedule (h : Recorded jobs rows) (hidle : jobs.Idle d) (now fireTime t : Int) :
    Recorded (jobs.submit now ⟨d, fireTime⟩)
      (rows.insert d (InnerDB.awaitingConnection d t jobs.nextId)) := by
  intro e id hp
  by_cases he : e = d
  · subst he
    cases JobScheduler.pending_submit.mp hp with
    | inl hnew => rw [Finmap.lookup_insert, hnew.2.1, Option.bind_some, InnerDB.awaitingConnection]
    | inr hold => exact absurd hold (hidle id)
  · rw [Finmap.lookup_insert_of_ne _ he]
    cases JobScheduler.pending_submit.mp hp with
    | inl hnew => exact absurd hnew.2.2.symm he
    | inr hold => exact h e id hold

/-- A row may be rewritten if it keeps its job, or has no job to keep. -/
theorem rewrite {row : ScheduledConnection} (h : Recorded jobs rows)
    (hrow : jobs.Idle row.fkDevice ∨
      (rows.lookup row.fkDevice).bind ScheduledConnection.jobId = row.jobId) :
    Recorded jobs (rows.insert row.fkDevice row) := by
  intro e id hp
  by_cases he : e = row.fkDevice
  · subst he
    rw [Finmap.lookup_insert]
    cases hrow with
    | inl hidle => exact absurd hp (hidle id)
    | inr hsame => exact hsame.symm.trans (h _ id hp)
  · rw [Finmap.lookup_insert_of_ne _ he]
    exact h e id hp

theorem remove (h : Recorded jobs rows) : Recorded (jobs.remove id) rows :=
  fun e j hp => h e j (JobScheduler.pending_remove.mp hp).2

/-- The job that fires was the only one. -/
theorem idle_remove (h : Recorded jobs rows) (hp : jobs.Pending d id) :
    (jobs.remove id).Idle d := by
  intro j hj
  obtain ⟨hne, hold⟩ := JobScheduler.pending_remove.mp hj
  exact hne (Option.some.inj ((h d j hold).symm.trans (h d id hp)))

theorem accept {now : Int} {devices : List DelegatedDevice} {st : InnerDB × DeviceManager}
    (hnd : (devices.map DelegatedDevice.deviceId).Nodup)
    (hidle : ∀ e ∈ devices, st.2.jobs.Idle e.deviceId)
    (h : Recorded st.2.jobs st.1.scheduledConnections) :
    Recorded (devices.foldl (DeviceManager.acceptDevice now) st).2.jobs
      (devices.foldl (DeviceManager.acceptDevice now) st).1.scheduledConnections := by
  induction devices generalizing st with
  | nil => exact h
  | cons e devices ih =>
    obtain ⟨hfresh, hnd'⟩ := List.nodup_cons.mp hnd
    refine ih hnd' (fun f hf => ?_) ?_
    · refine (hidle f (List.mem_cons_of_mem _ hf)).submit fun he => hfresh ?_
      exact List.mem_map.mpr ⟨f, hf, he.symm⟩
    · rw [DeviceManager.acceptDevice_scheduledConnections]
      exact h.schedule (hidle e List.mem_cons_self) _ _ _

end Recorded

/-- The device whose wake-up the task carries out. -/
def Task.occupies : Task → Option Uuid
  | wakeUp d | session d _ | talking d _ _ | battery d | lostRead d => some d
  | lostWrite row => some row.fkDevice
  | _ => none

theorem Task.Leads.occupies {db : InnerDB} {task t : Task} {d : Uuid} (h : Leads db task t)
    (ht : t.occupies = some d) : task.occupies = some d := by
  cases h with
  | lostWrite hrow => exact hrow ▸ ht
  | session | unreachable | talking | retry | lostRead | battery => exact ht
  | _ => cases ht

namespace NodeState
variable {s t : NodeState} {d : Uuid}

/-- No job is pending for the device and no wake-up of it is in progress. -/
def Calm (s : NodeState) (d : Uuid) : Prop :=
  s.dm.jobs.Idle d ∧ ∀ task ∈ s.tasks, task.occupies ≠ some d

/-- A device is scheduled only when nothing is going on about it. -/
def OneAtATime (s : NodeState) : NodeEvent → Prop
  | .run task _ _ => ∀ d, task.schedules = some d → s.Calm d
  | .delegate _ devices =>
    (devices.map DelegatedDevice.deviceId).Nodup ∧ ∀ e ∈ devices, s.Calm e.deviceId
  | _ => True

structure Inv (s : NodeState) : Prop where
  recorded : Recorded s.dm.jobs s.db.scheduledConnections
  busy : ∀ task ∈ s.tasks, ∀ d, task.occupies = some d → s.dm.jobs.Idle d

theorem Inv.spawn {task : Task} (h : s.Inv) (htask : task.occupies = none) :
    (s.spawn task).Inv := by
  refine ⟨h.recorded, fun t ht d hd => ?_⟩
  cases List.mem_cons.mp ht with
  | inl heq =>
    rw [heq, htask] at hd
    cases hd
  | inr hold => exact h.busy t hold d hd

theorem recorded_write {task : Task} {now : Int} {db' : InnerDB} {dm' : DeviceManager}
    (h : s.Inv) (htask : task ∈ s.tasks) (hcalm : ∀ d, task.schedules = some d → s.Calm d)
    (hw : Task.Write now s.db s.dm task db' dm') :
    Recorded dm'.jobs db'.scheduledConnections := by
  cases hw with
  | register hr =>
    obtain ⟨rfl, rfl, -⟩ := DeviceManager.registerDevice_eq_ok hr
    exact h.recorded
  | schedule hd hr =>
    obtain ⟨-, t, -, -, rfl, rfl⟩ := DeviceManager.scheduleNextWakeup_eq_ok hr
    exact h.recorded.schedule (hcalm _ hd).1 _ _ _
  | @battery d row hrow =>
    refine h.recorded.rewrite (.inr ?_)
    rw [s.db.connections_keyed d row hrow, hrow]
    rfl
  | lost => exact h.recorded.rewrite (.inl (h.busy _ htask _ rfl))
  | _ => exact h.recorded

theorem Inv.run {task : Task} {now : Int} {answered : Bool} (h : s.Inv) (htask : task ∈ s.tasks)
    (hcalm : ∀ d, task.schedules = some d → s.Calm d) : (s.run task now answered).Inv := by
  refine ⟨recorded_write h htask hcalm run_write, fun u hu d hd => ?_⟩
  -- a device that is busy after the turn was busy before it, so the turn cannot schedule it
  obtain ⟨v, hv, hvd⟩ : ∃ v ∈ s.tasks, v.occupies = some d := by
    cases mem_run_tasks hu with
    | inl hnew => exact ⟨task, htask, hnew.occupies hd⟩
    | inr hold => exact ⟨u, hold, hd⟩
  exact run_write.idle (h.busy v hv d hvd) fun hs => (hcalm d hs).2 v hv hvd

theorem Inv.step {e : NodeEvent} (h : s.Inv) (hstep : Guarded OneAtATime Step s e t) : t.Inv := by
  obtain ⟨hguard, hstep⟩ := hstep
  cases hstep with
  | register _ => exact h.spawn rfl
  | ack => exact h.spawn rfl
  | ipUpdate => exact h.spawn rfl
  | run htask => exact h.run htask hguard
  | @fire id job hjob =>
    refine ⟨h.recorded.remove, fun u hu d hd => ?_⟩
    cases List.mem_cons.mp hu with
    | inl heq =>
      rw [heq] at hd
      exact h.recorded.idle_remove ⟨job, hjob, Option.some.inj hd⟩
    | inr hold => exact (h.busy u hold d hd).remove
  | @delegate now devices =>
    obtain ⟨hnd, hcalm⟩ := hguard
    refine ⟨h.recorded.accept hnd fun e he => (hcalm e he).1, fun u hu d hd => ?_⟩
    refine DeviceManager.foldl_acceptDevice_idle _ _ (fun hmem => ?_) (h.busy u hu d hd)
    obtain ⟨e, he, heq⟩ := List.mem_map.mp hmem
    exact (hcalm e he).2 u hu (heq ▸ hd)

/-- A device has one pending job at most, and that job is on record. -/
theorem one_job_per_device {es : List NodeEvent} {id : JobId} (hjobs : s.dm.jobs.jobs = ∅)
    (htasks : s.tasks = []) (hrun : Run (Guarded OneAtATime Step) s es t)
    (hp : t.dm.jobs.Pending d id) :
    (∀ j, t.dm.jobs.Pending d j → j = id) ∧
      ∃ row, t.db.getScheduledConnection d = .ok row ∧ row.jobId = some id := by
  have hinit : s.Inv := by
    refine ⟨fun e j hj => ?_, fun task h => ?_⟩
    · obtain ⟨job, hjob, -⟩ := hj
      rw [hjobs, Finmap.lookup_empty] at hjob
      cases hjob
    · rw [htasks] at h
      cases h
  have hrec := (Run.invariant Inv (fun _ _ _ h hstep => h.step hstep) hrun hinit).recorded
  refine ⟨fun j hj => Option.some.inj ((hrec d j hj).symm.trans (hrec d id hp)), ?_⟩
  obtain ⟨row, hrow, hjob⟩ := Option.bind_eq_some_iff.mp (hrec d id hp)
  exact ⟨row, by rw [InnerDB.getScheduledConnection, hrow], hjob⟩

/- Node 1 runs in test mode with one bucket. Meter 9 has registered, and node 1
   waits for its ACK. -/
def meterIp : PrintedIp := .v4 "10.0.0.9"

def waitingForAck : NodeState where
  db := ((InnerDB.new.addDevice (.new 9 meterIp none)).addDeviceToBucket 9 0 1).registerDevice 9 0
  dm := ⟨1, {9}, ⟨1, .empty, some ∅, 1, true⟩⟩
  tasks := []

def ackReceived : NodeState := waitingForAck.spawn (.ackDevice 9 meterIp (some 0))
def ackChecked : NodeState := ackReceived.run (.ackDevice 9 meterIp (some 0)) 0 false
def ackDue : NodeState := ackChecked.run (.ackStatus 9 (some 0)) 0 false
def ackStored : NodeState := ackDue.run (.ackUpdate 9 0) 0 false
def acked : NodeState := ackStored.run (.ackSchedule 9) 0 false

theorem one_job_per_device_acked :
    (∀ j, acked.dm.jobs.Pending 9 j → j = 0) ∧
      ∃ row, acked.db.getScheduledConnection 9 = .ok row ∧ row.jobId = some 0 := by
  have hack : Guarded OneAtATime Step waitingForAck (.ack 9 meterIp (some 0)) ackReceived :=
    ⟨trivial, .ack⟩
  have hdevice : Guarded OneAtATime Step ackReceived
      (.run (.ackDevice 9 meterIp (some 0)) 0 false) ackChecked :=
    ⟨nofun, .run List.mem_cons_self⟩
  have hstatus : Guarded OneAtATime Step ackChecked (.run (.ackStatus 9 (some 0)) 0 false) ackDue :=
    ⟨nofun, .run List.mem_cons_self⟩
  have hupdate : Guarded OneAtATime Step ackDue (.run (.ackUpdate 9 0) 0 false) ackStored :=
    ⟨nofun, .run List.mem_cons_self⟩
  have hschedule : Guarded OneAtATime Step ackStored (.run (.ackSchedule 9) 0 false) acked := by
    refine ⟨fun d _ => ⟨fun id hp => ?_, fun task htask => ?_⟩, .run List.mem_cons_self⟩
    · obtain ⟨job, hjob, -⟩ := hp
      cases hjob
    · rw [List.mem_singleton.mp htask]
      exact nofun
  exact one_job_per_device rfl rfl
    (.cons hack (.cons hdevice (.cons hstatus (.cons hupdate (.single hschedule)))))
    ⟨_, rfl, rfl⟩

def meterNine : DelegatedDevice := ⟨9, some "10.0.0.9", none, 3600000000000⟩

/-- One request that names the device twice. -/
theorem two_jobs_for_one_device :
    ¬ ∀ es t d id, Run Step waitingForAck es t → t.dm.jobs.Pending d id →
      (∀ j, t.dm.jobs.Pending d j → j = id) ∧
        ∃ row, t.db.getScheduledConnection d = .ok row ∧ row.jobId = some id := by
  intro h
  have hrun : Run Step waitingForAck [.delegate 0 [meterNine, meterNine]] _ := .single .delegate
  have hone := (h _ _ 9 0 hrun ⟨_, rfl, rfl⟩).1 1 ⟨_, rfl, rfl⟩
  exact absurd hone (by decide)

end NodeState

end HeadEnd
