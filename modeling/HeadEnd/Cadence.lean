import HeadEnd.Cluster.OneWaker
import HeadEnd.Slots
import HeadEnd.Takeover

/-! A device that is woken at its slot and scheduled again within the day keeps its slot, one
day later each time. -/
namespace HeadEnd
open Transition DeviceManager

/-- The instant of a slot, given in seconds after midnight. -/
def slotOn (day : Int) (slot : Nat) : Int := (day * secsPerDay + slot) * nanosPerSec

/-- How long after the slot its device may be scheduled again. -/
def sessionWindow : Int := 22 * hourSecs * nanosPerSec

/- On the day of the slot its hour has been reached; on the next day the clock is still two
hours or more before it. -/
theorem wakeDay_of_window {now day : Int} {slot : Nat} (hslot : slot < secsPerDay)
    (hfrom : slotOn day slot ≤ now) (hto : now ≤ slotOn day slot + sessionWindow) :
    wakeDay now (slot / 3600) = day + 1 := by
  have hday := wakeDay_cases now (slot / 3600)
  simp only [slotOn, sessionWindow, hourSecs, hourOf, dayOf, timestamp, secsPerDay, nanosPerSec]
    at hslot hfrom hto hday
  omega

namespace Scheduler
variable {s : Scheduler} {now day : Int} {bucket : Nat}

theorem asUsize_of_lt (h : bucket < 2 ^ 64) : asUsize (bucket : Int) = bucket := by
  unfold asUsize
  omega

theorem nextWakeup_of_window (hmode : s.testMode = false) (hb : bucket < s.bucketNumber)
    (hfrom : slotOn day (bucket * (secsPerDay / s.bucketNumber)) ≤ now)
    (hto : now ≤ slotOn day (bucket * (secsPerDay / s.bucketNumber)) + sessionWindow) :
    s.nextWakeup now bucket = .ok (slotOn (day + 1) (bucket * (secsPerDay / s.bucketNumber))) := by
  rw [Nat.mul_comm bucket] at hfrom hto ⊢
  rw [nextWakeup_of_lt hmode hb, wakeDay_of_window (slot_lt hb) hfrom hto]
  rfl

end Scheduler

theorem DeviceManager.scheduleNextWakeup_of_ok {db : InnerDB} {dm : DeviceManager} {now t : Int}
    {d : Uuid} {bucket : Int} (hbucket : db.getBucketNumber d = .ok bucket)
    (hnext : dm.scheduler.nextWakeup now (Scheduler.asUsize bucket) = .ok t) :
    dm.scheduleNextWakeup db now d = .ok (db.scheduleConnection d t dm.jobs.nextId,
      { dm with scheduler := (dm.scheduler.createWakeupJob now d t).1 }) := by
  rw [scheduleNextWakeup, Scheduler.scheduleNextWakeupJob, hbucket]
  dsimp only
  rw [hnext]
  rfl

namespace Task
variable {db : InnerDB} {dm : DeviceManager} {now : Int} {d : Uuid} {task : Task}

theorem turn_of_schedules (answered : Bool) (h : task.schedules = some d)
    {r : InnerDB × DeviceManager} (hr : dm.scheduleNextWakeup db now d = .ok r) :
    (task.turn db dm now answered).db = r.1 ∧ (task.turn db dm now answered).dm = r.2 := by
  have hsection : ∀ next answer, (scheduleSection db dm now d next answer).db = r.1 ∧
      (scheduleSection db dm now d next answer).dm = r.2 := by
    intro next answer
    rw [scheduleSection, hr]
    exact ⟨rfl, rfl⟩
  cases task with
  | ackSchedule e | ipSchedule e | reschedule e =>
    obtain rfl : e = d := Option.some.inj h
    exact hsection _ _
  | _ => cases h

theorem Write.sameDay {db' : InnerDB} {dm' : DeviceManager} (hw : Write now db dm task db' dm') :
    NodeState.SameDay dm'.scheduler dm.scheduler := by
  cases hw with
  | register hr =>
    obtain ⟨-, rfl, -⟩ := registerDevice_eq_ok hr
    exact ⟨rfl, rfl⟩
  | schedule _ hr =>
    obtain ⟨-, t, -, -, -, rfl⟩ := scheduleNextWakeup_eq_ok hr
    exact ⟨rfl, rfl⟩
  | _ => exact ⟨rfl, rfl⟩

/-- The bucket of a device is chosen when it registers, and kept. -/
theorem Write.getBucketNumber {db' : InnerDB} {dm' : DeviceManager}
    (hw : Write now db dm task db' dm') (hd : task.registers ≠ some d) :
    db'.getBucketNumber d = db.getBucketNumber d := by
  cases hw with
  | register hr =>
    obtain ⟨rfl, -, -⟩ := registerDevice_eq_ok hr
    exact InnerDB.getBucketNumber_addDeviceToBucket_of_ne _ _ _ fun heq => hd (heq ▸ rfl)
  | schedule _ hr =>
    obtain ⟨-, t, -, -, rfl, -⟩ := scheduleNextWakeup_eq_ok hr
    rfl
  | _ => rfl

end Task

theorem DeviceManager.lookup_accept {devices : List DelegatedDevice} {d : Uuid}
    (hd : d ∉ devices.map DelegatedDevice.deviceId) (now : Int) (st : InnerDB × DeviceManager) :
    (devices.foldl (acceptDevice now) st).1.scheduledConnections.lookup d =
      st.1.scheduledConnections.lookup d := by
  induction devices generalizing st with
  | nil => rfl
  | cons e devices ih =>
    rw [List.map_cons, List.mem_cons, not_or] at hd
    rw [List.foldl_cons, ih hd.2, acceptDevice_scheduledConnections,
      Finmap.lookup_insert_of_ne _ hd.1]

namespace Task
variable {db db' : InnerDB} {dm dm' : DeviceManager} {now : Int} {task : Task}

/-- All that a turn can do to the connection of one device. The job that scheduling puts
down is the new one. -/
inductive Rewrite (now : Int) (d : Uuid) (jobs jobs' : JobScheduler)
    (old : Option ScheduledConnection) : Task → Option ScheduledConnection → Prop
  | kept {task : Task} : Rewrite now d jobs jobs' old task old
  | scheduled {task : Task} {t : Int} : task.schedules = some d →
      jobs' = jobs.submit now ⟨d, wholeSecond t⟩ →
      Rewrite now d jobs jobs' old task (some (InnerDB.awaitingConnection d t jobs.nextId))
  | battery {row : ScheduledConnection} : old = some row →
      Rewrite now d jobs jobs' old (battery d) (some { row with lastBatteryRead := some now })
  | lost {row : ScheduledConnection} : row.fkDevice = d →
      Rewrite now d jobs jobs' old (lostWrite row) (some row)

theorem Write.rewrite (hw : Write now db dm task db' dm') (d : Uuid) :
    Rewrite now d dm.jobs dm'.jobs (db.scheduledConnections.lookup d) task
      (db'.scheduledConnections.lookup d) := by
  cases hw with
  | register hr =>
    obtain ⟨rfl, -, -⟩ := registerDevice_eq_ok hr
    exact .kept
  | @schedule _ e _ _ he hr =>
    obtain ⟨-, t, -, -, rfl, rfl⟩ := scheduleNextWakeup_eq_ok hr
    by_cases heq : d = e
    · subst heq
      rw [InnerDB.lookup_scheduleConnection]
      exact .scheduled he rfl
    · rw [InnerDB.lookup_scheduleConnection_of_ne db heq]
      exact .kept
  | @battery e row hrow =>
    have hkey : e = row.fkDevice := (db.connections_keyed e row hrow).symm
    rw [InnerDB.lookup_updateScheduledConnection]
    by_cases heq : d = e
    · subst heq
      rw [if_pos hkey]
      exact .battery hrow
    · rw [if_neg (fun h => heq (h.trans hkey.symm))]
      exact .kept
  | @lost row =>
    rw [InnerDB.lookup_updateScheduledConnection]
    by_cases heq : d = row.fkDevice
    · rw [if_pos heq]
      exact .lost heq.symm
    · rw [if_neg heq]
      exact .kept
  | _ => exact .kept

end Task

namespace NodeState
variable {s t : NodeState} {d : Uuid} {n bucket : Nat} {day : Int}

/-- The node has `n` buckets, the device has its place among them, and no task will give it
another one. -/
structure Placed (s : NodeState) (d : Uuid) (n : Nat) (testMode : Bool) (bucket : Int) : Prop where
  buckets : s.dm.scheduler.bucketNumber = n
  mode : s.dm.scheduler.testMode = testMode
  assigned : s.db.getBucketNumber d = .ok bucket
  unregistered : ∀ task ∈ s.tasks, task.registers ≠ some d

theorem Placed.keep {testMode : Bool} {b : Int} (h : s.Placed d n testMode b)
    (hday : SameDay t.dm.scheduler s.dm.scheduler)
    (hbucket : t.db.getBucketNumber d = s.db.getBucketNumber d)
    (htasks : ∀ task ∈ t.tasks, task.registers ≠ some d) : t.Placed d n testMode b :=
  ⟨hday.1.trans h.buckets, hday.2.trans h.mode, hbucket.trans h.assigned, htasks⟩

theorem Placed.step {testMode : Bool} {b : Int} {e : NodeEvent} (h : s.Placed d n testMode b)
    (hstep : s.Step e t) : t.Placed d n testMode b := by
  have hspawn : ∀ task : Task, task.registers ≠ some d →
      ∀ u ∈ task :: s.tasks, u.registers ≠ some d :=
    fun task htask => List.forall_mem_cons.mpr ⟨htask, h.unregistered⟩
  cases hstep with
  | @register id ip imei time hfresh =>
    refine h.keep ⟨rfl, rfl⟩ rfl (hspawn _ fun heq => ?_)
    have hid : (Device.new id ip imei).id = id := by cases ip <;> rfl
    have hin := h.assigned
    rw [InnerDB.getBucketNumber, ← Option.some.inj heq, hid,
      Finmap.lookup_eq_none.mpr hfresh.2.2.1] at hin
    cases hin
  | @run task now answered htask =>
    have hw : Task.Write now s.db s.dm task (s.run task now answered).db
        (s.run task now answered).dm := run_write
    refine h.keep hw.sameDay (hw.getBucketNumber (h.unregistered task htask)) fun u hu hreg => ?_
    cases mem_run_tasks hu with
    | inl hnew => exact h.unregistered task htask (hnew.registers hreg)
    | inr hold => exact h.unregistered u hold hreg
  | delegate => exact h.keep (sameDay_accept _ _ _) (getBucketNumber_accept _ _ _) h.unregistered
  | _ => exact h.keep ⟨rfl, rfl⟩ rfl (hspawn _ (by simp [Task.registers]))

/-- Scheduling a device that has its place writes the time that its bucket gives. -/
theorem Placed.schedule {testMode : Bool} {b now time : Int} (h : s.Placed d n testMode b)
    (answered : Bool) (task : Task) (hd : task.schedules = some d)
    (hnext : s.dm.scheduler.nextWakeup now (Scheduler.asUsize b) = .ok time) :
    (s.run task now answered).db.scheduledConnections.lookup d =
      some (InnerDB.awaitingConnection d time s.dm.jobs.nextId) := by
  obtain ⟨hdb, -⟩ := Task.turn_of_schedules answered hd (scheduleNextWakeup_of_ok h.assigned hnext)
  refine (congrArg (·.scheduledConnections.lookup d) hdb).trans ?_
  exact InnerDB.lookup_scheduleConnection _ _ _ _

/-- The device is woken next at its slot on the given day. -/
structure DueOn (s : NodeState) (d : Uuid) (n bucket : Nat) (day : Int) : Prop where
  placed : s.Placed d n false bucket
  scheduled : ∃ row, s.db.scheduledConnections.lookup d = some row ∧
    row.scheduleTime = slotOn day (bucket * (secsPerDay / n))

/-- The sessions of the device succeed and are on time: it is scheduled again from the moment
at which it is due, for 22 hours. No other node hands it over. -/
def OnTime (d : Uuid) (s : NodeState) : NodeEvent → Prop
  | .run task now _ =>
    (task.schedules = some d → ∃ row, s.db.scheduledConnections.lookup d = some row ∧
      row.scheduleTime ≤ now ∧ now ≤ row.scheduleTime + sessionWindow) ∧
    ∀ row, task = .lostWrite row → row.fkDevice ≠ d
  | .delegate _ devices => d ∉ devices.map DelegatedDevice.deviceId
  | _ => True

end NodeState

/-- The event schedules the device. -/
def NodeEvent.schedules (d : Uuid) : NodeEvent → Bool
  | .run task _ _ => task.schedules = some d
  | _ => false

/-- How often the device is scheduled. -/
def sessions (d : Uuid) (es : List NodeEvent) : Nat := es.countP (NodeEvent.schedules d)

namespace NodeState
variable {s t : NodeState} {d : Uuid} {n bucket : Nat} {day : Int}

/-- A call that schedules the device on time puts down the same slot of the next day. -/
theorem DueOn.schedule {task : Task} {now : Int} {answered : Bool} (h : s.DueOn d n bucket day)
    (hn : n ≤ secsPerDay) (hb : bucket < n) (hd : task.schedules = some d)
    (htime : OnTime d s (.run task now answered)) :
    ∃ row, (s.run task now answered).db.scheduledConnections.lookup d = some row ∧
      row.scheduleTime = slotOn (day + 1) (bucket * (secsPerDay / n)) := by
  obtain ⟨row, hrow, hfrom, hto⟩ := htime.1 hd
  obtain ⟨row', hrow', heq⟩ := h.scheduled
  cases hrow.symm.trans hrow'
  have hsize : bucket < 2 ^ 64 := by
    have hday : secsPerDay < 2 ^ 64 := by decide
    omega
  have hnext : s.dm.scheduler.nextWakeup now (Scheduler.asUsize bucket) =
      .ok (slotOn (day + 1) (bucket * (secsPerDay / n))) := by
    rw [Scheduler.asUsize_of_lt hsize]
    rw [heq, ← h.placed.buckets] at hfrom hto
    rw [← h.placed.buckets]
    exact Scheduler.nextWakeup_of_window h.placed.mode (h.placed.buckets ▸ hb) hfrom hto
  exact ⟨_, h.placed.schedule answered task hd hnext, rfl⟩

/-- Any other turn leaves the appointment alone. -/
theorem DueOn.other {task : Task} {now : Int} {answered : Bool} (h : s.DueOn d n bucket day)
    (hd : task.schedules ≠ some d) (hlost : ∀ row, task = .lostWrite row → row.fkDevice ≠ d) :
    ∃ row, (s.run task now answered).db.scheduledConnections.lookup d = some row ∧
      row.scheduleTime = slotOn day (bucket * (secsPerDay / n)) := by
  obtain ⟨row, hrow, htime⟩ := h.scheduled
  have hrewrite : Task.Rewrite now d s.dm.jobs (s.run task now answered).dm.jobs _ task
      ((s.run task now answered).db.scheduledConnections.lookup d) := run_write.rewrite d
  generalize (s.run task now answered).db.scheduledConnections.lookup d = new at hrewrite
  cases hrewrite with
  | kept => exact ⟨row, hrow, htime⟩
  | scheduled he _ => exact absurd he hd
  | battery hold =>
    cases hrow.symm.trans hold
    exact ⟨_, rfl, htime⟩
  | lost hrow => exact absurd hrow (hlost _ rfl)

theorem DueOn.step {e : NodeEvent} (h : s.DueOn d n bucket day) (hn : n ≤ secsPerDay)
    (hb : bucket < n) (hstep : Guarded (OnTime d) Step s e t) :
    t.DueOn d n bucket (day + if e.schedules d then 1 else 0) := by
  obtain ⟨htime, hstep⟩ := hstep
  refine ⟨h.placed.step hstep, ?_⟩
  cases hsched : e.schedules d with
  | true =>
    cases hstep with
    | run htask => exact h.schedule hn hb (of_decide_eq_true hsched) htime
    | _ => cases hsched
  | false =>
    rw [if_neg Bool.false_ne_true, Int.add_zero]
    cases hstep with
    | run htask => exact h.other (of_decide_eq_false hsched) htime.2
    | delegate => exact (lookup_accept htime _ (s.db, s.dm)).symm ▸ h.scheduled
    | _ => exact h.scheduled

theorem DueOn.run {es : List NodeEvent} (h : s.DueOn d n bucket day) (hn : n ≤ secsPerDay)
    (hb : bucket < n) (hrun : Run (Guarded (OnTime d) Step) s es t) :
    t.DueOn d n bucket (day + sessions d es) := by
  induction hrun generalizing day with
  | nil s =>
    rw [sessions, List.countP_nil, Int.natCast_zero, Int.add_zero]
    exact h
  | @cons s t u e es hone hrest ih =>
    have hlast := ih (h.step hn hb hone)
    have hcount : (sessions d (e :: es) : Int) =
        (if e.schedules d then 1 else 0) + sessions d es := by
      rw [sessions, List.countP_cons, sessions]
      split
      all_goals simp [Int.add_comm]
    rw [hcount, ← Int.add_assoc]
    exact hlast

/-- At every moment of a run whose sessions are on time, the device is due at its slot, as
many days after the first as it has been scheduled. -/
theorem daily_cadence {es : List NodeEvent} (hn : 1 ≤ n ∧ n ≤ secsPerDay) (hb : bucket < n)
    (hstart : s.DueOn d n bucket day) (hrun : Run (Guarded (OnTime d) Step) s es t)
    (es₁ es₂ : List NodeEvent) (hsplit : es = es₁ ++ es₂) :
    ∃ u row, Run Step s es₁ u ∧ Run Step u es₂ t ∧ u.db.getScheduledConnection d = .ok row ∧
      row.scheduleTime = slotOn (day + sessions d es₁) (bucket * (secsPerDay / n)) := by
  subst hsplit
  obtain ⟨u, hfirst, hlast⟩ := hrun.split
  obtain ⟨row, hrow, htime⟩ := (hstart.run hn.2 hb hfirst).scheduled
  exact ⟨u, row, hfirst.of_guarded, hlast.of_guarded, by rw [InnerDB.getScheduledConnection, hrow],
    htime⟩

/- One bucket, so that the slot is midnight. Meter 9 is due on day 1 and its session has just
been successful. -/
def sessionDone : NodeState where
  db := (InnerDB.new.addDeviceToBucket 9 0 1).scheduleConnection 9 (slotOn 1 0) 0
  dm := ⟨1, {9}, ⟨1, .empty, none, 1, false⟩⟩
  tasks := [.reschedule 9]

/-- Scheduled again at ten in the evening, the meter is due at the next midnight. -/
theorem daily_cadence_evening :
    ∃ u row, Run Step sessionDone [.run (.reschedule 9) (slotOn 1 79200) false] u ∧
      u.db.getScheduledConnection 9 = .ok row ∧ row.scheduleTime = slotOn 2 0 := by
  have hdue : sessionDone.DueOn 9 1 0 1 :=
    ⟨⟨rfl, rfl, rfl, fun task htask => by
      rw [List.mem_singleton.mp htask]
      simp [Task.registers]⟩, _, rfl, rfl⟩
  have htime : OnTime 9 sessionDone (.run (.reschedule 9) (slotOn 1 79200) false) :=
    ⟨fun _ => ⟨_, rfl, by decide, by decide⟩, fun row h => by cases h⟩
  obtain ⟨u, row, hrun, -, hrow, hslot⟩ := daily_cadence (by decide) Nat.one_pos hdue
    (.single ⟨htime, .run List.mem_cons_self⟩) _ [] (List.append_nil _).symm
  exact ⟨u, row, hrun, hrow, hslot⟩

end NodeState

end HeadEnd
