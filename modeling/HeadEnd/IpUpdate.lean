import HeadEnd.Announcement
import HeadEnd.Reload

/-! A registered device whose address has changed is answered with the time in its stored
connection. Whether a job stands behind that time, over the whole life of a node: messages,
sessions, cancelled jobs and restarts, against a clock. -/
namespace HeadEnd
open Transition HeadEnd.Messages

inductive CancelError where
  | databaseError (e : DatabaseError)
  | jobSchedulerError (text : String)
  deriving DecidableEq, Repr

/-- `refused` is the error of the cron library, if it does not remove the job. -/
def Scheduler.cancelWakeupJob (db : InnerDB) (s : Scheduler) (deviceId : Uuid)
    (refused : Option String) : Except CancelError (InnerDB × Scheduler × Bool) :=
  match db.getScheduledConnection deviceId with
  | .error e => .error (.databaseError e)
  | .ok conn =>
    match conn.jobId with
    | none => .ok (db, s, false)
    | some jobId =>
      match refused with
      | some text => .error (.jobSchedulerError text)
      | none =>
        .ok (db.updateScheduledConnection { conn with jobId := none, renewable := false },
          { s with jobScheduler := s.jobScheduler.remove jobId }, true)

def DeviceManager.cancelWakeupJob (db : InnerDB) (dm : DeviceManager) (deviceId : Uuid)
    (refused : Option String) : Except CancelError (InnerDB × DeviceManager × Bool) :=
  match dm.scheduler.cancelWakeupJob db deviceId refused with
  | .error e => .error e
  | .ok (db', scheduler, removed) => .ok (db', { dm with scheduler }, removed)

namespace Task

/-- The device whose connection the handler of an IP update reads next. -/
def readsFor : Task → Option Uuid
  | ipRead d | ipReread d => some d
  | _ => none

/-- The RegisterResponse that the handler sends at the end of its turn, if it has one. `seq`
is the number of the request. -/
def ipResponse (overflowChecks : Bool) (db : InnerDB) (seq : UInt32) (sentAt : Int)
    (task : Task) : Option Message :=
  match task.readsFor with
  | none => none
  | some d =>
    match db.getScheduledConnection d, nextSeq overflowChecks seq with
    | .ok conn, some seq =>
      (newRegisterResponseMessage d seq 0 (UInt64.ofInt (timestamp conn.scheduleTime))
        sentAt).toOption
    | _, _ => none

theorem of_ipResponse {checks : Bool} {db : InnerDB} {seq : UInt32} {sentAt : Int} {task : Task}
    {response : Message} (h : task.ipResponse checks db seq sentAt = some response) :
    ∃ row, task.readsFor = some response.deviceId ∧
      db.scheduledConnections.lookup response.deviceId = some row ∧
      response.nextWakeTime = some (UInt64.ofInt (timestamp row.scheduleTime)) := by
  unfold ipResponse InnerDB.getScheduledConnection at h
  cases hd : task.readsFor with
  | none =>
    rw [hd] at h
    cases h
  | some d =>
    simp only [hd] at h
    cases hrow : db.scheduledConnections.lookup d with
    | none => simp only [hrow, reduceCtorEq] at h
    | some row =>
      cases hseq : nextSeq checks seq with
      | none => simp only [hrow, hseq, reduceCtorEq] at h
      | some seq' =>
        simp only [hrow, hseq, newRegisterResponseMessage] at h
        split at h
        next => cases h
        next =>
          obtain rfl := Option.some.inj h
          exact ⟨row, rfl, hrow, rfl⟩

end Task

/-- Job `id` has been handed out, and it is `job` as long as it is pending. Once it is not,
`gone` holds. -/
def JobScheduler.Backs (jobs : JobScheduler) (job : Job) (id : JobId) (gone : Prop) : Prop :=
  id < jobs.nextId ∧ (jobs.jobs.lookup id = some job ∨ (jobs.jobs.lookup id = none ∧ gone))

namespace JobScheduler.Backs
variable {jobs : JobScheduler} {job new : Job} {id j : JobId} {gone gone' : Prop}

theorem submit (h : jobs.Backs job id gone) (now : Int) :
    (jobs.submit now new).Backs job id gone := by
  have hlookup : (jobs.submit now new).jobs.lookup id = jobs.jobs.lookup id := by
    cases jobs.submit_cases now new with
    | inl hadd =>
      rw [hadd.2]
      exact Finmap.lookup_insert_of_ne _ (Nat.ne_of_lt h.1)
    | inr hdrop => rw [hdrop.2]
  rw [Backs, hlookup, submit_nextId]
  exact ⟨Nat.lt_succ_of_lt h.1, h.2⟩

/-- A job that is dropped at once is due. -/
theorem submitted {now : Int} (hgone : new.fireTime ≤ now → gone) :
    (jobs.submit now new).Backs new jobs.nextId gone := by
  refine ⟨by simp, ?_⟩
  cases jobs.submit_cases now new with
  | inl hadd =>
    rw [hadd.2]
    exact .inl (Finmap.lookup_insert _)
  | inr hdrop =>
    rw [hdrop.2]
    exact .inr ⟨jobs.lookup_nextId, hgone hdrop.1⟩

theorem remove (h : jobs.Backs job id gone) (hgone : j = id → gone) :
    (jobs.remove j).Backs job id gone := by
  refine ⟨h.1, ?_⟩
  by_cases hj : j = id
  · exact .inr ⟨hj ▸ Finmap.lookup_erase _ _, hgone hj⟩
  · rw [JobScheduler.remove, Finmap.lookup_erase_ne (Ne.symm hj)]
    exact h.2

theorem imp (h : jobs.Backs job id gone) (himp : gone → gone') : jobs.Backs job id gone' :=
  ⟨h.1, h.2.imp_right fun hgone => ⟨hgone.1, himp hgone.2⟩⟩

end JobScheduler.Backs

/-- The job for which a connection stands. -/
def ScheduledConnection.job (row : ScheduledConnection) : Job :=
  ⟨row.fkDevice, wholeSecond row.scheduleTime⟩

/-- The job that a connection names is its own as long as it is pending. That of device `d`
is not gone before it is due. -/
def Backed (d : Uuid) (clock : Int) (jobs : JobScheduler) (rows : Table ScheduledConnection) :
    Prop :=
  ∀ e row id, rows.lookup e = some row → row.jobId = some id →
    jobs.Backs row.job id (e = d → row.job.fireTime ≤ clock)

namespace Backed
variable {d : Uuid} {clock : Int} {jobs : JobScheduler} {rows : Table ScheduledConnection}

theorem later {now : Int} (h : Backed d clock jobs rows) (hle : clock ≤ now) :
    Backed d now jobs rows :=
  fun e row id hrow hid => (h e row id hrow hid).imp fun hdue he => Int.le_trans (hdue he) hle

theorem rewrite (h : Backed d clock jobs rows) (row : ScheduledConnection)
    (hrow : ∀ id, row.jobId = some id →
      jobs.Backs row.job id (row.fkDevice = d → row.job.fireTime ≤ clock)) :
    Backed d clock jobs (rows.insert row.fkDevice row) := by
  intro e row' id hlookup hid
  by_cases he : e = row.fkDevice
  · rw [he, Finmap.lookup_insert] at hlookup
    obtain rfl := Option.some.inj hlookup
    exact he ▸ hrow id hid
  · rw [Finmap.lookup_insert_of_ne _ he] at hlookup
    exact h e row' id hlookup hid

theorem schedule (h : Backed d clock jobs rows) (e : Uuid) (t : Int) :
    Backed d clock (jobs.submit clock ⟨e, wholeSecond t⟩)
      (rows.insert e (InnerDB.awaitingConnection e t jobs.nextId)) := by
  have hsubmit : Backed d clock (jobs.submit clock ⟨e, wholeSecond t⟩) rows :=
    fun f row id hrow hid => (h f row id hrow hid).submit clock
  refine hsubmit.rewrite (InnerDB.awaitingConnection e t jobs.nextId) fun id hid => ?_
  rw [← Option.some.inj hid]
  exact .submitted fun hdue _ => hdue

theorem fire {id : JobId} {job : Job} (h : Backed d clock jobs rows)
    (hjob : jobs.jobs.lookup id = some job) (hdue : job.fireTime ≤ clock) :
    Backed d clock (jobs.remove id) rows := by
  intro e row id' hrow hid
  have hbacks := h e row id' hrow hid
  refine hbacks.remove fun heq => ?_
  subst heq
  cases hbacks.2 with
  | inl hpending =>
    rw [← Option.some.inj (hjob.symm.trans hpending)]
    exact fun _ => hdue
  | inr hgone => exact hgone.2

/-- No other connection names the job that is cancelled while it is pending: it would be the
job of two devices. -/
theorem cancel {row row' : ScheduledConnection} {id : JobId} (h : Backed d clock jobs rows)
    (hkeyed : Keyed ScheduledConnection.fkDevice rows)
    (hrow : rows.lookup row.fkDevice = some row) (hid : row.jobId = some id)
    (hkey : row'.fkDevice = row.fkDevice) (hnone : row'.jobId = none) :
    Backed d clock (jobs.remove id) (rows.insert row'.fkDevice row') := by
  intro e other id' hlookup hid'
  by_cases he : e = row'.fkDevice
  · rw [he, Finmap.lookup_insert] at hlookup
    obtain rfl := Option.some.inj hlookup
    rw [hnone] at hid'
    cases hid'
  · rw [Finmap.lookup_insert_of_ne _ he] at hlookup
    have hbacks := h e other id' hlookup hid'
    refine hbacks.remove fun heq => ?_
    subst heq
    cases hbacks.2 with
    | inr hgone => exact hgone.2
    | inl hpending =>
      cases (h _ row id hrow hid).2 with
      | inr hgone =>
        rw [hgone.1] at hpending
        cases hpending
      | inl hpending' =>
        have hjob := Option.some.inj (hpending.symm.trans hpending')
        have hsame : other.fkDevice = row.fkDevice := congrArg Job.device hjob
        exact absurd ((hkeyed e other hlookup).symm.trans (hsame.trans hkey.symm)) he

theorem accept {devices : List DelegatedDevice} {st : InnerDB × DeviceManager}
    (h : Backed d clock st.2.jobs st.1.scheduledConnections) :
    Backed d clock (devices.foldl (DeviceManager.acceptDevice clock) st).2.jobs
      (devices.foldl (DeviceManager.acceptDevice clock) st).1.scheduledConnections := by
  induction devices generalizing st with
  | nil => exact h
  | cons e devices ih =>
    refine ih ?_
    rw [DeviceManager.acceptDevice_scheduledConnections]
    exact h.schedule e.deviceId e.scheduleTime

/-- A restart drops all jobs. The reload gives a connection a new one, or takes the old one
out of it, unless the device is not owned. -/
theorem reload {db db' : InnerDB} {s s' : Scheduler} {rounds : List ReloadRound}
    (h : Backed d clock jobs db.scheduledConnections)
    (hempty : s.jobScheduler.jobs = ∅) (hnext : s.jobScheduler.nextId = jobs.nextId)
    (hlist : Scheduler.ListsConnections db rounds)
    (hok : s.reloadActiveConnections db rounds = .ok (db', s'))
    (howned : ∀ row, db.scheduledConnections.lookup d = some row → row.jobId ≠ none →
      s.ownsDevice d = true) :
    Backed d clock s'.jobScheduler db'.scheduledConnections := by
  intro e row id hrow hid
  have hrun := Scheduler.run_of_eq_ok hok
  have hframe := Scheduler.reloadFrame_of_run hrun
  have hmem : e ∈ rounds.map ReloadRound.device := by
    by_contra hnot
    rw [hframe.rows e hnot] at hrow
    exact hnot (hlist.mem_device hrow)
  obtain ⟨round, hround, rfl⟩ := List.mem_map.mp hmem
  have hbefore := hlist.lookup hround
  have hdone := Scheduler.reloaded_of_run hrun hlist.nodup hround hbefore
  cases howns : s.ownsDevice round.device with
  | false =>
    obtain rfl := Option.some.inj (hrow.symm.trans (hdone.skipped howns).1)
    have hlt : id < s.jobScheduler.nextId := hnext ▸ (h _ _ id hbefore hid).1
    have hnone : s'.jobScheduler.jobs.lookup id = none := by
      rw [hframe.jobs id hlt, hempty, Finmap.lookup_empty]
    refine ⟨?_, .inr ⟨hnone, fun hd => ?_⟩⟩
    · rw [hframe.count]
      exact Nat.lt_of_lt_of_le hlt (Nat.le_add_right _ _)
    · have hyes := howned _ (hd ▸ hbefore) (by rw [hid]; exact Option.some_ne_none id)
      rw [← hd, howns] at hyes
      cases hyes
  | true =>
    by_cases hexp : round.Expired
    · obtain rfl := Option.some.inj (hrow.symm.trans (hdone.expired howns hexp).1)
      cases hid
    · obtain ⟨id', hcreated, -, hrow'⟩ := hdone.restored howns hexp
      obtain rfl := Option.some.inj (hrow.symm.trans hrow')
      obtain rfl := Option.some.inj hid
      have hpending := hcreated.2
      exact ⟨s'.jobScheduler.fresh _ (Finmap.mem_of_lookup_eq_some hpending), .inl hpending⟩

end Backed

/-- All jobs are dropped. Their ids are random and do not come back. -/
def JobScheduler.restarted (jobs : JobScheduler) : JobScheduler where
  jobs := ∅
  nextId := jobs.nextId
  fresh := fun _ h => absurd h Finmap.notMem_empty

/-- A node and the clock. -/
structure Life where
  node : NodeState
  clock : Int

/- The handler of a SESSION_START_REQUEST makes the calls `cancel`, `abort`, `schedule` and
   `battery` in this order. Any of them may be the last, and other events come between. -/
inductive LifeEvent where
  | node (e : NodeEvent)
  | cancel (deviceId : Uuid)
  | abort (task : Task)
  | schedule (deviceId : Uuid)
  | battery (deviceId : Uuid)
  | other
  | tick (now : Int)
  | restart (dm : DeviceManager) (rounds : List ReloadRound) (now : Int)

namespace Life

/-- A turn and a delegation read the clock, and a job does not fire before it is due. -/
def Timely (s : Life) : NodeEvent → Prop
  | .run _ now _ | .delegate now _ => now = s.clock
  | .fire id => ∀ job, s.node.dm.jobs.jobs.lookup id = some job → job.fireTime ≤ s.clock
  | _ => True

inductive Step : Life → LifeEvent → Life → Prop
  | node {s : Life} {e : NodeEvent} {t : NodeState} : s.Timely e → s.node.Step e t →
      Step s (.node e) ⟨t, s.clock⟩
  | cancel {s : Life} {d : Uuid} {db : InnerDB} {dm : DeviceManager} {removed : Bool} :
      s.node.dm.cancelWakeupJob s.node.db d none = .ok (db, dm, removed) →
      Step s (.cancel d) ⟨⟨db, dm, s.node.tasks⟩, s.clock⟩
  | abort {s : Life} {task : Task} : task.occupies.isSome →
      Step s (.abort task) ⟨{ s.node with tasks := s.node.tasks.erase task }, s.clock⟩
  | schedule {s : Life} {d : Uuid} {db : InnerDB} {dm : DeviceManager} :
      s.node.dm.scheduleNextWakeup s.node.db s.clock d = .ok (db, dm) →
      Step s (.schedule d) ⟨⟨db, dm, s.node.tasks⟩, s.clock⟩
  | battery {s : Life} {d : Uuid} {db : InnerDB} :
      s.node.db.updateLastBatteryRead d s.clock = .ok db →
      Step s (.battery d) ⟨{ s.node with db }, s.clock⟩
  -- whatever touches neither connections nor jobs
  | other {s : Life} {db : InnerDB} {dm : DeviceManager} :
      db.scheduledConnections = s.node.db.scheduledConnections → dm.jobs = s.node.dm.jobs →
      Step s .other ⟨⟨db, dm, s.node.tasks⟩, s.clock⟩
  | tick {s : Life} {now : Int} : s.clock ≤ now → Step s (.tick now) ⟨s.node, now⟩
  -- the node stops, and is up again at `now`
  | restart {s : Life} {dm : DeviceManager} {rounds : List ReloadRound} {now : Int}
      {db : InnerDB} {scheduler : Scheduler} : s.clock ≤ now →
      dm.jobs = s.node.dm.jobs.restarted → Scheduler.ListsConnections s.node.db rounds →
      dm.scheduler.reloadActiveConnections s.node.db rounds = .ok (db, scheduler) →
      Step s (.restart dm rounds now) ⟨⟨db, { dm with scheduler }, []⟩, now⟩

variable {s t : Life} {d : Uuid}

/-- What the node does not check. At a restart, that the device is owned if its connection
names a job. When an IP update is answered from a connection, that it names a job, and one
that is not due. -/
def Reliable (d : Uuid) (s : Life) : LifeEvent → Prop
  | .restart dm _ _ =>
    ∀ row, s.node.db.scheduledConnections.lookup d = some row → row.jobId ≠ none →
      dm.scheduler.ownsDevice d = true
  | .node (.run task _ _) =>
    task.readsFor = some d → ∀ row, s.node.db.scheduledConnections.lookup d = some row →
      row.jobId ≠ none ∧ s.clock < wholeSecond row.scheduleTime
  | _ => True

structure Inv (d : Uuid) (s : Life) : Prop where
  backed : Backed d s.clock s.node.dm.jobs s.node.db.scheduledConnections
  lost : ∀ row, Task.lostWrite row ∈ s.node.tasks → row.jobId = none

theorem backed_battery {e : Uuid} {row : ScheduledConnection} (h : s.Inv d)
    (hrow : s.node.db.scheduledConnections.lookup e = some row) (now : Int) :
    Backed d s.clock s.node.dm.jobs (s.node.db.updateScheduledConnection
      { row with lastBatteryRead := some now }).scheduledConnections := by
  refine h.backed.rewrite { row with lastBatteryRead := some now } fun id hid => ?_
  rw [← s.node.db.connections_keyed e row hrow] at hrow
  exact h.backed _ row id hrow hid

theorem backed_write {task : Task} {db : InnerDB} {dm : DeviceManager} (h : s.Inv d)
    (htask : task ∈ s.node.tasks) (hw : Task.Write s.clock s.node.db s.node.dm task db dm) :
    Backed d s.clock dm.jobs db.scheduledConnections := by
  cases hw with
  | register hr =>
    obtain ⟨rfl, rfl, -⟩ := DeviceManager.registerDevice_eq_ok hr
    exact h.backed
  | schedule hd hr =>
    obtain ⟨-, t, -, -, rfl, rfl⟩ := DeviceManager.scheduleNextWakeup_eq_ok hr
    exact h.backed.schedule _ t
  | battery hrow => exact backed_battery h hrow s.clock
  | lost =>
    refine h.backed.rewrite _ fun id hid => ?_
    rw [h.lost _ htask] at hid
    cases hid
  | _ => exact h.backed

theorem jobId_of_lostWrite_mem {db : InnerDB} {dm : DeviceManager} {now : Int}
    {answered : Bool} {task : Task} {row : ScheduledConnection}
    (h : .lostWrite row ∈ (task.turn db dm now answered).next) : row.jobId = none := by
  cases Task.turn_next h with
  | @lostWrite e row hkey =>
    simp only [Task.turn] at h
    cases hrow : db.getScheduledConnection e with
    | error err =>
      rw [hrow] at h
      cases h
    | ok old =>
      rw [hrow] at h
      cases List.mem_singleton.mp h
      rfl

theorem Inv.spawn {task : Task} {db : InnerDB} {dm : DeviceManager} (h : s.Inv d)
    (hbacked : Backed d s.clock dm.jobs db.scheduledConnections)
    (htask : ∀ row, task ≠ .lostWrite row) : Inv d ⟨⟨db, dm, task :: s.node.tasks⟩, s.clock⟩ := by
  refine ⟨hbacked, fun row hrow => ?_⟩
  cases List.mem_cons.mp hrow with
  | inl heq => exact absurd heq.symm (htask row)
  | inr hold => exact h.lost row hold

theorem Inv.node {e : NodeEvent} {u : NodeState} (h : s.Inv d) (htimely : s.Timely e)
    (hstep : s.node.Step e u) : Inv d ⟨u, s.clock⟩ := by
  cases hstep with
  | register _ => exact h.spawn h.backed (fun row heq => by cases heq)
  | ack => exact h.spawn h.backed (fun row heq => by cases heq)
  | ipUpdate => exact h.spawn h.backed (fun row heq => by cases heq)
  | @run task now answered htask =>
    obtain rfl : now = s.clock := htimely
    have hw : Task.Write s.clock s.node.db s.node.dm task
        (task.turn s.node.db s.node.dm s.clock answered).db
        (task.turn s.node.db s.node.dm s.clock answered).dm := Task.turn_write task
    have hbacked := backed_write h htask hw
    refine ⟨hbacked, fun row hrow => ?_⟩
    cases List.mem_append.mp hrow with
    | inl hnew => exact jobId_of_lostWrite_mem hnew
    | inr hold => exact h.lost row (List.mem_of_mem_erase hold)
  | fire hjob =>
    exact h.spawn (h.backed.fire hjob (htimely _ hjob)) (fun row heq => by cases heq)
  | @delegate now devices =>
    obtain rfl : now = s.clock := htimely
    exact ⟨h.backed.accept, h.lost⟩

theorem backed_cancel {e : Uuid} {db : InnerDB} {dm : DeviceManager} {removed : Bool}
    (h : s.Inv d) (hok : s.node.dm.cancelWakeupJob s.node.db e none = .ok (db, dm, removed)) :
    Backed d s.clock dm.jobs db.scheduledConnections := by
  unfold DeviceManager.cancelWakeupJob Scheduler.cancelWakeupJob InnerDB.getScheduledConnection
    at hok
  cases hrow : s.node.db.scheduledConnections.lookup e with
  | none =>
    rw [hrow] at hok
    cases hok
  | some row =>
    have hkey := s.node.db.connections_keyed e row hrow
    simp only [hrow] at hok
    cases hid : row.jobId with
    | none =>
      simp only [hid] at hok
      cases hok
      exact h.backed
    | some id =>
      simp only [hid] at hok
      cases hok
      exact h.backed.cancel s.node.db.connections_keyed (hkey ▸ hrow) hid rfl rfl

theorem Inv.step {e : LifeEvent} (h : s.Inv d) (hstep : Guarded (Reliable d) Step s e t) :
    t.Inv d := by
  obtain ⟨hguard, hstep⟩ := hstep
  cases hstep with
  | node htimely hone => exact h.node htimely hone
  | cancel hok =>
    have hbacked := backed_cancel h hok
    exact ⟨hbacked, h.lost⟩
  | abort _ => exact ⟨h.backed, fun row hrow => h.lost row (List.mem_of_mem_erase hrow)⟩
  | schedule hok =>
    obtain ⟨-, t, -, -, rfl, rfl⟩ := DeviceManager.scheduleNextWakeup_eq_ok hok
    exact ⟨h.backed.schedule _ t, h.lost⟩
  | @battery e db hok =>
    unfold InnerDB.updateLastBatteryRead at hok
    cases hrow : s.node.db.scheduledConnections.lookup e with
    | none =>
      rw [hrow] at hok
      cases hok
    | some row =>
      rw [hrow] at hok
      have hbacked := backed_battery h hrow s.clock
      exact ⟨Except.ok.inj hok ▸ hbacked, h.lost⟩
  | other hrows hjobs => exact ⟨by rw [hrows, hjobs]; exact h.backed, h.lost⟩
  | tick hle => exact ⟨h.backed.later hle, h.lost⟩
  | restart hle hjobs hlist hok =>
    refine ⟨(h.backed.reload ?_ ?_ hlist hok hguard).later hle, fun row hrow => ?_⟩
    · exact congrArg JobScheduler.jobs hjobs
    · exact (congrArg JobScheduler.nextId hjobs).trans rfl
    · cases hrow

theorem timestamp_wholeSecond (t : Int) : timestamp (wholeSecond t) = timestamp t := by
  unfold timestamp wholeSecond nanosPerSec
  omega

/-- In every run in which the node is spared the cases that it does not check, an IP update
is answered with the time of a pending job of the device, later than now. -/
theorem ip_update_appointment {u : Life} {es : List LifeEvent} {task : Task}
    {answered checks : Bool} {seq : UInt32} {sentAt : Int} {response : Message}
    (hrows : s.node.db.scheduledConnections = ∅) (htasks : s.node.tasks = [])
    (hrun : Run (Guarded (Reliable response.deviceId) Step) s es t)
    (hstep : Guarded (Reliable response.deviceId) Step t
      (.node (.run task t.clock answered)) u)
    (hresponse : task.ipResponse checks t.node.db seq sentAt = some response) :
    ∃ id job, t.node.dm.jobs.jobs.lookup id = some job ∧ job.device = response.deviceId ∧
      response.nextWakeTime = some (UInt64.ofInt (timestamp job.fireTime)) ∧
      t.clock < job.fireTime := by
  have hinit : s.Inv response.deviceId := by
    refine ⟨fun e row id hrow => ?_, fun row hrow => ?_⟩
    · rw [hrows, Finmap.lookup_empty] at hrow
      cases hrow
    · rw [htasks] at hrow
      cases hrow
  have hinv := hrun.invariant (Inv response.deviceId) (fun _ _ _ h hone => h.step hone) hinit
  obtain ⟨row, hreads, hrow, htold⟩ := Task.of_ipResponse hresponse
  obtain ⟨hnamed, hahead⟩ := hstep.1 hreads row hrow
  obtain ⟨id, hid⟩ := Option.ne_none_iff_exists'.mp hnamed
  have hpending : t.node.dm.jobs.jobs.lookup id = some row.job := by
    cases (hinv.backed _ row id hrow hid).2 with
    | inl hpending => exact hpending
    | inr hgone => exact absurd (hgone.2 rfl) (Int.not_le.mpr hahead)
  refine ⟨id, row.job, hpending, t.node.db.connections_keyed _ row hrow, ?_, hahead⟩
  rw [htold, ScheduledConnection.job, timestamp_wholeSecond]

/-- A turn that reads no connection for an IP update. -/
theorem turn_step {task : Task} (hreads : task.readsFor = none) (htask : task ∈ s.node.tasks) :
    Guarded (Reliable d) Step s (.node (.run task s.clock false))
      ⟨s.node.run task s.clock false, s.clock⟩ := by
  refine ⟨fun h => ?_, .node rfl (.run htask)⟩
  rw [hreads] at h
  cases h

/- At time 0 the ACK of meter 9 arrives at node 1, which schedules the meter. -/
def ackEvents : List LifeEvent :=
  [.node (.ack 9 NodeState.meterIp (some 0)),
    .node (.run (.ackDevice 9 NodeState.meterIp (some 0)) 0 false),
    .node (.run (.ackStatus 9 (some 0)) 0 false), .node (.run (.ackUpdate 9 0) 0 false),
    .node (.run (.ackSchedule 9) 0 false)]

theorem acked_run : Run (Guarded (Reliable 9) Step) ⟨NodeState.waitingForAck, 0⟩ ackEvents
    ⟨NodeState.acked, 0⟩ := by
  refine .cons ⟨trivial, .node trivial .ack⟩ ?_
  refine .cons (turn_step rfl List.mem_cons_self) ?_
  refine .cons (turn_step rfl List.mem_cons_self) ?_
  refine .cons (turn_step rfl List.mem_cons_self) ?_
  exact .single (turn_step rfl List.mem_cons_self)

/- The meter has moved, and asks. -/
def movedIp : PrintedIp := .v4 "10.0.0.10"

def moveEvents (clock : Int) : List LifeEvent :=
  [.node (.ipUpdate 9 movedIp), .node (.run (.ipDevice 9 movedIp) clock false),
    .node (.run (.ipModify 9 (.new 9 movedIp none)) clock false)]

def asked (s : Life) : NodeState :=
  (s.node.spawn (.ipDevice 9 movedIp)).run (.ipDevice 9 movedIp) s.clock false

def moved (s : Life) : Life :=
  ⟨s.asked.run (.ipModify 9 (.new 9 movedIp none)) s.clock false, s.clock⟩

theorem moved_run (hfound : .ipModify 9 (.new 9 movedIp none) ∈ s.asked.tasks) :
    Run (Guarded (Reliable 9) Step) s (moveEvents s.clock) s.moved := by
  refine .cons ⟨trivial, .node trivial .ipUpdate⟩ ?_
  refine .cons (turn_step rfl List.mem_cons_self) ?_
  exact .single (turn_step rfl hfound)

def meterAnswer (nextWakeTime : UInt64) : Message where
  version := currentProtocolVersion
  msgType := .registerResponse
  deviceId := 9
  seq := 8
  timestamp := 0
  payload := .registryResponse { flag := 0, nextWakeTime }
  mac := 0

/-- The meter is told the time for which it was just scheduled. -/
theorem ip_update_appointment_acked :
    Task.ipResponse true (moved ⟨NodeState.acked, 0⟩).node.db 7 0 (.ipRead 9) =
        some (meterAnswer 150) ∧
      ∃ id job, (moved ⟨NodeState.acked, 0⟩).node.dm.jobs.jobs.lookup id = some job ∧
        job.device = 9 ∧ some 150 = some (UInt64.ofInt (timestamp job.fireTime)) ∧
        0 < job.fireTime := by
  have hread : Guarded (Reliable 9) Step (moved ⟨NodeState.acked, 0⟩)
      (.node (.run (.ipRead 9) 0 false))
      ⟨(moved ⟨NodeState.acked, 0⟩).node.run (.ipRead 9) 0 false, 0⟩ := by
    refine ⟨fun _ row hrow => ?_, .node rfl (.run List.mem_cons_self)⟩
    obtain rfl := Option.some.inj (hrow.symm.trans rfl)
    exact ⟨by decide, by decide⟩
  have hresponse : Task.ipResponse true (moved ⟨NodeState.acked, 0⟩).node.db 7 0 (.ipRead 9) =
      some (meterAnswer 150) := by decide +kernel
  have hrun := acked_run.append (moved_run List.mem_cons_self)
  exact ⟨hresponse, ip_update_appointment rfl rfl hrun hread hresponse⟩

/- The meter was to be woken after two and a half minutes. The node stops before that and is
   up again after ten: it marks the connection as lost and creates no job. -/
def overdueRounds : List ReloadRound :=
  [⟨InnerDB.awaitingConnection 9 (150 * nanosPerSec) 0, 600 * nanosPerSec, none⟩]

def restartedManager : DeviceManager :=
  ⟨1, {9}, ⟨1, NodeState.acked.dm.jobs.restarted, none, 1, true⟩⟩

def overdue : Life where
  node := ⟨NodeState.acked.db.updateScheduledConnection
    (InnerDB.awaitingConnection 9 (150 * nanosPerSec) 0).lost, restartedManager, []⟩
  clock := 600 * nanosPerSec

theorem overdue_step : Step ⟨NodeState.acked, 0⟩
    (.restart restartedManager overdueRounds (600 * nanosPerSec)) overdue :=
  .restart (by decide) rfl rfl rfl

/-- The meter then asks, and is told the time that has passed. -/
theorem ip_update_appointment_overdue :
    ¬ ∀ (s t u : Life) (es : List LifeEvent) (task : Task) (answered checks : Bool)
      (seq : UInt32) (sentAt : Int) (response : Message),
      s.node.db.scheduledConnections = ∅ → s.node.tasks = [] → Run Step s es t →
      Step t (.node (.run task t.clock answered)) u →
      task.ipResponse checks t.node.db seq sentAt = some response →
      ∃ id job, t.node.dm.jobs.jobs.lookup id = some job ∧ job.device = response.deviceId ∧
        response.nextWakeTime = some (UInt64.ofInt (timestamp job.fireTime)) ∧
        t.clock < job.fireTime := by
  intro h
  have hmove : Run Step overdue (moveEvents overdue.clock) overdue.moved :=
    (moved_run List.mem_cons_self).of_guarded
  have hread : Step overdue.moved (.node (.run (.ipRead 9) overdue.clock false)) _ :=
    .node rfl (.run List.mem_cons_self)
  have hresponse : Task.ipResponse true overdue.moved.node.db 7 0 (.ipRead 9) =
      some (meterAnswer 150) := by decide +kernel
  obtain ⟨id, job, hjob, -⟩ := h _ _ _ _ _ _ _ _ _ _ rfl rfl
    (acked_run.of_guarded.append (.cons overdue_step hmove)) hread hresponse
  exact absurd (hjob.symm.trans (Finmap.lookup_empty id)) (by simp)

end Life

end HeadEnd
