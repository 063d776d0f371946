import HeadEnd.Registration

/-! A registered device is not forgotten: it has a job, or a task that will schedule it or
give it up, or its connection is marked as lost. -/
namespace HeadEnd
open Transition

/-- The device has a bucket, and the bucket a time of day. -/
def Slotted (db : InnerDB) (dm : DeviceManager) (d : Uuid) : Prop :=
  ∃ row, db.buckets.lookup d = some row ∧
    (dm.scheduler.testMode = true ∨ Scheduler.asUsize row.bucket < dm.scheduler.bucketNumber)

def JobScheduler.Has (js : JobScheduler) (d : Uuid) : Prop := ∃ id, js.Pending d id

/-- The connection of the device was given up. -/
def InnerDB.Lost (db : InnerDB) (d : Uuid) : Prop :=
  ∃ row, db.scheduledConnections.lookup d = some row ∧ row.status = .lost

section
variable {db : InnerDB} {dm : DeviceManager} {d : Uuid} {now : Int}

theorem Slotted.getBucketNumber (h : Slotted db dm d) :
    ∃ bucket, db.getBucketNumber d = .ok bucket ∧
      (dm.scheduler.testMode = true ∨ Scheduler.asUsize bucket < dm.scheduler.bucketNumber) := by
  obtain ⟨row, hrow, hslot⟩ := h
  exact ⟨row.bucket, by rw [InnerDB.getBucketNumber, hrow], hslot⟩

/-- The next wake-up of a device that has a slot is not dropped. -/
theorem Slotted.lt_wholeSecond {bucket t : Int} (h : Slotted db dm d)
    (hbucket : db.getBucketNumber d = .ok bucket)
    (ht : dm.scheduler.nextWakeup now (Scheduler.asUsize bucket) = .ok t) :
    now < wholeSecond t := by
  obtain ⟨bucket', hbucket', hslot⟩ := h.getBucketNumber
  cases hbucket.symm.trans hbucket'
  refine Scheduler.nextWakeup_after (fun hmode => hslot.resolve_left fun htest => ?_) ht
  rw [hmode] at htest
  cases htest

theorem DeviceManager.exists_scheduleNextWakeup (h : Slotted db dm d) (now : Int) :
    ∃ r, dm.scheduleNextWakeup db now d = .ok r := by
  obtain ⟨bucket, hbucket, hslot⟩ := h.getBucketNumber
  obtain ⟨t, ht⟩ : ∃ t, dm.scheduler.nextWakeup now (Scheduler.asUsize bucket) = .ok t := by
    cases hslot with
    | inl htest => exact ⟨_, if_pos htest⟩
    | inr hlt =>
      exact (Scheduler.exists_nextWakeup_iff now fun _ => hlt).mpr (.inr (Nat.zero_lt_of_lt hlt))
  simp only [scheduleNextWakeup, Scheduler.scheduleNextWakeupJob, hbucket, ht]
  exact ⟨_, rfl⟩

/-- The bucket that a registration chooses is one of the node's own. -/
theorem slotted_register {nextWake : Int} (h : dm.scheduler.nextWakeup now
      (db.getBucketWithLessDevices dm.scheduler.bucketNumber) = .ok nextWake) :
    Slotted (db.addDeviceToBucket d (db.getBucketWithLessDevices dm.scheduler.bucketNumber)
      dm.scheduler.localNodeId) { dm with ownedDevices := insert d dm.ownedDevices } d := by
  refine ⟨_, Finmap.lookup_insert _, ?_⟩
  by_cases htest : dm.scheduler.testMode = true
  · exact .inl htest
  · have hpos := Scheduler.bucketNumber_pos h (Bool.eq_false_iff.mpr htest)
    have hlt := db.getBucketWithLessDevices_lt hpos
    exact .inr (Nat.lt_of_le_of_lt (Scheduler.asUsize_natCast_le _) hlt)

theorem JobScheduler.has_submit {js : JobScheduler} {job : Job} (h : now < job.fireTime) :
    (js.submit now job).Has job.device :=
  ⟨js.nextId, pending_submit.mpr (.inl ⟨h, rfl, rfl⟩)⟩

theorem InnerDB.Lost.update (h : db.Lost d) {row : ScheduledConnection}
    (hrow : d = row.fkDevice → row.status = .lost) : (db.updateScheduledConnection row).Lost d := by
  obtain ⟨old, hold, hstatus⟩ := h
  have hlookup := db.lookup_updateScheduledConnection row d
  by_cases hd : d = row.fkDevice
  · exact ⟨row, hlookup.trans (if_pos hd), hrow hd⟩
  · exact ⟨old, (hlookup.trans (if_neg hd)).trans hold, hstatus⟩

end

/-- What a change leaves to a device: its slot, its connection and its jobs. A job comes with
a connection, and the connection of a device with a slot, once given up, comes back only with
a job. -/
structure Keeps (d : Uuid) (st st' : InnerDB × DeviceManager) : Prop where
  slot : Slotted st.1 st.2 d → Slotted st'.1 st'.2 d
  row : d ∈ st.1.scheduledConnections → d ∈ st'.1.scheduledConnections
  has : st.2.jobs.Has d → st'.2.jobs.Has d
  row_of_has : st'.2.jobs.Has d → st.2.jobs.Has d ∨ d ∈ st'.1.scheduledConnections
  lost : Slotted st.1 st.2 d → st.1.Lost d → st'.1.Lost d ∨ st'.2.jobs.Has d

namespace Keeps
variable {d : Uuid} {st st₁ st' : InnerDB × DeviceManager}

theorem refl (st : InnerDB × DeviceManager) : Keeps d st st :=
  ⟨id, id, id, .inl, fun _ => .inl⟩

theorem trans (h : Keeps d st st₁) (h' : Keeps d st₁ st') : Keeps d st st' where
  slot := h'.slot ∘ h.slot
  row := h'.row ∘ h.row
  has := h'.has ∘ h.has
  row_of_has hhas := by
    cases h'.row_of_has hhas with
    | inl hhas => exact (h.row_of_has hhas).imp id h'.row
    | inr hrow => exact .inr hrow
  lost hslot hlost := by
    cases h.lost hslot hlost with
    | inl hlost => exact h'.lost (h.slot hslot) hlost
    | inr hhas => exact .inr (h'.has hhas)

theorem update {row : ScheduledConnection}
    (h : st.1.Lost d → d = row.fkDevice → row.status = .lost) :
    Keeps d st (st.1.updateScheduledConnection row, st.2) :=
  ⟨id, fun hrow => Finmap.mem_insert.mpr (.inr hrow), id, .inl,
    fun _ hlost => .inl (hlost.update (h hlost))⟩

/-- A job is created and put on record. -/
theorem schedule {dm : DeviceManager} {e : Uuid} {now t fireTime : Int} {id : JobId}
    (hjobs : dm.jobs = st.2.jobs.submit now ⟨e, fireTime⟩)
    (hahead : Slotted st.1 st.2 d → d = e → now < fireTime)
    (hconfig : dm.scheduler.testMode = st.2.scheduler.testMode ∧
      dm.scheduler.bucketNumber = st.2.scheduler.bucketNumber) :
    Keeps d st (st.1.scheduleConnection e t id, dm) where
  slot := by
    rw [Slotted, Slotted, hconfig.1, hconfig.2]
    exact fun h => h
  row hrow := Finmap.mem_insert.mpr (.inr hrow)
  has hhas := by
    obtain ⟨j, hj⟩ := hhas
    exact ⟨j, hjobs ▸ JobScheduler.pending_submit.mpr (.inr hj)⟩
  row_of_has hhas := by
    obtain ⟨j, hj⟩ := hhas
    rw [hjobs] at hj
    cases JobScheduler.pending_submit.mp hj with
    | inl hnew => exact .inr (Finmap.mem_insert.mpr (.inl hnew.2.2.symm))
    | inr hold => exact .inl ⟨j, hold⟩
  lost hslot hlost := by
    by_cases hd : d = e
    · have hhas := @JobScheduler.has_submit now st.2.jobs ⟨e, fireTime⟩ (hahead hslot hd)
      rw [← hjobs] at hhas
      exact .inr (hd ▸ hhas)
    · exact .inl (hlost.update fun heq => absurd heq hd)

theorem setDeviceOwner {e nodeId : Uuid} : Keeps d st (st.1.setDeviceOwner e nodeId, st.2) := by
  refine ⟨fun hslot => ?_, fun hrow => ?_, id, .inl, fun _ hlost => .inl ?_⟩
  · obtain ⟨row, hrow, htime⟩ := hslot
    unfold InnerDB.setDeviceOwner
    split
    next old hold =>
      by_cases hd : d = e
      · subst hd
        obtain rfl := Option.some.inj (hold.symm.trans hrow)
        exact ⟨_, Finmap.lookup_insert _, htime⟩
      · exact ⟨row, (Finmap.lookup_insert_of_ne _ hd).trans hrow, htime⟩
    next => exact ⟨row, hrow, htime⟩
  · rw [InnerDB.setDeviceOwner_scheduledConnections]
    exact hrow
  · rw [InnerDB.Lost, InnerDB.setDeviceOwner_scheduledConnections]
    exact hlost

theorem acceptDelegation {now : Int} {devices : List DelegatedDevice}
    (h : ∀ e ∈ devices, now < wholeSecond e.scheduleTime) :
    Keeps d st (devices.foldl (DeviceManager.acceptDevice now) st) := by
  induction devices generalizing st with
  | nil => exact refl st
  | cons device devices ih =>
    refine trans ?_ (ih fun e he => h e (List.mem_cons_of_mem _ he))
    exact setDeviceOwner.trans (@schedule d (st.1.setDeviceOwner _ _, st.2) _ _ _ _ _ _ rfl
      (fun _ _ => h device List.mem_cons_self) ⟨rfl, rfl⟩)

end Keeps

namespace Task
variable {db db' : InnerDB} {dm dm' : DeviceManager} {now : Int} {answered : Bool} {d : Uuid}
  {task : Task}

/-- The device that the task, or what follows from it, will schedule or give up. -/
def attends : Task → Option Uuid
  | ackSchedule d | wakeUp d | session d _ | talking d _ _ | battery d | lostRead d
  | reschedule d => some d
  | lostWrite row => some row.fkDevice
  | _ => none

/-- A row that is about to be written gives its connection up. -/
def Gives : Task → Prop
  | lostWrite row => row.status = .lost
  | _ => True

theorem gives_of_next {t : Task} (h : t ∈ (task.turn db dm now answered).next) : t.Gives := by
  cases t with
  | lostWrite row =>
    cases hleads : turn_next h with
    | @lostWrite d _ hrow =>
      simp only [turn] at h
      split at h
      next => cases h
      next =>
        obtain rfl := lostWrite.inj (List.mem_singleton.mp h)
        rfl
  | _ => trivial

theorem Write.keeps (h : Write now db dm task db' dm') (hgives : task.Gives) :
    Keeps d (db, dm) (db', dm') := by
  cases h with
  | @register device time _ _ nextWake hr =>
    obtain ⟨rfl, rfl, hwake⟩ := DeviceManager.registerDevice_eq_ok hr
    refine ⟨fun hslot => ?_, id, id, .inl, fun _ => .inl⟩
    by_cases hd : d = device.id
    · subst hd
      exact slotted_register hwake
    · obtain ⟨row, hrow, htime⟩ := hslot
      exact ⟨row, (Finmap.lookup_insert_of_ne _ hd).trans hrow, htime⟩
  | schedule _ hr =>
    obtain ⟨bucket, t, hbucket, ht, rfl, rfl⟩ := DeviceManager.scheduleNextWakeup_eq_ok hr
    exact @Keeps.schedule d (db, dm) _ _ _ _ _ _ rfl
      (fun hslot hd => hslot.lt_wholeSecond (hd ▸ hbucket) ht) ⟨rfl, rfl⟩
  | @battery e old hold =>
    refine @Keeps.update d (db, dm) _ fun hlost heq => ?_
    obtain ⟨row, hrow, hstatus⟩ := hlost
    have hkey : d = e := heq.trans (db.connections_keyed e old hold)
    rw [hkey, hold] at hrow
    exact Option.some.inj hrow ▸ hstatus
  | lost => exact @Keeps.update d (db, dm) _ fun _ _ => hgives
  | nothing | device _ | pending | settled _ _ => exact ⟨id, id, id, .inl, fun _ => .inl⟩

theorem scheduleSection_has (h : Slotted db dm d) (next : List Task)
    (answer : Option (Except BackdoorError Unit)) :
    (scheduleSection db dm now d next answer).dm.jobs.Has d := by
  obtain ⟨⟨db', dm'⟩, hr⟩ := DeviceManager.exists_scheduleNextWakeup h now
  have hdm : (scheduleSection db dm now d next answer).dm = dm' := by rw [scheduleSection, hr]
  obtain ⟨bucket, t, hbucket, ht, -, hdm'⟩ := DeviceManager.scheduleNextWakeup_eq_ok hr
  rw [hdm, hdm']
  exact JobScheduler.has_submit (h.lt_wholeSecond hbucket ht)

/-- A task that attends to a device hands it on, schedules it or gives it up. -/
theorem attends_turn (h : task.attends = some d) (hslot : Slotted db dm d)
    (hrow : task.occupies = some d → d ∈ db.scheduledConnections) (hgives : task.Gives) :
    (∃ t ∈ (task.turn db dm now answered).next, t.attends = some d) ∨
      (task.turn db dm now answered).dm.jobs.Has d ∨
      (task.turn db dm now answered).db.Lost d := by
  cases task with
  | ackSchedule e | reschedule e =>
    obtain rfl := Option.some.inj h
    exact .inr (.inl (scheduleSection_has hslot _ _))
  | wakeUp e =>
    obtain rfl := Option.some.inj h
    refine .inl ?_
    simp only [turn]
    split
    next => exact ⟨_, List.mem_singleton_self _, rfl⟩
    next =>
      split
      all_goals exact ⟨_, List.mem_singleton_self _, rfl⟩
  | session e attempt => exact .inl ⟨_, List.mem_singleton_self _, h⟩
  | talking e attempt needsBattery =>
    obtain rfl := Option.some.inj h
    refine .inl ?_
    simp only [turn]
    split_ifs
    all_goals exact ⟨_, List.mem_singleton_self _, rfl⟩
  | battery e =>
    obtain rfl := Option.some.inj h
    refine .inl ?_
    simp only [turn]
    split
    all_goals exact ⟨_, List.mem_singleton_self _, rfl⟩
  | lostRead e =>
    obtain rfl := Option.some.inj h
    obtain ⟨row, hlookup⟩ := Finmap.mem_iff.mp (hrow rfl)
    refine .inl ⟨lostWrite { row with status := .lost, renewable := false, jobId := none }, ?_, ?_⟩
    · simp only [turn, InnerDB.getScheduledConnection, hlookup]
      exact List.mem_singleton_self _
    · exact congrArg some (db.connections_keyed e row hlookup)
  | lostWrite row =>
    obtain rfl := Option.some.inj h
    exact .inr (.inr ⟨row, (db.lookup_updateScheduledConnection row _).trans (if_pos rfl), hgives⟩)
  | _ => cases h

/-- A device that has a registration had one, or this turn has written it. -/
theorem registered_before (h : (task.turn db dm now answered).db.registrationStatus d ≠ none) :
    db.registrationStatus d ≠ none ∨ ∃ time, task = registerRow d time := by
  have hre := @turn_restatus db dm now answered task d
  generalize hstatus : (task.turn db dm now answered).db.registrationStatus d = status at hre h
  cases hre with
  | same => exact .inl h
  | pending => exact .inr ⟨_, rfl⟩
  | expired hpend => exact .inl (by rw [hpend]; exact Option.some_ne_none _)
  | registered =>
    -- an update needs the row to be there
    refine .inl fun hnone => ?_
    rw [InnerDB.registrationStatus, Option.map_eq_none_iff] at hnone
    simp [turn, InnerDB.updateDeviceRegistration, hnone, InnerDB.registrationStatus] at hstatus

/-- Who is registered was so before, or is about to be scheduled. -/
theorem registered_turn
    (h : (task.turn db dm now answered).db.registrationStatus d = some .registered) :
    db.registrationStatus d = some .registered ∨
      ackSchedule d ∈ (task.turn db dm now answered).next := by
  have hre := @turn_restatus db dm now answered task d
  generalize hstatus : (task.turn db dm now answered).db.registrationStatus d = status at hre h
  cases hre with
  | same => exact .inl h
  | pending => cases h
  | expired _ => cases h
  | @registered time =>
    cases hrow : db.deviceRegistration.lookup d with
    | none =>
      simp [turn, InnerDB.updateDeviceRegistration, hrow, InnerDB.registrationStatus] at hstatus
    | some row =>
      refine .inr ?_
      simp only [turn, InnerDB.updateDeviceRegistration, hrow]
      exact List.mem_singleton_self _

theorem slotted_of_next {time : Int}
    (h : registerRow d time ∈ (task.turn db dm now answered).next) :
    Slotted (task.turn db dm now answered).db (task.turn db dm now answered).dm d := by
  cases hleads : turn_next h with
  | @registerRow device _ =>
    cases hr : dm.registerDevice db now device with
    | error e => simp [turn, hr] at h
    | ok r =>
      obtain ⟨db', dm', nextWake⟩ := r
      obtain ⟨rfl, rfl, hwake⟩ := DeviceManager.registerDevice_eq_ok hr
      simp only [turn, hr]
      exact slotted_register hwake

end Task

namespace NodeState
variable {s t : NodeState} {d : Uuid} {e : NodeEvent}

/-- The device has a job, or a task attends to it, or its connection was given up. -/
def Attended (s : NodeState) (d : Uuid) : Prop :=
  s.dm.jobs.Has d ∨ (∃ task ∈ s.tasks, task.attends = some d) ∨ s.db.Lost d

/-- Whoever may be scheduled has a slot, whoever may be given up has a connection, and no
registered device is forgotten. -/
structure Attentive (s : NodeState) : Prop where
  slots : ∀ d, s.db.registrationStatus d ≠ none → Slotted s.db s.dm d
  rowing : ∀ d time, .registerRow d time ∈ s.tasks → Slotted s.db s.dm d
  rows : ∀ d, s.dm.jobs.Has d → d ∈ s.db.scheduledConnections
  busy : ∀ task ∈ s.tasks, ∀ d, task.occupies = some d → d ∈ s.db.scheduledConnections
  gives : ∀ task ∈ s.tasks, task.Gives
  attended : ∀ d, s.db.registrationStatus d = some .registered → s.Attended d

/-- A message has come in. -/
theorem Attentive.spawn (h : s.Attentive) {task : Task}
    (hrow : ∀ d time, task ≠ .registerRow d time) (hidle : task.occupies = none)
    (hgives : task.Gives) : (s.spawn task).Attentive where
  slots := h.slots
  rowing d time hmem := h.rowing d time ((List.mem_cons.mp hmem).resolve_left (hrow d time).symm)
  rows := h.rows
  busy := by
    refine List.forall_mem_cons.mpr ⟨fun d hd => ?_, h.busy⟩
    rw [hidle] at hd
    cases hd
  gives := List.forall_mem_cons.mpr ⟨hgives, h.gives⟩
  attended d hd := by
    refine (h.attended d hd).imp id (.imp (fun htask => ?_) id)
    obtain ⟨u, hu, hud⟩ := htask
    exact ⟨u, List.mem_cons_of_mem _ hu, hud⟩

theorem Attentive.attended_run (h : s.Attentive) {task : Task} (htask : task ∈ s.tasks) {now : Int}
    {answered : Bool}
    (hd : (s.run task now answered).db.registrationStatus d = some .registered) :
    (s.run task now answered).Attended d := by
  have hkeeps : Keeps d (s.db, s.dm) ((s.run task now answered).db, (s.run task now answered).dm) :=
    run_write.keeps (h.gives task htask)
  have hnext : ∀ u ∈ (task.turn s.db s.dm now answered).next, u.attends = some d →
      (s.run task now answered).Attended d :=
    fun u hu hud => .inr (.inl ⟨u, List.mem_append_left _ hu, hud⟩)
  cases Task.registered_turn hd with
  | inr hnew => exact hnext _ hnew rfl
  | inl hold =>
    have hslot := h.slots d (by rw [hold]; exact Option.some_ne_none _)
    obtain hhas | ⟨u, hu, hud⟩ | hlost := h.attended d hold
    · exact .inl (hkeeps.has hhas)
    · by_cases hut : u = task
      · subst hut
        obtain ⟨v, hv, hvd⟩ | hhas | hlost :=
          Task.attends_turn hud hslot (h.busy u hu d) (h.gives u hu)
        · exact hnext v hv hvd
        · exact .inl hhas
        · exact .inr (.inr hlost)
      · exact .inr (.inl ⟨u, List.mem_append_right _ ((List.mem_erase_of_ne hut).mpr hu), hud⟩)
    · cases hkeeps.lost hslot hlost with
      | inl hlost => exact .inr (.inr hlost)
      | inr hhas => exact .inl hhas

theorem Attentive.run (h : s.Attentive) {task : Task} (htask : task ∈ s.tasks) {now : Int}
    {answered : Bool} : (s.run task now answered).Attentive := by
  have hkeeps : ∀ d, Keeps d (s.db, s.dm)
      ((s.run task now answered).db, (s.run task now answered).dm) :=
    fun d => run_write.keeps (h.gives task htask)
  refine ⟨fun d hd => (hkeeps d).slot ?_, fun d time hmem => ?_, fun d hd => ?_,
    fun u hu d hd => (hkeeps d).row ?_, fun u hu => ?_, fun d hd => h.attended_run htask hd⟩
  · cases Task.registered_before hd with
    | inl hknown => exact h.slots d hknown
    | inr hrow =>
      obtain ⟨time, rfl⟩ := hrow
      exact h.rowing d time htask
  · cases List.mem_append.mp hmem with
    | inl hnew => exact Task.slotted_of_next hnew
    | inr hold => exact (hkeeps d).slot (h.rowing d time (List.mem_of_mem_erase hold))
  · cases (hkeeps d).row_of_has hd with
    | inl hold => exact (hkeeps d).row (h.rows d hold)
    | inr hnew => exact hnew
  · cases mem_run_tasks hu with
    | inl hnew => exact h.busy task htask d (hnew.occupies hd)
    | inr hold => exact h.busy u hold d hd
  · cases List.mem_append.mp hu with
    | inl hnew => exact Task.gives_of_next hnew
    | inr hold => exact h.gives u (List.mem_of_mem_erase hold)

/-- A job that fires leaves a task behind. -/
theorem Attentive.fire (h : s.Attentive) {id : JobId} {job : Job}
    (hjob : s.dm.jobs.jobs.lookup id = some job) :
    Attentive ⟨s.db, removeJob s.dm id, .wakeUp job.device :: s.tasks⟩ where
  slots := h.slots
  rowing d time hmem := by
    refine h.rowing d time ((List.mem_cons.mp hmem).resolve_left ?_)
    exact Task.noConfusion
  rows d hd := by
    obtain ⟨j, hj⟩ := hd
    exact h.rows d ⟨j, (JobScheduler.pending_remove.mp hj).2⟩
  busy := by
    refine List.forall_mem_cons.mpr ⟨fun d hd => ?_, h.busy⟩
    exact h.rows d ⟨id, job, hjob, Option.some.inj hd⟩
  gives := List.forall_mem_cons.mpr ⟨trivial, h.gives⟩
  attended d hd := by
    obtain ⟨j, hj⟩ | ⟨u, hu, hud⟩ | hlost := h.attended d hd
    · by_cases hid : j = id
      · subst hid
        obtain ⟨job', hjob', hdevice⟩ := hj
        obtain rfl := Option.some.inj (hjob.symm.trans hjob')
        exact .inr (.inl ⟨_, List.mem_cons_self, congrArg some hdevice⟩)
      · exact .inl ⟨j, JobScheduler.pending_remove.mpr ⟨hid, hj⟩⟩
    · exact .inr (.inl ⟨u, List.mem_cons_of_mem _ hu, hud⟩)
    · exact .inr (.inr hlost)

/-- The clocks of a run are ones that can be read, not before the epoch, and the cron library
takes its times. Clocks stay two days short of the last one that it takes, so that it takes the
next wake-up. Times of delegated devices are ahead when these are accepted. -/
def InTime (_ : NodeState) : NodeEvent → Prop
  | .run _ now _ => 0 ≤ now ∧ now + 2 * secsPerDay * nanosPerSec ≤ Scheduler.cronEnd
  | .delegate now devices => 0 ≤ now ∧ ∀ e ∈ devices, Scheduler.Wakeable now e.scheduleTime
  | _ => True

theorem Attentive.delegate (h : s.Attentive) {now : Int} {devices : List DelegatedDevice}
    (htime : s.InTime (.delegate now devices)) :
    Attentive ⟨(s.dm.acceptDelegation s.db now devices).1,
      (s.dm.acceptDelegation s.db now devices).2.1, s.tasks⟩ := by
  have hkeeps : ∀ d, Keeps d (s.db, s.dm)
      (devices.foldl (DeviceManager.acceptDevice now) (s.db, s.dm)) :=
    fun d => .acceptDelegation fun e he => (htime.2 e he).1
  refine ⟨fun d hd => (hkeeps d).slot (h.slots d ?_),
    fun d time hmem => (hkeeps d).slot (h.rowing d time hmem), fun d hd => ?_,
    fun u hu d hd => (hkeeps d).row (h.busy u hu d hd), h.gives, fun d hd => ?_⟩
  · rwa [acceptDelegation_registrationStatus] at hd
  · cases (hkeeps d).row_of_has hd with
    | inl hold => exact (hkeeps d).row (h.rows d hold)
    | inr hnew => exact hnew
  · rw [acceptDelegation_registrationStatus] at hd
    obtain hhas | htask | hlost := h.attended d hd
    · exact .inl ((hkeeps d).has hhas)
    · exact .inr (.inl htask)
    · cases (hkeeps d).lost (h.slots d (by rw [hd]; exact Option.some_ne_none _)) hlost with
      | inl hlost => exact .inr (.inr hlost)
      | inr hhas => exact .inl hhas

theorem Attentive.step (h : s.Attentive) (hstep : Guarded InTime Step s e t) : t.Attentive := by
  obtain ⟨htime, hstep⟩ := hstep
  cases hstep with
  | register _ => exact h.spawn (fun _ _ => Task.noConfusion) rfl trivial
  | ack => exact h.spawn (fun _ _ => Task.noConfusion) rfl trivial
  | ipUpdate => exact h.spawn (fun _ _ => Task.noConfusion) rfl trivial
  | run htask => exact h.run htask
  | fire hjob => exact h.fire hjob
  | delegate => exact h.delegate htime

/-- However the tasks of a node take turns, as long as no time is refused and no delegated
device is overdue: a registered device has a job, or a task that will schedule it or give it up,
or its connection is marked as lost. If no task is left, it has a job or is lost. -/
theorem registered_attended {es : List NodeEvent} (hregs : s.db.deviceRegistration = ∅)
    (hjobs : s.dm.jobs.jobs = ∅) (htasks : s.tasks = []) (hrun : Run (Guarded InTime Step) s es t)
    (hd : t.db.registrationStatus d = some .registered) :
    t.Attended d ∧ (t.tasks = [] → t.dm.jobs.Has d ∨ t.db.Lost d) := by
  have hnone : ∀ d, s.db.registrationStatus d = none := by
    intro d
    rw [InnerDB.registrationStatus, hregs, Finmap.lookup_empty]
    rfl
  have hstart : s.Attentive := by
    refine ⟨fun d hd => absurd (hnone d) hd, fun d time h => ?_, fun d h => ?_, fun u hu => ?_,
      fun u hu => ?_, fun d hd => ?_⟩
    · rw [htasks] at h
      cases h
    · obtain ⟨id, job, hjob, -⟩ := h
      rw [hjobs, Finmap.lookup_empty] at hjob
      cases hjob
    · rw [htasks] at hu
      cases hu
    · rw [htasks] at hu
      cases hu
    · rw [hnone d] at hd
      cases hd
  have hattentive : t.Attentive :=
    hrun.invariant Attentive (fun _ _ _ h hstep => h.step hstep) hstart
  have hattended := hattentive.attended d hd
  refine ⟨hattended, fun hempty => ?_⟩
  obtain hhas | ⟨u, hu, -⟩ | hlost := hattended
  · exact .inl hhas
  · rw [hempty] at hu
    cases hu
  · exact .inr hlost

/- Meter 9 registers with a node that has no devices yet, and sends its ACK. -/
def bareNode : NodeState := ⟨InnerDB.new, ⟨1, ∅, ⟨1, .empty, some ∅, 1, true⟩⟩, []⟩

def meterSent : NodeState := bareNode.spawn (.registerAdd (Device.new 9 meterIp none) (some 0))
def meterAdded : NodeState :=
  meterSent.run (.registerAdd (Device.new 9 meterIp none) (some 0)) 0 false
def meterPlaced : NodeState :=
  meterAdded.run (.registerSection (Device.new 9 meterIp none) (some 0)) 0 false
def meterPending : NodeState := meterPlaced.run (.registerRow 9 0) 0 false
def meterAck : NodeState := meterPending.spawn (.ackDevice 9 meterIp (some 0))
def meterChecked : NodeState := meterAck.run (.ackDevice 9 meterIp (some 0)) 1 false
def meterDue : NodeState := meterChecked.run (.ackStatus 9 (some 0)) 1 false
def meterStored : NodeState := meterDue.run (.ackUpdate 9 0) 1 false
def meterScheduled : NodeState := meterStored.run (.ackSchedule 9) 1 false
def meterSettled : NodeState := meterScheduled.run (.ackTimeout 9) 5 false

/- It is then handed over to the node once more, at a time that is ahead. -/
def meterHanded : DelegatedDevice := ⟨9, some "10.0.0.9", none, 3600 * nanosPerSec⟩

def meterAccepted : NodeState :=
  ⟨(meterSettled.dm.acceptDelegation meterSettled.db 5 [meterHanded]).1,
    (meterSettled.dm.acceptDelegation meterSettled.db 5 [meterHanded]).2.1, meterSettled.tasks⟩

theorem registered_attended_meter : meterAccepted.dm.jobs.Has 9 ∨ meterAccepted.db.Lost 9 := by
  have hturn : ∀ (s : NodeState) (task : Task) (now : Int), 0 ≤ now ∧ now ≤ 5 →
      task ∈ s.tasks → Guarded InTime Step s (.run task now false) (s.run task now false) := by
    intro s task now hnow htask
    have hcron : Scheduler.cronEnd = 95649120000000000000 := by decide +kernel
    refine ⟨?_, .run htask⟩
    simp only [InTime, hcron, secsPerDay, nanosPerSec]
    omega
  have hsent : Guarded InTime Step bareNode (.register 9 meterIp none (some 0)) meterSent :=
    ⟨trivial, .register ⟨by decide, by decide, by decide, by decide⟩⟩
  have hadded := hturn meterSent (.registerAdd (Device.new 9 meterIp none) (some 0)) 0
    (by decide) (by decide +kernel)
  have hplaced := hturn meterAdded (.registerSection (Device.new 9 meterIp none) (some 0)) 0
    (by decide) (by decide +kernel)
  have hpending := hturn meterPlaced (.registerRow 9 0) 0 (by decide) (by decide +kernel)
  have hack : Guarded InTime Step meterPending (.ack 9 meterIp (some 0)) meterAck := ⟨trivial, .ack⟩
  have hchecked := hturn meterAck (.ackDevice 9 meterIp (some 0)) 1 (by decide) (by decide +kernel)
  have hdue := hturn meterChecked (.ackStatus 9 (some 0)) 1 (by decide) (by decide +kernel)
  have hstored := hturn meterDue (.ackUpdate 9 0) 1 (by decide) (by decide +kernel)
  have hscheduled := hturn meterStored (.ackSchedule 9) 1 (by decide) (by decide +kernel)
  have hsettled := hturn meterScheduled (.ackTimeout 9) 5 (by decide) (by decide +kernel)
  have haccepted : Guarded InTime Step meterSettled (.delegate 5 [meterHanded]) meterAccepted := by
    refine ⟨⟨by decide, fun e he => ?_⟩, .delegate⟩
    rw [List.mem_singleton.mp he]
    decide +kernel
  exact (registered_attended rfl rfl rfl (.cons hsent (.cons hadded (.cons hplaced (.cons hpending
    (.cons hack (.cons hchecked (.cons hdue (.cons hstored (.cons hscheduled
      (.cons hsettled (.single haccepted))))))))))) (by decide +kernel)).2 (by decide +kernel)

end NodeState

end HeadEnd
