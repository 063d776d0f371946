import HeadEnd.Tasks

/-! Does a node that takes a device over also wake it? -/
namespace HeadEnd
open Transition DeviceManager

namespace NodeState
variable {s t : NodeState} {d : Uuid}

/-- The bucket of the device is one of the node's buckets. -/
def InSlot (s : NodeState) (d : Uuid) : Prop :=
  ∃ bucket, s.db.getBucketNumber d = .ok bucket ∧
    (s.dm.scheduler.testMode = false →
      Scheduler.asUsize bucket < s.dm.scheduler.bucketNumber)

/-- Two schedulers that share out the day in the same way. -/
def SameDay (s t : Scheduler) : Prop := s.bucketNumber = t.bucketNumber ∧ s.testMode = t.testMode

theorem InSlot.congr (h : s.InSlot d) (hday : SameDay t.dm.scheduler s.dm.scheduler)
    (hbucket : t.db.getBucketNumber d = s.db.getBucketNumber d) : t.InSlot d := by
  obtain ⟨bucket, hb, hlt⟩ := h
  refine ⟨bucket, hbucket.trans hb, fun htest => ?_⟩
  rw [hday.1]
  exact hlt (hday.2 ▸ htest)

/-- What happens between the registration of a device and its ACK: the tasks of
the node, and anything else that leaves the bucket of the device and the
configuration alone, such as the calls of other nodes. -/
inductive Between (d : Uuid) : NodeState → Option NodeEvent → NodeState → Prop
  | own {s t : NodeState} {e : NodeEvent} : s.Step e t → Between d s (some e) t
  | other {s t : NodeState} : SameDay t.dm.scheduler s.dm.scheduler →
      t.db.getBucketNumber d = s.db.getBucketNumber d → Between d s none t

/-- A registration puts the device into one of the node's buckets. -/
theorem inSlot_register {db db' : InnerDB} {dm dm' : DeviceManager} {now nextWake : Int}
    {device : Device} {tasks : List Task}
    (h : dm.registerDevice db now device = .ok (db', dm', nextWake)) :
    InSlot ⟨db', dm', tasks⟩ device.id := by
  obtain ⟨rfl, rfl, hnext⟩ := registerDevice_eq_ok h
  refine ⟨_, InnerDB.getBucketNumber_addDeviceToBucket_self _ _ _ _, fun htest => ?_⟩
  exact Nat.lt_of_le_of_lt (Scheduler.asUsize_natCast_le _)
    (db.getBucketWithLessDevices_lt (Scheduler.bucketNumber_pos hnext htest))

theorem sameDay_accept (now : Int) (devices : List DelegatedDevice) (st : InnerDB × DeviceManager) :
    SameDay (devices.foldl (acceptDevice now) st).2.scheduler st.2.scheduler := by
  induction devices generalizing st with
  | nil => exact ⟨rfl, rfl⟩
  | cons e devices ih => exact ih (acceptDevice now st e)

theorem getBucketNumber_accept (now : Int) (devices : List DelegatedDevice)
    (st : InnerDB × DeviceManager) :
    (devices.foldl (acceptDevice now) st).1.getBucketNumber d = st.1.getBucketNumber d := by
  induction devices generalizing st with
  | nil => rfl
  | cons e devices ih =>
    rw [List.foldl_cons, ih]
    exact InnerDB.getBucketNumber_setDeviceOwner _ _ _ _

theorem InSlot.write {task : Task} {now : Int} {db' : InnerDB} {dm' : DeviceManager}
    {tasks : List Task} (h : s.InSlot d) (hw : Task.Write now s.db s.dm task db' dm') :
    InSlot ⟨db', dm', tasks⟩ d := by
  cases hw with
  | @register device time db' dm' nextWake hr =>
    by_cases hd : d = device.id
    · subst hd
      exact inSlot_register hr
    · obtain ⟨rfl, rfl, -⟩ := registerDevice_eq_ok hr
      exact h.congr ⟨rfl, rfl⟩ (InnerDB.getBucketNumber_addDeviceToBucket_of_ne _ _ _ hd)
  | schedule _ hr =>
    obtain ⟨-, t, -, -, rfl, rfl⟩ := scheduleNextWakeup_eq_ok hr
    exact h.congr ⟨rfl, rfl⟩ rfl
  | _ => exact h.congr ⟨rfl, rfl⟩ rfl

theorem InSlot.step {e : Option NodeEvent} (h : s.InSlot d) (hstep : Between d s e t) :
    t.InSlot d := by
  cases hstep with
  | other hday hbucket => exact h.congr hday hbucket
  | own hstep =>
    cases hstep with
    | run htask => exact h.write (Task.turn_write _)
    | delegate => exact h.congr (sameDay_accept _ _ _) (getBucketNumber_accept _ _ _)
    | _ => exact h.congr ⟨rfl, rfl⟩ rfl

/-- The next wake-up of a device in one of the node's buckets lies ahead. -/
theorem InSlot.pendingAfter {db' : InnerDB} {dm' : DeviceManager} {now : Int} (h : s.InSlot d)
    (hr : s.dm.scheduleNextWakeup s.db now d = .ok (db', dm')) : dm'.jobs.PendingAfter d now := by
  obtain ⟨bucket, t, hbucket, hnext, -, rfl⟩ := scheduleNextWakeup_eq_ok hr
  obtain ⟨bucket', hbucket', hlt⟩ := h
  cases hbucket.symm.trans hbucket'
  exact (JobScheduler.pendingAfter_submit (Int.le_refl now)).mpr
    (.inl ⟨rfl, Scheduler.nextWakeup_after hlt hnext⟩)

end NodeState

/-- The device whose ACK the task handles. -/
def Task.acks : Task → Option Uuid
  | ackDevice d _ _ | ackStatus d _ | ackUpdate d _ | ackSchedule d => some d
  | _ => none

/-- The handler of an ACK returns normally from its last call only: the read of a
registration that is not pending, or the scheduling of the device. -/
theorem Task.turn_of_acks {task : Task} {db : InnerDB} {dm : DeviceManager} {now : Int}
    {answered : Bool} {d : Uuid} (htask : task.acks = some d)
    (h : (task.turn db dm now answered).answer = some (.ok ())) :
    (task ≠ ackSchedule d ∧ (task.turn db dm now answered).dm = dm) ∨
      (task = ackSchedule d ∧
        ∃ r, dm.scheduleNextWakeup db now d = .ok r ∧ (task.turn db dm now answered).dm = r.2) := by
  cases task with
  | ackSchedule e =>
    obtain rfl : e = d := Option.some.inj htask
    refine .inr ⟨rfl, ?_⟩
    simp only [turn, scheduleSection] at h ⊢
    cases hr : dm.scheduleNextWakeup db now e with
    | error err => simp [hr] at h
    | ok r => exact ⟨r, rfl, rfl⟩
  | ackDevice e ip time =>
    refine .inl ⟨by simp, ?_⟩
    simp only [turn]
    repeat' split
    all_goals rfl
  | ackStatus e time =>
    refine .inl ⟨by simp, ?_⟩
    simp only [turn]
    repeat' split
    all_goals rfl
  | ackUpdate e time =>
    refine .inl ⟨by simp, ?_⟩
    simp only [turn]
    split
    all_goals rfl
  | _ => cases htask

namespace DeviceManager
variable {db : InnerDB} {dm : DeviceManager} {now : Int}

theorem acceptDelegation_wakes_iff {devices : List DelegatedDevice} {accepted : Int}
    (hle : accepted ≤ now) :
    (∀ d ∈ (dm.acceptDelegation db accepted devices).2.1.ownedDevices, d ∉ dm.ownedDevices →
        (dm.acceptDelegation db accepted devices).2.1.jobs.PendingAfter d now) ↔
      ∀ d ∈ devices.map DelegatedDevice.deviceId, d ∉ dm.ownedDevices →
        (∃ e ∈ devices, e.deviceId = d ∧ now < wholeSecond e.scheduleTime) ∨
          dm.jobs.PendingAfter d now := by
  have hjob : ∀ d, (dm.acceptDelegation db accepted devices).2.1.jobs.PendingAfter d now ↔ _ :=
    fun d => foldl_acceptDevice_pendingAfter accepted (db, dm) hle devices d
  constructor
  · intro h d hd hnew
    refine (hjob d).mp (h d ?_ hnew)
    rw [acceptDelegation_ownedDevices]
    exact Finset.mem_union_right _ (List.mem_toFinset.mpr hd)
  · intro h d hd hnew
    rw [acceptDelegation_ownedDevices, Finset.mem_union, List.mem_toFinset] at hd
    exact (hjob d).mpr (h d (hd.resolve_left hnew) hnew)

theorem redistributeFromFailed_wakes_iff {others : List (Uuid × Nat)} {orphaned : List Uuid} :
    (∀ d ∈ (redistributeFromFailed db dm others orphaned).2.ownedDevices, d ∉ dm.ownedDevices →
        (redistributeFromFailed db dm others orphaned).2.jobs.PendingAfter d now) ↔
      ∀ i d, orphaned[i]? = some d →
        targetOf (allNodes dm.localNodeId dm.ownedDevices.card others) i = dm.localNodeId →
        d ∉ dm.ownedDevices → dm.jobs.PendingAfter d now := by
  rw [redistributeFromFailed_jobs]
  constructor
  · intro h i d hi htarget hnew
    exact h d (mem_redistributeFromFailed.mpr (.inl ⟨i, hi, htarget⟩)) hnew
  · intro h d hd hnew
    obtain ⟨i, hi, htarget⟩ := (mem_redistributeFromFailed.mp hd).resolve_right hnew
    exact h i d hi htarget hnew

theorem ack_wakes_iff {db' : InnerDB} {dm' : DeviceManager} {start nextWake : Int}
    {device : Device} {tasks : List Task} {es : List (Option NodeEvent)} {s : NodeState}
    {task : Task} {answered : Bool}
    (hr : dm.registerDevice db start device = .ok (db', dm', nextWake))
    (hrun : Run (NodeState.Between device.id) ⟨db', dm', tasks⟩ es s)
    (htask : task.acks = some device.id)
    (hok : (task.turn s.db s.dm now answered).answer = some (.ok ())) :
    (task.turn s.db s.dm now answered).dm.jobs.PendingAfter device.id now ↔
      task = .ackSchedule device.id ∨ s.dm.jobs.PendingAfter device.id now := by
  have hslot : s.InSlot device.id := Run.invariant (NodeState.InSlot · device.id)
    (fun _ _ _ h hstep => h.step hstep) hrun (NodeState.inSlot_register hr)
  cases Task.turn_of_acks htask hok with
  | inl hother =>
    rw [hother.2]
    exact (or_iff_right hother.1).symm
  | inr hlast =>
    obtain ⟨heq, ⟨db'', dm''⟩, hnext, hdm⟩ := hlast
    rw [hdm]
    exact iff_of_true (hslot.pendingAfter hnext) (.inl heq)

/-- When a node that takes a device over has a job for it that is still ahead: for a
delegation that was accepted by now, a failed node, and a registration with its ACK. -/
theorem takeover_wakes_iff (db : InnerDB) (dm : DeviceManager) (now : Int) :
    (∀ accepted ≤ now, ∀ devices,
      (∀ d ∈ (dm.acceptDelegation db accepted devices).2.1.ownedDevices, d ∉ dm.ownedDevices →
        (dm.acceptDelegation db accepted devices).2.1.jobs.PendingAfter d now) ↔
      ∀ d ∈ devices.map DelegatedDevice.deviceId, d ∉ dm.ownedDevices →
        (∃ e ∈ devices, e.deviceId = d ∧ now < wholeSecond e.scheduleTime) ∨
          dm.jobs.PendingAfter d now) ∧
    (∀ others orphaned,
      (∀ d ∈ (redistributeFromFailed db dm others orphaned).2.ownedDevices, d ∉ dm.ownedDevices →
        (redistributeFromFailed db dm others orphaned).2.jobs.PendingAfter d now) ↔
      ∀ i d, orphaned[i]? = some d →
        targetOf (allNodes dm.localNodeId dm.ownedDevices.card others) i = dm.localNodeId →
        d ∉ dm.ownedDevices → dm.jobs.PendingAfter d now) ∧
    (∀ start device db' dm' nextWake tasks es s (task : Task) answered,
      dm.registerDevice db start device = .ok (db', dm', nextWake) →
      Run (NodeState.Between device.id) ⟨db', dm', tasks⟩ es s →
      task.acks = some device.id → (task.turn s.db s.dm now answered).answer = some (.ok ()) →
      ((task.turn s.db s.dm now answered).dm.jobs.PendingAfter device.id now ↔
        task = .ackSchedule device.id ∨ s.dm.jobs.PendingAfter device.id now)) := by
  refine ⟨fun _ hle _ => acceptDelegation_wakes_iff hle,
    fun _ _ => redistributeFromFailed_wakes_iff, ?_⟩
  intro start device db' dm' nextWake tasks es s task answered hr hrun htask hok
  exact ack_wakes_iff hr hrun htask hok

/- Node 1 has no devices, one bucket, and runs in test mode. -/
def vacantManager : DeviceManager := ⟨1, ∅, ⟨1, .empty, some ∅, 1, true⟩⟩

def newMeter : Device := .new 9 (.v4 "10.0.0.9") none

/-- A new meter registers at node 1, and its ACK is scheduled at once. -/
theorem takeover_wakes_iff_registered :
    ((Task.ackSchedule 9).turn (InnerDB.new.addDeviceToBucket 9 0 1)
      { vacantManager with ownedDevices := insert 9 ∅ } 0 false).dm.jobs.PendingAfter 9 0 :=
  ((takeover_wakes_iff InnerDB.new vacantManager 0).2.2 0 newMeter _ _ _ [] []
    ⟨InnerDB.new.addDeviceToBucket 9 0 1, { vacantManager with ownedDevices := insert 9 ∅ }, []⟩
    (.ackSchedule 9) false rfl (.nil _) rfl rfl).mpr (.inl rfl)

/-- Node 3 fails and leaves device 9 to node 1, which has no job for it. -/
theorem takeover_without_job :
    ¬ ∀ (db : InnerDB) (dm : DeviceManager) failed others orphaned now,
      Lists orphaned (db.getDevicesByOwner failed) →
      ∀ d ∈ (redistributeFromFailed db dm others orphaned).2.ownedDevices, d ∉ dm.ownedDevices →
        (redistributeFromFailed db dm others orphaned).2.jobs.PendingAfter d now := by
  intro h
  have hlists : Lists [9] ((InnerDB.new.addDeviceToBucket 9 0 3).getDevicesByOwner 3) :=
    ⟨by decide, by decide +kernel⟩
  have hjob := h _ vacantManager 3 [] [9] 0 hlists 9 (by decide +kernel) (by decide)
  rw [redistributeFromFailed_jobs] at hjob
  obtain ⟨id, job, hlookup, -⟩ := hjob
  cases hlookup

end DeviceManager

end HeadEnd
