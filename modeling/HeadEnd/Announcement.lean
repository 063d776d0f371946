import HeadEnd.Cadence
import HeadEnd.Cluster.DelegationWire
import HeadEnd.Session

/-! A device is told when it will be woken, when it registers and at the end of every
session. Each time the node computes the time of the job again, later and from another
reading of the clock. -/
namespace HeadEnd
open Transition DeviceManager HeadEnd.Messages

/-- How long a node waits for the ACK. -/
def ackTimeoutSecs : Int := 300

theorem ofInt_eq_ofInt_iff {x y : Int} (h : x - y < 2 ^ 64) (h' : y - x < 2 ^ 64) :
    UInt64.ofInt x = UInt64.ofInt y ↔ x = y := by
  constructor
  · intro heq
    have hnat := congrArg UInt64.toNat heq
    simp only [UInt64.ofInt, UInt64.toNat_ofNat'] at hnat
    omega
  · exact fun heq => heq ▸ rfl

/-- The wake-up time that a RegisterResponse carries. -/
def Messages.Message.nextWakeTime (msg : Message) : Option UInt64 :=
  match msg.payload with
  | .registryResponse response => some response.nextWakeTime
  | _ => none

namespace Scheduler
variable {s s' : Scheduler} {r a now t : Int} {bucket : Nat}

theorem nextWakeup_congr (h : NodeState.SameDay s s') :
    s.nextWakeup now bucket = s'.nextWakeup now bucket := by
  simp only [nextWakeup, getNextSchedule, getTimeFromBucketNumber, h.1, h.2]

/-- The detour of a bucket through the database. A bucket too large for a `usize` could only
come from more buckets than there are seconds, which all have the same slot. -/
theorem getTimeFromBucketNumber_asUsize (hb : bucket < s.bucketNumber) :
    s.getTimeFromBucketNumber (asUsize bucket) = s.getTimeFromBucketNumber bucket := by
  by_cases hsize : bucket < 2 ^ 64
  · rw [asUsize_of_lt hsize]
  · have hzero : secsPerDay / s.bucketNumber = 0 := Nat.div_eq_of_lt (by unfold secsPerDay; omega)
    simp only [getTimeFromBucketNumber, hzero, Nat.zero_mul]

theorem nextWakeup_asUsize (hb : s.testMode = false → bucket < s.bucketNumber) :
    s.nextWakeup now (asUsize bucket) = s.nextWakeup now bucket := by
  cases htest : s.testMode with
  | true => rw [nextWakeup_test htest, nextWakeup_test htest]
  | false => simp only [nextWakeup, getNextSchedule, getTimeFromBucketNumber_asUsize (hb htest)]

/-- Whether the two readings of the clock, `r` and `a`, make no difference. In test mode they
have to be in the same second. Otherwise, if they are in different hours, the slot must not
be in the hour after the next, nor in the first two hours of the day that has begun. -/
def Announces (s : Scheduler) (bucket : Nat) (r a : Int) : Prop :=
  if s.testMode then timestamp a = timestamp r
  else
    let hour := bucket * (secsPerDay / s.bucketNumber) / 3600
    hourOf a = hourOf r ∨ (hour ≠ hourOf r + 2 ∧ ¬ (hourOf r = 23 ∧ hour ≤ 1))

theorem hourOf_bounds (now : Int) : 0 ≤ hourOf now ∧ hourOf now < 24 := by
  unfold hourOf secsPerDay
  omega

/-- The ACK comes in the same hour or in the next one, which may be that of a new day. -/
theorem hourOf_cases (hle : r ≤ a) (hto : a ≤ r + ackTimeoutSecs * nanosPerSec) :
    (dayOf a = dayOf r ∧ (hourOf a = hourOf r ∨ hourOf a = hourOf r + 1)) ∨
      (dayOf a = dayOf r + 1 ∧ hourOf r = 23 ∧ hourOf a = 0) := by
  have hlow : timestamp r ≤ timestamp a := Int.ediv_le_ediv (by decide) hle
  have hhigh : timestamp a ≤ timestamp r + ackTimeoutSecs := by
    simp only [timestamp, nanosPerSec, ackTimeoutSecs] at hto ⊢
    omega
  simp only [hourOf, dayOf, secsPerDay, ackTimeoutSecs] at hhigh ⊢
  omega

theorem wakeDay_eq_iff {hour : Nat} (hhour : hour < 24) (hle : r ≤ a)
    (hto : a ≤ r + ackTimeoutSecs * nanosPerSec) :
    wakeDay r hour = wakeDay a hour ↔
      hourOf a = hourOf r ∨ (hour ≠ hourOf r + 2 ∧ ¬ (hourOf r = 23 ∧ hour ≤ 1)) := by
  have hr := wakeDay_cases r hour
  have ha := wakeDay_cases a hour
  have hnext := hourOf_cases hle hto
  have hrBounds := hourOf_bounds r
  have haBounds := hourOf_bounds a
  omega

theorem timestamp_slot (day : Int) (slot : Nat) :
    timestamp ((day * secsPerDay + slot) * nanosPerSec) = day * secsPerDay + slot := by
  unfold timestamp nanosPerSec
  omega

/-- The second computation succeeds like the first. -/
theorem nextWakeup_again (hb : s.testMode = false → bucket < s.bucketNumber)
    (ht : s.nextWakeup r bucket = .ok t) (hle : r ≤ a)
    (hto : a ≤ r + ackTimeoutSecs * nanosPerSec) :
    ∃ u, s.nextWakeup a bucket = .ok u ∧
      (UInt64.ofInt (timestamp t) = UInt64.ofInt (timestamp u) ↔ s.Announces bucket r a) := by
  cases htest : s.testMode with
  | true =>
    rw [nextWakeup_test htest, Except.ok.injEq] at ht
    refine ⟨_, nextWakeup_test htest, ?_⟩
    rw [Announces, if_pos htest, ← ht]
    simp only [timestamp, testModeWakeupSecs, ackTimeoutSecs, nanosPerSec] at hto ⊢
    rw [ofInt_eq_ofInt_iff (by omega) (by omega)]
    omega
  | false =>
    have hlt := hb htest
    have hslot := slot_lt hlt
    rw [nextWakeup_of_lt htest hlt, Except.ok.injEq] at ht
    refine ⟨_, nextWakeup_of_lt htest hlt a, ?_⟩
    rw [Announces, if_neg (by simp [htest]), ← ht, timestamp_slot, timestamp_slot,
      Nat.mul_comm bucket]
    generalize secsPerDay / s.bucketNumber * bucket = slot at hslot
    have hhour : slot / 3600 < 24 := by
      unfold secsPerDay at hslot
      omega
    have hdays := wakeDay_eq_iff hhour hle hto
    have hclose : wakeDay a (slot / 3600) - 2 ≤ wakeDay r (slot / 3600) ∧
        wakeDay r (slot / 3600) ≤ wakeDay a (slot / 3600) + 2 := by
      have hr := wakeDay_cases r (slot / 3600)
      have ha := wakeDay_cases a (slot / 3600)
      have hnext := hourOf_cases hle hto
      omega
    dsimp only
    rw [← hdays, ofInt_eq_ofInt_iff]
    all_goals
      unfold secsPerDay
      omega

end Scheduler

section Handler
variable {checks : Bool} {db : InnerDB} {dm : DeviceManager} {now sentAt : Int} {id : Uuid}
  {ip : PrintedIp} {msg response : Message} {timeout : Task}

theorem of_handle_completed
    (h : (handleBackdoorRegisterMsg checks db dm now sentAt id ip msg).outcome =
      .completed response timeout) :
    ∃ db' dm' nextWakeUp time,
      dm.registerDevice (db.addDevice (Device.new id ip msg.payload.imei)) now
        (Device.new id ip msg.payload.imei) = .ok (db', dm', nextWakeUp) ∧
      (handleBackdoorRegisterMsg checks db dm now sentAt id ip msg).db =
        db'.registerDevice (Device.new id ip msg.payload.imei).id time ∧
      (handleBackdoorRegisterMsg checks db dm now sentAt id ip msg).dm = dm' ∧
      response.nextWakeTime = some (UInt64.ofInt (timestamp nextWakeUp)) := by
  unfold handleBackdoorRegisterMsg at h ⊢
  by_cases hid : msg.deviceId ≠ 0
  · rw [if_pos hid] at h
    cases h
  · simp only [if_neg hid] at h ⊢
    generalize Device.new id ip msg.payload.imei = device at h ⊢
    cases hruns : dm.scheduler.runs now with
    | false =>
      rw [hruns] at h
      cases h
    | true =>
      simp only [hruns, Bool.not_true, Bool.false_eq_true, if_false] at h ⊢
      cases hreg : dm.registerDevice (db.addDevice device) now device with
      | error e =>
        simp only [hreg] at h
        split at h
        all_goals cases h
      | ok r =>
        obtain ⟨db', dm', nextWakeUp⟩ := r
        simp only [hreg] at h ⊢
        cases htime : msg.getTimestamp with
        | none =>
          rw [htime] at h
          cases h
        | some time =>
          simp only [htime] at h ⊢
          cases hseq : nextSeq checks msg.seq with
          | none =>
            rw [hseq] at h
            cases h
          | some seq =>
            simp only [hseq, newRegisterResponseMessage] at h ⊢
            by_cases hsent : sentAt < 0
            · rw [if_pos hsent] at h
              cases h
            · simp only [if_neg hsent] at h ⊢
              obtain ⟨rfl, -⟩ := RegisterOutcome.completed.inj h
              exact ⟨db', dm', nextWakeUp, time, rfl, rfl, rfl, rfl⟩

theorem placed_of_handle_completed {response : Message} {timeout : Task} {tasks : List Task}
    (h : (handleBackdoorRegisterMsg checks db dm now sentAt id ip msg).outcome =
      .completed response timeout) (htasks : ∀ task ∈ tasks, task.registers ≠ some id) :
    NodeState.Placed ⟨(handleBackdoorRegisterMsg checks db dm now sentAt id ip msg).db,
        (handleBackdoorRegisterMsg checks db dm now sentAt id ip msg).dm, tasks⟩ id
      dm.scheduler.bucketNumber dm.scheduler.testMode
      (db.getBucketWithLessDevices dm.scheduler.bucketNumber) := by
  obtain ⟨db', dm', nextWakeUp, time, hreg, hdb, hdm, -⟩ := of_handle_completed h
  obtain ⟨rfl, rfl, -⟩ := registerDevice_eq_ok hreg
  rw [hdb, hdm, device_new_id]
  exact ⟨rfl, rfl, InnerDB.getBucketNumber_addDeviceToBucket_self _ _ _ _, htasks⟩

end Handler

namespace NodeState
variable {s t : NodeState} {d : Uuid}

/-- What happens until the ACK is handled: the tasks of the node, and anything else that
leaves the bucket of the device, the tasks and the configuration alone. -/
inductive Meanwhile (d : Uuid) : NodeState → Option NodeEvent → NodeState → Prop
  | own {s t : NodeState} {e : NodeEvent} : s.Step e t → Meanwhile d s (some e) t
  | other {s t : NodeState} : SameDay t.dm.scheduler s.dm.scheduler →
      t.db.getBucketNumber d = s.db.getBucketNumber d → t.tasks = s.tasks → Meanwhile d s none t

theorem Placed.meanwhile {n : Nat} {testMode : Bool} {bucket : Int} {e : Option NodeEvent}
    (h : s.Placed d n testMode bucket) (hstep : Meanwhile d s e t) :
    t.Placed d n testMode bucket := by
  cases hstep with
  | own hone => exact h.step hone
  | other hday hbucket htasks => exact h.keep hday hbucket (htasks ▸ h.unregistered)

end NodeState

/-- A device that registers at `r` and whose ACK is handled at `a` is told the time at which
it will be woken, in normal and in test mode, exactly if the two readings of the clock make
no difference. -/
theorem announced_wake_time_iff {checks : Bool} {db : InnerDB} {dm : DeviceManager}
    {r a sentAt : Int} {id : Uuid} {ip : PrintedIp} {msg response : Message} {timeout : Task}
    {tasks : List Task} {es : List (Option NodeEvent)} {s : NodeState} (answered : Bool)
    (hdone : (handleBackdoorRegisterMsg checks db dm r sentAt id ip msg).outcome =
      .completed response timeout)
    (htasks : ∀ task ∈ tasks, task.registers ≠ some id)
    (hrun : Run (NodeState.Meanwhile id)
      ⟨(handleBackdoorRegisterMsg checks db dm r sentAt id ip msg).db,
        (handleBackdoorRegisterMsg checks db dm r sentAt id ip msg).dm, tasks⟩ es s)
    (hle : r ≤ a) (hto : a ≤ r + ackTimeoutSecs * nanosPerSec) :
    (∃ row, (s.run (.ackSchedule id) a answered).db.getScheduledConnection id = .ok row ∧
        response.nextWakeTime = some (UInt64.ofInt (timestamp row.scheduleTime))) ↔
      dm.scheduler.Announces (db.getBucketWithLessDevices dm.scheduler.bucketNumber) r a := by
  have hplaced : s.Placed id dm.scheduler.bucketNumber dm.scheduler.testMode
      (db.getBucketWithLessDevices dm.scheduler.bucketNumber) :=
    hrun.invariant (NodeState.Placed · id _ _ _) (fun _ _ _ h hstep => h.meanwhile hstep)
      (placed_of_handle_completed hdone htasks)
  obtain ⟨db', dm', told, time, hreg, -, -, hresponse⟩ := of_handle_completed hdone
  obtain ⟨-, -, hnext⟩ := registerDevice_eq_ok hreg
  have hlt : dm.scheduler.testMode = false →
      db.getBucketWithLessDevices dm.scheduler.bucketNumber < dm.scheduler.bucketNumber :=
    fun htest => db.getBucketWithLessDevices_lt (Scheduler.bucketNumber_pos hnext htest)
  obtain ⟨u, hu, hiff⟩ := Scheduler.nextWakeup_again hlt hnext hle hto
  have hagain : s.dm.scheduler.nextWakeup a
      (Scheduler.asUsize (db.getBucketWithLessDevices dm.scheduler.bucketNumber)) = .ok u := by
    rw [Scheduler.nextWakeup_congr ⟨hplaced.buckets, hplaced.mode⟩,
      Scheduler.nextWakeup_asUsize hlt, hu]
  have hrow := hplaced.schedule answered (Task.ackSchedule id) rfl hagain
  rw [← hiff, hresponse, InnerDB.getScheduledConnection, hrow]
  simp only [Except.ok.injEq, exists_eq_left', Option.some.injEq]
  rfl

/-- Node 1 has two buckets and no devices yet, and a meter registers at noon. -/
theorem announced_wake_time_noon :
    ∃ (s : NodeState) (response : Message) (timeout : Task) (row : ScheduledConnection),
      (handleBackdoorRegisterMsg true InnerDB.new freshManager (43200 * nanosPerSec)
        (43200 * nanosPerSec) 9 NodeState.meterIp (meterRequest 7 1000)).outcome =
          .completed response timeout ∧
      (s.run (.ackSchedule 9) (43260 * nanosPerSec) false).db.getScheduledConnection 9 = .ok row ∧
      response.nextWakeTime = some (UInt64.ofInt (timestamp row.scheduleTime)) := by
  obtain ⟨response, timeout, hdone⟩ : ∃ response timeout,
      (handleBackdoorRegisterMsg true InnerDB.new freshManager (43200 * nanosPerSec)
        (43200 * nanosPerSec) 9 NodeState.meterIp (meterRequest 7 1000)).outcome =
          .completed response timeout :=
    ⟨_, _, rfl⟩
  have hsame : freshManager.scheduler.Announces 0 (43200 * nanosPerSec) (43260 * nanosPerSec) :=
    .inl (by decide)
  obtain ⟨row, hrow, htold⟩ := (announced_wake_time_iff false hdone
    (fun task htask => absurd htask List.not_mem_nil) (.nil _) (by decide) (by decide)).mpr hsame
  exact ⟨_, response, timeout, row, hdone, hrow, htold⟩

/-- A meter registers a second before midnight and is told midnight. Its ACK is handled a
second after midnight, and it is woken a day later than it was told. -/
theorem announced_wake_time_missed :
    ¬ ∀ (checks : Bool) (db : InnerDB) (dm : DeviceManager) (r a sentAt : Int) (id : Uuid)
      (ip : PrintedIp) (msg response : Message) (timeout : Task) (tasks : List Task)
      (es : List (Option NodeEvent)) (s : NodeState) (answered : Bool),
      (handleBackdoorRegisterMsg checks db dm r sentAt id ip msg).outcome =
        .completed response timeout →
      (∀ task ∈ tasks, task.registers ≠ some id) →
      Run (NodeState.Meanwhile id)
        ⟨(handleBackdoorRegisterMsg checks db dm r sentAt id ip msg).db,
          (handleBackdoorRegisterMsg checks db dm r sentAt id ip msg).dm, tasks⟩ es s →
      r ≤ a → a ≤ r + ackTimeoutSecs * nanosPerSec →
      ∃ row, (s.run (.ackSchedule id) a answered).db.getScheduledConnection id = .ok row ∧
        response.nextWakeTime = some (UInt64.ofInt (timestamp row.scheduleTime)) := by
  intro h
  obtain ⟨row, hrow, htold⟩ := h true InnerDB.new freshManager (86399 * nanosPerSec)
    (86401 * nanosPerSec) (86399 * nanosPerSec) 9 NodeState.meterIp (meterRequest 7 1000) _ _ [] []
    _ false rfl (fun task htask => absurd htask List.not_mem_nil) (.nil _) (by decide) (by decide)
  obtain rfl : InnerDB.awaitingConnection 9 (172800 * nanosPerSec) 0 = row :=
    Except.ok.inj (hrow.symm.trans (by decide +kernel)).symm
  exact absurd htold (by decide +kernel)

namespace Scheduler
variable {s : Scheduler} {w a t : Int} {bucket : Nat}

/-- Whether a day after `w` is what scheduling at `a` gives. In test mode the two would have
to be almost a day apart. Otherwise `w` has to be in the second of the slot, and the slot
that is taken at `a` has to be that of the next day after `w`. -/
def TellsDayLater (s : Scheduler) (bucket : Nat) (w a : Int) : Prop :=
  if s.testMode then timestamp a + testModeWakeupSecs = timestamp w + secsPerDay
  else
    s.slotTime bucket = some (timestamp w % secsPerDay).toNat ∧
      ((hourOf a + 1 < s.slotHour bucket ∧ dayOf a = dayOf w + 1) ∨
        (s.slotHour bucket ≤ hourOf a + 1 ∧ dayOf a = dayOf w))

theorem nextWakeTs_eq_iff (hw : Cluster.Representable w) (ha : Cluster.Representable a)
    (ht : s.nextWakeup a bucket = .ok t) :
    nextWakeTs w = UInt64.ofInt (timestamp t) ↔ s.TellsDayLater bucket w a := by
  have hdayLater : timestamp (w + secsPerDay * nanosPerSec) = timestamp w + secsPerDay := by
    unfold timestamp secsPerDay nanosPerSec
    omega
  have hwBounds := Cluster.timestamp_bounds hw
  have haBounds := Cluster.timestamp_bounds ha
  unfold Cluster.minTimestamp Cluster.maxTimestamp at hwBounds haBounds
  rw [nextWakeTs, hdayLater]
  cases htest : s.testMode with
  | true =>
    rw [nextWakeup_test htest, Except.ok.injEq] at ht
    have htold : timestamp t = timestamp a + testModeWakeupSecs := by
      rw [← ht]
      unfold timestamp testModeWakeupSecs nanosPerSec
      omega
    rw [TellsDayLater, if_pos htest, htold]
    unfold testModeWakeupSecs secsPerDay
    rw [ofInt_eq_ofInt_iff (by omega) (by omega)]
    omega
  | false =>
    obtain ⟨-, sec, hsec, rfl⟩ := (nextWakeup_eq_ok_iff htest).mp ht
    have hlt := lt_of_slotTime hsec
    rw [TellsDayLater, if_neg (by simp [htest]), timestamp_slot, hsec, Option.some.injEq]
    have hday := wakeDay_cases a (s.slotHour bucket)
    generalize wakeDay a (s.slotHour bucket) = day at hday
    generalize s.slotHour bucket = hour at hday
    simp only [dayOf, secsPerDay] at hlt hday ⊢
    rw [ofInt_eq_ofInt_iff (by omega) (by omega)]
    omega

end Scheduler

/-- The time that a successful wake-up writes into the device is the time for which the
listener of the reschedule channel then schedules it exactly if the WRITE_REQUEST is built
in the second of the slot and the next slot is taken, or in test mode almost a day passes
in between. -/
theorem session_wake_time_iff {db db₂ db₃ : InnerDB} {dm dm₃ : DeviceManager} {d : Uuid}
    {exchange : Nat → Exchange} {x : Exchange} {sent : List Message} {a bucket : Int}
    (hok : (runWakeUp db d exchange).result = .ok ())
    (hsession : (runWakeUp db d exchange).session = some (x, sent))
    (hw : Cluster.Representable x.wakeFrom) (ha : Cluster.Representable a)
    (hbucket : db₂.getBucketNumber d = .ok bucket)
    (hsched : dm.scheduleNextWakeup db₂ a d = .ok (db₃, dm₃)) :
    (∃ row, db₃.getScheduledConnection d = .ok row ∧
        sent.findSome? Message.writtenWakeTime = some (UInt64.ofInt (timestamp row.scheduleTime))) ↔
      dm.scheduler.TellsDayLater (Scheduler.asUsize bucket) x.wakeFrom a := by
  obtain ⟨k, -, hresult, hlast, -⟩ := runWakeUp_eq_ok hok
  obtain ⟨rfl, rfl⟩ := Prod.mk.inj (Option.some.inj (hsession.symm.trans hlast))
  obtain ⟨htold, -, -⟩ := runSession_eq_ok hresult
  obtain ⟨bucket', t, hbucket', hnext, rfl, -⟩ := scheduleNextWakeup_eq_ok hsched
  cases hbucket.symm.trans hbucket'
  have hrow : (db₂.scheduleConnection d t dm.jobs.nextId).getScheduledConnection d =
      .ok (InnerDB.awaitingConnection d t dm.jobs.nextId) := by
    rw [InnerDB.getScheduledConnection, InnerDB.lookup_scheduleConnection]
  rw [htold, ← Scheduler.nextWakeTs_eq_iff hw ha hnext, hrow]
  simp only [Except.ok.injEq, exists_eq_left', Option.some.injEq]
  rfl

/-- A meter whose slot is midnight has a session at midnight sharp. -/
theorem session_wake_time_midnight :
    ∃ (db : InnerDB) (dm : DeviceManager) (sent : List Message) (row : ScheduledConnection),
      (runWakeUp oneMeter 9 fun _ => smoothExchange (86400 * nanosPerSec)).session =
        some (smoothExchange (86400 * nanosPerSec), sent) ∧
      freshManager.scheduleNextWakeup oneMeter (86400 * nanosPerSec) 9 = .ok (db, dm) ∧
      db.getScheduledConnection 9 = .ok row ∧
      sent.findSome? Message.writtenWakeTime =
        some (UInt64.ofInt (timestamp row.scheduleTime)) := by
  have hok : (runWakeUp oneMeter 9 fun _ => smoothExchange (86400 * nanosPerSec)).result =
      .ok () := rfl
  have hbucket : oneMeter.getBucketNumber 9 = .ok 0 := rfl
  obtain ⟨db, dm, hsched⟩ : ∃ db dm,
      freshManager.scheduleNextWakeup oneMeter (86400 * nanosPerSec) 9 = .ok (db, dm) :=
    ⟨_, _, rfl⟩
  have hrange : Cluster.Representable (86400 * nanosPerSec) := ⟨by decide, by decide⟩
  have htold : freshManager.scheduler.TellsDayLater 0 (86400 * nanosPerSec)
      (86400 * nanosPerSec) := ⟨rfl, .inr ⟨by decide, rfl⟩⟩
  obtain ⟨row, hrow, htime⟩ :=
    (session_wake_time_iff hok rfl hrange hrange hbucket hsched).mpr htold
  exact ⟨db, dm, _, row, rfl, hsched, hrow, htime⟩

/-- A meter whose slot is midnight is written to half a minute after midnight. It is told to
wake a day later, half a minute after the time for which it is then scheduled. -/
theorem session_wake_time_late :
    ¬ ∀ (db db₂ db₃ : InnerDB) (dm dm₃ : DeviceManager) (d : Uuid) (exchange : Nat → Exchange)
      (x : Exchange) (sent : List Message) (a : Int),
      (runWakeUp db d exchange).result = .ok () →
      (runWakeUp db d exchange).session = some (x, sent) →
      Cluster.Representable x.wakeFrom → Cluster.Representable a →
      dm.scheduleNextWakeup db₂ a d = .ok (db₃, dm₃) →
      ∃ row, db₃.getScheduledConnection d = .ok row ∧
        sent.findSome? Message.writtenWakeTime =
          some (UInt64.ofInt (timestamp row.scheduleTime)) := by
  intro h
  have hrange : Cluster.Representable (86430 * nanosPerSec) := ⟨by decide, by decide⟩
  obtain ⟨row, hrow, htold⟩ := h oneMeter oneMeter _ freshManager _ 9
    (fun _ => smoothExchange (86430 * nanosPerSec)) (smoothExchange _) _ (86430 * nanosPerSec)
    rfl rfl hrange hrange rfl
  obtain rfl : InnerDB.awaitingConnection 9 (172800 * nanosPerSec) 0 = row :=
    Except.ok.inj (hrow.symm.trans (by decide +kernel)).symm
  exact absurd htold (by decide +kernel)

end HeadEnd
