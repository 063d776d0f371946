import HeadEnd.Database
import HeadEnd.Lib.Calendar

/-! The wake-up scheduler of a node: time buckets, the cron jobs, and the calls
that create a job and record it in the database. -/
namespace HeadEnd
open HeadEnd.Calendar

inductive SchedulerError where
  | databaseError (e : DatabaseError)
  | parseError (text : String)
  | divideByZero
  deriving DecidableEq, Repr

structure Job where
  device : Uuid
  fireTime : Int
  deriving DecidableEq, Repr

/-- The cron library: a map from job id to device and fire time. Ids below
`nextId` have been handed out, so a new job never takes the id of another. -/
structure JobScheduler where
  jobs : Finmap (fun _ : JobId => Job)
  nextId : JobId
  fresh : ∀ id ∈ jobs, id < nextId

namespace JobScheduler

def empty : JobScheduler where
  jobs := ∅
  nextId := 0
  fresh := fun _ h => absurd h Finmap.notMem_empty

def add (js : JobScheduler) (job : Job) : JobScheduler where
  jobs := js.jobs.insert js.nextId job
  nextId := js.nextId + 1
  fresh := by
    intro id hid
    rcases Finmap.mem_insert.mp hid with rfl | h
    · exact Nat.lt_succ_self _
    · exact Nat.lt_succ_of_lt (js.fresh id h)

/-- A job that is handed over at `now`. The library gives it an id, and drops it if its time
is not ahead. -/
def submit (js : JobScheduler) (now : Int) (job : Job) : JobScheduler :=
  if now < job.fireTime then js.add job
  else
    { jobs := js.jobs
      nextId := js.nextId + 1
      fresh := fun id hid => Nat.lt_succ_of_lt (js.fresh id hid) }

/-- Also what firing a job does to it: every job fires once. -/
def remove (js : JobScheduler) (id : JobId) : JobScheduler where
  jobs := js.jobs.erase id
  nextId := js.nextId
  fresh := fun j hj => js.fresh j (Finmap.mem_erase.mp hj).2

/-- Job `id` is pending for device `d`. -/
def Pending (js : JobScheduler) (d : Uuid) (id : JobId) : Prop :=
  ∃ job, js.jobs.lookup id = some job ∧ job.device = d

/-- No job is pending for device `d`. -/
def Idle (js : JobScheduler) (d : Uuid) : Prop := ∀ id, ¬ js.Pending d id

/-- A job pending for `d` fires later than `now`. -/
def PendingAfter (js : JobScheduler) (d : Uuid) (now : Int) : Prop :=
  ∃ id job, js.jobs.lookup id = some job ∧ job.device = d ∧ now < job.fireTime

theorem lookup_nextId (js : JobScheduler) : js.jobs.lookup js.nextId = none := by
  rw [Finmap.lookup_eq_none]
  intro h
  exact Nat.lt_irrefl _ (js.fresh _ h)

theorem pending_add {js : JobScheduler} {job : Job} {d : Uuid} {id : JobId} :
    (js.add job).Pending d id ↔ (id = js.nextId ∧ job.device = d) ∨ js.Pending d id := by
  by_cases h : id = js.nextId
  · subst h
    simp [Pending, add, lookup_nextId]
  · simp [Pending, add, Finmap.lookup_insert_of_ne _ h, h]

@[simp] theorem submit_nextId (js : JobScheduler) (now : Int) (job : Job) :
    (js.submit now job).nextId = js.nextId + 1 := by
  unfold submit
  split <;> rfl

/-- All that may come of a job that is handed over. -/
theorem submit_cases (js : JobScheduler) (now : Int) (job : Job) :
    (now < job.fireTime ∧ js.submit now job = js.add job) ∨
      (job.fireTime ≤ now ∧ (js.submit now job).jobs = js.jobs) := by
  unfold submit
  split
  next h => exact .inl ⟨h, rfl⟩
  next h => exact .inr ⟨Int.not_lt.mp h, rfl⟩

theorem pending_submit {js : JobScheduler} {job : Job} {d : Uuid} {id : JobId} {now : Int} :
    (js.submit now job).Pending d id ↔
      (now < job.fireTime ∧ id = js.nextId ∧ job.device = d) ∨ js.Pending d id := by
  cases js.submit_cases now job with
  | inl h => rw [h.2, pending_add, and_iff_right h.1]
  | inr h =>
    rw [Pending, h.2]
    exact (or_iff_right fun hnew => absurd hnew.1 (Int.not_lt.mpr h.1)).symm

theorem pending_remove {js : JobScheduler} {d : Uuid} {id j : JobId} :
    (js.remove id).Pending d j ↔ j ≠ id ∧ js.Pending d j := by
  by_cases h : j = id
  · subst h
    simp [Pending, remove]
  · simp [Pending, remove, Finmap.lookup_erase_ne h, h]

theorem Idle.submit {js : JobScheduler} {job : Job} {d : Uuid} {now : Int} (h : js.Idle d)
    (hne : job.device ≠ d) : (js.submit now job).Idle d := by
  intro id hp
  cases pending_submit.mp hp with
  | inl hnew => exact hne hnew.2.2
  | inr hold => exact h id hold

theorem Idle.remove {js : JobScheduler} {id : JobId} {d : Uuid} (h : js.Idle d) :
    (js.remove id).Idle d :=
  fun j hp => h j (pending_remove.mp hp).2

theorem pendingAfter_add {js : JobScheduler} {job : Job} {d : Uuid} {now : Int} :
    (js.add job).PendingAfter d now ↔
      (job.device = d ∧ now < job.fireTime) ∨ js.PendingAfter d now := by
  constructor
  · rintro ⟨id, j, hj, hd, ht⟩
    by_cases h : id = js.nextId
    · subst h
      rw [add, Finmap.lookup_insert] at hj
      cases hj
      exact Or.inl ⟨hd, ht⟩
    · rw [add, Finmap.lookup_insert_of_ne _ h] at hj
      exact Or.inr ⟨id, j, hj, hd, ht⟩
  · rintro (⟨hd, ht⟩ | ⟨id, j, hj, hd, ht⟩)
    · exact ⟨js.nextId, job, Finmap.lookup_insert _, hd, ht⟩
    · have h : id ≠ js.nextId := by
        rintro rfl
        rw [lookup_nextId] at hj
        cases hj
      exact ⟨id, j, by rw [add, Finmap.lookup_insert_of_ne _ h]; exact hj, hd, ht⟩

theorem pendingAfter_submit {js : JobScheduler} {job : Job} {d : Uuid} {now later : Int}
    (hle : now ≤ later) : (js.submit now job).PendingAfter d later ↔
      (job.device = d ∧ later < job.fireTime) ∨ js.PendingAfter d later := by
  cases js.submit_cases now job with
  | inl h => rw [h.2, pendingAfter_add]
  | inr h =>
    rw [PendingAfter, h.2]
    have hdue : ¬ later < job.fireTime := Int.not_lt.mpr (Int.le_trans h.1 hle)
    exact (or_iff_right fun hnew => hdue hnew.2).symm

end JobScheduler

structure Schedule where
  sec : Nat
  min : Nat
  hour : Nat
  date : Date
  deriving DecidableEq, Repr

def secsPerDay : Nat := 24 * 60 * 60

def nanosPerSec : Int := 1000000000

/-- Nanoseconds since the epoch, cut to the whole second. -/
def wholeSecond (t : Int) : Int := t / nanosPerSec * nanosPerSec

/-- The day of an instant, counted from the epoch. -/
def dayOf (t : Int) : Int := timestamp t / secsPerDay

def hourOf (t : Int) : Int := timestamp t % secsPerDay / 3600

/-- `NaiveTime::from_hms_opt`, after the casts to `u32`. -/
def fromHmsOpt (hour min sec : Nat) : Option Nat :=
  let h := hour % 2^32
  let m := min % 2^32
  let s := sec % 2^32
  if h < 24 ∧ m < 60 ∧ s < 60 then some (h * 3600 + m * 60 + s) else none

def Schedule.toDateTime (s : Schedule) : Except String Int :=
  match fromYmdOpt s.date with
  | none => .error s!"invalid date: {s.date.day}/{s.date.month}/{s.date.year}"
  | some day =>
    match fromHmsOpt s.hour s.min s.sec with
    | none => .error s!"invalid time: {s.hour}:{s.min}:{s.sec}"
    | some secOfDay => .ok ((day * secsPerDay + secOfDay) * nanosPerSec)

/-- A slot more than an hour ahead is today, any other is tomorrow. -/
def getDateFromHour (now : Int) (hour : Nat) : Date :=
  if (hour : Int) > hourOf now + 1 then dateOf (dayOf now) else dateOf (dayOf now + 1)

def testModeWakeupSecs : Int := 150

/-- The cast of a `usize` to `i32`, which wraps. -/
def asI32 (n : Nat) : Int := Int.bmod n (2 ^ 32)

theorem asI32_bounds (n : Nat) : -2 ^ 31 ≤ asI32 n ∧ asI32 n < 2 ^ 31 :=
  ⟨Int.le_bmod (by decide), Int.bmod_lt (by decide)⟩

/- `bucketNumber` is the field `bucket_number` cast to `usize`, as the slots and the in-memory
   engine use it. The field itself is an `i32`; a negative one comes out at the upper end. -/
structure Scheduler where
  bucketNumber : Nat
  jobScheduler : JobScheduler
  ownedDevices : Option (Finset Uuid)
  localNodeId : Uuid
  testMode : Bool

namespace Scheduler

def asUsize (b : Int) : Nat := (b % 2^64).toNat

/-- Second, minute and hour of a bucket. The product wraps, as `usize` does. -/
def getTimeFromBucketNumber (s : Scheduler) (bucket : Nat) : Nat × Nat × Nat :=
  let secsPerBucket := secsPerDay / s.bucketNumber
  let slotInSecs := secsPerBucket * bucket % 2^64
  (slotInSecs % 3600 % 60, slotInSecs % 3600 / 60, slotInSecs / 3600)

def getNextSchedule (s : Scheduler) (now : Int) (bucket : Nat) : Schedule :=
  let (sec, min, hour) := s.getTimeFromBucketNumber bucket
  { sec, min, hour, date := getDateFromHour now hour }

/-- With no buckets at all the division panics. -/
def nextWakeup (s : Scheduler) (now : Int) (bucket : Nat) : Except SchedulerError Int :=
  if s.testMode then .ok (now + testModeWakeupSecs * nanosPerSec)
  else if s.bucketNumber = 0 then .error .divideByZero
  else
    match (s.getNextSchedule now bucket).toDateTime with
    | .ok t => .ok t
    | .error text => .error (.parseError text)

def ownsDevice (s : Scheduler) (deviceId : Uuid) : Bool :=
  match s.ownedDevices with
  | none => true
  | some owned => deviceId ∈ owned

def addOwnedDevice (s : Scheduler) (deviceId : Uuid) : Scheduler :=
  { s with ownedDevices := s.ownedDevices.map (insert deviceId) }

def removeOwnedDevice (s : Scheduler) (deviceId : Uuid) : Scheduler :=
  { s with ownedDevices := s.ownedDevices.map (fun owned => owned.erase deviceId) }

/-- The first instant of the year 5001. The cron library refuses later years. -/
def cronEnd : Int := dayNumber ⟨5001, 1, 1⟩ * secsPerDay * nanosPerSec

/-- The cron library takes the time, and it is ahead. -/
def Wakeable (now t : Int) : Prop := now < wholeSecond t ∧ t < cronEnd

instance decidableWakeable (now t : Int) : Decidable (Wakeable now t) :=
  inferInstanceAs (Decidable (_ ∧ _))

/-- The cron expression has whole seconds, so the job does too. This is the call for a time
that the library takes. A time that it refuses is an error, as one of the database is. -/
def createWakeupJob (s : Scheduler) (now : Int) (deviceId : Uuid) (nextWakeUp : Int) :
    Scheduler × JobId :=
  ({ s with jobScheduler := s.jobScheduler.submit now ⟨deviceId, wholeSecond nextWakeUp⟩ },
    s.jobScheduler.nextId)

/-- Create a job at a given time and record it as the device's connection. -/
def scheduleAt (db : InnerDB) (s : Scheduler) (now : Int) (deviceId : Uuid) (t : Int) :
    InnerDB × Scheduler :=
  let (s', jobId) := s.createWakeupJob now deviceId t
  (db.scheduleConnection deviceId t jobId, s')

def registerDevice (db : InnerDB) (s : Scheduler) (now : Int) (deviceId : Uuid) :
    Except SchedulerError (InnerDB × Int) :=
  let bucket := db.getBucketWithLessDevices s.bucketNumber
  match s.nextWakeup now bucket with
  | .error e => .error e
  | .ok nextWakeUp => .ok (db.addDeviceToBucket deviceId bucket s.localNodeId, nextWakeUp)

def scheduleNextWakeupJob (db : InnerDB) (s : Scheduler) (now : Int) (deviceId : Uuid) :
    Except SchedulerError (InnerDB × Scheduler) :=
  match db.getBucketNumber deviceId with
  | .error e => .error (.databaseError e)
  | .ok bucket =>
    match s.nextWakeup now (asUsize bucket) with
    | .error e => .error e
    | .ok nextWakeUp => .ok (scheduleAt db s now deviceId nextWakeUp)

def scheduleDelegatedDevice (db : InnerDB) (s : Scheduler) (now : Int) (deviceId : Uuid)
    (scheduleTime : Int) : InnerDB × Scheduler :=
  let (db', s') := scheduleAt db s now deviceId scheduleTime
  (db', s'.addOwnedDevice deviceId)

theorem lt_wholeSecond {now t : Int} (h : now + nanosPerSec ≤ t) : now < wholeSecond t := by
  unfold wholeSecond nanosPerSec at *
  omega

theorem wholeSecond_mul (n : Int) : wholeSecond (n * nanosPerSec) = n * nanosPerSec := by
  unfold wholeSecond nanosPerSec
  omega

theorem slot_lt {s : Scheduler} {bucket : Nat} (hb : bucket < s.bucketNumber) :
    secsPerDay / s.bucketNumber * bucket < secsPerDay := by
  by_cases hz : secsPerDay / s.bucketNumber = 0
  · rw [hz, Nat.zero_mul]
    decide
  · calc secsPerDay / s.bucketNumber * bucket
        < secsPerDay / s.bucketNumber * s.bucketNumber :=
          Nat.mul_lt_mul_of_pos_left hb (Nat.pos_of_ne_zero hz)
      _ ≤ secsPerDay := Nat.div_mul_le_self _ _

/-- A slot of the day that one of the node's own buckets names. -/
theorem hour_lt {s : Scheduler} {bucket : Nat} (h : bucket < s.bucketNumber) :
    (s.getTimeFromBucketNumber bucket).2.2 < 24 := by
  have hslot := slot_lt h
  have hmod : secsPerDay / s.bucketNumber * bucket % 2^64 = secsPerDay / s.bucketNumber * bucket :=
    Nat.mod_eq_of_lt (Nat.lt_trans hslot (by decide))
  simp only [getTimeFromBucketNumber, hmod]
  rw [Nat.div_lt_iff_lt_mul (by decide)]
  exact hslot

theorem toDateTime_eq_ok {s : Schedule} {t : Int} (h : s.toDateTime = .ok t) :
    ∃ day secOfDay, fromYmdOpt s.date = some day ∧
      fromHmsOpt s.hour s.min s.sec = some secOfDay ∧
      t = (day * secsPerDay + secOfDay) * nanosPerSec := by
  unfold Schedule.toDateTime at h
  cases hday : fromYmdOpt s.date with
  | none =>
    rw [hday] at h
    cases h
  | some day =>
    cases htime : fromHmsOpt s.hour s.min s.sec with
    | none =>
      rw [hday, htime] at h
      cases h
    | some secOfDay =>
      rw [hday, htime] at h
      exact ⟨day, secOfDay, rfl, rfl, (Except.ok.inj h).symm⟩

theorem le_of_fromHmsOpt {hour min sec secOfDay : Nat} (hh : hour < 24)
    (h : fromHmsOpt hour min sec = some secOfDay) : hour * 3600 ≤ secOfDay := by
  have hcast : hour % 2^32 = hour := Nat.mod_eq_of_lt (Nat.lt_trans hh (by decide))
  unfold fromHmsOpt at h
  simp only [hcast] at h
  split at h
  · have hval := Option.some.inj h
    omega
  · cases h

/-- A slot of today more than an hour ahead, or any slot of tomorrow. -/
theorem getNextSchedule_after {s : Scheduler} {now t : Int} {bucket : Nat}
    (hb : bucket < s.bucketNumber) (h : (s.getNextSchedule now bucket).toDateTime = .ok t) :
    now < wholeSecond t := by
  obtain ⟨day, secOfDay, hday, htime, rfl⟩ := toDateTime_eq_ok h
  have hhour := hour_lt hb
  have hsec := le_of_fromHmsOpt hhour htime
  rw [wholeSecond_mul]
  have hdate : (s.getNextSchedule now bucket).date =
      getDateFromHour now (s.getTimeFromBucketNumber bucket).2.2 := rfl
  generalize (s.getTimeFromBucketNumber bucket).2.2 = hour at hdate hsec hhour
  rw [hdate, getDateFromHour] at hday
  by_cases hahead : (hour : Int) > hourOf now + 1
  · rw [if_pos hahead, fromYmdOpt_dateOf] at hday
    have hd := Option.some.inj hday
    simp only [hourOf, dayOf, timestamp, secsPerDay, nanosPerSec] at hahead hd ⊢
    omega
  · rw [if_neg hahead, fromYmdOpt_dateOf] at hday
    have hd := Option.some.inj hday
    simp only [dayOf, timestamp, secsPerDay, nanosPerSec] at hd ⊢
    omega

/-- The next wake-up of a device is still ahead. In test mode the bucket does not
matter. -/
theorem nextWakeup_after {s : Scheduler} {now t : Int} {bucket : Nat}
    (hb : s.testMode = false → bucket < s.bucketNumber) (h : s.nextWakeup now bucket = .ok t) :
    now < wholeSecond t := by
  unfold nextWakeup at h
  by_cases htest : s.testMode
  · rw [if_pos htest] at h
    have ht := Except.ok.inj h
    refine lt_wholeSecond ?_
    rw [← ht]
    unfold testModeWakeupSecs nanosPerSec
    omega
  · have hlt := hb (Bool.eq_false_iff.mpr htest)
    have hpos : ¬ s.bucketNumber = 0 := by omega
    rw [if_neg htest, if_neg hpos] at h
    cases hnext : (s.getNextSchedule now bucket).toDateTime with
    | error text =>
      rw [hnext] at h
      cases h
    | ok t' =>
      rw [hnext] at h
      have ht := Except.ok.inj h
      exact getNextSchedule_after hlt (ht ▸ hnext)

theorem bucketNumber_pos {s : Scheduler} {now t : Int} {bucket : Nat}
    (h : s.nextWakeup now bucket = .ok t) (htest : s.testMode = false) : 0 < s.bucketNumber := by
  rw [Nat.pos_iff_ne_zero]
  intro hzero
  simp [nextWakeup, htest, hzero] at h

theorem exists_fromHmsOpt {hour min sec : Nat} (hhour : hour < 24) (hmin : min < 60)
    (hsec : sec < 60) : ∃ secOfDay, fromHmsOpt hour min sec = some secOfDay := by
  have h : hour % 2^32 < 24 ∧ min % 2^32 < 60 ∧ sec % 2^32 < 60 := by omega
  exact ⟨_, if_pos h⟩

theorem exists_fromYmdOpt (now : Int) (hour : Nat) :
    ∃ day, fromYmdOpt (getDateFromHour now hour) = some day := by
  rw [getDateFromHour]
  split
  · exact ⟨_, fromYmdOpt_dateOf _⟩
  · exact ⟨_, fromYmdOpt_dateOf _⟩

theorem toDateTime_of_some {s : Schedule} {day : Int} {secOfDay : Nat}
    (hday : fromYmdOpt s.date = some day) (htime : fromHmsOpt s.hour s.min s.sec = some secOfDay) :
    s.toDateTime = .ok ((day * secsPerDay + secOfDay) * nanosPerSec) := by
  unfold Schedule.toDateTime
  simp only [hday, htime]

/-- Every slot of a node's own buckets is a time of day. -/
theorem exists_toDateTime {s : Scheduler} {bucket : Nat} (now : Int)
    (hb : bucket < s.bucketNumber) :
    ∃ t, (s.getNextSchedule now bucket).toDateTime = .ok t := by
  have hmin : (s.getNextSchedule now bucket).min < 60 := by
    dsimp only [getNextSchedule, getTimeFromBucketNumber]
    omega
  have hsec : (s.getNextSchedule now bucket).sec < 60 := by
    dsimp only [getNextSchedule, getTimeFromBucketNumber]
    omega
  have hhour : (s.getNextSchedule now bucket).hour < 24 := hour_lt hb
  obtain ⟨day, hday⟩ : ∃ day, fromYmdOpt (s.getNextSchedule now bucket).date = some day :=
    exists_fromYmdOpt now _
  obtain ⟨secOfDay, htime⟩ := exists_fromHmsOpt hhour hmin hsec
  exact ⟨_, toDateTime_of_some hday htime⟩

/-- A wake-up time is found unless the node has no buckets to choose from. -/
theorem exists_nextWakeup_iff {s : Scheduler} {bucket : Nat} (now : Int)
    (hb : 0 < s.bucketNumber → bucket < s.bucketNumber) :
    (∃ t, s.nextWakeup now bucket = .ok t) ↔ s.testMode = true ∨ 0 < s.bucketNumber := by
  constructor
  · intro h
    obtain ⟨t, ht⟩ := h
    by_cases htest : s.testMode = true
    · exact .inl htest
    · exact .inr (bucketNumber_pos ht (Bool.eq_false_iff.mpr htest))
  · intro h
    by_cases htest : s.testMode = true
    · exact ⟨_, if_pos htest⟩
    · have hpos := h.resolve_left htest
      obtain ⟨t, ht⟩ := exists_toDateTime now (hb hpos)
      have hne : ¬ s.bucketNumber = 0 := by omega
      exact ⟨t, by rw [nextWakeup, if_neg htest, if_neg hne, ht]⟩

theorem asUsize_natCast_le (b : Nat) : asUsize b ≤ b := by
  unfold asUsize
  omega

end Scheduler

end HeadEnd
