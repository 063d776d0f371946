import HeadEnd.Scheduler

/-! The wake-up time in closed form: the slot of a bucket, on the day that the hours of the
slot and of the clock decide. -/
namespace HeadEnd

def hourSecs : Int := 3600

/-- The day on which a slot of the given hour is taken. -/
def wakeDay (now : Int) (hour : Nat) : Int :=
  if (hour : Int) > hourOf now + 1 then dayOf now else dayOf now + 1

theorem wakeDay_cases (now : Int) (hour : Nat) :
    (hourOf now + 1 < hour ∧ wakeDay now hour = dayOf now) ∨
      (hour ≤ hourOf now + 1 ∧ wakeDay now hour = dayOf now + 1) := by
  by_cases h : (hour : Int) > hourOf now + 1
  · exact .inl ⟨h, if_pos h⟩
  · exact .inr ⟨not_lt.mp h, if_neg h⟩

theorem fromYmdOpt_getDateFromHour (now : Int) (hour : Nat) :
    Calendar.fromYmdOpt (getDateFromHour now hour) = some (wakeDay now hour) := by
  unfold getDateFromHour wakeDay
  split
  next => rw [Calendar.fromYmdOpt_dateOf]
  next => rw [Calendar.fromYmdOpt_dateOf]

theorem fromHmsOpt_split {slot : Nat} (h : slot < secsPerDay) :
    fromHmsOpt (slot / 3600) (slot % 3600 / 60) (slot % 3600 % 60) = some slot := by
  unfold secsPerDay at h
  have hcast : slot / 3600 % 2 ^ 32 = slot / 3600 ∧ slot % 3600 / 60 % 2 ^ 32 = slot % 3600 / 60 ∧
      slot % 3600 % 60 % 2 ^ 32 = slot % 3600 % 60 := by omega
  simp only [fromHmsOpt, hcast.1, hcast.2.1, hcast.2.2]
  rw [if_pos (by omega)]
  congr 1
  omega

namespace Scheduler
variable {s : Scheduler} {now t : Int} {bucket : Nat}

/-- The hour that decides the day. Nothing keeps it below 24 if the bucket is not one of the
node's own. -/
def slotHour (s : Scheduler) (bucket : Nat) : Nat := (s.getTimeFromBucketNumber bucket).2.2

/-- The second of the day at which a bucket is woken, if its parts are a time. -/
def slotTime (s : Scheduler) (bucket : Nat) : Option Nat :=
  let (sec, min, hour) := s.getTimeFromBucketNumber bucket
  fromHmsOpt hour min sec

theorem nextWakeup_test (h : s.testMode = true) :
    s.nextWakeup now bucket = .ok (now + testModeWakeupSecs * nanosPerSec) := by
  rw [nextWakeup, if_pos h]

theorem nextWakeup_eq_ok_iff (h : s.testMode = false) :
    s.nextWakeup now bucket = .ok t ↔ s.bucketNumber ≠ 0 ∧ ∃ sec, s.slotTime bucket = some sec ∧
      t = (wakeDay now (s.slotHour bucket) * secsPerDay + sec) * nanosPerSec := by
  have htest : ¬ s.testMode = true := by simp [h]
  rw [nextWakeup, if_neg htest]
  by_cases hzero : s.bucketNumber = 0
  · rw [if_pos hzero]
    simp [hzero]
  · rw [if_neg hzero]
    have hday : Calendar.fromYmdOpt (s.getNextSchedule now bucket).date =
        some (wakeDay now (s.slotHour bucket)) := fromYmdOpt_getDateFromHour now _
    constructor
    · intro hok
      cases hnext : (s.getNextSchedule now bucket).toDateTime with
      | error text =>
        rw [hnext] at hok
        cases hok
      | ok t' =>
        rw [hnext] at hok
        obtain ⟨day, sec, hday', hsec, ht⟩ := toDateTime_eq_ok hnext
        rw [hday, Option.some.injEq] at hday'
        refine ⟨hzero, sec, hsec, ?_⟩
        rw [hday', ← ht]
        exact (Except.ok.inj hok).symm
    · intro hslot
      obtain ⟨-, sec, hsec, ht⟩ := hslot
      have hnext : (s.getNextSchedule now bucket).toDateTime =
          .ok ((wakeDay now (s.slotHour bucket) * secsPerDay + sec) * nanosPerSec) :=
        toDateTime_of_some hday hsec
      rw [hnext, ht]

theorem lt_of_slotTime {sec : Nat} (h : s.slotTime bucket = some sec) : sec < secsPerDay := by
  unfold slotTime fromHmsOpt at h
  dsimp only at h
  split at h
  next hparts =>
    have hsec := Option.some.inj h
    unfold secsPerDay
    omega
  next => cases h

/-- The product of one of the node's own buckets does not wrap. -/
theorem getTimeFromBucketNumber_of_lt (hb : bucket < s.bucketNumber) :
    s.getTimeFromBucketNumber bucket =
      (secsPerDay / s.bucketNumber * bucket % 3600 % 60,
        secsPerDay / s.bucketNumber * bucket % 3600 / 60,
        secsPerDay / s.bucketNumber * bucket / 3600) := by
  have hlt : secsPerDay / s.bucketNumber * bucket < 2 ^ 64 :=
    Nat.lt_trans (slot_lt hb) (by decide)
  simp only [getTimeFromBucketNumber, Nat.mod_eq_of_lt hlt]

theorem slotTime_of_lt (hb : bucket < s.bucketNumber) :
    s.slotTime bucket = some (secsPerDay / s.bucketNumber * bucket) := by
  rw [slotTime, getTimeFromBucketNumber_of_lt hb]
  exact fromHmsOpt_split (slot_lt hb)

theorem slotHour_of_lt (hb : bucket < s.bucketNumber) :
    s.slotHour bucket = secsPerDay / s.bucketNumber * bucket / 3600 := by
  rw [slotHour, getTimeFromBucketNumber_of_lt hb]

/-- For one of the node's own buckets the wake-up time is always found. -/
theorem nextWakeup_of_lt (h : s.testMode = false) (hb : bucket < s.bucketNumber) (now : Int) :
    s.nextWakeup now bucket =
      .ok ((wakeDay now (secsPerDay / s.bucketNumber * bucket / 3600) * secsPerDay +
        (secsPerDay / s.bucketNumber * bucket : Nat)) * nanosPerSec) := by
  rw [nextWakeup_eq_ok_iff h]
  refine ⟨by omega, _, slotTime_of_lt hb, ?_⟩
  rw [slotHour_of_lt hb]

/-- What the margin is for: a time of the bucket's slot that is not about to pass. -/
def KeepsMargin (s : Scheduler) (now : Int) (bucket : Nat) : Prop :=
  ∃ t, s.nextWakeup now bucket = .ok t ∧
    t % (secsPerDay * nanosPerSec) = (bucket * (secsPerDay / s.bucketNumber) : Nat) * nanosPerSec ∧
    now + hourSecs * nanosPerSec < t ∧ t < now + 26 * hourSecs * nanosPerSec

/- Only the hours are compared, so the margin is lost at midnight: in the last hour of a day
a slot at the start of the next one is taken however near it is. -/
theorem wakeup_margin_iff (hmode : s.testMode = false) (hb : bucket < s.bucketNumber) :
    s.KeepsMargin now bucket ↔
      now % (secsPerDay * nanosPerSec) <
        (23 * hourSecs + (bucket * (secsPerDay / s.bucketNumber) : Nat)) * nanosPerSec := by
  have hslot := slot_lt hb
  rw [KeepsMargin, nextWakeup_of_lt hmode hb now, Nat.mul_comm bucket]
  generalize secsPerDay / s.bucketNumber * bucket = slot at hslot
  have hday := wakeDay_cases now (slot / 3600)
  generalize wakeDay now (slot / 3600) = day at hday
  simp only [Except.ok.injEq, exists_eq_left', hourOf, dayOf, timestamp, secsPerDay, nanosPerSec,
    hourSecs] at hslot hday ⊢
  omega

/- 48 buckets, so that bucket 0 is woken at midnight. -/
def halfHourly : Scheduler := ⟨48, .empty, none, 1, false⟩

/-- At half past eleven at night bucket 0 is due in half an hour. -/
theorem wakeup_margin_before_midnight :
    ∃ (s : Scheduler) (now : Int) (bucket : Nat), s.testMode = false ∧ 1 ≤ s.bucketNumber ∧
      s.bucketNumber ≤ secsPerDay ∧ bucket < s.bucketNumber ∧ ¬ s.KeepsMargin now bucket := by
  refine ⟨halfHourly, 84600 * nanosPerSec, 0, by decide, by decide, by decide, by decide, ?_⟩
  intro h
  obtain ⟨t, hnext, -, hlow, -⟩ := h
  have ht : t = 86400 * nanosPerSec := by
    have hval : halfHourly.nextWakeup (84600 * nanosPerSec) 0 = .ok (86400 * nanosPerSec) := by
      decide
    exact Except.ok.inj (hnext.symm.trans hval)
  rw [ht] at hlow
  exact absurd hlow (by decide)

/-- At noon every bucket keeps the margin. -/
theorem wakeup_margin_noon : halfHourly.KeepsMargin (43200 * nanosPerSec) 0 :=
  (wakeup_margin_iff (by decide) (by decide)).mpr (by decide)

end Scheduler

end HeadEnd
