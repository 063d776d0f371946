import HeadEnd.BucketChoice
import HeadEnd.ConfigFile
import HeadEnd.Slots

/-! Which numbers of buckets share out the day. The number comes from the file, the command
line or a call, as a `usize`; the scheduler keeps it as an `i32`, the engines count with
that, and the slots are computed from it as a `usize` again. -/
namespace HeadEnd
open FirstMin Transition

inductive SlotPanic where
  | divideByZero
  | multiplyOverflow
  deriving DecidableEq, Repr

/-- Second, minute and hour of a bucket, if the arithmetic is checked. -/
def checkedTimeFromBucketNumber (bucketNumber : Int) (bucket : Nat) :
    Except SlotPanic (Nat × Nat × Nat) :=
  let totalBuckets := Scheduler.asUsize bucketNumber
  if totalBuckets = 0 then .error .divideByZero
  else
    let slotInSecs := secsPerDay / totalBuckets * bucket
    if 2 ^ 64 ≤ slotInSecs then .error .multiplyOverflow
    else .ok (slotInSecs % 3600 % 60, slotInSecs % 3600 / 60, slotInSecs / 3600)

/-- Where nothing panics, the scheduler's own computation gives the same. -/
theorem checkedTimeFromBucketNumber_eq_ok {bucketNumber : Int} {bucket : Nat}
    {time : Nat × Nat × Nat} (h : checkedTimeFromBucketNumber bucketNumber bucket = .ok time)
    (s : Scheduler) (hs : s.bucketNumber = Scheduler.asUsize bucketNumber) :
    s.getTimeFromBucketNumber bucket = time := by
  unfold checkedTimeFromBucketNumber at h
  dsimp only at h
  split at h
  next => cases h
  next =>
    split at h
    next => cases h
    next hfits =>
      rw [Scheduler.getTimeFromBucketNumber, hs, Nat.mod_eq_of_lt (Nat.not_le.mp hfits)]
      exact Except.ok.inj h

/-- The buckets that `get_bucket_number` can return: what an engine chooses on some table, or
0 if the query fails. -/
inductive Assignable (bucketNumber : Int) : Nat → Prop
  | inMemory {db : InnerDB} {values : List Int} {b : Int} : db.ListsBuckets values →
      InnerDB.bucketWithLessDevices values bucketNumber = some b →
      Assignable bucketNumber (Scheduler.asUsize b)
  | postgres {db : PostgresDB} {rows : List (Option Int × Int)} {b : Int} : db.Groups rows →
      PostgresDB.getBucketWithLessDevices rows bucketNumber = .ok b →
      Assignable bucketNumber (Scheduler.asUsize b)
  | failed : Assignable bucketNumber 0

def secondOfDay (time : Nat × Nat × Nat) : Nat := time.2.2 * 3600 + time.2.1 * 60 + time.1

/-- Every bucket that can be assigned has a time of the day, and a later bucket a later one. -/
structure UsableSlots (bucketNumber : Int) : Prop where
  valid : ∀ b, Assignable bucketNumber b →
    ∃ sec min hour, checkedTimeFromBucketNumber bucketNumber b = .ok (sec, min, hour) ∧
      sec < 60 ∧ min < 60 ∧ hour < 24
  increasing : ∀ b c t u, Assignable bucketNumber b → Assignable bucketNumber c → b < c →
    checkedTimeFromBucketNumber bucketNumber b = .ok t →
    checkedTimeFromBucketNumber bucketNumber c = .ok u → secondOfDay t < secondOfDay u

section
variable {bucketNumber : Int} {b : Nat}

theorem Assignable.lt (h : Assignable bucketNumber b) (hpos : 1 ≤ bucketNumber) :
    b < bucketNumber.toNat := by
  cases h with
  | @inMemory db values b hvalues hb =>
    obtain ⟨c, hc, hmin⟩ := InnerDB.bucketWithLessDevices_spec values hpos
    rw [hb, Option.some.injEq] at hc
    exact hc ▸ Nat.lt_of_le_of_lt (Scheduler.asUsize_natCast_le c) hmin.lt
  | @postgres db rows b hrows hb =>
    have hnull : none ∉ rows.map Prod.fst := by
      intro hnull
      rw [PostgresDB.getBucketWithLessDevices, if_pos hnull] at hb
      cases hb
    obtain ⟨c, hc, hmin⟩ :=
      PostgresDB.getBucketWithLessDevices_spec hnull (PostgresDB.countOf_le hrows) hpos
    rw [hb, Except.ok.injEq] at hc
    exact hc ▸ Nat.lt_of_le_of_lt (Scheduler.asUsize_natCast_le c) hmin.lt
  | failed => omega

/-- A negative number stops one engine, and leaves the other with bucket 0. -/
theorem Assignable.eq_zero (h : Assignable bucketNumber b) (hneg : bucketNumber < 0) : b = 0 := by
  cases h with
  | inMemory hvalues hb =>
    rw [InnerDB.bucketWithLessDevices, if_pos hneg] at hb
    cases hb
  | @postgres db rows b hrows hb =>
    have hempty : bucketNumber.toNat = 0 := by omega
    rw [PostgresDB.getBucketWithLessDevices, hempty] at hb
    split at hb
    next => cases hb
    next => exact Except.ok.inj hb ▸ rfl
  | failed => rfl

/-- With two buckets or more, the second device can come into bucket 1. -/
theorem assignable_one (h : 2 ≤ bucketNumber) : Assignable bucketNumber 1 := by
  have hpos : 1 ≤ bucketNumber := by omega
  obtain ⟨b, hb, hmin⟩ := InnerDB.bucketWithLessDevices_spec [0] hpos
  have hone : IsFirstMin (fun j : Nat => [(0 : Int)].count (j : Int)) bucketNumber.toNat 1 := by
    refine ⟨by omega, fun j _ => ?_, fun j hj => ?_⟩
    · exact Nat.zero_le _
    · obtain rfl : j = 0 := by omega
      decide
  obtain rfl := hmin.unique hone
  have hvalues : (InnerDB.new.addDeviceToBucket 9 0 1).ListsBuckets [0] := rfl
  exact .inMemory hvalues hb

theorem checkedTimeFromBucketNumber_of_lt (hpos : 1 ≤ bucketNumber) (hsize : bucketNumber < 2 ^ 31)
    (hb : b < bucketNumber.toNat) : ∃ sec min hour,
      checkedTimeFromBucketNumber bucketNumber b = .ok (sec, min, hour) ∧
        sec < 60 ∧ min < 60 ∧ hour < 24 ∧
        secondOfDay (sec, min, hour) = secsPerDay / bucketNumber.toNat * b := by
  have htotal : Scheduler.asUsize bucketNumber = bucketNumber.toNat := by
    unfold Scheduler.asUsize
    omega
  have hslot : secsPerDay / bucketNumber.toNat * b < secsPerDay :=
    Scheduler.slot_lt (s := ⟨bucketNumber.toNat, .empty, none, 0, false⟩) hb
  unfold checkedTimeFromBucketNumber
  dsimp only
  rw [htotal, if_neg (by omega)]
  generalize secsPerDay / bucketNumber.toNat * b = slot at hslot
  unfold secsPerDay at hslot
  rw [if_neg (by omega)]
  refine ⟨_, _, _, rfl, by omega, by omega, by omega, ?_⟩
  unfold secondOfDay
  dsimp only
  omega

theorem usableSlots_of_pos (hpos : 1 ≤ bucketNumber) (hle : bucketNumber ≤ secsPerDay) :
    UsableSlots bucketNumber := by
  have hsize : bucketNumber < 2 ^ 31 := by
    unfold secsPerDay at hle
    omega
  refine ⟨fun b hb => ?_, fun b c t u hb hc hlt ht hu => ?_⟩
  · obtain ⟨sec, min, hour, htime, hsec, hmin, hhour, -⟩ :=
      checkedTimeFromBucketNumber_of_lt hpos hsize (hb.lt hpos)
    exact ⟨sec, min, hour, htime, hsec, hmin, hhour⟩
  · obtain ⟨_, _, _, htb, -, -, -, hslotb⟩ :=
      checkedTimeFromBucketNumber_of_lt hpos hsize (hb.lt hpos)
    obtain ⟨_, _, _, htc, -, -, -, hslotc⟩ :=
      checkedTimeFromBucketNumber_of_lt hpos hsize (hc.lt hpos)
    cases ht.symm.trans htb
    cases hu.symm.trans htc
    rw [hslotb, hslotc]
    exact Nat.mul_lt_mul_of_pos_left hlt (Nat.div_pos (by omega) (by omega))

theorem usableSlots_of_neg (hneg : bucketNumber < 0) (hsize : -(2 ^ 31) ≤ bucketNumber) :
    UsableSlots bucketNumber := by
  refine ⟨fun b hb => ?_, fun b c t u hb hc hlt _ _ => ?_⟩
  · have htotal : Scheduler.asUsize bucketNumber ≠ 0 := by
      unfold Scheduler.asUsize
      omega
    rw [hb.eq_zero hneg, checkedTimeFromBucketNumber, if_neg htotal, Nat.mul_zero]
    exact ⟨0, 0, 0, rfl, by decide, by decide, by decide⟩
  · rw [hb.eq_zero hneg, hc.eq_zero hneg] at hlt
    exact absurd hlt (Nat.lt_irrefl 0)

theorem not_usableSlots_zero : ¬ UsableSlots 0 := by
  intro h
  obtain ⟨_, _, _, htime, -⟩ := h.valid 0 .failed
  cases htime

/- More buckets than seconds: the slots are all at midnight. -/
theorem not_usableSlots_of_gt (hgt : (secsPerDay : Int) < bucketNumber)
    (hsize : bucketNumber < 2 ^ 31) : ¬ UsableSlots bucketNumber := by
  intro h
  have hmany : 2 ≤ bucketNumber := by
    unfold secsPerDay at hgt
    omega
  have hpos : 1 ≤ bucketNumber := by omega
  obtain ⟨_, _, _, htb, -, -, -, hslotb⟩ :=
    checkedTimeFromBucketNumber_of_lt hpos hsize (b := 0) (by omega)
  obtain ⟨_, _, _, htc, -, -, -, hslotc⟩ :=
    checkedTimeFromBucketNumber_of_lt hpos hsize (b := 1) (by omega)
  have hlt := h.increasing 0 1 _ _ .failed (assignable_one hmany) Nat.one_pos htb htc
  have hzero : secsPerDay / bucketNumber.toNat = 0 := Nat.div_eq_of_lt (by omega)
  rw [hslotb, hslotc, hzero] at hlt
  exact absurd hlt (by decide)

/-- The number of buckets, whichever way it came in, gives usable slots exactly if it is from
1 to 86400 as an `i32`, or negative as one. -/
theorem usable_slots_iff (bucketsNumber : Nat) :
    UsableSlots (asI32 bucketsNumber) ↔
      (1 ≤ asI32 bucketsNumber ∧ asI32 bucketsNumber ≤ secsPerDay) ∨ asI32 bucketsNumber < 0 := by
  obtain ⟨hlow, hhigh⟩ := asI32_bounds bucketsNumber
  generalize asI32 bucketsNumber = bucketNumber at hlow hhigh
  constructor
  · intro h
    by_contra hnot
    by_cases hzero : bucketNumber = 0
    · exact not_usableSlots_zero (hzero ▸ h)
    · exact not_usableSlots_of_gt (by omega) hhigh h
  · intro h
    cases h with
    | inl hpos => exact usableSlots_of_pos hpos.1 hpos.2
    | inr hneg => exact usableSlots_of_neg hneg hlow

/-- A node is started with `--buckets-number 0`: the first registration divides by zero. -/
theorem zero_buckets_accepted :
    ¬ ∀ (yaml : SerdeYaml) (machine : Machine) (path : Option String) (cli : CliOverrides)
      (start m : ConfigManager) (es : List ConfigCall),
      resolveConfig yaml machine path cli = .ok start → Run ConfigManager.Accepted start es m →
      UsableSlots (asI32 m.config.bucketsNumber) := by
  intro h
  have hslots := h blockYaml ConfigManager.firstStart (some "config.yaml")
    { bucketsNumber := some 0 } _ _ [] rfl (.nil _)
  have hzero : asI32 (applyCliOverrides { nodeId := 1 } { bucketsNumber := some 0 }).bucketsNumber =
      0 := by decide
  exact not_usableSlots_zero (hzero ▸ hslots)

end

end HeadEnd
