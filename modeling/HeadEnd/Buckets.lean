import HeadEnd.Lib.Balance
import HeadEnd.Scheduler

/-! New devices go to a bucket that no bucket has fewer devices than, so the buckets
fill evenly. -/
namespace HeadEnd
open Balance

namespace InnerDB
variable {db : InnerDB} {d : Uuid} {n b : Nat}

/-- The search finds a bucket with the least number of devices. -/
theorem devicesInBucket_getBucketWithLessDevices_le (db : InnerDB) (hb : b < n) :
    db.devicesInBucket (db.getBucketWithLessDevices n) ≤ db.devicesInBucket b :=
  (db.isFirstMin_getBucketWithLessDevices (Nat.zero_lt_of_lt hb)).le b hb

theorem devicesInBucket_of_empty (h : db.buckets = ∅) : db.devicesInBucket b = 0 := by
  simp [devicesInBucket, h]

/-- The devices whose bucket number is `bucket`. -/
def bucketDevices (db : InnerDB) (bucket : Nat) : Finset Uuid :=
  db.buckets.keys.filter fun d => db.getBucketNumber d = .ok (bucket : Int)

theorem mem_bucketDevices : d ∈ db.bucketDevices b ↔ db.getBucketNumber d = .ok (b : Int) := by
  rw [bucketDevices, Finset.mem_filter, Finmap.mem_keys, Finmap.mem_iff, getBucketNumber]
  cases hrow : db.buckets.lookup d with
  | none => simp
  | some row => simp

/-- The counter that the search compares counts them. -/
theorem devicesInBucket_eq_card (db : InnerDB) (b : Nat) :
    db.devicesInBucket b = (db.bucketDevices b).card := by
  rw [devicesInBucket, bucketDevices]
  congr 1
  refine Finset.filter_congr fun d _ => ?_
  rw [getBucketNumber]
  cases hrow : db.buckets.lookup d with
  | none => simp
  | some row => simp

/-- A device without a bucket adds one to the bucket it gets. -/
theorem devicesInBucket_addDeviceToBucket (hd : d ∉ db.buckets) (bucket : Nat) (nodeId : Uuid) :
    (db.addDeviceToBucket d bucket nodeId).devicesInBucket b =
      db.devicesInBucket b + if b = bucket then 1 else 0 := by
  have hnone : db.buckets.lookup d = none := Finmap.lookup_eq_none.mpr hd
  have hold : d ∉ db.bucketDevices b := by
    simp [mem_bucketDevices, getBucketNumber, hnone]
  have hset : (db.addDeviceToBucket d bucket nodeId).bucketDevices b =
      if b = bucket then insert d (db.bucketDevices b) else db.bucketDevices b := by
    ext e
    rw [mem_bucketDevices]
    by_cases he : e = d
    · rw [he, getBucketNumber_addDeviceToBucket_self]
      by_cases hb : b = bucket
      · simp [hb]
      · simp [hb, hold, Ne.symm hb]
    · rw [getBucketNumber_addDeviceToBucket_of_ne db nodeId bucket he, ← mem_bucketDevices]
      by_cases hb : b = bucket
      · simp [hb, he]
      · simp [hb]
  rw [devicesInBucket_eq_card, devicesInBucket_eq_card, hset]
  split
  · exact Finset.card_insert_of_notMem hold
  · rfl

end InnerDB

namespace Scheduler
variable {s : Scheduler} {db db' : InnerDB} {now : Int} {d : Uuid}

/-- Registrations one after the other, each with the time at which it is made. -/
def registerAll (s : Scheduler) (db : InnerDB) :
    List (Uuid × Int) → Except SchedulerError InnerDB
  | [] => .ok db
  | (deviceId, now) :: calls =>
    match s.registerDevice db now deviceId with
    | .error e => .error e
    | .ok (db', _) => registerAll s db' calls

/-- What holds of the bucket table after the registration of some devices. -/
structure EvenlyFilled (s : Scheduler) (ids : Finset Uuid) (db : InnerDB) : Prop where
  known : ∀ d, d ∈ db.buckets ↔ d ∈ ids
  inRange : ∀ d row, db.buckets.lookup d = some row → 0 ≤ row.bucket ∧ row.bucket < s.bucketNumber
  balanced : Balanced (Set.Iio s.bucketNumber) db.devicesInBucket

theorem evenlyFilled_of_empty (h : db.buckets = ∅) : EvenlyFilled s ∅ db where
  known := by
    intro d
    rw [h]
    exact iff_of_false Finmap.notMem_empty (Finset.notMem_empty d)
  inRange := by simp [h]
  balanced := (balanced_const 0).congr fun _ _ => InnerDB.devicesInBucket_of_empty h

theorem registerDevice_eq_ok (hpos : 0 < s.bucketNumber) (db : InnerDB) (now : Int) (d : Uuid) :
    ∃ t, s.registerDevice db now d = .ok
      (db.addDeviceToBucket d (db.getBucketWithLessDevices s.bucketNumber) s.localNodeId, t) := by
  obtain ⟨t, ht⟩ := (exists_nextWakeup_iff now
    (fun _ => db.getBucketWithLessDevices_lt hpos)).mpr (.inr hpos)
  refine ⟨t, ?_⟩
  simp only [registerDevice, ht]

/-- One registration of a device that has no bucket yet. -/
theorem EvenlyFilled.register {ids : Finset Uuid} (h : EvenlyFilled s ids db)
    (hpos : 0 < s.bucketNumber) (hd : d ∉ ids) :
    EvenlyFilled s (insert d ids) (db.addDeviceToBucket d
      (db.getBucketWithLessDevices s.bucketNumber) s.localNodeId) := by
  have hnew : d ∉ db.buckets := mt (h.known d).mp hd
  refine ⟨fun e => ?_, fun e row hrow => ?_, ?_⟩
  · rw [InnerDB.addDeviceToBucket, Finmap.mem_insert, h.known e, Finset.mem_insert]
  · by_cases he : e = d
    · rw [he, InnerDB.addDeviceToBucket, Finmap.lookup_insert] at hrow
      cases hrow
      have hlt := db.getBucketWithLessDevices_lt hpos
      dsimp only
      omega
    · rw [InnerDB.addDeviceToBucket, Finmap.lookup_insert_of_ne _ he] at hrow
      exact h.inRange e row hrow
  · have hleast : ∀ j ∈ Set.Iio s.bucketNumber,
        db.devicesInBucket (db.getBucketWithLessDevices s.bucketNumber) ≤ db.devicesInBucket j :=
      fun j hj => db.devicesInBucket_getBucketWithLessDevices_le hj
    exact (h.balanced.add_least hleast).congr fun b _ =>
      InnerDB.devicesInBucket_addDeviceToBucket hnew _ _

theorem EvenlyFilled.registerAll {ids : Finset Uuid} {calls : List (Uuid × Int)}
    (h : EvenlyFilled s ids db) (hpos : 0 < s.bucketNumber) (hnodup : (calls.map Prod.fst).Nodup)
    (hnew : ∀ d ∈ calls.map Prod.fst, d ∉ ids) :
    ∃ db', s.registerAll db calls = .ok db' ∧
      EvenlyFilled s (ids ∪ (calls.map Prod.fst).toFinset) db' := by
  induction calls generalizing db ids with
  | nil => exact ⟨db, rfl, by simpa using h⟩
  | cons call calls ih =>
    obtain ⟨d, now⟩ := call
    rw [List.map_cons, List.nodup_cons] at hnodup
    rw [List.map_cons, List.forall_mem_cons] at hnew
    obtain ⟨t, ht⟩ := registerDevice_eq_ok hpos db now d
    have hlater : ∀ e ∈ calls.map Prod.fst, e ∉ insert d ids := by
      intro e he hmem
      cases Finset.mem_insert.mp hmem with
      | inl heq => exact hnodup.1 (heq ▸ he)
      | inr hold => exact hnew.2 e he hold
    obtain ⟨db', hrun, hfilled⟩ := ih (h.register hpos hnew.1) hnodup.2 hlater
    refine ⟨db', ?_, ?_⟩
    · rw [Scheduler.registerAll, ht]
      exact hrun
    · rw [List.map_cons, List.toFinset_cons, Finset.union_insert, ← Finset.insert_union]
      exact hfilled

/-- From an empty table on, every device gets one of the buckets, and the buckets differ
by one device at most. -/
theorem buckets_stay_balanced {calls : List (Uuid × Int)} (hpos : 0 < s.bucketNumber)
    (hempty : db.buckets = ∅) (hnodup : (calls.map Prod.fst).Nodup) :
    ∃ db', s.registerAll db calls = .ok db' ∧
      (∀ d ∈ calls.map Prod.fst,
        ∃! b : Int, db'.getBucketNumber d = .ok b ∧ 0 ≤ b ∧ b < s.bucketNumber) ∧
      (∀ d ∈ db'.buckets, d ∈ calls.map Prod.fst) ∧
      ∀ i < s.bucketNumber, ∀ j < s.bucketNumber,
        (db'.bucketDevices i).card ≤ (db'.bucketDevices j).card + 1 := by
  obtain ⟨db', hrun, hfilled⟩ := (evenlyFilled_of_empty hempty).registerAll hpos hnodup
    (fun _ _ => Finset.notMem_empty _)
  rw [Finset.empty_union] at hfilled
  refine ⟨db', hrun, fun d hd => ?_, fun d hd => ?_, fun i hi j hj => ?_⟩
  · obtain ⟨row, hrow⟩ := Finmap.mem_iff.mp ((hfilled.known d).mpr (List.mem_toFinset.mpr hd))
    have hbucket : db'.getBucketNumber d = .ok row.bucket := by rw [InnerDB.getBucketNumber, hrow]
    refine ⟨row.bucket, ⟨hbucket, hfilled.inRange d row hrow⟩, fun b hb => ?_⟩
    rw [hbucket] at hb
    exact (Except.ok.inj hb.1).symm
  · exact List.mem_toFinset.mp ((hfilled.known d).mp hd)
  · rw [← InnerDB.devicesInBucket_eq_card, ← InnerDB.devicesInBucket_eq_card]
    exact hfilled.balanced i hi j hj

def twoBuckets : Scheduler := ⟨2, .empty, none, 1, false⟩

def threeCalls : List (Uuid × Int) := [(7, 0), (8, 0), (9, 0)]

/-- Three devices in two buckets. -/
theorem buckets_stay_balanced_two :
    ∃ db', twoBuckets.registerAll InnerDB.new threeCalls = .ok db' ∧
      (db'.bucketDevices 0).card ≤ (db'.bucketDevices 1).card + 1 := by
  have hnodup : (threeCalls.map Prod.fst).Nodup := by decide
  have hempty : InnerDB.new.buckets = ∅ := rfl
  have hpos : 0 < twoBuckets.bucketNumber := by decide
  obtain ⟨db', hrun, -, -, hbalanced⟩ := buckets_stay_balanced hpos hempty hnodup
  exact ⟨db', hrun, hbalanced 0 (by decide) 1 (by decide)⟩

end Scheduler

end HeadEnd
