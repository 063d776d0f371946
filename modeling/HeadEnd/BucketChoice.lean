import HeadEnd.Buckets
import HeadEnd.Lib.FirstMin
import HeadEnd.Postgres

/-! The two engines choose the bucket of a new device in different ways: one counts into a
vector and takes the position of the minimum, the other looks every bucket up in what
`GROUP BY` returned and keeps the best one so far. -/
namespace HeadEnd
open FirstMin

def i64Max : Int := 2 ^ 63 - 1

namespace InnerDB
variable {db : InnerDB} {values : List Int} {total : Int} {n : Nat}

/-- The buckets of all devices, in the map's order: any order. -/
def ListsBuckets (db : InnerDB) (values : List Int) : Prop :=
  (values : Multiset Int) = db.buckets.entries.map fun entry => entry.2.bucket

/-- One round of the counting loop. A negative bucket, or one past the end, is skipped. -/
def countBucket (counts : List Nat) (bucket : Int) : List Nat :=
  if 0 ≤ bucket ∧ bucket.toNat < counts.length then counts.modify bucket.toNat (· + 1) else counts

def countBuckets (total : Nat) (values : List Int) : List Nat :=
  values.foldl countBucket (List.replicate total 0)

/-- `vec![0; total_buckets as usize]` panics if the number is negative. -/
def bucketWithLessDevices (values : List Int) (total : Int) : Option Int :=
  if total < 0 then none
  else some (positionOfMin 0 (countBuckets total.toNat values) : Nat)

theorem countBucket_range (g : Nat → Nat) (bucket : Int) :
    countBucket ((List.range n).map g) bucket =
      (List.range n).map fun j => g j + if bucket = j then 1 else 0 := by
  unfold countBucket
  rw [List.length_map, List.length_range]
  split
  next hin =>
    refine List.ext_getElem (by simp) fun j hj hj' => ?_
    simp only [List.getElem_modify, List.getElem_map, List.getElem_range]
    by_cases heq : bucket.toNat = j
    · rw [if_pos heq, if_pos (by omega)]
    · rw [if_neg heq, if_neg (by omega)]
      rfl
  next hout =>
    refine List.map_congr_left fun j hj => ?_
    have hlt := List.mem_range.mp hj
    rw [if_neg (by omega), Nat.add_zero]

/-- The loop counts, for each bucket in range, the rows that name it. -/
theorem countBuckets_eq (n : Nat) (values : List Int) :
    countBuckets n values = (List.range n).map fun j : Nat => values.count (j : Int) := by
  have hloop : ∀ g : Nat → Nat, values.foldl countBucket ((List.range n).map g) =
      (List.range n).map fun j : Nat => g j + values.count (j : Int) := by
    induction values with
    | nil => exact fun g => by simp
    | cons bucket values ih =>
      intro g
      rw [List.foldl_cons, countBucket_range, ih]
      refine List.map_congr_left fun j _ => ?_
      rw [List.count_cons]
      simp only [beq_iff_eq]
      omega
  have hstart : List.replicate n 0 = (List.range n).map fun _ => 0 := by
    rw [List.map_const', List.length_range]
  rw [countBuckets, hstart, hloop]
  simp

theorem devicesInBucket_eq_count (h : db.ListsBuckets values) (b : Nat) :
    db.devicesInBucket b = values.count (b : Int) := by
  have hkeys : db.devicesInBucket b = db.buckets.entries.countP fun entry =>
      (db.buckets.lookup entry.1).map BucketRow.bucket = some (b : Int) := by
    rw [devicesInBucket, Finset.card_def, Finset.filter_val, ← Multiset.countP_eq_card_filter]
    change (db.buckets.entries.map Sigma.fst).countP _ = _
    rw [Multiset.countP_map, Multiset.countP_eq_card_filter]
  rw [hkeys, ← Multiset.coe_count, h, Multiset.count, Multiset.countP_map,
    ← Multiset.countP_eq_card_filter]
  refine Multiset.countP_congr rfl fun entry hentry => ?_
  have hrow : db.buckets.lookup entry.1 = some entry.2 := Finmap.lookup_eq_some_iff.mpr hentry
  rw [hrow, Option.map_some, Option.some.injEq]
  exact propext eq_comm

/-- In whatever order the rows are met, the loop chooses what `getBucketWithLessDevices`
does. -/
theorem bucketWithLessDevices_eq (h : db.ListsBuckets values) (n : Nat) :
    bucketWithLessDevices values n = some (db.getBucketWithLessDevices n : Int) := by
  have hcounts : countBuckets n values = (List.range n).map db.devicesInBucket := by
    rw [countBuckets_eq]
    exact List.map_congr_left fun j _ => (devicesInBucket_eq_count h j).symm
  rw [bucketWithLessDevices, if_neg (by omega), Int.toNat_natCast, hcounts]
  rfl

theorem bucketWithLessDevices_spec (values : List Int) (htotal : 1 ≤ total) :
    ∃ b : Nat, bucketWithLessDevices values total = some (b : Int) ∧
      IsFirstMin (fun j : Nat => values.count (j : Int)) total.toNat b := by
  refine ⟨_, if_neg (by omega), ?_⟩
  rw [countBuckets_eq]
  exact isFirstMin_positionOfMin 0 (by omega)

end InnerDB

namespace PostgresDB
variable {db : PostgresDB} {rows : List (Option Int × Int)} {total : Int}

/-- What `SELECT bucket, COUNT(*) … GROUP BY bucket` returns: a row for each value of the
column, with the number of rows that have it. A count is a `bigint`. -/
structure Groups (db : PostgresDB) (rows : List (Option Int × Int)) : Prop where
  distinct : (rows.map Prod.fst).Nodup
  counted : ∀ row ∈ rows, row.2 = (db.buckets.map PgBucketRow.bucket).count row.1
  present : ∀ bucket, bucket ∈ rows.map Prod.fst ↔ bucket ∈ db.buckets.map PgBucketRow.bucket
  fits : ∀ row ∈ rows, row.2 ≤ i64Max

def countOf (rows : List (Option Int × Int)) (bucket : Nat) : Int :=
  (rows.lookup (some (bucket : Int))).getD 0

/-- A NULL cannot be read as a number. The scan starts from bucket 1, which the first
round replaces. -/
def getBucketWithLessDevices (rows : List (Option Int × Int)) (total : Int) :
    Except PgError Int :=
  if none ∈ rows.map Prod.fst then .error .unexpectedNull
  else
    let (minCount, minBucket) := scan (countOf rows) i64Max 1 total.toNat
    if minCount = i64Max then .ok 0 else .ok minBucket

theorem countOf_le (h : db.Groups rows) (b : Nat) : countOf rows b ≤ i64Max := by
  unfold countOf
  cases hrow : rows.lookup (some (b : Int)) with
  | none => decide
  | some c =>
    obtain ⟨before, after, rfl, -⟩ := List.lookup_eq_some_iff.mp hrow
    exact h.fits (some (b : Int), c) (by simp)

theorem countOf_eq (h : db.Groups rows) (b : Nat) :
    countOf rows b = (db.buckets.map PgBucketRow.bucket).count (some (b : Int)) := by
  unfold countOf
  cases hrow : rows.lookup (some (b : Int)) with
  | none =>
    have hnone : some (b : Int) ∉ rows.map Prod.fst := by
      intro hmem
      obtain ⟨row, hin, heq⟩ := List.mem_map.mp hmem
      have hne := List.lookup_eq_none_iff.mp hrow row hin
      rw [heq] at hne
      simp at hne
    rw [Multiset.count_eq_zero.mpr fun hmem => hnone ((h.present _).mpr hmem)]
    rfl
  | some c =>
    obtain ⟨before, after, rfl, -⟩ := List.lookup_eq_some_iff.mp hrow
    exact h.counted (some (b : Int), c) (by simp)

theorem getBucketWithLessDevices_spec (hnull : none ∉ rows.map Prod.fst)
    (hle : ∀ b, countOf rows b ≤ i64Max) (htotal : 1 ≤ total) :
    ∃ b : Nat, getBucketWithLessDevices rows total = .ok (b : Int) ∧
      IsFirstMin (countOf rows) total.toNat b := by
  have hmin := isFirstMin_scan (f := countOf rows) (Nat.one_pos) (hle 0)
    (n := total.toNat) (by omega)
  have hfst := scan_fst (f := countOf rows) (Nat.one_pos) (hle 0) (n := total.toNat) (by omega)
  refine ⟨_, ?_, hmin⟩
  rw [getBucketWithLessDevices, if_neg hnull]
  dsimp only
  split
  next htop => rw [hmin.eq_zero_of_top (hle 0) (hfst.symm.trans htop)]; rfl
  next => rfl

end PostgresDB

/-- Both engines hold the same assignment of devices to buckets. -/
def SameBuckets (db : InnerDB) (pg : PostgresDB) : Prop :=
  pg.buckets.map PgBucketRow.bucket = db.buckets.entries.map fun entry => some entry.2.bucket

/-- On the same table both engines choose the first of the buckets in range that have the
fewest devices. -/
theorem engines_choose_same_bucket {db : InnerDB} {pg : PostgresDB} {values : List Int}
    {rows : List (Option Int × Int)} {total : Int} (htotal : 1 ≤ total)
    (hsame : SameBuckets db pg) (hvalues : db.ListsBuckets values) (hrows : pg.Groups rows) :
    ∃ b : Nat, InnerDB.bucketWithLessDevices values total = some (b : Int) ∧
      PostgresDB.getBucketWithLessDevices rows total = .ok (b : Int) ∧
      IsFirstMin db.devicesInBucket total.toNat b := by
  have hcolumn : pg.buckets.map PgBucketRow.bucket = (values : Multiset Int).map some := by
    rw [hsame, hvalues, Multiset.map_map]
    rfl
  have hcount : ∀ b, PostgresDB.countOf rows b = db.devicesInBucket b := by
    intro b
    rw [PostgresDB.countOf_eq hrows, hcolumn, InnerDB.devicesInBucket_eq_count hvalues,
      Multiset.count_map_eq_count' _ _ (Option.some_injective _), Multiset.coe_count]
  have hnull : none ∉ rows.map Prod.fst := by
    rw [hrows.present, hcolumn]
    simp
  obtain ⟨b, hb, hmin⟩ := InnerDB.bucketWithLessDevices_spec values htotal
  obtain ⟨c, hc, hmin'⟩ := PostgresDB.getBucketWithLessDevices_spec hnull
    (PostgresDB.countOf_le hrows) htotal
  have hfirst : IsFirstMin db.devicesInBucket total.toNat b :=
    hmin.congr fun i j => by
      rw [InnerDB.devicesInBucket_eq_count hvalues, InnerDB.devicesInBucket_eq_count hvalues]
  have hfirst' : IsFirstMin db.devicesInBucket total.toNat c :=
    hmin'.congr fun i j => by rw [hcount, hcount, Int.ofNat_le]
  exact ⟨b, hb, hfirst.unique hfirst' ▸ hc, hfirst⟩

/- Three devices were placed under another configuration, two of them out of range. -/
def leftoverBuckets : InnerDB :=
  { InnerDB.new with
    buckets := ((∅ : Table BucketRow).insert 9 ⟨-1, 1⟩ |>.insert 8 ⟨7, 1⟩).insert 7 ⟨0, 1⟩ }

def leftoverRows : PostgresDB :=
  { PostgresDB.ofIds {1} {7, 8, 9} with
    buckets := {⟨some 7, some 1, some 0⟩, ⟨some 8, some 1, some 7⟩, ⟨some 9, some 1, some (-1)⟩}
    bucket_device := by simp [PostgresDB.ofIds]
    bucket_node := by simp [PostgresDB.ofIds] }

/-- With two buckets both engines choose bucket 1. -/
theorem engines_choose_same_bucket_leftover :
    ∃ b : Nat, InnerDB.bucketWithLessDevices [0, 7, -1] 2 = some (b : Int) ∧
      PostgresDB.getBucketWithLessDevices [(some 0, 1), (some (-1), 1), (some 7, 1)] 2 =
        .ok (b : Int) ∧ IsFirstMin leftoverBuckets.devicesInBucket 2 b := by
  have hsame : SameBuckets leftoverBuckets leftoverRows := rfl
  have hvalues : leftoverBuckets.ListsBuckets [0, 7, -1] := rfl
  have hrows : leftoverRows.Groups [(some 0, 1), (some (-1), 1), (some 7, 1)] := by
    have hcolumn : leftoverRows.buckets.map PgBucketRow.bucket = ([some 0, some 7, some (-1)] :
        List (Option Int)) := rfl
    refine ⟨by decide, ?_, fun bucket => ?_, by decide⟩
    · rw [hcolumn]
      decide
    · rw [hcolumn, Multiset.mem_coe]
      simp only [List.map_cons, List.map_nil, List.mem_cons]
      tauto
  exact engines_choose_same_bucket (by decide) hsame hvalues hrows

end HeadEnd
