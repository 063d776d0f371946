import HeadEnd.Scheduler
import Mathlib.Data.List.Sort

/-! Device ownership of one node: the set it believes it owns, its scheduler, and
the calls that take devices over, give them away, or share out those of a node
that failed. -/
namespace HeadEnd

structure DelegatedDevice where
  deviceId : Uuid
  ipv4 : Option String
  ipv6 : Option String
  scheduleTime : Int
  deriving DecidableEq, Repr

structure DeviceManager where
  localNodeId : Uuid
  ownedDevices : Finset Uuid
  scheduler : Scheduler

namespace DeviceManager

def jobs (dm : DeviceManager) : JobScheduler := dm.scheduler.jobScheduler

def registerDevice (db : InnerDB) (dm : DeviceManager) (now : Int) (device : Device) :
    Except SchedulerError (InnerDB × DeviceManager × Int) :=
  match dm.scheduler.registerDevice db now device.id with
  | .error e => .error e
  | .ok (db', nextWake) =>
    .ok (db', { dm with ownedDevices := insert device.id dm.ownedDevices }, nextWake)

def scheduleNextWakeup (db : InnerDB) (dm : DeviceManager) (now : Int) (deviceId : Uuid) :
    Except SchedulerError (InnerDB × DeviceManager) :=
  match dm.scheduler.scheduleNextWakeupJob db now deviceId with
  | .error e => .error e
  | .ok (db', scheduler) => .ok (db', { dm with scheduler })

def removeScheduledDevice (dm : DeviceManager) (deviceId : Uuid) : DeviceManager :=
  { dm with scheduler := dm.scheduler.removeOwnedDevice deviceId }

/-- One round of `acceptDelegation`: owner in the database, owned set, job. -/
def acceptDevice (now : Int) (st : InnerDB × DeviceManager) (device : DelegatedDevice) :
    InnerDB × DeviceManager :=
  let db := st.1.setDeviceOwner device.deviceId st.2.localNodeId
  let (db', scheduler) :=
    st.2.scheduler.scheduleDelegatedDevice db now device.deviceId device.scheduleTime
  (db', { st.2 with ownedDevices := insert device.deviceId st.2.ownedDevices, scheduler })

def acceptDelegation (dm : DeviceManager) (db : InnerDB) (now : Int)
    (devices : List DelegatedDevice) : InnerDB × DeviceManager × List Uuid :=
  let st := devices.foldl (acceptDevice now) (db, dm)
  (st.1, st.2, devices.map DelegatedDevice.deviceId)

def releaseDevice (dm : DeviceManager) (deviceId : Uuid) : DeviceManager :=
  { dm with ownedDevices := dm.ownedDevices.erase deviceId }

def releaseDevices (dm : DeviceManager) (deviceIds : List Uuid) : DeviceManager :=
  deviceIds.foldl releaseDevice dm

/-- The candidates for orphaned devices, least loaded first; ties keep their
order, with the local node after the others. -/
def allNodes (localId : Uuid) (ownedCount : Nat) (others : List (Uuid × Nat)) :
    List (Uuid × Nat) :=
  (others ++ [(localId, ownedCount)]).insertionSort (fun a b => a.2 ≤ b.2)

def targetOf (nodes : List (Uuid × Nat)) (i : Nat) : Uuid :=
  ((nodes[i % nodes.length]?).map Prod.fst).getD Uuid.nil

/-- Orphans with the node each goes to, in turn over the candidates. -/
def redistributionPlan (nodes : List (Uuid × Nat)) (orphaned : List Uuid) : List (Uuid × Uuid) :=
  orphaned.zipIdx.map (fun p => (p.1, targetOf nodes p.2))

def assignOrphan (st : InnerDB × DeviceManager) (p : Uuid × Uuid) : InnerDB × DeviceManager :=
  (st.1.setDeviceOwner p.1 p.2,
    if p.2 = st.2.localNodeId then
      { st.2 with ownedDevices := insert p.1 st.2.ownedDevices }
    else st.2)

/-- `orphaned` is what the database lists as owned by the failed node. The
scheduler is not told about the devices that are taken over. -/
def redistributeFromFailed (db : InnerDB) (dm : DeviceManager) (others : List (Uuid × Nat))
    (orphaned : List Uuid) : InnerDB × DeviceManager :=
  if orphaned = [] then (db, dm)
  else
    (redistributionPlan (allNodes dm.localNodeId dm.ownedDevices.card others) orphaned).foldl
      assignOrphan (db, dm)

theorem registerDevice_eq_ok {db db' : InnerDB} {dm dm' : DeviceManager} {now nextWake : Int}
    {device : Device} (h : registerDevice db dm now device = .ok (db', dm', nextWake)) :
    db' = db.addDeviceToBucket device.id (db.getBucketWithLessDevices dm.scheduler.bucketNumber)
        dm.scheduler.localNodeId ∧
      dm' = { dm with ownedDevices := insert device.id dm.ownedDevices } ∧
      dm.scheduler.nextWakeup now (db.getBucketWithLessDevices dm.scheduler.bucketNumber) =
        .ok nextWake := by
  unfold registerDevice Scheduler.registerDevice at h
  dsimp only at h
  cases hnext : dm.scheduler.nextWakeup now
      (db.getBucketWithLessDevices dm.scheduler.bucketNumber) with
  | error e =>
    rw [hnext] at h
    cases h
  | ok t =>
    rw [hnext] at h
    cases h
    exact ⟨rfl, rfl, rfl⟩

theorem registerDevice_localNodeId {db db' : InnerDB} {dm dm' : DeviceManager}
    {now nextWake : Int} {device : Device}
    (h : registerDevice db dm now device = .ok (db', dm', nextWake)) :
    dm'.localNodeId = dm.localNodeId := by
  obtain ⟨-, rfl, -⟩ := registerDevice_eq_ok h
  rfl

theorem exists_registerDevice_iff (db : InnerDB) (dm : DeviceManager) (now : Int)
    (device : Device) :
    (∃ r, registerDevice db dm now device = .ok r) ↔
      dm.scheduler.testMode = true ∨ 0 < dm.scheduler.bucketNumber := by
  rw [← Scheduler.exists_nextWakeup_iff now db.getBucketWithLessDevices_lt]
  unfold registerDevice Scheduler.registerDevice
  dsimp only
  cases dm.scheduler.nextWakeup now (db.getBucketWithLessDevices dm.scheduler.bucketNumber) with
  | error e => simp
  | ok t => simp

theorem not_registers_of_error {db : InnerDB} {dm : DeviceManager} {now : Int} {device : Device}
    {e : SchedulerError} (h : registerDevice db dm now device = .error e) :
    ¬ (dm.scheduler.testMode = true ∨ 0 < dm.scheduler.bucketNumber) := by
  intro hok
  obtain ⟨r, hr⟩ := (exists_registerDevice_iff db dm now device).mpr hok
  rw [h] at hr
  cases hr

theorem scheduleNextWakeup_eq_ok {db db' : InnerDB} {dm dm' : DeviceManager} {now : Int}
    {d : Uuid} (h : scheduleNextWakeup db dm now d = .ok (db', dm')) :
    ∃ bucket t, db.getBucketNumber d = .ok bucket ∧
      dm.scheduler.nextWakeup now (Scheduler.asUsize bucket) = .ok t ∧
      db' = db.scheduleConnection d t dm.jobs.nextId ∧
      dm' = { dm with scheduler := (dm.scheduler.createWakeupJob now d t).1 } := by
  unfold scheduleNextWakeup Scheduler.scheduleNextWakeupJob at h
  cases hbucket : db.getBucketNumber d with
  | error e =>
    rw [hbucket] at h
    cases h
  | ok bucket =>
    rw [hbucket] at h
    dsimp only at h
    cases hnext : dm.scheduler.nextWakeup now (Scheduler.asUsize bucket) with
    | error e =>
      rw [hnext] at h
      cases h
    | ok t =>
      rw [hnext] at h
      cases h
      exact ⟨bucket, t, rfl, hnext, rfl, rfl⟩

section Accept

variable (now : Int) (st : InnerDB × DeviceManager) (device : DelegatedDevice)

@[simp] theorem acceptDevice_localNodeId :
    (acceptDevice now st device).2.localNodeId = st.2.localNodeId := rfl

@[simp] theorem acceptDevice_ownedDevices :
    (acceptDevice now st device).2.ownedDevices = insert device.deviceId st.2.ownedDevices := rfl

theorem acceptDevice_jobs : (acceptDevice now st device).2.jobs =
    st.2.jobs.submit now ⟨device.deviceId, wholeSecond device.scheduleTime⟩ := rfl

theorem acceptDevice_scheduledConnections : (acceptDevice now st device).1.scheduledConnections =
    st.1.scheduledConnections.insert device.deviceId (InnerDB.awaitingConnection device.deviceId
      device.scheduleTime st.2.jobs.nextId) := by
  rw [← InnerDB.setDeviceOwner_scheduledConnections st.1 device.deviceId st.2.localNodeId]
  rfl

theorem acceptDevice_owner (d : Uuid) : (acceptDevice now st device).1.owner d =
    (st.1.setDeviceOwner device.deviceId st.2.localNodeId).owner d := rfl

theorem foldl_acceptDevice_localNodeId (devices : List DelegatedDevice) :
    (devices.foldl (acceptDevice now) st).2.localNodeId = st.2.localNodeId := by
  induction devices generalizing st with
  | nil => rfl
  | cons e devices ih => rw [List.foldl_cons, ih, acceptDevice_localNodeId]

theorem acceptDelegation_localNodeId (db : InnerDB) (dm : DeviceManager)
    (devices : List DelegatedDevice) :
    (dm.acceptDelegation db now devices).2.1.localNodeId = dm.localNodeId :=
  foldl_acceptDevice_localNodeId now (db, dm) devices

theorem foldl_acceptDevice_ownedDevices (devices : List DelegatedDevice) :
    (devices.foldl (acceptDevice now) st).2.ownedDevices =
      st.2.ownedDevices ∪ (devices.map DelegatedDevice.deviceId).toFinset := by
  induction devices generalizing st with
  | nil => simp
  | cons e devices ih =>
    rw [List.foldl_cons, ih, acceptDevice_ownedDevices]
    ext d
    simp only [Finset.mem_union, Finset.mem_insert, List.mem_toFinset, List.map_cons,
      List.mem_cons]
    tauto

theorem acceptDelegation_ownedDevices (db : InnerDB) (dm : DeviceManager)
    (devices : List DelegatedDevice) :
    (dm.acceptDelegation db now devices).2.1.ownedDevices =
      dm.ownedDevices ∪ (devices.map DelegatedDevice.deviceId).toFinset :=
  foldl_acceptDevice_ownedDevices now (db, dm) devices

theorem foldl_acceptDevice_owner_of_notMem {devices : List DelegatedDevice} {d : Uuid}
    (h : d ∉ devices.map DelegatedDevice.deviceId) :
    (devices.foldl (acceptDevice now) st).1.owner d = st.1.owner d := by
  induction devices generalizing st with
  | nil => rfl
  | cons e devices ih =>
    obtain ⟨hne, hrest⟩ := not_or.mp (mt List.mem_cons.mpr h)
    rw [List.foldl_cons, ih _ hrest, acceptDevice_owner, InnerDB.owner_setDeviceOwner_of_ne hne]

theorem foldl_acceptDevice_owner_of_mem {devices : List DelegatedDevice} {d : Uuid}
    (h : d ∈ devices.map DelegatedDevice.deviceId) :
    (devices.foldl (acceptDevice now) st).1.owner d =
      (st.1.owner d).map (fun _ => st.2.localNodeId) := by
  induction devices generalizing st with
  | nil => cases h
  | cons e devices ih =>
    rw [List.foldl_cons]
    by_cases hlater : d ∈ devices.map DelegatedDevice.deviceId
    · rw [ih _ hlater, acceptDevice_owner, acceptDevice_localNodeId]
      by_cases hd : d = e.deviceId
      · rw [hd, InnerDB.owner_setDeviceOwner_same, Option.map_map]
        rfl
      · rw [InnerDB.owner_setDeviceOwner_of_ne hd]
    · have hd : d = e.deviceId := (List.mem_cons.mp h).resolve_right hlater
      rw [foldl_acceptDevice_owner_of_notMem _ _ hlater, acceptDevice_owner, ← hd,
        InnerDB.owner_setDeviceOwner_same]

theorem foldl_acceptDevice_idle {devices : List DelegatedDevice} {d : Uuid}
    (h : d ∉ devices.map DelegatedDevice.deviceId) (hidle : st.2.jobs.Idle d) :
    (devices.foldl (acceptDevice now) st).2.jobs.Idle d := by
  induction devices generalizing st with
  | nil => exact hidle
  | cons e devices ih =>
    obtain ⟨hne, hrest⟩ := not_or.mp (mt List.mem_cons.mpr h)
    exact ih _ hrest (hidle.submit (Ne.symm hne))

theorem foldl_acceptDevice_pendingAfter {later : Int} (hle : now ≤ later)
    (devices : List DelegatedDevice) (d : Uuid) :
    (devices.foldl (acceptDevice now) st).2.jobs.PendingAfter d later ↔
      (∃ e ∈ devices, e.deviceId = d ∧ later < wholeSecond e.scheduleTime) ∨
        st.2.jobs.PendingAfter d later := by
  induction devices generalizing st with
  | nil => simp
  | cons e devices ih =>
    rw [List.foldl_cons, ih, acceptDevice_jobs, JobScheduler.pendingAfter_submit hle]
    simp only [List.mem_cons, exists_eq_or_imp]
    exact or_left_comm.trans or_assoc.symm

end Accept

theorem releaseDevices_ownedDevices (dm : DeviceManager) (ids : List Uuid) :
    (dm.releaseDevices ids).ownedDevices = dm.ownedDevices \ ids.toFinset := by
  unfold releaseDevices
  induction ids generalizing dm with
  | nil => simp
  | cons d ids ih =>
    rw [List.foldl_cons, ih]
    ext x
    simp only [releaseDevice, Finset.mem_sdiff, Finset.mem_erase, List.mem_toFinset, List.mem_cons]
    tauto

theorem releaseDevices_scheduler (dm : DeviceManager) (ids : List Uuid) :
    (dm.releaseDevices ids).scheduler = dm.scheduler := by
  unfold releaseDevices
  induction ids generalizing dm with
  | nil => rfl
  | cons d ids ih => rw [List.foldl_cons, ih, releaseDevice]

theorem foldl_removeScheduledDevice_ownedDevices (dm : DeviceManager) (ids : List Uuid) :
    (ids.foldl removeScheduledDevice dm).ownedDevices = dm.ownedDevices := by
  induction ids generalizing dm with
  | nil => rfl
  | cons d ids ih => rw [List.foldl_cons, ih, removeScheduledDevice]

theorem foldl_removeScheduledDevice_localNodeId (dm : DeviceManager) (ids : List Uuid) :
    (ids.foldl removeScheduledDevice dm).localNodeId = dm.localNodeId := by
  induction ids generalizing dm with
  | nil => rfl
  | cons d ids ih => rw [List.foldl_cons, ih, removeScheduledDevice]

theorem releaseDevices_localNodeId (dm : DeviceManager) (ids : List Uuid) :
    (dm.releaseDevices ids).localNodeId = dm.localNodeId := by
  unfold releaseDevices
  induction ids generalizing dm with
  | nil => rfl
  | cons d ids ih => rw [List.foldl_cons, ih, releaseDevice]

theorem foldl_removeScheduledDevice_scheduler (dm : DeviceManager) (ids : List Uuid) :
    (ids.foldl removeScheduledDevice dm).scheduler.ownedDevices =
      dm.scheduler.ownedDevices.map (· \ ids.toFinset) := by
  induction ids generalizing dm with
  | nil => simp
  | cons d ids ih =>
    rw [List.foldl_cons, ih]
    simp only [removeScheduledDevice, Scheduler.removeOwnedDevice, Option.map_map]
    refine congrArg (Option.map · _) (funext fun owned => ?_)
    ext x
    simp only [Function.comp_apply, Finset.mem_sdiff, Finset.mem_erase, List.mem_toFinset,
      List.mem_cons]
    tauto

theorem foldl_removeScheduledDevice_jobs (dm : DeviceManager) (ids : List Uuid) :
    (ids.foldl removeScheduledDevice dm).jobs = dm.jobs := by
  induction ids generalizing dm with
  | nil => rfl
  | cons d ids ih =>
    rw [List.foldl_cons, ih]
    rfl

section Redistribute

theorem allNodes_length_pos (localId : Uuid) (n : Nat) (others : List (Uuid × Nat)) :
    0 < (allNodes localId n others).length := by
  simp [allNodes]

theorem targetOf_eq {nodes : List (Uuid × Nat)} (h : 0 < nodes.length) (i : Nat) :
    ∃ count, nodes[i % nodes.length]? = some (targetOf nodes i, count) := by
  have hlt := Nat.mod_lt i h
  refine ⟨nodes[i % nodes.length].2, ?_⟩
  simp [targetOf, List.getElem?_eq_getElem hlt]

/-- The target of an orphan is among as many candidates as there are orphans. -/
theorem exists_mem_take_of_targetOf {nodes : List (Uuid × Nat)} (h : 0 < nodes.length) {i k : Nat}
    (hi : i < k) : ∃ p ∈ nodes.take k, p.1 = targetOf nodes i := by
  obtain ⟨count, hget⟩ := targetOf_eq h i
  refine ⟨(targetOf nodes i, count), List.mem_of_getElem? (i := i % nodes.length) ?_, rfl⟩
  rw [List.getElem?_take_of_lt (Nat.lt_of_le_of_lt (Nat.mod_le i _) hi), hget]

theorem exists_targetOf_of_mem_take {nodes : List (Uuid × Nat)} {k : Nat} {p : Uuid × Nat}
    (hp : p ∈ nodes.take k) : ∃ i < k, targetOf nodes i = p.1 := by
  obtain ⟨i, hi, hget⟩ := List.getElem_of_mem hp
  have hlen : i < k ∧ i < nodes.length := by
    rw [List.length_take] at hi
    omega
  refine ⟨i, hlen.1, ?_⟩
  rw [List.getElem_take] at hget
  simp [targetOf, Nat.mod_eq_of_lt hlen.2, List.getElem?_eq_getElem hlen.2, hget]

theorem map_fst_redistributionPlan (nodes : List (Uuid × Nat)) (orphaned : List Uuid) :
    (redistributionPlan nodes orphaned).map Prod.fst = orphaned := by
  simp [redistributionPlan, Function.comp_def]

theorem mem_redistributionPlan {nodes : List (Uuid × Nat)} {orphaned : List Uuid} {d t : Uuid} :
    (d, t) ∈ redistributionPlan nodes orphaned ↔
      ∃ i, orphaned[i]? = some d ∧ targetOf nodes i = t := by
  simp only [redistributionPlan, List.mem_map, Prod.mk.injEq]
  constructor
  · rintro ⟨⟨e, i⟩, hmem, rfl, rfl⟩
    exact ⟨i, by simpa [List.mem_zipIdx_iff_getElem?] using hmem, rfl⟩
  · rintro ⟨i, hget, rfl⟩
    exact ⟨(d, i), by simpa [List.mem_zipIdx_iff_getElem?] using hget, rfl, rfl⟩

theorem assignOrphan_localNodeId (st : InnerDB × DeviceManager) (p : Uuid × Uuid) :
    (assignOrphan st p).2.localNodeId = st.2.localNodeId := by
  unfold assignOrphan
  split <;> rfl

theorem assignOrphan_scheduler (st : InnerDB × DeviceManager) (p : Uuid × Uuid) :
    (assignOrphan st p).2.scheduler = st.2.scheduler := by
  unfold assignOrphan
  split <;> rfl

theorem mem_assignOrphan {st : InnerDB × DeviceManager} {p : Uuid × Uuid} {d : Uuid} :
    d ∈ (assignOrphan st p).2.ownedDevices ↔
      (d = p.1 ∧ p.2 = st.2.localNodeId) ∨ d ∈ st.2.ownedDevices := by
  unfold assignOrphan
  by_cases h : p.2 = st.2.localNodeId
  · simp [h]
  · simp [h]

theorem foldl_assignOrphan_scheduler (ps : List (Uuid × Uuid)) (st : InnerDB × DeviceManager) :
    (ps.foldl assignOrphan st).2.scheduler = st.2.scheduler := by
  induction ps generalizing st with
  | nil => rfl
  | cons p ps ih => rw [List.foldl_cons, ih, assignOrphan_scheduler]

theorem mem_foldl_assignOrphan {ps : List (Uuid × Uuid)} {st : InnerDB × DeviceManager} {d : Uuid} :
    d ∈ (ps.foldl assignOrphan st).2.ownedDevices ↔
      (d, st.2.localNodeId) ∈ ps ∨ d ∈ st.2.ownedDevices := by
  induction ps generalizing st with
  | nil => simp
  | cons p ps ih =>
    have hp : (d, st.2.localNodeId) = p ↔ d = p.1 ∧ p.2 = st.2.localNodeId := by
      rw [Prod.ext_iff]
      exact and_congr_right fun _ => eq_comm
    rw [List.foldl_cons, ih, assignOrphan_localNodeId, mem_assignOrphan, List.mem_cons, hp]
    exact or_left_comm.trans or_assoc.symm

theorem foldl_assignOrphan_owner_of_notMem {ps : List (Uuid × Uuid)} {d : Uuid}
    (st : InnerDB × DeviceManager) (h : d ∉ ps.map Prod.fst) :
    (ps.foldl assignOrphan st).1.owner d = st.1.owner d := by
  induction ps generalizing st with
  | nil => rfl
  | cons p ps ih =>
    obtain ⟨hne, hrest⟩ := not_or.mp (mt List.mem_cons.mpr h)
    rw [List.foldl_cons, ih _ hrest]
    exact InnerDB.owner_setDeviceOwner_of_ne hne

theorem foldl_assignOrphan_owner {ps : List (Uuid × Uuid)} {d n : Uuid}
    (st : InnerDB × DeviceManager) (hnd : (ps.map Prod.fst).Nodup) (h : (d, n) ∈ ps)
    (hd : (st.1.owner d).isSome) : (ps.foldl assignOrphan st).1.owner d = some n := by
  induction ps generalizing st with
  | nil => cases h
  | cons p ps ih =>
    obtain ⟨hfresh, hnd'⟩ := List.nodup_cons.mp hnd
    rw [List.foldl_cons]
    cases List.mem_cons.mp h with
    | inl hp =>
      subst hp
      obtain ⟨o, ho⟩ := Option.isSome_iff_exists.mp hd
      rw [foldl_assignOrphan_owner_of_notMem _ hfresh]
      exact InnerDB.owner_setDeviceOwner_self ho
    | inr hrest => exact ih _ hnd' hrest (InnerDB.owner_setDeviceOwner_isSome.trans hd)

/-- Who owns a device afterwards owned it before or is its target. -/
theorem owner_of_foldl_assignOrphan {ps : List (Uuid × Uuid)} {d n : Uuid}
    (st : InnerDB × DeviceManager) (h : (ps.foldl assignOrphan st).1.owner d = some n) :
    (d, n) ∈ ps ∨ st.1.owner d = some n := by
  induction ps generalizing st with
  | nil => exact .inr h
  | cons p ps ih =>
    cases ih (assignOrphan st p) h with
    | inl hmem => exact .inl (List.mem_cons_of_mem p hmem)
    | inr hbefore =>
      change (st.1.setDeviceOwner p.1 p.2).owner d = some n at hbefore
      by_cases hd : d = p.1
      · rw [hd, InnerDB.owner_setDeviceOwner_same] at hbefore
        obtain ⟨_, -, hn⟩ := Option.map_eq_some_iff.mp hbefore
        exact .inl (List.mem_cons.mpr (.inl (Prod.ext hd hn.symm)))
      · rw [InnerDB.owner_setDeviceOwner_of_ne hd] at hbefore
        exact .inr hbefore

theorem redistributeFromFailed_eq (db : InnerDB) (dm : DeviceManager)
    (others : List (Uuid × Nat)) (orphaned : List Uuid) :
    redistributeFromFailed db dm others orphaned =
      (redistributionPlan (allNodes dm.localNodeId dm.ownedDevices.card others) orphaned).foldl
        assignOrphan (db, dm) := by
  rw [redistributeFromFailed]
  by_cases h : orphaned = []
  · rw [if_pos h, h]
    rfl
  · rw [if_neg h]

theorem redistributeFromFailed_owner {db : InnerDB} {dm : DeviceManager}
    {others : List (Uuid × Nat)} {orphaned : List Uuid} {d : Uuid} {i : Nat}
    (hnd : orphaned.Nodup) (hi : orphaned[i]? = some d) (hd : (db.owner d).isSome) :
    (redistributeFromFailed db dm others orphaned).1.owner d =
      some (targetOf (allNodes dm.localNodeId dm.ownedDevices.card others) i) := by
  rw [redistributeFromFailed_eq]
  refine foldl_assignOrphan_owner _ ?_ (mem_redistributionPlan.mpr ⟨i, hi, rfl⟩) hd
  rw [map_fst_redistributionPlan]
  exact hnd

theorem redistributeFromFailed_jobs (db : InnerDB) (dm : DeviceManager)
    (others : List (Uuid × Nat)) (orphaned : List Uuid) :
    (redistributeFromFailed db dm others orphaned).2.jobs = dm.jobs := by
  rw [redistributeFromFailed_eq]
  exact congrArg Scheduler.jobScheduler (foldl_assignOrphan_scheduler _ _)

theorem mem_redistributeFromFailed {db : InnerDB} {dm : DeviceManager}
    {others : List (Uuid × Nat)} {orphaned : List Uuid} {d : Uuid} :
    d ∈ (redistributeFromFailed db dm others orphaned).2.ownedDevices ↔
      (∃ i, orphaned[i]? = some d ∧
        targetOf (allNodes dm.localNodeId dm.ownedDevices.card others) i = dm.localNodeId) ∨
      d ∈ dm.ownedDevices := by
  rw [redistributeFromFailed_eq, mem_foldl_assignOrphan, mem_redistributionPlan]

end Redistribute

end DeviceManager

end HeadEnd
