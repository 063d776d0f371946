import HeadEnd.Common
import HeadEnd.Lib.FirstMin
import Mathlib.Data.Finmap

/-! The tables of the database and the calls made on them. A hash map is a
finite map; where the code iterates over one, the order is any order. -/
namespace HeadEnd

inductive DatabaseError where
  | noDataFound
  | queryError (text : String)
  deriving DecidableEq, Repr

structure Device where
  id : Uuid
  ipv4 : Option String
  ipv6 : Option String
  imei : Option String
  deriving DecidableEq, Repr

inductive RegistrationStatus where
  | registered | pendingAck | ackTimeout
  deriving DecidableEq, Repr

inductive ScheduledStatus where
  | awaiting | lost | done
  deriving DecidableEq, Repr

/- The cron library hands out a fresh random id for every job; ids are kept as
   numbers that are never used twice. -/
abbrev JobId := Nat

structure ScheduledConnection where
  fkDevice : Uuid
  scheduleTime : Int
  connectionTime : Option Int
  status : ScheduledStatus
  jobId : Option JobId
  renewable : Bool
  lastBatteryRead : Option Int
  deriving DecidableEq, Repr

structure BucketRow where
  bucket : Int
  owner : Uuid
  deriving DecidableEq, Repr

structure Registration where
  status : RegistrationStatus
  time : Int
  deriving DecidableEq, Repr

abbrev Table (α : Type) := Finmap (fun _ : Uuid => α)

/-- Every row is filed under its own key. -/
def Keyed {α : Type} (key : α → Uuid) (t : Table α) : Prop :=
  ∀ id row, t.lookup id = some row → key row = id

section Keyed
variable {α : Type} {key : α → Uuid} {t : Table α} {id : Uuid}

theorem keyed_empty : Keyed key (∅ : Table α) := by
  intro id row h
  rw [Finmap.lookup_empty] at h
  cases h

theorem Keyed.insert (h : Keyed key t) {row : α} (hrow : key row = id) :
    Keyed key (t.insert id row) := by
  intro k r hr
  by_cases hk : k = id
  · subst hk
    rw [Finmap.lookup_insert] at hr
    cases hr
    exact hrow
  · rw [Finmap.lookup_insert_of_ne _ hk] at hr
    exact h k r hr

theorem Keyed.erase (h : Keyed key t) : Keyed key (t.erase id) := by
  intro k r hr
  by_cases hk : k = id
  · rw [hk, Finmap.lookup_erase] at hr
    cases hr
  · rw [Finmap.lookup_erase_ne hk] at hr
    exact h k r hr

end Keyed

structure InnerDB where
  devices : Table Device
  deviceRegistration : Table Registration
  buckets : Table BucketRow
  scheduledConnections : Table ScheduledConnection
  devices_keyed : Keyed Device.id devices
  connections_keyed : Keyed ScheduledConnection.fkDevice scheduledConnections

/-- `l` lists the set `s`: what iterating over it yields, in some order. -/
def Lists (l : List Uuid) (s : Finset Uuid) : Prop := l.Nodup ∧ l.toFinset = s

theorem Lists.mem_iff {l : List Uuid} {s : Finset Uuid} (h : Lists l s) {d : Uuid} :
    d ∈ l ↔ d ∈ s := by
  rw [← h.2, List.mem_toFinset]

theorem Lists.length_eq {l : List Uuid} {s : Finset Uuid} (h : Lists l s) :
    l.length = s.card := by
  rw [← h.2, List.toFinset_card_of_nodup h.1]

theorem exists_lists (s : Finset Uuid) : ∃ l, Lists l s :=
  ⟨s.toList, s.nodup_toList, s.toList_toFinset⟩

/-- Any element can be listed at any place. -/
theorem exists_lists_getElem? {s : Finset Uuid} {d : Uuid} (hd : d ∈ s) {i : Nat}
    (hi : i < s.card) : ∃ l, Lists l s ∧ l[i]? = some d := by
  have hlen : i ≤ (s.erase d).toList.length := by
    rw [Finset.length_toList, Finset.card_erase_of_mem hd]
    omega
  have hperm := List.perm_insertIdx d (s.erase d).toList hlen
  refine ⟨(s.erase d).toList.insertIdx i d, ⟨?_, ?_⟩, ?_⟩
  · rw [hperm.nodup_iff, List.nodup_cons]
    exact ⟨by simp, Finset.nodup_toList _⟩
  · rw [List.toFinset_eq_of_perm _ _ hperm, List.toFinset_cons, Finset.toList_toFinset,
      Finset.insert_erase hd]
  · rw [List.getElem?_insertIdx_self, if_pos hlen]

namespace InnerDB

def new : InnerDB := ⟨∅, ∅, ∅, ∅, keyed_empty, keyed_empty⟩

def addDevice (db : InnerDB) (device : Device) : InnerDB :=
  { db with
    devices := db.devices.insert device.id device
    devices_keyed := db.devices_keyed.insert rfl }

def getDevice (db : InnerDB) (deviceId : Uuid) : Except DatabaseError Device :=
  match db.devices.lookup deviceId with
  | some device => .ok device
  | none => .error .noDataFound

theorem getDevice_id {db : InnerDB} {deviceId : Uuid} {device : Device}
    (h : db.getDevice deviceId = .ok device) : device.id = deviceId := by
  unfold getDevice at h
  cases hrow : db.devices.lookup deviceId with
  | none =>
    rw [hrow] at h
    cases h
  | some row =>
    rw [hrow] at h
    cases h
    exact db.devices_keyed deviceId _ hrow

def modifyDevice (db : InnerDB) (device : Device) : Except DatabaseError InnerDB :=
  match db.devices.lookup device.id with
  | some _ => .ok (db.addDevice device)
  | none => .error .noDataFound

def registerDevice (db : InnerDB) (deviceId : Uuid) (timestamp : Int) : InnerDB :=
  { db with deviceRegistration := db.deviceRegistration.insert deviceId ⟨.pendingAck, timestamp⟩ }

/-- Only a registration that still waits for its ACK times out. -/
def registrationTimeout (db : InnerDB) (deviceId : Uuid) (timestamp : Int) :
    Except DatabaseError (InnerDB × Bool) :=
  match db.deviceRegistration.lookup deviceId with
  | none => .error .noDataFound
  | some row =>
    if row.status = .pendingAck then
      .ok ({ db with deviceRegistration :=
              db.deviceRegistration.insert deviceId ⟨.ackTimeout, timestamp⟩ }, true)
    else .ok (db, false)

def getDeviceRegistration (db : InnerDB) (deviceId : Uuid) : Except DatabaseError Registration :=
  match db.deviceRegistration.lookup deviceId with
  | some row => .ok row
  | none => .error .noDataFound

def updateDeviceRegistration (db : InnerDB) (deviceId : Uuid) (status : Option RegistrationStatus)
    (timestamp : Option Int) : Except DatabaseError InnerDB :=
  match db.deviceRegistration.lookup deviceId with
  | none => .error .noDataFound
  | some row =>
    let row' : Registration := ⟨status.getD row.status, timestamp.getD row.time⟩
    .ok { db with deviceRegistration := db.deviceRegistration.insert deviceId row' }

def devicesInBucket (db : InnerDB) (bucket : Nat) : Nat :=
  (db.buckets.keys.filter
    (fun d => (db.buckets.lookup d).map BucketRow.bucket = some (bucket : Int))).card

/-- The first bucket, in order, that no bucket has fewer devices than. -/
def getBucketWithLessDevices (db : InnerDB) (totalBuckets : Nat) : Nat :=
  let counts := (List.range totalBuckets).map db.devicesInBucket
  let minCount := counts.min?.getD 0
  (counts.findIdx? (· = minCount)).getD 0

theorem isFirstMin_getBucketWithLessDevices (db : InnerDB) {n : Nat} (hn : 0 < n) :
    FirstMin.IsFirstMin db.devicesInBucket n (db.getBucketWithLessDevices n) :=
  FirstMin.isFirstMin_positionOfMin 0 hn

theorem getBucketWithLessDevices_lt (db : InnerDB) {n : Nat} (hn : 0 < n) :
    db.getBucketWithLessDevices n < n :=
  (db.isFirstMin_getBucketWithLessDevices hn).lt

def addDeviceToBucket (db : InnerDB) (deviceId : Uuid) (bucket : Int) (nodeId : Uuid) : InnerDB :=
  { db with buckets := db.buckets.insert deviceId ⟨bucket, nodeId⟩ }

def getBucketNumber (db : InnerDB) (deviceId : Uuid) : Except DatabaseError Int :=
  match db.buckets.lookup deviceId with
  | some row => .ok row.bucket
  | none => .error .noDataFound

/-- The row that scheduling writes, whatever was there before. -/
def awaitingConnection (deviceId : Uuid) (timestamp : Int) (jobId : JobId) :
    ScheduledConnection where
  fkDevice := deviceId
  scheduleTime := timestamp
  connectionTime := none
  status := .awaiting
  jobId := some jobId
  renewable := true
  lastBatteryRead := none

def updateScheduledConnection (db : InnerDB) (connection : ScheduledConnection) : InnerDB :=
  { db with
    scheduledConnections := db.scheduledConnections.insert connection.fkDevice connection
    connections_keyed := db.connections_keyed.insert rfl }

theorem lookup_updateScheduledConnection (db : InnerDB) (row : ScheduledConnection)
    (d : Uuid) : (db.updateScheduledConnection row).scheduledConnections.lookup d =
      if d = row.fkDevice then some row else db.scheduledConnections.lookup d := by
  unfold updateScheduledConnection
  by_cases h : d = row.fkDevice
  · subst h
    rw [Finmap.lookup_insert, if_pos rfl]
  · rw [Finmap.lookup_insert_of_ne _ h, if_neg h]

def scheduleConnection (db : InnerDB) (deviceId : Uuid) (timestamp : Int) (jobId : JobId) :
    InnerDB :=
  db.updateScheduledConnection (awaitingConnection deviceId timestamp jobId)

theorem lookup_scheduleConnection (db : InnerDB) (d : Uuid) (timestamp : Int) (jobId : JobId) :
    (db.scheduleConnection d timestamp jobId).scheduledConnections.lookup d =
      some (awaitingConnection d timestamp jobId) :=
  (db.lookup_updateScheduledConnection _ d).trans (if_pos rfl)

theorem lookup_scheduleConnection_of_ne (db : InnerDB) {d e : Uuid} (h : e ≠ d)
    (timestamp : Int) (jobId : JobId) :
    (db.scheduleConnection d timestamp jobId).scheduledConnections.lookup e =
      db.scheduledConnections.lookup e :=
  (db.lookup_updateScheduledConnection _ e).trans (if_neg h)

def getScheduledConnection (db : InnerDB) (deviceId : Uuid) :
    Except DatabaseError ScheduledConnection :=
  match db.scheduledConnections.lookup deviceId with
  | some row => .ok row
  | none => .error .noDataFound

def updateLastBatteryRead (db : InnerDB) (deviceId : Uuid) (timestamp : Int) :
    Except DatabaseError InnerDB :=
  match db.scheduledConnections.lookup deviceId with
  | none => .error .noDataFound
  | some row => .ok (db.updateScheduledConnection { row with lastBatteryRead := some timestamp })

/-- The node that the database records as the owner of a device. -/
def owner (db : InnerDB) (deviceId : Uuid) : Option Uuid :=
  (db.buckets.lookup deviceId).map BucketRow.owner

def getDevicesByOwner (db : InnerDB) (nodeId : Uuid) : Finset Uuid :=
  db.buckets.keys.filter (fun d => db.owner d = some nodeId)

/-- A device without a bucket row is left without one. -/
def setDeviceOwner (db : InnerDB) (deviceId nodeId : Uuid) : InnerDB :=
  match db.buckets.lookup deviceId with
  | some row => { db with buckets := db.buckets.insert deviceId { row with owner := nodeId } }
  | none => db

@[simp] theorem setDeviceOwner_scheduledConnections (db : InnerDB) (d nodeId : Uuid) :
    (db.setDeviceOwner d nodeId).scheduledConnections = db.scheduledConnections := by
  unfold setDeviceOwner
  split <;> rfl

theorem getBucketNumber_setDeviceOwner (db : InnerDB) (d nodeId e : Uuid) :
    (db.setDeviceOwner d nodeId).getBucketNumber e = db.getBucketNumber e := by
  unfold setDeviceOwner getBucketNumber
  cases hrow : db.buckets.lookup d with
  | none => rfl
  | some row =>
    by_cases he : e = d
    · subst he
      simp only [Finmap.lookup_insert, hrow]
    · simp only [Finmap.lookup_insert_of_ne _ he]

theorem getBucketNumber_addDeviceToBucket_self (db : InnerDB) (d nodeId : Uuid) (bucket : Int) :
    (db.addDeviceToBucket d bucket nodeId).getBucketNumber d = .ok bucket := by
  simp only [getBucketNumber, addDeviceToBucket, Finmap.lookup_insert]

theorem getBucketNumber_addDeviceToBucket_of_ne (db : InnerDB) {d e : Uuid} (nodeId : Uuid)
    (bucket : Int) (h : e ≠ d) :
    (db.addDeviceToBucket d bucket nodeId).getBucketNumber e = db.getBucketNumber e := by
  simp only [getBucketNumber, addDeviceToBucket, Finmap.lookup_insert_of_ne _ h]

@[simp] theorem mem_getDevicesByOwner {db : InnerDB} {nodeId d : Uuid} :
    d ∈ db.getDevicesByOwner nodeId ↔ db.owner d = some nodeId := by
  rw [getDevicesByOwner, Finset.mem_filter, Finmap.mem_keys, Finmap.mem_iff]
  constructor
  · exact fun h => h.2
  · intro h
    obtain ⟨row, hrow, -⟩ := Option.map_eq_some_iff.mp h
    exact ⟨⟨row, hrow⟩, h⟩

/-- Who owns a device after another node's bucket assignment owned it before. -/
theorem owner_of_addDeviceToBucket {db : InnerDB} {d e nodeId n : Uuid} {bucket : Int}
    (hne : nodeId ≠ n) (h : (db.addDeviceToBucket e bucket nodeId).owner d = some n) :
    db.owner d = some n := by
  unfold addDeviceToBucket owner at h
  by_cases hd : d = e
  · rw [hd, Finmap.lookup_insert] at h
    exact absurd (Option.some.inj h) hne
  · rw [Finmap.lookup_insert_of_ne _ hd] at h
    exact h

theorem owner_setDeviceOwner_of_ne {db : InnerDB} {d e nodeId : Uuid} (h : e ≠ d) :
    (db.setDeviceOwner d nodeId).owner e = db.owner e := by
  unfold setDeviceOwner owner
  cases db.buckets.lookup d with
  | none => rfl
  | some row => simp only [Finmap.lookup_insert_of_ne _ h]

theorem owner_setDeviceOwner_same {db : InnerDB} {d nodeId : Uuid} :
    (db.setDeviceOwner d nodeId).owner d = (db.owner d).map (fun _ => nodeId) := by
  cases hrow : db.buckets.lookup d with
  | none => simp [setDeviceOwner, hrow, owner]
  | some row => simp [setDeviceOwner, hrow, owner]

theorem owner_setDeviceOwner_self {db : InnerDB} {d nodeId n : Uuid} (h : db.owner d = some n) :
    (db.setDeviceOwner d nodeId).owner d = some nodeId := by
  rw [owner_setDeviceOwner_same, h]
  rfl

theorem owner_setDeviceOwner_isSome {db : InnerDB} {d nodeId e : Uuid} :
    ((db.setDeviceOwner d nodeId).owner e).isSome = (db.owner e).isSome := by
  by_cases h : e = d
  · rw [h, owner_setDeviceOwner_same, Option.isSome_map]
  · rw [owner_setDeviceOwner_of_ne h]

end InnerDB

end HeadEnd
