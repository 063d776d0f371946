import HeadEnd.Database
import HeadEnd.Lib.Rows

/-! The Postgres engine: the tables as the schema declares them and the statements
of the calls that schedule connections and record owners. -/
namespace HeadEnd
open Rows

/- What a statement can fail on. The program passes on the text of the error. -/
inductive PgError where
  | deviceReference
  | nodeReference
  | unexpectedNull
  deriving DecidableEq, Repr

structure PgBucketRow where
  fkDevice : Option Uuid
  fkNode : Option Uuid
  bucket : Option Int
  deriving DecidableEq, Repr

/-- Of T_NODES and T_DEVICES only the ids are kept. T_BUCKETS and
T_SCHEDULED_CONNECTIONS have no key; their references are checked on every write. -/
structure PostgresDB where
  nodes : Finset Uuid
  devices : Finset Uuid
  buckets : Multiset PgBucketRow
  scheduledConnections : Multiset ScheduledConnection
  bucket_device : ∀ row ∈ buckets, ∀ d, row.fkDevice = some d → d ∈ devices
  bucket_node : ∀ row ∈ buckets, ∀ n, row.fkNode = some n → n ∈ nodes
  connection_device : ∀ row ∈ scheduledConnections, row.fkDevice ∈ devices

namespace PostgresDB

/-- An empty database, apart from the nodes and devices. -/
def ofIds (nodes devices : Finset Uuid) : PostgresDB where
  nodes := nodes
  devices := devices
  buckets := 0
  scheduledConnections := 0
  bucket_device := fun _ h => absurd h (Multiset.notMem_zero _)
  bucket_node := fun _ h => absurd h (Multiset.notMem_zero _)
  connection_device := fun _ h => absurd h (Multiset.notMem_zero _)

section Connections
variable (stored : Int → Int)

/-- INSERT: a row more, whatever rows the device has. `stored` is what a TIMESTAMP
column keeps of a time. -/
def scheduleConnection (db : PostgresDB) (deviceId : Uuid) (timestamp : Int) (jobId : JobId) :
    Except PgError PostgresDB :=
  if h : deviceId ∈ db.devices then
    .ok
      { db with
        scheduledConnections :=
          InnerDB.awaitingConnection deviceId (stored timestamp) jobId ::ₘ db.scheduledConnections
        connection_device := by
          intro row hrow
          cases Multiset.mem_cons.mp hrow with
          | inl heq => exact heq ▸ h
          | inr hold => exact db.connection_device row hold }
  else .error .deviceReference

/-- A connection with its times as the columns keep them. -/
def storedConnection (connection : ScheduledConnection) : ScheduledConnection :=
  { connection with
    scheduleTime := stored connection.scheduleTime
    connectionTime := connection.connectionTime.map stored
    lastBatteryRead := connection.lastBatteryRead.map stored }

/-- UPDATE of the rows of one device, which are as many as it has. -/
def updateConnections (db : PostgresDB) (deviceId : Uuid)
    (set : ScheduledConnection → ScheduledConnection)
    (hset : ∀ row, row.fkDevice = deviceId → (set row).fkDevice = deviceId) : PostgresDB :=
  { db with
    scheduledConnections :=
      updateWhere (fun row => row.fkDevice = deviceId) set db.scheduledConnections
    connection_device := by
      intro row hrow
      cases mem_updateWhere.mp hrow with
      | inl hkept => exact db.connection_device row hkept.1
      | inr hnew =>
        obtain ⟨old, hold, hd, rfl⟩ := hnew
        rw [hset old hd, ← hd]
        exact db.connection_device old hold }

def setConnection (connection row : ScheduledConnection) : ScheduledConnection :=
  { storedConnection stored connection with fkDevice := row.fkDevice }

def updateScheduledConnection (db : PostgresDB) (connection : ScheduledConnection) : PostgresDB :=
  db.updateConnections connection.fkDevice (setConnection stored connection) (fun _ h => h)

def setLastBatteryRead (timestamp : Int) (row : ScheduledConnection) : ScheduledConnection :=
  { row with lastBatteryRead := some (stored timestamp) }

def updateLastBatteryRead (db : PostgresDB) (deviceId : Uuid) (timestamp : Int) : PostgresDB :=
  db.updateConnections deviceId (setLastBatteryRead stored timestamp) (fun _ h => h)

/-- `fetch_one` returns any row of the device. -/
def Fetches (db : PostgresDB) (deviceId : Uuid) (row : ScheduledConnection) : Prop :=
  row ∈ db.scheduledConnections ∧ row.fkDevice = deviceId

theorem fetches_updateConnections {db : PostgresDB} {d e : Uuid}
    {set : ScheduledConnection → ScheduledConnection}
    {hset : ∀ row, row.fkDevice = d → (set row).fkDevice = d} {row : ScheduledConnection} :
    (db.updateConnections d set hset).Fetches e row ↔
      if e = d then ∃ old, db.Fetches d old ∧ set old = row else db.Fetches e row := by
  unfold Fetches
  rw [updateConnections, mem_updateWhere]
  by_cases he : e = d
  · subst he
    rw [if_pos rfl]
    constructor
    · intro h
      cases h.1 with
      | inl hkept => exact absurd h.2 hkept.2
      | inr hnew =>
        obtain ⟨old, hold, hd, heq⟩ := hnew
        exact ⟨old, ⟨hold, hd⟩, heq⟩
    · intro h
      obtain ⟨old, ⟨hold, hd⟩, rfl⟩ := h
      exact ⟨.inr ⟨old, hold, hd, rfl⟩, hset old hd⟩
  · rw [if_neg he]
    constructor
    · intro h
      cases h.1 with
      | inl hkept => exact ⟨hkept.1, h.2⟩
      | inr hnew =>
        obtain ⟨old, -, hd, rfl⟩ := hnew
        exact absurd (h.2 ▸ hset old hd) he
    · intro h
      exact ⟨.inl ⟨h.1, fun hd => he (h.2 ▸ hd)⟩, h.2⟩

end Connections

/-- DELETE of the bucket rows of a device, a statement of its own. -/
def deleteBucketRows (db : PostgresDB) (deviceId : Uuid) : PostgresDB :=
  { db with
    buckets := deleteWhere (fun row => row.fkDevice = some deviceId) db.buckets
    bucket_device := fun row h => db.bucket_device row (mem_deleteWhere.mp h).1
    bucket_node := fun row h => db.bucket_node row (mem_deleteWhere.mp h).1 }

/-- The old rows are gone even if the INSERT then fails. -/
def addDeviceToBucket (db : PostgresDB) (deviceId : Uuid) (bucket : Int) (nodeId : Uuid) :
    PostgresDB × Except PgError Unit :=
  let db' := db.deleteBucketRows deviceId
  if hd : deviceId ∈ db.devices then
    if hn : nodeId ∈ db.nodes then
      ({ db' with
          buckets := ⟨some deviceId, some nodeId, some bucket⟩ ::ₘ db'.buckets
          bucket_device := by
            intro row hrow d heq
            cases Multiset.mem_cons.mp hrow with
            | inl hnew =>
              rw [hnew] at heq
              exact Option.some.inj heq ▸ hd
            | inr hold => exact db'.bucket_device row hold d heq
          bucket_node := by
            intro row hrow n heq
            cases Multiset.mem_cons.mp hrow with
            | inl hnew =>
              rw [hnew] at heq
              exact Option.some.inj heq ▸ hn
            | inr hold => exact db'.bucket_node row hold n heq }, .ok ())
    else (db', .error .nodeReference)
  else (db', .error .deviceReference)

/-- UPDATE of the bucket rows of a device. Without a row there is nothing to check. -/
def setDeviceOwner (db : PostgresDB) (deviceId nodeId : Uuid) : PostgresDB × Except PgError Unit :=
  if hn : nodeId ∈ db.nodes then
    ({ db with
        buckets := updateWhere (fun row => row.fkDevice = some deviceId)
          (fun row => { row with fkNode := some nodeId }) db.buckets
        bucket_device := by
          intro row hrow d heq
          cases mem_updateWhere.mp hrow with
          | inl hkept => exact db.bucket_device row hkept.1 d heq
          | inr hset =>
            obtain ⟨old, hold, -, rfl⟩ := hset
            exact db.bucket_device old hold d heq
        bucket_node := by
          intro row hrow n heq
          cases mem_updateWhere.mp hrow with
          | inl hkept => exact db.bucket_node row hkept.1 n heq
          | inr hset =>
            obtain ⟨old, -, -, rfl⟩ := hset
            exact Option.some.inj heq ▸ hn }, .ok ())
  else if some deviceId ∈ db.buckets.map PgBucketRow.fkDevice then (db, .error .nodeReference)
  else (db, .ok ())

/-- A row without a device cannot be read as an id. -/
def getDevicesByOwner (db : PostgresDB) (nodeId : Uuid) : Except PgError (Multiset Uuid) :=
  let rows := db.buckets.filter fun row => row.fkNode = some nodeId
  if none ∈ rows.map PgBucketRow.fkDevice then .error .unexpectedNull
  else .ok (rows.filterMap PgBucketRow.fkDevice)

/-- INSERT … ON CONFLICT DO UPDATE: the row is there afterwards. -/
def registerClusterNode (db : PostgresDB) (nodeId : Uuid) : PostgresDB :=
  { db with
    nodes := insert nodeId db.nodes
    bucket_node := fun row h n hn => Finset.mem_insert_of_mem (db.bucket_node row h n hn) }

def addDevice (db : PostgresDB) (deviceId : Uuid) : PostgresDB :=
  { db with
    devices := insert deviceId db.devices
    bucket_device := fun row h d hd => Finset.mem_insert_of_mem (db.bucket_device row h d hd)
    connection_device := fun row h => Finset.mem_insert_of_mem (db.connection_device row h) }

end PostgresDB

end HeadEnd
