import HeadEnd.Lib.Transition
import HeadEnd.Postgres

/-! The two database engines, driven by the same calls. One replaces the connection
of a device, the other adds a row and updates every row of the device. -/
namespace HeadEnd
open Transition

inductive ScheduleCall where
  | scheduleConnection (deviceId : Uuid) (timestamp : Int) (jobId : JobId)
  | updateScheduledConnection (connection : ScheduledConnection)
  | updateLastBatteryRead (deviceId : Uuid) (timestamp : Int)
  deriving DecidableEq, Repr

/-- The device that an update call names. -/
def ScheduleCall.updates : ScheduleCall → Option Uuid
  | scheduleConnection _ _ _ => none
  | updateScheduledConnection connection => some connection.fkDevice
  | updateLastBatteryRead deviceId _ => some deviceId

/-- What a call makes of the record of a device. -/
def ScheduleCall.rewrite (d : Uuid) (record : Option ScheduledConnection) :
    ScheduleCall → Option ScheduledConnection
  | scheduleConnection deviceId timestamp jobId =>
    if deviceId = d then some (InnerDB.awaitingConnection deviceId timestamp jobId) else record
  | updateScheduledConnection connection =>
    if connection.fkDevice = d then some connection else record
  | updateLastBatteryRead deviceId timestamp =>
    if deviceId = d then record.map fun row => { row with lastBatteryRead := some timestamp }
    else record

/-- The record that the latest `schedule_connection` for a device wrote, as modified by
the later updates. -/
def latest (calls : List ScheduleCall) (d : Uuid) : Option ScheduledConnection :=
  calls.foldl (fun record call => call.rewrite d record) none

structure Engines where
  memory : InnerDB
  postgres : PostgresDB

namespace Engines

def new (devices : Finset Uuid) : Engines := ⟨InnerDB.new, PostgresDB.ofIds ∅ devices⟩

/- A call that fails on one engine leaves that engine as it was. -/
def apply (stored : Int → Int) (s : Engines) : ScheduleCall → Engines
  | .scheduleConnection deviceId timestamp jobId =>
    { memory := s.memory.scheduleConnection deviceId timestamp jobId
      postgres := match s.postgres.scheduleConnection stored deviceId timestamp jobId with
        | .ok db => db
        | .error _ => s.postgres }
  | .updateScheduledConnection connection =>
    { memory := s.memory.updateScheduledConnection connection
      postgres := s.postgres.updateScheduledConnection stored connection }
  | .updateLastBatteryRead deviceId timestamp =>
    { memory := match s.memory.updateLastBatteryRead deviceId timestamp with
        | .ok db => db
        | .error _ => s.memory
      postgres := s.postgres.updateLastBatteryRead stored deviceId timestamp }

/-- Update calls name only devices that are scheduled. -/
def Step (stored : Int → Int) (s : Engines) (call : ScheduleCall) (t : Engines) : Prop :=
  (∀ d, call.updates = some d → d ∈ s.memory.scheduledConnections) ∧ t = s.apply stored call

/-- Whatever row `fetch_one` picks, it is the record of the other engine. -/
def Agree (s : Engines) : Prop :=
  ∀ d row, s.postgres.Fetches d row ↔ s.memory.getScheduledConnection d = .ok row

/-- The device of a new connection is in T_DEVICES and has no row yet, unless it is that
very row; and every time is one that a TIMESTAMP column keeps exactly. -/
def Fresh (stored : Int → Int) (s : Engines) : ScheduleCall → Prop
  | .scheduleConnection deviceId timestamp jobId =>
    deviceId ∈ s.postgres.devices ∧ stored timestamp = timestamp ∧
      ∀ row, s.postgres.Fetches deviceId row →
        row = InnerDB.awaitingConnection deviceId timestamp jobId
  | .updateScheduledConnection connection =>
    PostgresDB.storedConnection stored connection = connection
  | .updateLastBatteryRead _ timestamp => stored timestamp = timestamp

variable {stored : Int → Int} {s t : Engines} {call : ScheduleCall} {d : Uuid}

theorem getScheduledConnection_eq_ok {db : InnerDB} {row : ScheduledConnection} :
    db.getScheduledConnection d = .ok row ↔ db.scheduledConnections.lookup d = some row := by
  unfold InnerDB.getScheduledConnection
  cases db.scheduledConnections.lookup d with
  | none => simp
  | some r => simp

/-- The engine in memory keeps exactly the record that the calls describe. -/
theorem lookup_apply (s : Engines) (call : ScheduleCall) (d : Uuid) :
    (s.apply stored call).memory.scheduledConnections.lookup d =
      call.rewrite d (s.memory.scheduledConnections.lookup d) := by
  cases call with
  | scheduleConnection deviceId timestamp jobId =>
    simp only [apply, InnerDB.scheduleConnection, InnerDB.lookup_updateScheduledConnection,
      InnerDB.awaitingConnection, ScheduleCall.rewrite, eq_comm]
  | updateScheduledConnection connection =>
    simp only [apply, InnerDB.lookup_updateScheduledConnection, ScheduleCall.rewrite, eq_comm]
  | updateLastBatteryRead deviceId timestamp =>
    simp only [apply, InnerDB.updateLastBatteryRead, ScheduleCall.rewrite]
    cases hrow : s.memory.scheduledConnections.lookup deviceId with
    | none =>
      by_cases h : deviceId = d
      · rw [if_pos h, ← h, hrow]
        rfl
      · rw [if_neg h]
    | some row =>
      have hkey := s.memory.connections_keyed deviceId row hrow
      simp only [InnerDB.lookup_updateScheduledConnection, hkey]
      by_cases h : d = deviceId
      · rw [if_pos h, if_pos h.symm, h, hrow, Option.map_some, hkey]
      · rw [if_neg h, if_neg (Ne.symm h)]

theorem lookup_eq_latest {devices : Finset Uuid} {calls : List ScheduleCall}
    (hrun : Run (Step stored) (new devices) calls t) (d : Uuid) :
    t.memory.scheduledConnections.lookup d = latest calls d := by
  have hfold : ∀ {s t : Engines} {calls : List ScheduleCall}, Run (Step stored) s calls t →
      t.memory.scheduledConnections.lookup d =
        calls.foldl (fun record call => call.rewrite d record)
          (s.memory.scheduledConnections.lookup d) := by
    intro s t calls hrun
    induction hrun with
    | nil s => rfl
    | @cons s t u call calls hone hrest ih =>
      rw [ih, hone.2, lookup_apply]
      rfl
  exact hfold hrun

theorem agree_iff :
    s.Agree ↔ ∀ d row,
      s.postgres.Fetches d row ↔ s.memory.scheduledConnections.lookup d = some row := by
  simp only [Agree, getScheduledConnection_eq_ok]

/-- A call about one device leaves the engines agreeing exactly if they agree on it. -/
theorem agree_apply_iff (h : s.Agree) {e : Uuid}
    (hpg : ∀ d, d ≠ e → ∀ row,
      (s.apply stored call).postgres.Fetches d row ↔ s.postgres.Fetches d row)
    (hmem : ∀ d, d ≠ e → call.rewrite d (s.memory.scheduledConnections.lookup d) =
      s.memory.scheduledConnections.lookup d) :
    (s.apply stored call).Agree ↔ ∀ row, (s.apply stored call).postgres.Fetches e row ↔
      call.rewrite e (s.memory.scheduledConnections.lookup e) = some row := by
  rw [agree_iff] at h ⊢
  simp only [lookup_apply]
  constructor
  · exact fun hall row => hall e row
  · intro hone d row
    by_cases hd : d = e
    · rw [hd]
      exact hone row
    · rw [hpg d hd, hmem d hd]
      exact h d row

theorem fetches_schedule {e : Uuid} (hdev : e ∈ s.postgres.devices) (time : Int) (job : JobId)
    (d : Uuid) (row : ScheduledConnection) :
    (s.apply stored (.scheduleConnection e time job)).postgres.Fetches d row ↔
      (row = InnerDB.awaitingConnection e (stored time) job ∧ e = d) ∨
        s.postgres.Fetches d row := by
  simp only [apply, PostgresDB.scheduleConnection, dif_pos hdev, PostgresDB.Fetches,
    Multiset.mem_cons]
  constructor
  · intro hrow
    cases hrow.1 with
    | inl heq => exact .inl ⟨heq, by rw [← hrow.2, heq]; rfl⟩
    | inr hold => exact .inr ⟨hold, hrow.2⟩
  · intro hrow
    cases hrow with
    | inl hnew => exact ⟨.inl hnew.1, by rw [hnew.1, ← hnew.2]; rfl⟩
    | inr hold => exact ⟨.inr hold.1, hold.2⟩

theorem agree_schedule_iff (h : s.Agree) (e : Uuid) (time : Int) (job : JobId) :
    (s.apply stored (.scheduleConnection e time job)).Agree ↔
      Fresh stored s (.scheduleConnection e time job) := by
  have hmem : ∀ d, d ≠ e → (ScheduleCall.scheduleConnection e time job).rewrite d
      (s.memory.scheduledConnections.lookup d) = s.memory.scheduledConnections.lookup d :=
    fun d hd => if_neg (Ne.symm hd)
  by_cases hdev : e ∈ s.postgres.devices
  · -- a row more
    have hother : ∀ d, d ≠ e → ∀ row,
        (s.apply stored (.scheduleConnection e time job)).postgres.Fetches d row ↔
          s.postgres.Fetches d row := by
      intro d hd row
      simp [fetches_schedule hdev, Ne.symm hd]
    rw [agree_apply_iff h hother hmem]
    simp only [fetches_schedule hdev, and_true, ScheduleCall.rewrite, if_true, Option.some.injEq,
      Fresh]
    constructor
    · intro hall
      have htime := (hall _).mp (.inl rfl)
      refine ⟨hdev, ?_, fun row hrow => ((hall row).mp (.inr hrow)).symm⟩
      exact (congrArg ScheduledConnection.scheduleTime htime).symm
    · intro hfresh row
      obtain ⟨-, htime, hrows⟩ := hfresh
      rw [htime]
      constructor
      · intro hrow
        cases hrow with
        | inl hnew => exact hnew.symm
        | inr hold => exact (hrows row hold).symm
      · exact fun heq => .inl heq.symm
  · -- the insert fails, and no row can be of a device that does not exist
    have hsame : (s.apply stored (.scheduleConnection e time job)).postgres = s.postgres := by
      simp only [apply, PostgresDB.scheduleConnection, dif_neg hdev]
    rw [agree_apply_iff h (fun d _ row => by rw [hsame]) hmem, hsame]
    refine iff_of_false (fun hall => ?_) (fun hfresh => hdev hfresh.1)
    have hrow := (hall (InnerDB.awaitingConnection e time job)).mpr (if_pos rfl)
    exact hdev (hrow.2 ▸ s.postgres.connection_device _ hrow.1)

/-- All rows of the device are set alike, and there is one. -/
theorem agree_update_iff (h : s.Agree) (call : ScheduleCall) {e : Uuid}
    (he : e ∈ s.memory.scheduledConnections)
    (set : ScheduledConnection → ScheduledConnection)
    (hset : ∀ row, row.fkDevice = e → (set row).fkDevice = e)
    (hpg : (s.apply stored call).postgres = s.postgres.updateConnections e set hset)
    (hmem : ∀ d, d ≠ e → call.rewrite d (s.memory.scheduledConnections.lookup d) =
      s.memory.scheduledConnections.lookup d) :
    (s.apply stored call).Agree ↔ ∀ old, s.memory.scheduledConnections.lookup e = some old →
      call.rewrite e (some old) = some (set old) := by
  obtain ⟨old, hold⟩ := Finmap.mem_iff.mp he
  have hfetch : ∀ row, s.postgres.Fetches e row ↔ old = row := by
    intro row
    rw [agree_iff.mp h, hold, Option.some.injEq]
  have hother : ∀ d, d ≠ e → ∀ row,
      (s.apply stored call).postgres.Fetches d row ↔ s.postgres.Fetches d row := by
    intro d hd row
    rw [hpg, PostgresDB.fetches_updateConnections, if_neg hd]
  rw [agree_apply_iff h hother hmem]
  simp only [hpg, PostgresDB.fetches_updateConnections, if_true, hfetch, hold, Option.some.injEq]
  constructor
  · intro hall old' heq
    subst heq
    exact (hall (set old)).mp ⟨old, rfl, rfl⟩
  · intro heq row
    rw [heq old rfl, Option.some.injEq]
    constructor
    · intro hrow
      obtain ⟨old', rfl, hset'⟩ := hrow
      exact hset'
    · exact fun hrow => ⟨old, rfl, hrow⟩

theorem agree_step_iff (h : s.Agree) (hstep : Step stored s call t) :
    t.Agree ↔ Fresh stored s call := by
  obtain ⟨hnames, rfl⟩ := hstep
  cases call with
  | scheduleConnection e time job => exact agree_schedule_iff h e time job
  | updateScheduledConnection c =>
    have he := hnames c.fkDevice rfl
    obtain ⟨old, hold⟩ := Finmap.mem_iff.mp he
    have hkey := s.memory.connections_keyed c.fkDevice old hold
    rw [agree_update_iff h (.updateScheduledConnection c) he (PostgresDB.setConnection stored c)
      (fun _ hrow => hrow) rfl (fun d hd => if_neg (Ne.symm hd))]
    simp only [ScheduleCall.rewrite, if_true, hold, Option.some.injEq, Fresh, forall_eq',
      PostgresDB.setConnection, hkey]
    exact eq_comm
  | updateLastBatteryRead e time =>
    have he := hnames e rfl
    obtain ⟨old, hold⟩ := Finmap.mem_iff.mp he
    rw [agree_update_iff h (.updateLastBatteryRead e time) he
      (PostgresDB.setLastBatteryRead stored time) (fun _ hrow => hrow) rfl
      (fun d hd => if_neg (Ne.symm hd))]
    simp only [ScheduleCall.rewrite, if_true, hold, Option.some.injEq, Fresh, forall_eq',
      Option.map_some, PostgresDB.setLastBatteryRead]
    constructor
    · intro heq
      have hread := congrArg ScheduledConnection.lastBatteryRead heq
      exact (Option.some.inj hread).symm
    · intro htime
      rw [htime]

theorem agree_new (devices : Finset Uuid) : (new devices).Agree := by
  rw [agree_iff]
  intro d row
  refine iff_of_false (fun h => Multiset.notMem_zero row h.1) ?_
  simp [new, InnerDB.new]

/-- After every call of a run both engines return the latest record of every device,
exactly if each call of the run finds its device fresh. -/
theorem engines_agree_iff {devices : Finset Uuid} {calls : List ScheduleCall}
    (hrun : Run (Step stored) (new devices) calls t) :
    (∀ before after u, calls = before ++ after → Run (Step stored) (new devices) before u →
        ∀ d row, (u.postgres.Fetches d row ↔ u.memory.getScheduledConnection d = .ok row) ∧
          (u.memory.getScheduledConnection d = .ok row ↔ latest before d = some row)) ↔
      Run (Guarded (Fresh stored) (Step stored)) (new devices) calls t := by
  have hdet : ∀ s call t u, Step stored s call t → Step stored s call u → t = u :=
    fun s call t u ht hu => ht.2.trans hu.2.symm
  rw [← hrun.forall_good_iff_guarded hdet (fun s call t => agree_step_iff) (agree_new devices)]
  constructor
  · exact fun h before after u heq hbefore d row => (h before after u heq hbefore d row).1
  · intro h before after u heq hbefore d row
    refine ⟨h before after u heq hbefore d row, ?_⟩
    rw [getScheduledConnection_eq_ok, lookup_eq_latest hbefore]

/- Meter 9 is scheduled for second 60 and, after its session, for second 120. -/
def nineAt (seconds : Int) (job : JobId) : ScheduleCall :=
  .scheduleConnection 9 (seconds * 1000000000) job

def onceScheduled : Engines := (new {9}).apply id (nineAt 60 0)

theorem step_nineAt (s : Engines) (seconds : Int) (job : JobId) :
    Step id s (nineAt seconds job) (s.apply id (nineAt seconds job)) := by
  refine ⟨fun d h => ?_, rfl⟩
  cases h

theorem run_onceScheduled : Run (Step id) (new {9}) [nineAt 60 0] onceScheduled :=
  .single (step_nineAt _ 60 0)

/- Its session at second 60 is recorded, with the battery level read in it. -/
def nineMet : ScheduleCall :=
  .updateScheduledConnection { InnerDB.awaitingConnection 9 60000000000 0 with
    connectionTime := some 61000000000
    status := .done }

def nineRead : ScheduleCall := .updateLastBatteryRead 9 62000000000

def nineRow : ScheduledConnection := ⟨9, 60000000000, some 61000000000, .done, some 0, true,
  some 62000000000⟩

theorem engines_agree_once :
    ∃ t, Run (Step id) (new {9}) [nineAt 60 0, nineMet, nineRead] t ∧
      latest [nineAt 60 0, nineMet, nineRead] 9 = some nineRow ∧
      t.postgres.Fetches 9 nineRow ∧ t.memory.getScheduledConnection 9 = .ok nineRow := by
  have hfresh : Fresh id (new {9}) (nineAt 60 0) :=
    ⟨Finset.mem_singleton_self _, rfl, fun row hrow => absurd hrow.1 (Multiset.notMem_zero row)⟩
  -- the updates find the row that the first call wrote
  have hmet : Step id onceScheduled nineMet (onceScheduled.apply id nineMet) := by
    refine ⟨fun d hd => ?_, rfl⟩
    cases hd
    exact Finmap.mem_iff.mpr ⟨_, lookup_apply _ _ 9⟩
  have hread : Step id (onceScheduled.apply id nineMet) nineRead
      ((onceScheduled.apply id nineMet).apply id nineRead) := by
    refine ⟨fun d hd => ?_, rfl⟩
    cases hd
    exact Finmap.mem_iff.mpr ⟨_, lookup_apply _ _ 9⟩
  have hguarded : Run (Guarded (Fresh id) (Step id)) (new {9}) [nineAt 60 0, nineMet, nineRead]
      ((onceScheduled.apply id nineMet).apply id nineRead) :=
    .cons ⟨hfresh, step_nineAt _ 60 0⟩ (.cons ⟨rfl, hmet⟩ (.single ⟨rfl, hread⟩))
  have hrun := hguarded.of_guarded
  have hagree := (engines_agree_iff hrun).mpr hguarded _ [] _ (List.append_nil _).symm hrun 9
    nineRow
  have hlatest : latest [nineAt 60 0, nineMet, nineRead] 9 = some nineRow := by decide
  have hmemory := hagree.2.mpr hlatest
  exact ⟨_, hrun, hlatest, hagree.1.mpr hmemory, hmemory⟩

/-- Scheduled again, the meter has two rows, and the first is still among those that
`fetch_one` can return. -/
theorem old_row_fetched :
    ¬ ∀ (calls : List ScheduleCall) (t : Engines), Run (Step id) (new {9}) calls t →
      ∀ d row, (t.postgres.Fetches d row ↔ t.memory.getScheduledConnection d = .ok row) ∧
        (t.memory.getScheduledConnection d = .ok row ↔ latest calls d = some row) := by
  intro h
  have hold := (h _ _ (run_onceScheduled.append (.single (step_nineAt _ 120 1))) 9
    (InnerDB.awaitingConnection 9 60000000000 0)).1
  have hfetch : (onceScheduled.apply id (nineAt 120 1)).postgres.Fetches 9
      (InnerDB.awaitingConnection 9 60000000000 0) := by
    refine ⟨?_, rfl⟩
    decide
  have hmemory := getScheduledConnection_eq_ok.mp (hold.mp hfetch)
  rw [lookup_apply] at hmemory
  revert hmemory
  decide

end Engines

end HeadEnd
