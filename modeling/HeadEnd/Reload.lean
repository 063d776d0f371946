import HeadEnd.Lib.Transition
import HeadEnd.Scheduler
import Mathlib.Order.Interval.Finset.Nat

/-! What a restarted node makes of the connections that it finds in the database. -/
namespace HeadEnd
open Transition

inductive ReloadError where
  | jobSchedulerError (text : String)
  deriving DecidableEq, Repr

/-- A connection that is due sooner than this is given up. -/
def reloadMarginSecs : Int := 300

def ScheduledConnection.lost (connection : ScheduledConnection) : ScheduledConnection :=
  { connection with status := .lost, renewable := false, jobId := none }

/-- A connection that the loop meets, the clock as it is read there, and the error of the
cron library if it refuses the job. -/
structure ReloadRound where
  connection : ScheduledConnection
  clock : Int
  refused : Option String := none

namespace ReloadRound

def device (round : ReloadRound) : Uuid := round.connection.fkDevice

def job (round : ReloadRound) : Job := ⟨round.device, wholeSecond round.connection.scheduleTime⟩

def Expired (round : ReloadRound) : Prop :=
  round.connection.scheduleTime < round.clock + reloadMarginSecs * nanosPerSec

instance decidableExpired (round : ReloadRound) : Decidable round.Expired :=
  inferInstanceAs (Decidable (_ < _))

/-- What has not expired is not dropped by the cron library. -/
theorem clock_lt_fireTime {round : ReloadRound} (h : ¬ round.Expired) :
    round.clock < round.job.fireTime := by
  refine Scheduler.lt_wholeSecond ?_
  simp only [Expired, reloadMarginSecs, nanosPerSec] at h ⊢
  omega

end ReloadRound

namespace Scheduler

def reloadConnection (st : InnerDB × Scheduler) (round : ReloadRound) :
    Except ReloadError (InnerDB × Scheduler) :=
  if st.2.ownsDevice round.device = false then .ok st
  else if round.Expired then .ok (st.1.updateScheduledConnection round.connection.lost, st.2)
  else
    match round.refused with
    | some text => .error (.jobSchedulerError text)
    | none =>
      let (s, jobId) := st.2.createWakeupJob round.clock round.device round.connection.scheduleTime
      .ok (st.1.updateScheduledConnection { round.connection with jobId := some jobId }, s)

def reloadActiveConnections (db : InnerDB) (s : Scheduler) (rounds : List ReloadRound) :
    Except ReloadError (InnerDB × Scheduler) :=
  rounds.foldlM reloadConnection (db, s)

/-- Third class: owned, and not about to be due. -/
def Restores (s : Scheduler) (round : ReloadRound) : Bool :=
  s.ownsDevice round.device && !decide round.Expired

/-- All that a round can do. -/
inductive Reloads (st : InnerDB × Scheduler) (round : ReloadRound) : InnerDB × Scheduler → Prop
  | skipped : st.2.ownsDevice round.device = false → Reloads st round st
  | expired : st.2.ownsDevice round.device = true → round.Expired →
      Reloads st round (st.1.updateScheduledConnection round.connection.lost, st.2)
  | restored : st.2.Restores round = true →
      Reloads st round
        (st.1.updateScheduledConnection
            { round.connection with jobId := some st.2.jobScheduler.nextId },
          { st.2 with jobScheduler := st.2.jobScheduler.add round.job })

section
variable {st st' : InnerDB × Scheduler} {round : ReloadRound} {rounds : List ReloadRound}

theorem reloads_of_eq_ok (h : reloadConnection st round = .ok st') : Reloads st round st' := by
  unfold reloadConnection at h
  cases howned : st.2.ownsDevice round.device with
  | false =>
    rw [if_pos howned] at h
    exact Except.ok.inj h ▸ .skipped howned
  | true =>
    rw [if_neg (by simp [howned])] at h
    by_cases hexp : round.Expired
    · rw [if_pos hexp] at h
      exact Except.ok.inj h ▸ .expired howned hexp
    · rw [if_neg hexp] at h
      cases hrefused : round.refused with
      | some text =>
        rw [hrefused] at h
        cases h
      | none =>
        have hadd : st.2.jobScheduler.submit round.clock round.job =
            st.2.jobScheduler.add round.job := if_pos (ReloadRound.clock_lt_fireTime hexp)
        have hrestores : st.2.Restores round = true := by simp [Restores, howned, hexp]
        rw [hrefused] at h
        rw [← Except.ok.inj h]
        change Reloads st round (_, { st.2 with
          jobScheduler := st.2.jobScheduler.submit round.clock round.job })
        rw [hadd]
        exact .restored hrestores

theorem run_of_eq_ok (h : rounds.foldlM reloadConnection st = .ok st') :
    Run Reloads st rounds st' := by
  induction rounds generalizing st with
  | nil => exact Except.ok.inj h ▸ .nil st
  | cons round rounds ih =>
    rw [List.foldlM_cons] at h
    cases hone : reloadConnection st round with
    | error e =>
      rw [hone] at h
      cases h
    | ok st₁ =>
      rw [hone] at h
      exact .cons (reloads_of_eq_ok hone) (ih h)

/-- The job was not there before. -/
def Created (s s' : Scheduler) (id : JobId) (job : Job) : Prop :=
  s.jobScheduler.nextId ≤ id ∧ s'.jobScheduler.jobs.lookup id = some job

/-- What rounds leave alone, and for whom they create jobs. -/
structure ReloadFrame (st : InnerDB × Scheduler) (rounds : List ReloadRound)
    (st' : InnerDB × Scheduler) : Prop where
  tables : st'.1.devices = st.1.devices ∧ st'.1.deviceRegistration = st.1.deviceRegistration ∧
    st'.1.buckets = st.1.buckets
  config : st'.2.bucketNumber = st.2.bucketNumber ∧ st'.2.localNodeId = st.2.localNodeId ∧
    st'.2.testMode = st.2.testMode
  owned : st'.2.ownedDevices = st.2.ownedDevices
  rows : ∀ d ∉ rounds.map ReloadRound.device,
    st'.1.scheduledConnections.lookup d = st.1.scheduledConnections.lookup d
  jobs : ∀ id < st.2.jobScheduler.nextId,
    st'.2.jobScheduler.jobs.lookup id = st.2.jobScheduler.jobs.lookup id
  created : ∀ id job, Created st.2 st'.2 id job → job.device ∈ rounds.map ReloadRound.device
  count : st'.2.jobScheduler.nextId = st.2.jobScheduler.nextId + rounds.countP st.2.Restores

theorem restores_congr {s s' : Scheduler} (h : s'.ownedDevices = s.ownedDevices) :
    s'.Restores = s.Restores := by
  funext round
  rw [Restores, Restores, ownsDevice, ownsDevice, h]

theorem not_created_self (s : Scheduler) (id : JobId) (job : Job) : ¬ Created s s id job := by
  intro h
  have hlt := s.jobScheduler.fresh id (Finmap.mem_of_lookup_eq_some h.2)
  exact absurd h.1 (Nat.not_le.mpr hlt)

theorem ReloadFrame.refl (st : InnerDB × Scheduler) : ReloadFrame st [] st where
  tables := ⟨rfl, rfl, rfl⟩
  config := ⟨rfl, rfl, rfl⟩
  owned := rfl
  rows := fun _ _ => rfl
  jobs := fun _ _ => rfl
  created := fun id job h => absurd h (not_created_self _ id job)
  count := rfl

theorem ReloadFrame.trans {st₁ : InnerDB × Scheduler} {rounds' : List ReloadRound}
    (h : ReloadFrame st rounds st₁) (h' : ReloadFrame st₁ rounds' st') :
    ReloadFrame st (rounds ++ rounds') st' where
  tables := ⟨h'.tables.1.trans h.tables.1, h'.tables.2.1.trans h.tables.2.1,
    h'.tables.2.2.trans h.tables.2.2⟩
  config := ⟨h'.config.1.trans h.config.1, h'.config.2.1.trans h.config.2.1,
    h'.config.2.2.trans h.config.2.2⟩
  owned := h'.owned.trans h.owned
  rows := by
    intro d hd
    rw [List.map_append, List.mem_append, not_or] at hd
    rw [h'.rows d hd.2, h.rows d hd.1]
  jobs := by
    intro id hid
    rw [h'.jobs id (h.count ▸ Nat.lt_of_lt_of_le hid (Nat.le_add_right _ _)), h.jobs id hid]
  created := by
    intro id job hjob
    rw [List.map_append, List.mem_append]
    by_cases hold : id < st₁.2.jobScheduler.nextId
    · exact .inl (h.created id job ⟨hjob.1, (h'.jobs id hold).symm.trans hjob.2⟩)
    · exact .inr (h'.created id job ⟨Nat.not_lt.mp hold, hjob.2⟩)
  count := by
    rw [h'.count, h.count, List.countP_append, restores_congr h.owned, Nat.add_assoc]

theorem created_add {s : Scheduler} {id : JobId} {job new : Job}
    (h : Created s { s with jobScheduler := s.jobScheduler.add new } id job) :
    id = s.jobScheduler.nextId ∧ job = new := by
  by_cases hid : id = s.jobScheduler.nextId
  · have hnew := h.2
    rw [hid, JobScheduler.add, Finmap.lookup_insert] at hnew
    exact ⟨hid, (Option.some.inj hnew).symm⟩
  · have hold := h.2
    rw [JobScheduler.add, Finmap.lookup_insert_of_ne _ hid] at hold
    exact absurd ⟨h.1, hold⟩ (not_created_self s id job)

theorem Reloads.frame (h : Reloads st round st') : ReloadFrame st [round] st' := by
  have hother : ∀ row : ScheduledConnection, row.fkDevice = round.device →
      ∀ d ∉ [round].map ReloadRound.device,
        (st.1.updateScheduledConnection row).scheduledConnections.lookup d =
          st.1.scheduledConnections.lookup d := by
    intro row hrow d hd
    rw [InnerDB.lookup_updateScheduledConnection, if_neg]
    exact fun heq => hd (List.mem_singleton.mpr (heq.trans hrow))
  cases h with
  | skipped howned =>
    refine { ReloadFrame.refl st with
      rows := fun _ _ => rfl
      created := fun id job h => absurd h (not_created_self _ id job)
      count := ?_ }
    simp [Restores, howned]
  | expired howned hexp =>
    refine { ReloadFrame.refl st with
      rows := hother _ rfl
      created := fun id job h => absurd h (not_created_self _ id job)
      count := ?_ }
    simp [Restores, hexp]
  | restored hrestores =>
    refine ⟨⟨rfl, rfl, rfl⟩, ⟨rfl, rfl, rfl⟩, rfl, hother _ rfl, fun id hid => ?_,
      fun id job hjob => ?_, ?_⟩
    · exact Finmap.lookup_insert_of_ne _ (Nat.ne_of_lt hid)
    · rw [(created_add hjob).2]
      exact List.mem_singleton.mpr rfl
    · rw [List.countP_singleton, if_pos hrestores]
      rfl

theorem reloadFrame_of_run (h : Run Reloads st rounds st') : ReloadFrame st rounds st' := by
  induction h with
  | nil st => exact .refl st
  | cons hone _ ih => exact hone.frame.trans ih

/-- What has become of one connection. -/
structure Reloaded (st : InnerDB × Scheduler) (round : ReloadRound) (st' : InnerDB × Scheduler) :
    Prop where
  skipped : st.2.ownsDevice round.device = false →
    st'.1.scheduledConnections.lookup round.device = some round.connection ∧
      ∀ id job, Created st.2 st'.2 id job → job.device ≠ round.device
  expired : st.2.ownsDevice round.device = true → round.Expired →
    st'.1.scheduledConnections.lookup round.device = some round.connection.lost ∧
      ∀ id job, Created st.2 st'.2 id job → job.device ≠ round.device
  restored : st.2.ownsDevice round.device = true → ¬ round.Expired →
    ∃ id, Created st.2 st'.2 id round.job ∧
      (∀ id' job, Created st.2 st'.2 id' job → job.device = round.device → id' = id) ∧
      st'.1.scheduledConnections.lookup round.device =
        some { round.connection with jobId := some id }

/-- The rounds before and after one leave its connection alone and create no job for its
device. -/
theorem reloaded_of_run (h : Run Reloads st rounds st')
    (hnd : (rounds.map ReloadRound.device).Nodup) (hmem : round ∈ rounds)
    (hrow : st.1.scheduledConnections.lookup round.device = some round.connection) :
    Reloaded st round st' := by
  obtain ⟨before, after, rfl⟩ := List.append_of_mem hmem
  obtain ⟨a, hbefore, hrest⟩ := h.split
  obtain ⟨b, hone, hafter⟩ : ∃ b, Reloads a round b ∧ Run Reloads b after st' := by
    cases hrest with
    | cons hone hafter => exact ⟨_, hone, hafter⟩
  have hfirst := reloadFrame_of_run hbefore
  have hlast := reloadFrame_of_run hafter
  rw [List.map_append, List.map_cons, List.nodup_middle, List.nodup_cons, List.mem_append,
    not_or] at hnd
  obtain ⟨⟨hnotBefore, hnotAfter⟩, -⟩ := hnd
  have howns : a.2.ownsDevice round.device = st.2.ownsDevice round.device := by
    rw [ownsDevice, ownsDevice, hfirst.owned]
  have hrowa : a.1.scheduledConnections.lookup round.device = some round.connection :=
    (hfirst.rows _ hnotBefore).trans hrow
  have hrow' := hlast.rows _ hnotAfter
  -- a new job of this device was created in this very round
  have hhere : ∀ id job, Created st.2 st'.2 id job → job.device = round.device →
      Created a.2 b.2 id job := by
    intro id job hjob hd
    by_cases hold : id < a.2.jobScheduler.nextId
    · have hkept := ((hone.frame.trans hlast).jobs id hold).symm.trans hjob.2
      exact absurd (hd ▸ hfirst.created id job ⟨hjob.1, hkept⟩) hnotBefore
    · by_cases hnew : id < b.2.jobScheduler.nextId
      · exact ⟨Nat.not_lt.mp hold, (hlast.jobs id hnew).symm.trans hjob.2⟩
      · exact absurd (hd ▸ hlast.created id job ⟨Nat.not_lt.mp hnew, hjob.2⟩) hnotAfter
  cases hone with
  | skipped howned =>
    have hnone : ∀ id job, Created st.2 st'.2 id job → job.device ≠ round.device :=
      fun id job hjob hd => not_created_self _ id job (hhere id job hjob hd)
    refine ⟨fun _ => ⟨hrow'.trans hrowa, hnone⟩, fun hyes => ?_, fun hyes => ?_⟩
    all_goals rw [← howns, howned] at hyes; cases hyes
  | expired howned hexp =>
    have hnone : ∀ id job, Created st.2 st'.2 id job → job.device ≠ round.device :=
      fun id job hjob hd => not_created_self _ id job (hhere id job hjob hd)
    have hlost : st'.1.scheduledConnections.lookup round.device = some round.connection.lost := by
      rw [hrow', InnerDB.lookup_updateScheduledConnection]
      exact if_pos rfl
    refine ⟨fun hno => ?_, fun _ _ => ⟨hlost, hnone⟩, fun _ hnot => absurd hexp hnot⟩
    rw [← howns, howned] at hno
    cases hno
  | restored hrestores =>
    rw [Restores, Bool.and_eq_true, Bool.not_eq_true', decide_eq_false_iff_not] at hrestores
    refine ⟨fun hno => ?_, fun _ hexp => absurd hexp hrestores.2,
      fun _ _ => ⟨a.2.jobScheduler.nextId, ⟨?_, ?_⟩, ?_, ?_⟩⟩
    · rw [← howns, hrestores.1] at hno
      cases hno
    · rw [hfirst.count]
      exact Nat.le_add_right _ _
    · rw [hlast.jobs _ (Nat.lt_succ_self _)]
      exact Finmap.lookup_insert _
    · exact fun id job hjob hd => (created_add (hhere id job hjob hd)).1
    · rw [hrow', InnerDB.lookup_updateScheduledConnection]
      exact if_pos rfl

/-- Every id that was handed out in between is that of a new job. -/
theorem exists_created (h : Run Reloads st rounds st') (id : JobId)
    (hlow : st.2.jobScheduler.nextId ≤ id) (hhigh : id < st'.2.jobScheduler.nextId) :
    ∃ job, Created st.2 st'.2 id job := by
  induction h with
  | nil st => exact absurd hlow (Nat.not_le.mpr hhigh)
  | @cons st st₁ st' round rounds hone hrest ih =>
    by_cases hnew : st₁.2.jobScheduler.nextId ≤ id
    · obtain ⟨job, hjob⟩ := ih hnew hhigh
      exact ⟨job, hlow, hjob.2⟩
    · have hkept := (reloadFrame_of_run hrest).jobs id (Nat.not_le.mp hnew)
      cases hone with
      | skipped _ => exact absurd hlow hnew
      | expired _ _ => exact absurd hlow hnew
      | restored _ =>
        obtain rfl : id = st.2.jobScheduler.nextId :=
          Nat.le_antisymm (Nat.lt_succ_iff.mp (Nat.not_le.mp hnew)) hlow
        exact ⟨round.job, hlow, hkept.trans (Finmap.lookup_insert _)⟩

end

def createdJobs (s s' : Scheduler) : Finset JobId :=
  s'.jobScheduler.jobs.keys.filter (s.jobScheduler.nextId ≤ ·)

/-- The ids that were handed out in between. -/
theorem card_createdJobs {st st' : InnerDB × Scheduler} {rounds : List ReloadRound}
    (h : Run Reloads st rounds st') :
    (createdJobs st.2 st'.2).card = rounds.countP st.2.Restores := by
  have hids : createdJobs st.2 st'.2 =
      Finset.Ico (α := Nat) st.2.jobScheduler.nextId st'.2.jobScheduler.nextId := by
    ext id
    rw [createdJobs, Finset.mem_filter, Finmap.mem_keys, Finset.mem_Ico]
    constructor
    · exact fun hid => ⟨hid.2, st'.2.jobScheduler.fresh id hid.1⟩
    · intro hid
      obtain ⟨job, hjob⟩ := exists_created h id hid.1 hid.2
      exact ⟨Finmap.mem_of_lookup_eq_some hjob.2, hid.1⟩
  rw [hids, Nat.card_Ico, (reloadFrame_of_run h).count]
  exact Nat.add_sub_cancel_left _ _

/-- The rounds are the connections in the database, in any order. -/
def ListsConnections (db : InnerDB) (rounds : List ReloadRound) : Prop :=
  (rounds.map ReloadRound.connection : Multiset ScheduledConnection) =
    db.scheduledConnections.entries.map Sigma.snd

section
variable {db : InnerDB} {rounds : List ReloadRound} {round : ReloadRound}

theorem ListsConnections.lookup (h : ListsConnections db rounds) (hmem : round ∈ rounds) :
    db.scheduledConnections.lookup round.device = some round.connection := by
  have hin : round.connection ∈ db.scheduledConnections.entries.map Sigma.snd :=
    h ▸ List.mem_map_of_mem hmem
  obtain ⟨entry, hentry, heq⟩ := Multiset.mem_map.mp hin
  have hrow : db.scheduledConnections.lookup entry.1 = some entry.2 :=
    Finmap.lookup_eq_some_iff.mpr hentry
  have hkey := db.connections_keyed entry.1 entry.2 hrow
  rw [← heq, ReloadRound.device, ← heq, hkey]
  exact hrow

theorem ListsConnections.mem_device {d : Uuid} {row : ScheduledConnection}
    (h : ListsConnections db rounds) (hrow : db.scheduledConnections.lookup d = some row) :
    d ∈ rounds.map ReloadRound.device := by
  have hin : row ∈ (rounds.map ReloadRound.connection : Multiset ScheduledConnection) :=
    h ▸ Multiset.mem_map.mpr ⟨⟨d, row⟩, Finmap.lookup_eq_some_iff.mp hrow, rfl⟩
  obtain ⟨round, hround, heq⟩ := List.mem_map.mp (Multiset.mem_coe.mp hin)
  refine List.mem_map.mpr ⟨round, hround, ?_⟩
  rw [ReloadRound.device, heq, db.connections_keyed d row hrow]

theorem ListsConnections.nodup (h : ListsConnections db rounds) :
    (rounds.map ReloadRound.device).Nodup := by
  have hkeys : (rounds.map ReloadRound.device : Multiset Uuid) =
      db.scheduledConnections.entries.map Sigma.fst := by
    calc (rounds.map ReloadRound.device : Multiset Uuid)
        = ((rounds.map ReloadRound.connection : List ScheduledConnection) :
            Multiset ScheduledConnection).map ScheduledConnection.fkDevice := by
          rw [Multiset.map_coe, List.map_map]
          rfl
      _ = db.scheduledConnections.entries.map Sigma.fst := by
          rw [h, Multiset.map_map]
          refine Multiset.map_congr rfl fun entry hentry => ?_
          exact db.connections_keyed entry.1 entry.2 (Finmap.lookup_eq_some_iff.mpr hentry)
  rw [← Multiset.coe_nodup, hkeys]
  exact db.scheduledConnections.nodupKeys.nodup_keys

end

/-- If the reload succeeds, each connection is skipped, given up or restored with one job, as
its owner and its time decide, and nothing else changes. -/
theorem reload_restores_schedule {db db' : InnerDB} {s s' : Scheduler}
    {rounds : List ReloadRound} (hlist : ListsConnections db rounds)
    (hok : reloadActiveConnections db s rounds = .ok (db', s')) :
    (∀ round ∈ rounds, Reloaded (db, s) round (db', s')) ∧
      (createdJobs s s').card = rounds.countP s.Restores ∧
      ReloadFrame (db, s) rounds (db', s') := by
  have hrun := run_of_eq_ok hok
  refine ⟨fun round hround => ?_, card_createdJobs hrun, reloadFrame_of_run hrun⟩
  exact reloaded_of_run hrun hlist.nodup hround (hlist.lookup hround)

/- Meters 7, 8 and 9 have connections an hour, a minute and an hour ahead; the node owns the
first two. -/
def stored : InnerDB :=
  ((InnerDB.new.scheduleConnection 7 (3600 * nanosPerSec) 4).scheduleConnection 8
    (60 * nanosPerSec) 5).scheduleConnection 9 (3600 * nanosPerSec) 6

def restarted : Scheduler := ⟨1, .empty, some {7, 8}, 1, false⟩

def storedRounds : List ReloadRound :=
  [⟨InnerDB.awaitingConnection 9 (3600 * nanosPerSec) 6, 0, none⟩,
    ⟨InnerDB.awaitingConnection 8 (60 * nanosPerSec) 5, 0, none⟩,
    ⟨InnerDB.awaitingConnection 7 (3600 * nanosPerSec) 4, 0, none⟩]

theorem reload_restores_schedule_one :
    ∃ db' s', reloadActiveConnections stored restarted storedRounds = .ok (db', s') ∧
      (createdJobs restarted s').card = 1 := by
  obtain ⟨⟨db', s'⟩, hok⟩ :
      ∃ r, reloadActiveConnections stored restarted storedRounds = .ok r := ⟨_, rfl⟩
  have hlist : ListsConnections stored storedRounds := rfl
  exact ⟨db', s', hok, (reload_restores_schedule hlist hok).2.1⟩

end Scheduler

end HeadEnd
