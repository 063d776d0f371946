import HeadEnd.Session

/-! How often a device is asked for its battery. The time of the last read is a field of the
scheduled connection, which scheduling the device again writes anew. -/
namespace HeadEnd
open Transition HeadEnd.Messages

/-- A wake-up that succeeded: what each attempt meets, what the one that goes through meets
and sends, and when the device is scheduled again. -/
structure Visit where
  exchange : Nat → Exchange
  session : Exchange
  sent : List Message
  rescheduledAt : Int

namespace Visit
variable {d : Uuid} {db db' : InnerDB} {v : Visit} {visits : List Visit}

def asksBattery (v : Visit) : Bool := v.sent.any Message.asksBattery

def WeekApart (v w : Visit) : Prop :=
  v.session.checkedAt + batteryReadIntervalDays * (secsPerDay * nanosPerSec) ≤
    w.session.checkedAt

/-- A visit, the reschedule after it, and whatever then happens to other devices. -/
inductive Step (d : Uuid) : InnerDB → Visit → InnerDB → Prop
  | mk {db db₁ db' : InnerDB} {dm dm₁ : DeviceManager} {v : Visit} :
      (runWakeUp db d v.exchange).result = .ok () →
      (runWakeUp db d v.exchange).session = some (v.session, v.sent) →
      dm.scheduleNextWakeup (runWakeUp db d v.exchange).db v.rescheduledAt d = .ok (db₁, dm₁) →
      db'.scheduledConnections.lookup d = db₁.scheduledConnections.lookup d →
      Step d db v db'

/-- The visits but the first, if the last read is not a week old at the first. -/
def due (db : InnerDB) (d : Uuid) : List Visit → List Visit
  | [] => []
  | v :: rest => if needsBattery db v.session.checkedAt d then v :: rest else rest

theorem Step.asksBattery (h : Step d db v db') :
    v.asksBattery = needsBattery db v.session.checkedAt d := by
  cases h with
  | mk hok hsession hsched hother =>
    obtain ⟨k, -, hresult, hlast, -⟩ := runWakeUp_eq_ok hok
    obtain ⟨hx, hsent⟩ := Prod.mk.inj (Option.some.inj (hsession.symm.trans hlast))
    rw [Visit.asksBattery, hx, hsent]
    exact (runSession_eq_ok hresult).2.1

/-- The reschedule forgets the read, so the next session asks again, whenever it is. -/
theorem Step.forgets (h : Step d db v db') (now : Int) : needsBattery db' now d = true := by
  cases h with
  | mk hok hsession hsched hother =>
    obtain ⟨bucket, t, -, -, rfl, -⟩ := DeviceManager.scheduleNextWakeup_eq_ok hsched
    rw [InnerDB.lookup_scheduleConnection] at hother
    rw [needsBattery, InnerDB.getScheduledConnection, hother]
    rfl

/- Induction on the run: a step leads to a state in which no session finds a read. -/
theorem filter_asksBattery_of_unread (hrun : Run (Step d) db visits db')
    (hunread : ∀ now, needsBattery db now d = true) :
    visits.filter Visit.asksBattery = visits := by
  induction hrun with
  | nil => rfl
  | cons hstep hrest ih =>
    rw [List.filter_cons_of_pos (by rw [hstep.asksBattery, hunread]), ih hstep.forgets]

theorem filter_asksBattery (hrun : Run (Step d) db visits db') :
    visits.filter Visit.asksBattery = due db d visits := by
  cases hrun with
  | nil => rfl
  | cons hstep hrest =>
    rw [due, List.filter_cons, hstep.asksBattery,
      filter_asksBattery_of_unread hrest hstep.forgets]

/-- The sessions that ask for the battery are a week apart exactly if all sessions are, not
counting a first one that finds a read of the last week. -/
theorem battery_weekly_iff (hrun : Run (Step d) db visits db') :
    (visits.filter Visit.asksBattery).Pairwise WeekApart ↔
      (due db d visits).Pairwise WeekApart := by
  rw [filter_asksBattery hrun]

end Visit

/- A visit to the meter at which the clock stands at `now`, and a run of two visits. -/
def meterVisit (now : Int) : Visit where
  exchange _ := smoothExchange now
  session := smoothExchange now
  sent := (converse 9 true (smoothExchange now)).1
  rescheduledAt := now

def meterVisits (days : Int) : List Visit :=
  [meterVisit 0, meterVisit (days * (secsPerDay * nanosPerSec))]

namespace Visit

/-- Two visits, eight days apart. -/
theorem battery_weekly_eight_days :
    ∃ db, Run (Step 9) oneMeter (meterVisits 8) db ∧
      ((meterVisits 8).filter Visit.asksBattery).Pairwise WeekApart := by
  have hrun : Run (Step 9) oneMeter (meterVisits 8) _ :=
    .cons (@Step.mk 9 oneMeter _ _ freshManager _ (meterVisit 0) rfl rfl rfl rfl)
      (.cons (@Step.mk 9 _ _ _ freshManager _ _ rfl rfl rfl rfl) (.nil _))
  refine ⟨_, hrun, (battery_weekly_iff hrun).mpr ?_⟩
  exact List.pairwise_pair.mpr (by unfold WeekApart; decide)

/-- Two visits on consecutive days. Both ask for the battery. -/
theorem battery_weekly_next_day :
    ¬ ∀ (d : Uuid) (db db' : InnerDB) (visits : List Visit), Run (Step d) db visits db' →
      (visits.filter Visit.asksBattery).Pairwise WeekApart := by
  intro h
  have hrun : Run (Step 9) oneMeter (meterVisits 1) _ :=
    .cons (@Step.mk 9 oneMeter _ _ freshManager _ (meterVisit 0) rfl rfl rfl rfl)
      (.cons (@Step.mk 9 _ _ _ freshManager _ _ rfl rfl rfl rfl) (.nil _))
  have hboth : (meterVisits 1).filter Visit.asksBattery = meterVisits 1 := rfl
  have hpair := h 9 oneMeter _ _ hrun
  rw [hboth, meterVisits, List.pairwise_pair] at hpair
  exact absurd hpair (by unfold WeekApart; decide)

end Visit

end HeadEnd
