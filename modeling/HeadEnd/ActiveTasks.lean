import HeadEnd.IpUpdate
import HeadEnd.Lib.Registry

/-! A wake-up runs in a task of its own, so that whoever takes the device over can stop it.
The closure of the job spawns the task, files its handle under the device, waits for it and
takes the handle out again. -/
namespace HeadEnd
open Transition Registry

/-- The task of a wake-up: what it does next, or how it ended. -/
inductive WakeUp where
  | running (next : Task)
  | aborted
  | panicked
  | returned (ok : Bool)

/-- The closure of a job, named after what it does next. -/
inductive ClosureStage where
  | spawn
  | record (wakeUp : WakeUp)
  | await (wakeUp : WakeUp)
  | done

/-- `overtaken`: an abort for the device has returned since the job fired. -/
structure Closure where
  device : Uuid
  stage : ClosureStage
  overtaken : Bool

namespace WakeUp

def runs : WakeUp → Bool
  | running _ => true
  | _ => false

/-- The signal reaches the task where it waits next. One that has ended stays as it is. -/
def abort : WakeUp → WakeUp
  | running _ => aborted
  | wakeUp => wakeUp

/-- What is left of the task after a turn, and what it leaves to others: the listener is
asked to schedule the device again. -/
def after : List Task → WakeUp × List Task
  | [.lostRead _] => (returned false, [])
  | [.reschedule d] => (returned true, [.reschedule d])
  | [next] => (running next, [])
  | next => (returned true, next)

/-- What the closure still does when it has cleaned up: if the wake-up failed, the connection
is marked as lost. -/
def aftermath (device : Uuid) : WakeUp → List Task
  | returned false => [.lostRead device]
  | _ => []

end WakeUp

namespace ClosureStage

/-- The stages with a task that is still running. -/
def runs : ClosureStage → Bool
  | record wakeUp | await wakeUp => wakeUp.runs
  | _ => false

def change (f : WakeUp → WakeUp) : ClosureStage → ClosureStage
  | record wakeUp => record (f wakeUp)
  | await wakeUp => await (f wakeUp)
  | stage => stage

/-- The task that has the next turn. -/
def next : ClosureStage → Option Task
  | record (.running next) | await (.running next) => some next
  | _ => none

theorem runs_of_next {stage : ClosureStage} {task : Task} (h : stage.next = some task) :
    stage.runs = true := by
  cases stage with
  | spawn | done => cases h
  | record wakeUp | await wakeUp =>
    cases wakeUp with
    | running _ => rfl
    | _ => cases h

end ClosureStage

def Closure.abort (c : Closure) : Closure := { c with stage := c.stage.change WakeUp.abort }

def Closure.overtake (device : Uuid) (c : Closure) : Closure :=
  if c.device = device then { c with overtaken := true } else c

/-- The closures of the jobs that have fired, and under each device the number of the closure
whose handle is filed there. -/
structure WakeUps where
  node : NodeState
  closures : List Closure
  activeTasks : Finmap fun _ : Uuid => Nat

inductive WakeUpEvent where
  | fire (id : JobId)
  | spawn (i : Nat)
  | record (i : Nat)
  | turn (i : Nat) (now : Int) (answered : Bool)
  | panic (i : Nat)
  | cleanUp (i : Nat)
  | cancel (deviceId : Uuid) (refused : Option String)
  | abort (deviceId : Uuid)
  | elsewhere (node : NodeState)

namespace WakeUps

def start (node : NodeState) : WakeUps := ⟨node, [], ∅⟩

def abortActiveWakeup (s : WakeUps) (deviceId : Uuid) : WakeUps × Bool :=
  match s.activeTasks.lookup deviceId with
  | some i =>
    ({ s with
        closures := s.closures.modify i Closure.abort
        activeTasks := s.activeTasks.erase deviceId }, true)
  | none => (s, false)

/-- The device is taken over: its closures know from now on. -/
def abort (s : WakeUps) (deviceId : Uuid) : WakeUps :=
  { (s.abortActiveWakeup deviceId).1 with
    closures := (s.abortActiveWakeup deviceId).1.closures.map (Closure.overtake deviceId) }

/-- An error is only logged. -/
def cancelWakeupJob (s : WakeUps) (deviceId : Uuid) (refused : Option String) : WakeUps :=
  match s.node.dm.cancelWakeupJob s.node.db deviceId refused with
  | .error _ => s
  | .ok (db, dm, _) => { s with node := { s.node with db, dm } }

/-- A turn of the task of a closure. -/
def turn (s : WakeUps) (i : Nat) (c : Closure) (task : Task) (now : Int) (answered : Bool) :
    WakeUps :=
  let r := task.turn s.node.db s.node.dm now answered
  { s with
    node := ⟨r.db, r.dm, (WakeUp.after r.next).2 ++ s.node.tasks⟩
    closures :=
      s.closures.set i { c with stage := c.stage.change fun _ => (WakeUp.after r.next).1 } }

/-- Closures take their steps in any order, and tasks their turns. Jobs fire, and devices are
taken over, at any time. -/
inductive Step : WakeUps → WakeUpEvent → WakeUps → Prop
  | fire {s : WakeUps} {id : JobId} {job : Job} : s.node.dm.jobs.jobs.lookup id = some job →
      Step s (.fire id)
        { s with
          node := { s.node with dm := NodeState.removeJob s.node.dm id }
          closures := s.closures ++ [⟨job.device, .spawn, false⟩] }
  | spawn {s : WakeUps} {i : Nat} {c : Closure} : s.closures[i]? = some c → c.stage = .spawn →
      Step s (.spawn i)
        { s with
          closures := s.closures.set i { c with stage := .record (.running (.wakeUp c.device)) } }
  | record {s : WakeUps} {i : Nat} {c : Closure} {wakeUp : WakeUp} : s.closures[i]? = some c →
      c.stage = .record wakeUp →
      Step s (.record i)
        { s with
          closures := s.closures.set i { c with stage := .await wakeUp }
          activeTasks := s.activeTasks.insert c.device i }
  | turn {s : WakeUps} {i : Nat} {c : Closure} {task : Task} {now : Int} {answered : Bool} :
      s.closures[i]? = some c → c.stage.next = some task →
      Step s (.turn i now answered) (s.turn i c task now answered)
  | panic {s : WakeUps} {i : Nat} {c : Closure} : s.closures[i]? = some c →
      c.stage.runs = true →
      Step s (.panic i)
        { s with
          closures := s.closures.set i { c with stage := c.stage.change fun _ => .panicked } }
  | cleanUp {s : WakeUps} {i : Nat} {c : Closure} {wakeUp : WakeUp} : s.closures[i]? = some c →
      c.stage = .await wakeUp → wakeUp.runs = false →
      Step s (.cleanUp i)
        { s with
          node := { s.node with tasks := wakeUp.aftermath c.device ++ s.node.tasks }
          closures := s.closures.set i { c with stage := .done }
          activeTasks := s.activeTasks.erase c.device }
  | cancel {s : WakeUps} {d : Uuid} {refused : Option String} :
      Step s (.cancel d refused) (s.cancelWakeupJob d refused)
  | abort {s : WakeUps} {d : Uuid} : Step s (.abort d) (s.abort d)
  -- whatever else happens to the node, and to its jobs
  | elsewhere {s : WakeUps} {node : NodeState} : Step s (.elsewhere node) { s with node := node }

/-- No task of a job that fired before an abort for its device goes on running, and no closure
that is about to clean up finds the handle of another running task under its device. -/
structure TakenOver (s : WakeUps) : Prop where
  stopped : ∀ c ∈ s.closures, c.overtaken = true → c.stage.runs = false
  cleanUp : ∀ (i j : Nat) (c c' : Closure) (wakeUp : WakeUp), s.closures[i]? = some c →
    c.stage = .await wakeUp → wakeUp.runs = false → s.activeTasks.lookup c.device = some j →
    s.closures[j]? = some c' → c'.stage.runs = true → j = i

/-- A job fires when all closures for its device are done. An abort comes when every running
task for its device has its handle filed, and no closure is about to spawn one. -/
def InOrder (s : WakeUps) : WakeUpEvent → Prop
  | .fire id => ∀ job, s.node.dm.jobs.jobs.lookup id = some job →
      ∀ c ∈ s.closures, c.device = job.device → c.stage = .done
  | .abort d => ∀ c ∈ s.closures, c.device = d →
      c.stage ≠ .spawn ∧ ∀ task, c.stage ≠ .record (.running task)
  | _ => True

end WakeUps

namespace Closure

/-- A closure relies on its handle from when it is filed until the task ends. -/
def view (c : Closure) : Option (Uuid × Stage) :=
  match c.stage with
  | .spawn | .record _ => some (c.device, .started)
  | .await wakeUp => some (c.device, if wakeUp.runs then .entered else .resting)
  | .done => none

/-- If it was overtaken, its task does not run, and will not. -/
def Settled (c : Closure) : Prop :=
  c.overtaken = true → c.stage ≠ .spawn ∧ c.stage.runs = false

variable {c : Closure} {d : Uuid} {st : Stage}

theorem view_await {wakeUp : WakeUp} (h : c.stage = .await wakeUp) :
    c.view = some (c.device, if wakeUp.runs then .entered else .resting) := by
  rw [view, h]

theorem view_eq_some (h : c.view = some (d, st)) : c.device = d ∧ c.stage ≠ .done := by
  cases hstage : c.stage with
  | done =>
    rw [view, hstage] at h
    cases h
  | _ =>
    rw [view, hstage] at h
    exact ⟨(Prod.mk.inj (Option.some.inj h)).1, by simp⟩

/-- Only a closure that has filed its handle has an entry. -/
theorem await_of_view (h : c.view = some (d, st)) (hst : st ≠ .started) :
    ∃ wakeUp, c.stage = .await wakeUp := by
  cases hstage : c.stage with
  | await wakeUp => exact ⟨wakeUp, rfl⟩
  | spawn | record _ =>
    rw [view, hstage] at h
    exact absurd (Prod.mk.inj (Option.some.inj h)).2.symm hst
  | done =>
    rw [view, hstage] at h
    cases h

theorem view_abort {wakeUp : WakeUp} (h : c.stage = .await wakeUp) :
    c.abort.view = some (c.device, .resting) := by
  rw [view, abort, h]
  cases wakeUp <;> rfl

theorem runs_abort (c : Closure) : c.abort.stage.runs = false := by
  cases hstage : c.stage with
  | spawn | done => rw [abort, hstage]; rfl
  | record wakeUp | await wakeUp =>
    rw [abort, hstage]
    cases wakeUp <;> rfl

theorem abort_stage_ne_spawn (h : c.stage ≠ .spawn) : c.abort.stage ≠ .spawn := by
  cases hstage : c.stage with
  | spawn => exact absurd hstage h
  | _ => simp [abort, hstage, ClosureStage.change]

theorem stage_overtake (d : Uuid) (c : Closure) : (c.overtake d).stage = c.stage := by
  unfold overtake
  split <;> rfl

theorem overtake_of_ne (h : c.device ≠ d) : c.overtake d = c := if_neg h

theorem view_overtake (d : Uuid) (c : Closure) : (c.overtake d).view = c.view := by
  unfold overtake
  split <;> rfl

end Closure

namespace WakeUps
variable {s t : WakeUps} {d : Uuid} {e : WakeUpEvent}

def view (s : WakeUps) : View Nat Uuid := .ofTables Closure.view s.closures s.activeTasks

structure Inv (s : WakeUps) : Prop where
  sound : Sound s.view
  settled : ∀ c ∈ s.closures, c.Settled

theorem settled_set {i : Nat} {c : Closure} (h : ∀ c ∈ s.closures, c.Settled) (hc : c.Settled) :
    ∀ c' ∈ s.closures.set i c, c'.Settled := by
  intro c' hc'
  cases List.mem_or_eq_of_mem_set hc' with
  | inl hold => exact h c' hold
  | inr heq => exact heq ▸ hc

/-- A running task ends, or goes on. -/
theorem sound_change {i : Nat} {c : Closure} (h : Sound s.view) (hc : s.closures[i]? = some c)
    (hruns : c.stage.runs = true) (wakeUp : WakeUp) :
    Sound (.ofTables Closure.view
      (s.closures.set i { c with stage := c.stage.change fun _ => wakeUp }) s.activeTasks) := by
  cases hstage : c.stage with
  | spawn | done =>
    rw [hstage] at hruns
    cases hruns
  | record _ =>
    refine h.set hc ?_
    rw [Closure.view, Closure.view, hstage]
    rfl
  | await before =>
    have hbefore : before.runs = true := by
      rw [hstage] at hruns
      exact hruns
    have hview : c.view = some (c.device, .entered) := by
      rw [Closure.view_await hstage, if_pos hbefore]
    cases hafter : wakeUp.runs with
    | true =>
      refine h.set hc ((Closure.view_await rfl).trans ?_)
      rw [hview, if_pos hafter]
    | false =>
      refine h.set_rest hc hview ((Closure.view_await rfl).trans ?_)
      rw [if_neg (by simp [hafter])]

theorem Inv.change {i : Nat} {c : Closure} (h : s.Inv) (hc : s.closures[i]? = some c)
    (hruns : c.stage.runs = true) (wakeUp : WakeUp) (node : NodeState) :
    Inv { s with
      node := node
      closures := s.closures.set i { c with stage := c.stage.change fun _ => wakeUp } } := by
  refine ⟨sound_change h.sound hc hruns wakeUp, settled_set h.settled fun hovertaken => ?_⟩
  have hstopped := (h.settled c (List.mem_of_getElem? hc) hovertaken).2
  rw [hruns] at hstopped
  cases hstopped

theorem getElem?_abortActiveWakeup (s : WakeUps) (d : Uuid) (j : Nat) :
    (s.abortActiveWakeup d).1.closures[j]? =
      if s.activeTasks.lookup d = some j then s.closures[j]?.map Closure.abort
      else s.closures[j]? := by
  unfold abortActiveWakeup
  cases hlookup : s.activeTasks.lookup d with
  | none => rfl
  | some i =>
    simp only [List.getElem?_modify, Option.some.injEq]
    split
    next => rfl
    next => simp

theorem sound_abortActiveWakeup (h : Sound s.view) (d : Uuid) :
    Sound (s.abortActiveWakeup d).1.view := by
  unfold abortActiveWakeup
  cases hlookup : s.activeTasks.lookup d with
  | none => exact h
  | some i =>
    obtain ⟨c, st, hc, hview, hst⟩ := h.of_lookup hlookup
    obtain ⟨rfl, -⟩ := Closure.view_eq_some hview
    obtain ⟨wakeUp, hstage⟩ := Closure.await_of_view hview hst
    have hmodify : s.closures.modify i Closure.abort = s.closures.set i c.abort := by
      rw [List.modify_eq_set_getElem?, hc]
      rfl
    simp only [view, hmodify]
    exact h.set_erase hc hview (r := some .resting) (Closure.view_abort hstage) (by simp)

/-- If every running task for the device has its handle filed, the abort stops them all: there
is only one. -/
theorem settled_abort (h : s.Inv) (hguard : s.InOrder (.abort d)) :
    ∀ c ∈ (s.abort d).closures, c.Settled := by
  intro c' hc'
  obtain ⟨c, hc, rfl⟩ := List.mem_map.mp hc'
  obtain ⟨j, hj⟩ := List.mem_iff_getElem?.mp hc
  rw [getElem?_abortActiveWakeup] at hj
  by_cases hfiled : s.activeTasks.lookup d = some j
  · rw [if_pos hfiled] at hj
    obtain ⟨c₀, hc₀, rfl⟩ := Option.map_eq_some_iff.mp hj
    obtain ⟨c₁, st, hc₁, hview, -⟩ := h.sound.of_lookup hfiled
    obtain rfl := Option.some.inj (hc₀.symm.trans hc₁)
    have hdevice := (Closure.view_eq_some hview).1
    have hspawn := (hguard c₀ (List.mem_of_getElem? hc₀) hdevice).1
    intro _
    rw [Closure.stage_overtake]
    exact ⟨Closure.abort_stage_ne_spawn hspawn, c₀.runs_abort⟩
  · rw [if_neg hfiled] at hj
    by_cases hdevice : c.device = d
    · have hready := hguard c (List.mem_of_getElem? hj) hdevice
      intro _
      rw [Closure.stage_overtake]
      refine ⟨hready.1, ?_⟩
      cases hstage : c.stage with
      | spawn | done => rfl
      | record wakeUp =>
        cases wakeUp with
        | running task => exact absurd hstage (hready.2 task)
        | _ => rfl
      | await wakeUp =>
        -- a task that ran with its handle filed would have been found
        cases hruns : wakeUp.runs with
        | false => exact hruns
        | true =>
          have hview : c.view = some (d, .entered) := by
            rw [Closure.view_await hstage, if_pos hruns, hdevice]
          exact absurd (h.sound.entered j d ((View.task_of_getElem? hj).trans hview)) hfiled
    · rw [Closure.overtake_of_ne hdevice]
      exact h.settled c (List.mem_of_getElem? hj)

theorem Inv.step (h : s.Inv) (hstep : Guarded InOrder Step s e t) : t.Inv := by
  obtain ⟨hguard, hone⟩ := hstep
  cases hone with
  | @fire id job hjob =>
    refine ⟨h.sound.append rfl fun c hc st hview => ?_, fun c hc => ?_⟩
    · obtain ⟨hdevice, hlive⟩ := Closure.view_eq_some hview
      exact hlive (hguard job hjob c hc hdevice)
    · cases List.mem_append.mp hc with
      | inl hold => exact h.settled c hold
      | inr hnew =>
        rw [List.mem_singleton.mp hnew]
        exact fun hovertaken => by cases hovertaken
  | @spawn i c hc hstage =>
    refine ⟨h.sound.set hc ?_, settled_set h.settled fun hovertaken => ?_⟩
    · rw [Closure.view, Closure.view, hstage]
    · exact absurd hstage (h.settled c (List.mem_of_getElem? hc) hovertaken).1
  | @record i c wakeUp hc hstage =>
    have hview : c.view = some (c.device, .started) := by rw [Closure.view, hstage]
    refine ⟨h.sound.set_insert hc hview (Closure.view_await rfl) (by split <;> simp),
      settled_set h.settled fun hovertaken => ?_⟩
    have hold := (h.settled c (List.mem_of_getElem? hc) hovertaken).2
    rw [hstage] at hold
    exact ⟨by simp, hold⟩
  | turn hc hnext => exact h.change hc (ClosureStage.runs_of_next hnext) _ _
  | panic hc hruns => exact h.change hc hruns .panicked s.node
  | @cleanUp i c wakeUp hc hstage hended =>
    refine ⟨h.sound.set_erase hc (Closure.view_await hstage) (r := none) rfl (by simp),
      settled_set h.settled fun _ => ?_⟩
    exact ⟨by simp, rfl⟩
  | cancel =>
    unfold cancelWakeupJob
    split
    next => exact h
    next => exact ⟨h.sound, h.settled⟩
  | abort =>
    exact ⟨(sound_abortActiveWakeup h.sound _).map (Closure.view_overtake _),
      settled_abort h hguard⟩
  | elsewhere => exact ⟨h.sound, h.settled⟩

theorem Inv.takenOver (h : s.Inv) : s.TakenOver where
  stopped c hc hovertaken := (h.settled c hc hovertaken).2
  cleanUp i j c c' wakeUp hc hstage _ hfiled hc' _ := by
    have hi : s.view.task i = some _ := (View.task_of_getElem? hc).trans (Closure.view_await hstage)
    obtain ⟨st, hj, -⟩ := h.sound.owner c.device j hfiled
    exact h.sound.sole j i c.device st _ hj hi

theorem inv_start (node : NodeState) : (start node).Inv where
  sound := .empty
  settled _ hc := absurd hc List.not_mem_nil

/-- Closure `i`, for device `d`, gets to where it has only to clean up, and the others stay
where they are. -/
structure Ends (s t : WakeUps) (i : Nat) (d : Uuid) : Prop where
  run : ∃ es, Run Step s es t
  ended : ∃ c wakeUp, t.closures[i]? = some c ∧ c.device = d ∧ c.stage = .await wakeUp ∧
    wakeUp.runs = false
  others : ∀ j, j ≠ i → t.closures[j]? = s.closures[j]?

section Ends
variable {i : Nat} {c c' : Closure} {wakeUp : WakeUp}

/-- The closure takes a step, and gets there from where it then is. -/
theorem Ends.after (hc : s.closures[i]? = some c) (hstep : Step s e t)
    (ht : t.closures = s.closures.set i c')
    (h : t.closures[i]? = some c' → ∃ u, Ends t u i d) : ∃ u, Ends s u i d := by
  have hi : i < s.closures.length := (List.getElem?_eq_some_iff.mp hc).1
  obtain ⟨u, hu⟩ := h (by rw [ht]; exact List.getElem?_set_self hi)
  obtain ⟨es, hrun⟩ := hu.run
  refine ⟨u, ⟨e :: es, .cons hstep hrun⟩, hu.ended, fun j hj => (hu.others j hj).trans ?_⟩
  rw [ht, List.getElem?_set_ne (Ne.symm hj)]

theorem exists_ends_of_ended (hc : s.closures[i]? = some c) (hd : c.device = d)
    (hstage : c.stage = .await wakeUp) (hended : wakeUp.runs = false) : ∃ t, Ends s t i d :=
  ⟨s, ⟨[], .nil s⟩, ⟨c, wakeUp, hc, hd, hstage, hended⟩, fun _ _ => rfl⟩

theorem exists_ends_of_await (hc : s.closures[i]? = some c) (hd : c.device = d)
    (hstage : c.stage = .await wakeUp) : ∃ t, Ends s t i d := by
  cases hruns : wakeUp.runs with
  | false => exact exists_ends_of_ended hc hd hstage hruns
  | true =>
    have hpanic : c.stage.change (fun _ => .panicked) = .await .panicked := by
      rw [hstage]
      rfl
    exact Ends.after hc (.panic hc (by rw [hstage]; exact hruns)) rfl
      fun hnow => exists_ends_of_ended hnow hd hpanic rfl

theorem exists_ends_of_record (hc : s.closures[i]? = some c) (hd : c.device = d)
    (hstage : c.stage = .record wakeUp) : ∃ t, Ends s t i d :=
  Ends.after hc (.record hc hstage) rfl fun hnow => exists_ends_of_await hnow hd rfl

/-- A closure that is not done can get there: it may be scheduled alone, and its task may
panic. -/
theorem exists_ends (hc : s.closures[i]? = some c) (hd : c.device = d)
    (hlive : c.stage ≠ .done) : ∃ t, Ends s t i d := by
  cases hstage : c.stage with
  | spawn =>
    exact Ends.after hc (.spawn hc hstage) rfl fun hnow => exists_ends_of_record hnow hd rfl
  | record wakeUp => exact exists_ends_of_record hc hd hstage
  | await wakeUp => exact exists_ends_of_await hc hd hstage
  | done => exact absurd hstage hlive

/-- If a job fires while an earlier closure for its device is there, the earlier one may find
the handle of the later one when it cleans up. -/
theorem exists_wrong_cleanUp {n : Nat} (hne : n ≠ i) (hc : s.closures[i]? = some c)
    (hd : c.device = d) (hlive : c.stage ≠ .done) (hnew : s.closures[n]? = some c')
    (hd' : c'.device = d) (hspawn : c'.stage = .spawn) :
    ∃ es u, Run Step s es u ∧ ¬ u.TakenOver := by
  obtain ⟨t, ht⟩ := exists_ends hc hd hlive
  obtain ⟨es, hrun⟩ := ht.run
  obtain ⟨ended, wakeUp, hended, hdevice, hstage, hover⟩ := ht.ended
  have hnew' : t.closures[n]? = some c' := (ht.others n hne).trans hnew
  have hn : n < t.closures.length := (List.getElem?_eq_some_iff.mp hnew').1
  let task : WakeUp := .running (.wakeUp c'.device)
  have hspawned : (t.closures.set n { c' with stage := .record task })[n]? =
      some { c' with stage := .record task } :=
    List.getElem?_set_self hn
  have hsteps : Run Step t [.spawn n, .record n] _ :=
    .cons (.spawn hnew' hspawn) (.single (.record hspawned rfl))
  refine ⟨_, _, hrun.append hsteps, fun hgood => hne ?_⟩
  refine hgood.cleanUp i n ended { c' with stage := .await task } wakeUp ?_ hstage hover ?_ ?_ rfl
  · simp only [List.set_set]
    rw [List.getElem?_set_ne hne]
    exact hended
  · rw [hdevice, ← hd']
    exact Finmap.lookup_insert _
  · simp only [List.set_set]
    exact List.getElem?_set_self hn

/-- If the device is taken over while a task for it is about to be spawned, or its handle to
be filed, the task goes on. -/
theorem exists_unstopped (h : s.Inv) (hc : s.closures[i]? = some c) (hd : c.device = d)
    (hearly : c.stage = .spawn ∨ ∃ task, c.stage = .record (.running task)) :
    ∃ es u, Run Step (s.abort d) es u ∧ ¬ u.TakenOver := by
  have hunfiled : s.activeTasks.lookup d ≠ some i := by
    intro hfiled
    obtain ⟨c₀, st, hc₀, hview, hst⟩ := h.sound.of_lookup hfiled
    obtain rfl := Option.some.inj (hc.symm.trans hc₀)
    obtain ⟨wakeUp, hstage⟩ := Closure.await_of_view hview hst
    rw [hstage] at hearly
    cases hearly with
    | inl hspawn => cases hspawn
    | inr hrecord =>
      obtain ⟨task, hrecord⟩ := hrecord
      cases hrecord
  have hnow : (s.abort d).closures[i]? = some { c with overtaken := true } := by
    rw [abort, List.getElem?_map, getElem?_abortActiveWakeup, if_neg hunfiled, hc, Option.map_some,
      Closure.overtake, if_pos hd]
  cases hearly with
  | inl hspawn =>
    have hstep : Step (s.abort d) (.spawn i) _ := .spawn hnow hspawn
    refine ⟨[.spawn i], _, .single hstep, fun hgood => ?_⟩
    have hi : i < (s.abort d).closures.length := (List.getElem?_eq_some_iff.mp hnow).1
    have hstopped := hgood.stopped _ (List.mem_of_getElem? (List.getElem?_set_self hi)) rfl
    cases hstopped
  | inr hrecord =>
    obtain ⟨task, hrecord⟩ := hrecord
    refine ⟨[], _, .nil _, fun hgood => ?_⟩
    have hstopped := hgood.stopped _ (List.mem_of_getElem? hnow) rfl
    rw [hrecord] at hstopped
    cases hstopped

end Ends

/-- A step out of order may end badly. -/
theorem exists_not_takenOver (h : s.Inv) (hstep : Step s e t) (hearly : ¬ s.InOrder e) :
    ∃ es u, Run Step t es u ∧ ¬ u.TakenOver := by
  cases hstep with
  | @fire id job hjob =>
    simp only [InOrder, not_forall] at hearly
    obtain ⟨job', hjob', c, hc, hdevice, hlive⟩ := hearly
    obtain rfl := Option.some.inj (hjob.symm.trans hjob')
    obtain ⟨i, hi⟩ := List.mem_iff_getElem?.mp hc
    have hlt : i < s.closures.length := (List.getElem?_eq_some_iff.mp hi).1
    refine exists_wrong_cleanUp (Nat.ne_of_gt hlt) ?_ hdevice hlive List.getElem?_concat_length rfl
      rfl
    rw [List.getElem?_append_left hlt]
    exact hi
  | @abort d =>
    simp only [InOrder, not_forall, not_and_or, not_not] at hearly
    obtain ⟨c, hc, hdevice, hearly⟩ := hearly
    obtain ⟨i, hi⟩ := List.mem_iff_getElem?.mp hc
    exact exists_unstopped h hi hdevice hearly
  | _ => exact absurd trivial hearly

/-- Along a run in which jobs fire and devices are taken over in order, no task that was to be
stopped goes on running, and no clean-up takes out the handle of another. A step out of order
opens the way to one or the other. -/
theorem takenOver_of_inOrder (node : NodeState) {es : List WakeUpEvent}
    (hrun : Run (Guarded InOrder Step) (start node) es s) :
    s.TakenOver ∧
      ∀ e t, Step s e t → ¬ s.InOrder e → ∃ fs u, Run Step t fs u ∧ ¬ u.TakenOver := by
  have hinv := hrun.invariant Inv (fun _ _ _ h hstep => h.step hstep) (inv_start node)
  exact ⟨hinv.takenOver, fun e t hstep hearly => exists_not_takenOver hinv hstep hearly⟩

/- Job 0 is for device 9, whose connection names it. -/
def jobForNine : NodeState :=
  ⟨InnerDB.new.scheduleConnection 9 0 0,
    ⟨1, ∅, ⟨48, JobScheduler.empty.add ⟨9, 0⟩, some ∅, 1, false⟩⟩, []⟩

theorem lookup_jobForNine : jobForNine.dm.jobs.jobs.lookup 0 = some ⟨9, 0⟩ := rfl

/-- The handle is filed when the device is taken over. -/
theorem takenOver_nine :
    ∃ s, Run (Guarded InOrder Step) (start jobForNine)
        [.fire 0, .spawn 0, .record 0, .cancel 9 none, .abort 9] s ∧
      s.TakenOver ∧ s.closures = [⟨9, .await .aborted, true⟩] := by
  have hrun : Run (Guarded InOrder Step) (start jobForNine)
      [.fire 0, .spawn 0, .record 0, .cancel 9 none, .abort 9] _ :=
    .cons ⟨fun _ _ c hc => absurd hc List.not_mem_nil, .fire lookup_jobForNine⟩
      (.cons ⟨trivial, .spawn rfl rfl⟩ (.cons ⟨trivial, .record rfl rfl⟩
        (.cons ⟨trivial, .cancel⟩
          (.single ⟨fun c hc _ => by rw [List.mem_singleton.mp hc]; simp, .abort⟩))))
  exact ⟨_, hrun, (takenOver_of_inOrder jobForNine hrun).1, rfl⟩

/-- The device is taken over when the task has been spawned and its handle is not filed. -/
theorem wakeUp_goes_on :
    ¬ ∀ (node : NodeState) (es : List WakeUpEvent) (s : WakeUps),
      Run Step (start node) es s → s.TakenOver := by
  intro h
  have hrun : Run Step (start jobForNine) [.fire 0, .spawn 0, .cancel 9 none, .abort 9] _ :=
    .cons (.fire lookup_jobForNine) (.cons (.spawn rfl rfl) (.cons .cancel (.single .abort)))
  have hstopped := (h jobForNine _ _ hrun).stopped
    ⟨9, .record (.running (.wakeUp 9)), true⟩ List.mem_cons_self rfl
  cases hstopped

end WakeUps

end HeadEnd
