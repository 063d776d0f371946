import HeadEnd.Cluster.DelegationLoss
import HeadEnd.Tasks

/-! Who wakes a device once its delegation is done? The nodes of the cluster
with all their tasks, on one database. -/
namespace HeadEnd

/-- The device is through with its registration and has a scheduled connection. -/
structure InnerDB.Established (db : InnerDB) (d : Uuid) : Prop where
  answered : ∀ row, db.deviceRegistration.lookup d = some row → row.status ≠ .pendingAck
  scheduled : d ∈ db.scheduledConnections

namespace InnerDB.Established
variable {db : InnerDB} {d : Uuid}

theorem updateScheduledConnection (h : db.Established d) (row : ScheduledConnection) :
    (db.updateScheduledConnection row).Established d :=
  ⟨h.answered, Finmap.mem_insert.mpr (.inr h.scheduled)⟩

theorem setDeviceOwner (h : db.Established d) (e nodeId : Uuid) :
    (db.setDeviceOwner e nodeId).Established d := by
  unfold InnerDB.setDeviceOwner
  split
  · exact ⟨h.answered, h.scheduled⟩
  · exact h

theorem settle (h : db.Established d) (e : Uuid) {row : Registration}
    (hrow : row.status ≠ .pendingAck ∨ d ≠ e) :
    { db with deviceRegistration := db.deviceRegistration.insert e row }.Established d := by
  refine ⟨fun r hr => ?_, h.scheduled⟩
  by_cases he : d = e
  · subst he
    rw [Finmap.lookup_insert] at hr
    exact Option.some.inj hr ▸ hrow.resolve_right (fun hne => hne rfl)
  · rw [Finmap.lookup_insert_of_ne _ he] at hr
    exact h.answered r hr

theorem accept {now : Int} {devices : List DelegatedDevice} {st : InnerDB × DeviceManager}
    (h : st.1.Established d) :
    (devices.foldl (DeviceManager.acceptDevice now) st).1.Established d := by
  induction devices generalizing st with
  | nil => exact h
  | cons e devices ih => exact ih ((h.setDeviceOwner _ _).updateScheduledConnection _)

end InnerDB.Established

namespace Task
variable {db : InnerDB} {dm : DeviceManager} {now : Int} {d : Uuid} {task t : Task}

/-- The device that the task schedules, or may lead to scheduling, by itself. -/
def arms : Task → Option Uuid
  | wakeUp d | session d _ | talking d _ _ | battery d | reschedule d
  | ackUpdate d _ | ackSchedule d | ipSchedule d => some d
  | _ => none

/-- The device that the task registers. -/
def registers : Task → Option Uuid
  | registerAdd device _ | registerSection device _ => some device.id
  | registerRow d _ => some d
  | _ => none

theorem arms_of_schedules (h : task.schedules = some d) : task.arms = some d := by
  cases task with
  | ackSchedule | ipSchedule | reschedule => exact h
  | _ => cases h

/-- Reading the registration or the schedule of an established device leads nowhere. -/
theorem Leads.arms (h : Leads db task t) (hdb : db.Established d) (ht : t.arms = some d) :
    task.arms = some d := by
  cases h with
  | ackUpdate hrow hpend =>
    cases ht
    exact absurd hpend (hdb.answered _ hrow)
  | ipSchedule hrow =>
    cases ht
    exact absurd hdb.scheduled hrow
  | ackSchedule | session | talking | retry | battery | success | reschedule => exact ht
  | _ => cases ht

theorem Leads.registers (h : Leads db task t) (ht : t.registers = some d) :
    task.registers = some d := by
  cases h with
  | registerSection | registerRow => exact ht
  | _ => cases ht

theorem Write.established {db' : InnerDB} {dm' : DeviceManager}
    (hw : Write now db dm task db' dm') (h : db.Established d) (hd : task.registers ≠ some d) :
    db'.Established d := by
  cases hw with
  | nothing => exact h
  | device device => exact ⟨h.answered, h.scheduled⟩
  | register hr =>
    obtain ⟨rfl, -, -⟩ := DeviceManager.registerDevice_eq_ok hr
    exact ⟨h.answered, h.scheduled⟩
  | pending => exact h.settle _ (.inr fun he => hd (he ▸ rfl))
  | settled e hrow => exact h.settle e (.inl hrow)
  | schedule _ hr =>
    obtain ⟨-, t, -, -, rfl, -⟩ := DeviceManager.scheduleNextWakeup_eq_ok hr
    exact h.updateScheduledConnection _
  | battery _ => exact h.updateScheduledConnection _
  | lost => exact h.updateScheduledConnection _

end Task

namespace NodeState
variable {s t : NodeState} {d : Uuid} {e : NodeEvent}

/-- An established device that the node does not register again. -/
structure Known (s : NodeState) (d : Uuid) : Prop where
  established : s.db.Established d
  unregistered : ∀ task ∈ s.tasks, task.registers ≠ some d

/-- A known device that the node neither schedules nor is about to schedule. -/
structure Dormant (s : NodeState) (d : Uuid) : Prop where
  known : s.Known d
  idle : s.dm.jobs.Idle d
  unarmed : ∀ task ∈ s.tasks, task.arms ≠ some d

theorem Known.add_task {task : Task} (h : s.Known d) (hdb : t.db = s.db)
    (htasks : t.tasks = task :: s.tasks) (htask : task.registers ≠ some d) : t.Known d := by
  refine ⟨hdb ▸ h.established, ?_⟩
  rw [htasks]
  exact List.forall_mem_cons.mpr ⟨htask, h.unregistered⟩

theorem Known.step (h : s.Known d) (hstep : s.Step e t) : t.Known d := by
  cases hstep with
  | @register id ip imei time hfresh =>
    refine h.add_task rfl rfl fun heq => ?_
    have hid : (Device.new id ip imei).id = id := by cases ip <;> rfl
    exact hfresh.2.2.2 (hid.symm.trans (Option.some.inj heq) ▸ h.established.scheduled)
  | ack => exact h.add_task rfl rfl (by simp [Task.registers])
  | ipUpdate => exact h.add_task rfl rfl (by simp [Task.registers])
  | @run task now answered htask =>
    refine ⟨run_write.established h.established (h.unregistered task htask), fun u hu hd => ?_⟩
    cases mem_run_tasks hu with
    | inl hnew => exact h.unregistered task htask (hnew.registers hd)
    | inr hold => exact h.unregistered u hold hd
  | fire hjob => exact h.add_task rfl rfl (by simp [Task.registers])
  | delegate => exact ⟨h.established.accept, h.unregistered⟩

theorem Dormant.step (h : s.Dormant d) (hstep : s.Step e t) (he : ∀ now ds, e ≠ .delegate now ds) :
    t.Dormant d := by
  have hknown := h.known.step hstep
  have spawned : ∀ task : Task, task.arms = none →
      ∀ u ∈ (s.spawn task).tasks, u.arms ≠ some d := by
    intro task htask
    exact List.forall_mem_cons.mpr ⟨by simp [htask], h.unarmed⟩
  cases hstep with
  | register _ => exact ⟨hknown, h.idle, spawned _ rfl⟩
  | ack => exact ⟨hknown, h.idle, spawned _ rfl⟩
  | ipUpdate => exact ⟨hknown, h.idle, spawned _ rfl⟩
  | @run task now answered htask =>
    have hidle : (s.run task now answered).dm.jobs.Idle d :=
      run_write.idle h.idle fun hs => h.unarmed task htask (Task.arms_of_schedules hs)
    refine ⟨hknown, hidle, fun u hu hd => ?_⟩
    cases mem_run_tasks hu with
    | inl hnew => exact h.unarmed task htask (hnew.arms h.known.established hd)
    | inr hold => exact h.unarmed u hold hd
  | @fire id job hjob =>
    refine ⟨hknown, h.idle.remove, List.forall_mem_cons.mpr ⟨fun hd => ?_, h.unarmed⟩⟩
    exact h.idle id ⟨job, hjob, Option.some.inj hd⟩
  | @delegate now devices => exact absurd rfl (he now devices)

end NodeState

namespace Cluster
open Transition World

namespace Server
variable {db : InnerDB} {sv : Server} {src : SocketAddr} {msg : ClusterMessage} {now : Int}
  {d : Uuid}

theorem handleMessage_established (h : db.Established d) :
    (handleMessage db sv src msg now).1.Established d := by
  cases handleMessage_cases db sv src msg now with
  | inl hreq =>
    obtain ⟨payload, heq, -, -⟩ := hreq
    rw [heq, handleDelegationRequest]
    split
    · exact h.accept
    · exact h
  | inr hother =>
    rcases hother with ⟨_, heq, -, -⟩ | ⟨heq, -, -⟩ | ⟨heq, -, -⟩
    all_goals
      rw [heq]
      exact h

theorem handleDelegationAccept_jobs (sv : Server) (payload : DelegateAcceptPayload) :
    (sv.handleDelegationAccept payload).dm.jobs = sv.dm.jobs := by
  rw [handleDelegationAccept, DeviceManager.foldl_removeScheduledDevice_jobs]
  exact congrArg Scheduler.jobScheduler (DeviceManager.releaseDevices_scheduler _ _)

/-- Only what a node takes over can get a job. -/
theorem handleMessage_idle (hd : d ∉ sv.gained msg) (h : sv.dm.jobs.Idle d) :
    (handleMessage db sv src msg now).2.1.dm.jobs.Idle d := by
  rcases handleMessage_cases db sv src msg now with
    ⟨payload, heq, -, hg⟩ | ⟨payload, heq, -, -⟩ | ⟨heq, -, -⟩ | ⟨heq, -, -⟩
  · rw [heq, handleDelegationRequest]
    split
    next hacc =>
      refine DeviceManager.foldl_acceptDevice_idle _ _ ?_ h
      rw [List.map_map]
      rw [hg, if_pos hacc] at hd
      exact hd
    next => exact h
  · rw [heq]
    exact (congrArg (JobScheduler.Idle · d) (handleDelegationAccept_jobs sv payload)).mpr h
  · rw [heq]
    exact h
  · rw [heq]
    exact h

end Server

/-- The cluster with the tasks of every node. `away a` are the devices whose
DELEGATE_ACCEPT node `a` has handled and that it has not taken over again. -/
structure Fleet where
  world : World
  tasks : SocketAddr → List Task
  away : SocketAddr → Finset Uuid

inductive FleetEvent where
  | task (a : SocketAddr) (e : NodeEvent)
  | world (e : WorldEvent)

namespace Fleet

def awayAfter (f : Fleet) : WorldEvent → SocketAddr → Finset Uuid
  | .deliver dg _ =>
    match f.world.node dg.dst with
    | none => f.away
    | some sv => Function.update f.away dg.dst
        ((f.away dg.dst \ (sv.gained dg.msg).toFinset) ∪ dg.msg.acceptedIds.toFinset)
  | _ => f.away

inductive Step : Fleet → FleetEvent → Fleet → Prop
  | task {f : Fleet} {a : SocketAddr} {e : NodeEvent} {sv sv' : Server} {db : InnerDB}
      {tasks : List Task} : f.world.node a = some sv → (∀ now devices, e ≠ .delegate now devices) →
      NodeState.Step ⟨f.world.db, sv.dm, f.tasks a⟩ e ⟨db, sv'.dm, tasks⟩ →
      Step f (.task a e)
        ⟨{ f.world.update a sv' [] with db }, Function.update f.tasks a tasks, f.away⟩
  | world {f : Fleet} {e : WorldEvent} {w : World} : f.world.Step e w →
      Step f (.world e) ⟨w, f.tasks, f.awayAfter e⟩

variable {f g : Fleet} {a : SocketAddr} {d : Uuid} {sv sv' : Server}

/-- Node `a` has nothing to do with the waking of device `d` any more. -/
structure Settled (f : Fleet) (a : SocketAddr) (d : Uuid) : Prop where
  established : f.world.db.Established d
  unregistered : ∀ b, ∀ task ∈ f.tasks b, task.registers ≠ some d
  idle : ∀ sv, f.world.node a = some sv → sv.dm.jobs.Idle d
  unarmed : ∀ task ∈ f.tasks a, task.arms ≠ some d

/-- An accept is handled only when the devices it names are settled already. -/
def Clean (f : Fleet) : FleetEvent → Prop
  | .world (.deliver dg _) => ∀ d ∈ dg.msg.acceptedIds, f.Settled dg.dst d
  | _ => True

/-- What node `b` becomes matters to node `a` only if they are the same. -/
theorem idle_update {node : SocketAddr → Option Server} {b : SocketAddr}
    (h : ∀ sv, node a = some sv → sv.dm.jobs.Idle d) (hb : a = b → sv'.dm.jobs.Idle d)
    (hsv : Function.update node b (some sv') a = some sv) : sv.dm.jobs.Idle d := by
  by_cases hab : a = b
  · subst hab
    rw [Function.update_self] at hsv
    exact Option.some.inj hsv ▸ hb rfl
  · rw [Function.update_of_ne hab] at hsv
    exact h sv hsv

theorem Settled.task {e : NodeEvent} {b : SocketAddr} {db : InnerDB} {tasks : List Task}
    (h : f.Settled a d) (hsv : f.world.node b = some sv)
    (he : ∀ now devices, e ≠ .delegate now devices)
    (hstep : NodeState.Step ⟨f.world.db, sv.dm, f.tasks b⟩ e ⟨db, sv'.dm, tasks⟩) :
    Settled ⟨{ f.world.update b sv' [] with db }, Function.update f.tasks b tasks, f.away⟩ a d := by
  have hknown : NodeState.Known ⟨f.world.db, sv.dm, f.tasks b⟩ d :=
    ⟨h.established, h.unregistered b⟩
  have hdormant : a = b → NodeState.Dormant ⟨db, sv'.dm, tasks⟩ d := by
    intro hab
    subst hab
    exact NodeState.Dormant.step ⟨hknown, h.idle sv hsv, h.unarmed⟩ hstep he
  refine ⟨(hknown.step hstep).established, fun c => ?_, fun sw hsw => ?_, ?_⟩
  · by_cases hc : c = b
    · subst hc
      simp only [Function.update_self]
      exact (hknown.step hstep).unregistered
    · simp only [Function.update_of_ne hc]
      exact h.unregistered c
  · exact idle_update h.idle (fun hab => (hdormant hab).idle) hsw
  · by_cases hab : a = b
    · subst hab
      simp only [Function.update_self]
      exact (hdormant rfl).unarmed
    · simp only [Function.update_of_ne hab]
      exact h.unarmed

/-- A step of the cluster that no task takes. -/
theorem Settled.of_world {w : World} {away : SocketAddr → Finset Uuid} (h : f.Settled a d)
    (hdb : w.db.Established d) (hidle : ∀ sv, w.node a = some sv → sv.dm.jobs.Idle d) :
    Settled ⟨w, f.tasks, away⟩ a d :=
  ⟨hdb, h.unregistered, hidle, h.unarmed⟩

/-- A node may change in everything but its devices. -/
theorem Settled.update {b : SocketAddr} {out : List Outgoing} {away : SocketAddr → Finset Uuid}
    (h : f.Settled a d) (hsv : f.world.node b = some sv) (hdm : sv'.dm = sv.dm) :
    Settled ⟨f.world.update b sv' out, f.tasks, away⟩ a d := by
  refine h.of_world h.established fun sw hsw => idle_update h.idle (fun hab => ?_) hsw
  rw [hdm]
  exact h.idle sv (hab ▸ hsv)

theorem Settled.receive {dg : Datagram} {now : Int} {away : SocketAddr → Finset Uuid}
    (h : f.Settled a d)
    (hgain : ∀ sv, f.world.node dg.dst = some sv → a = dg.dst → d ∉ sv.gained dg.msg) :
    Settled ⟨f.world.receive dg now, f.tasks, away⟩ a d := by
  cases hsv : f.world.node dg.dst with
  | none =>
    simp only [World.receive, hsv]
    exact h.of_world h.established h.idle
  | some sv =>
    simp only [World.receive, hsv]
    refine h.of_world (Server.handleMessage_established h.established)
      fun sw hsw => idle_update h.idle (fun hab => ?_) hsw
    exact Server.handleMessage_idle (hgain sv hsv hab) (h.idle sv (hab ▸ hsv))

/-- Handling a message keeps what is settled settled, and settles nothing that is
not settled before. -/
theorem settled_deliver {dg : Datagram} {now : Int} (h : ∀ a, ∀ d ∈ f.away a, f.Settled a d)
    (hguard : f.Clean (.world (.deliver dg now)))
    (hd : d ∈ f.awayAfter (.deliver dg now) a) :
    Settled ⟨f.world.receive dg now, f.tasks, f.awayAfter (.deliver dg now)⟩ a d := by
  cases hsv : f.world.node dg.dst with
  | none =>
    simp only [awayAfter, hsv] at hd ⊢
    exact (h a d hd).receive (fun sw hsw => by rw [hsv] at hsw; cases hsw)
  | some sv =>
    have hboth : f.Settled a d ∧ (a = dg.dst → d ∉ sv.gained dg.msg) := by
      by_cases ha : a = dg.dst
      · subst ha
        simp only [awayAfter, hsv, Function.update_self, Finset.mem_union, Finset.mem_sdiff,
          List.mem_toFinset] at hd
        cases hd with
        | inl hkept => exact ⟨h _ d hkept.1, fun _ => hkept.2⟩
        | inr hnew =>
          refine ⟨hguard d hnew, fun _ hgain => ?_⟩
          rw [Server.acceptedIds_eq_nil_of_gained hgain] at hnew
          cases hnew
      · simp only [awayAfter, hsv, Function.update_of_ne ha] at hd
        exact ⟨h a d hd, fun hab => absurd hab ha⟩
    refine hboth.1.receive fun sw hsw => ?_
    rw [← Option.some.inj (hsv.symm.trans hsw)]
    exact hboth.2

theorem settled_step {e : FleetEvent} (h : ∀ a, ∀ d ∈ f.away a, f.Settled a d)
    (hstep : Guarded Clean Step f e g) : ∀ a, ∀ d ∈ g.away a, g.Settled a d := by
  obtain ⟨hguard, hstep⟩ := hstep
  intro a d hd
  cases hstep with
  | task hsv he hnode => exact (h a d hd).task hsv he hnode
  | world hw =>
    cases hw with
    | request hsv _ hreq => exact (h a d hd).update hsv (Server.requestDelegation_eq_ok hreq).1
    | deliver _ => exact settled_deliver h hguard hd
    | duplicate _ => exact (h a d hd).of_world (h a d hd).established (h a d hd).idle
    | lose => exact (h a d hd).of_world (h a d hd).established (h a d hd).idle
    | learn hsv hdm => exact (h a d hd).update hsv hdm

/-- In every run in which accepts are handled only when the devices are settled, a
node has no job for a device that it has given away. -/
theorem no_job_after_delegation {es : List FleetEvent} (hstart : ∀ a, f.away a = ∅)
    (hrun : Run (Guarded Clean Step) f es g) (hsv : g.world.node a = some sv)
    (hd : d ∈ g.away a) (id : JobId) : ¬ sv.dm.jobs.Pending d id := by
  have hinit : ∀ a, ∀ d ∈ f.away a, f.Settled a d := by
    intro b e he
    rw [hstart b] at he
    cases he
  have hinv := Run.invariant (fun f : Fleet => ∀ a, ∀ d ∈ f.away a, f.Settled a d)
    (fun _ _ _ h hstep => settled_step h hstep) hrun hinit
  exact (hinv a d hd).idle sv hsv id

/- Node 1 hands device 9 over to node 2. `sv` is node 1, and the three states are
   before the request, after it, and when node 2 has accepted. -/
def handover (sv : Server) : Fleet where
  world := { World.pairWorld with node := Function.update World.pairWorld.node homeAddr (some sv) }
  tasks _ := []
  away _ := ∅

def handoverAsked (sv : Server) : Fleet :=
  { handover sv with
    world := (handover sv).world.update homeAddr sv.nextSeq [(peerAddr, pairRequest.msg)] }

def handoverAccepted (sv : Server) : Fleet :=
  ⟨(handoverAsked sv).world.receive pairRequest 0, fun _ => [],
    (handoverAsked sv).awayAfter (.deliver pairRequest 0)⟩

def handedOver (sv : Server) : Fleet :=
  ⟨(handoverAccepted sv).world.receive pairAccept 0, fun _ => [],
    (handoverAccepted sv).awayAfter (.deliver pairAccept 0)⟩

def giver : Server := pairServer.nextSeq.handleDelegationAccept ⟨[9]⟩

theorem no_job_after_delegation_pair :
    9 ∈ (handedOver pairServer).away homeAddr ∧ ¬ giver.dm.jobs.Pending 9 0 := by
  have hask : Guarded Clean Step (handover pairServer)
      (.world (.request homeAddr [] 0 [soleDevice] .rebalance (some 2)))
      (handoverAsked pairServer) := ⟨trivial, .world (.request rfl nofun rfl)⟩
  have haccept : Guarded Clean Step (handoverAsked pairServer)
      (.world (.deliver pairRequest 0)) (handoverAccepted pairServer) :=
    ⟨fun _ hd => absurd hd List.not_mem_nil, .world (.deliver (by decide +kernel))⟩
  have hsettled : (handoverAccepted pairServer).Settled homeAddr 9 := by
    refine ⟨⟨fun row hrow => (nomatch hrow), by decide +kernel⟩, fun _ _ h => (nomatch h),
      fun sv hsv id hp => ?_, fun _ h => (nomatch h)⟩
    obtain ⟨job, hjob, -⟩ := hp
    cases hsv
    cases hjob
  have hrelease : Guarded Clean Step (handoverAccepted pairServer)
      (.world (.deliver pairAccept 0)) (handedOver pairServer) :=
    ⟨fun d hd => List.mem_singleton.mp hd ▸ hsettled, .world (.deliver (by decide +kernel))⟩
  have hgiven : 9 ∈ (handedOver pairServer).away homeAddr := by decide +kernel
  exact ⟨hgiven, no_job_after_delegation (f := handover pairServer) (fun _ => rfl)
    (.cons hask (.cons haccept (.single hrelease))) rfl hgiven 0⟩

/-- Node 1 has taken device 9 over from somebody else, and has a job for it. -/
def armedServer : Server where
  membership := pairServer.membership
  dm := (pairServer.dm.acceptDelegation InnerDB.new 0 [⟨9, none, none, 3600000000000⟩]).2.1
  localNodeId_dm := pairServer.localNodeId_dm

/-- The job stays when the device goes. -/
theorem job_left_after_delegation :
    ¬ ∀ es g a sv d id, Run Step (handover armedServer) es g → g.world.node a = some sv →
      d ∈ g.away a → ¬ sv.dm.jobs.Pending d id := by
  intro h
  have hask : Step (handover armedServer)
      (.world (.request homeAddr [] 0 [soleDevice] .rebalance (some 2)))
      (handoverAsked armedServer) := .world (.request rfl nofun rfl)
  have haccept : Step (handoverAsked armedServer) (.world (.deliver pairRequest 0))
      (handoverAccepted armedServer) := .world (.deliver (by decide +kernel))
  have hrelease : Step (handoverAccepted armedServer) (.world (.deliver pairAccept 0))
      (handedOver armedServer) := .world (.deliver (by decide +kernel))
  refine h _ _ homeAddr _ 9 0 (.cons hask (.cons haccept (.single hrelease))) rfl
    (by decide +kernel) ⟨_, rfl, rfl⟩

end Fleet

end Cluster

end HeadEnd
