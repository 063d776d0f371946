import HeadEnd.Cluster.Acceptance
import HeadEnd.Cluster.Rebalance

/-! A node keeps its devices in two sets, that of the device manager and, in cluster mode,
that of the scheduler. Which operations keep them equal. -/
namespace HeadEnd.Cluster
open Transition DeviceManager

/-- A running node. Between `ClusterManager::start` and `enable_cluster_mode` it holds a
snapshot of the owned set. -/
structure OwnershipState where
  db : InnerDB
  dm : DeviceManager
  snapshot : Option (Finset Uuid)

/-- The operations, each with the point at which it fails if it does. -/
inductive OwnershipEvent (F : Type) where
  | registerDevice (now : Int) (device : Device) (fails : Bool)
  | acceptDelegation (now : Int) (fault : AcceptFault) (devices : List DelegatedDevice)
  | handleDelegationAccept (deviceIds : List Uuid)
  | redistributeFromFailed (fails : DbCall → Bool) (failed : Uuid) (others : List (Uuid × Nat))
      (orphaned : List Uuid)
  | rebalanceCluster (fl : LoadFigures F) (fails : DbCall → Bool) (others : List (NodeLoad F))
      (localMax : Nat) (owned : List Uuid)
  | getOwnedDevices
  | enableClusterMode

namespace OwnershipState
variable {F : Type}

/-- A list in an event is what the set it stands for is iterated as. -/
def Allows (s : OwnershipState) : OwnershipEvent F → Prop
  | .redistributeFromFailed _ failed _ orphaned => Lists orphaned (s.db.getDevicesByOwner failed)
  | .rebalanceCluster _ _ _ _ owned => Lists owned s.dm.ownedDevices
  | .enableClusterMode => s.snapshot.isSome
  | _ => True

def enableClusterMode (s : OwnershipState) : OwnershipState :=
  match s.snapshot with
  | none => s
  | some owned =>
    { s with dm := { s.dm with scheduler := { s.dm.scheduler with ownedDevices := some owned } } }

def apply (s : OwnershipState) : OwnershipEvent F → OwnershipState
  | .registerDevice now device fails =>
    if fails then s
    else
      match s.dm.registerDevice s.db now device with
      | .error _ => s
      | .ok (db, dm, _) => { s with db, dm }
  | .acceptDelegation now fault devices =>
    let r := acceptDevices now fault devices (s.db, s.dm)
    { s with db := r.2.1, dm := r.2.2 }
  | .handleDelegationAccept deviceIds =>
    { s with dm := deviceIds.foldl removeScheduledDevice (s.dm.releaseDevices deviceIds) }
  | .redistributeFromFailed fails _ others orphaned =>
    let r := redistributeOrphans fails s.db s.dm others orphaned
    { s with db := r.2.1, dm := r.2.2 }
  | .rebalanceCluster fl fails others localMax owned =>
    let r := fl.rebalanceCluster fails s.db s.dm others localMax owned
    { s with db := r.db, dm := r.dm }
  | .getOwnedDevices => { s with snapshot := some s.dm.ownedDevices }
  | .enableClusterMode => s.enableClusterMode

def Step (s : OwnershipState) (e : OwnershipEvent F) (t : OwnershipState) : Prop :=
  s.Allows e ∧ t = s.apply e

/-- In cluster mode the two sets are the same. -/
def Agree (s : OwnershipState) : Prop :=
  ∀ owned, s.dm.scheduler.ownedDevices = some owned → owned = s.dm.ownedDevices

/-- What keeps the sets equal. Outside cluster mode everything does but turning it on with
a snapshot that is out of date. -/
def Harmless (s : OwnershipState) : OwnershipEvent F → Prop
  | .registerDevice _ device fails =>
    s.dm.scheduler.ownedDevices = none ∨ fails = true ∨
      ¬ (s.dm.scheduler.testMode = true ∨ 0 < s.dm.scheduler.bucketNumber) ∨
      device.id ∈ s.dm.ownedDevices
  | .acceptDelegation _ fault devices =>
    s.dm.scheduler.ownedDevices = none ∨
      ∀ d ∈ claimed fault (devices.map DelegatedDevice.deviceId),
        d ∈ s.dm.ownedDevices ∨ d ∈ completed fault (devices.map DelegatedDevice.deviceId)
  | .handleDelegationAccept _ => True
  | .redistributeFromFailed fails _ others orphaned =>
    s.dm.scheduler.ownedDevices = none ∨
      ∀ d, (d, s.dm.localNodeId) ∈ updatesMade fails (redistributionPlan
        (allNodes s.dm.localNodeId s.dm.ownedDevices.card others) orphaned) →
        d ∈ s.dm.ownedDevices
  | .rebalanceCluster fl fails others localMax owned =>
    s.dm.scheduler.ownedDevices = none ∨
      updatesMade fails (fl.plan s.dm others localMax owned) = []
  | .getOwnedDevices => True
  | .enableClusterMode => s.snapshot = some s.dm.ownedDevices

section Step
variable {s t : OwnershipState}

/-- If the scheduler's set changes by `g`, the sets stay equal outside cluster mode and
where `g` is what happens to the other set. -/
theorem agree_iff_of_map (h : s.Agree) (g : Finset Uuid → Finset Uuid)
    (hmap : t.dm.scheduler.ownedDevices = s.dm.scheduler.ownedDevices.map g) :
    t.Agree ↔ s.dm.scheduler.ownedDevices = none ∨ g s.dm.ownedDevices = t.dm.ownedDevices := by
  unfold Agree
  rw [hmap]
  cases howned : s.dm.scheduler.ownedDevices with
  | none => simp
  | some owned =>
    have heq := h owned howned
    subst heq
    simp

/-- The scheduler's set does not change. -/
theorem agree_iff_of_eq (h : s.Agree)
    (hsame : t.dm.scheduler.ownedDevices = s.dm.scheduler.ownedDevices) :
    t.Agree ↔ s.dm.scheduler.ownedDevices = none ∨ s.dm.ownedDevices = t.dm.ownedDevices := by
  rw [agree_iff_of_map h id (by rw [hsame, Option.map_id, id]), id]

theorem agree_registerDevice_iff (h : s.Agree) (now : Int) (device : Device) (fails : Bool) :
    (s.apply (.registerDevice now device fails : OwnershipEvent F)).Agree ↔
      s.Harmless (.registerDevice now device fails : OwnershipEvent F) := by
  cases fails with
  | true => exact ⟨fun _ => .inr (.inl rfl), fun _ => h⟩
  | false =>
    rw [apply, if_neg Bool.false_ne_true, Harmless]
    cases hr : s.dm.registerDevice s.db now device with
    | error e =>
      exact ⟨fun _ => .inr (.inr (.inl (not_registers_of_error hr))), fun _ => h⟩
    | ok r =>
      obtain ⟨db', dm', wake⟩ := r
      have hok := (exists_registerDevice_iff s.db s.dm now device).mp ⟨_, hr⟩
      obtain ⟨-, rfl, -⟩ := registerDevice_eq_ok hr
      have hsame := agree_iff_of_eq (t := ⟨db',
        { s.dm with ownedDevices := insert device.id s.dm.ownedDevices }, s.snapshot⟩) h rfl
      refine hsame.trans (or_congr_right ?_)
      rw [eq_comm, Finset.insert_eq_self]
      simp [hok]

theorem agree_acceptDelegation_iff (h : s.Agree) (now : Int) (fault : AcceptFault)
    (devices : List DelegatedDevice) :
    (s.apply (.acceptDelegation now fault devices : OwnershipEvent F)).Agree ↔
      s.Harmless (.acceptDelegation now fault devices : OwnershipEvent F) := by
  rw [agree_iff_of_map h _ (acceptDevices_scheduler fault devices (s.db, s.dm)), Harmless]
  refine or_congr_right ?_
  have howned : (s.apply
      (.acceptDelegation now fault devices : OwnershipEvent F)).dm.ownedDevices =
      s.dm.ownedDevices ∪
        (claimed fault (devices.map DelegatedDevice.deviceId)).toFinset := by
    rw [apply, ← map_claimed, ← foldl_acceptDevice_ownedDevices now (s.db, s.dm)]
    exact (acceptDevices_claimed fault devices (s.db, s.dm)).2
  rw [howned, map_completed]
  constructor
  · intro heq d hd
    have hmem : d ∈ s.dm.ownedDevices ∪
        (completed fault (devices.map DelegatedDevice.deviceId)).toFinset := by
      rw [heq, Finset.mem_union, List.mem_toFinset]
      exact .inr hd
    rw [Finset.mem_union, List.mem_toFinset] at hmem
    exact hmem
  · intro hall
    ext d
    simp only [Finset.mem_union, List.mem_toFinset]
    exact ⟨fun hd => hd.imp_right mem_claimed_of_mem_completed, fun hd => hd.elim .inl (hall d)⟩

theorem agree_handleDelegationAccept (h : s.Agree) (deviceIds : List Uuid) :
    (s.apply (.handleDelegationAccept deviceIds : OwnershipEvent F)).Agree := by
  refine (agree_iff_of_map h (· \ deviceIds.toFinset) ?_).mpr (.inr ?_)
  · rw [apply, foldl_removeScheduledDevice_scheduler, releaseDevices_scheduler]
  · rw [apply, foldl_removeScheduledDevice_ownedDevices, releaseDevices_ownedDevices]

theorem agree_redistributeFromFailed_iff (h : s.Agree) (fails : DbCall → Bool) (failed : Uuid)
    (others : List (Uuid × Nat)) (orphaned : List Uuid) :
    (s.apply (.redistributeFromFailed fails failed others orphaned : OwnershipEvent F)).Agree ↔
      s.Harmless (.redistributeFromFailed fails failed others orphaned : OwnershipEvent F) := by
  have hst := redistributeOrphans_snd fails s.db s.dm others orphaned
  have hscheduler : (s.apply (.redistributeFromFailed fails failed others orphaned :
      OwnershipEvent F)).dm.scheduler = s.dm.scheduler := by
    rw [apply, hst]
    exact foldl_assignOrphan_scheduler _ _
  rw [agree_iff_of_eq h (congrArg Scheduler.ownedDevices hscheduler), Harmless]
  refine or_congr_right ?_
  rw [apply, hst, Finset.ext_iff]
  simp only [mem_foldl_assignOrphan]
  exact ⟨fun heq d hd => (heq d).mpr (.inl hd), fun hall d => ⟨.inr, fun hd => hd.elim (hall d) id⟩⟩

theorem agree_rebalanceCluster_iff (h : s.Agree) (fl : LoadFigures F) (fails : DbCall → Bool)
    (others : List (NodeLoad F)) (localMax : Nat) {owned : List Uuid}
    (howned : Lists owned s.dm.ownedDevices) :
    (s.apply (.rebalanceCluster fl fails others localMax owned)).Agree ↔
      s.Harmless (.rebalanceCluster fl fails others localMax owned) := by
  have hdm : (s.apply (.rebalanceCluster fl fails others localMax owned)).dm =
      ((updatesMade fails (fl.plan s.dm others localMax owned)).foldl giveDevice
        (s.db, s.dm)).2 := by
    rw [apply, LoadFigures.rebalanceCluster_eq]
    rfl
  have hscheduler : (s.apply (.rebalanceCluster fl fails others localMax owned)).dm.scheduler =
      s.dm.scheduler := by
    rw [hdm, foldl_giveDevice_scheduler]
  rw [agree_iff_of_eq h (congrArg Scheduler.ownedDevices hscheduler), Harmless]
  refine or_congr_right ?_
  rw [hdm, foldl_giveDevice_owned]
  constructor
  · intro heq
    refine List.eq_nil_iff_forall_not_mem.mpr fun p hp => ?_
    have hmine := LoadFigures.owned_of_mem_plan howned (updatesMade_sublist.subset hp)
    rw [heq, Finset.mem_sdiff, List.mem_toFinset] at hmine
    exact hmine.2 (List.mem_map_of_mem hp)
  · intro hnone
    rw [hnone]
    simp

theorem agree_enableClusterMode_iff (hsome : s.snapshot.isSome) :
    (s.apply (.enableClusterMode : OwnershipEvent F)).Agree ↔
      s.Harmless (.enableClusterMode : OwnershipEvent F) := by
  obtain ⟨owned, howned⟩ := Option.isSome_iff_exists.mp hsome
  simp [apply, enableClusterMode, Agree, Harmless, howned]

/-- One step from a state in which the sets agree. -/
theorem agree_step_iff {e : OwnershipEvent F} (h : s.Agree) (hstep : s.Step e t) :
    t.Agree ↔ s.Harmless e := by
  obtain ⟨hallows, rfl⟩ := hstep
  cases e with
  | registerDevice now device fails => exact agree_registerDevice_iff h now device fails
  | acceptDelegation now fault devices => exact agree_acceptDelegation_iff h now fault devices
  | handleDelegationAccept deviceIds =>
    exact iff_of_true (agree_handleDelegationAccept h deviceIds) trivial
  | redistributeFromFailed fails failed others orphaned =>
    exact agree_redistributeFromFailed_iff h fails failed others orphaned
  | rebalanceCluster fl fails others localMax owned =>
    exact agree_rebalanceCluster_iff h fl fails others localMax hallows
  | getOwnedDevices => exact iff_of_true h trivial
  | enableClusterMode => exact agree_enableClusterMode_iff hallows

end Step

/-- In a run from the start of a node the two sets agree after every operation, exactly if
every operation of the run is harmless where it is made. -/
theorem ownership_sets_agree_iff {s t : OwnershipState} {es : List (OwnershipEvent F)}
    (hstart : s.dm.scheduler.ownedDevices = none) (hrun : Run Step s es t) :
    (∀ before after u, es = before ++ after → Run Step s before u → u.Agree) ↔
      Run (Guarded Harmless Step) s es t := by
  have hagree : s.Agree := by
    intro owned howned
    rw [hstart] at howned
    cases howned
  have hdet : ∀ (s : OwnershipState) (e : OwnershipEvent F) t u, s.Step e t → s.Step e u → t = u :=
    fun s e t u ht hu => ht.2.trans hu.2.symm
  exact hrun.forall_good_iff_guarded hdet (fun s e t => agree_step_iff) hagree

/- Node 1 starts without devices, in test mode; device 9 is on record for node 2. -/
def startingNode : OwnershipState where
  db := InnerDB.new.addDeviceToBucket 9 0 2
  dm := ⟨1, ∅, ⟨1, .empty, none, 1, true⟩⟩
  snapshot := none

def startUp : List (OwnershipEvent Nat) := [.getOwnedDevices, .enableClusterMode]

def startedNode : OwnershipState where
  db := startingNode.db
  dm := ⟨1, ∅, ⟨1, .empty, some ∅, 1, true⟩⟩
  snapshot := some ∅

theorem startUp_run : Run (Guarded Harmless Step) startingNode startUp startedNode := by
  have hlast : Guarded Harmless Step { startingNode with snapshot := some ∅ }
      (.enableClusterMode : OwnershipEvent Nat) startedNode := ⟨rfl, rfl, rfl⟩
  exact .cons ⟨trivial, trivial, rfl⟩ (.single hlast)

/-- A node starts and takes device 9 over: both sets then have it. -/
theorem ownership_sets_agree_start :
    (startedNode.apply
      (.acceptDelegation 0 none [World.soleDevice] : OwnershipEvent Nat)).Agree := by
  have hguarded : Run (Guarded Harmless Step) startingNode
      (startUp ++ [.acceptDelegation 0 none [World.soleDevice]]) _ :=
    startUp_run.append (.single ⟨.inr fun d hd => .inr hd, trivial, rfl⟩)
  exact (ownership_sets_agree_iff rfl hguarded.of_guarded).mpr hguarded _ [] _
    (List.append_nil _).symm hguarded.of_guarded

/-- A meter that registers in cluster mode is in one set only. -/
theorem ownership_sets_differ :
    ¬ ∀ (s t : OwnershipState) (es : List (OwnershipEvent Nat)),
      s.dm.scheduler.ownedDevices = none → Run Step s es t → t.Agree := by
  intro h
  have hregister : startedNode.Step
      (.registerDevice 0 ⟨9, none, none, none⟩ false : OwnershipEvent Nat) _ := ⟨trivial, rfl⟩
  have hagree := h startingNode _ _ rfl (startUp_run.of_guarded.append (.single hregister))
  have hharmless := (agree_registerDevice_iff (F := Nat) (fun _ heq => ?_) 0 _ false).mp hagree
  · simp [Harmless, startedNode] at hharmless
  · cases heq
    rfl

end OwnershipState

end HeadEnd.Cluster
