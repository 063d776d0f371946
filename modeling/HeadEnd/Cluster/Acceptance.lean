import HeadEnd.Cluster.DelegationLoss

/-! A delegation request that is processed while a call to the database or the scheduler
fails: what was taken over by then, and what is acknowledged. -/
namespace HeadEnd.Cluster
open DeviceManager

/-- The calls made for each device, in their order. Creating the job fails, among others, for a
year that the cron library refuses. -/
inductive AcceptCall where
  | setDeviceOwner
  | createWakeupJob
  | scheduleConnection
  deriving DecidableEq, Repr

/-- The point at which a call fails: the place of the device and the call. -/
abbrev AcceptFault := Option (Nat × AcceptCall)

/-- One round of `accept_delegation` up to the call that fails. A job that was created
stays, but the scheduler does not count the device as its own. -/
def acceptUpTo (now : Int) (call : AcceptCall) (st : InnerDB × DeviceManager)
    (device : DelegatedDevice) : InnerDB × DeviceManager :=
  match call with
  | .setDeviceOwner => st
  | .createWakeupJob =>
    (st.1.setDeviceOwner device.deviceId st.2.localNodeId,
      { st.2 with ownedDevices := insert device.deviceId st.2.ownedDevices })
  | .scheduleConnection =>
    (st.1.setDeviceOwner device.deviceId st.2.localNodeId,
      { st.2 with
        ownedDevices := insert device.deviceId st.2.ownedDevices
        scheduler := (st.2.scheduler.createWakeupJob now device.deviceId device.scheduleTime).1 })

/-- `accept_delegation`, and whether it returned `Ok`. -/
def acceptDevices (now : Int) : AcceptFault → List DelegatedDevice → InnerDB × DeviceManager →
    Bool × InnerDB × DeviceManager
  | _, [], st => (true, st)
  | none, device :: rest, st => acceptDevices now none rest (acceptDevice now st device)
  | some (0, call), device :: _, st => (false, acceptUpTo now call st device)
  | some (i + 1, call), device :: rest, st =>
    acceptDevices now (some (i, call)) rest (acceptDevice now st device)

/-- The devices whose owner update comes before the call that fails. -/
def claimed {α : Type} (fault : AcceptFault) (l : List α) : List α :=
  match fault with
  | none => l
  | some (i, .setDeviceOwner) => l.take i
  | some (i, _) => l.take (i + 1)

/-- The devices for which no call fails. -/
def completed {α : Type} (fault : AcceptFault) (l : List α) : List α :=
  match fault with
  | none => l
  | some (i, _) => l.take i

section Accept
variable {fault : AcceptFault} {devices : List DelegatedDevice} {now : Int}

theorem acceptUpTo_localNodeId (call : AcceptCall) (st : InnerDB × DeviceManager)
    (device : DelegatedDevice) :
    (acceptUpTo now call st device).2.localNodeId = st.2.localNodeId := by
  cases call <;> rfl

theorem acceptDevices_localNodeId (fault : AcceptFault) (devices : List DelegatedDevice)
    (st : InnerDB × DeviceManager) :
    (acceptDevices now fault devices st).2.2.localNodeId = st.2.localNodeId := by
  induction devices generalizing fault st with
  | nil => rfl
  | cons device rest ih =>
    cases fault with
    | none => exact ih none _
    | some p =>
      obtain ⟨i, call⟩ := p
      cases i with
      | zero => exact acceptUpTo_localNodeId call st device
      | succ i => exact ih (some (i, call)) _

theorem acceptDevices_none (devices : List DelegatedDevice) (st : InnerDB × DeviceManager) :
    acceptDevices now none devices st = (true, devices.foldl (acceptDevice now) st) := by
  induction devices generalizing st with
  | nil => rfl
  | cons device rest ih => exact ih _

/-- It fails exactly if the list reaches the point of the fault. -/
theorem acceptDevices_fst (fault : AcceptFault) (devices : List DelegatedDevice)
    (st : InnerDB × DeviceManager) :
    (acceptDevices now fault devices st).1 = true ↔ ∀ i call, fault = some (i, call) →
      devices.length ≤ i := by
  induction devices generalizing fault st with
  | nil => simp [acceptDevices]
  | cons device rest ih =>
    cases fault with
    | none => simp [acceptDevices_none]
    | some p =>
      obtain ⟨i, call⟩ := p
      cases i with
      | zero => simp [acceptDevices]
      | succ i =>
        rw [acceptDevices, ih]
        simp

/-- Owners and owned set are those of a full acceptance of the claimed devices. -/
theorem acceptDevices_claimed (fault : AcceptFault) (devices : List DelegatedDevice)
    (st : InnerDB × DeviceManager) :
    (∀ d, (acceptDevices now fault devices st).2.1.owner d =
        ((claimed fault devices).foldl (acceptDevice now) st).1.owner d) ∧
      (acceptDevices now fault devices st).2.2.ownedDevices =
        ((claimed fault devices).foldl (acceptDevice now) st).2.ownedDevices := by
  induction devices generalizing fault st with
  | nil =>
    have hnil : claimed fault ([] : List DelegatedDevice) = [] := by
      unfold claimed
      split <;> simp
    rw [hnil]
    exact ⟨fun _ => rfl, rfl⟩
  | cons device rest ih =>
    cases fault with
    | none => exact ih none _
    | some p =>
      obtain ⟨i, call⟩ := p
      cases i with
      | zero => cases call <;> exact ⟨fun _ => rfl, rfl⟩
      | succ i =>
        have htail : claimed (some (i + 1, call)) (device :: rest) =
            device :: claimed (some (i, call)) rest := by
          cases call <;> rfl
        rw [htail]
        exact ih (some (i, call)) _

/-- The scheduler counts only those as its own for which no call failed. -/
theorem acceptDevices_scheduler (fault : AcceptFault) (devices : List DelegatedDevice)
    (st : InnerDB × DeviceManager) :
    (acceptDevices now fault devices st).2.2.scheduler.ownedDevices =
      st.2.scheduler.ownedDevices.map
        (· ∪ ((completed fault devices).map DelegatedDevice.deviceId).toFinset) := by
  induction devices generalizing fault st with
  | nil =>
    have hnil : completed fault ([] : List DelegatedDevice) = [] := by
      unfold completed
      split <;> simp
    rw [hnil]
    simp [acceptDevices]
  | cons device rest ih =>
    have hround : ∀ rounds : List DelegatedDevice,
        (acceptDevice now st device).2.scheduler.ownedDevices.map
            (· ∪ (rounds.map DelegatedDevice.deviceId).toFinset) =
          st.2.scheduler.ownedDevices.map
            (· ∪ ((device :: rounds).map DelegatedDevice.deviceId).toFinset) := by
      intro rounds
      have hadd : (acceptDevice now st device).2.scheduler.ownedDevices =
          st.2.scheduler.ownedDevices.map (insert device.deviceId) := rfl
      rw [hadd, Option.map_map]
      refine congrArg (Option.map · _) (funext fun owned => ?_)
      ext d
      simp only [Function.comp_apply, Finset.mem_union, Finset.mem_insert, List.mem_toFinset,
        List.map_cons, List.mem_cons]
      tauto
    cases fault with
    | none => exact (ih none _).trans (hround rest)
    | some p =>
      obtain ⟨i, call⟩ := p
      cases i with
      | zero =>
        cases call <;> simp [acceptDevices, acceptUpTo, completed, Scheduler.createWakeupJob]
      | succ i => exact (ih (some (i, call)) _).trans (hround _)

end Accept

/-- What is left when a request has been handled. -/
structure Handled where
  db : InnerDB
  server : Server
  sent : List Outgoing
  ok : Bool

namespace Server

/-- `handle_delegation_request` with a call that may fail. The error is returned before
an answer is sent. -/
def handleRequestWithFault (fault : AcceptFault) (db : InnerDB) (sv : Server)
    (fromAddr : SocketAddr) (payload : DelegateRequestPayload) (now : Int) : Handled :=
  if sv.canAccept payload.reason then
    let r := acceptDevices now fault (payload.devices.map ofPayload) (db, sv.dm)
    let acceptedIds := payload.devices.map DelegatedDevicePayload.deviceId
    { db := r.2.1
      server :=
        { membership := sv.membership.nextSeq
          dm := r.2.2
          localNodeId_dm := (acceptDevices_localNodeId _ _ _).trans sv.localNodeId_dm }
      sent := if r.1 then
          [(fromAddr, sv.message .delegateAccept (.delegateAccept ⟨acceptedIds⟩) now)]
        else []
      ok := r.1 }
  else
    { db
      server := sv.nextSeq
      sent := [(fromAddr, sv.message .delegateReject (.delegateReject ⟨rejectText⟩) now)]
      ok := true }

/-- Without a fault this is what the node does. -/
theorem handleRequestWithFault_none (db : InnerDB) (sv : Server) (fromAddr : SocketAddr)
    (payload : DelegateRequestPayload) (now : Int) :
    let h := handleRequestWithFault none db sv fromAddr payload now
    (h.db, h.server, h.sent) = handleDelegationRequest db sv fromAddr payload now := by
  unfold handleRequestWithFault handleDelegationRequest
  by_cases hacc : sv.canAccept payload.reason = true
  · simp only [if_pos hacc, acceptDevices_none, acceptDelegation, if_true, List.map_map]
    rfl
  · simp only [if_neg hacc]

end Server

/-- The devices listed in the acceptance, if one was sent. -/
def Handled.acknowledged (h : Handled) : List Uuid := h.sent.flatMap fun o => o.2.acceptedIds

/-- Owner and owned set were changed to this node. -/
def Handled.TakenOver (h : Handled) (db : InnerDB) (sv : Server) (d : Uuid) : Prop :=
  (db.owner d ≠ some sv.dm.localNodeId ∧ h.db.owner d = some sv.dm.localNodeId) ∧
    d ∉ sv.dm.ownedDevices ∧ d ∈ h.server.dm.ownedDevices

/-- On record for another node, and not in the owned set. -/
def Foreign (db : InnerDB) (sv : Server) (d : Uuid) : Prop :=
  (∃ o, db.owner d = some o ∧ o ≠ sv.dm.localNodeId) ∧ d ∉ sv.dm.ownedDevices

/-- The fault is met while `n` devices are processed. -/
def Meets (fault : AcceptFault) (n : Nat) : Prop := ∃ i call, fault = some (i, call) ∧ i < n

section Result
variable {fault : AcceptFault} {db : InnerDB} {sv : Server} {fromAddr : SocketAddr}
  {payload : DelegateRequestPayload} {now : Int} {d : Uuid}

theorem map_claimed {α β : Type} (f : α → β) (fault : AcceptFault) (l : List α) :
    (claimed fault l).map f = claimed fault (l.map f) := by
  unfold claimed
  split
  · rfl
  · rw [List.map_take]
  · rw [List.map_take]

theorem map_completed {α β : Type} (f : α → β) (fault : AcceptFault) (l : List α) :
    (completed fault l).map f = completed fault (l.map f) := by
  unfold completed
  split
  · rfl
  · rw [List.map_take]

theorem mem_claimed_of_mem_completed {α : Type} {l : List α} {a : α}
    (h : a ∈ completed fault l) : a ∈ claimed fault l := by
  cases fault with
  | none => exact h
  | some p =>
    obtain ⟨i, call⟩ := p
    have hnext : a ∈ l.take (i + 1) := (List.take_sublist_take_left (Nat.le_succ i)).subset h
    cases call with
    | setDeviceOwner => exact h
    | createWakeupJob => exact hnext
    | scheduleConnection => exact hnext

theorem claimed_eq_self {α : Type} {l : List α} (h : ¬ Meets fault l.length) :
    claimed fault l = l := by
  unfold claimed
  split
  next => rfl
  next i => exact List.take_of_length_le (Nat.le_of_not_lt fun hlt => h ⟨i, _, rfl, hlt⟩)
  next i call _ =>
    have hle : l.length ≤ i := Nat.le_of_not_lt fun hlt => h ⟨i, call, rfl, hlt⟩
    exact List.take_of_length_le (hle.trans (Nat.le_succ i))

theorem mem_of_mem_claimed {α : Type} {l : List α} {a : α} (h : a ∈ claimed fault l) : a ∈ l := by
  unfold claimed at h
  split at h
  · exact h
  · exact List.mem_of_mem_take h
  · exact List.mem_of_mem_take h

theorem map_deviceId_ofPayload (ps : List DelegatedDevicePayload) :
    (ps.map ofPayload).map DelegatedDevice.deviceId =
      ps.map DelegatedDevicePayload.deviceId := by
  rw [List.map_map]
  rfl

theorem handleRequestWithFault_ownedDevices (hacc : sv.canAccept payload.reason = true) :
    (Server.handleRequestWithFault fault db sv fromAddr payload now).server.dm.ownedDevices =
      sv.dm.ownedDevices ∪
        (claimed fault (payload.devices.map DelegatedDevicePayload.deviceId)).toFinset := by
  simp only [Server.handleRequestWithFault, if_pos hacc]
  rw [(acceptDevices_claimed fault _ (db, sv.dm)).2, foldl_acceptDevice_ownedDevices, map_claimed,
    map_deviceId_ofPayload]

theorem handleRequestWithFault_owner (hacc : sv.canAccept payload.reason = true)
    (hd : d ∈ claimed fault (payload.devices.map DelegatedDevicePayload.deviceId)) :
    (Server.handleRequestWithFault fault db sv fromAddr payload now).db.owner d =
      (db.owner d).map fun _ => sv.dm.localNodeId := by
  rw [← map_deviceId_ofPayload, ← map_claimed] at hd
  simp only [Server.handleRequestWithFault, if_pos hacc]
  rw [(acceptDevices_claimed fault _ (db, sv.dm)).1]
  exact foldl_acceptDevice_owner_of_mem now (db, sv.dm) hd

theorem handleRequestWithFault_owner_of_notMem (hacc : sv.canAccept payload.reason = true)
    (hd : d ∉ claimed fault (payload.devices.map DelegatedDevicePayload.deviceId)) :
    (Server.handleRequestWithFault fault db sv fromAddr payload now).db.owner d = db.owner d := by
  rw [← map_deviceId_ofPayload, ← map_claimed] at hd
  simp only [Server.handleRequestWithFault, if_pos hacc]
  rw [(acceptDevices_claimed fault _ (db, sv.dm)).1]
  exact foldl_acceptDevice_owner_of_notMem _ _ hd

/-- What a request takes over are the claimed devices that were another node's. -/
theorem takenOver_iff (hacc : sv.canAccept payload.reason = true) :
    (Server.handleRequestWithFault fault db sv fromAddr payload now).TakenOver db sv d ↔
      d ∈ claimed fault (payload.devices.map DelegatedDevicePayload.deviceId) ∧
        Foreign db sv d := by
  rw [Handled.TakenOver, handleRequestWithFault_ownedDevices hacc, Finset.mem_union,
    List.mem_toFinset]
  constructor
  · intro ⟨⟨hbefore, hafter⟩, hfree, hmem⟩
    have hin := hmem.resolve_left hfree
    rw [handleRequestWithFault_owner hacc hin] at hafter
    obtain ⟨o, ho, -⟩ := Option.map_eq_some_iff.mp hafter
    refine ⟨hin, ⟨o, ho, fun heq => hbefore ?_⟩, hfree⟩
    rw [ho, heq]
  · intro ⟨hin, ⟨o, ho, hne⟩, hfree⟩
    refine ⟨⟨?_, ?_⟩, hfree, .inr hin⟩
    · rw [ho]
      exact fun heq => hne (Option.some_injective _ heq)
    · rw [handleRequestWithFault_owner hacc hin, ho]
      rfl

theorem not_takenOver_of_rejected (hacc : ¬ sv.canAccept payload.reason = true) :
    ¬ (Server.handleRequestWithFault fault db sv fromAddr payload now).TakenOver db sv d := by
  intro h
  simp only [Handled.TakenOver, Server.handleRequestWithFault, if_neg hacc] at h
  exact h.1.1 h.1.2

theorem acknowledged_of_rejected (hacc : ¬ sv.canAccept payload.reason = true) :
    (Server.handleRequestWithFault fault db sv fromAddr payload now).acknowledged = [] := by
  simp only [Handled.acknowledged, Server.handleRequestWithFault, if_neg hacc]
  rfl

/-- No answer is sent. -/
theorem sent_of_meets (hacc : sv.canAccept payload.reason = true)
    (hmeets : Meets fault payload.devices.length) :
    (Server.handleRequestWithFault fault db sv fromAddr payload now).sent = [] := by
  have hfail :
      ¬ (acceptDevices now fault (payload.devices.map ofPayload) (db, sv.dm)).1 = true := by
    rw [acceptDevices_fst, List.length_map]
    obtain ⟨i, call, hfault, hlt⟩ := hmeets
    exact fun h => absurd (h i call hfault) (Nat.not_le_of_lt hlt)
  simp only [Server.handleRequestWithFault, if_pos hacc, if_neg hfail]

theorem acknowledged_of_meets (hacc : sv.canAccept payload.reason = true)
    (hmeets : Meets fault payload.devices.length) :
    (Server.handleRequestWithFault fault db sv fromAddr payload now).acknowledged = [] := by
  rw [Handled.acknowledged, sent_of_meets hacc hmeets, List.flatMap_nil]

theorem acknowledged_of_not_meets (hacc : sv.canAccept payload.reason = true)
    (hmeets : ¬ Meets fault payload.devices.length) :
    (Server.handleRequestWithFault fault db sv fromAddr payload now).acknowledged =
      payload.devices.map DelegatedDevicePayload.deviceId := by
  have hok : (acceptDevices now fault (payload.devices.map ofPayload) (db, sv.dm)).1 = true := by
    rw [acceptDevices_fst, List.length_map]
    exact fun i call hfault => Nat.le_of_not_lt fun hlt => hmeets ⟨i, call, hfault, hlt⟩
  simp only [Handled.acknowledged, Server.handleRequestWithFault, if_pos hacc, if_pos hok]
  exact List.append_nil _

end Result

/-- The acceptance lists what was taken over exactly if the request is rejected, or no call
fails and every device is another node's, or one fails and none was before it. -/
theorem acceptance_matches_iff (fault : AcceptFault) (db : InnerDB) (sv : Server)
    (fromAddr : SocketAddr) (payload : DelegateRequestPayload) (now : Int) :
    (∀ d, d ∈ (Server.handleRequestWithFault fault db sv fromAddr payload now).acknowledged ↔
      d ∈ payload.devices.map DelegatedDevicePayload.deviceId ∧
        (Server.handleRequestWithFault fault db sv fromAddr payload now).TakenOver db sv d) ↔
    ¬ sv.canAccept payload.reason = true ∨
      (¬ Meets fault payload.devices.length ∧
        ∀ d ∈ payload.devices.map DelegatedDevicePayload.deviceId, Foreign db sv d) ∨
      (Meets fault payload.devices.length ∧
        ∀ d ∈ claimed fault (payload.devices.map DelegatedDevicePayload.deviceId),
          ¬ Foreign db sv d) := by
  by_cases hacc : sv.canAccept payload.reason = true
  · simp only [takenOver_iff hacc, hacc, not_true_eq_false, false_or]
    by_cases hmeets : Meets fault payload.devices.length
    · simp only [acknowledged_of_meets hacc hmeets, hmeets, not_true_eq_false, false_and, false_or,
        true_and, List.not_mem_nil, false_iff, not_and]
      exact ⟨fun h d hd => h d (mem_of_mem_claimed hd) hd, fun h d _ hd => h d hd⟩
    · have hlen : ¬ Meets fault (payload.devices.map DelegatedDevicePayload.deviceId).length := by
        rw [List.length_map]
        exact hmeets
      simp only [acknowledged_of_not_meets hacc hmeets, claimed_eq_self hlen, hmeets,
        not_false_eq_true, true_and, false_and, or_false]
      exact ⟨fun h d hd => ((h d).mp hd).2.2, fun h d => ⟨fun hd => ⟨hd, hd, h d hd⟩, fun h => h.1⟩⟩
  · refine ⟨fun _ => .inl hacc, fun _ d => ?_⟩
    rw [acknowledged_of_rejected hacc]
    exact ⟨fun h => absurd h List.not_mem_nil,
      fun h => absurd h.2 (not_takenOver_of_rejected hacc)⟩

/- Node 2 asks node 1 to take devices 9 and 10. -/
def twoRequested : DelegateRequestPayload :=
  ⟨[⟨9, none, none, 0⟩, ⟨10, none, none, 0⟩], .rebalance⟩

def twoForeign : InnerDB := (InnerDB.new.addDeviceToBucket 9 0 2).addDeviceToBucket 10 1 2

/-- The owner update of device 10 fails: device 9 is taken over and not acknowledged. -/
theorem acceptance_lost :
    ¬ ∀ (fault : AcceptFault) (db : InnerDB) (sv : Server) (fromAddr : SocketAddr)
      (payload : DelegateRequestPayload) (now : Int) (d : Uuid),
      d ∈ (Server.handleRequestWithFault fault db sv fromAddr payload now).acknowledged ↔
        d ∈ payload.devices.map DelegatedDevicePayload.deviceId ∧
          (Server.handleRequestWithFault fault db sv fromAddr payload now).TakenOver db sv d := by
  intro h
  have hacc : (World.activeServer 1 World.homeAddr ∅).canAccept twoRequested.reason = true := rfl
  have hmeets : Meets (some (1, .setDeviceOwner)) twoRequested.devices.length :=
    ⟨1, _, rfl, by decide⟩
  have howner : twoForeign.owner 9 = some 2 := by decide +kernel
  have hforeign : Foreign twoForeign (World.activeServer 1 World.homeAddr ∅) 9 :=
    ⟨⟨2, howner, by decide⟩, Finset.notMem_empty 9⟩
  have hnine := (h (some (1, .setDeviceOwner)) twoForeign (World.activeServer 1 World.homeAddr ∅)
    World.peerAddr twoRequested 0 9).mpr
    ⟨List.mem_cons_self, (takenOver_iff hacc).mpr ⟨List.mem_cons_self, hforeign⟩⟩
  rw [acknowledged_of_meets hacc hmeets] at hnine
  cases hnine

end HeadEnd.Cluster
