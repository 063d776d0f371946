import HeadEnd.DeviceManager

/-! What a node owns after its start: the devices that the database gives to it, and those
that it claims. -/
namespace HeadEnd
open DeviceManager

def InnerDB.getAllDeviceIds (db : InnerDB) : Finset Uuid := db.devices.keys

/-- No bucket row, or one that names nobody. -/
def InnerDB.Ownerless (db : InnerDB) (deviceId : Uuid) : Prop :=
  db.owner deviceId = none ∨ db.owner deviceId = some Uuid.nil

namespace DeviceManager

def loadFromDatabase (dm : DeviceManager) (db : InnerDB) : DeviceManager :=
  { dm with ownedDevices := db.getDevicesByOwner dm.localNodeId }

/-- One round of the claiming loops. -/
def claimDevice (st : InnerDB × DeviceManager) (deviceId : Uuid) : InnerDB × DeviceManager :=
  (st.1.setDeviceOwner deviceId st.2.localNodeId,
    { st.2 with ownedDevices := insert deviceId st.2.ownedDevices })

def claimDevices (db : InnerDB) (dm : DeviceManager) (listed : List Uuid) :
    InnerDB × DeviceManager :=
  listed.foldl claimDevice (db, dm)

/-- `listed`: the devices of the nil owner, in the order in which the query gave them. -/
def claimUnassignedDevices (db : InnerDB) (dm : DeviceManager) (listed : List Uuid) :
    InnerDB × DeviceManager :=
  claimDevices db dm listed

/-- `listed`: all devices. -/
def claimAllDevices (db : InnerDB) (dm : DeviceManager) (listed : List Uuid) :
    InnerDB × DeviceManager :=
  claimDevices db dm listed

end DeviceManager

/-- How a node of a cluster was started: with seeds or without. -/
inductive StartMode where
  | joining
  | first
  deriving DecidableEq, Repr

namespace StartMode

/-- What the claim asks the database for. -/
def listing (mode : StartMode) (db : InnerDB) : Finset Uuid :=
  match mode with
  | joining => db.getDevicesByOwner Uuid.nil
  | first => db.getAllDeviceIds

def start (mode : StartMode) (db : InnerDB) (dm : DeviceManager) (listed : List Uuid) :
    InnerDB × DeviceManager :=
  match mode with
  | joining => (dm.loadFromDatabase db).claimUnassignedDevices db listed
  | first => (dm.loadFromDatabase db).claimAllDevices db listed

end StartMode

section Claims
variable {mode : StartMode} {db : InnerDB} {dm : DeviceManager} {listed : List Uuid} {d : Uuid}

theorem claimDevices_ownedDevices (listed : List Uuid) (db : InnerDB) (dm : DeviceManager) :
    (claimDevices db dm listed).2.ownedDevices = dm.ownedDevices ∪ listed.toFinset := by
  unfold claimDevices
  induction listed generalizing db dm with
  | nil => simp
  | cons e rest ih =>
    rw [List.foldl_cons, claimDevice, ih, List.toFinset_cons, Finset.insert_union,
      Finset.union_insert]

/-- A claim writes the rows that are there and makes none. -/
theorem owner_claimDevices (listed : List Uuid) (db : InnerDB) (dm : DeviceManager) :
    (claimDevices db dm listed).1.owner d =
      if d ∈ listed then (db.owner d).map fun _ => dm.localNodeId else db.owner d := by
  unfold claimDevices
  induction listed generalizing db dm with
  | nil => simp
  | cons e rest ih =>
    rw [List.foldl_cons, claimDevice, ih]
    by_cases hd : d = e
    · subst hd
      rw [InnerDB.owner_setDeviceOwner_same, if_pos List.mem_cons_self]
      split
      · rw [Option.map_map]
        rfl
      · rfl
    · rw [InnerDB.owner_setDeviceOwner_of_ne hd]
      simp [hd]

theorem start_eq : mode.start db dm listed = claimDevices db (dm.loadFromDatabase db) listed := by
  cases mode <;> rfl

theorem mem_ownedDevices_start (hl : Lists listed (mode.listing db)) :
    d ∈ (mode.start db dm listed).2.ownedDevices ↔
      db.owner d = some dm.localNodeId ∨ d ∈ mode.listing db := by
  rw [start_eq, claimDevices_ownedDevices, Finset.mem_union, hl.2]
  exact or_congr_left InnerDB.mem_getDevicesByOwner

theorem owner_start : (mode.start db dm listed).1.owner d =
    if d ∈ listed then (db.owner d).map fun _ => dm.localNodeId else db.owner d := by
  rw [start_eq]
  exact owner_claimDevices listed db (dm.loadFromDatabase db)

theorem owner_isSome_iff : (db.owner d).isSome ↔ d ∈ db.buckets := by
  rw [InnerDB.owner, Option.isSome_map, Finmap.lookup_isSome]

/-- With a bucket row for every device, every device that is claimed has one. -/
theorem owner_isSome_of_listing (hrows : ∀ d ∈ db.getAllDeviceIds, d ∈ db.buckets)
    (hd : d ∈ mode.listing db) : (db.owner d).isSome := by
  cases mode with
  | joining =>
    rw [InnerDB.mem_getDevicesByOwner.mp hd]
    rfl
  | first => exact owner_isSome_iff.mpr (hrows d hd)

/-- After the start the node owns what the database says, all devices without an owner
among it, exactly if every device has a bucket row. -/
theorem start_owns_iff (hl : Lists listed (mode.listing db)) :
    ((mode.start db dm listed).2.ownedDevices =
        (mode.start db dm listed).1.getDevicesByOwner dm.localNodeId ∧
      ∀ d ∈ db.getAllDeviceIds, db.Ownerless d → d ∈ (mode.start db dm listed).2.ownedDevices) ↔
      ∀ d ∈ db.getAllDeviceIds, d ∈ db.buckets := by
  constructor
  · intro h d hd
    obtain ⟨hsame, hall⟩ := h
    by_contra hrow
    have hnone : db.owner d = none := by
      rw [← Option.not_isSome_iff_eq_none, owner_isSome_iff]
      exact hrow
    have howned := hall d hd (.inl hnone)
    rw [hsame, InnerDB.mem_getDevicesByOwner, owner_start, hnone] at howned
    simp at howned
  · intro hrows
    constructor
    · ext d
      rw [mem_ownedDevices_start hl, InnerDB.mem_getDevicesByOwner, owner_start]
      by_cases hd : d ∈ listed
      · obtain ⟨owner, howner⟩ :=
          Option.isSome_iff_exists.mp (owner_isSome_of_listing hrows (hl.mem_iff.mp hd))
        simp [hd, hl.mem_iff.mp hd, howner]
      · have hlisting : d ∉ mode.listing db := fun hmem => hd (hl.mem_iff.mpr hmem)
        simp [hd, hlisting]
    · intro d hd hownerless
      rw [mem_ownedDevices_start hl]
      refine .inr ?_
      cases mode with
      | first => exact hd
      | joining =>
        have hsome := owner_isSome_iff.mpr (hrows d hd)
        cases hownerless with
        | inl hnone => simp [hnone] at hsome
        | inr hnil => exact InnerDB.mem_getDevicesByOwner.mpr hnil

end Claims

/- Device 9, with no bucket row yet or with one that names nobody. -/
def unassigned : InnerDB := InnerDB.new.addDevice ⟨9, none, none, none⟩

def starting : DeviceManager := ⟨1, ∅, ⟨2, .empty, none, 1, false⟩⟩

def unowned : InnerDB := unassigned.addDeviceToBucket 9 0 Uuid.nil

theorem start_owns_iff_nil :
    9 ∈ (StartMode.joining.start unowned starting [9]).2.ownedDevices := by
  have hl : Lists [9] (StartMode.joining.listing unowned) :=
    ⟨List.nodup_singleton 9, by decide +kernel⟩
  have hids : unowned.getAllDeviceIds = {9} := rfl
  have hrows : ∀ d ∈ unowned.getAllDeviceIds, d ∈ unowned.buckets := by
    intro d hd
    rw [hids, Finset.mem_singleton] at hd
    rw [hd]
    exact Finmap.mem_insert.mpr (.inl rfl)
  exact ((start_owns_iff hl).mpr hrows).2 9 (hids ▸ Finset.mem_singleton_self 9) (.inr rfl)

/-- The first node takes a device without a row over, but the database does not know. -/
theorem rowless_device_unrecorded : ¬ ∀ (mode : StartMode) (db : InnerDB) (dm : DeviceManager)
    (listed : List Uuid), Lists listed (mode.listing db) →
      (mode.start db dm listed).2.ownedDevices =
          (mode.start db dm listed).1.getDevicesByOwner dm.localNodeId ∧
        ∀ d ∈ db.getAllDeviceIds, db.Ownerless d →
          d ∈ (mode.start db dm listed).2.ownedDevices := by
  intro h
  have hsame := (h .first unassigned starting [9] ⟨List.nodup_singleton 9, by decide +kernel⟩).1
  exact absurd hsame (by decide +kernel)

end HeadEnd
