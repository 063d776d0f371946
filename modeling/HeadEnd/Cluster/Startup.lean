import HeadEnd.Claiming
import HeadEnd.Lib.Transition
import HeadEnd.Postgres

/-! The owners that a node writes into T_BUCKETS, from its start on. A node that
belongs to a cluster gets its row in T_NODES at the end of its start; a node on its own
never gets one. -/
namespace HeadEnd.Cluster
open Transition Rows

/-- The two calls that write an owner. -/
inductive OwnerWrite where
  | addDeviceToBucket (deviceId : Uuid) (bucket : Int) (nodeId : Uuid)
  | setDeviceOwner (deviceId nodeId : Uuid)
  deriving DecidableEq, Repr

namespace OwnerWrite

def node : OwnerWrite → Uuid
  | addDeviceToBucket _ _ nodeId => nodeId
  | setDeviceOwner _ nodeId => nodeId

def exec (db : PostgresDB) : OwnerWrite → PostgresDB × Except PgError Unit
  | addDeviceToBucket deviceId bucket nodeId => db.addDeviceToBucket deviceId bucket nodeId
  | setDeviceOwner deviceId nodeId => db.setDeviceOwner deviceId nodeId

/-- There is a row to write the owner into. -/
def Writes (db : PostgresDB) : OwnerWrite → Prop
  | addDeviceToBucket deviceId _ _ => deviceId ∈ db.devices
  | setDeviceOwner deviceId _ => ∃ row ∈ db.buckets, row.fkDevice = some deviceId

variable {db : PostgresDB} {w : OwnerWrite} {row : PgBucketRow}

/-- A write fails on the reference to T_NODES exactly if its node is not there. -/
theorem exec_nodeReference_iff :
    (w.exec db).2 = .error .nodeReference ↔ w.Writes db ∧ w.node ∉ db.nodes := by
  cases w with
  | addDeviceToBucket d bucket n =>
    by_cases hd : d ∈ db.devices
    · by_cases hn : n ∈ db.nodes
      · simp [exec, PostgresDB.addDeviceToBucket, Writes, node, hd, hn]
      · simp [exec, PostgresDB.addDeviceToBucket, Writes, node, hd, hn]
    · simp [exec, PostgresDB.addDeviceToBucket, Writes, hd]
  | setDeviceOwner d n =>
    by_cases hn : n ∈ db.nodes
    · simp [exec, PostgresDB.setDeviceOwner, node, hn]
    · simp only [exec, PostgresDB.setDeviceOwner, dif_neg hn, Writes, node, Multiset.mem_map]
      split
      · simp_all
      · simp_all

theorem exec_nodes : (w.exec db).1.nodes = db.nodes := by
  cases w with
  | addDeviceToBucket d bucket n =>
    simp only [exec, PostgresDB.addDeviceToBucket]
    split
    · split <;> rfl
    · rfl
  | setDeviceOwner d n =>
    simp only [exec, PostgresDB.setDeviceOwner]
    split
    · rfl
    · split <;> rfl

/-- No write touches a row without a device. -/
theorem mem_exec_of_none (hrow : row ∈ db.buckets) (hd : row.fkDevice = none) :
    row ∈ (w.exec db).1.buckets := by
  have hne : ∀ d, ¬ row.fkDevice = some d := by simp [hd]
  cases w with
  | addDeviceToBucket d bucket n =>
    have hkept : row ∈ (db.deleteBucketRows d).buckets := mem_deleteWhere.mpr ⟨hrow, hne d⟩
    simp only [exec, PostgresDB.addDeviceToBucket]
    split
    · split
      · exact Multiset.mem_cons_of_mem hkept
      · exact hkept
    · exact hkept
  | setDeviceOwner d n =>
    simp only [exec, PostgresDB.setDeviceOwner]
    split
    · exact mem_updateWhere.mpr (.inl ⟨hrow, hne d⟩)
    · split <;> exact hrow

/-- A row of a node that a write does not name was there before. -/
theorem mem_of_mem_exec {n : Uuid} (hn : w.node ≠ n) (h : row ∈ (w.exec db).1.buckets)
    (hrow : row.fkNode = some n) : row ∈ db.buckets := by
  cases w with
  | addDeviceToBucket d bucket m =>
    have hold : row ∈ (db.deleteBucketRows d).buckets → row ∈ db.buckets :=
      fun hmem => (mem_deleteWhere.mp hmem).1
    simp only [exec, PostgresDB.addDeviceToBucket] at h
    split at h
    · split at h
      · cases Multiset.mem_cons.mp h with
        | inl hnew =>
          rw [hnew] at hrow
          exact absurd (Option.some.inj hrow) hn
        | inr hmem => exact hold hmem
      · exact hold h
    · exact hold h
  | setDeviceOwner d m =>
    simp only [exec, PostgresDB.setDeviceOwner] at h
    split at h
    · cases mem_updateWhere.mp h with
      | inl hkept => exact hkept.1
      | inr hset =>
        obtain ⟨old, -, -, rfl⟩ := hset
        exact absurd (Option.some.inj hrow) hn
    · split at h <;> exact h

/-- Without a row to write to, nothing happens. -/
theorem setDeviceOwner_of_not_writes {d n : Uuid} (hn : n ∉ db.nodes)
    (h : ¬ (setDeviceOwner d n).Writes db) : db.setDeviceOwner d n = (db, .ok ()) := by
  have hnone : some d ∉ db.buckets.map PgBucketRow.fkDevice :=
    fun hmem => h (Multiset.mem_map.mp hmem)
  simp only [PostgresDB.setDeviceOwner, dif_neg hn, if_neg hnone]

end OwnerWrite

inductive StartPhase where
  | starting
  | loaded
  | claiming (rest : List Uuid)
  | running
  | stopped
  deriving DecidableEq, Repr

/-- A node and the database it shares with its peers. A node without a cluster has no mode.
`started`: the peers that have come to the end of their start. `active`: those of them that the
node has heard of as Active. -/
structure OwnerNode where
  mode : Option StartMode
  localId : Uuid
  db : PostgresDB
  phase : StartPhase
  started : Finset Uuid
  active : Finset Uuid

inductive OwnerEvent where
  | load
  | query
  | write (w : OwnerWrite)
  | register
  | addDevice (deviceId : Uuid)
  | announce (nodeId : Uuid)
  | peerNode (nodeId : Uuid)
  | peerWrite (w : OwnerWrite)

namespace OwnerNode

def start (mode : Option StartMode) (localId : Uuid) (db : PostgresDB) : OwnerNode :=
  ⟨mode, localId, db, .starting, ∅, ∅⟩

/-- The writes that the node may make next, and where it is after one that succeeds: the
claims of its start, a registration, an accepted delegation, and the redistribution of
the devices of a failed node to itself and the active peers. -/
inductive Calls (s : OwnerNode) : OwnerWrite → StartPhase → Prop
  | claim {d : Uuid} {rest : List Uuid} : s.phase = .claiming (d :: rest) →
      Calls s (.setDeviceOwner d s.localId) (.claiming rest)
  | assign {d : Uuid} {bucket : Int} : s.phase = .running → d ∈ s.db.devices →
      Calls s (.addDeviceToBucket d bucket s.localId) .running
  | accept {d : Uuid} : s.phase = .running → s.mode ≠ none →
      Calls s (.setDeviceOwner d s.localId) .running
  | redistribute {d target : Uuid} : s.phase = .running → s.mode ≠ none →
      target = s.localId ∨ target ∈ s.active → Calls s (.setDeviceOwner d target) .running

/-- An error ends the start; later on the node goes on. -/
def afterWrite (s : OwnerNode) (w : OwnerWrite) (next : StartPhase) : OwnerNode :=
  { s with
    db := (w.exec s.db).1
    phase := match (w.exec s.db).2, s.phase with
      | .ok _, _ => next
      | .error _, .claiming _ => .stopped
      | .error _, phase => phase }

/- `load_from_database`, then `claim_all_devices` or, after a while, `claim_unassigned_devices`,
   then `register_cluster_node`. Devices come in by the handlers of all nodes. Of the start of a
   peer only the last step matters: it writes the row of the peer, which then becomes Active and
   is heard of as such. The nil id stands for no owner and is no node's. -/
inductive Step : OwnerNode → OwnerEvent → OwnerNode → Prop
  | single {s : OwnerNode} : s.mode = none → s.phase = .starting →
      Step s .load { s with phase := .running }
  | load {s : OwnerNode} {owned : Multiset Uuid} : s.mode ≠ none → s.phase = .starting →
      s.db.getDevicesByOwner s.localId = .ok owned → Step s .load { s with phase := .loaded }
  | loadFailed {s : OwnerNode} {e : PgError} : s.mode ≠ none → s.phase = .starting →
      s.db.getDevicesByOwner s.localId = .error e → Step s .load { s with phase := .stopped }
  | queryAll {s : OwnerNode} {rest : List Uuid} : s.mode = some .first → s.phase = .loaded →
      Lists rest s.db.devices → Step s .query { s with phase := .claiming rest }
  | queryUnassigned {s : OwnerNode} {rest : List Uuid} : s.mode = some .joining →
      s.phase = .loaded → s.db.getDevicesByOwner Uuid.nil = .ok rest →
      Step s .query { s with phase := .claiming rest }
  | queryFailed {s : OwnerNode} {e : PgError} : s.mode = some .joining → s.phase = .loaded →
      s.db.getDevicesByOwner Uuid.nil = .error e → Step s .query { s with phase := .stopped }
  | write {s : OwnerNode} {w : OwnerWrite} {next : StartPhase} : s.Calls w next →
      Step s (.write w) (s.afterWrite w next)
  | register {s : OwnerNode} : s.phase = .claiming [] →
      Step s .register { s with db := s.db.registerClusterNode s.localId, phase := .running }
  | addDevice {s : OwnerNode} {d : Uuid} : Step s (.addDevice d) { s with db := s.db.addDevice d }
  | announce {s : OwnerNode} {n : Uuid} : n ∈ s.started →
      Step s (.announce n) { s with active := insert n s.active }
  | peerNode {s : OwnerNode} {n : Uuid} : n ≠ Uuid.nil →
      Step s (.peerNode n)
        { s with db := s.db.registerClusterNode n, started := insert n s.started }
  | peerWrite {s : OwnerNode} {w : OwnerWrite} : w.node ≠ Uuid.nil →
      Step s (.peerWrite w) { s with db := (w.exec s.db).1 }

/-- Every owner that the node may write next is in T_NODES, and no such write fails on
the reference. -/
def Referred (s : OwnerNode) : Prop :=
  ∀ w next, s.Calls w next → (w.Writes s.db → w.node ∈ s.db.nodes) ∧
    (w.exec s.db).2 ≠ .error .nodeReference

variable {s t : OwnerNode} {e : OwnerEvent}

theorem Step.localId (h : Step s e t) : t.localId = s.localId := by
  cases h <;> rfl

theorem Step.nodes_subset (h : Step s e t) : s.db.nodes ⊆ t.db.nodes := by
  cases h with
  | write | peerWrite => exact OwnerWrite.exec_nodes.symm.subset
  | register | peerNode => exact Finset.subset_insert _ _
  | _ => exact Finset.Subset.refl _

/-- Who is Active has started, and who has started has its row: no row of T_NODES is ever
deleted. -/
structure PeersKnown (s : OwnerNode) : Prop where
  started : s.started ⊆ s.db.nodes
  active : s.active ⊆ s.started

theorem PeersKnown.start (mode : Option StartMode) (localId : Uuid) (db : PostgresDB) :
    (OwnerNode.start mode localId db).PeersKnown :=
  ⟨Finset.empty_subset _, Finset.empty_subset _⟩

theorem PeersKnown.step (h : s.PeersKnown) (hstep : Step s e t) : t.PeersKnown := by
  have hkept := h.started.trans hstep.nodes_subset
  cases hstep with
  | announce hn => exact ⟨h.started, Finset.insert_subset hn h.active⟩
  | peerNode =>
    exact ⟨Finset.insert_subset (Finset.mem_insert_self _ _) hkept,
      h.active.trans (Finset.subset_insert _ _)⟩
  | _ => exact ⟨hkept, h.active⟩

/-- The node and its peers are in T_NODES. -/
structure Known (s : OwnerNode) : Prop where
  self : s.localId ∈ s.db.nodes
  peers : s.PeersKnown

theorem Known.step (h : s.Known) (hstep : Step s e t) : t.Known :=
  ⟨hstep.localId ▸ hstep.nodes_subset h.self, h.peers.step hstep⟩

theorem Known.referred (h : s.Known) : s.Referred := by
  intro w next hcall
  have hnode : w.node ∈ s.db.nodes := by
    cases hcall with
    | claim | assign | accept => exact h.self
    | redistribute _ _ htarget =>
      cases htarget with
      | inl heq => exact heq ▸ h.self
      | inr hmem => exact h.peers.started (h.peers.active hmem)
  exact ⟨fun _ => hnode, fun herr => (OwnerWrite.exec_nodeReference_iff.mp herr).2 hnode⟩

/-- The claim of a joining node finds no device. -/
def Unclaimed (db : PostgresDB) : Prop :=
  ∀ devices, db.getDevicesByOwner Uuid.nil = .ok devices → devices = 0

theorem getDevicesByOwner_eq_ok {db : PostgresDB} {n : Uuid}
    (h : ∀ row ∈ db.buckets, row.fkNode = some n → row.fkDevice ≠ none) :
    db.getDevicesByOwner n =
      .ok ((db.buckets.filter fun row => row.fkNode = some n).filterMap PgBucketRow.fkDevice) := by
  have hnone : none ∉
      (db.buckets.filter fun row => row.fkNode = some n).map PgBucketRow.fkDevice := by
    intro hmem
    obtain ⟨row, hrow, hd⟩ := Multiset.mem_map.mp hmem
    obtain ⟨hrow, hn⟩ := Multiset.mem_filter.mp hrow
    exact h row hrow hn hd
  exact if_neg hnone

theorem exists_row_of_getDevicesByOwner {db : PostgresDB} {n d : Uuid} {devices : Multiset Uuid}
    (h : db.getDevicesByOwner n = .ok devices) (hd : d ∈ devices) :
    ∃ row ∈ db.buckets, row.fkDevice = some d := by
  simp only [PostgresDB.getDevicesByOwner] at h
  split at h
  · cases h
  · have heq := Except.ok.inj h
    rw [← heq] at hd
    obtain ⟨row, hrow, hdev⟩ := (Multiset.mem_filterMap _ _).mp hd
    exact ⟨row, (Multiset.mem_filter.mp hrow).1, hdev⟩

/-- Either the query fails on a row without a device, or no row is without an owner. -/
theorem unclaimed_iff {db : PostgresDB} :
    Unclaimed db ↔ (∃ row ∈ db.buckets, row.fkNode = some Uuid.nil ∧ row.fkDevice = none) ∨
      ∀ row ∈ db.buckets, row.fkNode ≠ some Uuid.nil := by
  constructor
  · intro h
    by_contra hnot
    push Not at hnot
    obtain ⟨hdev, row, hrow, hnil⟩ := hnot
    have hempty := h _ (getDevicesByOwner_eq_ok hdev)
    obtain ⟨d, hd⟩ := Option.ne_none_iff_exists'.mp (hdev row hrow hnil)
    have hmem : d ∈ (db.buckets.filter fun row => row.fkNode = some Uuid.nil).filterMap
        PgBucketRow.fkDevice :=
      (Multiset.mem_filterMap _ _).mpr ⟨row, Multiset.mem_filter.mpr ⟨hrow, hnil⟩, hd⟩
    rw [hempty] at hmem
    exact Multiset.notMem_zero d hmem
  · intro h devices hok
    cases h with
    | inl hnull =>
      obtain ⟨row, hrow, hnil, hd⟩ := hnull
      have hmem : none ∈ (db.buckets.filter fun row => row.fkNode = some Uuid.nil).map
          PgBucketRow.fkDevice :=
        Multiset.mem_map.mpr ⟨row, Multiset.mem_filter.mpr ⟨hrow, hnil⟩, hd⟩
      rw [PostgresDB.getDevicesByOwner, if_pos hmem] at hok
      cases hok
    | inr hnone =>
      have hfilter : (db.buckets.filter fun row => row.fkNode = some Uuid.nil) = 0 :=
        Multiset.filter_eq_nil.mpr hnone
      rw [getDevicesByOwner_eq_ok (fun row hrow hnil => absurd hnil (hnone row hrow)),
        hfilter] at hok
      exact (Except.ok.inj hok).symm

theorem Unclaimed.exec {db : PostgresDB} {w : OwnerWrite} (h : Unclaimed db)
    (hw : w.node ≠ Uuid.nil) : Unclaimed (w.exec db).1 := by
  rw [unclaimed_iff] at h ⊢
  cases h with
  | inl hnull =>
    obtain ⟨row, hrow, hnil, hd⟩ := hnull
    exact .inl ⟨row, OwnerWrite.mem_exec_of_none hrow hd, hnil, hd⟩
  | inr hnone =>
    exact .inr fun row hrow hnil => hnone row (OwnerWrite.mem_of_mem_exec hw hrow hnil) hnil

/-- A joining node that has nothing to claim writes no owner before it has its row. -/
structure Waiting (s : OwnerNode) : Prop where
  joining : s.mode = some .joining
  peers : s.PeersKnown
  unclaimed : Unclaimed s.db
  phase : s.phase = .starting ∨ s.phase = .loaded ∨ s.phase = .claiming [] ∨ s.phase = .stopped

theorem Waiting.not_calls (h : s.Waiting) {w : OwnerWrite} {next : StartPhase} :
    ¬ s.Calls w next := by
  intro hcall
  have hphase := h.phase
  cases hcall with
  | claim hp => simp [hp] at hphase
  | assign hp | accept hp | redistribute hp => simp [hp] at hphase

theorem Waiting.step (h : s.Waiting) (hstep : Step s e t) : t.Waiting ∨ t.Known := by
  have hpeers := h.peers.step hstep
  cases hstep with
  | single hmode => rw [h.joining] at hmode; cases hmode
  | load => exact .inl ⟨h.joining, hpeers, h.unclaimed, .inr (.inl rfl)⟩
  | loadFailed | queryFailed => exact .inl ⟨h.joining, hpeers, h.unclaimed, .inr (.inr (.inr rfl))⟩
  | queryAll hmode => rw [h.joining] at hmode; cases hmode
  | queryUnassigned _ _ hok =>
    have hrest := (Multiset.coe_eq_zero _).mp (h.unclaimed _ hok)
    exact .inl ⟨h.joining, hpeers, h.unclaimed, .inr (.inr (.inl (by rw [hrest])))⟩
  | write hcall => exact absurd hcall h.not_calls
  | register => exact .inr ⟨Finset.mem_insert_self _ _, hpeers⟩
  | peerWrite hw => exact .inl ⟨h.joining, hpeers, h.unclaimed.exec hw, h.phase⟩
  | addDevice | announce | peerNode => exact .inl ⟨h.joining, hpeers, h.unclaimed, h.phase⟩

theorem referred_of_waiting_or_known (h : s.Waiting ∨ s.Known) : s.Referred := by
  cases h with
  | inl hwaiting => exact fun w next hcall => absurd hcall hwaiting.not_calls
  | inr hknown => exact hknown.referred

theorem waiting_or_known_step (h : s.Waiting ∨ s.Known) (hstep : Step s e t) :
    t.Waiting ∨ t.Known := by
  cases h with
  | inl hwaiting => exact hwaiting.step hstep
  | inr hknown => exact .inr (hknown.step hstep)

/-- A node without its row comes to a claim that fails, once a device that it is going to
claim has a bucket. -/
theorem exists_claim_not_referred {d : Uuid} (rest : List Uuid) (hd : d ∈ rest) :
    ∀ s : OwnerNode, s.phase = .claiming rest → s.localId ∉ s.db.nodes →
      (∃ row ∈ s.db.buckets, row.fkDevice = some d) → ∃ es t, Run Step s es t ∧ ¬ t.Referred := by
  induction rest with
  | nil => cases hd
  | cons head rest ih =>
    intro s hphase hlocal hrow
    have hcall : s.Calls (.setDeviceOwner head s.localId) (.claiming rest) := .claim hphase
    by_cases hwrites : (OwnerWrite.setDeviceOwner head s.localId).Writes s.db
    · exact ⟨[], s, .nil s, fun h => hlocal ((h _ _ hcall).1 hwrites)⟩
    · -- the head has no bucket, so its claim does nothing
      have hdrest : d ∈ rest := by
        cases List.mem_cons.mp hd with
        | inl heq => exact absurd (heq ▸ hrow) hwrites
        | inr hmem => exact hmem
      have hexec := OwnerWrite.setDeviceOwner_of_not_writes hlocal hwrites
      have hafter : s.afterWrite (.setDeviceOwner head s.localId) (.claiming rest) =
          { s with phase := .claiming rest } := by
        simp only [afterWrite, OwnerWrite.exec, hexec]
      have hstep : Step s (.write (.setDeviceOwner head s.localId))
          { s with phase := .claiming rest } := hafter ▸ .write hcall
      obtain ⟨es, t, hrun, hnot⟩ := ih hdrest { s with phase := .claiming rest } rfl hlocal hrow
      exact ⟨_, t, .cons hstep hrun, hnot⟩

theorem getDevicesByOwner_of_notMem {db : PostgresDB} {n : Uuid} (hn : n ∉ db.nodes) :
    ∃ owned, db.getDevicesByOwner n = .ok owned :=
  ⟨_, getDevicesByOwner_eq_ok fun row hrow heq => absurd (db.bucket_node row hrow n heq) hn⟩

/-- On its own a node has no row, and the first registration writes its id. -/
theorem single_not_referred {localId : Uuid} {db : PostgresDB} (hlocal : localId ∉ db.nodes) :
    ∃ es t, Run Step (start none localId db) es t ∧ ¬ t.Referred := by
  have hload : Step (start none localId db) .load
      { start none localId db with phase := .running } := .single rfl rfl
  have hadd : Step { start none localId db with phase := .running } (.addDevice 0)
      { start none localId db with phase := .running, db := db.addDevice 0 } := .addDevice
  have hmem : (0 : Uuid) ∈ (db.addDevice 0).devices := Finset.mem_insert_self _ _
  have hcall : Calls { start none localId db with phase := .running, db := db.addDevice 0 }
      (.addDeviceToBucket 0 0 localId) .running := .assign rfl hmem
  exact ⟨_, _, .cons hload (.single hadd), fun h => hlocal ((h _ _ hcall).1 hmem)⟩

theorem exists_peer (localId : Uuid) : ∃ n : Uuid, n ≠ Uuid.nil ∧ localId ≠ n := by
  by_cases h : localId = 1
  · exact ⟨2, by decide, by rw [h]; decide⟩
  · exact ⟨1, by decide, h⟩

/-- A device that a peer has just put into a bucket is claimed by the first node. -/
theorem first_not_referred {localId : Uuid} {db : PostgresDB} (hlocal : localId ∉ db.nodes) :
    ∃ es t, Run Step (start (some .first) localId db) es t ∧ ¬ t.Referred := by
  obtain ⟨n, hnil, hne⟩ := exists_peer localId
  let db₁ := db.registerClusterNode n
  let db₂ := db₁.addDevice 0
  let db₃ := ((OwnerWrite.addDeviceToBucket 0 0 n).exec db₂).1
  have hlocal₃ : localId ∉ db₃.nodes := by
    have hnodes : db₃.nodes = insert n db.nodes := OwnerWrite.exec_nodes
    rw [hnodes]
    exact fun h => (Finset.mem_insert.mp h).elim hne hlocal
  have hd : (0 : Uuid) ∈ db₂.devices := Finset.mem_insert_self _ _
  have hn : n ∈ db₂.nodes := Finset.mem_insert_self _ _
  have hrow : (⟨some 0, some n, some 0⟩ : PgBucketRow) ∈ db₃.buckets := by
    simp only [db₃, OwnerWrite.exec, PostgresDB.addDeviceToBucket, dif_pos hd, dif_pos hn]
    exact Multiset.mem_cons_self _ _
  have hd₃ : (0 : Uuid) ∈ db₃.devices := db₃.bucket_device _ hrow 0 rfl
  obtain ⟨owned, howned⟩ := getDevicesByOwner_of_notMem hlocal₃
  obtain ⟨rest, hrest⟩ := exists_lists db₃.devices
  let s₃ : OwnerNode := { start (some .first) localId db₃ with started := {n} }
  have hpeers : Run Step (start (some .first) localId db)
      [.peerNode n, .addDevice 0, .peerWrite (.addDeviceToBucket 0 0 n)] s₃ :=
    .cons (.peerNode hnil) (.cons .addDevice
      (.single (@Step.peerWrite _ (.addDeviceToBucket 0 0 n) hnil)))
  have hload : Step s₃ .load { s₃ with phase := .loaded } := .load (by simp [s₃, start]) rfl howned
  have hquery : Step { s₃ with phase := .loaded } .query { s₃ with phase := .claiming rest } :=
    .queryAll rfl rfl hrest
  obtain ⟨es, t, hrun, hnot⟩ := exists_claim_not_referred rest (hrest.mem_iff.mpr hd₃)
    { s₃ with phase := .claiming rest } rfl hlocal₃ ⟨_, hrow, rfl⟩
  exact ⟨_, t, hpeers.append (.cons hload (.cons hquery hrun)), hnot⟩

theorem joining_not_referred {localId : Uuid} {db : PostgresDB} (hlocal : localId ∉ db.nodes)
    (hdb : ¬ Unclaimed db) :
    ∃ es t, Run Step (start (some .joining) localId db) es t ∧ ¬ t.Referred := by
  obtain ⟨owned, howned⟩ := getDevicesByOwner_of_notMem hlocal
  unfold Unclaimed at hdb
  push Not at hdb
  obtain ⟨devices, hok, hne⟩ := hdb
  obtain ⟨d, hd⟩ := Multiset.exists_mem_of_ne_zero hne
  have hlist : (devices.toList : Multiset Uuid) = devices := devices.coe_toList
  have hload : Step (start (some .joining) localId db) .load
      { start (some .joining) localId db with phase := .loaded } :=
    .load (by simp [start]) rfl howned
  have hquery : Step { start (some .joining) localId db with phase := .loaded } .query
      { start (some .joining) localId db with phase := .claiming devices.toList } :=
    .queryUnassigned rfl rfl (by rw [hlist]; exact hok)
  obtain ⟨es, t, hrun, hnot⟩ := exists_claim_not_referred devices.toList
    (Multiset.mem_toList.mpr hd)
    { start (some .joining) localId db with phase := .claiming devices.toList } rfl hlocal
    (exists_row_of_getDevicesByOwner hok hd)
  exact ⟨_, t, .cons hload (.cons hquery hrun), hnot⟩

/-- Whatever happens from its start on, a node writes only owners that are in T_NODES,
exactly if its own row was there before, or it joins a cluster in which no device
waits to be claimed. -/
theorem owners_referred_iff (mode : Option StartMode) (localId : Uuid) (db : PostgresDB) :
    (∀ es s, Run Step (start mode localId db) es s → s.Referred) ↔
      localId ∈ db.nodes ∨ (mode = some .joining ∧ Unclaimed db) := by
  constructor
  · intro hall
    by_contra hnot
    push Not at hnot
    obtain ⟨hlocal, hmode⟩ := hnot
    have hbad : ∃ es t, Run Step (start mode localId db) es t ∧ ¬ t.Referred := by
      cases mode with
      | none => exact single_not_referred hlocal
      | some mode =>
        cases mode with
        | first => exact first_not_referred hlocal
        | joining => exact joining_not_referred hlocal (hmode rfl)
    obtain ⟨es, t, hrun, hreferred⟩ := hbad
    exact hreferred (hall es t hrun)
  · intro h es s hrun
    have hstart : (start mode localId db).Waiting ∨ (start mode localId db).Known := by
      cases h with
      | inl hknown => exact .inr ⟨hknown, .start mode localId db⟩
      | inr hjoin => exact .inl ⟨hjoin.1, .start mode localId db, hjoin.2, .inl rfl⟩
    exact referred_of_waiting_or_known
      (hrun.invariant (fun s => s.Waiting ∨ s.Known)
        (fun _ _ _ hs hone => waiting_or_known_step hs hone) hstart)

/- Node 2 has left device 9 in a bucket. Node 1 starts on this database for the first
   time, without seeds. -/
def leftBehind : PostgresDB :=
  ((PostgresDB.ofIds {2} {9}).addDeviceToBucket 9 0 2).1

theorem first_claim_fails :
    ¬ ∀ (es : List OwnerEvent) (s : OwnerNode), Run Step (start (some .first) 1 leftBehind) es s →
      s.Referred := by
  intro hall
  have hload : Step (start (some .first) 1 leftBehind) .load
      { start (some .first) 1 leftBehind with phase := .loaded } :=
    .load (by decide) rfl (show leftBehind.getDevicesByOwner 1 = .ok 0 by decide)
  have hquery : Step { start (some .first) 1 leftBehind with phase := .loaded } .query
      { start (some .first) 1 leftBehind with phase := .claiming [9] } :=
    .queryAll rfl rfl ⟨by decide, by decide⟩
  have hreferred := hall _ _ (.cons hload (.single hquery))
  have hcall : Calls { start (some .first) 1 leftBehind with phase := .claiming [9] }
      (.setDeviceOwner 9 1) (.claiming []) := .claim rfl
  have herror : ((OwnerWrite.setDeviceOwner 9 1).exec leftBehind).2 = .error .nodeReference := by
    decide
  exact (hreferred _ _ hcall).2 herror

end OwnerNode

end HeadEnd.Cluster
