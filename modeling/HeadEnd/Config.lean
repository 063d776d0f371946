import HeadEnd.Common
import HeadEnd.Lib.Transition
import Mathlib.Data.Finset.Insert

/-! The configuration of a node and its file. Every change goes through `update`,
which takes a snapshot under the lock and writes it to the file after the lock is
released, so that calls can overtake each other. -/
namespace HeadEnd
open Transition

inductive DatabaseType where
  | postgres | inMemory
  deriving DecidableEq, Repr

structure BackdoorFileConfig where
  ip : Option String
  port : Option String
  deriving DecidableEq, Repr

structure MetricsFileConfig where
  enabled : Option Bool
  ip : Option String
  port : Option String
  deriving DecidableEq, Repr

structure SchedulerFileConfig where
  bucketsNumber : Option Nat
  testMode : Option Bool
  deriving DecidableEq, Repr

structure PostgresFileConfig where
  user : Option String
  password : Option String
  url : Option String
  port : Option String
  deriving DecidableEq, Repr

structure DatabaseFileConfig where
  dbType : Option String
  postgres : Option PostgresFileConfig
  deriving DecidableEq, Repr

structure ClusterFileConfig where
  enabled : Option Bool
  nodeName : Option String
  ip : Option String
  port : Option UInt16
  seeds : Option String
  deriving DecidableEq, Repr

structure RpcFileConfig where
  enabled : Option Bool
  ip : Option String
  port : Option UInt16
  deriving DecidableEq, Repr

/- What the YAML file says; the text of the file is the serialisation of it. -/
structure FileConfig where
  nodeId : Option String
  backdoor : Option BackdoorFileConfig
  metrics : Option MetricsFileConfig
  scheduler : Option SchedulerFileConfig
  database : Option DatabaseFileConfig
  cluster : Option ClusterFileConfig
  rpc : Option RpcFileConfig
  deriving DecidableEq, Repr

structure HesConfig where
  nodeId : Uuid
  backdoorIp : String := "0.0.0.0"
  backdoorPort : String := "6565"
  metricsEnabled : Bool := true
  metricsIp : String := "0.0.0.0"
  metricsPort : String := "6464"
  bucketsNumber : Nat := 48
  databaseType : DatabaseType := .postgres
  postgresUser : String := "postgres"
  postgresPassword : String := "HeadEndSystem"
  postgresUrl : String := "127.0.0.1"
  postgresPort : String := "5432"
  clusterEnabled : Bool := true
  nodeName : Option String := none
  clusterIp : String := "0.0.0.0"
  clusterPort : UInt16 := 6570
  clusterSeeds : Option String := none
  rpcEnabled : Bool := true
  rpcIp : String := "127.0.0.1"
  rpcPort : UInt16 := 6600
  testMode : Bool := false
  deriving DecidableEq, Repr

def databaseTypeToString : DatabaseType → String
  | .postgres => "postgres"
  | .inMemory => "in-memory"

/-- Of the thirty-two hexadecimal digits of an id, those from `start` to `stop`. -/
def hexDigits (id : Uuid) (start stop : Nat) : String :=
  String.ofList ((List.range' start (stop - start)).map fun i =>
    Nat.digitChar (id.toNat / 16 ^ (31 - i) % 16))

def uuidText (id : Uuid) : String :=
  "-".intercalate [hexDigits id 0 8, hexDigits id 8 12, hexDigits id 12 16, hexDigits id 16 20,
    hexDigits id 20 32]

example : uuidText 0x67e5504410b1426f9247bb680e5fe0c8 = "67e55044-10b1-426f-9247-bb680e5fe0c8" := by
  decide +kernel

def HesConfig.toFileConfig (c : HesConfig) : FileConfig where
  nodeId := some (uuidText c.nodeId)
  backdoor := some { ip := some c.backdoorIp, port := some c.backdoorPort }
  metrics := some
    { enabled := some c.metricsEnabled, ip := some c.metricsIp, port := some c.metricsPort }
  scheduler := some
    { bucketsNumber := some c.bucketsNumber, testMode := if c.testMode then some true else none }
  database := some
    { dbType := some (databaseTypeToString c.databaseType)
      postgres := some
        { user := some c.postgresUser, password := some c.postgresPassword,
          url := some c.postgresUrl, port := some c.postgresPort } }
  cluster := some
    { enabled := some c.clusterEnabled, nodeName := c.nodeName, ip := some c.clusterIp,
      port := some c.clusterPort, seeds := c.clusterSeeds }
  rpc := some { enabled := some c.rpcEnabled, ip := some c.rpcIp, port := some c.rpcPort }

/-- The configuration, its file, and the calls of `update` in the order in which they
held the lock: the snapshot each of them took, and which of them have returned. -/
structure ConfigManager where
  config : HesConfig
  file : FileConfig
  snapshots : List FileConfig
  returned : Finset Nat

inductive ConfigEvent where
  | mutate (f : HesConfig → HesConfig)
  | save (call : Nat)

namespace ConfigManager

/-- `resolve_config` ends by saving what it resolved. -/
def new (config : HesConfig) : ConfigManager := ⟨config, config.toFileConfig, [], ∅⟩

def mutate (m : ConfigManager) (f : HesConfig → HesConfig) : ConfigManager :=
  { m with config := f m.config, snapshots := m.snapshots ++ [(f m.config).toFileConfig] }

def save (m : ConfigManager) (call : Nat) (snapshot : FileConfig) : ConfigManager :=
  { m with file := snapshot, returned := insert call m.returned }

/-- A call gets the lock, or one that has released it writes the whole file. -/
inductive Step : ConfigManager → ConfigEvent → ConfigManager → Prop
  | mutate {m : ConfigManager} {f : HesConfig → HesConfig} : Step m (.mutate f) (m.mutate f)
  | save {m : ConfigManager} {call : Nat} {snapshot : FileConfig} :
      m.snapshots[call]? = some snapshot → call ∉ m.returned →
      Step m (.save call) (m.save call snapshot)

/-- No call writes the file after one that held the lock later. -/
def InOrder (m : ConfigManager) : ConfigEvent → Prop
  | .mutate _ => True
  | .save call => ∀ k ∈ m.returned, k < call

def AllReturned (m : ConfigManager) : Prop := ∀ call < m.snapshots.length, call ∈ m.returned

/-- The last snapshot is of the configuration as it is, and the file holds the
snapshot of the last call that returned. -/
structure UpToDate (first : FileConfig) (m : ConfigManager) : Prop where
  last : m.snapshots.getLastD first = m.config.toFileConfig
  file : m.returned = ∅ ∧ m.file = first ∨
    ∃ call ∈ m.returned, m.snapshots[call]? = some m.file ∧ ∀ k ∈ m.returned, k ≤ call

variable {m n : ConfigManager} {first : FileConfig}

theorem UpToDate.mutate (h : UpToDate first m) (f : HesConfig → HesConfig) :
    UpToDate first (m.mutate f) := by
  refine ⟨by simp [ConfigManager.mutate], ?_⟩
  cases h.file with
  | inl hnone => exact .inl hnone
  | inr hsome =>
    obtain ⟨call, hcall, hsnap, hmax⟩ := hsome
    obtain ⟨hlt, -⟩ := List.getElem?_eq_some_iff.mp hsnap
    refine .inr ⟨call, hcall, ?_, hmax⟩
    rw [ConfigManager.mutate, List.getElem?_append_left hlt]
    exact hsnap

theorem UpToDate.save {call : Nat} {snapshot : FileConfig} (h : UpToDate first m)
    (hsnap : m.snapshots[call]? = some snapshot) (horder : ∀ k ∈ m.returned, k < call) :
    UpToDate first (m.save call snapshot) := by
  refine ⟨h.last, .inr ⟨call, Finset.mem_insert_self _ _, hsnap, fun k hk => ?_⟩⟩
  cases Finset.mem_insert.mp hk with
  | inl heq => exact heq.le
  | inr hold => exact (horder k hold).le

theorem UpToDate.step {e : ConfigEvent} (h : UpToDate first m)
    (hstep : Guarded InOrder Step m e n) :
    UpToDate first n := by
  obtain ⟨hguard, hone⟩ := hstep
  cases hone with
  | mutate => exact h.mutate _
  | save hsnap _ => exact h.save hsnap hguard

/-- Whoever returned last wrote the last snapshot. -/
theorem UpToDate.file_eq (h : UpToDate first m) (hall : m.AllReturned) :
    m.file = m.config.toFileConfig := by
  rw [← h.last]
  cases h.file with
  | inl hnone =>
    have hempty : m.snapshots = [] := by
      rw [← List.length_eq_zero_iff]
      by_contra hpos
      have hmem := hall 0 (Nat.pos_of_ne_zero hpos)
      simp [hnone.1] at hmem
    rw [hempty, hnone.2]
    rfl
  | inr hsome =>
    obtain ⟨call, -, hsnap, hmax⟩ := hsome
    obtain ⟨hlt, -⟩ := List.getElem?_eq_some_iff.mp hsnap
    have hlast : call = m.snapshots.length - 1 := by
      have hle := hmax _ (hall (m.snapshots.length - 1) (by omega))
      omega
    rw [hlast, ← List.getLast?_eq_getElem?] at hsnap
    rw [List.getLastD_eq_getLast?, hsnap]
    rfl

/-- If every call writes the file before any that held the lock later does, the file
agrees with the configuration whenever all calls have returned. -/
theorem file_converges {config : HesConfig} {es : List ConfigEvent}
    (hrun : Run (Guarded InOrder Step) (new config) es m) (hall : m.AllReturned) :
    m.file = m.config.toFileConfig := by
  have hnew : UpToDate config.toFileConfig (new config) := ⟨rfl, .inl ⟨rfl, rfl⟩⟩
  have hm : UpToDate config.toFileConfig m :=
    hrun.invariant (UpToDate config.toFileConfig) (fun _ _ _ hs hone => hs.step hone) hnew
  exact hm.file_eq hall

/-- The closure of `set_cluster_seeds`. -/
def setClusterSeeds (seeds : Option String) (c : HesConfig) : HesConfig :=
  { c with clusterSeeds := seeds }

def joinSeeds : HesConfig → HesConfig := setClusterSeeds (some "10.0.0.2:6570")
def moreSeeds : HesConfig → HesConfig := setClusterSeeds (some "10.0.0.2:6570,10.0.0.3:6570")

def nodeConfig : HesConfig := { nodeId := 1 }

/- Two calls hold the lock one after the other; each has its snapshot, and neither
   has written the file. -/
def twoSnapshots : ConfigManager := ((new nodeConfig).mutate joinSeeds).mutate moreSeeds

theorem run_twoSnapshots :
    Run (Guarded InOrder Step) (new nodeConfig) [.mutate joinSeeds, .mutate moreSeeds]
      twoSnapshots :=
  .cons ⟨trivial, .mutate⟩ (.single ⟨trivial, .mutate⟩)

theorem file_converges_two :
    (((twoSnapshots.save 0 (joinSeeds nodeConfig).toFileConfig).save 1
        (moreSeeds nodeConfig).toFileConfig).file = (moreSeeds nodeConfig).toFileConfig) := by
  have hfirst : Guarded InOrder Step twoSnapshots (.save 0)
      (twoSnapshots.save 0 (joinSeeds nodeConfig).toFileConfig) :=
    ⟨fun k hk => absurd hk (Finset.notMem_empty k), .save rfl (Finset.notMem_empty 0)⟩
  have hsecond : Guarded InOrder Step (twoSnapshots.save 0 (joinSeeds nodeConfig).toFileConfig)
      (.save 1) ((twoSnapshots.save 0 (joinSeeds nodeConfig).toFileConfig).save 1
        (moreSeeds nodeConfig).toFileConfig) :=
    ⟨fun k hk => by simp_all [save, twoSnapshots, mutate, new], .save rfl (by decide)⟩
  have hall : ((twoSnapshots.save 0 (joinSeeds nodeConfig).toFileConfig).save 1
      (moreSeeds nodeConfig).toFileConfig).AllReturned := by
    unfold AllReturned
    decide
  exact file_converges (run_twoSnapshots.append (.cons hfirst (.single hsecond))) hall

/-- The second call writes the file first, and the first one then writes its older
snapshot over it: both have returned, and the second change is not in the file. -/
theorem change_lost :
    ¬ ∀ (es : List ConfigEvent) (m : ConfigManager), Run Step (new nodeConfig) es m →
      m.AllReturned → m.file = m.config.toFileConfig := by
  intro h
  have hsecond : Step twoSnapshots (.save 1)
      (twoSnapshots.save 1 (moreSeeds nodeConfig).toFileConfig) :=
    .save rfl (Finset.notMem_empty 1)
  have hfirst : Step (twoSnapshots.save 1 (moreSeeds nodeConfig).toFileConfig) (.save 0)
      ((twoSnapshots.save 1 (moreSeeds nodeConfig).toFileConfig).save 0
        (joinSeeds nodeConfig).toFileConfig) :=
    .save rfl (by decide)
  have hall : ((twoSnapshots.save 1 (moreSeeds nodeConfig).toFileConfig).save 0
      (joinSeeds nodeConfig).toFileConfig).AllReturned := by
    unfold AllReturned
    decide
  have hfile := h _ _ (run_twoSnapshots.of_guarded.append (.cons hsecond (.single hfirst))) hall
  have hne : (joinSeeds nodeConfig).toFileConfig ≠ (moreSeeds nodeConfig).toFileConfig := by
    decide +kernel
  exact hne hfile

end ConfigManager

end HeadEnd
