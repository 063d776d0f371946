import HeadEnd.Config
import HeadEnd.Lib.Yaml

/-! The configuration as a text on disk. It is read when the node starts, with the
environment filled in for every `${NAME}`, and written again after every change. The
writer does not know of the placeholders: a value that looks like one is saved as it is. -/
namespace HeadEnd
open Transition Text

inductive ConfigError where
  | ioError (text : String)
  | yamlParseError (text : String)
  | envVarNotFound (name : String)
  | invalidNodeId (id : String)
  | invalidDatabaseType (text : String)
  | noHomeDirectory
  deriving DecidableEq, Repr

/- `buckets_number` is a `usize`. -/
def FileConfig.InRange (fc : FileConfig) : Prop :=
  ∀ n ∈ fc.scheduler.bind (·.bucketsNumber), n < 2 ^ 64

/-- The values that are strings, in the order of the file. -/
def FileConfig.strings (fc : FileConfig) : List String :=
  [fc.nodeId, fc.backdoor.bind (·.ip), fc.backdoor.bind (·.port),
    fc.metrics.bind (·.ip), fc.metrics.bind (·.port), fc.database.bind (·.dbType),
    fc.database.bind (·.postgres) |>.bind (·.user),
    fc.database.bind (·.postgres) |>.bind (·.password),
    fc.database.bind (·.postgres) |>.bind (·.url),
    fc.database.bind (·.postgres) |>.bind (·.port),
    fc.cluster.bind (·.nodeName), fc.cluster.bind (·.ip), fc.cluster.bind (·.seeds),
    fc.rpc.bind (·.ip)].reduceOption

/-- The YAML library. It reads back what it wrote, and it writes the strings in their order,
each on lines of its own and with its dollar signs and braces where they are; it has no
use for such characters itself, as no section that is saved is empty. -/
structure SerdeYaml where
  toText : FileConfig → String
  fromStr : String → Except String FileConfig
  fromStr_toText : ∀ fc : FileConfig, fc.InRange → fromStr (toText fc) = .ok fc
  inRange : ∀ text fc, fromStr text = .ok fc → fc.InRange
  placeholders : ∀ c : HesConfig, HasPlaceholder (toText c.toFileConfig).toList ↔
    HasPlaceholder (linesOf c.toFileConfig.strings)

abbrev Environment := String → Option String

def substituteEnvVars (env : Environment) (input : String) : Except ConfigError String :=
  (captures .text input.toList).foldlM (fun result name =>
    match env (String.ofList name) with
    | none => .error (.envVarNotFound (String.ofList name))
    | some value =>
      .ok (String.ofList (replaceAll (placeholder name) value.toList 0 result.toList))) input

/-- `read` is what reading the file gives. -/
def loadFileConfig (yaml : SerdeYaml) (env : Environment) (read : Except String String) :
    Except ConfigError FileConfig := do
  let raw ← read.mapError .ioError
  let substituted ← substituteEnvVars env raw
  (yaml.fromStr substituted).mapError .yamlParseError

def parseDatabaseType (s : String) : Except ConfigError DatabaseType :=
  if s = "postgres" then .ok .postgres
  else if s = "in-memory" ∨ s = "in_memory" ∨ s = "inmemory" then .ok .inMemory
  else .error (.invalidDatabaseType s)

def parseSimple (digits : List Char) : Option Uuid :=
  (digits.mapM hexValue).map fun values => BitVec.ofNat 128 (ofDigits 16 values)

def parseHyphenated (text : List Char) : Option Uuid :=
  if text[8]? = some '-' ∧ text[13]? = some '-' ∧ text[18]? = some '-' ∧ text[23]? = some '-' then
    parseSimple (text.take 8 ++ (text.drop 9).take 4 ++ (text.drop 14).take 4 ++
      (text.drop 19).take 4 ++ text.drop 24)
  else none

/-- The library's `Uuid::parse_str`: plain, hyphenated, in braces, or as a URN. -/
def parseStr (s : String) : Option Uuid :=
  let text := s.toList
  if text.length = 32 then parseSimple text
  else if text.length = 36 then parseHyphenated text
  else if text.length = 38 ∧ text.head? = some '{' ∧ text.getLast? = some '}' then
    parseHyphenated text.tail.dropLast
  else if text.length = 45 ∧ text.take 9 = "urn:uuid:".toList then parseHyphenated (text.drop 9)
  else none

def parseNodeId (id : String) : Except ConfigError Uuid :=
  match parseStr id with
  | none => .error (.invalidNodeId id)
  | some nodeId => .ok nodeId

/- What the file does not say stays as it is. -/
def applyFileConfig (config : HesConfig) (fc : FileConfig) : Except ConfigError HesConfig := do
  let nodeId ← fc.nodeId.elim (.ok config.nodeId) parseNodeId
  let databaseType ← (fc.database.bind (·.dbType)).elim (.ok config.databaseType) parseDatabaseType
  let postgres := fc.database.bind (·.postgres)
  return {
    nodeId, databaseType
    backdoorIp := (fc.backdoor.bind (·.ip)).getD config.backdoorIp
    backdoorPort := (fc.backdoor.bind (·.port)).getD config.backdoorPort
    metricsEnabled := (fc.metrics.bind (·.enabled)).getD config.metricsEnabled
    metricsIp := (fc.metrics.bind (·.ip)).getD config.metricsIp
    metricsPort := (fc.metrics.bind (·.port)).getD config.metricsPort
    bucketsNumber := (fc.scheduler.bind (·.bucketsNumber)).getD config.bucketsNumber
    testMode := (fc.scheduler.bind (·.testMode)).getD config.testMode
    postgresUser := (postgres.bind (·.user)).getD config.postgresUser
    postgresPassword := (postgres.bind (·.password)).getD config.postgresPassword
    postgresUrl := (postgres.bind (·.url)).getD config.postgresUrl
    postgresPort := (postgres.bind (·.port)).getD config.postgresPort
    clusterEnabled := (fc.cluster.bind (·.enabled)).getD config.clusterEnabled
    nodeName := (fc.cluster.bind (·.nodeName)).or config.nodeName
    clusterIp := (fc.cluster.bind (·.ip)).getD config.clusterIp
    clusterPort := (fc.cluster.bind (·.port)).getD config.clusterPort
    clusterSeeds := (fc.cluster.bind (·.seeds)).or config.clusterSeeds
    rpcEnabled := (fc.rpc.bind (·.enabled)).getD config.rpcEnabled
    rpcIp := (fc.rpc.bind (·.ip)).getD config.rpcIp
    rpcPort := (fc.rpc.bind (·.port)).getD config.rpcPort }

/-- The file applied to the default configuration, whose id is a fresh one. -/
def readConfig (yaml : SerdeYaml) (env : Environment) (newV4 : Uuid)
    (read : Except String String) : Except ConfigError HesConfig := do
  applyFileConfig { nodeId := newV4 } (← loadFileConfig yaml env read)

structure CliOverrides where
  backdoorIp : Option String := none
  backdoorPort : Option String := none
  noMetrics : Bool := false
  metricsIp : Option String := none
  metricsPort : Option String := none
  bucketsNumber : Option UInt64 := none
  databaseType : Option DatabaseType := none
  postgresUser : Option String := none
  postgresPassword : Option String := none
  postgresUrl : Option String := none
  postgresPort : Option String := none
  disableCluster : Bool := false
  nodeName : Option String := none
  clusterIp : Option String := none
  clusterPort : Option UInt16 := none
  clusterSeeds : Option String := none
  disableRpc : Bool := false
  rpcIp : Option String := none
  rpcPort : Option UInt16 := none
  testMode : Bool := false

def applyCliOverrides (config : HesConfig) (cli : CliOverrides) : HesConfig where
  nodeId := config.nodeId
  backdoorIp := cli.backdoorIp.getD config.backdoorIp
  backdoorPort := cli.backdoorPort.getD config.backdoorPort
  metricsEnabled := if cli.noMetrics then false else config.metricsEnabled
  metricsIp := cli.metricsIp.getD config.metricsIp
  metricsPort := cli.metricsPort.getD config.metricsPort
  bucketsNumber := (cli.bucketsNumber.map UInt64.toNat).getD config.bucketsNumber
  databaseType := cli.databaseType.getD config.databaseType
  postgresUser := cli.postgresUser.getD config.postgresUser
  postgresPassword := cli.postgresPassword.getD config.postgresPassword
  postgresUrl := cli.postgresUrl.getD config.postgresUrl
  postgresPort := cli.postgresPort.getD config.postgresPort
  clusterEnabled := if cli.disableCluster then false else config.clusterEnabled
  nodeName := cli.nodeName.or config.nodeName
  clusterIp := cli.clusterIp.getD config.clusterIp
  clusterPort := cli.clusterPort.getD config.clusterPort
  clusterSeeds := cli.clusterSeeds.or config.clusterSeeds
  rpcEnabled := if cli.disableRpc then false else config.rpcEnabled
  rpcIp := cli.rpcIp.getD config.rpcIp
  rpcPort := cli.rpcPort.getD config.rpcPort
  testMode := if cli.testMode then true else config.testMode

/-- What a starting node finds: `read path` is `none` if there is no such file. -/
structure Machine where
  env : Environment
  homeDir : Option String
  read : String → Option (Except String String)
  write : String → Except String Unit
  newV4 : Uuid

def defaultConfigPath (homeDir : Option String) : Except ConfigError String :=
  match homeDir with
  | none => .error .noHomeDirectory
  | some home => .ok (home ++ "/.hes/config.yaml")

def resolveConfig (yaml : SerdeYaml) (machine : Machine) (cliConfigPath : Option String)
    (cli : CliOverrides) : Except ConfigError ConfigManager := do
  let path ← cliConfigPath.elim (defaultConfigPath machine.homeDir) .ok
  let config ← (machine.read path).elim (.ok { nodeId := machine.newV4 })
    (readConfig yaml machine.env machine.newV4)
  (machine.write path).mapError .ioError
  return .new (applyCliOverrides config cli)

inductive Validated where
  | str (v : String)
  | bool (v : Bool)
  | port (v : String)
  | u16 (v : UInt16)
  | usize (v : UInt64)
  | optStr (v : Option String)

/-- `FromStr` of the unsigned integers: a plus sign, if any, and digits. -/
def parseUnsigned (bound : Nat) (s : String) : Option Nat :=
  let digits : List Char := match s.toList with
    | '+' :: rest => rest
    | text => text
  let n := ofDigits 10 (digits.map fun ch => ch.toNat - 48)
  if !digits.isEmpty && digits.all Char.isDigit && decide (n < bound) then some n else none

def validateIp (key value : String) : Except String Validated :=
  if value.isEmpty then .error s!"'{key}' cannot be empty" else .ok (.str value)

def validateBool (value : String) : Except String Validated :=
  if value = "true" then .ok (.bool true)
  else if value = "false" then .ok (.bool false)
  else .error s!"'{value}' is not valid — use 'true' or 'false'"

def validatePort (value : String) : Except String UInt16 :=
  match parseUnsigned (2 ^ 16) value with
  | none => .error s!"'{value}' is not a valid port number (1-65535)"
  | some p => if p = 0 then .error "port must be between 1 and 65535" else .ok (UInt16.ofNat p)

def validateBuckets (value : String) : Except String Validated :=
  match parseUnsigned (2 ^ 64) value with
  | none => .error s!"'{value}' is not a valid positive integer"
  | some n =>
    if n = 0 then .error "buckets_number must be greater than 0"
    else .ok (.usize (UInt64.ofNat n))

def validateOptional (value : String) : Validated :=
  .optStr (if value.isEmpty then none else some value)

/-- The first half of `set_config_value`, before anything is changed. -/
def validate (key value : String) : Except String Validated :=
  match key with
  | "node_id" | "database_type" => .error s!"'{key}' is read-only"
  | "backdoor_ip" | "metrics_ip" | "cluster_ip" => validateIp key value
  | "backdoor_port" | "metrics_port" => do
    let p ← validatePort value
    return .port (toString p.toNat)
  | "metrics_enabled" | "cluster_enabled" => validateBool value
  | "buckets_number" => validateBuckets value
  | "cluster_port" => do
    let p ← validatePort value
    return .u16 p
  | "rpc_enabled" | "test_mode" => validateBool value
  | "rpc_ip" => validateIp key value
  | "rpc_port" => do
    let p ← validatePort value
    return .u16 p
  | "cluster_seeds" => .ok (validateOptional value)
  | "node_name" => .ok (validateOptional value)
  | _ => .error s!"unknown config key '{key}'"

/-- The closure that `set_config_value` hands to `update`. -/
def Validated.assign (validated : Validated) (key : String) (c : HesConfig) : HesConfig :=
  match validated, key with
  | .str v, "backdoor_ip" => { c with backdoorIp := v }
  | .str v, "metrics_ip" => { c with metricsIp := v }
  | .str v, "cluster_ip" => { c with clusterIp := v }
  | .port v, "backdoor_port" => { c with backdoorPort := v }
  | .port v, "metrics_port" => { c with metricsPort := v }
  | .bool v, "metrics_enabled" => { c with metricsEnabled := v }
  | .bool v, "cluster_enabled" => { c with clusterEnabled := v }
  | .usize v, "buckets_number" => { c with bucketsNumber := v.toNat }
  | .u16 v, "cluster_port" => { c with clusterPort := v }
  | .bool v, "rpc_enabled" => { c with rpcEnabled := v }
  | .bool v, "test_mode" => { c with testMode := v }
  | .str v, "rpc_ip" => { c with rpcIp := v }
  | .u16 v, "rpc_port" => { c with rpcPort := v }
  | .optStr v, "cluster_seeds" => { c with clusterSeeds := v }
  | .optStr v, "node_name" => { c with nodeName := v }
  | _, _ => c

inductive SetError where
  | rejected (text : String)
  | notSaved (e : ConfigError)
  deriving DecidableEq, Repr

inductive ConfigCall where
  | setConfigValue (key value : String)
  | setClusterSeeds (seeds : Option String)

namespace ConfigManager

/-- A call of `update` from start to end, with nothing in between; `written` is what
writing the file gives. If it fails, the change stays. -/
def update (m : ConfigManager) (f : HesConfig → HesConfig) (written : Except String Unit) :
    ConfigManager × Except ConfigError Unit :=
  match written with
  | .ok () => ((m.mutate f).save m.snapshots.length (f m.config).toFileConfig, .ok ())
  | .error text => (m.mutate f, .error (.ioError text))

def setConfigValue (m : ConfigManager) (key value : String) (written : Except String Unit) :
    ConfigManager × Except SetError Unit :=
  match validate key value with
  | .error text => (m, .error (.rejected text))
  | .ok validated =>
    let (n, result) := m.update (validated.assign key) written
    (n, result.mapError .notSaved)

def call (m : ConfigManager) (written : Except String Unit) :
    ConfigCall → ConfigManager × Except SetError Unit
  | .setConfigValue key value => m.setConfigValue key value written
  | .setClusterSeeds seeds =>
    let (n, result) := m.update (setClusterSeeds seeds) written
    (n, result.mapError .notSaved)

/-- The call returns `Ok`. -/
def Accepted (m : ConfigManager) (c : ConfigCall) (n : ConfigManager) : Prop :=
  ∃ written, m.call written c = (n, .ok ())

end ConfigManager

section
variable {c : HesConfig} {id : Uuid}

def HesConfig.InRange (c : HesConfig) : Prop := c.bucketsNumber < 2 ^ 64

theorem HesConfig.inRange_default (newV4 : Uuid) : HesConfig.InRange { nodeId := newV4 } := by
  have hdefault : 48 < 2 ^ 64 := by decide
  exact hdefault

theorem HesConfig.InRange.toFileConfig (h : c.InRange) : c.toFileConfig.InRange := by
  intro n hn
  cases Option.mem_some_iff.mp hn
  exact h

theorem mapM_hexValue (places : List Nat) (digit : Nat → Nat) (h : ∀ i, digit i < 16) :
    (places.map fun i => Nat.digitChar (digit i)).mapM hexValue = some (places.map digit) := by
  induction places with
  | nil => rfl
  | cons i places ih =>
    rw [List.map_cons, List.mapM_cons, hexValue_digitChar (h i), ih]
    rfl

theorem parseSimple_digits (id : Uuid) :
    parseSimple ((List.range 32).map fun i => Nat.digitChar (id.toNat / 16 ^ (31 - i) % 16)) =
      some id := by
  have hdigit : ∀ i, id.toNat / 16 ^ (31 - i) % 16 < 16 := fun i => Nat.mod_lt _ (by decide)
  have hvalue : ofDigits 16 ((List.range 32).map fun i => id.toNat / 16 ^ (31 - i) % 16) =
      id.toNat := by
    have hlt : id.toNat < 16 ^ 32 := id.isLt
    exact (ofDigits_range 32 id.toNat).trans (Nat.mod_eq_of_lt hlt)
  rw [parseSimple, mapM_hexValue _ _ hdigit, Option.map_some, hvalue, BitVec.ofNat_toNat,
    BitVec.setWidth_eq]

/-- Groups of the right lengths, with hyphens in between, are put together. -/
theorem parseHyphenated_groups {a b c d e : List Char} (ha : a.length = 8) (hb : b.length = 4)
    (hc : c.length = 4) (hd : d.length = 4) :
    parseHyphenated (a ++ '-' :: (b ++ '-' :: (c ++ '-' :: (d ++ '-' :: e)))) =
      parseSimple (a ++ b ++ c ++ d ++ e) := by
  simp [parseHyphenated, List.getElem?_append, List.drop_append, List.drop_of_length_le,
    ha, hb, hc, hd]

theorem toList_uuidText (id : Uuid) : (uuidText id).toList =
    (hexDigits id 0 8).toList ++ '-' :: ((hexDigits id 8 12).toList ++ '-' ::
      ((hexDigits id 12 16).toList ++ '-' :: ((hexDigits id 16 20).toList ++ '-' ::
        (hexDigits id 20 32).toList))) := by
  simp [uuidText]

theorem length_hexDigits (id : Uuid) (start stop : Nat) :
    (hexDigits id start stop).toList.length = stop - start := by
  simp [hexDigits]

/-- An id is read back from its text. -/
theorem parseStr_uuidText (id : Uuid) : parseStr (uuidText id) = some id := by
  have hgroups : (hexDigits id 0 8).toList ++ (hexDigits id 8 12).toList ++
      (hexDigits id 12 16).toList ++ (hexDigits id 16 20).toList ++ (hexDigits id 20 32).toList =
        (List.range 32).map fun i => Nat.digitChar (id.toNat / 16 ^ (31 - i) % 16) := by
    simp only [hexDigits, String.toList_ofList, ← List.map_append]
    rfl
  have hlength : (uuidText id).toList.length = 36 := by
    simp only [toList_uuidText, List.length_append, List.length_cons, length_hexDigits]
  rw [parseStr, if_neg (by omega), if_pos hlength, toList_uuidText,
    parseHyphenated_groups (length_hexDigits id 0 8) (length_hexDigits id 8 12)
      (length_hexDigits id 12 16) (length_hexDigits id 16 20), hgroups, parseSimple_digits]

theorem of_bind_eq_ok {ε α β : Type} {x : Except ε α} {f : α → Except ε β} {b : β}
    (h : x >>= f = .ok b) : ∃ a, x = .ok a ∧ f a = .ok b := by
  cases x with
  | error e => cases h
  | ok a => exact ⟨a, rfl, h⟩

theorem bind_of_eq_ok {ε α β : Type} {x : Except ε α} {a : α} (f : α → Except ε β)
    (h : x = .ok a) : x >>= f = f a := by
  rw [h]
  rfl

theorem of_mapError_eq_ok {ε ε' α : Type} {x : Except ε α} {f : ε → ε'} {a : α}
    (h : x.mapError f = .ok a) : x = .ok a := by
  cases x with
  | error e => cases h
  | ok b => exact congrArg Except.ok (Except.ok.inj h)

theorem parseDatabaseType_toString (t : DatabaseType) :
    parseDatabaseType (databaseTypeToString t) = .ok t := by
  cases t <;> rfl

/-- What is saved says everything: nothing is left to the configuration it is applied to. -/
theorem applyFileConfig_toFileConfig (c : HesConfig) (newV4 : Uuid) :
    applyFileConfig { nodeId := newV4 } c.toFileConfig = .ok c := by
  have htest : (if c.testMode then some true else none).getD false = c.testMode := by
    cases c.testMode <;> rfl
  have hid : parseNodeId (uuidText c.nodeId) = .ok c.nodeId := by
    rw [parseNodeId, parseStr_uuidText]
  simp only [applyFileConfig, HesConfig.toFileConfig, Option.elim_some, Option.bind_some,
    Option.getD_some, Option.or_none, hid, parseDatabaseType_toString, htest]
  rfl

theorem applyFileConfig_bucketsNumber {config : HesConfig} {fc : FileConfig}
    (h : applyFileConfig config fc = .ok c) :
    c.bucketsNumber = (fc.scheduler.bind (·.bucketsNumber)).getD config.bucketsNumber := by
  obtain ⟨nodeId, -, h⟩ := of_bind_eq_ok h
  obtain ⟨databaseType, -, h⟩ := of_bind_eq_ok h
  cases h
  rfl

theorem HesConfig.InRange.applyFileConfig {config : HesConfig} {fc : FileConfig}
    (h : HeadEnd.applyFileConfig config fc = .ok c) (hfc : fc.InRange) (hconfig : config.InRange) :
    c.InRange := by
  rw [HesConfig.InRange, applyFileConfig_bucketsNumber h]
  cases hbuckets : fc.scheduler.bind (·.bucketsNumber) with
  | none => exact hconfig
  | some n => exact hfc n hbuckets

theorem HesConfig.InRange.applyCliOverrides (h : c.InRange) (cli : CliOverrides) :
    (applyCliOverrides c cli).InRange := by
  rw [HesConfig.InRange, HeadEnd.applyCliOverrides]
  cases cli.bucketsNumber with
  | none => exact h
  | some n => exact n.toNat_lt

theorem HesConfig.InRange.assign (h : c.InRange) (validated : Validated) (key : String) :
    (validated.assign key c).InRange := by
  unfold Validated.assign
  split
  case h_8 v => exact v.toNat_lt
  all_goals exact h

/-- Without a placeholder nothing depends on the environment. -/
theorem substituteEnvVars_of_not_hasPlaceholder {input : String} (env : Environment)
    (h : ¬ HasPlaceholder input.toList) : substituteEnvVars env input = .ok input := by
  rw [substituteEnvVars, captures_eq_nil_iff.mpr h]
  rfl

theorem substituteEnvVars_empty {input : String} (h : HasPlaceholder input.toList) :
    ∃ name, substituteEnvVars (fun _ => none) input = .error (.envVarNotFound name) := by
  cases hcaptures : captures .text input.toList with
  | nil => exact absurd h (captures_eq_nil_iff.mp hcaptures)
  | cons name names =>
    refine ⟨String.ofList name, ?_⟩
    rw [substituteEnvVars, hcaptures]
    rfl

/-- A saved configuration is read back in every environment, exactly if its text has no
placeholder. -/
theorem readConfig_toText_iff (yaml : SerdeYaml) (h : c.InRange) :
    (∀ env newV4, readConfig yaml env newV4 (.ok (yaml.toText c.toFileConfig)) = .ok c) ↔
      ¬ HasPlaceholder (yaml.toText c.toFileConfig).toList := by
  constructor
  · intro hread hplaceholder
    obtain ⟨name, hname⟩ := substituteEnvVars_empty hplaceholder
    have hempty := hread (fun _ => none) 0
    obtain ⟨fc, hload, -⟩ := of_bind_eq_ok hempty
    obtain ⟨raw, hraw, hload⟩ := of_bind_eq_ok hload
    cases hraw
    obtain ⟨text, htext, -⟩ := of_bind_eq_ok hload
    rw [hname] at htext
    cases htext
  · intro hplaceholder env newV4
    have hload : loadFileConfig yaml env (.ok (yaml.toText c.toFileConfig)) =
        .ok c.toFileConfig := by
      have hraw : (Except.ok (yaml.toText c.toFileConfig)).mapError ConfigError.ioError =
          .ok (yaml.toText c.toFileConfig) := rfl
      have hsubst := substituteEnvVars_of_not_hasPlaceholder env hplaceholder
      rw [loadFileConfig, bind_of_eq_ok _ hraw, bind_of_eq_ok _ hsubst,
        yaml.fromStr_toText c.toFileConfig h.toFileConfig]
      rfl
    rw [readConfig, bind_of_eq_ok _ hload, applyFileConfig_toFileConfig]

theorem HesConfig.InRange.readConfig {yaml : SerdeYaml} {env : Environment} {newV4 : Uuid}
    {read : Except String String} (h : HeadEnd.readConfig yaml env newV4 read = .ok c) :
    c.InRange := by
  obtain ⟨fc, hload, happly⟩ := of_bind_eq_ok h
  obtain ⟨raw, -, hload⟩ := of_bind_eq_ok hload
  obtain ⟨text, -, hparse⟩ := of_bind_eq_ok hload
  have hfc : fc.InRange := yaml.inRange text fc (of_mapError_eq_ok hparse)
  exact .applyFileConfig happly hfc (HesConfig.inRange_default newV4)

theorem of_resolveConfig_eq_ok {yaml : SerdeYaml} {machine : Machine} {path : Option String}
    {cli : CliOverrides} {m : ConfigManager} (h : resolveConfig yaml machine path cli = .ok m) :
    ∃ c : HesConfig, c.InRange ∧ m = .new c := by
  obtain ⟨path, -, h⟩ := of_bind_eq_ok h
  obtain ⟨c, hc, h⟩ := of_bind_eq_ok h
  obtain ⟨_, -, h⟩ := of_bind_eq_ok h
  have hrange : c.InRange := by
    cases hread : machine.read path with
    | none =>
      rw [hread] at hc
      cases hc
      exact HesConfig.inRange_default machine.newV4
    | some read =>
      rw [hread] at hc
      exact .readConfig hc
  cases h
  exact ⟨_, hrange.applyCliOverrides cli, rfl⟩

end

/- The derived `Serialize` and `Deserialize`: what is none is left out, and what the file does
   not have is none. -/
section Derived
open Yaml

def BackdoorFileConfig.toBlock (c : BackdoorFileConfig) : Block :=
  .entry ⟨"ip", by decide⟩ (c.ip.map .str)
    (.entry ⟨"port", by decide⟩ (c.port.map .str) .nil)

def BackdoorFileConfig.ofBlock (b : Block) : Except String BackdoorFileConfig := do
  return ⟨← readStr (b.find "ip"), ← readStr (b.find "port")⟩

def MetricsFileConfig.toBlock (c : MetricsFileConfig) : Block :=
  .entry ⟨"enabled", by decide⟩ (c.enabled.map .bool)
    (.entry ⟨"ip", by decide⟩ (c.ip.map .str)
      (.entry ⟨"port", by decide⟩ (c.port.map .str) .nil))

def MetricsFileConfig.ofBlock (b : Block) : Except String MetricsFileConfig := do
  return ⟨← readBool (b.find "enabled"), ← readStr (b.find "ip"), ← readStr (b.find "port")⟩

def SchedulerFileConfig.toBlock (c : SchedulerFileConfig) : Block :=
  .entry ⟨"buckets_number", by decide⟩ (c.bucketsNumber.map .nat)
    (.entry ⟨"test_mode", by decide⟩ (c.testMode.map .bool) .nil)

def SchedulerFileConfig.ofBlock (b : Block) : Except String SchedulerFileConfig := do
  return ⟨← readNat (2 ^ 64) (b.find "buckets_number"), ← readBool (b.find "test_mode")⟩

def PostgresFileConfig.toBlock (c : PostgresFileConfig) : Block :=
  .entry ⟨"user", by decide⟩ (c.user.map .str)
    (.entry ⟨"password", by decide⟩ (c.password.map .str)
      (.entry ⟨"url", by decide⟩ (c.url.map .str)
        (.entry ⟨"port", by decide⟩ (c.port.map .str) .nil)))

def PostgresFileConfig.ofBlock (b : Block) : Except String PostgresFileConfig := do
  return ⟨← readStr (b.find "user"), ← readStr (b.find "password"), ← readStr (b.find "url"),
    ← readStr (b.find "port")⟩

def DatabaseFileConfig.toBlock (c : DatabaseFileConfig) : Block :=
  .entry ⟨"type", by decide⟩ (c.dbType.map .str)
    (.under ⟨"postgres", by decide⟩ (c.postgres.map PostgresFileConfig.toBlock) .nil)

def DatabaseFileConfig.ofBlock (b : Block) : Except String DatabaseFileConfig := do
  return ⟨← readStr (b.find "type"), ← readBlock PostgresFileConfig.ofBlock (b.find "postgres")⟩

def readU16 (v : Option Value) : Except String (Option UInt16) :=
  (readNat (2 ^ 16) v).map fun n => n.map UInt16.ofNat

def ClusterFileConfig.toBlock (c : ClusterFileConfig) : Block :=
  .entry ⟨"enabled", by decide⟩ (c.enabled.map .bool)
    (.entry ⟨"node_name", by decide⟩ (c.nodeName.map .str)
      (.entry ⟨"ip", by decide⟩ (c.ip.map .str)
        (.entry ⟨"port", by decide⟩ (c.port.map fun p => .nat p.toNat)
          (.entry ⟨"seeds", by decide⟩ (c.seeds.map .str) .nil))))

def ClusterFileConfig.ofBlock (b : Block) : Except String ClusterFileConfig := do
  return ⟨← readBool (b.find "enabled"), ← readStr (b.find "node_name"), ← readStr (b.find "ip"),
    ← readU16 (b.find "port"), ← readStr (b.find "seeds")⟩

def RpcFileConfig.toBlock (c : RpcFileConfig) : Block :=
  .entry ⟨"enabled", by decide⟩ (c.enabled.map .bool)
    (.entry ⟨"ip", by decide⟩ (c.ip.map .str)
      (.entry ⟨"port", by decide⟩ (c.port.map fun p => .nat p.toNat) .nil))

def RpcFileConfig.ofBlock (b : Block) : Except String RpcFileConfig := do
  return ⟨← readBool (b.find "enabled"), ← readStr (b.find "ip"), ← readU16 (b.find "port")⟩

def FileConfig.toBlock (c : FileConfig) : Block :=
  .entry ⟨"node_id", by decide⟩ (c.nodeId.map .str)
    (.under ⟨"backdoor", by decide⟩ (c.backdoor.map BackdoorFileConfig.toBlock)
      (.under ⟨"metrics", by decide⟩ (c.metrics.map MetricsFileConfig.toBlock)
        (.under ⟨"scheduler", by decide⟩ (c.scheduler.map SchedulerFileConfig.toBlock)
          (.under ⟨"database", by decide⟩ (c.database.map DatabaseFileConfig.toBlock)
            (.under ⟨"cluster", by decide⟩ (c.cluster.map ClusterFileConfig.toBlock)
              (.under ⟨"rpc", by decide⟩ (c.rpc.map RpcFileConfig.toBlock) .nil))))))

def FileConfig.ofBlock (b : Block) : Except String FileConfig := do
  return {
    nodeId := ← readStr (b.find "node_id")
    backdoor := ← readBlock BackdoorFileConfig.ofBlock (b.find "backdoor")
    metrics := ← readBlock MetricsFileConfig.ofBlock (b.find "metrics")
    scheduler := ← readBlock SchedulerFileConfig.ofBlock (b.find "scheduler")
    database := ← readBlock DatabaseFileConfig.ofBlock (b.find "database")
    cluster := ← readBlock ClusterFileConfig.ofBlock (b.find "cluster")
    rpc := ← readBlock RpcFileConfig.ofBlock (b.find "rpc") }

theorem readU16_map (x : Option UInt16) :
    readU16 (x.map (Value.scalar ∘ fun p => .nat p.toNat)) = .ok x := by
  cases x with
  | none => rfl
  | some p => simp [readU16, readNat, p.toNat_lt, Except.map]

theorem BackdoorFileConfig.ofBlock_toBlock (c : BackdoorFileConfig) :
    ofBlock c.toBlock = .ok c := by
  simp [ofBlock, toBlock, Block.find_entry, Block.find, readStr_map]
  rfl

theorem MetricsFileConfig.ofBlock_toBlock (c : MetricsFileConfig) : ofBlock c.toBlock = .ok c := by
  simp [ofBlock, toBlock, Block.find_entry, Block.find, readStr_map, readBool_map]
  rfl

theorem SchedulerFileConfig.ofBlock_toBlock {c : SchedulerFileConfig}
    (h : ∀ n ∈ c.bucketsNumber, n < 2 ^ 64) : ofBlock c.toBlock = .ok c := by
  simp [ofBlock, toBlock, Block.find_entry, Block.find, readNat_map h, readBool_map,
    -Nat.reducePow]
  rfl

theorem PostgresFileConfig.ofBlock_toBlock (c : PostgresFileConfig) :
    ofBlock c.toBlock = .ok c := by
  simp [ofBlock, toBlock, Block.find_entry, Block.find, readStr_map]
  rfl

theorem DatabaseFileConfig.ofBlock_toBlock (c : DatabaseFileConfig) :
    ofBlock c.toBlock = .ok c := by
  simp [ofBlock, toBlock, Block.find_entry, Block.find_under, Block.find, readStr_map,
    readBlock_map PostgresFileConfig.ofBlock_toBlock]
  rfl

theorem ClusterFileConfig.ofBlock_toBlock (c : ClusterFileConfig) : ofBlock c.toBlock = .ok c := by
  simp [ofBlock, toBlock, Block.find_entry, Block.find, readStr_map, readBool_map, readU16_map]
  rfl

theorem RpcFileConfig.ofBlock_toBlock (c : RpcFileConfig) : ofBlock c.toBlock = .ok c := by
  simp [ofBlock, toBlock, Block.find_entry, Block.find, readStr_map, readBool_map, readU16_map]
  rfl

theorem FileConfig.ofBlock_toBlock {c : FileConfig} (h : c.InRange) :
    ofBlock c.toBlock = .ok c := by
  have hscheduler : readBlock SchedulerFileConfig.ofBlock
      (c.scheduler.map (Value.block ∘ SchedulerFileConfig.toBlock)) = .ok c.scheduler := by
    cases hsection : c.scheduler with
    | none => rfl
    | some s =>
      have hs : ∀ n ∈ s.bucketsNumber, n < 2 ^ 64 := fun n hn => h n (by simpa [hsection] using hn)
      simp only [Option.map_some, Function.comp_apply, readBlock,
        SchedulerFileConfig.ofBlock_toBlock hs]
      rfl
  simp [ofBlock, toBlock, Block.find_entry, Block.find_under, Block.find, readStr_map, hscheduler,
    readBlock_map BackdoorFileConfig.ofBlock_toBlock,
    readBlock_map MetricsFileConfig.ofBlock_toBlock,
    readBlock_map DatabaseFileConfig.ofBlock_toBlock,
    readBlock_map ClusterFileConfig.ofBlock_toBlock, readBlock_map RpcFileConfig.ofBlock_toBlock]
  rfl

theorem FileConfig.inRange_of_ofBlock {b : Block} {c : FileConfig} (h : ofBlock b = .ok c) :
    c.InRange := by
  obtain ⟨nodeId, -, h⟩ := of_bind_eq_ok h
  obtain ⟨backdoor, -, h⟩ := of_bind_eq_ok h
  obtain ⟨metrics, -, h⟩ := of_bind_eq_ok h
  obtain ⟨scheduler, hscheduler, h⟩ := of_bind_eq_ok h
  obtain ⟨database, -, h⟩ := of_bind_eq_ok h
  obtain ⟨cluster, -, h⟩ := of_bind_eq_ok h
  obtain ⟨rpc, -, h⟩ := of_bind_eq_ok h
  cases h
  intro n hn
  obtain ⟨s, rfl, hs⟩ := Option.mem_bind_iff.mp hn
  have hblock : ∃ inner, SchedulerFileConfig.ofBlock inner = .ok s := by
    unfold readBlock at hscheduler
    split at hscheduler
    next => cases hscheduler
    next inner _ =>
      refine ⟨inner, ?_⟩
      cases hread : SchedulerFileConfig.ofBlock inner with
      | error e =>
        rw [hread] at hscheduler
        cases hscheduler
      | ok s' =>
        rw [hread] at hscheduler
        cases hscheduler
        rfl
    next => cases hscheduler
  obtain ⟨inner, hinner⟩ := hblock
  obtain ⟨number, hnumber, hinner⟩ := of_bind_eq_ok hinner
  obtain ⟨testMode, -, hinner⟩ := of_bind_eq_ok hinner
  cases hinner
  exact lt_of_readNat hnumber n hs

/-- No section that is saved is empty. -/
theorem full_toBlock (c : HesConfig) : c.toFileConfig.toBlock.Full := by
  simp [HesConfig.toFileConfig, FileConfig.toBlock, BackdoorFileConfig.toBlock,
    MetricsFileConfig.toBlock, SchedulerFileConfig.toBlock, DatabaseFileConfig.toBlock,
    PostgresFileConfig.toBlock, ClusterFileConfig.toBlock, RpcFileConfig.toBlock, Block.full_entry,
    Block.full_under, Block.entry_some_ne_nil, Block.Full]

theorem strings_toBlock (c : HesConfig) :
    c.toFileConfig.toBlock.strings = c.toFileConfig.strings := by
  obtain ⟨_, _, _, _, _, _, _, _, _, _, _, _, _, nodeName, _, _, seeds, _, _, _, testMode⟩ := c
  cases nodeName <;> cases seeds <;> cases testMode <;> rfl

/-- The mapping of a configuration, in the block style. -/
def blockYaml : SerdeYaml where
  toText fc := String.ofList fc.toBlock.text
  fromStr text := match Block.parse text.toList with
    | none => .error "could not find expected ':'"
    | some b => FileConfig.ofBlock b
  fromStr_toText fc h := by
    rw [String.toList_ofList, Block.parse_text]
    exact FileConfig.ofBlock_toBlock h
  inRange text fc h := by
    split at h
    next => cases h
    next b _ => exact FileConfig.inRange_of_ofBlock h
  placeholders c := by
    rw [String.toList_ofList, Block.hasPlaceholder_text (full_toBlock c), strings_toBlock]

end Derived

namespace ConfigManager
variable {m n : ConfigManager}

/-- The file says what the configuration is. -/
structure Saved (m : ConfigManager) : Prop where
  inRange : m.config.InRange
  file : m.file = m.config.toFileConfig

theorem of_update_eq_ok {f : HesConfig → HesConfig} {written : Except String Unit}
    (h : (m.update f written).2 = .ok ()) :
    (m.update f written).1.config = f m.config ∧
      (m.update f written).1.file = (f m.config).toFileConfig := by
  cases written with
  | error text => cases h
  | ok _ => exact ⟨rfl, rfl⟩

theorem Saved.update {f : HesConfig → HesConfig} {written : Except String Unit}
    (hf : (f m.config).InRange) (h : (m.update f written).2 = .ok ()) :
    (m.update f written).1.Saved := by
  obtain ⟨hconfig, hfile⟩ := of_update_eq_ok h
  exact ⟨hconfig ▸ hf, hfile.trans (congrArg _ hconfig.symm)⟩

theorem Saved.step {e : ConfigCall} (h : m.Saved) (hcall : m.Accepted e n) : n.Saved := by
  obtain ⟨written, hcall⟩ := hcall
  cases e with
  | setConfigValue key value =>
    rw [call, setConfigValue] at hcall
    cases hvalid : validate key value with
    | error text =>
      rw [hvalid] at hcall
      cases (Prod.mk.inj hcall).2
    | ok validated =>
      rw [hvalid] at hcall
      obtain ⟨rfl, hok⟩ := Prod.mk.inj hcall
      exact .update (h.inRange.assign validated key) (of_mapError_eq_ok hok)
  | setClusterSeeds seeds =>
    rw [call] at hcall
    obtain ⟨rfl, hok⟩ := Prod.mk.inj hcall
    exact .update h.inRange (of_mapError_eq_ok hok)

/-- After any accepted calls the file holds the configuration, and a restart gives it back
whatever the environment is, exactly if no `${` in one of its strings is followed by another
character than `}` and, in this or a later string, by a `}`. -/
theorem restart_iff (yaml : SerdeYaml) (machine : Machine) (path : Option String)
    (cli : CliOverrides) {start : ConfigManager} {es : List ConfigCall}
    (hstart : resolveConfig yaml machine path cli = .ok start) (hrun : Run Accepted start es m) :
    m.file = m.config.toFileConfig ∧
      ((∀ env newV4, readConfig yaml env newV4 (.ok (yaml.toText m.file)) = .ok m.config) ↔
        ¬ HasPlaceholder (linesOf m.config.toFileConfig.strings)) := by
  obtain ⟨c, hc, rfl⟩ := of_resolveConfig_eq_ok hstart
  have hsaved : m.Saved :=
    hrun.invariant Saved (fun _ _ _ hs hcall => hs.step hcall) ⟨hc, rfl⟩
  refine ⟨hsaved.file, ?_⟩
  rw [hsaved.file, readConfig_toText_iff yaml hsaved.inRange, yaml.placeholders]

/- A node that starts for the first time. -/
def firstStart : Machine :=
  { env := fun _ => none, homeDir := none, read := fun _ => none, write := fun _ => .ok (),
    newV4 := 1 }

def renamed (name : String) : ConfigManager :=
  ((new nodeConfig).update ((Validated.optStr (some name)).assign "node_name") (.ok ())).1

theorem resolveConfig_firstStart (yaml : SerdeYaml) :
    resolveConfig yaml firstStart (some "config.yaml") {} = .ok (new nodeConfig) := by
  rfl

theorem run_renamed {name : String} (h : name.isEmpty = false) :
    Run Accepted (new nodeConfig) [.setConfigValue "node_name" name] (renamed name) := by
  refine .single ⟨.ok (), ?_⟩
  have hvalid : validate "node_name" name = .ok (.optStr (some name)) := by
    have hoptional : validate "node_name" name = .ok (validateOptional name) := rfl
    rw [hoptional, validateOptional, h]
    rfl
  rw [call, setConfigValue, hvalid]
  rfl

theorem restart_iff_renamed :
    ¬ HasPlaceholder (linesOf (renamed "north").config.toFileConfig.strings) ∧
      ∀ env newV4, readConfig blockYaml env newV4
        (.ok (blockYaml.toText (renamed "north").file)) = .ok (renamed "north").config := by
  have hnone : ¬ HasPlaceholder (linesOf (renamed "north").config.toFileConfig.strings) := by
    decide +kernel
  have hname : "north".isEmpty = false := by decide
  have hrestart := restart_iff blockYaml firstStart (some "config.yaml") {}
    (resolveConfig_firstStart blockYaml) (run_renamed hname)
  exact ⟨hnone, hrestart.2.mpr hnone⟩

/-- A node is given the name `${HES_NAME}`. Without such a variable it does not start again. -/
theorem renamed_not_restarted :
    ¬ ∀ (yaml : SerdeYaml) (machine : Machine) (path : Option String) (cli : CliOverrides)
      (start m : ConfigManager) (es : List ConfigCall),
      resolveConfig yaml machine path cli = .ok start → Run Accepted start es m →
      ∀ env newV4, readConfig yaml env newV4 (.ok (yaml.toText m.config.toFileConfig)) =
        .ok m.config := by
  intro h
  have hread := h blockYaml firstStart (some "config.yaml") {} _ (renamed "$\x7bHES_NAME\x7d") _
    (resolveConfig_firstStart blockYaml) (run_renamed (by decide))
  have hsome : HasPlaceholder
      (linesOf (renamed "$\x7bHES_NAME\x7d").config.toFileConfig.strings) := by
    decide +kernel
  have hrange : (renamed "$\x7bHES_NAME\x7d").config.InRange := HesConfig.inRange_default 1
  exact (readConfig_toText_iff blockYaml hrange).mp hread ((blockYaml.placeholders _).mpr hsome)

end ConfigManager

end HeadEnd
