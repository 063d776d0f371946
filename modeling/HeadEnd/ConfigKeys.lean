import HeadEnd.ConfigFile
import Mathlib.Data.Finmap

/-! The configuration as the keys show it. A key is read, listed, validated and written by
four tables over its name. -/
namespace HeadEnd
open Transition Text

namespace HesConfig

def getConfigValue (c : HesConfig) (key : String) : Option String :=
  match key with
  | "backdoor_ip" => some c.backdoorIp
  | "backdoor_port" => some c.backdoorPort
  | "metrics_enabled" => some (toString c.metricsEnabled)
  | "metrics_ip" => some c.metricsIp
  | "metrics_port" => some c.metricsPort
  | "buckets_number" => some (toString c.bucketsNumber)
  | "cluster_enabled" => some (toString c.clusterEnabled)
  | "cluster_ip" => some c.clusterIp
  | "cluster_port" => some (toString c.clusterPort.toNat)
  | "cluster_seeds" => c.clusterSeeds
  | "node_name" => c.nodeName
  | "rpc_enabled" => some (toString c.rpcEnabled)
  | "rpc_ip" => some c.rpcIp
  | "rpc_port" => some (toString c.rpcPort.toNat)
  | "test_mode" => some (toString c.testMode)
  | "node_id" => some (uuidText c.nodeId)
  | "database_type" => some (databaseTypeToString c.databaseType)
  | _ => none

def getAllConfig (c : HesConfig) : Finmap fun _ : String => String :=
  let map : Finmap fun _ : String => String := ∅
  let map := map.insert "backdoor_ip" c.backdoorIp
  let map := map.insert "backdoor_port" c.backdoorPort
  let map := map.insert "metrics_enabled" (toString c.metricsEnabled)
  let map := map.insert "metrics_ip" c.metricsIp
  let map := map.insert "metrics_port" c.metricsPort
  let map := map.insert "buckets_number" (toString c.bucketsNumber)
  let map := map.insert "cluster_enabled" (toString c.clusterEnabled)
  let map := map.insert "cluster_ip" c.clusterIp
  let map := map.insert "cluster_port" (toString c.clusterPort.toNat)
  let map := c.clusterSeeds.elim map (map.insert "cluster_seeds")
  let map := c.nodeName.elim map (map.insert "node_name")
  let map := map.insert "rpc_enabled" (toString c.rpcEnabled)
  let map := map.insert "rpc_ip" c.rpcIp
  let map := map.insert "rpc_port" (toString c.rpcPort.toNat)
  let map := map.insert "test_mode" (toString c.testMode)
  -- read-only keys
  let map := map.insert "node_id" (uuidText c.nodeId)
  map.insert "database_type" (databaseTypeToString c.databaseType)

end HesConfig

/-- The kinds of values. -/
inductive ConfigKind where
  | readOnly | ip | portText | port | flag | buckets | optional
  deriving DecidableEq

/-- The known keys. -/
inductive ConfigKey where
  | backdoorIp | backdoorPort | metricsEnabled | metricsIp | metricsPort | bucketsNumber
  | clusterEnabled | clusterIp | clusterPort | clusterSeeds | nodeName
  | rpcEnabled | rpcIp | rpcPort | testMode | nodeId | databaseType
  deriving DecidableEq

namespace ConfigKey

def all : List ConfigKey :=
  [backdoorIp, backdoorPort, metricsEnabled, metricsIp, metricsPort, bucketsNumber,
    clusterEnabled, clusterIp, clusterPort, clusterSeeds, nodeName, rpcEnabled, rpcIp, rpcPort,
    testMode, nodeId, databaseType]

theorem mem_all (k : ConfigKey) : k ∈ all := by cases k <;> decide

def text : ConfigKey → String
  | backdoorIp => "backdoor_ip"
  | backdoorPort => "backdoor_port"
  | metricsEnabled => "metrics_enabled"
  | metricsIp => "metrics_ip"
  | metricsPort => "metrics_port"
  | bucketsNumber => "buckets_number"
  | clusterEnabled => "cluster_enabled"
  | clusterIp => "cluster_ip"
  | clusterPort => "cluster_port"
  | clusterSeeds => "cluster_seeds"
  | nodeName => "node_name"
  | rpcEnabled => "rpc_enabled"
  | rpcIp => "rpc_ip"
  | rpcPort => "rpc_port"
  | testMode => "test_mode"
  | nodeId => "node_id"
  | databaseType => "database_type"

def kind : ConfigKey → ConfigKind
  | backdoorIp | metricsIp | clusterIp | rpcIp => .ip
  | backdoorPort | metricsPort => .portText
  | clusterPort | rpcPort => .port
  | metricsEnabled | clusterEnabled | rpcEnabled | testMode => .flag
  | bucketsNumber => .buckets
  | clusterSeeds | nodeName => .optional
  | nodeId | databaseType => .readOnly

def ofText (key : String) : Option ConfigKey :=
  match key with
  | "backdoor_ip" => some backdoorIp
  | "backdoor_port" => some backdoorPort
  | "metrics_enabled" => some metricsEnabled
  | "metrics_ip" => some metricsIp
  | "metrics_port" => some metricsPort
  | "buckets_number" => some bucketsNumber
  | "cluster_enabled" => some clusterEnabled
  | "cluster_ip" => some clusterIp
  | "cluster_port" => some clusterPort
  | "cluster_seeds" => some clusterSeeds
  | "node_name" => some nodeName
  | "rpc_enabled" => some rpcEnabled
  | "rpc_ip" => some rpcIp
  | "rpc_port" => some rpcPort
  | "test_mode" => some testMode
  | "node_id" => some nodeId
  | "database_type" => some databaseType
  | _ => none

theorem ofText_eq_some {key : String} {k : ConfigKey} : ofText key = some k ↔ key = k.text := by
  constructor
  · intro h
    unfold ofText at h
    split at h
    all_goals cases h
    all_goals rfl
  · intro h
    rw [h]
    cases k <;> rfl

theorem text_injective : Function.Injective text := by
  intro k l h
  have hl := ofText_eq_some.mpr h
  rw [ofText_eq_some.mpr rfl] at hl
  exact Option.some.inj hl

theorem getConfigValue_of_unknown {c : HesConfig} {key : String} (h : ofText key = none) :
    c.getConfigValue key = none := by
  unfold HesConfig.getConfigValue
  split
  all_goals first | rfl | cases h

theorem validate_of_unknown {key value : String} (h : ofText key = none) :
    validate key value = .error s!"unknown config key '{key}'" := by
  unfold validate
  split
  all_goals first | rfl | cases h

/-- What the key shows. -/
def get (c : HesConfig) : ConfigKey → Option String
  | backdoorIp => some c.backdoorIp
  | backdoorPort => some c.backdoorPort
  | metricsEnabled => some (toString c.metricsEnabled)
  | metricsIp => some c.metricsIp
  | metricsPort => some c.metricsPort
  | bucketsNumber => some (toString c.bucketsNumber)
  | clusterEnabled => some (toString c.clusterEnabled)
  | clusterIp => some c.clusterIp
  | clusterPort => some (toString c.clusterPort.toNat)
  | clusterSeeds => c.clusterSeeds
  | nodeName => c.nodeName
  | rpcEnabled => some (toString c.rpcEnabled)
  | rpcIp => some c.rpcIp
  | rpcPort => some (toString c.rpcPort.toNat)
  | testMode => some (toString c.testMode)
  | nodeId => some (uuidText c.nodeId)
  | databaseType => some (databaseTypeToString c.databaseType)

theorem getConfigValue_text (c : HesConfig) (k : ConfigKey) :
    c.getConfigValue k.text = k.get c := by
  cases k <;> rfl

/-- Nothing is listed under an unknown key. -/
def Known (map : Finmap fun _ : String => String) : Prop :=
  ∀ key, ofText key = none → map.lookup key = none

theorem Known.insert {map : Finmap fun _ : String => String} {name value : String}
    (h : Known map) (hname : (ofText name).isSome) : Known (map.insert name value) := by
  intro key hkey
  have hne : key ≠ name := by
    intro heq
    rw [← heq, hkey] at hname
    cases hname
  rw [Finmap.lookup_insert_of_ne _ hne]
  exact h key hkey

theorem Known.elim_insert {map : Finmap fun _ : String => String} {name : String}
    {value : Option String} (h : Known map) (hname : (ofText name).isSome) :
    Known (value.elim map (map.insert name)) := by
  cases value with
  | none => exact h
  | some v => exact h.insert hname

theorem known_getAllConfig (c : HesConfig) : Known c.getAllConfig := by
  unfold HesConfig.getAllConfig
  repeat first | refine Known.insert ?_ rfl | refine Known.elim_insert ?_ rfl
  exact fun _ _ => Finmap.lookup_empty _

theorem lookup_insert_ite (map : Finmap fun _ : String => String) (key name value : String) :
    (map.insert name value).lookup key = if key = name then some value else map.lookup key := by
  split
  next heq => rw [heq, Finmap.lookup_insert]
  next hne => rw [Finmap.lookup_insert_of_ne _ hne]

theorem lookup_elim_insert (map : Finmap fun _ : String => String) (key name : String)
    (value : Option String) : (value.elim map (map.insert name)).lookup key =
      if key = name then value.or (map.lookup key) else map.lookup key := by
  cases value with
  | none => simp
  | some v => exact lookup_insert_ite map key name v

/-- The listing has the keys that show a value, and shows the same. -/
theorem lookup_getAllConfig (c : HesConfig) (key : String) :
    c.getAllConfig.lookup key = c.getConfigValue key := by
  cases hk : ofText key with
  | none => rw [getConfigValue_of_unknown hk, known_getAllConfig c key hk]
  | some k =>
    simp only [HesConfig.getAllConfig, lookup_insert_ite, lookup_elim_insert, Finmap.lookup_empty]
    rw [ofText_eq_some.mp hk, getConfigValue_text]
    cases k <;> first | rfl | exact Option.or_none

end ConfigKey

namespace Validated

def kind : Validated → ConfigKind
  | str _ => .ip
  | bool _ => .flag
  | port _ => .portText
  | u16 _ => .port
  | usize _ => .buckets
  | optStr _ => .optional

/-- What a key shows after it was set to this. -/
def shown : Validated → Option String
  | str v | port v => some v
  | bool v => some (toString v)
  | u16 v => some (toString v.toNat)
  | usize v => some (toString v.toNat)
  | optStr v => v

end Validated

namespace ConfigKey

/-- The change makes the key show `shown`, and leaves what the others show. -/
def Writes (k : ConfigKey) (f : HesConfig → HesConfig) (shown : Option String) : Prop :=
  ∀ c, k.get (f c) = shown ∧ (∀ k', k' ≠ k → k'.get (f c) = k'.get c) ∧ f (f c) = f c

theorem writes_assign {k : ConfigKey} {validated : Validated} (h : k.kind = validated.kind) :
    k.Writes (validated.assign k.text) validated.shown := by
  cases k <;> cases validated
  all_goals cases h
  all_goals
    refine fun c => ⟨rfl, fun k' hk' => ?_, rfl⟩
    cases k' <;> first | rfl | exact absurd rfl hk'

end ConfigKey

section Parse
variable {bound n : Nat}

theorem parseUnsigned_digits {digits : List Char} (h : ∀ ch ∈ digits, ch.isDigit = true)
    (hne : digits ≠ []) : parseUnsigned bound (String.ofList digits) =
      if ofDigits 10 (digits.map fun ch => ch.toNat - 48) < bound then
        some (ofDigits 10 (digits.map fun ch => ch.toNat - 48))
      else none := by
  have hall : digits.all Char.isDigit = true := List.all_eq_true.mpr h
  have hempty : digits.isEmpty = false := List.isEmpty_eq_false_iff.mpr hne
  simp only [parseUnsigned, String.toList_ofList]
  split
  next rest => exact absurd (h '+' List.mem_cons_self) (by decide)
  next => simp only [hall, hempty, Bool.not_false, Bool.true_and, decide_eq_true_eq]

theorem parseUnsigned_toString (h : n < bound) : parseUnsigned bound (toString n) = some n := by
  rw [Nat.toString_eq_ofList_toDigits, parseUnsigned_digits _ Nat.toDigits_ne_nil,
    ofDigits_toDigits, if_pos h]
  exact fun ch hch => Nat.isDigit_of_mem_toDigits (by decide) (by decide) hch

theorem lt_of_parseUnsigned {value : String} (h : parseUnsigned bound value = some n) :
    n < bound := by
  simp only [parseUnsigned, Option.ite_none_right_eq_some, Bool.and_eq_true,
    decide_eq_true_eq] at h
  obtain ⟨⟨-, hlt⟩, heq⟩ := h
  exact Option.some.inj heq ▸ hlt

end Parse

namespace ConfigKind

/-- The part of `set_config_value` for the keys of one kind. -/
def check (key value : String) : ConfigKind → Except String Validated
  | readOnly => .error s!"'{key}' is read-only"
  | ip => validateIp key value
  | portText => do
    let p ← validatePort value
    return .port (toString p.toNat)
  | port => do
    let p ← validatePort value
    return .u16 p
  | flag => validateBool value
  | buckets => validateBuckets value
  | optional => .ok (validateOptional value)

/-- The values that a key of this kind can have. -/
def Accepts (value : String) : ConfigKind → Prop
  | readOnly => False
  | ip => value ≠ ""
  | portText | port => ∃ p, parseUnsigned (2 ^ 16) value = some p ∧ p ≠ 0
  | flag => value = "true" ∨ value = "false"
  | buckets => ∃ n, parseUnsigned (2 ^ 64) value = some n ∧ n ≠ 0
  | optional => True

/-- The value as it is shown: a number without sign and leading zeros, and no empty text. -/
def canonical (value : String) : ConfigKind → Option String
  | portText | port => (parseUnsigned (2 ^ 16) value).map toString
  | buckets => (parseUnsigned (2 ^ 64) value).map toString
  | optional => if value = "" then none else some value
  | readOnly | ip | flag => some value

section
variable {value : String} {n : Nat}

theorem validatePort_of_parse (h : parseUnsigned (2 ^ 16) value = some n) (hn : n ≠ 0) :
    ∃ p : UInt16, validatePort value = .ok p ∧ p.toNat = n := by
  refine ⟨UInt16.ofNat n, ?_, ?_⟩
  · unfold validatePort
    split
    next hnone => cases hnone.symm.trans h
    next m hm =>
      cases hm.symm.trans h
      exact if_neg hn
  · rw [UInt16.toNat_ofNat']
    exact Nat.mod_eq_of_lt (lt_of_parseUnsigned h)

theorem validateBuckets_of_parse (h : parseUnsigned (2 ^ 64) value = some n) (hn : n ≠ 0) :
    ∃ v : UInt64, validateBuckets value = .ok (.usize v) ∧ v.toNat = n := by
  refine ⟨UInt64.ofNat n, ?_, ?_⟩
  · unfold validateBuckets
    split
    next hnone => cases hnone.symm.trans h
    next m hm =>
      cases hm.symm.trans h
      exact if_neg hn
  · rw [UInt64.toNat_ofNat']
    exact Nat.mod_eq_of_lt (lt_of_parseUnsigned h)

theorem validatePort_error (h : ¬ ∃ p, parseUnsigned (2 ^ 16) value = some p ∧ p ≠ 0) :
    ∃ text, validatePort value = .error text := by
  unfold validatePort
  cases hparse : parseUnsigned (2 ^ 16) value with
  | none => exact ⟨_, rfl⟩
  | some p =>
    have hp : p = 0 := by
      by_contra hne
      exact h ⟨p, hparse, hne⟩
    exact ⟨_, if_pos hp⟩

theorem validateBuckets_error (h : ¬ ∃ n, parseUnsigned (2 ^ 64) value = some n ∧ n ≠ 0) :
    ∃ text, validateBuckets value = .error text := by
  unfold validateBuckets
  cases hparse : parseUnsigned (2 ^ 64) value with
  | none => exact ⟨_, rfl⟩
  | some n =>
    have hn : n = 0 := by
      by_contra hne
      exact h ⟨n, hparse, hne⟩
    exact ⟨_, if_pos hn⟩

/-- A port is read as what its canonical text is read as. -/
theorem validatePort_canonical (h : ∃ n, parseUnsigned (2 ^ 16) value = some n ∧ n ≠ 0) :
    ∃ p, validatePort value = .ok p ∧ validatePort (toString p.toNat) = .ok p ∧
      (parseUnsigned (2 ^ 16) value).map toString = some (toString p.toNat) := by
  obtain ⟨n, hparse, hn⟩ := h
  obtain ⟨p, hp, rfl⟩ := validatePort_of_parse hparse hn
  have hparse' := parseUnsigned_toString (lt_of_parseUnsigned hparse)
  obtain ⟨p', hp', heq⟩ := validatePort_of_parse hparse' hn
  obtain rfl := UInt16.toNat_inj.mp heq
  exact ⟨p', hp, hp', by rw [hparse, Option.map_some]⟩

/-- What the check makes of a value. Of what is then shown it makes the same. -/
structure Checked (kind : ConfigKind) (key value : String) (validated : Validated) : Prop where
  accepted : kind.check key value = .ok validated
  fits : kind = validated.kind
  shown : validated.shown = kind.canonical value
  again : ∀ v, validated.shown = some v → kind.check key v = .ok validated

theorem checked_of_accepts {kind : ConfigKind} {key : String} (h : kind.Accepts value) :
    ∃ validated, kind.Checked key value validated := by
  cases kind with
  | readOnly => cases h
  | ip =>
    have hcheck : check key value .ip = .ok (.str value) := by
      have hne : ¬ value.isEmpty = true := fun hempty => h (String.isEmpty_iff.mp hempty)
      rw [check, validateIp, if_neg hne]
    refine ⟨_, hcheck, rfl, rfl, fun v hv => ?_⟩
    obtain rfl := Option.some.inj hv
    exact hcheck
  | portText =>
    obtain ⟨p, hp, hagain, hcanonical⟩ := validatePort_canonical h
    refine ⟨.port (toString p.toNat), ?_, rfl, hcanonical.symm, fun v hv => ?_⟩
    · rw [check, hp]
      rfl
    · obtain rfl := Option.some.inj hv
      rw [check, hagain]
      rfl
  | port =>
    obtain ⟨p, hp, hagain, hcanonical⟩ := validatePort_canonical h
    refine ⟨.u16 p, ?_, rfl, hcanonical.symm, fun v hv => ?_⟩
    · rw [check, hp]
      rfl
    · obtain rfl := Option.some.inj hv
      rw [check, hagain]
      rfl
  | flag =>
    cases h with
    | inl htrue =>
      rw [htrue]
      refine ⟨.bool true, rfl, rfl, rfl, fun v hv => ?_⟩
      obtain rfl := Option.some.inj hv
      rfl
    | inr hfalse =>
      rw [hfalse]
      refine ⟨.bool false, rfl, rfl, rfl, fun v hv => ?_⟩
      obtain rfl := Option.some.inj hv
      rfl
  | buckets =>
    obtain ⟨n, hparse, hn⟩ := h
    obtain ⟨u, hu, rfl⟩ := validateBuckets_of_parse hparse hn
    have hparse' := parseUnsigned_toString (lt_of_parseUnsigned hparse)
    obtain ⟨u', hu', heq⟩ := validateBuckets_of_parse hparse' hn
    obtain rfl := UInt64.toNat_inj.mp heq
    refine ⟨.usize u', hu, rfl, ?_, fun v hv => ?_⟩
    · rw [canonical, hparse]
      rfl
    · obtain rfl := Option.some.inj hv
      exact hu'
  | optional =>
    have hcheck : ∀ v, check key v .optional = .ok (.optStr (if v = "" then none else some v)) := by
      intro v
      simp [check, validateOptional]
    refine ⟨_, hcheck value, rfl, rfl, fun v hv => ?_⟩
    have heq : (if value = "" then none else some value) = some v := hv
    by_cases hempty : value = ""
    · rw [if_pos hempty] at heq
      cases heq
    · rw [if_neg hempty] at heq
      obtain rfl := Option.some.inj heq
      exact hcheck value

theorem check_error {kind : ConfigKind} {key : String} (h : ¬ kind.Accepts value) :
    ∃ text, kind.check key value = .error text := by
  cases kind with
  | readOnly => exact ⟨_, rfl⟩
  | ip =>
    exact ⟨_, if_pos (String.isEmpty_iff.mpr (not_not.mp h))⟩
  | portText | port =>
    obtain ⟨text, htext⟩ := validatePort_error h
    exact ⟨text, by rw [check, htext]; rfl⟩
  | flag =>
    have hflag := not_or.mp h
    exact ⟨_, by rw [check, validateBool, if_neg hflag.1, if_neg hflag.2]⟩
  | buckets => exact validateBuckets_error h
  | optional => exact absurd trivial h

end

end ConfigKind

theorem ConfigKey.validate_text (k : ConfigKey) (value : String) :
    validate k.text value = k.kind.check k.text value := by
  cases k <;> rfl

/-- A known key and a value of its kind; no value is of the kind of a read-only key. -/
def Settable (key value : String) : Prop :=
  ∃ k, ConfigKey.ofText key = some k ∧ k.kind.Accepts value

/-- What the key is expected to show. -/
def canonicalValue (key value : String) : Option String :=
  (ConfigKey.ofText key).bind fun k => k.kind.canonical value

namespace ConfigManager
variable {m : ConfigManager} {key value : String}

theorem setConfigValue_of_not_settable (h : ¬ Settable key value) :
    ∃ text, m.setConfigValue key value (.ok ()) = (m, .error (.rejected text)) := by
  have herror : ∃ text, validate key value = .error text := by
    cases hk : ConfigKey.ofText key with
    | none => exact ⟨_, ConfigKey.validate_of_unknown hk⟩
    | some k =>
      obtain ⟨text, htext⟩ := @ConfigKind.check_error value k.kind k.text fun haccepts =>
        h ⟨k, hk, haccepts⟩
      exact ⟨text, by rw [ConfigKey.ofText_eq_some.mp hk, ConfigKey.validate_text, htext]⟩
  obtain ⟨text, htext⟩ := herror
  exact ⟨text, by rw [setConfigValue, htext]⟩

theorem setConfigValue_of_validate {validated : Validated}
    (h : validate key value = .ok validated) :
    ∃ n, m.setConfigValue key value (.ok ()) = (n, .ok ()) ∧
      n.config = validated.assign key m.config ∧ n.file = n.config.toFileConfig := by
  refine ⟨(m.update (validated.assign key) (.ok ())).1, ?_, rfl, rfl⟩
  rw [setConfigValue, h]
  rfl

/-- What the other keys show does not change, known or not. -/
theorem getConfigValue_of_writes {k : ConfigKey} {f : HesConfig → HesConfig}
    {shown : Option String} (h : k.Writes f shown) (c : HesConfig) {other : String}
    (hother : other ≠ k.text) : (f c).getConfigValue other = c.getConfigValue other := by
  cases hk : ConfigKey.ofText other with
  | none => rw [ConfigKey.getConfigValue_of_unknown hk, ConfigKey.getConfigValue_of_unknown hk]
  | some k' =>
    obtain rfl := ConfigKey.ofText_eq_some.mp hk
    rw [ConfigKey.getConfigValue_text, ConfigKey.getConfigValue_text]
    exact (h c).2.1 k' fun heq => hother (congrArg ConfigKey.text heq)

theorem setConfigValue_of_accepts {k : ConfigKey} (h : k.kind.Accepts value) :
    ∃ n, m.setConfigValue k.text value (.ok ()) = (n, .ok ()) ∧
      n.config.getConfigValue k.text = k.kind.canonical value ∧
      (∀ other, other ≠ k.text →
        n.config.getConfigValue other = m.config.getConfigValue other) ∧
      ∀ v, n.config.getConfigValue k.text = some v →
        ∃ n', n.setConfigValue k.text v (.ok ()) = (n', .ok ()) ∧ n'.config = n.config ∧
          n'.file = n.file := by
  obtain ⟨validated, hchecked⟩ := @ConfigKind.checked_of_accepts value k.kind k.text h
  have hwrites := ConfigKey.writes_assign hchecked.fits
  have hvalid := (k.validate_text value).trans hchecked.accepted
  obtain ⟨n, hn, hconfig, hfile⟩ := setConfigValue_of_validate (m := m) hvalid
  have hshown : n.config.getConfigValue k.text = validated.shown := by
    rw [hconfig, ConfigKey.getConfigValue_text, (hwrites m.config).1]
  refine ⟨n, hn, hshown.trans hchecked.shown, fun other hother => ?_, fun v hv => ?_⟩
  · rw [hconfig]
    exact getConfigValue_of_writes hwrites m.config hother
  · have hvalid' := (k.validate_text v).trans (hchecked.again v (hshown.symm.trans hv))
    obtain ⟨n', hn', hconfig', hfile'⟩ := setConfigValue_of_validate (m := n) hvalid'
    have hsame : n'.config = n.config := by
      rw [hconfig', hconfig]
      exact (hwrites m.config).2.2
    exact ⟨n', hn', hsame, by rw [hfile', hfile, hsame]⟩

/-- A key behaves like a cell of its own. -/
theorem config_value_cell (m : ConfigManager) (key value : String) :
    ((∃ text, m.setConfigValue key value (.ok ()) = (m, .error (.rejected text))) ↔
      ¬ Settable key value) ∧
    (Settable key value → ∃ n, m.setConfigValue key value (.ok ()) = (n, .ok ()) ∧
      n.config.getConfigValue key = canonicalValue key value ∧
      (∀ other, other ≠ key → n.config.getConfigValue other = m.config.getConfigValue other) ∧
      (∀ k, n.config.getAllConfig.lookup k = n.config.getConfigValue k) ∧
      ∀ v, n.config.getConfigValue key = some v →
        ∃ n', n.setConfigValue key v (.ok ()) = (n', .ok ()) ∧ n'.config = n.config ∧
          n'.file = n.file) := by
  refine ⟨⟨fun hrejected hsettable => ?_, setConfigValue_of_not_settable⟩, fun hsettable => ?_⟩
  · obtain ⟨text, htext⟩ := hrejected
    obtain ⟨k, hk, haccepts⟩ := hsettable
    obtain rfl := ConfigKey.ofText_eq_some.mp hk
    obtain ⟨n, hn, -⟩ := @setConfigValue_of_accepts m value k haccepts
    cases htext.symm.trans hn
  · obtain ⟨k, hk, haccepts⟩ := hsettable
    obtain rfl := ConfigKey.ofText_eq_some.mp hk
    obtain ⟨n, hn, hshown, hothers, hagain⟩ := @setConfigValue_of_accepts m value k haccepts
    have hcanonical : canonicalValue k.text value = k.kind.canonical value := by
      rw [canonicalValue, hk, Option.bind_some]
    exact ⟨n, hn, hshown.trans hcanonical.symm, hothers, ConfigKey.lookup_getAllConfig n.config,
      hagain⟩

end ConfigManager

/- What can be asked for, with `update` itself for any other change. -/
inductive ConfigRequest where
  | call (c : ConfigCall)
  | update (f : HesConfig → HesConfig)

/-- What the request does to the configuration; none, if it is rejected. -/
def ConfigRequest.change : ConfigRequest → Except String (HesConfig → HesConfig)
  | call (.setConfigValue key value) => do
    let validated ← validate key value
    return validated.assign key
  | call (.setClusterSeeds seeds) => .ok (ConfigManager.setClusterSeeds seeds)
  | update f => .ok f

/- The file is written, or writing it fails. -/
inductive SaveEvent where
  | done (e : ConfigEvent)
  | failed (call : Nat) (e : ConfigError)

namespace ConfigManager

/-- A call whose write fails returns as well, and nothing is undone; `file` is what is left
of the file. -/
inductive SaveStep : ConfigManager → SaveEvent → ConfigManager → Prop
  | done {m n : ConfigManager} {e : ConfigEvent} : Step m e n → SaveStep m (.done e) n
  | failed {m : ConfigManager} {call : Nat} {e : ConfigError} {file : FileConfig} :
      call < m.snapshots.length → call ∉ m.returned →
      SaveStep m (.failed call e) { m with file, returned := insert call m.returned }

/-- What the calls that get the lock make of a configuration. -/
def configAfter : List SaveEvent → HesConfig → HesConfig
  | [], c => c
  | .done (.mutate f) :: es, c => configAfter es (f c)
  | _ :: es, c => configAfter es c

/-- The request comes back with an error: at once, or after others had the lock as well. -/
inductive Fails (m : ConfigManager) (r : ConfigRequest) :
    List SaveEvent → SetError → ConfigManager → Prop
  | rejected {text : String} : r.change = .error text → Fails m r [] (.rejected text) m
  | notSaved {f : HesConfig → HesConfig} {es : List SaveEvent} {u n : ConfigManager}
      {e : ConfigError} : r.change = .ok f → Run SaveStep (m.mutate f) es u →
      SaveStep u (.failed m.snapshots.length e) n → Fails m r es (.notSaved e) n

variable {m n : ConfigManager} {r : ConfigRequest}

/-- Whether a write succeeds or fails makes no difference to the configuration. -/
theorem SaveStep.config {e : SaveEvent} (h : SaveStep m e n) :
    n.config = configAfter [e] m.config := by
  cases h with
  | failed _ _ => rfl
  | done hone =>
    cases hone with
    | mutate => rfl
    | save _ _ => rfl

theorem configAfter_cons (e : SaveEvent) (es : List SaveEvent) (c : HesConfig) :
    configAfter (e :: es) c = configAfter es (configAfter [e] c) := by
  cases e with
  | failed call error => rfl
  | done e => cases e <;> rfl

theorem config_of_run {es : List SaveEvent} (h : Run SaveStep m es n) :
    n.config = configAfter es m.config := by
  induction h with
  | nil m => rfl
  | @cons m n u e es hone hrest ih => rw [ih, hone.config, ← configAfter_cons e es]

/-- Only calls that held the lock have returned. -/
def Numbered (m : ConfigManager) : Prop := ∀ call ∈ m.returned, call < m.snapshots.length

theorem Numbered.step {e : SaveEvent} (h : m.Numbered) (hstep : SaveStep m e n) : n.Numbered := by
  intro call hcall
  cases hstep with
  | failed hlt _ =>
    cases Finset.mem_insert.mp hcall with
    | inl heq => exact heq ▸ hlt
    | inr hold => exact h call hold
  | done hone =>
    cases hone with
    | mutate =>
      rw [ConfigManager.mutate, List.length_append]
      exact Nat.lt_add_right _ (h call hcall)
    | save hsnap _ =>
      cases Finset.mem_insert.mp hcall with
      | inl heq => exact heq ▸ (List.getElem?_eq_some_iff.mp hsnap).1
      | inr hold => exact h call hold

theorem numbered_of_run {config : HesConfig} {es : List SaveEvent}
    (h : Run SaveStep (new config) es m) : m.Numbered :=
  h.invariant Numbered (fun _ _ _ hm hstep => hm.step hstep)
    fun call hcall => absurd hcall (Finset.notMem_empty call)

/-- The write of a call fails before anyone else gets the lock. -/
theorem Numbered.failed {f : HesConfig → HesConfig} {e : ConfigError} (h : m.Numbered)
    (hf : r.change = .ok f) : ∃ n, Fails m r [] (.notSaved e) n ∧ n.config = f m.config := by
  have hfresh : m.snapshots.length ∉ m.returned := fun hmem => Nat.lt_irrefl _ (h _ hmem)
  have hlt : m.snapshots.length < (m.mutate f).snapshots.length := by
    rw [ConfigManager.mutate, List.length_append]
    exact Nat.lt_succ_self _
  exact ⟨{ m.mutate f with returned := insert m.snapshots.length m.returned },
    .notSaved hf (.nil _) (.failed hlt hfresh), rfl⟩

/-- Calls of `update` that nothing comes in between of are among these. -/
theorem Numbered.fails_of_update {f : HesConfig → HesConfig} {written : Except String Unit}
    {e : SetError} (h : m.Numbered) (hf : r.change = .ok f)
    (hupdate : (m.update f written).2.mapError .notSaved = .error e) :
    ∃ n, Fails m r [] e n ∧ n.config = (m.update f written).1.config := by
  cases written with
  | ok _ => cases hupdate
  | error text =>
    obtain rfl := Except.error.inj hupdate
    exact h.failed hf

theorem Numbered.fails_of_call {c : ConfigCall} {written : Except String Unit} {e : SetError}
    (h : m.Numbered) (hcall : (m.call written c).2 = .error e) :
    ∃ n, Fails m (.call c) [] e n ∧ n.config = (m.call written c).1.config := by
  cases c with
  | setConfigValue key value =>
    rw [call, setConfigValue] at hcall ⊢
    cases hvalid : validate key value with
    | error text =>
      rw [hvalid] at hcall
      obtain rfl := Except.error.inj hcall
      exact ⟨m, .rejected (by rw [ConfigRequest.change, hvalid]; rfl), rfl⟩
    | ok validated =>
      rw [hvalid] at hcall
      exact h.fails_of_update (by rw [ConfigRequest.change, hvalid]; rfl) hcall
  | setClusterSeeds seeds => exact h.fails_of_update rfl hcall

/-- A request that comes back with an error leaves the configuration as it would be without
it, exactly if it is rejected or changes nothing. -/
theorem error_leaves_no_trace_iff {config : HesConfig} {es₀ : List SaveEvent}
    (hstart : Run SaveStep (new config) es₀ m) :
    (∀ es e n, Fails m r es e n → n.config = configAfter es m.config) ↔
      ∀ f, r.change = .ok f → f m.config = m.config := by
  constructor
  · intro h f hf
    obtain ⟨n, hfails, hconfig⟩ := @Numbered.failed m r f (.ioError "") (numbered_of_run hstart) hf
    rw [← hconfig, h _ _ _ hfails]
    rfl
  · intro h es e n hfails
    cases hfails with
    | rejected _ => rfl
    | @notSaved f _ u _ e hf hrun hfailed =>
      have hsame : (m.mutate f).config = m.config := h f hf
      rw [hfailed.config, config_of_run hrun, hsame]
      rfl

/-- A key that is not known is rejected. -/
theorem error_leaves_no_trace_iff_unknown :
    Fails (new nodeConfig) (.call (.setConfigValue "color" "red")) []
        (.rejected "unknown config key 'color'") (new nodeConfig) ∧
      ∀ es e n, Fails (new nodeConfig) (.call (.setConfigValue "color" "red")) es e n →
        n.config = configAfter es nodeConfig := by
  have hchange : (ConfigRequest.call (.setConfigValue "color" "red")).change =
      .error "unknown config key 'color'" := rfl
  refine ⟨.rejected hchange, (error_leaves_no_trace_iff (.nil _)).mpr fun f hf => ?_⟩
  rw [hchange] at hf
  cases hf

/-- The seeds cannot be saved, and are in use. -/
theorem unsaved_seeds_stay : ¬ ∀ (m : ConfigManager) (r : ConfigRequest) (es : List SaveEvent)
    (e : SetError) (n : ConfigManager), Fails m r es e n → n.config = configAfter es m.config := by
  intro h
  have hcall : ((new nodeConfig).call (.error "disk full")
      (.setClusterSeeds (some "10.0.0.2:6570"))).2 =
        .error (.notSaved (.ioError "disk full")) := rfl
  obtain ⟨n, hfails, hconfig⟩ := (numbered_of_run (.nil (new nodeConfig))).fails_of_call hcall
  have hsame := hconfig.symm.trans (h _ _ _ _ _ hfails)
  exact absurd (congrArg HesConfig.clusterSeeds hsame) (by decide)

end ConfigManager

end HeadEnd
