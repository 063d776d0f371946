import HeadEnd.Cluster.Membership
import HeadEnd.ConfigKeys

/-! Settings that are carried over into the running node when the configuration changes: the
switch of the metrics, the address of the backdoor and the name of the node. Several calls can
be under way; each changes the configuration first and carries the change over afterwards. -/
namespace HeadEnd
open Transition Cluster

namespace Cluster.MembershipList

def setLocalName (ml : MembershipList) (name : String) : MembershipList :=
  ml.modifyLocal (fun n => { n with nodeName := name }) (fun _ => rfl)

end Cluster.MembershipList

/-- What the handlers of the console share. `rebind` is the value of the watch channel and
`version` counts the values sent. -/
structure RpcState where
  manager : ConfigManager
  metricsEnabled : Bool
  rebind : String × String
  version : Nat
  cluster : Option MembershipList

namespace RpcState

def config (s : RpcState) : HesConfig := s.manager.config

def setMetricsEnabled (s : RpcState) (value : String) : RpcState :=
  { s with metricsEnabled := value == "true" }

def sendRebind (s : RpcState) (ip port : String) : RpcState :=
  { s with rebind := (ip, port), version := s.version + 1 }

def rename (s : RpcState) (value : String) : RpcState :=
  match s.cluster with
  | none => s
  | some ml => if value.isEmpty then s else { s with cluster := some (ml.setLocalName value) }

/-- `get_config_value`, with an empty text for no value. -/
def read (s : RpcState) (key : String) : String := (s.config.getConfigValue key).getD ""

def applyHotReload (s : RpcState) (key value : String) : RpcState :=
  match key with
  | "metrics_enabled" => s.setMetricsEnabled value
  | "backdoor_ip" | "backdoor_port" => s.sendRebind (s.read "backdoor_ip") (s.read "backdoor_port")
  | "node_name" => s.rename value
  | _ => s

/-- The first half of `config.set` and of `config.propagate`. -/
def setConfigValue (s : RpcState) (key value : String) (written : Except String Unit) :
    RpcState × Except SetError Unit :=
  let (manager, result) := s.manager.setConfigValue key value written
  ({ s with manager }, result)

def configSet (s : RpcState) (key value : String) (written : Except String Unit) :
    RpcState × Except SetError Unit :=
  match s.setConfigValue key value written with
  | (s', .ok ()) => (s'.applyHotReload key value, .ok ())
  | (s', .error e) => (s', .error e)

end RpcState

/-- How far a call has come: the two parts of the address are read one after the other. -/
inductive ReloadStage where
  | saved
  | ipRead (ip : String)
  | bothRead (ip port : String)
  deriving DecidableEq

/-- A call that has changed the configuration and has yet to carry the change over. -/
structure ReloadCall where
  key : String
  value : String
  stage : ReloadStage

/-- What is next in `apply_hot_reload`: the state after it, and the call if it is not over. -/
def ReloadCall.advance (c : ReloadCall) (s : RpcState) : RpcState × Option ReloadCall :=
  match c.key with
  | "metrics_enabled" => (s.setMetricsEnabled c.value, none)
  | "backdoor_ip" | "backdoor_port" =>
    match c.stage with
    | .saved => (s, some { c with stage := .ipRead (s.read "backdoor_ip") })
    | .ipRead ip => (s, some { c with stage := .bothRead ip (s.read "backdoor_port") })
    | .bothRead ip port => (s.sendRebind ip port, none)
  | "node_name" => (s.rename c.value, none)
  | _ => (s, none)

/-- The steps of a call that is alone. -/
def ReloadCall.finish (c : ReloadCall) (s : RpcState) : Nat → RpcState × Option ReloadCall
  | 0 => (s, some c)
  | n + 1 =>
    match c.advance s with
    | (s', none) => (s', none)
    | (s', some c') => c'.finish s' n

/-- A call that nothing comes in between of does what `apply_hot_reload` does. -/
theorem ReloadCall.finish_eq (key value : String) (s : RpcState) :
    ReloadCall.finish ⟨key, value, .saved⟩ s 3 = (s.applyHotReload key value, none) := by
  unfold RpcState.applyHotReload
  split
  all_goals try rfl
  next hmetrics hip hport hname => simp [finish, advance]

/-- The node with its calls, and the socket of the backdoor with the version of the address
that it has taken notice of. -/
structure LiveNode where
  rpc : RpcState
  calls : Nat → Option ReloadCall
  seen : Nat
  socket : String × String

inductive LiveEvent where
  | request (i : Nat) (key value : String) (written : Except String Unit)
  | advance (i : Nat)
  | configUpdate (key value : String) (written : Except String Unit)
  | rebind (bound : Bool)

namespace LiveNode

def config (s : LiveNode) : HesConfig := s.rpc.config

/-- A call starts. If it is rejected, or the file cannot be written, it is over. -/
def request (s : LiveNode) (i : Nat) (key value : String) (written : Except String Unit) :
    LiveNode :=
  let (rpc, result) := s.rpc.setConfigValue key value written
  { s with
    rpc
    calls := Function.update s.calls i
      (result.toOption.map fun _ => ⟨key, value, .saved⟩) }

def advance (s : LiveNode) (i : Nat) (c : ReloadCall) : LiveNode :=
  { s with rpc := (c.advance s.rpc).1, calls := Function.update s.calls i (c.advance s.rpc).2 }

/-- The message of another node: the change is made and not carried over. -/
def handleConfigUpdate (s : LiveNode) (key value : String) (written : Except String Unit) :
    LiveNode :=
  { s with rpc := (s.rpc.setConfigValue key value written).1 }

/-- The backdoor takes notice of the last value and tries to bind to it. -/
def takeRebind (s : LiveNode) (bound : Bool) : LiveNode :=
  { s with seen := s.rpc.version, socket := if bound then s.rpc.rebind else s.socket }

inductive Step : LiveNode → LiveEvent → LiveNode → Prop
  | request {s : LiveNode} {i : Nat} {key value : String} {written : Except String Unit} :
      s.calls i = none → Step s (.request i key value written) (s.request i key value written)
  | advance {s : LiveNode} {i : Nat} {c : ReloadCall} : s.calls i = some c →
      Step s (.advance i) (s.advance i c)
  | configUpdate {s : LiveNode} {key value : String} {written : Except String Unit} :
      Step s (.configUpdate key value written) (s.handleConfigUpdate key value written)
  | rebind {s : LiveNode} {bound : Bool} : s.seen ≠ s.rpc.version →
      Step s (.rebind bound) (s.takeRebind bound)

end LiveNode

/-- The settings that are carried over. -/
structure LiveSettings where
  metricsEnabled : Bool
  backdoor : String × String
  nodeName : Option String

def HesConfig.live (c : HesConfig) : LiveSettings :=
  ⟨c.metricsEnabled, (c.backdoorIp, c.backdoorPort), c.nodeName⟩

def BackdoorKey (key : String) : Prop := key = "backdoor_ip" ∨ key = "backdoor_port"

def ReloadedKey (key : String) : Prop :=
  key = "metrics_enabled" ∨ BackdoorKey key ∨ key = "node_name"

/-- What an accepted value does to the settings. -/
inductive LiveSettings.Sets (l : LiveSettings) (key value : String) : LiveSettings → Prop
  | metrics : key = "metrics_enabled" →
      Sets l key value { l with metricsEnabled := value == "true" }
  | backdoor (ip port : String) : BackdoorKey key →
      Sets l key value { l with backdoor := (ip, port) }
  | name : key = "node_name" →
      Sets l key value { l with nodeName := if value.isEmpty then none else some value }
  | other : ¬ ReloadedKey key → Sets l key value l

theorem LiveSettings.Sets.eq_of_not_reloaded {l l' : LiveSettings} {key value : String}
    (h : l.Sets key value l') (hkey : ¬ ReloadedKey key) : l' = l := by
  cases h with
  | metrics h => exact absurd (.inl h) hkey
  | backdoor _ _ h => exact absurd (.inr (.inl h)) hkey
  | name h => exact absurd (.inr (.inr h)) hkey
  | other _ => rfl

theorem Validated.live_assign (validated : Validated) {key : String} (h : ¬ ReloadedKey key)
    (c : HesConfig) : (validated.assign key c).live = c.live := by
  have hne : ∀ name, ReloadedKey name → key ≠ name := fun name hname heq => h (heq ▸ hname)
  unfold Validated.assign
  split
  all_goals first
    | rfl
    | exact absurd rfl (hne _ (.inl rfl))
    | exact absurd rfl (hne _ (.inr (.inl (.inl rfl))))
    | exact absurd rfl (hne _ (.inr (.inl (.inr rfl))))
    | exact absurd rfl (hne _ (.inr (.inr rfl)))

theorem live_sets {key value : String} {validated : Validated}
    (h : validate key value = .ok validated) (c : HesConfig) :
    c.live.Sets key value (validated.assign key c).live := by
  by_cases hkey : ReloadedKey key
  · obtain rfl | (rfl | rfl) | rfl := hkey
    · have hbool : validateBool value = .ok validated := h
      have hvalue : validated = .bool (value == "true") := by
        unfold validateBool at hbool
        split at hbool
        next htrue =>
          rw [htrue]
          exact (Except.ok.inj hbool).symm
        next htrue =>
          split at hbool
          next hfalse =>
            rw [hfalse]
            exact (Except.ok.inj hbool).symm
          next => cases hbool
      rw [hvalue]
      exact .metrics rfl
    · have hip : validateIp "backdoor_ip" value = .ok validated := h
      unfold validateIp at hip
      split at hip
      next => cases hip
      next =>
        obtain rfl := Except.ok.inj hip
        exact .backdoor value c.backdoorPort (.inl rfl)
    · have hport : (validatePort value).map (fun p => Validated.port (toString p.toNat)) =
          .ok validated := h
      cases hvalid : validatePort value with
      | error text =>
        rw [hvalid] at hport
        cases hport
      | ok p =>
        rw [hvalid] at hport
        obtain rfl := Except.ok.inj hport
        exact .backdoor c.backdoorIp (toString p.toNat) (.inr rfl)
    · have hname : Except.ok (validateOptional value) = .ok validated := h
      obtain rfl := Except.ok.inj hname
      exact .name rfl
  · rw [validated.live_assign hkey]
    exact .other hkey

namespace RpcState
variable {s : RpcState} {key value : String} {written : Except String Unit}

/-- A change is made, or the request is rejected. -/
theorem live_setConfigValue : (s.setConfigValue key value written).1.config = s.config ∧
      (∃ e, (s.setConfigValue key value written).2 = .error e) ∨
    s.config.live.Sets key value (s.setConfigValue key value written).1.config.live ∧
      ((s.setConfigValue key value written).2 = .ok () ↔ written = .ok ()) := by
  unfold setConfigValue ConfigManager.setConfigValue config
  cases hvalid : validate key value with
  | error text => exact .inl ⟨rfl, _, rfl⟩
  | ok validated =>
    refine .inr ?_
    have hsets := live_sets hvalid s.manager.config
    cases written with
    | ok _ => exact ⟨hsets, by simp [ConfigManager.update, Except.mapError]⟩
    | error text => exact ⟨hsets, by simp [ConfigManager.update, Except.mapError]⟩

/-- A new name leaves the rest as it is, and the node has it unless it is empty. -/
theorem config_rename : (s.rename value).config = s.config ∧
    (s.rename value).metricsEnabled = s.metricsEnabled ∧
    (s.rename value).rebind = s.rebind ∧ (s.rename value).version = s.version := by
  unfold rename
  split
  next => exact ⟨rfl, rfl, rfl, rfl⟩
  next => split <;> exact ⟨rfl, rfl, rfl, rfl⟩

theorem nodeName_rename {ml : MembershipList} (h : (s.rename value).cluster = some ml)
    (hvalue : value.isEmpty = false) : ml.localNode.nodeName = value := by
  unfold rename at h
  split at h
  next hnone =>
    rw [hnone] at h
    cases h
  next =>
    rw [if_neg (by simp [hvalue])] at h
    obtain rfl := Option.some.inj h
    rfl

end RpcState

namespace LiveNode

def Calling (s : LiveNode) (p : String → Prop) : Prop := ∃ i c, s.calls i = some c ∧ p c.key

/-- No call changes what another one is about to carry over, the file is written, and the
socket can be bound. Other nodes leave these settings alone. -/
def Orderly (s : LiveNode) : LiveEvent → Prop
  | .request _ key _ written =>
    (BackdoorKey key → ∀ j c, s.calls j = some c → c.stage = .saved) ∧
      (key = "metrics_enabled" ∨ key = "node_name" → ¬ s.Calling (· = key)) ∧
      (ReloadedKey key → written = .ok ())
  | .configUpdate key _ _ => ¬ ReloadedKey key
  | .advance _ => True
  | .rebind bound => bound = true

end LiveNode

/-- What a step of a call can be. -/
theorem ReloadCall.advance_cases (c : ReloadCall) (s : RpcState) :
    (c.key = "metrics_enabled" ∧ c.advance s = (s.setMetricsEnabled c.value, none)) ∨
    (BackdoorKey c.key ∧
      ((c.stage = .saved ∧
          c.advance s = (s, some { c with stage := .ipRead (s.read "backdoor_ip") })) ∨
        (∃ ip, c.stage = .ipRead ip ∧
          c.advance s = (s, some { c with stage := .bothRead ip (s.read "backdoor_port") })) ∨
        ∃ ip port, c.stage = .bothRead ip port ∧ c.advance s = (s.sendRebind ip port, none))) ∨
    (c.key = "node_name" ∧ c.advance s = (s.rename c.value, none)) ∨
    (¬ ReloadedKey c.key ∧ c.advance s = (s, none)) := by
  obtain ⟨key, value, stage⟩ := c
  by_cases hkey : ReloadedKey key
  · obtain rfl | (rfl | rfl) | rfl := hkey
    · exact .inl ⟨rfl, rfl⟩
    · refine .inr (.inl ⟨.inl rfl, ?_⟩)
      cases stage with
      | saved => exact .inl ⟨rfl, rfl⟩
      | ipRead ip => exact .inr (.inl ⟨ip, rfl, rfl⟩)
      | bothRead ip port => exact .inr (.inr ⟨ip, port, rfl, rfl⟩)
    · refine .inr (.inl ⟨.inr rfl, ?_⟩)
      cases stage with
      | saved => exact .inl ⟨rfl, rfl⟩
      | ipRead ip => exact .inr (.inl ⟨ip, rfl, rfl⟩)
      | bothRead ip port => exact .inr (.inr ⟨ip, port, rfl, rfl⟩)
    · exact .inr (.inr (.inl ⟨rfl, rfl⟩))
  · refine .inr (.inr (.inr ⟨hkey, ?_⟩))
    simp only [ReloadedKey, BackdoorKey, not_or] at hkey
    simp [advance, hkey]

/-- What a call has read is what is configured, and so is what it is about to carry over. -/
structure ReloadCall.Fits (c : ReloadCall) (l : LiveSettings) : Prop where
  metrics : c.key = "metrics_enabled" → l.metricsEnabled = (c.value == "true")
  name : c.key = "node_name" → l.nodeName = if c.value.isEmpty then none else some c.value
  ipRead : ∀ ip, c.stage = .ipRead ip → ip = l.backdoor.1
  bothRead : ∀ ip port, c.stage = .bothRead ip port → (ip, port) = l.backdoor

namespace LiveNode

/-- Every setting is in use, or a call is about to carry it over. -/
structure Carried (s : LiveNode) : Prop where
  fits : ∀ i c, s.calls i = some c → c.Fits s.config.live
  metrics : s.rpc.metricsEnabled = s.config.live.metricsEnabled ∨ s.Calling (· = "metrics_enabled")
  backdoor : s.rpc.rebind = s.config.live.backdoor ∨ s.Calling BackdoorKey
  name : ∀ ml v, s.rpc.cluster = some ml → s.config.live.nodeName = some v →
    ml.localNode.nodeName = v ∨ s.Calling (· = "node_name")
  seen_le : s.seen ≤ s.rpc.version
  socket : s.seen = s.rpc.version → s.socket = s.rpc.rebind

section Steps
variable {s t : LiveNode} {i : Nat} {c : ReloadCall} {key value : String}
  {written : Except String Unit} {p : String → Prop}

theorem Calling.of_fresh (h : s.Calling p) (hi : s.calls i = none) {r : Option ReloadCall}
    (hcalls : t.calls = Function.update s.calls i r) : t.Calling p := by
  obtain ⟨j, c, hj, hp⟩ := h
  have hne : j ≠ i := by
    intro heq
    rw [heq, hi] at hj
    cases hj
  exact ⟨j, c, by rw [hcalls, Function.update_of_ne hne, hj], hp⟩

/-- A call that goes on keeps its key; one that is over was about its own key only. -/
theorem Calling.of_advance (h : s.Calling p) (hi : s.calls i = some c) {r : Option ReloadCall}
    (hcalls : t.calls = Function.update s.calls i r)
    (hr : p c.key → ∃ c', r = some c' ∧ c'.key = c.key) : t.Calling p := by
  obtain ⟨j, c', hj, hp⟩ := h
  by_cases hne : j = i
  · subst hne
    obtain rfl := Option.some.inj (hi.symm.trans hj)
    obtain ⟨c', rfl, hkey⟩ := hr hp
    exact ⟨j, c', by rw [hcalls, Function.update_self], hkey ▸ hp⟩
  · exact ⟨j, c', by rw [hcalls, Function.update_of_ne hne, hj], hp⟩

theorem Carried.of_eq (hs : s.Carried) (hlive : t.config.live = s.config.live)
    (hcalls : t.calls = s.calls) (hflag : t.rpc.metricsEnabled = s.rpc.metricsEnabled)
    (hrebind : t.rpc.rebind = s.rpc.rebind) (hversion : t.rpc.version = s.rpc.version)
    (hcluster : t.rpc.cluster = s.rpc.cluster) (hseen : t.seen = s.seen)
    (hsocket : t.socket = s.socket) : t.Carried := by
  have hcalling : ∀ p, t.Calling p ↔ s.Calling p := by
    intro p
    simp only [Calling, hcalls]
  refine ⟨?_, ?_, ?_, ?_, ?_, ?_⟩
  · rw [hcalls, hlive]
    exact hs.fits
  · rw [hflag, hlive, hcalling]
    exact hs.metrics
  · rw [hrebind, hlive, hcalling]
    exact hs.backdoor
  · rw [hcluster, hlive]
    intro ml v hml hv
    rw [hcalling]
    exact hs.name ml v hml hv
  · rw [hseen, hversion]
    exact hs.seen_le
  · rw [hseen, hversion, hsocket, hrebind]
    exact hs.socket

theorem Carried.configUpdate (hs : s.Carried) (hkey : ¬ ReloadedKey key) :
    (s.handleConfigUpdate key value written).Carried := by
  refine hs.of_eq ?_ rfl rfl rfl rfl rfl rfl rfl
  obtain ⟨hconfig, -⟩ | ⟨hsets, -⟩ := RpcState.live_setConfigValue (s := s.rpc)
  · exact congrArg HesConfig.live hconfig
  · exact hsets.eq_of_not_reloaded hkey

/-- A call that has just been started. -/
theorem Carried.request_ok (hs : s.Carried) (hi : s.calls i = none) {l : LiveSettings}
    (hsets : s.config.live.Sets key value l) (hlive : t.config.live = l)
    (hcalls : t.calls = Function.update s.calls i (some ⟨key, value, .saved⟩))
    (hflag : t.rpc.metricsEnabled = s.rpc.metricsEnabled) (hrebind : t.rpc.rebind = s.rpc.rebind)
    (hversion : t.rpc.version = s.rpc.version) (hcluster : t.rpc.cluster = s.rpc.cluster)
    (hseen : t.seen = s.seen) (hsocket : t.socket = s.socket)
    (hstages : BackdoorKey key → ∀ j c, s.calls j = some c → c.stage = .saved)
    (halone : key = "metrics_enabled" ∨ key = "node_name" → ¬ s.Calling (· = key)) :
    t.Carried := by
  have hnew : t.calls i = some ⟨key, value, .saved⟩ := by rw [hcalls, Function.update_self]
  have hcalling : ∀ p, s.Calling p → t.Calling p := fun p hp => hp.of_fresh hi hcalls
  have hself : ∀ p : String → Prop, p key → t.Calling p := fun p hp => ⟨i, _, hnew, hp⟩
  -- an older call still fits, and the new one does
  have hfits : ∀ j c, t.calls j = some c → c.Fits l := by
    intro j c hj
    by_cases hji : j = i
    · rw [hji, hnew] at hj
      obtain rfl := Option.some.inj hj
      refine ⟨fun hkey => ?_, fun hkey => ?_, fun _ h => (by cases h), fun _ _ h => (by cases h)⟩
      · cases hsets with
        | metrics _ => rfl
        | backdoor ip port h => subst hkey; cases h <;> contradiction
        | name h => subst hkey; contradiction
        | other h => exact absurd (.inl hkey) h
      · cases hsets with
        | metrics h => subst hkey; contradiction
        | backdoor ip port h => subst hkey; cases h <;> contradiction
        | name _ => rfl
        | other h => exact absurd (.inr (.inr hkey)) h
    · have hold : s.calls j = some c := by rwa [hcalls, Function.update_of_ne hji] at hj
      obtain ⟨hmetrics, hname, hip, hboth⟩ := hs.fits j c hold
      cases hsets with
      | metrics h =>
        refine ⟨fun hkey => ?_, hname, hip, hboth⟩
        exact absurd ⟨j, c, hold, hkey.trans h.symm⟩ (halone (.inl h))
      | backdoor ip port h =>
        have hsaved := hstages h j c hold
        refine ⟨hmetrics, hname, fun _ h => ?_, fun _ _ h => ?_⟩
        · cases hsaved.symm.trans h
        · cases hsaved.symm.trans h
      | name h =>
        refine ⟨hmetrics, fun hkey => ?_, hip, hboth⟩
        exact absurd ⟨j, c, hold, hkey.trans h.symm⟩ (halone (.inr h))
      | other _ => exact ⟨hmetrics, hname, hip, hboth⟩
  refine ⟨hlive ▸ hfits, ?_, ?_, ?_, ?_, ?_⟩
  · rw [hlive, hflag]
    cases hsets with
    | metrics h => exact .inr (hself _ h)
    | _ => exact hs.metrics.imp id (hcalling _)
  · rw [hlive, hrebind]
    cases hsets with
    | backdoor ip port h => exact .inr (hself _ h)
    | _ => exact hs.backdoor.imp id (hcalling _)
  · rw [hlive, hcluster]
    intro ml v hml hv
    cases hsets with
    | name h => exact .inr (hself _ h)
    | _ => exact (hs.name ml v hml hv).imp id (hcalling _)
  · rw [hseen, hversion]
    exact hs.seen_le
  · rw [hseen, hversion, hsocket, hrebind]
    exact hs.socket

theorem Carried.request (hs : s.Carried) (hi : s.calls i = none)
    (hord : s.Orderly (.request i key value written)) :
    (s.request i key value written).Carried := by
  obtain ⟨hstages, halone, hwritten⟩ := hord
  -- a call that is over at once leaves the calls as they are
  have hover : ∀ e, (s.rpc.setConfigValue key value written).2 = .error e →
      (s.request i key value written).calls = s.calls := by
    intro e he
    have hcalls : (s.request i key value written).calls = Function.update s.calls i
        ((s.rpc.setConfigValue key value written).2.toOption.map
          fun _ => ⟨key, value, .saved⟩) := rfl
    rw [hcalls, he]
    exact (Function.update_eq_iff).mpr ⟨hi.symm, fun _ _ => rfl⟩
  obtain ⟨hconfig, e, he⟩ | ⟨hsets, hresult⟩ := RpcState.live_setConfigValue (s := s.rpc)
  · exact hs.of_eq (congrArg HesConfig.live hconfig) (hover e he) rfl rfl rfl rfl rfl rfl
  · cases hok : (s.rpc.setConfigValue key value written).2 with
    | error e =>
      have hkey : ¬ ReloadedKey key := fun hkey => by
        rw [hresult.mpr (hwritten hkey)] at hok
        cases hok
      exact hs.of_eq (hsets.eq_of_not_reloaded hkey) (hover e hok) rfl rfl rfl rfl rfl rfl
    | ok _ =>
      refine hs.request_ok hi hsets rfl ?_ rfl rfl rfl rfl rfl rfl hstages halone
      have hcalls : (s.request i key value written).calls = Function.update s.calls i
          ((s.rpc.setConfigValue key value written).2.toOption.map
            fun _ => ⟨key, value, .saved⟩) := rfl
      rw [hcalls, hok]
      rfl

/-- A call goes one step on. What it stops being about is in use from then on. -/
theorem Carried.of_advance (hs : s.Carried) (hi : s.calls i = some c) {r : Option ReloadCall}
    (hlive : t.config.live = s.config.live) (hcalls : t.calls = Function.update s.calls i r)
    (hfits : ∀ c', r = some c' → c'.key = c.key ∧ c'.Fits s.config.live)
    (hflag : t.rpc.metricsEnabled = s.config.live.metricsEnabled ∨
      t.rpc.metricsEnabled = s.rpc.metricsEnabled ∧ (c.key = "metrics_enabled" → r ≠ none))
    (hrebind : t.rpc.rebind = s.config.live.backdoor ∧ t.rpc.version = s.rpc.version + 1 ∨
      (t.rpc.rebind = s.rpc.rebind ∧ t.rpc.version = s.rpc.version) ∧
        (BackdoorKey c.key → r ≠ none))
    (hname : (∀ ml v, t.rpc.cluster = some ml → s.config.live.nodeName = some v →
        ml.localNode.nodeName = v) ∨
      t.rpc.cluster = s.rpc.cluster ∧ (c.key = "node_name" → r ≠ none))
    (hseen : t.seen = s.seen) (hsocket : t.socket = s.socket) : t.Carried := by
  have hstill : ∀ p : String → Prop, (p c.key → r ≠ none) → s.Calling p → t.Calling p := by
    intro p hp hcalling
    refine hcalling.of_advance hi hcalls fun hkey => ?_
    obtain ⟨c', hc'⟩ := Option.ne_none_iff_exists'.mp (hp hkey)
    exact ⟨c', hc', (hfits c' hc').1⟩
  refine ⟨?_, ?_, ?_, ?_, ?_, ?_⟩
  · intro j c' hj
    rw [hlive]
    rw [hcalls] at hj
    by_cases hji : j = i
    · rw [hji, Function.update_self] at hj
      exact (hfits c' hj).2
    · rw [Function.update_of_ne hji] at hj
      exact hs.fits j c' hj
  · rw [hlive]
    obtain hflag | ⟨hflag, hr⟩ := hflag
    · exact .inl hflag
    · rw [hflag]
      exact hs.metrics.imp id (hstill _ hr)
  · rw [hlive]
    obtain ⟨hrebind, _⟩ | ⟨⟨hrebind, _⟩, hr⟩ := hrebind
    · exact .inl hrebind
    · rw [hrebind]
      exact hs.backdoor.imp id (hstill _ hr)
  · rw [hlive]
    intro ml v hml hv
    obtain hname | ⟨hcluster, hr⟩ := hname
    · exact .inl (hname ml v hml hv)
    · exact (hs.name ml v (hcluster ▸ hml) hv).imp id (hstill _ hr)
  · have hle := hs.seen_le
    obtain ⟨_, hversion⟩ | ⟨⟨_, hversion⟩, _⟩ := hrebind <;> omega
  · intro heq
    have hle := hs.seen_le
    obtain ⟨_, hversion⟩ | ⟨⟨hrebind, hversion⟩, _⟩ := hrebind
    · omega
    · rw [hsocket, hrebind]
      exact hs.socket (by omega)

theorem advance_of_eq {r : RpcState} {c' : Option ReloadCall} (h : c.advance s.rpc = (r, c')) :
    s.advance i c = { s with rpc := r, calls := Function.update s.calls i c' } := by
  rw [LiveNode.advance, h]

theorem Carried.advance (hs : s.Carried) (hi : s.calls i = some c) : (s.advance i c).Carried := by
  obtain ⟨hmetrics, hname, hip, hboth⟩ := hs.fits i c hi
  have hover : ∀ c' : ReloadCall, none = some c' → c'.key = c.key ∧ c'.Fits s.config.live :=
    fun _ h => (by cases h)
  obtain ⟨hkey, heq⟩ | ⟨hkey, hstage⟩ | ⟨hkey, heq⟩ | ⟨hkey, heq⟩ := c.advance_cases s.rpc
  · rw [advance_of_eq heq]
    refine hs.of_advance hi rfl rfl hover (.inl (hmetrics hkey).symm)
      (.inr ⟨⟨rfl, rfl⟩, fun h => ?_⟩) (.inr ⟨rfl, fun h => ?_⟩) rfl rfl
    · rw [hkey] at h
      obtain h | h := h <;> contradiction
    · rw [hkey] at h
      contradiction
  · have hflag : c.key ≠ "metrics_enabled" := by obtain h | h := hkey <;> rw [h] <;> decide
    have hrename : c.key ≠ "node_name" := by obtain h | h := hkey <;> rw [h] <;> decide
    obtain ⟨hstage, heq⟩ | ⟨ip, hstage, heq⟩ | ⟨ip, port, hstage, heq⟩ := hstage
    · rw [advance_of_eq heq]
      refine hs.of_advance hi rfl rfl (fun c' h => ?_) (.inr ⟨rfl, fun h => absurd h hflag⟩)
        (.inr ⟨⟨rfl, rfl⟩, fun _ => Option.some_ne_none _⟩)
        (.inr ⟨rfl, fun h => absurd h hrename⟩) rfl rfl
      obtain rfl := Option.some.inj h
      refine ⟨rfl, hmetrics, hname, fun ip h => ?_, fun _ _ h => (by cases h)⟩
      obtain rfl := ReloadStage.ipRead.inj h
      rfl
    · rw [advance_of_eq heq]
      refine hs.of_advance hi rfl rfl (fun c' h => ?_) (.inr ⟨rfl, fun h => absurd h hflag⟩)
        (.inr ⟨⟨rfl, rfl⟩, fun _ => Option.some_ne_none _⟩)
        (.inr ⟨rfl, fun h => absurd h hrename⟩) rfl rfl
      obtain rfl := Option.some.inj h
      refine ⟨rfl, hmetrics, hname, fun _ h => (by cases h), fun ip' port h => ?_⟩
      obtain ⟨rfl, rfl⟩ := ReloadStage.bothRead.inj h
      rw [hip ip hstage]
      rfl
    · rw [advance_of_eq heq]
      exact hs.of_advance hi rfl rfl hover (.inr ⟨rfl, fun h => absurd h hflag⟩)
        (.inl ⟨hboth ip port hstage, rfl⟩) (.inr ⟨rfl, fun h => absurd h hrename⟩) rfl rfl
  · rw [advance_of_eq heq]
    obtain ⟨hconfig, hmetrics', hrebind, hversion⟩ := @RpcState.config_rename s.rpc c.value
    refine hs.of_advance hi (congrArg HesConfig.live hconfig) rfl hover
      (.inr ⟨hmetrics', fun h => ?_⟩) (.inr ⟨⟨hrebind, hversion⟩, fun h => ?_⟩)
      (.inl fun ml v hml hv => ?_) rfl rfl
    · rw [hkey] at h
      contradiction
    · rw [hkey] at h
      obtain h | h := h <;> contradiction
    · rw [hname hkey] at hv
      split at hv
      next => cases hv
      next hvalue =>
        obtain rfl := Option.some.inj hv
        exact RpcState.nodeName_rename hml (by simpa using hvalue)
  · rw [advance_of_eq heq]
    refine hs.of_advance hi rfl rfl hover (.inr ⟨rfl, fun h => ?_⟩)
      (.inr ⟨⟨rfl, rfl⟩, fun h => ?_⟩) (.inr ⟨rfl, fun h => ?_⟩) rfl rfl
    · exact absurd (.inl h) hkey
    · exact absurd (.inr (.inl h)) hkey
    · exact absurd (.inr (.inr h)) hkey

theorem Carried.takeRebind (hs : s.Carried) : (s.takeRebind true).Carried :=
  ⟨hs.fits, hs.metrics, hs.backdoor, hs.name, le_rfl, fun _ => rfl⟩

/-- Every orderly step keeps what is carried over. -/
theorem Carried.step {e : LiveEvent} (hs : s.Carried) (hord : s.Orderly e) (h : Step s e t) :
    t.Carried := by
  cases h with
  | request hi => exact hs.request hi hord
  | advance hi => exact hs.advance hi
  | configUpdate => exact hs.configUpdate hord
  | rebind _ =>
    obtain rfl : _ = true := hord
    exact hs.takeRebind

theorem Carried.run {es : List LiveEvent} (hs : s.Carried)
    (h : Run (Guarded Orderly Step) s es t) : t.Carried :=
  h.invariant Carried (fun _ _ _ hs h => hs.step h.1 h.2) hs

end Steps

/-- The node as `main` starts it. -/
def start (manager : ConfigManager) (cluster : Option MembershipList) : LiveNode where
  rpc :=
    { manager
      metricsEnabled := manager.config.metricsEnabled
      rebind := (manager.config.backdoorIp, manager.config.backdoorPort)
      version := 0
      cluster }
  calls _ := none
  seen := 0
  socket := (manager.config.backdoorIp, manager.config.backdoorPort)

theorem carried_start {manager : ConfigManager} {cluster : Option MembershipList}
    (hname : ∀ ml v, cluster = some ml → manager.config.nodeName = some v →
      ml.localNode.nodeName = v) : (start manager cluster).Carried where
  fits _ _ h := by cases h
  metrics := .inl rfl
  backdoor := .inl rfl
  name ml v hml hv := .inl (hname ml v hml hv)
  seen_le := le_rfl
  socket _ := rfl

/-- Whenever no call is under way the running node has the settings that are configured; the
backdoor is bound to its address, or has yet to take notice of it. -/
theorem in_use_of_idle {manager : ConfigManager} {cluster : Option MembershipList}
    (hname : ∀ ml v, cluster = some ml → manager.config.nodeName = some v →
      ml.localNode.nodeName = v) {es : List LiveEvent} {t : LiveNode}
    (hrun : Run (Guarded Orderly Step) (start manager cluster) es t)
    (hidle : ∀ i, t.calls i = none) :
    t.rpc.metricsEnabled = t.config.metricsEnabled ∧
      t.rpc.rebind = (t.config.backdoorIp, t.config.backdoorPort) ∧
      (t.socket = t.rpc.rebind ∨ Step t (.rebind true) (t.takeRebind true)) ∧
      ∀ ml v, t.rpc.cluster = some ml → t.config.nodeName = some v →
        ml.localNode.nodeName = v := by
  have ht := (carried_start hname).run hrun
  have hnone : ∀ p, ¬ t.Calling p := by
    intro p hcalling
    obtain ⟨i, c, hc, _⟩ := hcalling
    rw [hidle i] at hc
    cases hc
  refine ⟨ht.metrics.resolve_right (hnone _), ht.backdoor.resolve_right (hnone _), ?_,
    fun ml v hml hv => (ht.name ml v hml hv).resolve_right (hnone _)⟩
  by_cases hseen : t.seen = t.rpc.version
  · exact .inl (ht.socket hseen)
  · exact .inr (.rebind hseen)

/-- Two calls overlap: both have changed the configuration before one carries it over. -/
theorem in_use_of_idle_two : ∃ t, Run (Guarded Orderly Step)
      (start (.new ConfigManager.nodeConfig) none)
      [.request 0 "metrics_enabled" "false" (.ok ()), .request 1 "backdoor_port" "7000" (.ok ()),
        .advance 1, .advance 0, .advance 1, .advance 1, .rebind true] t ∧
    t.rpc.metricsEnabled = false ∧ t.rpc.rebind = ("0.0.0.0", "7000") := by
  have hrun : ∃ t, Run (Guarded Orderly Step) (start (.new ConfigManager.nodeConfig) none)
      [.request 0 "metrics_enabled" "false" (.ok ()), .request 1 "backdoor_port" "7000" (.ok ()),
        .advance 1, .advance 0, .advance 1, .advance 1, .rebind true] t ∧
      (∀ i, t.calls i = none) ∧ t.config.metricsEnabled = false ∧
      t.config.backdoorIp = "0.0.0.0" ∧ t.config.backdoorPort = "7000" := by
    refine ⟨_, .cons ⟨⟨fun _ _ _ h => ?_, fun _ h => ?_, fun _ => rfl⟩, .request rfl⟩ <|
      .cons ⟨⟨fun _ j c h => ?_, fun h => ?_, fun _ => rfl⟩, .request rfl⟩ <|
      .cons ⟨trivial, .advance rfl⟩ <| .cons ⟨trivial, .advance rfl⟩ <|
      .cons ⟨trivial, .advance rfl⟩ <| .cons ⟨trivial, .advance rfl⟩ <|
      .cons ⟨rfl, .rebind (by decide)⟩ (.nil _), fun i => ?_, rfl, rfl, rfl⟩
    · cases h
    · obtain ⟨_, _, hcall, _⟩ := h
      cases hcall
    · by_cases hj : j = 0
      · subst hj
        obtain rfl := Option.some.inj h
        rfl
      · have hold := (Function.update_of_ne hj _ _).symm.trans h
        cases hold
    · obtain h | h := h <;> contradiction
    · obtain rfl | rfl | ⟨h0, h1⟩ : i = 0 ∨ i = 1 ∨ i ≠ 0 ∧ i ≠ 1 := by omega
      · rfl
      · rfl
      · simp [LiveNode.advance, LiveNode.takeRebind, LiveNode.request, start, h0, h1]
  obtain ⟨t, hrun, hidle, hoff, hip, hport⟩ := hrun
  obtain ⟨hmetrics, hrebind, _⟩ := in_use_of_idle (fun _ _ h => by cases h) hrun hidle
  exact ⟨t, hrun, hmetrics.trans hoff, by rw [hrebind, hip, hport]⟩

end LiveNode

/-- The file is written and the socket is bound. -/
def LiveEvent.Succeeds : LiveEvent → Prop
  | .request _ _ _ written => written = .ok ()
  | .configUpdate _ _ written => written = .ok ()
  | .advance _ => True
  | .rebind bound => bound = true

namespace LiveNode

section Overlap
variable {s : LiveNode} {i : Nat} {key value : String} {validated : Validated}

theorem step_advance_update (s : LiveNode) (i : Nat) (c : ReloadCall) :
    Step { s with calls := Function.update s.calls i (some c) } (.advance i)
      { s with
        rpc := (c.advance s.rpc).1
        calls := Function.update s.calls i (c.advance s.rpc).2 } := by
  have hstep := @Step.advance { s with calls := Function.update s.calls i (some c) } i c
    (Function.update_self i _ s.calls)
  simpa only [advance, Function.update_idem] using hstep

/-- A call that changes the address, up to where it has read both parts of it. -/
theorem exists_run_reads (hkey : BackdoorKey key) (hvalid : validate key value = .ok validated)
    (hi : s.calls i = none) : ∃ n : ConfigManager, n.config = validated.assign key s.config ∧
      Run Step s [.request i key value (.ok ()), .advance i, .advance i]
        { s with
          rpc := { s.rpc with manager := n }
          calls := Function.update s.calls i
            (some ⟨key, value, .bothRead n.config.backdoorIp n.config.backdoorPort⟩) } := by
  obtain ⟨n, hn, hconfig, _⟩ := ConfigManager.setConfigValue_of_validate (m := s.rpc.manager) hvalid
  refine ⟨n, hconfig, ?_⟩
  have hrequest := @Step.request s i key value (.ok ()) hi
  simp only [request, RpcState.setConfigValue, hn] at hrequest
  have hreads := step_advance_update { s with rpc := { s.rpc with manager := n } } i
  obtain rfl | rfl := hkey
  · exact .cons hrequest (.cons (hreads _) (.single (hreads _)))
  · exact .cons hrequest (.cons (hreads _) (.single (hreads _)))

/-- The call hands over what it has read. -/
theorem step_send (hkey : BackdoorKey key) {ip port : String} :
    Step { s with calls := Function.update s.calls i (some ⟨key, value, .bothRead ip port⟩) }
      (.advance i)
      { s with rpc := s.rpc.sendRebind ip port, calls := Function.update s.calls i none } := by
  obtain rfl | rfl := hkey
  · exact step_advance_update s i _
  · exact step_advance_update s i _

/-- Of two calls that overlap the first can hand over its address last: every call succeeds,
nothing is left to do, and the backdoor listens on the port that was configured before. -/
theorem stale_port_reachable (manager : ConfigManager) (cluster : Option MembershipList)
    {ip port p : String} (hip : ip.isEmpty = false)
    (hport : validate "backdoor_port" port = .ok (.port p)) :
    ∃ es t, Run Step (start manager cluster) es t ∧ (∀ e ∈ es, e.Succeeds) ∧
      (∀ i, t.calls i = none) ∧ t.seen = t.rpc.version ∧
      (t.config.backdoorIp, t.config.backdoorPort) = (ip, p) ∧
      t.socket = (ip, manager.config.backdoorPort) := by
  have hvalid : validate "backdoor_ip" ip = .ok (.str ip) := by
    have hunfold : validate "backdoor_ip" ip = validateIp "backdoor_ip" ip := rfl
    rw [hunfold, validateIp, if_neg (by simp [hip])]
  obtain ⟨m, hm, hfirst⟩ :=
    exists_run_reads (s := start manager cluster) (i := 0) (.inl rfl) hvalid rfl
  have hipRead : m.config.backdoorIp = ip := by rw [hm]; rfl
  have hportRead : m.config.backdoorPort = manager.config.backdoorPort := by rw [hm]; rfl
  rw [hipRead, hportRead] at hfirst
  -- the second call runs to its end meanwhile, and the backdoor takes notice of it
  let held : Nat → Option ReloadCall := Function.update (fun _ => none) 0
    (some ⟨"backdoor_ip", ip, .bothRead ip manager.config.backdoorPort⟩)
  obtain ⟨n, hn, hsecond⟩ := exists_run_reads (i := 1) (.inr rfl) hport (s :=
    { start manager cluster with
      rpc := { (start manager cluster).rpc with manager := m }, calls := held }) rfl
  let after : RpcState := { (start manager cluster).rpc with manager := n }
  have hsend := @step_send { start manager cluster with rpc := after, calls := held } 1
    "backdoor_port" port (.inr rfl) n.config.backdoorIp n.config.backdoorPort
  have hover : Function.update held 1 none = held := Function.update_eq_self 1 held
  rw [hover] at hsend
  -- the first one hands over what it has read before
  let moved : RpcState := after.sendRebind n.config.backdoorIp n.config.backdoorPort
  have hlast := @step_send ⟨moved, fun _ => none, 1, moved.rebind⟩ 0 "backdoor_ip" ip (.inl rfl) ip
    manager.config.backdoorPort
  have hlate := Run.cons (@Step.rebind ⟨moved, held, 0, (start manager cluster).socket⟩ true
    Nat.zero_ne_one)
    (.cons hlast (.single (@Step.rebind _ true (Nat.succ_ne_self 1).symm)))
  refine ⟨_, _, hfirst.append (hsecond.append (.cons hsend hlate)), ?_, fun i => ?_, rfl, ?_, rfl⟩
  · simp [LiveEvent.Succeeds]
  · exact congrFun (Function.update_eq_self 0 _) i
  · have hnew : n.config = (Validated.port p).assign "backdoor_port" m.config := hn
    have hset : (n.config.backdoorIp, n.config.backdoorPort) = (m.config.backdoorIp, p) := by
      rw [hnew]
      rfl
    rw [hipRead] at hset
    exact hset

theorem stale_port_reachable_default : ∃ es t,
    Run Step (start (.new ConfigManager.nodeConfig) none) es t ∧
      (t.config.backdoorIp, t.config.backdoorPort) = ("10.0.0.7", "7000") ∧
      t.socket = ("10.0.0.7", "6565") := by
  obtain ⟨es, t, hrun, _, _, _, hconfig, hsocket⟩ := stale_port_reachable
    (.new ConfigManager.nodeConfig) none (@rfl _ ("10.0.0.7" : String).isEmpty)
    (show validate "backdoor_port" "7000" = .ok (.port "7000") from rfl)
  exact ⟨es, t, hrun, hconfig, hsocket⟩

end Overlap

end LiveNode

end HeadEnd
