import HeadEnd.AddressText
import HeadEnd.RegisterRequest

/-! The address of a device, from the message that brings it to the two places where it is
used: the check of an ACK, and the socket address of a session. -/
namespace HeadEnd
open Transition IpText

/-- `IpAddr::to_string`, with the variant of the socket address. -/
def IpAddr.printed : IpAddr → PrintedIp
  | .v4 bits => .v4 (String.ofList (ipv4Chars bits))
  | .v6 bits => .v6 (String.ofList (ipv6Chars bits))

def IpAddr.isV4 : IpAddr → Bool
  | .v4 _ => true
  | .v6 _ => false

def deviceUdpPort : UInt16 := 6060

/-- The address in a row, if it has exactly one. -/
def Device.printedIp (device : Device) : Option PrintedIp :=
  match device.ipv4, device.ipv6 with
  | some text, none => some (.v4 text)
  | none, some text => some (.v6 text)
  | _, _ => none

/-- The address that `run_wake_up` connects to; without one it is `DeviceWithNoIP`. -/
def Device.remoteAddr (device : Device) : Option String :=
  device.printedIp.map fun ip => ip.text ++ ":" ++ toString deviceUdpPort

/-- The two fields of a row with this address. -/
def PrintedIp.fields : PrintedIp → Option String × Option String
  | .v4 text => (some text, none)
  | .v6 text => (none, some text)

section
variable {device : Device} {ip : PrintedIp}

theorem Device.printedIp_setIp : (device.setIp ip).printedIp = some ip := by
  cases ip <;> rfl

@[simp] theorem Device.setIp_id : (device.setIp ip).id = device.id := by
  cases ip <;> rfl

theorem Device.printedIp_eq_some (h : device.printedIp = some ip) :
    device.ipv4 = ip.fields.1 ∧ device.ipv6 = ip.fields.2 := by
  unfold printedIp at h
  split at h
  next h4 h6 =>
    obtain rfl := Option.some.inj h
    exact ⟨h4, h6⟩
  next h4 h6 =>
    obtain rfl := Option.some.inj h
    exact ⟨h4, h6⟩
  next => cases h

end

theorem parse_remoteAddr_v4 {bracketed : Reader SocketAddr} (bits : UInt32) :
    SocketAddr.parse bracketed
      ((IpAddr.v4 bits).printed.text ++ ":" ++ toString deviceUdpPort) =
        some ⟨.v4 bits, deviceUdpPort⟩ := by
  have hport : (":" ++ toString deviceUdpPort).toList =
      ':' :: Nat.toDigits 10 deviceUdpPort.toNat := by decide
  rw [SocketAddr.parse, String.append_assoc, String.toList_append, hport, IpAddr.printed,
    PrintedIp.text, String.toList_ofList]
  exact parseSocketAddr_ipv4Chars bits deviceUdpPort

theorem parse_remoteAddr_v6 {bracketed : Reader SocketAddr} (bits : BitVec 128) :
    SocketAddr.parse bracketed
      ((IpAddr.v6 bits).printed.text ++ ":" ++ toString deviceUdpPort) = none := by
  rw [SocketAddr.parse, String.append_assoc, String.toList_append, IpAddr.printed,
    PrintedIp.text, String.toList_ofList]
  exact parseSocketAddr_ipv6Chars bits _

namespace Task
variable {db : InnerDB} {dm : DeviceManager} {now : Int} {answered : Bool}

/-- The device row that the next turn writes. -/
def stores (db : InnerDB) : Task → Option Device
  | registerAdd device _ => some device
  | ipModify _ device => if device.id ∈ db.devices then some device else none
  | _ => none

theorem scheduleSection_devices {d : Uuid} {next : List Task}
    {answer : Option (Except BackdoorError Unit)} :
    (scheduleSection db dm now d next answer).db.devices = db.devices := by
  cases @scheduleSection_db db dm now d next answer with
  | inl hsame => rw [hsame]
  | inr hwritten =>
    obtain ⟨t, job, hwritten⟩ := hwritten
    rw [hwritten]
    rfl

/-- Only the handlers of a registration and of an IP update write device rows. -/
theorem turn_devices (task : Task) : (task.turn db dm now answered).db.devices =
    match task.stores db with
    | some device => db.devices.insert device.id device
    | none => db.devices := by
  cases task with
  | registerAdd device time => rfl
  | registerSection device time =>
    simp only [turn, stores]
    cases h : dm.registerDevice db now device with
    | error e => rfl
    | ok r =>
      obtain ⟨hdb, -, -⟩ := DeviceManager.registerDevice_eq_ok h
      cases time <;> simp only [hdb] <;> rfl
  | ipModify deviceId device =>
    simp only [turn, stores, InnerDB.modifyDevice]
    cases hrow : db.devices.lookup device.id with
    | none => rw [if_neg (Finmap.lookup_eq_none.mp hrow)]
    | some row =>
      rw [if_pos (Finmap.mem_of_lookup_eq_some hrow)]
      rfl
  | ackSchedule deviceId => exact scheduleSection_devices
  | ipSchedule deviceId => exact scheduleSection_devices
  | reschedule deviceId => exact scheduleSection_devices
  | registerRow deviceId time => rfl
  | ackTimeout deviceId =>
    simp only [turn, stores, InnerDB.registrationTimeout]
    cases db.deviceRegistration.lookup deviceId with
    | none => rfl
    | some row => by_cases h : row.status = .pendingAck <;> simp [h]
  | ackUpdate deviceId time =>
    simp only [turn, stores, InnerDB.updateDeviceRegistration]
    cases db.deviceRegistration.lookup deviceId <;> rfl
  | battery deviceId =>
    simp only [turn, stores, InnerDB.updateLastBatteryRead]
    cases db.scheduledConnections.lookup deviceId <;> rfl
  | lostWrite connection => rfl
  | session deviceId attempt => rfl
  -- the others only read
  | ackDevice deviceId ip time | ackStatus deviceId time | ipDevice deviceId ip
  | ipRead deviceId | ipReread deviceId | wakeUp deviceId | lostRead deviceId
  | talking deviceId attempt needsBattery =>
    simp only [turn, stores]
    repeat' split
    all_goals rfl

/-- What a task of a handler knows of the address its message came from. -/
def Sent (origin : Option IpAddr) : Task → Prop
  | registerAdd device _ | ipModify _ device =>
    ∃ ip, origin = some ip ∧ device.printedIp = some ip.printed
  | ipDevice _ printed => ∃ ip, origin = some ip ∧ printed = ip.printed
  | _ => True

/-- A turn hands the address on. -/
theorem Sent.next {task u : Task} {origin : Option IpAddr} (h : task.Sent origin)
    (hu : u ∈ (task.turn db dm now answered).next) : u.Sent origin := by
  cases turn_next hu with
  | @ipModify d printed device =>
    simp only [turn] at hu
    split at hu
    next => cases hu
    next row hrow =>
      obtain ⟨-, rfl⟩ := ipModify.inj (List.mem_singleton.mp hu)
      obtain ⟨ip, horigin, rfl⟩ := h
      exact ⟨ip, horigin, Device.printedIp_setIp⟩
  | _ => trivial

theorem Sent.stores {task : Task} {origin : Option IpAddr} {device : Device}
    (h : task.Sent origin) (hstores : task.stores db = some device) :
    ∃ ip, origin = some ip ∧ device.printedIp = some ip.printed := by
  cases task with
  | registerAdd added time =>
    obtain rfl := Option.some.inj hstores
    exact h
  | ipModify d changed =>
    simp only [Task.stores] at hstores
    split at hstores
    · obtain rfl := Option.some.inj hstores
      exact h
    · cases hstores
  | _ => cases hstores

end Task

theorem DeviceManager.foldl_acceptDevice_devices (now : Int) (st : InnerDB × DeviceManager)
    (devices : List DelegatedDevice) :
    (devices.foldl (acceptDevice now) st).1.devices = st.1.devices := by
  induction devices generalizing st with
  | nil => rfl
  | cons e devices ih =>
    rw [List.foldl_cons, ih]
    have howner : (st.1.setDeviceOwner e.deviceId st.2.localNodeId).devices = st.1.devices := by
      unfold InnerDB.setDeviceOwner
      split <;> rfl
    exact howner

/-- A store and the tasks of its nodes. Beside them, for each task of a handler, the address
its message came from, and for each device the address of the handler that wrote its row
last. -/
structure Located where
  node : NodeState
  origin : Task → Option IpAddr
  latest : Uuid → Option IpAddr

namespace Located

def startHandler (origin : Task → Option IpAddr) (task : Task) (ip : IpAddr) :
    Task → Option IpAddr :=
  fun u => if u = task then some ip else origin u

def handOn (origin : Task → Option IpAddr) (task : Task) (next : List Task) :
    Task → Option IpAddr :=
  fun u => if u ∈ next then origin task else origin u

def record (latest : Uuid → Option IpAddr) (ip : Option IpAddr) :
    Option Device → Uuid → Option IpAddr
  | none => latest
  | some device => fun d => if d = device.id then ip else latest d

inductive Step : Located → Option NodeEvent → Located → Prop
  | register {s t : NodeState} {origin : Task → Option IpAddr} {latest : Uuid → Option IpAddr}
      {deviceId : Uuid} {ip : IpAddr} {imei : Option String} {time : Option Int} :
      s.Step (.register deviceId ip.printed imei time) t →
      Step ⟨s, origin, latest⟩ (some (.register deviceId ip.printed imei time))
        ⟨t, startHandler origin (.registerAdd (.new deviceId ip.printed imei) time) ip, latest⟩
  | ack {s t : NodeState} {origin : Task → Option IpAddr} {latest : Uuid → Option IpAddr}
      {deviceId : Uuid} {ip : IpAddr} {time : Option Int} :
      s.Step (.ack deviceId ip.printed time) t →
      Step ⟨s, origin, latest⟩ (some (.ack deviceId ip.printed time)) ⟨t, origin, latest⟩
  | ipUpdate {s t : NodeState} {origin : Task → Option IpAddr} {latest : Uuid → Option IpAddr}
      {deviceId : Uuid} {ip : IpAddr} : s.Step (.ipUpdate deviceId ip.printed) t →
      Step ⟨s, origin, latest⟩ (some (.ipUpdate deviceId ip.printed))
        ⟨t, startHandler origin (.ipDevice deviceId ip.printed) ip, latest⟩
  | run {s t : NodeState} {origin : Task → Option IpAddr} {latest : Uuid → Option IpAddr}
      {task : Task} {now : Int} {answered : Bool} : s.Step (.run task now answered) t →
      Step ⟨s, origin, latest⟩ (some (.run task now answered))
        ⟨t, handOn origin task (task.turn s.db s.dm now answered).next,
          record latest (origin task) (task.stores s.db)⟩
  | fire {s t : NodeState} {origin : Task → Option IpAddr} {latest : Uuid → Option IpAddr}
      {id : JobId} : s.Step (.fire id) t →
      Step ⟨s, origin, latest⟩ (some (.fire id)) ⟨t, origin, latest⟩
  | delegate {s t : NodeState} {origin : Task → Option IpAddr} {latest : Uuid → Option IpAddr}
      {now : Int} {devices : List DelegatedDevice} : s.Step (.delegate now devices) t →
      Step ⟨s, origin, latest⟩ (some (.delegate now devices)) ⟨t, origin, latest⟩
  -- whatever writes no device row, a restart and the turn of another node included
  | other {s : NodeState} {origin : Task → Option IpAddr} {latest : Uuid → Option IpAddr}
      {db : InnerDB} {dm : DeviceManager} {tasks : List Task} : db.devices = s.db.devices →
      tasks ⊆ s.tasks → Step ⟨s, origin, latest⟩ none ⟨⟨db, dm, tasks⟩, origin, latest⟩

/-- Every row holds the address of the handler that wrote it last. -/
structure Traced (s : Located) : Prop where
  tasks : ∀ task ∈ s.node.tasks, task.Sent (s.origin task)
  rows : ∀ d row, s.node.db.devices.lookup d = some row →
    ∃ ip, s.latest d = some ip ∧ row.printedIp = some ip.printed

variable {s t : Located}

theorem Traced.add {node : NodeState} {dm : DeviceManager} {origin : Task → Option IpAddr}
    {latest : Uuid → Option IpAddr} {task : Task} (h : Traced ⟨node, origin, latest⟩)
    (htask : task.Sent (origin task)) :
    Traced ⟨⟨node.db, dm, task :: node.tasks⟩, origin, latest⟩ := by
  refine ⟨fun u hu => ?_, h.rows⟩
  cases List.mem_cons.mp hu with
  | inl heq => rw [heq]; exact htask
  | inr hold => exact h.tasks u hold

theorem Traced.spawn {node : NodeState} {origin : Task → Option IpAddr}
    {latest : Uuid → Option IpAddr} {task : Task} {ip : IpAddr}
    (h : Traced ⟨node, origin, latest⟩) (htask : task.Sent (some ip)) :
    Traced ⟨node.spawn task, startHandler origin task ip, latest⟩ := by
  refine ⟨fun u hu => ?_, h.rows⟩
  dsimp only [startHandler]
  split
  next heq => exact heq ▸ htask
  next hne =>
    cases List.mem_cons.mp hu with
    | inl heq => exact absurd heq hne
    | inr hold => exact h.tasks u hold

theorem Traced.run {node : NodeState} {origin : Task → Option IpAddr}
    {latest : Uuid → Option IpAddr} {task : Task} {now : Int} {answered : Bool}
    (h : Traced ⟨node, origin, latest⟩) (htask : task ∈ node.tasks) :
    Traced ⟨node.run task now answered,
      handOn origin task (task.turn node.db node.dm now answered).next,
      record latest (origin task) (task.stores node.db)⟩ := by
  have hsent : task.Sent (origin task) := h.tasks task htask
  refine ⟨fun u hu => ?_, fun d row hrow => ?_⟩
  · dsimp only [handOn]
    split
    next hnext => exact hsent.next hnext
    next hnext =>
      cases List.mem_append.mp hu with
      | inl hnew => exact absurd hnew hnext
      | inr hold => exact h.tasks u (List.mem_of_mem_erase hold)
  · have hrow' : (task.turn node.db node.dm now answered).db.devices.lookup d = some row := hrow
    rw [Task.turn_devices] at hrow'
    cases hstores : task.stores node.db with
    | none =>
      rw [hstores] at hrow'
      exact h.rows d row hrow'
    | some device =>
      rw [hstores] at hrow'
      dsimp only [record]
      by_cases hd : d = device.id
      · rw [hd, Finmap.lookup_insert] at hrow'
        obtain rfl := Option.some.inj hrow'
        rw [if_pos hd]
        exact hsent.stores hstores
      · rw [Finmap.lookup_insert_of_ne _ hd] at hrow'
        rw [if_neg hd]
        exact h.rows d row hrow'

theorem Traced.step {e : Option NodeEvent} (h : s.Traced) (hstep : Step s e t) : t.Traced := by
  cases hstep with
  | register hone =>
    cases hone with
    | register _ => exact h.spawn ⟨_, rfl, Device.printedIp_setIp⟩
  | ack hone =>
    cases hone with
    | ack => exact h.add trivial
  | ipUpdate hone =>
    cases hone with
    | ipUpdate => exact h.spawn ⟨_, rfl, rfl⟩
  | run hone =>
    cases hone with
    | run htask => exact h.run htask
  | fire hone =>
    cases hone with
    | fire _ => exact h.add trivial
  | delegate hone =>
    cases hone with
    | delegate =>
      refine ⟨h.tasks, fun d row hrow => h.rows d row ?_⟩
      rw [← hrow]
      exact congrArg (Finmap.lookup d) (DeviceManager.foldl_acceptDevice_devices _ (_, _) _).symm
  | other hdevices htasks =>
    exact ⟨fun u hu => h.tasks u (htasks hu), fun d row hrow => h.rows d row (hdevices ▸ hrow)⟩

end Located

/-- An ACK gets past the check of its address. -/
def NodeState.PassesAck (s : NodeState) (d : Uuid) (ip : IpAddr) : Prop :=
  ∀ time now answered, ((Task.ackDevice d ip.printed time).turn s.db s.dm now answered).next =
    [.ackStatus d time]

/-- `run_wake_up` does not end in `DeviceWithNoIP`. -/
def NodeState.WakesUp (s : NodeState) (d : Uuid) : Prop :=
  ∀ now answered, ((Task.wakeUp d).turn s.db s.dm now answered).next = [.session d 1]

/-- The session goes to this address. -/
def Device.Dials (device : Device) (bracketed : Reader SocketAddr) (ip : IpAddr) : Prop :=
  device.remoteAddr.bind (SocketAddr.parse bracketed) = some ⟨ip, deviceUdpPort⟩

theorem InnerDB.lookup_of_getDevice {db : InnerDB} {d : Uuid} {row : Device}
    (h : db.getDevice d = .ok row) : db.devices.lookup d = some row := by
  unfold getDevice at h
  split at h
  next found hfound =>
    obtain rfl := Except.ok.inj h
    exact hfound
  next => cases h

section
variable {s : NodeState} {d : Uuid} {row : Device} {ip : IpAddr}

theorem NodeState.wakesUp_of_printedIp (hrow : s.db.getDevice d = .ok row)
    (hip : row.printedIp = some ip.printed) : s.WakesUp d := by
  intro now answered
  obtain ⟨h4, h6⟩ := Device.printedIp_eq_some hip
  simp only [Task.turn, hrow, h4, h6]
  cases ip <;> rfl

theorem NodeState.passesAck_iff (hrow : s.db.getDevice d = .ok row)
    (hip : row.printedIp = some ip.printed) : s.PassesAck d ip ↔ ip.isV4 := by
  obtain ⟨h4, -⟩ := Device.printedIp_eq_some hip
  have hid := InnerDB.getDevice_id hrow
  cases ip with
  | v4 bits =>
    refine iff_of_true (fun time now answered => ?_) rfl
    simp only [Task.turn, hrow, h4, hid]
    exact congrArg Turn.next (if_neg (not_not.mpr rfl))
  | v6 bits =>
    refine iff_of_false (fun h => ?_) Bool.false_ne_true
    have hnext := h none 0 false
    simp only [Task.turn, hrow, h4] at hnext
    cases hnext

theorem Device.dials_iff {bracketed : Reader SocketAddr} (hip : row.printedIp = some ip.printed) :
    row.Dials bracketed ip ↔ ip.isV4 := by
  rw [Device.Dials, Device.remoteAddr, hip, Option.map_some, Option.bind_some]
  cases ip with
  | v4 bits => exact iff_of_true (parse_remoteAddr_v4 bits) rfl
  | v6 bits =>
    rw [parse_remoteAddr_v6]
    exact iff_of_false (Option.some_ne_none _).symm Bool.false_ne_true

end

namespace Located
variable {s t : Located} {es : List (Option NodeEvent)} {d : Uuid} {row : Device}

/-- A row of a device has one address, the one it was stored from last. An ACK from there
passes, and a session goes there, exactly if it is an IPv4 address. -/
theorem address_works_iff {bracketed : Reader SocketAddr} (hdevices : s.node.db.devices = ∅)
    (htasks : s.node.tasks = []) (hrun : Run Step s es t)
    (hrow : t.node.db.getDevice d = .ok row) :
    ∃ ip, t.latest d = some ip ∧ (row.ipv4.isSome ↔ row.ipv6.isNone) ∧ t.node.WakesUp d ∧
      (t.node.PassesAck d ip ↔ ip.isV4) ∧ (row.Dials bracketed ip ↔ ip.isV4) := by
  have hinit : s.Traced := by
    refine ⟨fun task h => ?_, fun e row h => ?_⟩
    · rw [htasks] at h
      cases h
    · rw [hdevices, Finmap.lookup_empty] at h
      cases h
  have htraced := hrun.invariant Traced (fun _ _ _ h hstep => h.step hstep) hinit
  obtain ⟨ip, hlatest, hip⟩ := htraced.rows d row (InnerDB.lookup_of_getDevice hrow)
  obtain ⟨h4, h6⟩ := Device.printedIp_eq_some hip
  refine ⟨ip, hlatest, ?_, NodeState.wakesUp_of_printedIp hrow hip,
    NodeState.passesAck_iff hrow hip, Device.dials_iff hip⟩
  rw [h4, h6]
  cases ip <;> simp [IpAddr.printed, PrintedIp.fields]

/- Meter 9 registers from `ip`, and its row is written. -/
def unmet : Located := ⟨⟨InnerDB.new, freshManager, []⟩, fun _ => none, fun _ => none⟩

def addTask (ip : IpAddr) : Task := .registerAdd (.new 9 ip.printed none) none

def met (ip : IpAddr) : Located where
  node := (unmet.node.spawn (addTask ip)).run (addTask ip) 0 false
  origin := handOn (startHandler unmet.origin (addTask ip) ip) (addTask ip)
    [.registerSection (.new 9 ip.printed none) none]
  latest := record unmet.latest (some ip) (some (.new 9 ip.printed none))

theorem met_run (ip : IpAddr) : Run Step unmet
    [some (.register 9 ip.printed none none), some (.run (addTask ip) 0 false)] (met ip) := by
  have horigin : startHandler unmet.origin (addTask ip) ip (addTask ip) = some ip := if_pos rfl
  have hturn : (unmet.node.spawn (addTask ip)).Step (.run (addTask ip) 0 false) (met ip).node :=
    .run List.mem_cons_self
  have hrun := @Step.run _ _ (startHandler unmet.origin (addTask ip) ip) unmet.latest _ _ _ hturn
  rw [horigin] at hrun
  exact .cons (.register (.register (unused_new 9))) (.single hrun)

theorem met_getDevice (ip : IpAddr) :
    (met ip).node.db.getDevice 9 = .ok (.new 9 ip.printed none) := by
  have hid : (Device.new 9 ip.printed none).id = 9 := Device.setIp_id
  have hrow : (met ip).node.db.devices.lookup (Device.new 9 ip.printed none).id =
      some (.new 9 ip.printed none) := Finmap.lookup_insert _
  rw [hid] at hrow
  rw [InnerDB.getDevice, hrow]

/-- A meter at 10.0.0.9. -/
theorem address_works_iff_v4 : (met (.v4 0x0a000009)).node.PassesAck 9 (.v4 0x0a000009) ∧
    (Device.new 9 (IpAddr.v4 0x0a000009).printed none).Dials (fun _ => none)
      (.v4 0x0a000009) := by
  obtain ⟨ip, hlatest, -, -, hack, hdials⟩ := @address_works_iff _ _ _ 9 _ (fun _ => none) rfl rfl
    (met_run (.v4 0x0a000009)) (met_getDevice (.v4 0x0a000009))
  obtain rfl := Option.some.inj hlatest
  exact ⟨hack.mpr rfl, hdials.mpr rfl⟩

/-- The ACK of a meter at `::1` does not pass. -/
theorem v6_ack_refused : ¬ ∀ (s t : Located) (es : List (Option NodeEvent)) (d : Uuid)
    (row : Device) (ip : IpAddr), s.node.db.devices = ∅ → s.node.tasks = [] →
      Run Step s es t → t.node.db.getDevice d = .ok row → t.latest d = some ip →
      (row.ipv4.isSome ↔ row.ipv6.isNone) ∧ t.node.PassesAck d ip ∧
        ∃ bracketed, row.Dials bracketed ip := by
  intro h
  have hack := (h unmet (met (.v6 1)) _ 9 _ (.v6 1) rfl rfl (met_run (.v6 1))
    (met_getDevice (.v6 1)) rfl).2.1
  have hv4 := (NodeState.passesAck_iff (met_getDevice (.v6 1)) Device.printedIp_setIp).mp hack
  cases hv4

end Located

end HeadEnd
