import HeadEnd.ActiveTasks

/-! A device may ask for a session of its own. The backdoor starts a task for it, which takes
the device over, enters itself into the router under the address of the device, talks to it,
and clears the entry. -/
namespace HeadEnd
open Transition Registry HeadEnd.Buffer HeadEnd.Messages

/-- For each address the number of the task whose channel is there. -/
abbrev DebugRouter := Finmap fun _ : SocketAddr => Nat

/-- The task to which a message is forwarded. Only what a device answers in a session is. -/
def tryRoute (router : DebugRouter) (addr : SocketAddr) (msg : Message) : Option Nat :=
  match msg.msgType with
  | .handshakeResponse | .readResponse | .writeResponse => router.lookup addr
  | _ => none

inductive DebugError where
  | messageError
  | tcpError (text : String)
  | parseError (text : String)
  deriving DecidableEq, Repr

/-- The messages of a session that the device answers. -/
inductive SessionLeg where
  | handshake | read | write
  deriving DecidableEq, Repr

namespace SessionLeg

def build (leg : SessionLeg) (deviceId : Uuid) (needsBattery : Bool) (nextWakeTs : UInt64)
    (now : Int) : Int → Except TaskError Message :=
  match leg with
  | handshake => newHandshakeMessage deviceId 0 (List.replicate 32 0)
  | read => newReadRequestMessage deviceId 1 (obisCodes needsBattery)
  | write =>
    newWriteRequestMessage deviceId 2
      [{ code := obisClock, value := be 8 (UInt64.ofInt (timestamp now)).toNat },
        { code := obisNextWake, value := be 8 nextWakeTs.toNat }]

def expects : SessionLeg → MsgType
  | handshake => .handshakeResponse
  | read => .readResponse
  | write => .writeResponse

def accepts : SessionLeg → MessagePayload → Bool
  | handshake => MessagePayload.isHandshakeResponse
  | read => MessagePayload.isReadResponse
  | write => MessagePayload.isWriteResponse

end SessionLeg

/-- A task that handles a request, named after what it does next. -/
inductive SessionStage where
  | cancel
  | abort
  | schedule
  | readTime
  | insert (nextWakeTs : UInt64)
  | check (nextWakeTs : UInt64)
  | send (leg : SessionLeg) (needsBattery : Bool) (nextWakeTs : UInt64)
  | recv (leg : SessionLeg) (needsBattery : Bool) (nextWakeTs : UInt64)
  | ack (needsBattery : Bool)
  | battery
  | remove (result : Except DebugError Unit)
  | done (result : Except DebugError Unit)

namespace SessionStage

/-- The task has not entered itself yet. -/
def isBefore : SessionStage → Bool
  | cancel | abort | schedule | readTime | insert _ => true
  | _ => false

/-- How many turns a task may need to get there. -/
def rank : SessionStage → Nat
  | cancel => 4
  | abort => 3
  | schedule => 2
  | readTime => 1
  | _ => 0

/-- The session is going on. -/
def isActive : SessionStage → Bool
  | check _ | send _ _ _ | recv _ _ _ | ack _ | battery => true
  | _ => false

/-- After the answer to a message. -/
def answered (leg : SessionLeg) (needsBattery : Bool) (nextWakeTs : UInt64) : SessionStage :=
  match leg with
  | .handshake => send .read needsBattery nextWakeTs
  | .read => send .write needsBattery nextWakeTs
  | .write => ack needsBattery

end SessionStage

structure DebugSession where
  addr : SocketAddr
  deviceId : Uuid
  stage : SessionStage
  inbox : List Message

/- What a turn meets: two readings of the clock, the cron library's error, what sending
   gives, and whether the time for an answer is up. -/
structure TurnInput where
  now : Int
  sentAt : Int
  refused : Option String := none
  sending : Except DebugError Unit := .ok ()
  timedOut : Bool := false

structure SessionTurn where
  wakeUps : WakeUps
  router : DebugRouter
  session : DebugSession
  sent : Option (SocketAddr × Message) := none

namespace DebugSession

def sendMsg (sending : Except DebugError Unit) (msg : Except TaskError Message) :
    Except DebugError Message :=
  match msg, sending with
  | .error _, _ => .error .messageError
  | .ok _, .error e => .error e
  | .ok msg, .ok () => .ok msg

/-- A message that is waiting is taken first. The channel is closed once the router has
another one for the address, or none. -/
def recvMsg (router : DebugRouter) (i : Nat) (timedOut : Bool) (leg : SessionLeg)
    (c : DebugSession) : Option (List Message × Except DebugError Unit) :=
  match c.inbox with
  | msg :: rest =>
    some (rest,
      if leg.accepts msg.payload then .ok ()
      else .error (.parseError
        ("expected " ++ leg.expects.asStr ++ ", got " ++ msg.msgType.asStr)))
  | [] =>
    if timedOut then some ([], .error (.parseError "device did not respond within timeout"))
    else if router.lookup c.addr = some i then none
    else some ([], .error (.parseError "debug session channel closed"))

/-- The next turn of task `i`, unless it has to wait. -/
def turn (w : WakeUps) (router : DebugRouter) (i : Nat) (x : TurnInput) (c : DebugSession) :
    Option SessionTurn :=
  match c.stage with
  | .cancel =>
    some { wakeUps := w.cancelWakeupJob c.deviceId x.refused, router
           session := { c with stage := .abort } }
  | .abort =>
    some { wakeUps := w.abort c.deviceId, router, session := { c with stage := .schedule } }
  | .schedule =>
    match w.node.dm.scheduleNextWakeup w.node.db x.now c.deviceId with
    | .ok (db, dm) =>
      some { wakeUps := { w with node := { w.node with db, dm } }, router
             session := { c with stage := .readTime } }
    | .error _ =>
      some { wakeUps := w, router, session := { c with stage := .insert (nextWakeTs x.now) } }
  | .readTime =>
    let ts :=
      match w.node.db.getScheduledConnection c.deviceId with
      | .ok conn => UInt64.ofInt (timestamp conn.scheduleTime)
      | .error _ => nextWakeTs x.now
    some { wakeUps := w, router, session := { c with stage := .insert ts } }
  | .insert ts =>
    some { wakeUps := w, router := router.insert c.addr i
           session := { c with stage := .check ts } }
  | .check ts =>
    let needsBattery := needsBattery w.node.db x.now c.deviceId
    some { wakeUps := w, router
           session := { c with stage := .send .handshake needsBattery ts } }
  | .send leg needsBattery ts =>
    match sendMsg x.sending (leg.build c.deviceId needsBattery ts x.now x.sentAt) with
    | .ok msg =>
      some { wakeUps := w, router, session := { c with stage := .recv leg needsBattery ts }
             sent := some (c.addr, msg) }
    | .error e =>
      some { wakeUps := w, router, session := { c with stage := .remove (.error e) } }
  | .recv leg needsBattery ts =>
    match c.recvMsg router i x.timedOut leg with
    | none => none
    | some (inbox, .ok ()) =>
      some { wakeUps := w, router
             session := { c with inbox, stage := .answered leg needsBattery ts } }
    | some (inbox, .error e) =>
      some { wakeUps := w, router, session := { c with inbox, stage := .remove (.error e) } }
  | .ack needsBattery =>
    match sendMsg x.sending (newAckMessage c.deviceId 3 x.sentAt) with
    | .ok msg =>
      some { wakeUps := w, router
             session := { c with stage := if needsBattery then .battery else .remove (.ok ()) }
             sent := some (c.addr, msg) }
    | .error e =>
      some { wakeUps := w, router, session := { c with stage := .remove (.error e) } }
  | .battery =>
    let db := storeBatteryRead w.node.db c.deviceId x.now
    some { wakeUps := { w with node := { w.node with db } }, router
           session := { c with stage := .remove (.ok ()) } }
  | .remove result =>
    some { wakeUps := w, router := router.erase c.addr
           session := { c with stage := .done result } }
  | .done _ => none

end DebugSession

structure Backdoor where
  wakeUps : WakeUps
  router : DebugRouter
  sessions : List DebugSession

inductive BackdoorEvent where
  | datagram (addr : SocketAddr) (msg : Message)
  | turn (i : Nat) (x : TurnInput)
  | wakeUps (e : WakeUpEvent)

namespace Backdoor

def start (w : WakeUps) : Backdoor := ⟨w, ∅, []⟩

/-- What the loop does with a message. A request is dropped if its address has an entry.
Registrations are left to the other tasks of the node. -/
def receive (s : Backdoor) (addr : SocketAddr) (msg : Message) : Backdoor :=
  match tryRoute s.router addr msg with
  | some i =>
    { s with
      sessions := s.sessions.modify i fun c => { c with inbox := c.inbox ++ [msg] } }
  | none =>
    if msg.msgType = .sessionStartRequest then
      match s.router.lookup addr with
      | some _ => s
      | none => { s with sessions := s.sessions ++ [⟨addr, msg.deviceId, .cancel, []⟩] }
    else s

inductive Step : Backdoor → BackdoorEvent → Backdoor → Prop
  | datagram {s : Backdoor} {addr : SocketAddr} {msg : Message} :
      Step s (.datagram addr msg) (s.receive addr msg)
  | turn {s : Backdoor} {i : Nat} {x : TurnInput} {c : DebugSession} {r : SessionTurn} :
      s.sessions[i]? = some c → c.turn s.wakeUps s.router i x = some r →
      Step s (.turn i x) ⟨r.wakeUps, r.router, s.sessions.set i r.session⟩
  | wakeUps {s : Backdoor} {e : WakeUpEvent} {w : WakeUps} : s.wakeUps.Step e w →
      Step s (.wakeUps e) { s with wakeUps := w }

/-- No two sessions go on at one address, and the entry of a session is its own as long as
the session goes on. -/
structure OneSession (s : Backdoor) : Prop where
  sole : ∀ (i j : Nat) (c c' : DebugSession), s.sessions[i]? = some c →
    s.sessions[j]? = some c' → c.stage.isActive = true → c'.stage.isActive = true →
    c.addr = c'.addr → i = j
  entry : ∀ (i : Nat) (c : DebugSession), s.sessions[i]? = some c → c.stage.isActive = true →
    s.router.lookup c.addr = some i

/-- A request that is not dropped comes when no task for its address is still on its way to
its entry. -/
def Settled (s : Backdoor) : BackdoorEvent → Prop
  | .datagram addr msg => msg.msgType = .sessionStartRequest → s.router.lookup addr = none →
      ∀ c ∈ s.sessions, c.addr = addr → c.stage.isBefore = false
  | _ => True

end Backdoor

namespace DebugSession

/-- A task relies on its entry from when it is there until the task clears it. -/
def view (c : DebugSession) : Option (SocketAddr × Stage) :=
  match c.stage with
  | .done _ => none
  | stage => some (c.addr, if stage.isBefore then .started else .entered)

variable {c : DebugSession}

theorem view_ne_resting {addr : SocketAddr} : c.view ≠ some (addr, .resting) := by
  intro h
  cases hstage : c.stage with
  | _ =>
    rw [view, hstage] at h
    cases h

/-- All that a turn does to the router, and whether the task relies on its entry. -/
inductive Routes (router : DebugRouter) (i : Nat) (c : DebugSession) :
    DebugRouter → DebugSession → Prop
  | keeps {c' : DebugSession} : c'.view = c.view → Routes router i c router c'
  | enters {c' : DebugSession} : c.view = some (c.addr, .started) →
      c'.view = some (c.addr, .entered) → Routes router i c (router.insert c.addr i) c'
  | clears {c' : DebugSession} : c.view = some (c.addr, .entered) → c'.view = none →
      Routes router i c (router.erase c.addr) c'

theorem view_of_isActive (h : c.stage.isActive = true) : c.view = some (c.addr, .entered) := by
  cases hstage : c.stage with
  | check _ | send _ _ _ | recv _ _ _ | ack _ | battery =>
    rw [view, hstage]
    rfl
  | _ =>
    rw [hstage] at h
    cases h

theorem isBefore_of_view {addr : SocketAddr} (h : c.view = some (addr, .started)) :
    c.addr = addr ∧ c.stage.isBefore = true := by
  cases hstage : c.stage with
  | cancel | abort | schedule | readTime | insert _ =>
    rw [view, hstage] at h
    exact ⟨(Prod.mk.inj (Option.some.inj h)).1, rfl⟩
  | done _ =>
    rw [view, hstage] at h
    cases h
  | _ =>
    rw [view, hstage] at h
    cases (Prod.mk.inj (Option.some.inj h)).2

theorem turn_routes {w : WakeUps} {router : DebugRouter} {i : Nat} {x : TurnInput}
    {r : SessionTurn} (h : c.turn w router i x = some r) :
    Routes router i c r.router r.session := by
  obtain ⟨addr, deviceId, stage, inbox⟩ := c
  cases stage with
  | cancel | abort | readTime | check _ | battery =>
    obtain rfl := Option.some.inj h
    exact .keeps rfl
  | schedule =>
    simp only [turn] at h
    split at h
    next =>
      obtain rfl := Option.some.inj h
      exact .keeps rfl
    next =>
      obtain rfl := Option.some.inj h
      exact .keeps rfl
  | insert ts =>
    obtain rfl := Option.some.inj h
    exact .enters rfl rfl
  | send leg needsBattery ts =>
    simp only [turn] at h
    split at h
    next =>
      obtain rfl := Option.some.inj h
      exact .keeps rfl
    next =>
      obtain rfl := Option.some.inj h
      exact .keeps rfl
  | recv leg needsBattery ts =>
    simp only [turn] at h
    split at h
    next => cases h
    next =>
      obtain rfl := Option.some.inj h
      cases leg <;> exact .keeps rfl
    next =>
      obtain rfl := Option.some.inj h
      exact .keeps rfl
  | ack needsBattery =>
    simp only [turn] at h
    split at h
    next =>
      obtain rfl := Option.some.inj h
      cases needsBattery <;> exact .keeps rfl
    next =>
      obtain rfl := Option.some.inj h
      exact .keeps rfl
  | remove result =>
    obtain rfl := Option.some.inj h
    exact .clears rfl rfl
  | done result => cases h

/-- A task on its way to its entry never has to wait. -/
theorem exists_turn (hbefore : c.stage.isBefore = true) (w : WakeUps) (router : DebugRouter)
    (i : Nat) :
    ∃ x r, c.turn w router i x = some r ∧ r.session.addr = c.addr ∧
      (r.session.stage.isActive = true ∨
        (r.session.stage.isBefore = true ∧ r.session.stage.rank < c.stage.rank)) := by
  obtain ⟨addr, deviceId, stage, inbox⟩ := c
  cases stage with
  | cancel | abort | readTime =>
    exact ⟨{ now := 0, sentAt := 0 }, _, rfl, rfl, .inr ⟨rfl, Nat.lt_succ_self _⟩⟩
  | insert ts => exact ⟨{ now := 0, sentAt := 0 }, _, rfl, rfl, .inl rfl⟩
  | schedule =>
    refine ⟨{ now := 0, sentAt := 0 }, ?_⟩
    simp only [turn]
    split
    next => exact ⟨_, rfl, rfl, .inr ⟨rfl, Nat.lt_succ_self _⟩⟩
    next => exact ⟨_, rfl, rfl, .inr ⟨rfl, Nat.zero_lt_two⟩⟩
  | _ => cases hbefore

end DebugSession

namespace Backdoor
variable {s t : Backdoor} {e : BackdoorEvent}

def view (s : Backdoor) : View Nat SocketAddr := .ofTables DebugSession.view s.sessions s.router

/-- A request is taken only if there is no live task for its address: one with an entry would
have been seen in the router. -/
theorem sound_receive (h : Sound s.view) {addr : SocketAddr} {msg : Message}
    (hsettled : s.Settled (.datagram addr msg)) : Sound (s.receive addr msg).view := by
  unfold receive
  split
  next i _ =>
    rw [view, List.modify_eq_set_getElem?]
    cases hc : s.sessions[i]? with
    | none => exact h
    | some c => exact h.set hc rfl
  next =>
    split
    next hrequest =>
      split
      next => exact h
      next hfree =>
        refine h.append rfl fun c hc st hview => ?_
        cases st with
        | started =>
          obtain ⟨haddr, hbefore⟩ := DebugSession.isBefore_of_view hview
          have hsettled := hsettled hrequest hfree c hc haddr
          rw [hbefore] at hsettled
          cases hsettled
        | entered =>
          obtain ⟨j, hj⟩ := List.mem_iff_getElem?.mp hc
          have hentry := h.entered j addr ((View.task_of_getElem? hj).trans hview)
          cases hfree.symm.trans hentry
        | resting => exact DebugSession.view_ne_resting hview
    next => exact h

theorem sound_step (h : Sound s.view) (hstep : Guarded Settled Step s e t) : Sound t.view := by
  obtain ⟨hsettled, hone⟩ := hstep
  cases hone with
  | datagram => exact sound_receive h hsettled
  | @turn i x c r hc hturn =>
    have hroutes := DebugSession.turn_routes hturn
    obtain ⟨w, router, session, sent⟩ := r
    cases hroutes with
    | keeps hview => exact h.set hc hview
    | enters hbefore hafter => exact h.set_insert hc hbefore hafter (by simp)
    | clears hbefore hafter => exact h.set_erase hc hbefore (r := none) hafter (by simp)
  | wakeUps _ => exact h

theorem lookup_of_isActive (h : Sound s.view) {i : Nat} {c : DebugSession}
    (hc : s.sessions[i]? = some c) (hactive : c.stage.isActive = true) :
    s.router.lookup c.addr = some i :=
  h.entered i c.addr ((View.task_of_getElem? hc).trans (DebugSession.view_of_isActive hactive))

theorem oneSession_of_sound (h : Sound s.view) : s.OneSession where
  sole i j c c' hc hc' hactive hactive' haddr := by
    have hi := lookup_of_isActive h hc hactive
    have hj := lookup_of_isActive h hc' hactive'
    rw [haddr] at hi
    exact Option.some.inj (hi.symm.trans hj)
  entry _ _ hc hactive := lookup_of_isActive h hc hactive

/-- A task on its way to its entry can get there while everyone else waits. -/
theorem run_to_active (i : Nat) (c : DebugSession) (hc : s.sessions[i]? = some c)
    (hbefore : c.stage.isBefore = true) :
    ∃ es t c', Run Step s es t ∧ t.sessions = s.sessions.set i c' ∧ c'.addr = c.addr ∧
      c'.stage.isActive = true := by
  induction hrank : c.stage.rank using Nat.strong_induction_on generalizing s c with
  | _ n ih =>
    obtain ⟨x, r, hturn, haddr, hnext⟩ := c.exists_turn hbefore s.wakeUps s.router i
    have hstep : Step s (.turn i x) ⟨r.wakeUps, r.router, s.sessions.set i r.session⟩ :=
      .turn hc hturn
    cases hnext with
    | inl hactive => exact ⟨[.turn i x], _, r.session, .single hstep, rfl, haddr, hactive⟩
    | inr hcloser =>
      have hnow : (Backdoor.mk r.wakeUps r.router (s.sessions.set i r.session)).sessions[i]? =
          some r.session :=
        List.getElem?_set_self (List.getElem?_eq_some_iff.mp hc).1
      obtain ⟨es, t, c', hrun, hsessions, haddr', hactive⟩ :=
        ih r.session.stage.rank (hrank ▸ hcloser.2) r.session hnow hcloser.1 rfl
      rw [List.set_set] at hsessions
      exact ⟨.turn i x :: es, t, c', .cons hstep hrun, hsessions, haddr'.trans haddr, hactive⟩

theorem receive_request {addr : SocketAddr} {msg : Message}
    (hrequest : msg.msgType = .sessionStartRequest) (hfree : s.router.lookup addr = none) :
    s.receive addr msg =
      { s with sessions := s.sessions ++ [⟨addr, msg.deviceId, .cancel, []⟩] } := by
  have hroute : tryRoute s.router addr msg = none := by rw [tryRoute, hrequest]
  simp only [receive, hroute, if_pos hrequest, hfree]

/-- Two tasks for one address that are on their way to their entries can both get there. -/
theorem exists_two_sessions {i j : Nat} {c c' : DebugSession} (hne : i ≠ j)
    (hc : s.sessions[i]? = some c) (hc' : s.sessions[j]? = some c') (haddr : c.addr = c'.addr)
    (hbefore : c.stage.isBefore = true) (hbefore' : c'.stage.isBefore = true) :
    ∃ es t, Run Step s es t ∧ ¬ t.OneSession := by
  have hi : i < s.sessions.length := (List.getElem?_eq_some_iff.mp hc).1
  have hj : j < s.sessions.length := (List.getElem?_eq_some_iff.mp hc').1
  obtain ⟨es, t, d, hrun, hsessions, hd, hactive⟩ := run_to_active i c hc hbefore
  have hstays : t.sessions[j]? = some c' := by
    rw [hsessions, List.getElem?_set_ne hne]
    exact hc'
  obtain ⟨fs, u, d', hrun', hsessions', hd', hactive'⟩ := run_to_active j c' hstays hbefore'
  refine ⟨es ++ fs, u, hrun.append hrun', fun hone => hne ?_⟩
  have hfirst : u.sessions[i]? = some d := by
    rw [hsessions', List.getElem?_set_ne (Ne.symm hne), hsessions]
    exact List.getElem?_set_self hi
  have hsecond : u.sessions[j]? = some d' := by
    rw [hsessions', hsessions]
    exact List.getElem?_set_self (by rw [List.length_set]; exact hj)
  exact hone.sole i j d d' hfirst hsecond hactive hactive' (hd.trans (haddr.trans hd'.symm))

/-- A request that comes too early can lead to two sessions. -/
theorem exists_two_sessions_of_early (hstep : Step s e t) (hearly : ¬ s.Settled e) :
    ∃ es u, Run Step t es u ∧ ¬ u.OneSession := by
  cases hstep with
  | turn _ _ | wakeUps _ => exact absurd trivial hearly
  | @datagram addr msg =>
    simp only [Settled, not_forall, Bool.not_eq_false] at hearly
    obtain ⟨hrequest, hfree, c, hc, haddr, hbefore⟩ := hearly
    obtain ⟨i, hi⟩ := List.mem_iff_getElem?.mp hc
    have hlt : i < s.sessions.length := (List.getElem?_eq_some_iff.mp hi).1
    rw [receive_request hrequest hfree]
    refine exists_two_sessions (Nat.ne_of_lt hlt) ?_ List.getElem?_concat_length haddr hbefore rfl
    rw [List.getElem?_append_left hlt]
    exact hi

/-- Along a run in which no request comes while a task for its address is on its way to its
entry, there is never more than one session at an address, and nobody else touches its
entry. A request that comes at any other time opens the way to a second session. -/
theorem oneSession_of_settled (w : WakeUps) {es : List BackdoorEvent}
    (hrun : Run (Guarded Settled Step) (start w) es s) :
    s.OneSession ∧
      ∀ e t, Step s e t → ¬ s.Settled e → ∃ fs u, Run Step t fs u ∧ ¬ u.OneSession := by
  have hsound := hrun.invariant (fun s => Sound s.view) (fun _ _ _ h hstep => sound_step h hstep)
    .empty
  exact ⟨oneSession_of_sound hsound,
    fun e t hstep hearly => exists_two_sessions_of_early hstep hearly⟩

/- Device 9 asks for a session. It is not in a bucket, so that its next wake-up cannot be
   scheduled and is a day ahead. -/
def nineAddr : SocketAddr := ⟨.v4 0x0a000009, 6060⟩

def requestOfNine : Message where
  version := currentProtocolVersion
  msgType := .sessionStartRequest
  deviceId := 9
  seq := 0
  timestamp := 0
  payload := .sessionStartRequest
  mac := 0

def turnOf (i : Nat) : BackdoorEvent := .turn i { now := 0, sentAt := 0 }

theorem step_turn {i : Nat} {c : DebugSession} {r : SessionTurn} (hc : s.sessions[i]? = some c)
    (hr : c.turn s.wakeUps s.router i { now := 0, sentAt := 0 } = some r) :
    Step s (turnOf i) ⟨r.wakeUps, r.router, s.sessions.set i r.session⟩ :=
  .turn hc hr

/-- The request comes again when the session is going on, and is dropped. -/
theorem oneSession_nine :
    ∃ s, Run (Guarded Settled Step) (start (.start WakeUps.jobForNine))
        [.datagram nineAddr requestOfNine, turnOf 0, turnOf 0, turnOf 0, turnOf 0,
          .datagram nineAddr requestOfNine] s ∧
      s.OneSession ∧ s.sessions.map (fun c => c.stage.isActive) = [true] := by
  have hrun : Run (Guarded Settled Step) (start (.start WakeUps.jobForNine))
      [.datagram nineAddr requestOfNine, turnOf 0, turnOf 0, turnOf 0, turnOf 0,
        .datagram nineAddr requestOfNine] _ :=
    .cons ⟨fun _ _ c hc => absurd hc List.not_mem_nil, .datagram⟩
      (.cons ⟨trivial, step_turn rfl rfl⟩ (.cons ⟨trivial, step_turn rfl rfl⟩
        (.cons ⟨trivial, step_turn rfl rfl⟩ (.cons ⟨trivial, step_turn rfl rfl⟩
          (.single ⟨fun _ hfree => (by cases hfree), .datagram⟩)))))
  exact ⟨_, hrun, (oneSession_of_settled _ hrun).1, rfl⟩

/-- The request comes again before the first task has entered itself: two sessions with the
device go on at once. -/
theorem two_sessions_nine :
    ¬ ∀ (w : WakeUps) (es : List BackdoorEvent) (s : Backdoor),
      Run Step (start w) es s → s.OneSession := by
  intro h
  have hrun : Run Step (start (.start WakeUps.jobForNine))
      [.datagram nineAddr requestOfNine, .datagram nineAddr requestOfNine, turnOf 0, turnOf 0,
        turnOf 0, turnOf 0, turnOf 1, turnOf 1, turnOf 1, turnOf 1] _ :=
    .cons .datagram (.cons .datagram (.cons (step_turn rfl rfl) (.cons (step_turn rfl rfl)
      (.cons (step_turn rfl rfl) (.cons (step_turn rfl rfl) (.cons (step_turn rfl rfl)
        (.cons (step_turn rfl rfl) (.cons (step_turn rfl rfl)
          (.single (step_turn rfl rfl))))))))))
  have hone := h _ _ _ hrun
  have hsame := hone.sole 0 1 _ _ rfl rfl rfl rfl rfl
  cases hsame

end Backdoor

end HeadEnd
