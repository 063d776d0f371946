import HeadEnd.Cluster.RoundTrip
import HeadEnd.Cluster.Join
import HeadEnd.Messages.Datagrams

/-! Which handler a message comes to, and with which payload. A message that was decoded has
the payload that its type promises, so no handler turns it down. -/
namespace HeadEnd.Cluster
open HeadEnd.Buffer HeadEnd.Messages

/- A payload that a handler ignores may be of any kind. -/
inductive HandlerCall where
  | heartbeat (payload : HeartbeatPayload)
  | heartbeatAck
  | statusRequest
  | statusResponse (payload : StatusResponsePayload)
  | delegationRequest (payload : DelegateRequestPayload)
  | delegationAccept (payload : DelegateAcceptPayload)
  | delegationReject (reason : String)
  | nodeJoin (payload : NodeJoinPayload)
  | nodeLeave
  | nodeSuspect (payload : NodeSuspectPayload)
  | nodeDead (payload : NodeDeadPayload)
  | probeRequest (targetNodeId : Uuid)
  | probeResponse (payload : Option ProbeResponsePayload)
  | configUpdate (payload : ConfigUpdatePayload)
  | configUpdateAck (payload : Option ConfigUpdateAckPayload)

def expected (name : String) : Except HandlerError HandlerCall :=
  .error (.invalidMessage s!"Expected {name} payload")

/-- The match of `handle_message`, with the checks at the head of the handlers. -/
def ClusterMessage.dispatch (msg : ClusterMessage) : Except HandlerError HandlerCall :=
  match msg.msgType with
  | .heartbeat =>
    match msg.payload with
    | .heartbeat payload => .ok (.heartbeat payload)
    | _ => expected "Heartbeat"
  | .heartbeatAck => .ok .heartbeatAck
  | .statusRequest => .ok .statusRequest
  | .statusResponse =>
    match msg.payload with
    | .statusResponse payload => .ok (.statusResponse payload)
    | _ => expected "StatusResponse"
  | .delegateRequest =>
    match msg.payload with
    | .delegateRequest payload => .ok (.delegationRequest payload)
    | _ => expected "DelegateRequest"
  | .delegateAccept =>
    match msg.payload with
    | .delegateAccept payload => .ok (.delegationAccept payload)
    | _ => expected "DelegateAccept"
  | .delegateReject =>
    match msg.payload with
    | .delegateReject payload => .ok (.delegationReject payload.reason)
    | _ => expected "DelegateReject"
  | .nodeJoin =>
    match msg.payload with
    | .nodeJoin payload => .ok (.nodeJoin payload)
    | _ => expected "NodeJoin"
  | .nodeLeave => .ok .nodeLeave
  | .nodeSuspect =>
    match msg.payload with
    | .nodeSuspect payload => .ok (.nodeSuspect payload)
    | _ => expected "NodeSuspect"
  | .nodeDead =>
    match msg.payload with
    | .nodeDead payload => .ok (.nodeDead payload)
    | _ => expected "NodeDead"
  | .probeRequest =>
    match msg.payload with
    | .probeRequest payload => .ok (.probeRequest payload.targetNodeId)
    | _ => expected "ProbeRequest"
  | .probeResponse =>
    match msg.payload with
    | .probeResponse payload => .ok (.probeResponse (some payload))
    | _ => .ok (.probeResponse none)
  | .configUpdate =>
    match msg.payload with
    | .configUpdate payload => .ok (.configUpdate payload)
    | _ => expected "ConfigUpdate"
  | .configUpdateAck =>
    match msg.payload with
    | .configUpdateAck payload => .ok (.configUpdateAck (some payload))
    | _ => .ok (.configUpdateAck none)

/-- What the handlers do to the list at once. -/
def HandlerCall.membership (ml : MembershipList) (nodeId : Uuid) (fromAddr : SocketAddr)
    (now : Int) : HandlerCall → MembershipList
  | heartbeat payload => ml.handleHeartbeat nodeId fromAddr payload now
  | heartbeatAck => ml.handleHeartbeatAck nodeId now
  | statusResponse payload => ml.handleStatusResponse nodeId fromAddr payload now
  | nodeJoin payload => ml.handleNodeJoin nodeId fromAddr payload now
  | nodeLeave => ml.removeNode nodeId
  | nodeSuspect payload => ml.markSuspect payload.suspectNodeId
  | nodeDead payload => ml.markDead payload.deadNodeId
  | probeResponse (some payload) => ml.handleProbeResponse payload now
  | probeResponse none | statusRequest | delegationRequest _ | delegationAccept _
  | delegationReject _ | probeRequest _ | configUpdate _ | configUpdateAck _ => ml

/-- A message that is turned down leaves the list as it is. -/
theorem handleMessage_eq_dispatch (ml : MembershipList) (fromAddr : SocketAddr)
    (msg : ClusterMessage) (now : Int) : ml.handleMessage fromAddr msg now =
      match msg.dispatch with
      | .ok call => call.membership ml msg.nodeId fromAddr now
      | .error _ => ml := by
  obtain ⟨version, msgType, nodeId, seq, timestamp, payload⟩ := msg
  cases msgType <;> cases payload <;> rfl

theorem Survivor.handleNodeJoin_eq_error {T : AddrText} {s : Survivor} {msg : ClusterMessage}
    {fromAddr : SocketAddr} {reachable : List NodeInfo} {now : Int} {e : HandlerError}
    (htype : msg.msgType = .nodeJoin)
    (h : s.handleNodeJoin T msg.nodeId fromAddr msg.payload reachable now = .error e) :
    msg.dispatch = .error e := by
  obtain ⟨version, msgType, nodeId, seq, timestamp, payload⟩ := msg
  obtain rfl : msgType = .nodeJoin := htype
  cases payload with
  | nodeJoin join =>
    unfold handleNodeJoin at h
    dsimp only at h
    split at h <;> cases h
  | _ =>
    cases h
    rfl

/-- The payload decoder of a type returns the payload that the type carries. -/
theorem carries_of_decodePayload {T : AddrText} {t : ClusterMessageType} {p : ClusterPayload}
    {buf rest : Bytes} (h : (decodePayload T t).run buf = .ok p rest) : t.Carries p := by
  cases t with
  | heartbeatAck | statusRequest | nodeLeave =>
    cases h
    rfl
  | heartbeat | statusResponse | delegateRequest | delegateAccept | delegateReject | nodeJoin
  | nodeSuspect | nodeDead | probeRequest | probeResponse | configUpdate | configUpdateAck =>
    obtain ⟨b, -, hb⟩ := map_eq_ok.mp h
    exact ⟨b, hb.symm⟩

theorem ClusterMessage.decodeHeader_eq_ok {h : Header} {buf rest : Bytes}
    (hrun : decodeHeader.run buf = .ok h rest) : buf[1]? = some h.msgType.code := by
  obtain ⟨_, buf₁, henough, hrun⟩ := bind_eq_ok.mp hrun
  obtain rfl := (ensure_eq_ok.mp henough).2
  obtain ⟨version, buf₂, hversion, hrun⟩ := bind_eq_ok.mp hrun
  obtain ⟨code, buf₃, hcode, hrun⟩ := bind_eq_ok.mp hrun
  obtain ⟨nodeId, buf₄, -, hrun⟩ := bind_eq_ok.mp hrun
  obtain ⟨seq, buf₅, -, hrun⟩ := bind_eq_ok.mp hrun
  obtain ⟨timestamp, buf₆, -, hrun⟩ := bind_eq_ok.mp hrun
  obtain ⟨msgType, buf₇, htype, hrun⟩ := bind_eq_ok.mp hrun
  cases hrun
  rw [getU8_eq_ok.mp hversion, getU8_eq_ok.mp hcode,
    ClusterMessageType.fromCode_eq_ok.mp (ofExcept_eq_ok.mp htype).1]
  rfl

theorem ClusterMessageCodec.decode_eq_message {T : AddrText} {msg : ClusterMessage}
    {buf rest : Bytes} (h : (decode T).run buf = .ok (some msg) rest) :
    msg.msgType.Carries msg.payload ∧ buf[1]? = some msg.msgType.code := by
  unfold decode at h
  dsimp only at h
  split at h
  next => split at h <;> cases h
  next =>
    obtain ⟨header, mid, hheader, h⟩ := bind_eq_ok.mp h
    obtain ⟨payload, last, hpayload, h⟩ := bind_eq_ok.mp h
    cases h
    exact ⟨carries_of_decodePayload hpayload, ClusterMessage.decodeHeader_eq_ok hheader⟩

/-- With the payload of its type a message comes to its handler. -/
theorem ClusterMessage.dispatch_of_carries {msg : ClusterMessage}
    (h : msg.msgType.Carries msg.payload) : ∃ call, msg.dispatch = .ok call := by
  obtain ⟨version, msgType, nodeId, seq, timestamp, payload⟩ := msg
  cases msgType with
  | heartbeatAck | statusRequest | nodeLeave => exact ⟨_, rfl⟩
  | heartbeat | statusResponse | delegateRequest | delegateAccept | delegateReject | nodeJoin
  | nodeSuspect | nodeDead | probeRequest | probeResponse | configUpdate | configUpdateAck =>
    obtain ⟨b, hb⟩ := h
    dsimp only at hb
    subst hb
    exact ⟨_, rfl⟩

/-- What either codec returns has the payload of its type, and the type of its second byte.
No message from another node is turned down for its payload. -/
theorem decoded_payload_matches :
    (∀ (T : AddrText) (buf rest : Bytes) (msg : ClusterMessage),
      (ClusterMessageCodec.decode T).run buf = .ok (some msg) rest →
        msg.msgType.Carries msg.payload ∧ buf[1]? = some msg.msgType.code ∧
          ∃ call, msg.dispatch = .ok call) ∧
    ∀ (buf rest : Bytes) (msg : Message), MessageCodec.decode.run buf = .ok (some msg) rest →
      msg.msgType.Names msg.payload ∧ buf[1]? = some msg.msgType.code := by
  constructor
  · intro T buf rest msg h
    obtain ⟨hcarries, hsecond⟩ := ClusterMessageCodec.decode_eq_message h
    exact ⟨hcarries, hsecond, ClusterMessage.dispatch_of_carries hcarries⟩
  · intro buf rest msg h
    have hends := MessageCodec.decode_ends buf
    rw [h] at hends
    cases hends with
    | message hsecond hnames => exact ⟨hnames, hsecond⟩

end HeadEnd.Cluster
