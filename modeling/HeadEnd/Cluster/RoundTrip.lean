import HeadEnd.AddressText
import HeadEnd.Cluster.Message

/-! Every message within the sixteen-bit length prefixes reads back as itself,
and the bytes that follow it are left alone. -/
namespace HeadEnd.Cluster
open HeadEnd.Buffer

/-- The largest length that a two-byte prefix holds. -/
def maxPrefixed : Nat := 65535

def Fits (s : String) : Prop := (asBytes s).length ≤ maxPrefixed

instance (s : String) : Decidable (Fits s) := inferInstanceAs (Decidable (_ ≤ _))

def FitsOpt (o : Option String) : Prop := ∀ s, o = some s → Fits s

/-- An address that printing and parsing bring back, in a text that fits. -/
structure Prints (T : AddrText) (a : SocketAddr) : Prop where
  fits : Fits (T.toText a)
  parse_toText : T.parse (T.toText a) = some a

def DelegatedDevicePayload.WF (p : DelegatedDevicePayload) : Prop :=
  FitsOpt p.ipv4 ∧ FitsOpt p.ipv6

def KnownNodeInfo.WF (T : AddrText) (n : KnownNodeInfo) : Prop :=
  Fits n.nodeName ∧ Prints T n.clusterAddr

def ClusterPayload.WF (T : AddrText) : ClusterPayload → Prop
  | .empty => True
  | .heartbeat p => p.knownNodes.length ≤ maxPrefixed
  | .nodeJoin p => Fits p.nodeName ∧ Prints T p.clusterAddr
  | .nodeSuspect _ => True
  | .nodeDead _ => True
  | .delegateRequest p => p.devices.length ≤ maxPrefixed ∧ ∀ d ∈ p.devices, d.WF
  | .delegateAccept p => p.acceptedDeviceIds.length ≤ maxPrefixed
  | .delegateReject p => Fits p.reason
  | .statusResponse p =>
      Fits p.nodeName ∧ p.knownNodes.length ≤ maxPrefixed ∧ ∀ n ∈ p.knownNodes, n.WF T
  | .probeRequest _ => True
  | .probeResponse _ => True
  | .configUpdate p => Fits p.key ∧ Fits p.value
  | .configUpdateAck p => FitsOpt p.errorMessage

/-- The payload constructor that each message type requires. -/
def ClusterMessageType.Carries : ClusterMessageType → ClusterPayload → Prop
  | .heartbeat, p => ∃ b, p = .heartbeat b
  | .heartbeatAck, p => p = .empty
  | .statusRequest, p => p = .empty
  | .statusResponse, p => ∃ b, p = .statusResponse b
  | .delegateRequest, p => ∃ b, p = .delegateRequest b
  | .delegateAccept, p => ∃ b, p = .delegateAccept b
  | .delegateReject, p => ∃ b, p = .delegateReject b
  | .nodeJoin, p => ∃ b, p = .nodeJoin b
  | .nodeLeave, p => p = .empty
  | .nodeSuspect, p => ∃ b, p = .nodeSuspect b
  | .nodeDead, p => ∃ b, p = .nodeDead b
  | .probeRequest, p => ∃ b, p = .probeRequest b
  | .probeResponse, p => ∃ b, p = .probeResponse b
  | .configUpdate, p => ∃ b, p = .configUpdate b
  | .configUpdateAck, p => ∃ b, p = .configUpdateAck b

theorem toNat_ofNat_of_fits {n : Nat} (h : n ≤ maxPrefixed) : (UInt16.ofNat n).toNat = n := by
  have hlt : n < 65536 := Nat.lt_succ_of_le h
  simp [Nat.mod_eq_of_lt hlt]

@[simp] theorem putString_length (s : String) :
    (putString s).length = 2 + (asBytes s).length := by
  simp [putString]

@[simp] theorem putAddr_length (T : AddrText) (a : SocketAddr) :
    (putAddr T a).length = 2 + (asBytes (T.toText a)).length := putString_length _

@[simp] theorem putBool_length (b : Bool) : (putBool b).length = 1 := putU8_length _

theorem getString_put {extra : Nat} {s : String} {rest : Bytes} (hs : Fits s)
    (hr : extra ≤ rest.length) :
    (getString extra).run (putString s ++ rest) = .ok s rest := by
  have hlen := toNat_ofNat_of_fits hs
  have hroom : (asBytes s).length + extra ≤ (asBytes s ++ rest).length := by
    simpa using hr
  rw [getString, putString, List.append_assoc, run_bind, getU16_put, andThen_ok, hlen, run_bind,
    run_ensure_of_le _ hroom, andThen_ok, run_bind, copyToSlice_append rfl, andThen_ok,
    fromUtf8_asBytes, run_ofOption_some]

theorem decodeOptionalString_encode {o : Option String} (h : FitsOpt o) (rest : Bytes) :
    decodeOptionalString.run (encodeOptionalString o ++ rest) = .ok o rest := by
  cases o with
  | none => simp [decodeOptionalString, encodeOptionalString, optionNone, optionSome]
  | some s =>
    have hs := getString_put (h s rfl) (Nat.zero_le rest.length)
    simp [decodeOptionalString, encodeOptionalString, hs]

theorem encodeOptionalString_length_pos (o : Option String) :
    1 ≤ (encodeOptionalString o).length := by
  cases o <;> simp [encodeOptionalString]

theorem getAddr_put {T : AddrText} {a : SocketAddr} (h : Prints T a) (label : String)
    (rest : Bytes) : (getAddr T label).run (putAddr T a ++ rest) = .ok a rest := by
  rw [getAddr, putAddr, run_bind, getString_put h.fits (Nat.zero_le _), andThen_ok,
    h.parse_toText, run_ofOption_some]

@[simp] theorem getStatus_put (s : NodeStatus) (label : String) (rest : Bytes) :
    (getStatus label).run (putU8 s.code ++ rest) = .ok s rest := by
  simp [getStatus]

@[simp] theorem getBool_put (b : Bool) (f : Bool → Decode α) (rest : Bytes) :
    (getU8 >>= fun v => f (decide (v = boolTrue))).run (putBool b ++ rest) = (f b).run rest := by
  cases b <;> simp [putBool, boolTrue, boolFalse]

@[simp] theorem decodeNodeId_put (id : Uuid) (rest : Bytes) :
    decodeNodeId.run (putU128 id ++ rest) = .ok id rest := by
  have hroom : uuidSize ≤ (putU128 id ++ rest).length := by simp [uuidSize]
  simp [decodeNodeId, run_ensure_of_le _ hroom]

theorem length_flatMap_putU128 (ids : List Uuid) :
    (ids.flatMap putU128).length = ids.length * 16 := by
  simp [List.length_flatMap, Nat.mul_comm]

/-- A counted list of node or device ids, behind a check for sixteen bytes each. -/
theorem getIds_put {ids : List Uuid} (h : ids.length ≤ maxPrefixed) (rest : Bytes)
    (f : List Uuid → Decode α) :
    (getU16 >>= fun n => ensure (n.toNat * 16) .invalidLength >>= fun _ =>
      repeatN getU128 n.toNat >>= f).run
        (putU16 (UInt16.ofNat ids.length) ++ (ids.flatMap putU128 ++ rest)) =
      (f ids).run rest := by
  have hroom : ids.length * 16 ≤ (ids.flatMap putU128 ++ rest).length := by
    rw [List.length_append, length_flatMap_putU128]
    omega
  have hread := repeatN_flatMap (getU128 : Decode Uuid) putU128 ids
    (fun id _ rest => getU128_put id rest) rest
  simp [toNat_ofNat_of_fits h, run_ensure_of_le _ hroom, hread]

theorem HeartbeatPayload.decode_encode {p : HeartbeatPayload}
    (h : p.knownNodes.length ≤ maxPrefixed) (rest : Bytes) :
    decode.run (p.encode ++ rest) = .ok p rest := by
  have hroom : minSize ≤ (p.encode ++ rest).length := by
    simp [minSize, encode, u8Size, u16Size, u32Size]
    omega
  have hids := getIds_put h rest
    (fun ids => pure { p with knownNodes := ids })
  rw [decode, run_bind, run_ensure_of_le _ hroom]
  simpa [encode, uuidSize, List.append_assoc] using hids

theorem NodeJoinPayload.decode_encode {T : AddrText} {p : NodeJoinPayload}
    (hn : Fits p.nodeName) (ha : Prints T p.clusterAddr) (rest : Bytes) :
    (decode T).run (p.encode T ++ rest) = .ok p rest := by
  have hroom : minSize ≤ (p.encode T ++ rest).length := by
    simp [minSize, encode, u16Size]
    omega
  have hafter : u16Size + u16Size ≤
      (putAddr T p.clusterAddr ++ (putU16 p.backdoorPort ++ rest)).length := by
    simp [u16Size]
    omega
  have hport : u16Size ≤ (putU16 p.backdoorPort ++ rest).length := by simp [u16Size]
  rw [decode, run_bind, run_ensure_of_le _ hroom, andThen_ok, encode, List.append_assoc,
    List.append_assoc, run_bind, getString_put hn (Nat.zero_le _), andThen_ok, run_bind,
    run_ensure_of_le _ hafter, andThen_ok, run_bind, getAddr_put ha, andThen_ok, run_bind,
    run_ensure_of_le _ hport]
  simp

theorem DelegatedDevicePayload.decode_encode {p : DelegatedDevicePayload} (h : p.WF)
    (rest : Bytes) : decode.run (p.encode ++ rest) = .ok p rest := by
  obtain ⟨h4, h6⟩ := h
  have hroom : minSize ≤ (p.encode ++ rest).length := by
    have h4' := encodeOptionalString_length_pos p.ipv4
    have h6' := encodeOptionalString_length_pos p.ipv6
    simp [minSize, encode, uuidSize, u8Size, i64Size]
    omega
  have htime : 8 ≤ (putI64 p.scheduleTime ++ rest).length := by simp
  rw [decode, run_bind, run_ensure_of_le _ hroom, andThen_ok, encode, List.append_assoc,
    List.append_assoc, List.append_assoc, run_bind, getU128_put, andThen_ok, run_bind,
    decodeOptionalString_encode h4, andThen_ok, run_bind, decodeOptionalString_encode h6,
    andThen_ok, run_bind, run_ensure_of_le _ htime]
  simp

theorem DelegateRequestPayload.decode_encode {p : DelegateRequestPayload}
    (hl : p.devices.length ≤ maxPrefixed) (hd : ∀ d ∈ p.devices, d.WF) (rest : Bytes) :
    decode.run (p.encode ++ rest) = .ok p rest := by
  have hroom : minSize ≤ (p.encode ++ rest).length := by
    simp [minSize, encode, u16Size, u8Size]
    omega
  have hread := repeatN_flatMap DelegatedDevicePayload.decode DelegatedDevicePayload.encode
    p.devices (fun d hmem rest => DelegatedDevicePayload.decode_encode (hd d hmem) rest)
    (putU8 p.reason.code ++ rest)
  have hcode : 1 ≤ (putU8 p.reason.code ++ rest).length := by simp
  rw [decode, run_bind, run_ensure_of_le _ hroom, andThen_ok, encode, List.append_assoc,
    List.append_assoc, run_bind, getU16_put, andThen_ok, toNat_ofNat_of_fits hl, run_bind, hread,
    andThen_ok, run_bind, run_ensure_of_le _ hcode]
  simp

theorem DelegateAcceptPayload.decode_encode {p : DelegateAcceptPayload}
    (h : p.acceptedDeviceIds.length ≤ maxPrefixed) (rest : Bytes) :
    decode.run (p.encode ++ rest) = .ok p rest := by
  have hroom : minSize ≤ (p.encode ++ rest).length := by
    simp [minSize, encode, u16Size]
  have hids := getIds_put h rest (fun ids => pure (DelegateAcceptPayload.mk ids))
  rw [decode, run_bind, run_ensure_of_le _ hroom, andThen_ok, encode, List.append_assoc]
  exact hids

theorem DelegateRejectPayload.decode_encode {p : DelegateRejectPayload} (h : Fits p.reason)
    (rest : Bytes) : decode.run (p.encode ++ rest) = .ok p rest := by
  have hroom : minSize ≤ (p.encode ++ rest).length := by
    simp [minSize, encode, u16Size]
    omega
  rw [decode, run_bind, run_ensure_of_le _ hroom, andThen_ok, encode, run_bind,
    getString_put h (Nat.zero_le _)]
  rfl

theorem ProbeResponsePayload.decode_encode (p : ProbeResponsePayload) (rest : Bytes) :
    decode.run (p.encode ++ rest) = .ok p rest := by
  have hroom : minSize ≤ (p.encode ++ rest).length := by
    simp [minSize, encode, uuidSize, u8Size]
    omega
  rw [decode, run_bind, run_ensure_of_le _ hroom, andThen_ok, encode, List.append_assoc, run_bind,
    getU128_put, andThen_ok]
  exact getBool_put p.isAlive (fun b => pure (ProbeResponsePayload.mk p.targetNodeId b)) rest

theorem KnownNodeInfo.decode_encode {T : AddrText} {n : KnownNodeInfo} (h : n.WF T)
    (rest : Bytes) : (decode T).run (n.encode T ++ rest) = .ok n rest := by
  obtain ⟨hn, ha⟩ := h
  have hroom : uuidSize + u16Size ≤ (n.encode T ++ rest).length := by
    simp [encode, uuidSize, u16Size]
    omega
  have haddr : u16Size ≤ (putAddr T n.clusterAddr ++
      (putU16 n.backdoorPort ++ (putU8 n.status.code ++ rest))).length := by
    simp [u16Size]
    omega
  have hport : u16Size + u8Size ≤
      (putU16 n.backdoorPort ++ (putU8 n.status.code ++ rest)).length := by
    simp [u16Size, u8Size]
    omega
  rw [decode, run_bind, run_ensure_of_le _ hroom, andThen_ok, encode, List.append_assoc,
    List.append_assoc, List.append_assoc, List.append_assoc, run_bind, getU128_put, andThen_ok,
    run_bind, getString_put hn (Nat.zero_le _), andThen_ok, run_bind, run_ensure_of_le _ haddr,
    andThen_ok, run_bind, getAddr_put ha, andThen_ok, run_bind, run_ensure_of_le _ hport]
  simp

theorem StatusResponsePayload.decodeKnownNodes_put {T : AddrText} {ns : List KnownNodeInfo}
    (hl : ns.length ≤ maxPrefixed) (hn : ∀ n ∈ ns, n.WF T) (rest : Bytes) :
    (decodeKnownNodes T).run
      (putU16 (UInt16.ofNat ns.length) ++ (ns.flatMap (KnownNodeInfo.encode T) ++ rest)) =
        .ok ns rest := by
  have hread := repeatN_flatMap (KnownNodeInfo.decode T) (KnownNodeInfo.encode T) ns
    (fun n hmem rest => KnownNodeInfo.decode_encode (hn n hmem) rest) rest
  have htail : u16Size ≤ (putU16 (UInt16.ofNat ns.length) ++
      (ns.flatMap (KnownNodeInfo.encode T) ++ rest)).length := by
    simp [u16Size]
  rw [decodeKnownNodes, run_bind, run_remaining, andThen_ok, if_pos htail, run_bind, getU16_put,
    andThen_ok, toNat_ofNat_of_fits hl, hread]

theorem StatusResponsePayload.decode_encode {T : AddrText} {p : StatusResponsePayload}
    (hn : Fits p.nodeName) (hl : p.knownNodes.length ≤ maxPrefixed)
    (hk : ∀ n ∈ p.knownNodes, n.WF T) (rest : Bytes) :
    (decode T).run (p.encode T ++ rest) = .ok p rest := by
  have hroom : minSize ≤ (p.encode T ++ rest).length := by
    simp [minSize, encode, u16Size, u8Size, u32Size]
    omega
  have hknown := decodeKnownNodes_put hl hk rest
  rw [decode, run_bind, run_ensure_of_le _ hroom, andThen_ok, encode]
  simp only [List.append_assoc]
  rw [run_bind, getString_put hn (by simp [fieldsAfterName, u16Size, u8Size, u32Size]; omega)]
  simp [hknown]

theorem ConfigUpdatePayload.decode_encode {p : ConfigUpdatePayload} (hk : Fits p.key)
    (hv : Fits p.value) (rest : Bytes) : decode.run (p.encode ++ rest) = .ok p rest := by
  have hroom : minSize ≤ (p.encode ++ rest).length := by
    simp [minSize, encode, uuidSize, u16Size]
    omega
  have hvalue : u16Size ≤ (putString p.value ++ rest).length := by
    simp [u16Size]
    omega
  rw [decode, run_bind, run_ensure_of_le _ hroom, andThen_ok, encode, List.append_assoc,
    List.append_assoc, run_bind, getU128_put, andThen_ok, run_bind,
    getString_put hk (Nat.zero_le _), andThen_ok, run_bind, run_ensure_of_le _ hvalue, andThen_ok,
    run_bind, getString_put hv (Nat.zero_le _)]
  rfl

theorem ConfigUpdateAckPayload.decode_encode {p : ConfigUpdateAckPayload}
    (h : FitsOpt p.errorMessage) (rest : Bytes) : decode.run (p.encode ++ rest) = .ok p rest := by
  have hroom : minSize ≤ (p.encode ++ rest).length := by
    have hm := encodeOptionalString_length_pos p.errorMessage
    simp [minSize, encode, uuidSize, u8Size]
    omega
  have hflag := getBool_put p.success
    (fun b => decodeOptionalString >>= fun m => pure (ConfigUpdateAckPayload.mk p.updateId b m))
    (encodeOptionalString p.errorMessage ++ rest)
  rw [decode, run_bind, run_ensure_of_le _ hroom, andThen_ok, encode, List.append_assoc,
    List.append_assoc, run_bind, getU128_put, andThen_ok, hflag, run_bind,
    decodeOptionalString_encode h]
  rfl

theorem decodePayload_encode {T : AddrText} {t : ClusterMessageType} {p : ClusterPayload}
    (hc : t.Carries p) (hw : p.WF T) (rest : Bytes) :
    (decodePayload T t).run (p.encode T ++ rest) = .ok p rest := by
  cases t with
  | heartbeatAck | statusRequest | nodeLeave =>
    cases hc
    rfl
  | heartbeat =>
    obtain ⟨b, rfl⟩ := hc
    simp [decodePayload, ClusterPayload.encode, HeartbeatPayload.decode_encode hw rest]
  | statusResponse =>
    obtain ⟨b, rfl⟩ := hc
    obtain ⟨hn, hl, hk⟩ := hw
    simp [decodePayload, ClusterPayload.encode, StatusResponsePayload.decode_encode hn hl hk rest]
  | delegateRequest =>
    obtain ⟨b, rfl⟩ := hc
    obtain ⟨hl, hd⟩ := hw
    simp [decodePayload, ClusterPayload.encode, DelegateRequestPayload.decode_encode hl hd rest]
  | delegateAccept =>
    obtain ⟨b, rfl⟩ := hc
    simp [decodePayload, ClusterPayload.encode, DelegateAcceptPayload.decode_encode hw rest]
  | delegateReject =>
    obtain ⟨b, rfl⟩ := hc
    simp [decodePayload, ClusterPayload.encode, DelegateRejectPayload.decode_encode hw rest]
  | nodeJoin =>
    obtain ⟨b, rfl⟩ := hc
    obtain ⟨hn, ha⟩ := hw
    simp [decodePayload, ClusterPayload.encode, NodeJoinPayload.decode_encode hn ha rest]
  | nodeSuspect =>
    obtain ⟨b, rfl⟩ := hc
    simp [decodePayload, ClusterPayload.encode, NodeSuspectPayload.encode,
      NodeSuspectPayload.decode]
  | nodeDead =>
    obtain ⟨b, rfl⟩ := hc
    simp [decodePayload, ClusterPayload.encode, NodeDeadPayload.encode, NodeDeadPayload.decode]
  | probeRequest =>
    obtain ⟨b, rfl⟩ := hc
    simp [decodePayload, ClusterPayload.encode, ProbeRequestPayload.encode,
      ProbeRequestPayload.decode]
  | probeResponse =>
    obtain ⟨b, rfl⟩ := hc
    simp [decodePayload, ClusterPayload.encode, ProbeResponsePayload.decode_encode b rest]
  | configUpdate =>
    obtain ⟨b, rfl⟩ := hc
    obtain ⟨hk, hv⟩ := hw
    simp [decodePayload, ClusterPayload.encode, ConfigUpdatePayload.decode_encode hk hv rest]
  | configUpdateAck =>
    obtain ⟨b, rfl⟩ := hc
    simp [decodePayload, ClusterPayload.encode, ConfigUpdateAckPayload.decode_encode hw rest]

theorem ClusterMessage.encodeHeader_length (m : ClusterMessage) :
    m.encodeHeader.length = clusterHeaderSize := by
  simp [encodeHeader, clusterHeaderSize]

theorem ClusterMessage.decodeHeader_encodeHeader (m : ClusterMessage) (rest : Bytes) :
    decodeHeader.run (m.encodeHeader ++ rest) = .ok m.header rest := by
  have hroom : clusterHeaderSize ≤ (m.encodeHeader ++ rest).length := by
    rw [List.length_append, encodeHeader_length]
    omega
  rw [decodeHeader, run_bind, run_ensure_of_le _ hroom, andThen_ok, encodeHeader]
  simp [header]

theorem ClusterMessageCodec.run_decode_encode {T : AddrText} {m : ClusterMessage}
    (hc : m.msgType.Carries m.payload) (hw : m.payload.WF T) (rest : Bytes) :
    (decode T).run (encode T m ++ rest) = .ok (some m) rest := by
  have hroom : ¬ (encode T m ++ rest).length < clusterHeaderSize := by
    rw [encode, List.append_assoc, List.length_append,
      ClusterMessage.encodeHeader_length]
    omega
  have hpayload := decodePayload_encode hc hw rest
  have hheader := m.decodeHeader_encodeHeader (m.payload.encode T ++ rest)
  simp only [decode, if_neg hroom]
  rw [decodeMessage, encode, List.append_assoc, run_bind,
    hheader, andThen_ok, run_bind, ClusterMessage.header, hpayload]
  rfl

/-- Decoding an encoded message followed by anything returns the message and
leaves what followed it. -/
theorem cluster_message_round_trip (T : AddrText) (m : ClusterMessage)
    (hc : m.msgType.Carries m.payload) (hw : m.payload.WF T) (rest : Bytes) :
    (ClusterMessageCodec.decode T).run (ClusterMessageCodec.encode T m ++ rest) =
      .ok (some m) rest :=
  ClusterMessageCodec.run_decode_encode hc hw rest

/-- A STATUS_RESPONSE that names one other node, both at the loopback address. -/
def statusResponseSample : ClusterMessage where
  version := 1
  msgType := .statusResponse
  nodeId := 7
  seq := 3
  timestamp := 1700000000000
  payload := .statusResponse
    { nodeName := "node-a", status := .active, bucketCount := 4, deviceCount := 12
      loadPercent := 50, maxDeviceSuggested := 1000, backdoorPort := 5000
      knownNodes := [{ nodeId := 9, nodeName := "node-b", clusterAddr := ⟨.v4 0x7f000001, 6570⟩
                       backdoorPort := 5001, status := .suspect }] }

theorem cluster_message_round_trip_sample :
    (ClusterMessageCodec.decode longText).run
      (ClusterMessageCodec.encode longText statusResponseSample ++ [0xff]) =
        .ok (some statusResponseSample) [0xff] := by
  refine cluster_message_round_trip longText statusResponseSample ⟨_, rfl⟩
    ⟨by decide, by decide, ?_⟩ [0xff]
  intro n hn
  cases List.mem_singleton.mp hn
  exact ⟨by decide, by decide, longText_lawful.parse_toText _⟩

end HeadEnd.Cluster
