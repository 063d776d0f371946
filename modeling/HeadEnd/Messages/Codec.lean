import HeadEnd.Messages.Payload

/-! The device message codec. The payload carries no length of its own: it is
what stands between the thirty-byte header and the sixteen bytes of MAC. -/
namespace HeadEnd.Messages
open HeadEnd.Buffer HeadEnd.Rlp

inductive MsgType where
  | handshake | handshakeResponse | registerRequest | registerResponse
  | readRequest | readResponse | writeRequest | writeResponse
  | executeRequest | executeResponse | actionRequest | actionResponse
  | ack | nack | sessionStartRequest
  deriving DecidableEq, Repr

namespace MsgType

def code : MsgType → UInt8
  | handshake => 0x00
  | handshakeResponse => 0x01
  | registerRequest => 0x02
  | registerResponse => 0x03
  | readRequest => 0x0A
  | readResponse => 0x0B
  | writeRequest => 0x14
  | writeResponse => 0x15
  | executeRequest => 0x1E
  | executeResponse => 0x1F
  | actionRequest => 0x28
  | actionResponse => 0x29
  | ack => 0xFF
  | nack => 0xFE
  | sessionStartRequest => 0xF0

def fromCode (code : UInt8) : Parsed MsgType :=
  match code with
  | 0x00 => .ok handshake
  | 0x01 => .ok handshakeResponse
  | 0x02 => .ok registerRequest
  | 0x03 => .ok registerResponse
  | 0x0A => .ok readRequest
  | 0x0B => .ok readResponse
  | 0x14 => .ok writeRequest
  | 0x15 => .ok writeResponse
  | 0x1E => .ok executeRequest
  | 0x1F => .ok executeResponse
  | 0x28 => .ok actionRequest
  | 0x29 => .ok actionResponse
  | 0xFE => .ok nack
  | 0xFF => .ok ack
  | 0xF0 => .ok sessionStartRequest
  | _ => .error .unknownMsgType

@[simp] theorem fromCode_code (t : MsgType) : fromCode t.code = .ok t := by
  cases t <;> rfl

/-- The payload constructor that a message type names. -/
def Names : MsgType → MessagePayload → Prop
  | handshake, p => ∃ m, p = .handshake m
  | handshakeResponse, p => ∃ m, p = .handshakeResponse m
  | registerRequest, p => ∃ m, p = .registryRequest m
  | registerResponse, p => ∃ m, p = .registryResponse m
  | readRequest, p => ∃ m, p = .readRequest m
  | readResponse, p => ∃ m, p = .readResponse m
  | writeRequest, p => ∃ m, p = .writeRequest m
  | writeResponse, p => ∃ m, p = .writeResponse m
  | executeRequest, p => p = .executeRequest
  | executeResponse, p => p = .executeResponse
  | actionRequest, p => p = .actionRequest
  | actionResponse, p => p = .actionResponse
  | ack, p => p = .ack
  | nack, p => ∃ m, p = .nack m
  | sessionStartRequest, p => p = .sessionStartRequest

end MsgType

structure Message where
  version : UInt8
  msgType : MsgType
  deviceId : BitVec 128
  seq : UInt32
  timestamp : UInt64
  payload : MessagePayload
  mac : BitVec 128
  deriving DecidableEq, Repr

namespace MessageCodec

def headerSize : Nat := 30
def macSize : Nat := 16
def minMsgLen : Nat := headerSize + macSize

/-- The buffer is cleared before the error is returned. -/
def orClear : Parsed α → Reader MsgCodecError α
  | .ok a => pure a
  | .error e => ⟨fun _ => .err e []⟩

def decodeMessage : Reader MsgCodecError (Option Message) := do
  let version ← getU8
  let msgTypeCode ← getU8
  let deviceId ← getU128
  let seq ← getU32
  let timestamp ← getU64
  let left ← remaining
  let payloadLen ← orClear (if macSize ≤ left then .ok (left - macSize) else .error .invalidLength)
  let payloadData ← copyToSlice payloadLen
  let mac ← getU128
  let msgType ← orClear (MsgType.fromCode msgTypeCode)
  let payload ← orClear (MessagePayload.decode msgTypeCode payloadData)
  pure (some { version, msgType, deviceId, seq, timestamp, payload, mac })

def decode : Reader MsgCodecError (Option Message) :=
  ⟨fun buf =>
    if buf.length < minMsgLen then
      if buf ≠ [] then .err .invalidLength [] else .ok none []
    else decodeMessage.run buf⟩

def encode (m : Message) : Bytes :=
  putU8 m.version ++ putU8 m.msgType.code ++ putU128 m.deviceId ++ putU32 m.seq ++
  putU64 m.timestamp ++ m.payload.encode ++ putU128 m.mac

end MessageCodec

/-- No buffer is larger than `isize::MAX` bytes. -/
def maxBuffer : Nat := 2^63

section Views

/- Reading the items of an encoded list. `items` stands for what the encoder
   wrote, in the order it wrote them. -/

variable {items : List Bytes} (hl : items.flatten.length < maxLen) (hi : ∀ e ∈ items, IsItem e)
include hl hi

theorem bytesAt_encodeList {i : Nat} {bs : Bytes} (h : items[i]? = some (encodeStr bs)) :
    bytesAt (encodeList items) i = .ok bs := by
  have hmem := length_le_flatten_of_mem (List.mem_of_getElem? h)
  have hle := length_le_encodeStr bs
  have hval := decodeValue_encodeStr (by omega : bs.length < maxLen)
  rw [bytesAt, valAt, itemAt_encodeList hl hi h]
  simp only [bind, Except.bind, hval]
  rfl

theorem textAt_encodeList {i : Nat} {s : String} (h : items[i]? = some (appendText s)) :
    textAt (encodeList items) i = .ok s := by
  rw [textAt, bytesAt_encodeList hl hi h]
  simp only [bind, Except.bind, ofUtf8, fromUtf8_asBytes]

theorem u8At_encodeList {i : Nat} {v : UInt8} (h : items[i]? = some (appendU8 v)) :
    u8At (encodeList items) i = .ok v := by
  have hv : v.toNat < 256^1 := by simpa using v.toNat_lt
  have hdec := decodeUInt_encodeUInt (by decide : 1 ≤ 8) hv
  rw [u8At, valAt, itemAt_encodeList hl hi h]
  simp [bind, Except.bind, appendU8, hdec, Functor.map, Except.map, ofRlp]

theorem u64At_encodeList {i : Nat} {v : UInt64} (h : items[i]? = some (appendU64 v)) :
    u64At (encodeList items) i = .ok v := by
  have hv : v.toNat < 256^8 := by simpa using v.toNat_lt
  have hdec := decodeUInt_encodeUInt (Nat.le_refl 8) hv
  rw [u64At, valAt, itemAt_encodeList hl hi h]
  simp [bind, Except.bind, appendU64, hdec, Functor.map, Except.map, ofRlp]

end Views

theorem collect_eq_ok {xs : List α} {read : Nat → Parsed α}
    (h : ∀ i x, xs[i]? = some x → read i = .ok x) : collect xs.length read = .ok xs := by
  unfold collect
  induction xs generalizing read with
  | nil => rfl
  | cons x xs ih =>
    have hhead := h 0 x rfl
    have htail : (List.range xs.length).mapM (read ∘ Nat.succ) = .ok xs :=
      ih (fun i y hy => h (i+1) y (by simpa using hy))
    rw [List.length_cons, List.range_succ_eq_map, List.mapM_cons, hhead, List.mapM_map, htail]
    rfl

/-- The lists of one encoder each: `n` values written, `n` values read back. -/
theorem collect_encodeList {xs : List α} {put : α → Bytes} {read : Bytes → Nat → Parsed α}
    (hl : (xs.map put).flatten.length < maxLen) (hi : ∀ e ∈ xs.map put, IsItem e)
    (h : ∀ i x, xs[i]? = some x → read (encodeList (xs.map put)) i = .ok x) :
    (do let count ← ofRlp (itemCount (encodeList (xs.map put)))
        collect count (read (encodeList (xs.map put)))) = .ok xs := by
  rw [itemCount_encodeList hl hi, List.length_map]
  exact collect_eq_ok h

theorem isItem_appendU8 (v : UInt8) : IsItem (appendU8 v) := by
  have hcount := byteCount_le (by simpa using v.toNat_lt : v.toNat < 256^1)
  have h8 : 8 < maxLen := by decide
  refine isItem_encodeStr ?_
  rw [minimalBe_length]
  omega

theorem isItem_appendU64 (v : UInt64) : IsItem (appendU64 v) := by
  have hcount := byteCount_le (by simpa using v.toNat_lt : v.toNat < 256^8)
  have h8 : 8 < maxLen := by decide
  refine isItem_encodeStr ?_
  rw [minimalBe_length]
  omega

theorem isItem_of_mem_texts {codes : List String}
    (hl : (codes.map appendText).flatten.length < maxLen) :
    ∀ e ∈ codes.map appendText, IsItem e := by
  intro e he
  obtain ⟨s, -, rfl⟩ := List.mem_map.mp he
  exact isItem_encodeStr_of_mem hl he

theorem HandshakeMessage.decode_encode {m : HandshakeMessage} (h : m.encode.length < maxLen) :
    decode m.encode = .ok m := by
  have hl := Nat.lt_of_le_of_lt (flatten_length_le_encodeList [encodeStr m.nonce]) h
  have hi : ∀ e ∈ [encodeStr m.nonce], IsItem e := by
    intro e he
    cases List.mem_singleton.mp he
    exact isItem_encodeStr_of_mem hl he
  have hnonce := bytesAt_encodeList hl hi (i := 0) rfl
  rw [decode, encode, hnonce]
  rfl

theorem HandshakeResponseMessage.decode_encode {m : HandshakeResponseMessage}
    (h : m.encode.length < maxLen) : decode m.encode = .ok m := by
  have hl := Nat.lt_of_le_of_lt (flatten_length_le_encodeList [appendU8 m.status]) h
  have hi : ∀ e ∈ [appendU8 m.status], IsItem e := by
    intro e he
    cases List.mem_singleton.mp he
    exact isItem_appendU8 m.status
  have hstatus := u8At_encodeList hl hi (i := 0) rfl
  rw [decode, encode, hstatus]
  rfl

theorem NackMessage.decode_encode {m : NackMessage} (h : m.encode.length < maxLen) :
    decode m.encode = .ok m := by
  have hl := Nat.lt_of_le_of_lt (flatten_length_le_encodeList [appendU8 m.errorCode]) h
  have hi : ∀ e ∈ [appendU8 m.errorCode], IsItem e := by
    intro e he
    cases List.mem_singleton.mp he
    exact isItem_appendU8 m.errorCode
  have hcode := u8At_encodeList hl hi (i := 0) rfl
  rw [decode, encode, hcode]
  rfl

theorem RegistryRequestMessage.decode_encode {m : RegistryRequestMessage}
    (h : m.encode.length < maxLen) : decode m.encode = .ok m := by
  have hl := Nat.lt_of_le_of_lt
    (flatten_length_le_encodeList [appendText m.imei, appendText m.ipv6]) h
  have hi : ∀ e ∈ [appendText m.imei, appendText m.ipv6], IsItem e :=
    @isItem_of_mem_texts [m.imei, m.ipv6] hl
  have himei := bytesAt_encodeList hl hi (i := 0) rfl
  have hipv6 := bytesAt_encodeList hl hi (i := 1) rfl
  rw [decode, encode, himei, hipv6]
  simp only [bind, Except.bind, ofUtf8, fromUtf8_asBytes]
  rfl

theorem RegistryResponseMessage.decode_encode {m : RegistryResponseMessage}
    (h : m.encode.length < maxLen) : decode m.encode = .ok m := by
  have hl := Nat.lt_of_le_of_lt
    (flatten_length_le_encodeList [appendU8 m.flag, appendU64 m.nextWakeTime]) h
  have hi : ∀ e ∈ [appendU8 m.flag, appendU64 m.nextWakeTime], IsItem e := by
    intro e he
    rcases List.mem_pair.mp he with rfl | rfl
    · exact isItem_appendU8 m.flag
    · exact isItem_appendU64 m.nextWakeTime
  have hflag := u8At_encodeList hl hi (i := 0) rfl
  have htime := u64At_encodeList hl hi (i := 1) rfl
  rw [decode, encode, hflag, htime]
  rfl

/-- Codes written one after another, at the top of a payload or inside one. -/
theorem collect_texts {codes : List String}
    (hl : (codes.map appendText).flatten.length < maxLen) :
    (do let count ← ofRlp (itemCount (encodeList (codes.map appendText)))
        collect count (textAt (encodeList (codes.map appendText)))) = .ok codes := by
  have hi := isItem_of_mem_texts hl
  refine collect_encodeList hl hi (fun i s hs => ?_)
  exact textAt_encodeList hl hi (by rw [List.getElem?_map, hs]; rfl)

theorem ReadRequestMessage.decode_encode {m : ReadRequestMessage}
    (h : m.encode.length < maxLen) : decode m.encode = .ok m := by
  have hl := Nat.lt_of_le_of_lt (flatten_length_le_encodeList (m.obisCodes.map appendText)) h
  have hcodes := collect_texts hl
  rw [decode, encode, ← bind_assoc, hcodes]
  rfl

theorem ObisValue.isItem_of_mem {vs : List ObisValue}
    (hl : (vs.map encode).flatten.length < maxLen) : ∀ e ∈ vs.map encode, IsItem e := by
  intro e he
  have hmem := length_le_flatten_of_mem he
  obtain ⟨v, -, rfl⟩ := List.mem_map.mp he
  have hle := flatten_length_le_encodeList [appendText v.code, encodeStr v.value]
  exact isItem_encodeList (Nat.lt_of_le_of_lt hle (Nat.lt_of_le_of_lt hmem hl))

theorem ObisValue.at_encodeList {vs : List ObisValue}
    (hl : (vs.map encode).flatten.length < maxLen) {i : Nat} {v : ObisValue}
    (hv : vs[i]? = some v) : ObisValue.at (encodeList (vs.map encode)) i = .ok v := by
  have hi := isItem_of_mem hl
  have hget : (vs.map encode)[i]? = some v.encode := by
    rw [List.getElem?_map, hv]
    rfl
  have hmem := length_le_flatten_of_mem (List.mem_of_getElem? hget)
  have hle := flatten_length_le_encodeList [appendText v.code, encodeStr v.value]
  have hlv : [appendText v.code, encodeStr v.value].flatten.length < maxLen :=
    Nat.lt_of_le_of_lt hle (Nat.lt_of_le_of_lt hmem hl)
  have hiv : ∀ e ∈ [appendText v.code, encodeStr v.value], IsItem e := by
    intro e he
    rcases List.mem_pair.mp he with rfl | rfl
    · exact isItem_encodeStr_of_mem hlv he
    · exact isItem_encodeStr_of_mem hlv he
  have hcode := textAt_encodeList hlv hiv (i := 0) rfl
  have hvalue := bytesAt_encodeList hlv hiv (i := 1) rfl
  rw [ObisValue.at, itemAt_encodeList hl hi hget]
  simp only [ofRlp, bind, Except.bind, encode, hcode, hvalue]
  rfl

theorem collect_obisValues {vs : List ObisValue}
    (hl : (vs.map ObisValue.encode).flatten.length < maxLen) :
    (do let count ← ofRlp (itemCount (encodeList (vs.map ObisValue.encode)))
        collect count (ObisValue.at (encodeList (vs.map ObisValue.encode)))) = .ok vs :=
  collect_encodeList hl (ObisValue.isItem_of_mem hl) (fun _ _ hv => ObisValue.at_encodeList hl hv)

theorem ReadResponseMessage.decode_encode {m : ReadResponseMessage}
    (h : m.encode.length < maxLen) : decode m.encode = .ok m := by
  have hl := Nat.lt_of_le_of_lt (flatten_length_le_encodeList (m.values.map ObisValue.encode)) h
  have hvalues := collect_obisValues hl
  rw [decode, encode, ← bind_assoc, hvalues]
  rfl

theorem WriteRequestMessage.decode_encode {m : WriteRequestMessage}
    (h : m.encode.length < maxLen) : decode m.encode = .ok m := by
  have hl := Nat.lt_of_le_of_lt
    (flatten_length_le_encodeList (m.parameters.map ObisValue.encode)) h
  have hparameters := collect_obisValues hl
  rw [decode, encode, ← bind_assoc, hparameters]
  rfl

theorem WriteResponseMessage.decode_encode {m : WriteResponseMessage}
    (h : m.encode.length < maxLen) : decode m.encode = .ok m := by
  obtain ⟨success, codes⟩ := m
  let flag : UInt8 := if success then 1 else 0
  have hflag : decide (flag ≠ 0) = success := by cases success <;> rfl
  have hl := Nat.lt_of_le_of_lt
    (flatten_length_le_encodeList [appendU8 flag, encodeList (codes.map appendText)]) h
  have hmem := length_le_flatten_of_mem
    (by simp : encodeList (codes.map appendText) ∈
      [appendU8 flag, encodeList (codes.map appendText)])
  have hlc : (codes.map appendText).flatten.length < maxLen :=
    Nat.lt_of_le_of_lt (flatten_length_le_encodeList _) (Nat.lt_of_le_of_lt hmem hl)
  have hi : ∀ e ∈ [appendU8 flag, encodeList (codes.map appendText)], IsItem e := by
    intro e he
    rcases List.mem_pair.mp he with rfl | rfl
    · exact isItem_appendU8 flag
    · exact isItem_encodeList hlc
  have hbyte := u8At_encodeList hl hi (i := 0) rfl
  have hlist := itemAt_encodeList hl hi (i := 1) rfl
  have hcodes := collect_texts hlc
  have hrest : (do let count ← ofRlp (itemCount (encodeList (codes.map appendText)))
                   let writtenCodes ← collect count (textAt (encodeList (codes.map appendText)))
                   pure (WriteResponseMessage.mk (decide (flag ≠ 0)) writtenCodes)) =
      .ok ⟨success, codes⟩ := by
    rw [← bind_assoc, hcodes, hflag]
    rfl
  rw [decode, encode, hbyte, hlist]
  exact hrest

/-- The three code tables agree: the code written for a type selects the decoder
of the payload that the type names. -/
theorem MessagePayload.decode_encode {t : MsgType} {p : MessagePayload} (hn : t.Names p)
    (h : p.encode.length < maxLen) : MessagePayload.decode t.code p.encode = .ok p := by
  cases t with
  | executeRequest | executeResponse | actionRequest | actionResponse | ack
  | sessionStartRequest =>
    cases hn
    rfl
  | handshake =>
    obtain ⟨m, rfl⟩ := hn
    exact congrArg (Functor.map MessagePayload.handshake) (HandshakeMessage.decode_encode h)
  | handshakeResponse =>
    obtain ⟨m, rfl⟩ := hn
    exact congrArg (Functor.map MessagePayload.handshakeResponse)
      (HandshakeResponseMessage.decode_encode h)
  | registerRequest =>
    obtain ⟨m, rfl⟩ := hn
    exact congrArg (Functor.map MessagePayload.registryRequest)
      (RegistryRequestMessage.decode_encode h)
  | registerResponse =>
    obtain ⟨m, rfl⟩ := hn
    exact congrArg (Functor.map MessagePayload.registryResponse)
      (RegistryResponseMessage.decode_encode h)
  | readRequest =>
    obtain ⟨m, rfl⟩ := hn
    exact congrArg (Functor.map MessagePayload.readRequest) (ReadRequestMessage.decode_encode h)
  | readResponse =>
    obtain ⟨m, rfl⟩ := hn
    exact congrArg (Functor.map MessagePayload.readResponse) (ReadResponseMessage.decode_encode h)
  | writeRequest =>
    obtain ⟨m, rfl⟩ := hn
    exact congrArg (Functor.map MessagePayload.writeRequest) (WriteRequestMessage.decode_encode h)
  | writeResponse =>
    obtain ⟨m, rfl⟩ := hn
    exact congrArg (Functor.map MessagePayload.writeResponse)
      (WriteResponseMessage.decode_encode h)
  | nack =>
    obtain ⟨m, rfl⟩ := hn
    exact congrArg (Functor.map MessagePayload.nack) (NackMessage.decode_encode h)

theorem MessageCodec.encode_length (m : Message) :
    (encode m).length = minMsgLen + m.payload.encode.length := by
  simp [encode, minMsgLen, headerSize, macSize]
  omega

namespace MessageCodec
variable {version code : UInt8} {deviceId mac : BitVec 128} {seq : UInt32} {timestamp : UInt64}
  {payloadData : Bytes}

/-- A datagram with these fields, whatever they mean. -/
def frame (version code : UInt8) (deviceId : BitVec 128) (seq : UInt32) (timestamp : UInt64)
    (payloadData : Bytes) (mac : BitVec 128) : Bytes :=
  putU8 version ++ putU8 code ++ putU128 deviceId ++ putU32 seq ++ putU64 timestamp ++
    payloadData ++ putU128 mac

theorem frame_length : (frame version code deviceId seq timestamp payloadData mac).length =
    minMsgLen + payloadData.length := by
  simp [frame, minMsgLen, headerSize, macSize]
  omega

/-- Type and payload are looked up by the same code, and nothing is left in any case. -/
theorem run_frame : decode.run (frame version code deviceId seq timestamp payloadData mac) =
    match MsgType.fromCode code, MessagePayload.decode code payloadData with
    | .error e, _ => .err e []
    | .ok _, .error e => .err e []
    | .ok msgType, .ok payload =>
      .ok (some { version, msgType, deviceId, seq, timestamp, payload, mac }) [] := by
  have hlen := @frame_length version code deviceId mac seq timestamp payloadData
  have hshort : ¬ (frame version code deviceId seq timestamp payloadData mac).length <
      minMsgLen := by omega
  have hleft : (payloadData ++ putU128 mac).length = payloadData.length + macSize := by
    simp [macSize]
  have hmac : (getU128 : Reader MsgCodecError (BitVec 128)).run (putU128 mac) = .ok mac [] := by
    simpa using getU128_put mac []
  have hcopy := copyToSlice_append (ε := MsgCodecError) (rfl : payloadData.length = _)
    (putU128 mac)
  simp only [decode, if_neg hshort]
  simp only [decodeMessage, frame, List.append_assoc, run_bind, getU8_put, getU128_put, getU32_put,
    getU64_put, andThen_ok, run_remaining, hleft, if_pos (Nat.le_add_left _ _),
    Nat.add_sub_cancel, orClear, run_pure, hcopy, hmac]
  cases MsgType.fromCode code with
  | error e => rfl
  | ok msgType =>
    cases MessagePayload.decode code payloadData with
    | error e => rfl
    | ok payload => rfl

/-- Every datagram that is long enough has such fields. -/
theorem exists_frame {buf : Bytes} (h : minMsgLen ≤ buf.length) :
    ∃ version code deviceId seq timestamp payloadData mac,
      buf = frame version code deviceId seq timestamp payloadData mac := by
  have hlen : 46 ≤ buf.length := h
  obtain ⟨version, hversion⟩ := exists_putU8 (by omega : 1 ≤ buf.length)
  obtain ⟨code, hcode⟩ := exists_putU8 (by simp; omega : 1 ≤ (buf.drop 1).length)
  obtain ⟨deviceId, hdevice⟩ := exists_putU128 (by simp; omega : 16 ≤ (buf.drop 2).length)
  obtain ⟨seq, hseq⟩ := exists_putU32 (by simp; omega : 4 ≤ (buf.drop 18).length)
  obtain ⟨timestamp, htime⟩ := exists_putU64 (by simp; omega : 8 ≤ (buf.drop 22).length)
  obtain ⟨mac, hmac⟩ := exists_putU128 (by simp; omega :
    16 ≤ ((buf.drop 30).drop (buf.length - 46)).length)
  simp only [List.drop_drop] at hcode hdevice hseq htime hmac
  have hend : buf.drop (30 + (buf.length - 46) + 16) = [] := List.drop_of_length_le (by omega)
  have hpayload := (List.take_append_drop (buf.length - 46) (buf.drop 30)).symm
  rw [List.drop_drop, hmac, hend, List.append_nil] at hpayload
  refine ⟨version, code, deviceId, seq, timestamp, (buf.drop 30).take (buf.length - 46), mac, ?_⟩
  rw [frame]
  simp only [List.append_assoc]
  rw [← hpayload, ← htime, ← hseq, ← hdevice, ← hcode, ← hversion]

theorem decode_encode {m : Message} (hn : m.msgType.Names m.payload)
    (hfit : (encode m).length < maxBuffer) : decode.run (encode m) = .ok (some m) [] := by
  have hlen := encode_length m
  have hmax : maxBuffer ≤ maxLen := by decide
  have hpayload := MessagePayload.decode_encode hn (by omega)
  have hframe : encode m =
      frame m.version m.msgType.code m.deviceId m.seq m.timestamp m.payload.encode m.mac := rfl
  rw [hframe, run_frame, MsgType.fromCode_code, hpayload]

end MessageCodec

/-- Encoding a message that fits a buffer and decoding the result returns the
message and leaves the buffer empty. -/
theorem device_message_round_trip (m : Message) (hn : m.msgType.Names m.payload)
    (hfit : (MessageCodec.encode m).length < maxBuffer) :
    MessageCodec.decode.run (MessageCodec.encode m) = .ok (some m) [] :=
  MessageCodec.decode_encode hn hfit

/-- A WRITE_RESPONSE that refused everything: a zero flag and an empty inner list. -/
def writeResponseSample : Message where
  version := 1
  msgType := .writeResponse
  deviceId := 42
  seq := 7
  timestamp := 1700000000000
  payload := .writeResponse { success := false, writtenCodes := [] }
  mac := 0

theorem device_message_round_trip_sample :
    (MessageCodec.encode writeResponseSample).length < maxBuffer ∧
      MessageCodec.decode.run (MessageCodec.encode writeResponseSample) =
        .ok (some writeResponseSample) [] := by
  have hfit : (MessageCodec.encode writeResponseSample).length < maxBuffer := by decide
  exact ⟨hfit, device_message_round_trip writeResponseSample ⟨_, rfl⟩ hfit⟩

end HeadEnd.Messages
