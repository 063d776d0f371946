import HeadEnd.Messages.Codec

/-! What the device codec makes of any datagram at all. Whatever happens the buffer is empty
afterwards, and a message has the payload that its type names. -/
namespace HeadEnd.Messages
open HeadEnd.Buffer HeadEnd.Rlp

theorem MsgType.fromCode_eq_ok {c : UInt8} {t : MsgType} : fromCode c = .ok t ↔ c = t.code := by
  constructor
  · intro h
    unfold fromCode at h
    split at h <;> cases h <;> rfl
  · intro h
    rw [h, fromCode_code]

theorem map_eq_ok_iff {α β : Type} {f : α → β} {x : Parsed α} {b : β} :
    f <$> x = .ok b ↔ ∃ a, x = .ok a ∧ f a = b := by
  cases x with
  | error e => simp [Functor.map, Except.map]
  | ok a => simp [Functor.map, Except.map]

/-- The decoder that a code selects returns the payload that the type of this code names. -/
theorem MessagePayload.names_of_decode {t : MsgType} {data : Bytes} {p : MessagePayload}
    (h : MessagePayload.decode t.code data = .ok p) : t.Names p := by
  cases t with
  | executeRequest | executeResponse | actionRequest | actionResponse | ack
  | sessionStartRequest => exact (Except.ok.inj h).symm
  | handshake | handshakeResponse | registerRequest | registerResponse | readRequest
  | readResponse | writeRequest | writeResponse | nack =>
    obtain ⟨m, -, hm⟩ := map_eq_ok_iff.mp h
    exact ⟨m, hm.symm⟩

namespace MessageCodec

/-- How reading a datagram can end. -/
inductive Ends (buf : Bytes) : Outcome MsgCodecError (Option Message) → Prop
  | nothing : buf = [] → Ends buf (.ok none [])
  | refused {e : MsgCodecError} : buf ≠ [] → Ends buf (.err e [])
  | message {m : Message} : buf[1]? = some m.msgType.code → m.msgType.Names m.payload →
      Ends buf (.ok (some m) [])

theorem decode_ends (buf : Bytes) : Ends buf (decode.run buf) := by
  by_cases hlong : minMsgLen ≤ buf.length
  · obtain ⟨version, code, deviceId, seq, timestamp, payloadData, mac, rfl⟩ := exists_frame hlong
    have hne : frame version code deviceId seq timestamp payloadData mac ≠ [] := by
      intro hnil
      rw [hnil] at hlong
      exact absurd hlong (by decide)
    have hsecond : (frame version code deviceId seq timestamp payloadData mac)[1]? = some code := by
      simp [frame, putU8, be]
    rw [run_frame]
    cases htype : MsgType.fromCode code with
    | error e => exact .refused hne
    | ok msgType =>
      obtain rfl := MsgType.fromCode_eq_ok.mp htype
      cases hpayload : MessagePayload.decode msgType.code payloadData with
      | error e => exact .refused hne
      | ok payload => exact .message hsecond (MessagePayload.names_of_decode hpayload)
  · have hshort : buf.length < minMsgLen := Nat.lt_of_not_le hlong
    simp only [decode, if_pos hshort]
    by_cases hbuf : buf = []
    · rw [if_neg (not_not.mpr hbuf)]
      exact .nothing hbuf
    · rw [if_pos hbuf]
      exact .refused hbuf

theorem decode_ne_panic (buf : Bytes) : decode.run buf ≠ .panic := by
  intro h
  have hends := decode_ends buf
  rw [h] at hends
  cases hends

/-- Nothing comes out of an empty buffer exactly, and whatever comes out of another one, the
second read finds nothing. -/
theorem decode_makes_progress (buf : Bytes) :
    decode.run buf ≠ .panic ∧ ((∃ rest, decode.run buf = .ok none rest) ↔ buf = []) ∧
      (buf ≠ [] → (∃ m, decode.run buf = .ok (some m) []) ∨ ∃ e, decode.run buf = .err e []) ∧
      ∃ came, decode.drain 2 buf = some came := by
  have hlast : decode.drain 1 [] = some [] := rfl
  have hends := decode_ends buf
  refine ⟨decode_ne_panic buf, ?_⟩
  rw [Reader.drain]
  generalize decode.run buf = outcome at hends ⊢
  cases hends with
  | nothing hbuf => exact ⟨by simp [hbuf], fun hne => absurd hbuf hne, [], rfl⟩
  | @refused e hne =>
    refine ⟨by simp [hne], fun _ => .inr ⟨e, rfl⟩, [.error e], ?_⟩
    simp only [hlast, Option.map_some]
  | @message m hsecond _ =>
    have hne : buf ≠ [] := by
      intro hbuf
      simp [hbuf] at hsecond
    refine ⟨by simp [hne], fun _ => .inl ⟨m, rfl⟩, [.ok m], ?_⟩
    simp only [hlast, Option.map_some]

end MessageCodec

end HeadEnd.Messages
