import HeadEnd.Cluster.RoundTrip

/-! Which datagrams make the cluster decoder read past the end of its buffer.
The only unchecked reads are those of an optional text, so an overrun needs a
message that ends inside one. -/
namespace HeadEnd.Cluster
open HeadEnd.Buffer

/-- The strings that an optional text may be. -/
inductive OptText : Bytes → Prop
  | absent (flag : UInt8) : flag ≠ optionSome → OptText [flag]
  | present (s : String) : Fits s → OptText (optionSome :: putString s)

/-- An optional text that stops before its length is complete. -/
inductive CutText : Bytes → Prop
  | nothing : CutText []
  | flag : CutText [optionSome]
  | half (b : UInt8) : CutText [optionSome, b]

def DeviceRecord (bs : Bytes) : Prop :=
  ∃ id ipv4 ipv6 time, id.length = uuidSize ∧ OptText ipv4 ∧ OptText ipv6 ∧
    time.length = i64Size ∧ bs = id ++ (ipv4 ++ (ipv6 ++ time))

/-- A device record that ends inside its second address. The first address has
used up the bytes that the size check found. -/
def CutRecord (bs : Bytes) : Prop :=
  DelegatedDevicePayload.minSize ≤ bs.length ∧
    ∃ id ipv4 cut, id.length = uuidSize ∧ OptText ipv4 ∧ CutText cut ∧ bs = id ++ (ipv4 ++ cut)

/-- A DELEGATE_REQUEST body whose last bytes are a cut record, with more records
announced than came before it. -/
def CutRequest (body : Bytes) : Prop :=
  ∃ (count : UInt16) (done : List Bytes) (cut : Bytes), done.length < count.toNat ∧
    (∀ r ∈ done, DeviceRecord r) ∧ CutRecord cut ∧ body = putU16 count ++ (done.flatten ++ cut)

/-- A CONFIG_UPDATE_ACK body that ends inside its error message. -/
def CutAck (body : Bytes) : Prop :=
  ∃ id success cut, id.length = uuidSize ∧ CutText cut ∧ cut ≠ [] ∧ body = id ++ success :: cut

def Overruns (buf : Bytes) : Prop :=
  clusterHeaderSize ≤ buf.length ∧
    (buf[1]? = some ClusterMessageType.delegateRequest.code ∧
        CutRequest (buf.drop clusterHeaderSize) ∨
      buf[1]? = some ClusterMessageType.configUpdateAck.code ∧
        CutAck (buf.drop clusterHeaderSize))

theorem getString_eq_ok {buf rest : Bytes} {s : String} :
    (getString 0).run buf = .ok s rest ↔ Fits s ∧ buf = putString s ++ rest := by
  constructor
  · intro h
    obtain ⟨len, mid, hlen, hbody⟩ := bind_eq_ok.mp h
    obtain ⟨_, mid', hroom, hslice⟩ := bind_eq_ok.mp hbody
    obtain ⟨bytes, last, hcopy, htext⟩ := bind_eq_ok.mp hslice
    obtain ⟨-, rfl⟩ := ensure_eq_ok.mp hroom
    obtain ⟨hutf, rfl⟩ := ofOption_eq_ok.mp htext
    obtain ⟨hn, rfl⟩ := copyToSlice_eq_ok.mp hcopy
    have hbuf := getU16_eq_ok.mp hlen
    have hbytes := fromUtf8_eq_some.mp hutf
    subst hbytes
    refine ⟨?_, ?_⟩
    · have hlt := len.toNat_lt
      unfold Fits maxPrefixed
      omega
    · rw [hbuf, putString, hn, UInt16.ofNat_toNat, List.append_assoc]
  · rintro ⟨hs, rfl⟩
    exact getString_put hs (Nat.zero_le _)

theorem getString_eq_panic {buf : Bytes} :
    (getString 0).run buf = .panic ↔ buf.length < 2 := by
  have hsafe : ∀ len : UInt16, ∀ mid : Bytes,
      (ensure (len.toNat + 0) ClusterCodecError.invalidLength >>= fun _ =>
        copyToSlice len.toNat >>= fun bytes =>
          ofOption (.invalidPayload (.utf8 bytes)) (fromUtf8 bytes)).run mid ≠ .panic := by
    intro len mid
    rw [← wp_true_iff]
    simp
  rw [getString, bind_eq_panic, getU16, map_eq_panic, getBe_eq_panic]
  constructor
  · rintro (h | ⟨len, mid, -, hp⟩)
    · exact h
    · exact absurd hp (hsafe len mid)
  · exact Or.inl

theorem decodeOptionalString_eq_ok {buf : Bytes} (rest : Bytes) :
    (∃ o, decodeOptionalString.run buf = .ok o rest) ↔ ∃ bs, OptText bs ∧ buf = bs ++ rest := by
  constructor
  · rintro ⟨o, h⟩
    obtain ⟨flag, mid, hflag, hbody⟩ := bind_eq_ok.mp h
    obtain rfl := getU8_eq_ok.mp hflag
    by_cases hf : flag = optionSome
    · rw [if_pos hf] at hbody
      obtain ⟨s, last, hs, hlast⟩ := bind_eq_ok.mp hbody
      obtain ⟨hfit, rfl⟩ := getString_eq_ok.mp hs
      cases hlast
      exact ⟨_, .present s hfit, by rw [hf]; rfl⟩
    · rw [if_neg hf] at hbody
      cases hbody
      exact ⟨[flag], .absent flag hf, rfl⟩
  · rintro ⟨bs, hbs, rfl⟩
    cases hbs with
    | absent flag hf =>
      refine ⟨none, bind_eq_ok.mpr ⟨flag, rest, getU8_eq_ok.mpr rfl, ?_⟩⟩
      rw [if_neg hf]
      rfl
    | present s hs =>
      refine ⟨some s, bind_eq_ok.mpr ⟨optionSome, putString s ++ rest, getU8_eq_ok.mpr rfl, ?_⟩⟩
      rw [if_pos rfl]
      exact bind_eq_ok.mpr ⟨s, rest, getString_eq_ok.mpr ⟨hs, rfl⟩, rfl⟩

theorem decodeOptionalString_eq_panic {buf : Bytes} :
    decodeOptionalString.run buf = .panic ↔ CutText buf := by
  rw [decodeOptionalString, bind_eq_panic]
  constructor
  · rintro (h | ⟨flag, mid, hflag, h⟩)
    · rw [getU8, map_eq_panic, getBe_eq_panic] at h
      obtain rfl : buf = [] := List.length_eq_zero_iff.mp (by omega)
      exact .nothing
    · obtain rfl := getU8_eq_ok.mp hflag
      by_cases hf : flag = optionSome
      · rw [if_pos hf] at h
        have hlen : mid.length < 2 := by
          rcases bind_eq_panic.mp h with hp | ⟨s, last, -, hp⟩
          · exact getString_eq_panic.mp hp
          · cases hp
        subst hf
        cases mid with
        | nil => exact .flag
        | cons b rest =>
          obtain rfl : rest = [] := by
            rw [List.length_cons] at hlen
            exact List.length_eq_zero_iff.mp (by omega)
          exact .half b
      · rw [if_neg hf] at h
        cases h
  · intro h
    have hcut : ∀ mid : Bytes, mid.length < 2 →
        (getString 0 >>= fun s => pure (some s)).run mid = .panic :=
      fun mid hmid => bind_eq_panic.mpr (Or.inl (getString_eq_panic.mpr hmid))
    cases h with
    | nothing => exact Or.inl rfl
    | flag => exact Or.inr ⟨optionSome, [], rfl, by rw [if_pos rfl]; exact hcut [] (by simp)⟩
    | half b => exact Or.inr ⟨optionSome, [b], rfl, by rw [if_pos rfl]; exact hcut [b] (by simp)⟩

theorem OptText.length_pos {bs : Bytes} (h : OptText bs) : 1 ≤ bs.length := by
  cases h <;> simp

theorem CutText.length_le {bs : Bytes} (h : CutText bs) : bs.length ≤ 2 := by
  cases h <;> simp

theorem getU128_eq_ok {buf : Bytes} (rest : Bytes) :
    (∃ id, (getU128 : Decode Uuid).run buf = .ok id rest) ↔
      ∃ bs, bs.length = uuidSize ∧ buf = bs ++ rest := by
  constructor
  · rintro ⟨id, h⟩
    obtain ⟨n, hg, -⟩ := map_eq_ok.mp h
    obtain ⟨-, rfl⟩ := getBe_eq_ok.mp hg
    exact ⟨be 16 n, be_length 16 n, rfl⟩
  · rintro ⟨bs, hlen, rfl⟩
    have hbs := be_beVal bs
    have hlt := beVal_lt bs
    rw [hlen, uuidSize] at hbs hlt
    exact ⟨_, map_eq_ok.mpr ⟨beVal bs, getBe_eq_ok.mpr ⟨hlt, by rw [hbs]⟩, rfl⟩⟩

theorem getI64_eq_ok {buf : Bytes} (rest : Bytes) :
    (∃ v, (getI64 : Decode Int64).run buf = .ok v rest) ↔
      ∃ bs, bs.length = i64Size ∧ buf = bs ++ rest := by
  constructor
  · rintro ⟨v, h⟩
    obtain ⟨n, hg, -⟩ := map_eq_ok.mp h
    obtain ⟨-, rfl⟩ := getBe_eq_ok.mp hg
    exact ⟨be 8 n, be_length 8 n, rfl⟩
  · rintro ⟨bs, hlen, rfl⟩
    have hbs := be_beVal bs
    have hlt := beVal_lt bs
    rw [hlen, i64Size] at hbs hlt
    exact ⟨_, map_eq_ok.mpr ⟨beVal bs, getBe_eq_ok.mpr ⟨hlt, by rw [hbs]⟩, rfl⟩⟩

theorem DelegatedDevicePayload.decode_eq_ok {buf : Bytes} (rest : Bytes) :
    (∃ d, decode.run buf = .ok d rest) ↔ ∃ bs, DeviceRecord bs ∧ buf = bs ++ rest := by
  constructor
  · rintro ⟨d, h⟩
    obtain ⟨_, buf', hmin, h1⟩ := bind_eq_ok.mp h
    obtain ⟨-, rfl⟩ := ensure_eq_ok.mp hmin
    obtain ⟨id, m1, hid, h2⟩ := bind_eq_ok.mp h1
    obtain ⟨o4, m2, h4, h3⟩ := bind_eq_ok.mp h2
    obtain ⟨o6, m3, h6, h5⟩ := bind_eq_ok.mp h3
    obtain ⟨_, m4, hroom, h7⟩ := bind_eq_ok.mp h5
    obtain ⟨-, rfl⟩ := ensure_eq_ok.mp hroom
    obtain ⟨t, m5, ht, hlast⟩ := bind_eq_ok.mp h7
    cases hlast
    obtain ⟨bid, hbid, rfl⟩ := (getU128_eq_ok _).mp ⟨id, hid⟩
    obtain ⟨b4, hb4, rfl⟩ := (decodeOptionalString_eq_ok _).mp ⟨o4, h4⟩
    obtain ⟨b6, hb6, rfl⟩ := (decodeOptionalString_eq_ok _).mp ⟨o6, h6⟩
    obtain ⟨bt, hbt, rfl⟩ := (getI64_eq_ok _).mp ⟨t, ht⟩
    exact ⟨bid ++ (b4 ++ (b6 ++ bt)), ⟨bid, b4, b6, bt, hbid, hb4, hb6, hbt, rfl⟩, by simp⟩
  · rintro ⟨bs, ⟨bid, b4, b6, bt, hbid, hb4, hb6, hbt, rfl⟩, rfl⟩
    have hp4 := hb4.length_pos
    have hp6 := hb6.length_pos
    obtain ⟨t, ht⟩ := (getI64_eq_ok rest).mpr ⟨bt, hbt, rfl⟩
    obtain ⟨o6, h6⟩ := (decodeOptionalString_eq_ok (bt ++ rest)).mpr ⟨b6, hb6, rfl⟩
    obtain ⟨o4, h4⟩ := (decodeOptionalString_eq_ok (b6 ++ (bt ++ rest))).mpr ⟨b4, hb4, rfl⟩
    obtain ⟨id, hid⟩ := (getU128_eq_ok (b4 ++ (b6 ++ (bt ++ rest)))).mpr ⟨bid, hbid, rfl⟩
    have hmin : minSize ≤ (bid ++ (b4 ++ (b6 ++ (bt ++ rest)))).length := by
      simp [minSize, hbid, hbt, uuidSize, u8Size, i64Size]
      omega
    have hroom : 8 ≤ (bt ++ rest).length := by simp [hbt, i64Size]
    refine ⟨⟨id, o4, o6, t⟩, ?_⟩
    simp only [decode, List.append_assoc, run_bind, run_ensure_of_le _ hmin, andThen_ok, hid, h4,
      h6, run_ensure_of_le _ hroom, ht, run_pure]

theorem DelegatedDevicePayload.decode_eq_panic {buf : Bytes} :
    decode.run buf = .panic ↔ CutRecord buf := by
  constructor
  · intro h
    rcases bind_eq_panic.mp h with hp | ⟨_, buf', hsize, h1⟩
    · exact absurd hp ensure_ne_panic
    obtain ⟨hmin, rfl⟩ := ensure_eq_ok.mp hsize
    have hlong : 26 ≤ buf.length := hmin
    rcases bind_eq_panic.mp h1 with hp | ⟨id, m1, hid, h2⟩
    · rw [getU128, map_eq_panic, getBe_eq_panic] at hp
      omega
    obtain ⟨bid, hbid, rfl⟩ := (getU128_eq_ok _).mp ⟨id, hid⟩
    rcases bind_eq_panic.mp h2 with hp | ⟨o4, m2, h4, h3⟩
    · have hshort := (decodeOptionalString_eq_panic.mp hp).length_le
      rw [List.length_append, hbid, uuidSize] at hlong
      omega
    obtain ⟨b4, hb4, rfl⟩ := (decodeOptionalString_eq_ok _).mp ⟨o4, h4⟩
    rcases bind_eq_panic.mp h3 with hp | ⟨o6, m3, -, h5⟩
    · exact ⟨hmin, bid, b4, m2, hbid, hb4, decodeOptionalString_eq_panic.mp hp, rfl⟩
    · have hsafe : (ensure 8 ClusterCodecError.invalidLength >>= fun _ => getI64 >>= fun t =>
          (pure ⟨id, o4, o6, t⟩ : Decode DelegatedDevicePayload)).wp (fun _ _ => True) m3 := by
        simp [getI64]
      exact absurd h5 ((wp_true_iff _ _).mp hsafe)
  · rintro ⟨hmin, bid, b4, cut, hbid, hb4, hcut, rfl⟩
    have hp := decodeOptionalString_eq_panic.mpr hcut
    obtain ⟨o4, h4⟩ := (decodeOptionalString_eq_ok cut).mpr ⟨b4, hb4, rfl⟩
    obtain ⟨id, hid⟩ := (getU128_eq_ok (b4 ++ cut)).mpr ⟨bid, hbid, rfl⟩
    simp only [decode, run_bind, run_ensure_of_le _ hmin, andThen_ok, hid, h4, hp, andThen_panic]

theorem DelegateRequestPayload.decode_eq_panic {body : Bytes} :
    decode.run body = .panic ↔ CutRequest body := by
  have hloop := @repeatN_eq_panic _ _ DelegatedDevicePayload.decode DeviceRecord
    (fun _ rest => DelegatedDevicePayload.decode_eq_ok rest)
  constructor
  · intro h
    rcases bind_eq_panic.mp h with hp | ⟨_, body', hsize, h1⟩
    · exact absurd hp ensure_ne_panic
    obtain ⟨hmin, rfl⟩ := ensure_eq_ok.mp hsize
    rcases bind_eq_panic.mp h1 with hp | ⟨count, mid, hcount, h2⟩
    · rw [getU16, map_eq_panic, getBe_eq_panic] at hp
      have hlong : 3 ≤ body.length := hmin
      omega
    obtain rfl := getU16_eq_ok.mp hcount
    rcases bind_eq_panic.mp h2 with hp | ⟨ds, last, -, h3⟩
    · obtain ⟨done, cut, hlt, hall, rfl, hcut⟩ := hloop.mp hp
      exact ⟨count, done, cut, hlt, hall, DelegatedDevicePayload.decode_eq_panic.mp hcut, rfl⟩
    · have hsafe : (ensure 1 ClusterCodecError.invalidLength >>= fun _ => getU8 >>= fun code =>
          ofOption (.invalidPayload (.text s!"Invalid reason code: {code}"))
            (DelegationReason.fromCode code) >>= fun reason =>
          (pure ⟨ds, reason⟩ : Decode DelegateRequestPayload)).wp (fun _ _ => True) last := by
        simp
      exact absurd h3 ((wp_true_iff _ _).mp hsafe)
  · rintro ⟨count, done, cut, hlt, hall, hcut, rfl⟩
    have hp := (@hloop count.toNat (done.flatten ++ cut)).mpr
      ⟨done, cut, hlt, hall, rfl, DelegatedDevicePayload.decode_eq_panic.mpr hcut⟩
    have hmin : minSize ≤ (putU16 count ++ (done.flatten ++ cut)).length := by
      have hlong : 26 ≤ cut.length := hcut.1
      simp [minSize, u16Size, u8Size]
      omega
    simp only [decode, run_bind, run_ensure_of_le _ hmin, andThen_ok, getU16_put, hp, andThen_panic]

theorem ConfigUpdateAckPayload.decode_eq_panic {body : Bytes} :
    decode.run body = .panic ↔ CutAck body := by
  constructor
  · intro h
    rcases bind_eq_panic.mp h with hp | ⟨_, body', hsize, h1⟩
    · exact absurd hp ensure_ne_panic
    obtain ⟨hmin, rfl⟩ := ensure_eq_ok.mp hsize
    have hlong : 18 ≤ body.length := hmin
    rcases bind_eq_panic.mp h1 with hp | ⟨id, m1, hid, h2⟩
    · rw [getU128, map_eq_panic, getBe_eq_panic] at hp
      omega
    obtain ⟨bid, hbid, rfl⟩ := (getU128_eq_ok _).mp ⟨id, hid⟩
    rw [List.length_append, hbid, uuidSize] at hlong
    rcases bind_eq_panic.mp h2 with hp | ⟨success, m2, hs, h3⟩
    · rw [getU8, map_eq_panic, getBe_eq_panic] at hp
      omega
    obtain rfl := getU8_eq_ok.mp hs
    rcases bind_eq_panic.mp h3 with hp | ⟨o, m3, -, hlast⟩
    · refine ⟨bid, success, m2, hbid, decodeOptionalString_eq_panic.mp hp, ?_, rfl⟩
      rintro rfl
      simp at hlong
    · cases hlast
  · rintro ⟨bid, success, cut, hbid, hcut, hne, rfl⟩
    have hpos : 1 ≤ cut.length := List.length_pos_of_ne_nil hne
    have hmin : minSize ≤ (bid ++ success :: cut).length := by
      simp [minSize, hbid, uuidSize, u8Size]
      omega
    obtain ⟨id, hid⟩ := (getU128_eq_ok (success :: cut)).mpr ⟨bid, hbid, rfl⟩
    have hs : (getU8 : Decode UInt8).run (success :: cut) = .ok success cut := getU8_eq_ok.mpr rfl
    have hp := decodeOptionalString_eq_panic.mpr hcut
    simp only [decode, run_bind, run_ensure_of_le _ hmin, andThen_ok, hid, hs, hp, andThen_panic]

section Safe

/- Every other payload is guarded: each read is covered by the last size check
   before it, whatever the bytes are. -/

theorem wp_getString {extra : Nat} {Q : String → Bytes → Prop} {buf : Bytes}
    (hlen : 2 ≤ buf.length) (hQ : ∀ s rest, extra ≤ rest.length → Q s rest) :
    (getString extra).wp Q buf := by
  simp only [getString, wp_bind, wp_getU16, wp_ensure, wp_copyToSlice, wp_ofOption]
  refine ⟨hlen, fun hroom => ⟨by omega, fun s _ => hQ s _ ?_⟩⟩
  rw [List.length_drop]
  omega

theorem wp_getAddr {T : AddrText} {label : String} {Q : SocketAddr → Bytes → Prop} {buf : Bytes}
    (hlen : 2 ≤ buf.length) (hQ : ∀ a rest, Q a rest) : (getAddr T label).wp Q buf := by
  simp only [getAddr, wp_bind, wp_ofOption]
  exact wp_getString hlen (fun _ rest _ a _ => hQ a rest)

theorem wp_getIds {count : Nat} {buf : Bytes} (h : count * 16 ≤ buf.length)
    {Q : List Uuid → Bytes → Prop} (hQ : ∀ ids rest, Q ids rest) :
    (repeatN getU128 count : Decode (List Uuid)).wp Q buf := by
  refine wp_mono (fun ids rest _ => hQ ids rest)
    (wp_repeatN getU128 (fun n buf => n * 16 ≤ buf.length) ?_ count buf h)
  intro n buf hn
  rw [wp_getU128, List.length_drop]
  omega

theorem HeartbeatPayload.decode_safe (buf : Bytes) : decode.wp (fun _ _ => True) buf := by
  simp only [decode, getStatus, minSize, u8Size, u16Size, u32Size, uuidSize, wp_bind, wp_ensure,
    wp_getU8, wp_ofOption, wp_getU16, wp_getU32, List.length_drop, wp_pure]
  intro hmin
  refine ⟨by omega, fun _ _ => ⟨by omega, by omega, by omega, by omega, by omega, ?_⟩⟩
  intro hroom
  exact wp_getIds (by simpa only [List.length_drop] using hroom) (fun _ _ => trivial)

theorem NodeJoinPayload.decode_safe (T : AddrText) (buf : Bytes) :
    (decode T).wp (fun _ _ => True) buf := by
  simp only [decode, minSize, u16Size, wp_bind, wp_ensure, wp_getU16, wp_pure]
  intro hmin
  refine wp_getString (by omega) (fun _ rest _ hafter => ?_)
  exact wp_getAddr (by omega) (fun _ _ hport => ⟨hport, trivial⟩)

theorem DelegateAcceptPayload.decode_safe (buf : Bytes) : decode.wp (fun _ _ => True) buf := by
  simp only [decode, minSize, u16Size, wp_bind, wp_ensure, wp_getU16, wp_pure]
  exact fun hmin => ⟨hmin, fun hroom => wp_getIds hroom (fun _ _ => trivial)⟩

theorem DelegateRejectPayload.decode_safe (buf : Bytes) : decode.wp (fun _ _ => True) buf := by
  simp only [decode, minSize, u16Size, wp_bind, wp_ensure, wp_pure]
  exact fun hmin => wp_getString hmin (fun _ _ _ => trivial)

theorem decodeNodeId_safe (buf : Bytes) : decodeNodeId.wp (fun _ _ => True) buf := by
  simp [decodeNodeId, uuidSize]

theorem ProbeResponsePayload.decode_safe (buf : Bytes) : decode.wp (fun _ _ => True) buf := by
  simp only [decode, minSize, uuidSize, u8Size, wp_bind, wp_ensure, wp_getU128, wp_getU8,
    List.length_drop, wp_pure, and_true]
  omega

theorem KnownNodeInfo.decode_safe (T : AddrText) (buf : Bytes) :
    (decode T).wp (fun _ _ => True) buf := by
  simp only [decode, uuidSize, u16Size, u8Size, getStatus, wp_bind, wp_ensure, wp_getU128,
    wp_getU16, wp_getU8, wp_ofOption, List.length_drop, wp_pure]
  intro hmin
  refine ⟨by omega, wp_getString (by simp; omega) (fun _ rest _ haddr => ?_)⟩
  refine wp_getAddr haddr (fun _ rest hport => ?_)
  exact ⟨by omega, by omega, fun _ _ => trivial⟩

theorem StatusResponsePayload.decodeKnownNodes_safe (T : AddrText) (buf : Bytes) :
    (decodeKnownNodes T).wp (fun _ _ => True) buf := by
  simp only [decodeKnownNodes, wp_bind, wp_remaining]
  by_cases h : buf.length ≥ u16Size
  · rw [if_pos h, wp_bind, wp_getU16]
    exact ⟨h, wp_repeatN _ (fun _ _ => True) (fun _ buf _ => KnownNodeInfo.decode_safe T buf) _ _
      trivial⟩
  · rw [if_neg h, wp_pure]
    trivial

theorem StatusResponsePayload.decode_safe (T : AddrText) (buf : Bytes) :
    (decode T).wp (fun _ _ => True) buf := by
  simp only [decode, minSize, fieldsAfterName, u16Size, u8Size, u32Size, getStatus, wp_bind,
    wp_ensure, wp_getU16, wp_getU8, wp_getU32, wp_ofOption, List.length_drop, wp_pure]
  intro hmin
  refine wp_getString (by omega) (fun _ rest hrest => ?_)
  refine ⟨by omega, fun _ _ => ⟨by omega, by omega, by omega, by omega, by omega, ?_⟩⟩
  exact decodeKnownNodes_safe T _

theorem ConfigUpdatePayload.decode_safe (buf : Bytes) : decode.wp (fun _ _ => True) buf := by
  simp only [decode, minSize, uuidSize, u16Size, wp_bind, wp_ensure, wp_getU128, wp_pure]
  intro hmin
  refine ⟨by omega, wp_getString (by simp; omega) (fun _ rest _ hvalue => ?_)⟩
  exact wp_getString hvalue (fun _ _ _ => trivial)

theorem decodePayload_safe {T : AddrText} {t : ClusterMessageType} (hr : t ≠ .delegateRequest)
    (ha : t ≠ .configUpdateAck) (body : Bytes) :
    (decodePayload T t).wp (fun _ _ => True) body := by
  cases t with
  | delegateRequest => exact absurd rfl hr
  | configUpdateAck => exact absurd rfl ha
  | heartbeatAck | statusRequest | nodeLeave => exact (wp_pure _ _ _).mpr trivial
  | heartbeat => exact (wp_map _ _ _ _).mpr (HeartbeatPayload.decode_safe body)
  | statusResponse => exact (wp_map _ _ _ _).mpr (StatusResponsePayload.decode_safe T body)
  | delegateAccept => exact (wp_map _ _ _ _).mpr (DelegateAcceptPayload.decode_safe body)
  | delegateReject => exact (wp_map _ _ _ _).mpr (DelegateRejectPayload.decode_safe body)
  | nodeJoin => exact (wp_map _ _ _ _).mpr (NodeJoinPayload.decode_safe T body)
  | nodeSuspect | nodeDead | probeRequest =>
    exact (wp_map _ _ _ _).mpr ((wp_map _ _ _ _).mpr (decodeNodeId_safe body))
  | probeResponse => exact (wp_map _ _ _ _).mpr (ProbeResponsePayload.decode_safe body)
  | configUpdate => exact (wp_map _ _ _ _).mpr (ConfigUpdatePayload.decode_safe body)

end Safe

/-- Only two payloads can overrun, each on the bodies named above. -/
theorem decodePayload_eq_panic {T : AddrText} {t : ClusterMessageType} {body : Bytes} :
    (decodePayload T t).run body = .panic ↔
      t = .delegateRequest ∧ CutRequest body ∨ t = .configUpdateAck ∧ CutAck body := by
  by_cases hr : t = .delegateRequest
  · subst hr
    rw [decodePayload, map_eq_panic, DelegateRequestPayload.decode_eq_panic]
    simp
  by_cases ha : t = .configUpdateAck
  · subst ha
    rw [decodePayload, map_eq_panic, ConfigUpdateAckPayload.decode_eq_panic]
    simp
  · have hsafe := (wp_true_iff _ _).mp (decodePayload_safe (T := T) hr ha body)
    simp [hsafe, hr, ha]

/-- Behind a complete header the decoder goes on with the payload that the
second byte names, or stops with an error when it names none. -/
theorem decodeMessage_eq_panic {T : AddrText} {version code : UInt8} {tail : Bytes}
    (h : 28 ≤ tail.length) :
    (ClusterMessageCodec.decodeMessage T).run (version :: code :: tail) = .panic ↔
      ∃ t : ClusterMessageType, code = t.code ∧
        (decodePayload T t).run (tail.drop 28) = .panic := by
  have hcode : UInt8.ofNat (beVal [code]) = code := by simp [beVal]
  rw [← not_iff_not, ← ne_eq, ← wp_true_iff]
  simp only [ClusterMessageCodec.decodeMessage, ClusterMessage.decodeHeader, clusterHeaderSize,
    wp_bind, wp_ensure, wp_getU8, wp_getU128, wp_getU32, wp_getU64, wp_ofExcept, wp_pure,
    List.length_cons, List.length_drop, List.drop_succ_cons, List.drop_zero, List.drop_drop,
    List.take_succ_cons, List.take_zero, hcode, ClusterMessageType.fromCode_eq_ok]
  constructor
  · rintro hall ⟨t, hc, hp⟩
    obtain ⟨-, -, -, -, -, hrest⟩ := hall (by omega)
    exact (wp_true_iff _ _).mp (hrest t hc) hp
  · intro hno _
    refine ⟨by omega, by omega, by omega, by omega, by omega, fun t hc => ?_⟩
    exact (wp_true_iff _ _).mpr (fun hp => hno ⟨t, hc, hp⟩)

theorem exists_cons_cons_of_header {buf : Bytes} (h : clusterHeaderSize ≤ buf.length) :
    ∃ version code tail, buf = version :: code :: tail := by
  cases buf with
  | nil => simp [clusterHeaderSize] at h
  | cons version rest =>
    cases rest with
    | nil => simp [clusterHeaderSize] at h
    | cons code tail => exact ⟨version, code, tail, rfl⟩

/-- The decoder panics on exactly the datagrams that end inside an optional
text whose bytes no size check covers. -/
theorem cluster_decode_ne_panic_iff (T : AddrText) (buf : Bytes) :
    (ClusterMessageCodec.decode T).run buf ≠ .panic ↔ ¬ Overruns buf := by
  rw [ne_eq, not_iff_not]
  by_cases hlen : buf.length < clusterHeaderSize
  · have hno : ¬ Overruns buf := fun h => absurd h.1 (by omega)
    simp only [ClusterMessageCodec.decode, if_pos hlen, hno, iff_false]
    by_cases hb : buf = []
    · simp [hb]
    · simp [hb]
  · have hhead : clusterHeaderSize ≤ buf.length := Nat.le_of_not_lt hlen
    simp only [ClusterMessageCodec.decode, if_neg hlen]
    obtain ⟨version, code, tail, rfl⟩ := exists_cons_cons_of_header hhead
    have htail : 28 ≤ tail.length := by
      simp only [clusterHeaderSize, List.length_cons] at hhead
      omega
    have hdrop : (version :: code :: tail).drop clusterHeaderSize = tail.drop 28 := rfl
    rw [decodeMessage_eq_panic htail, Overruns, hdrop]
    simp only [decodePayload_eq_panic, List.getElem?_cons_succ, List.getElem?_cons_zero,
      Option.some.injEq, hhead, true_and]
    constructor
    · rintro ⟨t, hc, ⟨rfl, hcut⟩ | ⟨rfl, hcut⟩⟩
      · exact Or.inl ⟨hc, hcut⟩
      · exact Or.inr ⟨hc, hcut⟩
    · rintro (⟨hc, hcut⟩ | ⟨hc, hcut⟩)
      · exact ⟨_, hc, Or.inl ⟨rfl, hcut⟩⟩
      · exact ⟨_, hc, Or.inr ⟨rfl, hcut⟩⟩

/-- A CONFIG_UPDATE_ACK of 48 bytes: header, update id, success flag, and the
flag of an error message that never comes. -/
def cutAckSample : Bytes :=
  [1, 0x61] ++ List.replicate 28 0 ++ List.replicate 16 0 ++ [0, 1]

theorem cluster_decode_not_total :
    ¬ ∀ (T : AddrText) (buf : Bytes), (ClusterMessageCodec.decode T).run buf ≠ .panic := by
  intro h
  exact h longText cutAckSample rfl

end HeadEnd.Cluster
