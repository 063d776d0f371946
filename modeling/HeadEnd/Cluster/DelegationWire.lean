import HeadEnd.Cluster.Departure
import HeadEnd.Cluster.RoundTrip
import HeadEnd.Cluster.ShutdownDelegation

/-! Delegation requests as bytes: what the receiver reads back, and whether a datagram
can hold what is sent. -/
namespace HeadEnd.Cluster
open HeadEnd.Buffer DeviceManager

section Arrival
variable {d : DelegatedDevice}

theorem wf_toPayload (h : FitsOpt d.ipv4 ∧ FitsOpt d.ipv6) : (toPayload d).WF := h

theorem map_ofPayload_toPayload {devices : List DelegatedDevice}
    (h : ∀ d ∈ devices, Representable d.scheduleTime) :
    (devices.map toPayload).map ofPayload = devices.map wholeSeconds := by
  rw [List.map_map]
  exact List.map_congr_left fun d hd => ofPayload_toPayload (h d hd)

/-- A message that carries a request within the limits of its prefixes is read back. -/
theorem decode_encode_request {T : AddrText} {m : ClusterMessage} {p : DelegateRequestPayload}
    (htype : m.msgType = .delegateRequest) (hpayload : m.payload = .delegateRequest p)
    (hlen : p.devices.length ≤ maxPrefixed) (hwf : ∀ d ∈ p.devices, d.WF) :
    (ClusterMessageCodec.decode T).run (ClusterMessageCodec.encode T m) = .ok (some m) [] := by
  have hcarries : m.msgType.Carries m.payload := by
    rw [htype, hpayload]
    exact ⟨p, rfl⟩
  have hw : m.payload.WF T := by
    rw [hpayload]
    exact ⟨hlen, hwf⟩
  have hread := ClusterMessageCodec.run_decode_encode hcarries hw []
  rw [List.append_nil] at hread
  exact hread

end Arrival

/-- A delegated device arrives unchanged, its wake-up cut to whole seconds: that is the
list with which the receiver takes the devices over. -/
theorem delegated_devices_arrive (T : AddrText) (sv sv' : Server) (active : List NodeInfo)
    (now : Int) (devices : List DelegatedDevice) (reason : DelegationReason)
    (target : Option Uuid) (out : List Outgoing) (ids : List Uuid)
    (hlen : devices.length ≤ 65535)
    (haddr : ∀ d ∈ devices, FitsOpt d.ipv4 ∧ FitsOpt d.ipv6)
    (htime : ∀ d ∈ devices, Representable d.scheduleTime) (hne : devices ≠ [])
    (hsent : sv.requestDelegation active now devices reason target = .ok (sv', out, ids)) :
    ∃ o payload, out = [o] ∧
      (ClusterMessageCodec.decode T).run (ClusterMessageCodec.encode T o.2) = .ok (some o.2) [] ∧
      o.2.payload = .delegateRequest payload ∧ payload.reason = reason ∧
      payload.devices.map ofPayload = devices.map wholeSeconds ∧
      ∀ (db : InnerDB) (receiver : Server) (fromAddr : SocketAddr) (later : Int),
        receiver.canAccept reason →
        (Server.handleMessage db receiver fromAddr o.2 later).1 =
            (receiver.dm.acceptDelegation db later (devices.map wholeSeconds)).1 ∧
          (Server.handleMessage db receiver fromAddr o.2 later).2.1.dm =
            (receiver.dm.acceptDelegation db later (devices.map wholeSeconds)).2.1 := by
  cases Server.requestDelegation_sends hsent with
  | inl hnone => exact absurd hnone.1 hne
  | inr hone =>
    obtain ⟨addr, msg, hout, htype, hpayload⟩ := hone
    have hlist := map_ofPayload_toPayload htime
    refine ⟨(addr, msg), ⟨devices.map toPayload, reason⟩, hout, ?_, hpayload, rfl, hlist, ?_⟩
    · refine decode_encode_request htype hpayload ?_ fun p hp => ?_
      · rw [List.length_map]
        exact hlen
      · obtain ⟨d, hd, rfl⟩ := List.mem_map.mp hp
        exact wf_toPayload (haddr d hd)
    · intro db receiver fromAddr later haccept
      simp only [Server.handleMessage, htype, hpayload, Server.handleDelegationRequest,
        if_pos haccept, hlist]
      exact ⟨trivial, trivial⟩

/- Device 10 is due between two seconds, before the epoch. -/
def overdueDevice : DelegatedDevice := ⟨10, some "10.0.0.10", some "fe80::a", -1500000000⟩

def twoDelegated : List DelegatedDevice := [World.soleDevice, overdueDevice]

def twoDelegatedMsg : ClusterMessage :=
  World.pairServer.message .delegateRequest
    (.delegateRequest ⟨twoDelegated.map toPayload, .rebalance⟩) 0

theorem fits_twoDelegated : ∀ d ∈ twoDelegated, FitsOpt d.ipv4 ∧ FitsOpt d.ipv6 := by
  intro d hd
  cases List.mem_cons.mp hd with
  | inl hsole =>
    subst hsole
    exact ⟨fun s hs => by cases hs; decide +kernel, fun s hs => by cases hs⟩
  | inr hlast =>
    rw [List.mem_singleton.mp hlast]
    exact ⟨fun s hs => by cases hs; decide +kernel, fun s hs => by cases hs; decide +kernel⟩

/-- The half second of device 10 is lost, and nothing else. -/
theorem delegated_devices_arrive_two :
    ∃ o payload, [(World.peerAddr, twoDelegatedMsg)] = [o] ∧
      (ClusterMessageCodec.decode longText).run
        (ClusterMessageCodec.encode longText o.2) = .ok (some o.2) [] ∧
      o.2.payload = .delegateRequest payload ∧
      payload.devices.map ofPayload =
        [World.soleDevice, { overdueDevice with scheduleTime := -2000000000 }] := by
  have htime : ∀ d ∈ twoDelegated, Representable d.scheduleTime := by decide
  obtain ⟨o, payload, hout, hread, hpayload, -, hlist, -⟩ :=
    delegated_devices_arrive longText World.pairServer World.pairServer.nextSeq [] 0
      twoDelegated .rebalance (some 2) [(World.peerAddr, twoDelegatedMsg)] [9, 10]
      (by decide) fits_twoDelegated htime (by decide) rfl
  exact ⟨o, payload, hout, hread, hpayload, hlist⟩

/-- The buffer into which a datagram is received. -/
def maxPacketSize : Nat := 65535

def addressBytes : Option String → Nat
  | some s => 2 + (asBytes s).length
  | none => 0

/-- The bytes that a device takes up in a request: id, time and two flags, and its
addresses as they are on file. -/
def deviceBytes (ipv4 ipv6 : Option String) : Nat := 26 + addressBytes ipv4 + addressBytes ipv6

def recordBytes (db : InnerDB) (deviceId : Uuid) : Nat :=
  match db.getDevice deviceId with
  | .ok row => deviceBytes row.ipv4 row.ipv6
  | .error _ => 0

/-- What is left for the devices after header, count and reason. -/
def maxRequestBytes : Nat := 65502

/-- The message is received whole and read back as it was sent. -/
structure FitsWire (T : AddrText) (m : ClusterMessage) (p : DelegateRequestPayload) : Prop where
  size : (ClusterMessageCodec.encode T m).length ≤ maxPacketSize
  count : p.devices.length < 65536
  read : (ClusterMessageCodec.decode T).run (ClusterMessageCodec.encode T m) = .ok (some m) []

section Size
variable {T : AddrText} {devices : List DelegatedDevice}

theorem length_encodeOptionalString (o : Option String) :
    (encodeOptionalString o).length = 1 + addressBytes o := by
  cases o with
  | none => rfl
  | some s =>
    rw [encodeOptionalString, List.length_append, putString_length, putU8_length]
    rfl

theorem length_encode_toPayload (d : DelegatedDevice) :
    (toPayload d).encode.length = deviceBytes d.ipv4 d.ipv6 := by
  simp [DelegatedDevicePayload.encode, toPayload, length_encodeOptionalString, deviceBytes]
  omega

theorem length_encode_request {m : ClusterMessage} {reason : DelegationReason}
    (hpayload : m.payload = .delegateRequest ⟨devices.map toPayload, reason⟩) :
    (ClusterMessageCodec.encode T m).length =
      33 + (devices.map fun d => deviceBytes d.ipv4 d.ipv6).sum := by
  have hbody : ((devices.map toPayload).flatMap DelegatedDevicePayload.encode).length =
      (devices.map fun d => deviceBytes d.ipv4 d.ipv6).sum := by
    rw [List.length_flatMap, List.map_map]
    exact congrArg List.sum (List.map_congr_left fun d _ => length_encode_toPayload d)
  rw [ClusterMessageCodec.encode, List.length_append, ClusterMessage.encodeHeader_length, hpayload]
  simp only [ClusterPayload.encode, DelegateRequestPayload.encode, List.length_append, hbody,
    putU16_length, putU8_length, clusterHeaderSize]
  omega

theorem fitsOpt_of_addressBytes {o : Option String} (h : addressBytes o ≤ maxPrefixed) :
    FitsOpt o := by
  intro s hs
  rw [hs, addressBytes] at h
  unfold Fits
  omega

/-- Within the limit there is room for the count and for every address. -/
theorem fitsWire_iff {m : ClusterMessage} {reason : DelegationReason}
    (htype : m.msgType = .delegateRequest)
    (hpayload : m.payload = .delegateRequest ⟨devices.map toPayload, reason⟩) :
    FitsWire T m ⟨devices.map toPayload, reason⟩ ↔
      (devices.map fun d => deviceBytes d.ipv4 d.ipv6).sum ≤ maxRequestBytes := by
  constructor
  · intro hfits
    have hsize := hfits.size
    rw [length_encode_request hpayload] at hsize
    unfold maxPacketSize at hsize
    unfold maxRequestBytes
    omega
  · intro hsum
    have hcount : devices.length * 26 ≤ (devices.map fun d => deviceBytes d.ipv4 d.ipv6).sum := by
      have hmin := List.card_nsmul_le_sum (devices.map fun d => deviceBytes d.ipv4 d.ipv6) 26
      rw [List.length_map, smul_eq_mul] at hmin
      refine hmin fun n hn => ?_
      obtain ⟨d, -, rfl⟩ := List.mem_map.mp hn
      unfold deviceBytes
      omega
    have hone : ∀ d ∈ devices, deviceBytes d.ipv4 d.ipv6 ≤ maxRequestBytes :=
      fun d hd => (List.le_sum_of_mem (List.mem_map_of_mem hd)).trans hsum
    unfold maxRequestBytes at hsum hone
    have hlen : (devices.map toPayload).length ≤ maxPrefixed := by
      rw [List.length_map]
      unfold maxPrefixed
      omega
    refine ⟨?_, Nat.lt_succ_of_le hlen, decode_encode_request htype hpayload hlen fun p hp => ?_⟩
    · rw [length_encode_request hpayload]
      unfold maxPacketSize
      omega
    · obtain ⟨d, hd, rfl⟩ := List.mem_map.mp hp
      have hbytes := hone d hd
      unfold deviceBytes at hbytes
      refine wf_toPayload ⟨fitsOpt_of_addressBytes ?_, fitsOpt_of_addressBytes ?_⟩
      · unfold maxPrefixed
        omega
      · unfold maxPrefixed
        omega

end Size

/-- Every request that is sent fits, in whatever order the devices are met. -/
def RequestsFit (T : AddrText) (sv : Server) (db : InnerDB) (now : Int)
    (active : List NodeInfo) : Prop :=
  ∀ deviceIds sv' out, Lists deviceIds sv.dm.ownedDevices →
    sv.shutdownDelegation db now deviceIds active = .ok (sv', out) →
    ∀ o ∈ out, ∃ p, o.2.payload = .delegateRequest p ∧ FitsWire T o.2 p

/-- No share of the devices needs more bytes than there are. -/
def SharesFit (db : InnerDB) (owned : Finset Uuid) (peers : Nat) : Prop :=
  ∀ share ⊆ owned, share.card ≤ owned.card ⌈/⌉ peers →
    ∑ d ∈ share, recordBytes db d ≤ maxRequestBytes

section Shares
variable {T : AddrText} {sv : Server} {db : InnerDB} {now : Int} {deviceIds : List Uuid}
  {devices : List DelegatedDevice} {active : List NodeInfo}

theorem recordBytes_of_delegated {d : Uuid} {device : DelegatedDevice}
    (h : delegatedDevice db now d = .ok device) :
    recordBytes db device.deviceId = deviceBytes device.ipv4 device.ipv6 := by
  obtain ⟨row, hrow, hid, h4, h6⟩ := delegatedDevice_eq_ok h
  rw [recordBytes, hid, hrow, h4, h6]

/-- The bytes of some of the devices, read off their records. -/
theorem sum_deviceBytes (h : List.Forall₂ (fun d device => delegatedDevice db now d = .ok device)
      deviceIds devices) {c : List DelegatedDevice} (hc : c.Sublist devices) :
    (c.map fun d => deviceBytes d.ipv4 d.ipv6).sum =
      ((c.map DelegatedDevice.deviceId).map (recordBytes db)).sum := by
  rw [List.map_map]
  refine congrArg List.sum (List.map_congr_left fun device hdevice => ?_)
  obtain ⟨d, -, hd⟩ := exists_mem_left_of_forall₂ h (hc.subset hdevice)
  exact (recordBytes_of_delegated hd).symm

theorem requestsFit_of_sharesFit (hactive : sv.membership.ActiveNodes active)
    (h : SharesFit db sv.dm.ownedDevices active.length) : RequestsFit T sv db now active := by
  intro deviceIds sv' out howned hcall o ho
  by_cases hids : deviceIds = []
  · rw [Server.shutdownDelegation, if_pos hids] at hcall
    cases hcall
    cases ho
  · obtain ⟨hpeers, devices, hall, hsent⟩ := Server.of_shutdownDelegation_eq_ok hactive hids hcall
    obtain ⟨r, hr, hsends⟩ := exists_mem_left_of_forall₂ hsent ho
    have hmap := map_deviceId_of_delegated hall
    have hslice : r.1 ∈ chunks (devices.length ⌈/⌉ active.length) devices := (List.of_mem_zip hr).1
    have hsub := sublist_of_mem_chunks hslice
    have hsubIds : (r.1.map DelegatedDevice.deviceId).Sublist deviceIds := by
      rw [← hmap]
      exact hsub.map _
    have hnd : (r.1.map DelegatedDevice.deviceId).Nodup := hsubIds.nodup howned.1
    refine ⟨_, hsends.payload, (fitsWire_iff hsends.msgType hsends.payload).mpr ?_⟩
    rw [sum_deviceBytes hall hsub, ← List.sum_toFinset _ hnd]
    refine h _ (fun d hd => ?_) ?_
    · rw [List.mem_toFinset] at hd
      exact howned.mem_iff.mp (hsubIds.subset hd)
    · rw [List.toFinset_card_of_nodup hnd, List.length_map, ← howned.length_eq, ← hmap,
        List.length_map]
      exact length_le_of_mem_chunks hslice

/-- An order in which a given share comes first. -/
theorem lists_share_first {share owned : Finset Uuid} (h : share ⊆ owned) :
    Lists (share.toList ++ (owned \ share).toList) owned := by
  refine ⟨?_, ?_⟩
  · rw [List.nodup_append]
    refine ⟨share.nodup_toList, Finset.nodup_toList _, fun a ha b hb hab => ?_⟩
    rw [Finset.mem_toList] at ha
    rw [Finset.mem_toList, Finset.mem_sdiff] at hb
    exact hb.2 (hab ▸ ha)
  · rw [List.toFinset_append, Finset.toList_toFinset, Finset.toList_toFinset,
      Finset.union_sdiff_of_subset h]

theorem sharesFit_of_requestsFit (hactive : sv.membership.ActiveNodes active)
    (hfound : ∀ d ∈ sv.dm.ownedDevices, d ∈ db.devices)
    (h : RequestsFit T sv db now active) : SharesFit db sv.dm.ownedDevices active.length := by
  intro share hshare hcard
  by_cases hempty : share = ∅
  · rw [hempty, Finset.sum_empty]
    exact Nat.zero_le _
  · have howned := lists_share_first hshare
    have hpeers : active ≠ [] := by
      intro hnil
      rw [hnil, List.length_nil, ceilDiv_zero, Nat.le_zero, Finset.card_eq_zero] at hcard
      exact hempty hcard
    have hids : share.toList ++ (sv.dm.ownedDevices \ share).toList ≠ [] := by
      rw [ne_eq, List.append_eq_nil_iff, Finset.toList_eq_nil]
      exact fun hnil => hempty hnil.1
    obtain ⟨devices, sv', out, hall, hcall, hsent⟩ := Server.shutdownDelegation_eq now hactive
      hpeers hids fun d hd => hfound d (howned.mem_iff.mp hd)
    have hmap := map_deviceId_of_delegated hall
    have hdevices : devices ≠ [] := by
      intro hnil
      rw [hnil] at hmap
      exact hids hmap.symm
    -- the first slice, and the request that carries it
    have hfirst := take_mem_chunks (share_pos hpeers hdevices) hdevices
    rw [← map_fst_shutdownRequests hpeers hdevices] at hfirst
    obtain ⟨r, hr, hrfirst⟩ := List.mem_map.mp hfirst
    obtain ⟨o, ho, hsends⟩ := exists_mem_left_of_forall₂ hsent.flip hr
    obtain ⟨p, hp, hfits⟩ := h _ sv' out howned hcall o ho
    rw [hsends.payload, ClusterPayload.delegateRequest.injEq] at hp
    rw [← hp, fitsWire_iff hsends.msgType hsends.payload, hrfirst,
      sum_deviceBytes hall (List.take_sublist _ _), List.map_take, hmap] at hfits
    have hlen : share.toList.length ≤ devices.length ⌈/⌉ active.length := by
      rw [Finset.length_toList, ← List.length_map DelegatedDevice.deviceId, hmap, howned.length_eq]
      exact hcard
    rw [List.take_append, List.take_of_length_le hlen, List.map_append, List.sum_append,
      Finset.sum_map_toList] at hfits
    exact (Nat.le_add_right _ _).trans hfits

end Shares

/-- The requests sent on shutdown fit into datagrams exactly if no share of the devices
is too large for one, unless a device is not on file and nothing is sent. -/
theorem shutdown_requests_fit_iff (T : AddrText) (sv : Server) (db : InnerDB) (now : Int)
    (active : List NodeInfo) (hactive : sv.membership.ActiveNodes active) :
    RequestsFit T sv db now active ↔
      (∃ d ∈ sv.dm.ownedDevices, d ∉ db.devices) ∨
        SharesFit db sv.dm.ownedDevices active.length := by
  constructor
  · intro h
    by_cases hfound : ∀ d ∈ sv.dm.ownedDevices, d ∈ db.devices
    · exact .inr (sharesFit_of_requestsFit hactive hfound h)
    · push Not at hfound
      exact .inl hfound
  · intro h
    cases h with
    | inr hshares => exact requestsFit_of_sharesFit hactive hshares
    | inl hmissing =>
      obtain ⟨d, hd, hnot⟩ := hmissing
      intro deviceIds sv' out howned hcall o ho
      have hmem := howned.mem_iff.mpr hd
      obtain ⟨-, devices, hall, -⟩ :=
        Server.of_shutdownDelegation_eq_ok hactive (List.ne_nil_of_mem hmem) hcall
      obtain ⟨device, -, hdevice⟩ := exists_mem_left_of_forall₂ hall.flip hmem
      exact absurd (mem_devices_of_delegatedDevice hdevice) hnot

theorem shutdown_requests_fit_two :
    RequestsFit longText (Server.departing {9, 10}) Server.twoMeters 0 [Server.solePeer] := by
  have hactive := Server.departing_active {9, 10}
  refine (shutdown_requests_fit_iff longText _ _ 0 _ hactive).mpr (.inr ?_)
  intro share hshare _
  have hall : ∑ d ∈ ({9, 10} : Finset Uuid), recordBytes Server.twoMeters d ≤ maxRequestBytes := by
    decide +kernel
  exact (Finset.sum_le_sum_of_subset hshare).trans hall

/-- An IPv4 address in dotted decimal. -/
def ipv4Text (a b c d : UInt8) : String :=
  toString a.toNat ++ "." ++ toString b.toNat ++ "." ++ toString c.toNat ++ "." ++ toString d.toNat

/- A fleet of meters behind one address. -/
def fleetMeter (id : Uuid) : Device := ⟨id, some "10.0.0.1", none, none⟩

def fleetDb (ids : List Uuid) : InnerDB :=
  ids.foldl (fun db id => db.addDevice (fleetMeter id)) InnerDB.new

section Fleet
variable {ids : List Uuid} {id : Uuid}

theorem lookup_foldl_addDevice (ids : List Uuid) (db : InnerDB) (id : Uuid) :
    (ids.foldl (fun db id => db.addDevice (fleetMeter id)) db).devices.lookup id =
      if id ∈ ids then some (fleetMeter id) else db.devices.lookup id := by
  induction ids generalizing db with
  | nil => rfl
  | cons i ids ih =>
    rw [List.foldl_cons, ih]
    by_cases hmem : id ∈ ids
    · rw [if_pos hmem, if_pos (List.mem_cons_of_mem i hmem)]
    · by_cases hid : id = i
      · rw [if_neg hmem, hid, if_pos List.mem_cons_self]
        exact Finmap.lookup_insert _
      · rw [if_neg hmem, if_neg (List.not_mem_cons_of_ne_of_not_mem hid hmem)]
        exact Finmap.lookup_insert_of_ne _ hid

theorem lookup_fleetDb (h : id ∈ ids) : (fleetDb ids).devices.lookup id = some (fleetMeter id) := by
  rw [fleetDb, lookup_foldl_addDevice, if_pos h]

theorem getDevice_fleetDb (h : id ∈ ids) : (fleetDb ids).getDevice id = .ok (fleetMeter id) := by
  simp only [InnerDB.getDevice, lookup_fleetDb h]

theorem recordBytes_fleetDb (h : id ∈ ids) : recordBytes (fleetDb ids) id = 36 := by
  simp only [recordBytes, getDevice_fleetDb h]
  rfl

end Fleet

theorem exists_nodup_ids (n : Nat) (hn : n ≤ 2 ^ 128) :
    ∃ ids : List Uuid, ids.Nodup ∧ ids.length = n := by
  refine ⟨(List.range n).map (BitVec.ofNat 128), ?_, by rw [List.length_map, List.length_range]⟩
  refine List.Nodup.map_on (fun i hi j hj hij => ?_) List.nodup_range
  rw [List.mem_range] at hi hj
  have hnat := congrArg BitVec.toNat hij
  rwa [BitVec.toNat_ofNat, BitVec.toNat_ofNat, Nat.mod_eq_of_lt (Nat.lt_of_lt_of_le hi hn),
    Nat.mod_eq_of_lt (Nat.lt_of_lt_of_le hj hn)] at hnat

/-- Two thousand devices with short addresses are too much for one peer. -/
theorem shutdown_requests_do_not_fit :
    ¬ ∀ (T : AddrText) (sv : Server) (db : InnerDB) (now : Int) (active : List NodeInfo),
      sv.membership.ActiveNodes active → active ≠ [] →
      (∀ d ∈ sv.dm.ownedDevices, ∃ row, db.getDevice d = .ok row ∧ row.ipv6 = none ∧
        ∃ a b c e, row.ipv4 = some (ipv4Text a b c e)) →
      RequestsFit T sv db now active := by
  intro h
  obtain ⟨ids, hnodup, hlen⟩ := exists_nodup_ids 2000 (by decide)
  have htext : "10.0.0.1" = ipv4Text 10 0 0 1 := by decide
  have hrow : ∀ d ∈ ids.toFinset, ∃ row, (fleetDb ids).getDevice d = .ok row ∧ row.ipv6 = none ∧
      ∃ a b c e, row.ipv4 = some (ipv4Text a b c e) := by
    intro d hd
    refine ⟨fleetMeter d, getDevice_fleetDb (List.mem_toFinset.mp hd), rfl, 10, 0, 0, 1, ?_⟩
    rw [← htext]
    rfl
  have hactive := Server.departing_active ids.toFinset
  have hfound : ∀ d ∈ ids.toFinset, d ∈ (fleetDb ids).devices := fun d hd =>
    Finmap.mem_iff.mpr ⟨_, lookup_fleetDb (List.mem_toFinset.mp hd)⟩
  have hfits := h longText (Server.departing ids.toFinset) (fleetDb ids) 0 [Server.solePeer]
    hactive (List.cons_ne_nil _ _) hrow
  have hshares : SharesFit (fleetDb ids) ids.toFinset 1 :=
    sharesFit_of_requestsFit hactive hfound hfits
  have hcard : ids.toFinset.card ≤ ids.toFinset.card ⌈/⌉ 1 := by rw [ceilDiv_one]
  have hsum := hshares ids.toFinset (Finset.Subset.refl _) hcard
  have hbytes : ∀ d ∈ ids.toFinset, recordBytes (fleetDb ids) d = 36 := fun d hd =>
    recordBytes_fleetDb (List.mem_toFinset.mp hd)
  rw [Finset.sum_congr rfl hbytes, Finset.sum_const, List.toFinset_card_of_nodup hnodup, hlen]
    at hsum
  exact absurd hsum (by decide)

end HeadEnd.Cluster
