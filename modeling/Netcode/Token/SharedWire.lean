import Netcode.Token.Shared

namespace Netcode

/-!
# netcode.io — the shared section on the wire

What `WriteShared` puts on the wire, set against the reference layout of the format, and
what `ReadShared` gives back from it.

* `refSharedBytes` — the reference layout: the count, then per server the type, four
  IPv4 bytes or the eight groups `o[2j] * 256 + o[2j+1]` of an IPv6 address, each as a
  little-endian `u16`, and the port; then the two keys.
* `writeShared_reference_layout` — `WriteShared` stores `sharedBytes`, and that is the
  reference layout exactly when every IPv6 address has a zero high octet in each group:
  its IPv6 loop writes `(o[2j+1], 0)` where the layout has `(o[2j+1], o[2j])`.
* `readShared_writeShared` — `ReadShared` into a fresh `sharedTokenData` of what
  `WriteShared` wrote succeeds, and gives back `readBackServers` and two empty keys:
  the keys are copied into `nil` slices, each IPv6 group's high octet comes back `0`,
  and each port is OR-ed into the ports read before it.
-/

/-! ### The reference layout -/

/-- Modelled from the spec: an IPv6 address in the reference layout, the groups
    `o[2j] * 256 + o[2j+1]` each as a little-endian `u16`, that is `o[2j+1]` then `o[2j]`. -/
def refIpv6Wire : Bytes → Bytes
  | hi :: lo :: rest => lo :: hi :: refIpv6Wire rest
  | _ => []

/-- Modelled from the spec: one server in the reference layout. -/
def refServerBytes (addr : UDPAddr) : Bytes :=
  match (parsedHost addr).bind to4 with
  | some parsedIpv4 => addressIpv4 :: parsedIpv4 ++ leBytes 2 addr.port.toNat
  | none => addressIpv6 :: refIpv6Wire addr.ip ++ leBytes 2 addr.port.toNat

/-- Modelled from the spec: the shared section in the reference layout. -/
def refSharedBytes (shared : SharedTokenData) : Bytes :=
  leBytes 4 shared.serverAddrs.length ++ (shared.serverAddrs.map refServerBytes).flatten ++
    shared.clientKey ++ shared.serverKey

/-- The high octets `o[2j]` of the groups of an IPv6 address. -/
def ipv6HighOctets : Bytes → Bytes
  | hi :: _ :: rest => hi :: ipv6HighOctets rest
  | _ => []

/-- The reference IPv6 form is as long as the written one. -/
theorem length_refIpv6Wire (ip : Bytes) : (refIpv6Wire ip).length = (ipv6Wire ip).length := by
  induction ip using ipv6Wire.induct with
  | case1 hi lo rest ih => simp [refIpv6Wire, ipv6Wire, ih]
  | case2 ip h =>
    match ip, h with
    | [], _ => rfl
    | [_], _ => rfl
    | a :: b :: t, h => exact absurd rfl (h a b t)

/-- The IPv6 loop writes the reference layout exactly when every high octet is `0`. -/
theorem ipv6Wire_eq_ref_iff (ip : Bytes) :
    ipv6Wire ip = refIpv6Wire ip ↔ ∀ b ∈ ipv6HighOctets ip, b = 0 := by
  induction ip using ipv6Wire.induct with
  | case1 hi lo rest ih =>
    simp only [ipv6Wire, refIpv6Wire, ipv6HighOctets, List.cons.injEq, true_and, ih,
      List.forall_mem_cons, eq_comm]
  | case2 ip h =>
    match ip, h with
    | [], _ => simp [ipv6Wire, refIpv6Wire, ipv6HighOctets]
    | [_], _ => simp [ipv6Wire, refIpv6Wire, ipv6HighOctets]
    | a :: b :: t, h => exact absurd rfl (h a b t)

/-- The address of a server written as IPv6: its host has no four-byte form. -/
def WrittenAsIpv6 (addr : UDPAddr) : Prop := (parsedHost addr).bind to4 = none

/-- Whether WriteShared writes an address as IPv6 is decidable. -/
instance (addr : UDPAddr) : Decidable (WrittenAsIpv6 addr) :=
  inferInstanceAs (Decidable ((parsedHost addr).bind to4 = none))

/-- A server's reference form is as long as its written form. -/
theorem length_refServerBytes (addr : UDPAddr) :
    (refServerBytes addr).length = (serverBytes addr).length := by
  unfold refServerBytes serverBytes
  cases (parsedHost addr).bind to4 <;> simp [length_refIpv6Wire]

/-- A server is written in its reference form exactly when, written as IPv6, its high octets
    are all zero. -/
theorem serverBytes_eq_ref_iff (addr : UDPAddr) :
    serverBytes addr = refServerBytes addr ↔
      (WrittenAsIpv6 addr → ∀ b ∈ ipv6HighOctets addr.ip, b = 0) := by
  unfold serverBytes refServerBytes WrittenAsIpv6
  cases (parsedHost addr).bind to4 <;> simp [ipv6Wire_eq_ref_iff]

/-- Two concatenations of pieces of equal lengths are equal exactly when the pieces are. -/
theorem flatten_map_eq_iff {α β : Type} {f g : α → List β} (l : List α)
    (h : ∀ a ∈ l, (f a).length = (g a).length) :
    (l.map f).flatten = (l.map g).flatten ↔ ∀ a ∈ l, f a = g a := by
  induction l with
  | nil => simp
  | cons a as ih =>
    simp only [List.map_cons, List.flatten_cons, List.forall_mem_cons]
    constructor
    · intro he
      obtain ⟨h1, h2⟩ := List.append_inj he (h a (.head _))
      exact ⟨h1, (ih fun b hb => h b (.tail _ hb)).mp h2⟩
    · rintro ⟨h1, h2⟩
      rw [h1, (ih fun b hb => h b (.tail _ hb)).mpr h2]

/-- With 32-byte keys the reference shared section is as long as the written one. -/
theorem length_refSharedBytes {shared : SharedTokenData} (hc : shared.clientKey.length = keyBytes)
    (hs : shared.serverKey.length = keyBytes) :
    (refSharedBytes shared).length = (sharedBytes shared).length := by
  simp only [refSharedBytes, sharedBytes, List.length_append, List.length_take, hc, hs,
    Nat.min_self, List.length_flatten, List.map_map]
  congr 3
  exact congrArg List.sum (List.map_congr_left fun a _ => length_refServerBytes a)

/-- **`WriteShared` writes the reference layout exactly when no IPv6 group has a high
    octet.**  For valid addresses and 32-byte keys, when the section fits, `WriteShared`
    stores `sharedBytes`; those bytes are the reference layout if and only if every
    server written as IPv6 has `o[2j] = 0` in each of its groups. -/
theorem writeShared_reference_layout {shared : SharedTokenData}
    (hv : ∀ a ∈ shared.serverAddrs, a.Valid) (hc : shared.clientKey.length = keyBytes)
    (hs : shared.serverKey.length = keyBytes) {mem : Bytes} {buffer : Nat}
    (h : buffer + (refSharedBytes shared).length ≤ mem.length) :
    shared.writeShared mem buffer = .ok (store mem buffer (sharedBytes shared)) ∧
      (sharedBytes shared = refSharedBytes shared ↔
        ∀ a ∈ shared.serverAddrs, WrittenAsIpv6 a → ∀ b ∈ ipv6HighOctets a.ip, b = 0) := by
  refine ⟨writeShared_ok hv hc.ge hs.ge (length_refSharedBytes hc hs ▸ h), ?_⟩
  have hm := flatten_map_eq_iff shared.serverAddrs fun a _ => (length_refServerBytes a).symm
  have hl : ((shared.serverAddrs.map serverBytes).flatten).length =
      ((shared.serverAddrs.map refServerBytes).flatten).length := by
    simp only [List.length_flatten, List.map_map]
    exact congrArg List.sum (List.map_congr_left fun a _ => (length_refServerBytes a).symm)
  simp only [sharedBytes, refSharedBytes, List.take_of_length_le hc.le,
    List.take_of_length_le hs.le, List.append_assoc, List.append_cancel_left_eq]
  constructor
  · intro he a ha
    exact (serverBytes_eq_ref_iff a).mp (hm.mp (List.append_inj he hl).1 a ha)
  · intro hall
    rw [hm.mpr fun a ha => (serverBytes_eq_ref_iff a).mpr (hall a ha)]

/-- One server, `[2001:db8::1]:40000`, and two zero keys. -/
def ipv6DocShared : SharedTokenData :=
  ⟨[⟨[0x20, 0x01, 0x0d, 0xb8, 0, 0, 0, 0, 0, 0, 0, 0, 0, 0, 0, 1], 40000, ""⟩],
    List.replicate keyBytes 0, List.replicate keyBytes 0⟩

/-- `[2001:db8::1]:40000` in a `CONNECT_TOKEN_BYTES` buffer: its first group's high octet
    is `0x20`, so `WriteShared` does not write the reference layout. -/
theorem writeShared_2001_db8 :
    (∀ a ∈ ipv6DocShared.serverAddrs, a.Valid) ∧ ipv6DocShared.clientKey.length = keyBytes ∧
      ipv6DocShared.serverKey.length = keyBytes ∧
      0 + (refSharedBytes ipv6DocShared).length ≤ (List.replicate connectTokenBytes (0 : UInt8)).length ∧
      sharedBytes ipv6DocShared ≠ refSharedBytes ipv6DocShared := by
  have hv : ∀ a ∈ ipv6DocShared.serverAddrs, a.Valid := by decide
  have hc : ipv6DocShared.clientKey.length = keyBytes := List.length_replicate _ _
  have hroom : 0 + (refSharedBytes ipv6DocShared).length ≤
      (List.replicate connectTokenBytes (0 : UInt8)).length := by
    rw [List.length_replicate]; decide
  exact ⟨hv, hc, hc, hroom, fun he =>
    absurd ((writeShared_reference_layout hv hc hc hroom).2.mp he) (by decide)⟩

/-! ### What `ReadShared` reads back -/

/-- An IPv6 address with the high octet of each group cleared. -/
def clearHighOctets : Bytes → Bytes
  | _ :: lo :: rest => 0 :: lo :: clearHighOctets rest
  | _ => []

/-- The address `ReadShared` reads back for one `WriteShared` wrote: the four bytes of an
    address written as IPv4, else the address with its high octets cleared. -/
def readBackIp (addr : UDPAddr) : Bytes :=
  match (parsedHost addr).bind to4 with
  | some parsedIpv4 => parsedIpv4
  | none => clearHighOctets addr.ip

/-- The servers `ReadShared` reads back from what `WriteShared` wrote, `port` the value of
    its `port` variable so far: each address by `readBackIp`, and each port OR-ed into the
    ports read before it. -/
def readBackServers : Nat → List UDPAddr → List UDPAddr
  | _, [] => []
  | port, a :: as =>
    ⟨readBackIp a, (port ||| a.port.toNat : Nat), ""⟩ :: readBackServers (port ||| a.port.toNat) as

/-- An address that To4 converts has four bytes. -/
theorem length_to4 {ip v : Bytes} (h : to4 ip = some v) : v.length = 4 := by
  unfold to4 at h
  split_ifs at h with h4 h16 <;> cases h
  · exact h4
  · simp [h16.1]

/-- A valid address with no four-byte form has sixteen bytes. -/
theorem length_ip_of_writtenAsIpv6 {addr : UDPAddr} (hv : addr.Valid) (h : WrittenAsIpv6 addr) :
    addr.ip.length = 16 := by
  obtain ⟨hl | hl, hz, -⟩ := hv
  · obtain ⟨hp, h4⟩ := to4_parsedHost hz hl
    simp [WrittenAsIpv6, hp, h4] at h
  · exact hl

/-- The IPv6 loop of `ReadShared` on what the IPv6 loop of `WriteShared` wrote. -/
theorem readIpv6Loop_ipv6Wire (k : Nat) :
    ∀ (ip rest : Bytes), ip.length = 2 * k →
      readIpv6Loop k (ipv6Wire ip ++ rest) = .ok (rest, clearHighOctets ip) := by
  induction k with
  | zero =>
    intro ip rest h
    rw [List.length_eq_zero.mp h]
    rfl
  | succ k ih =>
    intro ip rest h
    match ip, h with
    | hi :: lo :: ip, h =>
      have hn : (UInt16.ofNat lo.toNat).toNat = lo.toNat :=
        Nat.mod_eq_of_lt (Nat.lt_trans (toNat_lt_256 lo) (by decide))
      have hw : ipv6Wire (hi :: lo :: ip) ++ rest =
          leBytes sizeUint16 (UInt16.ofNat lo.toNat).toNat ++ (ipv6Wire ip ++ rest) := by
        rw [leBytes_uint16_ofNat_byte]; rfl
      rw [hw, readIpv6Loop, readUint16_leBytes, Go.ok_bind]
      dsimp only
      rw [ih ip rest (by simp at h; omega), Go.ok_bind, hn, byte_shiftLeft_8, ofNat_toNat_uint8]
      rfl

/-- `ReadUint16` of a port's two bytes into `port`: the two OR-ed. -/
theorem readUint16_port (port : UInt16) {p : Nat} (hp : p < 256 ^ 2) (rest : Bytes) :
    readUint16 (leBytes 2 p ++ rest) port = .ok (rest, UInt16.ofNat (port.toNat ||| p)) := by
  rw [readUint16, readOr_ok (by simp [sizeUint16])]
  simp only [sizeUint16, List.take_left' (length_leBytes 2 p),
    List.drop_left' (length_leBytes 2 p), leValue_leBytes_of_lt hp, Go.map_ok]

/-- `ReadShared`'s loop body on a server `WriteShared` wrote, with `port` as it stands. -/
theorem readServer_serverBytes {addr : UDPAddr} (hv : addr.Valid) (port : UInt16) (rest : Bytes) :
    readServer (serverBytes addr ++ rest) port =
      .ok (rest, ⟨readBackIp addr, (port.toNat ||| addr.port.toNat : Nat), ""⟩,
        UInt16.ofNat (port.toNat ||| addr.port.toNat)) := by
  have hp : addr.port.toNat < 256 ^ 2 := by obtain ⟨-, -, h0, h1⟩ := hv; omega
  have hor : (UInt16.ofNat (port.toNat ||| addr.port.toNat)).toNat = port.toNat ||| addr.port.toNat :=
    Nat.mod_eq_of_lt (Nat.or_lt_two_pow port.toBitVec.isLt hp)
  unfold serverBytes readBackIp
  cases h4 : (parsedHost addr).bind to4 with
  | some v4 =>
    obtain ⟨parsed, -, hv4⟩ := Option.bind_eq_some.mp h4
    have hb : readBytes (v4 ++ (leBytes 2 addr.port.toNat ++ rest)) 4 =
        .ok (leBytes 2 addr.port.toNat ++ rest, v4) := length_to4 hv4 ▸ readBytes_append _ _
    simp only [List.cons_append, List.append_assoc, readServer, readUint8_cons, Go.ok_bind,
      if_pos rfl, ite_true, hb, readUint16_port port hp, Go.pure_eq, hor]
  | none =>
    have hw := readIpv6Loop_ipv6Wire 8 addr.ip (leBytes 2 addr.port.toNat ++ rest)
      (length_ip_of_writtenAsIpv6 hv h4)
    simp only [List.cons_append, List.append_assoc, readServer, readUint8_cons, Go.ok_bind,
      if_neg (show addressIpv6 ≠ addressIpv4 by decide), if_pos rfl, ite_true, hw,
      readUint16_port port hp, Go.pure_eq, hor]

/-- `ReadShared`'s loop over the servers `WriteShared` wrote. -/
theorem readServers_flatten {addrs : List UDPAddr} (hv : ∀ a ∈ addrs, a.Valid) (port : UInt16)
    (rest : Bytes) :
    ∃ port', readServers addrs.length ((addrs.map serverBytes).flatten ++ rest) port =
      .ok (rest, readBackServers port.toNat addrs, port') := by
  induction addrs generalizing port with
  | nil => exact ⟨port, rfl⟩
  | cons a as ih =>
    have hva := hv a (.head _)
    have hp : a.port.toNat < 2 ^ 16 := by obtain ⟨-, -, h0, h1⟩ := hva; omega
    obtain ⟨port', h⟩ := ih (fun b hb => hv b (.tail _ hb)) (UInt16.ofNat (port.toNat ||| a.port.toNat))
    have hor : (UInt16.ofNat (port.toNat ||| a.port.toNat)).toNat = port.toNat ||| a.port.toNat :=
      Nat.mod_eq_of_lt (Nat.or_lt_two_pow port.toBitVec.isLt hp)
    rw [hor] at h
    refine ⟨port', ?_⟩
    rw [List.length_cons, List.map_cons, List.flatten_cons, List.append_assoc, readServers,
      readServer_serverBytes hva, Go.ok_bind]
    dsimp only
    rw [h, Go.ok_bind]
    rfl

/-- The IPv6 wire form is no longer than the address. -/
theorem length_ipv6Wire_le (ip : Bytes) : (ipv6Wire ip).length ≤ ip.length := by
  induction ip using ipv6Wire.induct with
  | case1 hi lo rest ih => simp only [ipv6Wire, List.length_cons]; omega
  | case2 ip h =>
    match ip, h with
    | [], _ => exact Nat.le_refl _
    | [_], _ => exact Nat.zero_le _
    | a :: b :: t, h => exact absurd rfl (h a b t)

/-- A server takes at most `1 + 16 + 2` bytes. -/
theorem length_serverBytes_le {addr : UDPAddr} (hv : addr.Valid) : (serverBytes addr).length ≤ 19 := by
  unfold serverBytes
  cases h4 : (parsedHost addr).bind to4 with
  | some v4 =>
    obtain ⟨parsed, -, hv4⟩ := Option.bind_eq_some.mp h4
    simp [length_to4 hv4]
  | none =>
    have := length_ipv6Wire_le addr.ip
    have := length_ip_of_writtenAsIpv6 hv h4
    simp only [List.cons_append, List.length_cons, List.length_append, length_leBytes]
    omega

/-- Each valid server takes at most 19 bytes. -/
theorem length_flatten_serverBytes_le {addrs : List UDPAddr} (hv : ∀ a ∈ addrs, a.Valid) :
    ((addrs.map serverBytes).flatten).length ≤ 19 * addrs.length := by
  induction addrs with
  | nil => simp
  | cons a as ih =>
    have := length_serverBytes_le (hv a (.head _))
    have := ih fun b hb => hv b (.tail _ hb)
    simp only [List.map_cons, List.flatten_cons, List.length_append, List.length_cons]
    omega

/-- The shared section starts with its server count, as the `uint32` it was written
    from. -/
theorem sharedBytes_eq_count (shared : SharedTokenData) :
    sharedBytes shared = leBytes sizeUint32 (UInt32.ofNat shared.serverAddrs.length).toNat ++
      ((shared.serverAddrs.map serverBytes).flatten ++
        (shared.clientKey.take keyBytes ++ shared.serverKey.take keyBytes)) := by
  rw [sharedBytes, show (UInt32.ofNat shared.serverAddrs.length).toNat =
    shared.serverAddrs.length % 256 ^ 4 from rfl, show sizeUint32 = 4 from rfl, leBytes_mod]
  simp only [List.append_assoc]

/-- **`ReadShared` into a fresh `sharedTokenData` of the section `WriteShared` writes**, for
    1 to `MAX_SERVERS_PER_CONNECT` valid addresses and 32-byte keys, whatever follows it:
    the servers of `readBackServers 0` and two empty keys. -/
theorem readShared_sharedBytes {shared : SharedTokenData} (h1 : 1 ≤ shared.serverAddrs.length)
    (h32 : shared.serverAddrs.length ≤ maxServersPerConnect)
    (hv : ∀ a ∈ shared.serverAddrs, a.Valid) (hc : shared.clientKey.length = keyBytes)
    (hs : shared.serverKey.length = keyBytes) (rest : Bytes) :
    (⟨[], [], []⟩ : SharedTokenData).readShared (sharedBytes shared ++ rest) =
      .ok ⟨readBackServers 0 shared.serverAddrs, [], []⟩ := by
  set n := shared.serverAddrs.length
  have hn : (UInt32.ofNat n).toNat = n :=
    Nat.mod_eq_of_lt (by simp only [maxServersPerConnect] at h32; omega)
  obtain ⟨port', hsv⟩ := readServers_flatten hv 0 (shared.clientKey ++ (shared.serverKey ++ rest))
  have hk1 : readBytes (shared.clientKey ++ (shared.serverKey ++ rest)) keyBytes =
      .ok (shared.serverKey ++ rest, shared.clientKey) := hc ▸ readBytes_append _ _
  have hk2 : readBytes (shared.serverKey ++ rest) keyBytes = .ok (rest, shared.serverKey) :=
    hs ▸ readBytes_append _ _
  rw [sharedBytes_eq_count, List.take_of_length_le hc.le, List.take_of_length_le hs.le]
  simp only [List.append_assoc]
  rw [SharedTokenData.readShared, readUint32_leBytes, Go.ok_bind]
  dsimp only
  rw [if_neg (show ¬ UInt32.ofNat n ≤ 0 from fun h =>
      absurd (show (UInt32.ofNat n).toNat ≤ 0 from h) (by omega)),
    if_neg (show ¬ (UInt32.ofNat n).toNat > maxServersPerConnect by omega), hn, hsv, Go.ok_bind]
  simp [hk1, hk2, copyInto]

/-- **`ReadShared` of what `WriteShared` wrote, into a fresh `sharedTokenData`.**  For 1 to
    `MAX_SERVERS_PER_CONNECT` valid addresses and 32-byte keys, `WriteShared` into a
    `CONNECT_TOKEN_BYTES` buffer succeeds, and `ReadShared` of that buffer into
    `sharedTokenData{}` succeeds with the servers of `readBackServers 0` and two empty
    keys. -/
theorem readShared_writeShared {shared : SharedTokenData} (h1 : 1 ≤ shared.serverAddrs.length)
    (h32 : shared.serverAddrs.length ≤ maxServersPerConnect)
    (hv : ∀ a ∈ shared.serverAddrs, a.Valid) (hc : shared.clientKey.length = keyBytes)
    (hs : shared.serverKey.length = keyBytes) {mem : Bytes} (hmem : mem.length = connectTokenBytes) :
    ∃ mem', shared.writeShared mem 0 = .ok mem' ∧
      (⟨[], [], []⟩ : SharedTokenData).readShared mem' =
        .ok ⟨readBackServers 0 shared.serverAddrs, [], []⟩ := by
  have hf := length_flatten_serverBytes_le hv
  have hroom : 0 + (sharedBytes shared).length ≤ mem.length := by
    simp only [sharedBytes, List.length_append, length_leBytes, List.length_take, hmem]
    simp only [maxServersPerConnect, connectTokenBytes, keyBytes] at h32 ⊢
    omega
  refine ⟨_, writeShared_ok hv hc.ge hs.ge hroom, ?_⟩
  rw [store, List.take_zero, List.nil_append]
  exact readShared_sharedBytes h1 h32 hv hc hs _

/-- The server of `TestReadWriteShared`, `[::1]:40000`, and two 32-byte keys. -/
def loopbackShared : SharedTokenData :=
  ⟨[⟨[0, 0, 0, 0, 0, 0, 0, 0, 0, 0, 0, 0, 0, 0, 0, 1], 40000, ""⟩],
    List.replicate keyBytes 1, List.replicate keyBytes 2⟩

/-- `TestReadWriteShared`'s round trip: the server comes back, both keys come back empty. -/
theorem readShared_writeShared_loopback :
    1 ≤ loopbackShared.serverAddrs.length ∧
      loopbackShared.serverAddrs.length ≤ maxServersPerConnect ∧
      (∀ a ∈ loopbackShared.serverAddrs, a.Valid) ∧ loopbackShared.clientKey.length = keyBytes ∧
      loopbackShared.serverKey.length = keyBytes ∧
      (List.replicate connectTokenBytes (0 : UInt8)).length = connectTokenBytes ∧
      ∃ mem', loopbackShared.writeShared (List.replicate connectTokenBytes 0) 0 = .ok mem' ∧
        (⟨[], [], []⟩ : SharedTokenData).readShared mem' =
          .ok ⟨loopbackShared.serverAddrs, [], []⟩ := by
  have hv : ∀ a ∈ loopbackShared.serverAddrs, a.Valid := by decide
  have hc : loopbackShared.clientKey.length = keyBytes := List.length_replicate _ _
  have hs : loopbackShared.serverKey.length = keyBytes := List.length_replicate _ _
  have hm : (List.replicate connectTokenBytes (0 : UInt8)).length = connectTokenBytes :=
    List.length_replicate _ _
  have hb : readBackServers 0 loopbackShared.serverAddrs = loopbackShared.serverAddrs := by decide
  obtain ⟨mem', hw, hr⟩ := readShared_writeShared (by decide) (by decide) hv hc hs hm
  exact ⟨by decide, by decide, hv, hc, hs, hm, mem', hw, hb ▸ hr⟩

end Netcode
