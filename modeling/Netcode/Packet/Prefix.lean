import Netcode.Serializer

namespace Netcode

/-!
# netcode.io — packet types, the prefix byte and the sequence number

The framing shared by the six sequenced packet types (`packet.go`).

* `peek` — `PacketType.Peek`, the low nibble of the first byte.
* `sequenceNumberBytesRequired` — the `for i < 7` mask loop.  `bytesRequired_spec`:
  it is the least `k ∈ [1, 8]` with `sequence < 256 ^ k`.
* `writePacketPrefix` — the prefix byte `type | k << 4` and the `k` low bytes of the
  sequence (`writePacketPrefix_ok`).
* `readSequence` — the high nibble as a byte count in `[1, 8]`, a length check against
  `packetLen`, then the count of bytes read little-endian (`readSequence_ok`).
* `packetCryptData` — the associated data `VERSION_INFO ‖ protocolId ‖ prefixByte` and
  the nonce, the sequence's eight bytes (`packetCryptData_eq`); both determine what they
  encode (`packetAad_inj`, `nonceOf_inj`).
-/

/-- `PacketType`, a `uint8`. -/
abbrev PacketType := UInt8

/-- ConnectionRequest of packet.go. -/
def connectionRequest : PacketType := 0
/-- ConnectionDenied of packet.go. -/
def connectionDenied : PacketType := 1
/-- ConnectionChallenge of packet.go. -/
def connectionChallenge : PacketType := 2
/-- ConnectionResponse of packet.go. -/
def connectionResponse : PacketType := 3
/-- ConnectionKeepAlive of packet.go. -/
def connectionKeepAlive : PacketType := 4
/-- ConnectionPayload of packet.go. -/
def connectionPayload : PacketType := 5
/-- ConnectionDisconnect of packet.go. -/
def connectionDisconnect : PacketType := 6
/-- `ConnectionNumPackets`, one past the last packet type. -/
def connectionNumPackets : PacketType := connectionDisconnect + 1

/-- `packetTypeMap[t]`: the type's name, and `""` (Go's zero value) for a type the map
    lacks. -/
def packetTypeMap (t : PacketType) : String :=
  match t.toNat with
  | 0 => "CONNECTION_REQUEST"
  | 1 => "CONNECTION_DENIED"
  | 2 => "CONNECTION_CHALLENGE"
  | 3 => "CONNECTION_RESPONSE"
  | 4 => "CONNECTION_KEEPALIVE"
  | 5 => "CONNECTION_PAYLOAD"
  | 6 => "CONNECTION_DISCONNECT"
  | _ => ""

/-- `PacketType.Peek`: the low nibble of `packetBuffer[0]`. -/
def peek : Bytes → Go PacketType
  | [] => .panic
  | b :: _ => .ok (b &&& 0xF)

/-! ### `sequenceNumberBytesRequired` -/

/-- The loop of `sequenceNumberBytesRequired`, with `left` iterations to go: it stops
    at the first `mask` meeting a set bit of `sequence`, else shifts the mask down a byte;
    it returns the counter `i`. -/
def bytesRequiredLoop (sequence : Nat) : Nat → Nat → Nat → Nat
  | 0, _, i => i
  | left + 1, mask, i =>
    if sequence &&& mask ≠ 0 then i else bytesRequiredLoop sequence left (mask >>> 8) (i + 1)

/-- `sequenceNumberBytesRequired`: `8 - i` once the loop over the masks
    `0xFF00000000000000, 0x00FF000000000000, …` stops. -/
def sequenceNumberBytesRequired (sequence : UInt64) : UInt8 :=
  UInt8.ofNat (8 - bytesRequiredLoop sequence.toNat 7 0xFF00000000000000 0)

/-- Masking with a shifted mask masks the shifted-down value and shifts it back. -/
private theorem and_shiftLeft (x y s : Nat) : x &&& y <<< s = (x >>> s &&& y) <<< s := by
  apply Nat.eq_of_testBit_eq
  intro i
  simp only [Nat.testBit_and, Nat.testBit_shiftLeft, Nat.testBit_shiftRight]
  by_cases h : i ≥ s
  · simp [h, Nat.add_sub_cancel' h]
  · simp [h]

/-- The byte under the mask `0xFF << 8n` of a value below `256 ^ (n + 1)` is zero
    exactly when the value is below `256 ^ n`. -/
theorem and_byteMask_eq_zero {x n : Nat} (hx : x < 256 ^ (n + 1)) :
    x &&& 255 <<< (8 * n) = 0 ↔ x < 256 ^ n := by
  have h256 : (256 : Nat) ^ n = 2 ^ (8 * n) := by rw [Nat.pow_mul]
  rw [and_shiftLeft, show (255 : Nat) = 2 ^ 8 - 1 from rfl, Nat.and_pow_two_sub_one_eq_mod,
    Nat.shiftLeft_eq, Nat.mul_eq_zero, Nat.shiftRight_eq_div_pow, ← h256]
  have hq : x / 256 ^ n < 256 := by
    rw [Nat.div_lt_iff_lt_mul (Nat.pos_pow_of_pos n (by decide))]
    rw [Nat.pow_succ] at hx
    omega
  have hp : 0 < 2 ^ (8 * n) := Nat.pos_pow_of_pos _ (by decide)
  constructor
  · rintro (h | h)
    · have h0 : x / 256 ^ n = 0 := by
        rwa [Nat.mod_eq_of_lt (show x / 256 ^ n < 2 ^ 8 from hq)] at h
      exact (Nat.div_eq_zero_iff (Nat.pos_pow_of_pos n (by decide))).mp h0
    · exact absurd h (Nat.pos_pow_of_pos n (by decide)).ne'
  · intro h
    left
    rw [Nat.div_eq_of_lt h]

/-- The loop started at the mask of byte `left` of a value below `256 ^ (left + 1)`:
    it counts the zero bytes above the highest set byte, so the value needs exactly
    `left + 1 - (r - i)` bytes. -/
theorem bytesRequiredLoop_spec (x : Nat) :
    ∀ left i, x < 256 ^ (left + 1) →
      let r := bytesRequiredLoop x left (255 <<< (8 * left)) i
      i ≤ r ∧ r ≤ i + left ∧ x < 256 ^ (left + 1 - (r - i)) ∧
        (r - i < left → 256 ^ (left - (r - i)) ≤ x) := by
  intro left
  induction left with
  | zero =>
    intro i hx
    rw [Nat.zero_add, Nat.pow_one] at hx
    simp [bytesRequiredLoop, hx]
  | succ left ih =>
    intro i hx
    simp only [bytesRequiredLoop]
    split
    · rename_i hne
      refine ⟨le_refl _, by omega, by simpa using hx, fun _ => ?_⟩
      have := mt (and_byteMask_eq_zero hx).mpr hne
      simpa using this
    · rename_i hz
      have hlt := (and_byteMask_eq_zero hx).mp (not_not.mp hz)
      have hmask : 255 <<< (8 * (left + 1)) >>> 8 = 255 <<< (8 * left) := by
        rw [Nat.mul_succ, Nat.shiftLeft_add, Nat.shiftLeft_shiftRight]
      rw [hmask]
      obtain ⟨h1, h2, h3, h4⟩ := ih (i + 1) hlt
      refine ⟨by omega, by omega, ?_, fun h => ?_⟩
      · rwa [show left + 1 + 1 - (bytesRequiredLoop x left (255 <<< (8 * left)) (i + 1) - i)
            = left + 1 - (bytesRequiredLoop x left (255 <<< (8 * left)) (i + 1) - (i + 1)) by omega]
      · rw [show left + 1 - (bytesRequiredLoop x left (255 <<< (8 * left)) (i + 1) - i)
            = left - (bytesRequiredLoop x left (255 <<< (8 * left)) (i + 1) - (i + 1)) by omega]
        exact h4 (by omega)

/-- **`sequenceNumberBytesRequired` is the least `k ∈ [1, 8]` with `s < 256 ^ k`.** -/
theorem bytesRequired_spec (s : UInt64) :
    let k := (sequenceNumberBytesRequired s).toNat
    1 ≤ k ∧ k ≤ 8 ∧ s.toNat < 256 ^ k ∧ (2 ≤ k → 256 ^ (k - 1) ≤ s.toNat) := by
  obtain ⟨-, h2, h3, h4⟩ := bytesRequiredLoop_spec s.toNat 7 0 (toNat_lt_uint64 s)
  have hk : (sequenceNumberBytesRequired s).toNat =
      8 - bytesRequiredLoop s.toNat 7 (255 <<< (8 * 7)) 0 := by
    rw [sequenceNumberBytesRequired, toNat_ofNat_uint8,
      show (0xFF00000000000000 : Nat) = 255 <<< (8 * 7) by decide, Nat.mod_eq_of_lt (by omega)]
  simp only [hk]
  generalize bytesRequiredLoop s.toNat 7 (255 <<< (8 * 7)) 0 = r at h2 h3 h4
  refine ⟨by omega, by omega, by simpa using h3, fun h => ?_⟩
  rw [show 8 - r - 1 = 7 - (r - 0) by omega]
  exact h4 (by omega)

/-! ### The prefix byte -/

/-- The low nibble of a byte is the byte modulo 16. -/
theorem toNat_and_0xF (b : UInt8) : (b &&& 0xF).toNat = b.toNat % 16 :=
  Nat.and_pow_two_sub_one_eq_mod _ 4

/-- The high nibble of a byte is the byte divided by 16. -/
theorem toNat_shiftRight_4 (b : UInt8) : (b >>> 4).toNat = b.toNat / 16 := by
  show (b.toBitVec >>> (4 % 8 : UInt8).toBitVec).toNat = _
  simp [BitVec.toNat_ushiftRight, Nat.shiftRight_eq_div_pow]
  rfl

/-- `type | k << 4` for a type below 16 and a count up to 8 is `type + 16 k`. -/
theorem toNat_prefixByte {t k : UInt8} (ht : t.toNat < 16) (hk : k.toNat ≤ 8) :
    (t ||| k <<< 4).toNat = t.toNat + 16 * k.toNat := by
  have hsh : (k <<< 4).toNat = k.toNat * 16 % 256 := by
    show (k.toBitVec <<< (4 % 8 : UInt8).toBitVec).toNat = _
    simp [BitVec.toNat_shiftLeft, Nat.shiftLeft_eq]
    rfl
  show (t.toBitVec ||| (k <<< 4).toBitVec).toNat = _
  rw [BitVec.toNat_or, show (k <<< 4).toBitVec.toNat = (k <<< 4).toNat from rfl, hsh,
    show k.toNat * 16 % 256 = 2 ^ 4 * k.toNat by omega, Nat.or_comm,
    show t.toBitVec.toNat = t.toNat from rfl, ← Nat.mul_add_lt_is_or ht]
  omega

/-- The prefix byte's low nibble is the type and its high nibble the count. -/
theorem prefixByte_nibbles {t k : UInt8} (ht : t.toNat < 16) (hk : k.toNat ≤ 8) :
    ((t ||| k <<< 4) &&& 0xF) = t ∧ ((t ||| k <<< 4) >>> 4) = k := by
  constructor
  · apply UInt8.toNat.inj
    rw [toNat_and_0xF, toNat_prefixByte ht hk]
    omega
  · apply UInt8.toNat.inj
    rw [toNat_shiftRight_4, toNat_prefixByte ht hk]
    omega

/-! ### `writePacketPrefix` -/

/-- The loop `for i < sequenceBytes { WriteUint8(uint8(sequenceTemp & 0xFF));
    sequenceTemp >>= 8 }`, each write's error ignored. -/
def writeSequenceLoop : Nat → Bytes → Nat → Nat → Go (Bytes × Nat)
  | 0, mem, buffer, _ => .ok (mem, buffer)
  | n + 1, mem, buffer, temp => do
    let (mem, buffer) ← ignoreErr (writeUint8 mem buffer (UInt8.ofNat (temp &&& 0xFF)))
    writeSequenceLoop n mem buffer (temp >>> 8)

/-- `writePacketPrefix(p, &buffer, sequence)` for a packet of type `t`: the prefix byte
    `t | k << 4`, `k = sequenceNumberBytesRequired(sequence)`, then `k` bytes of the
    sequence, low byte first.  Returns the array, the advanced slice and the prefix byte. -/
def writePacketPrefix (t : PacketType) (mem : Bytes) (buffer : Nat) (sequence : UInt64) :
    Go (Bytes × Nat × UInt8) :=
  let sequenceBytes := sequenceNumberBytesRequired sequence
  if sequenceBytes < 1 ∨ sequenceBytes > 8 then .err "invalid sequence bytes, must be between [1-8]"
  else do
    let prefixByte := t ||| sequenceBytes <<< 4
    let (mem, buffer) ← ignoreErr (writeUint8 mem buffer prefixByte)
    let (mem, buffer) ← writeSequenceLoop sequenceBytes.toNat mem buffer sequence.toNat
    return (mem, buffer, prefixByte)

/-- With room for n bytes, the sequence loop writes the n low bytes of the sequence and
    advances past them. -/
theorem writeSequenceLoop_ok (n : Nat) :
    ∀ (mem : Bytes) (buffer x : Nat), buffer + n ≤ mem.length →
      writeSequenceLoop n mem buffer x = .ok (store mem buffer (leBytes n x), buffer + n) := by
  induction n with
  | zero => intro mem buffer x _; simp [writeSequenceLoop, store]
  | succ n ih =>
    intro mem buffer x h
    have hb : UInt8.ofNat (x &&& 0xFF) = UInt8.ofNat x :=
      UInt8.toNat.inj (by simp [Nat.and_pow_two_sub_one_eq_mod x 8])
    simp only [writeSequenceLoop, writeUint8, writeChunk_ok (show buffer + [_].length ≤ mem.length
      by simp; omega), ignoreErr, Go.ok_bind, hb]
    rw [ih _ _ _ (by simp [length_store (show buffer + [UInt8.ofNat x].length ≤ mem.length by
      simp; omega)]; omega)]
    have hs := store_store mem buffer [UInt8.ofNat x] (leBytes n (x / 256)) (by omega)
    simp only [List.length_singleton, List.singleton_append] at hs
    rw [leBytes_succ, Nat.shiftRight_eq_div_pow, show (2 : Nat) ^ 8 = 256 from rfl,
      List.length_singleton, hs, Nat.add_assoc, Nat.add_comm 1 n]

/-- The sequence byte count of `writePacketPrefix`, as a number. -/
def seqBytes (s : UInt64) : Nat := (sequenceNumberBytesRequired s).toNat

/-- A sequence takes 1 to 8 bytes on the wire. -/
theorem seqBytes_bounds (s : UInt64) : 1 ≤ seqBytes s ∧ seqBytes s ≤ 8 :=
  ⟨(bytesRequired_spec s).1, (bytesRequired_spec s).2.1⟩

/-- The prefix byte `writePacketPrefix` writes for type `t` and sequence `s`. -/
def prefixByteOf (t : PacketType) (s : UInt64) : UInt8 := t ||| sequenceNumberBytesRequired s <<< 4

/-- **`writePacketPrefix` writes `1 + k` bytes**: the prefix byte and the `k` low
    bytes of the sequence, when they fit. -/
theorem writePacketPrefix_ok (t : PacketType) {mem : Bytes} {buffer : Nat} (s : UInt64)
    (h : buffer + 1 + seqBytes s ≤ mem.length) :
    writePacketPrefix t mem buffer s =
      .ok (store mem buffer (prefixByteOf t s :: leBytes (seqBytes s) s.toNat),
        buffer + 1 + seqBytes s, prefixByteOf t s) := by
  obtain ⟨h1, h8, -⟩ := bytesRequired_spec s
  have hc : ¬ (sequenceNumberBytesRequired s < 1 ∨ sequenceNumberBytesRequired s > 8) := by
    rintro (h | h)
    · exact absurd (show (sequenceNumberBytesRequired s).toNat < 1 from h) (by omega)
    · exact absurd (show 8 < (sequenceNumberBytesRequired s).toNat from h) (by omega)
  have hlen : buffer + [prefixByteOf t s].length ≤ mem.length := by simp; omega
  simp only [writePacketPrefix, hc, ite_false]
  rw [show t ||| sequenceNumberBytesRequired s <<< 4 = prefixByteOf t s from rfl, writeUint8,
    writeChunk_ok hlen]
  simp only [ignoreErr, Go.ok_bind, List.length_singleton]
  rw [writeSequenceLoop_ok _ _ _ _ (by rw [length_store hlen]; simp only [seqBytes] at h; omega)]
  have hs := store_store mem buffer [prefixByteOf t s] (leBytes (seqBytes s) s.toNat) (by omega)
  simp only [List.length_singleton, List.singleton_append] at hs
  simp only [Go.pure_eq, Go.ok_bind]
  rw [← hs]
  rfl

/-! ### `readSequence` -/

/-- `readSequence(&packetBuffer, packetLen, prefixByte)`: the count `prefixByte >> 4` must
    lie in `[1, 8]` and `packetLen` must hold it with the prefix byte and a MAC; then the
    loop of `ReadUint8` calls ORs that many bytes in, low byte first. -/
def readSequence (buf : Bytes) (packetLen : Int) (prefixByte : UInt8) : Go (Bytes × UInt64) :=
  let sequenceBytes := prefixByte >>> 4
  if sequenceBytes < 1 ∨ sequenceBytes > 8 then
    .err "ignored encrypted packet. sequence bytes is out of range [1,8]"
  else if packetLen < 1 + (sequenceBytes.toNat : Int) + macBytes then
    .err "ignored encrypted packet. buffer is too small for sequence bytes + encryption mac"
  else (fun r => (r.1, UInt64.ofNat r.2)) <$> readOr sequenceBytes.toNat buf 0

/-- What a successful `readSequence` has checked and read: `k = prefixByte >> 4` lies in
    `[1, 8]`, `packetLen ≥ 1 + k + MAC_BYTES`, and the sequence is the value of the first
    `k` bytes, which are its `k`-byte encoding. -/
theorem readSequence_eq_ok {buf rest : Bytes} {packetLen : Int} {b : UInt8} {s : UInt64}
    (h : readSequence buf packetLen b = .ok (rest, s)) :
    let k := (b >>> 4).toNat
    1 ≤ k ∧ k ≤ 8 ∧ (1 : Int) + k + macBytes ≤ packetLen ∧ k ≤ buf.length ∧ rest = buf.drop k ∧
      buf.take k = leBytes k s.toNat := by
  simp only [readSequence] at h
  split at h
  · cases h
  · rename_i hk
    split at h
    · cases h
    · rename_i hlen
      have hk1 : 1 ≤ (b >>> 4).toNat := by
        by_contra hc; exact hk (.inl (show (b >>> 4).toNat < 1 by omega))
      have hk8 : (b >>> 4).toNat ≤ 8 := by
        by_contra hc; exact hk (.inr (show 8 < (b >>> 4).toNat by omega))
      simp only [readOr] at h
      split at h
      · cases h
      · rename_i hb
        simp only [Go.map_ok, Go.ok.injEq, Prod.mk.injEq] at h
        obtain ⟨rfl, rfl⟩ := h
        have hlt : leValue (buf.take (b >>> 4).toNat) < 2 ^ 64 := by
          have := leValue_lt (buf.take (b >>> 4).toNat)
          have : (256 : Nat) ^ (buf.take (b >>> 4).toNat).length ≤ 256 ^ 8 :=
            Nat.pow_le_pow_right (by decide) (by simp; omega)
          simp only [Nat.reducePow] at *
          omega
        refine ⟨hk1, hk8, by omega, by omega, rfl, ?_⟩
        rw [orInto_zero, show (UInt64.ofNat (leValue (buf.take (b >>> 4).toNat))).toNat
          = leValue (buf.take (b >>> 4).toNat) from Nat.mod_eq_of_lt hlt]
        conv_lhs => rw [← leBytes_leValue (buf.take _)]
        rw [List.length_take, Nat.min_eq_left (by omega)]

/-- `readSequence` reads back the `k`-byte encoding of a sequence below `256 ^ k`. -/
theorem readSequence_ok {b : UInt8} {packetLen : Int} {s : UInt64} (rest : Bytes)
    (hk1 : 1 ≤ (b >>> 4).toNat) (hk8 : (b >>> 4).toNat ≤ 8)
    (hlen : (1 : Int) + (b >>> 4).toNat + macBytes ≤ packetLen)
    (hs : s.toNat < 256 ^ (b >>> 4).toNat) :
    readSequence (leBytes (b >>> 4).toNat s.toNat ++ rest) packetLen b = .ok (rest, s) := by
  have hc : ¬ ((b >>> 4) < 1 ∨ (b >>> 4) > 8) := by
    rintro (h | h)
    · exact absurd (show (b >>> 4).toNat < 1 from h) (by omega)
    · exact absurd (show 8 < (b >>> 4).toNat from h) (by omega)
  simp only [readSequence, hc, ite_false, if_neg (Int.not_lt.mpr hlen), readOr_leBytes _ _ _ hs,
    Go.map_ok, ofNat_toNat_uint64]

/-! ### `packetCryptData` -/

/-- `packetCryptData(prefixByte, protocolId, sequence)`: the associated data
    `VERSION_INFO ‖ protocolId ‖ prefixByte` and the nonce, each written into a fresh
    array. -/
def packetCryptData (prefixByte : UInt8) (protocolId sequence : UInt64) : Go (Bytes × Bytes) := do
  let additionalData := List.replicate (versionInfoBytes + 8 + 1) 0
  let (additionalData, buf) ← ignoreErr (writeBytesN additionalData 0 versionInfo versionInfoBytes)
  let (additionalData, buf) ← ignoreErr (writeUint64 additionalData buf protocolId)
  let (additionalData, _) ← ignoreErr (writeUint8 additionalData buf prefixByte)
  let (nonce, _) ← ignoreErr (writeUint64 (List.replicate sizeUint64 0) 0 sequence)
  return (additionalData, nonce)

/-- The associated data of a sequenced packet. -/
def packetAad (prefixByte : UInt8) (protocolId : UInt64) : Bytes :=
  versionInfo ++ leBytes 8 protocolId.toNat ++ [prefixByte]

/-- The nonce: the sequence's eight little-endian bytes. -/
def nonceOf (sequence : UInt64) : Bytes := leBytes 8 sequence.toNat

/-- The packet's associated data and nonce are always built. -/
theorem packetCryptData_eq (prefixByte : UInt8) (protocolId sequence : UInt64) :
    packetCryptData prefixByte protocolId sequence =
      .ok (packetAad prefixByte protocolId, nonceOf sequence) := by
  simp [packetCryptData, writeBytesN_ok, writeUint64, writeUint8, writeChunk_ok, store,
    ignoreErr, packetAad, nonceOf, versionInfoBytes, sizeUint64, versionInfo]

/-- Distinct sequences give distinct nonces. -/
theorem nonceOf_inj {s s' : UInt64} (h : nonceOf s = nonceOf s') : s = s' :=
  UInt64.toNat.inj (leBytes_inj (toNat_lt_uint64 s) (toNat_lt_uint64 s') h)

/-- The associated data determines the prefix byte and the protocol id. -/
theorem packetAad_inj {b b' : UInt8} {p p' : UInt64} (h : packetAad b p = packetAad b' p') :
    b = b' ∧ p = p' := by
  simp only [packetAad, List.append_assoc, List.append_cancel_left_eq] at h
  have hl := List.append_inj h (by simp)
  exact ⟨by simpa using hl.2,
    UInt64.toNat.inj (leBytes_inj (toNat_lt_uint64 p) (toNat_lt_uint64 p') hl.1)⟩

/-! ### The header round trip -/

/-- `sequenceNumberBytesRequired` is the least `k ≥ 1` with `s < 2 ^ (8 k)`. -/
theorem bytesRequired_least (s : UInt64) {j : Nat} (hj : 1 ≤ j) (hs : s.toNat < 2 ^ (8 * j)) :
    seqBytes s ≤ j := by
  obtain ⟨h1, -, -, h4⟩ := bytesRequired_spec s
  by_contra hk
  have hlt : 256 ^ (seqBytes s - 1) < 256 ^ j := by
    calc 256 ^ (seqBytes s - 1) ≤ s.toNat := h4 (by unfold seqBytes at hk; omega)
      _ < 2 ^ (8 * j) := hs
      _ = 256 ^ j := by rw [Nat.pow_mul]
  have := (Nat.pow_lt_pow_iff_right (by decide)).mp hlt
  omega

/-- **The sequence header round trip.**  For a type below 16 and any sequence `s`, with
    `k = sequenceNumberBytesRequired(s)`: `k` is the least width in `[1, 8]` that holds
    `s`; `writePacketPrefix` stores the prefix byte and the `k` little-endian bytes of `s`
    and advances `1 + k`; the prefix byte's low nibble is the type and its high nibble
    `k`; and `readSequence` of those `k` bytes, for any `packetLen ≥ 1 + k + MAC_BYTES`,
    returns `s` and the bytes after them. -/
theorem packetPrefix_roundTrip (t : PacketType) (ht : t.toNat < 16) (s : UInt64) :
    let k := (sequenceNumberBytesRequired s).toNat
    (1 ≤ k ∧ k ≤ 8 ∧ s.toNat < 2 ^ (8 * k) ∧ ∀ j, 1 ≤ j → s.toNat < 2 ^ (8 * j) → k ≤ j) ∧
    (∀ mem buffer, buffer + 1 + k ≤ mem.length →
      writePacketPrefix t mem buffer s = .ok (store mem buffer
        (prefixByteOf t s :: leBytes k s.toNat), buffer + 1 + k, prefixByteOf t s)) ∧
    (prefixByteOf t s &&& 0xF = t ∧ (prefixByteOf t s >>> 4).toNat = k) ∧
    ∀ (packetLen : Int) (rest : Bytes), 1 + k + macBytes ≤ packetLen →
      readSequence (leBytes k s.toNat ++ rest) packetLen (prefixByteOf t s) = .ok (rest, s) := by
  obtain ⟨h1, h8, hlt, -⟩ := bytesRequired_spec s
  obtain ⟨hlo, hhi⟩ : prefixByteOf t s &&& 0xF = t ∧
      prefixByteOf t s >>> 4 = sequenceNumberBytesRequired s := prefixByte_nibbles ht h8
  have hs : s.toNat < 2 ^ (8 * seqBytes s) := by rw [Nat.pow_mul]; exact hlt
  refine ⟨⟨h1, h8, hs, fun j hj hsj => bytesRequired_least s hj hsj⟩,
    fun mem buffer h => writePacketPrefix_ok t s h, ⟨hlo, congrArg UInt8.toNat hhi⟩,
    fun packetLen rest hlen => ?_⟩
  have hk := readSequence_ok (b := prefixByteOf t s) rest (hhi ▸ h1) (hhi ▸ h8) (hhi ▸ hlen)
    (hhi ▸ hlt)
  rwa [hhi] at hk

/-- A keep-alive with sequence 1000: two sequence bytes, the prefix byte `0x24`, and the
    sequence read back from `E8 03`. -/
theorem keepAlive_header_1000 :
    connectionKeepAlive.toNat < 16 ∧ (sequenceNumberBytesRequired 1000).toNat = 2 ∧
      prefixByteOf connectionKeepAlive 1000 = 0x24 ∧
      readSequence ([0xE8, 0x03] ++ []) 19 0x24 = .ok ([], 1000) := by
  obtain ⟨-, -, -, hr⟩ := packetPrefix_roundTrip connectionKeepAlive (by decide) 1000
  exact ⟨by decide, by decide, by decide, hr 19 [] (by decide)⟩

end Netcode
