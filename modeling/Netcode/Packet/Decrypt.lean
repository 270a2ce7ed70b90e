import Netcode.Aead
import Netcode.Replay
import Netcode.Packet.Prefix

namespace Netcode

/-!
# netcode.io — `validateSequence` and `decryptPacket`

The receive path every sequenced packet's `Read` starts with (`packet.go`).

* `readPacketHeader` — the prefix byte, then `readSequence`.
* `checkSequenced` — the checks of `validateSequence` before the window: a key, a
  length of at least `1 + 1 + MAC_BYTES`, a type below `ConnectionNumPackets`, and a
  non-zero entry of `allowedPackets` for that type.
* `replayCheck` — with a window and a type from `ConnectionKeepAlive` on,
  `AlreadyReceived(sequence)`, which records the sequence as it answers.
* `decryptPacket` — the three, then `packetCryptData`, the size of the encrypted region
  from `packetLen`, and `DecryptAead`.  The window is updated by the replay check,
  before the AEAD has authenticated anything (`decryptPacket_fst_of_header`).
* `decryptPacket_eq_ok` — what an accepted datagram is: its header read, every check
  passed, and `DecryptAead` opening the `packetLen - (1 + k)` bytes after the header
  under `packetAad prefixByte protocolId` and `nonceOf sequence`.
-/

/-- The first steps of `decryptPacket`: `ReadUint8` of the prefix byte (an empty datagram
    gives `"invalid buffer length"`), then `readSequence`.  Returns the rest of the
    datagram, the prefix byte and the sequence. -/
def readPacketHeader (packetBuffer : Bytes) (packetLen : Int) : Go (Bytes × UInt8 × UInt64) := do
  let (rest, prefixByte) ← (readUint8 packetBuffer).mapErr fun _ => "invalid buffer length"
  let (rest, packetSequence) ← readSequence rest packetLen prefixByte
  return (rest, prefixByte, packetSequence)

/-- The checks of `validateSequence` before the replay window; returns the packet type
    `prefixByte & 0xF`.  `allowedPackets` is indexed by that type, so a mask too short
    for it panics. -/
def checkSequenced (packetLen : Int) (prefixByte : UInt8) (readPacketKey : Option Bytes)
    (allowedPackets : Bytes) : Go PacketType :=
  let packetType := prefixByte &&& 0xF
  if readPacketKey = none then .err "empty packet key"
  else if packetLen < (1 : Int) + 1 + macBytes then
    .err "ignored encrypted packet. packet is too small to be valid"
  else if packetType ≥ connectionNumPackets then
    .err ("ignored encrypted packet. packet type " ++ packetTypeMap packetType ++ " is invalid")
  else match allowedPackets[packetType.toNat]? with
    | none => .panic
    | some allowed =>
      if allowed = 0 then
        .err ("ignored encrypted packet. packet type " ++ packetTypeMap packetType ++ " is invalid")
      else .ok packetType

/-- The optional replay protection of `validateSequence`: with a window and a type from
    `ConnectionKeepAlive` on, `AlreadyReceived(sequence)` answers and records; the answer
    `1` rejects. -/
def replayCheck (replayProtection : Option ReplayProtection) (packetType : PacketType)
    (sequence : UInt64) : Option ReplayProtection × Go Unit :=
  match replayProtection with
  | some r =>
    if packetType ≥ connectionKeepAlive then
      (some (r.alreadyReceived sequence).1,
        if (r.alreadyReceived sequence).2 = 1 then
          .err ("ignored connection payload packet. sequence " ++ toString sequence ++
            " already received (replay protection)")
        else .ok ())
    else (replayProtection, .ok ())
  | none => (none, .ok ())

/-- `validateSequence(packetLen, prefixByte, sequence, readPacketKey, allowedPackets,
    replayProtection)`, with the window as the call leaves it. -/
def validateSequence (packetLen : Int) (prefixByte : UInt8) (sequence : UInt64)
    (readPacketKey : Option Bytes) (allowedPackets : Bytes)
    (replayProtection : Option ReplayProtection) : Option ReplayProtection × Go Unit :=
  Go.withState replayProtection (checkSequenced packetLen prefixByte readPacketKey allowedPackets)
    fun packetType => replayCheck replayProtection packetType sequence

/-- `decryptPacket(&packetBuffer, packetLen, protocolId, currentTimestamp, readPacketKey,
    allowedPackets, replayProtection)`, with the window as the call leaves it; returns the
    sequence and the decrypted body.  `encryptedSize` is `packetLen` less the bytes the
    header took; bytes of the datagram past it are not read. -/
def decryptPacket (A : AeadOps) (packetBuffer : Bytes) (packetLen : Int)
    (protocolId currentTimestamp : UInt64) (readPacketKey : Option Bytes)
    (allowedPackets : Bytes) (replayProtection : Option ReplayProtection) :
    Option ReplayProtection × Go (UInt64 × Bytes) :=
  Go.withState replayProtection (readPacketHeader packetBuffer packetLen)
    fun (rest, prefixByte, packetSequence) =>
      let validated := validateSequence packetLen prefixByte packetSequence readPacketKey
        allowedPackets replayProtection
      (validated.1, do
        validated.2
        let (additionalData, nonce) ← packetCryptData prefixByte protocolId packetSequence
        let encryptedSize := packetLen - (packetBuffer.length - rest.length)
        if encryptedSize < macBytes then
          .err "ignored encrypted packet. encrypted payload is too small"
        else do
          let (_, encryptedBuf) ← (readBytes rest encryptedSize.toNat).mapErr
            fun _ => "ignored encrypted packet. encrypted payload is too small"
          let decryptedBuf ← (decryptAead A encryptedBuf additionalData nonce
            (readPacketKey.getD [])).mapErr
            fun e => "ignored encrypted packet. failed to decrypt: " ++ e
          return (packetSequence, decryptedBuf))

/-! ### The header -/

/-- A header that reads is a prefix byte, then the sequence in `k = prefixByte >> 4`
    bytes, with `k ∈ [1, 8]` and `packetLen ≥ 1 + k + MAC_BYTES`. -/
theorem readPacketHeader_eq_ok {d rest : Bytes} {packetLen : Int} {b : UInt8} {s : UInt64}
    (h : readPacketHeader d packetLen = .ok (rest, b, s)) :
    1 ≤ (b >>> 4).toNat ∧ (b >>> 4).toNat ≤ 8 ∧
      (1 : Int) + (b >>> 4).toNat + macBytes ≤ packetLen ∧
      d = b :: (leBytes (b >>> 4).toNat s.toNat ++ rest) := by
  cases d with
  | nil => cases h
  | cons b' d =>
    simp only [readPacketHeader, readUint8, Go.mapErr_ok, Go.ok_bind] at h
    obtain ⟨⟨r, s'⟩, hs, he⟩ := Go.bind_eq_ok.mp h
    simp only [Go.pure_eq, Go.ok.injEq, Prod.mk.injEq] at he
    obtain ⟨rfl, rfl, rfl⟩ := he
    obtain ⟨h1, h8, hL, hk, rfl, htake⟩ := readSequence_eq_ok hs
    exact ⟨h1, h8, hL, by rw [← htake, List.take_append_drop]⟩

/-- The header reader returns the prefix byte and the sequence of a frame whose prefix names
    1 to 8 sequence bytes and whose length leaves room for the MAC. -/
theorem readPacketHeader_ok {b : UInt8} {packetLen : Int} {s : UInt64} (rest : Bytes)
    (hk1 : 1 ≤ (b >>> 4).toNat) (hk8 : (b >>> 4).toNat ≤ 8)
    (hlen : (1 : Int) + (b >>> 4).toNat + macBytes ≤ packetLen)
    (hs : s.toNat < 256 ^ (b >>> 4).toNat) :
    readPacketHeader (b :: (leBytes (b >>> 4).toNat s.toNat ++ rest)) packetLen =
      .ok (rest, b, s) := by
  simp only [readPacketHeader, readUint8, Go.mapErr_ok, Go.ok_bind,
    readSequence_ok rest hk1 hk8 hlen hs, Go.pure_eq]

/-! ### `validateSequence` -/

/-- What `checkSequenced` has checked when it passes. -/
theorem checkSequenced_eq_ok {packetLen : Int} {b : UInt8} {key : Option Bytes}
    {allowed : Bytes} {t : PacketType} (h : checkSequenced packetLen b key allowed = .ok t) :
    t = b &&& 0xF ∧ key ≠ none ∧ (1 : Int) + 1 + macBytes ≤ packetLen ∧
      t < connectionNumPackets ∧ ∃ a, allowed[t.toNat]? = some a ∧ a ≠ 0 := by
  simp only [checkSequenced] at h
  split_ifs at h with hkey hlen htype
  split at h
  · cases h
  · rename_i a ha
    split_ifs at h with ha0
    cases h
    exact ⟨rfl, hkey, by omega, UInt8.not_le.mp htype, a, ha, ha0⟩

/-- With a key, a long enough frame and an allowed known type, the type check returns the
    type. -/
theorem checkSequenced_ok {packetLen : Int} {b : UInt8} {key : Bytes} {allowed : Bytes}
    (hlen : (1 : Int) + 1 + macBytes ≤ packetLen) (ht : b &&& 0xF < connectionNumPackets)
    {a : UInt8} (ha : allowed[(b &&& 0xF).toNat]? = some a) (ha0 : a ≠ 0) :
    checkSequenced packetLen b (some key) allowed = .ok (b &&& 0xF) := by
  unfold checkSequenced
  dsimp only
  rw [if_neg (Option.some_ne_none key), if_neg (by omega), if_neg (UInt8.not_le.mpr ht)]
  simp only [ha, if_neg ha0]

/-- The window after the replay check: advanced by `AlreadyReceived` for a window and a
    type from `ConnectionKeepAlive` on, untouched otherwise. -/
theorem replayCheck_fst (rp : Option ReplayProtection) (t : PacketType) (s : UInt64) :
    (replayCheck rp t s).1 =
      match rp with
      | some r => if connectionKeepAlive ≤ t then some (r.alreadyReceived s).1 else rp
      | none => none := by
  unfold replayCheck
  split <;> [split <;> rfl; rfl]

/-- The replay check passes when the window is off, the type is below
    `ConnectionKeepAlive`, or `AlreadyReceived` answers `0`. -/
theorem replayCheck_snd_eq_ok (rp : Option ReplayProtection) (t : PacketType) (s : UInt64) :
    (replayCheck rp t s).2 = .ok () ↔
      ∀ r, rp = some r → connectionKeepAlive ≤ t → (r.alreadyReceived s).2 ≠ 1 := by
  unfold replayCheck
  split
  · split_ifs <;> simp_all
  · simp

/-- When the type check passes, the sequence check updates the replay window as the replay
    check does. -/
theorem validateSequence_fst_of_ok {packetLen : Int} {b : UInt8} {s : UInt64}
    {key : Option Bytes} {allowed : Bytes} {t : PacketType} (rp : Option ReplayProtection)
    (h : checkSequenced packetLen b key allowed = .ok t) :
    (validateSequence packetLen b s key allowed rp).1 = (replayCheck rp t s).1 := by
  rw [validateSequence, h, Go.withState_ok]

/-- A datagram the checks reject before the replay window leaves the window as it was. -/
theorem validateSequence_fst_of_ne {packetLen : Int} {b : UInt8} {s : UInt64}
    {key : Option Bytes} {allowed : Bytes} (rp : Option ReplayProtection)
    (h : ∀ t, checkSequenced packetLen b key allowed ≠ .ok t) :
    (validateSequence packetLen b s key allowed rp).1 = rp :=
  Go.withState_fst_of_ne _ h

/-- The sequence check passes exactly when the type check and the replay check pass. -/
theorem validateSequence_eq_ok {packetLen : Int} {b : UInt8} {s : UInt64}
    {key : Option Bytes} {allowed : Bytes} {rp rp' : Option ReplayProtection} :
    validateSequence packetLen b s key allowed rp = (rp', .ok ()) ↔
      ∃ t, checkSequenced packetLen b key allowed = .ok t ∧ replayCheck rp t s = (rp', .ok ()) :=
  Go.withState_eq_ok

/-! ### `decryptPacket` -/

section
variable {A : AeadOps} {d : Bytes} {packetLen : Int} {p now : UInt64} {key : Option Bytes}
  {allowed : Bytes} {rp : Option ReplayProtection}

/-- A datagram whose header does not read leaves the window as it was. -/
theorem decryptPacket_fst_of_ne (h : ∀ x, readPacketHeader d packetLen ≠ .ok x) :
    (decryptPacket A d packetLen p now key allowed rp).1 = rp :=
  Go.withState_fst_of_ne _ h

/-- **The window after `decryptPacket` is the one `validateSequence` leaves**, whatever
    happens after it: a datagram that fails `DecryptAead` has already been through
    `AlreadyReceived`. -/
theorem decryptPacket_fst_of_header {rest : Bytes} {b : UInt8} {s : UInt64}
    (h : readPacketHeader d packetLen = .ok (rest, b, s)) :
    (decryptPacket A d packetLen p now key allowed rp).1 =
      (validateSequence packetLen b s key allowed rp).1 := by
  rw [decryptPacket, h, Go.withState_ok]

/-- The encrypted size of a datagram whose header took `1 + k` bytes. -/
private theorem encryptedSize_eq (b : UInt8) (s : UInt64) (rest : Bytes) :
    packetLen - (((b :: (leBytes (b >>> 4).toNat s.toNat ++ rest)).length : Int) - rest.length)
      = packetLen - ((1 : Int) + (b >>> 4).toNat) := by
  simp only [List.length_cons, List.length_append, length_leBytes]
  omega

/-- **What `decryptPacket` accepts**: a header that reads, every check of
    `validateSequence` passed (the window left as `rp'`), an encrypted region of
    `packetLen - (1 + k)` bytes, at least `MAC_BYTES`, present in the datagram, and
    `DecryptAead` opening it under `packetAad b p` and `nonceOf s`. -/
theorem decryptPacket_eq_ok {rp' : Option ReplayProtection} {s : UInt64} {pt : Bytes} :
    decryptPacket A d packetLen p now key allowed rp = (rp', .ok (s, pt)) ↔
      ∃ b rest, readPacketHeader d packetLen = .ok (rest, b, s) ∧
        validateSequence packetLen b s key allowed rp = (rp', .ok ()) ∧
        (macBytes : Int) ≤ packetLen - ((1 : Int) + (b >>> 4).toNat) ∧
        (packetLen - ((1 : Int) + (b >>> 4).toNat)).toNat ≤ rest.length ∧
        A.decrypt (rest.take (packetLen - ((1 : Int) + (b >>> 4).toNat)).toNat) (packetAad b p)
          (nonceOf s) (key.getD []) = some pt := by
  constructor
  · intro h
    obtain ⟨⟨rest, b, s'⟩, hh, h⟩ := Go.withState_eq_ok.mp h
    obtain ⟨-, -, -, rfl⟩ := readPacketHeader_eq_ok hh
    simp only [Prod.mk.injEq] at h
    obtain ⟨hfst, h⟩ := h
    obtain ⟨⟨⟩, hv, h⟩ := Go.bind_eq_ok.mp h
    rw [encryptedSize_eq, packetCryptData_eq, Go.ok_bind] at h
    split_ifs at h with hmac
    obtain ⟨⟨_, ct⟩, hread, h⟩ := Go.bind_eq_ok.mp h
    obtain ⟨pt', hdec, h⟩ := Go.bind_eq_ok.mp h
    simp only [Go.pure_eq, Go.ok.injEq, Prod.mk.injEq] at h
    obtain ⟨rfl, rfl⟩ := h
    rw [Go.mapErr_eq_ok, readBytes] at hread
    split_ifs at hread with hlen
    simp only [Go.ok.injEq, Prod.mk.injEq] at hread
    obtain ⟨-, rfl⟩ := hread
    refine ⟨b, rest, hh, ?_, by omega, by omega, decryptAead_eq_ok.mp (Go.mapErr_eq_ok.mp hdec)⟩
    rw [← hfst, ← hv]
  · rintro ⟨b, rest, hh, hv, hmac, hlen, hdec⟩
    obtain ⟨-, -, -, rfl⟩ := readPacketHeader_eq_ok hh
    rw [decryptPacket, hh, Go.withState_ok]
    simp only [hv, Go.ok_bind]
    rw [encryptedSize_eq, packetCryptData_eq, Go.ok_bind, if_neg (Int.not_lt.mpr hmac), readBytes,
      if_neg (Nat.not_lt.mpr hlen)]
    simp [decryptAead, hdec]

/-- **The window does not depend on the AEAD**: `decryptPacket` leaves the same window
    whether `DecryptAead` opens the datagram or not. -/
theorem decryptPacket_fst_aead (A' : AeadOps) :
    (decryptPacket A' d packetLen p now key allowed rp).1 =
      (decryptPacket A d packetLen p now key allowed rp).1 := by
  unfold decryptPacket
  cases readPacketHeader d packetLen <;> rfl

/-- **The window after `decryptPacket`**: untouched, or advanced by `AlreadyReceived` of the
    sequence of a header that read and passed every check before the window, for a type
    from `ConnectionKeepAlive` on. -/
theorem decryptPacket_fst (r : ReplayProtection) :
    (decryptPacket A d packetLen p now key allowed (some r)).1 = some r ∨
      ∃ rest b s, readPacketHeader d packetLen = .ok (rest, b, s) ∧
        checkSequenced packetLen b key allowed = .ok (b &&& 0xF) ∧
        connectionKeepAlive ≤ b &&& 0xF ∧
        (decryptPacket A d packetLen p now key allowed (some r)).1 =
          some (r.alreadyReceived s).1 := by
  cases hh : readPacketHeader d packetLen with
  | ok x =>
    obtain ⟨rest, b, s⟩ := x
    rw [decryptPacket_fst_of_header hh]
    cases hc : checkSequenced packetLen b key allowed with
    | ok t =>
      obtain ⟨rfl, -⟩ := checkSequenced_eq_ok hc
      rw [validateSequence_fst_of_ok _ hc, replayCheck_fst]
      by_cases ht : connectionKeepAlive ≤ b &&& 0xF
      · exact .inr ⟨rest, b, s, rfl, hc, ht, if_pos ht⟩
      · exact .inl (if_neg ht)
    | err e => exact .inl (validateSequence_fst_of_ne _ (by simp [hc]))
    | panic => exact .inl (validateSequence_fst_of_ne _ (by simp [hc]))
  | err e => exact .inl (decryptPacket_fst_of_ne (by simp [hh]))
  | panic => exact .inl (decryptPacket_fst_of_ne (by simp [hh]))

/-- An accepted datagram of a type from `ConnectionKeepAlive` on, read with a window, has
    passed `AlreadyReceived`, and the window is the one it left. -/
theorem decryptPacket_replay {r : ReplayProtection} {rp' : Option ReplayProtection} {s : UInt64}
    {pt : Bytes} (h : decryptPacket A d packetLen p now key allowed (some r) = (rp', .ok (s, pt))) :
    ∃ b rest, readPacketHeader d packetLen = .ok (rest, b, s) ∧
      (connectionKeepAlive ≤ b &&& 0xF →
        (r.alreadyReceived s).2 ≠ 1 ∧ rp' = some (r.alreadyReceived s).1) := by
  obtain ⟨b, rest, hh, hv, -⟩ := decryptPacket_eq_ok.mp h
  obtain ⟨t, hc, hr⟩ := validateSequence_eq_ok.mp hv
  obtain ⟨rfl, -⟩ := checkSequenced_eq_ok hc
  refine ⟨b, rest, hh, fun ht => ⟨(replayCheck_snd_eq_ok _ _ _).mp (congrArg Prod.snd hr) r rfl ht, ?_⟩⟩
  have h1 := congrArg Prod.fst hr
  simp only [replayCheck_fst, if_pos ht] at h1
  exact h1.symm

/-- An accepted datagram's `Peek` type is allowed by the caller. -/
theorem decryptPacket_peek {rp' : Option ReplayProtection} {s : UInt64} {pt : Bytes}
    (h : decryptPacket A d packetLen p now key allowed rp = (rp', .ok (s, pt))) :
    ∃ t, peek d = .ok t ∧ ∃ a, allowed[t.toNat]? = some a ∧ a ≠ 0 := by
  obtain ⟨b, rest, hh, hv, -⟩ := decryptPacket_eq_ok.mp h
  obtain ⟨t, hc, -⟩ := validateSequence_eq_ok.mp hv
  obtain ⟨rfl, -, -, -, ha⟩ := checkSequenced_eq_ok hc
  obtain ⟨-, -, -, rfl⟩ := readPacketHeader_eq_ok hh
  exact ⟨_, rfl, ha⟩

/-- **The length of an accepted datagram**, under the AEAD contract: the prefix byte, the
    `k` sequence bytes, the body and its tag. -/
theorem decryptPacket_length {A : Aead} {rp' : Option ReplayProtection} {s : UInt64} {pt : Bytes}
    (h : decryptPacket A.toAeadOps d packetLen p now key allowed rp = (rp', .ok (s, pt))) :
    ∃ b rest, readPacketHeader d packetLen = .ok (rest, b, s) ∧
      packetLen = 1 + (b >>> 4).toNat + macBytes + pt.length := by
  obtain ⟨b, rest, hh, -, hmac, hlen, hdec⟩ := decryptPacket_eq_ok.mp h
  have hl := A.length_decrypt _ _ _ _ _ hdec
  rw [List.length_take, Nat.min_eq_left hlen] at hl
  exact ⟨b, rest, hh, by omega⟩

end

end Netcode
