import Netcode.Packet.Read

namespace Netcode

/-!
# netcode.io — the seven packets' `Write`

Each `Write` takes a slice over an array (here the array `mem`, the slice at offset
`0`), writes the prefix and the body, encrypts, and returns `(int, error)`; the model
returns the array and the `int`.

* `lenFrom` — `len(buffer)` of the slice at an offset; the writers compute their offsets
  as differences of such lengths.
* `sliceOf` — `buffer[low:high]`, which panics outside `0 ≤ low ≤ high ≤ cap(buffer)`.
* `encryptPacket` — slices `buffer[encryptedStart:encryptedFinish]` *of the slice it is
  given*, encrypts it, writes the ciphertext at the start of that slice, and returns the
  ciphertext's length.
* `writeEncrypted` — the shape `ResponsePacket`, `KeepAlivePacket` and `PayloadPacket`
  share: `encryptedStart = len(start) - len(buffer)` after the prefix, then the body, then
  `encryptedFinish = len(buffer) - encryptedStart`, and `encryptPacket` on the advanced
  slice.  `writeEncrypted_ok` computes what it returns: `L + MAC_BYTES - 3h - n` on an
  `L`-byte array, for a header of `h` bytes and a body of `n`, where the frame is
  `h + n + MAC_BYTES` bytes long.
* `DeniedPacket.write` adds the header length to `encryptPacket`'s result;
  `DisconnectPacket.write` does not.  `ChallengePacket.write` encrypts a copy
  (`EncryptAead(&buffer[a:b], …)` takes the address of a slice expression, which does
  not compile; the model passes a fresh slice) and copies the plaintext bytes back.
* `RequestPacket.write_ok` — a request with a full token is written as `requestBytes`.
* `write_length_maxPacket` — on a `MAX_PACKET_BYTES` buffer, only `DeniedPacket.Write`
  returns the length of the frame it wrote.
-/

/-- `len(buffer)` of the slice at offset `buffer` of the array `mem`, as the `int` the
    writers compute with. -/
def lenFrom (mem : Bytes) (buffer : Nat) : Int := (mem.length - buffer : Nat)

/-- `buffer[low:high]` of the slice at offset `buffer`: Go panics unless
    `0 ≤ low ≤ high ≤ cap(buffer)`, the capacity running to the end of the array. -/
def sliceOf (mem : Bytes) (buffer : Nat) (low high : Int) : Go Bytes :=
  if 0 ≤ low ∧ low ≤ high ∧ high ≤ lenFrom mem buffer then
    .ok ((mem.drop (buffer + low.toNat)).take (high - low).toNat)
  else .panic

/-- `encryptPacket(buffer, encryptedStart, encryptedFinish, prefixByte, protocolId,
    sequence, writePacketKey)`: the ciphertext of `buffer[encryptedStart:encryptedFinish]`,
    written at the start of `buffer` (its `io.EOF` ignored), and its length. -/
def encryptPacket (A : AeadOps) (mem : Bytes) (buffer : Nat) (encryptedStart encryptedFinish : Int)
    (prefixByte : UInt8) (protocolId sequence : UInt64) (writePacketKey : Bytes) :
    Go (Bytes × Int) := do
  let encryptedBuffer ← sliceOf mem buffer encryptedStart encryptedFinish
  let (additionalData, nonce) ← packetCryptData prefixByte protocolId sequence
  let encryptedBuffer := encryptAead A encryptedBuffer additionalData nonce writePacketKey
  let (mem, _) ← ignoreErr (writeBytes mem buffer encryptedBuffer)
  return (mem, encryptedBuffer.length)

/-- `RequestPacket.Write`: the fields in order, each write's error ignored; the length
    written must be `1 + 13 + 8 + 8 + 8 + CONNECT_TOKEN_PRIVATE_BYTES`. -/
def RequestPacket.write (p : RequestPacket) (mem : Bytes) : Go (Bytes × Int) := do
  let (mem, buffer) ← ignoreErr (writeUint8 mem 0 connectionRequest)
  let (mem, buffer) ← ignoreErr (writeBytes mem buffer p.versionInfo)
  let (mem, buffer) ← ignoreErr (writeUint64 mem buffer p.protocolId)
  let (mem, buffer) ← ignoreErr (writeUint64 mem buffer p.connectTokenExpireTimestamp)
  let (mem, buffer) ← ignoreErr (writeUint64 mem buffer p.connectTokenSequence)
  let (mem, buffer) ← ignoreErr (writeBytes mem buffer p.connectTokenData)
  if lenFrom mem 0 - lenFrom mem buffer ≠ 1 + 13 + 8 + 8 + 8 + connectTokenPrivateBytes then
    .err "invalid buffer size written"
  else return (mem, lenFrom mem 0 - lenFrom mem buffer)

/-- `DeniedPacket.Write`: an empty body at `pos`, then `log.Printf` of
    `start[:encryptLength]`; returns `encryptLength + pos`. -/
def DeniedPacket.write (A : AeadOps) (_p : DeniedPacket) (mem : Bytes) (protocolId sequence : UInt64)
    (writePacketKey : Bytes) : Go (Bytes × Int) := do
  let (mem, buffer, prefixByte) ← writePacketPrefix connectionDenied mem 0 sequence
  let pos := lenFrom mem 0 - lenFrom mem buffer
  let (mem, encryptLength) ←
    encryptPacket A mem buffer pos pos prefixByte protocolId sequence writePacketKey
  let _ ← sliceOf mem 0 0 encryptLength
  return (mem, encryptLength + pos)

/-- `ChallengePacket.Write`.  `encryptedBuf` is sliced from the advanced slice; its
    ciphertext goes to a copy and is dropped, and `encryptedBuf` itself is written at
    `start[encryptedStart:]`.  Returns `len(buffer) + encryptedStart` for the slice that
    write returns. -/
def ChallengePacket.write (A : AeadOps) (p : ChallengePacket) (mem : Bytes)
    (protocolId sequence : UInt64) (writePacketKey : Bytes) : Go (Bytes × Int) := do
  let (mem, buffer, prefixByte) ← writePacketPrefix connectionChallenge mem 0 sequence
  let encryptedStart := lenFrom mem 0 - lenFrom mem buffer
  let (mem, buffer) ← ignoreErr (writeUint64 mem buffer p.challengeTokenSequence)
  let (mem, buffer) ←
    ignoreErr (writeBytesN mem buffer p.challengeTokenData challengeTokenBytes)
  let encryptedFinish := lenFrom mem 0 - lenFrom mem buffer
  let encryptedBuf ← sliceOf mem buffer encryptedStart encryptedFinish
  let (additionalData, nonce) ← packetCryptData prefixByte protocolId sequence
  let _ := encryptAead A encryptedBuf additionalData nonce writePacketKey
  let _ ← sliceOf mem 0 encryptedStart (lenFrom mem 0)
  let (mem, buffer) ← ignoreErr (writeBytes mem encryptedStart.toNat encryptedBuf)
  return (mem, lenFrom mem buffer + encryptedStart)

/-- The shape of `ResponsePacket.Write`, `KeepAlivePacket.Write` and
    `PayloadPacket.Write`: the prefix, `encryptedStart = len(start) - len(buffer)`, the
    `body`, `encryptedFinish = len(buffer) - encryptedStart`, and `encryptPacket` on the
    advanced slice, whose result is returned. -/
def writeEncrypted (A : AeadOps) (t : PacketType) (body : Bytes → Nat → Go (Bytes × Nat))
    (mem : Bytes) (protocolId sequence : UInt64) (writePacketKey : Bytes) : Go (Bytes × Int) := do
  let (mem, buffer, prefixByte) ← writePacketPrefix t mem 0 sequence
  let encryptedStart := lenFrom mem 0 - lenFrom mem buffer
  let (mem, buffer) ← body mem buffer
  let encryptedFinish := lenFrom mem buffer - encryptedStart
  encryptPacket A mem buffer encryptedStart encryptedFinish prefixByte protocolId sequence
    writePacketKey

/-- `ResponsePacket.Write`. -/
def ResponsePacket.write (A : AeadOps) (p : ResponsePacket) :
    Bytes → UInt64 → UInt64 → Bytes → Go (Bytes × Int) :=
  writeEncrypted A connectionResponse fun mem buffer => do
    let (mem, buffer) ← ignoreErr (writeUint64 mem buffer p.challengeTokenSequence)
    ignoreErr (writeBytesN mem buffer p.challengeTokenData challengeTokenBytes)

/-- `KeepAlivePacket.Write`. -/
def KeepAlivePacket.write (A : AeadOps) (p : KeepAlivePacket) :
    Bytes → UInt64 → UInt64 → Bytes → Go (Bytes × Int) :=
  writeEncrypted A connectionKeepAlive fun mem buffer => do
    let (mem, buffer) ← ignoreErr (writeUint32 mem buffer p.clientIndex)
    ignoreErr (writeUint32 mem buffer p.maxClients)

/-- `PayloadPacket.Write`: `WriteBytesN(buffer, p.PayloadData, int(p.PayloadBytes))`. -/
def PayloadPacket.write (A : AeadOps) (p : PayloadPacket) :
    Bytes → UInt64 → UInt64 → Bytes → Go (Bytes × Int) :=
  writeEncrypted A connectionPayload fun mem buffer =>
    ignoreErr (writeBytesN mem buffer p.payloadData p.payloadBytes.toNat)

/-- `DisconnectPacket.Write`: an empty body at `pos`; returns `encryptPacket`'s result. -/
def DisconnectPacket.write (A : AeadOps) (_p : DisconnectPacket) (mem : Bytes)
    (protocolId sequence : UInt64) (writePacketKey : Bytes) : Go (Bytes × Int) := do
  let (mem, buffer, prefixByte) ← writePacketPrefix connectionDisconnect mem 0 sequence
  let pos := lenFrom mem 0 - lenFrom mem buffer
  encryptPacket A mem buffer pos pos prefixByte protocolId sequence writePacketKey

/-- `Packet.Write`: the implementation's `Write`. -/
def Packet.write (A : AeadOps) : Packet → Bytes → UInt64 → UInt64 → Bytes → Go (Bytes × Int)
  | .request p, mem, _, _, _ => p.write mem
  | .denied p, mem, protocolId, sequence, key => p.write A mem protocolId sequence key
  | .challenge p, mem, protocolId, sequence, key => p.write A mem protocolId sequence key
  | .response p, mem, protocolId, sequence, key => p.write A mem protocolId sequence key
  | .keepAlive p, mem, protocolId, sequence, key => p.write A mem protocolId sequence key
  | .payload p, mem, protocolId, sequence, key => p.write A mem protocolId sequence key
  | .disconnect p, mem, protocolId, sequence, key => p.write A mem protocolId sequence key

/-! ### What the writers return -/

/-- The length of a slice inside the array is the array's length less its offset. -/
theorem lenFrom_of_le {mem : Bytes} {buffer : Nat} (h : buffer ≤ mem.length) :
    lenFrom mem buffer = (mem.length : Int) - buffer := by
  unfold lenFrom
  omega

/-- A slice expression in bounds returns the bytes between its bounds. -/
theorem sliceOf_ok {mem : Bytes} {buffer : Nat} {low high : Int} (h0 : 0 ≤ low) (h1 : low ≤ high)
    (h2 : high ≤ lenFrom mem buffer) :
    sliceOf mem buffer low high = .ok ((mem.drop (buffer + low.toNat)).take (high - low).toNat) :=
  if_pos ⟨h0, h1, h2⟩

/-- **`encryptPacket` returns the length of the ciphertext** of the slice it was given,
    `encryptedFinish - encryptedStart + MAC_BYTES`, when the slice is in bounds; the array
    keeps its length. -/
theorem encryptPacket_ok (A : Aead) {mem : Bytes} {buffer : Nat} {lo hi : Int}
    (hb : buffer ≤ mem.length) (h0 : 0 ≤ lo) (h1 : lo ≤ hi) (h2 : hi ≤ lenFrom mem buffer)
    (prefixByte : UInt8) (protocolId sequence : UInt64) (writePacketKey : Bytes) :
    ∃ mem', encryptPacket A.toAeadOps mem buffer lo hi prefixByte protocolId sequence
      writePacketKey = .ok (mem', hi - lo + macBytes) ∧ mem'.length = mem.length := by
  rw [lenFrom_of_le hb] at h2
  unfold encryptPacket
  rw [sliceOf_ok h0 h1 (by rwa [lenFrom_of_le hb]), Go.ok_bind, packetCryptData_eq, Go.ok_bind]
  obtain ⟨r, hw, hl⟩ := ignoreErr_writeChunk hb
    (encryptAead A.toAeadOps ((mem.drop (buffer + lo.toNat)).take (hi - lo).toNat)
      (packetAad prefixByte protocolId) (nonceOf sequence) writePacketKey)
  refine ⟨r.1, ?_, hl⟩
  simp only [writeBytes, hw, Go.ok_bind, Go.pure_eq, Go.ok.injEq, Prod.mk.injEq, true_and]
  simp only [encryptAead, A.length_encrypt, List.length_take, List.length_drop]
  omega

/-- `encryptPacket` panics when the slice it is asked for is out of bounds. -/
theorem encryptPacket_panic {A : AeadOps} {mem : Bytes} {buffer : Nat} {lo hi : Int}
    (h : ¬ (0 ≤ lo ∧ lo ≤ hi ∧ hi ≤ lenFrom mem buffer)) (prefixByte : UInt8)
    (protocolId sequence : UInt64) (writePacketKey : Bytes) :
    encryptPacket A mem buffer lo hi prefixByte protocolId sequence writePacketKey = .panic := by
  rw [encryptPacket, sliceOf, if_neg h]
  rfl

/-- The bytes `RequestPacket.Write` lays out: the type, the version, the protocol id, the
    token's expire timestamp and sequence, and the encrypted token. -/
def requestBytes (p : RequestPacket) : Bytes :=
  connectionRequest :: (p.versionInfo ++ (leBytes sizeUint64 p.protocolId.toNat ++
    (leBytes sizeUint64 p.connectTokenExpireTimestamp.toNat ++
      (leBytes sizeUint64 p.connectTokenSequence.toNat ++ p.connectTokenData))))

/-- A request with `VERSION_INFO_BYTES` of version and `CONNECT_TOKEN_PRIVATE_BYTES` of
    token is laid out in `1 + 13 + 8 + 8 + 8 + 1024` bytes. -/
theorem length_requestBytes {p : RequestPacket} (hv : p.versionInfo.length = versionInfoBytes)
    (hd : p.connectTokenData.length = connectTokenPrivateBytes) :
    (requestBytes p).length = 1 + versionInfoBytes + 8 + 8 + 8 + connectTokenPrivateBytes := by
  simp only [requestBytes, List.length_cons, List.length_append, length_leBytes, hv, hd, sizeUint64]
  omega

/-- **What `RequestPacket.Write` writes**: a request with `VERSION_INFO_BYTES` of version
    and `CONNECT_TOKEN_PRIVATE_BYTES` of token, into a buffer with room for it, is stored as
    `requestBytes` from the buffer's start, and `Write` returns its length. -/
theorem RequestPacket.write_ok (p : RequestPacket) {mem : Bytes}
    (hv : p.versionInfo.length = versionInfoBytes)
    (hd : p.connectTokenData.length = connectTokenPrivateBytes)
    (hroom : 1 + versionInfoBytes + 8 + 8 + 8 + connectTokenPrivateBytes ≤ mem.length) :
    p.write mem = .ok (store mem 0 (requestBytes p),
      1 + versionInfoBytes + 8 + 8 + 8 + connectTokenPrivateBytes) := by
  have hl := length_requestBytes hv hd
  unfold RequestPacket.write
  rw [(writes_writeUint8 connectionRequest).first ?_, Go.ok_bind]; dsimp only
  rw [(writes_writeBytes p.versionInfo).after ?_, Go.ok_bind]; dsimp only
  rw [(writes_writeUint64 p.protocolId).after ?_, Go.ok_bind]; dsimp only
  rw [(writes_writeUint64 p.connectTokenExpireTimestamp).after ?_, Go.ok_bind]; dsimp only
  rw [(writes_writeUint64 p.connectTokenSequence).after ?_, Go.ok_bind]; dsimp only
  rw [(writes_writeBytes p.connectTokenData).after ?_, Go.ok_bind]; dsimp only
  · -- the six writes stored `requestBytes`; the length check passes
    simp only [List.append_assoc, List.cons_append, List.nil_append]
    rw [show connectionRequest :: (p.versionInfo ++ (leBytes sizeUint64 p.protocolId.toNat ++
      (leBytes sizeUint64 p.connectTokenExpireTimestamp.toNat ++
        (leBytes sizeUint64 p.connectTokenSequence.toNat ++ p.connectTokenData)))) = requestBytes p
      from rfl, hl]
    have hM : (store mem 0 (requestBytes p)).length = mem.length := length_store (by omega)
    rw [lenFrom_of_le (by omega), lenFrom_of_le (by omega), hM, if_neg (by
      simp only [versionInfoBytes]; omega)]
    exact congrArg Go.ok (Prod.ext rfl (by push_cast; omega))
  -- each write had room for its bytes
  all_goals simp only [List.length_append, List.length_singleton, hv, hd, length_leBytes, sizeUint64]
  all_goals omega

/-- The offsets `writeEncrypted` hands to `encryptPacket` after a header of `h` bytes and
    a body of `n`: the slice `[h : L - 2h - n]` of the slice after the body, whose
    ciphertext has `L - 3h - n + MAC_BYTES` bytes. -/
private theorem encryptPacket_after (A : Aead) {M1 M2 : Bytes} {h n : Nat}
    (hM : M2.length = M1.length) (hroom : 3 * h + n ≤ M1.length) (prefixByte : UInt8)
    (protocolId sequence : UInt64) (writePacketKey : Bytes) :
    ∃ mem', encryptPacket A.toAeadOps M2 (h + n) (lenFrom M1 0 - lenFrom M1 h)
      (lenFrom M2 (h + n) - (lenFrom M1 0 - lenFrom M1 h)) prefixByte protocolId sequence
      writePacketKey = .ok (mem', (M1.length : Int) + macBytes - 3 * h - n) := by
  obtain ⟨mem', he, -⟩ := @encryptPacket_ok A M2 (h + n) (lenFrom M1 0 - lenFrom M1 h)
    (lenFrom M2 (h + n) - (lenFrom M1 0 - lenFrom M1 h)) (by omega) (by simp only [lenFrom]; omega) (by simp only [lenFrom]; omega)
    (by simp only [lenFrom]; omega) prefixByte protocolId sequence writePacketKey
  exact ⟨mem', he.trans (by simp only [lenFrom]; congr 2; omega)⟩

/-- **What `writeEncrypted` returns**: on an array of `L` bytes, for a header of
    `h = 1 + k` bytes and a body that writes `n` bytes, `L + MAC_BYTES - 3h - n`, when
    `3h + n ≤ L`: `encryptPacket` slices `[h : L - 2h - n]` of the slice that starts after
    the body. -/
theorem writeEncrypted_ok (A : Aead) (t : PacketType) {body : Bytes → Nat → Go (Bytes × Nat)}
    {xs : Bytes} (hw : Writes body xs) {mem : Bytes} (protocolId sequence : UInt64)
    (writePacketKey : Bytes) (hroom : 3 * (1 + seqBytes sequence) + xs.length ≤ mem.length) :
    ∃ mem', writeEncrypted A.toAeadOps t body mem protocolId sequence writePacketKey =
      .ok (mem', (mem.length : Int) + macBytes - 3 * (1 + seqBytes sequence) - xs.length) := by
  have hp := writePacketPrefix_ok t sequence (show 0 + 1 + seqBytes sequence ≤ mem.length by omega)
  set pre := prefixByteOf t sequence :: leBytes (seqBytes sequence) sequence.toNat
  have hl1 : (store mem 0 pre).length = mem.length := length_store (by simp [pre]; omega)
  rw [Nat.zero_add] at hp
  unfold writeEncrypted
  rw [hp, Go.ok_bind]
  dsimp only
  rw [hw.first (by omega), Go.ok_bind]
  dsimp only
  rw [← hl1]
  exact encryptPacket_after A (length_store (by omega)) (by omega) _ _ _ _

/-- The length of a frame, `1 + k + n + MAC_BYTES`, for a body of `n` bytes. -/
def frameLength (sequence : UInt64) (n : Nat) : Int := 1 + seqBytes sequence + n + macBytes

section
variable (A : Aead) {mem : Bytes} (protocolId sequence : UInt64) (writePacketKey : Bytes)

/-- KeepAlivePacket.Write with room for three headers and its body returns the buffer's
    length plus the MAC less that room. -/
theorem KeepAlivePacket.write_ok (p : KeepAlivePacket)
    (hroom : 3 * (1 + seqBytes sequence) + 8 ≤ mem.length) :
    Prod.snd <$> p.write A.toAeadOps mem protocolId sequence writePacketKey =
      .ok ((mem.length : Int) + macBytes - 3 * (1 + seqBytes sequence) - 8) := by
  obtain ⟨mem', h⟩ := writeEncrypted_ok A connectionKeepAlive
    ((writes_writeUint32 p.clientIndex).bind (writes_writeUint32 p.maxClients)) protocolId sequence
    writePacketKey (by simpa using hroom)
  rw [KeepAlivePacket.write, h]
  simp [sizeUint32]

/-- ResponsePacket.Write with a full challenge token and room for three headers and its body
    returns the buffer's length plus the MAC less that room. -/
theorem ResponsePacket.write_ok (p : ResponsePacket)
    (hdata : challengeTokenBytes ≤ p.challengeTokenData.length)
    (hroom : 3 * (1 + seqBytes sequence) + (8 + challengeTokenBytes) ≤ mem.length) :
    Prod.snd <$> p.write A.toAeadOps mem protocolId sequence writePacketKey =
      .ok ((mem.length : Int) + macBytes - 3 * (1 + seqBytes sequence) - (8 + challengeTokenBytes)) := by
  obtain ⟨mem', h⟩ := writeEncrypted_ok A connectionResponse
    ((writes_writeUint64 p.challengeTokenSequence).bind (writes_writeBytesN hdata)) protocolId
    sequence writePacketKey (by simpa [sizeUint64, Nat.min_eq_left hdata] using hroom)
  rw [ResponsePacket.write, h]
  simp [sizeUint64, Nat.min_eq_left hdata]

/-- PayloadPacket.Write with its data and room for three headers and the payload returns the
    buffer's length plus the MAC less that room. -/
theorem PayloadPacket.write_ok (p : PayloadPacket) (hdata : p.payloadBytes.toNat ≤ p.payloadData.length)
    (hroom : 3 * (1 + seqBytes sequence) + p.payloadBytes.toNat ≤ mem.length) :
    Prod.snd <$> p.write A.toAeadOps mem protocolId sequence writePacketKey =
      .ok ((mem.length : Int) + macBytes - 3 * (1 + seqBytes sequence) - p.payloadBytes.toNat) := by
  obtain ⟨mem', h⟩ := writeEncrypted_ok A connectionPayload (writes_writeBytesN hdata) protocolId
    sequence writePacketKey (by simpa [Nat.min_eq_left hdata] using hroom)
  rw [PayloadPacket.write, h]
  simp [Nat.min_eq_left hdata]

/-- **What `PayloadPacket.Write` does, for every payload**: on an array with room for
    the header, it returns `L + MAC_BYTES - 3h - n` for a header of `h = 1 + k` bytes and
    `n = PayloadBytes`, when the payload holds its `n` bytes and `3h + n ≤ L`, and panics
    otherwise.  It never returns an error: neither `MAX_PAYLOAD_BYTES` nor the frame's
    length is checked, and the `io.EOF` of a `WriteBytesN` that does not fit is dropped. -/
theorem PayloadPacket.write_eq (p : PayloadPacket) (hpre : 1 + seqBytes sequence ≤ mem.length) :
    Prod.snd <$> p.write A.toAeadOps mem protocolId sequence writePacketKey =
      if p.payloadBytes.toNat ≤ p.payloadData.length ∧
          3 * (1 + seqBytes sequence) + p.payloadBytes.toNat ≤ mem.length
      then .ok ((mem.length : Int) + macBytes - 3 * (1 + seqBytes sequence) - p.payloadBytes.toNat)
      else .panic := by
  split_ifs with hc
  · exact PayloadPacket.write_ok A protocolId sequence writePacketKey p hc.1 hc.2
  have hp := writePacketPrefix_ok connectionPayload sequence
    (show 0 + 1 + seqBytes sequence ≤ mem.length by omega)
  rw [Nat.zero_add] at hp
  set h := 1 + seqBytes sequence
  set n := p.payloadBytes.toNat
  set M1 := store mem 0 (prefixByteOf connectionPayload sequence :: leBytes (seqBytes sequence)
    sequence.toNat)
  have hl1 : M1.length = mem.length := length_store (by simp only [List.length_cons, length_leBytes]; omega)
  have hs : lenFrom M1 0 - lenFrom M1 h = (h : Int) := by simp only [lenFrom, hl1]; omega
  suffices hw : p.write A.toAeadOps mem protocolId sequence writePacketKey = .panic by rw [hw]; rfl
  rw [PayloadPacket.write, writeEncrypted, hp, Go.ok_bind]
  dsimp only
  rw [hs]
  by_cases hfit : h + n ≤ mem.length
  · by_cases hd : n ≤ p.payloadData.length
    · -- the body is written, and the slice after it is too short for `[h : L - 2h - n]`
      have h3 : ¬ 3 * h + n ≤ mem.length := fun h3 => hc ⟨hd, h3⟩
      have hx : h + (p.payloadData.take n).length ≤ M1.length := by
        rw [List.length_take, Nat.min_eq_left hd, hl1]; exact hfit
      rw [(writes_writeBytesN hd).first hx, Go.ok_bind]
      apply encryptPacket_panic
      simp only [lenFrom, length_store hx, List.length_take, Nat.min_eq_left hd, hl1]
      omega
    · -- `WriteBytesN` indexes past the end of the payload
      rw [writeBytesN_panic (by rw [hl1]; exact hfit) (by omega)]
      rfl
  · -- `WriteBytesN` returns `nil`, and `encryptPacket` is asked for `[h : -h]`
    rw [writeBytesN, if_pos (by rw [hl1]; omega)]
    simp only [ignoreErr, Go.ok_bind]
    apply encryptPacket_panic
    simp only [lenFrom, Nat.sub_self]
    omega

/-- **A payload frame that fits can still make `PayloadPacket.Write` panic**: under an
    8-byte sequence, a payload of 1194 or 1195 bytes makes a frame of at most
    `MAX_PACKET_BYTES`, and `Write` into a `MAX_PACKET_BYTES` buffer panics, since
    `3 (1 + 8) + n > MAX_PACKET_BYTES`. -/
theorem PayloadPacket.write_panics_of_fits (p : PayloadPacket) (hk : seqBytes sequence = 8)
    (hn : p.payloadBytes.toNat = 1194 ∨ p.payloadBytes.toNat = 1195)
    (hmem : mem.length = maxPacketBytes) :
    frameLength sequence p.payloadBytes.toNat ≤ maxPacketBytes ∧
      p.write A.toAeadOps mem protocolId sequence writePacketKey = .panic := by
  have he := PayloadPacket.write_eq A protocolId sequence writePacketKey p
    (by rw [hmem, hk]; decide)
  rw [if_neg (fun hc => by rw [hmem, hk] at hc; simp only [maxPacketBytes] at hc; omega)] at he
  exact ⟨by simp only [frameLength, hk, maxPacketBytes, macBytes]; omega,
    Decidable.byContradiction fun hw => Go.map_ne_panic hw he⟩

/-- A 1194-byte payload at sequence 2 ^ 56 in a 1220-byte buffer: the frame fits, and Write
    panics. -/
theorem payload1194_write_panics :
    seqBytes 72057594037927936 = 8 ∧ frameLength 72057594037927936 1194 ≤ maxPacketBytes ∧
      ({ payloadBytes := 1194, payloadData := List.replicate 1194 0 } : PayloadPacket).write
        Aead.zeroTag.toAeadOps (List.replicate maxPacketBytes 0) 0 72057594037927936
        (List.replicate keyBytes 0) = .panic := by
  have hk : seqBytes 72057594037927936 = 8 := by decide
  exact ⟨hk, PayloadPacket.write_panics_of_fits Aead.zeroTag 0 72057594037927936
    (List.replicate keyBytes 0) { payloadBytes := 1194, payloadData := List.replicate 1194 0 } hk
    (Or.inl rfl) (List.length_replicate _ _)⟩

/-- DisconnectPacket.Write with room for two headers returns the MAC's length. -/
theorem DisconnectPacket.write_ok (p : DisconnectPacket)
    (hroom : 2 * (1 + seqBytes sequence) ≤ mem.length) :
    Prod.snd <$> p.write A.toAeadOps mem protocolId sequence writePacketKey = .ok macBytes := by
  have hp := writePacketPrefix_ok connectionDisconnect sequence
    (show 0 + 1 + seqBytes sequence ≤ mem.length by omega)
  set pre := prefixByteOf connectionDisconnect sequence :: leBytes (seqBytes sequence) sequence.toNat
  have hl1 : (store mem 0 pre).length = mem.length := length_store (by simp [pre]; omega)
  rw [Nat.zero_add] at hp
  obtain ⟨mem', he, -⟩ := @encryptPacket_ok A (store mem 0 pre) (1 + seqBytes sequence)
    (lenFrom (store mem 0 pre) 0 - lenFrom (store mem 0 pre) (1 + seqBytes sequence))
    (lenFrom (store mem 0 pre) 0 - lenFrom (store mem 0 pre) (1 + seqBytes sequence))
    (by rw [hl1]; omega) (by simp only [lenFrom]; omega) (Int.le_refl _) (by simp only [lenFrom]; omega)
    (prefixByteOf connectionDisconnect sequence) protocolId sequence writePacketKey
  rw [DisconnectPacket.write, hp, Go.ok_bind]
  dsimp only
  rw [he]
  simp

/-- DeniedPacket.Write with room for two headers and a MAC returns the header's length plus
    the MAC. -/
theorem DeniedPacket.write_ok (p : DeniedPacket)
    (hroom : 2 * (1 + seqBytes sequence) + macBytes ≤ mem.length) :
    Prod.snd <$> p.write A.toAeadOps mem protocolId sequence writePacketKey =
      .ok (1 + seqBytes sequence + macBytes : Int) := by
  have hp := writePacketPrefix_ok connectionDenied sequence
    (show 0 + 1 + seqBytes sequence ≤ mem.length by omega)
  set pre := prefixByteOf connectionDenied sequence :: leBytes (seqBytes sequence) sequence.toNat
  have hl1 : (store mem 0 pre).length = mem.length := length_store (by simp [pre]; omega)
  rw [Nat.zero_add] at hp
  obtain ⟨mem', he, hl⟩ := @encryptPacket_ok A (store mem 0 pre) (1 + seqBytes sequence)
    (lenFrom (store mem 0 pre) 0 - lenFrom (store mem 0 pre) (1 + seqBytes sequence))
    (lenFrom (store mem 0 pre) 0 - lenFrom (store mem 0 pre) (1 + seqBytes sequence))
    (by rw [hl1]; omega) (by simp only [lenFrom]; omega) (Int.le_refl _)
    (by simp only [lenFrom]; omega)
    (prefixByteOf connectionDenied sequence) protocolId sequence writePacketKey
  rw [DeniedPacket.write, hp, Go.ok_bind]
  dsimp only
  rw [he, Go.ok_bind]
  dsimp only
  rw [sliceOf_ok (Int.le_refl 0) (by omega) (by simp only [lenFrom]; omega)]
  simp only [lenFrom, hl1, Go.ok_bind, Go.pure_eq, Go.map_ok, Go.ok.injEq]
  omega

/-- ChallengePacket.Write with a full challenge token and room for two headers and its body
    returns the buffer's length less the body. -/
theorem ChallengePacket.write_ok (p : ChallengePacket)
    (hdata : challengeTokenBytes ≤ p.challengeTokenData.length)
    (hroom : 2 * (1 + seqBytes sequence + (8 + challengeTokenBytes)) ≤ mem.length) :
    Prod.snd <$> p.write A.toAeadOps mem protocolId sequence writePacketKey =
      .ok ((mem.length : Int) - (8 + challengeTokenBytes)) := by
  have hp := writePacketPrefix_ok connectionChallenge sequence
    (show 0 + 1 + seqBytes sequence ≤ mem.length by omega)
  set pre := prefixByteOf connectionChallenge sequence :: leBytes (seqBytes sequence) sequence.toNat
  have hl1 : (store mem 0 pre).length = mem.length := length_store (by simp [pre]; omega)
  rw [Nat.zero_add] at hp
  rw [ChallengePacket.write, hp, Go.ok_bind]
  dsimp only
  rw [(writes_writeUint64 _).first (by rw [hl1]; simp [sizeUint64]; omega), Go.ok_bind]
  dsimp only
  rw [(writes_writeBytesN hdata).after (by simp [hl1, sizeUint64, hdata]; omega), Go.ok_bind]
  dsimp only
  have hn : (leBytes sizeUint64 p.challengeTokenSequence.toNat ++
      p.challengeTokenData.take challengeTokenBytes).length = 8 + challengeTokenBytes := by
    simp [sizeUint64, hdata]
  rw [hn]
  generalize hM2 : store (store mem 0 pre) (1 + seqBytes sequence) _ = M2
  have hl2 : M2.length = mem.length := by rw [← hM2, length_store (by rw [hn, hl1]; omega), hl1]
  set h := 1 + seqBytes sequence
  have hs : lenFrom (store mem 0 pre) 0 - lenFrom (store mem 0 pre) h = (h : Int) := by
    simp only [lenFrom, hl1]; omega
  have hf : lenFrom M2 0 - lenFrom M2 (h + (8 + challengeTokenBytes)) =
      ((h + (8 + challengeTokenBytes) : Nat) : Int) := by
    simp only [lenFrom, hl2]; omega
  rw [hs, hf, sliceOf_ok (by omega) (by omega) (by simp only [lenFrom, hl2]; omega), Go.ok_bind,
    packetCryptData_eq, Go.ok_bind, sliceOf_ok (by omega) (by simp only [lenFrom, hl2]; omega)
    (Int.le_refl _), Go.ok_bind, Int.toNat_ofNat]
  set eb := (M2.drop (h + (8 + challengeTokenBytes) + h)).take
    (((h + (8 + challengeTokenBytes) : Nat) : Int) - h).toNat
  have hel : eb.length = 8 + challengeTokenBytes := by simp only [eb, List.length_take, List.length_drop]; omega
  rw [writeBytes, writeChunk_ok (by rw [hel, hl2]; omega)]
  simp only [ignoreErr, Go.ok_bind, Go.pure_eq, Go.map_ok, Go.ok.injEq, lenFrom, hel,
    length_store (show h + eb.length ≤ M2.length by rw [hel, hl2]; omega), hl2]
  omega

/-- **On a `MAX_PACKET_BYTES` buffer, only `DeniedPacket.Write` returns the frame's
    length** `1 + k + bodyLen + MAC_BYTES`.  The keep-alive, response and payload writers
    return `MAX_PACKET_BYTES + MAC_BYTES - 3 (1 + k) - bodyLen`, the challenge writer
    `MAX_PACKET_BYTES - bodyLen`, the disconnect writer `MAC_BYTES`; of these only the
    payload writer's value can be the frame's, when `2 bodyLen + 4 k = 1216`. -/
theorem write_length_maxPacket (hmem : mem.length = maxPacketBytes) (den : DeniedPacket)
    (ch : ChallengePacket) (resp : ResponsePacket) (ka : KeepAlivePacket) (pay : PayloadPacket)
    (dis : DisconnectPacket) (hch : challengeTokenBytes ≤ ch.challengeTokenData.length)
    (hresp : challengeTokenBytes ≤ resp.challengeTokenData.length)
    (hpay : pay.payloadBytes.toNat ≤ pay.payloadData.length)
    (hroom : 3 * (1 + seqBytes sequence) + pay.payloadBytes.toNat ≤ maxPacketBytes) :
    Prod.snd <$> den.write A.toAeadOps mem protocolId sequence writePacketKey =
        .ok (frameLength sequence 0) ∧
      Prod.snd <$> ch.write A.toAeadOps mem protocolId sequence writePacketKey =
        .ok ((maxPacketBytes : Int) - (8 + challengeTokenBytes)) ∧
      (maxPacketBytes : Int) - (8 + challengeTokenBytes) ≠
        frameLength sequence (8 + challengeTokenBytes) ∧
      Prod.snd <$> resp.write A.toAeadOps mem protocolId sequence writePacketKey =
        .ok ((maxPacketBytes : Int) + macBytes - 3 * (1 + seqBytes sequence) -
          (8 + challengeTokenBytes)) ∧
      (maxPacketBytes : Int) + macBytes - 3 * (1 + seqBytes sequence) - (8 + challengeTokenBytes) ≠
        frameLength sequence (8 + challengeTokenBytes) ∧
      Prod.snd <$> ka.write A.toAeadOps mem protocolId sequence writePacketKey =
        .ok ((maxPacketBytes : Int) + macBytes - 3 * (1 + seqBytes sequence) - 8) ∧
      (maxPacketBytes : Int) + macBytes - 3 * (1 + seqBytes sequence) - 8 ≠ frameLength sequence 8 ∧
      Prod.snd <$> pay.write A.toAeadOps mem protocolId sequence writePacketKey =
        .ok ((maxPacketBytes : Int) + macBytes - 3 * (1 + seqBytes sequence) -
          pay.payloadBytes.toNat) ∧
      ((maxPacketBytes : Int) + macBytes - 3 * (1 + seqBytes sequence) - pay.payloadBytes.toNat =
          frameLength sequence pay.payloadBytes.toNat ↔
        2 * pay.payloadBytes.toNat + 4 * seqBytes sequence = 1216) ∧
      Prod.snd <$> dis.write A.toAeadOps mem protocolId sequence writePacketKey = .ok macBytes ∧
      (macBytes : Int) ≠ frameLength sequence 0 := by
  obtain ⟨hk1, hk8⟩ := seqBytes_bounds sequence
  have hL : (mem.length : Int) = maxPacketBytes := by rw [hmem]
  simp only [maxPacketBytes] at hmem hroom
  refine ⟨?_, ?_, ?_, ?_, ?_, ?_, ?_, ?_, ?_, ?_, ?_⟩
  · rw [DeniedPacket.write_ok A protocolId sequence writePacketKey den
      (by rw [hmem]; simp only [macBytes]; omega)]
    simp [frameLength]
  · rw [ChallengePacket.write_ok A protocolId sequence writePacketKey ch hch
      (by rw [hmem]; simp only [challengeTokenBytes]; omega), hL]
  · simp only [frameLength, maxPacketBytes, challengeTokenBytes, macBytes]; omega
  · rw [ResponsePacket.write_ok A protocolId sequence writePacketKey resp hresp
      (by rw [hmem]; simp only [challengeTokenBytes]; omega), hL]
  · simp only [frameLength, maxPacketBytes, challengeTokenBytes, macBytes]; omega
  · rw [KeepAlivePacket.write_ok A protocolId sequence writePacketKey ka (by rw [hmem]; omega), hL]
  · simp only [frameLength, maxPacketBytes, macBytes]; omega
  · rw [PayloadPacket.write_ok A protocolId sequence writePacketKey pay hpay (by rw [hmem]; omega),
      hL]
  · simp only [frameLength, maxPacketBytes, macBytes]; omega
  · exact DisconnectPacket.write_ok A protocolId sequence writePacketKey dis (by rw [hmem]; omega)
  · simp only [frameLength, macBytes]; omega

end

/-- At sequence 0 on a zeroed `MAX_PACKET_BYTES` buffer, with 300-byte challenge tokens and
    a one-byte payload, `write_length_maxPacket` gives the keep-alive writer's value: 1222,
    for a 26-byte frame. -/
theorem keepAlive_write_length_seq0 :
    (List.replicate maxPacketBytes (0 : UInt8)).length = maxPacketBytes ∧
      challengeTokenBytes ≤ (List.replicate challengeTokenBytes (0 : UInt8)).length ∧
      (1 : UInt32).toNat ≤ [(0 : UInt8)].length ∧
      3 * (1 + seqBytes 0) + (1 : UInt32).toNat ≤ maxPacketBytes ∧
      Prod.snd <$> ({} : KeepAlivePacket).write Aead.zeroTag.toAeadOps
          (List.replicate maxPacketBytes 0) 0 0 (List.replicate 32 0) = .ok 1222 ∧
      frameLength 0 8 = 26 := by
  have hc : challengeTokenBytes ≤ (List.replicate challengeTokenBytes (0 : UInt8)).length :=
    (List.length_replicate _ _).ge
  obtain ⟨-, -, -, -, -, hka, -⟩ := write_length_maxPacket Aead.zeroTag 0 0 (List.replicate 32 0)
    (List.length_replicate maxPacketBytes (0 : UInt8)) {}
    { challengeTokenData := List.replicate challengeTokenBytes 0 }
    { challengeTokenData := List.replicate challengeTokenBytes 0 } {}
    { payloadBytes := 1, payloadData := [0] } {} hc hc (by decide) (by decide)
  refine ⟨List.length_replicate _ _, hc, by decide, by decide, ?_, by decide⟩
  rw [hka, show seqBytes 0 = 1 by decide]
  rfl

/-! ### Short inputs to `WriteBytesN` -/

/-- The prefix, then `WriteUint64` and `WriteBytesN` of a challenge token shorter than
    `CHALLENGE_TOKEN_BYTES`, as the challenge and response writers run them: the last
    panics. -/
private theorem prefix_tokenWrite_panic {mem : Bytes} (t : PacketType) (sequence v : UInt64)
    {xs : Bytes} (hroom : 1 + seqBytes sequence + (8 + challengeTokenBytes) ≤ mem.length)
    (hx : xs.length < challengeTokenBytes) :
    ∃ M1 M2 b, writePacketPrefix t mem 0 sequence = .ok (M1, 1 + seqBytes sequence, b) ∧
      ignoreErr (writeUint64 M1 (1 + seqBytes sequence) v) =
        .ok (M2, 1 + seqBytes sequence + (leBytes sizeUint64 v.toNat).length) ∧
      writeBytesN M2 (1 + seqBytes sequence + (leBytes sizeUint64 v.toNat).length) xs
        challengeTokenBytes = (M2, .panic) := by
  have hp := writePacketPrefix_ok t sequence (show 0 + 1 + seqBytes sequence ≤ mem.length by omega)
  have hl1 := length_store (show 0 + (prefixByteOf t sequence ::
    leBytes (seqBytes sequence) sequence.toNat).length ≤ mem.length by simp; omega)
  have h8 : 1 + seqBytes sequence + (leBytes sizeUint64 v.toNat).length ≤
      (store mem 0 (prefixByteOf t sequence :: leBytes (seqBytes sequence) sequence.toNat)).length := by
    rw [hl1, length_leBytes]; simp only [sizeUint64]; omega
  rw [Nat.zero_add] at hp
  refine ⟨_, _, _, hp, (writes_writeUint64 v).first h8, writeBytesN_panic ?_ hx⟩
  rw [length_store h8, hl1, length_leBytes]; simp only [sizeUint64]; omega

/-- **`WriteBytesN` indexes past the end of a short input, and so do its callers.**  With
    room for `length` bytes but an `in` shorter than `length`, `WriteBytesN` panics.  So
    do `ChallengePacket.Write` and `ResponsePacket.Write` on challenge token data shorter
    than `CHALLENGE_TOKEN_BYTES`, whatever the AEAD, and `ConnectTokenPrivate.Write` on
    user data shorter than `USER_DATA_BYTES` once the client id and the shared section
    are written and room is left after them. -/
theorem writeBytesN_short_panics (A : AeadOps) :
    (∀ (mem : Bytes) (buf : Nat) (xs : Bytes) (length : Nat), buf + length ≤ mem.length →
      xs.length < length → writeBytesN mem buf xs length = (mem, .panic)) ∧
    (∀ (p : ChallengePacket) (mem : Bytes) (protocolId sequence : UInt64) (key : Bytes),
      1 + seqBytes sequence + (8 + challengeTokenBytes) ≤ mem.length →
      p.challengeTokenData.length < challengeTokenBytes →
      p.write A mem protocolId sequence key = .panic) ∧
    (∀ (p : ResponsePacket) (mem : Bytes) (protocolId sequence : UInt64) (key : Bytes),
      1 + seqBytes sequence + (8 + challengeTokenBytes) ≤ mem.length →
      p.challengeTokenData.length < challengeTokenBytes →
      p.write A mem protocolId sequence key = .panic) ∧
    (∀ p : ConnectTokenPrivate, (∀ a ∈ p.serverAddrs, a.Valid) → keyBytes ≤ p.clientKey.length →
      keyBytes ≤ p.serverKey.length →
      sizeUint64 + (sharedBytes p.toSharedTokenData).length + userDataBytes ≤ p.tokenData.length →
      p.userData.length < userDataBytes → p.write = .panic) := by
  refine ⟨fun _ _ _ _ h hx => writeBytesN_panic h hx, fun p mem _ sequence _ hroom hx => ?_,
    fun p mem _ sequence _ hroom hx => ?_, fun p hv hc hs hroom hu => ?_⟩
  · obtain ⟨M1, M2, b, h1, h2, h3⟩ :=
      prefix_tokenWrite_panic connectionChallenge sequence p.challengeTokenSequence hroom hx
    simp only [ChallengePacket.write, h1, h2, h3, Go.ok_bind]
    rfl
  · obtain ⟨M1, M2, b, h1, h2, h3⟩ :=
      prefix_tokenWrite_panic connectionResponse sequence p.challengeTokenSequence hroom hx
    simp only [ResponsePacket.write, writeEncrypted, h1, h2, h3, Go.ok_bind]
    rfl
  -- the client id and the shared section are written, then `WriteBytesN` has room
  rw [ConnectTokenPrivate.write_eq_userData hv hc hs (by omega), writeBytesN_panic (by
    simp only [List.length_append, length_leBytes]; rw [length_store (by
    simp only [List.length_append, length_leBytes]; omega)]; omega) hu]
  rfl

/-- `ChallengePacket{}` carries no challenge token data: its `Write` into a zeroed
    `MAX_PACKET_BYTES` buffer at sequence 0 panics. -/
theorem challengePacket_write_empty_panics :
    1 + seqBytes 0 + (8 + challengeTokenBytes) ≤ (List.replicate maxPacketBytes (0 : UInt8)).length ∧
      ({} : ChallengePacket).challengeTokenData.length < challengeTokenBytes ∧
      ({} : ChallengePacket).write Aead.zeroTag.toAeadOps (List.replicate maxPacketBytes 0) 0 0
        (List.replicate keyBytes 0) = .panic := by
  have hroom : 1 + seqBytes 0 + (8 + challengeTokenBytes) ≤
      (List.replicate maxPacketBytes (0 : UInt8)).length := by
    rw [List.length_replicate]; decide
  exact ⟨hroom, by decide,
    (writeBytesN_short_panics Aead.zeroTag.toAeadOps).2.1 {} _ 0 0 _ hroom (by decide)⟩

end Netcode
