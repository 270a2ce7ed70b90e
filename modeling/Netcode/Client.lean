import Netcode.Packet.Frame

namespace Netcode

/-!
# netcode.io — the server's record of a client: `ClientInstance`

`ClientInstance` is the server's record of one client; `NewClientInstance` allocates its
buffers, `Clear` resets it, and `SendPacket` writes a packet into the record's packet
buffer at the record's sequence and hands the first `bytesWritten` bytes to the
connection.  The connection's type is not in the source, so what `WriteTo` does is a
parameter of `SendPacket`; its error is only logged.  The model returns the datagram.

* `Packet.write_keeps`, `Packet.write_length` — what every `Write` leaves in its array:
  the array's length, and for a sequenced packet the header (prefix byte and sequence
  bytes) at its start.  The writers after the prefix only store past it.
* `ClientInstance.sendPacket_keepAlive_panics` — with a sequence below 256, a keep-alive's
  `Write` returns 1222 and `c.packetBuffer[:1222]` panics.
* `ClientInstance.sendPacket_unreadable` — the challenge, response, keep-alive and
  disconnect datagrams `SendPacket` sends have a length no `Read` accepts for their type.
* `ClientInstance.sendPacket_denied_read` — a denial is sent as its frame and read back.
-/

/-! ### What a `Write` leaves in its array -/

/-- `encryptPacket` writes the ciphertext at its slice: the array keeps its length and the
    bytes before the slice. -/
theorem encryptPacket_keeps {A : AeadOps} {mem mem' : Bytes} {buffer : Nat} {lo hi : Int}
    {prefixByte : UInt8} {protocolId sequence : UInt64} {key : Bytes} {n : Int}
    (hb : buffer ≤ mem.length)
    (h : encryptPacket A mem buffer lo hi prefixByte protocolId sequence key = .ok (mem', n)) :
    mem'.length = mem.length ∧ mem'.take buffer = mem.take buffer := by
  unfold encryptPacket at h
  rw [packetCryptData_eq] at h
  obtain ⟨eb, -, h⟩ := Go.bind_eq_ok.mp h
  obtain ⟨_, -, h⟩ := Go.bind_eq_ok.mp h
  obtain ⟨⟨m, b⟩, hw, he⟩ := Go.bind_eq_ok.mp h
  obtain ⟨hl, -, -, ht⟩ := keeps_writeBytes _ mem buffer m b hb hw
  cases he
  exact ⟨hl, ht⟩

/-- The header `writePacketPrefix` stores: the prefix byte and `k` sequence bytes. -/
def headerOf (t : PacketType) (s : UInt64) : Bytes := prefixByteOf t s :: leBytes (seqBytes s) s.toNat

/-- A packet's header is its prefix byte and its sequence bytes. -/
@[simp] theorem length_headerOf (t : PacketType) (s : UInt64) : (headerOf t s).length = 1 + seqBytes s := by
  simp [headerOf, Nat.add_comm]

/-- Two arrays that agree up to `b` agree up to every `a ≤ b`. -/
theorem take_eq_of_le {m m' : Bytes} {a b : Nat} (hab : a ≤ b) (h : m'.take b = m.take b) :
    m'.take a = m.take a := by
  rw [← Nat.min_eq_left hab, ← List.take_take, h, List.take_take]

/-- An array that agrees with the prefix's array up to the end of the header starts with
    the header. -/
theorem take_headerOf {mem m : Bytes} {t : PacketType} {s : UInt64}
    (ht : m.take (1 + seqBytes s) = (store mem 0 (headerOf t s)).take (1 + seqBytes s)) :
    m.take (1 + seqBytes s) = headerOf t s := by
  rw [ht, ← length_headerOf t s]
  simp [store]

/-- `writePacketPrefix` at the start of an array with room for the header. -/
theorem writePacketPrefix_header {t : PacketType} {mem : Bytes} {s : UInt64}
    (hroom : 1 + seqBytes s ≤ mem.length) :
    writePacketPrefix t mem 0 s = .ok (store mem 0 (headerOf t s), 1 + seqBytes s, prefixByteOf t s) := by
  rw [writePacketPrefix_ok t s (show 0 + 1 + seqBytes s ≤ mem.length by omega), Nat.zero_add]
  rfl

/-- The writers of `ResponsePacket`, `KeepAlivePacket` and `PayloadPacket` leave the
    header at the start of the array, whatever their body writes after it. -/
theorem writeEncrypted_keeps (A : AeadOps) {t : PacketType} {body : Bytes → Nat → Go (Bytes × Nat)}
    (hk : Keeps body) {mem mem' : Bytes} {protocolId s : UInt64} {key : Bytes} {n : Int}
    (hroom : 1 + seqBytes s ≤ mem.length)
    (h : writeEncrypted A t body mem protocolId s key = .ok (mem', n)) :
    mem'.length = mem.length ∧ mem'.take (1 + seqBytes s) = headerOf t s := by
  have hl1 : (store mem 0 (headerOf t s)).length = mem.length := length_store (by simpa using hroom)
  unfold writeEncrypted at h
  rw [writePacketPrefix_header hroom, Go.ok_bind] at h
  dsimp only at h
  obtain ⟨⟨m2, b2⟩, hb, he⟩ := Go.bind_eq_ok.mp h
  obtain ⟨hl2, hle, hb2, ht2⟩ := hk _ _ _ _ (by omega) hb
  obtain ⟨hl3, ht3⟩ := encryptPacket_keeps hb2 he
  exact ⟨by rw [hl3, hl2, hl1], take_headerOf ((take_eq_of_le hle ht3).trans ht2)⟩


/-- DeniedPacket.Write that returns keeps the buffer's length and writes the header for its
    sequence. -/
theorem DeniedPacket.write_keeps (A : AeadOps) (p : DeniedPacket) {mem mem' : Bytes}
    {protocolId s : UInt64} {key : Bytes} {n : Int} (hroom : 1 + seqBytes s ≤ mem.length)
    (h : p.write A mem protocolId s key = .ok (mem', n)) :
    mem'.length = mem.length ∧ mem'.take (1 + seqBytes s) = headerOf connectionDenied s := by
  have hl1 : (store mem 0 (headerOf connectionDenied s)).length = mem.length :=
    length_store (by simpa using hroom)
  unfold DeniedPacket.write at h
  rw [writePacketPrefix_header hroom, Go.ok_bind] at h
  dsimp only at h
  obtain ⟨⟨m3, el⟩, he, h⟩ := Go.bind_eq_ok.mp h
  obtain ⟨_, -, h⟩ := Go.bind_eq_ok.mp h
  cases h
  obtain ⟨hl3, ht3⟩ := encryptPacket_keeps (by omega) he
  exact ⟨by rw [hl3, hl1], take_headerOf ht3⟩

/-- DisconnectPacket.Write that returns keeps the buffer's length and writes the header for
    its sequence. -/
theorem DisconnectPacket.write_keeps (A : AeadOps) (p : DisconnectPacket) {mem mem' : Bytes}
    {protocolId s : UInt64} {key : Bytes} {n : Int} (hroom : 1 + seqBytes s ≤ mem.length)
    (h : p.write A mem protocolId s key = .ok (mem', n)) :
    mem'.length = mem.length ∧ mem'.take (1 + seqBytes s) = headerOf connectionDisconnect s := by
  have hl1 : (store mem 0 (headerOf connectionDisconnect s)).length = mem.length :=
    length_store (by simpa using hroom)
  unfold DisconnectPacket.write at h
  rw [writePacketPrefix_header hroom, Go.ok_bind] at h
  obtain ⟨hl3, ht3⟩ := encryptPacket_keeps (by omega) h
  exact ⟨by rw [hl3, hl1], take_headerOf ht3⟩

/-- ChallengePacket.Write that returns keeps the buffer's length and writes the header for
    its sequence. -/
theorem ChallengePacket.write_keeps (A : AeadOps) (p : ChallengePacket) {mem mem' : Bytes}
    {protocolId s : UInt64} {key : Bytes} {n : Int} (hroom : 1 + seqBytes s ≤ mem.length)
    (h : p.write A mem protocolId s key = .ok (mem', n)) :
    mem'.length = mem.length ∧ mem'.take (1 + seqBytes s) = headerOf connectionChallenge s := by
  have hl1 : (store mem 0 (headerOf connectionChallenge s)).length = mem.length :=
    length_store (by simpa using hroom)
  unfold ChallengePacket.write at h
  rw [writePacketPrefix_header hroom, Go.ok_bind] at h
  dsimp only at h
  obtain ⟨⟨m1, b1⟩, h1, h⟩ := Go.bind_eq_ok.mp h
  obtain ⟨hl2, hle2, hb2, ht2⟩ := keeps_writeUint64 _ _ _ _ _ (by omega) h1
  obtain ⟨⟨m2, b2⟩, h2, h⟩ := Go.bind_eq_ok.mp h
  obtain ⟨hl3, hle3, hb3, ht3⟩ := keeps_writeBytesN _ _ _ _ _ _ hb2 h2
  obtain ⟨_, -, h⟩ := Go.bind_eq_ok.mp h
  obtain ⟨_, -, h⟩ := Go.bind_eq_ok.mp h
  obtain ⟨_, -, h⟩ := Go.bind_eq_ok.mp h
  obtain ⟨⟨m4, b4⟩, h4, h⟩ := Go.bind_eq_ok.mp h
  cases h
  have hs : (lenFrom (store mem 0 (headerOf connectionChallenge s)) 0 -
      lenFrom (store mem 0 (headerOf connectionChallenge s)) (1 + seqBytes s)).toNat = 1 + seqBytes s := by
    simp only [lenFrom, hl1]; omega
  rw [hs] at h4
  dsimp only at h4
  obtain ⟨hl4, -, -, ht4⟩ := keeps_writeBytes _ _ _ _ _ (by omega) h4
  exact ⟨by rw [hl4, hl3, hl2, hl1],
    take_headerOf (ht4.trans ((take_eq_of_le hle2 ht3).trans ht2))⟩

/-- `RequestPacket.Write` keeps the array's length: each of its writes does. -/
theorem RequestPacket.write_length (p : RequestPacket) {mem mem' : Bytes} {n : Int}
    (h : p.write mem = .ok (mem', n)) : mem'.length = mem.length := by
  unfold RequestPacket.write at h
  obtain ⟨⟨m1, b1⟩, h1, h⟩ := Go.bind_eq_ok.mp h
  obtain ⟨l1, -, b1l, -⟩ := keeps_writeUint8 _ _ _ _ _ (Nat.zero_le _) h1
  obtain ⟨⟨m2, b2⟩, h2, h⟩ := Go.bind_eq_ok.mp h
  obtain ⟨l2, -, b2l, -⟩ := keeps_writeBytes _ _ _ _ _ b1l h2
  obtain ⟨⟨m3, b3⟩, h3, h⟩ := Go.bind_eq_ok.mp h
  obtain ⟨l3, -, b3l, -⟩ := keeps_writeUint64 _ _ _ _ _ b2l h3
  obtain ⟨⟨m4, b4⟩, h4, h⟩ := Go.bind_eq_ok.mp h
  obtain ⟨l4, -, b4l, -⟩ := keeps_writeUint64 _ _ _ _ _ b3l h4
  obtain ⟨⟨m5, b5⟩, h5, h⟩ := Go.bind_eq_ok.mp h
  obtain ⟨l5, -, b5l, -⟩ := keeps_writeUint64 _ _ _ _ _ b4l h5
  obtain ⟨⟨m6, b6⟩, h6, h⟩ := Go.bind_eq_ok.mp h
  obtain ⟨l6, -, -, -⟩ := keeps_writeBytes _ _ _ _ _ b5l h6
  obtain ⟨-, h⟩ := Go.ite_err_eq_ok.mp h
  cases h
  rw [l6, l5, l4, l3, l2, l1]

/-- **Every sequenced `Write` leaves its header**: when it returns, the array has its
    length and starts with the prefix byte and the sequence bytes. -/
theorem Packet.write_keeps (A : AeadOps) {P : Packet} (hP : P.getType ≠ connectionRequest)
    {mem mem' : Bytes} {protocolId s : UInt64} {key : Bytes} {n : Int}
    (hroom : 1 + seqBytes s ≤ mem.length) (h : P.write A mem protocolId s key = .ok (mem', n)) :
    mem'.length = mem.length ∧ mem'.take (1 + seqBytes s) = headerOf P.getType s := by
  cases P with
  | request p => exact absurd rfl hP
  | denied p => exact DeniedPacket.write_keeps A p hroom h
  | challenge p => exact ChallengePacket.write_keeps A p hroom (show p.write A mem protocolId s key = _ from h)
  | response p =>
    exact writeEncrypted_keeps A ((keeps_writeUint64 _).bind (keeps_writeBytesN _ _)) hroom h
  | keepAlive p =>
    exact writeEncrypted_keeps A ((keeps_writeUint32 _).bind (keeps_writeUint32 _)) hroom h
  | payload p => exact writeEncrypted_keeps A (keeps_writeBytesN _ _) hroom h
  | disconnect p => exact DisconnectPacket.write_keeps A p hroom h

/-- Every `Write` that returns keeps the array's length. -/
theorem Packet.write_length (A : AeadOps) (P : Packet) {mem mem' : Bytes} {protocolId s : UInt64}
    {key : Bytes} {n : Int} (hroom : 1 + seqBytes s ≤ mem.length)
    (h : P.write A mem protocolId s key = .ok (mem', n)) : mem'.length = mem.length := by
  by_cases hP : P.getType = connectionRequest
  · cases P with
    | request p => exact RequestPacket.write_length p h
    | _ => cases hP
  · exact (Packet.write_keeps A hP hroom h).1

/-! ### `ClientInstance` -/

/-- `ClientInstance`: the server's record of one connected client.  `serverConn` and
    `packetQueue` are left out: their types are not in the source, and `SendPacket` uses
    the connection only to hand it the datagram. -/
structure ClientInstance where
  clientId : UInt64
  clientIndex : Int
  confirmed : Bool
  connected : Bool
  encryptionIndex : Int
  sequence : UInt64
  lastSendTime : Float
  lastRecvTime : Float
  packetBuffer : Bytes
  userData : Bytes
  protocolId : UInt64
  replayProtection : ReplayProtection
  address : Option UDPAddr

/-- `NewClientInstance()`: Go's zero values, a `MAX_PACKET_BYTES` packet buffer, a
    `USER_DATA_BYTES` user data buffer and a fresh replay window. -/
def newClientInstance : ClientInstance where
  clientId := 0
  clientIndex := 0
  confirmed := false
  connected := false
  encryptionIndex := 0
  sequence := 0
  lastSendTime := 0
  lastRecvTime := 0
  packetBuffer := List.replicate maxPacketBytes 0
  userData := List.replicate userDataBytes 0
  protocolId := 0
  replayProtection := ReplayProtection.reset
  address := none

/-- `c.Clear()`: the window reset, the flags, ids, counters and times zeroed, the indices
    set to `-1`, and a fresh user data buffer.  The packet buffer and the protocol id
    stay. -/
def ClientInstance.clear (c : ClientInstance) : ClientInstance :=
  { c with
    replayProtection := ReplayProtection.reset
    connected := false
    confirmed := false
    clientId := 0
    sequence := 0
    lastSendTime := 0
    lastRecvTime := 0
    address := none
    clientIndex := -1
    encryptionIndex := -1
    userData := List.replicate userDataBytes 0 }

/-- `if _, err := f(…); err != nil { log.Printf(…) }`: an error is logged and dropped, a
    panic propagates. -/
def Go.logErr {α : Type} : Go α → Go Unit
  | .panic => .panic
  | _ => .ok ()

/-- A call that does not panic is logged and the function goes on. -/
theorem Go.logErr_of_ne {α : Type} {x : Go α} (h : x ≠ .panic) : x.logErr = .ok () := by
  cases x with
  | panic => exact absurd rfl h
  | _ => rfl

/-- `c.SendPacket(packet, writePacketKey, serverTime)`: `packet.Write` into the packet
    buffer at the client's sequence, then `c.serverConn.WriteTo(c.packetBuffer[:bytesWritten],
    c.address)`, then the sequence bumped and the send time kept.  `NetcodeConn` is not in
    the source and `NewClientInstance` leaves `serverConn` `nil`, so what `WriteTo` does
    is the parameter `writeTo`: its error is only logged, a panic propagates.  The model
    also returns the datagram handed to `WriteTo`. -/
def ClientInstance.sendPacket (A : AeadOps) (writeTo : Bytes → Option UDPAddr → Go Unit)
    (c : ClientInstance) (packet : Packet) (writePacketKey : Bytes) (serverTime : Float) :
    Go (ClientInstance × Bytes) := do
  let (packetBuffer, bytesWritten) ←
    (packet.write A c.packetBuffer c.protocolId c.sequence writePacketKey).mapErr
      fun e => "error: unable to write packet: " ++ e
  let datagram ← sliceOf packetBuffer 0 0 bytesWritten
  (writeTo datagram c.address).logErr
  return ({ c with packetBuffer, sequence := c.sequence + 1, lastSendTime := serverTime },
    datagram)

/-- What a `SendPacket` that returns has done: the `Write` returned `bytesWritten` within
    the buffer, the datagram is the buffer's first `bytesWritten` bytes, and the record
    has the written buffer, the next sequence and the send time. -/
theorem ClientInstance.sendPacket_eq_ok {A : AeadOps} {writeTo : Bytes → Option UDPAddr → Go Unit}
    {c c' : ClientInstance} {P : Packet} {key : Bytes} {time : Float} {d : Bytes}
    (h : c.sendPacket A writeTo P key time = .ok (c', d)) :
    ∃ mem' n, P.write A c.packetBuffer c.protocolId c.sequence key = .ok (mem', n) ∧
      0 ≤ n ∧ n ≤ mem'.length ∧ d = mem'.take n.toNat ∧
      c' = { c with packetBuffer := mem', sequence := c.sequence + 1, lastSendTime := time } := by
  obtain ⟨⟨mem', n⟩, hw, h⟩ := Go.bind_eq_ok.mp h
  obtain ⟨d', hs, h⟩ := Go.bind_eq_ok.mp h
  obtain ⟨-, -, h⟩ := Go.bind_eq_ok.mp h
  cases h
  unfold sliceOf at hs
  split_ifs at hs with hb
  cases hs
  refine ⟨mem', n, Go.mapErr_eq_ok.mp hw, hb.2.1, ?_, ?_, rfl⟩
  · simpa [lenFrom] using hb.2.2
  · simp

/-- `SendPacket` once its `Write` has returned: the slice, `WriteTo`, then the new
    record. -/
theorem ClientInstance.sendPacket_of_write {A : AeadOps}
    {writeTo : Bytes → Option UDPAddr → Go Unit} {c : ClientInstance} {P : Packet}
    {key : Bytes} {time : Float} {mem' : Bytes} {n : Int}
    (hw : P.write A c.packetBuffer c.protocolId c.sequence key = .ok (mem', n)) :
    c.sendPacket A writeTo P key time = (sliceOf mem' 0 0 n >>= fun d =>
      (writeTo d c.address).logErr >>= fun _ =>
        .ok ({ c with packetBuffer := mem', sequence := c.sequence + 1, lastSendTime := time }, d)) := by
  rw [ClientInstance.sendPacket, hw, Go.mapErr_ok, Go.ok_bind]
  rfl

/-! ### The records the results are about -/

/-- The sizes `NewClientInstance` gives the two buffers: `MAX_PACKET_BYTES` for packets,
    `USER_DATA_BYTES` for user data. -/
def ClientInstance.Valid (c : ClientInstance) : Prop :=
  c.packetBuffer.length = maxPacketBytes ∧ c.userData.length = userDataBytes

/-- A new client instance has a full-size packet buffer and USER_DATA_BYTES of user data. -/
theorem newClientInstance_valid : newClientInstance.Valid :=
  ⟨List.length_replicate _ _, List.length_replicate _ _⟩

/-- A sequence's header fits in a client's packet buffer. -/
theorem ClientInstance.Valid.header_fits {c : ClientInstance} (hc : c.Valid) (s : UInt64) :
    1 + seqBytes s ≤ c.packetBuffer.length := by
  rw [hc.1]
  have := (seqBytes_bounds s).2
  simp only [maxPacketBytes]
  omega

/-! ### What `SendPacket` puts on the wire -/

/-- A sequence below 256 takes one byte. -/
theorem seqBytes_eq_one {s : UInt64} (h : s.toNat < 256) : seqBytes s = 1 := by
  obtain ⟨h1, -, -, h2⟩ := bytesRequired_spec s
  by_contra hne
  have := h2 (by unfold seqBytes at hne; omega)
  have : 256 ^ 1 ≤ 256 ^ ((sequenceNumberBytesRequired s).toNat - 1) :=
    Nat.pow_le_pow_right (by decide) (by unfold seqBytes at hne; omega)
  omega

/-- **A fresh record's keep-alives panic**: from every record with a `MAX_PACKET_BYTES`
    buffer whose sequence is below 256, `SendPacket` of any keep-alive panics, before
    `WriteTo` is reached.  Its `Write` returns
    `MAX_PACKET_BYTES + MAC_BYTES - 3 (1 + k) - 8 = 1222` for a one-byte sequence, and
    `c.packetBuffer[:1222]` is past the buffer's capacity. -/
theorem ClientInstance.sendPacket_keepAlive_panics (A : Aead)
    (writeTo : Bytes → Option UDPAddr → Go Unit) {c : ClientInstance} (hc : c.Valid)
    (hs : c.sequence.toNat < 256) (p : KeepAlivePacket) (key : Bytes) (time : Float) :
    c.sendPacket A.toAeadOps writeTo (.keepAlive p) key time = .panic := by
  have hk := seqBytes_eq_one hs
  obtain ⟨⟨mem', n⟩, hw, rfl⟩ := Go.map_eq_ok.mp
    (KeepAlivePacket.write_ok A c.protocolId c.sequence key p (by rw [hc.1, hk]; decide))
  have hl := Packet.write_length A.toAeadOps (.keepAlive p) (hc.header_fits _) hw
  rw [ClientInstance.sendPacket_of_write (P := .keepAlive p) hw, sliceOf, if_neg]
  · rfl
  · simp only [lenFrom, hl, hc.1, hk, maxPacketBytes, macBytes]
    omega

/-- The first keep-alive of a fresh record panics. -/
theorem newClientInstance_keepAlive_panics :
    newClientInstance.Valid ∧ newClientInstance.sequence.toNat < 256 ∧
      newClientInstance.sendPacket Aead.zeroTag.toAeadOps (fun _ _ => .ok ()) (.keepAlive {})
        (List.replicate 32 0) 0 = .panic :=
  ⟨newClientInstance_valid, by decide,
    ClientInstance.sendPacket_keepAlive_panics Aead.zeroTag _ newClientInstance_valid (by decide) {}
      (List.replicate 32 0) 0⟩

/-- A datagram cut from an array that starts with a header has the header's type. -/
theorem peek_take_of_header {m : Bytes} {t : PacketType} {s : UInt64} (ht : t.toNat < 16)
    (hhd : m.take (1 + seqBytes s) = headerOf t s) {j : Nat} (hj : 1 ≤ j) :
    peek (m.take j) = .ok t := by
  obtain ⟨j, rfl⟩ : ∃ j', j = j' + 1 := ⟨j - 1, by omega⟩
  cases m with
  | nil => simp [headerOf] at hhd
  | cons x xs =>
    rw [Nat.add_comm 1, List.take_succ_cons, headerOf, List.cons.injEq] at hhd
    rw [List.take_succ_cons, peek, hhd.1, prefixByteOf,
      (prefixByte_nibbles ht (seqBytes_bounds s).2).1]

/-- The length `Read` accepts for a sequenced packet: the prefix byte, at most eight
    sequence bytes, the tag and a body of a size the type accepts. -/
theorem readPacket_sequenced_length (A : Aead) {d : Bytes} {args : ReadArgs}
    {rp rp' : Option ReplayProtection} {Q : Packet}
    (h : readPacket A.toAeadOps d args rp = (rp', .ok Q)) (hQ : Q.getType ≠ connectionRequest) :
    ∃ k n : Nat, k ≤ 8 ∧ args.packetLen = 1 + k + macBytes + n ∧ BodySizeOk Q.getType n := by
  obtain ⟨-, -, P₀, -, h₀⟩ := readPacket_eq_ok h
  have ht := Packet.read_getType h₀
  obtain ⟨-, pt, hd, hsize⟩ := Packet.read_sequenced_eq_ok (ht ▸ hQ) h₀
  obtain ⟨b, rest, hh, hlen⟩ := decryptPacket_length hd
  obtain ⟨-, h8, -⟩ := readPacketHeader_eq_ok hh
  exact ⟨_, pt.length, h8, hlen, ht ▸ hsize⟩

/-- The value a writer's `Write` returns, read off its `_ok` lemma. -/
theorem write_snd_eq {x : Go (Bytes × Int)} {v : Int} {mem' : Bytes} {n : Int}
    (hv : Prod.snd <$> x = .ok v) (hw : x = .ok (mem', n)) : n = v := by
  rw [hw] at hv
  exact Go.ok.inj hv

/-- **A client's challenges, responses, keep-alives and disconnects are never read back**:
    from every record with a `MAX_PACKET_BYTES` buffer, under an AEAD meeting the contract,
    when `SendPacket` of a well-formed packet of one of these types returns, no
    `NewPacket(d).Read(d, len(d), …)` accepts the datagram `d` it sent, whatever the
    protocol id, keys, mask or window.  Their writers return `912`, `925 - 3k`,
    `1225 - 3k` and `16` bytes, and `Read` accepts only `325 + k'`, `325 + k'`,
    `25 + k'` and `17 + k'` for the type the datagram's prefix byte names. -/
theorem ClientInstance.sendPacket_unreadable (A : Aead) {c c' : ClientInstance} (hc : c.Valid)
    {P : Packet} (hP : P.Framed) (hden : P.getType ≠ connectionDenied)
    (hpay : P.getType ≠ connectionPayload) {writeTo : Bytes → Option UDPAddr → Go Unit}
    {key : Bytes} {time : Float} {d : Bytes}
    (hs : c.sendPacket A.toAeadOps writeTo P key time = .ok (c', d)) {args : ReadArgs}
    (hlen : args.packetLen = d.length) (rp rp' : Option ReplayProtection) (Q : Packet) :
    readPacket A.toAeadOps d args rp ≠ (rp', .ok Q) := by
  intro hr
  obtain ⟨mem', n, hw, hn0, hn1, rfl, -⟩ := ClientInstance.sendPacket_eq_ok hs
  have hreq : P.getType ≠ connectionRequest := by
    cases P with
    | request _ => exact absurd hP id
    | _ => simp only [Packet.getType]; decide
  obtain ⟨hl, hhd⟩ := Packet.write_keeps A.toAeadOps hreq (hc.header_fits _) hw
  obtain ⟨hk1, hk8⟩ := seqBytes_bounds c.sequence
  have hL := hc.1
  rw [List.length_take, Nat.min_eq_left (by omega)] at hlen
  -- the datagram's prefix byte names `P`'s type, so `Read` accepted a packet of that type
  have hpeek := (readPacket_eq_ok hr).1
  have hn : 1 ≤ n.toNat := by
    by_contra h0
    rw [show n.toNat = 0 by omega, List.take_zero] at hpeek
    cases hpeek
  have hQ : Q.getType = P.getType := Go.ok.inj (hpeek.symm.trans
    (peek_take_of_header (Nat.lt_trans (Packet.getType_lt P) (by decide)) hhd hn))
  obtain ⟨k, m, hk, hlen', hsize⟩ := readPacket_sequenced_length A hr (hQ ▸ hreq)
  rw [hQ] at hsize
  -- the length the writer returned against the length `Read` accepts
  cases P with
  | request _ => exact hP
  | denied _ => exact hden rfl
  | payload _ => exact hpay rfl
  | challenge p =>
    have hv := write_snd_eq (ChallengePacket.write_ok A c.protocolId c.sequence key p hP.ge
      (by rw [hL]; simp only [maxPacketBytes, challengeTokenBytes]; omega)) hw
    rw [Packet.getType, bodySizeOk_challengeToken (.inl rfl)] at hsize
    simp only [hL, maxPacketBytes, challengeTokenBytes, macBytes] at hv hsize hlen'
    omega
  | response p =>
    have hv := write_snd_eq (ResponsePacket.write_ok A c.protocolId c.sequence key p hP.ge
      (by rw [hL]; simp only [maxPacketBytes, challengeTokenBytes]; omega)) hw
    rw [Packet.getType, bodySizeOk_challengeToken (.inr rfl)] at hsize
    simp only [hL, maxPacketBytes, challengeTokenBytes, macBytes] at hv hsize hlen'
    omega
  | keepAlive p =>
    have hv := write_snd_eq (KeepAlivePacket.write_ok A c.protocolId c.sequence key p
      (by rw [hL]; simp only [maxPacketBytes]; omega)) hw
    rw [Packet.getType, bodySizeOk_keepAlive] at hsize
    simp only [hL, maxPacketBytes, macBytes] at hv hlen'
    omega
  | disconnect p =>
    have hv := write_snd_eq (DisconnectPacket.write_ok A c.protocolId c.sequence key p
      (by rw [hL]; simp only [maxPacketBytes]; omega)) hw
    rw [Packet.getType, BodySizeOk, if_neg (by decide), if_neg (by decide), if_neg (by decide)] at hsize
    simp only [macBytes] at hv hlen'
    omega

/-- A fresh record's disconnect is sent, and no `Read` accepts it. -/
theorem newClientInstance_disconnect_unreadable :
    ∃ c' d, newClientInstance.sendPacket Aead.zeroTag.toAeadOps (fun _ _ => .ok ())
        (.disconnect {}) (List.replicate 32 0) 0 = .ok (c', d) ∧
      ∀ (rp rp' : Option ReplayProtection) (Q : Packet),
        readPacket Aead.zeroTag.toAeadOps d
          { packetLen := d.length, protocolId := 0, currentTimestamp := 0,
            readPacketKey := some (List.replicate 32 0), privateKey := none,
            allowedPackets := List.replicate 7 1 } rp ≠ (rp', .ok Q) := by
  have hroom : 2 * (1 + seqBytes 0) ≤ newClientInstance.packetBuffer.length := by
    rw [newClientInstance_valid.1]; decide
  obtain ⟨⟨mem', n⟩, hw, rfl⟩ := Go.map_eq_ok.mp
    (DisconnectPacket.write_ok Aead.zeroTag 0 0 (List.replicate 32 0) {} hroom)
  have hl := Packet.write_length Aead.zeroTag.toAeadOps (.disconnect {})
    (newClientInstance_valid.header_fits 0) hw
  have hsend : newClientInstance.sendPacket Aead.zeroTag.toAeadOps (fun _ _ => .ok ())
      (.disconnect {}) (List.replicate 32 0) 0 = _ := ClientInstance.sendPacket_of_write hw
  rw [sliceOf_ok (Int.le_refl 0) (by decide) (by simp only [lenFrom, hl, newClientInstance_valid.1]; decide), Go.ok_bind]
    at hsend
  exact ⟨_, _, hsend, fun rp rp' Q => ClientInstance.sendPacket_unreadable Aead.zeroTag
    newClientInstance_valid (P := .disconnect {}) trivial (by decide) (by decide) hsend rfl rp rp' Q⟩

/-- **A client's denials are read back**: from every record with a `MAX_PACKET_BYTES`
    buffer, under an AEAD meeting the contract, when `WriteTo` returns for the frame of the
    denial at the record's sequence, `SendPacket` of the denial returns, having handed
    that frame to `WriteTo`, and moves to the next sequence; and `NewPacket(d).Read` of
    that datagram, with its length, the record's protocol id, the key it was sent with and
    a mask that allows denials, returns the denial with the record's sequence, leaving any
    window as it was. -/
theorem ClientInstance.sendPacket_denied_read (A : Aead)
    (writeTo : Bytes → Option UDPAddr → Go Unit) {c : ClientInstance} (hc : c.Valid)
    (p : DeniedPacket) (key : Bytes) (time : Float)
    (hwt : writeTo (frameOf A.toAeadOps (.denied p) c.protocolId c.sequence key) c.address ≠ .panic)
    {args : ReadArgs}
    (hlen : args.packetLen = 1 + seqBytes c.sequence + macBytes)
    (hpid : args.protocolId = c.protocolId) (hkey : args.readPacketKey = some key) {a : UInt8}
    (ha : args.allowedPackets[connectionDenied.toNat]? = some a) (ha0 : a ≠ 0)
    (rp : Option ReplayProtection) :
    ∃ c', c.sendPacket A.toAeadOps writeTo (.denied p) key time =
        .ok (c', frameOf A.toAeadOps (.denied p) c.protocolId c.sequence key) ∧
      c'.sequence = c.sequence + 1 ∧
      readPacket A.toAeadOps (frameOf A.toAeadOps (.denied p) c.protocolId c.sequence key) args rp =
        (rp, .ok (.denied { p with sequence := c.sequence })) := by
  have hroom : 2 * (1 + seqBytes c.sequence) + macBytes ≤ c.packetBuffer.length := by
    rw [hc.1]
    have := (seqBytes_bounds c.sequence).2
    simp only [maxPacketBytes, macBytes]
    omega
  have hw := DeniedPacket.write_frame A p c.protocolId c.sequence key hroom
  obtain ⟨mem', hw', hr⟩ :=
    deniedPacket_roundTrip A p c.protocolId c.sequence key hroom hlen hpid hkey ha ha0 rp
  rw [hw, Go.ok.injEq, Prod.mk.injEq] at hw'
  obtain ⟨rfl, -⟩ := hw'
  set f := frameOf A.toAeadOps (.denied p) c.protocolId c.sequence key
  have hf : f.length = 1 + seqBytes c.sequence + macBytes := by
    simp only [f, frameOf, Packet.body, List.length_cons, List.length_append, length_leBytes,
      A.length_encrypt, List.length_nil]
    omega
  have htake : (store c.packetBuffer 0 f).take (1 + seqBytes c.sequence + macBytes) = f := by
    rw [← hf, store, List.take_zero, List.nil_append, List.take_left' rfl]
  rw [htake] at hr
  have hsend : c.sendPacket A.toAeadOps writeTo (.denied p) key time = .ok ({ c with
      packetBuffer := store c.packetBuffer 0 f, sequence := c.sequence + 1, lastSendTime := time },
      f) := by
    rw [ClientInstance.sendPacket_of_write (P := .denied p) hw, sliceOf_ok (Int.le_refl 0)
      (by omega) (by simp only [lenFrom]; rw [length_store (by omega)]; omega), Go.ok_bind,
      Int.sub_zero, show (1 + (seqBytes c.sequence : Int) + (macBytes : Int)).toNat =
      1 + seqBytes c.sequence + macBytes by omega, show 0 + Int.toNat 0 = 0 from rfl,
      List.drop_zero, htake, Go.logErr_of_ne hwt, Go.ok_bind]
  exact ⟨_, hsend, rfl, hr⟩

/-- A fresh record's denial, read back with no window. -/
theorem newClientInstance_denied_read :
    let args : ReadArgs :=
      { packetLen := 18, protocolId := 0, currentTimestamp := 0,
        readPacketKey := some (List.replicate 32 0), privateKey := none,
        allowedPackets := List.replicate 7 1 }
    args.packetLen = 1 + seqBytes newClientInstance.sequence + macBytes ∧
      ∃ c', newClientInstance.sendPacket Aead.zeroTag.toAeadOps (fun _ _ => .ok ()) (.denied {})
          (List.replicate 32 0) 0 =
          .ok (c', frameOf Aead.zeroTag.toAeadOps (.denied {}) 0 0 (List.replicate 32 0)) ∧
        c'.sequence = 1 ∧
        readPacket Aead.zeroTag.toAeadOps (frameOf Aead.zeroTag.toAeadOps (.denied {}) 0 0
          (List.replicate 32 0)) args none = (none, .ok (.denied { sequence := 0 })) := by
  intro args
  have hlen : args.packetLen = 1 + seqBytes newClientInstance.sequence + macBytes := by decide
  exact ⟨hlen, ClientInstance.sendPacket_denied_read Aead.zeroTag _ newClientInstance_valid {}
    (List.replicate 32 0) 0 (Go.ok_ne_panic _) hlen rfl rfl rfl (by decide) none⟩

end Netcode
