import Netcode.Packet.Read

namespace Netcode

/-!
# netcode.io — the receive path never indexes out of range

A Go panic is what an index or a slice bound out of range gives, so "`Read` returns `nil`
or an error" is "`Read` does not panic".  This module shows it for every datagram, from
the readers up.

* The fixed-width readers panic only in `ReadUint64` on one to seven bytes
  (`readUint64_ne_panic`); `readSequence`, `ReadShared` and the packet bodies never panic,
  each because its length check comes before the reads it protects.
* `checkSequenced_ne_panic` — with an `allowedPackets` of `ConnectionNumPackets` entries,
  indexing it by a type that passed the type check stays in range.
* `ConnectTokenPrivate.read_ne_panic` — the private token's reader is safe on a plaintext
  of at least eight bytes; under the AEAD contract a 1024-byte token opens to 1008.
* `read_never_panics` — for a non-empty datagram, `packetLen = len(d)` and a mask of
  `ConnectionNumPackets` entries, `NewPacket(d)` returns, and the `Read` of every one of
  the seven variants, under an AEAD meeting the contract, returns a value or an error.
-/

/-! ### The token readers -/

/-- The IPv6 loop of ReadShared never panics. -/
theorem readIpv6Loop_ne_panic : ∀ (k : Nat) (buffer : Bytes), readIpv6Loop k buffer ≠ .panic
  | 0, _ => Go.ok_ne_panic _
  | k + 1, buffer => Go.bind_ne_panic (readUint16_ne_panic _ _) fun _ _ =>
      Go.bind_ne_panic (readIpv6Loop_ne_panic k _) fun _ _ => Go.ok_ne_panic _

/-- Reading one server address never panics. -/
theorem readServer_ne_panic (buffer : Bytes) (port : UInt16) : readServer buffer port ≠ .panic := by
  refine Go.bind_ne_panic (readUint8_ne_panic _) fun ⟨b, t⟩ _ => ?_
  dsimp only
  split_ifs
  all_goals refine Go.bind_ne_panic ?_ fun ⟨_, _⟩ _ =>
    Go.bind_ne_panic (readUint16_ne_panic _ _) fun ⟨_, _⟩ _ => Go.ok_ne_panic _
  · exact readBytes_ne_panic _ _
  · exact readIpv6Loop_ne_panic _ _
  · exact Go.err_ne_panic _

/-- Reading any number of server addresses never panics. -/
theorem readServers_ne_panic :
    ∀ (k : Nat) (buffer : Bytes) (port : UInt16), readServers k buffer port ≠ .panic
  | 0, _, _ => Go.ok_ne_panic _
  | k + 1, buffer, port => Go.bind_ne_panic (readServer_ne_panic _ _) fun _ _ =>
      Go.bind_ne_panic (readServers_ne_panic k _ _) fun _ _ => Go.ok_ne_panic _

/-- `ReadShared` never panics: every reader it calls returns `io.EOF` on a short slice. -/
theorem readShared_ne_panic (shared : SharedTokenData) (buffer : Bytes) :
    shared.readShared buffer ≠ .panic := by
  refine Go.bind_ne_panic (readUint32_ne_panic _ _) fun _ _ => ?_
  refine Go.ite_ne_panic (fun _ => Go.err_ne_panic _) fun _ =>
    Go.ite_ne_panic (fun _ => Go.err_ne_panic _) fun _ => ?_
  exact Go.bind_ne_panic (readServers_ne_panic _ _ _) fun _ _ =>
    Go.bind_ne_panic (readBytes_ne_panic _ _) fun _ _ =>
      Go.bind_ne_panic (readBytes_ne_panic _ _) fun _ _ => Go.ok_ne_panic _

/-- The private token's `Read` is safe on a plaintext with no `uint64` cut short. -/
theorem ConnectTokenPrivate.read_ne_panic {p : ConnectTokenPrivate}
    (h : p.tokenData.length = 0 ∨ sizeUint64 ≤ p.tokenData.length) : p.read ≠ .panic :=
  Go.bind_ne_panic (readUint64_ne_panic h _) fun _ _ =>
    Go.bind_ne_panic (readShared_ne_panic _ _) fun _ _ =>
      Go.bind_ne_panic (Go.mapErr_ne_panic (readBytes_ne_panic _ _)) fun _ _ => Go.ok_ne_panic _

/-- `Decrypt` of the private token never panics. -/
theorem ConnectTokenPrivate.decrypt_ne_panic (A : AeadOps) (p : ConnectTokenPrivate)
    (protocolId expire sequence : UInt64) (key : Bytes) :
    p.decrypt A protocolId expire sequence key ≠ .panic := by
  unfold ConnectTokenPrivate.decrypt
  refine Go.ite_ne_panic (fun _ => Go.err_ne_panic _) fun _ => ?_
  rw [buildTokenCryptData_eq, Go.ok_bind]
  refine Go.bind_ne_panic ?_ fun _ _ => Go.ok_ne_panic _
  unfold decryptAead
  split
  · exact Go.ok_ne_panic _
  · exact Go.err_ne_panic _

/-! ### The sequenced path -/

/-- Reading the sequence bytes never panics. -/
theorem readSequence_ne_panic (buf : Bytes) (packetLen : Int) (b : UInt8) :
    readSequence buf packetLen b ≠ .panic := by
  unfold readSequence
  exact Go.ite_ne_panic (fun _ => Go.err_ne_panic _) fun _ =>
    Go.ite_ne_panic (fun _ => Go.err_ne_panic _) fun _ => Go.map_ne_panic (readOr_ne_panic _ _ _)

/-- The header reader never panics. -/
theorem readPacketHeader_ne_panic (d : Bytes) (packetLen : Int) :
    readPacketHeader d packetLen ≠ .panic :=
  Go.bind_ne_panic (Go.mapErr_ne_panic (readUint8_ne_panic _)) fun _ _ =>
    Go.bind_ne_panic (readSequence_ne_panic _ _ _) fun _ _ => Go.ok_ne_panic _

/-- With a mask of `ConnectionNumPackets` entries, indexing it by a type that passed the
    type check stays in range. -/
theorem checkSequenced_ne_panic {allowed : Bytes} (h : allowed.length = connectionNumPackets.toNat)
    (packetLen : Int) (b : UInt8) (key : Option Bytes) :
    checkSequenced packetLen b key allowed ≠ .panic := by
  unfold checkSequenced
  refine Go.ite_ne_panic (fun _ => Go.err_ne_panic _) fun _ =>
    Go.ite_ne_panic (fun _ => Go.err_ne_panic _) fun _ =>
      Go.ite_ne_panic (fun _ => Go.err_ne_panic _) fun ht => ?_
  rw [List.getElem?_eq_getElem (show (b &&& 0xF).toNat < allowed.length from
    h ▸ UInt8.not_le.mp ht)]
  exact Go.ite_ne_panic (fun _ => Go.err_ne_panic _) fun _ => Go.ok_ne_panic _

/-- The replay check never panics. -/
theorem replayCheck_snd_ne_panic (rp : Option ReplayProtection) (t : PacketType) (s : UInt64) :
    (replayCheck rp t s).2 ≠ .panic := by
  unfold replayCheck
  split
  · split_ifs
    · exact Go.err_ne_panic _
    · exact Go.ok_ne_panic _
    · exact Go.ok_ne_panic _
  · exact Go.ok_ne_panic _

/-- With a table of allowed packets for every type, the sequence check never panics. -/
theorem validateSequence_snd_ne_panic {allowed : Bytes}
    (h : allowed.length = connectionNumPackets.toNat) (packetLen : Int) (b : UInt8) (s : UInt64)
    (key : Option Bytes) (rp : Option ReplayProtection) :
    (validateSequence packetLen b s key allowed rp).2 ≠ .panic := by
  unfold validateSequence
  rcases hc : checkSequenced packetLen b key allowed with t | e | _
  · exact replayCheck_snd_ne_panic _ _ _
  · exact Go.err_ne_panic _
  · exact absurd hc (checkSequenced_ne_panic h _ _ _)

/-- **`decryptPacket` never panics** once the mask has `ConnectionNumPackets` entries,
    whatever the datagram, `packetLen` and AEAD. -/
theorem decryptPacket_snd_ne_panic (A : AeadOps) {allowed : Bytes}
    (h : allowed.length = connectionNumPackets.toNat) (d : Bytes) (packetLen : Int)
    (protocolId now : UInt64) (key : Option Bytes) (rp : Option ReplayProtection) :
    (decryptPacket A d packetLen protocolId now key allowed rp).2 ≠ .panic := by
  unfold decryptPacket
  rcases hh : readPacketHeader d packetLen with ⟨rest, b, s⟩ | e | _
  · refine Go.bind_ne_panic (validateSequence_snd_ne_panic h _ _ _ _ _) fun _ _ => ?_
    rw [packetCryptData_eq, Go.ok_bind]
    refine Go.ite_ne_panic (fun _ => Go.err_ne_panic _) fun _ => ?_
    refine Go.bind_ne_panic (Go.mapErr_ne_panic (readBytes_ne_panic _ _)) fun _ _ =>
      Go.bind_ne_panic (Go.mapErr_ne_panic ?_) fun _ _ => Go.ok_ne_panic _
    unfold decryptAead
    split
    · exact Go.ok_ne_panic _
    · exact Go.err_ne_panic _
  · exact Go.err_ne_panic _
  · exact absurd hh (readPacketHeader_ne_panic _ _)

/-! ### The request path -/

/-- NewConnectTokenPrivateEncrypted of a buffer of at least CONNECT_TOKEN_PRIVATE_BYTES does
    not panic. -/
theorem newConnectTokenPrivateEncrypted_ne_panic {buffer : Bytes}
    (h : connectTokenPrivateBytes ≤ buffer.length) : newConnectTokenPrivateEncrypted buffer ≠ .panic := by
  unfold newConnectTokenPrivateEncrypted
  rw [if_neg (Nat.not_lt.mpr h)]
  exact Go.ok_ne_panic _

/-- Under the AEAD contract a token that opened has `MAC_BYTES` fewer bytes than the 1024 it
    was opened from, enough for its `Read`. -/
theorem ConnectTokenPrivate.read_decrypted_ne_panic (A : Aead) {p p' : ConnectTokenPrivate}
    {protocolId expire sequence : UInt64} {key : Bytes}
    (h : p.decrypt A.toAeadOps protocolId expire sequence key = .ok p') : p'.read ≠ .panic := by
  obtain ⟨hl, hdec, -⟩ := ConnectTokenPrivate.decrypt_eq_ok h
  have hmac := A.length_decrypt _ _ _ _ _ hdec
  refine ConnectTokenPrivate.read_ne_panic (.inr ?_)
  simp only [connectTokenPrivateBytes, macBytes, sizeUint64] at hl hmac ⊢
  omega

/-- **`RequestPacket.Read` never panics** when `packetLen` is the datagram's length and the
    mask is not empty: the length check comes before every read. -/
theorem RequestPacket.read_ne_panic (A : Aead) (p : RequestPacket) {d : Bytes} {args : ReadArgs}
    (hl : args.packetLen = d.length) (ha : 0 < args.allowedPackets.length) :
    p.read A.toAeadOps d args ≠ .panic := by
  unfold RequestPacket.read
  refine Go.bind_ne_panic (Go.mapErr_ne_panic (readUint8_ne_panic _)) fun ⟨d1, ty⟩ h0 => ?_
  obtain rfl := readUint8_eq_ok.mp (Go.mapErr_eq_ok.mp h0)
  refine Go.ite_ne_panic (fun _ => Go.err_ne_panic _) fun _ => ?_
  rw [List.getElem?_eq_getElem ha]
  refine Go.ite_ne_panic (fun _ => Go.err_ne_panic _) fun _ =>
    Go.ite_ne_panic (fun _ => Go.err_ne_panic _) fun hlen => ?_
  have hd1 : d1.length = 1061 := by
    simp only [hl, List.length_cons, versionInfoBytes, connectTokenPrivateBytes, ne_eq,
      not_not] at hlen
    omega
  cases args.privateKey with
  | none => exact Go.err_ne_panic _
  | some key =>
  refine Go.bind_ne_panic (Go.mapErr_ne_panic (readBytes_ne_panic _ _)) fun ⟨d2, vi⟩ h1 => ?_
  obtain ⟨-, rfl, -⟩ := readBytes_eq_ok.mp (Go.mapErr_eq_ok.mp h1)
  refine Go.ite_ne_panic (fun _ => Go.err_ne_panic _) fun _ => ?_
  refine Go.bind_ne_panic (Go.mapErr_ne_panic (readUint64_ne_panic (.inr ?_) _)) fun ⟨d3, _⟩ h2 => ?_
  · simp only [List.length_drop, hd1, versionInfoBytes, sizeUint64]; omega
  obtain rfl := readUint64_rest (Go.mapErr_eq_ok.mp h2)
  refine Go.ite_ne_panic (fun _ => Go.err_ne_panic _) fun _ => ?_
  refine Go.bind_ne_panic (Go.mapErr_ne_panic (readUint64_ne_panic (.inr ?_) _)) fun ⟨d4, _⟩ h3 => ?_
  · simp only [List.length_drop, hd1, versionInfoBytes, sizeUint64]; omega
  obtain rfl := readUint64_rest (Go.mapErr_eq_ok.mp h3)
  refine Go.ite_ne_panic (fun _ => Go.err_ne_panic _) fun _ => ?_
  refine Go.bind_ne_panic (readUint64_ne_panic (.inr ?_) _) fun ⟨d5, _⟩ h4 => ?_
  · simp only [List.length_drop, hd1, versionInfoBytes, sizeUint64]; omega
  obtain rfl := readUint64_rest h4
  refine Go.ite_ne_panic (fun _ => Go.err_ne_panic _) fun _ => ?_
  refine Go.bind_ne_panic (readBytes_ne_panic _ _) fun ⟨_, tb⟩ h5 => ?_
  obtain ⟨hle, -, rfl⟩ := readBytes_eq_ok.mp h5
  exact Go.bind_ne_panic (newConnectTokenPrivateEncrypted_ne_panic (List.length_take_of_le hle).ge)
    fun _ _ => Go.bind_ne_panic (Go.mapErr_ne_panic (ConnectTokenPrivate.decrypt_ne_panic _ _ _ _ _ _))
      fun _ h7 => Go.bind_ne_panic
        (Go.mapErr_ne_panic (ConnectTokenPrivate.read_decrypted_ne_panic A (Go.mapErr_eq_ok.mp h7)))
        fun _ _ => Go.ok_ne_panic _

/-! ### The bodies and the seven `Read`s -/

/-- An empty body's check never panics. -/
theorem emptyBody_ne_panic {P : Type} (f : UInt64 → P) (sequence : UInt64) (pt : Bytes) :
    emptyBody f sequence pt ≠ .panic :=
  Go.ite_ne_panic (fun _ => Go.err_ne_panic _) fun _ => Go.ok_ne_panic _

/-- The size check of the challenge body comes before its `ReadUint64`. -/
theorem challengeBody_ne_panic (wrongSize : String) (old : UInt64) (pt : Bytes) :
    challengeBody wrongSize old pt ≠ .panic := by
  unfold challengeBody
  refine Go.ite_ne_panic (fun _ => Go.err_ne_panic _) fun hl => ?_
  refine Go.bind_ne_panic (Go.mapErr_ne_panic (readUint64_ne_panic (.inr ?_) _)) fun ⟨_, _⟩ _ =>
    Go.bind_ne_panic (Go.mapErr_ne_panic (readBytes_ne_panic _ _)) fun ⟨_, _⟩ _ => Go.ok_ne_panic _
  simp only [sizeUint64]
  omega

/-- With a table of allowed packets for every type and a body reader that never panics,
    reading a sequenced packet never panics. -/
theorem readSequenced_snd_ne_panic {P : Type} (A : AeadOps) {body : UInt64 → Bytes → Go P}
    (hbody : ∀ sequence pt, body sequence pt ≠ .panic) (d : Bytes) {args : ReadArgs}
    (ha : args.allowedPackets.length = connectionNumPackets.toNat) (rp : Option ReplayProtection) :
    (readSequenced A body d args rp).2 ≠ .panic :=
  Go.bind_ne_panic (decryptPacket_snd_ne_panic A ha _ _ _ _ _ _) fun r _ => hbody r.1 r.2

/-- **The `Read` of every variant never panics**, whatever the receiver holds. -/
theorem Packet.read_ne_panic (A : Aead) (P : Packet) {d : Bytes} {args : ReadArgs}
    (hl : args.packetLen = d.length) (ha : args.allowedPackets.length = connectionNumPackets.toNat)
    (rp : Option ReplayProtection) : (P.read A.toAeadOps d args rp).2 ≠ .panic := by
  have hseq {Q : Type} {body : UInt64 → Bytes → Go Q} (hb : ∀ s pt, body s pt ≠ .panic) :=
    readSequenced_snd_ne_panic A.toAeadOps hb d ha rp
  cases P with
  | request p =>
    exact Go.map_ne_panic (RequestPacket.read_ne_panic A p hl (by rw [ha]; decide))
  | denied p => exact Go.map_ne_panic (hseq (emptyBody_ne_panic _))
  | challenge p => exact Go.map_ne_panic (hseq fun _ _ => Go.map_ne_panic (challengeBody_ne_panic _ _ _))
  | response p => exact Go.map_ne_panic (hseq fun _ _ => Go.map_ne_panic (challengeBody_ne_panic _ _ _))
  | keepAlive p =>
    exact Go.map_ne_panic (hseq fun _ _ => Go.ite_ne_panic (fun _ => Go.err_ne_panic _) fun _ =>
      Go.bind_ne_panic (Go.mapErr_ne_panic (readUint32_ne_panic _ _)) fun ⟨_, _⟩ _ =>
        Go.bind_ne_panic (Go.mapErr_ne_panic (readUint32_ne_panic _ _)) fun ⟨_, _⟩ _ =>
          Go.ok_ne_panic _)
  | payload p =>
    exact Go.map_ne_panic (hseq fun _ _ => Go.ite_ne_panic (fun _ => Go.err_ne_panic _) fun _ =>
      Go.ite_ne_panic (fun _ => Go.err_ne_panic _) fun _ => Go.ok_ne_panic _)
  | disconnect p => exact Go.map_ne_panic (hseq (emptyBody_ne_panic _))

/-- `NewPacket` returns on every non-empty datagram: `Peek` reads its first byte. -/
theorem newPacket_ok {d : Bytes} (hd : 1 ≤ d.length) : ∃ P, newPacket d = .ok P := by
  cases d with
  | nil => exact absurd hd (by decide)
  | cons b _ => exact ⟨_, rfl⟩

/-- **The receive path never panics**: on a non-empty datagram whose `packetLen` is its
    length, with a mask of `ConnectionNumPackets` entries, `NewPacket` returns, and the
    `Read` of every packet, under every key, timestamp, window and AEAD meeting the
    contract, returns a packet or an error. -/
theorem read_never_panics (A : Aead) {d : Bytes} (hd : 1 ≤ d.length) {args : ReadArgs}
    (hl : args.packetLen = d.length) (ha : args.allowedPackets.length = connectionNumPackets.toNat)
    (rp : Option ReplayProtection) :
    (∃ P, newPacket d = .ok P) ∧ ∀ P : Packet, (P.read A.toAeadOps d args rp).2 ≠ .panic :=
  ⟨newPacket_ok hd, fun P => Packet.read_ne_panic A P hl ha rp⟩

/-- A one-byte frame, with every packet type allowed, makes a packet, and reading it does not
    panic. -/
theorem read_never_panics_one_byte :
    let args : ReadArgs :=
      { packetLen := 1, protocolId := 0, currentTimestamp := 0, readPacketKey := none,
        privateKey := none, allowedPackets := List.replicate 7 1 }
    1 ≤ ([0x10] : Bytes).length ∧ args.packetLen = ([0x10] : Bytes).length ∧
      args.allowedPackets.length = connectionNumPackets.toNat ∧
      ((∃ P, newPacket [0x10] = .ok P) ∧
        ∀ P : Packet, (P.read Aead.zeroTag.toAeadOps [0x10] args none).2 ≠ .panic) :=
  by
  intro args
  exact ⟨by decide, rfl, rfl, @read_never_panics Aead.zeroTag [0x10] (by decide) args rfl rfl none⟩

end Netcode
