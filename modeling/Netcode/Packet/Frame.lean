import Netcode.Packet.Write
import Netcode.Packet.Receive

namespace Netcode

/-!
# netcode.io — the sequenced frame, read back

§4.7 of the spec fixes the frame of the six sequenced packets: the prefix byte (type in
the low nibble, the sequence's width `k` in the high one), the sequence in `k`
little-endian bytes, and the body's plaintext encrypted under the standard associated
data `packetAad` and the nonce `nonceOf sequence`.  The inversion lemmas of `Read` say
what each reader *rejects*; this module shows what it *accepts*: every well-formed frame.

* `Packet.body`, `frameOf` — the body plaintext of each packet and its frame, modelled
  from the spec; `Packet.Framed` — the packets a frame carries field for field.
* `decryptPacket_frame` — `decryptPacket` opens the frame of an allowed type under the
  key it was sealed with, and answers as the replay check does.
* `readPacket_frame` — `NewPacket(d).Read(d, …)` of every frame, followed by any bytes,
  returns the packet with the frame's sequence, and leaves the window as the replay check
  leaves it.
* `deniedPacket_roundTrip` — `DeniedPacket.Write`, the one sequenced writer whose output
  is a frame, writes one that `Read` reads back.
* `receive_frames` — a session of frames with rising sequences, delivered in order to
  `Read` with one window from its reset state: each comes back, none is taken for a replay.
-/

/-! ### The frame -/

/-- Modelled from the spec (§4.7): the body plaintext of a sequenced packet — nothing for a
    denial or a disconnect, the challenge token sequence and data, the client index and
    max clients of a keep-alive, the payload bytes. -/
def Packet.body : Packet → Bytes
  | .request _ => []
  | .denied _ => []
  | .challenge p => leBytes sizeUint64 p.challengeTokenSequence.toNat ++ p.challengeTokenData
  | .response p => leBytes sizeUint64 p.challengeTokenSequence.toNat ++ p.challengeTokenData
  | .keepAlive p => leBytes sizeUint32 p.clientIndex.toNat ++ leBytes sizeUint32 p.maxClients.toNat
  | .payload p => p.payloadData
  | .disconnect _ => []

/-- Modelled from the spec (§4.7): the sequenced frame of `P` at `sequence`, sealed under
    `key` for `protocolId`. -/
def frameOf (A : AeadOps) (P : Packet) (protocolId sequence : UInt64) (key : Bytes) : Bytes :=
  prefixByteOf P.getType sequence :: (leBytes (seqBytes sequence) sequence.toNat ++
    A.encrypt P.body (packetAad (prefixByteOf P.getType sequence) protocolId) (nonceOf sequence) key)

/-- Modelled from the spec (§4.7): the sequenced packets a frame carries field for field —
    a challenge token of `CHALLENGE_TOKEN_BYTES`, and a payload of 1 to
    `MAX_PAYLOAD_BYTES` bytes whose `PayloadBytes` is its length. -/
def Packet.Framed : Packet → Prop
  | .request _ => False
  | .denied _ => True
  | .challenge p => p.challengeTokenData.length = challengeTokenBytes
  | .response p => p.challengeTokenData.length = challengeTokenBytes
  | .keepAlive _ => True
  | .payload p => p.payloadBytes.toNat = p.payloadData.length ∧ 1 ≤ p.payloadData.length ∧
      p.payloadData.length ≤ maxPayloadBytes
  | .disconnect _ => True

/-- Whether a packet can be framed is decidable. -/
instance (P : Packet) : Decidable P.Framed :=
  match P with
  | .request _ => inferInstanceAs (Decidable False)
  | .denied _ => inferInstanceAs (Decidable True)
  | .challenge p => inferInstanceAs (Decidable (p.challengeTokenData.length = challengeTokenBytes))
  | .response p => inferInstanceAs (Decidable (p.challengeTokenData.length = challengeTokenBytes))
  | .keepAlive _ => inferInstanceAs (Decidable True)
  | .payload p => inferInstanceAs (Decidable (p.payloadBytes.toNat = p.payloadData.length ∧
      1 ≤ p.payloadData.length ∧ p.payloadData.length ≤ maxPayloadBytes))
  | .disconnect _ => inferInstanceAs (Decidable True)

/-- `P` with the sequence a `Read` sets. -/
def Packet.withSequence : Packet → UInt64 → Packet
  | .request p, _ => .request p
  | .denied p, s => .denied { p with sequence := s }
  | .challenge p, s => .challenge { p with sequence := s }
  | .response p, s => .response { p with sequence := s }
  | .keepAlive p, s => .keepAlive { p with sequence := s }
  | .payload p, s => .payload { p with sequence := s }
  | .disconnect p, s => .disconnect { p with sequence := s }

/-! ### Opening a frame -/

/-- **`decryptPacket` opens a frame of an allowed type**: under an AEAD that meets the
    contract, with `packetLen` the frame's length, whatever follows it, the sequence and
    the body come back once the replay check passes, and the window is as the replay
    check leaves it. -/
theorem decryptPacket_frame (A : Aead) {t : PacketType} (ht : t < connectionNumPackets)
    (body : Bytes) (protocolId s now : UInt64) (key rest : Bytes) {allowed : Bytes} {a : UInt8}
    (ha : allowed[t.toNat]? = some a) (ha0 : a ≠ 0) (rp : Option ReplayProtection) :
    decryptPacket A.toAeadOps (prefixByteOf t s :: (leBytes (seqBytes s) s.toNat ++
        (A.encrypt body (packetAad (prefixByteOf t s) protocolId) (nonceOf s) key ++ rest)))
      (1 + seqBytes s + body.length + macBytes) protocolId now (some key) allowed rp =
      ((replayCheck rp t s).1, (replayCheck rp t s).2 >>= fun _ => .ok (s, body)) := by
  obtain ⟨h1, h8, hlt, -⟩ := bytesRequired_spec s
  obtain ⟨hlo, hhi⟩ : prefixByteOf t s &&& 0xF = t ∧
      prefixByteOf t s >>> 4 = sequenceNumberBytesRequired s :=
    prefixByte_nibbles (Nat.lt_trans (show t.toNat < 7 from ht) (by decide)) h8
  have hk : (prefixByteOf t s >>> 4).toNat = seqBytes s := congrArg UInt8.toNat hhi
  have h1' : 1 ≤ seqBytes s := h1
  set ct := A.encrypt body (packetAad (prefixByteOf t s) protocolId) (nonceOf s) key
  have hct : ct.length = body.length + macBytes := A.length_encrypt _ _ _ _
  have hhead := @readPacketHeader_ok (prefixByteOf t s) (1 + seqBytes s + body.length + macBytes) s
    (ct ++ rest) (by rw [hk]; exact h1)
    (by rw [hk]; exact h8) (by rw [hk]; simp only [seqBytes]; omega) (by rw [hk]; exact hlt)
  rw [hk] at hhead
  have hcheck := @checkSequenced_ok (1 + seqBytes s + body.length + macBytes) (prefixByteOf t s) key
    allowed (by omega) (by rw [hlo]; exact ht) a (by rw [hlo]; exact ha) ha0
  rw [hlo] at hcheck
  have hsize : (1 + seqBytes s + body.length + macBytes : Int) -
      (((prefixByteOf t s :: (leBytes (seqBytes s) s.toNat ++ (ct ++ rest))).length : Int) -
        ((ct ++ rest).length : Int)) = (ct.length : Int) := by
    simp only [List.length_cons, List.length_append, length_leBytes, hct]
    omega
  unfold decryptPacket
  rw [hhead, Go.withState_ok]
  dsimp only
  rw [validateSequence, hcheck, Go.withState_ok]
  refine Prod.ext rfl ?_
  dsimp only
  congr 1
  funext _
  rw [packetCryptData_eq, Go.ok_bind]
  dsimp only
  rw [hsize, if_neg (by omega), Int.toNat_ofNat, readBytes_append, Go.mapErr_ok, Go.ok_bind]
  dsimp only
  rw [Option.getD_some, decryptAead_encrypt, Go.mapErr_ok, Go.ok_bind]
  rfl

/-- The packet `NewPacket` allocates for `P`'s type. -/
def Packet.blank : Packet → Packet
  | .request _ => .request {}
  | .denied _ => .denied {}
  | .challenge _ => .challenge {}
  | .response _ => .response {}
  | .keepAlive _ => .keepAlive {}
  | .payload _ => .payload {}
  | .disconnect _ => .disconnect {}

/-- Every packet's type is below ConnectionNumPackets. -/
theorem Packet.getType_lt (P : Packet) : P.getType < connectionNumPackets := by
  cases P <;> simp only [Packet.getType] <;> decide

/-- A frame's prefix byte carries `P`'s type, so `NewPacket` allocates a packet of it. -/
theorem newPacket_frame (A : AeadOps) {P : Packet} (hP : P.Framed) (protocolId s : UInt64)
    (key rest : Bytes) :
    newPacket (frameOf A P protocolId s key ++ rest) = .ok (some P.blank) := by
  obtain ⟨hlo, -⟩ := prefixByte_nibbles
    (Nat.lt_trans (show P.getType.toNat < 7 from P.getType_lt) (by decide)) (seqBytes_bounds s).2
  rw [frameOf, List.cons_append, newPacket, peek, Go.ok_bind,
    show prefixByteOf P.getType s &&& 0xF = P.getType from hlo]
  cases P with
  | request => exact absurd hP id
  | _ => rfl

/-- `readSequenced` of a frame: the body's reader runs on the body's plaintext once the
    replay check passes. -/
theorem readSequenced_frame (A : Aead) {Q : Type} (f : UInt64 → Bytes → Go Q) (P : Packet)
    (protocolId s : UInt64) (key rest : Bytes) {args : ReadArgs}
    (hlen : args.packetLen = 1 + seqBytes s + P.body.length + macBytes)
    (hpid : args.protocolId = protocolId) (hkey : args.readPacketKey = some key) {a : UInt8}
    (ha : args.allowedPackets[P.getType.toNat]? = some a) (ha0 : a ≠ 0)
    (rp : Option ReplayProtection) :
    readSequenced A.toAeadOps f (frameOf A.toAeadOps P protocolId s key ++ rest) args rp =
      ((replayCheck rp P.getType s).1, (replayCheck rp P.getType s).2 >>= fun _ => f s P.body) := by
  unfold readSequenced
  rw [frameOf, List.cons_append, List.append_assoc, hlen, hpid, hkey,
    decryptPacket_frame A P.getType_lt P.body protocolId s _ key rest ha ha0 rp]
  refine Prod.ext rfl ?_
  dsimp only
  cases (replayCheck rp P.getType s).2 <;> rfl

/-- `challengeBody` of a challenge token sequence and `CHALLENGE_TOKEN_BYTES` of data. -/
theorem challengeBody_leBytes (w : String) (v : UInt64) {data : Bytes}
    (hd : data.length = challengeTokenBytes) :
    challengeBody w 0 (leBytes sizeUint64 v.toNat ++ data) = .ok (v, data) := by
  have hb : readBytes data challengeTokenBytes = .ok ([], data) := by
    simpa [hd] using readBytes_append data []
  rw [challengeBody, if_neg (by simp only [List.length_append, length_leBytes, hd, sizeUint64]; omega),
    readUint64_leBytes, Go.mapErr_ok, Go.ok_bind]
  dsimp only
  rw [hb, Go.mapErr_ok, Go.ok_bind]
  rfl

/-- The `Read` of the packet `NewPacket` allocates, on a frame: the packet with the frame's
    sequence once the replay check passes. -/
theorem Packet.read_blank_frame (A : Aead) {P : Packet} (hP : P.Framed) (protocolId s : UInt64)
    (key rest : Bytes) {args : ReadArgs}
    (hlen : args.packetLen = 1 + seqBytes s + P.body.length + macBytes)
    (hpid : args.protocolId = protocolId) (hkey : args.readPacketKey = some key) {a : UInt8}
    (ha : args.allowedPackets[P.getType.toNat]? = some a) (ha0 : a ≠ 0)
    (rp : Option ReplayProtection) :
    P.blank.read A.toAeadOps (frameOf A.toAeadOps P protocolId s key ++ rest) args rp =
      ((replayCheck rp P.getType s).1,
        (replayCheck rp P.getType s).2 >>= fun _ => .ok (P.withSequence s)) := by
  have hs {Q : Type} (f : UInt64 → Bytes → Go Q) :=
    readSequenced_frame A f P protocolId s key rest hlen hpid hkey ha ha0 rp
  refine Prod.ext ?_ ?_
  all_goals
    rcases P with p | p | p | p | p | p | p
    all_goals first
      | exact absurd hP id
      | simp only [Packet.blank, Packet.read, DeniedPacket.read, ChallengePacket.read,
          ResponsePacket.read, KeepAlivePacket.read, PayloadPacket.read, DisconnectPacket.read, hs]
  · cases (replayCheck rp _ s).2 <;> rfl
  · simp only [Packet.body, challengeBody_leBytes _ _ hP]
    cases (replayCheck rp _ s).2 <;> rfl
  · simp only [Packet.body, challengeBody_leBytes _ _ hP]
    cases (replayCheck rp _ s).2 <;> rfl
  · have h2 := readUint32_leBytes p.maxClients []
    rw [List.append_nil] at h2
    simp only [Packet.body, List.length_append, length_leBytes, readUint32_leBytes, h2,
      Go.mapErr_ok, Go.ok_bind]
    cases (replayCheck rp _ s).2 <;> rfl
  · obtain ⟨hb, h1, hmax⟩ := hP
    have hsize : UInt32.ofNat p.payloadData.length = p.payloadBytes :=
      UInt32.toNat.inj (by
        rw [← hb]; exact Nat.mod_eq_of_lt (by simp only [maxPayloadBytes] at hmax; omega))
    simp only [Packet.body, hsize, if_neg (show ¬ p.payloadBytes < 1 from fun h =>
        absurd (show p.payloadBytes.toNat < 1 from h) (by omega)),
      if_neg (show ¬ p.payloadBytes.toNat > maxPayloadBytes by omega)]
    cases (replayCheck rp _ s).2 <;> rfl
  · cases (replayCheck rp _ s).2 <;> rfl

/-- **`NewPacket(d).Read(d, …)` decodes every frame.**  Under an AEAD meeting the
    contract, for every sequenced packet a frame carries, every protocol id, sequence and
    key, and whatever follows the frame in the buffer: with `packetLen` the frame's
    length, the caller's protocol id and key, a mask that allows the type, and a window
    that accepts the sequence, `Read` returns the packet with the frame's sequence, and
    the window is the one the replay check leaves. -/
theorem readPacket_frame (A : Aead) {P : Packet} (hP : P.Framed) (protocolId s : UInt64)
    (key rest : Bytes) {args : ReadArgs}
    (hlen : args.packetLen = 1 + seqBytes s + P.body.length + macBytes)
    (hpid : args.protocolId = protocolId) (hkey : args.readPacketKey = some key) {a : UInt8}
    (ha : args.allowedPackets[P.getType.toNat]? = some a) (ha0 : a ≠ 0)
    {rp : Option ReplayProtection} (hr : (replayCheck rp P.getType s).2 = .ok ()) :
    readPacket A.toAeadOps (frameOf A.toAeadOps P protocolId s key ++ rest) args rp =
      ((replayCheck rp P.getType s).1, .ok (P.withSequence s)) := by
  rw [readPacket, newPacket_frame A.toAeadOps hP, Go.withState_ok]
  dsimp only
  rw [Packet.read_blank_frame A hP protocolId s key rest hlen hpid hkey ha ha0 rp, hr]
  rfl

/-- A keep-alive (client index 3 of 64) at sequence 1000, sealed by `Aead.zeroTag` for
    protocol id `0x1122`, read from a fresh window. -/
theorem readPacket_frame_keepAlive :
    let P : Packet := .keepAlive { clientIndex := 3, maxClients := 64 }
    let args : ReadArgs :=
      { packetLen := 27, protocolId := 0x1122, currentTimestamp := 0,
        readPacketKey := some (List.replicate 32 7), privateKey := none,
        allowedPackets := List.replicate 7 1 }
    P.Framed ∧ args.packetLen = 1 + seqBytes 1000 + P.body.length + macBytes ∧
      args.protocolId = 0x1122 ∧ args.readPacketKey = some (List.replicate 32 7) ∧
      args.allowedPackets[P.getType.toNat]? = some 1 ∧ (1 : UInt8) ≠ 0 ∧
      (replayCheck (some ReplayProtection.reset) P.getType 1000).2 = .ok () ∧
      readPacket Aead.zeroTag.toAeadOps
          (frameOf Aead.zeroTag.toAeadOps P 0x1122 1000 (List.replicate 32 7) ++ []) args
          (some ReplayProtection.reset) =
        ((replayCheck (some ReplayProtection.reset) P.getType 1000).1,
          .ok (.keepAlive { sequence := 1000, clientIndex := 3, maxClients := 64 })) := by
  intro P args
  have hP : P.Framed := trivial
  have hlen : args.packetLen = 1 + seqBytes 1000 + P.body.length + macBytes := by decide
  have hr : (replayCheck (some ReplayProtection.reset) P.getType 1000).2 = .ok () := by decide
  exact ⟨hP, hlen, rfl, rfl, rfl, by decide, hr,
    readPacket_frame Aead.zeroTag hP 0x1122 1000 (List.replicate 32 7) [] hlen rfl rfl rfl
      (by decide) hr⟩

/-! ### The denial, written and read -/

/-- **`DeniedPacket.Write` writes the frame**: with room for its header twice and a tag
    (the empty body is sliced after the advanced slice's own header), it stores the
    frame of the denial at the start of the buffer and returns the frame's length. -/
theorem DeniedPacket.write_frame (A : Aead) (p : DeniedPacket) {mem : Bytes}
    (protocolId s : UInt64) (key : Bytes) (hroom : 2 * (1 + seqBytes s) + macBytes ≤ mem.length) :
    p.write A.toAeadOps mem protocolId s key =
      .ok (store mem 0 (frameOf A.toAeadOps (.denied p) protocolId s key),
        1 + seqBytes s + macBytes) := by
  have hp := writePacketPrefix_ok connectionDenied s (show 0 + 1 + seqBytes s ≤ mem.length by omega)
  rw [Nat.zero_add] at hp
  set pre := prefixByteOf connectionDenied s :: leBytes (seqBytes s) s.toNat
  have hpre : pre.length = 1 + seqBytes s := by
    simp only [pre, List.length_cons, length_leBytes]; omega
  have hl1 : (store mem 0 pre).length = mem.length := length_store (by omega)
  set tag := A.encrypt [] (packetAad (prefixByteOf connectionDenied s) protocolId) (nonceOf s) key
  have htag : tag.length = macBytes := by rw [A.length_encrypt]; rfl
  have hpos : lenFrom (store mem 0 pre) 0 - lenFrom (store mem 0 pre) (1 + seqBytes s) =
      ((1 + seqBytes s : Nat) : Int) := by
    simp only [lenFrom, hl1]; omega
  have hw : writeBytes (store mem 0 pre) (1 + seqBytes s) tag =
      (store mem 0 (pre ++ tag), .ok (1 + seqBytes s + tag.length)) := by
    have hs := store_store mem 0 pre tag (Nat.zero_le _)
    rw [Nat.zero_add] at hs
    rw [writeBytes, writeChunk_ok (by omega), ← hpre, hs]
  have hl2 : (store mem 0 (pre ++ tag)).length = mem.length :=
    length_store (by rw [List.length_append]; omega)
  rw [DeniedPacket.write, hp, Go.ok_bind]
  dsimp only
  rw [hpos, encryptPacket, @sliceOf_ok (store mem 0 pre) (1 + seqBytes s) (1 + seqBytes s : Nat)
    (1 + seqBytes s : Nat) (by omega) (Int.le_refl _) (by simp only [lenFrom, hl1]; omega),
    Go.ok_bind, packetCryptData_eq, Go.ok_bind]
  dsimp only
  rw [Int.sub_self, Int.toNat_zero, List.take_zero]
  simp only [encryptAead, hw, ignoreErr, Go.ok_bind, Go.pure_eq, A.length_encrypt,
    List.length_nil, Nat.zero_add]
  rw [@sliceOf_ok (store mem 0 (pre ++ tag)) 0 0 (macBytes : Nat) (Int.le_refl _) (by omega)
    (by simp only [lenFrom, hl2]; omega), Go.ok_bind]
  simp only [Go.pure_eq, htag, frameOf, Packet.getType, Packet.body, pre, List.cons_append]
  refine congrArg Go.ok (Prod.ext rfl ?_)
  dsimp only
  omega

/-- **A denial round-trips**: for every sequence, protocol id and key, under an AEAD meeting
    the contract, `DeniedPacket.Write` into a buffer with room returns the frame's length
    `1 + k + MAC_BYTES`, and `NewPacket(d).Read(d, …)` of those bytes, with that length,
    the same protocol id and key, and a mask that allows denials, returns the denial with
    its sequence, whatever the window, which it leaves as it was. -/
theorem deniedPacket_roundTrip (A : Aead) (p : DeniedPacket) {mem : Bytes} (protocolId s : UInt64)
    (key : Bytes) (hroom : 2 * (1 + seqBytes s) + macBytes ≤ mem.length) {args : ReadArgs}
    (hlen : args.packetLen = 1 + seqBytes s + macBytes) (hpid : args.protocolId = protocolId)
    (hkey : args.readPacketKey = some key) {a : UInt8}
    (ha : args.allowedPackets[connectionDenied.toNat]? = some a) (ha0 : a ≠ 0)
    (rp : Option ReplayProtection) :
    ∃ mem', p.write A.toAeadOps mem protocolId s key = .ok (mem', 1 + seqBytes s + macBytes) ∧
      readPacket A.toAeadOps (mem'.take (1 + seqBytes s + macBytes)) args rp =
        (rp, .ok (.denied { p with sequence := s })) := by
  set f := frameOf A.toAeadOps (.denied p) protocolId s key
  have hf : f.length = 1 + seqBytes s + macBytes := by
    simp only [f, frameOf, Packet.body, List.length_cons, List.length_append, length_leBytes,
      A.length_encrypt, List.length_nil]
    omega
  have htake : (store mem 0 f).take (1 + seqBytes s + macBytes) = f ++ [] := by
    rw [List.append_nil, ← hf, store, List.take_zero, List.nil_append, List.take_left' rfl]
  have hr : replayCheck rp connectionDenied s = (rp, .ok ()) := by
    cases rp <;> rfl
  refine ⟨_, DeniedPacket.write_frame A p protocolId s key hroom, ?_⟩
  rw [htake, readPacket, newPacket_frame A.toAeadOps (P := .denied p) trivial, Go.withState_ok]
  dsimp only
  rw [Packet.read_blank_frame A (P := .denied p) trivial protocolId s key [] (by rw [hlen]; rfl)
    hpid hkey ha ha0 rp]
  simp only [Packet.getType, hr]
  rfl

/-! ### A session of frames -/

section
open ReplayProtection

/-- The replay check of a sequence the window is ready for passes, and leaves a window
    ready for every later sequence. -/
theorem replayCheck_ready {r : ReplayProtection} {s : UInt64} (h : Ready r s) (t : PacketType) :
    (replayCheck (some r) t s).2 = .ok () ∧ ∃ r', (replayCheck (some r) t s).1 = some r' ∧
      ∀ u : UInt64, s.toNat < u.toNat → u.toNat + 256 < 2 ^ 64 → Ready r' u := by
  simp only [replayCheck]
  split_ifs with hk h1
  · rw [h.alreadyReceived] at h1
    simp at h1
  · exact ⟨rfl, _, rfl, fun u hu hb => h.alreadyReceived_fst hu hb⟩
  · exact ⟨rfl, r, rfl, fun u hu hb => h.mono (Nat.le_of_lt hu) hb⟩

/-- The arguments of `Read` for the frame of `P` at `s`: the caller's, with the frame's
    length as `packetLen`. -/
def frameArgs (base : ReadArgs) (P : Packet) (s : UInt64) : ReadArgs :=
  { base with packetLen := 1 + seqBytes s + P.body.length + macBytes }

/-- The receive loop over frames with rising sequences, from a window ready for each of
    them: every frame is accepted, in order. -/
theorem receive_frames_ready (A : Aead) {base : ReadArgs} {protocolId : UInt64} {key : Bytes}
    (hpid : base.protocolId = protocolId) (hkey : base.readPacketKey = some key) :
    ∀ (fs : List (Packet × UInt64)) (r : ReplayProtection),
      (∀ x ∈ fs, x.1.Framed ∧ ∃ a, base.allowedPackets[x.1.getType.toNat]? = some a ∧ a ≠ 0) →
      fs.Pairwise (fun x y => x.2.toNat < y.2.toNat) → (∀ x ∈ fs, Ready r x.2) →
      receive A.toAeadOps (some r)
          (fs.map fun x => (frameOf A.toAeadOps x.1 protocolId x.2 key, frameArgs base x.1 x.2)) =
        fs.map fun x => .ok (x.1.withSequence x.2)
  | [], _, _, _, _ => rfl
  | x :: fs, r, hP, hsort, hready => by
    obtain ⟨hx, a, ha, ha0⟩ := hP x (.head _)
    obtain ⟨hr, r', hr', hnext⟩ := replayCheck_ready (hready x (.head _)) x.1.getType
    have hread : readPacket A.toAeadOps (frameOf A.toAeadOps x.1 protocolId x.2 key)
        (frameArgs base x.1 x.2) (some r) = (some r', .ok (x.1.withSequence x.2)) := by
      rw [← List.append_nil (frameOf _ _ _ _ _), readPacket, newPacket_frame A.toAeadOps hx,
        Go.withState_ok]
      dsimp only
      rw [Packet.read_blank_frame A hx protocolId x.2 key []
        (show (frameArgs base x.1 x.2).packetLen = _ from rfl)
        (show (frameArgs base x.1 x.2).protocolId = _ from hpid)
        (show (frameArgs base x.1 x.2).readPacketKey = _ from hkey)
        (show (frameArgs base x.1 x.2).allowedPackets[_]? = _ from ha) ha0, hr, hr']
      rfl
    have htail := receive_frames_ready A hpid hkey fs r' (fun y hy => hP y (.tail _ hy))
      (List.pairwise_cons.mp hsort).2 fun y hy =>
        hnext y.2 ((List.pairwise_cons.mp hsort).1 y hy) (hready y (.tail _ hy)).2.1
    simp only [List.map_cons, receive, hread, htail]

/-- **A sender's frames are all accepted, in order.**  Under an AEAD meeting the contract,
    with `ReplayProtection` modelled from the spec: for every list of sequenced packets a
    frame carries, with rising sequences below `2^64 - 256`, sealed under one key for one
    protocol id, delivered in order to `NewPacket(d).Read(d, …)` with one window from its
    reset state, the caller's protocol id and key, and a mask that allows their types:
    every `Read` returns its packet with its sequence. -/
theorem receive_frames (A : Aead) (base : ReadArgs) (protocolId : UInt64) (key : Bytes)
    (hpid : base.protocolId = protocolId) (hkey : base.readPacketKey = some key)
    (fs : List (Packet × UInt64))
    (hP : ∀ x ∈ fs, x.1.Framed ∧ ∃ a, base.allowedPackets[x.1.getType.toNat]? = some a ∧ a ≠ 0)
    (hsort : fs.Pairwise (fun x y => x.2.toNat < y.2.toNat))
    (hbound : ∀ x ∈ fs, x.2.toNat + 256 < 2 ^ 64) :
    receive A.toAeadOps (some reset)
        (fs.map fun x => (frameOf A.toAeadOps x.1 protocolId x.2 key, frameArgs base x.1 x.2)) =
      fs.map fun x => .ok (x.1.withSequence x.2) :=
  receive_frames_ready A hpid hkey fs reset hP hsort fun x hx => ready_reset (hbound x hx)

/-- A keep-alive at sequence 1 and a two-byte payload at sequence 2, sealed by
    `Aead.zeroTag`, received from a reset window. -/
theorem receive_frames_keepAlive_payload :
    let base : ReadArgs :=
      { packetLen := 0, protocolId := 0x1122, currentTimestamp := 0,
        readPacketKey := some (List.replicate 32 7), privateKey := none,
        allowedPackets := List.replicate 7 1 }
    let fs : List (Packet × UInt64) :=
      [(.keepAlive { clientIndex := 3, maxClients := 64 }, 1),
        (.payload { payloadBytes := 2, payloadData := [5, 6] }, 2)]
    receive Aead.zeroTag.toAeadOps (some reset)
        (fs.map fun x => (frameOf Aead.zeroTag.toAeadOps x.1 0x1122 x.2 (List.replicate 32 7),
          frameArgs base x.1 x.2)) =
      fs.map fun x => .ok (x.1.withSequence x.2) := by
  intro base fs
  have hP : ∀ x ∈ fs, x.1.Framed ∧ ∃ a, base.allowedPackets[x.1.getType.toNat]? = some a ∧ a ≠ 0 := by
    intro x hx
    simp only [fs, List.mem_cons, List.mem_singleton, List.not_mem_nil, or_false] at hx
    rcases hx with rfl | rfl <;> exact ⟨by decide, 1, rfl, by decide⟩
  exact receive_frames Aead.zeroTag base 0x1122 (List.replicate 32 7) rfl rfl fs hP (by decide)
    (by decide)

end

end Netcode
