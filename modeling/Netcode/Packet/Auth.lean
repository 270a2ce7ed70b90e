import Netcode.Packet.Read

namespace Netcode

/-!
# netcode.io — what an accepted datagram authenticates

Under an AEAD that opens only what its `EncryptAead` produced (`AeadOps.OnlyLogged`, with
the log of every `EncryptAead` call), what the readers' `DecryptAead` checks binds the
cleartext fields of the datagram.

* `decryptPacket_authenticated` — the body of an accepted sequenced datagram was encrypted
  under `packetAad b p` and `nonceOf s`, for its own prefix byte `b`, the reader's
  protocol id `p` and its own sequence `s`.  Both are injective (`packetAad_inj`,
  `nonceOf_inj`), so a frame whose prefix byte or sequence bytes were altered, or that is
  read under another protocol id, is accepted only if the key's holder wrote that frame
  too.
* `requestPacket_read_authenticated` — the token of an accepted request was encrypted
  under `tokenAad protocolId expire` and `nonceOf sequence` (`tokenAad_inj`), from the
  plaintext the token was read from: the cleartext protocol id, expire timestamp and
  token sequence are those of a token the private key's holder issued.
-/

section
variable {A : AeadOps} {log : List (Bytes × Bytes × Bytes × Bytes)}

/-- **An accepted sequenced datagram is a frame the key's holder wrote**: its body is the
    encryption of the returned plaintext under its own prefix byte, the reader's protocol
    id and its own sequence; if every logged encryption under the key is of a frame among
    `frames`, the datagram's `(prefixByte, protocolId, sequence)` is among them. -/
theorem decryptPacket_authenticated {d : Bytes} {packetLen : Int} {p now : UInt64}
    {key : Option Bytes} {allowed : Bytes} {rp rp' : Option ReplayProtection} {s : UInt64}
    {pt : Bytes} {frames : List (UInt8 × UInt64 × UInt64)} (hA : A.OnlyLogged log)
    (hlog : ∀ e ∈ log, e.2.2.2 = key.getD [] →
      ∃ f ∈ frames, e.2.1 = packetAad f.1 f.2.1 ∧ e.2.2.1 = nonceOf f.2.2)
    (h : decryptPacket A d packetLen p now key allowed rp = (rp', .ok (s, pt))) :
    ∃ (b : UInt8) (rest : Bytes), d = b :: (leBytes (b >>> 4).toNat s.toNat ++ rest) ∧
      (b, p, s) ∈ frames ∧ (pt, packetAad b p, nonceOf s, key.getD []) ∈ log ∧
      rest.take (packetLen - ((1 : Int) + (b >>> 4).toNat)).toNat =
        A.encrypt pt (packetAad b p) (nonceOf s) (key.getD []) := by
  obtain ⟨b, rest, hh, -, -, -, hdec⟩ := decryptPacket_eq_ok.mp h
  obtain ⟨-, -, -, hd⟩ := readPacketHeader_eq_ok hh
  obtain ⟨hmem, hct⟩ := hA _ _ _ _ _ hdec
  obtain ⟨⟨b₀, p₀, s₀⟩, hf, haad, hn⟩ := hlog _ hmem rfl
  obtain ⟨rfl, rfl⟩ := packetAad_inj haad
  obtain rfl := nonceOf_inj hn
  exact ⟨b, rest, hd, hf, hmem, hct⟩

/-- A disconnect frame (type 6, one sequence byte, sequence 5) under protocol id 0, opened
    by an AEAD whose only encryption was of that frame. -/
theorem decryptPacket_authenticated_disconnect :
    let log : List (Bytes × Bytes × Bytes × Bytes) :=
      [([], packetAad 22 0, nonceOf 5, List.replicate 32 0)]
    (Aead.zeroTag.toAeadOps.restrict log).OnlyLogged log ∧
      (∀ e ∈ log, e.2.2.2 = (some (List.replicate 32 0)).getD [] →
        ∃ f ∈ [((22 : UInt8), (0 : UInt64), (5 : UInt64))],
          e.2.1 = packetAad f.1 f.2.1 ∧ e.2.2.1 = nonceOf f.2.2) ∧
      decryptPacket (Aead.zeroTag.toAeadOps.restrict log) (22 :: 5 :: zeroMac) 18 0 0
          (some (List.replicate 32 0)) (List.replicate 7 1) none = (none, .ok (5, [])) ∧
      ∃ (b : UInt8) (rest : Bytes),
        (22 :: 5 :: zeroMac : Bytes) = b :: (leBytes (b >>> 4).toNat (5 : UInt64).toNat ++ rest) ∧
        (b, (0 : UInt64), (5 : UInt64)) ∈ [((22 : UInt8), (0 : UInt64), (5 : UInt64))] ∧
        (([] : Bytes), packetAad b 0, nonceOf 5, (some (List.replicate 32 0)).getD []) ∈ log ∧
        rest.take ((18 : Int) - ((1 : Int) + (b >>> 4).toNat)).toNat =
          (Aead.zeroTag.toAeadOps.restrict log).encrypt [] (packetAad b 0) (nonceOf 5)
            ((some (List.replicate 32 0)).getD []) := by
  intro log
  have hA := AeadOps.restrict_onlyLogged Aead.zeroTag.toAeadOps log
  have hlog : ∀ e ∈ log, e.2.2.2 = (some (List.replicate 32 0)).getD [] →
      ∃ f ∈ [((22 : UInt8), (0 : UInt64), (5 : UInt64))],
        e.2.1 = packetAad f.1 f.2.1 ∧ e.2.2.1 = nonceOf f.2.2 := by
    intro e he _
    rw [List.mem_singleton.mp he]
    exact ⟨_, List.mem_singleton_self _, rfl, rfl⟩
  have h : decryptPacket (Aead.zeroTag.toAeadOps.restrict log) (22 :: 5 :: zeroMac) 18 0 0
      (some (List.replicate 32 0)) (List.replicate 7 1) none = (none, .ok (5, [])) := by
    rfl
  exact ⟨hA, hlog, h, decryptPacket_authenticated hA hlog h⟩

/-- **An accepted request carries a token the private key's holder issued**: the header
    fields `Read` checks, and the 1024 token bytes after the 38-byte header are the
    encryption, under `tokenAad protocolId expire` and `nonceOf sequence` with the private
    key, of the plaintext the token was read from; if every logged encryption under the
    key is of a token among `tokens`, the request's cleartext
    `(protocolId, expire, sequence)` is among them. -/
theorem requestPacket_read_authenticated {p q : RequestPacket} {d : Bytes} {args : ReadArgs}
    {K : Bytes} {tokens : List (UInt64 × UInt64 × UInt64)} (hA : A.OnlyLogged log)
    (hlog : ∀ e ∈ log, e.2.2.2 = K →
      ∃ t ∈ tokens, e.2.1 = tokenAad t.1 t.2.1 ∧ e.2.2.1 = nonceOf t.2.2)
    (hK : args.privateKey = some K) (h : p.read A d args = .ok q) :
    q.versionInfo = versionInfo ∧ q.protocolId = args.protocolId ∧
      args.currentTimestamp < q.connectTokenExpireTimestamp ∧
      (q.protocolId, q.connectTokenExpireTimestamp, q.connectTokenSequence) ∈ tokens ∧
      ∃ tok t : ConnectTokenPrivate, q.token = some tok ∧ t.read = .ok tok ∧
        (t.tokenData, tokenAad q.protocolId q.connectTokenExpireTimestamp,
          nonceOf q.connectTokenSequence, K) ∈ log ∧
        (d.drop 38).take connectTokenPrivateBytes =
          A.encrypt t.tokenData (tokenAad q.protocolId q.connectTokenExpireTimestamp)
            (nonceOf q.connectTokenSequence) K := by
  obtain ⟨-, -, -, hv, hpid, hexp, key, tok, t, hkey, htok, hdec, -, -, hread⟩ :=
    RequestPacket.read_eq_ok h
  obtain rfl := Option.some.inj (hK.symm.trans hkey)
  obtain ⟨hmem, hct⟩ := hA _ _ _ _ _ hdec
  obtain ⟨⟨p₀, e₀, s₀⟩, ht, haad, hn⟩ := hlog _ hmem rfl
  obtain ⟨rfl, rfl⟩ := tokenAad_inj haad
  obtain rfl := nonceOf_inj hn
  exact ⟨hv, hpid, hexp, ht, tok, t, htok, hread, hmem, hct⟩

/-- The shared section of an issued token: one IPv4 server `127.0.0.1:40000`, zero keys,
    and the rest of the 1000 bytes zero. -/
def issuedBody : Bytes :=
  leBytes sizeUint32 (1 : UInt32).toNat ++ addressIpv4 :: ([127, 0, 0, 1] ++
    (leBytes sizeUint16 (40000 : UInt16).toNat ++ (List.replicate 32 0 ++ List.replicate 957 0)))

/-- The private plaintext of an issued token: client id 0, then `issuedBody`. -/
def issuedToken : Bytes := leBytes sizeUint64 (0 : UInt64).toNat ++ issuedBody

/-- The log of an AEAD whose only encryption is of `issuedToken`, for protocol id 0,
    expire timestamp 1 and sequence 0, under the zero key. -/
def issuedLog : List (Bytes × Bytes × Bytes × Bytes) :=
  [(issuedToken, tokenAad 0 1, nonceOf 0, List.replicate 32 0)]

/-- The request carrying that token, encrypted by `Aead.zeroTag`. -/
def issuedRequest : Bytes :=
  connectionRequest :: (versionInfo ++ (leBytes sizeUint64 (0 : UInt64).toNat ++
    (leBytes sizeUint64 (1 : UInt64).toNat ++ (leBytes sizeUint64 (0 : UInt64).toNat ++
      ((issuedToken ++ zeroMac) ++ [])))))

/-- A server at time 0 with the zero private key, allowing requests. -/
def issuedArgs : ReadArgs :=
  { packetLen := 1062
    protocolId := 0
    currentTimestamp := 0
    readPacketKey := none
    privateKey := some (List.replicate 32 0)
    allowedPackets := [1] }

/-- `issuedRequest`, read by a server whose AEAD opens only `issuedToken`: it is accepted,
    with the token's protocol id, expire timestamp and sequence. -/
theorem requestPacket_read_issued :
    ∃ q, ({} : RequestPacket).read (Aead.zeroTag.toAeadOps.restrict issuedLog) issuedRequest
        issuedArgs = .ok q ∧
      (Aead.zeroTag.toAeadOps.restrict issuedLog).OnlyLogged issuedLog ∧
      (∀ e ∈ issuedLog, e.2.2.2 = List.replicate 32 0 →
        ∃ t ∈ [((0 : UInt64), (1 : UInt64), (0 : UInt64))],
          e.2.1 = tokenAad t.1 t.2.1 ∧ e.2.2.1 = nonceOf t.2.2) ∧
      issuedArgs.privateKey = some (List.replicate 32 0) ∧
      q.versionInfo = versionInfo ∧ q.protocolId = issuedArgs.protocolId ∧
      issuedArgs.currentTimestamp < q.connectTokenExpireTimestamp ∧
      (q.protocolId, q.connectTokenExpireTimestamp, q.connectTokenSequence) ∈
        [((0 : UInt64), (1 : UInt64), (0 : UInt64))] ∧
      ∃ tok t : ConnectTokenPrivate, q.token = some tok ∧ t.read = .ok tok ∧
        (t.tokenData, tokenAad q.protocolId q.connectTokenExpireTimestamp,
          nonceOf q.connectTokenSequence, List.replicate 32 0) ∈ issuedLog ∧
        (issuedRequest.drop 38).take connectTokenPrivateBytes =
          (Aead.zeroTag.toAeadOps.restrict issuedLog).encrypt t.tokenData
            (tokenAad q.protocolId q.connectTokenExpireTimestamp)
            (nonceOf q.connectTokenSequence) (List.replicate 32 0) := by
  have hA := AeadOps.restrict_onlyLogged Aead.zeroTag.toAeadOps issuedLog
  have hlog : ∀ e ∈ issuedLog, e.2.2.2 = List.replicate 32 0 →
      ∃ t ∈ [((0 : UInt64), (1 : UInt64), (0 : UInt64))],
        e.2.1 = tokenAad t.1 t.2.1 ∧ e.2.2.1 = nonceOf t.2.2 := by
    intro e he _
    rw [List.mem_singleton.mp he]
    exact ⟨_, List.mem_singleton_self _, rfl, rfl⟩
  have hct : (issuedToken ++ zeroMac).length = connectTokenPrivateBytes := by
    simp only [issuedToken, issuedBody, zeroMac, List.length_append, List.length_cons,
      List.length_nil, length_leBytes, List.length_replicate]
    rfl
  have hs := readShared_ipv4 { serverAddrs := [], clientKey := [], serverKey := [] }
    (show ([127, 0, 0, 1] : Bytes).length = 4 from rfl) 40000 (List.length_replicate 32 0)
    (show keyBytes ≤ (List.replicate 957 (0 : UInt8)).length by rw [List.length_replicate]; decide)
  have hu : userDataBytes ≤ issuedBody.length := by
    simp only [issuedBody, List.length_append, List.length_cons, List.length_nil, length_leBytes,
      List.length_replicate]
    decide
  obtain ⟨tok, h, -⟩ := @RequestPacket.read_ok (Aead.zeroTag.toAeadOps.restrict issuedLog) issuedArgs
    (List.replicate 32 0) (issuedToken ++ zeroMac) issuedToken issuedBody [] 0 1 0 0 1 _
    rfl (by decide) rfl rfl rfl (by decide) hct (AeadOps.restrict_decrypt_head _ _ _ _ _ []) rfl hs hu
  exact ⟨_, h, hA, hlog, rfl, requestPacket_read_authenticated hA hlog rfl h⟩

end

end Netcode
