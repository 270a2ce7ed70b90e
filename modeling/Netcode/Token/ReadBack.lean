import Netcode.Token.Issue
import Netcode.Token.SharedWire
import Netcode.Packet.Write

namespace Netcode

/-!
# netcode.io — what the readers read back from the writers

`ConnectToken.Write` and `ConnectTokenPrivate.Write` pass their slice to `WriteShared` by
address, so what follows the shared section is written after it.  `ReadConnectToken` and
`ConnectTokenPrivate.Read` pass their slice to `ReadShared` by value (`ReadShared` takes a
`[]byte`), so the slice is still at the shared section when they read on: the timeout is
read from the server count, and the private token's user data from the shared section.

* `readConnectToken_after_header` — what `ReadConnectToken` does with the bytes after a
  good header and private data: `ReadShared` and `ReadUint32` of the same bytes.
* `readConnectToken_of_write` — for every token `Generate` issues with 32-byte keys, 1 to
  `MAX_SERVERS_PER_CONNECT` valid servers and an expiry that does not wrap,
  `ReadConnectToken(token.Write())` succeeds and returns the token with the servers
  `ReadShared` reads back, empty keys, the private data's bytes, and the number of
  servers for `TimeoutSeconds`.
* `requestPacket_read_of_generate` — for every such token with at least `USER_DATA_BYTES`
  of user data, `RequestPacket.Write` of the request carrying its private data succeeds
  and the server's `RequestPacket.Read` accepts it; the private token read back has the
  client id, the servers read back, empty keys, and for user data the first
  `USER_DATA_BYTES` of the shared section and the user data.
-/

/-- **What `ReadConnectToken` does after a good header**: with `VERSION_INFO`, a create
    timestamp at most the expire timestamp and `CONNECT_TOKEN_PRIVATE_BYTES` of private
    data, it reads the shared section from what follows, and `TimeoutSeconds` from the
    same place. -/
theorem readConnectToken_after_header {protocolId create expire sequence : UInt64}
    {tokenData rest : Bytes} (hce : create ≤ expire)
    (hpd : tokenData.length = connectTokenPrivateBytes) :
    readConnectToken (Netcode.versionInfo ++ leBytes sizeUint64 protocolId.toNat ++
      leBytes sizeUint64 create.toNat ++ leBytes sizeUint64 expire.toNat ++
      (leBytes sizeUint64 sequence.toNat ++ (tokenData ++ rest))) =
    (do
      let shared ← newConnectToken.readShared rest
      let (_, timeoutSeconds) ← readUint32 rest 0
      return { newConnectToken with
        toSharedTokenData := shared
        versionInfo := Netcode.versionInfo
        protocolId := protocolId
        createTimestamp := create
        expireTimestamp := expire
        sequence := sequence
        privateData := { newEmptyConnectTokenPrivate with tokenData := tokenData }
        timeoutSeconds := timeoutSeconds }) := by
  simp only [readConnectToken, List.append_assoc]
  rw [show versionInfoBytes = Netcode.versionInfo.length from rfl, readBytes_append]
  simp only [Go.mapErr_ok, Go.ok_bind, ne_eq, not_true_eq_false, ite_false]
  rw [show newConnectToken.protocolId = 0 from rfl, readUint64_leBytes, Go.mapErr_ok, Go.ok_bind,
    show newConnectToken.createTimestamp = 0 from rfl, readUint64_leBytes, Go.mapErr_ok, Go.ok_bind,
    show newConnectToken.expireTimestamp = 0 from rfl, readUint64_leBytes, Go.mapErr_ok, Go.ok_bind]
  dsimp only
  rw [if_neg (show ¬ create > expire from fun h =>
    absurd (uint64_le_iff.mp hce) (Nat.not_le.mpr (uint64_lt_iff.mp h))), show newConnectToken.sequence = 0 from rfl, readUint64_leBytes,
    Go.mapErr_ok, Go.ok_bind, show newConnectToken.privateData.tokenData.length = tokenData.length
      by rw [hpd]; exact List.length_replicate _ _, readBytes_append, Go.mapErr_ok, Go.ok_bind]
  rfl

section
variable {A : AeadOps} {token t : ConnectToken} {now : UInt64} {clientKey serverKey : Bytes}
  {clientId : UInt64} {serverAddrs : List UDPAddr} {versionInfo : Bytes}
  {protocolId tokenExpiry : UInt64} {timeoutSeconds : UInt32} {sequence : UInt64}
  {userData privateKey : Bytes}

/-- **`ReadConnectToken(token.Write())` returns the server count as the timeout.**  For
    every token `Generate` issues with 32-byte keys, 1 to `MAX_SERVERS_PER_CONNECT` valid
    servers and an expiry that does not wrap, `Write` succeeds, and `ReadConnectToken` of
    what it wrote returns the token with the servers `ReadShared` reads back, empty keys,
    the private data's bytes, and `TimeoutSeconds` equal to the number of servers,
    whatever timeout the token was issued with. -/
theorem readConnectToken_of_write
    (h : token.generate A now (.ok clientKey) (.ok serverKey) clientId serverAddrs versionInfo
      protocolId tokenExpiry timeoutSeconds sequence userData privateKey = .ok t)
    (hck : clientKey.length = keyBytes) (hsk : serverKey.length = keyBytes)
    (hv : ∀ a ∈ serverAddrs, a.Valid) (h1 : 1 ≤ serverAddrs.length)
    (hn : serverAddrs.length ≤ maxServersPerConnect)
    (hwrap : now.toNat + tokenExpiry.toNat < 2 ^ 64) :
    ∃ buf, t.write = .ok buf ∧
      readConnectToken buf = .ok { t with
        serverAddrs := readBackServers 0 serverAddrs, clientKey := [], serverKey := [],
        privateData := { newEmptyConnectTokenPrivate with tokenData := t.privateData.tokenData }
        timeoutSeconds := UInt32.ofNat serverAddrs.length } := by
  obtain ⟨hc, he, hver, -, hck', hsk', hsa, -, -, hpd⟩ := ConnectToken.generate_eq_ok h
  have hsh : t.toSharedTokenData = ⟨serverAddrs, clientKey, serverKey⟩ := by
    show (⟨t.serverAddrs, t.clientKey, t.serverKey⟩ : SharedTokenData) = _
    rw [hsa, hck', hsk']
  have hfl := length_flatten_serverBytes_le hv
  have hfit : (publicBytes t).length + (sharedBytes t.toSharedTokenData).length + sizeUint32 ≤
      connectTokenBytes := by
    simp only [publicBytes, headerBytes, hsh, sharedBytes, List.length_append, length_leBytes,
      hver, hpd, List.length_take, hck, hsk, length_versionInfo]
    simp only [maxServersPerConnect, connectTokenBytes, keyBytes, versionInfoBytes, sizeUint64,
      sizeUint32, connectTokenPrivateBytes] at hn hfl ⊢
    omega
  have hce : t.createTimestamp ≤ t.expireTimestamp := by
    have hE : t.expireTimestamp.toNat = (now.toNat + tokenExpiry.toNat) % 2 ^ 64 := by rw [he]; rfl
    rw [uint64_le_iff, hE, hc, Nat.mod_eq_of_lt hwrap]
    omega
  refine ⟨_, ConnectToken.write_ok (hsa ▸ hv) (hck' ▸ hck.ge) (hsk' ▸ hsk.ge) hfit, ?_⟩
  -- the header and the private data, then `ReadShared` and `ReadUint32` of the same bytes
  have hread := fun rest => @readConnectToken_after_header t.protocolId t.createTimestamp
    t.expireTimestamp t.sequence t.privateData.tokenData rest hce hpd
  rw [store, List.take_zero, List.nil_append, publicBytes, headerBytes, hver]
  simp only [List.append_assoc] at hread ⊢
  rw [hread, hsh, show newConnectToken.toSharedTokenData = ⟨[], [], []⟩ from rfl,
    readShared_sharedBytes h1 hn hv hck hsk, Go.ok_bind, sharedBytes_eq_count, List.append_assoc,
    readUint32_leBytes, Go.ok_bind]
  rfl

/-- With 32-byte keys and at most `MAX_SERVERS_PER_CONNECT` valid servers, the client id,
    the shared section and the user data fit in the private plaintext. -/
theorem privateBytes_fit (hck : clientKey.length = keyBytes) (hsk : serverKey.length = keyBytes)
    (hv : ∀ a ∈ serverAddrs, a.Valid) (hn : serverAddrs.length ≤ maxServersPerConnect) :
    sizeUint64 + (sharedBytes ⟨serverAddrs, clientKey, serverKey⟩).length + userDataBytes ≤
      connectTokenPrivateBytes - macBytes := by
  have hfl := length_flatten_serverBytes_le hv
  simp only [sharedBytes, List.length_append, length_leBytes, List.length_take, hck, hsk]
  simp only [maxServersPerConnect, keyBytes, sizeUint64, userDataBytes, connectTokenPrivateBytes,
    macBytes] at hn ⊢
  omega

/-- **What the server opens**: the private data of a token `Generate` issues opens, under the
    token's associated data and nonce and the private key, to the client id, then the shared
    section, the user data and zeros. -/
theorem ConnectToken.generate_decrypt (A : Aead)
    (h : token.generate A.toAeadOps now (.ok clientKey) (.ok serverKey) clientId serverAddrs
      versionInfo protocolId tokenExpiry timeoutSeconds sequence userData privateKey = .ok t)
    (hck : clientKey.length = keyBytes) (hsk : serverKey.length = keyBytes)
    (hv : ∀ a ∈ serverAddrs, a.Valid) (hn : serverAddrs.length ≤ maxServersPerConnect)
    (hu : userDataBytes ≤ userData.length) :
    A.decrypt t.privateData.tokenData (tokenAad t.protocolId t.expireTimestamp)
        (nonceOf t.sequence) privateKey =
      some (leBytes sizeUint64 clientId.toNat ++ (sharedBytes ⟨serverAddrs, clientKey, serverKey⟩ ++
        (userData.take userDataBytes ++ List.replicate (connectTokenPrivateBytes - macBytes -
          (sizeUint64 + (sharedBytes ⟨serverAddrs, clientKey, serverKey⟩).length +
            userDataBytes)) 0))) := by
  obtain ⟨-, he, -, hpid, -, -, -, -, hseq, -⟩ := ConnectToken.generate_eq_ok h
  rw [ConnectToken.generate_tokenData A hv hck.ge hsk.ge hu (privateBytes_fit hck hsk hv hn) h,
    store_replicate_zero, length_privateBytes hu, hpid, he, hseq, A.decrypt_encrypt]
  simp only [privateBytes, List.append_assoc]
  rfl

/-- The first `n` bytes after a prefix, when the next part starts with the first `n` bytes of
    `ys`: they do not reach past those. -/
theorem take_append_take_append (xs : Bytes) {ys : Bytes} (zs : Bytes) {n : Nat}
    (hn : n ≤ ys.length) : (xs ++ (ys.take n ++ zs)).take n = (xs ++ ys).take n := by
  rw [List.take_append_eq_append_take, List.take_append_of_le_length (by
    rw [List.length_take]; omega), List.take_take, Nat.min_eq_left (Nat.sub_le _ _),
    ← List.take_append_eq_append_take]

/-- **`RequestPacket.Read` of the request for an issued token reads the user data from the
    shared section.**  For every token `Generate` issues under an AEAD meeting the contract,
    with 32-byte keys, 1 to `MAX_SERVERS_PER_CONNECT` valid servers and at least
    `USER_DATA_BYTES` of user data, `RequestPacket.Write` of the request carrying its
    version, protocol id, expire timestamp, sequence and private data succeeds; a server
    with the private key that allows requests accepts what it wrote before the token
    expires.  The private token it reads has the client id, the servers `ReadShared` reads
    back and empty keys, and for user data the first `USER_DATA_BYTES` of the shared
    section followed by the user data. -/
theorem requestPacket_read_of_generate (A : Aead)
    (h : token.generate A.toAeadOps now (.ok clientKey) (.ok serverKey) clientId serverAddrs
      versionInfo protocolId tokenExpiry timeoutSeconds sequence userData privateKey = .ok t)
    (hck : clientKey.length = keyBytes) (hsk : serverKey.length = keyBytes)
    (hv : ∀ a ∈ serverAddrs, a.Valid) (h1 : 1 ≤ serverAddrs.length)
    (hn : serverAddrs.length ≤ maxServersPerConnect) (hu : userDataBytes ≤ userData.length)
    {mem : Bytes} (hmem : 1 + versionInfoBytes + 8 + 8 + 8 + connectTokenPrivateBytes ≤ mem.length)
    {args : ReadArgs} {a : UInt8} (ha : args.allowedPackets[0]? = some a) (ha0 : a ≠ 0)
    (hlen : args.packetLen = 1 + versionInfoBytes + 8 + 8 + 8 + connectTokenPrivateBytes)
    (hkey : args.privateKey = some privateKey) (hpid : args.protocolId = protocolId)
    (hexp : args.currentTimestamp < t.expireTimestamp) :
    ∃ mem', ({ versionInfo := t.versionInfo
               protocolId := t.protocolId
               connectTokenExpireTimestamp := t.expireTimestamp
               connectTokenSequence := t.sequence
               connectTokenData := t.privateData.tokenData } : RequestPacket).write mem =
        .ok (mem', 1 + versionInfoBytes + 8 + 8 + 8 + connectTokenPrivateBytes) ∧
      ∃ tok, ({} : RequestPacket).read A.toAeadOps
          (mem'.take (1 + versionInfoBytes + 8 + 8 + 8 + connectTokenPrivateBytes)) args =
        .ok { versionInfo := t.versionInfo
              protocolId := t.protocolId
              connectTokenExpireTimestamp := t.expireTimestamp
              connectTokenSequence := t.sequence
              token := some tok } ∧
        tok.clientId = clientId ∧ tok.serverAddrs = readBackServers 0 serverAddrs ∧
        tok.clientKey = [] ∧ tok.serverKey = [] ∧
        tok.userData = (sharedBytes ⟨serverAddrs, clientKey, serverKey⟩ ++ userData).take userDataBytes := by
  obtain ⟨-, -, hver, hpid', -, -, -, -, -, hpd⟩ := ConnectToken.generate_eq_ok h
  set S : SharedTokenData := ⟨serverAddrs, clientKey, serverKey⟩
  set body := sharedBytes S ++ (userData.take userDataBytes ++
    List.replicate (connectTokenPrivateBytes - macBytes - (sizeUint64 + (sharedBytes S).length +
      userDataBytes)) 0)
  have hub : userDataBytes ≤ body.length := by
    simp only [body, List.length_append, List.length_take, Nat.min_eq_left hu]
    omega
  -- the request the token's fields make, and what `Write` lays out for it
  set q : RequestPacket := { versionInfo := t.versionInfo
                             protocolId := t.protocolId
                             connectTokenExpireTimestamp := t.expireTimestamp
                             connectTokenSequence := t.sequence
                             connectTokenData := t.privateData.tokenData } with hq
  have hvq : q.versionInfo.length = versionInfoBytes := by rw [hq, hver]; rfl
  refine ⟨_, RequestPacket.write_ok q hvq hpd hmem, ?_⟩
  -- the server reads `requestBytes` back: `ReadShared`, then the user data, from right after
  -- the client id of the plaintext it opens
  rw [← length_requestBytes hvq hpd, take_store_zero, requestBytes]
  obtain ⟨tok, hr, hsh, hcid, hud⟩ := @RequestPacket.read_ok A.toAeadOps args privateKey
    t.privateData.tokenData (leBytes sizeUint64 clientId.toNat ++ body) body [] t.protocolId
    t.expireTimestamp t.sequence clientId a ⟨readBackServers 0 serverAddrs, [], []⟩ ha ha0 hlen hkey
    (hpid.trans hpid'.symm) hexp hpd (ConnectToken.generate_decrypt A h hck hsk hv hn hu) rfl
    (@readShared_sharedBytes S h1 hn hv hck hsk _) hub
  rw [List.append_nil, ← hver] at hr
  refine ⟨tok, hr, hcid, congrArg SharedTokenData.serverAddrs hsh,
    congrArg SharedTokenData.clientKey hsh, congrArg SharedTokenData.serverKey hsh, ?_⟩
  -- `USER_DATA_BYTES` from right after the client id: the shared section, then the user data
  rw [hud, take_append_take_append _ _ hu]

end

/-- A token for `localServer` issued with a 60-second timeout is read back with a timeout of
    1, its number of servers. -/
theorem readConnectToken_of_write_localServer :
    ∃ t, newConnectToken.generate Aead.zeroTag.toAeadOps 0 (.ok zeroKey) (.ok zeroKey) 0
        [localServer] [] 0 1 60 0 zeroUserData zeroKey = .ok t ∧ t.timeoutSeconds = 60 ∧
      ∃ buf, t.write = .ok buf ∧
        readConnectToken buf = .ok { t with
          serverAddrs := readBackServers 0 [localServer], clientKey := [], serverKey := [],
          privateData := { newEmptyConnectTokenPrivate with tokenData := t.privateData.tokenData }
          timeoutSeconds := 1 } := by
  have hk : zeroKey.length = keyBytes := List.length_replicate _ _
  obtain ⟨t, ht⟩ : ∃ t, newConnectToken.generate Aead.zeroTag.toAeadOps 0 (.ok zeroKey)
      (.ok zeroKey) 0 [localServer] [] 0 1 60 0 zeroUserData zeroKey = .ok t :=
    ConnectToken.generate_ok Aead.zeroTag (by decide) hk.ge hk.ge (List.length_replicate _ _).ge (by
      simp only [sharedBytes, List.length_append, length_leBytes, List.length_take, hk,
        List.map_cons, List.map_nil, List.flatten_cons, List.flatten_nil]
      decide)
  exact ⟨t, ht, (ConnectToken.generate_eq_ok ht).2.2.2.2.2.2.2.1,
    readConnectToken_of_write ht hk hk (by decide) (by decide) (by decide) (by decide)⟩

/-- The request for the `localServer` token issued at clock 0 with expiry 1 and zero user
    data, written into a `MAX_PACKET_BYTES` buffer and read by the server of `issuedArgs`:
    the user data read back starts with the server count, not with the zero user data. -/
theorem requestPacket_read_of_generate_localServer :
    ∃ t, newConnectToken.generate Aead.zeroTag.toAeadOps 0 (.ok zeroKey) (.ok zeroKey) 0
        [localServer] [] 0 1 1 0 zeroUserData zeroKey = .ok t ∧
      ∃ mem', ({ versionInfo := t.versionInfo
                 protocolId := t.protocolId
                 connectTokenExpireTimestamp := t.expireTimestamp
                 connectTokenSequence := t.sequence
                 connectTokenData := t.privateData.tokenData } : RequestPacket).write
            (List.replicate maxPacketBytes 0) =
          .ok (mem', 1 + versionInfoBytes + 8 + 8 + 8 + connectTokenPrivateBytes) ∧
        ∃ tok, ({} : RequestPacket).read Aead.zeroTag.toAeadOps
            (mem'.take (1 + versionInfoBytes + 8 + 8 + 8 + connectTokenPrivateBytes)) issuedArgs =
          .ok { versionInfo := t.versionInfo
                protocolId := t.protocolId
                connectTokenExpireTimestamp := t.expireTimestamp
                connectTokenSequence := t.sequence
                token := some tok } ∧
          tok.clientId = 0 ∧ tok.serverAddrs = readBackServers 0 [localServer] ∧
          tok.clientKey = [] ∧ tok.serverKey = [] ∧
          tok.userData = (sharedBytes ⟨[localServer], zeroKey, zeroKey⟩ ++ zeroUserData).take
            userDataBytes ∧
          tok.userData.take 5 = [1, 0, 0, 0, addressIpv4] := by
  have hk : zeroKey.length = keyBytes := List.length_replicate _ _
  obtain ⟨t, ht⟩ := generate_localServer_ok 0 1
  have he := (ConnectToken.generate_eq_ok ht).2.1
  obtain ⟨mem', hw, tok, hr, hc, hs, hck, hsk, hu⟩ := requestPacket_read_of_generate Aead.zeroTag ht
    hk hk (by decide) (by decide) (by decide) (List.length_replicate _ _).ge
    (show 1 + versionInfoBytes + 8 + 8 + 8 + connectTokenPrivateBytes ≤
      (List.replicate maxPacketBytes (0 : UInt8)).length by rw [List.length_replicate]; decide)
    (show issuedArgs.allowedPackets[0]? = some 1 from rfl)
    (by decide) rfl rfl rfl (by rw [he]; decide)
  refine ⟨t, ht, mem', hw, tok, hr, hc, hs, hck, hsk, hu, ?_⟩
  have hS : 5 ≤ (sharedBytes ⟨[localServer], zeroKey, zeroKey⟩).length := by
    simp only [sharedBytes, List.length_append, length_leBytes, List.length_take, hk, Nat.min_self]
    simp only [keyBytes]
    omega
  rw [hu, List.take_take, Nat.min_eq_left (by decide), List.take_append_of_le_length hS]
  rfl

end Netcode
