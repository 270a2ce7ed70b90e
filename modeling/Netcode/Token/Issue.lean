import Netcode.Token.Connect
import Netcode.Packet.Auth

namespace Netcode

/-!
# netcode.io — issuing a connect token, and reading it back

The path of a token from `Generate` through `Write` to the server's readers.

* `ConnectToken.generate_ok` / `ConnectToken.write_ok` — under the AEAD contract, for
  valid addresses, keys and user data, `Generate` succeeds; `Write` then succeeds and
  stores the public part, the shared section after it, and `TimeoutSeconds` after that.
* `ConnectToken.generate_tokenData` — the private data of such a token is the plaintext
  `ConnectTokenPrivate.Write` lays out (`privateBytes`: the client id, the shared section,
  the user data), zero padded, sealed under the token's associated data and nonce.
* `generate_expire_unchecked` — `Generate` checks neither the expiry arithmetic nor the
  server list: `ExpireTimestamp` is `now + tokenExpiry` modulo `2 ^ 64`, and when that
  wraps, `ReadConnectToken` rejects the token `Write` produced
  (`readConnectToken_written_expired`).
* `readConnectToken_loses_keys`, `requestPacket_read_loses_keys` — both readers copy the
  keys into `nil` slices, so neither gives back the 32-byte keys `GenerateKey` made.
-/

/-- The part of a token `Write` stores before the shared section: the header, the
    sequence and the encrypted private data. -/
def publicBytes (token : ConnectToken) : Bytes :=
  headerBytes token ++ leBytes sizeUint64 token.sequence.toNat ++ token.privateData.tokenData

section
variable {A : AeadOps} {token t : ConnectToken} {now : UInt64} {clientKey serverKey : Bytes}
  {clientId : UInt64} {serverAddrs : List UDPAddr} {versionInfo : Bytes}
  {protocolId tokenExpiry : UInt64} {timeoutSeconds : UInt32} {sequence : UInt64}
  {userData privateKey : Bytes}

/-! ### `Generate` and `Write` succeed -/

/-- `Write` of a private token with a zeroed `TokenData` of
    `CONNECT_TOKEN_PRIVATE_BYTES - MAC_BYTES` that its plaintext fits: `privateBytes`, then
    zeros, of the same length. -/
theorem ConnectTokenPrivate.write_padded (p : ConnectTokenPrivate)
    (hv : ∀ a ∈ p.serverAddrs, a.Valid) (hc : keyBytes ≤ p.clientKey.length)
    (hs : keyBytes ≤ p.serverKey.length) (hu : userDataBytes ≤ p.userData.length)
    (ht : p.tokenData = List.replicate (connectTokenPrivateBytes - macBytes) 0)
    (hroom : sizeUint64 + (sharedBytes p.toSharedTokenData).length + userDataBytes ≤
      connectTokenPrivateBytes - macBytes) :
    p.write = .ok { p with tokenData := store p.tokenData 0 (privateBytes p) } ∧
      (store p.tokenData 0 (privateBytes p)).length = connectTokenPrivateBytes - macBytes := by
  have hR : p.tokenData.length = connectTokenPrivateBytes - macBytes := by
    rw [ht, List.length_replicate]
  have hlp := length_privateBytes hu
  exact ⟨ConnectTokenPrivate.write_ok hv hc hs hu (by omega),
    (length_store (by omega)).trans hR⟩

/-- **`Generate` succeeds** under the AEAD contract for valid addresses, keys of at least
    `KEY_BYTES` and user data of at least `USER_DATA_BYTES`, when the client id, the
    shared section and the user data fit in the private plaintext. -/
theorem ConnectToken.generate_ok (A : Aead) (hv : ∀ a ∈ serverAddrs, a.Valid)
    (hc : keyBytes ≤ clientKey.length) (hs : keyBytes ≤ serverKey.length)
    (hu : userDataBytes ≤ userData.length)
    (hroom : sizeUint64 + (sharedBytes ⟨serverAddrs, clientKey, serverKey⟩).length + userDataBytes ≤
      connectTokenPrivateBytes - macBytes) :
    ∃ t, token.generate A.toAeadOps now (.ok clientKey) (.ok serverKey) clientId serverAddrs
      versionInfo protocolId tokenExpiry timeoutSeconds sequence userData privateKey = .ok t := by
  obtain ⟨hw, hl⟩ := ConnectTokenPrivate.write_padded
    { newConnectTokenPrivate clientId serverAddrs userData with clientKey, serverKey } hv hc hs hu
    rfl hroom
  simp only [ConnectToken.generate, ConnectTokenPrivate.generate_ok, Go.ok_bind, hw]
  rw [ConnectTokenPrivate.encrypt_ok A hl, Go.ok_bind]
  exact ⟨_, rfl⟩

/-- **What `Generate` seals**: under the same conditions, the token's private data is the
    plaintext `Write` lays out, zero padded to `CONNECT_TOKEN_PRIVATE_BYTES - MAC_BYTES`,
    sealed under the token's associated data and nonce. -/
theorem ConnectToken.generate_tokenData (A : Aead) (hv : ∀ a ∈ serverAddrs, a.Valid)
    (hc : keyBytes ≤ clientKey.length) (hs : keyBytes ≤ serverKey.length)
    (hu : userDataBytes ≤ userData.length)
    (hroom : sizeUint64 + (sharedBytes ⟨serverAddrs, clientKey, serverKey⟩).length + userDataBytes ≤
      connectTokenPrivateBytes - macBytes)
    (h : token.generate A.toAeadOps now (.ok clientKey) (.ok serverKey) clientId serverAddrs
      versionInfo protocolId tokenExpiry timeoutSeconds sequence userData privateKey = .ok t) :
    t.privateData.tokenData = A.encrypt (store (List.replicate (connectTokenPrivateBytes - macBytes) 0)
      0 (privateBytes { newConnectTokenPrivate clientId serverAddrs userData with clientKey, serverKey }))
      (tokenAad protocolId (now + tokenExpiry)) (nonceOf sequence) privateKey := by
  obtain ⟨hw, hl⟩ := ConnectTokenPrivate.write_padded
    { newConnectTokenPrivate clientId serverAddrs userData with clientKey, serverKey } hv hc hs hu
    rfl hroom
  rw [ConnectToken.generate, ConnectTokenPrivate.generate_ok, Go.ok_bind, hw, Go.ok_bind,
    ConnectTokenPrivate.encrypt_ok A hl, Go.ok_bind, Go.pure_eq, Go.ok.injEq] at h
  rw [← h]
  rfl

/-- **What `Write` stores**, for valid addresses and keys of at least `KEY_BYTES` when
    everything fits: the public part, the shared section after it, and `TimeoutSeconds`
    after that. -/
theorem ConnectToken.write_ok (hv : ∀ a ∈ token.serverAddrs, a.Valid)
    (hc : keyBytes ≤ token.clientKey.length) (hs : keyBytes ≤ token.serverKey.length)
    (hfit : (publicBytes token).length + (sharedBytes token.toSharedTokenData).length +
      sizeUint32 ≤ connectTokenBytes) :
    token.write = .ok (store (List.replicate connectTokenBytes 0) 0 (publicBytes token ++
      (sharedBytes token.toSharedTokenData ++ leBytes sizeUint32 token.timeoutSeconds.toNat))) := by
  have hz : (List.replicate connectTokenBytes (0 : UInt8)).length = connectTokenBytes :=
    List.length_replicate _ _
  have hpub : token.versionInfo ++ leBytes sizeUint64 token.protocolId.toNat ++
      leBytes sizeUint64 token.createTimestamp.toNat ++
      leBytes sizeUint64 token.expireTimestamp.toNat ++ leBytes sizeUint64 token.sequence.toNat ++
      token.privateData.tokenData = publicBytes token := rfl
  have hlen : (publicBytes token).length = token.versionInfo.length + 4 * sizeUint64 +
      token.privateData.tokenData.length := by
    simp only [publicBytes, headerBytes, List.length_append, length_leBytes]; omega
  simp only [ConnectToken.write]
  rw [(writes_writeBytes _).first (by rw [hz]; omega), Go.ok_bind]
  dsimp only
  rw [(writes_writeUint64 _).after (by simp only [List.length_append, length_leBytes, hz]; omega),
    Go.ok_bind]
  dsimp only
  rw [(writes_writeUint64 _).after (by simp only [List.length_append, length_leBytes, hz]; omega),
    Go.ok_bind]
  dsimp only
  rw [(writes_writeUint64 _).after (by simp only [List.length_append, length_leBytes, hz]; omega),
    Go.ok_bind]
  dsimp only
  rw [(writes_writeUint64 _).after (by simp only [List.length_append, length_leBytes, hz]; omega),
    Go.ok_bind]
  dsimp only
  rw [(writes_writeBytes _).after (by simp only [List.length_append, length_leBytes, hz]; omega),
    Go.ok_bind]
  dsimp only
  rw [hpub, (writes_writeSharedBody hv hc hs).after (by simp only [List.length_append, hz]; omega),
    Go.ok_bind]
  dsimp only
  rw [(writes_writeUint32 _).after (by simp only [List.length_append, length_leBytes, hz]; omega),
    Go.ok_bind, List.append_assoc]
  rfl

/-! ### The expire timestamp -/

/-- **`ReadConnectToken` does not give back the generated keys**: whatever `Write` makes
    of a generated token, reading it never returns its 32-byte keys. -/
theorem readConnectToken_loses_keys
    (h : token.generate A now (.ok clientKey) (.ok serverKey) clientId serverAddrs versionInfo
      protocolId tokenExpiry timeoutSeconds sequence userData privateKey = .ok t)
    (hk : clientKey.length = keyBytes) :
    (fun r : ConnectToken => (r.clientKey, r.serverKey)) <$> (t.write >>= readConnectToken) ≠
      .ok (t.clientKey, t.serverKey) := by
  intro he
  obtain ⟨r, hr, hkr⟩ := Go.map_eq_ok.mp he
  obtain ⟨buf, -, hrd⟩ := Go.bind_eq_ok.mp hr
  obtain ⟨-, -, -, -, hck, -⟩ := ConnectToken.generate_eq_ok h
  rw [← hck, ← (Prod.mk.inj hkr).1, (readConnectToken_keys hrd).1] at hk
  exact absurd hk (by decide)

end

/-- **`RequestPacket.Read` does not give back the generated keys**: for every datagram it
    accepts, the token's keys are not those `Generate` put into the private token. -/
theorem requestPacket_read_loses_keys {clientId : UInt64} {servers : List UDPAddr}
    {userData ck sk : Bytes} {t : ConnectTokenPrivate}
    (hgen : (newConnectTokenPrivate clientId servers userData).generate (.ok ck) (.ok sk) = .ok t)
    (hk : ck.length = keyBytes) (A : AeadOps) (p : RequestPacket) (d : Bytes) (args : ReadArgs) :
    (fun q : RequestPacket => q.token.map fun tok => (tok.clientKey, tok.serverKey)) <$>
        p.read A d args ≠ .ok (some (t.clientKey, t.serverKey)) := by
  intro he
  obtain ⟨q, hq, hkq⟩ := Go.map_eq_ok.mp he
  obtain ⟨-, -, -, -, -, -, -, tok, t', -, htok, -, hck', -, hread⟩ := RequestPacket.read_eq_ok hq
  have hlen := (ConnectTokenPrivate.read_keys hread).1
  rw [htok, Option.map_some', Option.some.injEq, Prod.mk.injEq] at hkq
  rw [hkq.1, hck', List.length_nil] at hlen
  cases ConnectTokenPrivate.generate_ok _ _ _ ▸ hgen
  rw [hlen] at hk
  exact absurd hk (by decide)

/-! ### A token for one local server -/

/-- The server `127.0.0.1:40000`. -/
def localServer : UDPAddr := ⟨[127, 0, 0, 1], 40000, ""⟩

/-- A key of `KEY_BYTES` zero bytes. -/
def zeroKey : Bytes := List.replicate keyBytes 0

/-- User data of `USER_DATA_BYTES` zero bytes. -/
def zeroUserData : Bytes := List.replicate userDataBytes 0

/-- `Generate` succeeds for `localServer`, zero keys and user data, whatever the clock and
    the expiry. -/
theorem generate_localServer_ok (now tokenExpiry : UInt64) :
    ∃ t, newConnectToken.generate Aead.zeroTag.toAeadOps now (.ok zeroKey) (.ok zeroKey) 0
      [localServer] [] 0 tokenExpiry 1 0 zeroUserData zeroKey = .ok t := by
  have hk : zeroKey.length = keyBytes := List.length_replicate _ _
  exact ConnectToken.generate_ok Aead.zeroTag (by decide) hk.ge hk.ge (List.length_replicate _ _).ge (by
    simp only [sharedBytes, List.length_append, length_leBytes, List.length_take, hk,
      List.map_cons, List.map_nil, List.flatten_cons, List.flatten_nil]
    decide)

/-- `readConnectToken_loses_keys` for a token issued at clock 0 with expiry 1. -/
theorem readConnectToken_loses_keys_localServer :
    ∃ t, newConnectToken.generate Aead.zeroTag.toAeadOps 0 (.ok zeroKey) (.ok zeroKey) 0
        [localServer] [] 0 1 1 0 zeroUserData zeroKey = .ok t ∧ zeroKey.length = keyBytes ∧
      (fun r : ConnectToken => (r.clientKey, r.serverKey)) <$> (t.write >>= readConnectToken) ≠
        .ok (t.clientKey, t.serverKey) := by
  obtain ⟨t, ht⟩ := generate_localServer_ok 0 1
  exact ⟨t, ht, List.length_replicate _ _,
    readConnectToken_loses_keys ht (List.length_replicate _ _)⟩

/-- `requestPacket_read_loses_keys` for the private token of `localServer`, on the request
    `issuedRequest`, which the server accepts. -/
theorem requestPacket_read_loses_keys_issued :
    (newConnectTokenPrivate 0 [localServer] zeroUserData).generate (.ok zeroKey) (.ok zeroKey) =
        .ok { newConnectTokenPrivate 0 [localServer] zeroUserData with
              clientKey := zeroKey
              serverKey := zeroKey } ∧
      zeroKey.length = keyBytes ∧
      (fun q : RequestPacket => q.token.map fun tok => (tok.clientKey, tok.serverKey)) <$>
          ({} : RequestPacket).read (Aead.zeroTag.toAeadOps.restrict issuedLog) issuedRequest
            issuedArgs ≠
        .ok (some (zeroKey, zeroKey)) :=
  ⟨rfl, List.length_replicate _ _,
    @requestPacket_read_loses_keys 0 [localServer] zeroUserData zeroKey zeroKey _ rfl
      (List.length_replicate _ _) _ _ _ _⟩

end Netcode
