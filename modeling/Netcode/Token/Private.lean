import Netcode.Aead
import Netcode.Packet.Prefix
import Netcode.Token.Shared

namespace Netcode

/-!
# netcode.io — the private part of a connect token

`ConnectTokenPrivate` (`connect_token_private.go`): the client id, the shared section
and the user data, serialized into `TokenData` and encrypted under the server's
private key.

* `ConnectTokenPrivate.write` — the client id, `WriteShared(&p.TokenData)`, read as
  passing the slice by address, then the user data after the shared section: the
  plaintext `privateBytes` (`write_ok`).
* `ConnectTokenPrivate.read` — the client id, `ReadShared`, which takes the slice by value
  and so leaves it after the client id, then the user data from there.  `read_keys`: the keys it leaves have the
  lengths of the receiver's key slices, so a token built by
  `NewConnectTokenPrivateEncrypted`, whose key slices are `nil`, reads back empty keys.
* `buildTokenCryptData` — the associated data `VERSION_INFO ‖ protocolId ‖ expire` and
  the nonce (`buildTokenCryptData_eq`); `tokenAad_inj`.
* `ConnectTokenPrivate.encrypt` / `decrypt` — `EncryptAead` and `DecryptAead` of
  `TokenData` under them (`decrypt_eq_ok`).
-/

/-- `ConnectTokenPrivate`, with `sharedTokenData` embedded. -/
structure ConnectTokenPrivate extends SharedTokenData where
  clientId : UInt64
  userData : Bytes
  mac : Bytes
  tokenData : Bytes
  deriving DecidableEq, Repr

/-- `NewConnectTokenPrivate(clientId, serverAddrs, userData)`: a zeroed `TokenData` of
    `CONNECT_TOKEN_PRIVATE_BYTES - MAC_BYTES` bytes, which leaves room for the tag
    `EncryptAead` appends; the key slices are `nil`. -/
def newConnectTokenPrivate (clientId : UInt64) (serverAddrs : List UDPAddr) (userData : Bytes) :
    ConnectTokenPrivate :=
  { serverAddrs, clientKey := [], serverKey := [], clientId, userData,
    mac := List.replicate macBytes 0,
    tokenData := List.replicate (connectTokenPrivateBytes - macBytes) 0 }

/-- `NewEmptyConnectTokenPrivate()`. -/
def newEmptyConnectTokenPrivate : ConnectTokenPrivate :=
  { serverAddrs := [], clientKey := [], serverKey := [], clientId := 0, userData := [],
    mac := List.replicate macBytes 0, tokenData := List.replicate connectTokenPrivateBytes 0 }

/-- `NewConnectTokenPrivateEncrypted(buffer)`: the first `CONNECT_TOKEN_PRIVATE_BYTES` of
    `buffer` copied into a fresh `TokenData`, its last `MAC_BYTES` into `mac`; the key
    slices are `nil`.  `buffer[:CONNECT_TOKEN_PRIVATE_BYTES]` panics on a shorter buffer
    (the model's slices have no capacity beyond their length). -/
def newConnectTokenPrivateEncrypted (buffer : Bytes) : Go ConnectTokenPrivate :=
  if buffer.length < connectTokenPrivateBytes then .panic
  else .ok
    { serverAddrs := [], clientKey := [], serverKey := [], clientId := 0, userData := [],
      tokenData := copyInto (List.replicate connectTokenPrivateBytes 0)
        (buffer.take connectTokenPrivateBytes),
      mac := copyInto (List.replicate macBytes 0)
        (buffer.drop (connectTokenPrivateBytes - macBytes)) }

/-- `p.Generate()`: `GenerateShared()`. -/
def ConnectTokenPrivate.generate (p : ConnectTokenPrivate) (clientKey serverKey : Go Bytes) :
    Go ConnectTokenPrivate := do
  let shared ← p.generateShared clientKey serverKey
  return { p with toSharedTokenData := shared }

/-- `p.Read()`: the client id (OR-ed into `p.ClientId`), `ReadShared` on the rest, which
    does not advance the slice, and the user data from right after the client id. -/
def ConnectTokenPrivate.read (p : ConnectTokenPrivate) : Go ConnectTokenPrivate := do
  let (tokenData, clientId) ← readUint64 p.tokenData p.clientId
  let shared ← p.readShared tokenData
  let (_, userData) ← (readBytes tokenData userDataBytes).mapErr fun _ => "error reading user data"
  return { p with toSharedTokenData := shared, clientId, userData }

/-- `p.Write()`.  `p.WriteShared(&p.TokenData)` passes the slice by address (see
    `writeSharedBody`), so `p.TokenData` ends after the shared section and the user data
    is written from there. -/
def ConnectTokenPrivate.write (p : ConnectTokenPrivate) : Go ConnectTokenPrivate := do
  let (mem, buffer) ← checkErr (writeUint64 p.tokenData 0 p.clientId)
  let (mem, buffer) ← p.writeSharedBody mem buffer
  let (mem, _) ← checkErr (writeBytesN mem buffer p.userData userDataBytes)
  return { p with tokenData := mem }

/-- `buildTokenCryptData(protocolId, expireTimestamp, sequence)`: the associated data
    and the nonce, each written into a fresh array. -/
def buildTokenCryptData (protocolId expireTimestamp sequence : UInt64) : Go (Bytes × Bytes) := do
  let additionalData := List.replicate (versionInfoBytes + 8 + 8) 0
  let (additionalData, buf) ← ignoreErr (writeBytes additionalData 0 versionInfo)
  let (additionalData, buf) ← ignoreErr (writeUint64 additionalData buf protocolId)
  let (additionalData, _) ← ignoreErr (writeUint64 additionalData buf expireTimestamp)
  let (nonce, _) ← ignoreErr (writeUint64 (List.replicate sizeUint64 0) 0 sequence)
  return (additionalData, nonce)

/-- `token.Encrypt(protocolId, expireTimestamp, sequence, privateKey)`: `TokenData`
    becomes its ciphertext, whose last `MAC_BYTES` are copied into `mac`. -/
def ConnectTokenPrivate.encrypt (A : AeadOps) (token : ConnectTokenPrivate)
    (protocolId expireTimestamp sequence : UInt64) (privateKey : Bytes) : Go ConnectTokenPrivate := do
  let (additionalData, nonce) ← buildTokenCryptData protocolId expireTimestamp sequence
  let tokenData := encryptAead A token.tokenData additionalData nonce privateKey
  if tokenData.length ≠ connectTokenPrivateBytes then .err "invalid token private byte size"
  else return { token with
    tokenData := tokenData
    mac := copyInto token.mac (tokenData.drop (connectTokenPrivateBytes - macBytes)) }

/-- `p.Decrypt(protocolId, expireTimestamp, sequence, privateKey)`: `TokenData` must hold
    `CONNECT_TOKEN_PRIVATE_BYTES`; it becomes its plaintext. -/
def ConnectTokenPrivate.decrypt (A : AeadOps) (p : ConnectTokenPrivate)
    (protocolId expireTimestamp sequence : UInt64) (privateKey : Bytes) : Go ConnectTokenPrivate :=
  if p.tokenData.length ≠ connectTokenPrivateBytes then .err "invalid token private byte size"
  else do
    let mac := copyInto p.mac (p.tokenData.drop (connectTokenPrivateBytes - macBytes))
    let (additionalData, nonce) ← buildTokenCryptData protocolId expireTimestamp sequence
    let tokenData ← decryptAead A p.tokenData additionalData nonce privateKey
    return { p with mac, tokenData }

/-! ### The associated data -/

/-- The associated data of a connect token. -/
def tokenAad (protocolId expireTimestamp : UInt64) : Bytes :=
  versionInfo ++ leBytes 8 protocolId.toNat ++ leBytes 8 expireTimestamp.toNat

/-- The private token's associated data and nonce are always built. -/
theorem buildTokenCryptData_eq (protocolId expireTimestamp sequence : UInt64) :
    buildTokenCryptData protocolId expireTimestamp sequence =
      .ok (tokenAad protocolId expireTimestamp, nonceOf sequence) := by
  simp [buildTokenCryptData, writeBytes, writeUint64, writeChunk_ok, store, ignoreErr, tokenAad,
    nonceOf, versionInfoBytes, sizeUint64, versionInfo]

/-- The associated data determines the protocol id and the expire timestamp. -/
theorem tokenAad_inj {p p' e e' : UInt64} (h : tokenAad p e = tokenAad p' e') : p = p' ∧ e = e' := by
  simp only [tokenAad, List.append_assoc, List.append_cancel_left_eq] at h
  have hl := List.append_inj h (by simp)
  exact ⟨UInt64.toNat.inj (leBytes_inj (toNat_lt_uint64 p) (toNat_lt_uint64 p') hl.1),
    UInt64.toNat.inj (leBytes_inj (toNat_lt_uint64 e) (toNat_lt_uint64 e') hl.2)⟩

/-! ### `Decrypt` and `Read` -/

/-- What a successful `Decrypt` has opened: the 1024 bytes of `TokenData`, under
    `tokenAad protocolId expire` and the sequence's nonce. -/
theorem ConnectTokenPrivate.decrypt_eq_ok {A : AeadOps} {p p' : ConnectTokenPrivate}
    {protocolId expire sequence : UInt64} {key : Bytes}
    (h : p.decrypt A protocolId expire sequence key = .ok p') :
    p.tokenData.length = connectTokenPrivateBytes ∧
      A.decrypt p.tokenData (tokenAad protocolId expire) (nonceOf sequence) key = some p'.tokenData ∧
      p'.toSharedTokenData = p.toSharedTokenData ∧ p'.clientId = p.clientId := by
  unfold ConnectTokenPrivate.decrypt at h
  split_ifs at h with hlen
  simp only [buildTokenCryptData_eq, Go.ok_bind] at h
  obtain ⟨pt, hpt, h⟩ := Go.bind_eq_ok.mp h
  simp only [Go.pure_eq, Go.ok.injEq] at h
  subst h
  exact ⟨not_not.mp hlen, decryptAead_eq_ok.mp hpt, rfl, rfl⟩

/-- `NewConnectTokenPrivateEncrypted` keeps the first `CONNECT_TOKEN_PRIVATE_BYTES` of the
    buffer, with `nil` keys. -/
theorem newConnectTokenPrivateEncrypted_eq_ok {buffer : Bytes} {t : ConnectTokenPrivate}
    (h : newConnectTokenPrivateEncrypted buffer = .ok t) :
    t.tokenData = buffer.take connectTokenPrivateBytes ∧ t.clientKey = [] ∧ t.serverKey = [] := by
  unfold newConnectTokenPrivateEncrypted at h
  split_ifs at h with hl
  cases h
  exact ⟨by simp [copyInto, Nat.min_eq_left (Nat.not_lt.mp hl)], rfl, rfl⟩

/-- **`Read` of a well-formed plaintext**: the client id, the shared section `ReadShared`
    reads from right after it, and the user data from the same place. -/
theorem ConnectTokenPrivate.read_ok {p : ConnectTokenPrivate} {shared : SharedTokenData}
    {clientId : UInt64} {body : Bytes} (ht : p.tokenData = leBytes sizeUint64 clientId.toNat ++ body)
    (hc : p.clientId = 0) (hs : p.readShared body = .ok shared) (hu : userDataBytes ≤ body.length) :
    p.read = .ok { p with toSharedTokenData := shared, clientId, userData := body.take userDataBytes } := by
  rw [ConnectTokenPrivate.read, ht, hc, readUint64_leBytes, Go.ok_bind]
  dsimp only
  rw [hs, Go.ok_bind, readBytes, if_neg (Nat.not_lt.mpr hu)]
  rfl

/-- The keys `Read` leaves have the lengths of the receiver's key slices. -/
theorem ConnectTokenPrivate.read_keys {p p' : ConnectTokenPrivate} (h : p.read = .ok p') :
    p'.clientKey.length = p.clientKey.length ∧ p'.serverKey.length = p.serverKey.length := by
  unfold ConnectTokenPrivate.read at h
  obtain ⟨⟨rest, cid⟩, -, h⟩ := Go.bind_eq_ok.mp h
  obtain ⟨shared, hs, h⟩ := Go.bind_eq_ok.mp h
  obtain ⟨⟨_, ud⟩, -, h⟩ := Go.bind_eq_ok.mp h
  simp only [Go.pure_eq, Go.ok.injEq] at h
  subst h
  exact length_readShared_keys hs

/-! ### `Generate`, `Write` and `Encrypt` -/

/-- `Write` changes only `TokenData`. -/
theorem ConnectTokenPrivate.write_shared {p p' : ConnectTokenPrivate} (h : p.write = .ok p') :
    p'.toSharedTokenData = p.toSharedTokenData := by
  unfold ConnectTokenPrivate.write at h
  obtain ⟨_, -, h⟩ := Go.bind_eq_ok.mp h
  obtain ⟨_, -, h⟩ := Go.bind_eq_ok.mp h
  obtain ⟨_, -, h⟩ := Go.bind_eq_ok.mp h
  simp only [Go.pure_eq, Go.ok.injEq] at h
  rw [← h]

/-- `Encrypt` changes only `TokenData` and `mac`. -/
theorem ConnectTokenPrivate.encrypt_shared {A : AeadOps} {p p' : ConnectTokenPrivate}
    {protocolId expire sequence : UInt64} {key : Bytes}
    (h : p.encrypt A protocolId expire sequence key = .ok p') :
    p'.toSharedTokenData = p.toSharedTokenData := by
  unfold ConnectTokenPrivate.encrypt at h
  simp only [buildTokenCryptData_eq, Go.ok_bind] at h
  split_ifs at h
  simp only [Go.pure_eq, Go.ok.injEq] at h
  rw [← h]

/-- A successful `Encrypt` leaves `CONNECT_TOKEN_PRIVATE_BYTES` of `TokenData`: it checks
    the ciphertext's length. -/
theorem ConnectTokenPrivate.encrypt_length {A : AeadOps} {p p' : ConnectTokenPrivate}
    {protocolId expire sequence : UInt64} {key : Bytes}
    (h : p.encrypt A protocolId expire sequence key = .ok p') :
    p'.tokenData.length = connectTokenPrivateBytes := by
  unfold ConnectTokenPrivate.encrypt at h
  simp only [buildTokenCryptData_eq, Go.ok_bind] at h
  split_ifs at h with hl
  simp only [Go.pure_eq, Go.ok.injEq] at h
  rw [← h]
  exact not_not.mp hl

/-- Generate with both keys made stores them in the private token. -/
theorem ConnectTokenPrivate.generate_ok (p : ConnectTokenPrivate) (clientKey serverKey : Bytes) :
    p.generate (.ok clientKey) (.ok serverKey) = .ok { p with clientKey, serverKey } := rfl

/-- The plaintext `Write` lays out for valid addresses and keys: the client id, the shared
    section and the user data, one after the other. -/
def privateBytes (p : ConnectTokenPrivate) : Bytes :=
  leBytes sizeUint64 p.clientId.toNat ++ (sharedBytes p.toSharedTokenData ++
    p.userData.take userDataBytes)

/-- The private section is the client id, the shared section and USER_DATA_BYTES of user
    data. -/
theorem length_privateBytes {p : ConnectTokenPrivate} (hu : userDataBytes ≤ p.userData.length) :
    (privateBytes p).length = sizeUint64 + (sharedBytes p.toSharedTokenData).length + userDataBytes := by
  simp only [privateBytes, List.length_append, length_leBytes, List.length_take,
    Nat.min_eq_left hu]
  omega

/-- `Write` up to the user data: for valid addresses and keys of at least `KEY_BYTES`, with
    room for the client id and the shared section, the client id and the shared section are
    stored, and `WriteBytesN` of the user data right after them is what is left. -/
theorem ConnectTokenPrivate.write_eq_userData {p : ConnectTokenPrivate}
    (hv : ∀ a ∈ p.serverAddrs, a.Valid) (hc : keyBytes ≤ p.clientKey.length)
    (hs : keyBytes ≤ p.serverKey.length)
    (hroom : sizeUint64 + (sharedBytes p.toSharedTokenData).length ≤ p.tokenData.length) :
    p.write = (fun r => { p with tokenData := r.1 }) <$> checkErr (writeBytesN
      (store p.tokenData 0 (leBytes sizeUint64 p.clientId.toNat ++ sharedBytes p.toSharedTokenData))
      (0 + (leBytes sizeUint64 p.clientId.toNat ++ sharedBytes p.toSharedTokenData).length)
      p.userData userDataBytes) := by
  unfold ConnectTokenPrivate.write
  rw [(writes_checkErr_writeUint64 p.clientId).first (show 0 + _ ≤ p.tokenData.length by
    rw [length_leBytes]; omega), Go.ok_bind]
  dsimp only
  rw [(writes_writeSharedBody hv hc hs).after (by simp only [List.length_append, length_leBytes]; omega),
    Go.ok_bind]
  rfl

/-- **What `Write` stores.**  For valid addresses, keys of at least `KEY_BYTES` and user
    data of at least `USER_DATA_BYTES`, when everything fits: `privateBytes` from the start
    of `TokenData`. -/
theorem ConnectTokenPrivate.write_ok {p : ConnectTokenPrivate}
    (hv : ∀ a ∈ p.serverAddrs, a.Valid) (hc : keyBytes ≤ p.clientKey.length)
    (hs : keyBytes ≤ p.serverKey.length) (hu : userDataBytes ≤ p.userData.length)
    (hroom : (privateBytes p).length ≤ p.tokenData.length) :
    p.write = .ok { p with tokenData := store p.tokenData 0 (privateBytes p) } := by
  simp only [privateBytes, List.length_append, length_leBytes, List.length_take,
    Nat.min_eq_left hu] at hroom
  rw [ConnectTokenPrivate.write_eq_userData hv hc hs (by omega), (writes_checkErr_writeBytesN hu).after
    (by simp only [List.length_append, length_leBytes, List.length_take, Nat.min_eq_left hu]; omega),
    privateBytes, List.append_assoc]
  rfl

/-- Under an AEAD that meets the contract, `Encrypt` of a `TokenData` of
    `CONNECT_TOKEN_PRIVATE_BYTES - MAC_BYTES` bytes succeeds. -/
theorem ConnectTokenPrivate.encrypt_ok (A : Aead) {token : ConnectTokenPrivate}
    (hlen : token.tokenData.length = connectTokenPrivateBytes - macBytes)
    (protocolId expire sequence : UInt64) (key : Bytes) :
    token.encrypt A.toAeadOps protocolId expire sequence key = .ok { token with
      tokenData := A.encrypt token.tokenData (tokenAad protocolId expire) (nonceOf sequence) key
      mac := copyInto token.mac ((A.encrypt token.tokenData (tokenAad protocolId expire)
        (nonceOf sequence) key).drop (connectTokenPrivateBytes - macBytes)) } := by
  have hl : (A.encrypt token.tokenData (tokenAad protocolId expire) (nonceOf sequence) key).length =
      connectTokenPrivateBytes := by
    rw [A.length_encrypt, hlen]; rfl
  simp only [ConnectTokenPrivate.encrypt, buildTokenCryptData_eq, Go.ok_bind, encryptAead, hl,
    ne_eq, not_true_eq_false, ite_false, Go.pure_eq]

end Netcode
