import Netcode.Token.Connect

namespace Netcode

/-!
# netcode.io — the challenge token, and truncated tokens

`ChallengeToken` (`src/unnamed/part_001`): a client id and 256 bytes of user data,
serialized into 284 bytes and encrypted into `CHALLENGE_TOKEN_BYTES = 300`.

* `ChallengeToken.write` — the client id and the user data written into `TokenData`;
  it returns `ref`, the slice `TokenData` was before the writes moved it, which sees
  them (`write_ok`).
* `encryptChallengeToken` / `decryptChallengeToken` — the AEAD with no associated data
  and the sequence's eight little-endian bytes as the nonce.
* `readChallengeToken` — the client id, then `USER_DATA_BYTES` of user data.
* `challengeToken_roundTrip` — under the AEAD contract, a written and encrypted token of
  at most 256 bytes of user data is 300 bytes long, and it decrypts and reads back to its
  client id and its user data padded with zeros to 256 bytes.
* `tokenReaders_truncated_panic` — `ReadUint64` checks only that one byte remains, so a
  buffer that ends one to seven bytes into a `uint64` field makes `ReadChallengeToken`
  and `ReadConnectToken` index past its end.
-/

/-- `ChallengeToken`. -/
structure ChallengeToken where
  clientId : UInt64
  userData : Bytes
  tokenData : Bytes
  deriving DecidableEq, Repr

/-- `NewChallengeToken(clientId)`: `TokenData` of `CHALLENGE_TOKEN_BYTES - MAC_BYTES` zero
    bytes, which leaves room for the tag `EncryptAead` appends, and `UserData` of
    `USER_DATA_BYTES` zero bytes. -/
def newChallengeToken (clientId : UInt64) : ChallengeToken :=
  { clientId, userData := List.replicate userDataBytes 0,
    tokenData := List.replicate (challengeTokenBytes - macBytes) 0 }

/-- `t.Write(userData)`: `copy(t.UserData, userData)`, then `WriteUint64` of the client id
    and `WriteBytes` of `userData` into `TokenData`, each error dropped.  `TokenData` is
    left at the slice after the writes; the result is `ref`, the slice `TokenData` was
    before them, over the same array. -/
def ChallengeToken.write (t : ChallengeToken) (userData : Bytes) : Go (ChallengeToken × Bytes) := do
  let (mem, buffer) ← ignoreErr (writeUint64 t.tokenData 0 t.clientId)
  let (mem, buffer) ← ignoreErr (writeBytes mem buffer userData)
  return ({ t with userData := copyInto t.userData userData, tokenData := mem.drop buffer }, mem)

/-- `EncryptChallengeToken(&tokenBuffer, sequence, key)`: the nonce is `WriteUint64` of the
    sequence into eight zero bytes; `EncryptAead` with no associated data makes
    `*tokenBuffer` the ciphertext. -/
def encryptChallengeToken (A : AeadOps) (tokenBuffer : Bytes) (sequence : UInt64) (key : Bytes) :
    Go Bytes := do
  let (nonce, _) ← ignoreErr (writeUint64 (List.replicate sizeUint64 0) 0 sequence)
  return encryptAead A tokenBuffer [] nonce key

/-- `DecryptChallengeToken(tokenBuffer, sequence, key)`. -/
def decryptChallengeToken (A : AeadOps) (tokenBuffer : Bytes) (sequence : UInt64) (key : Bytes) :
    Go Bytes := do
  let (nonce, _) ← ignoreErr (writeUint64 (List.replicate sizeUint64 0) 0 sequence)
  decryptAead A tokenBuffer [] nonce key

/-- `ReadChallengeToken(buffer)`: `ReadUint64` into a zero `clientId`, then
    `NewChallengeToken(clientId)` whose `UserData` becomes the next `USER_DATA_BYTES`
    bytes. -/
def readChallengeToken (buffer : Bytes) : Go ChallengeToken := do
  let (tokenBuffer, clientId) ← (readUint64 buffer 0).mapErr fun e => "error reading clientId: " ++ e
  let token := newChallengeToken clientId
  let (_, userData) ← (readBytes tokenBuffer userDataBytes).mapErr
    fun e => "error reading user data: " ++ e
  return { token with userData := userData }

/-! ### Each step -/

/-- The nonce both functions write is the sequence's eight little-endian bytes. -/
theorem challengeTokenNonce_eq (sequence : UInt64) :
    ignoreErr (writeUint64 (List.replicate sizeUint64 0) 0 sequence) =
      .ok (nonceOf sequence, sizeUint64) := by
  rw [writeUint64, writeChunk_ok (by simp)]
  simp [ignoreErr, store, nonceOf, sizeUint64]

/-- EncryptChallengeToken seals the token with no associated data, under the sequence's
    nonce. -/
theorem encryptChallengeToken_eq (A : AeadOps) (tokenBuffer : Bytes) (sequence : UInt64)
    (key : Bytes) :
    encryptChallengeToken A tokenBuffer sequence key =
      .ok (A.encrypt tokenBuffer [] (nonceOf sequence) key) := by
  rw [encryptChallengeToken, challengeTokenNonce_eq, Go.ok_bind]
  rfl

/-- DecryptChallengeToken opens what EncryptChallengeToken sealed under the same sequence
    and key. -/
theorem decryptChallengeToken_encrypt (A : Aead) (pt : Bytes) (sequence : UInt64) (key : Bytes) :
    decryptChallengeToken A.toAeadOps (A.encrypt pt [] (nonceOf sequence) key) sequence key =
      .ok pt := by
  rw [decryptChallengeToken, challengeTokenNonce_eq, Go.ok_bind]
  exact decryptAead_encrypt A pt [] (nonceOf sequence) key

/-- **What `Write` returns**: with room for the client id and the user data, `ref` holds
    the client id's eight bytes and the user data, then what `TokenData` held after them. -/
theorem ChallengeToken.write_ok (t : ChallengeToken) {userData : Bytes}
    (h : sizeUint64 + userData.length ≤ t.tokenData.length) :
    ∃ t', t.write userData =
      .ok (t', store t.tokenData 0 (leBytes sizeUint64 t.clientId.toNat ++ userData)) := by
  have h8 : 0 + (leBytes sizeUint64 t.clientId.toNat).length ≤ t.tokenData.length := by
    simp only [length_leBytes]; omega
  rw [ChallengeToken.write, (writes_writeUint64 t.clientId).first h8, Go.ok_bind]
  dsimp only
  rw [(writes_writeBytes userData).after (by simp only [List.length_append, length_leBytes]; omega),
    Go.ok_bind]
  exact ⟨_, rfl⟩

/-- `ReadChallengeToken` of a client id's eight bytes and at least `USER_DATA_BYTES` more. -/
theorem readChallengeToken_ok (clientId : UInt64) {rest : Bytes} (h : userDataBytes ≤ rest.length) :
    readChallengeToken (leBytes sizeUint64 clientId.toNat ++ rest) =
      .ok { newChallengeToken clientId with userData := rest.take userDataBytes } := by
  rw [readChallengeToken, readUint64_leBytes, Go.mapErr_ok, Go.ok_bind]
  dsimp only
  rw [readBytes, if_neg (Nat.not_lt.mpr h)]
  rfl

/-- **The challenge token round trip.**  Under an AEAD meeting the contract, for every
    client id, user data of at most `USER_DATA_BYTES`, sequence and key: the token
    `NewChallengeToken(clientId).Write(userData)` returns, encrypted, is
    `CHALLENGE_TOKEN_BYTES` long, and it decrypts and reads back to a token with that
    client id and the user data padded with zeros to `USER_DATA_BYTES`. -/
theorem challengeToken_roundTrip (A : Aead) (clientId : UInt64) {userData : Bytes}
    (hu : userData.length ≤ userDataBytes) (sequence : UInt64) (key : Bytes) :
    ∃ t ref buf, (newChallengeToken clientId).write userData = .ok (t, ref) ∧
      encryptChallengeToken A.toAeadOps ref sequence key = .ok buf ∧
      buf.length = challengeTokenBytes ∧
      ∃ token, (decryptChallengeToken A.toAeadOps buf sequence key >>= readChallengeToken) =
          .ok token ∧
        token.clientId = clientId ∧
        token.userData = userData ++ List.replicate (userDataBytes - userData.length) 0 := by
  have hroom : sizeUint64 + userData.length ≤ (newChallengeToken clientId).tokenData.length := by
    show _ ≤ (List.replicate (challengeTokenBytes - macBytes) (0 : UInt8)).length
    rw [List.length_replicate]
    simp only [sizeUint64, challengeTokenBytes, macBytes, userDataBytes] at hu ⊢
    omega
  obtain ⟨t, hw⟩ := (newChallengeToken clientId).write_ok hroom
  -- the plaintext: the client id, the user data, then zeros to 284 bytes
  have hpt := store_replicate_zero (challengeTokenBytes - macBytes)
    (leBytes sizeUint64 clientId.toNat ++ userData)
  rw [List.length_append, length_leBytes, List.append_assoc] at hpt
  rw [show store (newChallengeToken clientId).tokenData 0
    (leBytes sizeUint64 (newChallengeToken clientId).clientId.toNat ++ userData) = _ from hpt] at hw
  have hrest : userDataBytes ≤ (userData ++ List.replicate
      (challengeTokenBytes - macBytes - (sizeUint64 + userData.length)) (0 : UInt8)).length := by
    rw [List.length_append, List.length_replicate]
    simp only [challengeTokenBytes, macBytes, sizeUint64, userDataBytes] at hu ⊢
    omega
  refine ⟨t, _, _, hw, encryptChallengeToken_eq _ _ _ _, ?_, _, by
    rw [decryptChallengeToken_encrypt, Go.ok_bind, readChallengeToken_ok clientId hrest], rfl, ?_⟩
  · rw [A.length_encrypt, List.length_append, List.length_append, List.length_replicate,
      length_leBytes]
    simp only [sizeUint64, challengeTokenBytes, macBytes, userDataBytes] at hu ⊢
    omega
  · show (userData ++ _).take userDataBytes = _
    rw [List.take_append_eq_append_take, List.take_of_length_le hu, List.take_replicate,
      Nat.min_eq_left (by simp only [challengeTokenBytes, macBytes, sizeUint64, userDataBytes]; omega)]

/-- Client id 7 and three bytes of user data, under `Aead.zeroTag`. -/
theorem challengeToken_roundTrip_three :
    [(1 : UInt8), 2, 3].length ≤ userDataBytes ∧
      ∃ t ref buf, (newChallengeToken 7).write [1, 2, 3] = .ok (t, ref) ∧
        encryptChallengeToken Aead.zeroTag.toAeadOps ref 0 [] = .ok buf ∧
        buf.length = challengeTokenBytes ∧
        ∃ token, (decryptChallengeToken Aead.zeroTag.toAeadOps buf 0 [] >>= readChallengeToken) =
            .ok token ∧
          token.clientId = 7 ∧
          token.userData = [1, 2, 3] ++ List.replicate (userDataBytes - [(1 : UInt8), 2, 3].length) 0 :=
  ⟨by decide, challengeToken_roundTrip Aead.zeroTag 7 (by decide) 0 []⟩

/-! ### Truncated tokens -/

/-- **Both token readers index past a truncated buffer.**  `ReadUint64` checks only that
    one byte remains.  A buffer of one to seven bytes makes `ReadChallengeToken` panic at
    the client id; after the version info, one to seven bytes where the protocol id, the
    create timestamp, the expire timestamp or (once the timestamps are in order) the
    sequence starts make `ReadConnectToken` panic there. -/
theorem tokenReaders_truncated_panic {rest : Bytes} (h1 : 1 ≤ rest.length) (h8 : rest.length < 8) :
    readChallengeToken rest = .panic ∧
      readConnectToken (versionInfo ++ rest) = .panic ∧
      (∀ p : UInt64, readConnectToken (versionInfo ++ leBytes sizeUint64 p.toNat ++ rest) = .panic) ∧
      (∀ p c : UInt64, readConnectToken (versionInfo ++ leBytes sizeUint64 p.toNat ++
        leBytes sizeUint64 c.toNat ++ rest) = .panic) ∧
      (∀ p c e : UInt64, c ≤ e → readConnectToken (versionInfo ++ leBytes sizeUint64 p.toNat ++
        leBytes sizeUint64 c.toNat ++ leBytes sizeUint64 e.toNat ++ rest) = .panic) := by
  have hp : ∀ out, readUint64 rest out = .panic := readUint64_panic h1 h8
  have hv : ∀ xs : Bytes, readBytes (versionInfo ++ xs) versionInfoBytes = .ok (xs, versionInfo) :=
    fun xs => length_versionInfo ▸ readBytes_append _ _
  refine ⟨by rw [readChallengeToken, hp]; rfl, ?_, fun p => ?_, fun p c => ?_, fun p c e hce => ?_⟩
  all_goals
    simp only [readConnectToken, newConnectToken, List.append_assoc, hv, readUint64_leBytes,
      Go.mapErr_ok, Go.ok_bind, ne_eq, not_true_eq_false, ite_false, hp, Go.mapErr_panic,
      Go.panic_bind]
  rw [if_neg (UInt64.not_lt.mpr hce)]

/-- The version info and one more byte: `ReadConnectToken` panics at the protocol id. -/
theorem readConnectToken_versionInfo_panics :
    1 ≤ [(0 : UInt8)].length ∧ [(0 : UInt8)].length < 8 ∧
      readConnectToken (versionInfo ++ [0]) = .panic ∧ readChallengeToken [0] = .panic := by
  obtain ⟨hc, hr, -⟩ := @tokenReaders_truncated_panic [0] (by decide) (by decide)
  exact ⟨by decide, by decide, hr, hc⟩

end Netcode
