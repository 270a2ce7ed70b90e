import Netcode.Packet.Decrypt
import Netcode.Token.Private

namespace Netcode

/-!
# netcode.io — the seven packets and their `Read`

The packet types of `packet.go`, `NewPacket`, and each type's `Read`.

* `RequestPacket.read` — the only reader that compares the prefix type with its own;
  then the fixed length `1 + 13 + 8 + 8 + 8 + 1024`, the version, the protocol id, the
  expiry, and the connect token, decrypted and read.  `RequestPacket.read_eq_ok` is what
  an accepted request carries; `RequestPacket.read_ok` builds one that is accepted, and
  what its private token holds.
* `readSequenced` — what the six other readers share: `decryptPacket`, then a `body`
  that checks the decrypted size and reads the fields.  Each reader is `readSequenced`
  with its own body, under its own name; `DeniedPacket` and `DisconnectPacket` share one
  body (and its error text), `ChallengePacket` and `ResponsePacket` another, which
  differs only in that text.
* `Packet.read` — the `Packet` interface's `Read`, by cases; `readPacket` is
  `NewPacket(d).Read(d, …)`, which panics on the `nil` packet of an unknown type.
* `readPacket_eq_ok` — what an accepted datagram is, for every type: its `Peek` type is the
  packet's, the caller allowed that type, and a sequenced packet carries the sequence
  `decryptPacket` read, its window updated by the replay check alone.
-/

/-- `RequestPacket`. -/
structure RequestPacket where
  versionInfo : Bytes := []
  protocolId : UInt64 := 0
  connectTokenExpireTimestamp : UInt64 := 0
  connectTokenSequence : UInt64 := 0
  token : Option ConnectTokenPrivate := none
  connectTokenData : Bytes := []
  deriving DecidableEq, Repr

/-- `DeniedPacket`. -/
structure DeniedPacket where
  sequence : UInt64 := 0
  deriving DecidableEq, Repr

/-- `ChallengePacket`. -/
structure ChallengePacket where
  sequence : UInt64 := 0
  challengeTokenSequence : UInt64 := 0
  challengeTokenData : Bytes := []
  deriving DecidableEq, Repr

/-- `ResponsePacket`. -/
structure ResponsePacket where
  sequence : UInt64 := 0
  challengeTokenSequence : UInt64 := 0
  challengeTokenData : Bytes := []
  deriving DecidableEq, Repr

/-- `KeepAlivePacket`. -/
structure KeepAlivePacket where
  sequence : UInt64 := 0
  clientIndex : UInt32 := 0
  maxClients : UInt32 := 0
  deriving DecidableEq, Repr

/-- `PayloadPacket`. -/
structure PayloadPacket where
  sequence : UInt64 := 0
  payloadBytes : UInt32 := 0
  payloadData : Bytes := []
  deriving DecidableEq, Repr

/-- `DisconnectPacket`. -/
structure DisconnectPacket where
  sequence : UInt64 := 0
  deriving DecidableEq, Repr

/-- The `Packet` interface, one case per implementation. -/
inductive Packet where
  | request (p : RequestPacket)
  | denied (p : DeniedPacket)
  | challenge (p : ChallengePacket)
  | response (p : ResponsePacket)
  | keepAlive (p : KeepAlivePacket)
  | payload (p : PayloadPacket)
  | disconnect (p : DisconnectPacket)
  deriving DecidableEq, Repr

/-- `GetType()`. -/
def Packet.getType : Packet → PacketType
  | .request _ => connectionRequest
  | .denied _ => connectionDenied
  | .challenge _ => connectionChallenge
  | .response _ => connectionResponse
  | .keepAlive _ => connectionKeepAlive
  | .payload _ => connectionPayload
  | .disconnect _ => connectionDisconnect

/-- `Sequence()`; a request packet answers `0`. -/
def Packet.sequence : Packet → UInt64
  | .request _ => 0
  | .denied p => p.sequence
  | .challenge p => p.sequence
  | .response p => p.sequence
  | .keepAlive p => p.sequence
  | .payload p => p.sequence
  | .disconnect p => p.sequence

/-- `NewPacket(packetBuffer)`: the zero packet of the type `Peek` reads, and `nil` (here
    `none`) for a type outside the seven. -/
def newPacket (packetBuffer : Bytes) : Go (Option Packet) := do
  let t ← peek packetBuffer
  return if t = connectionRequest then some (.request {})
    else if t = connectionDenied then some (.denied {})
    else if t = connectionChallenge then some (.challenge {})
    else if t = connectionResponse then some (.response {})
    else if t = connectionKeepAlive then some (.keepAlive {})
    else if t = connectionPayload then some (.payload {})
    else if t = connectionDisconnect then some (.disconnect {})
    else none

/-- The arguments of `Read` after the packet buffer, but for the replay window, which
    `Read` updates and is passed on its own. -/
structure ReadArgs where
  packetLen : Int
  protocolId : UInt64
  currentTimestamp : UInt64
  readPacketKey : Option Bytes
  privateKey : Option Bytes
  allowedPackets : Bytes

/-! ### `RequestPacket.Read` -/

/-- `p.Read(packetBuffer, …)` of a `RequestPacket`.  The reads OR into the receiver's
    fields. -/
def RequestPacket.read (A : AeadOps) (p : RequestPacket) (packetBuffer : Bytes)
    (args : ReadArgs) : Go RequestPacket := do
  let start := packetBuffer
  let (packetBuffer, packetType) ← (readUint8 packetBuffer).mapErr fun _ => "invalid packet type"
  if packetType ≠ connectionRequest then .err "invalid packet type" else
  match args.allowedPackets[0]? with
  | none => .panic
  | some allowed =>
  if allowed = 0 then .err "ignored connection request packet. packet type is not allowed" else
  if args.packetLen ≠ 1 + versionInfoBytes + 8 + 8 + 8 + connectTokenPrivateBytes then
    .err "ignored connection request packet. bad packet length" else
  match args.privateKey with
  | none => .err "ignored connection request packet. no private key\n"
  | some privateKey => do
  let (packetBuffer, versionInfo) ← (readBytes packetBuffer versionInfoBytes).mapErr
    fun _ => "ignored connection request packet. bad version info invalid bytes returned\n"
  if versionInfo ≠ Netcode.versionInfo then
    .err "ignored connection request packet. bad version info did not match\n" else do
  let (packetBuffer, protocolId) ← (readUint64 packetBuffer p.protocolId).mapErr
    fun _ => "ignored connection request packet. wrong protocol id\n"
  if protocolId ≠ args.protocolId then .err "ignored connection request packet. wrong protocol id\n"
  else do
  let (packetBuffer, expire) ← (readUint64 packetBuffer p.connectTokenExpireTimestamp).mapErr
    fun _ => "ignored connection request packet. connect token expired\n"
  if expire ≤ args.currentTimestamp then .err "ignored connection request packet. connect token expired\n"
  else do
  let (packetBuffer, tokenSequence) ← readUint64 packetBuffer p.connectTokenSequence
  if (start.length : Int) - packetBuffer.length ≠ 1 + versionInfoBytes + 8 + 8 + 8 then
    .err "invalid length of packet buffer read" else do
  let (_, tokenBuffer) ← readBytes packetBuffer connectTokenPrivateBytes
  let token ← newConnectTokenPrivateEncrypted tokenBuffer
  let token ← (token.decrypt A protocolId expire tokenSequence privateKey).mapErr
    fun e => "error decrypting connect token private data: " ++ e
  let token ← token.read.mapErr fun e => "error reading decrypted connect token private data: " ++ e
  return { p with
    versionInfo := versionInfo
    protocolId := protocolId
    connectTokenExpireTimestamp := expire
    connectTokenSequence := tokenSequence
    token := some token }

/-! ### The sequenced packets -/

/-- What the `Read` of every sequenced packet shares: `decryptPacket`, then `body` on the
    sequence and the decrypted data. -/
def readSequenced {P : Type} (A : AeadOps) (body : UInt64 → Bytes → Go P) (packetBuffer : Bytes)
    (args : ReadArgs) (replayProtection : Option ReplayProtection) :
    Option ReplayProtection × Go P :=
  let decrypted := decryptPacket A packetBuffer args.packetLen args.protocolId
    args.currentTimestamp args.readPacketKey args.allowedPackets replayProtection
  (decrypted.1, decrypted.2 >>= fun r => body r.1 r.2)

/-- The body of `DeniedPacket.Read` and `DisconnectPacket.Read`: nothing, with the same
    error text in both. -/
def emptyBody {P : Type} (withSequence : UInt64 → P) (sequence : UInt64) (decryptedBuf : Bytes) :
    Go P :=
  if decryptedBuf.length ≠ 0 then
    .err "ignored connection denied packet. decrypted packet data is wrong size"
  else .ok (withSequence sequence)

/-- The body of `ChallengePacket.Read` and `ResponsePacket.Read`, which differ only in the
    text `wrongSize`: the challenge token sequence, OR-ed into the receiver's `old`, and
    the challenge token data. -/
def challengeBody (wrongSize : String) (old : UInt64) (decryptedBuf : Bytes) :
    Go (UInt64 × Bytes) := do
  if decryptedBuf.length ≠ 8 + challengeTokenBytes then .err wrongSize else do
  let (decryptedBuf, challengeTokenSequence) ← (readUint64 decryptedBuf old).mapErr
    fun _ => "error reading challenge token sequence"
  let (_, challengeTokenData) ← (readBytes decryptedBuf challengeTokenBytes).mapErr
    fun _ => "error reading challenge token data"
  return (challengeTokenSequence, challengeTokenData)

/-- `DeniedPacket.Read`. -/
def DeniedPacket.read (A : AeadOps) (p : DeniedPacket) :
    Bytes → ReadArgs → Option ReplayProtection → Option ReplayProtection × Go DeniedPacket :=
  readSequenced A (emptyBody fun sequence => { p with sequence := sequence })

/-- `ChallengePacket.Read`. -/
def ChallengePacket.read (A : AeadOps) (p : ChallengePacket) :
    Bytes → ReadArgs → Option ReplayProtection → Option ReplayProtection × Go ChallengePacket :=
  readSequenced A fun sequence decryptedBuf =>
    (fun r => { p with
      sequence := sequence
      challengeTokenSequence := r.1
      challengeTokenData := r.2 }) <$>
      challengeBody "ignored connection challenge packet. decrypted packet data is wrong size"
        p.challengeTokenSequence decryptedBuf

/-- `ResponsePacket.Read`. -/
def ResponsePacket.read (A : AeadOps) (p : ResponsePacket) :
    Bytes → ReadArgs → Option ReplayProtection → Option ReplayProtection × Go ResponsePacket :=
  readSequenced A fun sequence decryptedBuf =>
    (fun r => { p with
      sequence := sequence
      challengeTokenSequence := r.1
      challengeTokenData := r.2 }) <$>
      challengeBody
        "ignored connection challenge response packet. decrypted packet data is wrong size"
        p.challengeTokenSequence decryptedBuf

/-- `KeepAlivePacket.Read`: two `uint32`s, OR-ed into the receiver's. -/
def KeepAlivePacket.read (A : AeadOps) (p : KeepAlivePacket) :
    Bytes → ReadArgs → Option ReplayProtection → Option ReplayProtection × Go KeepAlivePacket :=
  readSequenced A fun sequence decryptedBuf => do
    if decryptedBuf.length ≠ 8 then
      .err "ignored connection keep alive packet. decrypted packet data is wrong size" else do
    let (decryptedBuf, clientIndex) ← (readUint32 decryptedBuf p.clientIndex).mapErr
      fun _ => "error reading keepalive client index"
    let (_, maxClients) ← (readUint32 decryptedBuf p.maxClients).mapErr
      fun _ => "error reading keepalive max clients"
    return { p with sequence := sequence, clientIndex := clientIndex, maxClients := maxClients }

/-- `PayloadPacket.Read`: the size is `uint32(len(decryptedBuf))`, which wraps. -/
def PayloadPacket.read (A : AeadOps) (p : PayloadPacket) :
    Bytes → ReadArgs → Option ReplayProtection → Option ReplayProtection × Go PayloadPacket :=
  readSequenced A fun sequence decryptedBuf =>
    let decryptedSize := UInt32.ofNat decryptedBuf.length
    if decryptedSize < 1 then .err "ignored connection payload packet. payload is too small"
    else if decryptedSize.toNat > maxPayloadBytes then
      .err "ignored connection payload packet. payload is too large"
    else .ok { p with
      sequence := sequence
      payloadBytes := decryptedSize
      payloadData := decryptedBuf }

/-- `DisconnectPacket.Read`. -/
def DisconnectPacket.read (A : AeadOps) (p : DisconnectPacket) :
    Bytes → ReadArgs → Option ReplayProtection → Option ReplayProtection × Go DisconnectPacket :=
  readSequenced A (emptyBody fun sequence => { p with sequence := sequence })

/-! ### The interface -/

/-- `Packet.Read`: the implementation's `Read`, with the window as it leaves it. -/
def Packet.read (A : AeadOps) (packet : Packet) (packetBuffer : Bytes) (args : ReadArgs)
    (replayProtection : Option ReplayProtection) : Option ReplayProtection × Go Packet :=
  match packet with
  | .request p => (replayProtection, .request <$> p.read A packetBuffer args)
  | .denied p =>
    let r := p.read A packetBuffer args replayProtection
    (r.1, .denied <$> r.2)
  | .challenge p =>
    let r := p.read A packetBuffer args replayProtection
    (r.1, .challenge <$> r.2)
  | .response p =>
    let r := p.read A packetBuffer args replayProtection
    (r.1, .response <$> r.2)
  | .keepAlive p =>
    let r := p.read A packetBuffer args replayProtection
    (r.1, .keepAlive <$> r.2)
  | .payload p =>
    let r := p.read A packetBuffer args replayProtection
    (r.1, .payload <$> r.2)
  | .disconnect p =>
    let r := p.read A packetBuffer args replayProtection
    (r.1, .disconnect <$> r.2)

/-- `NewPacket(packetBuffer).Read(packetBuffer, …)`: `Read` on the `nil` packet of an
    unknown type panics. -/
def readPacket (A : AeadOps) (packetBuffer : Bytes) (args : ReadArgs)
    (replayProtection : Option ReplayProtection) : Option ReplayProtection × Go Packet :=
  Go.withState replayProtection (newPacket packetBuffer) fun
    | some packet => packet.read A packetBuffer args replayProtection
    | none => (replayProtection, .panic)

/-! ### What each `Read` accepts -/

section
variable {A : AeadOps} {d : Bytes} {args : ReadArgs} {rp rp' : Option ReplayProtection}

/-- `decryptPacket` with the arguments of a `Read`. -/
abbrev decryptWith (A : AeadOps) (d : Bytes) (args : ReadArgs) (rp : Option ReplayProtection) :
    Option ReplayProtection × Go (UInt64 × Bytes) :=
  decryptPacket A d args.packetLen args.protocolId args.currentTimestamp args.readPacketKey
    args.allowedPackets rp

/-- A sequenced packet is read exactly when its frame decrypts and its body reads from the
    plaintext. -/
theorem readSequenced_eq_ok {P : Type} {body : UInt64 → Bytes → Go P} {x : P} :
    readSequenced A body d args rp = (rp', .ok x) ↔
      ∃ s pt, decryptWith A d args rp = (rp', .ok (s, pt)) ∧ body s pt = .ok x := by
  unfold readSequenced
  constructor
  · intro h
    simp only [Prod.mk.injEq] at h
    obtain ⟨⟨s, pt⟩, h2, hb⟩ := Go.bind_eq_ok.mp h.2
    exact ⟨s, pt, Prod.ext h.1 h2, hb⟩
  · rintro ⟨s, pt, h, hb⟩
    dsimp only [decryptWith] at h ⊢
    rw [h]
    simp [hb]

/-- An empty body reads exactly when the plaintext is empty. -/
theorem emptyBody_eq_ok {P : Type} {f : UInt64 → P} {s : UInt64} {pt : Bytes} {x : P} :
    emptyBody f s pt = .ok x ↔ pt = [] ∧ f s = x := by
  unfold emptyBody
  split_ifs with h <;> simp_all

/-- A challenge or response body that reads has exactly a sequence and a challenge token. -/
theorem challengeBody_length {w : String} {old : UInt64} {pt : Bytes} {r : UInt64 × Bytes}
    (h : challengeBody w old pt = .ok r) : pt.length = 8 + challengeTokenBytes := by
  unfold challengeBody at h
  split_ifs at h with hl
  · exact not_not.mp hl

/-- The decrypted sizes the `Read` of each sequenced type accepts: `uint32(len)` for a
    payload, which is the length modulo `2 ^ 32`. -/
def BodySizeOk (t : PacketType) (n : Nat) : Prop :=
  if t = connectionChallenge ∨ t = connectionResponse then n = 8 + challengeTokenBytes
  else if t = connectionKeepAlive then n = 8
  else if t = connectionPayload then 1 ≤ n % 2 ^ 32 ∧ n % 2 ^ 32 ≤ maxPayloadBytes
  else n = 0

/-- Whether a body size fits a packet type is decidable. -/
instance (t : PacketType) (n : Nat) : Decidable (BodySizeOk t n) := by
  unfold BodySizeOk; infer_instance

/-- Challenge and response bodies are a sequence and a challenge token. -/
theorem bodySizeOk_challengeToken {t : PacketType}
    (ht : t = connectionChallenge ∨ t = connectionResponse) {n : Nat} :
    BodySizeOk t n ↔ n = 8 + challengeTokenBytes := by
  unfold BodySizeOk; rw [if_pos ht]

/-- A keep-alive body is eight bytes. -/
theorem bodySizeOk_keepAlive {n : Nat} : BodySizeOk connectionKeepAlive n ↔ n = 8 := by
  unfold BodySizeOk; rw [if_neg (by decide), if_pos rfl]

/-- A payload body is 1 to MAX_PAYLOAD_BYTES bytes, counted as a uint32. -/
theorem bodySizeOk_payload {n : Nat} :
    BodySizeOk connectionPayload n ↔ 1 ≤ n % 2 ^ 32 ∧ n % 2 ^ 32 ≤ maxPayloadBytes := by
  unfold BodySizeOk; rw [if_neg (by decide), if_neg (by decide), if_pos rfl]

/-- A sequenced `Read` lifted to `Packet` succeeds when `decryptPacket` and the body do. -/
private theorem lift_readSequenced_eq_ok {P : Type} {f : P → Packet} {body : UInt64 → Bytes → Go P}
    {P' : Packet}
    (h : ((readSequenced A body d args rp).1, f <$> (readSequenced A body d args rp).2) =
      (rp', .ok P')) :
    ∃ s pt x, decryptWith A d args rp = (rp', .ok (s, pt)) ∧ body s pt = .ok x ∧ f x = P' := by
  obtain ⟨x, hx, rfl⟩ := Go.map_eq_ok.mp (Prod.mk.inj h).2
  obtain ⟨s, pt, hd, hb⟩ := readSequenced_eq_ok.mp (Prod.ext (Prod.mk.inj h).1 hx)
  exact ⟨s, pt, x, hd, hb, rfl⟩

/-- **What a sequenced packet's `Read` accepts**: `decryptPacket` returned the packet's
    sequence and a body of the size its type accepts; the window is the one
    `decryptPacket` leaves, and the packet keeps its type. -/
theorem Packet.read_sequenced_eq_ok {P P' : Packet} (hP : P.getType ≠ connectionRequest)
    (h : P.read A d args rp = (rp', .ok P')) :
    P'.getType = P.getType ∧ ∃ pt, decryptWith A d args rp = (rp', .ok (P'.sequence, pt)) ∧
      BodySizeOk P.getType pt.length := by
  cases P with
  | request p => exact absurd rfl hP
  | denied p =>
    obtain ⟨s, pt, x, hd, hb, rfl⟩ := lift_readSequenced_eq_ok h
    obtain ⟨rfl, rfl⟩ := emptyBody_eq_ok.mp hb
    exact ⟨rfl, [], hd, show BodySizeOk connectionDenied 0 by decide⟩
  | challenge p =>
    obtain ⟨s, pt, x, hd, hb, rfl⟩ := lift_readSequenced_eq_ok h
    obtain ⟨r, hr, rfl⟩ := Go.map_eq_ok.mp hb
    exact ⟨rfl, pt, hd, (bodySizeOk_challengeToken (.inl rfl)).mpr (challengeBody_length hr)⟩
  | response p =>
    obtain ⟨s, pt, x, hd, hb, rfl⟩ := lift_readSequenced_eq_ok h
    obtain ⟨r, hr, rfl⟩ := Go.map_eq_ok.mp hb
    exact ⟨rfl, pt, hd, (bodySizeOk_challengeToken (.inr rfl)).mpr (challengeBody_length hr)⟩
  | keepAlive p =>
    obtain ⟨s, pt, x, hd, hb, rfl⟩ := lift_readSequenced_eq_ok h
    obtain ⟨hl, hb⟩ := Go.ite_err_eq_ok.mp hb
    obtain ⟨_, -, hb⟩ := Go.bind_eq_ok.mp hb
    obtain ⟨_, -, hb⟩ := Go.bind_eq_ok.mp hb
    cases hb
    exact ⟨rfl, pt, hd, bodySizeOk_keepAlive.mpr (not_not.mp hl)⟩
  | payload p =>
    obtain ⟨s, pt, x, hd, hb, rfl⟩ := lift_readSequenced_eq_ok h
    dsimp only at hb
    split_ifs at hb with h1 h2
    cases hb
    -- the size is read back as a `uint32`
    have e : (UInt32.ofNat pt.length).toNat = pt.length % 2 ^ 32 := rfl
    have h1' : ¬ (UInt32.ofNat pt.length).toNat < 1 := h1
    rw [e] at h1' h2
    exact ⟨rfl, pt, hd, bodySizeOk_payload.mpr ⟨by omega, by omega⟩⟩
  | disconnect p =>
    obtain ⟨s, pt, x, hd, hb, rfl⟩ := lift_readSequenced_eq_ok h
    obtain ⟨rfl, rfl⟩ := emptyBody_eq_ok.mp hb
    exact ⟨rfl, [], hd, show BodySizeOk connectionDisconnect 0 by decide⟩

/-- **What `RequestPacket.Read` accepts**: a first byte `0`, an allowed type `0`, the
    fixed length, the version, the caller's protocol id, an unexpired token, and 1024
    token bytes that open under the private key with the associated data and nonce of
    the fields it read; the token is read from a private token with `nil` keys holding
    that plaintext. -/
theorem RequestPacket.read_eq_ok {p q : RequestPacket} (h : p.read A d args = .ok q) :
    d.head? = some connectionRequest ∧ (∃ a, args.allowedPackets[0]? = some a ∧ a ≠ 0) ∧
      args.packetLen = 1 + versionInfoBytes + 8 + 8 + 8 + connectTokenPrivateBytes ∧
      q.versionInfo = Netcode.versionInfo ∧ q.protocolId = args.protocolId ∧
      args.currentTimestamp < q.connectTokenExpireTimestamp ∧
      ∃ (key : Bytes) (tok t : ConnectTokenPrivate), args.privateKey = some key ∧ q.token = some tok ∧
        A.decrypt ((d.drop 38).take connectTokenPrivateBytes)
          (tokenAad q.protocolId q.connectTokenExpireTimestamp) (nonceOf q.connectTokenSequence)
          key = some t.tokenData ∧
        t.clientKey = [] ∧ t.serverKey = [] ∧ t.read = .ok tok := by
  unfold RequestPacket.read at h
  obtain ⟨⟨d1, ty⟩, h0, h⟩ := Go.bind_eq_ok.mp h
  obtain rfl := readUint8_eq_ok.mp (Go.mapErr_eq_ok.mp h0)
  dsimp only at h
  obtain ⟨hty, h⟩ := Go.ite_err_eq_ok.mp h
  rcases hal : args.allowedPackets[0]? with _ | allowed <;> rw [hal] at h
  · cases h
  obtain ⟨ha, h⟩ := Go.ite_err_eq_ok.mp h
  obtain ⟨hlen, h⟩ := Go.ite_err_eq_ok.mp h
  rcases hkey : args.privateKey with _ | key <;> rw [hkey] at h
  · cases h
  obtain ⟨⟨d2, vi⟩, h1, h⟩ := Go.bind_eq_ok.mp h
  obtain ⟨-, rfl, rfl⟩ := readBytes_eq_ok.mp (Go.mapErr_eq_ok.mp h1)
  obtain ⟨hvi, h⟩ := Go.ite_err_eq_ok.mp h
  obtain ⟨⟨d3, pid⟩, h2, h⟩ := Go.bind_eq_ok.mp h
  obtain rfl := readUint64_rest (Go.mapErr_eq_ok.mp h2)
  obtain ⟨hpid, h⟩ := Go.ite_err_eq_ok.mp h
  obtain ⟨⟨d4, exp⟩, h3, h⟩ := Go.bind_eq_ok.mp h
  obtain rfl := readUint64_rest (Go.mapErr_eq_ok.mp h3)
  obtain ⟨hexp, h⟩ := Go.ite_err_eq_ok.mp h
  obtain ⟨⟨d5, sq⟩, h4, h⟩ := Go.bind_eq_ok.mp h
  obtain rfl := readUint64_rest h4
  obtain ⟨-, h⟩ := Go.ite_err_eq_ok.mp h
  obtain ⟨⟨d6, tb⟩, h5, h⟩ := Go.bind_eq_ok.mp h
  obtain ⟨-, -, rfl⟩ := readBytes_eq_ok.mp h5
  obtain ⟨t0, h6, h⟩ := Go.bind_eq_ok.mp h
  obtain ⟨t1, h7, h⟩ := Go.bind_eq_ok.mp h
  obtain ⟨tok, h8, h⟩ := Go.bind_eq_ok.mp h
  simp only [Go.pure_eq, Go.ok.injEq] at h
  subst h
  obtain ⟨ht0, hk0, hs0⟩ := newConnectTokenPrivateEncrypted_eq_ok h6
  obtain ⟨-, hdec, hsh, -⟩ := ConnectTokenPrivate.decrypt_eq_ok (Go.mapErr_eq_ok.mp h7)
  refine ⟨by simpa using hty, ⟨allowed, rfl, ha⟩, not_not.mp hlen, not_not.mp hvi, not_not.mp hpid,
    UInt64.not_le.mp hexp, key, tok, t1, rfl, rfl, ?_, ?_, ?_, Go.mapErr_eq_ok.mp h8⟩
  · rw [ht0] at hdec
    simpa [List.drop_drop, List.take_take, versionInfoBytes, sizeUint64] using hdec
  · rw [← hk0, ← hsh]
  · rw [← hs0, ← hsh]

/-- **`RequestPacket.Read` accepts a well-formed request**: type `0`, allowed, of the fixed
    length, with the version, the caller's protocol id, an unexpired token, and 1024 token
    bytes that open under the private key to a plaintext `ConnectTokenPrivate.Read`
    reads.  The private token it returns has the client id and the shared section of the
    plaintext, and for user data the `USER_DATA_BYTES` right after the client id. -/
theorem RequestPacket.read_ok {key ct pt body rest : Bytes} {pid exp sq clientId : UInt64}
    {a : UInt8} {shared : SharedTokenData}
    (ha : args.allowedPackets[0]? = some a) (ha0 : a ≠ 0)
    (hlen : args.packetLen = 1 + versionInfoBytes + 8 + 8 + 8 + connectTokenPrivateBytes)
    (hkey : args.privateKey = some key) (hpid : args.protocolId = pid)
    (hexp : args.currentTimestamp < exp) (hct : ct.length = connectTokenPrivateBytes)
    (hdec : A.decrypt ct (tokenAad pid exp) (nonceOf sq) key = some pt)
    (hpt : pt = leBytes sizeUint64 clientId.toNat ++ body)
    (hs : ({ serverAddrs := [], clientKey := [], serverKey := [] } : SharedTokenData).readShared body =
      .ok shared)
    (hu : userDataBytes ≤ body.length) :
    ∃ tok, ({} : RequestPacket).read A (connectionRequest :: (Netcode.versionInfo ++
        (leBytes sizeUint64 pid.toNat ++ (leBytes sizeUint64 exp.toNat ++
          (leBytes sizeUint64 sq.toNat ++ (ct ++ rest)))))) args =
      .ok { versionInfo := Netcode.versionInfo
            protocolId := pid
            connectTokenExpireTimestamp := exp
            connectTokenSequence := sq
            token := some tok } ∧
      tok.toSharedTokenData = shared ∧ tok.clientId = clientId ∧
      tok.userData = body.take userDataBytes := by
  have hexp' : ¬ exp ≤ args.currentTimestamp := UInt64.not_le.mpr hexp
  have hl : ((connectionRequest :: (Netcode.versionInfo ++ (leBytes sizeUint64 pid.toNat ++
      (leBytes sizeUint64 exp.toNat ++ (leBytes sizeUint64 sq.toNat ++ (ct ++ rest)))))).length : Int) -
      (ct ++ rest).length = 1 + versionInfoBytes + 8 + 8 + 8 := by
    simp only [List.length_cons, List.length_append, length_versionInfo, length_leBytes,
      versionInfoBytes, sizeUint64]
    omega
  have hrb : readBytes (ct ++ rest) connectTokenPrivateBytes = .ok (rest, ct) :=
    hct ▸ readBytes_append _ _
  have htd : copyInto (List.replicate connectTokenPrivateBytes 0) (ct.take connectTokenPrivateBytes)
      = ct := by
    rw [copyInto_of_le (by simp [hct]), List.length_replicate, List.take_take, Nat.min_self, ← hct,
      List.take_length]
  unfold RequestPacket.read
  simp only [readUint8_cons, Go.mapErr_ok, Go.ok_bind, ne_eq, not_true_eq_false, if_false, ha,
    ha0, hlen, hkey, ← length_versionInfo, readBytes_append, readUint64_leBytes, hpid, hexp', hl,
    hrb, newConnectTokenPrivateEncrypted, hct, lt_irrefl, ConnectTokenPrivate.decrypt, htd,
    length_copyInto, List.length_replicate, buildTokenCryptData_eq, decryptAead, hdec,
    Go.pure_eq]
  have htok := @ConnectTokenPrivate.read_ok
    { serverAddrs := [], clientKey := [], serverKey := [], clientId := 0, userData := [],
      mac := copyInto (copyInto (List.replicate macBytes 0) (ct.drop (connectTokenPrivateBytes - macBytes)))
        (ct.drop (connectTokenPrivateBytes - macBytes))
      tokenData := pt } _ _ _ hpt rfl hs hu
  rw [htok, Go.mapErr_ok, Go.ok_bind]
  exact ⟨_, rfl, rfl, rfl, rfl⟩

/-- Every `Read` keeps the packet's type. -/
theorem Packet.read_getType {P P' : Packet} (h : P.read A d args rp = (rp', .ok P')) :
    P'.getType = P.getType := by
  by_cases hP : P.getType = connectionRequest
  · cases P with
    | request p => obtain ⟨x, -, rfl⟩ := Go.map_eq_ok.mp (Prod.mk.inj h).2; rfl
    | _ => cases hP
  · exact (Packet.read_sequenced_eq_ok hP h).1

/-- **No `Read` accepts a type the caller did not allow**: the `Peek` type of an accepted
    datagram has a non-zero entry in `allowedPackets`, and it is `ConnectionRequest` when
    the reader is a `RequestPacket`.  A sequenced reader checks the datagram's own type,
    not its own. -/
theorem Packet.read_peek {P P' : Packet} (h : P.read A d args rp = (rp', .ok P')) :
    ∃ t, peek d = .ok t ∧ (∃ a, args.allowedPackets[t.toNat]? = some a ∧ a ≠ 0) ∧
      (P.getType = connectionRequest → t = connectionRequest) := by
  by_cases hP : P.getType = connectionRequest
  · cases P with
    | request p =>
      obtain ⟨x, hx, -⟩ := Go.map_eq_ok.mp (Prod.mk.inj h).2
      obtain ⟨hd, ha, -⟩ := RequestPacket.read_eq_ok hx
      have hpeek : peek d = .ok connectionRequest := by
        cases d with
        | nil => cases hd
        | cons b d =>
          obtain rfl : b = connectionRequest := by simpa using hd
          rfl
      exact ⟨connectionRequest, hpeek, ha, fun _ => rfl⟩
    | _ => cases hP
  · obtain ⟨-, pt, hd, -⟩ := Packet.read_sequenced_eq_ok hP h
    obtain ⟨t, hpeek, ha⟩ := decryptPacket_peek hd
    exact ⟨t, hpeek, ha, fun e => absurd e hP⟩

/-- The window a `Read` leaves: a `RequestPacket` leaves it alone, a sequenced packet
    leaves `decryptPacket`'s. -/
theorem Packet.read_fst (P : Packet) :
    (P.read A d args rp).1 = rp ∨ (P.read A d args rp).1 = (decryptWith A d args rp).1 := by
  cases P
  · exact .inl rfl
  all_goals exact .inr rfl

/-- The replay window a packet's Read leaves does not depend on the cipher. -/
theorem Packet.read_fst_aead (P : Packet) (A' : AeadOps) :
    (P.read A' d args rp).1 = (P.read A d args rp).1 := by
  cases P
  · rfl
  all_goals exact decryptPacket_fst_aead _

/-- One test of `NewPacket`'s chain: a packet it returns has the type the test names. -/
private theorem ite_some_getType {c : Prop} [Decidable c] {t : PacketType} {P₀ P : Packet}
    {rest : Option Packet} (h : (if c then some P₀ else rest) = some P) (h₀ : c → P₀.getType = t)
    (hrest : ¬ c → rest = some P → P.getType = t) : P.getType = t := by
  by_cases hc : c
  · rw [if_pos hc] at h
    cases h
    exact h₀ hc
  · rw [if_neg hc] at h
    exact hrest hc h

/-- `NewPacket` makes a packet of the type `Peek` reads. -/
theorem newPacket_eq_ok {P : Packet} (h : newPacket d = .ok (some P)) : peek d = .ok P.getType := by
  obtain ⟨t, ht, h⟩ := Go.bind_eq_ok.mp h
  have hP : P.getType = t := by
    refine ite_some_getType (Go.ok.inj h) Eq.symm fun _ h => ?_
    refine ite_some_getType h Eq.symm fun _ h => ?_
    refine ite_some_getType h Eq.symm fun _ h => ?_
    refine ite_some_getType h Eq.symm fun _ h => ?_
    refine ite_some_getType h Eq.symm fun _ h => ?_
    refine ite_some_getType h Eq.symm fun _ h => ?_
    exact ite_some_getType h Eq.symm fun _ h => Option.noConfusion h
  rw [ht, hP]

/-- **What `NewPacket(d).Read(d, …)` accepts**: a packet of the datagram's `Peek` type,
    which the caller allowed, read by the `Read` of that type. -/
theorem readPacket_eq_ok {P : Packet} (h : readPacket A d args rp = (rp', .ok P)) :
    peek d = .ok P.getType ∧ (∃ a, args.allowedPackets[P.getType.toNat]? = some a ∧ a ≠ 0) ∧
      ∃ P₀, newPacket d = .ok (some P₀) ∧ P₀.read A d args rp = (rp', .ok P) := by
  obtain ⟨_ | P₀, hn, h⟩ := Go.withState_eq_ok.mp h
  · cases h
  · have hpeek := newPacket_eq_ok hn
    rw [← Packet.read_getType h] at hpeek
    obtain ⟨t, ht, ha, -⟩ := Packet.read_peek h
    obtain rfl : t = P.getType := Go.ok.inj (ht.symm.trans hpeek)
    exact ⟨hpeek, ha, P₀, hn, h⟩

/-- The window `NewPacket(d).Read` leaves: the caller's, or `decryptPacket`'s. -/
theorem readPacket_fst :
    (readPacket A d args rp).1 = rp ∨ (readPacket A d args rp).1 = (decryptWith A d args rp).1 := by
  rcases hn : newPacket d with (_ | P) | e | _ <;>
    simp only [readPacket, hn, Go.withState_ok, Go.withState_err, Go.withState_panic, true_or]
  exact Packet.read_fst P

/-- The replay window ReadPacket leaves does not depend on the cipher. -/
theorem readPacket_fst_aead (A' : AeadOps) :
    (readPacket A' d args rp).1 = (readPacket A d args rp).1 := by
  rcases hn : newPacket d with (_ | P) | e | _ <;>
    simp only [readPacket, hn, Go.withState_ok, Go.withState_err, Go.withState_panic]
  exact Packet.read_fst_aead P A'

/-! ### Reading into a used packet -/

/-- A body that is another with its result mapped gives the other's `Read`, mapped. -/
theorem readSequenced_map {P : Type} {body body' : UInt64 → Bytes → Go P} (f : P → P)
    (h : ∀ s pt, body s pt = f <$> body' s pt) :
    readSequenced A body d args rp =
      ((readSequenced A body' d args rp).1, f <$> (readSequenced A body' d args rp).2) := by
  refine Prod.ext rfl ?_
  dsimp only [readSequenced]
  rcases (decryptPacket A d args.packetLen args.protocolId args.currentTimestamp
    args.readPacketKey args.allowedPackets rp).2 with ⟨s, pt⟩ | e | _
  · exact h s pt
  · rfl
  · rfl

/-- `challengeBody` into `old` is `challengeBody` into `0`, with `old` OR-ed into the
    sequence. -/
theorem challengeBody_or (w : String) (old : UInt64) (pt : Bytes) :
    challengeBody w old pt = (fun r => (r.1 ||| old, r.2)) <$> challengeBody w 0 pt := by
  unfold challengeBody
  split_ifs
  · rfl
  · rw [readUint64_or pt old]
    rcases readUint64 pt 0 with ⟨b, v⟩ | e | _
    · simp only [Go.map_ok, Go.mapErr_ok, Go.ok_bind]
      rcases readBytes b challengeTokenBytes with ⟨c, x⟩ | e | _ <;> rfl
    · rfl
    · rfl

/-- Oring a value in twice is oring it in once. -/
private theorem uint64_or_absorb (a b : UInt64) : a ||| (b ||| a) = b ||| a := by
  apply UInt64.toNat.inj
  show (a.toBitVec ||| (b.toBitVec ||| a.toBitVec)).toNat = (b.toBitVec ||| a.toBitVec).toNat
  rw [BitVec.or_comm b.toBitVec, ← BitVec.or_assoc, BitVec.or_self]

/-- What an accepted request's `Read` leaves in the fields it ORs into, each holding the
    receiver's old bits, and in `ConnectTokenData`, which it does not set. -/
theorem RequestPacket.read_fields {p q : RequestPacket} (h : p.read A d args = .ok q) :
    q.connectTokenData = p.connectTokenData ∧ p.protocolId ||| q.protocolId = q.protocolId ∧
      p.connectTokenExpireTimestamp ||| q.connectTokenExpireTimestamp =
        q.connectTokenExpireTimestamp ∧
      p.connectTokenSequence ||| q.connectTokenSequence = q.connectTokenSequence := by
  unfold RequestPacket.read at h
  obtain ⟨⟨d1, ty⟩, -, h⟩ := Go.bind_eq_ok.mp h
  obtain ⟨-, h⟩ := Go.ite_err_eq_ok.mp h
  rcases hal : args.allowedPackets[0]? with _ | allowed <;> rw [hal] at h
  · cases h
  obtain ⟨-, h⟩ := Go.ite_err_eq_ok.mp h
  obtain ⟨-, h⟩ := Go.ite_err_eq_ok.mp h
  rcases hkey : args.privateKey with _ | key <;> rw [hkey] at h
  · cases h
  obtain ⟨⟨d2, vi⟩, -, h⟩ := Go.bind_eq_ok.mp h
  obtain ⟨-, h⟩ := Go.ite_err_eq_ok.mp h
  obtain ⟨⟨d3, pid⟩, h2, h⟩ := Go.bind_eq_ok.mp h
  obtain ⟨-, h⟩ := Go.ite_err_eq_ok.mp h
  obtain ⟨⟨d4, exp⟩, h3, h⟩ := Go.bind_eq_ok.mp h
  obtain ⟨-, h⟩ := Go.ite_err_eq_ok.mp h
  obtain ⟨⟨d5, sq⟩, h4, h⟩ := Go.bind_eq_ok.mp h
  obtain ⟨-, h⟩ := Go.ite_err_eq_ok.mp h
  obtain ⟨_, -, h⟩ := Go.bind_eq_ok.mp h
  obtain ⟨_, -, h⟩ := Go.bind_eq_ok.mp h
  obtain ⟨_, -, h⟩ := Go.bind_eq_ok.mp h
  obtain ⟨_, -, h⟩ := Go.bind_eq_ok.mp h
  simp only [Go.pure_eq, Go.ok.injEq] at h
  subst h
  -- each value read is what `ReadUint64` into `0` reads, OR the receiver's
  rw [readUint64_or] at h2 h3 h4
  obtain ⟨_, -, h2⟩ := Go.map_eq_ok.mp (Go.mapErr_eq_ok.mp h2)
  obtain ⟨_, -, h3⟩ := Go.map_eq_ok.mp (Go.mapErr_eq_ok.mp h3)
  obtain ⟨_, -, h4⟩ := Go.map_eq_ok.mp h4
  simp only [Prod.mk.injEq] at h2 h3 h4
  rw [← h2.2, ← h3.2, ← h4.2]
  exact ⟨rfl, uint64_or_absorb _ _, uint64_or_absorb _ _, uint64_or_absorb _ _⟩

/-- **`Read` ORs into the fields of the packet it is called on.**  For every AEAD,
    datagram, arguments and window: the `Read` of a used keep-alive, challenge or response
    packet `p` is the `Read` into the packet `NewPacket` allocates, with `p`'s
    `ClientIndex` and `MaxClients`, or its `ChallengeTokenSequence`, OR-ed into what was
    read.  A used `RequestPacket` accepts a datagram only when its old `ProtocolId` has
    no bit the caller's protocol id lacks, keeps its old bits in the other two `uint64`s
    it reads, and keeps its old `ConnectTokenData`, which `Read` never sets. -/
theorem read_into_used_packet (A : AeadOps) (d : Bytes) (args : ReadArgs)
    (rp : Option ReplayProtection) :
    (∀ p : KeepAlivePacket, p.read A d args rp =
      ((({} : KeepAlivePacket).read A d args rp).1, (fun q => { q with
        clientIndex := q.clientIndex ||| p.clientIndex
        maxClients := q.maxClients ||| p.maxClients }) <$> (({} : KeepAlivePacket).read A d args rp).2)) ∧
    (∀ p : ChallengePacket, p.read A d args rp =
      ((({} : ChallengePacket).read A d args rp).1, (fun q => { q with
        challengeTokenSequence := q.challengeTokenSequence ||| p.challengeTokenSequence }) <$>
          (({} : ChallengePacket).read A d args rp).2)) ∧
    (∀ p : ResponsePacket, p.read A d args rp =
      ((({} : ResponsePacket).read A d args rp).1, (fun q => { q with
        challengeTokenSequence := q.challengeTokenSequence ||| p.challengeTokenSequence }) <$>
          (({} : ResponsePacket).read A d args rp).2)) ∧
    (∀ p q : RequestPacket, p.read A d args = .ok q → q.connectTokenData = p.connectTokenData ∧
      p.protocolId ||| args.protocolId = args.protocolId ∧
      p.connectTokenExpireTimestamp ||| q.connectTokenExpireTimestamp =
        q.connectTokenExpireTimestamp ∧
      p.connectTokenSequence ||| q.connectTokenSequence = q.connectTokenSequence) := by
  refine ⟨fun p => readSequenced_map _ fun s pt => ?_, fun p => readSequenced_map _ fun s pt => ?_,
    fun p => readSequenced_map _ fun s pt => ?_, fun p q h => ?_⟩
  · dsimp only
    split_ifs
    · rfl
    · rw [readUint32_or pt p.clientIndex]
      rcases readUint32 pt 0 with ⟨b, v⟩ | e | _
      · simp only [Go.map_ok, Go.mapErr_ok, Go.ok_bind]
        rw [readUint32_or b p.maxClients]
        rcases readUint32 b 0 with ⟨c, w⟩ | e | _ <;> rfl
      · rfl
      · rfl
  · dsimp only
    rw [challengeBody_or _ p.challengeTokenSequence]
    rcases challengeBody _ 0 pt with ⟨v, x⟩ | e | _ <;> rfl
  · dsimp only
    rw [challengeBody_or _ p.challengeTokenSequence]
    rcases challengeBody _ 0 pt with ⟨v, x⟩ | e | _ <;> rfl
  · obtain ⟨hd, hp, he, hs⟩ := RequestPacket.read_fields h
    rw [← (RequestPacket.read_eq_ok h).2.2.2.2.1]
    exact ⟨hd, hp, he, hs⟩

/-- A keep-alive with sequence 5, client index 0 and max clients 0 (`14 05`, eight zero
    bytes, the tag): into a fresh packet `Read` gives client index 0, into a packet an
    earlier `Read` left with client index 1 it gives 1. -/
theorem keepAlive_read_into_used :
    let args : ReadArgs :=
      { packetLen := 26
        protocolId := 0
        currentTimestamp := 0
        readPacketKey := some (List.replicate 32 0)
        privateKey := none
        allowedPackets := List.replicate 7 1 }
    (({} : KeepAlivePacket).read Aead.zeroTag.toAeadOps (20 :: 5 :: List.replicate 24 0) args
        none).2 = .ok { sequence := 5 } ∧
      (({ clientIndex := 1 } : KeepAlivePacket).read Aead.zeroTag.toAeadOps
        (20 :: 5 :: List.replicate 24 0) args none).2 = .ok { sequence := 5, clientIndex := 1 } := by
  intro args
  have hf : (({} : KeepAlivePacket).read Aead.zeroTag.toAeadOps (20 :: 5 :: List.replicate 24 0)
      args none).2 = .ok { sequence := 5 } := by decide
  refine ⟨hf, ?_⟩
  rw [(read_into_used_packet _ _ _ _).1, hf]
  decide

end

end Netcode
