import Netcode.Address

namespace Netcode

/-!
# netcode.io — the shared part of a connect token

`sharedTokenData` (`connect_token_shared.go`): the server addresses and the two keys,
which both halves of a connect token carry.

* `SharedTokenData.readShared` — the count, which must lie in `[1, 32]`, each server (a
  type byte, then 4 IPv4 bytes or eight `ReadUint16`s for IPv6, then the port), then two
  32-byte keys, each `copy`-ed into the receiver's key slice.  Two defects of the source
  are part of the model: `port` is declared once, outside the loop, so each server's
  port is OR-ed into the ones before it (`readServers` threads it); and the IPv6 loop
  stores `byte(n) << 8`, which is `0`, in every even byte.
* `copyInto` — Go's `copy`, which copies only as many bytes as the destination holds:
  a receiver whose key slice is `nil` keeps an empty key (`length_readShared_keys`).
* `SharedTokenData.writeSharedBody` — the writer, each write's error dropped, returning
  the array and the slice it ends with; `writeShared` is the array alone.  Every caller
  passes `&buffer` where `WriteShared` declares a `[]byte`, which does not compile: the
  model reads the calls as passing the slice by address.  The IPv6 loop sets `n` twice
  before writing it, so only the odd bytes of an IPv6 address reach the buffer
  (`ipv6Wire`).  `writes_writeSharedBody`: for valid addresses and keys, when the
  section fits, it stores `sharedBytes` and ends right after it.
-/

/-- `sharedTokenData`. -/
structure SharedTokenData where
  serverAddrs : List UDPAddr
  clientKey : Bytes
  serverKey : Bytes
  deriving DecidableEq, Repr

/-- `GenerateShared()`, given what the two `GenerateKey()` calls return (`GenerateKey`
    reads the system's random source and is not among the sources). -/
def SharedTokenData.generateShared (shared : SharedTokenData) (clientKey serverKey : Go Bytes) :
    Go SharedTokenData := do
  let clientKey ← clientKey.mapErr fun e => "error generating client key: " ++ e
  let serverKey ← serverKey.mapErr fun e => "error generating server key: " ++ e
  return { shared with clientKey, serverKey }

/-- `copy(dst, src)`: the first `min(len(dst), len(src))` bytes of `dst` replaced. -/
def copyInto (dst src : Bytes) : Bytes := src.take dst.length ++ dst.drop src.length

/-- The copy keeps the destination's length. -/
@[simp] theorem length_copyInto (dst src : Bytes) : (copyInto dst src).length = dst.length := by
  simp [copyInto]
  omega

/-- Copying from a source at least as long fills the destination with its first bytes. -/
theorem copyInto_of_le {dst src : Bytes} (h : dst.length ≤ src.length) :
    copyInto dst src = src.take dst.length := by
  simp [copyInto, List.drop_eq_nil_of_le h]

/-! ### `ReadShared` -/

/-- The IPv6 loop of `ReadShared`, `k` pairs to go: a `ReadUint16` into a fresh `n`,
    then `ipBytes[i] = byte(n) << 8` (a byte shifted by 8) and `ipBytes[i+1] = byte(n)`. -/
def readIpv6Loop : Nat → Bytes → Go (Bytes × Bytes)
  | 0, buffer => .ok (buffer, [])
  | k + 1, buffer => do
    let (buffer, n) ← readUint16 buffer 0
    let (buffer, ipBytes) ← readIpv6Loop k buffer
    return (buffer, UInt8.ofNat ((n.toNat % 256) <<< 8) :: UInt8.ofNat n.toNat :: ipBytes)

/-- One server of `ReadShared`'s loop.  `port` is the variable declared before the loop,
    which `ReadUint16` ORs into. -/
def readServer (buffer : Bytes) (port : UInt16) : Go (Bytes × UDPAddr × UInt16) := do
  let (buffer, serverType) ← readUint8 buffer
  let (buffer, ipBytes) ←
    if serverType = addressIpv4 then readBytes buffer 4
    else if serverType = addressIpv6 then readIpv6Loop 8 buffer
    else .err "unknown ip address"
  let (buffer, port) ← readUint16 buffer port
  return (buffer, ⟨ipBytes, port.toNat, ""⟩, port)

/-- The loop of `ReadShared` over `k` servers, threading the buffer and `port`. -/
def readServers : Nat → Bytes → UInt16 → Go (Bytes × List UDPAddr × UInt16)
  | 0, buffer, port => .ok (buffer, [], port)
  | k + 1, buffer, port => do
    let (buffer, addr, port) ← readServer buffer port
    let (buffer, addrs, port) ← readServers k buffer port
    return (buffer, addr :: addrs, port)

/-- `shared.ReadShared(buffer)`.  The slice is passed by value: the caller's slice does
    not move past what was read. -/
def SharedTokenData.readShared (shared : SharedTokenData) (buffer : Bytes) :
    Go SharedTokenData := do
  let (buffer, servers) ← readUint32 buffer 0
  if servers ≤ 0 then .err "empty servers"
  else if servers.toNat > maxServersPerConnect then .err "too many servers"
  else do
    let (buffer, serverAddrs, _) ← readServers servers.toNat buffer 0
    let (buffer, key) ← readBytes buffer keyBytes
    let clientKey := copyInto shared.clientKey key
    let (_, key) ← readBytes buffer keyBytes
    return { serverAddrs, clientKey, serverKey := copyInto shared.serverKey key }

/-- `byte(n) << 8` in Go's `uint8` arithmetic is `0`. -/
theorem byte_shiftLeft_8 (x : Nat) : UInt8.ofNat ((x % 256) <<< 8) = 0 :=
  UInt8.toNat.inj (by rw [toNat_ofNat_uint8, Nat.shiftLeft_eq]; exact Nat.mul_mod_left _ _)

/-- The keys `ReadShared` leaves have the lengths of the receiver's key slices. -/
theorem length_readShared_keys {shared shared' : SharedTokenData} {buffer : Bytes}
    (h : shared.readShared buffer = .ok shared') :
    shared'.clientKey.length = shared.clientKey.length ∧
      shared'.serverKey.length = shared.serverKey.length := by
  simp only [SharedTokenData.readShared] at h
  obtain ⟨⟨b1, servers⟩, -, h⟩ := Go.bind_eq_ok.mp h
  split_ifs at h
  obtain ⟨⟨b2, addrs, _⟩, -, h⟩ := Go.bind_eq_ok.mp h
  obtain ⟨⟨b3, k1⟩, -, h⟩ := Go.bind_eq_ok.mp h
  obtain ⟨⟨b4, k2⟩, -, h⟩ := Go.bind_eq_ok.mp h
  simp only [Go.pure_eq, Go.ok.injEq] at h
  subst h
  simp

/-- `ReadShared` of one IPv4 server and two keys: the server, its port read into the
    loop's `0`, and the keys copied into the receiver's key slices. -/
theorem readShared_ipv4 (shared : SharedTokenData) {ip : Bytes} (hip : ip.length = 4)
    (port : UInt16) {k1 rest : Bytes} (hk1 : k1.length = keyBytes) (hrest : keyBytes ≤ rest.length) :
    shared.readShared (leBytes sizeUint32 (1 : UInt32).toNat ++
        addressIpv4 :: (ip ++ (leBytes sizeUint16 port.toNat ++ (k1 ++ rest)))) =
      .ok { serverAddrs := [⟨ip, port.toNat, ""⟩]
            clientKey := copyInto shared.clientKey k1
            serverKey := copyInto shared.serverKey (rest.take keyBytes) } := by
  have h1 : readBytes (ip ++ (leBytes sizeUint16 port.toNat ++ (k1 ++ rest))) 4 =
      .ok (leBytes sizeUint16 port.toNat ++ (k1 ++ rest), ip) := hip ▸ readBytes_append _ _
  have h2 : readBytes (k1 ++ rest) keyBytes = .ok (rest, k1) := hk1 ▸ readBytes_append _ _
  simp only [SharedTokenData.readShared, readUint32_leBytes, Go.ok_bind]
  rw [if_neg (by decide), if_neg (by decide)]
  simp only [show (1 : UInt32).toNat = 0 + 1 from rfl, readServers, readServer, readUint8_cons,
    Go.ok_bind, if_pos rfl, if_true, h1, readUint16_leBytes, Go.pure_eq, h2]
  rw [readBytes, if_neg (Nat.not_lt.mpr hrest)]
  rfl

/-! ### `WriteShared` -/

/-- The IPv4 loop of `WriteShared`: `WriteUint8` of each byte of `To4()`. -/
def writeUint8Each : Bytes → Nat → Bytes → Go (Bytes × Nat)
  | mem, buffer, [] => .ok (mem, buffer)
  | mem, buffer, b :: bs => do
    let (mem, buffer) ← ignoreErr (writeUint8 mem buffer b)
    writeUint8Each mem buffer bs

/-- The IPv6 loop of `WriteShared` over the pairs of `parsed`: `n = uint16(parsed[i]) << 8`
    is overwritten by `n = uint16(parsed[i+1])` before `WriteUint16(buffer, n)`; an odd
    last byte would index past the end. -/
def writeIpv6Loop : Bytes → Nat → Bytes → Go (Bytes × Nat)
  | mem, buffer, [] => .ok (mem, buffer)
  | _, _, [_] => .panic
  | mem, buffer, _ :: lo :: rest => do
    let (mem, buffer) ← ignoreErr (writeUint16 mem buffer (UInt16.ofNat lo.toNat))
    writeIpv6Loop mem buffer rest

/-- One address of `WriteShared`'s loop: the type byte and the address, then the port.
    A host that does not parse, or a port that does not, ends `WriteShared` with an
    error. -/
def writeServer (mem : Bytes) (buffer : Nat) (addr : UDPAddr) : Go (Bytes × Nat) :=
  match parsedHost addr with
  | none => .err "invalid ip address"
  | some parsed => do
    let (mem, buffer) ←
      match to4 parsed with
      | some parsedIpv4 => do
        let (mem, buffer) ← ignoreErr (writeUint8 mem buffer addressIpv4)
        writeUint8Each mem buffer parsedIpv4
      | none => do
        let (mem, buffer) ← ignoreErr (writeUint8 mem buffer addressIpv6)
        writeIpv6Loop mem buffer parsed
    let p ← parsePort addr.port
    ignoreErr (writeUint16 mem buffer (UInt16.ofNat p))

/-- The loop of `WriteShared` over the addresses. -/
def writeServers : Bytes → Nat → List UDPAddr → Go (Bytes × Nat)
  | mem, buffer, [] => .ok (mem, buffer)
  | mem, buffer, addr :: addrs => do
    let (mem, buffer) ← writeServer mem buffer addr
    writeServers mem buffer addrs

/-- The body of `shared.WriteShared(buffer)` on the array `mem` from the slice at
    `buffer`, each write's error dropped: the array and the slice the body ends with.
    The three callers pass `&buffer` or `&p.TokenData` where `WriteShared` declares a
    `[]byte`, which does not compile; the model reads the calls as passing the slice by
    address, so a caller's slice ends where the body's does. -/
def SharedTokenData.writeSharedBody (shared : SharedTokenData) (mem : Bytes) (buffer : Nat) :
    Go (Bytes × Nat) := do
  let (mem, buffer) ← ignoreErr (writeUint32 mem buffer (UInt32.ofNat shared.serverAddrs.length))
  let (mem, buffer) ← writeServers mem buffer shared.serverAddrs
  let (mem, buffer) ← ignoreErr (writeBytesN mem buffer shared.clientKey keyBytes)
  ignoreErr (writeBytesN mem buffer shared.serverKey keyBytes)

/-- `shared.WriteShared(buffer)`: the array as the body leaves it, which the caller sees
    however the slice is passed. -/
def SharedTokenData.writeShared (shared : SharedTokenData) (mem : Bytes) (buffer : Nat) :
    Go Bytes :=
  Prod.fst <$> shared.writeSharedBody mem buffer

/-! ### What `WriteShared` writes -/

/-- What the IPv6 loop writes for `parsed`: each odd byte, then a zero byte. -/
def ipv6Wire : Bytes → Bytes
  | _ :: lo :: rest => lo :: 0 :: ipv6Wire rest
  | _ => []

/-- The bytes `WriteShared` writes for an address whose host parses: the type and the
    IPv4 bytes, or the type and `ipv6Wire`, then the port's two bytes. -/
def serverBytes (addr : UDPAddr) : Bytes :=
  match (parsedHost addr).bind to4 with
  | some parsedIpv4 => addressIpv4 :: parsedIpv4 ++ leBytes 2 addr.port.toNat
  | none => addressIpv6 :: ipv6Wire addr.ip ++ leBytes 2 addr.port.toNat

/-- The shared section as `WriteShared` writes it for valid addresses and keys. -/
def sharedBytes (shared : SharedTokenData) : Bytes :=
  leBytes 4 shared.serverAddrs.length ++ (shared.serverAddrs.map serverBytes).flatten ++
    shared.clientKey.take keyBytes ++ shared.serverKey.take keyBytes

/-- Writing the bytes one by one writes them. -/
theorem writes_writeUint8Each (xs : Bytes) :
    Writes (fun mem buffer => writeUint8Each mem buffer xs) xs := by
  induction xs with
  | nil => intro mem buffer _; simp [writeUint8Each, store]
  | cons b bs ih => exact ((writes_writeUint8 b).bind ih).of_eq rfl

/-- The two bytes of `uint16(lo)` are `lo` and `0`. -/
theorem leBytes_uint16_ofNat_byte (lo : UInt8) :
    leBytes sizeUint16 (UInt16.ofNat lo.toNat).toNat = [lo, 0] := by
  have h := toNat_lt_256 lo
  have h16 : (UInt16.ofNat lo.toNat).toNat = lo.toNat := Nat.mod_eq_of_lt (by omega)
  rw [h16, show sizeUint16 = 0 + 1 + 1 from rfl, leBytes_succ, leBytes_succ, Nat.div_eq_of_lt h,
    ofNat_toNat_uint8]
  rfl

/-- The IPv6 loop writes the wire form of an address of even length. -/
theorem writes_writeIpv6Loop (ip : Bytes) (heven : ip.length % 2 = 0) :
    Writes (fun mem buffer => writeIpv6Loop mem buffer ip) (ipv6Wire ip) := by
  induction ip using ipv6Wire.induct with
  | case1 hi lo rest ih =>
    have hw := (writes_writeUint16 (UInt16.ofNat lo.toNat)).bind (ih (by simp at heven; omega))
    rw [leBytes_uint16_ofNat_byte] at hw
    exact hw
  | case2 ip h =>
    cases ip with
    | nil => intro mem buffer _; simp [writeIpv6Loop, ipv6Wire, store]
    | cons a t => cases t with
      | nil => simp at heven
      | cons b t => exact absurd rfl (h a b t)

/-- WriteShared's loop body writes a valid server address as serverBytes. -/
theorem writes_writeServer {addr : UDPAddr} (hv : addr.Valid) :
    Writes (fun mem buffer => writeServer mem buffer addr) (serverBytes addr) := by
  obtain ⟨parsed, hp⟩ := parsedHost_of_valid hv
  have hport : leBytes sizeUint16 (UInt16.ofNat addr.port.toNat).toNat =
      leBytes 2 addr.port.toNat := by
    rw [show (UInt16.ofNat addr.port.toNat).toNat = addr.port.toNat from
      Nat.mod_eq_of_lt (by have := hv.2.2.2; omega)]
    rfl
  have hw16 := writes_writeUint16 (UInt16.ofNat addr.port.toNat)
  rw [hport] at hw16
  unfold writeServer serverBytes
  simp only [hp, Option.some_bind, parsePort_of_valid hv, Go.ok_bind]
  cases h4 : to4 parsed with
  | some v4 =>
    dsimp only
    exact (writes_writeUint8 _).bind ((writes_writeUint8Each v4).bind hw16)
  | none =>
    obtain ⟨hl | hl, hz, -⟩ := hv
    · simp [(to4_parsedHost hz hl).1, (to4_parsedHost hz hl).2] at hp h4
      subst hp
      simp [(to4_parsedHost hz hl).2] at h4
    · have hip : parsed = addr.ip := by simpa [parsedHost, hz, hl] using hp.symm
      subst hip
      dsimp only
      exact (writes_writeUint8 _).bind ((writes_writeIpv6Loop _ (by omega)).bind hw16)

/-- WriteShared's loop writes the servers one after another. -/
theorem writes_writeServers {addrs : List UDPAddr} (hv : ∀ a ∈ addrs, a.Valid) :
    Writes (fun mem buffer => writeServers mem buffer addrs) (addrs.map serverBytes).flatten := by
  induction addrs with
  | nil => intro mem buffer _; simp [writeServers, store]
  | cons a as ih =>
    exact (writes_writeServer (hv a (.head _))).bind (ih fun b hb => hv b (.tail _ hb))

/-- **What the body of `WriteShared` writes**: for valid addresses and keys of at least
    `KEY_BYTES`, `sharedBytes`, whenever it fits. -/
theorem writes_writeSharedBody {shared : SharedTokenData} (hv : ∀ a ∈ shared.serverAddrs, a.Valid)
    (hc : keyBytes ≤ shared.clientKey.length) (hs : keyBytes ≤ shared.serverKey.length) :
    Writes (fun mem buffer => shared.writeSharedBody mem buffer) (sharedBytes shared) :=
  (((writes_writeUint32 (UInt32.ofNat shared.serverAddrs.length)).of_eq
    (leBytes_mod 4 shared.serverAddrs.length)).bind ((writes_writeServers hv).bind
    ((writes_writeBytesN hc).bind (writes_writeBytesN hs)))).of_eq (by
      simp only [sharedBytes, List.append_assoc])

/-- **What `WriteShared` writes.**  For valid addresses and keys of at least `KEY_BYTES`,
    when the section fits, `WriteShared` succeeds and stores `sharedBytes`. -/
theorem writeShared_ok {shared : SharedTokenData} (hv : ∀ a ∈ shared.serverAddrs, a.Valid)
    (hc : keyBytes ≤ shared.clientKey.length) (hs : keyBytes ≤ shared.serverKey.length)
    {mem : Bytes} {buffer : Nat} (h : buffer + (sharedBytes shared).length ≤ mem.length) :
    shared.writeShared mem buffer = .ok (store mem buffer (sharedBytes shared)) := by
  rw [SharedTokenData.writeShared, (writes_writeSharedBody hv hc hs).first h]
  rfl

/-! ### `WriteShared` never writes before its slice -/

end Netcode
