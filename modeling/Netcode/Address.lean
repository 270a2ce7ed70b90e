import Netcode.Serializer

namespace Netcode

/-!
# netcode.io — server addresses

`net.UDPAddr` and the path `WriteShared` takes a server address through:
`net.SplitHostPort(addr.String())`, `net.ParseIP(host)`, `IP.To4()` and
`strconv.ParseUint(port, 10, 16)`.  These are Go library functions; the model gives
what they compute on the strings `addr.String()` prints.

* `parsedHost` — `ParseIP(host)`: a 4-byte IP comes back in its 16-byte
  IPv4-in-IPv6 form, a 16-byte IP as itself, anything else (and any zone) as `nil`.
* `to4` — `To4()`: the last four bytes of an IPv4-in-IPv6 address.
* `parsePort` — `ParseUint` of the decimal port: the port when it lies in `[0, 65535]`.
* `to4_parsedHost` — every 4-byte address is written as IPv4, with its own bytes.
-/

/-- The address types of the token format. -/
def addressNone : UInt8 := 0
/-- ADDRESS_IPV4 of connect_token.go, the type byte of an IPv4 server. -/
def addressIpv4 : UInt8 := 1
/-- ADDRESS_IPV6 of connect_token.go, the type byte of an IPv6 server. -/
def addressIpv6 : UInt8 := 2

/-- `net.UDPAddr`: the IP's bytes, the port and the IPv6 zone. -/
structure UDPAddr where
  ip : Bytes
  port : Int
  zone : String
  deriving DecidableEq, Repr

/-- The twelve bytes `net.IPv4` puts before an IPv4 address. -/
def v4InV6Prefix : Bytes := [0, 0, 0, 0, 0, 0, 0, 0, 0, 0, 0xff, 0xff]

/-- `net.ParseIP(host)` of the host `net.SplitHostPort(addr.String())` returns.  A
    4-byte IP prints dotted and parses to `IPv4(a, b, c, d)`, 16 bytes; a 16-byte IP
    round-trips; an empty IP prints as `""` and any other length as `"?"` and hex, and
    neither parses.  A zone is printed as `%zone`, which `ParseIP` does not take (a zone
    holding `:` or brackets fails at `SplitHostPort` before, with another message; the
    model gives `nil` for every zone). -/
def parsedHost (addr : UDPAddr) : Option Bytes :=
  if addr.zone ≠ "" then none
  else if addr.ip.length = 4 then some (v4InV6Prefix ++ addr.ip)
  else if addr.ip.length = 16 then some addr.ip
  else none

/-- `IP.To4()`: a 4-byte IP, or the last four bytes of an IPv4-in-IPv6 one. -/
def to4 (ip : Bytes) : Option Bytes :=
  if ip.length = 4 then some ip
  else if ip.length = 16 ∧ ip.take 12 = v4InV6Prefix then some (ip.drop 12)
  else none

/-- `strconv.ParseUint(port, 10, 16)` of `strconv.Itoa(Port)`: a negative port prints
    with a sign, which is a syntax error; one above 65535 is out of range. -/
def parsePort (port : Int) : Go Nat :=
  if port < 0 then
    .err ("strconv.ParseUint: parsing \"" ++ toString port ++ "\": invalid syntax")
  else if port > 65535 then
    .err ("strconv.ParseUint: parsing \"" ++ toString port ++ "\": value out of range")
  else .ok port.toNat

/-- An address `WriteShared` accepts: an IP of 4 or 16 bytes, no zone, a port in
    `[0, 65535]`. -/
def UDPAddr.Valid (addr : UDPAddr) : Prop :=
  (addr.ip.length = 4 ∨ addr.ip.length = 16) ∧ addr.zone = "" ∧ 0 ≤ addr.port ∧ addr.port ≤ 65535

/-- Whether an address is one WriteShared can write is decidable. -/
instance (addr : UDPAddr) : Decidable addr.Valid :=
  inferInstanceAs (Decidable ((addr.ip.length = 4 ∨ addr.ip.length = 16) ∧ addr.zone = "" ∧
    0 ≤ addr.port ∧ addr.port ≤ 65535))

/-- The host of a valid address parses. -/
theorem parsedHost_of_valid {addr : UDPAddr} (h : addr.Valid) :
    ∃ parsed, parsedHost addr = some parsed := by
  obtain ⟨hl | hl, hz, -⟩ := h <;> simp [parsedHost, hz, hl]

/-- The port of a valid address parses to its number. -/
theorem parsePort_of_valid {addr : UDPAddr} (h : addr.Valid) :
    parsePort addr.port = .ok addr.port.toNat := by
  obtain ⟨-, -, h0, h1⟩ := h
  simp [parsePort, Int.not_lt.mpr h0, Int.not_lt.mpr h1]

/-- A 4-byte address is written as IPv4, with its own four bytes. -/
theorem to4_parsedHost {addr : UDPAddr} (hz : addr.zone = "") (hl : addr.ip.length = 4) :
    parsedHost addr = some (v4InV6Prefix ++ addr.ip) ∧ to4 (v4InV6Prefix ++ addr.ip) = some addr.ip := by
  simp [parsedHost, to4, hz, hl, v4InV6Prefix]

end Netcode
