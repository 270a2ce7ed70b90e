import Mathlib.Data.List.Basic
import Mathlib.Algebra.Group.Nat.Basic

namespace Netcode

/-!
# netcode.io — Go values, byte slices and wire constants

The vocabulary every other module of the model is written in.

* `Bytes` — the contents of a Go `[]byte`.
* `Go α` — the outcome of a Go call: it returns a value, it returns a non-`nil`
  `error` (carried as its `Error()` text), or it panics at run time (an index or a
  slice bound out of range).  A call that returns only an `error` is a `Go Unit`.
* the constants of `packet.go` and `connect_token.go`, and `versionInfo`.
* `leBytes w x` / `leValue bs` — the little-endian byte string of a value and the
  value of a byte string, with the round-trip laws `leValue_leBytes` and
  `leBytes_leValue`; every fixed-width integer on the wire is one of these.
-/

/-- The contents of a Go byte slice. -/
abbrev Bytes := List UInt8

/-- The outcome of a Go call: it returns normally with a value, it returns a non-`nil`
    `error` whose `Error()` text is `msg`, or it panics at run time. -/
inductive Go (α : Type) where
  | ok (a : α)
  | err (msg : String)
  | panic
  deriving DecidableEq, Repr

namespace Go

/-- Sequencing of Go statements: an `error` return or a panic ends the function. -/
def bind {α β : Type} : Go α → (α → Go β) → Go β
  | .ok a, f => f a
  | .err m, _ => .err m
  | .panic, _ => .panic

/-- Go statements in sequence, with bind as the sequencing and ok as return. -/
instance : Monad Go where
  pure := .ok
  bind := Go.bind

/-- A statement that returns runs the rest with its value. -/
@[simp] theorem ok_bind {α β : Type} (a : α) (f : α → Go β) : (Go.ok a >>= f) = f a := rfl
/-- An error return ends the function with that error. -/
@[simp] theorem err_bind {α β : Type} (m : String) (f : α → Go β) :
    (Go.err m >>= f) = .err m := rfl
/-- A panic ends the function with a panic. -/
@[simp] theorem panic_bind {α β : Type} (f : α → Go β) : (Go.panic >>= f) = .panic := rfl
/-- A return statement returns its value. -/
@[simp] theorem pure_eq {α : Type} (a : α) : (pure a : Go α) = .ok a := rfl
/-- Mapping a returned value maps the value. -/
@[simp] theorem map_ok {α β : Type} (f : α → β) (a : α) : (f <$> Go.ok a) = .ok (f a) := rfl
/-- Mapping keeps an error return. -/
@[simp] theorem map_err {α β : Type} (f : α → β) (m : String) : (f <$> Go.err m) = .err m := rfl
/-- Mapping keeps a panic. -/
@[simp] theorem map_panic {α β : Type} (f : α → β) : (f <$> (Go.panic : Go α)) = .panic := rfl

/-- `if err != nil { return errors.New(f(err.Error())) }`: replace the error, keep a
    panic a panic. -/
def mapErr {α : Type} (f : String → String) : Go α → Go α
  | .err m => .err (f m)
  | x => x

/-- Rewording an error leaves a returned value as it is. -/
@[simp] theorem mapErr_ok {α : Type} (f : String → String) (a : α) :
    (Go.ok a).mapErr f = .ok a := rfl
/-- Rewording an error rewords its text. -/
@[simp] theorem mapErr_err {α : Type} (f : String → String) (m : String) :
    (Go.err m : Go α).mapErr f = .err (f m) := rfl
/-- Rewording an error leaves a panic a panic. -/
@[simp] theorem mapErr_panic {α : Type} (f : String → String) :
    (Go.panic : Go α).mapErr f = .panic := rfl

/-- Two statements in sequence return exactly when the first returns and the rest returns
    from its value. -/
theorem bind_eq_ok {α β : Type} {x : Go α} {f : α → Go β} {b : β} :
    (x >>= f) = .ok b ↔ ∃ a, x = .ok a ∧ f a = .ok b := by
  cases x <;> simp

/-- A mapped call returns exactly when the call returns a value that maps to the result. -/
theorem map_eq_ok {α β : Type} {f : α → β} {x : Go α} {b : β} :
    (f <$> x) = .ok b ↔ ∃ a, x = .ok a ∧ f a = b := by
  cases x <;> simp

/-- Rewording the error does not change whether, or what, a call returns. -/
theorem mapErr_eq_ok {α : Type} {f : String → String} {x : Go α} {a : α} :
    x.mapErr f = .ok a ↔ x = .ok a := by
  cases x <;> simp

/-- A check that fails with an error: the code after it ran and succeeded. -/
theorem ite_err_eq_ok {α : Type} {c : Prop} [Decidable c] {e : String} {x : Go α} {a : α} :
    (if c then .err e else x) = .ok a ↔ ¬ c ∧ x = .ok a := by
  by_cases hc : c <;> simp [hc]

/-- A stateless step followed by a call that may update a state `σ` (the replay window,
    a receiver): when the step returns an error or panics, the state is as it was. -/
def withState {σ α β : Type} (st : σ) : Go α → (α → σ × Go β) → σ × Go β
  | .ok a, f => f a
  | .err m, _ => (st, .err m)
  | .panic, _ => (st, .panic)

/-- A step that returns hands its value to the stateful call. -/
@[simp] theorem withState_ok {σ α β : Type} (st : σ) (a : α) (f : α → σ × Go β) :
    withState st (.ok a) f = f a := rfl
/-- A step that returns an error leaves the state as it was. -/
@[simp] theorem withState_err {σ α β : Type} (st : σ) (m : String) (f : α → σ × Go β) :
    withState st (.err m) f = (st, .err m) := rfl
/-- A step that panics leaves the state as it was. -/
@[simp] theorem withState_panic {σ α β : Type} (st : σ) (f : α → σ × Go β) :
    withState st (.panic : Go α) f = (st, .panic) := rfl

/-- A stateless step followed by a stateful call returns exactly when the step returns and
    the call returns from its value. -/
theorem withState_eq_ok {σ α β : Type} {st st' : σ} {x : Go α} {f : α → σ × Go β} {b : β} :
    withState st x f = (st', .ok b) ↔ ∃ a, x = .ok a ∧ f a = (st', .ok b) := by
  cases x <;> simp

/-! ### Calls that do not panic -/

/-- A call that returns a value has not panicked. -/
theorem ok_ne_panic {α : Type} (a : α) : Go.ok a ≠ .panic := fun h => Go.noConfusion h

/-- A call that returns an error has not panicked. -/
theorem err_ne_panic {α : Type} (m : String) : (Go.err m : Go α) ≠ .panic := fun h => Go.noConfusion h

/-- Two statements in sequence do not panic when the first does not and the rest does not
    from any value it returns. -/
theorem bind_ne_panic {α β : Type} {x : Go α} {f : α → Go β} (hx : x ≠ .panic)
    (hf : ∀ a, x = .ok a → f a ≠ .panic) : (x >>= f) ≠ .panic := by
  cases x with
  | ok a => exact hf a rfl
  | err m => exact Go.noConfusion
  | panic => exact absurd rfl hx

/-- Mapping a call that does not panic gives a call that does not panic. -/
theorem map_ne_panic {α β : Type} {f : α → β} {x : Go α} (hx : x ≠ .panic) : (f <$> x) ≠ .panic := by
  cases x <;> simp_all

/-- Rewording the error of a call that does not panic gives a call that does not panic. -/
theorem mapErr_ne_panic {α : Type} {f : String → String} {x : Go α} (hx : x ≠ .panic) :
    x.mapErr f ≠ .panic := by
  cases x <;> simp_all

/-- An if statement does not panic when neither branch panics where it is taken. -/
theorem ite_ne_panic {α : Type} {c : Prop} [Decidable c] {x y : Go α} (hx : c → x ≠ .panic)
    (hy : ¬ c → y ≠ .panic) : (if c then x else y) ≠ .panic := by
  split_ifs with h
  · exact hx h
  · exact hy h

/-- A step that does not return leaves the state as it was. -/
theorem withState_fst_of_ne {σ α β : Type} {st : σ} {x : Go α} (f : α → σ × Go β)
    (h : ∀ a, x ≠ .ok a) : (withState st x f).1 = st := by
  cases x with
  | ok a => exact absurd rfl (h a)
  | err m => rfl
  | panic => rfl

end Go

/-- `io.EOF`, the error every short read and write of `serializer.go` returns. -/
def EOF : String := "EOF"

/-! ### Constants -/

/-- MAX_CLIENTS of packet.go. -/
def maxClients : Nat := 60
/-- CONNECT_TOKEN_PRIVATE_BYTES of packet.go: the encrypted private token with its MAC. -/
def connectTokenPrivateBytes : Nat := 1024
/-- CHALLENGE_TOKEN_BYTES of packet.go. -/
def challengeTokenBytes : Nat := 300
/-- VERSION_INFO_BYTES of packet.go. -/
def versionInfoBytes : Nat := 13
/-- USER_DATA_BYTES of packet.go. -/
def userDataBytes : Nat := 256
/-- MAX_PACKET_BYTES of packet.go. -/
def maxPacketBytes : Nat := 1220
/-- MAX_PAYLOAD_BYTES of packet.go. -/
def maxPayloadBytes : Nat := 1200
/-- REPLAY_PROTECTION_BUFFER_SIZE of packet.go: the slots of the replay window. -/
def replayProtectionBufferSize : Nat := 256
/-- KEY_BYTES of packet.go. -/
def keyBytes : Nat := 32
/-- MAC_BYTES of packet.go: the tag the AEAD appends. -/
def macBytes : Nat := 16
/-- NONCE_BYTES of packet.go. -/
def nonceBytes : Nat := 8
/-- MAX_SERVERS_PER_CONNECT of packet.go. -/
def maxServersPerConnect : Nat := 32
/-- CONNECT_TOKEN_BYTES of connect_token.go: the whole public token. -/
def connectTokenBytes : Nat := 2048

/-- Modelled from the spec: the `Size*` constants are not in the repository's sources;
    the spec gives the widths 1, 2, 4 and 8 bytes. -/
def sizeUint8 : Nat := 1
/-- Modelled from the spec: SizeUint16, two bytes. -/
def sizeUint16 : Nat := 2
/-- Modelled from the spec: SizeUint32, four bytes. -/
def sizeUint32 : Nat := 4
/-- Modelled from the spec: SizeUint64, eight bytes. -/
def sizeUint64 : Nat := 8
/-- Modelled from the spec: SizeInt8, one byte. -/
def sizeInt8 : Nat := 1
/-- Modelled from the spec: SizeInt16, two bytes. -/
def sizeInt16 : Nat := 2
/-- Modelled from the spec: SizeInt32, four bytes. -/
def sizeInt32 : Nat := 4
/-- Modelled from the spec: SizeInt64, eight bytes. -/
def sizeInt64 : Nat := 8

/-- `VERSION_INFO`, the bytes of `"NETCODE 1.00\x00"`. -/
def versionInfo : Bytes := [78, 69, 84, 67, 79, 68, 69, 32, 49, 46, 48, 48, 0]

/-- VERSION_INFO is VERSION_INFO_BYTES long. -/
@[simp] theorem length_versionInfo : versionInfo.length = versionInfoBytes := rfl

/-! ### Little-endian bytes -/

/-- The `w` bytes `byte(x >> (8 * i))`, `i < w`: the low `w` bytes of `x`, least
    significant first. -/
def leBytes (w x : Nat) : Bytes := (List.range w).map fun i => UInt8.ofNat (x >>> (8 * i))

/-- The value of a little-endian byte string. -/
def leValue : Bytes → Nat
  | [] => 0
  | b :: bs => b.toNat + 256 * leValue bs

/-- The empty byte string has value zero. -/
@[simp] theorem leValue_nil : leValue [] = 0 := rfl
/-- The first byte is the least significant. -/
@[simp] theorem leValue_cons (b : UInt8) (bs : Bytes) :
    leValue (b :: bs) = b.toNat + 256 * leValue bs := rfl

/-- The w-byte encoding of a value is w bytes long. -/
@[simp] theorem length_leBytes (w x : Nat) : (leBytes w x).length = w := by
  simp [leBytes]

/-- A zero-width encoding is empty. -/
@[simp] theorem leBytes_zero (x : Nat) : leBytes 0 x = [] := rfl

/-- The first byte of an encoding is the value's low byte, and the rest encodes the value
    shifted down by eight bits. -/
theorem leBytes_succ (w x : Nat) :
    leBytes (w + 1) x = UInt8.ofNat x :: leBytes w (x / 256) := by
  simp only [leBytes, List.range_succ_eq_map, List.map_cons, List.map_map]
  refine congrArg₂ _ (by simp) (List.map_congr_left fun i _ => ?_)
  simp only [Function.comp, Nat.shiftRight_eq_div_pow, Nat.div_div_eq_div_mul]
  rw [Nat.mul_succ, Nat.pow_add, Nat.mul_comm (2 ^ (8 * i))]

/-- A byte is below 256. -/
theorem toNat_lt_256 (b : UInt8) : b.toNat < 256 := b.toBitVec.isLt

/-- Converting a number to a byte keeps its low eight bits. -/
@[simp] theorem toNat_ofNat_uint8 (n : Nat) : (UInt8.ofNat n).toNat = n % 256 := rfl

/-- The value of a `uint16` fits in its two bytes. -/
theorem toNat_lt_uint16 (v : UInt16) : v.toNat < 256 ^ 2 := v.toBitVec.isLt
/-- The value of a `uint32` fits in its four bytes. -/
theorem toNat_lt_uint32 (v : UInt32) : v.toNat < 256 ^ 4 := v.toBitVec.isLt
/-- The value of a `uint64` fits in its eight bytes. -/
theorem toNat_lt_uint64 (v : UInt64) : v.toNat < 256 ^ 8 := v.toBitVec.isLt

/-- Comparing two uint64 values compares their numbers. -/
theorem uint64_le_iff {a b : UInt64} : a ≤ b ↔ a.toNat ≤ b.toNat := Iff.rfl
/-- Comparing two uint64 values strictly compares their numbers. -/
theorem uint64_lt_iff {a b : UInt64} : a < b ↔ a.toNat < b.toNat := Iff.rfl

/-- A byte converted to a number and back is the same byte. -/
theorem ofNat_toNat_uint8 (v : UInt8) : UInt8.ofNat v.toNat = v :=
  UInt8.toNat.inj (Nat.mod_eq_of_lt v.toBitVec.isLt)
/-- A uint16 converted to a number and back is the same value. -/
theorem ofNat_toNat_uint16 (v : UInt16) : UInt16.ofNat v.toNat = v :=
  UInt16.toNat.inj (Nat.mod_eq_of_lt v.toBitVec.isLt)
/-- A uint32 converted to a number and back is the same value. -/
theorem ofNat_toNat_uint32 (v : UInt32) : UInt32.ofNat v.toNat = v :=
  UInt32.toNat.inj (Nat.mod_eq_of_lt v.toBitVec.isLt)
/-- A uint64 converted to a number and back is the same value. -/
theorem ofNat_toNat_uint64 (v : UInt64) : UInt64.ofNat v.toNat = v :=
  UInt64.toNat.inj (Nat.mod_eq_of_lt v.toBitVec.isLt)

/-- The value of a byte string fits in its bytes. -/
theorem leValue_lt (bs : Bytes) : leValue bs < 256 ^ bs.length := by
  induction bs with
  | nil => simp
  | cons b bs ih =>
    have := toNat_lt_256 b
    rw [leValue_cons, List.length_cons, Nat.pow_succ]
    omega

/-- Decoding the `w` bytes of `x` gives `x` modulo `256 ^ w`. -/
theorem leValue_leBytes (w x : Nat) : leValue (leBytes w x) = x % 256 ^ w := by
  induction w generalizing x with
  | zero => simp [Nat.mod_one]
  | succ w ih =>
    rw [leBytes_succ, leValue_cons, ih, toNat_ofNat_uint8, Nat.pow_succ, Nat.mul_comm _ 256,
      Nat.mod_mul, Nat.add_comm]

/-- Decoding the w-byte encoding of a value that fits in w bytes gives the value. -/
theorem leValue_leBytes_of_lt {w x : Nat} (h : x < 256 ^ w) : leValue (leBytes w x) = x := by
  rw [leValue_leBytes, Nat.mod_eq_of_lt h]

/-- Encoding the value of `bs` in `bs.length` bytes gives `bs` back. -/
theorem leBytes_leValue (bs : Bytes) : leBytes bs.length (leValue bs) = bs := by
  induction bs with
  | nil => rfl
  | cons b bs ih =>
    have hb := toNat_lt_256 b
    rw [List.length_cons, leBytes_succ, leValue_cons]
    congr 1
    · apply UInt8.toNat.inj
      simp only [toNat_ofNat_uint8]
      omega
    · rw [show (b.toNat + 256 * leValue bs) / 256 = leValue bs by omega, ih]

/-- Two values that fit in w bytes with the same w-byte encoding are equal. -/
theorem leBytes_inj {w x y : Nat} (hx : x < 256 ^ w) (hy : y < 256 ^ w)
    (h : leBytes w x = leBytes w y) : x = y := by
  rw [← leValue_leBytes_of_lt hx, ← leValue_leBytes_of_lt hy, h]

/-- Only the low `w` bytes of a value reach its `w`-byte encoding. -/
theorem leBytes_mod (w x : Nat) : leBytes w (x % 256 ^ w) = leBytes w x := by
  have h := leBytes_leValue (leBytes w x)
  rwa [length_leBytes, leValue_leBytes] at h

end Netcode
