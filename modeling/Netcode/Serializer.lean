import Netcode.Basic

namespace Netcode

/-!
# netcode.io — the byte codec of `serializer.go`

Readers take the slice's contents and return the rest of the slice with the value
read.  Writers act on a backing array `mem`; a slice that runs to the end of the
array is its offset `buf` (its length is `mem.length - buf`, its capacity the same),
and the `nil` slice a failed write returns is the empty slice `mem.length`, which
reads, writes and re-slices exactly as `nil` does.

* `orInto` — the `*out |= T(buf[i]) << (8 * i)` lines of `ReadUint16/32/64`: the
  readers OR into the caller's variable and never clear it (`orInto_eq`).
* `readUint64` checks `len(buf) < SizeUint8`, not `SizeUint64`, so a slice of 1 to 7
  bytes makes it index past the end (`readUint64_panic`).
* `writeChunk` — the shared body of the fixed-width writers and `WriteBytes`;
  `writeBytesN` indexes `in` up to `length` and panics on a shorter `in`.
* `store` — the effect of a copy loop on the array, with its frame lemmas.
-/

/-! ### Readers -/

/-- `ReadUint8`. -/
def readUint8 : Bytes → Go (Bytes × UInt8)
  | [] => .err EOF
  | b :: rest => .ok (rest, b)

/-- `*out |= T(b) << s` for each byte `b` in turn, `s` growing by 8 from `shift`. -/
def orInto : Nat → Bytes → Nat → Nat
  | out, [], _ => out
  | out, b :: bs, s => orInto (out ||| b.toNat <<< s) bs (s + 8)

/-- The body shared by `ReadUint16` and `ReadUint32` (and `readSequence`'s loop): `io.EOF`
    below `w` bytes, else the `w` bytes OR-ed into `out`. -/
def readOr (w : Nat) (buf : Bytes) (out : Nat) : Go (Bytes × Nat) :=
  if buf.length < w then .err EOF else .ok (buf.drop w, orInto out (buf.take w) 0)

/-- `ReadUint16`. -/
def readUint16 (buf : Bytes) (out : UInt16) : Go (Bytes × UInt16) :=
  (fun r => (r.1, UInt16.ofNat r.2)) <$> readOr sizeUint16 buf out.toNat

/-- `ReadUint32`. -/
def readUint32 (buf : Bytes) (out : UInt32) : Go (Bytes × UInt32) :=
  (fun r => (r.1, UInt32.ofNat r.2)) <$> readOr sizeUint32 buf out.toNat

/-- `ReadUint64`: its length check is `len(buf) < SizeUint8`; between one and seven
    bytes it indexes `buf[1..7]` out of range. -/
def readUint64 (buf : Bytes) (out : UInt64) : Go (Bytes × UInt64) :=
  if buf.length < sizeUint8 then .err EOF
  else if buf.length < sizeUint64 then .panic
  else .ok (buf.drop sizeUint64, UInt64.ofNat (orInto out.toNat (buf.take sizeUint64) 0))

/-- `ReadBytes`: `*out = buf[0:length]`. -/
def readBytes (buf : Bytes) (length : Nat) : Go (Bytes × Bytes) :=
  if buf.length < length then .err EOF else .ok (buf.drop length, buf.take length)

/-! A Go `intN` is its `N` bits in two's complement: the model keeps them as a `BitVec N`,
whose `toInt` is the Go value.  The signed readers make the same checks and ORs as the
unsigned ones; `intN(buf[i]) << (8 * i)` keeps the low `N` bits, so a last byte from `0x80`
on lands in the sign bit. -/

/-- `ReadInt8`: `*out = int8(buf[0])`. -/
def readInt8 (buf : Bytes) : Go (Bytes × BitVec 8) :=
  (fun r => (r.1, BitVec.ofNat 8 r.2.toNat)) <$> readUint8 buf

/-- `ReadInt16`. -/
def readInt16 (buf : Bytes) (out : BitVec 16) : Go (Bytes × BitVec 16) :=
  (fun r => (r.1, BitVec.ofNat 16 r.2)) <$> readOr sizeInt16 buf out.toNat

/-- `ReadInt32`. -/
def readInt32 (buf : Bytes) (out : BitVec 32) : Go (Bytes × BitVec 32) :=
  (fun r => (r.1, BitVec.ofNat 32 r.2)) <$> readOr sizeInt32 buf out.toNat

/-- `ReadInt64`: unlike `ReadUint64`, its check is `len(buf) < SizeInt64`. -/
def readInt64 (buf : Bytes) (out : BitVec 64) : Go (Bytes × BitVec 64) :=
  (fun r => (r.1, BitVec.ofNat 64 r.2)) <$> readOr sizeInt64 buf out.toNat

/-! ### Writers -/

/-- The effect of `buf[i] = in[i]` for `i < len(in)` on the array `mem`, where the
    slice `buf` starts at `off`. -/
def store (mem : Bytes) (off : Nat) (xs : Bytes) : Bytes :=
  mem.take off ++ xs ++ mem.drop (off + xs.length)

/-- The body shared by the fixed-width writers and `WriteBytes`: `io.EOF` when fewer
    than `xs.length` bytes remain, else `xs` stored and the slice advanced. -/
def writeChunk (mem : Bytes) (buf : Nat) (xs : Bytes) : Bytes × Go Nat :=
  if mem.length - buf < xs.length then (mem, .err EOF)
  else (store mem buf xs, .ok (buf + xs.length))

/-- `WriteUint8`. -/
def writeUint8 (mem : Bytes) (buf : Nat) (v : UInt8) : Bytes × Go Nat :=
  writeChunk mem buf [v]

/-- `WriteUint16`: `buf[i] = byte(in >> (8 * i))`. -/
def writeUint16 (mem : Bytes) (buf : Nat) (v : UInt16) : Bytes × Go Nat :=
  writeChunk mem buf (leBytes sizeUint16 v.toNat)

/-- `WriteUint32`. -/
def writeUint32 (mem : Bytes) (buf : Nat) (v : UInt32) : Bytes × Go Nat :=
  writeChunk mem buf (leBytes sizeUint32 v.toNat)

/-- `WriteUint64`. -/
def writeUint64 (mem : Bytes) (buf : Nat) (v : UInt64) : Bytes × Go Nat :=
  writeChunk mem buf (leBytes sizeUint64 v.toNat)

/-- `WriteBytes`. -/
def writeBytes (mem : Bytes) (buf : Nat) (xs : Bytes) : Bytes × Go Nat :=
  writeChunk mem buf xs

/-- `WriteBytesN`: copies `in[i]` for every `i < length`, so an `in` shorter than
    `length` is indexed out of range. -/
def writeBytesN (mem : Bytes) (buf : Nat) (xs : Bytes) (length : Nat) : Bytes × Go Nat :=
  if mem.length - buf < length then (mem, .err EOF)
  else if xs.length < length then (mem, .panic)
  else (store mem buf (xs.take length), .ok (buf + length))

/-- The `w` bytes `byte(in >> (8 * i))`, `i < w`, of a signed `in`: `>>` on a signed
    integer is the arithmetic shift. -/
def sleBytes {n : Nat} (w : Nat) (v : BitVec n) : Bytes :=
  (List.range w).map fun i => UInt8.ofNat (v.sshiftRight (8 * i)).toNat

/-- `WriteInt8`: `buf[0] = byte(in)`. -/
def writeInt8 (mem : Bytes) (buf : Nat) (v : BitVec 8) : Bytes × Go Nat :=
  writeChunk mem buf (sleBytes sizeInt8 v)

/-- `WriteInt16`. -/
def writeInt16 (mem : Bytes) (buf : Nat) (v : BitVec 16) : Bytes × Go Nat :=
  writeChunk mem buf (sleBytes sizeInt16 v)

/-- `WriteInt32`. -/
def writeInt32 (mem : Bytes) (buf : Nat) (v : BitVec 32) : Bytes × Go Nat :=
  writeChunk mem buf (sleBytes sizeInt32 v)

/-- `WriteInt64`. -/
def writeInt64 (mem : Bytes) (buf : Nat) (v : BitVec 64) : Bytes × Go Nat :=
  writeChunk mem buf (sleBytes sizeInt64 v)

/-- `buffer, _ = Write…(buffer, …)`: the write's error is dropped and the slice it
    returns (`nil` after an error) is kept; a panic stays a panic. -/
def ignoreErr : Bytes × Go Nat → Go (Bytes × Nat)
  | (mem, .ok b) => .ok (mem, b)
  | (mem, .err _) => .ok (mem, mem.length)
  | (_, .panic) => .panic

/-- `buffer, err = Write…(buffer, …); if err != nil { return …, err }`: the write's error
    is returned. -/
def checkErr : Bytes × Go Nat → Go (Bytes × Nat)
  | (mem, .ok b) => .ok (mem, b)
  | (_, .err e) => .err e
  | (_, .panic) => .panic

/-! ### `orInto` is an OR of the little-endian value -/

/-- A byte ored below a value shifted by eight bits is added to it. -/
private theorem or_shiftLeft_eq_add (b acc : Nat) (hb : b < 2 ^ 8) :
    b ||| acc <<< 8 = b + 256 * acc := by
  rw [Nat.shiftLeft_eq, Nat.mul_comm, Nat.or_comm, ← Nat.mul_add_lt_is_or hb]
  omega

/-- Shifting a bitwise or shifts both sides. -/
private theorem shiftLeft_or (a b s : Nat) : (a ||| b) <<< s = a <<< s ||| b <<< s := by
  apply Nat.eq_of_testBit_eq
  intro i
  simp only [Nat.testBit_shiftLeft, Nat.testBit_or]
  cases decide (i ≥ s) <;> simp

/-- The byte loop of ReadUint16, ReadUint32 and ReadUint64 ors the little-endian value of
    its bytes, shifted by s, into out. -/
theorem orInto_eq (out : Nat) (bs : Bytes) (s : Nat) :
    orInto out bs s = out ||| leValue bs <<< s := by
  induction bs generalizing out s with
  | nil => simp [orInto]
  | cons b bs ih =>
    rw [orInto, ih, leValue_cons, ← or_shiftLeft_eq_add _ _ (toNat_lt_256 b), shiftLeft_or,
      ← Nat.shiftLeft_add, Nat.add_comm 8 s, Nat.or_assoc]

/-- From zero at shift zero the byte loop computes the little-endian value of the bytes. -/
theorem orInto_zero (bs : Bytes) : orInto 0 bs 0 = leValue bs := by
  simp [orInto_eq]

/-- On a slice of at least w bytes the w-byte reader consumes w bytes and ors their value
    into out. -/
theorem readOr_ok {w : Nat} {buf : Bytes} (h : w ≤ buf.length) (out : Nat) :
    readOr w buf out = .ok (buf.drop w, out ||| leValue (buf.take w)) := by
  simp [readOr, Nat.not_lt.mpr h, orInto_eq]

/-- The w-byte reader reads back a value that fits in w bytes from its encoding. -/
theorem readOr_leBytes (w x : Nat) (rest : Bytes) (hx : x < 256 ^ w) :
    readOr w (leBytes w x ++ rest) 0 = .ok (rest, x) := by
  rw [readOr_ok (by simp)]
  simp [List.take_left', List.drop_left', leValue_leBytes_of_lt hx]

/-! ### Round trips of the fixed-width readers -/

/-- ReadUint8 reads the first byte. -/
theorem readUint8_cons (b : UInt8) (rest : Bytes) : readUint8 (b :: rest) = .ok (rest, b) := rfl

/-- ReadUint16 reads back the two bytes WriteUint16 writes. -/
theorem readUint16_leBytes (v : UInt16) (rest : Bytes) :
    readUint16 (leBytes sizeUint16 v.toNat ++ rest) 0 = .ok (rest, v) := by
  rw [readUint16, show (0 : UInt16).toNat = 0 from rfl,
    readOr_leBytes sizeUint16 v.toNat rest (toNat_lt_uint16 v), Go.map_ok, ofNat_toNat_uint16]

/-- ReadUint32 reads back the four bytes WriteUint32 writes. -/
theorem readUint32_leBytes (v : UInt32) (rest : Bytes) :
    readUint32 (leBytes sizeUint32 v.toNat ++ rest) 0 = .ok (rest, v) := by
  rw [readUint32, show (0 : UInt32).toNat = 0 from rfl,
    readOr_leBytes sizeUint32 v.toNat rest (toNat_lt_uint32 v), Go.map_ok, ofNat_toNat_uint32]

/-- On a slice of at least eight bytes ReadUint64 consumes eight bytes and ors their value
    into out. -/
theorem readUint64_ok {buf : Bytes} (h : sizeUint64 ≤ buf.length) (out : UInt64) :
    readUint64 buf out =
      .ok (buf.drop sizeUint64, UInt64.ofNat (out.toNat ||| leValue (buf.take sizeUint64))) := by
  have h1 : ¬ buf.length < sizeUint8 := by simp only [sizeUint8, sizeUint64] at *; omega
  simp [readUint64, h1, Nat.not_lt.mpr h, orInto_eq]

/-- ReadUint64 reads back the eight bytes WriteUint64 writes. -/
theorem readUint64_leBytes (v : UInt64) (rest : Bytes) :
    readUint64 (leBytes sizeUint64 v.toNat ++ rest) 0 = .ok (rest, v) := by
  have hv : leValue (leBytes sizeUint64 v.toNat) = v.toNat :=
    leValue_leBytes_of_lt (toNat_lt_uint64 v)
  rw [readUint64_ok (by simp)]
  simp only [List.take_left', List.drop_left', length_leBytes, hv,
    show (0 : UInt64).toNat = 0 from rfl, Nat.zero_or, ofNat_toNat_uint64]

/-- `ReadUint64` on one to seven bytes indexes past the end of the slice. -/
theorem readUint64_panic {buf : Bytes} (h1 : 1 ≤ buf.length) (h8 : buf.length < 8)
    (out : UInt64) : readUint64 buf out = .panic := by
  simp [readUint64, sizeUint8, sizeUint64, Nat.not_lt.mpr h1, h8]

/-! ### Which reads panic -/

/-- ReadUint8 never panics. -/
theorem readUint8_ne_panic (buf : Bytes) : readUint8 buf ≠ .panic := by
  cases buf <;> simp [readUint8]

/-- The w-byte reader returns io.EOF on a short slice and never panics. -/
theorem readOr_ne_panic (w : Nat) (buf : Bytes) (out : Nat) : readOr w buf out ≠ .panic := by
  unfold readOr; split_ifs <;> simp

/-- ReadUint16 never panics. -/
theorem readUint16_ne_panic (buf : Bytes) (out : UInt16) : readUint16 buf out ≠ .panic :=
  Go.map_ne_panic (readOr_ne_panic _ _ _)

/-- ReadUint32 never panics. -/
theorem readUint32_ne_panic (buf : Bytes) (out : UInt32) : readUint32 buf out ≠ .panic :=
  Go.map_ne_panic (readOr_ne_panic _ _ _)

/-- ReadBytes never panics. -/
theorem readBytes_ne_panic (buf : Bytes) (length : Nat) : readBytes buf length ≠ .panic := by
  unfold readBytes; split_ifs <;> simp

/-- `ReadUint64` panics on exactly the slices of one to seven bytes. -/
theorem readUint64_ne_panic {buf : Bytes} (h : buf.length = 0 ∨ sizeUint64 ≤ buf.length)
    (out : UInt64) : readUint64 buf out ≠ .panic := by
  unfold readUint64
  split_ifs with h1 h8 <;> simp_all [sizeUint8]
  omega

/-! ### The readers OR into `out` -/

/-- The value of the first w bytes fits in w bytes. -/
theorem leValue_take_lt (w : Nat) (buf : Bytes) : leValue (buf.take w) < 256 ^ w :=
  Nat.lt_of_lt_of_le (leValue_lt _) (Nat.pow_le_pow_right (by decide) (List.length_take_le w buf))

/-- Two values below 2 ^ n or to a value below 2 ^ n, which the modulus leaves alone. -/
private theorem or_mod_eq {o v n : Nat} (ho : o < 2 ^ n) (hv : v < 2 ^ n) :
    (o ||| v) % 2 ^ n = (0 ||| v) % 2 ^ n ||| o := by
  rw [Nat.zero_or, Nat.mod_eq_of_lt hv, Nat.mod_eq_of_lt (Nat.or_lt_two_pow ho hv), Nat.or_comm]

/-- `ReadUint32` into `out` is `ReadUint32` into `0`, OR-ed with `out`. -/
theorem readUint32_or (buf : Bytes) (out : UInt32) :
    readUint32 buf out = (fun r => (r.1, r.2 ||| out)) <$> readUint32 buf 0 := by
  unfold readUint32 readOr
  split_ifs
  · rfl
  · simp only [Go.map_ok, orInto_eq, Nat.shiftLeft_zero, Go.ok.injEq, Prod.mk.injEq, true_and]
    exact UInt32.toNat.inj (or_mod_eq out.toBitVec.isLt (leValue_take_lt sizeUint32 buf))

/-- `ReadUint64` into `out` is `ReadUint64` into `0`, OR-ed with `out`. -/
theorem readUint64_or (buf : Bytes) (out : UInt64) :
    readUint64 buf out = (fun r => (r.1, r.2 ||| out)) <$> readUint64 buf 0 := by
  unfold readUint64
  split_ifs
  · rfl
  · rfl
  · simp only [Go.map_ok, orInto_eq, Nat.shiftLeft_zero, Go.ok.injEq, Prod.mk.injEq, true_and]
    exact UInt64.toNat.inj (or_mod_eq out.toBitVec.isLt (leValue_take_lt sizeUint64 buf))

/-- ReadUint8 returns exactly the first byte of a slice that has one, and the rest of the
    slice. -/
theorem readUint8_eq_ok {buf rest : Bytes} {b : UInt8} :
    readUint8 buf = .ok (rest, b) ↔ buf = b :: rest := by
  cases buf <;> simp [readUint8, eq_comm, and_comm]

/-- When ReadUint64 returns, the slice it returns has its first eight bytes dropped. -/
theorem readUint64_rest {buf rest : Bytes} {out v : UInt64} (h : readUint64 buf out = .ok (rest, v)) :
    rest = buf.drop sizeUint64 := by
  unfold readUint64 at h
  split_ifs at h
  simp_all

/-- ReadBytes returns exactly when the slice has length bytes, and returns them with the
    rest of the slice. -/
theorem readBytes_eq_ok {buf rest xs : Bytes} {length : Nat} :
    readBytes buf length = .ok (rest, xs) ↔
      length ≤ buf.length ∧ rest = buf.drop length ∧ xs = buf.take length := by
  unfold readBytes
  split_ifs with h <;> simp [eq_comm]
  · omega
  · exact fun _ _ => Nat.not_lt.mp h

/-- ReadBytes of as many bytes as a prefix returns that prefix and the rest. -/
theorem readBytes_append (xs rest : Bytes) :
    readBytes (xs ++ rest) xs.length = .ok (rest, xs) := by
  simp [readBytes]

/-! ### `store` and the writers -/

/-- A store that fits keeps the array's length. -/
@[simp] theorem length_store {mem : Bytes} {off : Nat} {xs : Bytes}
    (h : off + xs.length ≤ mem.length) : (store mem off xs).length = mem.length := by
  simp [store]
  omega

/-- Storing right after a prefix of known length. -/
theorem store_append (pre rest xs : Bytes) :
    store (pre ++ rest) pre.length xs = pre ++ (xs ++ rest.drop xs.length) := by
  simp [store, List.drop_append_eq_append_drop]

/-- Two stores, the second right after the first, are one store. -/
theorem store_store (mem : Bytes) (off : Nat) (xs ys : Bytes) (h : off ≤ mem.length) :
    store (store mem off xs) (off + xs.length) ys = store mem off (xs ++ ys) := by
  obtain ⟨P, R, rfl, rfl⟩ : ∃ P R, mem = P ++ R ∧ off = P.length :=
    ⟨mem.take off, mem.drop off, (List.take_append_drop _ _).symm, by simp; omega⟩
  rw [store_append, ← List.append_assoc, ← List.length_append, store_append, store_append,
    List.drop_drop, List.length_append]
  simp [Nat.add_comm]

/-- A write with room for its bytes stores them at the slice's start and advances the slice
    past them. -/
theorem writeChunk_ok {mem : Bytes} {buf : Nat} {xs : Bytes} (h : buf + xs.length ≤ mem.length) :
    writeChunk mem buf xs = (store mem buf xs, .ok (buf + xs.length)) := by
  rw [writeChunk, if_neg (show ¬ mem.length - buf < xs.length by omega)]

/-- A write without room for its bytes leaves the array as it was and returns io.EOF. -/
theorem writeChunk_short {mem : Bytes} {buf : Nat} {xs : Bytes}
    (h : mem.length - buf < xs.length) : writeChunk mem buf xs = (mem, .err EOF) := by
  rw [writeChunk, if_pos h]

/-- A fixed-width write whose error is ignored always goes on, and keeps the array's
    length. -/
theorem ignoreErr_writeChunk {mem : Bytes} {buf : Nat} (hb : buf ≤ mem.length) (xs : Bytes) :
    ∃ r, ignoreErr (writeChunk mem buf xs) = .ok r ∧ r.1.length = mem.length := by
  by_cases h : mem.length - buf < xs.length
  · exact ⟨_, by rw [writeChunk_short h]; rfl, rfl⟩
  · exact ⟨(store mem buf xs, buf + xs.length), by rw [writeChunk_ok (by omega)]; rfl,
      length_store (by omega)⟩

/-- WriteBytesN with room for length bytes, from a source with at least length bytes, stores
    the first length bytes and advances the slice past them. -/
theorem writeBytesN_ok {mem : Bytes} {buf : Nat} {xs : Bytes} {length : Nat}
    (h : buf + length ≤ mem.length) (hx : length ≤ xs.length) :
    writeBytesN mem buf xs length = (store mem buf (xs.take length), .ok (buf + length)) := by
  rw [writeBytesN, if_neg (show ¬ mem.length - buf < length by omega),
    if_neg (show ¬ xs.length < length by omega)]

/-- `WriteBytesN` with room for `length` bytes but an `in` shorter than `length` indexes
    `in` past its end. -/
theorem writeBytesN_panic {mem : Bytes} {buf : Nat} {xs : Bytes} {length : Nat}
    (h : buf + length ≤ mem.length) (hx : xs.length < length) :
    writeBytesN mem buf xs length = (mem, .panic) := by
  rw [writeBytesN, if_neg (show ¬ mem.length - buf < length by omega), if_pos hx]

/-- The slice a store starts at holds the stored bytes, then what was after them. -/
theorem drop_store {mem : Bytes} {off : Nat} (xs : Bytes) (h : off ≤ mem.length) :
    (store mem off xs).drop off = xs ++ mem.drop (off + xs.length) := by
  simp [store, List.drop_append_eq_append_drop, h]

/-- After the stored bytes the array is as it was. -/
theorem drop_store_after {mem : Bytes} {off n : Nat} {xs : Bytes} (hn : xs.length = n)
    (h : off ≤ mem.length) : (store mem off xs).drop (off + n) = mem.drop (off + n) := by
  subst hn
  simp [store, List.drop_append_eq_append_drop, h]

/-- A store at the start of a zeroed array: the bytes, then the zeros after them. -/
theorem store_replicate_zero (n : Nat) (xs : Bytes) :
    store (List.replicate n 0) 0 xs = xs ++ List.replicate (n - xs.length) 0 := by
  simp [store, List.drop_replicate]

/-- Taking as many bytes as were stored at the start of an array gives them back. -/
theorem take_store_zero (mem xs : Bytes) : (store mem 0 xs).take xs.length = xs := by
  rw [store, List.take_zero, List.nil_append, List.take_left]

/-! ### Writers as specifications -/

/-- `w` writes `xs`: on any array with room for `xs` at the offset, it stores `xs` there
    and advances past it. -/
def Writes (w : Bytes → Nat → Go (Bytes × Nat)) (xs : Bytes) : Prop :=
  ∀ mem buf, buf + xs.length ≤ mem.length → w mem buf = .ok (store mem buf xs, buf + xs.length)

/-- A writer run right after `acc` was stored extends what is stored. -/
theorem Writes.after {w : Bytes → Nat → Go (Bytes × Nat)} {xs : Bytes} (hw : Writes w xs)
    {mem acc : Bytes} {buf : Nat} (h : buf + (acc ++ xs).length ≤ mem.length) :
    w (store mem buf acc) (buf + acc.length) =
      .ok (store mem buf (acc ++ xs), buf + (acc ++ xs).length) := by
  rw [List.length_append] at h
  rw [hw _ _ (by rw [length_store (by omega)]; omega), store_store _ _ _ _ (by omega),
    List.length_append, Nat.add_assoc]

/-- The first writer of a sequence, as a case of `Writes.after`. -/
theorem Writes.first {w : Bytes → Nat → Go (Bytes × Nat)} {xs : Bytes} (hw : Writes w xs)
    {mem : Bytes} {buf : Nat} (h : buf + xs.length ≤ mem.length) :
    w mem buf = .ok (store mem buf xs, buf + xs.length) := hw mem buf h

/-- A writer followed by another writes the two byte strings one after the other. -/
theorem Writes.bind {f g : Bytes → Nat → Go (Bytes × Nat)} {xs ys : Bytes} (hf : Writes f xs)
    (hg : Writes g ys) : Writes (fun mem buf => f mem buf >>= fun r => g r.1 r.2) (xs ++ ys) := by
  intro mem buf h
  rw [List.length_append] at h
  simp only [hf mem buf (by omega), Go.ok_bind]
  exact @Writes.after g ys hg mem xs buf (by rw [List.length_append]; omega)

/-- A writer writes any byte string equal to the one it writes. -/
theorem Writes.of_eq {w : Bytes → Nat → Go (Bytes × Nat)} {xs ys : Bytes} (hw : Writes w xs)
    (h : xs = ys) : Writes w ys := h ▸ hw

/-- `w` never writes before its slice: the array keeps its length and the bytes before
    the slice, and the slice only moves forward. -/
def Keeps (w : Bytes → Nat → Go (Bytes × Nat)) : Prop :=
  ∀ mem buf mem' buf', buf ≤ mem.length → w mem buf = .ok (mem', buf') →
    mem'.length = mem.length ∧ buf ≤ buf' ∧ buf' ≤ mem'.length ∧ mem'.take buf = mem.take buf

/-- Two writers in sequence that keep the array's length and prefix keep them too. -/
theorem Keeps.bind {f g : Bytes → Nat → Go (Bytes × Nat)} (hf : Keeps f) (hg : Keeps g) :
    Keeps (fun mem buf => f mem buf >>= fun r => g r.1 r.2) := by
  intro mem buf mem' buf' hb h
  obtain ⟨⟨m1, b1⟩, h1, h2⟩ := Go.bind_eq_ok.mp h
  obtain ⟨hl1, hb1, hb1', ht1⟩ := hf _ _ _ _ hb h1
  obtain ⟨hl2, hb2, hb2', ht2⟩ := hg _ _ _ _ hb1' h2
  refine ⟨by rw [hl2, hl1], by omega, hb2', ?_⟩
  rw [← Nat.min_eq_left hb1, ← List.take_take, ht2, List.take_take, Nat.min_eq_left hb1, ht1]

/-- A write whose error is dropped keeps the array's length and the bytes before the slice. -/
theorem keeps_ignoreErr_writeChunk (xs : Bytes) :
    Keeps (fun mem buf => ignoreErr (writeChunk mem buf xs)) := by
  intro mem buf mem' buf' hb h
  simp only [writeChunk] at h
  split_ifs at h with hroom
  · simp only [ignoreErr, Go.ok.injEq, Prod.mk.injEq] at h
    obtain ⟨rfl, rfl⟩ := h
    exact ⟨rfl, hb, le_refl _, rfl⟩
  · simp only [ignoreErr, Go.ok.injEq, Prod.mk.injEq] at h
    obtain ⟨rfl, rfl⟩ := h
    have hroom' : buf + xs.length ≤ mem.length := by omega
    refine ⟨length_store hroom', by omega, by rw [length_store hroom']; exact hroom', ?_⟩
    simp [store, List.take_append_of_le_length, show buf ≤ mem.length from hb]

/-- WriteUint8 with its error dropped keeps the array's length and prefix. -/
theorem keeps_writeUint8 (v : UInt8) : Keeps (fun mem buf => ignoreErr (writeUint8 mem buf v)) :=
  keeps_ignoreErr_writeChunk _

/-- WriteUint32 with its error dropped keeps the array's length and prefix. -/
theorem keeps_writeUint32 (v : UInt32) : Keeps (fun mem buf => ignoreErr (writeUint32 mem buf v)) :=
  keeps_ignoreErr_writeChunk _

/-- WriteUint64 with its error dropped keeps the array's length and prefix. -/
theorem keeps_writeUint64 (v : UInt64) : Keeps (fun mem buf => ignoreErr (writeUint64 mem buf v)) :=
  keeps_ignoreErr_writeChunk _

/-- WriteBytes with its error dropped keeps the array's length and prefix. -/
theorem keeps_writeBytes (xs : Bytes) : Keeps (fun mem buf => ignoreErr (writeBytes mem buf xs)) :=
  keeps_ignoreErr_writeChunk _

/-- WriteBytesN with its error dropped keeps the array's length and prefix. -/
theorem keeps_writeBytesN (xs : Bytes) (length : Nat) :
    Keeps (fun mem buf => ignoreErr (writeBytesN mem buf xs length)) := by
  intro mem buf mem' buf' hb h
  simp only [writeBytesN] at h
  split_ifs at h with hroom hx
  · simp only [ignoreErr, Go.ok.injEq, Prod.mk.injEq] at h
    obtain ⟨rfl, rfl⟩ := h
    exact ⟨rfl, hb, le_refl _, rfl⟩
  · simp [ignoreErr] at h
  · simp only [ignoreErr, Go.ok.injEq, Prod.mk.injEq] at h
    obtain ⟨rfl, rfl⟩ := h
    have hroom' : buf + (xs.take length).length ≤ mem.length := by simp; omega
    refine ⟨length_store hroom', by omega, by rw [length_store hroom']; omega, ?_⟩
    simp [store, List.take_append_of_le_length, show buf ≤ mem.length from hb]

/-- A write whose error is returned writes its bytes when they fit. -/
theorem writes_checkErr_writeChunk (xs : Bytes) :
    Writes (fun mem buf => checkErr (writeChunk mem buf xs)) xs :=
  fun _ _ h => by simp only [writeChunk_ok h]; rfl

/-- WriteUint64 with its error returned writes the eight little-endian bytes of the value. -/
theorem writes_checkErr_writeUint64 (v : UInt64) :
    Writes (fun mem buf => checkErr (writeUint64 mem buf v)) (leBytes sizeUint64 v.toNat) :=
  writes_checkErr_writeChunk _

/-- WriteBytesN with its error returned writes the first length bytes of a long enough
    source. -/
theorem writes_checkErr_writeBytesN {xs : Bytes} {length : Nat} (hx : length ≤ xs.length) :
    Writes (fun mem buf => checkErr (writeBytesN mem buf xs length)) (xs.take length) :=
  fun _ _ h => by
    rw [List.length_take, Nat.min_eq_left hx] at h
    simp only [writeBytesN_ok h hx, List.length_take, Nat.min_eq_left hx]
    rfl

/-- A write whose error is dropped writes its bytes when they fit. -/
theorem writes_writeChunk (xs : Bytes) : Writes (fun mem buf => ignoreErr (writeChunk mem buf xs)) xs :=
  fun _ _ h => by simp only [writeChunk_ok h]; rfl

/-- WriteUint8 with its error dropped writes its byte. -/
theorem writes_writeUint8 (v : UInt8) : Writes (fun mem buf => ignoreErr (writeUint8 mem buf v)) [v] :=
  writes_writeChunk _

/-- WriteUint16 with its error dropped writes the two little-endian bytes of the value. -/
theorem writes_writeUint16 (v : UInt16) :
    Writes (fun mem buf => ignoreErr (writeUint16 mem buf v)) (leBytes sizeUint16 v.toNat) :=
  writes_writeChunk _

/-- WriteUint32 with its error dropped writes the four little-endian bytes of the value. -/
theorem writes_writeUint32 (v : UInt32) :
    Writes (fun mem buf => ignoreErr (writeUint32 mem buf v)) (leBytes sizeUint32 v.toNat) :=
  writes_writeChunk _

/-- WriteUint64 with its error dropped writes the eight little-endian bytes of the value. -/
theorem writes_writeUint64 (v : UInt64) :
    Writes (fun mem buf => ignoreErr (writeUint64 mem buf v)) (leBytes sizeUint64 v.toNat) :=
  writes_writeChunk _

/-- WriteBytes with its error dropped writes its bytes. -/
theorem writes_writeBytes (xs : Bytes) : Writes (fun mem buf => ignoreErr (writeBytes mem buf xs)) xs :=
  writes_writeChunk _

/-- WriteBytesN with its error dropped writes the first length bytes of a long enough
    source. -/
theorem writes_writeBytesN {xs : Bytes} {length : Nat} (hx : length ≤ xs.length) :
    Writes (fun mem buf => ignoreErr (writeBytesN mem buf xs length)) (xs.take length) :=
  fun _ _ h => by
    rw [List.length_take, Nat.min_eq_left hx] at h
    simp only [writeBytesN_ok h hx, List.length_take, Nat.min_eq_left hx]
    rfl

/-! ### The fixed-width pairs -/

/-- `byte(in >> (8 * i))` of a signed `in` is the byte of its bits: for `i < w` with
    `8 * w ≤ N` the arithmetic shift brings no copy of the sign bit into the low byte. -/
theorem sleBytes_eq_leBytes {n : Nat} (w : Nat) (v : BitVec n) (h : 8 * w ≤ n) :
    sleBytes w v = leBytes w v.toNat := by
  refine List.map_congr_left fun i hi => UInt8.toNat.inj ?_
  rw [List.mem_range] at hi
  simp only [toNat_ofNat_uint8]
  refine Nat.eq_of_testBit_eq fun j => ?_
  rw [show (256 : Nat) = 2 ^ 8 from rfl, Nat.testBit_mod_two_pow, Nat.testBit_mod_two_pow,
    Nat.testBit_shiftRight, BitVec.testBit_toNat, BitVec.getLsbD_sshiftRight, BitVec.testBit_toNat]
  by_cases hj : j < 8
  · simp [hj, show ¬ n ≤ j by omega, show 8 * i + j < n by omega]
  · simp [hj]

example : sleBytes 2 (BitVec.ofInt 16 (-2)) = [0xFE, 0xFF] := by decide

/-- The one-byte encoding of a byte is that byte. -/
theorem leBytes_one (v : UInt8) : leBytes sizeUint8 v.toNat = [v] := by
  rw [show sizeUint8 = 0 + 1 from rfl, leBytes_succ, ofNat_toNat_uint8]
  rfl

/-- A signed reader's ORs into `0` of the bytes of `v` give `v` back. -/
private theorem readOr_bitVec {n : Nat} (w : Nat) (hw : 2 ^ n = 256 ^ w) (v : BitVec n)
    (rest : Bytes) :
    (fun r => (r.1, BitVec.ofNat n r.2)) <$> readOr w (leBytes w v.toNat ++ rest) 0 =
      .ok (rest, v) := by
  rw [readOr_leBytes w v.toNat rest (hw ▸ v.isLt), Go.map_ok, BitVec.ofNat_toNat,
    BitVec.setWidth_eq]

/-- The law of a fixed-width pair of `serializer.go`, for values `α` with bits `bits`: on
    an array with `w` bytes of room at the slice, `write v` stores the `w` little-endian
    bytes of `v` there and returns the slice after them, and `read` of the written slice
    returns the slice after them and `v`. -/
def FixedWidthLaw {α : Type} (w : Nat) (bits : α → Nat)
    (write : Bytes → Nat → α → Bytes × Go Nat) (read : Bytes → Go (Bytes × α)) : Prop :=
  ∀ v mem buf, buf + w ≤ mem.length →
    write mem buf v = (store mem buf (leBytes w (bits v)), .ok (buf + w)) ∧
      read ((store mem buf (leBytes w (bits v))).drop buf) =
        .ok ((store mem buf (leBytes w (bits v))).drop (buf + w), v)

/-- A writer that is `writeChunk` of the bytes of `v` and a reader that reads them back
    make a fixed-width pair. -/
theorem fixedWidthLaw_of {α : Type} {w : Nat} {bits : α → Nat}
    {write : Bytes → Nat → α → Bytes × Go Nat} {read : Bytes → Go (Bytes × α)}
    (hw : ∀ mem buf v, write mem buf v = writeChunk mem buf (leBytes w (bits v)))
    (hr : ∀ v rest, read (leBytes w (bits v) ++ rest) = .ok (rest, v)) :
    FixedWidthLaw w bits write read := by
  intro v mem buf h
  have hl : buf + (leBytes w (bits v)).length ≤ mem.length := by rwa [length_leBytes]
  refine ⟨by rw [hw, writeChunk_ok hl, length_leBytes], ?_⟩
  rw [drop_store _ (by omega), hr, drop_store_after (length_leBytes w _) (by omega),
    length_leBytes]

/-- **Every fixed-width pair round-trips.**  For the widths 1, 2, 4 and 8, unsigned and
    signed, `WriteX` on a slice of at least `w` bytes stores the little-endian bytes of `v`
    (of its two's-complement bits for a signed `v`) and returns the slice after them, and
    `ReadX` of that slice into a zero `out` returns the slice after them and `v`. -/
theorem fixedWidth_roundTrip :
    FixedWidthLaw sizeUint8 UInt8.toNat writeUint8 readUint8 ∧
    FixedWidthLaw sizeUint16 UInt16.toNat writeUint16 (readUint16 · 0) ∧
    FixedWidthLaw sizeUint32 UInt32.toNat writeUint32 (readUint32 · 0) ∧
    FixedWidthLaw sizeUint64 UInt64.toNat writeUint64 (readUint64 · 0) ∧
    FixedWidthLaw sizeInt8 BitVec.toNat writeInt8 readInt8 ∧
    FixedWidthLaw sizeInt16 BitVec.toNat writeInt16 (readInt16 · 0) ∧
    FixedWidthLaw sizeInt32 BitVec.toNat writeInt32 (readInt32 · 0) ∧
    FixedWidthLaw sizeInt64 BitVec.toNat writeInt64 (readInt64 · 0) := by
  refine ⟨fixedWidthLaw_of (fun _ _ v => by rw [writeUint8, leBytes_one])
      (fun v rest => by rw [leBytes_one]; rfl),
    fixedWidthLaw_of (fun _ _ _ => rfl) readUint16_leBytes,
    fixedWidthLaw_of (fun _ _ _ => rfl) readUint32_leBytes,
    fixedWidthLaw_of (fun _ _ _ => rfl) readUint64_leBytes,
    fixedWidthLaw_of (fun _ _ v => by rw [writeInt8, sleBytes_eq_leBytes _ _ (le_refl _)])
      (fun v rest => ?_),
    fixedWidthLaw_of (fun _ _ v => by rw [writeInt16, sleBytes_eq_leBytes _ _ (le_refl _)])
      (fun v rest => readOr_bitVec _ rfl v rest),
    fixedWidthLaw_of (fun _ _ v => by rw [writeInt32, sleBytes_eq_leBytes _ _ (le_refl _)])
      (fun v rest => readOr_bitVec _ rfl v rest),
    fixedWidthLaw_of (fun _ _ v => by rw [writeInt64, sleBytes_eq_leBytes _ _ (le_refl _)])
      (fun v rest => readOr_bitVec _ rfl v rest)⟩
  -- `int8(buf[0])` keeps the byte's eight bits
  have hb : (UInt8.ofNat v.toNat).toNat = v.toNat := Nat.mod_eq_of_lt v.isLt
  rw [show sizeInt8 = 0 + 1 from rfl, leBytes_succ, leBytes_zero, readInt8, List.cons_append,
    List.nil_append, readUint8_cons, Go.map_ok, hb, BitVec.ofNat_toNat, BitVec.setWidth_eq]

/-- The sign bit: `ReadInt16` of `[0x00, 0x80]` is `-32768`. -/
example : readInt16 [0, 0x80] 0 = .ok ([], BitVec.ofInt 16 (-32768)) := by decide

end Netcode
