import Netcode.Basic

namespace Netcode

/-!
# netcode.io — the replay window

`ReplayProtection` and its `AlreadyReceived` are used by `validateSequence` but are
not among the repository's sources; they are modelled from §4.3 of the spec, whose
`check_and_set` both answers and records.

* `ReplayProtection.alreadyReceived r s` — `1` (reject) when `s + 256 ≤ most_recent`
  or the slot `s mod 256` already holds `s`; otherwise records `s` and answers `0`.
  `most_recent` advances before the duplicate test, as §4.3 orders it.
* `Seen r s` — the window will reject `s`: it is recorded in its slot (and not newer
  than `most_recent`), or it is too old.
* `alreadyReceived_of_seen`, `seen_alreadyReceived`, `Seen.alreadyReceived` — a seen
  sequence is rejected; an accepted one is seen afterwards; and every step keeps every
  seen sequence seen.  These carry the window's invariant over whole runs.
-/

/-- Modelled from the spec: `ReplayProtection` is not in the repository's sources.
    The most recent sequence and, per residue modulo 256, the last sequence recorded. -/
structure ReplayProtection where
  mostRecentSequence : UInt64
  receivedSequence : Fin replayProtectionBufferSize → UInt64

namespace ReplayProtection

/-- Modelled from the spec: the sentinel of an empty slot, `u64::MAX`. -/
def emptySlot : UInt64 := 0xFFFFFFFFFFFFFFFF

/-- Modelled from the spec: `NewReplayProtection()` and `Reset()`: `most_recent = 0`,
    every slot empty. -/
def reset : ReplayProtection := ⟨0, fun _ => emptySlot⟩

/-- The slot of a sequence, `s mod 256`. -/
def slot (s : UInt64) : Fin replayProtectionBufferSize :=
  ⟨s.toNat % replayProtectionBufferSize, Nat.mod_lt _ (by decide)⟩

/-- Step 2 of §4.3: `most_recent ← s` when `s` is newer. -/
def advance (r : ReplayProtection) (s : UInt64) : ReplayProtection :=
  if s > r.mostRecentSequence then { r with mostRecentSequence := s } else r

/-- Step 3 of §4.3: record `s` in its slot. -/
def record (r : ReplayProtection) (s : UInt64) : ReplayProtection :=
  { r with receivedSequence := Function.update r.receivedSequence (slot s) s }

/-- Modelled from the spec: `AlreadyReceived(sequence)`, §4.3's `check_and_set`;
    the answer `1` rejects. -/
def alreadyReceived (r : ReplayProtection) (sequence : UInt64) : ReplayProtection × Nat :=
  if sequence + UInt64.ofNat replayProtectionBufferSize ≤ r.mostRecentSequence then (r, 1)
  else if (r.advance sequence).receivedSequence (slot sequence) = sequence
  then (r.advance sequence, 1)
  else ((r.advance sequence).record sequence, 0)

/-- Advancing the most recent sequence leaves the slots as they were. -/
@[simp] theorem advance_receivedSequence (r : ReplayProtection) (s : UInt64) :
    (r.advance s).receivedSequence = r.receivedSequence := by
  unfold advance; split <;> rfl

/-- Advancing the most recent sequence keeps the larger of the two. -/
theorem toNat_advance (r : ReplayProtection) (s : UInt64) :
    (r.advance s).mostRecentSequence.toNat = max r.mostRecentSequence.toNat s.toNat := by
  unfold advance
  split
  · rename_i h; rw [gt_iff_lt, uint64_lt_iff] at h; show s.toNat = _; omega
  · rename_i h; rw [gt_iff_lt, uint64_lt_iff] at h; show r.mostRecentSequence.toNat = _; omega

/-- Recording a sequence in its slot leaves the most recent sequence as it was. -/
@[simp] theorem record_mostRecentSequence (r : ReplayProtection) (s : UInt64) :
    (r.record s).mostRecentSequence = r.mostRecentSequence := rfl

/-- `s + 256` in `uint64` arithmetic, as a natural number. -/
theorem toNat_add_window (s : UInt64) :
    (s + UInt64.ofNat replayProtectionBufferSize).toNat = (s.toNat + 256) % 2 ^ 64 :=
  BitVec.toNat_add _ _

/-- The window will reject `s`: it is recorded in its slot and not newer than
    `most_recent`, or it is too old. -/
def Seen (r : ReplayProtection) (s : UInt64) : Prop :=
  (r.receivedSequence (slot s) = s ∧ s.toNat ≤ r.mostRecentSequence.toNat) ∨
    (s.toNat + 256) % 2 ^ 64 ≤ r.mostRecentSequence.toNat

/-- Two sequences share a slot exactly when they agree modulo 256. -/
theorem slot_eq_iff {s t : UInt64} : slot s = slot t ↔ s.toNat % 256 = t.toNat % 256 := by
  simp [slot, Fin.ext_iff, replayProtectionBufferSize]

/-- Too old for the window, on natural numbers. -/
theorem tooOld_iff (r : ReplayProtection) (s : UInt64) :
    s + UInt64.ofNat replayProtectionBufferSize ≤ r.mostRecentSequence ↔
      (s.toNat + 256) % 2 ^ 64 ≤ r.mostRecentSequence.toNat := by
  rw [uint64_le_iff, toNat_add_window]

/-- A seen sequence is rejected. -/
theorem alreadyReceived_of_seen {r : ReplayProtection} {s : UInt64} (h : Seen r s) :
    (r.alreadyReceived s).2 = 1 := by
  unfold alreadyReceived
  rcases h with ⟨hs, hle⟩ | h
  · have : r.advance s = r := by
      unfold advance; rw [if_neg (by rw [gt_iff_lt, uint64_lt_iff]; omega)]
    split <;> simp [this, hs]
  · simp [(tooOld_iff r s).mpr h]

/-- `AlreadyReceived` answers `0` or `1`. -/
theorem alreadyReceived_snd_eq_zero {r : ReplayProtection} {s : UInt64}
    (h : (r.alreadyReceived s).2 ≠ 1) : (r.alreadyReceived s).2 = 0 := by
  unfold alreadyReceived at h ⊢
  split_ifs at h ⊢ <;> simp_all

/-- A sequence the window accepts is seen afterwards. -/
theorem seen_alreadyReceived {r : ReplayProtection} {s : UInt64}
    (h : (r.alreadyReceived s).2 = 0) : Seen (r.alreadyReceived s).1 s := by
  unfold alreadyReceived at h ⊢
  split_ifs at h ⊢
  left
  refine ⟨by simp [record], ?_⟩
  rw [record_mostRecentSequence, toNat_advance]
  omega

/-- The window's step keeps every seen sequence seen. -/
theorem seen_alreadyReceived_of_seen {r : ReplayProtection} {t : UInt64} (ht : Seen r t)
    (s : UInt64) : Seen (r.alreadyReceived s).1 t := by
  have hM := toNat_advance r s
  have ht' : Seen (r.advance s) t := by
    rcases ht with ⟨h1, h2⟩ | h
    · exact .inl ⟨by simpa using h1, by omega⟩
    · exact .inr (by omega)
  unfold alreadyReceived
  split_ifs with hold hdup
  · exact ht
  · exact ht'
  · by_cases hslot : slot t = slot s
    · rcases ht with ⟨h1, h2⟩ | h
      · -- `t` sat in the slot `s` now takes: `s ≡ t` and `s ≠ t`, so one is 256 older
        have hts : t ≠ s := fun e => hdup (by subst e; simpa using h1)
        have hne : t.toNat ≠ s.toNat := fun e => hts (UInt64.toNat.inj e)
        have hmod := slot_eq_iff.mp hslot
        have := toNat_lt_uint64 s
        have := toNat_lt_uint64 t
        have := mt (tooOld_iff r s).mpr hold
        right
        rw [record_mostRecentSequence, hM]
        omega
      · right; rw [record_mostRecentSequence]; omega
    · rcases ht' with ⟨h1, h2⟩ | h
      · left
        exact ⟨by simp only [record, Function.update_noteq hslot]; exact h1, h2⟩
      · right; exact h

/-- The window is ready for `s`: `most_recent` is not past `s`, `s + 256` does not wrap,
    and every slot is empty or holds a sequence below `s`. -/
def Ready (r : ReplayProtection) (s : UInt64) : Prop :=
  r.mostRecentSequence.toNat ≤ s.toNat ∧ s.toNat + 256 < 2 ^ 64 ∧
    ∀ j, r.receivedSequence j = emptySlot ∨ (r.receivedSequence j).toNat < s.toNat

/-- A reset window accepts every sequence that does not wrap past 2 ^ 64. -/
theorem ready_reset {s : UInt64} (h : s.toNat + 256 < 2 ^ 64) : Ready reset s :=
  ⟨Nat.zero_le _, h, fun _ => .inl rfl⟩

/-- A window ready for `s` accepts it, recording it. -/
theorem Ready.alreadyReceived {r : ReplayProtection} {s : UInt64} (h : Ready r s) :
    r.alreadyReceived s = ((r.advance s).record s, 0) := by
  obtain ⟨hm, hw, hslots⟩ := h
  have hold : ¬ s + UInt64.ofNat replayProtectionBufferSize ≤ r.mostRecentSequence := by
    rw [tooOld_iff, Nat.mod_eq_of_lt hw]; omega
  have hdup : (r.advance s).receivedSequence (slot s) ≠ s := by
    rw [advance_receivedSequence]
    rcases hslots (slot s) with he | hlt
    · rw [he]; intro e
      have : s.toNat = 2 ^ 64 - 1 := by rw [← e]; rfl
      omega
    · exact fun e => absurd (congrArg UInt64.toNat e) (by omega)
  rw [ReplayProtection.alreadyReceived, if_neg hold, if_neg hdup]

/-- Accepting `s` leaves the window ready for every later `t`. -/
theorem Ready.alreadyReceived_fst {r : ReplayProtection} {s t : UInt64} (h : Ready r s)
    (hst : s.toNat < t.toNat) (ht : t.toNat + 256 < 2 ^ 64) : Ready (r.alreadyReceived s).1 t := by
  have hM := toNat_advance r s
  rw [h.alreadyReceived]
  obtain ⟨hm, -, hslots⟩ := h
  refine ⟨by rw [record_mostRecentSequence, hM]; omega, ht, fun j => ?_⟩
  by_cases hj : j = slot s
  · subst hj
    right
    simp only [record, Function.update_same]
    exact hst
  · simp only [record, Function.update_noteq hj, advance_receivedSequence]
    rcases hslots j with he | hlt
    · exact .inl he
    · exact .inr (by omega)

/-- A window ready for `s` is ready for every later `t`. -/
theorem Ready.mono {r : ReplayProtection} {s t : UInt64} (h : Ready r s) (hst : s.toNat ≤ t.toNat)
    (ht : t.toNat + 256 < 2 ^ 64) : Ready r t := by
  obtain ⟨hm, -, hslots⟩ := h
  exact ⟨by omega, ht, fun j => (hslots j).imp id fun hlt => by omega⟩

end ReplayProtection

end Netcode
