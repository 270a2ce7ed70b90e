import Netcode.Packet.Read

namespace Netcode

/-!
# netcode.io — the replay window over a run of datagrams

Datagrams delivered one after another to `NewPacket(d).Read(d, …)`, all with one
`ReplayProtection` (the way a connection's receive loop uses it).

* `receive` — what each `Read` of the run returns, the window threaded through.
* `readPacket_window_seen` — one step: the window after a `Read` still rejects every
  sequence it rejected before (it is untouched or advanced by `AlreadyReceived`).
* `readPacket_guarded` — one step: an accepted packet of a type from
  `ConnectionKeepAlive` on was not yet seen, and is seen afterwards, because
  `validateSequence`'s `AlreadyReceived` records it.
* `receive_guarded_nodup` — the run: the accepted packets of those types carry pairwise
  distinct sequences, from any window.
* `readPacket_window` — the window after one `Read` is the caller's, or `AlreadyReceived`
  of the datagram's sequence, and does not depend on whether the AEAD opens the datagram:
  `validateSequence` consults and updates the window before `DecryptAead` has
  authenticated the sequence.  A forged datagram therefore advances the window and can
  make an authentic one be rejected.
-/

/-- Datagrams delivered in turn to `NewPacket(d).Read(d, …)` with one shared window: what
    each `Read` returns. -/
def receive (A : AeadOps) : Option ReplayProtection → List (Bytes × ReadArgs) → List (Go Packet)
  | _, [] => []
  | rp, (d, args) :: ds =>
    let r := readPacket A d args rp
    r.2 :: receive A r.1 ds

/-- The sequence of an accepted packet the window guards: a type from
    `ConnectionKeepAlive` on. -/
def guardedSequence : Go Packet → Option UInt64
  | .ok P => if connectionKeepAlive ≤ P.getType then some P.sequence else none
  | _ => none

section
variable {A : AeadOps} {d : Bytes} {args : ReadArgs}

open ReplayProtection

/-- **One step keeps what the window rejects**: the window after a `Read` is there, and
    every sequence seen before is still seen. -/
theorem readPacket_window_seen (r : ReplayProtection) :
    ∃ r', (readPacket A d args (some r)).1 = some r' ∧ ∀ t, Seen r t → Seen r' t := by
  rcases readPacket_fst with h | h
  · exact ⟨r, h, fun _ ht => ht⟩
  · rcases decryptPacket_fst r with h' | ⟨_, _, s, -, -, -, h'⟩
    · exact ⟨r, h.trans h', fun _ ht => ht⟩
    · exact ⟨_, h.trans h', fun t ht => seen_alreadyReceived_of_seen ht s⟩

/-- **An accepted packet the window guards was new, and is recorded**: before the `Read`
    its sequence was not seen; after it, it is. -/
theorem readPacket_guarded {r : ReplayProtection} {rp' : Option ReplayProtection} {P : Packet}
    (h : readPacket A d args (some r) = (rp', .ok P)) (ht : connectionKeepAlive ≤ P.getType) :
    ¬ Seen r P.sequence ∧ ∃ r', rp' = some r' ∧ Seen r' P.sequence := by
  obtain ⟨hpeek, -, P₀, -, h₀⟩ := readPacket_eq_ok h
  have hP₀ : P₀.getType ≠ connectionRequest := by
    rw [← Packet.read_getType h₀]
    intro e
    rw [e] at ht
    exact absurd ht (by decide)
  obtain ⟨-, pt, hd, -⟩ := Packet.read_sequenced_eq_ok hP₀ h₀
  obtain ⟨b, rest, hh, hr⟩ := decryptPacket_replay hd
  obtain ⟨-, -, -, rfl⟩ := readPacketHeader_eq_ok hh
  obtain ⟨hne, rfl⟩ := hr (by rw [show b &&& 0xF = P.getType from Go.ok.inj hpeek]; exact ht)
  exact ⟨fun hs => hne (alreadyReceived_of_seen hs), _, rfl,
    seen_alreadyReceived (alreadyReceived_snd_eq_zero hne)⟩

/-- The run from a window `r`: the guarded sequences are pairwise distinct, and none of
    them was seen by `r`. -/
theorem receive_guarded (ds : List (Bytes × ReadArgs)) :
    ∀ r : ReplayProtection, ((receive A (some r) ds).filterMap guardedSequence).Nodup ∧
      ∀ t, Seen r t → t ∉ (receive A (some r) ds).filterMap guardedSequence := by
  induction ds with
  | nil => intro r; simp [receive]
  | cons x ds ih =>
    intro r
    obtain ⟨d, args⟩ := x
    obtain ⟨r', hr', hmono⟩ := @readPacket_window_seen A d args r
    obtain ⟨ihn, ihs⟩ := ih r'
    simp only [receive, hr', List.filterMap_cons]
    cases hres : (readPacket A d args (some r)).2 with
    | ok P =>
      have hP : readPacket A d args (some r) = (some r', .ok P) := Prod.ext hr' hres
      by_cases ht : connectionKeepAlive ≤ P.getType
      · obtain ⟨hnew, r'', hr'', hseen⟩ := readPacket_guarded hP ht
        cases hr''
        simp only [guardedSequence, if_pos ht, List.nodup_cons, List.mem_cons, not_or]
        exact ⟨⟨ihs _ hseen, ihn⟩, fun t hs => ⟨fun e => hnew (e ▸ hs), ihs t (hmono t hs)⟩⟩
      · simp only [guardedSequence, if_neg ht]
        exact ⟨ihn, fun t hs => ihs t (hmono t hs)⟩
    | err e => exact ⟨ihn, fun t hs => ihs t (hmono t hs)⟩
    | panic => exact ⟨ihn, fun t hs => ihs t (hmono t hs)⟩

/-- **No sequence the window guards is accepted twice**: from the reset window, over any
    delivery of datagrams (in any order, with any duplication, each with its own arguments),
    the accepted packets of types `ConnectionKeepAlive`, `ConnectionPayload` and
    `ConnectionDisconnect` carry pairwise distinct sequences; so such a datagram, once
    accepted, is rejected whenever it comes again. -/
theorem receive_guarded_nodup (A : AeadOps) (ds : List (Bytes × ReadArgs)) :
    ((receive A (some ReplayProtection.reset) ds).filterMap guardedSequence).Nodup :=
  (receive_guarded ds ReplayProtection.reset).1

/-- **The window after a `Read`, whatever the AEAD says**: the caller's window, or
    `AlreadyReceived` of the sequence of a datagram whose header read and whose type is
    from `ConnectionKeepAlive` on; and it is the same for every AEAD, so a datagram whose
    tag does not verify moves the window exactly as an authentic one would. -/
theorem readPacket_window (A : AeadOps) (d : Bytes) (args : ReadArgs) (W : ReplayProtection) :
    ((readPacket A d args (some W)).1 = some W ∨
      ∃ rest b s, readPacketHeader d args.packetLen = .ok (rest, b, s) ∧
        connectionKeepAlive ≤ b &&& 0xF ∧
        (readPacket A d args (some W)).1 = some (W.alreadyReceived s).1) ∧
    ∀ A' : AeadOps, (readPacket A' d args (some W)).1 = (readPacket A d args (some W)).1 := by
  refine ⟨?_, fun A' => readPacket_fst_aead A'⟩
  rcases readPacket_fst with h | h
  · exact .inl h
  · rcases decryptPacket_fst W with h' | ⟨rest, b, s, hh, -, ht, h'⟩
    · exact .inl (h.trans h')
    · exact .inr ⟨rest, b, s, hh, ht, h.trans h'⟩

/-- A forged keep-alive with sequence 1000 (its tag is not the AEAD's) is rejected, but
    records 1000 in the window; the authentic keep-alive with that sequence, accepted on
    its own, is then rejected as a replay. -/
theorem forged_keepAlive_blocks_authentic :
    let args : ReadArgs :=
      { packetLen := 27
        protocolId := 0
        currentTimestamp := 0
        readPacketKey := some (List.replicate 32 0)
        privateKey := none
        allowedPackets := List.replicate 7 1 }
    receive Aead.zeroTag.toAeadOps (some ReplayProtection.reset)
        [(36 :: 232 :: 3 :: List.replicate 24 0, args)] =
      [.ok (.keepAlive { sequence := 1000 })] ∧
    receive Aead.zeroTag.toAeadOps (some ReplayProtection.reset)
        [(36 :: 232 :: 3 :: List.replicate 24 1, args), (36 :: 232 :: 3 :: List.replicate 24 0, args)] =
      [.err "ignored encrypted packet. failed to decrypt: AuthFailure",
        .err "ignored connection payload packet. sequence 1000 already received (replay protection)"] := by
  decide

end

end Netcode
