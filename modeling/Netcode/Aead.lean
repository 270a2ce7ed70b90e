import Netcode.Basic

namespace Netcode

/-!
# netcode.io — the AEAD the codec consumes

`EncryptAead` and `DecryptAead` are called by the codec but are not among the
repository's sources; they are modelled from §4.2 of the spec.

* `AeadOps` — the two operations.  `encrypt pt aad nonce key` is the ciphertext with
  its tag; `decrypt ct aad nonce key` is the plaintext, or `none` when authentication
  fails.  The model's `EncryptAead` gives `*message` a fresh ciphertext and leaves the
  array the plaintext was in untouched (§9: "both satisfy the contract").
* `Aead` — the §4.2 contract: decryption under the same aad, nonce and key returns
  the plaintext, and a ciphertext is its plaintext plus `MAC_BYTES`.  `Aead.zeroTag`
  is an instance, so the contract is consistent.
* `AeadOps.OnlyLogged log` — decryption succeeds only on a ciphertext `encrypt`
  produced for one of the logged calls, under the same aad, nonce and key: the
  authentication assumption of the results about forged frames.  `AeadOps.restrict`
  builds an AEAD satisfying it for any log.
-/

/-- Modelled from the spec: `EncryptAead`/`DecryptAead` are not in the repository's
    sources.  The two operations of an AEAD (§4.2). -/
structure AeadOps where
  encrypt : Bytes → Bytes → Bytes → Bytes → Bytes
  decrypt : Bytes → Bytes → Bytes → Bytes → Option Bytes

/-- The §4.2 contract. -/
structure Aead extends AeadOps where
  decrypt_encrypt : ∀ pt ad n k, decrypt (encrypt pt ad n k) ad n k = some pt
  length_encrypt : ∀ pt ad n k, (encrypt pt ad n k).length = pt.length + macBytes
  length_decrypt : ∀ ct ad n k pt, decrypt ct ad n k = some pt → pt.length + macBytes = ct.length

/-- Modelled from the spec: `EncryptAead(&message, additional, nonce, key)`; the spec
    gives it no failure, so `*message` always becomes the ciphertext. -/
def encryptAead (A : AeadOps) (message additional nonce key : Bytes) : Bytes :=
  A.encrypt message additional nonce key

/-- Modelled from the spec: `DecryptAead(message, additional, nonce, key)`; the spec
    names its failure `AuthFailure`. -/
def decryptAead (A : AeadOps) (message additional nonce key : Bytes) : Go Bytes :=
  match A.decrypt message additional nonce key with
  | some pt => .ok pt
  | none => .err "AuthFailure"

/-- DecryptAead returns exactly the plaintext the cipher's open returns. -/
theorem decryptAead_eq_ok {A : AeadOps} {m ad n k pt : Bytes} :
    decryptAead A m ad n k = .ok pt ↔ A.decrypt m ad n k = some pt := by
  unfold decryptAead
  split <;> simp_all

/-- DecryptAead opens what the cipher sealed with the same data, nonce and key. -/
theorem decryptAead_encrypt (A : Aead) (pt ad n k : Bytes) :
    decryptAead A.toAeadOps (A.encrypt pt ad n k) ad n k = .ok pt := by
  rw [decryptAead_eq_ok, A.decrypt_encrypt]

/-! ### An instance of the contract -/

/-- A sixteen-byte all-zero tag. -/
def zeroMac : Bytes := List.replicate macBytes 0

/-- The AEAD that appends a zero tag and checks it: it meets the contract and opens
    nothing but its own ciphertexts. -/
def Aead.zeroTag : Aead where
  encrypt pt _ _ _ := pt ++ zeroMac
  decrypt ct _ _ _ :=
    if ct.length ≥ macBytes ∧ ct.drop (ct.length - macBytes) = zeroMac
    then some (ct.take (ct.length - macBytes)) else none
  decrypt_encrypt pt _ _ _ := by simp [zeroMac]
  length_encrypt pt _ _ _ := by simp [zeroMac]
  length_decrypt ct _ _ _ pt h := by
    simp only at h
    split at h
    · cases h
      simp only [List.length_take]
      omega
    · cases h

/-- Decryption succeeds only on a ciphertext that `encrypt` produced for a logged call
    `(plaintext, aad, nonce, key)`, under that aad, nonce and key. -/
def AeadOps.OnlyLogged (A : AeadOps) (log : List (Bytes × Bytes × Bytes × Bytes)) : Prop :=
  ∀ ct ad n k pt, A.decrypt ct ad n k = some pt → (pt, ad, n, k) ∈ log ∧ ct = A.encrypt pt ad n k

/-- `A`'s encryption, with decryption answering only for the logged calls. -/
def AeadOps.restrict (A : AeadOps) (log : List (Bytes × Bytes × Bytes × Bytes)) : AeadOps where
  encrypt := A.encrypt
  decrypt ct ad n k :=
    (log.find? fun e => e.2 = (ad, n, k) ∧ A.encrypt e.1 ad n k = ct).map (·.1)

/-- A cipher restricted to a log opens only what the log holds. -/
theorem AeadOps.restrict_onlyLogged (A : AeadOps) (log : List (Bytes × Bytes × Bytes × Bytes)) :
    (A.restrict log).OnlyLogged log := by
  intro ct ad n k pt h
  simp only [AeadOps.restrict, Option.map_eq_some'] at h
  obtain ⟨⟨pt', e⟩, hfind, rfl⟩ := h
  have hmem := List.mem_of_find?_eq_some hfind
  have hp := List.find?_some hfind
  simp only [decide_eq_true_eq] at hp
  obtain ⟨rfl, rfl⟩ := hp
  exact ⟨hmem, rfl⟩

/-- The restricted AEAD opens the ciphertext of the first logged call. -/
theorem AeadOps.restrict_decrypt_head (A : AeadOps) (pt ad n k : Bytes)
    (log : List (Bytes × Bytes × Bytes × Bytes)) :
    (A.restrict ((pt, ad, n, k) :: log)).decrypt (A.encrypt pt ad n k) ad n k = some pt := by
  simp [AeadOps.restrict]

end Netcode
