import YoAuthorize.Crypto

/-!
# Assumptions on the library

`KeyExchange` holds the functions that every library of a run computes, and
`OpenSsl.Computes` allows a library to fail but not to return anything else.
`CryptoSuite` adds signatures and the cipher, and `OpenSsl.Honest` is a library
whose calls return the values of a suite.  `OpenSsl.Unfailing` only says that no
call fails.  Both are about the sizes that OpenSSL takes; X25519 may refuse a
public key of low order, and `OpenSsl.Agrees` says that it does not.
-/

namespace YoAuthorize.Crypto

open Octets

/-- The functions that every library of a run computes. -/
structure KeyExchange : Type where
  hash : Bytes → Sha256Digest
  dh : Key → Key → Key
  hkdf : Bytes → Bytes → Bytes → (size : Nat) → FixedBytes size
  IsKeyPair : KeyPair → Prop
  agree : ∀ left right, IsKeyPair left → IsKeyPair right →
    dh left.privateKey right.publicKey = dh right.privateKey left.publicKey

/-- The keys that `deriveSessionKeys` computes. -/
def KeyExchange.sessionKeys (exchange : KeyExchange) (sharedSecret : Key)
    (transcriptHash : Sha256Digest) : SessionKeys where
  clientToService :=
    { key := exchange.hkdf sharedSecret.val transcriptHash.val c2sKeyLabel kKeySize
      nonceSalt := exchange.hkdf sharedSecret.val transcriptHash.val c2sNonceLabel kNonceSaltSize }
  serviceToClient :=
    { key := exchange.hkdf sharedSecret.val transcriptHash.val s2cKeyLabel kKeySize
      nonceSalt := exchange.hkdf sharedSecret.val transcriptHash.val s2cNonceLabel kNonceSaltSize }

/-- A library that fails or returns the common values. -/
structure OpenSsl.Computes (ssl : OpenSsl) (exchange : KeyExchange) : Prop where
  hash : ∀ {message digest}, ssl.digestSha256 message = some digest →
    digest = exchange.hash message
  dh : ∀ {privateKey publicKey shared},
    ssl.pkeyDeriveX25519 privateKey publicKey = .ok shared →
      shared = exchange.dh privateKey publicKey
  hkdf : ∀ {key salt info size output}, ssl.kdfDeriveHkdf key salt info size = some output →
    output = exchange.hkdf key salt info size
  keyPair : ∀ {pair}, ssl.keygenX25519 = some pair → exchange.IsKeyPair pair

/-- A key exchange with the signature scheme and the cipher. -/
structure CryptoSuite : Type extends KeyExchange where
  publicKey : Key → Key
  sign : Key → Bytes → Signature
  encrypt : Key → Nonce → Bytes → Bytes → Bytes × Tag
  length_encrypt : ∀ key nonce plaintext aad,
    (encrypt key nonce plaintext aad).1.length = plaintext.length

/-- The longest output of HKDF with SHA-256. -/
def hkdfMax : Nat := 255 * kSha256Size

/-- A library whose calls succeed; verifying and opening, which may only accept
what was signed or sealed before, are stated per message. -/
structure OpenSsl.Honest (ssl : OpenSsl) (suite : CryptoSuite) : Prop where
  random : ∀ size, size ≤ intMax → ∃ bytes, ssl.randPrivBytes size = some bytes
  hash : ∀ message, ssl.digestSha256 message = some (suite.hash message)
  keyPair : ∃ pair, ssl.keygenX25519 = some pair ∧ suite.IsKeyPair pair
  dh : ∀ left right, suite.IsKeyPair left → suite.IsKeyPair right →
    ssl.pkeyDeriveX25519 left.privateKey right.publicKey =
      .ok (suite.dh left.privateKey right.publicKey)
  hkdf : ∀ key salt info size, key ≠ [] → size ≠ 0 → size ≤ hkdfMax →
    ssl.kdfDeriveHkdf key salt info size = some (suite.hkdf key salt info size)
  sign : ∀ key message, ssl.digestSignEd25519 key message = some (suite.sign key message)
  encrypt : ∀ key nonce plaintext aad, plaintext.length ≤ intMax → aad.length ≤ intMax →
    ssl.encryptChaCha20Poly1305 key nonce plaintext aad =
      some (suite.encrypt key nonce plaintext aad)

/-- A library that accepts the suite's signature on a message. -/
def OpenSsl.Verifies (ssl : OpenSsl) (suite : CryptoSuite) (privateKey : Key) (message : Bytes) :
    Prop :=
  ssl.digestVerifyEd25519 (suite.publicKey privateKey) message (suite.sign privateKey message) =
    .ok ()

/-- A key is not empty. -/
theorem Key.ne_nil (key : Key) : key.val ≠ [] := by
  intro empty
  have length := key.2
  rw [empty] at length
  cases length

section Honest

variable {ssl : OpenSsl} {suite : CryptoSuite} (honest : ssl.Honest suite)
include honest

theorem hashTranscript_honest {transcript : HandshakeTranscript} {encoded : Bytes}
    (encode : encodeTranscript transcript = .ok encoded) :
    hashTranscript ssl transcript = .ok (suite.hash encoded) := by
  rw [hashTranscript, encode]
  simp only [sha256, honest.hash]

theorem derive_honest (sharedSecret : Key) (transcriptHash : Sha256Digest) (label : Bytes)
    {size : Nat} (positive : size ≠ 0) (small : size ≤ hkdfMax) :
    derive ssl sharedSecret transcriptHash label size =
      .ok (suite.hkdf sharedSecret.val transcriptHash.val label size) := by
  unfold derive hkdfSha256
  rw [if_neg (not_or.mpr ⟨sharedSecret.ne_nil, positive⟩),
    honest.hkdf _ _ _ _ sharedSecret.ne_nil positive small]

theorem deriveSessionKeys_honest (sharedSecret : Key) (transcriptHash : Sha256Digest) :
    deriveSessionKeys ssl sharedSecret transcriptHash =
      .ok (suite.sessionKeys sharedSecret transcriptHash) := by
  unfold deriveSessionKeys
  rw [derive_honest honest _ _ _ (by decide) (by decide),
    derive_honest honest _ _ _ (by decide) (by decide),
    derive_honest honest _ _ _ (by decide) (by decide),
    derive_honest honest _ _ _ (by decide) (by decide)]
  rfl

theorem sealChaCha20Poly1305_honest (key : Key) (nonce : Nonce) {plaintext aad : Bytes}
    (plaintextSize : plaintext.length ≤ intMax) (aadSize : aad.length ≤ intMax) :
    sealChaCha20Poly1305 ssl key nonce plaintext aad =
      .ok ((suite.encrypt key nonce plaintext aad).1 ++
        (suite.encrypt key nonce plaintext aad).2.val) := by
  unfold sealChaCha20Poly1305 validSize
  rw [decide_eq_true plaintextSize, decide_eq_true aadSize,
    honest.encrypt _ _ _ _ plaintextSize aadSize]
  rfl

end Honest

theorem encodeTranscript_honest (transcript : HandshakeTranscript)
    (nonempty : transcript.serviceKeyId ≠ [])
    (short : transcript.serviceKeyId.length ≤ uint16Max) :
    ∃ encoded, encodeTranscript transcript = .ok encoded :=
  ⟨_, if_neg (not_or.mpr ⟨nonempty, Nat.not_lt.mpr short⟩)⟩

/-! ## Libraries that do not fail -/

/-- A library whose calls do not fail.  It may still refuse a signature, a
ciphertext or a public key. -/
structure OpenSsl.Unfailing (ssl : OpenSsl) : Prop where
  random : ∀ size, size ≤ intMax → ∃ bytes, ssl.randPrivBytes size = some bytes
  hash : ∀ message, ∃ digest, ssl.digestSha256 message = some digest
  sign : ∀ key message, ∃ signature, ssl.digestSignEd25519 key message = some signature
  keyPair : ∃ pair, ssl.keygenX25519 = some pair
  hkdf : ∀ key salt info size, key ≠ [] → size ≠ 0 → size ≤ hkdfMax →
    ∃ output, ssl.kdfDeriveHkdf key salt info size = some output
  encrypt : ∀ key nonce plaintext aad, plaintext.length ≤ intMax → aad.length ≤ intMax →
    ∃ encrypted, ssl.encryptChaCha20Poly1305 key nonce plaintext aad = some encrypted

/-- The library computes a shared secret with a public key, which is then not of
low order. -/
def OpenSsl.Agrees (ssl : OpenSsl) (publicKey : Key) : Prop :=
  ∀ privateKey, ∃ shared, ssl.pkeyDeriveX25519 privateKey publicKey = .ok shared

section

variable {ssl : OpenSsl} (unfailing : ssl.Unfailing)
include unfailing

theorem OpenSsl.Unfailing.derive (sharedSecret : Key) (transcriptHash : Sha256Digest)
    (label : Bytes) (size : Nat) (positive : size ≠ 0) (small : size ≤ hkdfMax) :
    ∃ output, Crypto.derive ssl sharedSecret transcriptHash label size = .ok output := by
  rcases unfailing.hkdf sharedSecret.val transcriptHash.val label size sharedSecret.ne_nil
    positive small with ⟨output, derived⟩
  refine ⟨output, ?_⟩
  unfold Crypto.derive hkdfSha256
  rw [if_neg (not_or.mpr ⟨sharedSecret.ne_nil, positive⟩), derived]

theorem OpenSsl.Unfailing.sessionKeys (sharedSecret : Key) (transcriptHash : Sha256Digest) :
    ∃ keys, deriveSessionKeys ssl sharedSecret transcriptHash = .ok keys := by
  rcases unfailing.derive sharedSecret transcriptHash c2sKeyLabel kKeySize (by decide) (by decide)
    with ⟨c2sKey, derivesC2sKey⟩
  rcases unfailing.derive sharedSecret transcriptHash s2cKeyLabel kKeySize (by decide) (by decide)
    with ⟨s2cKey, derivesS2cKey⟩
  rcases unfailing.derive sharedSecret transcriptHash c2sNonceLabel kNonceSaltSize
    (by decide) (by decide) with ⟨c2sNonce, derivesC2sNonce⟩
  rcases unfailing.derive sharedSecret transcriptHash s2cNonceLabel kNonceSaltSize
    (by decide) (by decide) with ⟨s2cNonce, derivesS2cNonce⟩
  unfold deriveSessionKeys
  rw [derivesC2sKey, derivesS2cKey, derivesC2sNonce, derivesS2cNonce]
  exact ⟨_, rfl⟩

theorem OpenSsl.Unfailing.seal (key : Key) (nonce : Nonce) {plaintext aad : Bytes}
    (plaintextSize : plaintext.length ≤ intMax) (aadSize : aad.length ≤ intMax) :
    ∃ encrypted, sealChaCha20Poly1305 ssl key nonce plaintext aad = .ok encrypted := by
  rcases unfailing.encrypt key nonce plaintext aad plaintextSize aadSize with
    ⟨⟨ciphertext, tag⟩, encrypts⟩
  unfold sealChaCha20Poly1305 validSize
  rw [decide_eq_true plaintextSize, decide_eq_true aadSize, encrypts]
  exact ⟨_, rfl⟩

end

end YoAuthorize.Crypto
