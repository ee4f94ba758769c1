import YoAuthorize.Lib.Octets

/-!
# Cryptographic operations and the handshake transcript

`OpenSsl` holds the library calls that `crypto.cpp` makes; the wrappers below
add the size checks and error codes of that file.  A wrapper takes the library
as a parameter, so that one call of the program can be run against a library
that fails at that call and succeeds at the next.

The second half is `handshake.cpp` of the crypto module: the signed transcript,
the session keys derived from it and the record nonce.  `encodeTranscript_inj`
says that the signed bytes determine every transcript field.
-/

namespace YoAuthorize.Crypto

open Octets

/-- The sizes of `crypto.h`. -/
def kKeySize : Nat := 32
def kNonceSize : Nat := 12
def kTagSize : Nat := 16
def kSignatureSize : Nat := 64
def kSha256Size : Nat := 32
def kNonceSaltSize : Nat := 4

/-- An Ed25519 or X25519 key, a shared secret, a nonce of a hello or a key of a record layer. -/
abbrev Key : Type := FixedBytes kKeySize
/-- The nonce of one record. -/
abbrev Nonce : Type := FixedBytes kNonceSize
/-- What ChaCha20-Poly1305 appends to a ciphertext. -/
abbrev Tag : Type := FixedBytes kTagSize
abbrev Signature : Type := FixedBytes kSignatureSize
abbrev Sha256Digest : Type := FixedBytes kSha256Size
abbrev NonceSalt : Type := FixedBytes kNonceSaltSize

/-- `enum class CryptoError`. -/
inductive CryptoError : Type
  | invalidInput
  | randomFailed
  | keyGenerationFailed
  | derivationFailed
  | signatureFailed
  | invalidSignature
  | encryptionFailed
  | authenticationFailed
  deriving DecidableEq, Repr

abbrev CryptoResult (α : Type) : Type := Except CryptoError α

/-- An X25519 key pair, made for one handshake. -/
structure KeyPair : Type where
  privateKey : Key := .zeros kKeySize
  publicKey : Key := .zeros kKeySize
  deriving DecidableEq

/-- The OpenSSL calls behind `crypto.cpp`; `none` is a call that failed.  The
two operations whose wrappers tell two failures apart return the wrapper's
error code. -/
structure OpenSsl : Type where
  randPrivBytes : (size : Nat) → Option (FixedBytes size)
  digestSha256 : Bytes → Option Sha256Digest
  digestSignEd25519 : Key → Bytes → Option Signature
  digestVerifyEd25519 : Key → Bytes → Signature → CryptoResult Unit
  keygenX25519 : Option KeyPair
  pkeyDeriveX25519 : Key → Key → CryptoResult Key
  kdfDeriveHkdf : Bytes → Bytes → Bytes → (size : Nat) → Option (FixedBytes size)
  encryptChaCha20Poly1305 : Key → Nonce → Bytes → Bytes → Option (Bytes × Tag)
  decryptChaCha20Poly1305 : Key → Nonce → Bytes → Tag → Bytes → Option Bytes

section Wrappers

variable (ssl : OpenSsl)

/-- OpenSSL takes its lengths as `int`. -/
def intMax : Nat := 2147483647

def validSize (size : Nat) : Bool := size ≤ intMax

/-- Refuses a size of 0 before OpenSSL is asked. -/
def randomBytes (size : Nat) : CryptoResult (FixedBytes size) :=
  if size = 0 ∨ !validSize size then .error .invalidInput
  else
    match ssl.randPrivBytes size with
    | none => .error .randomFailed
    | some output => .ok output

/-- What `OPENSSL_cleanse` leaves in an array. -/
def cleanse {size : Nat} (_ : FixedBytes size) : FixedBytes size := .zeros size

def sha256 (input : Bytes) : CryptoResult Sha256Digest :=
  match ssl.digestSha256 input with
  | none => .error .derivationFailed
  | some digest => .ok digest

def signEd25519 (privateKey : Key) (message : Bytes) : CryptoResult Signature :=
  match ssl.digestSignEd25519 privateKey message with
  | none => .error .signatureFailed
  | some signature => .ok signature

/-- A signature that does not match is told apart from a call that fails. -/
def verifyEd25519 (publicKey : Key) (message : Bytes) (signature : Signature) :
    CryptoResult Unit :=
  ssl.digestVerifyEd25519 publicKey message signature

/-- A fresh pair at every call: the model takes the library anew for each. -/
def generateX25519KeyPair : CryptoResult KeyPair :=
  match ssl.keygenX25519 with
  | none => .error .keyGenerationFailed
  | some pair => .ok pair

/-- Fails for a peer key of low order, for which OpenSSL refuses the all-zero secret. -/
def deriveX25519 (privateKey peerPublicKey : Key) : CryptoResult Key :=
  ssl.pkeyDeriveX25519 privateKey peerPublicKey

/-- Refuses an empty key and an empty output before OpenSSL is asked. -/
def hkdfSha256 (key salt info : Bytes) (outputSize : Nat) :
    CryptoResult (FixedBytes outputSize) :=
  if key = [] ∨ outputSize = 0 then .error .invalidInput
  else
    match ssl.kdfDeriveHkdf key salt info outputSize with
    | none => .error .derivationFailed
    | some output => .ok output

/-- The tag follows the ciphertext. -/
def sealChaCha20Poly1305 (key : Key) (nonce : Nonce) (plaintext aad : Bytes) :
    CryptoResult Bytes :=
  if !validSize plaintext.length ∨ !validSize aad.length then .error .invalidInput
  else
    match ssl.encryptChaCha20Poly1305 key nonce plaintext aad with
    | none => .error .encryptionFailed
    | some (ciphertext, tag) => .ok (ciphertext ++ tag.val)

/-- The last `kTagSize` bytes of a sealed record. -/
def lastTag (ciphertextAndTag : Bytes) (long : ¬ ciphertextAndTag.length < kTagSize) : Tag :=
  ⟨ciphertextAndTag.drop (ciphertextAndTag.length - kTagSize), by
    rw [List.length_drop]
    omega⟩

/-- Anything shorter than a tag is invalid input; a tag that does not match gives no plaintext. -/
def openChaCha20Poly1305 (key : Key) (nonce : Nonce) (ciphertextAndTag aad : Bytes) :
    CryptoResult Bytes :=
  if short : ciphertextAndTag.length < kTagSize then .error .invalidInput
  else if !validSize (ciphertextAndTag.length - kTagSize) ∨ !validSize aad.length then
    .error .invalidInput
  else
    let ciphertext := ciphertextAndTag.take (ciphertextAndTag.length - kTagSize)
    match ssl.decryptChaCha20Poly1305 key nonce ciphertext (lastTag ciphertextAndTag short) aad with
    | none => .error .authenticationFailed
    | some plaintext => .ok plaintext

end Wrappers

/-! ## Transcript, session keys and record nonces -/

/-- Keeps signed transcripts apart from anything else that the key signs. -/
def kDomain : Bytes := ofAscii "YOAUTHORIZE-SERVICE-HANDSHAKE-V1"

/-- What both hellos say: the offered and the selected version, the nonces, the public keys and
the name of the service key. -/
structure HandshakeTranscript : Type where
  minVersion : UInt16
  maxVersion : UInt16
  selectedVersion : UInt16
  clientNonce : Key
  serverNonce : Key
  clientPublicKey : Key
  serverPublicKey : Key
  serviceKeyId : Bytes
  deriving DecidableEq

/-- The key of one direction, with the salt of its nonces. -/
structure DirectionalKey : Type where
  key : Key := .zeros kKeySize
  nonceSalt : NonceSalt := .zeros kNonceSaltSize
  deriving DecidableEq

/-- The keys of a connection. -/
structure SessionKeys : Type where
  clientToService : DirectionalKey
  serviceToClient : DirectionalKey
  deriving DecidableEq

/-- `appendU16`: the two bytes appended. -/
def appendU16 (value : UInt16) : Bytes := u16Bytes value

/-- `appendSizedString`: the length is narrowed to 16 bits. -/
def appendSizedString (value : Bytes) : Bytes :=
  appendU16 (UInt16.ofNat value.length) ++ value

def uint16Max : Nat := 65535

/-- The bytes that the service signs and both sides hash. -/
def encodeTranscript (transcript : HandshakeTranscript) : CryptoResult Bytes :=
  if transcript.serviceKeyId = [] ∨ transcript.serviceKeyId.length > uint16Max then
    .error .invalidInput
  else
    .ok (kDomain ++ appendU16 transcript.minVersion ++ appendU16 transcript.maxVersion ++
      appendU16 transcript.selectedVersion ++ transcript.clientNonce.val ++
      transcript.serverNonce.val ++ transcript.clientPublicKey.val ++
      transcript.serverPublicKey.val ++ appendSizedString transcript.serviceKeyId)

/-- Ties the session keys to the transcript. -/
def hashTranscript (ssl : OpenSsl) (transcript : HandshakeTranscript) :
    CryptoResult Sha256Digest :=
  match encodeTranscript transcript with
  | .error error => .error error
  | .ok encoded => sha256 ssl encoded

/-- The HKDF labels, one for each output. -/
def c2sKeyLabel : Bytes := ofAscii "YA-V1-C2S-KEY"
def s2cKeyLabel : Bytes := ofAscii "YA-V1-S2C-KEY"
def c2sNonceLabel : Bytes := ofAscii "YA-V1-C2S-NONCE"
def s2cNonceLabel : Bytes := ofAscii "YA-V1-S2C-NONCE"

/-- One output of `HKDF(shared secret, transcript hash, label)`. -/
def derive (ssl : OpenSsl) (sharedSecret : Key) (transcriptHash : Sha256Digest) (label : Bytes)
    (size : Nat) : CryptoResult (FixedBytes size) :=
  hkdfSha256 ssl sharedSecret.val transcriptHash.val label size

/-- All four outputs or none. -/
def deriveSessionKeys (ssl : OpenSsl) (sharedSecret : Key) (transcriptHash : Sha256Digest) :
    CryptoResult SessionKeys :=
  match derive ssl sharedSecret transcriptHash c2sKeyLabel kKeySize,
      derive ssl sharedSecret transcriptHash s2cKeyLabel kKeySize,
      derive ssl sharedSecret transcriptHash c2sNonceLabel kNonceSaltSize,
      derive ssl sharedSecret transcriptHash s2cNonceLabel kNonceSaltSize with
  | .ok c2sKey, .ok s2cKey, .ok c2sNonce, .ok s2cNonce =>
      .ok { clientToService := { key := c2sKey, nonceSalt := c2sNonce }
            serviceToClient := { key := s2cKey, nonceSalt := s2cNonce } }
  | _, _, _, _ => .error .derivationFailed

/-- The salt followed by the sequence number, so that no key is used twice with one nonce. -/
def makeRecordNonce (salt : NonceSalt) (sequence : UInt64) : Nonce :=
  ⟨salt.val ++ u64Bytes sequence, by
    rw [List.length_append, salt.2, length_u64Bytes]
    rfl⟩

/-! ## Injectivity -/

/-- Two record nonces agree only on the same salt and sequence number. -/
theorem makeRecordNonce_inj {leftSalt rightSalt : NonceSalt} {left right : UInt64}
    (same : makeRecordNonce leftSalt left = makeRecordNonce rightSalt right) :
    leftSalt = rightSalt ∧ left = right := by
  have bytes : leftSalt.val ++ u64Bytes left = rightSalt.val ++ u64Bytes right :=
    congrArg Subtype.val same
  obtain ⟨salt, sequence⟩ := FixedBytes.append_inj bytes
  exact ⟨salt, u64Bytes_inj sequence⟩

/-- The encoded transcript, field by field. -/
theorem encodeTranscript_ok {transcript : HandshakeTranscript} {encoded : Bytes}
    (encode : encodeTranscript transcript = .ok encoded) :
    encoded = kDomain ++ (u16Bytes transcript.minVersion ++ (u16Bytes transcript.maxVersion ++
      (u16Bytes transcript.selectedVersion ++ (transcript.clientNonce.val ++
      (transcript.serverNonce.val ++ (transcript.clientPublicKey.val ++
      (transcript.serverPublicKey.val ++
        (u16Bytes (UInt16.ofNat transcript.serviceKeyId.length) ++
          transcript.serviceKeyId)))))))) := by
  unfold encodeTranscript at encode
  split at encode
  · cases encode
  · cases encode
    simp only [appendU16, appendSizedString, List.append_assoc]

/-- The signed bytes determine the transcript. -/
theorem encodeTranscript_inj {left right : HandshakeTranscript} {encoded : Bytes}
    (leftEncode : encodeTranscript left = .ok encoded)
    (rightEncode : encodeTranscript right = .ok encoded) : left = right := by
  have same := (encodeTranscript_ok leftEncode).symm.trans (encodeTranscript_ok rightEncode)
  have same := List.append_cancel_left same
  obtain ⟨minVersion, same⟩ := u16Bytes_append_inj same
  obtain ⟨maxVersion, same⟩ := u16Bytes_append_inj same
  obtain ⟨selectedVersion, same⟩ := u16Bytes_append_inj same
  obtain ⟨clientNonce, same⟩ := FixedBytes.append_inj same
  obtain ⟨serverNonce, same⟩ := FixedBytes.append_inj same
  obtain ⟨clientPublicKey, same⟩ := FixedBytes.append_inj same
  obtain ⟨serverPublicKey, same⟩ := FixedBytes.append_inj same
  obtain ⟨-, serviceKeyId⟩ := u16Bytes_append_inj same
  cases left
  cases right
  simp only [HandshakeTranscript.mk.injEq]
  exact ⟨minVersion, maxVersion, selectedVersion, clientNonce, serverNonce, clientPublicKey,
    serverPublicKey, serviceKeyId⟩

end YoAuthorize.Crypto
