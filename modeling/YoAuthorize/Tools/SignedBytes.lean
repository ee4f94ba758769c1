import YoAuthorize.Backend.LicenseRoundTrip
import YoAuthorize.Tools.Issuer

/-!
# The signed byte strings

A license is signed over a domain, a version, the key id and the payload, each
of variable length behind its size.  The core, the generator and the backend
build these bytes with their own code.  They are the same bytes, and they
determine the key id and the payload; a handshake transcript starts with
another domain.

A signature scheme is relied on for one thing: a signature that was made for
a message verifies for no other message.  The separation of the bytes is then a
separation of the signatures.
-/

namespace YoAuthorize.Tools

open Octets Crypto YoAuthorize.Core Backend

/-- The sizes in front of the key id and the payload separate them. -/
theorem signatureInput_inj {version : UInt16} {leftKeyId rightKeyId left right : Bytes}
    (leftShort : leftKeyId.length ≤ uint16Max) (rightShort : rightKeyId.length ≤ uint16Max)
    (same : signatureInput version leftKeyId left = signatureInput version rightKeyId right) :
    leftKeyId = rightKeyId ∧ left = right := by
  have same := List.append_cancel_left same
  have same := List.append_cancel_left same
  obtain ⟨sizes, same⟩ := u16Bytes_append_inj same
  have lengths : leftKeyId.length = rightKeyId.length := by
    have numbers := congrArg UInt16.toNat sizes
    rw [UInt16.toNat_ofNat_of_lt' (Nat.lt_succ_of_le leftShort),
      UInt16.toNat_ofNat_of_lt' (Nat.lt_succ_of_le rightShort)] at numbers
    exact numbers
  obtain ⟨keyIds, same⟩ := List.append_inj same lengths
  obtain ⟨-, payloads⟩ := List.append_inj same rfl
  exact ⟨keyIds, payloads⟩

/-- The two domains differ before the shorter one ends. -/
theorem signatureInput_ne_transcript (version : UInt16) (keyId payload : Bytes)
    {transcript : HandshakeTranscript} {encoded : Bytes}
    (encodes : encodeTranscript transcript = .ok encoded) :
    signatureInput version keyId payload ≠ encoded := by
  rw [encodeTranscript_ok encodes]
  intro same
  have heads := congrArg (List.take 13) same
  rw [signatureInput, List.take_append_of_le_length (by decide),
    List.take_append_of_le_length (by decide)] at heads
  exact absurd heads (by decide)

/-- The generator and the core build the same bytes. -/
theorem signedBytes_eq (keyId payload : Bytes) :
    signedBytes keyId payload = signatureInput 1 keyId payload :=
  rfl

/-- The backend builds the bytes of the core for every key id and payload in
the sizes it accepts. -/
theorem signingMessage_eq {keyId : String} {payload : Bytes} (nonempty : 1 ≤ (utf8 keyId).length)
    (short : (utf8 keyId).length ≤ uint16Max) (payloadSize : payload.length < 2 ^ 32) :
    signingMessage keyId payload = .ok (signatureInput 1 (utf8 keyId) payload) := by
  refine signingMessage_eq_ok_iff.mpr ⟨?_, short, Nat.le_of_lt_succ payloadSize, rfl⟩
  rintro rfl
  exact absurd nonempty (by decide)

/-- A signature that verifies for the signed message at most. -/
def MadeFor (ssl : OpenSsl) (publicKey : Key) (signed : Bytes) (signature : Signature) : Prop :=
  ∀ message, verifyEd25519 ssl publicKey message signature = .ok () → message = signed

/-- The license inputs of the three programs agree and are injective, the
transcripts are injective, no license input is a transcript, and a signature
made for a license or a transcript verifies for no other license or
transcript. -/
theorem signedBytes_unambiguous :
    (∀ (keyId : String) (payload : Bytes), 1 ≤ (utf8 keyId).length →
      (utf8 keyId).length ≤ uint16Max → payload.length < 2 ^ 32 →
        signingMessage keyId payload = .ok (signatureInput 1 (utf8 keyId) payload)) ∧
    (∀ keyId payload : Bytes, 1 ≤ keyId.length → keyId.length ≤ uint16Max →
      payload.length < 2 ^ 32 → signedBytes keyId payload = signatureInput 1 keyId payload) ∧
    (∀ leftKeyId rightKeyId left right : Bytes, leftKeyId.length ≤ uint16Max →
      rightKeyId.length ≤ uint16Max →
        signatureInput 1 leftKeyId left = signatureInput 1 rightKeyId right →
          leftKeyId = rightKeyId ∧ left = right) ∧
    (∀ (left right : HandshakeTranscript) (encoded : Bytes),
      encodeTranscript left = .ok encoded → encodeTranscript right = .ok encoded →
        left = right) ∧
    (∀ (keyId payload : Bytes) (transcript : HandshakeTranscript) (encoded : Bytes),
      encodeTranscript transcript = .ok encoded → signatureInput 1 keyId payload ≠ encoded) ∧
    ∀ (ssl : OpenSsl) (publicKey : Key) (signature : Signature),
      (∀ keyId payload, keyId.length ≤ uint16Max →
        MadeFor ssl publicKey (signatureInput 1 keyId payload) signature →
          (∀ otherKeyId otherPayload, otherKeyId.length ≤ uint16Max →
            verifyEd25519 ssl publicKey (signatureInput 1 otherKeyId otherPayload) signature =
              .ok () → otherKeyId = keyId ∧ otherPayload = payload) ∧
          ∀ transcript encoded, encodeTranscript transcript = .ok encoded →
            verifyEd25519 ssl publicKey encoded signature ≠ .ok ()) ∧
      ∀ transcript encoded, encodeTranscript transcript = .ok encoded →
        MadeFor ssl publicKey encoded signature →
          (∀ other otherEncoded, encodeTranscript other = .ok otherEncoded →
            verifyEd25519 ssl publicKey otherEncoded signature = .ok () →
              other = transcript) ∧
          ∀ keyId payload,
            verifyEd25519 ssl publicKey (signatureInput 1 keyId payload) signature ≠ .ok () := by
  refine ⟨fun _ _ => signingMessage_eq, fun keyId payload _ _ _ => signedBytes_eq keyId payload,
    fun _ _ _ _ => signatureInput_inj, fun _ _ _ => encodeTranscript_inj,
    fun keyId payload _ _ => signatureInput_ne_transcript 1 keyId payload, ?_⟩
  intro ssl publicKey signature
  refine ⟨?_, ?_⟩
  · intro keyId payload short made
    refine ⟨?_, ?_⟩
    · intro otherKeyId otherPayload otherShort verified
      exact signatureInput_inj otherShort short (made _ verified)
    · intro transcript encoded encodes verified
      exact signatureInput_ne_transcript 1 keyId payload encodes (made _ verified).symm
  · intro transcript encoded encodes made
    refine ⟨?_, ?_⟩
    · intro other otherEncoded otherEncodes verified
      rw [made _ verified] at otherEncodes
      exact encodeTranscript_inj otherEncodes encodes
    · intro keyId payload verified
      exact signatureInput_ne_transcript 1 keyId payload encodes (made _ verified)

end YoAuthorize.Tools
