import PhoneBridge.Crypto.Fingerprint

/-!
# Certificates

The self-signed identity of a side: its certificate, its private key and the fingerprint of the
certificate. Generating one is the certificate library's work.
-/

namespace PhoneBridge.Crypto

open Library

/-- Generated keypair + self-signed cert bundle. -/
structure Identity where
  certPem : String
  keyPem : String
  fingerprint : String
  deriving DecidableEq, Repr

/-- Errors from cert generation. -/
inductive CertError
  | generate (reason : String)
  deriving DecidableEq, Repr

def CertError.message : CertError → String
  | .generate reason => s!"cert generation failed: {reason}"

/-- The marker that every PEM certificate starts with. -/
def pemMarker : String := "BEGIN CERTIFICATE"

/-- A PEM certificate with the fingerprint of some digest. -/
def IsCertificate (certPem fingerprint : String) : Prop :=
  Text.contains certPem pemMarker = true ∧ ∃ digest, fingerprint = certFingerprint digest

theorem IsCertificate.parses {certPem fingerprint : String}
    (h : IsCertificate certPem fingerprint) : ∃ bytes, parseFingerprint fingerprint = .ok bytes := by
  obtain ⟨-, digest, rfl⟩ := h
  exact ⟨_, parseFingerprint_certFingerprint digest⟩

/-- A digest function for examples. -/
def sampleSha256 (_ : List UInt8) : Digest where
  bytes := List.replicate 32 0xAB
  length_eq := rfl

/-- A well-formed identity for examples. -/
def sampleIdentity : Identity where
  certPem := "-----BEGIN CERTIFICATE-----"
  keyPem := ""
  fingerprint := certFingerprint { bytes := List.replicate 32 0xAB, length_eq := rfl }

end PhoneBridge.Crypto
