import PhoneBridge.Crypto.Cert
import PhoneBridge.Crypto.PemReaders

/-!
# The TLS listener

`tls.rs`: the listener reads the certificates and the key out of the texts of the loaded identity with
the readers of the TLS library, which are not those of `cert_loader.rs`.
-/

namespace PhoneBridge.MessageCenter

open Library Crypto

/-- The readers of `rustls_pemfile`, and the check of `rustls` that a key belongs to a chain of
certificates. -/
structure Rustls where
  certs : String → Except String (List (List UInt8))
  privateKey : String → Except String (Option (List UInt8))
  withSingleCert : List (List UInt8) → List UInt8 → Except String Unit

/-- Where a text is what a PEM writer makes of one certificate, that certificate is read. -/
def Rustls.ReadsWritten (rustls : Rustls) : Prop :=
  ∀ (der : List UInt8) (armor : Armor der), der ≠ [] → rustls.certs armor.text = .ok [der]

/-- The text is what a PEM writer makes of the certificate. -/
def Armored (certPem : String) (der : List UInt8) : Prop :=
  der ≠ [] ∧ ∃ armor : Armor der, certPem = armor.text

/-- Serve over HTTPS. The listener presents the chain of the identity, of which this is the first
certificate; `listens` says that the address can be bound. -/
def serveHttps (rustls : Rustls) (listens : Bool) (identity : Identity) :
    Except String (List UInt8) := do
  match ← (rustls.certs identity.certPem).mapError fun _ ↦ "parsing server cert chain" with
  | [] => throw "no certificates found in identity cert PEM"
  | leaf :: chain =>
    match ← (rustls.privateKey identity.keyPem).mapError fun _ ↦ "parsing server private key" with
    | none => throw "no private key in identity key PEM"
    | some key =>
      (rustls.withSingleCert (leaf :: chain) key).mapError fun _ ↦ "invalid cert/key combination"
      if listens then return leaf else throw "axum_server::bind_rustls"

/-- What is presented is the first certificate in the text of the identity. -/
theorem serveHttps_eq_ok {rustls : Rustls} {listens : Bool} {identity : Identity}
    {leaf : List UInt8} (h : serveHttps rustls listens identity = .ok leaf) :
    ∃ chain, rustls.certs identity.certPem = .ok (leaf :: chain) := by
  unfold serveHttps at h
  obtain ⟨certs, hcerts, h⟩ := bind_eq_ok.mp h
  rw [mapError_eq_ok] at hcerts
  split at h
  · cases h
  · next first chain =>
    obtain ⟨key, -, h⟩ := bind_eq_ok.mp h
    split at h
    · cases h
    · obtain ⟨-, -, h⟩ := bind_eq_ok.mp h
      split at h
      · cases h
        exact ⟨chain, hcerts⟩
      · cases h

/-- A key that belongs to the certificates is enough. -/
theorem serveHttps_of_read {rustls : Rustls} {identity : Identity} {leaf key : List UInt8}
    {chain : List (List UInt8)} (hcerts : rustls.certs identity.certPem = .ok (leaf :: chain))
    (hkey : rustls.privateKey identity.keyPem = .ok (some key))
    (hpair : rustls.withSingleCert (leaf :: chain) key = .ok ()) :
    serveHttps rustls true identity = .ok leaf := by
  simp [serveHttps, hcerts, hkey, hpair, Except.mapError, bind, Except.bind, pure, Except.pure]

theorem Armored.readers {certPem : String} {der : List UInt8} (h : Armored certPem der) :
    pemBody certPem "CERTIFICATE" = .ok der ∧ pemToDer certPem = .ok der := by
  obtain ⟨hne, armor, rfl⟩ := h
  exact armor.readers_text hne

theorem Rustls.ReadsWritten.certs {rustls : Rustls} (h : rustls.ReadsWritten) {certPem : String}
    {der : List UInt8} (harmored : Armored certPem der) : rustls.certs certPem = .ok [der] := by
  obtain ⟨hne, armor, rfl⟩ := harmored
  exact h der armor hne

/-! ## A reader for examples -/

/-- It reads the first block of a text, and takes every key for the right one. -/
def sampleRustls : Rustls where
  certs pem := ((pemBody pem "CERTIFICATE").map ([·])).mapError fun _ ↦ "no block"
  privateKey pem := ((pemBody pem "PRIVATE KEY").map some).mapError fun _ ↦ "no block"
  withSingleCert _ _ := .ok ()

theorem sampleRustls_readsWritten : sampleRustls.ReadsWritten := by
  intro der armor hne
  simp [sampleRustls, (armor.readers_text hne).1, Except.map, Except.mapError]

end PhoneBridge.MessageCenter
