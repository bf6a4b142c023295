import PhoneBridge.Crypto.Cert
import PhoneBridge.Crypto.Pem
import PhoneBridge.Library.Base64
import PhoneBridge.Library.KeyMap
import PhoneBridge.Library.Result
import PhoneBridge.Library.Uuid

/-!
# The identity files

`identity.rs` and `cert_loader.rs`: the message-center keeps one certificate with its key as its
identity and another pair for the TLS listener. Both are loaded when both files of the pair exist,
and generated and written otherwise.
-/

namespace PhoneBridge.MessageCenter

open Library Crypto

/-- The files by path; a missing file has no entry. -/
abbrev Files := KeyMap String String

/-- Why an identity cannot be loaded. -/
inductive IdentityError
  | deviceId
  | pem (error : PemError)
  | noPublicKey
  | cert (error : CertError)
  deriving DecidableEq, Repr

/-- The certificate of a generated identity is readable, and the fingerprint is its own. -/
def IsSelfSigned (sha256 : List UInt8 → Digest) (identity : Identity) : Prop :=
  ∃ der, pemBody identity.certPem "CERTIFICATE" = .ok der ∧
    pemToDer identity.certPem = .ok der ∧ identity.fingerprint = certFingerprint (sha256 der)

/-- What the certificate library generates. -/
abbrev Generated (sha256 : List UInt8 → Digest) :=
  { identity : Identity // IsSelfSigned sha256 identity }

/-- The certificate of a pair of files, when both exist. -/
def storedPair (files : Files) (certPath keyPath : String) : Option (String × String) :=
  match files.get certPath, files.get keyPath with
  | some certPem, some keyPem => some (certPem, keyPem)
  | _, _ => none

/-- Write a pair of files. -/
def writePair (files : Files) (certPath keyPath : String) (identity : Identity) : Files :=
  (files.insert certPath identity.certPem).insert keyPath identity.keyPem

theorem storedPair_eq_some {files : Files} {certPath keyPath certPem keyPem : String} :
    storedPair files certPath keyPath = some (certPem, keyPem) ↔
      files.get certPath = some certPem ∧ files.get keyPath = some keyPem := by
  unfold storedPair
  split
  · next hcert hkey => simp [hcert, hkey]
  · next hneither =>
    constructor
    · rintro ⟨⟩
    · rintro ⟨hcert, hkey⟩
      exact absurd hkey (hneither certPem keyPem hcert)

theorem isSome_get_insert {files : Files} {path written content : String}
    (h : (files.get path).isSome = true) :
    ((files.insert written content).get path).isSome = true := by
  by_cases hpath : path = written
  · simp [hpath]
  · rw [KeyMap.get_insert_of_ne _ _ hpath]
    exact h

section WritePair

variable {files : Files} {certPath keyPath path : String} {identity : Identity}

theorem get_writePair_cert (h : certPath ≠ keyPath) :
    (writePair files certPath keyPath identity).get certPath = some identity.certPem := by
  simp [writePair, h]

theorem isSome_writePair (h : (files.get path).isSome = true) :
    ((writePair files certPath keyPath identity).get path).isSome = true :=
  isSome_get_insert (isSome_get_insert h)

end WritePair

/-! ## identity.rs -/

/-- MessageCenter's persistent identity. -/
structure CenterIdentity where
  deviceId : Uuid
  name : String
  certPem : String
  fingerprint : String
  publicKeyB64 : String
  deriving DecidableEq, Repr

/-- What loading the identity takes from its surroundings. -/
structure IdentityDraws (sha256 : List UInt8 → Digest) where
  newId : Uuid
  hostname : Option String
  etcHostname : Option String
  generated : Except CertError (Generated sha256)

def trimmed (s : String) : String := String.ofList (Text.trimBy Text.isWhiteSpace s.toList)

/-- Nothing is trimmed from a text that has no white space. -/
theorem trimmed_of_no_space {cs : List Char} (h : ∀ c ∈ cs, Text.isWhiteSpace c = false) :
    trimmed (String.ofList cs) = String.ofList cs := by
  rw [trimmed, String.toList_ofList, Text.trimBy_of_clean h]

theorem isWhiteSpace_lower {n : Nat} (h : n < 16) : Text.isWhiteSpace (Hex.lower n) = false := by
  interval_cases n <;> decide

@[simp]
theorem trimmed_toText (id : Uuid) : trimmed id.toText = id.toText := by
  apply trimmed_of_no_space
  intro c hc
  rcases Uuid.mem_hyphenate hc with hdigit | rfl
  · obtain ⟨n, hn, rfl⟩ := Hex.exists_of_mem_digits hdigit
    exact isWhiteSpace_lower hn
  · decide

/-- The first 65 bytes in the DER form that look like an uncompressed point. -/
def findPoint : List UInt8 → Option (List UInt8)
  | first :: second :: rest =>
    if 63 < rest.length then
      let candidate := first :: second :: rest.take 63
      if first = 4 ∧ second ≠ 0 ∧ candidate.any (· ≠ 0) then some candidate
      else findPoint (second :: rest)
    else none
  | _ => none

/-- The public key in the first certificate of a PEM, as base64. -/
def pubkeyFromPem (pem : String) : Except IdentityError String := do
  let der ← (pemBody pem "CERTIFICATE").mapError .pem
  match findPoint der with
  | some point => .ok (Base64.encode point)
  | none => .error .noPublicKey

namespace CenterIdentity

variable {sha256 : List UInt8 → Digest} (dataDir : String)

def deviceIdFile : String := dataDir ++ "/device_id"

def deviceNameFile : String := dataDir ++ "/device_name"

def deviceKeyFile : String := dataDir ++ "/device_key.pem"

def deviceCertFile : String := dataDir ++ "/device_cert.pem"

def loadDeviceId (overrideId : Option Uuid) (draws : IdentityDraws sha256) (files : Files) :
    Except IdentityError Uuid × Files :=
  match overrideId with
  | some id => (.ok id, files.insert (deviceIdFile dataDir) id.toText)
  | none =>
    match files.get (deviceIdFile dataDir) with
    | some s =>
      match Uuid.parse (trimmed s) with
      | some id => (.ok id, files)
      | none => (.error .deviceId, files)
    | none => (.ok draws.newId, files.insert (deviceIdFile dataDir) draws.newId.toText)

def loadName (overrideName : Option String) (draws : IdentityDraws sha256) (files : Files) :
    String × Files :=
  match overrideName with
  | some name => (name, files.insert (deviceNameFile dataDir) name)
  | none =>
    match files.get (deviceNameFile dataDir) with
    | some s => (trimmed s, files)
    | none =>
      let host := (draws.hostname.or (draws.etcHostname.map trimmed)).getD "phonebridge"
      (host, files.insert (deviceNameFile dataDir) host)

/-- Reload the certificate of the identity. -/
def ofPem (sha256 : List UInt8 → Digest) (deviceId : Uuid) (name certPem : String) :
    Except IdentityError CenterIdentity := do
  let fingerprint ← (fingerprintFromPem sha256 certPem).mapError .pem
  let publicKeyB64 ← pubkeyFromPem certPem
  return { deviceId, name, certPem, fingerprint, publicKeyB64 }

/-- Take over a certificate that was just generated. -/
def ofGenerated (deviceId : Uuid) (name : String) (identity : Identity) :
    Except IdentityError CenterIdentity := do
  let publicKeyB64 ← pubkeyFromPem identity.certPem
  return {
    deviceId, name
    certPem := identity.certPem
    fingerprint := identity.fingerprint
    publicKeyB64 }

/-- Load or generate the certificate, once the id and the name are known. -/
def loadCert (deviceId : Uuid) (name : String) (draws : IdentityDraws sha256) (files : Files) :
    Except IdentityError CenterIdentity × Files :=
  match storedPair files (deviceCertFile dataDir) (deviceKeyFile dataDir) with
  | some (certPem, _) => (ofPem sha256 deviceId name certPem, files)
  | none =>
    match draws.generated with
    | .error e => (.error (.cert e), files)
    | .ok identity => (ofGenerated deviceId name identity,
        writePair files (deviceCertFile dataDir) (deviceKeyFile dataDir) identity)

/-- Load or create the message-center identity, persisting it in the data directory. -/
def loadOrCreate (overrideId : Option Uuid) (overrideName : Option String)
    (draws : IdentityDraws sha256) (files : Files) : Except IdentityError CenterIdentity × Files :=
  match loadDeviceId dataDir overrideId draws files with
  | (.error e, files) => (.error e, files)
  | (.ok deviceId, files) =>
    let (name, files) := loadName dataDir overrideName draws files
    loadCert dataDir deviceId name draws files

/-! ## What is on the disk afterwards -/

/-- The id and the name are on the disk, and nothing else has changed. -/
structure Prepared (dataDir : String) (files prepared : Files) : Prop where
  same : ∀ path, path ≠ deviceIdFile dataDir → path ≠ deviceNameFile dataDir →
    prepared.get path = files.get path
  kept : ∀ path, (files.get path).isSome = true → (prepared.get path).isSome = true

section Prepared

variable {dataDir} {overrideId : Option Uuid} {overrideName : Option String}
  {draws : IdentityDraws sha256} {files prepared after : Files}

theorem Prepared.refl : Prepared dataDir files files := ⟨fun _ _ _ ↦ rfl, fun _ h ↦ h⟩

theorem Prepared.insertId (content : String) :
    Prepared dataDir files (files.insert (deviceIdFile dataDir) content) :=
  ⟨fun _ hid _ ↦ KeyMap.get_insert_of_ne _ _ hid, fun _ h ↦ isSome_get_insert h⟩

theorem Prepared.insertName (content : String) :
    Prepared dataDir files (files.insert (deviceNameFile dataDir) content) :=
  ⟨fun _ _ hname ↦ KeyMap.get_insert_of_ne _ _ hname, fun _ h ↦ isSome_get_insert h⟩

theorem Prepared.trans (h : Prepared dataDir files prepared)
    (h' : Prepared dataDir prepared after) : Prepared dataDir files after :=
  ⟨fun path hid hname ↦ (h'.same path hid hname).trans (h.same path hid hname),
    fun path hsome ↦ h'.kept path (h.kept path hsome)⟩

theorem prepared_loadDeviceId :
    Prepared dataDir files (loadDeviceId dataDir overrideId draws files).2 := by
  unfold loadDeviceId
  split
  · exact .insertId _
  · split
    · split <;> exact .refl
    · exact .insertId _

theorem prepared_loadName :
    Prepared dataDir files (loadName dataDir overrideName draws files).2 := by
  unfold loadName
  split
  · exact .insertName _
  · split
    · exact .refl
    · exact .insertName _

/-- The certificate is loaded from a disk with the same pair of files. -/
theorem loadOrCreate_eq_ok {identity : CenterIdentity}
    (h : loadOrCreate dataDir overrideId overrideName draws files = (.ok identity, after)) :
    ∃ deviceId name prepared, Prepared dataDir files prepared ∧
      loadCert dataDir deviceId name draws prepared = (.ok identity, after) := by
  have hid : Prepared dataDir files (loadDeviceId dataDir overrideId draws files).2 :=
    prepared_loadDeviceId
  unfold loadOrCreate at h
  split at h
  · cases h
  · next deviceId first hfirst =>
    rw [hfirst] at hid
    exact ⟨deviceId, _, _, hid.trans prepared_loadName, h⟩

/-- The pair of identity files is neither the id nor the name. -/
theorem Prepared.storedPair (h : Prepared dataDir files prepared) :
    storedPair prepared (deviceCertFile dataDir) (deviceKeyFile dataDir) =
      storedPair files (deviceCertFile dataDir) (deviceKeyFile dataDir) := by
  have hcert : prepared.get (deviceCertFile dataDir) = files.get (deviceCertFile dataDir) :=
    h.same _ (by simp [deviceCertFile, deviceIdFile]) (by simp [deviceCertFile, deviceNameFile])
  have hkey : prepared.get (deviceKeyFile dataDir) = files.get (deviceKeyFile dataDir) :=
    h.same _ (by simp [deviceKeyFile, deviceIdFile]) (by simp [deviceKeyFile, deviceNameFile])
  simp only [MessageCenter.storedPair, hcert, hkey]

end Prepared

section Loading

variable {dataDir} {deviceId : Uuid} {name certPem keyPem : String} {draws : IdentityDraws sha256}
  {files after : Files} {identity : CenterIdentity}

/-- A reloaded certificate goes by its own fingerprint. -/
theorem ofPem_eq_ok (h : ofPem sha256 deviceId name certPem = .ok identity) :
    identity.deviceId = deviceId ∧ identity.name = name ∧ identity.certPem = certPem ∧
      ∃ der, pemBody certPem "CERTIFICATE" = .ok der ∧
        identity.fingerprint = certFingerprint (sha256 der) := by
  simp only [ofPem, fingerprintFromPem, bind_eq_ok, mapError_eq_ok, map_eq_ok] at h
  obtain ⟨fingerprint, ⟨der, hder, rfl⟩, publicKey, -, hidentity⟩ := h
  cases hidentity
  exact ⟨rfl, rfl, rfl, der, hder, rfl⟩

/-- A certificate that was just generated goes by the fingerprint it was generated with. -/
theorem ofGenerated_eq_ok {generated : Identity}
    (h : ofGenerated deviceId name generated = .ok identity) :
    identity.deviceId = deviceId ∧ identity.name = name ∧
      identity.certPem = generated.certPem ∧ identity.fingerprint = generated.fingerprint := by
  simp only [ofGenerated, bind_eq_ok] at h
  obtain ⟨publicKey, -, hidentity⟩ := h
  cases hidentity
  exact ⟨rfl, rfl, rfl, rfl⟩

/-- An identity that is on the disk is loaded under its own fingerprint. -/
theorem loadCert_of_stored
    (hstored : MessageCenter.storedPair files (deviceCertFile dataDir) (deviceKeyFile dataDir) =
      some (certPem, keyPem))
    (hload : loadCert dataDir deviceId name draws files = (.ok identity, after)) :
    after = files ∧ identity.certPem = certPem ∧
      ∃ der, pemBody certPem "CERTIFICATE" = .ok der ∧
        identity.fingerprint = certFingerprint (sha256 der) := by
  simp only [loadCert, hstored, Prod.mk.injEq] at hload
  obtain ⟨hidentity, rfl⟩ := hload
  obtain ⟨-, -, hpem, hown⟩ := ofPem_eq_ok hidentity
  exact ⟨rfl, hpem, hown⟩

/-- An identity that is not on the disk is generated and written. -/
theorem loadCert_of_missing
    (hmissing : MessageCenter.storedPair files (deviceCertFile dataDir) (deviceKeyFile dataDir) =
      none)
    (hload : loadCert dataDir deviceId name draws files = (.ok identity, after)) :
    ∃ generated, draws.generated = .ok generated ∧ identity.certPem = generated.1.certPem ∧
      identity.fingerprint = generated.1.fingerprint ∧
      after = writePair files (deviceCertFile dataDir) (deviceKeyFile dataDir) generated := by
  simp only [loadCert, hmissing] at hload
  split at hload
  · cases hload
  · next generated hgenerated =>
    rw [Prod.mk.injEq] at hload
    obtain ⟨hidentity, rfl⟩ := hload
    obtain ⟨-, -, hpem, hfingerprint⟩ := ofGenerated_eq_ok hidentity
    exact ⟨generated, hgenerated, hpem, hfingerprint, rfl⟩

end Loading

end CenterIdentity

/-! ## cert_loader.rs -/

/-- Load an existing TLS identity, or generate a fresh one and persist it. -/
def loadOrGenerate {sha256 : List UInt8 → Digest} (certPath keyPath : String)
    (generated : Except CertError (Generated sha256)) (files : Files) :
    Except IdentityError Identity × Files :=
  match storedPair files certPath keyPath with
  | some (certPem, keyPem) =>
    (((pemToDer certPem).mapError .pem).map fun der ↦
      { certPem, keyPem, fingerprint := certFingerprint (sha256 der) }, files)
  | none =>
    match generated with
    | .error e => (.error (.cert e), files)
    | .ok identity => (.ok identity, writePair files certPath keyPath identity)

/-- A TLS identity that is on the disk is loaded under its own fingerprint. -/
theorem loadOrGenerate_of_stored {sha256 : List UInt8 → Digest}
    {certPath keyPath certPem keyPem : String} {generated : Except CertError (Generated sha256)}
    {files after : Files} {tls : Identity}
    (hstored : storedPair files certPath keyPath = some (certPem, keyPem))
    (hload : loadOrGenerate certPath keyPath generated files = (.ok tls, after)) :
    tls.certPem = certPem ∧ ∃ der, pemToDer certPem = .ok der ∧
      tls.fingerprint = certFingerprint (sha256 der) := by
  simp only [loadOrGenerate, hstored, Prod.mk.injEq] at hload
  obtain ⟨htls, -⟩ := hload
  cases hder : pemToDer certPem with
  | error e => simp [hder, Except.map, Except.mapError] at htls
  | ok der =>
    simp only [hder, Except.map, Except.mapError, Except.ok.injEq] at htls
    exact ⟨by rw [← htls], der, rfl, by rw [← htls]⟩

end PhoneBridge.MessageCenter
