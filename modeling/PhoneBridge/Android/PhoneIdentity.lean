import PhoneBridge.Android.PairingMachine
import PhoneBridge.Crypto.Certificate
import PhoneBridge.Crypto.PemReaders
import PhoneBridge.Library.GetOrCreate

/-!
# The identity of the phone

The two getters of `PrefsRepository.kt` with the certificate of `CertGen.kt`. The keypair lives in
the Keystore, the certificate with its fingerprint and the device id in the preferences, and each
getter caches what it has found. A call is cut at its accesses to the Keystore and the preferences.
-/

namespace PhoneBridge.Android

open Library GetOrCreate Crypto

/-! ## The certificate -/

/-- What `CertGen` hands to the certificate builder. -/
structure CertRequest where
  name : String
  serial : Nat
  notBefore : Int64
  notAfter : Int64
  keyPair : KeyPair

/-- The parts of the platform that write and read certificates. -/
structure CertPlatform where
  /-- The DER form of the certificate with the signature that is drawn. -/
  build : CertRequest → List UInt8 → List UInt8
  /-- `JcaPEMWriter` -/
  armor : (der : List UInt8) → Armor der
  /-- `CertificateFactory.generateCertificate` with the elliptic curve key of the result -/
  readPublicKey : String → Option EcPoint
  build_ne_nil : ∀ request signature, build request signature ≠ []
  /-- A certificate that was built is read with its key. -/
  reads : ∀ request signature,
    readPublicKey (armor (build request signature)).text = some request.keyPair.point

structure SelfSignedCert where
  pem : String
  fingerprint : String

/-- The moment and the signature of a certificate. -/
structure CertDraws where
  now : Int64
  signature : List UInt8

section CertGen

variable (sha256 : List UInt8 → Digest) (platform : CertPlatform)

/-- The serial number is taken from the public key. -/
def serialOf (keyPair : KeyPair) : Nat :=
  let serial := Bytes.ofBe (sha256 keyPair.point.uncompressedBytes).bytes
  if serial = 0 then 1 else serial

def validityDays : Int64 := 3650

def certRequest (commonName : String) (keyPair : KeyPair) (now : Int64) : CertRequest where
  name := "CN=" ++ commonName
  serial := serialOf sha256 keyPair
  notBefore := now
  notAfter := now + validityDays * 24 * 3600 * 1000
  keyPair := keyPair

/-- Generate a self-signed P-256 certificate. -/
def generateSelfSigned (commonName : String) (keyPair : KeyPair) (draws : CertDraws) :
    SelfSignedCert :=
  let der := platform.build (certRequest sha256 commonName keyPair draws.now) draws.signature
  { pem := (platform.armor der).text, fingerprint := certFingerprint (sha256 der) }

/-- The fingerprint is the one that the center computes from the text. -/
def OwnFingerprint (pem fingerprint : String) : Prop :=
  (fingerprintFromPem sha256 pem).toOption = some fingerprint

theorem readPublicKey_generateSelfSigned (commonName : String) (keyPair : KeyPair)
    (draws : CertDraws) :
    platform.readPublicKey (generateSelfSigned sha256 platform commonName keyPair draws).pem =
      some keyPair.point :=
  platform.reads _ _

theorem ownFingerprint_generateSelfSigned (commonName : String) (keyPair : KeyPair)
    (draws : CertDraws) :
    let cert := generateSelfSigned sha256 platform commonName keyPair draws
    OwnFingerprint sha256 cert.pem cert.fingerprint := by
  have hbody := ((platform.armor _).readers_text (platform.build_ne_nil
    (certRequest sha256 commonName keyPair draws.now) draws.signature)).1
  simp only [OwnFingerprint, generateSelfSigned, fingerprintFromPem, hbody]
  rfl

end CertGen

/-! ## The keypair and its certificate -/

/-- What outlives the process. -/
structure IdentityStorage where
  /-- the Keystore entry under `KEY_ALIAS` -/
  keystore : Option KeyPair := none
  identityPem : Option String := none
  identityFingerprint : Option String := none

namespace IdentityStorage

def saveCert (storage : IdentityStorage) (cert : SelfSignedCert) : IdentityStorage :=
  { storage with identityPem := some cert.pem, identityFingerprint := some cert.fingerprint }

def loadCert (storage : IdentityStorage) : Option SelfSignedCert := do
  let pem ← storage.identityPem
  let fingerprint ← storage.identityFingerprint
  return { pem, fingerprint }

end IdentityStorage

/-- What a call of `getOrCreateIdentityBlocking` does next. -/
inductive IdentityCall
  | containsAlias (commonName : String)
  | getEntry (commonName : String)
  | loadCert (commonName : String) (keyPair : KeyPair)
  | generateKeyPair (commonName : String)
  | saveCert (keyPair : KeyPair) (cert : SelfSignedCert)

structure IdentityDraws where
  keyPair : KeyPair
  cert : CertDraws

section Identity

variable (sha256 : List UInt8 → Digest) (platform : CertPlatform)

def certMatchesPub (pem : String) (expectedPub : EcPoint) : Bool :=
  match platform.readPublicKey pem with
  | none => false
  | some actual => actual.x = expectedPub.x && actual.y = expectedPub.y

def withCert (keyPair : KeyPair) (cert : SelfSignedCert) : IdentityWithKey :=
  { keyPair, pem := cert.pem, fingerprint := cert.fingerprint }

/-- One access of a call. A generated keypair replaces the one under the alias. -/
def IdentityCall.advance (draws : IdentityDraws) (storage : IdentityStorage) :
    IdentityCall → IdentityStorage × (IdentityCall ⊕ IdentityWithKey)
  | .containsAlias commonName =>
    (storage, .inl (if storage.keystore.isSome then .getEntry commonName
      else .generateKeyPair commonName))
  | .getEntry commonName =>
    -- nothing removes the entry, so it is there once the alias has been found
    (storage, .inl (match storage.keystore with
      | some keyPair => .loadCert commonName keyPair
      | none => .getEntry commonName))
  | .loadCert commonName keyPair =>
    match storage.loadCert with
    | some stored =>
      if certMatchesPub platform stored.pem keyPair.point then
        (storage, .inr (withCert keyPair stored))
      else
        (storage, .inl (.saveCert keyPair
          (generateSelfSigned sha256 platform commonName keyPair draws.cert)))
    | none =>
      (storage, .inl (.saveCert keyPair
        (generateSelfSigned sha256 platform commonName keyPair draws.cert)))
  | .generateKeyPair commonName =>
    ({ storage with keystore := some draws.keyPair }, .inl (.saveCert draws.keyPair
      (generateSelfSigned sha256 platform commonName draws.keyPair draws.cert)))
  | .saveCert keyPair cert => (storage.saveCert cert, .inr (withCert keyPair cert))

def getOrCreateIdentity :
    Getter String IdentityStorage IdentityCall IdentityDraws IdentityWithKey where
  start := .containsAlias
  advance := IdentityCall.advance sha256 platform

end Identity

@[simp]
theorem advance_getOrCreateIdentity (sha256 : List UInt8 → Digest) (platform : CertPlatform) :
    (getOrCreateIdentity sha256 platform).advance = IdentityCall.advance sha256 platform := rfl

section Rules

variable {sha256 : List UInt8 → Digest} {platform : CertPlatform} {draws : IdentityDraws}
  {storage : IdentityStorage} {commonName : String} {keyPair : KeyPair} {cert : SelfSignedCert}

theorem certMatchesPub_iff {pem : String} {point : EcPoint} :
    certMatchesPub platform pem point = true ↔ platform.readPublicKey pem = some point := by
  unfold certMatchesPub
  split
  · next hread => simp [hread]
  · next actual hread =>
    rw [hread, Option.some.injEq, Bool.and_eq_true, decide_eq_true_eq, decide_eq_true_eq]
    constructor
    · rintro ⟨hx, hy⟩
      exact EcPoint.mk.injEq .. ▸ ⟨hx, hy⟩
    · rintro rfl
      exact ⟨rfl, rfl⟩

/-- The certificate is one for the keypair, with its own fingerprint. -/
structure Certifies (sha256 : List UInt8 → Digest) (platform : CertPlatform) (keyPair : KeyPair)
    (cert : SelfSignedCert) : Prop where
  key : platform.readPublicKey cert.pem = some keyPair.point
  fingerprint : OwnFingerprint sha256 cert.pem cert.fingerprint

theorem certifies_generateSelfSigned (commonName : String) (keyPair : KeyPair)
    (draws : CertDraws) : Certifies sha256 platform keyPair
      (generateSelfSigned sha256 platform commonName keyPair draws) where
  key := readPublicKey_generateSelfSigned sha256 platform commonName keyPair draws
  fingerprint := ownFingerprint_generateSelfSigned sha256 platform commonName keyPair draws

/-- What a call does that has the keypair and looks for its certificate. -/
theorem advance_loadCert (sha256 : List UInt8 → Digest) (platform : CertPlatform)
    (draws : IdentityDraws) (storage : IdentityStorage) (commonName : String) (keyPair : KeyPair) :
    (∃ stored, storage.loadCert = some stored ∧
        platform.readPublicKey stored.pem = some keyPair.point ∧
        IdentityCall.advance sha256 platform draws storage (.loadCert commonName keyPair) =
          (storage, .inr (withCert keyPair stored))) ∨
      (∀ stored, storage.loadCert = some stored →
          platform.readPublicKey stored.pem ≠ some keyPair.point) ∧
        IdentityCall.advance sha256 platform draws storage (.loadCert commonName keyPair) =
          (storage, .inl (.saveCert keyPair
            (generateSelfSigned sha256 platform commonName keyPair draws.cert))) := by
  cases hload : storage.loadCert with
  | none =>
    refine .inr ⟨fun stored hstored ↦ (by cases hstored), ?_⟩
    rw [IdentityCall.advance, hload]
  | some stored =>
    by_cases hmatches : certMatchesPub platform stored.pem keyPair.point = true
    · refine .inl ⟨stored, rfl, certMatchesPub_iff.mp hmatches, ?_⟩
      simp only [IdentityCall.advance, hload, if_pos hmatches]
    · refine .inr ⟨fun other hother hread ↦ ?_, ?_⟩
      · cases hother
        exact hmatches (certMatchesPub_iff.mpr hread)
      · simp only [IdentityCall.advance, hload, if_neg hmatches]

end Rules

/-! ## What the getter returns -/

instance : Inhabited IdentityWithKey := ⟨sampleStore.identity⟩

def IdentityWithKey.cert (identity : IdentityWithKey) : SelfSignedCert where
  pem := identity.pem
  fingerprint := identity.fingerprint

/-- Every identity has the certificate of its key, and the fingerprint of that certificate. -/
theorem identity_keeps (sha256 : List UInt8 → Digest) (platform : CertPlatform) :
    (getOrCreateIdentity sha256 platform).Keeps
      (fun storage ↦ ∀ cert, storage.loadCert = some cert →
        OwnFingerprint sha256 cert.pem cert.fingerprint)
      (fun call ↦ ∀ keyPair cert, call = .saveCert keyPair cert →
        Certifies sha256 platform keyPair cert)
      (fun identity ↦ Certifies sha256 platform identity.keyPair identity.cert) where
  start commonName keyPair cert h := by cases h
  advance draws storage call hsound hat := by
    rw [advance_getOrCreateIdentity]
    cases call with
    | containsAlias commonName =>
      refine ⟨hsound, fun keyPair cert h ↦ ?_⟩
      split_ifs at h
    | getEntry commonName =>
      refine ⟨hsound, fun keyPair cert h ↦ ?_⟩
      split at h <;> cases h
    | loadCert commonName keyPair =>
      rcases advance_loadCert sha256 platform draws storage commonName keyPair with
        ⟨stored, hload, hread, heq⟩ | ⟨-, heq⟩
      · rw [heq]
        exact ⟨hsound, hread, hsound stored hload⟩
      · rw [heq]
        refine ⟨hsound, fun pair cert h ↦ ?_⟩
        cases h
        exact certifies_generateSelfSigned commonName keyPair draws.cert
    | generateKeyPair commonName =>
      refine ⟨hsound, fun keyPair cert h ↦ ?_⟩
      cases h
      exact certifies_generateSelfSigned commonName draws.keyPair draws.cert
    | saveCert keyPair cert =>
      have hcertifies := hat keyPair cert rfl
      refine ⟨fun stored hstored ↦ ?_, hcertifies⟩
      cases hstored
      exact hcertifies.fingerprint

/-- The Keystore and the preferences hold this identity. -/
structure Stores (platform : CertPlatform) (storage : IdentityStorage)
    (identity : IdentityWithKey) : Prop where
  keystore : storage.keystore = some identity.keyPair
  loadCert : storage.loadCert = some identity.cert
  key : platform.readPublicKey identity.pem = some identity.keyPair.point

/-- The storage while there is only one call. -/
def LoneCall (platform : CertPlatform) (storage : IdentityStorage) : IdentityCall → Prop
  | .containsAlias _ | .getEntry _ | .generateKeyPair _ => True
  | .loadCert _ keyPair => storage.keystore = some keyPair
  | .saveCert keyPair cert =>
    storage.keystore = some keyPair ∧ platform.readPublicKey cert.pem = some keyPair.point

/-- The calls that leave a stored identity as it is. -/
def SafeCall (identity : IdentityWithKey) : IdentityCall → Prop
  | .containsAlias _ | .getEntry _ => True
  | .loadCert _ keyPair => keyPair = identity.keyPair
  | .generateKeyPair _ | .saveCert .. => False

theorem identity_settles (sha256 : List UInt8 → Digest) (platform : CertPlatform) :
    (getOrCreateIdentity sha256 platform).Settles (fun _ ↦ True) (LoneCall platform)
      (Stores platform) SafeCall where
  lone_start _ _ _ := trivial
  ready_of_lone _ _ _ := trivial
  ready_of_settled _ _ _ := trivial
  safe_start _ _ := trivial
  lone_advance draws storage call hlone := by
    rw [advance_getOrCreateIdentity]
    cases call with
    | containsAlias commonName =>
      rw [IdentityCall.advance]
      split_ifs <;> exact trivial
    | getEntry commonName =>
      rw [IdentityCall.advance]
      split
      · next keyPair hkeystore => exact hkeystore
      · exact trivial
    | loadCert commonName keyPair =>
      rcases advance_loadCert sha256 platform draws storage commonName keyPair with
        ⟨stored, hload, hread, heq⟩ | ⟨-, heq⟩
      · rw [heq]
        exact { keystore := hlone, loadCert := hload, key := hread }
      · rw [heq]
        exact ⟨hlone, readPublicKey_generateSelfSigned _ _ _ _ _⟩
    | generateKeyPair commonName => exact ⟨rfl, readPublicKey_generateSelfSigned _ _ _ _ _⟩
    | saveCert keyPair cert =>
      exact { keystore := hlone.1, loadCert := rfl, key := hlone.2 }
  safe_advance draws storage call identity hstores hsafe := by
    rw [advance_getOrCreateIdentity]
    cases call with
    | containsAlias commonName =>
      rw [IdentityCall.advance, hstores.keystore]
      exact ⟨hstores, trivial⟩
    | getEntry commonName =>
      rw [IdentityCall.advance, hstores.keystore]
      exact ⟨hstores, rfl⟩
    | loadCert commonName keyPair =>
      have hkey : keyPair = identity.keyPair := hsafe
      subst hkey
      rcases advance_loadCert sha256 platform draws storage commonName identity.keyPair with
        ⟨stored, hload, hread, heq⟩ | ⟨hstale, -⟩
      · rw [heq]
        obtain rfl : stored = identity.cert := Option.some.inj (hload.symm.trans hstores.loadCert)
        exact ⟨hstores, rfl⟩
      · exact absurd hstores.key (hstale _ hstores.loadCert)
    | generateKeyPair commonName => exact hsafe.elim
    | saveCert keyPair cert => exact hsafe.elim

/-! ## The device id -/

/-- What a call of `getOrCreateDeviceIdBlocking` does next. -/
inductive DeviceIdCall
  | read
  | edit (id : String)

def DeviceIdCall.advance (randomUuid : Uuid) (stored : Option String) :
    DeviceIdCall → Option String × (DeviceIdCall ⊕ String)
  | .read =>
    match stored with
    | some existing => (stored, .inr existing)
    | none => (none, .inl (.edit randomUuid.toText))
  | .edit id => (some id, .inr id)

def getOrCreateDeviceId : Getter Unit (Option String) DeviceIdCall Uuid String where
  start _ := .read
  advance := DeviceIdCall.advance

@[simp]
theorem advance_getOrCreateDeviceId : getOrCreateDeviceId.advance = DeviceIdCall.advance := rfl

theorem deviceId_settles : getOrCreateDeviceId.Settles (fun _ ↦ True) (fun _ _ ↦ True)
    (fun stored id ↦ stored = some id) (fun _ call ↦ call = .read) where
  lone_start _ _ _ := trivial
  ready_of_lone _ _ _ := trivial
  ready_of_settled _ _ _ := trivial
  safe_start _ _ := rfl
  lone_advance randomUuid stored call _ := by
    rw [advance_getOrCreateDeviceId]
    cases call with
    | read =>
      cases stored with
      | none => exact trivial
      | some existing => rfl
    | edit id => exact rfl
  safe_advance randomUuid stored call id hstored hcall := by
    rw [advance_getOrCreateDeviceId, hcall, hstored]
    exact ⟨rfl, rfl⟩

/-- The getters hand out what one store would hand out, and its certificate is one for its key. If
no call begins beside another one before the first has returned, this holds in every run, over any
number of processes, each of which may be killed at any point. -/
theorem identity_survives_restarts (sha256 : List UInt8 → Digest) (platform : CertPlatform)
    (labels : List (Label String IdentityDraws))
    (t : Machine IdentityStorage IdentityCall IdentityWithKey)
    (hrun : Run.exec (getOrCreateIdentity sha256 platform).step { stored := {} } labels = some t)
    (halone : Run.Throughout (getOrCreateIdentity sha256 platform).step Getter.Alone
      { stored := {} } labels)
    (idLabels : List (Label Unit Uuid)) (u : Machine (Option String) DeviceIdCall String)
    (hidRun : Run.exec getOrCreateDeviceId.step { stored := none } idLabels = some u)
    (hidAlone : Run.Throughout getOrCreateDeviceId.step Getter.Alone { stored := none } idLabels) :
    ∃ store : IdentityStore, (∀ identity ∈ t.returned, identity = store.identity ∧
      Certifies sha256 platform identity.keyPair identity.cert) ∧
      ∀ id ∈ u.returned, id = store.deviceId := by
  have hcertifies := (identity_keeps sha256 platform).run (fun cert h ↦ by cases h) hrun
  obtain ⟨identity, hidentity⟩ := (identity_settles sha256 platform).run trivial halone hrun
  obtain ⟨deviceId, hdeviceId⟩ := deviceId_settles.run trivial hidAlone hidRun
  exact ⟨{ deviceId, identity },
    fun found hfound ↦ ⟨hidentity found hfound, hcertifies found hfound⟩, hdeviceId⟩

/-! ## A platform for examples -/

/-- The certificate of a key, with the same names, times and signature for every key. -/
def sampleCertificate (point : EcPoint) : Certificate where
  version := some 2
  serialNumber := [0x01]
  signature := ecdsaWithSha256
  issuer := { rdns := [[{ type := [0x55, 0x04, 0x03], value := Der.value 0x0C [0x70] }]] }
  validity := {
    notBefore := Der.value 0x17 [0x37, 0x35, 0x30, 0x31, 0x30, 0x31, 0x30, 0x30, 0x30, 0x30, 0x30,
      0x30, 0x5A]
    notAfter := Der.value 0x17 [0x38, 0x35, 0x30, 0x31, 0x30, 0x31, 0x30, 0x30, 0x30, 0x30, 0x30,
      0x30, 0x5A] }
  subject := { rdns := [[{ type := [0x55, 0x04, 0x03], value := Der.value 0x0C [0x70] }]] }
  point := {
    x := Bytes.toBe 32 point.x.toNat
    y := Bytes.toBe 32 point.y.toNat
    length_x := Bytes.length_toBe 32 _
    length_y := Bytes.length_toBe 32 _ }
  uniqueIds := []
  extensions := []
  signatureAlgorithm := ecdsaWithSha256
  signatureValue := Der.sequence [Der.integer [0x01], Der.integer [0x01]]

/-- The coordinates that stand before the last `after` bytes of a certificate. -/
def pointBefore (after : Nat) (der : List UInt8) : EcPoint :=
  let bytes := (der.drop (der.length - (after + 64))).take 64
  { x := BitVec.ofNat 256 (Bytes.ofBe (bytes.take 32))
    y := BitVec.ofNat 256 (Bytes.ofBe (bytes.drop 32)) }

theorem ofNat_toBe (n : BitVec 256) :
    BitVec.ofNat 256 (Bytes.ofBe (Bytes.toBe 32 n.toNat)) = n := by
  have hlt : n.toNat < 256 ^ 32 := n.isLt
  rw [Bytes.ofBe_toBe, Nat.mod_eq_of_lt hlt, BitVec.ofNat_toNat,
    BitVec.setWidth_eq]

theorem pointBefore_sampleCertificate (point : EcPoint) :
    pointBefore (sampleCertificate point).afterPoint.length (sampleCertificate point).toDer =
      point := by
  have hder : (sampleCertificate point).toDer = ((sampleCertificate point).beforePoint ++ [0x04]) ++
      ((Bytes.toBe 32 point.x.toNat ++ Bytes.toBe 32 point.y.toNat) ++
        (sampleCertificate point).afterPoint) := by
    rw [Certificate.toDer_eq, Crypto.EcPoint.bytes]
    simp only [sampleCertificate, List.append_assoc, List.cons_append, List.nil_append]
  have hlength : (sampleCertificate point).toDer.length -
      ((sampleCertificate point).afterPoint.length + 64) =
        ((sampleCertificate point).beforePoint ++ [0x04]).length := by
    simp only [hder, List.length_append, Bytes.length_toBe]
    omega
  have hbytes : ((sampleCertificate point).toDer.drop ((sampleCertificate point).toDer.length -
      ((sampleCertificate point).afterPoint.length + 64))).take 64 =
        Bytes.toBe 32 point.x.toNat ++ Bytes.toBe 32 point.y.toNat := by
    rw [hlength, hder, List.drop_left, List.take_left' (by simp)]
  have hx : (Bytes.toBe 32 point.x.toNat ++ Bytes.toBe 32 point.y.toNat).take 32 =
      Bytes.toBe 32 point.x.toNat := List.take_left' (by simp)
  have hy : (Bytes.toBe 32 point.x.toNat ++ Bytes.toBe 32 point.y.toNat).drop 32 =
      Bytes.toBe 32 point.y.toNat := List.drop_left' (by simp)
  simp only [pointBefore, hbytes, hx, hy, ofNat_toBe]

theorem length_afterPoint_sampleCertificate (point : EcPoint) :
    (sampleCertificate point).afterPoint.length = 23 := by
  rfl

def sampleCertPlatform : CertPlatform where
  build request _ := (sampleCertificate request.keyPair.point).toDer
  armor der := .inOneLine .lf der
  readPublicKey pem := (pemBody pem "CERTIFICATE").toOption.map (pointBefore 23)
  build_ne_nil _ _ := List.cons_ne_nil _ _
  reads request _ := by
    have hbody := (Armor.inOneLine .lf (sampleCertificate request.keyPair.point).toDer).readers_text
      (List.cons_ne_nil _ _)
    have hpoint := pointBefore_sampleCertificate request.keyPair.point
    rw [length_afterPoint_sampleCertificate] at hpoint
    rw [hbody.1]
    exact congrArg some hpoint

def sampleKeyPair : KeyPair where
  secret := 1
  point := { x := 7, y := 9 }

def sampleIdentityDraws : IdentityDraws where
  keyPair := sampleKeyPair
  cert := { now := 1000, signature := [] }

/-- The process is killed when the keypair is there and its certificate is not. The next process
returns the identity, and then once more from its cache. -/
def killedOnce : List (Label String IdentityDraws) :=
  [.call 0 "phonebridge-android", .advance 0 sampleIdentityDraws, .advance 0 sampleIdentityDraws,
    .kill, .call 0 "phonebridge-android", .advance 0 sampleIdentityDraws,
    .advance 0 sampleIdentityDraws, .advance 0 sampleIdentityDraws, .advance 0 sampleIdentityDraws,
    .advance 0 sampleIdentityDraws, .call 1 "phonebridge-android"]

theorem alone_killedOnce : Run.Throughout
    (getOrCreateIdentity sampleSha256 sampleCertPlatform).step Getter.Alone { stored := {} }
      killedOnce := by
  refine .cons (fun _ _ _ _ _ ↦ rfl) rfl ?_
  iterate 3 refine .cons (fun _ _ h ↦ by cases h) rfl ?_
  refine .cons (fun _ _ _ _ _ ↦ rfl) rfl ?_
  iterate 5 refine .cons (fun _ _ h ↦ by cases h) rfl ?_
  exact .cons (fun _ _ _ hnone ↦ by cases hnone) rfl trivial

def idTwice : List (Label Unit Uuid) :=
  [.call 0 (), .advance 0 ⟨7⟩, .advance 0 ⟨7⟩, .advance 0 ⟨7⟩, .kill, .call 0 (), .advance 0 ⟨8⟩,
    .advance 0 ⟨8⟩]

theorem alone_idTwice : Run.Throughout getOrCreateDeviceId.step Getter.Alone { stored := none }
    idTwice := by
  refine .cons (fun _ _ _ _ _ ↦ rfl) rfl ?_
  iterate 4 refine .cons (fun _ _ h ↦ by cases h) rfl ?_
  refine .cons (fun _ _ _ hnone ↦ by cases hnone) rfl ?_
  iterate 2 refine .cons (fun _ _ h ↦ by cases h) rfl ?_
  exact trivial

theorem identity_survives_restarts_sample : ∃ t u,
    Run.exec (getOrCreateIdentity sampleSha256 sampleCertPlatform).step { stored := {} }
        killedOnce = some t ∧ t.returned.length = 2 ∧
      Run.exec getOrCreateDeviceId.step { stored := none } idTwice = some u ∧
        u.returned = [Uuid.toText ⟨7⟩, Uuid.toText ⟨7⟩] ∧
          ∃ store : IdentityStore, (∀ identity ∈ t.returned, identity = store.identity ∧
            Certifies sampleSha256 sampleCertPlatform identity.keyPair identity.cert) ∧
              ∀ id ∈ u.returned, id = store.deviceId := by
  have hruns : (∃ t, Run.exec (getOrCreateIdentity sampleSha256 sampleCertPlatform).step
      { stored := {} } killedOnce = some t ∧ t.returned.length = 2) ∧
      ∃ u, Run.exec getOrCreateDeviceId.step { stored := none } idTwice = some u ∧
        u.returned = [Uuid.toText ⟨7⟩, Uuid.toText ⟨7⟩] :=
    ⟨⟨_, rfl, rfl⟩, _, rfl, rfl⟩
  obtain ⟨⟨t, hrun, hlength⟩, u, hidRun, hids⟩ := hruns
  exact ⟨t, u, hrun, hlength, hidRun, hids, identity_survives_restarts sampleSha256
    sampleCertPlatform killedOnce t hrun alone_killedOnce idTwice u hidRun alone_idTwice⟩

end PhoneBridge.Android
