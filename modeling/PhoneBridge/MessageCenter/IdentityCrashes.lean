import PhoneBridge.Library.Run
import PhoneBridge.MessageCenter.IdentityScripts
import PhoneBridge.MessageCenter.OneIdentity

/-!
# The identity after crashes

The center is started again and again on one data directory, and any start may be cut off between
two of its calls to the file system. A key is written only after its certificate and never again, so
a pair of files with a key is one generated pair. But the key is restricted to its owner only after
it has been written, and a later start takes over whatever is there.
-/

namespace PhoneBridge.MessageCenter

open Library Crypto

variable {sha256 : List UInt8 → Digest}

/-! ## The files of an installation -/

/-- The files of a certificate and its key. -/
structure PairPaths where
  cert : String
  key : String
  distinct : cert ≠ key

/-- No file in common. -/
structure PairPaths.Apart (p q : PairPaths) : Prop where
  cert_cert : p.cert ≠ q.cert
  cert_key : p.cert ≠ q.key
  key_cert : p.key ≠ q.cert
  key_key : p.key ≠ q.key

/-- The pair is neither the file. -/
structure PairPaths.Avoids (p : PairPaths) (path : String) : Prop where
  cert : p.cert ≠ path
  key : p.key ≠ path

def identityPair (dataDir : String) : PairPaths where
  cert := CenterIdentity.deviceCertFile dataDir
  key := CenterIdentity.deviceKeyFile dataDir
  distinct := by simp [CenterIdentity.deviceCertFile, CenterIdentity.deviceKeyFile]

/-- Where an installation keeps its files. The TLS files may be the identity files. -/
structure IdentityLayout where
  dataDir : String
  tls : PairPaths
  /-- the directory of the TLS certificate -/
  tlsParent : Option String
  avoids_id : tls.Avoids (CenterIdentity.deviceIdFile dataDir)
  avoids_name : tls.Avoids (CenterIdentity.deviceNameFile dataDir)
  shared_or_apart : tls = identityPair dataDir ∨ tls.Apart (identityPair dataDir)

namespace IdentityLayout

variable (layout : IdentityLayout)

def idFile : String := CenterIdentity.deviceIdFile layout.dataDir

def nameFile : String := CenterIdentity.deviceNameFile layout.dataDir

def identity : PairPaths := identityPair layout.dataDir

def pairs : List PairPaths := [layout.identity, layout.tls]

end IdentityLayout

/-! ## Runs -/

/-- What a run has returned. -/
structure Returned where
  pair : PairPaths
  certPem : String
  fingerprint : String
  /-- the id and the name, which `load_or_create` returns -/
  named : Option (Uuid × String)
  overridden : Bool

namespace Returned

def ofIdentity (layout : IdentityLayout) (overridden : Bool) (identity : CenterIdentity) :
    Returned where
  pair := layout.identity
  certPem := identity.certPem
  fingerprint := identity.fingerprint
  named := some (identity.deviceId, identity.name)
  overridden

def ofTls (layout : IdentityLayout) (identity : Identity) : Returned where
  pair := layout.tls
  certPem := identity.certPem
  fingerprint := identity.fingerprint
  named := none
  overridden := false

/-- A run without an override returns what an earlier one has returned. -/
def Repeats (later earlier : Returned) : Prop := later.overridden = false →
  (later.pair = earlier.pair →
    later.certPem = earlier.certPem ∧ later.fingerprint = earlier.fingerprint) ∧
  ∀ named ∈ later.named, ∀ before ∈ earlier.named, named = before

end Returned

/-- The pairs that were generated, and what the runs have returned, newest first. -/
structure IdentityHistory (sha256 : List UInt8 → Digest) where
  generated : List (Generated sha256)
  returned : List Returned

structure Installation (sha256 : List UInt8 → Digest) where
  disk : IdentityDisk
  history : IdentityHistory sha256

/-- An empty data directory. -/
def Installation.empty : Installation sha256 where
  disk := .empty
  history := { generated := [], returned := [] }

/-- A run, with the number of calls after which it is cut off. -/
inductive IdentityRun (sha256 : List UInt8 → Digest)
  | loadOrCreate (overrideId : Option Uuid) (overrideName : Option String)
    (draws : IdentityDraws sha256) (umask : FileMode) (cut : Option Nat)
  | loadOrGenerate (generated : Except CertError (Generated sha256)) (umask : FileMode)
    (cut : Option Nat)

namespace Installation

/-- Run a script to its end or cut it off. -/
def advance {α : Type} (s : Installation sha256) (script : FileScript α) (record : α → Returned)
    (drawn : Except CertError (Generated sha256)) (umask : FileMode) :
    Option Nat → Option (Installation sha256)
  | some n =>
    (script.cutOff (IdentityDisk.perform umask) n s.disk).map fun (_, disk) ↦ {
      disk
      history := { s.history with generated := drawn.toOption.toList ++ s.history.generated } }
  | none =>
    let (result, disk) := script.run (IdentityDisk.perform umask) s.disk
    some {
      disk
      history := {
        generated := drawn.toOption.toList ++ s.history.generated
        returned := (result.toOption.map record).toList ++ s.history.returned } }

def step (layout : IdentityLayout) (s : Installation sha256) :
    IdentityRun sha256 → Option (Installation sha256)
  | .loadOrCreate overrideId overrideName draws umask cut =>
    s.advance (FileScript.loadOrCreate layout.dataDir overrideId overrideName draws)
      (.ofIdentity layout (overrideId.isSome || overrideName.isSome)) draws.generated umask cut
  | .loadOrGenerate generated umask cut =>
    s.advance (FileScript.loadOrGenerate layout.tls.cert layout.tls.key layout.tlsParent generated)
      (.ofTls layout) generated umask cut

end Installation

/-! ## What should hold -/

/-- The runs return one identity, and the files of a run that has returned are one generated pair
with a private key. -/
structure IdentitySurvives (s : Installation sha256) : Prop where
  repeated : s.history.returned.Pairwise Returned.Repeats
  one_pair : ∀ r ∈ s.history.returned, ∃ pair ∈ s.history.generated,
    s.disk.contents.get r.pair.cert = some pair.1.certPem ∧
      s.disk.contents.get r.pair.key = some pair.1.keyPem
  owner_only : ∀ r ∈ s.history.returned, ∃ file,
    s.disk.get r.pair.key = some file ∧ file.mode.OwnerOnly

/-! ## When it does -/

/-- Is the call a part of restricting a file to its owner? -/
def FileCall.restricts : FileCall → Bool
  | .metadata _ | .setPermissions _ _ => true
  | _ => false

/-- The run is not cut off between writing the key and restricting it to its owner, unless nobody
else can read a new file. -/
def RestrictsKey {α : Type} (s : Installation sha256) (script : FileScript α) (umask : FileMode)
    (cut : Option Nat) : Prop :=
  (IdentityDisk.newMode umask).OwnerOnly ∨ ∀ n ∈ cut, ∀ rest after,
    script.cutOff (IdentityDisk.perform umask) n s.disk = some (rest, after) →
      ∀ c ∈ rest.pending, c.restricts = false

/-- The name that `load_or_create` writes. -/
def enteredName (layout : IdentityLayout) (disk : IdentityDisk) (overrideName : Option String)
    (draws : IdentityDraws sha256) : Option String :=
  overrideName.or (if disk.contains layout.nameFile then none
    else (draws.hostname.or (draws.etcHostname.map trimmed)).getD "phonebridge")

/-- An override names the center as it has been named, a name that is entered and returned has no
white space around it, and the key is restricted. -/
def KeepsStored (layout : IdentityLayout) (s : Installation sha256) : IdentityRun sha256 → Prop
  | .loadOrCreate overrideId overrideName draws umask cut =>
    (∀ r ∈ s.history.returned, ∀ named ∈ r.named,
      (∀ id ∈ overrideId, named.1 = id) ∧ ∀ name ∈ overrideName, named.2 = trimmed name) ∧
    (cut = none → ∀ name ∈ enteredName layout s.disk overrideName draws, trimmed name = name) ∧
    RestrictsKey s (FileScript.loadOrCreate layout.dataDir overrideId overrideName draws) umask cut
  | .loadOrGenerate generated umask cut =>
    RestrictsKey s (FileScript.loadOrGenerate layout.tls.cert layout.tls.key layout.tlsParent
      generated) umask cut

/-! ## What the disk keeps -/

namespace IdentityLayout

variable {layout : IdentityLayout} {pair other : PairPaths}

theorem shared_or_apart_of_mem (hpair : pair ∈ layout.pairs) (hother : other ∈ layout.pairs) :
    pair = other ∨ pair.Apart other := by
  have htls := layout.shared_or_apart
  simp only [pairs, List.mem_cons, List.not_mem_nil, or_false] at hpair hother
  rcases hpair with rfl | rfl
  · rcases hother with rfl | rfl
    · exact .inl rfl
    · exact htls.imp Eq.symm fun h ↦
        ⟨h.cert_cert.symm, h.key_cert.symm, h.cert_key.symm, h.key_key.symm⟩
  · rcases hother with rfl | rfl
    · exact htls
    · exact .inl rfl

theorem avoids_idFile (hpair : pair ∈ layout.pairs) : pair.Avoids layout.idFile := by
  simp only [pairs, List.mem_cons, List.not_mem_nil, or_false] at hpair
  rcases hpair with rfl | rfl
  · constructor
    · simp [identity, identityPair, idFile, CenterIdentity.deviceCertFile,
        CenterIdentity.deviceIdFile]
    · simp [identity, identityPair, idFile, CenterIdentity.deviceKeyFile,
        CenterIdentity.deviceIdFile]
  · exact layout.avoids_id

theorem avoids_nameFile (hpair : pair ∈ layout.pairs) : pair.Avoids layout.nameFile := by
  simp only [pairs, List.mem_cons, List.not_mem_nil, or_false] at hpair
  rcases hpair with rfl | rfl
  · constructor
    · simp [identity, identityPair, nameFile, CenterIdentity.deviceCertFile,
        CenterIdentity.deviceNameFile]
    · simp [identity, identityPair, nameFile, CenterIdentity.deviceKeyFile,
        CenterIdentity.deviceNameFile]
  · exact layout.avoids_name

theorem idFile_ne_nameFile : layout.idFile ≠ layout.nameFile := by
  simp [idFile, nameFile, CenterIdentity.deviceIdFile, CenterIdentity.deviceNameFile]

end IdentityLayout

/-- A later run reads this id. -/
def IdentityLayout.HasId (layout : IdentityLayout) (disk : IdentityDisk) (id : Uuid) : Prop :=
  ∃ s, disk.contents.get layout.idFile = some s ∧ Uuid.parse (trimmed s) = some id

/-- A later run reads this name. -/
def IdentityLayout.HasName (layout : IdentityLayout) (disk : IdentityDisk) (name : String) : Prop :=
  ∃ s, disk.contents.get layout.nameFile = some s ∧ trimmed s = name

/-- What a run has returned is on the disk. -/
structure Returned.OnDisk (sha256 : List UInt8 → Digest) (layout : IdentityLayout)
    (disk : IdentityDisk) (r : Returned) : Prop where
  used : r.pair ∈ layout.pairs
  cert : disk.contents.get r.pair.cert = some r.certPem
  key : (disk.contents.get r.pair.key).isSome = true
  own : ∃ der, pemBody r.certPem "CERTIFICATE" = .ok der ∧
    r.fingerprint = certFingerprint (sha256 der)
  named : ∀ named ∈ r.named, layout.HasId disk named.1 ∧ layout.HasName disk named.2

/-- A file with a key has the certificate of one generated pair beside it. -/
def Paired (generated : List (Generated sha256)) (disk : IdentityDisk) (pair : PairPaths) : Prop :=
  ∀ keyPem, disk.contents.get pair.key = some keyPem → ∃ g ∈ generated,
    disk.contents.get pair.cert = some g.1.certPem ∧ keyPem = g.1.keyPem

/-- Nobody but the owner can read the key. -/
def KeyPrivate (disk : IdentityDisk) (pair : PairPaths) : Prop :=
  ∀ file, disk.get pair.key = some file → file.mode.OwnerOnly

section Disk

variable (layout : IdentityLayout) (history : IdentityHistory sha256)

/-- The disk at any point of a run, up to the permissions of the keys. -/
structure Intact (disk : IdentityDisk) : Prop where
  paired : ∀ pair ∈ layout.pairs, Paired history.generated disk pair
  kept : ∀ r ∈ history.returned, r.OnDisk sha256 layout disk

/-- The disk between two runs. -/
structure Settled (disk : IdentityDisk) : Prop extends Intact layout history disk where
  private_keys : ∀ pair ∈ layout.pairs, KeyPrivate disk pair

/-- The disk when a call is made. -/
structure Midway (umask : FileMode) (c : FileCall) (disk : IdentityDisk) : Prop
    extends Intact layout history disk where
  private_keys : ∀ pair ∈ layout.pairs, KeyPrivate disk pair ∨
    c.restricts = true ∧ ¬ (IdentityDisk.newMode umask).OwnerOnly

/-- A run ends with a settled disk, and what it returns meets `post`. -/
def Ends {α : Type} (post : α → IdentityDisk → Prop) (result : Except RunError α)
    (disk : IdentityDisk) : Prop :=
  Settled layout history disk ∧ ∀ a, result = .ok a → post a disk

end Disk

section Steps

variable {layout : IdentityLayout} {history : IdentityHistory sha256} {umask : FileMode}
  {disk : IdentityDisk} {path content : String} {pair : PairPaths}

theorem Settled.midway (h : Settled layout history disk) (c : FileCall) :
    Midway layout history umask c disk where
  toIntact := h.toIntact
  private_keys pair hpair := .inl (h.private_keys pair hpair)

theorem keyPrivate_write (h : KeyPrivate disk pair) (hpath : pair.key ≠ path) :
    KeyPrivate (disk.write umask path content) pair := by
  intro file hfile
  rw [IdentityDisk.write, KeyMap.get_insert_of_ne _ _ hpath] at hfile
  exact h file hfile

theorem get_contents_write_of_ne {other : String} (hother : other ≠ path) :
    (disk.write umask path content).contents.get other = disk.contents.get other := by
  rw [IdentityDisk.contents_write, KeyMap.get_insert_of_ne _ _ hother]

theorem get_contents_write_self :
    (disk.write umask path content).contents.get path = some content := by
  simp

/-- The id or the name may be written as long as what was returned remains there. -/
theorem Settled.write_name (h : Settled layout history disk)
    (hpath : ∀ pair ∈ layout.pairs, pair.Avoids path)
    (hnamed : ∀ r ∈ history.returned, ∀ named ∈ r.named,
      layout.HasId (disk.write umask path content) named.1 ∧
        layout.HasName (disk.write umask path content) named.2) :
    Settled layout history (disk.write umask path content) where
  paired pair hpair keyPem hkey := by
    rw [get_contents_write_of_ne (hpath pair hpair).key] at hkey
    rw [get_contents_write_of_ne (hpath pair hpair).cert]
    exact h.paired pair hpair keyPem hkey
  kept r hr := {
    used := (h.kept r hr).used
    cert := by
      rw [get_contents_write_of_ne (hpath r.pair (h.kept r hr).used).cert]
      exact (h.kept r hr).cert
    key := by
      rw [get_contents_write_of_ne (hpath r.pair (h.kept r hr).used).key]
      exact (h.kept r hr).key
    own := (h.kept r hr).own
    named := hnamed r hr }
  private_keys pair hpair := keyPrivate_write (h.private_keys pair hpair) (hpath pair hpair).key

theorem hasId_write (id : Uuid) :
    layout.HasId (disk.write umask layout.idFile id.toText) id :=
  ⟨_, get_contents_write_self, by rw [trimmed_toText, Uuid.parse_toText]⟩

theorem hasName_write (name : String) :
    layout.HasName (disk.write umask layout.nameFile name) (trimmed name) :=
  ⟨_, get_contents_write_self, rfl⟩

theorem Settled.write_id {id : Uuid} (h : Settled layout history disk)
    (hsame : ∀ r ∈ history.returned, ∀ named ∈ r.named, named.1 = id) :
    Settled layout history (disk.write umask layout.idFile id.toText) := by
  apply h.write_name fun pair hpair ↦ IdentityLayout.avoids_idFile hpair
  intro r hr named hnamed
  obtain ⟨-, s, hs, hname⟩ := (h.kept r hr).named named hnamed
  constructor
  · rw [hsame r hr named hnamed]
    exact hasId_write id
  · exact ⟨s, (get_contents_write_of_ne IdentityLayout.idFile_ne_nameFile.symm).trans hs, hname⟩

theorem Settled.write_entered {name : String} (h : Settled layout history disk)
    (hsame : ∀ r ∈ history.returned, ∀ named ∈ r.named, named.2 = trimmed name) :
    Settled layout history (disk.write umask layout.nameFile name) := by
  apply h.write_name fun pair hpair ↦ IdentityLayout.avoids_nameFile hpair
  intro r hr named hnamed
  obtain ⟨⟨s, hs, hid⟩, -⟩ := (h.kept r hr).named named hnamed
  constructor
  · exact ⟨s, (get_contents_write_of_ne IdentityLayout.idFile_ne_nameFile).trans hs, hid⟩
  · rw [hsame r hr named hnamed]
    exact hasName_write name

open FileScript in
theorem meets_loadDeviceId {overrideId : Option Uuid} {newId : Uuid}
    (h : Settled layout history disk)
    (hsame : ∀ r ∈ history.returned, ∀ named ∈ r.named, ∀ id ∈ overrideId, named.1 = id) :
    (loadDeviceId layout.dataDir overrideId newId).Meets (IdentityDisk.perform umask)
      (Midway layout history umask) (Ends layout history fun id after ↦
        layout.HasId after id ∧ after.get layout.nameFile = disk.get layout.nameFile) disk := by
  have hwrite : ∀ id, Settled layout history (disk.write umask layout.idFile id.toText) →
      (write layout.idFile id.toText >>= fun _ ↦ pure id).Meets (IdentityDisk.perform umask)
        (Midway layout history umask) (Ends layout history fun id after ↦
          layout.HasId after id ∧ after.get layout.nameFile = disk.get layout.nameFile) disk := by
    intro id hsettled
    refine meets_write.mpr ⟨h.midway _, hsettled, fun a ha ↦ ?_⟩
    cases ha
    exact ⟨hasId_write id, KeyMap.get_insert_of_ne _ _ IdentityLayout.idFile_ne_nameFile.symm⟩
  cases overrideId with
  | some id =>
    exact hwrite id (h.write_id fun r hr named hnamed ↦ hsame r hr named hnamed id rfl)
  | none =>
    refine meets_readToString.mpr ⟨h.midway _, ?_⟩
    cases hread : disk.contents.get (CenterIdentity.deviceIdFile layout.dataDir) with
    | none =>
      apply hwrite newId
      apply h.write_id
      intro r hr named hnamed
      obtain ⟨⟨s, hs, -⟩, -⟩ := (h.kept r hr).named named hnamed
      cases hread.symm.trans hs
    | some s =>
      dsimp only
      cases hparse : Uuid.parse (trimmed s) with
      | none => exact ⟨h, fun a ha ↦ nomatch ha⟩
      | some id =>
        refine ⟨h, fun a ha ↦ ?_⟩
        cases ha
        exact ⟨⟨s, hread, hparse⟩, rfl⟩

/-- The name of a run is on the disk, and a later run reads the same when it has no white space
around it. -/
def Named (layout : IdentityLayout) (entered : Option String) (name : String)
    (disk : IdentityDisk) : Prop :=
  (∀ written ∈ entered, trimmed written = written) → layout.HasName disk name

open FileScript in
theorem meets_loadName {overrideName : Option String} {draws : IdentityDraws sha256} {id : Uuid}
    (h : Settled layout history disk) (hid : layout.HasId disk id)
    (hsame : ∀ r ∈ history.returned, ∀ named ∈ r.named, ∀ name ∈ overrideName,
      named.2 = trimmed name) :
    (loadName layout.dataDir overrideName draws).Meets (IdentityDisk.perform umask)
      (Midway layout history umask) (Ends layout history fun name after ↦
        layout.HasId after id ∧
          Named layout (enteredName layout disk overrideName draws) name after) disk := by
  have hwrite : ∀ name, Settled layout history (disk.write umask layout.nameFile name) →
      enteredName layout disk overrideName draws = some name →
      (write layout.nameFile name >>= fun _ ↦ pure name).Meets (IdentityDisk.perform umask)
        (Midway layout history umask) (Ends layout history fun name after ↦
          layout.HasId after id ∧
            Named layout (enteredName layout disk overrideName draws) name after) disk := by
    intro name hsettled hentered
    refine meets_write.mpr ⟨h.midway _, hsettled, fun a ha ↦ ?_⟩
    cases ha
    obtain ⟨s, hs, hparse⟩ := hid
    refine ⟨⟨s, ?_, hparse⟩, fun htidy ↦ ?_⟩
    · exact (get_contents_write_of_ne IdentityLayout.idFile_ne_nameFile).trans hs
    · have hname : layout.HasName (disk.write umask layout.nameFile name) (trimmed name) :=
        hasName_write name
      rwa [htidy name hentered] at hname
  cases overrideName with
  | some name =>
    apply hwrite name _ rfl
    exact h.write_entered fun r hr named hnamed ↦ hsame r hr named hnamed name rfl
  | none =>
    refine meets_readToString.mpr ⟨h.midway _, ?_⟩
    cases hread : disk.contents.get (CenterIdentity.deviceNameFile layout.dataDir) with
    | none =>
      apply hwrite
      · apply h.write_entered
        intro r hr named hnamed
        obtain ⟨-, s, hs, -⟩ := (h.kept r hr).named named hnamed
        cases hread.symm.trans hs
      · have hmissing : disk.get layout.nameFile = none := Option.map_eq_none_iff.mp hread
        simp [enteredName, hmissing]
    | some s =>
      refine ⟨h, fun a ha ↦ ?_⟩
      cases ha
      exact ⟨hid, fun _ ↦ ⟨s, hread, rfl⟩⟩

/-! ## The pair of a run -/

/-- Without a stored pair no key has been written, and nothing was returned from the pair. -/
theorem Settled.missing_key (h : Settled layout history disk) (hpair : pair ∈ layout.pairs)
    (hmissing : storedPair disk.contents pair.cert pair.key = none) :
    disk.contents.get pair.key = none := by
  cases hkey : disk.contents.get pair.key with
  | none => rfl
  | some keyPem =>
    obtain ⟨g, -, hcert, -⟩ := h.paired pair hpair keyPem hkey
    rw [storedPair_eq_some.mpr ⟨hcert, hkey⟩] at hmissing
    cases hmissing

/-- Nothing was returned from a pair without a key. -/
theorem Settled.apart_of_missing (h : Settled layout history disk) (hpair : pair ∈ layout.pairs)
    (hkey : disk.contents.get pair.key = none) :
    ∀ r ∈ history.returned, r.pair.Apart pair := by
  intro r hr
  have hold := h.kept r hr
  apply (IdentityLayout.shared_or_apart_of_mem hold.used hpair).resolve_left
  intro hsame
  have hsome := hold.key
  rw [hsame, hkey] at hsome
  cases hsome

theorem Returned.OnDisk.congr {after : IdentityDisk} {r : Returned}
    (h : r.OnDisk sha256 layout disk)
    (hsame : ∀ path ∈ [r.pair.cert, r.pair.key, layout.idFile, layout.nameFile],
      after.contents.get path = disk.contents.get path) : r.OnDisk sha256 layout after where
  used := h.used
  cert := (hsame _ (by simp)).trans h.cert
  key := by
    rw [hsame _ (by simp)]
    exact h.key
  own := h.own
  named named hnamed := by
    obtain ⟨⟨s, hs, hid⟩, text, htext, hname⟩ := h.named named hnamed
    exact ⟨⟨s, (hsame _ (by simp)).trans hs, hid⟩, text, (hsame _ (by simp)).trans htext, hname⟩

/-- What was returned stays when a file of a pair apart from it is written. -/
theorem Settled.kept_write (h : Settled layout history disk) (hpair : pair ∈ layout.pairs)
    (hapart : ∀ r ∈ history.returned, r.pair.Apart pair) {path : String}
    (hpath : path = pair.cert ∨ path = pair.key) (content : String) :
    ∀ r ∈ history.returned, r.OnDisk sha256 layout (disk.write umask path content) := by
  intro r hr
  have hr_apart := hapart r hr
  have hid := IdentityLayout.avoids_idFile hpair
  have hname := IdentityLayout.avoids_nameFile hpair
  apply (h.kept r hr).congr
  intro other hother
  apply get_contents_write_of_ne
  simp only [List.mem_cons, List.not_mem_nil, or_false] at hother
  rcases hpath with rfl | rfl
  · rcases hother with rfl | rfl | rfl | rfl
    · exact hr_apart.cert_cert
    · exact hr_apart.key_cert
    · exact hid.cert.symm
    · exact hname.cert.symm
  · rcases hother with rfl | rfl | rfl | rfl
    · exact hr_apart.cert_key
    · exact hr_apart.key_key
    · exact hid.key.symm
    · exact hname.key.symm

/-- The certificate may be replaced as long as there is no key. -/
theorem Settled.write_cert (h : Settled layout history disk) (hpair : pair ∈ layout.pairs)
    (hkey : disk.contents.get pair.key = none) (certPem : String) :
    Settled layout history (disk.write umask pair.cert certPem) where
  paired other hother keyPem hother_key := by
    rcases IdentityLayout.shared_or_apart_of_mem hother hpair with rfl | hapart
    · rw [get_contents_write_of_ne other.distinct.symm, hkey] at hother_key
      cases hother_key
    · rw [get_contents_write_of_ne hapart.key_cert] at hother_key
      rw [get_contents_write_of_ne hapart.cert_cert]
      exact h.paired other hother keyPem hother_key
  kept := h.kept_write hpair (h.apart_of_missing hpair hkey) (.inl rfl) certPem
  private_keys other hother := by
    apply keyPrivate_write (h.private_keys other hother)
    rcases IdentityLayout.shared_or_apart_of_mem hother hpair with rfl | hapart
    · exact other.distinct.symm
    · exact hapart.key_cert

/-- The key of the certificate may be written, up to its permissions. -/
theorem Settled.write_key {g : Generated sha256} (h : Settled layout history disk)
    (hpair : pair ∈ layout.pairs) (hg : g ∈ history.generated)
    (hkey : disk.contents.get pair.key = none)
    (hcert : disk.contents.get pair.cert = some g.1.certPem) :
    Intact layout history (disk.write umask pair.key g.1.keyPem) where
  paired other hother keyPem hother_key := by
    rcases IdentityLayout.shared_or_apart_of_mem hother hpair with rfl | hapart
    · rw [get_contents_write_self] at hother_key
      refine ⟨g, hg, ?_, (Option.some.inj hother_key).symm⟩
      rw [get_contents_write_of_ne other.distinct, hcert]
    · rw [get_contents_write_of_ne hapart.key_key] at hother_key
      rw [get_contents_write_of_ne hapart.cert_key]
      exact h.paired other hother keyPem hother_key
  kept := h.kept_write hpair (h.apart_of_missing hpair hkey) (.inr rfl) g.1.keyPem

theorem Intact.setPermissions (h : Intact layout history disk) (path : String) (mode : FileMode) :
    Intact layout history (disk.setPermissions path mode) where
  paired other hother keyPem hkey := by
    rw [IdentityDisk.contents_setPermissions] at hkey ⊢
    exact h.paired other hother keyPem hkey
  kept r hr := (h.kept r hr).congr fun path _ ↦ by rw [IdentityDisk.contents_setPermissions]

/-- Restricting a key makes it private and leaves the others. -/
theorem keyPrivate_setPermissions {path : String} {mode : FileMode} (hmode : mode.OwnerOnly)
    (h : pair.key = path ∨ KeyPrivate disk pair) :
    KeyPrivate (disk.setPermissions path mode) pair := by
  intro file hfile
  rw [IdentityDisk.setPermissions, KeyMap.get_set] at hfile
  split_ifs at hfile with hpath
  · obtain ⟨old, -, rfl⟩ := Option.map_eq_some_iff.mp hfile
    exact hmode
  · exact h.resolve_left hpath file hfile

open FileScript in
/-- A pair is written so that the disk is right before every call. -/
theorem meets_persist {β : Type} {g : Generated sha256} {next : Unit → FileScript β}
    {post : Except RunError β → IdentityDisk → Prop} (h : Settled layout history disk)
    (hpair : pair ∈ layout.pairs) (hg : g ∈ history.generated)
    (hkey : disk.contents.get pair.key = none)
    (hnext : ∀ after, Settled layout history after →
      after.contents = (disk.contents.insert pair.cert g.1.certPem).insert pair.key g.1.keyPem →
      (next ()).Meets (IdentityDisk.perform umask) (Midway layout history umask) post after) :
    (persist pair.cert pair.key g.1 >>= next).Meets (IdentityDisk.perform umask)
      (Midway layout history umask) post disk := by
  have hfirst : Settled layout history (disk.write umask pair.cert g.1.certPem) :=
    h.write_cert hpair hkey g.1.certPem
  have hstill : (disk.write umask pair.cert g.1.certPem).contents.get pair.key = none :=
    (get_contents_write_of_ne pair.distinct.symm).trans hkey
  have hmissing : (disk.write umask pair.cert g.1.certPem).get pair.key = none := by
    rwa [IdentityDisk.get_contents, Option.map_eq_none_iff] at hstill
  have hsecond : Intact layout history
      ((disk.write umask pair.cert g.1.certPem).write umask pair.key g.1.keyPem) :=
    hfirst.write_key hpair hg hstill get_contents_write_self
  have hfile : ((disk.write umask pair.cert g.1.certPem).write umask pair.key g.1.keyPem).get
      pair.key = some { content := g.1.keyPem, mode := IdentityDisk.newMode umask } := by
    rw [IdentityDisk.write, KeyMap.get_insert, if_pos rfl, hmissing]
    rfl
  -- the other keys keep their permissions
  have hothers : ∀ other ∈ layout.pairs, other ≠ pair → KeyPrivate
      ((disk.write umask pair.cert g.1.certPem).write umask pair.key g.1.keyPem) other := by
    intro other hother hne
    have hapart := (IdentityLayout.shared_or_apart_of_mem hother hpair).resolve_left hne
    exact keyPrivate_write (hfirst.private_keys other hother) hapart.key_key
  have hmidway : ∀ c : FileCall, c.restricts = true → Midway layout history umask c
      ((disk.write umask pair.cert g.1.certPem).write umask pair.key g.1.keyPem) := by
    intro c hc
    refine { toIntact := hsecond, private_keys := fun other hother ↦ ?_ }
    by_cases hsame : other = pair
    · by_cases howner : (IdentityDisk.newMode umask).OwnerOnly
      · left
        intro file hget
        rw [hsame, hfile] at hget
        cases hget
        exact howner
      · exact .inr ⟨hc, howner⟩
    · exact .inl (hothers other hother hsame)
  refine ⟨h.midway _, hfirst.midway _, hmidway _ rfl, ?_⟩
  simp only [IdentityDisk.perform, hfile, Option.map_some]
  refine ⟨hmidway _ rfl, ?_⟩
  apply hnext
  · refine { toIntact := hsecond.setPermissions _ _, private_keys := fun other hother ↦ ?_ }
    have howner : (0o600 : FileMode).OwnerOnly := by decide
    apply keyPrivate_setPermissions howner
    by_cases hsame : other = pair
    · exact .inl (by rw [hsame])
    · exact .inr (hothers other hother hsame)
  · simp [IdentityDisk.perform]

/-! ## A run -/

/-- Both readers find the certificate of a stored pair. -/
theorem Settled.readable (h : Settled layout history disk) (hpair : pair ∈ layout.pairs)
    {certPem keyPem : String}
    (hstored : storedPair disk.contents pair.cert pair.key = some (certPem, keyPem)) :
    ∃ der, pemBody certPem "CERTIFICATE" = .ok der ∧ pemToDer certPem = .ok der := by
  obtain ⟨hcert, hkey⟩ := storedPair_eq_some.mp hstored
  obtain ⟨g, -, hown, -⟩ := h.paired pair hpair keyPem hkey
  obtain ⟨der, hbody, hleaf, -⟩ := g.property
  rw [hcert] at hown
  rw [Option.some.inj hown]
  exact ⟨der, hbody, hleaf⟩

theorem onDisk_of_stored {r : Returned} {keyPem : String} (hused : r.pair ∈ layout.pairs)
    (hstored : storedPair disk.contents r.pair.cert r.pair.key = some (r.certPem, keyPem))
    (hown : ∃ der, pemBody r.certPem "CERTIFICATE" = .ok der ∧
      r.fingerprint = certFingerprint (sha256 der))
    (hnamed : ∀ named ∈ r.named, layout.HasId disk named.1 ∧ layout.HasName disk named.2) :
    r.OnDisk sha256 layout disk where
  used := hused
  cert := (storedPair_eq_some.mp hstored).1
  key := Option.isSome_iff_exists.mpr ⟨keyPem, (storedPair_eq_some.mp hstored).2⟩
  own := hown
  named := hnamed

theorem onDisk_of_persisted {after : IdentityDisk} {r : Returned} {g : Generated sha256}
    (hused : r.pair ∈ layout.pairs)
    (hcontents : after.contents =
      (disk.contents.insert r.pair.cert g.1.certPem).insert r.pair.key g.1.keyPem)
    (hpem : r.certPem = g.1.certPem) (hfingerprint : r.fingerprint = g.1.fingerprint)
    (hnamed : ∀ named ∈ r.named, layout.HasId disk named.1 ∧ layout.HasName disk named.2) :
    r.OnDisk sha256 layout after where
  used := hused
  cert := by
    rw [hcontents, KeyMap.get_insert_of_ne _ _ r.pair.distinct, KeyMap.get_insert_self, hpem]
  key := by
    rw [hcontents, KeyMap.get_insert_self]
    rfl
  own := by
    obtain ⟨der, hbody, -, hown⟩ := g.property
    exact ⟨der, by rw [hpem, hbody], by rw [hfingerprint, hown]⟩
  named named hmem := by
    obtain ⟨⟨s, hs, hid⟩, text, htext, hname⟩ := hnamed named hmem
    have hidFile := IdentityLayout.avoids_idFile hused
    have hnameFile := IdentityLayout.avoids_nameFile hused
    constructor
    · refine ⟨s, ?_, hid⟩
      rw [hcontents, KeyMap.get_insert_of_ne _ _ hidFile.key.symm,
        KeyMap.get_insert_of_ne _ _ hidFile.cert.symm, hs]
    · refine ⟨text, ?_, hname⟩
      rw [hcontents, KeyMap.get_insert_of_ne _ _ hnameFile.key.symm,
        KeyMap.get_insert_of_ne _ _ hnameFile.cert.symm, htext]

open FileScript in
theorem meets_loadCert {draws : IdentityDraws sha256} {id : Uuid} {name : String}
    {entered : Option String} (overridden : Bool) (h : Settled layout history disk)
    (hdrawn : ∀ g, draws.generated = .ok g → g ∈ history.generated)
    (hid : layout.HasId disk id) (hname : Named layout entered name disk) :
    (loadCert layout.dataDir id name draws).Meets (IdentityDisk.perform umask)
      (Midway layout history umask) (Ends layout history fun identity after ↦
        (∀ written ∈ entered, trimmed written = written) →
          (Returned.ofIdentity layout overridden identity).OnDisk sha256 layout after) disk := by
  have hpair : layout.identity ∈ layout.pairs := List.mem_cons_self
  apply meets_bothExist h.midway
  cases hstored : storedPair disk.contents (CenterIdentity.deviceCertFile layout.dataDir)
      (CenterIdentity.deviceKeyFile layout.dataDir) with
  | some stored =>
    obtain ⟨certPem, keyPem⟩ := stored
    apply meets_readFile h.midway (storedPair_eq_some.mp hstored).1
    apply Script.meets_ofExcept
    refine ⟨h, fun identity hidentity htidy ↦ ?_⟩
    obtain ⟨rfl, rfl, rfl, hown⟩ := CenterIdentity.ofPem_eq_ok (mapError_eq_ok.mp hidentity)
    refine onDisk_of_stored (r := .ofIdentity layout overridden identity) hpair hstored hown ?_
    rintro named ⟨⟩
    exact ⟨hid, hname htidy⟩
  | none =>
    cases hgenerated : draws.generated with
    | error e => exact ⟨h, fun a ha ↦ nomatch ha⟩
    | ok g =>
      apply meets_persist h hpair (hdrawn g hgenerated) (h.missing_key hpair hstored)
      intro after hafter hcontents
      apply Script.meets_ofExcept
      refine ⟨hafter, fun identity hidentity htidy ↦ ?_⟩
      obtain ⟨rfl, rfl, hpem, hfingerprint⟩ :=
        CenterIdentity.ofGenerated_eq_ok (mapError_eq_ok.mp hidentity)
      apply onDisk_of_persisted hpair hcontents hpem hfingerprint
      rintro named ⟨⟩
      exact ⟨hid, hname htidy⟩

open FileScript in
/-- `load_or_create` finds the disk right before every call, and what it returns is on the disk. -/
theorem meets_loadOrCreate {overrideId : Option Uuid} {overrideName : Option String}
    {draws : IdentityDraws sha256} (overridden : Bool) (h : Settled layout history disk)
    (hdrawn : ∀ g, draws.generated = .ok g → g ∈ history.generated)
    (hsame : ∀ r ∈ history.returned, ∀ named ∈ r.named,
      (∀ id ∈ overrideId, named.1 = id) ∧ ∀ name ∈ overrideName, named.2 = trimmed name) :
    (loadOrCreate layout.dataDir overrideId overrideName draws).Meets (IdentityDisk.perform umask)
      (Midway layout history umask) (Ends layout history fun identity after ↦
        (∀ name ∈ enteredName layout disk overrideName draws, trimmed name = name) →
          (Returned.ofIdentity layout overridden identity).OnDisk sha256 layout after) disk := by
  apply Script.meets_bind (meets_loadDeviceId h fun r hr named hnamed ↦ (hsame r hr named hnamed).1)
  · rintro id middle ⟨hmiddle, hfound⟩
    obtain ⟨hid, hnameFile⟩ := hfound id rfl
    have hentered : enteredName layout middle overrideName draws =
        enteredName layout disk overrideName draws := by
      rw [enteredName, enteredName, KeyMap.contains_eq, KeyMap.contains_eq, hnameFile]
    apply Script.meets_bind
      (meets_loadName hmiddle hid fun r hr named hnamed ↦ (hsame r hr named hnamed).2)
    · rintro name last ⟨hlast, hnamed⟩
      rw [hentered] at hnamed
      obtain ⟨hid, hname⟩ := hnamed name rfl
      exact meets_loadCert overridden hlast hdrawn hid hname
    · rintro e last ⟨hlast, -⟩
      exact ⟨hlast, fun a ha ↦ nomatch ha⟩
  · rintro e middle ⟨hmiddle, -⟩
    exact ⟨hmiddle, fun a ha ↦ nomatch ha⟩

open FileScript in
/-- `load_or_generate` finds the disk right before every call, and what it returns is on the
disk. -/
theorem meets_loadOrGenerate {generated : Except CertError (Generated sha256)}
    (h : Settled layout history disk)
    (hdrawn : ∀ g, generated = .ok g → g ∈ history.generated) :
    (FileScript.loadOrGenerate layout.tls.cert layout.tls.key layout.tlsParent generated).Meets
      (IdentityDisk.perform umask) (Midway layout history umask)
      (Ends layout history fun identity after ↦
        (Returned.ofTls layout identity).OnDisk sha256 layout after) disk := by
  have hpair : layout.tls ∈ layout.pairs := by simp [IdentityLayout.pairs]
  apply meets_bothExist h.midway
  cases hstored : storedPair disk.contents layout.tls.cert layout.tls.key with
  | some stored =>
    obtain ⟨certPem, keyPem⟩ := stored
    obtain ⟨der, hbody, hleaf⟩ := h.readable hpair hstored
    apply meets_readFile h.midway (storedPair_eq_some.mp hstored).1
    apply meets_readFile h.midway (storedPair_eq_some.mp hstored).2
    apply Script.meets_ofExcept
    refine ⟨h, fun identity hidentity ↦ ?_⟩
    rw [hleaf] at hidentity
    cases hidentity
    exact onDisk_of_stored hpair hstored ⟨der, hbody, rfl⟩ (fun named hnamed ↦ nomatch hnamed)
  | none =>
    cases generated with
    | error e => exact ⟨h, fun a ha ↦ nomatch ha⟩
    | ok g =>
      have hpersist : (persist layout.tls.cert layout.tls.key g.1 >>= fun _ ↦
          (pure g.1 : FileScript Identity)).Meets (IdentityDisk.perform umask)
          (Midway layout history umask) (Ends layout history fun identity after ↦
            (Returned.ofTls layout identity).OnDisk sha256 layout after) disk := by
        apply meets_persist h hpair (hdrawn g rfl) (h.missing_key hpair hstored)
        intro after hafter hcontents
        refine ⟨hafter, fun identity hidentity ↦ ?_⟩
        cases hidentity
        exact onDisk_of_persisted hpair hcontents rfl rfl (fun named hnamed ↦ nomatch hnamed)
      cases hparent : layout.tlsParent with
      | none => exact hpersist
      | some dir => exact ⟨h.midway _, hpersist⟩

end Steps

/-! ## Whole sequences of runs -/

section Sequences

variable {layout : IdentityLayout} {s t : Installation sha256}

theorem Settled.mono {history : IdentityHistory sha256} {disk : IdentityDisk}
    {more : List (Generated sha256)} (h : Settled layout history disk) :
    Settled layout { history with generated := more ++ history.generated } disk where
  paired pair hpair keyPem hkey := by
    obtain ⟨g, hg, hfiles⟩ := h.paired pair hpair keyPem hkey
    exact ⟨g, List.mem_append_right _ hg, hfiles⟩
  kept := h.kept
  private_keys := h.private_keys

/-- A run that meets the condition leaves the disk settled, with what it has returned. -/
theorem settled_advance {α : Type} {script : FileScript α} {record : α → Returned}
    {drawn : Except CertError (Generated sha256)} {umask : FileMode} {cut : Option Nat}
    {tidy : Prop}
    (hscript : script.Meets (IdentityDisk.perform umask)
      (Midway layout { s.history with generated := drawn.toOption.toList ++ s.history.generated }
        umask)
      (Ends layout { s.history with generated := drawn.toOption.toList ++ s.history.generated }
        fun a after ↦ tidy → (record a).OnDisk sha256 layout after) s.disk)
    (htidy : cut = none → tidy) (hkey : RestrictsKey s script umask cut)
    (hstep : s.advance script record drawn umask cut = some t) :
    Settled layout t.history t.disk := by
  cases cut with
  | some n =>
    obtain ⟨⟨rest, after⟩, hcut, rfl⟩ := Option.map_eq_some_iff.mp hstep
    have hrest := hscript.cutOff hcut
    rcases hrest.cut_cases with ⟨c, hpending, hmidway⟩ | ⟨result, hends⟩
    · refine { toIntact := hmidway.toIntact, private_keys := fun pair hpair ↦ ?_ }
      apply (hmidway.private_keys pair hpair).resolve_right
      rintro ⟨hrestricts, howner⟩
      have hnot := hkey.resolve_left howner n rfl rest after hcut c hpending
      rw [hrestricts] at hnot
      cases hnot
    · exact hends.1
  | none =>
    obtain ⟨hsettled, hreturned⟩ := hscript.run
    cases hstep
    exact {
      paired := hsettled.paired
      kept := fun r hr ↦ by
        rcases List.mem_append.mp hr with hnew | hold
        · obtain ⟨a, hresult, rfl⟩ := Option.map_eq_some_iff.mp (Option.mem_toList.mp hnew)
          rw [toOption_eq_some] at hresult
          exact hreturned a hresult (htidy rfl)
        · exact hsettled.kept r hold
      private_keys := hsettled.private_keys }

theorem settled_step {run : IdentityRun sha256} (h : Settled layout s.history s.disk)
    (hkeeps : KeepsStored layout s run) (hstep : s.step layout run = some t) :
    Settled layout t.history t.disk := by
  cases run with
  | loadOrCreate overrideId overrideName draws umask cut =>
    obtain ⟨hsame, htidy, hkey⟩ := hkeeps
    refine settled_advance (meets_loadOrCreate _ h.mono ?_ hsame) htidy hkey hstep
    intro g hg
    simp [hg, Except.toOption]
  | loadOrGenerate generated umask cut =>
    refine settled_advance ?_ (fun _ ↦ trivial : cut = none → True) hkeeps hstep
    refine (meets_loadOrGenerate h.mono ?_).mono fun result after hends ↦
      ⟨hends.1, fun a ha _ ↦ hends.2 a ha⟩
    intro g hg
    simp [hg, Except.toOption]

/-- What is on one disk repeats. -/
theorem repeats_of_onDisk {disk : IdentityDisk} {later earlier : Returned}
    (hlater : later.OnDisk sha256 layout disk) (hearlier : earlier.OnDisk sha256 layout disk) :
    later.Repeats earlier := by
  intro _
  constructor
  · intro hpair
    have hcert : later.certPem = earlier.certPem := by
      have hstored := hlater.cert
      rw [hpair, hearlier.cert] at hstored
      exact (Option.some.inj hstored).symm
    obtain ⟨der, hder, hown⟩ := hlater.own
    obtain ⟨before, hbefore, hownBefore⟩ := hearlier.own
    rw [hcert, hbefore] at hder
    cases hder
    exact ⟨hcert, hown.trans hownBefore.symm⟩
  · intro named hnamed before hbefore
    obtain ⟨⟨s, hs, hid⟩, text, htext, hname⟩ := hlater.named named hnamed
    obtain ⟨⟨s', hs', hid'⟩, text', htext', hname'⟩ := hearlier.named before hbefore
    rw [hs] at hs'
    cases hs'
    rw [htext] at htext'
    cases htext'
    exact Prod.ext (Option.some.inj (hid.symm.trans hid')) (hname.symm.trans hname')

theorem Settled.identitySurvives (h : Settled layout s.history s.disk) : IdentitySurvives s where
  repeated := List.pairwise_of_forall_mem_list fun later hlater earlier hearlier ↦
    repeats_of_onDisk (h.kept later hlater) (h.kept earlier hearlier)
  one_pair r hr := by
    have honDisk := h.kept r hr
    obtain ⟨keyPem, hkey⟩ := Option.isSome_iff_exists.mp honDisk.key
    obtain ⟨g, hg, hcert, rfl⟩ := h.paired r.pair honDisk.used keyPem hkey
    exact ⟨g, hg, hcert, hkey⟩
  owner_only r hr := by
    have honDisk := h.kept r hr
    obtain ⟨keyPem, hkey⟩ := Option.isSome_iff_exists.mp honDisk.key
    obtain ⟨file, hfile, -⟩ := Option.map_eq_some_iff.mp hkey
    exact ⟨file, hfile, h.private_keys r.pair honDisk.used file hfile⟩

theorem settled_empty : Settled layout (.empty : Installation sha256).history
    (.empty : Installation sha256).disk where
  paired _ _ _ hkey := nomatch hkey
  kept _ hr := nomatch hr
  private_keys _ _ _ hfile := nomatch hfile

end Sequences

/-- In every sequence of runs, cut off or not, that keep what is stored and restrict the key, the
identity survives. -/
theorem identity_survives_crashes (sha256 : List UInt8 → Digest) (layout : IdentityLayout)
    (runs : List (IdentityRun sha256))
    (h : Run.Throughout (Installation.step layout) (KeepsStored layout) .empty runs) :
    Run.Always (Installation.step layout) IdentitySurvives .empty runs :=
  Run.always_of_throughout (fun s ↦ Settled layout s.history s.disk)
    (fun _ hs ↦ hs.identitySurvives) (fun _ _ _ hs hkeeps hstep ↦ settled_step hs hkeeps hstep) h
    settled_empty

/-- Where the default configuration keeps the files of a data directory. -/
def defaultLayout : IdentityLayout where
  dataDir := "data"
  tls := { cert := "data/daemon.cert.pem", key := "data/daemon.key.pem", distinct := by decide }
  tlsParent := some "data"
  avoids_id := by constructor <;> decide
  avoids_name := by constructor <;> decide
  shared_or_apart := .inr (by constructor <;> decide)

/-- A run that is cut off before the id is written, and a whole run after it. -/
theorem sample_identity_survives : Run.Always (Installation.step defaultLayout) IdentitySurvives
    (.empty : Installation sampleSha256)
      [.loadOrCreate none none sampleBootDraws.identity 0o022 (some 1),
        .loadOrCreate none none sampleBootDraws.identity 0o022 none] := by
  apply identity_survives_crashes
  refine ⟨⟨fun r hr ↦ (nomatch hr), fun hcut ↦ (nomatch hcut), .inr ?_⟩, fun t hstep ↦ ?_⟩
  · rintro n hn rest after hcut c hc
    cases hn
    cases hcut
    cases hc
    rfl
  · obtain rfl := Option.some.inj hstep
    refine ⟨⟨fun r hr ↦ (nomatch hr), fun _ name hname ↦ ?_, .inr ?_⟩, fun _ _ ↦ trivial⟩
    · obtain rfl := Option.some.inj hname
      decide
    · rintro n hn
      cases hn

/-! ## A crash before the key is restricted -/

/-- A later run takes over whatever pair is there, with its permissions. -/
theorem run_loadOrGenerate_of_stored {certPath keyPath certPem keyPem : String}
    {parent : Option String} {generated : Except CertError (Generated sha256)} {umask : FileMode}
    {disk : IdentityDisk} {der : List UInt8}
    (hstored : storedPair disk.contents certPath keyPath = some (certPem, keyPem))
    (hder : pemToDer certPem = .ok der) :
    (FileScript.loadOrGenerate certPath keyPath parent generated).run
        (IdentityDisk.perform umask) disk =
      (.ok { certPem, keyPem, fingerprint := certFingerprint (sha256 der) }, disk) := by
  obtain ⟨hcert, hkey⟩ := storedPair_eq_some.mp hstored
  simp [FileScript.loadOrGenerate, Script.run_bind, FileScript.run_readFile hcert,
    FileScript.run_readFile hkey, FileScript.ofResult, hstored, hder, Except.map, Except.mapError]

theorem step_loadOrGenerate_of_stored {layout : IdentityLayout} {s : Installation sha256}
    {generated : Except CertError (Generated sha256)} {umask : FileMode} {certPem keyPem : String}
    {der : List UInt8}
    (hstored : storedPair s.disk.contents layout.tls.cert layout.tls.key = some (certPem, keyPem))
    (hder : pemToDer certPem = .ok der) :
    Installation.step layout s (.loadOrGenerate generated umask none) = some {
      disk := s.disk
      history := {
        generated := generated.toOption.toList ++ s.history.generated
        returned := .ofTls layout { certPem, keyPem, fingerprint := certFingerprint (sha256 der) } ::
          s.history.returned } } := by
  rw [Installation.step, Installation.advance, run_loadOrGenerate_of_stored hstored hder]
  rfl

/-- A first run that is cut off after it has written the key. -/
def leavesKeyOpen (g : Generated sha256) : IdentityRun sha256 :=
  .loadOrGenerate (.ok g) 0o022 (some 4)

/-- The run after it returns an identity whose key everybody can read. -/
theorem key_stays_open (g : Generated sha256) :
    ¬ Run.Always (Installation.step defaultLayout) IdentitySurvives .empty
      [leavesKeyOpen g, .loadOrGenerate (.ok g) 0o022 none] := by
  intro h
  obtain ⟨der, -, hleaf, -⟩ := g.property
  have hfirst : ∃ s, Installation.step defaultLayout .empty (leavesKeyOpen g) = some s ∧
      s.disk = (IdentityDisk.write .empty 0o022 defaultLayout.tls.cert g.1.certPem).write 0o022
        defaultLayout.tls.key g.1.keyPem :=
    ⟨_, rfl, rfl⟩
  obtain ⟨s, hstep, hdisk⟩ := hfirst
  have hstored : storedPair s.disk.contents defaultLayout.tls.cert defaultLayout.tls.key =
      some (g.1.certPem, g.1.keyPem) := by
    rw [hdisk]
    exact storedPair_eq_some.mpr ⟨rfl, rfl⟩
  have hlast := (h.2 s hstep).2 _ (step_loadOrGenerate_of_stored hstored hleaf)
  obtain ⟨file, hfile, howner⟩ := hlast.owner_only _ List.mem_cons_self
  have hopen : s.disk.get defaultLayout.tls.key =
      some { content := g.1.keyPem, mode := 0o644 } := by
    rw [hdisk]
    rfl
  obtain rfl := Option.some.inj (hopen.symm.trans hfile)
  have hnot : ¬ (0o644 : FileMode).OwnerOnly := by decide
  exact hnot howner

/-- A run that is cut off between writing the key and restricting it leaves it open for good. -/
theorem crash_leaves_key_open : ¬ ∀ (sha256 : List UInt8 → Digest) (layout : IdentityLayout)
    (runs : List (IdentityRun sha256)),
    Run.Always (Installation.step layout) IdentitySurvives .empty runs := by
  intro h
  exact key_stays_open (sampleGenerated 1) (h sampleSha256 defaultLayout _)

end PhoneBridge.MessageCenter
