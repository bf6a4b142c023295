import PhoneBridge.Library.Script
import PhoneBridge.MessageCenter.Identity

/-!
# Loading the identity call by call

`load_or_create` and `load_or_generate` as scripts over calls to the file system, in the order in
which the source makes them. Here a file also has permissions. A run to the end is `loadOrCreate` or
`loadOrGenerate` on the contents of the files.
-/

namespace PhoneBridge.MessageCenter

open Library Crypto

/-- The permission bits of a file. -/
abbrev FileMode := BitVec 9

/-- Nobody but the owner can read the file. -/
abbrev FileMode.OwnerOnly (mode : FileMode) : Prop := mode &&& 0o044 = 0

structure StoredFile where
  content : String
  mode : FileMode
  deriving DecidableEq

/-- The files with their permissions. -/
abbrev IdentityDisk := KeyMap String StoredFile

inductive FileCall
  | readToString (path : String)
  | pathExists (path : String)
  | createDirAll (path : String)
  | write (path content : String)
  | metadata (path : String)
  | setPermissions (path : String) (mode : FileMode)
  deriving DecidableEq

abbrev FileCall.Result : FileCall → Type
  | .readToString _ => Option String
  | .pathExists _ => Bool
  | .createDirAll _ => Unit
  | .write _ _ => Unit
  | .metadata _ => Option FileMode
  | .setPermissions _ _ => Unit

namespace IdentityDisk

/-- The permissions of a new file. -/
def newMode (umask : FileMode) : FileMode := 0o666 &&& ~~~umask

/-- `fs::write`: a file that is there keeps its permissions. -/
def write (disk : IdentityDisk) (umask : FileMode) (path content : String) : IdentityDisk :=
  disk.insert path {
    content
    mode := ((disk.get path).map StoredFile.mode).getD (newMode umask) }

/-- `fs::set_permissions` -/
def setPermissions (disk : IdentityDisk) (path : String) (mode : FileMode) : IdentityDisk :=
  disk.set path ((disk.get path).map fun file ↦ { file with mode })

/-- Make a call. -/
def perform (umask : FileMode) : (c : FileCall) → IdentityDisk → c.Result × IdentityDisk
  | .readToString path, disk => ((disk.get path).map StoredFile.content, disk)
  | .pathExists path, disk => (disk.contains path, disk)
  | .createDirAll _, disk => ((), disk)
  | .write path content, disk => ((), write disk umask path content)
  | .metadata path, disk => ((disk.get path).map StoredFile.mode, disk)
  | .setPermissions path mode, disk => ((), setPermissions disk path mode)

/-- What is in the files. -/
def contents (disk : IdentityDisk) : Files := fun path ↦ (disk.get path).map StoredFile.content

theorem get_contents (disk : IdentityDisk) (path : String) :
    (contents disk).get path = (disk.get path).map StoredFile.content := rfl

@[simp]
theorem contents_write (disk : IdentityDisk) (umask : FileMode) (path content : String) :
    contents (write disk umask path content) = (contents disk).insert path content := by
  ext1 other
  rw [get_contents, write, KeyMap.get_insert, KeyMap.get_insert, get_contents]
  split_ifs
  · rfl
  · rfl

@[simp]
theorem contents_setPermissions (disk : IdentityDisk) (path : String) (mode : FileMode) :
    contents (setPermissions disk path mode) = contents disk := by
  ext1 other
  rw [get_contents, get_contents, setPermissions, KeyMap.get_set]
  split_ifs with hother
  · rw [hother, Option.map_map]
    rfl
  · rfl

end IdentityDisk

/-- Why a run returns no identity. -/
inductive RunError
  | io (path : String)
  | identity (error : IdentityError)

/-- A script over the file system. -/
abbrev FileScript := Script FileCall.Result RunError

namespace FileScript

variable {sha256 : List UInt8 → Digest}

/-! ## Calls -/

def readToString (path : String) : FileScript (Option String) :=
  .call (.readToString path) fun content ↦ .done content

def pathExists (path : String) : FileScript Bool := .call (.pathExists path) fun found ↦ .done found

def createDirAll (path : String) : FileScript Unit := .call (.createDirAll path) fun _ ↦ .done ()

def write (path content : String) : FileScript Unit := .call (.write path content) fun _ ↦ .done ()

def metadata (path : String) : FileScript FileMode :=
  .call (.metadata path) fun mode : Option FileMode ↦
    match mode with
    | some mode => .done mode
    | none => .fail (.io path)

def setPermissions (path : String) (mode : FileMode) : FileScript Unit :=
  .call (.setPermissions path mode) fun _ ↦ .done ()

/-- Read a file that should be there. -/
def readFile (path : String) : FileScript String := do
  match ← readToString path with
  | some content => return content
  | none => .fail (.io path)

/-- `cert.exists() && key.exists()` -/
def bothExist (certPath keyPath : String) : FileScript Bool := do
  if ← pathExists certPath then pathExists keyPath
  else return false

/-- Write a pair of files and restrict the key to its owner. -/
def persist (certPath keyPath : String) (identity : Identity) : FileScript Unit := do
  write certPath identity.certPem
  write keyPath identity.keyPem
  let _ ← metadata keyPath
  setPermissions keyPath 0o600

/-- Return what a computation without calls has found. -/
def ofResult {α : Type} (result : Except IdentityError α) : FileScript α :=
  .ofExcept (result.mapError .identity)

/-! ## identity.rs -/

open CenterIdentity in
def loadDeviceId (dataDir : String) (overrideId : Option Uuid) (newId : Uuid) :
    FileScript Uuid := do
  match overrideId with
  | some id =>
    write (deviceIdFile dataDir) id.toText
    return id
  | none =>
    match ← readToString (deviceIdFile dataDir) with
    | some s =>
      match Uuid.parse (trimmed s) with
      | some id => return id
      | none => .fail (.identity .deviceId)
    | none =>
      write (deviceIdFile dataDir) newId.toText
      return newId

open CenterIdentity in
def loadName (dataDir : String) (overrideName : Option String) (draws : IdentityDraws sha256) :
    FileScript String := do
  match overrideName with
  | some name =>
    write (deviceNameFile dataDir) name
    return name
  | none =>
    match ← readToString (deviceNameFile dataDir) with
    | some s => return trimmed s
    | none =>
      let host := (draws.hostname.or (draws.etcHostname.map trimmed)).getD "phonebridge"
      write (deviceNameFile dataDir) host
      return host

open CenterIdentity in
def loadCert (dataDir : String) (deviceId : Uuid) (name : String) (draws : IdentityDraws sha256) :
    FileScript CenterIdentity := do
  if ← bothExist (deviceCertFile dataDir) (deviceKeyFile dataDir) then
    let certPem ← readFile (deviceCertFile dataDir)
    ofResult (ofPem sha256 deviceId name certPem)
  else
    match draws.generated with
    | .error e => .fail (.identity (.cert e))
    | .ok identity =>
      persist (deviceCertFile dataDir) (deviceKeyFile dataDir) identity
      ofResult (ofGenerated deviceId name identity)

def loadOrCreate (dataDir : String) (overrideId : Option Uuid) (overrideName : Option String)
    (draws : IdentityDraws sha256) : FileScript CenterIdentity := do
  let deviceId ← loadDeviceId dataDir overrideId draws.newId
  let name ← loadName dataDir overrideName draws
  loadCert dataDir deviceId name draws

/-! ## cert_loader.rs -/

/-- The directory of the certificate is `parent`, if its path has one. -/
def loadOrGenerate (certPath keyPath : String) (parent : Option String)
    (generated : Except CertError (Generated sha256)) : FileScript Identity := do
  if ← bothExist certPath keyPath then
    let certPem ← readFile certPath
    let keyPem ← readFile keyPath
    ofResult (((pemToDer certPem).mapError .pem).map fun der ↦
      { certPem, keyPem, fingerprint := certFingerprint (sha256 der) })
  else
    match generated with
    | .error e => .fail (.identity (.cert e))
    | .ok identity =>
      if let some dir := parent then createDirAll dir
      persist certPath keyPath identity
      return identity

section Runs

/-! ## Runs to the end -/

open CenterIdentity (deviceIdFile deviceNameFile deviceCertFile deviceKeyFile)

variable {α : Type} {umask : FileMode} {disk : IdentityDisk}

@[simp]
theorem run_readToString (path : String) :
    (readToString path).run (IdentityDisk.perform umask) disk =
      (.ok (disk.contents.get path), disk) := rfl

@[simp]
theorem run_write (path content : String) :
    (write path content).run (IdentityDisk.perform umask) disk =
      (.ok (), disk.write umask path content) := rfl

@[simp]
theorem run_createDirAll (path : String) :
    (createDirAll path).run (IdentityDisk.perform umask) disk = (.ok (), disk) := rfl

@[simp]
theorem run_bothExist (certPath keyPath : String) :
    (bothExist certPath keyPath).run (IdentityDisk.perform umask) disk =
      (.ok (storedPair disk.contents certPath keyPath).isSome, disk) := by
  simp only [bothExist, pathExists, Script.run_bind, Script.run, IdentityDisk.perform, storedPair,
    IdentityDisk.get_contents, KeyMap.contains_eq]
  cases disk.get certPath with
  | none => rfl
  | some cert =>
    cases hkey : disk.get keyPath with
    | none => simp [Script.run, IdentityDisk.perform, hkey]
    | some key => simp [Script.run, IdentityDisk.perform, hkey]

theorem run_readFile {path content : String} (h : disk.contents.get path = some content) :
    (readFile path).run (IdentityDisk.perform umask) disk = (.ok content, disk) := by
  simp [readFile, Script.run_bind, h]

theorem run_persist (certPath keyPath : String) (identity : Identity) :
    (persist certPath keyPath identity).run (IdentityDisk.perform umask) disk =
      (.ok (), ((disk.write umask certPath identity.certPem).write umask keyPath
        identity.keyPem).setPermissions keyPath 0o600) := by
  have hmode : ∃ mode, (((disk.write umask certPath identity.certPem).write umask keyPath
      identity.keyPem).get keyPath).map StoredFile.mode = some mode := by
    exact ⟨_, by rw [IdentityDisk.write, KeyMap.get_insert, if_pos rfl]; rfl⟩
  obtain ⟨mode, hmode⟩ := hmode
  simp [persist, Script.run_bind, metadata, setPermissions, Script.run, IdentityDisk.perform, hmode]

/-- The result of a run and the contents that it leaves behind. -/
def outcome (script : FileScript α) (umask : FileMode) (disk : IdentityDisk) :
    Except RunError α × Files :=
  ((script.run (IdentityDisk.perform umask) disk).1,
    (script.run (IdentityDisk.perform umask) disk).2.contents)

theorem outcome_loadDeviceId (dataDir : String) (overrideId : Option Uuid)
    (draws : IdentityDraws sha256) :
    (loadDeviceId dataDir overrideId draws.newId).outcome umask disk =
      ((CenterIdentity.loadDeviceId dataDir overrideId draws disk.contents).1.mapError .identity,
        (CenterIdentity.loadDeviceId dataDir overrideId draws disk.contents).2) := by
  unfold loadDeviceId CenterIdentity.loadDeviceId
  cases overrideId with
  | some id => simp [outcome, Script.run_bind, Except.mapError]
  | none =>
    simp only [outcome, Script.run_bind, run_readToString]
    cases disk.contents.get (deviceIdFile dataDir) with
    | none => simp [Script.run_bind, Except.mapError]
    | some content =>
      simp only
      cases Uuid.parse (trimmed content) with
      | none => rfl
      | some id => rfl

theorem outcome_loadName (dataDir : String) (overrideName : Option String)
    (draws : IdentityDraws sha256) :
    (loadName dataDir overrideName draws).outcome umask disk =
      (.ok (CenterIdentity.loadName dataDir overrideName draws disk.contents).1,
        (CenterIdentity.loadName dataDir overrideName draws disk.contents).2) := by
  unfold loadName CenterIdentity.loadName
  cases overrideName with
  | some name => simp [outcome, Script.run_bind]
  | none =>
    simp only [outcome, Script.run_bind, run_readToString]
    cases disk.contents.get (deviceNameFile dataDir) with
    | none => simp [Script.run_bind]
    | some content => rfl

theorem outcome_loadCert (dataDir : String) (deviceId : Uuid) (name : String)
    (draws : IdentityDraws sha256) :
    (loadCert dataDir deviceId name draws).outcome umask disk =
      ((CenterIdentity.loadCert dataDir deviceId name draws disk.contents).1.mapError .identity,
        (CenterIdentity.loadCert dataDir deviceId name draws disk.contents).2) := by
  simp only [loadCert, CenterIdentity.loadCert, outcome, Script.run_bind, run_bothExist]
  cases hpair : storedPair disk.contents (deviceCertFile dataDir) (deviceKeyFile dataDir) with
  | some pair =>
    have hcert := (storedPair_eq_some.mp hpair).1
    simp [Script.run_bind, run_readFile hcert, ofResult]
  | none =>
    cases draws.generated with
    | error e => rfl
    | ok identity => simp [Script.run_bind, run_persist, ofResult, writePair]

theorem outcome_bind {β : Type} (script : FileScript α) (next : α → FileScript β) :
    (script >>= next).outcome umask disk =
      match script.run (IdentityDisk.perform umask) disk with
      | (.ok a, after) => (next a).outcome umask after
      | (.error e, after) => (.error e, after.contents) := by
  rw [outcome, Script.run_bind]
  generalize script.run (IdentityDisk.perform umask) disk = first
  obtain ⟨result, after⟩ := first
  cases result <;> rfl

/-- A run of `load_or_create` to its end is `loadOrCreate` on the contents of the files. -/
theorem outcome_loadOrCreate (dataDir : String) (overrideId : Option Uuid)
    (overrideName : Option String) (draws : IdentityDraws sha256) :
    (loadOrCreate dataDir overrideId overrideName draws).outcome umask disk =
      ((CenterIdentity.loadOrCreate dataDir overrideId overrideName draws
          disk.contents).1.mapError .identity,
        (CenterIdentity.loadOrCreate dataDir overrideId overrideName draws disk.contents).2) := by
  have hid : (loadDeviceId dataDir overrideId draws.newId).outcome umask disk = _ :=
    outcome_loadDeviceId dataDir overrideId draws
  rw [loadOrCreate, outcome_bind, CenterIdentity.loadOrCreate]
  rw [outcome] at hid
  generalize (loadDeviceId dataDir overrideId draws.newId).run (IdentityDisk.perform umask) disk =
    first at hid ⊢
  generalize CenterIdentity.loadDeviceId dataDir overrideId draws disk.contents = prepared
    at hid ⊢
  obtain ⟨result, files⟩ := prepared
  obtain ⟨found, middle⟩ := first
  obtain ⟨hfound, hfiles⟩ := Prod.mk.inj hid
  dsimp only at hfound hfiles
  subst hfound hfiles
  cases result with
  | error e => rfl
  | ok deviceId =>
    have hname : (loadName dataDir overrideName draws).outcome umask middle = _ :=
      outcome_loadName dataDir overrideName draws
    simp only [Except.mapError, outcome_bind]
    rw [outcome] at hname
    generalize (loadName dataDir overrideName draws).run (IdentityDisk.perform umask) middle =
      second at hname ⊢
    obtain ⟨found, after⟩ := second
    obtain ⟨rfl, hafter⟩ := Prod.mk.inj hname
    simp only [outcome_loadCert, hafter]
    rfl

/-- A run of `load_or_generate` to its end is `loadOrGenerate` on the contents of the files. -/
theorem outcome_loadOrGenerate (certPath keyPath : String) (parent : Option String)
    (generated : Except CertError (Generated sha256)) :
    (loadOrGenerate certPath keyPath parent generated).outcome umask disk =
      ((MessageCenter.loadOrGenerate certPath keyPath generated disk.contents).1.mapError .identity,
        (MessageCenter.loadOrGenerate certPath keyPath generated disk.contents).2) := by
  simp only [loadOrGenerate, MessageCenter.loadOrGenerate, outcome, Script.run_bind, run_bothExist]
  cases hpair : storedPair disk.contents certPath keyPath with
  | some pair =>
    obtain ⟨hcert, hkey⟩ := storedPair_eq_some.mp hpair
    simp [Script.run_bind, run_readFile hcert, run_readFile hkey, ofResult]
  | none =>
    cases generated with
    | error e => rfl
    | ok identity =>
      cases parent with
      | none => simp [Script.run_bind, run_persist, writePair, Except.mapError]
      | some dir => simp [Script.run_bind, run_persist, writePair, Except.mapError]

end Runs
/-! ## Runs that may be cut off -/

section Meets

variable {α β : Type} {umask : FileMode} {disk : IdentityDisk}
  {during : FileCall → IdentityDisk → Prop} {post : Except RunError β → IdentityDisk → Prop}

theorem meets_readToString {path : String} {next : Option String → FileScript β} :
    (readToString path >>= next).Meets (IdentityDisk.perform umask) during post disk ↔
      during (.readToString path) disk ∧
        (next (disk.contents.get path)).Meets (IdentityDisk.perform umask) during post disk :=
  Iff.rfl

theorem meets_write {path content : String} {next : Unit → FileScript β} :
    (write path content >>= next).Meets (IdentityDisk.perform umask) during post disk ↔
      during (.write path content) disk ∧
        (next ()).Meets (IdentityDisk.perform umask) during post
          (disk.write umask path content) :=
  Iff.rfl

theorem meets_createDirAll {path : String} {next : Unit → FileScript β} :
    (createDirAll path >>= next).Meets (IdentityDisk.perform umask) during post disk ↔
      during (.createDirAll path) disk ∧
        (next ()).Meets (IdentityDisk.perform umask) during post disk :=
  Iff.rfl

theorem meets_bothExist {certPath keyPath : String} {next : Bool → FileScript β}
    (h : ∀ c, during c disk)
    (hnext : (next (storedPair disk.contents certPath keyPath).isSome).Meets
      (IdentityDisk.perform umask) during post disk) :
    (bothExist certPath keyPath >>= next).Meets (IdentityDisk.perform umask) during post disk := by
  refine ⟨h _, ?_⟩
  simp only [storedPair, IdentityDisk.get_contents] at hnext
  simp only [IdentityDisk.perform, KeyMap.contains_eq]
  cases hcert : disk.get certPath with
  | none =>
    simp only [hcert, Option.map_none] at hnext
    exact hnext
  | some cert =>
    refine ⟨h _, ?_⟩
    cases hkey : disk.get keyPath with
    | none =>
      simp only [hcert, hkey, Option.map_none] at hnext
      simp only [IdentityDisk.perform, KeyMap.contains_eq, hkey]
      exact hnext
    | some key =>
      simp only [hcert, hkey, Option.map_some] at hnext
      simp only [IdentityDisk.perform, KeyMap.contains_eq, hkey]
      exact hnext

theorem meets_readFile {path content : String} {next : String → FileScript β}
    (h : ∀ c, during c disk) (hread : disk.contents.get path = some content)
    (hnext : (next content).Meets (IdentityDisk.perform umask) during post disk) :
    (readFile path >>= next).Meets (IdentityDisk.perform umask) during post disk := by
  refine ⟨h _, ?_⟩
  rw [IdentityDisk.get_contents] at hread
  simp only [IdentityDisk.perform, hread]
  exact hnext

end Meets

end FileScript

end PhoneBridge.MessageCenter
