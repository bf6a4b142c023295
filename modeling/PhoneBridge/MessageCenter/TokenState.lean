import PhoneBridge.Library.Run
import PhoneBridge.MessageCenter.DisplayAuth

/-!
# The token in memory and the token on the disk

One process loads, rotates and revokes the display token while any step on the file system may fail.
Memory changes only after the temporary file has taken the place of the token file, so the two
copies never part.
-/

namespace PhoneBridge.MessageCenter

open Library

/-! ## Calls with failing steps -/

/-- The files, and whether there is a token file that is not UTF-8 text. -/
structure TokenDisk where
  files : Files
  garbled : Bool

/-- Why the token file cannot be read. -/
inductive ReadFault
  | notFound
  | other (reason : String)

/-- The step of `write_token_file` that fails. A failing write may leave anything in the temporary
file. -/
inductive WriteFault
  | createDir (reason : String)
  | writeTemp (left : Option String) (reason : String)
  | chmod (reason : String)
  | rename (reason : String)

/-- The messages of an error, outermost first. -/
abbrev ErrorChain := List String

section Calls

variable (configDir : String)

def tokenPath : String := configDir ++ "/" ++ tokenFile

def tempTokenPath : String := configDir ++ "/" ++ tempTokenFile

/-- Replace the token file. -/
def writeTokenFile (content : String) (fault : Option WriteFault) (disk : TokenDisk) :
    Except ErrorChain Unit × TokenDisk :=
  let path := tokenPath configDir
  let tmp := tempTokenPath configDir
  let written := { disk with files := writeTemp disk.files configDir content }
  match fault with
  | some (.createDir reason) => (.error [s!"creating parent dir {configDir}", reason], disk)
  | some (.writeTemp left reason) =>
    (.error [s!"writing temp token file {tmp}", reason],
      left.elim disk fun part ↦ { disk with files := writeTemp disk.files configDir part })
  | some (.chmod reason) => (.error [s!"chmod 0600 on {tmp}", reason], written)
  | some (.rename reason) => (.error [s!"rename {tmp} -> {path}", reason], written)
  | none =>
    match renameTemp written.files configDir with
    | some files => (.ok (), { files, garbled := false })
    | none => (.error [s!"rename {tmp} -> {path}", "No such file or directory"], written)

/-- The token in the file; `none` when the file is not found. -/
def readTokenFile (fault : Option ReadFault) (disk : TokenDisk) :
    Except ErrorChain (Option String) :=
  let path := tokenPath configDir
  match fault with
  | some .notFound => .ok none
  | some (.other reason) => .error [s!"reading display token from {path}: {reason}"]
  | none =>
    if disk.garbled then
      .error [s!"reading display token from {path}: stream did not contain valid UTF-8"]
    else (DisplayAuth.readToken disk.files configDir).mapError fun message ↦ [message]

namespace DisplayAuth

/-- Load the token, or generate a first one. -/
def loadOrGenerate (seed : TokenSeed) (readFault : Option ReadFault)
    (writeFault : Option WriteFault) (disk : TokenDisk) :
    Except ErrorChain DisplayAuth × TokenDisk :=
  let path := tokenPath configDir
  match readTokenFile configDir readFault disk with
  | .error chain => (.error chain, disk)
  | .ok (some token) => (.ok { path, current := token }, disk)
  | .ok none =>
    let token := generateTokenString seed
    match writeTokenFile configDir token writeFault disk with
    | (.error chain, disk) => (.error (s!"writing new display token to {path}" :: chain), disk)
    | (.ok (), disk) => (.ok { path, current := token }, disk)

/-- Replace the token by a fresh one, first in the file and then in memory. -/
def rotate (auth : DisplayAuth) (seed : TokenSeed) (fault : Option WriteFault)
    (disk : TokenDisk) : Except ErrorChain String × DisplayAuth × TokenDisk :=
  let newToken := generateTokenString seed
  match writeTokenFile configDir newToken fault disk with
  | (.error chain, disk) =>
    (.error (s!"rotating display token at {auth.path}" :: chain), auth, disk)
  | (.ok (), disk) => (.ok newToken, { auth with current := newToken }, disk)

/-- Revoking is rotating. -/
def revoke : DisplayAuth → TokenSeed → Option WriteFault → TokenDisk →
    Except ErrorChain String × DisplayAuth × TokenDisk :=
  rotate configDir

end DisplayAuth

/-! ## One process -/

/-- A process and its disk; the handle is there once the token has been loaded. -/
structure TokenProcess where
  disk : TokenDisk
  auth : Option DisplayAuth

inductive TokenCall
  | loadOrGenerate (seed : TokenSeed) (readFault : Option ReadFault)
    (writeFault : Option WriteFault)
  | rotate (seed : TokenSeed) (fault : Option WriteFault)
  | revoke (seed : TokenSeed) (fault : Option WriteFault)

namespace TokenProcess

/-- Perform a call; the result is the token. Only a loaded token can be rotated or revoked. -/
def perform (s : TokenProcess) : TokenCall → Option (Except ErrorChain String × TokenProcess)
  | .loadOrGenerate seed readFault writeFault =>
    match DisplayAuth.loadOrGenerate configDir seed readFault writeFault s.disk with
    | (.error chain, disk) => some (.error chain, { s with disk })
    | (.ok auth, disk) => some (.ok auth.current, { disk, auth := some auth })
  | .rotate seed fault =>
    s.auth.map fun auth ↦
      let (result, auth, disk) := auth.rotate configDir seed fault s.disk
      (result, { disk, auth := some auth })
  | .revoke seed fault =>
    s.auth.map fun auth ↦
      let (result, auth, disk) := auth.revoke configDir seed fault s.disk
      (result, { disk, auth := some auth })

def step (s : TokenProcess) (call : TokenCall) : Option TokenProcess :=
  (s.perform configDir call).map Prod.snd

end TokenProcess

end Calls

/-! ## What should hold -/

section Specification

variable (configDir : String)

/-- The trimmed content of the token file. -/
def tokenOnDisk (disk : TokenDisk) : Option String :=
  if disk.garbled then none else (disk.files.get (tokenPath configDir)).map trimmed

/-- The token file is the same on two disks. -/
def SameTokenFile (disk disk' : TokenDisk) : Prop :=
  disk'.garbled = disk.garbled ∧
    disk'.files.get (tokenPath configDir) = disk.files.get (tokenPath configDir)

/-- The token in memory is the one in the file, 64 digits, and admits itself only. -/
structure TokenConsistent (disk : TokenDisk) (auth : DisplayAuth) : Prop where
  on_disk : tokenOnDisk configDir disk = some auth.current
  length : auth.current.toList.length = 64
  digits : ∀ c ∈ auth.current.toList, isAsciiHexdigit c = true
  verified : ∀ candidate, auth.verify candidate = true ↔ candidate = auth.current

/-- A call that succeeds returns the token in memory, and one that fails changes neither the token
file nor memory. -/
def CallMeets (s : TokenProcess) (call : TokenCall) : Prop :=
  ∀ result t, s.perform configDir call = some (result, t) →
    (∀ token, result = .ok token → t.auth.map DisplayAuth.current = some token) ∧
      ∀ chain, result = .error chain → SameTokenFile configDir s.disk t.disk ∧ t.auth = s.auth

end Specification

/-! ## Valid tokens -/

section Tokens

variable {configDir : String} {disk disk' : TokenDisk} {auth : DisplayAuth}

/-- A valid token has 64 digits. -/
theorem length_of_isValidHex {token : String} (h : isValidHex token = true) :
    token.toList.length = 64 ∧ ∀ c ∈ token.toList, isAsciiHexdigit c = true := by
  rw [isValidHex, Bool.and_eq_true, decide_eq_true_iff, List.all_eq_true] at h
  obtain ⟨hlength, hdigits⟩ := h
  rw [Text.utf8Length_of_ascii fun c hc ↦ Hex.ascii_of_value (hdigits c hc)] at hlength
  exact ⟨hlength, hdigits⟩

theorem TokenConsistent.of_valid (hdisk : tokenOnDisk configDir disk = some auth.current)
    (hvalid : isValidHex auth.current = true) : TokenConsistent configDir disk auth where
  on_disk := hdisk
  length := (length_of_isValidHex hvalid).1
  digits := (length_of_isValidHex hvalid).2
  verified _ := DisplayAuth.verify_iff

theorem tokenOnDisk_congr (h : SameTokenFile configDir disk disk') :
    tokenOnDisk configDir disk' = tokenOnDisk configDir disk := by
  rw [tokenOnDisk, tokenOnDisk, h.1, h.2]

theorem TokenConsistent.congr (hsame : SameTokenFile configDir disk disk')
    (h : TokenConsistent configDir disk auth) : TokenConsistent configDir disk' auth where
  on_disk := (tokenOnDisk_congr hsame).trans h.on_disk
  length := h.length
  digits := h.digits
  verified := h.verified

theorem tokenPath_ne_temp : tokenPath configDir ≠ tempTokenPath configDir := by
  simp [tokenPath, tempTokenPath, tokenFile, tempTokenFile]

/-- Writing the temporary file leaves the token file. -/
theorem sameTokenFile_writeTemp (content : String) : SameTokenFile configDir disk
    { disk with files := writeTemp disk.files configDir content } :=
  ⟨rfl, KeyMap.get_insert_of_ne _ _ tokenPath_ne_temp⟩

/-- Replacing the token file either fails and leaves it, or gives it the new content. -/
theorem writeTokenFile_cases (configDir content : String) (fault : Option WriteFault)
    (disk : TokenDisk) :
    (∃ chain disk', writeTokenFile configDir content fault disk = (.error chain, disk') ∧
      SameTokenFile configDir disk disk') ∨
    ∃ disk', writeTokenFile configDir content fault disk = (.ok (), disk') ∧
      disk'.garbled = false ∧ disk'.files.get (tokenPath configDir) = some content := by
  have htemp : SameTokenFile configDir disk
      { disk with files := writeTemp disk.files configDir content } :=
    sameTokenFile_writeTemp content
  cases fault with
  | none =>
    obtain ⟨renamed, hrename, hfile⟩ := renameTemp_writeTemp disk.files configDir content
    refine .inr ⟨{ files := renamed, garbled := false }, ?_, rfl, hfile⟩
    simp only [writeTokenFile, hrename]
  | some fault =>
    left
    cases fault with
    | createDir reason => exact ⟨_, _, rfl, rfl, rfl⟩
    | writeTemp part reason =>
      cases part with
      | none => exact ⟨_, _, rfl, rfl, rfl⟩
      | some part => exact ⟨_, _, rfl, sameTokenFile_writeTemp part⟩
    | chmod reason => exact ⟨_, _, rfl, htemp⟩
    | rename reason => exact ⟨_, _, rfl, htemp⟩

/-- A generated token that has been written is consistent with the copy in memory. -/
theorem consistent_of_generated {path : String} {seed : TokenSeed} (hgarbled : disk.garbled = false)
    (hfile : disk.files.get (tokenPath configDir) = some (generateTokenString seed)) :
    TokenConsistent configDir disk { path, current := generateTokenString seed } := by
  apply TokenConsistent.of_valid
  · rw [tokenOnDisk, hgarbled, hfile, if_neg (by simp), Option.map_some,
      trimmed_generateTokenString]
  · exact isValidHex_generate seed

/-- A token that is read is the trimmed content of the file, and valid. -/
theorem readToken_eq_some {files : Files} {token : String}
    (h : DisplayAuth.readToken files configDir = .ok (some token)) :
    (files.get (tokenPath configDir)).map trimmed = some token ∧ isValidHex token = true := by
  simp only [DisplayAuth.readToken] at h
  split at h
  · next content hcontent =>
    split_ifs at h with hempty hinvalid
    obtain rfl : trimmed content = token := by simpa using h
    exact ⟨by rw [tokenPath, hcontent, Option.map_some], hinvalid⟩
  · cases h

theorem consistent_of_readTokenFile {path token : String} {fault : Option ReadFault}
    (h : readTokenFile configDir fault disk = .ok (some token)) :
    TokenConsistent configDir disk { path, current := token } := by
  cases fault with
  | some fault => cases fault <;> cases h
  | none =>
    simp only [readTokenFile] at h
    split_ifs at h with hgarbled
    obtain ⟨hfile, hvalid⟩ := readToken_eq_some (mapError_eq_ok.mp h)
    exact .of_valid (by rw [tokenOnDisk, if_neg hgarbled, hfile]) hvalid

end Tokens

/-! ## Calls -/

section Calls

variable {configDir : String} {disk disk' : TokenDisk} {auth auth' : DisplayAuth}
  {seed : TokenSeed} {readFault : Option ReadFault} {fault : Option WriteFault}

/-- Loading gives a consistent token, or leaves the token file. -/
theorem DisplayAuth.loadOrGenerate_spec {result : Except ErrorChain DisplayAuth}
    (h : loadOrGenerate configDir seed readFault fault disk = (result, disk')) :
    (∃ auth, result = .ok auth ∧ TokenConsistent configDir disk' auth) ∨
      ∃ chain, result = .error chain ∧ SameTokenFile configDir disk disk' := by
  simp only [loadOrGenerate] at h
  split at h
  · cases h
    exact .inr ⟨_, rfl, rfl, rfl⟩
  · next token hread =>
    cases h
    exact .inl ⟨_, rfl, consistent_of_readTokenFile hread⟩
  · rcases writeTokenFile_cases configDir (generateTokenString seed) fault disk with
      ⟨chain, after, hwrite, hsame⟩ | ⟨after, hwrite, hgarbled, hfile⟩
    · rw [hwrite] at h
      cases h
      exact .inr ⟨_, rfl, hsame⟩
    · rw [hwrite] at h
      cases h
      exact .inl ⟨_, rfl, consistent_of_generated hgarbled hfile⟩

/-- Rotating gives a consistent token, or leaves the token file and memory. -/
theorem DisplayAuth.rotate_spec {result : Except ErrorChain String}
    (h : auth.rotate configDir seed fault disk = (result, auth', disk')) :
    (∃ token, result = .ok token ∧ auth'.current = token ∧ TokenConsistent configDir disk' auth') ∨
      ∃ chain, result = .error chain ∧ SameTokenFile configDir disk disk' ∧ auth' = auth := by
  simp only [rotate] at h
  rcases writeTokenFile_cases configDir (generateTokenString seed) fault disk with
    ⟨chain, after, hwrite, hsame⟩ | ⟨after, hwrite, hgarbled, hfile⟩
  · rw [hwrite] at h
    cases h
    exact .inr ⟨_, rfl, hsame, rfl⟩
  · rw [hwrite] at h
    cases h
    exact .inl ⟨_, rfl, rfl, consistent_of_generated hgarbled hfile⟩

end Calls

/-! ## Sequences of calls -/

namespace TokenProcess

variable {configDir : String} {s t : TokenProcess} {call : TokenCall}
  {result : Except ErrorChain String}

theorem rotate_perform_spec {auth : DisplayAuth} {seed : TokenSeed} {fault : Option WriteFault}
    (hauth : s.auth = some auth)
    (h : ((auth.rotate configDir seed fault s.disk).1,
      { disk := (auth.rotate configDir seed fault s.disk).2.2
        auth := some (auth.rotate configDir seed fault s.disk).2.1 }) = (result, t)) :
    (∃ token auth, result = .ok token ∧ t.auth = some auth ∧ auth.current = token ∧
      TokenConsistent configDir t.disk auth) ∨
      ∃ chain, result = .error chain ∧ SameTokenFile configDir s.disk t.disk ∧ t.auth = s.auth := by
  generalize hrotate : auth.rotate configDir seed fault s.disk = outcome at h
  obtain ⟨result', auth', disk'⟩ := outcome
  cases h
  rcases DisplayAuth.rotate_spec hrotate with
    ⟨token, hresult, htoken, hconsistent⟩ | ⟨chain, hresult, hsame, rfl⟩
  · exact .inl ⟨token, auth', hresult, rfl, htoken, hconsistent⟩
  · exact .inr ⟨chain, hresult, hsame, hauth.symm⟩

/-- A call gives a consistent token in memory, or leaves the token file and memory. -/
theorem perform_spec (h : s.perform configDir call = some (result, t)) :
    (∃ token auth, result = .ok token ∧ t.auth = some auth ∧ auth.current = token ∧
      TokenConsistent configDir t.disk auth) ∨
      ∃ chain, result = .error chain ∧ SameTokenFile configDir s.disk t.disk ∧ t.auth = s.auth := by
  cases call with
  | loadOrGenerate seed readFault writeFault =>
    simp only [perform] at h
    split at h
    · next chain after hload =>
      cases h
      rcases DisplayAuth.loadOrGenerate_spec hload with ⟨_, ⟨⟩, -⟩ | ⟨_, -, hsame⟩
      exact .inr ⟨_, rfl, hsame, rfl⟩
    · next auth after hload =>
      cases h
      rcases DisplayAuth.loadOrGenerate_spec hload with ⟨_, ⟨⟩, hconsistent⟩ | ⟨_, ⟨⟩, -⟩
      exact .inl ⟨_, auth, rfl, rfl, rfl, hconsistent⟩
  | rotate seed fault =>
    obtain ⟨auth, hauth, h⟩ := Option.map_eq_some_iff.mp h
    exact rotate_perform_spec hauth h
  | revoke seed fault =>
    obtain ⟨auth, hauth, h⟩ := Option.map_eq_some_iff.mp h
    exact rotate_perform_spec hauth h

/-- The token in memory, if there is one, is consistent with the disk. -/
def Consistent (configDir : String) (s : TokenProcess) : Prop :=
  ∀ auth, s.auth = some auth → TokenConsistent configDir s.disk auth

theorem callMeets (configDir : String) (s : TokenProcess) (call : TokenCall) :
    CallMeets configDir s call := by
  intro result t h
  rcases perform_spec h with ⟨token, auth, rfl, hauth, rfl, -⟩ | ⟨chain, rfl, hsame, hauth⟩
  · exact ⟨by simp [hauth], by simp⟩
  · exact ⟨by simp, fun _ _ ↦ ⟨hsame, hauth⟩⟩

/-- A call keeps memory and disk consistent. -/
theorem consistent_step (hs : s.Consistent configDir) (h : s.step configDir call = some t) :
    t.Consistent configDir := by
  obtain ⟨⟨result, after⟩, hperform, rfl⟩ := Option.map_eq_some_iff.mp h
  rcases perform_spec hperform with ⟨_, auth, -, hauth, -, hconsistent⟩ | ⟨_, -, hsame, hauth⟩
  · intro auth' hauth'
    obtain rfl := Option.some.inj (hauth.symm.trans hauth')
    exact hconsistent
  · intro auth' hauth'
    exact (hs auth' (hauth.symm.trans hauth')).congr hsame

/-- In every sequence of calls with any failing steps the token in memory is the one in the file,
and a failed call changes neither. -/
theorem token_state_consistent (configDir : String) (disk : TokenDisk) (calls : List TokenCall) :
    Run.Always (step configDir) (Consistent configDir) { disk, auth := none } calls ∧
      Run.Throughout (step configDir) (CallMeets configDir) { disk, auth := none } calls := by
  constructor
  · apply Run.always_of_throughout (Consistent configDir) (fun _ h ↦ h)
      (fun u i v hu _ hv ↦ consistent_step hu hv) (Run.throughout_true _ _)
    intro auth hnone
    cases hnone
  · exact Run.throughout_of_at_step fun _ call _ s _ _ ↦ callMeets configDir s call

end TokenProcess

end PhoneBridge.MessageCenter
