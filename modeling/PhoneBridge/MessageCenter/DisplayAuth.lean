import PhoneBridge.Library.Hex
import PhoneBridge.Library.Text
import PhoneBridge.MessageCenter.Identity

/-!
# The token of the display endpoint

`display_auth.rs`: the token is kept in a file of the config directory and, in every process that has
loaded it, in memory. A candidate is compared with the copy in memory. The file is replaced by
writing a temporary file next to it and renaming that.
-/

namespace PhoneBridge.MessageCenter

open Library

def tokenFile : String := "display.token"

/-- `path.with_extension("token.tmp")` -/
def tempTokenFile : String := "display.token.tmp"

def tokenBytes : Nat := 32

/-- The random bytes of a token. -/
abbrev TokenSeed := { bytes : List UInt8 // bytes.length = tokenBytes }

def hexEncode (bytes : List UInt8) : List Char :=
  bytes.flatMap fun b ↦ Hex.digits Hex.lower b.toNat 2

def generateTokenString (seed : TokenSeed) : String := String.ofList (hexEncode seed.val)

def isAsciiHexdigit (c : Char) : Bool := (Hex.value c).isSome

def isValidHex (s : String) : Bool :=
  Text.utf8Length s.toList = tokenBytes * 2 && s.toList.all isAsciiHexdigit

/-- Handle to the loaded token. -/
structure DisplayAuth where
  path : String
  /-- current valid token, hex-encoded -/
  current : String
  deriving DecidableEq, Repr

/-- The first half of `write_token_file`: the temporary file. -/
def writeTemp (files : Files) (configDir content : String) : Files :=
  files.insert (configDir ++ "/" ++ tempTokenFile) content

/-- The second half: the temporary file takes the place of the token file. -/
def renameTemp (files : Files) (configDir : String) : Option Files :=
  (files.get (configDir ++ "/" ++ tempTokenFile)).map fun content ↦
    (files.remove (configDir ++ "/" ++ tempTokenFile)).insert (configDir ++ "/" ++ tokenFile) content

namespace DisplayAuth

/-- The token in the file; `none` when there is no file. -/
def readToken (files : Files) (configDir : String) : Except String (Option String) :=
  let path := configDir ++ "/" ++ tokenFile
  match files.get path with
  | some s =>
    let s := trimmed s
    if s = "" then .error s!"display token file is empty: {path}"
    else if ¬ isValidHex s then .error s!"display token file contains non-hex content: {path}"
    else .ok (some s)
  | none => .ok none

/-- Compare a candidate with the token in memory, without a branch on its bytes. -/
def verify (auth : DisplayAuth) (candidate : String) : Bool :=
  let curBytes := auth.current.toUTF8.data.toList
  let candBytes := candidate.toUTF8.data.toList
  if candBytes.length ≠ curBytes.length then false
  else ((curBytes.zip candBytes).foldl (fun diff ab ↦ diff ||| (ab.1 ^^^ ab.2)) 0) = (0 : UInt8)

end DisplayAuth

/-! ## What a token admits -/

/-- Folding differences never clears one. -/
theorem foldl_diff_eq_zero {pairs : List (UInt8 × UInt8)} {diff : UInt8} :
    pairs.foldl (fun diff ab ↦ diff ||| (ab.1 ^^^ ab.2)) diff = 0 ↔
      diff = 0 ∧ ∀ ab ∈ pairs, ab.1 = ab.2 := by
  induction pairs generalizing diff with
  | nil => simp
  | cons ab pairs ih =>
    rw [List.foldl_cons, ih, UInt8.or_eq_zero_iff, UInt8.xor_eq_zero_iff, and_assoc]
    simp

/-- Lists of one length whose entries agree are the same list. -/
theorem eq_iff_zip {as bs : List UInt8} (h : as.length = bs.length) :
    (∀ ab ∈ as.zip bs, ab.1 = ab.2) ↔ as = bs := by
  have hzip : List.Forall₂ Eq as bs ↔
      as.length = bs.length ∧ ∀ {a b}, (a, b) ∈ as.zip bs → a = b := List.forall₂_iff_zip
  rw [List.forall₂_eq_eq_eq] at hzip
  rw [hzip]
  exact ⟨fun hagree ↦ ⟨h, fun hmem ↦ hagree _ hmem⟩, fun hagree ab hab ↦ hagree.2 hab⟩

/-- Only the token in memory is admitted. -/
theorem DisplayAuth.verify_iff {auth : DisplayAuth} {candidate : String} :
    auth.verify candidate = true ↔ candidate = auth.current := by
  have hbytes : candidate = auth.current ↔
      auth.current.toUTF8.data.toList = candidate.toUTF8.data.toList := by
    rw [String.toUTF8_eq_toByteArray, String.toUTF8_eq_toByteArray, Array.toList_inj,
      ← ByteArray.ext_iff, String.toByteArray_inj, eq_comm]
  rw [hbytes]
  unfold DisplayAuth.verify
  by_cases hlength :
      candidate.toUTF8.data.toList.length = auth.current.toUTF8.data.toList.length
  · simp only [hlength, ne_eq, not_true_eq_false, reduceIte, decide_eq_true_eq,
      foldl_diff_eq_zero, true_and]
    exact eq_iff_zip hlength.symm
  · simp only [ne_eq, hlength, not_false_eq_true, reduceIte, Bool.false_eq_true, false_iff]
    intro hsame
    exact hlength (by rw [hsame])

/-! ## What is written is read back -/

/-- Every character of an encoded token is a lower-case digit. -/
theorem digit_of_mem_hexEncode {bytes : List UInt8} {c : Char} (h : c ∈ hexEncode bytes) :
    ∃ n < 16, c = Hex.lower n := by
  obtain ⟨b, -, hdigit⟩ := List.mem_flatMap.mp h
  exact Hex.exists_of_mem_digits hdigit

/-- A lower-case digit is a hexadecimal digit of one byte. -/
theorem lower_spec {n : Nat} (h : n < 16) : isAsciiHexdigit (Hex.lower n) = true ∧
    (Hex.lower n).toNat < 128 := by
  interval_cases n <;> decide

theorem length_hexEncode (bytes : List UInt8) : (hexEncode bytes).length = bytes.length * 2 := by
  induction bytes with
  | nil => rfl
  | cons b bytes ih =>
    rw [hexEncode, List.flatMap_cons, List.length_append, Hex.length_digits, ← hexEncode, ih,
      List.length_cons]
    ring

theorem isValidHex_generate (seed : TokenSeed) : isValidHex (generateTokenString seed) = true := by
  have hascii : ∀ c ∈ hexEncode seed.val, c.toNat < 128 := by
    intro c hc
    obtain ⟨n, hn, rfl⟩ := digit_of_mem_hexEncode hc
    exact (lower_spec hn).2
  have hdigits : (hexEncode seed.val).all isAsciiHexdigit = true := by
    rw [List.all_eq_true]
    intro c hc
    obtain ⟨n, hn, rfl⟩ := digit_of_mem_hexEncode hc
    exact (lower_spec hn).1
  rw [isValidHex, generateTokenString, String.toList_ofList, Text.utf8Length_of_ascii hascii,
    length_hexEncode, seed.property, hdigits]
  rfl

theorem trimmed_generateTokenString (seed : TokenSeed) :
    trimmed (generateTokenString seed) = generateTokenString seed := by
  apply trimmed_of_no_space
  intro c hc
  obtain ⟨n, hn, rfl⟩ := digit_of_mem_hexEncode hc
  exact isWhiteSpace_lower hn

/-- A process that loads the token after a generated one has been written knows that one. -/
theorem DisplayAuth.readToken_of_generated {files : Files} {configDir : String} {seed : TokenSeed}
    (h : files.get (configDir ++ "/" ++ tokenFile) = some (generateTokenString seed)) :
    readToken files configDir = .ok (some (generateTokenString seed)) := by
  have htrimmed := trimmed_generateTokenString seed
  have hvalid := isValidHex_generate seed
  have hnonempty : generateTokenString seed ≠ "" := by
    intro hempty
    rw [hempty] at hvalid
    revert hvalid
    decide
  simp [readToken, h, htrimmed, hnonempty, hvalid]

/-- What was written to the temporary file becomes the content of the token file. -/
theorem renameTemp_writeTemp (files : Files) (configDir content : String) : ∃ renamed,
    renameTemp (writeTemp files configDir content) configDir = some renamed ∧
      renamed.get (configDir ++ "/" ++ tokenFile) = some content := by
  have htemp : (writeTemp files configDir content).get (configDir ++ "/" ++ tempTokenFile) =
      some content :=
    KeyMap.get_insert_self _ _ _
  exact ⟨_, by rw [renameTemp, htemp, Option.map_some], KeyMap.get_insert_self _ _ _⟩

/-- A process that is started after a rotation has the new token. -/
theorem DisplayAuth.readToken_after_rotation (files : Files) (configDir : String)
    (seed : TokenSeed) : ∃ rotated,
    renameTemp (writeTemp files configDir (generateTokenString seed)) configDir = some rotated ∧
      readToken rotated configDir = .ok (some (generateTokenString seed)) := by
  obtain ⟨rotated, hrename, hfile⟩ := renameTemp_writeTemp files configDir (generateTokenString seed)
  exact ⟨rotated, hrename, readToken_of_generated hfile⟩

end PhoneBridge.MessageCenter
