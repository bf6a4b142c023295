import PhoneBridge.Crypto.PairingCode
import PhoneBridge.Library.Bytes
import PhoneBridge.Library.Hkdf
import PhoneBridge.Library.Loop
import PhoneBridge.Library.Result
import PhoneBridge.Library.Utf8

/-!
# The pairing code on the phone

`Hkdf.kt` and `PairingCode.kt`: the expansion as a loop over a byte counter that copies blocks into
the output, and the conversion of its first bytes with sign-extending shifts.
-/

namespace PhoneBridge.Android

open Library

namespace Hkdf

open Library.Hkdf (Mac block blocks)

/-- SHA-256 output size. -/
def hashLen : Nat := 32

variable (mac : Mac hashLen)

/-- The constructor of `SecretKeySpec`. -/
def secretKeySpec (key : List UInt8) : Except String (List UInt8) :=
  if key = [] then .error "Empty key" else .ok key

/-- The variables of the expansion. -/
structure Expansion where
  out : List UInt8
  written : Nat
  prev : List UInt8
  counter : Int8

namespace Expansion

def start (len : Nat) : Expansion where
  out := List.replicate len 0
  written := 0
  prev := []
  counter := 0

/-- One round: the next block, as much of it as still fits. -/
def round (prk info : List UInt8) (len : Nat) (s : Expansion) : Except String Expansion :=
  let counter := (s.counter.toInt32 + 1).toInt8
  let prev := mac.hash prk (s.prev ++ info ++ [counter.toUInt8])
  let take := min hashLen (len - s.written)
  (Bytes.arraycopy prev 0 s.out s.written take).map fun out ↦
    { out, written := s.written + take, prev, counter }

theorem written_of_round {prk info : List UInt8} {len : Nat} {s t : Expansion}
    (h : s.round mac prk info len = .ok t) :
    t.written = s.written + min hashLen (len - s.written) := by
  obtain ⟨out, -, rfl⟩ := map_eq_ok.mp h
  rfl

/-- `while (written < len)`. -/
def loop (prk info : List UInt8) (len : Nat) : WhileLoop Expansion String where
  running s := s.written < len
  body := round mac prk info len
  variant s := len - s.written
  decreases s t hrunning hround := by
    have hrunning : s.written < len := of_decide_eq_true hrunning
    have hwritten := written_of_round mac hround
    rw [hashLen] at hwritten
    omega

/-! ### Every round writes the next block -/

/-- As much of a block as still fits is copied behind what is written already. -/
theorem arraycopy_block {done next : List UInt8} {len : Nat} (hnext : next.length = hashLen)
    (hdone : done.length ≤ len) :
    let take := min hashLen (len - done.length)
    Bytes.arraycopy next 0 (done ++ List.replicate (len - done.length) 0) done.length take =
      .ok ((done ++ next).take len ++ List.replicate (len - (done.length + take)) 0) := by
  intro take
  have hfill : List.replicate (len - done.length) (0 : UInt8) =
      List.replicate take 0 ++ List.replicate (len - (done.length + take)) 0 := by
    have hsum : take + (len - (done.length + take)) = len - done.length := by omega
    rw [List.replicate_append_replicate, hsum]
  have htake : (next.take take).length = take := by
    rw [List.length_take]
    omega
  have hcopied : next.take (len - done.length) = next.take take := by
    rw [List.take_eq_take_iff, hnext]
    omega
  have hcopy := Bytes.arraycopy_append [] (next.take take) (next.drop take) done
    (List.replicate take 0) (List.replicate (len - (done.length + take)) 0) (by simp [htake])
  rw [List.nil_append, List.take_append_drop, ← hfill, htake] at hcopy
  rw [List.take_append, List.take_of_length_le hdone, hcopied, List.append_assoc]
  exact hcopy

variable {mac} {prk info : List UInt8} {len : Nat} {s : Expansion}

/-- The state after some rounds. -/
structure AfterRounds (mac : Mac hashLen) (prk info : List UInt8) (len rounds : Nat)
    (s : Expansion) : Prop where
  written : s.written = min len (rounds * hashLen)
  prev : s.prev = block mac prk info rounds
  counter : s.counter = Int8.ofNat rounds
  out : s.out = (blocks mac prk info rounds).take len ++ List.replicate (len - s.written) 0

theorem afterRounds_start : AfterRounds mac prk info len 0 (start len) where
  written := by simp [start]
  prev := rfl
  counter := rfl
  out := by simp [start]

theorem AfterRounds.round {rounds : Nat} (h : AfterRounds mac prk info len rounds s)
    (hrunning : s.written < len) :
    ∃ t, s.round mac prk info len = .ok t ∧ AfterRounds mac prk info len (rounds + 1) t := by
  have hwritten : s.written = rounds * hashLen := by
    have hmin := h.written
    omega
  have hdone : (blocks mac prk info rounds).length = s.written := by
    rw [Library.Hkdf.length_blocks, hwritten]
  have hcounter : (s.counter.toInt32 + 1).toInt8 = Int8.ofNat (rounds + 1) := by
    rw [h.counter]
    simp
  have hprev : mac.hash prk (s.prev ++ info ++ [(s.counter.toInt32 + 1).toInt8.toUInt8]) =
      block mac prk info (rounds + 1) := by
    rw [hcounter, h.prev]
    rfl
  have hout : s.out = blocks mac prk info rounds ++ List.replicate (len - s.written) 0 := by
    rw [h.out, List.take_of_length_le (by omega)]
  have hcopy := arraycopy_block (Library.Hkdf.length_block mac prk info rounds)
    (hdone.trans_le hrunning.le)
  rw [hdone, ← hout, ← Library.Hkdf.blocks_succ] at hcopy
  refine ⟨{
    out := (blocks mac prk info (rounds + 1)).take len ++
      List.replicate (len - (s.written + min hashLen (len - s.written))) 0
    written := s.written + min hashLen (len - s.written)
    prev := block mac prk info (rounds + 1)
    counter := Int8.ofNat (rounds + 1) }, ?_, ?_⟩
  · unfold Expansion.round
    dsimp only
    rw [hprev, hcounter, hcopy]
    rfl
  · refine ⟨?_, rfl, rfl, rfl⟩
    change s.written + min hashLen (len - s.written) = min len ((rounds + 1) * hashLen)
    rw [hwritten, Nat.succ_mul]
    omega

/-- The loop ends with the bytes that the standard defines. -/
theorem run_loop (mac : Mac hashLen) (prk info : List UInt8) (len : Nat) :
    ∃ t, (loop mac prk info len).run (start len) = .ok t ∧
      t.out = Library.Hkdf.expand mac prk info len := by
  have hround : ∀ s, (∃ rounds, AfterRounds mac prk info len rounds s) →
      (loop mac prk info len).running s = true → ∃ t, (loop mac prk info len).body s = .ok t ∧
        ∃ rounds, AfterRounds mac prk info len rounds t := by
    intro s ⟨rounds, hs⟩ hrunning
    obtain ⟨t, hbody, ht⟩ := hs.round (of_decide_eq_true hrunning)
    exact ⟨t, hbody, rounds + 1, ht⟩
  obtain ⟨t, hrun, ⟨rounds, ht⟩, hstopped⟩ :=
    WhileLoop.run_eq_ok _ hround ⟨0, afterRounds_start⟩
  have hfull : len ≤ t.written := not_lt.mp (of_decide_eq_false hstopped)
  have henough : len ≤ rounds * hashLen := by
    have hwritten := ht.written
    omega
  refine ⟨t, hrun, ?_⟩
  rw [ht.out, Nat.sub_eq_zero_of_le hfull, List.replicate_zero, List.append_nil,
    Library.Hkdf.take_blocks mac prk info (by decide) henough]

end Expansion

/-- RFC 5869 HKDF using HMAC-SHA256. -/
def hkdfSha256 (secret salt info : List UInt8) (len : Int) : Except String (List UInt8) := do
  ensure (1 ≤ len ∧ len ≤ 255 * hashLen) s!"HKDF output length out of range: {len}"
  let key ← secretKeySpec salt
  let prk := mac.hash key secret
  let expandKey ← secretKeySpec prk
  let s ← (Expansion.loop mac expandKey info len.toNat).run (Expansion.start len.toNat)
  return s.out

theorem secretKeySpec_eq_ok {key : List UInt8} (h : key ≠ []) : secretKeySpec key = .ok key :=
  if_neg h

/-- The phone derives the output keying material that the standard defines. -/
theorem hkdfSha256_eq_ok (secret salt info : List UInt8) (len : Int) (hsalt : salt ≠ [])
    (hlow : 1 ≤ len) (hhigh : len ≤ 255 * hashLen) :
    hkdfSha256 mac secret salt info len =
      .ok (Library.Hkdf.derive mac salt secret info len.toNat) := by
  have hprk : mac.hash salt secret ≠ [] := by
    apply List.ne_nil_of_length_pos
    rw [mac.length_hash]
    decide
  obtain ⟨t, hrun, hout⟩ := Expansion.run_loop mac (mac.hash salt secret) info len.toNat
  have hbounds : ensure (1 ≤ len ∧ len ≤ 255 * hashLen)
      s!"HKDF output length out of range: {len}" = .ok () := ensure_eq_ok.mpr ⟨hlow, hhigh⟩
  simp only [hkdfSha256, hbounds, secretKeySpec_eq_ok hsalt, secretKeySpec_eq_ok hprk, hrun, hout,
    bind, Except.bind]
  rfl

end Hkdf

/-! ## The code -/

namespace PairingCodeSpec

def hkdfSalt : String := "phonebridge/v1/pair"
def hkdfInfo : String := "phonebridge/v1/code"
def okmLen : Int := 4
def modulus : Int64 := 10000
def codeLen : Nat := 4

end PairingCodeSpec

/-- `array[i].toLong() and 0xFF`. -/
def unsignedAt (array : List UInt8) (i : Nat) : Except String Int64 :=
  match array[i]? with
  | some b => .ok (b.toInt8.toInt64 &&& 0xFF)
  | none =>
    let length := array.length
    .error s!"length={length}; index={i}"

/-- `padStart` of a string. -/
def padStart (s : String) (length : Nat) (padChar : Char) : String :=
  String.ofList (List.replicate (length - Text.utf16Length s.toList) padChar ++ s.toList)

/-- Derive a 4-digit decimal pairing code from a 32-byte ECDH shared secret. -/
def PairingCode.derive (mac : Library.Hkdf.Mac Hkdf.hashLen) (sharedSecret : List UInt8) :
    Except String String := do
  ensure (sharedSecret.length = 32) "shared secret must be 32 bytes"
  let okm ← Hkdf.hkdfSha256 mac sharedSecret (Utf8.bytes PairingCodeSpec.hkdfSalt.toList)
    (Utf8.bytes PairingCodeSpec.hkdfInfo.toList) PairingCodeSpec.okmLen
  let n := ((← unsignedAt okm 0) <<< 24) ||| ((← unsignedAt okm 1) <<< 16) |||
    ((← unsignedAt okm 2) <<< 8) ||| (← unsignedAt okm 3)
  let code := n % PairingCodeSpec.modulus
  return padStart (toString code.toInt) PairingCodeSpec.codeLen '0'

/-! ## The number of the code -/

theorem toNat_unsigned (b : UInt8) : (b.toInt8.toInt64 &&& 0xFF).toBitVec.toNat = b.toNat := by
  have hbytes : ∀ n < 256, ((UInt8.ofNat n).toInt8.toInt64 &&& 0xFF).toBitVec.toNat =
      (UInt8.ofNat n).toNat := by decide +kernel
  have hb := hbytes b.toNat b.toNat_lt
  rwa [UInt8.ofNat_toNat] at hb

theorem toNat_shl (b : UInt8) {bits : Nat} (hbits : bits ≤ 24) :
    ((b.toInt8.toInt64 &&& 0xFF) <<< Int64.ofNat bits).toBitVec.toNat = b.toNat * 2 ^ bits := by
  have hamount : ∀ n ≤ 24, ((Int64.ofNat n).toBitVec.smod 64).toNat = n := by decide
  have hfits : b.toNat * 2 ^ bits < 2 ^ 64 := by
    calc
      b.toNat * 2 ^ bits < 2 ^ 8 * 2 ^ bits :=
        Nat.mul_lt_mul_of_pos_right b.toNat_lt (Nat.two_pow_pos bits)
      _ ≤ 2 ^ 8 * 2 ^ 24 := Nat.mul_le_mul_left _ (Nat.pow_le_pow_right (by decide) hbits)
      _ < 2 ^ 64 := by decide
  rw [Int64.toBitVec_shiftLeft, BitVec.shiftLeft_eq', hamount bits hbits, BitVec.toNat_shiftLeft,
    Nat.shiftLeft_eq, toNat_unsigned, Nat.mod_eq_of_lt hfits]

/-- Bytes at different places do not meet. -/
theorem or_eq {a b c d : Nat} (hb : b < 2 ^ 8) (hc : c < 2 ^ 8) (hd : d < 2 ^ 8) :
    a * 2 ^ 24 ||| b * 2 ^ 16 ||| c * 2 ^ 8 ||| d = ((a * 256 + b) * 256 + c) * 256 + d := by
  have hlow : 2 ^ 8 * c + d = 2 ^ 8 * c ||| d := Nat.two_pow_add_eq_or_of_lt hd c
  have hmiddle := Nat.two_pow_add_eq_or_of_lt (show 2 ^ 8 * c + d < 2 ^ 16 by omega) b
  have hhigh := Nat.two_pow_add_eq_or_of_lt
    (show 2 ^ 16 * b + (2 ^ 8 * c + d) < 2 ^ 24 by omega) a
  rw [Nat.or_assoc, Nat.or_assoc, Nat.mul_comm a, Nat.mul_comm b, Nat.mul_comm c, ← hlow,
    ← hmiddle, ← hhigh]
  omega

/-- The four bytes that the conversion joins. -/
def joined (a b c d : UInt8) : Int64 :=
  (a.toInt8.toInt64 &&& 0xFF) <<< 24 ||| (b.toInt8.toInt64 &&& 0xFF) <<< 16 |||
    (c.toInt8.toInt64 &&& 0xFF) <<< 8 ||| (d.toInt8.toInt64 &&& 0xFF)

theorem toNat_joined (a b c d : UInt8) :
    (joined a b c d).toBitVec.toNat = Bytes.ofBe [a, b, c, d] := by
  calc
    _ = ((a.toInt8.toInt64 &&& 0xFF) <<< Int64.ofNat 24).toBitVec.toNat |||
        ((b.toInt8.toInt64 &&& 0xFF) <<< Int64.ofNat 16).toBitVec.toNat |||
        ((c.toInt8.toInt64 &&& 0xFF) <<< Int64.ofNat 8).toBitVec.toNat |||
        (d.toInt8.toInt64 &&& 0xFF).toBitVec.toNat := by
      simp only [joined, Int64.toBitVec_or, BitVec.toNat_or]
      rfl
    _ = a.toNat * 2 ^ 24 ||| b.toNat * 2 ^ 16 ||| c.toNat * 2 ^ 8 ||| d.toNat := by
      rw [toNat_shl a (by decide), toNat_shl b (by decide), toNat_shl c (by decide),
        toNat_unsigned]
    _ = ((a.toNat * 256 + b.toNat) * 256 + c.toNat) * 256 + d.toNat :=
      or_eq b.toNat_lt c.toNat_lt d.toNat_lt
    _ = _ := by simp [Bytes.ofBe]

theorem toInt_code (a b c d : UInt8) :
    (joined a b c d % PairingCodeSpec.modulus).toInt = (Bytes.ofBe [a, b, c, d] % 10000 : Nat) := by
  have hlt : Bytes.ofBe [a, b, c, d] < 256 ^ 4 := Bytes.ofBe_lt [a, b, c, d]
  have hpositive : 2 * (joined a b c d).toBitVec.toNat < 2 ^ 64 := by
    rw [toNat_joined]
    omega
  have hint : (joined a b c d).toInt = Bytes.ofBe [a, b, c, d] := by
    rw [← Int64.toInt_toBitVec, BitVec.toInt_eq_toNat_of_lt hpositive, toNat_joined]
  rw [Int64.toInt_mod, hint]
  rfl

theorem padStart_toString (n : Nat) :
    padStart (toString (n : Int)) PairingCodeSpec.codeLen '0' = Crypto.renderCode n := by
  have htext : (toString (n : Int)).toList = Nat.toDigits 10 n := by
    change (Nat.repr n).toList = Nat.toDigits 10 n
    rw [Nat.repr, String.toList_ofList]
  have hascii : ∀ c ∈ Nat.toDigits 10 n, c.toNat < 128 := fun c hc ↦
    Text.toNat_lt_of_isDigit (Nat.isDigit_of_mem_toDigits (by decide) (by decide) hc)
  rw [padStart, htext, Text.utf16Length_of_ascii hascii]
  rfl

/-- The code is the text of the number that the first bytes denote. -/
theorem derive_of_okm {mac : Library.Hkdf.Mac Hkdf.hashLen} {sharedSecret : List UInt8}
    {a b c d : UInt8} (hlength : sharedSecret.length = 32)
    (hokm : Hkdf.hkdfSha256 mac sharedSecret (Utf8.bytes PairingCodeSpec.hkdfSalt.toList)
      (Utf8.bytes PairingCodeSpec.hkdfInfo.toList) PairingCodeSpec.okmLen = .ok [a, b, c, d]) :
    PairingCode.derive mac sharedSecret =
      .ok (padStart (toString (joined a b c d % PairingCodeSpec.modulus).toInt)
        PairingCodeSpec.codeLen '0') := by
  have hsize : ensure (sharedSecret.length = 32) "shared secret must be 32 bytes" = .ok () :=
    ensure_eq_ok.mpr hlength
  have h0 : unsignedAt [a, b, c, d] 0 = .ok (a.toInt8.toInt64 &&& 0xFF) := rfl
  have h1 : unsignedAt [a, b, c, d] 1 = .ok (b.toInt8.toInt64 &&& 0xFF) := rfl
  have h2 : unsignedAt [a, b, c, d] 2 = .ok (c.toInt8.toInt64 &&& 0xFF) := rfl
  have h3 : unsignedAt [a, b, c, d] 3 = .ok (d.toInt8.toInt64 &&& 0xFF) := rfl
  simp only [PairingCode.derive, hsize, hokm, bind, Except.bind]
  simp only [h0, h1, h2, h3, joined, pure, Except.pure]

end PhoneBridge.Android
