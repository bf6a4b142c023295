import PhoneBridge.Library.Base64
import PhoneBridge.Library.Bytes
import PhoneBridge.Library.Result

/-!
# Public keys in the Java platform's form

The part of `Ecdh.kt` that turns a public key into text and back, over coordinates that are integers
of any size. The key factory belongs to the platform and decides which points it takes.
-/

namespace PhoneBridge.Android.Ecdh

open Library

/-- `java.security.spec.ECPoint`. -/
structure ECPoint where
  affineX : Int
  affineY : Int
  deriving DecidableEq

/-- `java.security.interfaces.ECPublicKey`. -/
structure ECPublicKey where
  w : ECPoint
  deriving DecidableEq

/-- The parts of the Java platform that reading a key calls. -/
structure KeyReader where
  /-- `KeyFactory.generatePublic` for P-256: rejects what is not a point of the curve. -/
  generatePublic : ECPoint → Except String ECPublicKey
  /-- The message of a failed Base64 decoding. -/
  base64Message : String → String

/-- A platform on which the key of a specification has its point. -/
structure Provider extends KeyReader where
  w_eq : ∀ {point pub}, generatePublic point = .ok pub → pub.w = point

/-- Copy the last 32 bytes of `src`, or as many as there are, to the end of a slot of 32 bytes. -/
def writeUnsigned32 (src dst : List UInt8) (dstOff : Nat) : Except String (List UInt8) :=
  let len := min src.length 32
  let srcOff := src.length - len
  Bytes.arraycopy src srcOff dst (dstOff + (32 - len)) len

/-- Render a public key as the wire format: 65 bytes `0x04 || X(32) || Y(32)`. -/
def uncompressedBytes (pub : ECPublicKey) : Except String (List UInt8) := do
  let x := Bytes.toByteArray pub.w.affineX
  let y := Bytes.toByteArray pub.w.affineY
  ensure (x.length ≤ 33 ∧ y.length ≤ 33) "EC affine coords out of range"
  let out := (List.replicate 65 0).set 0 0x04
  let out ← writeUnsigned32 x out 1
  writeUnsigned32 y out 33

/-- Encode an uncompressed pubkey to base64 (URL-safe, no padding). -/
def toBase64 (pub : ECPublicKey) : Except String String := do
  let bytes ← uncompressedBytes pub
  return Base64.encode bytes

/-- Decode a base64 string of length 65 starting with `0x04` into a public key. -/
def publicKeyFromBase64 (reader : KeyReader) (b64 : String) : Except String ECPublicKey := do
  let raw ← match Base64.decodeLenient b64 with
    | some raw => Except.ok raw
    | none => .error (reader.base64Message b64)
  let size := raw.length
  ensure (raw.length = 65) s!"pubkey must be 65 bytes, got {size}"
  ensure (raw.head? = some 0x04) "uncompressed pubkey must start with 0x04"
  let x := Bytes.ofBe ((raw.drop 1).take 32)
  let y := Bytes.ofBe ((raw.drop 33).take 32)
  reader.generatePublic { affineX := x, affineY := y }

/-! ## A coordinate in its slot -/

theorem two_pow_width : 2 ^ 256 = 256 ^ 32 := Nat.pow_mul 2 8 32

theorem length_toByteArray (n : Nat) : (Bytes.toByteArray n).length = n.size / 8 + 1 := by
  rw [Bytes.toByteArray_natCast, Bytes.length_toBe]

/-- Leading zeros are filled in and a leading zero byte is dropped. -/
theorem writeUnsigned32_toByteArray {n : Nat} (front back : List UInt8) (h : n < 256 ^ 32) :
    writeUnsigned32 (Bytes.toByteArray n) (front ++ (List.replicate 32 0 ++ back)) front.length =
      .ok (front ++ (Bytes.toBe 32 n ++ back)) := by
  obtain ⟨len, hlen⟩ : ∃ len, len = min (n.size / 8 + 1) 32 := ⟨_, rfl⟩
  have hsrc : Bytes.toByteArray n =
      Bytes.toBe (n.size / 8 + 1 - len) (n / 256 ^ len) ++ (Bytes.toBe len n ++ []) := by
    have hwidth : n.size / 8 + 1 - len + len = n.size / 8 + 1 := by omega
    rw [List.append_nil, ← Bytes.toBe_add, hwidth, Bytes.toByteArray_natCast]
  have hhigh : Bytes.toBe (32 - len) (n / 256 ^ len) = List.replicate (32 - len) 0 := by
    have hzero : n / 256 ^ len = 0 := by
      apply Nat.div_eq_of_lt
      by_cases hfull : len = 32
      · rwa [hfull]
      · have hwhole : len = n.size / 8 + 1 := by omega
        rw [hwhole]
        exact Bytes.lt_pow_size n
    rw [hzero, Bytes.toBe_zero]
  have hslot : Bytes.toBe 32 n = List.replicate (32 - len) 0 ++ Bytes.toBe len n := by
    have hwidth : 32 = 32 - len + len := by omega
    rw [← hhigh, ← Bytes.toBe_add, ← hwidth]
  have hdst : front ++ (List.replicate 32 0 ++ back) =
      (front ++ List.replicate (32 - len) 0) ++ (List.replicate len 0 ++ back) := by
    have hwidth : 32 - len + len = 32 := by omega
    rw [List.append_assoc, ← List.append_assoc (List.replicate (32 - len) 0),
      List.replicate_append_replicate, hwidth]
  have hcopy := Bytes.arraycopy_append (Bytes.toBe (n.size / 8 + 1 - len) (n / 256 ^ len))
    (Bytes.toBe len n) [] (front ++ List.replicate (32 - len) 0) (List.replicate len 0) back
    (by simp)
  rw [← hsrc, ← hdst] at hcopy
  rw [writeUnsigned32]
  simp only [length_toByteArray, ← hlen]
  rw [hslot, List.append_assoc, ← List.append_assoc front]
  simpa using hcopy

theorem length_toByteArray_le {n : Nat} (h : n < 2 ^ 256) : (Bytes.toByteArray n).length ≤ 33 := by
  have hsize := Nat.size_le.mpr h
  rw [length_toByteArray]
  omega

/-- The wire form of every point with coordinates of 256 bits. -/
theorem uncompressedBytes_eq_ok {x y : Nat} (hx : x < 2 ^ 256) (hy : y < 2 ^ 256) :
    uncompressedBytes ⟨⟨x, y⟩⟩ = .ok (0x04 :: (Bytes.toBe 32 x ++ Bytes.toBe 32 y)) := by
  have hsizes : ensure ((Bytes.toByteArray x).length ≤ 33 ∧ (Bytes.toByteArray y).length ≤ 33)
      "EC affine coords out of range" = .ok () :=
    ensure_eq_ok.mpr ⟨length_toByteArray_le hx, length_toByteArray_le hy⟩
  have hout : (List.replicate 65 (0 : UInt8)).set 0 0x04 =
      [0x04] ++ (List.replicate 32 0 ++ List.replicate 32 0) := rfl
  have hfirst := writeUnsigned32_toByteArray [0x04] (List.replicate 32 0)
    (hx.trans_eq two_pow_width)
  have hsecond := writeUnsigned32_toByteArray (0x04 :: Bytes.toBe 32 x) []
    (hy.trans_eq two_pow_width)
  simp only [List.singleton_append, List.length_singleton] at hfirst
  simp only [List.append_nil, List.cons_append, List.length_cons, Bytes.length_toBe,
    Nat.reduceAdd] at hsecond
  simp only [uncompressedBytes, hsizes, bind, Except.bind, hout, List.singleton_append, hfirst,
    hsecond]

theorem toBase64_eq_ok {pub : ECPublicKey} {bytes : List UInt8}
    (h : uncompressedBytes pub = .ok bytes) : toBase64 pub = .ok (Base64.encode bytes) := by
  rw [toBase64, h]
  rfl

/-! ## Reading a key -/

/-- The point that the bytes of a key denote. -/
def pointOf (bytes : List UInt8) : ECPoint where
  affineX := Bytes.ofBe ((bytes.drop 1).take 32)
  affineY := Bytes.ofBe ((bytes.drop 33).take 32)

/-- A text of 65 bytes is read by its marker and by the key factory. -/
theorem publicKeyFromBase64_encode (reader : KeyReader) {bytes : List UInt8}
    (hlength : bytes.length = 65) :
    publicKeyFromBase64 reader (Base64.encode bytes) =
      if bytes.head? = some 0x04 then reader.generatePublic (pointOf bytes)
      else .error "uncompressed pubkey must start with 0x04" := by
  have hsize : ∀ message : String, ensure (bytes.length = 65) message = .ok () :=
    fun _ ↦ ensure_eq_ok.mpr hlength
  simp only [publicKeyFromBase64, Base64.decodeLenient_encode, hsize, bind, Except.bind]
  split_ifs with hmarker
  · rw [ensure, if_pos hmarker]
    rfl
  · rw [ensure, if_neg hmarker]

/-- The wire form keeps the coordinates. -/
theorem pointOf_wire {x y : Nat} (hx : x < 2 ^ 256) (hy : y < 2 ^ 256) :
    pointOf (0x04 :: (Bytes.toBe 32 x ++ Bytes.toBe 32 y)) = ⟨x, y⟩ := by
  have hwidth : (Bytes.toBe 32 x).length = 32 := Bytes.length_toBe 32 x
  have hsecond : (Bytes.toBe 32 y).take 32 = Bytes.toBe 32 y :=
    List.take_of_length_le (Bytes.length_toBe 32 y).le
  rw [pointOf, List.drop_succ_cons, List.drop_succ_cons, List.drop_zero,
    List.take_left' hwidth, List.drop_left' hwidth, hsecond, Bytes.ofBe_toBe, Bytes.ofBe_toBe,
    Nat.mod_eq_of_lt (hx.trans_eq two_pow_width), Nat.mod_eq_of_lt (hy.trans_eq two_pow_width)]

/-- The coordinates that a key denotes are written as its own bytes. -/
theorem uncompressedBytes_pointOf {bytes : List UInt8} (hlength : bytes.length = 65)
    (hmarker : bytes.head? = some 0x04) : uncompressedBytes ⟨pointOf bytes⟩ = .ok bytes := by
  obtain ⟨tail, rfl⟩ := List.head?_eq_some_iff.mp hmarker
  rw [List.length_cons] at hlength
  have hfirst : (tail.take 32).length = 32 := by
    rw [List.length_take]
    omega
  have hsecond : (tail.drop 32).length = 32 := by
    rw [List.length_drop]
    omega
  have hpoint : pointOf (0x04 :: tail) =
      ⟨Bytes.ofBe (tail.take 32), Bytes.ofBe (tail.drop 32)⟩ := by
    rw [pointOf, List.drop_succ_cons, List.drop_succ_cons, List.drop_zero,
      List.take_of_length_le hsecond.le]
  have hx := Bytes.ofBe_lt (tail.take 32)
  have hy := Bytes.ofBe_lt (tail.drop 32)
  rw [hfirst] at hx
  rw [hsecond] at hy
  have hxBack := Bytes.toBe_ofBe (tail.take 32)
  have hyBack := Bytes.toBe_ofBe (tail.drop 32)
  rw [hfirst] at hxBack
  rw [hsecond] at hyBack
  rw [hpoint, uncompressedBytes_eq_ok (hx.trans_eq two_pow_width.symm)
    (hy.trans_eq two_pow_width.symm), hxBack, hyBack, List.take_append_drop]

end PhoneBridge.Android.Ecdh
