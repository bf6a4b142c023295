import Mathlib.Algebra.Ring.Int.Defs
import Mathlib.Algebra.Ring.Nat
import Mathlib.Data.List.Induction
import Mathlib.Data.Nat.Size

/-!
# Numbers as bytes

Big-endian numbers of a fixed width, the copying of a range from one byte array into another, and
the bytes of an integer of any size in two's complement.
-/

namespace PhoneBridge.Library.Bytes

/-- The number that some bytes denote, most significant byte first. -/
def ofBe (bytes : List UInt8) : Nat := bytes.foldl (fun acc b ↦ acc * 256 + b.toNat) 0

/-- The lowest `width` bytes of a number, most significant byte first. -/
def toBe : Nat → Nat → List UInt8
  | 0, _ => []
  | width + 1, n => toBe width (n / 256) ++ [UInt8.ofNat n]

/-- `System.arraycopy`: a range of `src` overwrites one of `dst`. -/
def arraycopy (src : List UInt8) (srcPos : Nat) (dst : List UInt8) (dstPos length : Nat) :
    Except String (List UInt8) :=
  if srcPos + length ≤ src.length ∧ dstPos + length ≤ dst.length then
    .ok (dst.take dstPos ++ ((src.drop srcPos).take length ++ dst.drop (dstPos + length)))
  else
    let (srcLength, dstLength) := (src.length, dst.length)
    .error (s!"src.length={srcLength} srcPos={srcPos} dst.length={dstLength} dstPos={dstPos}" ++
      s!" length={length}")

/-- The bits of an integer in two's complement, without the sign bit. -/
def bitLength (n : Int) : Nat := if 0 ≤ n then n.toNat.size else (-n - 1).toNat.size

/-- The shortest two's complement of an integer, most significant byte first. -/
def toByteArray (n : Int) : List UInt8 :=
  let length := bitLength n / 8 + 1
  (List.range length).map fun i ↦ UInt8.ofInt (n / 256 ^ (length - 1 - i))

/-! ## Fixed widths -/

@[simp]
theorem length_toBe (width n : Nat) : (toBe width n).length = width := by
  induction width generalizing n with
  | zero => rfl
  | succ width ih => rw [toBe, List.length_append, ih, List.length_singleton]

theorem toBe_zero (width : Nat) : toBe width 0 = List.replicate width 0 := by
  induction width with
  | zero => rfl
  | succ width ih => rw [toBe, Nat.zero_div, ih, List.replicate_succ']; rfl

/-- The bytes of a number split into the high and the low ones. -/
theorem toBe_add (high low n : Nat) :
    toBe (high + low) n = toBe high (n / 256 ^ low) ++ toBe low n := by
  induction low generalizing n with
  | zero => simp [toBe]
  | succ low ih =>
    rw [← Nat.add_assoc, toBe, ih, toBe, List.append_assoc, Nat.div_div_eq_div_mul, ← Nat.pow_succ']

theorem toBe_eq_map (width n : Nat) :
    toBe width n = (List.range width).map fun i ↦ UInt8.ofNat (n / 256 ^ (width - 1 - i)) := by
  induction width generalizing n with
  | zero => rfl
  | succ width ih =>
    rw [toBe, ih, List.range_succ, List.map_append, List.map_singleton]
    congr 1
    · refine List.map_congr_left fun i hi ↦ ?_
      have hexponent : width + 1 - 1 - i = width - 1 - i + 1 := by
        have hlt := List.mem_range.mp hi
        omega
      rw [hexponent, Nat.pow_succ', Nat.div_div_eq_div_mul]
    · rw [Nat.add_sub_cancel, Nat.sub_self, Nat.pow_zero, Nat.div_one]

@[simp]
theorem ofBe_nil : ofBe [] = 0 := rfl

theorem ofBe_concat (bytes : List UInt8) (b : UInt8) :
    ofBe (bytes ++ [b]) = ofBe bytes * 256 + b.toNat := by
  rw [ofBe, List.foldl_append]
  rfl

theorem ofBe_toBe (width n : Nat) : ofBe (toBe width n) = n % 256 ^ width := by
  induction width generalizing n with
  | zero => simp [toBe, Nat.mod_one]
  | succ width ih =>
    have hpower : 256 ^ (width + 1) = 256 * 256 ^ width := Nat.pow_succ'
    rw [toBe, ofBe_concat, ih, UInt8.toNat_ofNat', hpower, Nat.mod_mul]
    omega

theorem toBe_ofBe (bytes : List UInt8) : toBe bytes.length (ofBe bytes) = bytes := by
  induction bytes using List.reverseRecOn with
  | nil => rfl
  | append_singleton bytes b ih =>
    have hb : b.toNat < 256 := b.toNat_lt
    have hhigh : (ofBe bytes * 256 + b.toNat) / 256 = ofBe bytes := by omega
    have hlow : UInt8.ofNat (ofBe bytes * 256 + b.toNat) = b := by
      apply UInt8.toNat_inj.mp
      rw [UInt8.toNat_ofNat']
      omega
    rw [List.length_append, List.length_singleton, ofBe_concat, toBe, hhigh, ih, hlow]

theorem ofBe_lt (bytes : List UInt8) : ofBe bytes < 256 ^ bytes.length := by
  have hmod : ofBe bytes = ofBe bytes % 256 ^ bytes.length := by
    rw [← ofBe_toBe, toBe_ofBe]
  rw [hmod]
  exact Nat.mod_lt _ (Nat.pow_pos (by decide))

/-! ## Integers of any size -/

theorem ofInt_natCast (n : Nat) : UInt8.ofInt n = UInt8.ofNat n := by
  apply UInt8.toNat_inj.mp
  rw [UInt8.ofInt, UInt8.toNat_ofNat', UInt8.toNat_ofNat']
  omega

/-- A natural number has its own bytes, with at least one bit in front of the highest of them. -/
theorem toByteArray_natCast (n : Nat) : toByteArray n = toBe (n.size / 8 + 1) n := by
  have hlength : bitLength n = n.size := by simp [bitLength]
  rw [toByteArray, toBe_eq_map, hlength]
  refine List.map_congr_left fun i _ ↦ ?_
  rw [← ofInt_natCast, Int.natCast_ediv, Int.natCast_pow]
  rfl

theorem lt_pow_size (n : Nat) : n < 256 ^ (n.size / 8 + 1) := by
  calc
    n < 2 ^ n.size := Nat.lt_size_self n
    _ ≤ 2 ^ (8 * (n.size / 8 + 1)) := Nat.pow_le_pow_right (by decide) (by omega)
    _ = 256 ^ (n.size / 8 + 1) := Nat.pow_mul 2 8 _

/-! ## Copies -/

/-- A copy within the bounds replaces one part of the target and keeps the rest. -/
theorem arraycopy_append (skipped copied rest front old back : List UInt8)
    (h : old.length = copied.length) :
    arraycopy (skipped ++ (copied ++ rest)) skipped.length (front ++ (old ++ back)) front.length
      copied.length = .ok (front ++ (copied ++ back)) := by
  have hbounds : skipped.length + copied.length ≤ (skipped ++ (copied ++ rest)).length ∧
      front.length + copied.length ≤ (front ++ (old ++ back)).length := by
    simp only [List.length_append]
    omega
  rw [arraycopy, if_pos hbounds, ← List.drop_drop, List.take_left, List.drop_left, List.drop_left,
    List.take_left, ← h, List.drop_left]

end PhoneBridge.Library.Bytes
