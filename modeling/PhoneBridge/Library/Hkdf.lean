import Mathlib.Algebra.Order.Floor.Div
import Mathlib.Data.List.Basic
import Mathlib.Order.Nat

/-!
# Extract and expand

The key derivation of RFC 5869 over any keyed hash with values of a fixed width.
-/

namespace PhoneBridge.Library.Hkdf

/-- A keyed hash whose values have `width` bytes. -/
structure Mac (width : Nat) where
  hash : List UInt8 → List UInt8 → List UInt8
  length_hash : ∀ key message, (hash key message).length = width

variable {width : Nat} (mac : Mac width)

/-- `PRK = HMAC(salt, IKM)`. -/
def extract (salt ikm : List UInt8) : List UInt8 := mac.hash salt ikm

/-- `T(0)` is empty, `T(i) = HMAC(PRK, T(i-1) || info || i)`. -/
def block (prk info : List UInt8) : Nat → List UInt8
  | 0 => []
  | i + 1 => mac.hash prk (block prk info i ++ info ++ [UInt8.ofNat (i + 1)])

/-- `T(1) || … || T(n)`. -/
def blocks (prk info : List UInt8) (n : Nat) : List UInt8 :=
  (List.range n).flatMap fun i ↦ block mac prk info (i + 1)

/-- The first `length` bytes of as many blocks as they need. -/
def expand (prk info : List UInt8) (length : Nat) : List UInt8 :=
  (blocks mac prk info (length ⌈/⌉ width)).take length

/-- Derive `length` bytes of output keying material. -/
def derive (salt ikm info : List UInt8) (length : Nat) : List UInt8 :=
  expand mac (extract mac salt ikm) info length

variable (prk info : List UInt8)

theorem length_block (i : Nat) : (block mac prk info (i + 1)).length = width :=
  mac.length_hash _ _

@[simp]
theorem blocks_zero : blocks mac prk info 0 = [] := rfl

theorem blocks_succ (n : Nat) :
    blocks mac prk info (n + 1) = blocks mac prk info n ++ block mac prk info (n + 1) := by
  simp [blocks, List.range_succ]

@[simp]
theorem length_blocks (n : Nat) : (blocks mac prk info n).length = n * width := by
  induction n with
  | zero => simp
  | succ n ih => rw [blocks_succ, List.length_append, ih, length_block, Nat.succ_mul]

theorem blocks_prefix {m n : Nat} (h : m ≤ n) :
    blocks mac prk info m <+: blocks mac prk info n := by
  induction n, h using Nat.le_induction with
  | base => exact List.prefix_rfl
  | succ n _ ih =>
    rw [blocks_succ]
    exact ih.trans (List.prefix_append _ _)

/-- The output is the beginning of any blocks that are long enough. -/
theorem take_blocks {length n : Nat} (hwidth : 0 < width) (h : length ≤ n * width) :
    (blocks mac prk info n).take length = expand mac prk info length := by
  have hneeded : length ⌈/⌉ width ≤ n := by
    rwa [ceilDiv_le_iff_le_mul hwidth, Nat.mul_comm]
  have henough : length ≤ length ⌈/⌉ width * width := by
    rw [Nat.mul_comm]
    exact (ceilDiv_le_iff_le_mul hwidth).mp (le_refl _)
  obtain ⟨rest, hrest⟩ := blocks_prefix mac prk info hneeded
  rw [expand, ← hrest, List.take_append_of_le_length (by rwa [length_blocks])]

theorem length_derive (hwidth : 0 < width) (salt ikm info : List UInt8) (length : Nat) :
    (derive mac salt ikm info length).length = length := by
  have henough : length ≤ width * (length ⌈/⌉ width) := le_smul_ceilDiv hwidth
  rw [derive, expand, List.length_take, length_blocks, Nat.mul_comm, Nat.min_eq_left henough]

end PhoneBridge.Library.Hkdf
