import Mathlib.Data.List.Basic
import Mathlib.Tactic.Ring
import Mathlib.Tactic.IntervalCases

/-!
# Hexadecimal text

Big-endian hexadecimal digits of a natural number, in either letter case, and reading them back.
-/

namespace PhoneBridge.Library.Hex

/-- The value of a hexadecimal digit of either case. -/
def value (c : Char) : Option Nat :=
  if '0' ≤ c ∧ c ≤ '9' then some (c.toNat - 48)
  else if 'a' ≤ c ∧ c ≤ 'f' then some (c.toNat - 87)
  else if 'A' ≤ c ∧ c ≤ 'F' then some (c.toNat - 55)
  else none

/-- The lower-case digit of a value below sixteen. -/
def lower (n : Nat) : Char := if n < 10 then Char.ofNat (48 + n) else Char.ofNat (87 + n)

/-- The upper-case digit of a value below sixteen. -/
def upper (n : Nat) : Char := if n < 10 then Char.ofNat (48 + n) else Char.ofNat (55 + n)

/-- The number that a list of digits denotes, most significant digit first. -/
def number (cs : List Char) : Option Nat :=
  cs.foldlM (fun acc c ↦ (value c).map (acc * 16 + ·)) 0

/-- Exactly `width` digits of a number, most significant digit first. -/
def digits (digit : Nat → Char) (n : Nat) : Nat → List Char
  | 0 => []
  | width + 1 => digits digit (n / 16) width ++ [digit (n % 16)]

theorem value_lower {n : Nat} (h : n < 16) : value (lower n) = some n := by
  interval_cases n <;> decide

theorem value_upper {n : Nat} (h : n < 16) : value (upper n) = some n := by
  interval_cases n <;> decide

@[simp]
theorem length_digits (digit : Nat → Char) (n width : Nat) :
    (digits digit n width).length = width := by
  induction width generalizing n with
  | zero => rfl
  | succ width ih => simp [digits, ih]

/-- Reading the digits of a number that fits gives the number back. -/
theorem number_digits {digit : Nat → Char} (hdigit : ∀ n < 16, value (digit n) = some n)
    {n width : Nat} (h : n < 16 ^ width) : number (digits digit n width) = some n := by
  induction width generalizing n with
  | zero =>
    have hzero : n = 0 := by simpa using h
    subst hzero
    rfl
  | succ width ih =>
    have hfront : number (digits digit (n / 16) width) = some (n / 16) :=
      ih (by rw [pow_succ] at h; exact Nat.div_lt_of_lt_mul (by rwa [Nat.mul_comm]))
    have hlast : value (digit (n % 16)) = some (n % 16) := hdigit _ (Nat.mod_lt _ (by omega))
    unfold number at hfront ⊢
    rw [digits, List.foldlM_append, hfront]
    simp only [Option.bind_eq_bind, Option.bind_some, List.foldlM_cons, List.foldlM_nil, hlast,
      Option.map_some, Option.pure_def]
    congr 1
    omega

theorem exists_of_mem_digits {digit : Nat → Char} {n width : Nat} {c : Char}
    (h : c ∈ digits digit n width) : ∃ value < 16, c = digit value := by
  induction width generalizing n with
  | zero => simp [digits] at h
  | succ width ih =>
    rw [digits, List.mem_append, List.mem_singleton] at h
    cases h with
    | inl hfront => exact ih hfront
    | inr hlast => exact ⟨_, Nat.mod_lt _ (by decide), hlast⟩

/-- Text that denotes a number has digits only. -/
theorem isSome_value_of_number {cs : List Char} {n : Nat} (h : number cs = some n) :
    ∀ c ∈ cs, (value c).isSome = true := by
  unfold number at h
  generalize 0 = acc at h
  induction cs generalizing acc with
  | nil => simp
  | cons c cs ih =>
    rw [List.foldlM_cons, Option.bind_eq_bind, Option.bind_eq_some_iff] at h
    obtain ⟨next, hnext, h⟩ := h
    rw [Option.map_eq_some_iff] at hnext
    obtain ⟨digit, hdigit, -⟩ := hnext
    exact List.forall_mem_cons.mpr ⟨by rw [hdigit]; rfl, ih next h⟩

theorem value_lt {c : Char} {n : Nat} (h : value c = some n) : n < 16 := by
  unfold value at h
  split_ifs at h with hdecimal hlower hupper
  · obtain rfl := Option.some.inj h
    have hhigh : c.toNat ≤ 57 := hdecimal.2
    omega
  · obtain rfl := Option.some.inj h
    have hhigh : c.toNat ≤ 102 := hlower.2
    omega
  · obtain rfl := Option.some.inj h
    have hhigh : c.toNat ≤ 70 := hupper.2
    omega

theorem ascii_of_value {c : Char} (h : (value c).isSome = true) : c.toNat < 128 := by
  obtain ⟨n, hn⟩ := Option.isSome_iff_exists.mp h
  unfold value at hn
  split_ifs at hn with hdecimal hlower hupper
  · have hhigh : c.toNat ≤ 57 := hdecimal.2
    omega
  · have hhigh : c.toNat ≤ 102 := hlower.2
    omega
  · have hhigh : c.toNat ≤ 70 := hupper.2
    omega

end PhoneBridge.Library.Hex
