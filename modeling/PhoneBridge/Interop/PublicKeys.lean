import PhoneBridge.Android.PublicKeys
import PhoneBridge.Crypto.Ecdh

/-!
# Public keys on both sides

Every point with coordinates of 256 bits crosses the wire unchanged. The desktop's type also holds
keys without the marker of the uncompressed form, which its own reader refuses, and its reader takes
points that are not on the curve, which the phone's provider refuses.
-/

namespace PhoneBridge.Interop

open Library Crypto Android.Ecdh

/-- The provider makes a key of the point. -/
def Takes (provider : Provider) (point : ECPoint) : Prop :=
  ∃ pub, provider.generatePublic point = .ok pub

variable {provider : Provider} {point : ECPoint}

theorem generatePublic_eq_ok_iff {pub : ECPublicKey} :
    provider.generatePublic point = .ok pub ↔ Takes provider point ∧ pub = ⟨point⟩ := by
  constructor
  · intro h
    have hpoint : pub.w = point := provider.w_eq h
    exact ⟨⟨pub, h⟩, by rw [← hpoint]⟩
  · rintro ⟨⟨made, hmade⟩, rfl⟩
    rw [hmade, ← provider.w_eq hmade]

/-- A text of 65 bytes is read to the point that they denote. -/
theorem publicKeyFromBase64_eq_ok_iff {key : PublicKey} {pub : ECPublicKey} :
    publicKeyFromBase64 provider.toKeyReader key.toBase64 = .ok pub ↔
      (key.bytes.head? = some 0x04 ∧ Takes provider (pointOf key.bytes)) ∧
        pub = ⟨pointOf key.bytes⟩ := by
  rw [PublicKey.toBase64, publicKeyFromBase64_encode provider.toKeyReader key.length_eq]
  split_ifs with hmarker
  · rw [generatePublic_eq_ok_iff, and_iff_right hmarker]
  · constructor
    · intro h
      cases h
    · intro h
      exact absurd h.1.1 hmarker

/-- The desktop reads a text exactly when it is the text of a key with the marker. -/
theorem fromBase64_eq_ok_iff {s : String} {key : PublicKey} :
    PublicKey.fromBase64 s = .ok key ↔ key.bytes.head? = some 0x04 ∧ key.toBase64 = s := by
  constructor
  · intro h
    unfold PublicKey.fromBase64 at h
    split at h
    · next bytes hbytes =>
      unfold PublicKey.fromBytes at h
      split_ifs at h with hlength hmarker
      obtain rfl := Except.ok.inj h
      exact ⟨hmarker, Base64.encode_of_decode hbytes⟩
    · cases h
  · rintro ⟨hmarker, rfl⟩
    exact PublicKey.fromBase64_encode key.length_eq hmarker

/-- The desktop reads its own text back when the marker is there. -/
theorem fromBase64_toBase64 (key : PublicKey) :
    PublicKey.fromBase64 key.toBase64 =
      if key.bytes.head? = some 0x04 then .ok key else .error .publicKeyFormat := by
  rw [PublicKey.fromBase64, PublicKey.toBase64, Base64.decode_encode]
  exact dif_pos key.length_eq

/-- What the phone writes for a point, as a key of the desktop. -/
def wireKey (x y : Nat) : PublicKey where
  bytes := 0x04 :: (Bytes.toBe 32 x ++ Bytes.toBe 32 y)
  length_eq := by simp

theorem toBase64_wireKey {x y : Nat} (hx : x < 2 ^ 256) (hy : y < 2 ^ 256) :
    toBase64 ⟨⟨x, y⟩⟩ = .ok (wireKey x y).toBase64 :=
  toBase64_eq_ok (uncompressedBytes_eq_ok hx hy)

/-- Public keys cross the wire in both directions and each side undoes its own conversion, as far as
the marker is there and the provider takes the point. -/
theorem public_keys_cross_iff (provider : Provider) :
    (∀ x y : Nat, x < 2 ^ 256 → y < 2 ^ 256 → ∃ text key,
      toBase64 ⟨⟨x, y⟩⟩ = .ok text ∧ PublicKey.fromBase64 text = .ok key ∧
      key.bytes = 0x04 :: (Bytes.toBe 32 x ++ Bytes.toBe 32 y) ∧
      (publicKeyFromBase64 provider.toKeyReader text = .ok ⟨⟨x, y⟩⟩ ↔ Takes provider ⟨x, y⟩)) ∧
    (∀ key : PublicKey,
      ((∃ pub, publicKeyFromBase64 provider.toKeyReader key.toBase64 = .ok pub ∧
          pub.w = pointOf key.bytes) ↔
        key.bytes.head? = some 0x04 ∧ Takes provider (pointOf key.bytes)) ∧
      (PublicKey.fromBase64 key.toBase64 = .ok key ↔ key.bytes.head? = some 0x04)) ∧
    ∀ s key, PublicKey.fromBase64 s = .ok key → key.toBase64 = s ∧
      ((∃ pub, publicKeyFromBase64 provider.toKeyReader s = .ok pub ∧ toBase64 pub = .ok s) ↔
        Takes provider (pointOf key.bytes)) := by
  refine ⟨fun x y hx hy ↦ ?_, fun key ↦ ⟨?_, ?_⟩, fun s key hkey ↦ ?_⟩
  · have hpoint : pointOf (wireKey x y).bytes = ⟨x, y⟩ := pointOf_wire hx hy
    refine ⟨_, wireKey x y, toBase64_wireKey hx hy, fromBase64_eq_ok_iff.mpr ⟨rfl, rfl⟩, rfl, ?_⟩
    rw [publicKeyFromBase64_eq_ok_iff, hpoint]
    exact ⟨fun h ↦ h.1.2, fun h ↦ ⟨⟨rfl, h⟩, rfl⟩⟩
  · constructor
    · rintro ⟨pub, hpub, -⟩
      exact (publicKeyFromBase64_eq_ok_iff.mp hpub).1
    · intro h
      exact ⟨_, publicKeyFromBase64_eq_ok_iff.mpr ⟨h, rfl⟩, rfl⟩
  · rw [fromBase64_eq_ok_iff]
    exact and_iff_left rfl
  · obtain ⟨hmarker, rfl⟩ := fromBase64_eq_ok_iff.mp hkey
    refine ⟨rfl, fun ⟨pub, hpub, _⟩ ↦ (publicKeyFromBase64_eq_ok_iff.mp hpub).1.2, fun htakes ↦ ?_⟩
    exact ⟨_, publicKeyFromBase64_eq_ok_iff.mpr ⟨⟨hmarker, htakes⟩, rfl⟩,
      toBase64_eq_ok (uncompressedBytes_pointOf key.length_eq hmarker)⟩

/-! ## A provider that checks the curve -/

/-- The prime of P-256. -/
def p256Prime : Int := 2 ^ 256 - 2 ^ 224 + 2 ^ 192 + 2 ^ 96 - 1

/-- The constant term of P-256. -/
def p256Constant : Int := 0x5ac635d8aa3a93e7b3ebbd55769886bc651d06b0cc53b0f63bce3c3e27d2604b

/-- `y² = x³ - 3x + b` over the prime field. -/
def onP256 (point : ECPoint) : Bool :=
  let (x, y) := (point.affineX, point.affineY)
  0 ≤ x && x < p256Prime && 0 ≤ y && y < p256Prime &&
    (y * y - (x * x * x - 3 * x + p256Constant)) % p256Prime == 0

/-- A provider that makes keys of the points of the curve. -/
def p256Provider : Provider where
  generatePublic point :=
    if onP256 point then .ok ⟨point⟩ else .error "point is not on the curve"
  w_eq {point pub} h := by
    split at h
    · rw [← Except.ok.inj h]
    · cases h
  base64Message _ := "bad Base64"

theorem generatePublic_p256 (point : ECPoint) : p256Provider.generatePublic point =
    if onP256 point then .ok ⟨point⟩ else .error "point is not on the curve" := rfl

/-- The base point of P-256. -/
def basePoint : Nat × Nat :=
  (0x6b17d1f2e12c4247f8bce6e563a440f277037d812deb33a0f4a13945d898c296,
    0x4fe342e2fe1a7f9b8ee7eb4a7c0f9e162bce33576b315ececbb6406837bf51f5)

theorem base_point_crosses : ∃ text key,
    toBase64 ⟨⟨basePoint.1, basePoint.2⟩⟩ = .ok text ∧ PublicKey.fromBase64 text = .ok key ∧
    publicKeyFromBase64 p256Provider.toKeyReader text = .ok ⟨⟨basePoint.1, basePoint.2⟩⟩ ∧
    key.toBase64 = text := by
  have hcurve : onP256 ⟨basePoint.1, basePoint.2⟩ = true := by decide +kernel
  have htakes : Takes p256Provider ⟨basePoint.1, basePoint.2⟩ := by
    refine ⟨⟨⟨basePoint.1, basePoint.2⟩⟩, ?_⟩
    rw [generatePublic_p256, if_pos hcurve]
  have h := public_keys_cross_iff p256Provider
  obtain ⟨text, key, htext, hkey, -, hback⟩ :=
    h.1 basePoint.1 basePoint.2 (by decide +kernel) (by decide +kernel)
  exact ⟨text, key, htext, hkey, hback.mpr htakes, (h.2.2 text key hkey).1⟩

/-- A key without the marker. -/
def unmarkedKey : PublicKey where
  bytes := List.replicate 65 0
  length_eq := rfl

/-- A key with the marker and the point `(0, 0)`, which is not on the curve. -/
def offCurveKey : PublicKey where
  bytes := 0x04 :: List.replicate 64 0
  length_eq := rfl

theorem unmarked_and_off_curve_keys :
    PublicKey.fromBase64 unmarkedKey.toBase64 = .error .publicKeyFormat ∧
      publicKeyFromBase64 p256Provider.toKeyReader unmarkedKey.toBase64 =
        .error "uncompressed pubkey must start with 0x04" ∧
      PublicKey.fromBase64 offCurveKey.toBase64 = .ok offCurveKey ∧
      publicKeyFromBase64 p256Provider.toKeyReader offCurveKey.toBase64 =
        .error "point is not on the curve" := by
  refine ⟨?_, ?_, ?_, ?_⟩
  · rw [fromBase64_toBase64]
    exact if_neg (by decide)
  · rw [PublicKey.toBase64, publicKeyFromBase64_encode _ unmarkedKey.length_eq]
    exact if_neg (by decide)
  · rw [fromBase64_toBase64]
    exact if_pos rfl
  · have hcurve : ¬ onP256 (pointOf offCurveKey.bytes) = true := by decide +kernel
    rw [PublicKey.toBase64, publicKeyFromBase64_encode _ offCurveKey.length_eq,
      if_pos (show offCurveKey.bytes.head? = some 0x04 from rfl), generatePublic_p256,
      if_neg hcurve]

end PhoneBridge.Interop
