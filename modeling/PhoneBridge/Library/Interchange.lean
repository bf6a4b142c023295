import PhoneBridge.Library.Kotlinx
import PhoneBridge.Library.Serde
import Mathlib.Data.List.Forall2

/-!
# Interchange between the two kinds of serializers

When a value that a generated serializer has written is read by a derived deserializer, and the
other way round. A decoder that accepts what an encoder writes exactly for related values does so
for options and for lists of them.
-/

namespace PhoneBridge.Library.Interchange

variable {ε α β : Type}

/-- An optional value that is written out with nulls and read as an optional field. -/
theorem serde_nullOr_eq_ok {encode : α → Json} {decode : Serde.Decoder β} {r : α → β → Prop}
    (hnull : ∀ a, encode a ≠ .null) (hdecode : ∀ a b, decode (encode a) = .ok b ↔ r a b)
    {x : Option α} {y : Option β} :
    Serde.nullOr decode (Kotlinx.encodeNullable encode x) = .ok y ↔ Option.Rel r x y := by
  cases x with
  | none => cases y <;> simp [Kotlinx.encodeNullable, Serde.nullOr]
  | some a =>
    have hsome : Serde.nullOr decode (encode a) = (decode (encode a)).map some := by
      unfold Serde.nullOr
      split
      · next h => exact absurd h (hnull a)
      · rfl
    rw [Kotlinx.encodeNullable, hsome, map_eq_ok]
    constructor
    · rintro ⟨b, hb, rfl⟩
      exact .some ((hdecode a b).mp hb)
    · rintro ⟨h⟩
      exact ⟨_, (hdecode _ _).mpr h, rfl⟩

/-- An optional value that is left out when it is absent and read as a nullable property. -/
theorem kotlinx_nullOr_eq_ok {encode : β → Json} {decode : Kotlinx.Decoder α} {r : α → β → Prop}
    (hnull : ∀ b, encode b ≠ .null) (hdecode : ∀ a b, decode (encode b) = .ok a ↔ r a b)
    {x : Option α} {y : Option β} :
    y.elim (.ok none) (Kotlinx.nullOr decode ∘ encode) = .ok x ↔ Option.Rel r x y := by
  cases y with
  | none => cases x <;> simp
  | some b =>
    have hsome : Kotlinx.nullOr decode (encode b) = (decode (encode b)).map some := by
      unfold Kotlinx.nullOr
      split
      · next h => exact absurd h (hnull b)
      · rfl
    rw [Option.elim_some, Function.comp_apply, hsome, map_eq_ok]
    constructor
    · rintro ⟨a, ha, rfl⟩
      exact .some ((hdecode a b).mp ha)
    · rintro ⟨h⟩
      exact ⟨_, (hdecode _ _).mpr h, rfl⟩

theorem rel_eq_iff {x y : Option α} : Option.Rel (fun a b ↦ a = b) x y ↔ x = y := by
  cases x <;> cases y <;> simp

/-- A decoder that reads back what was written reads back options. -/
theorem serde_nullOr_same {encode : α → Json} {decode : Serde.Decoder α}
    (hnull : ∀ a, encode a ≠ .null) (hdecode : ∀ a, decode (encode a) = .ok a) {x y : Option α} :
    Serde.nullOr decode (Kotlinx.encodeNullable encode x) = .ok y ↔ x = y :=
  (serde_nullOr_eq_ok hnull fun a b ↦ by simp [hdecode]).trans rel_eq_iff

theorem kotlinx_nullOr_same {encode : α → Json} {decode : Kotlinx.Decoder α}
    (hnull : ∀ a, encode a ≠ .null) (hdecode : ∀ a, decode (encode a) = .ok a) {x y : Option α} :
    y.elim (.ok none) (Kotlinx.nullOr decode ∘ encode) = .ok x ↔ x = y :=
  (kotlinx_nullOr_eq_ok hnull fun a b ↦ by simp [hdecode, @eq_comm _ b]).trans rel_eq_iff

/-- A list of decodings. -/
theorem mapM_eq_ok {encode : α → Json} {decode : Json → Except ε β} {r : α → β → Prop}
    (hdecode : ∀ a b, decode (encode a) = .ok b ↔ r a b) (xs : List α) (ys : List β) :
    xs.mapM (decode ∘ encode) = .ok ys ↔ List.Forall₂ r xs ys := by
  rw [mapM_eq_ok_iff]
  exact ⟨fun h ↦ h.imp fun a b ↦ (hdecode a b).mp, fun h ↦ h.imp fun a b ↦ (hdecode a b).mpr⟩

section Serde

open Serde Kotlinx

@[simp]
theorem optional_string {x y : Option String} :
    Serde.nullOr Serde.string (encodeNullable .str x) = .ok y ↔ x = y :=
  serde_nullOr_same (by simp) (by simp)

@[simp]
theorem optional_bool {x y : Option Bool} :
    Serde.nullOr Serde.bool (encodeNullable .bool x) = .ok y ↔ x = y :=
  serde_nullOr_same (by simp) (by simp)

@[simp]
theorem optional_i32 {x y : Option Int32} :
    Serde.nullOr i32 (encodeNullable (fun n ↦ .int n.toInt) x) = .ok y ↔ x = y :=
  serde_nullOr_same (by simp) (by simp)

@[simp]
theorem optional_i64 {x y : Option Int64} :
    Serde.nullOr i64 (encodeNullable (fun n ↦ .int n.toInt) x) = .ok y ↔ x = y :=
  serde_nullOr_same (by simp) (by simp)

@[simp]
theorem optional_unsigned {name : String} {type : Unsigned β} {x : Option Int32} {y : Option β} :
    Serde.nullOr (unsigned name type) (encodeNullable (fun n ↦ .int n.toInt) x) = .ok y ↔
      Option.Rel (fun n m ↦ n.toInt = (type.toNat m : Int)) x y :=
  serde_nullOr_eq_ok (by simp) fun _ _ ↦ unsigned_eq_ok

end Serde

section Kotlinx

open Kotlinx

variable {lexer : Lexer}

@[simp]
theorem nullable_string {x y : Option String} :
    y.elim (.ok none) (Kotlinx.nullOr string ∘ Json.str) = .ok x ↔ x = y :=
  kotlinx_nullOr_same (by simp) (by simp)

@[simp]
theorem nullable_boolean {x y : Option Bool} :
    y.elim (.ok none) (Kotlinx.nullOr (boolean lexer) ∘ Json.bool) = .ok x ↔ x = y :=
  kotlinx_nullOr_same (by simp) (by simp)

@[simp]
theorem nullable_int32 {x y : Option Int32} :
    y.elim (.ok none) (Kotlinx.nullOr (int lexer) ∘ fun n ↦ Json.int n.toInt) = .ok x ↔
      x = y :=
  kotlinx_nullOr_same (by simp) (by simp)

@[simp]
theorem nullable_int64 {x y : Option Int64} :
    y.elim (.ok none) (Kotlinx.nullOr (long lexer) ∘ fun n ↦ Json.int n.toInt) = .ok x ↔
      x = y :=
  kotlinx_nullOr_same (by simp) (by simp)

@[simp]
theorem nullable_unsigned {toNat : β → Nat} {x : Option Int32} {y : Option β} :
    y.elim (.ok none) (Kotlinx.nullOr (int lexer) ∘ fun n ↦ Json.int (toNat n)) = .ok x ↔
      Option.Rel (fun n m ↦ n.toInt = (toNat m : Int)) x y :=
  kotlinx_nullOr_eq_ok (by simp) fun _ _ ↦ (int_eq_ok lexer).trans eq_comm

/-- The fields of an object that leaves absent fields out. -/
theorem dataClass_objSkipNone {fields : List (String × Option Json)}
    (hnodup : (fields.map Prod.fst).Nodup) :
    dataClass (.objSkipNone fields) = .ok fun name ↦ (fields.lookup name).join := by
  rw [Json.objSkipNone, dataClass_obj]
  exact congrArg _ (funext fun name ↦ Json.lookup_filterMap name hnodup)

end Kotlinx

end PhoneBridge.Library.Interchange
