import DesignTokens.Decimal.Binary
import Mathlib

/-!
# Bits of doubles

The arithmetic that takes a double apart agrees with the one that the
operations on doubles are defined by.  Equality of doubles is therefore
symmetric, finite doubles are equal to themselves, and each of them is what its
bits stand for.
-/

namespace DesignTokens.Decimal

open Float.Model

/-! ## Sign, exponent and fraction -/

theorem toNat_unpackExponent (b : BitVec 64) :
    (@UnpackedFloat.unpackExponent Format.binary64 b).toNat
      = b.toNat / 2 ^ 52 % 2 ^ 11 := by
  simp [UnpackedFloat.unpackExponent, BitVec.extractLsb, BitVec.extractLsb',
    Nat.shiftRight_eq_div_pow]

/-! ## Finite doubles -/

theorem isFinite_iff (x : Float) :
    isFinite x = true ↔ x.toBits.toNat / 2 ^ 52 % 2 ^ 11 ≠ 2047 := by
  simp only [isFinite, Double.ofFloat, Nat.pow_eq]
  split
  · rename_i found
    simp only [true_iff]
    intro full
    rw [if_pos full] at found
    split at found <;> cases found
  · rename_i others
    simp only [Bool.false_eq_true, false_iff, Decidable.not_not]
    apply Decidable.byContradiction
    intro partly
    rw [if_neg partly] at others
    split at others
    · exact others _ _ _ rfl
    · exact others _ _ _ rfl

theorem unpackExponent_ne_of_isFinite {x : Float} (finite : isFinite x = true) :
    @UnpackedFloat.unpackExponent .binary64 x.toModel.toBits.toBitVec ≠ -1#_ := by
  intro full
  have value := congrArg BitVec.toNat full
  rw [toNat_unpackExponent] at value
  exact (isFinite_iff x).mp finite value

theorem compare_self_unpacked {u : UnpackedFloat} (number : u ≠ .notANumber) :
    u.compare u = some .eq := by
  cases u with
  | notANumber => exact absurd rfl number
  | infinity s => cases s <;> rfl
  | zero s => cases s <;> rfl
  | finite s m e positive =>
    cases s <;> simp [UnpackedFloat.compare, Std.ReflCmp.compare_self]

/-- A finite double is equal to itself. -/
theorem beq_self_of_isFinite {x : Float} (finite : isFinite x = true) : (x == x) = true := by
  have exponent := unpackExponent_ne_of_isFinite finite
  have number : x.toModel.unpack ≠ .notANumber := by
    simp only [Float.Model.unpack, UnpackedFloat.unpack, if_neg exponent]
    split
    · split <;> simp
    · simp
  show (x.toModel.unpack.compare x.toModel.unpack == some .eq) = true
  rw [compare_self_unpacked number]
  rfl

/-- Two doubles compared the other way round. -/
theorem compare_swap_unpacked (u v : UnpackedFloat) :
    v.compare u = (u.compare v).map Ordering.swap := by
  have magnitudes (m n : Nat) (d e : Int) :
      (compare e d).then (compare n m) = ((compare d e).then (compare m n)).swap := by
    rw [Ordering.swap_then, ← Std.OrientedCmp.eq_swap, ← Std.OrientedCmp.eq_swap]
  -- Magnitudes only count where both doubles are finite and have the same sign.
  rcases u with (_ | _) | _ | (_ | _) | ⟨_ | _, m, e, _⟩ <;>
    rcases v with (_ | _) | _ | (_ | _) | ⟨_ | _, n, d, _⟩ <;>
    first
      | rfl
      | exact congrArg some (magnitudes m n e d)
      | exact congrArg (fun order => some order.swap) (magnitudes m n e d)

theorem beq_comm (x y : Float) : (x == y) = (y == x) := by
  show (x.toModel.unpack.compare y.toModel.unpack == some .eq)
    = (y.toModel.unpack.compare x.toModel.unpack == some .eq)
  rw [compare_swap_unpacked y.toModel.unpack x.toModel.unpack]
  cases y.toModel.unpack.compare x.toModel.unpack with
  | none => rfl
  | some order => cases order <;> rfl

/-! ## Putting doubles together -/

theorem packComponents_unpacked (b : BitVec 64) :
    UnpackedFloat.packComponents .binary64
      (UnpackedFloat.Sign.ofBitVec (@UnpackedFloat.unpackSign .binary64 b))
      (@UnpackedFloat.unpackExponent .binary64 b) (@UnpackedFloat.unpackMantissa .binary64 b)
      = b := by
  have sign : ∀ v : BitVec 1, (UnpackedFloat.Sign.ofBitVec v).toBitVec = v := by decide
  simp only [UnpackedFloat.packComponents, sign, UnpackedFloat.unpackSign,
    UnpackedFloat.unpackExponent, UnpackedFloat.unpackMantissa, BitVec.extractLsb]
  ext i inside
  grind

theorem pack_subnormal (sign : UnpackedFloat.Sign) {m : Nat} (positive : 0 < m)
    (short : m < 2 ^ 52) :
    UnpackedFloat.pack .binary64 (.finite sign m (-1074) positive)
      = UnpackedFloat.packComponents .binary64 sign 0#_ (BitVec.ofNat 52 m) := by
  have digits : m.log2 < 52 := (Nat.log2_lt (by omega)).mpr short
  have exponent : ((-1074 : Int) + (Format.binary64.exponentBias : Nat)
      + (Format.binary64.mantissaBitsWithoutImplicit : Nat)).toNat = 1 := by decide
  rw [UnpackedFloat.pack]
  simp only [exponent]
  rw [if_neg (by decide), if_neg]
  show m.log2 + 1 ≠ 53
  omega

theorem pack_normal (sign : UnpackedFloat.Sign) {m : Nat} (positive : 0 < m)
    (long : 2 ^ 52 ≤ m) (short : m < 2 ^ 53) {e : Nat} (low : e < 2047) :
    UnpackedFloat.pack .binary64 (.finite sign m (e - 1075) positive)
      = UnpackedFloat.packComponents .binary64 sign (BitVec.ofNat 11 e) (BitVec.ofNat 52 m) := by
  have digits : m.log2 = 52 := (Nat.log2_eq_iff (by omega)).mpr ⟨long, short⟩
  have exponent : ((e - 1075 : Int) + (Format.binary64.exponentBias : Nat)
      + (Format.binary64.mantissaBitsWithoutImplicit : Nat)).toNat = e := by
    have bias : ((Format.binary64.exponentBias : Nat) : Int) = 1023 := rfl
    rw [bias]
    show (e - 1075 + 1023 + 52 : Int).toNat = e
    omega
  rw [UnpackedFloat.pack]
  simp only [exponent, digits]
  rw [if_neg (by show ¬ 2 ^ 11 ≤ e + 1; omega), if_pos (by decide)]

theorem toNat_one_append {w : Nat} (v : BitVec w) : (1#1 ++ v).toNat = 2 ^ w + v.toNat := by
  rw [BitVec.toNat_append, ← Nat.shiftLeft_add_eq_or_of_lt v.isLt, Nat.shiftLeft_eq]
  simp

theorem toNat_bias : ((Format.binary64.exponentBias : Nat) : Int) = 1023 := rfl

theorem toNat_width : ((Format.binary64.mantissaBitsWithoutImplicit : Nat) : Int) = 52 := rfl

section Fields

variable {b : BitVec 64}

theorem pack_unpack_of_small (small : @UnpackedFloat.unpackExponent .binary64 b = 0#_) :
    UnpackedFloat.pack .binary64 (UnpackedFloat.unpack .binary64 b) = b := by
  have parts := packComponents_unpacked b
  have fraction : (@UnpackedFloat.unpackMantissa .binary64 b).toNat < 2 ^ 52 := BitVec.isLt _
  rw [small] at parts
  rw [UnpackedFloat.unpack, if_neg (by rw [small]; decide), if_pos small]
  by_cases zero : @UnpackedFloat.unpackMantissa .binary64 b = 0#_
  · rw [zero] at parts
    rw [dif_pos zero]
    exact parts
  · have exponent : ((@UnpackedFloat.unpackExponent .binary64 b).toNat : Int)
        - ((Format.binary64.exponentBias : Nat)
          + (Format.binary64.mantissaBitsWithoutImplicit : Nat)) + 1 = -1074 := by
      rw [toNat_bias, toNat_width, small]
      decide
    rw [dif_neg zero]
    simp only [exponent]
    rw [pack_subnormal _ _ fraction, BitVec.ofNat_toNat, BitVec.setWidth_eq]
    exact parts

theorem pack_unpack_of_large (partly : @UnpackedFloat.unpackExponent .binary64 b ≠ -1#_)
    (large : @UnpackedFloat.unpackExponent .binary64 b ≠ 0#_) :
    UnpackedFloat.pack .binary64 (UnpackedFloat.unpack .binary64 b) = b := by
  have parts := packComponents_unpacked b
  have fraction : (@UnpackedFloat.unpackMantissa .binary64 b).toNat < 2 ^ 52 := BitVec.isLt _
  have field : (@UnpackedFloat.unpackExponent .binary64 b).toNat < 2 ^ 11 := BitVec.isLt _
  have notFull : (@UnpackedFloat.unpackExponent .binary64 b).toNat ≠ 2047 := fun full =>
    partly (BitVec.eq_of_toNat_eq full)
  rw [UnpackedFloat.unpack, if_neg partly, if_neg large]
  have exponent : ((@UnpackedFloat.unpackExponent .binary64 b).toNat : Int)
      - ((Format.binary64.exponentBias : Nat)
        + (Format.binary64.mantissaBitsWithoutImplicit : Nat))
      = (@UnpackedFloat.unpackExponent .binary64 b).toNat - 1075 := by
    rw [toNat_bias, toNat_width]
    omega
  have coefficient := toNat_one_append (@UnpackedFloat.unpackMantissa .binary64 b)
  have long : 2 ^ 52 ≤ (1#1 ++ @UnpackedFloat.unpackMantissa .binary64 b).toNat := by
    rw [coefficient]
    exact Nat.le_add_right _ _
  have short : (1#1 ++ @UnpackedFloat.unpackMantissa .binary64 b).toNat < 2 ^ 53 := by
    rw [coefficient]
    exact Nat.add_lt_add_left fraction _
  -- The leading one is not stored, and dropping it gives the fraction field again.
  have implicit : BitVec.ofNat 52 (1#1 ++ @UnpackedFloat.unpackMantissa .binary64 b).toNat
      = @UnpackedFloat.unpackMantissa .binary64 b := by
    apply BitVec.eq_of_toNat_eq
    rw [coefficient, BitVec.toNat_ofNat]
    exact (Nat.add_mod_left _ _).trans (Nat.mod_eq_of_lt fraction)
  simp only [exponent]
  rw [pack_normal _ _ long short (by omega), implicit, BitVec.ofNat_toNat, BitVec.setWidth_eq]
  exact parts

/-- Taking the bits of a finite double apart and putting them together again
gives them back. -/
theorem pack_unpack (partly : @UnpackedFloat.unpackExponent .binary64 b ≠ -1#_) :
    UnpackedFloat.pack .binary64 (UnpackedFloat.unpack .binary64 b) = b := by
  by_cases small : @UnpackedFloat.unpackExponent .binary64 b = 0#_
  · exact pack_unpack_of_small small
  · exact pack_unpack_of_large partly small

end Fields

/-- A finite double is what its bits stand for. -/
theorem ofBits_toBits {x : Float} (finite : isFinite x = true) : Float.ofBits x.toBits = x := by
  have bits := pack_unpack (unpackExponent_ne_of_isFinite finite)
  obtain ⟨⟨bits', valid⟩⟩ := x
  simp only [Float.ofBits, Float.toBits, Float.Model.ofBits, Float.Model.pack] at bits ⊢
  simp only [bits]

end DesignTokens.Decimal
