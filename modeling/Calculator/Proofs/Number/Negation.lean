import Mathlib
import Calculator.Number.Binary64

/-!
The sign in the arithmetic of `Float`: taking a number away is adding it with its sign turned.
-/

namespace Calculator.Binary64

open Float.Model UnpackedFloat

variable {spec : Float.Model.Format}

theorem unpackSign_packComponents (sign : Sign) (exponent : BitVec spec.exponentBits)
    (mantissa : BitVec spec.mantissaBitsWithoutImplicit) :
    unpackSign (packComponents spec sign exponent mantissa) = sign.toBitVec := by
  ext i hi
  have h0 : i = 0 := by omega
  simp [unpackSign, packComponents, BitVec.getLsbD_append, BitVec.getElem_append, h0]

theorem ofBitVec_toBitVec (sign : Sign) : Sign.ofBitVec sign.toBitVec = sign := by
  cases sign <;> rfl

theorem unpack_packComponents_neg (sign : Sign) (exponent : BitVec spec.exponentBits)
    (mantissa : BitVec spec.mantissaBitsWithoutImplicit) :
    UnpackedFloat.unpack spec (packComponents spec (-sign) exponent mantissa) =
      (UnpackedFloat.unpack spec (packComponents spec sign exponent mantissa)).neg := by
  unfold UnpackedFloat.unpack
  simp only [unpackMantissa_packComponents, unpackExponent_packComponents, unpackSign_packComponents,
    ofBitVec_toBitVec]
  split
  · split <;> rfl
  split
  · split <;> rfl
  · rfl

theorem unpack_pack_neg (f : UnpackedFloat) :
    UnpackedFloat.unpack .binary64 (UnpackedFloat.pack .binary64 f.neg) =
      (UnpackedFloat.unpack .binary64 (UnpackedFloat.pack .binary64 f)).neg := by
  cases f with
  | notANumber => rfl
  | infinity s => exact unpack_packComponents_neg s _ _
  | zero s => exact unpack_packComponents_neg s _ _
  | finite s m e h =>
    unfold UnpackedFloat.pack UnpackedFloat.neg
    dsimp only
    split
    · exact unpack_packComponents_neg s _ _
    split
    · exact unpack_packComponents_neg s _ _
    · exact unpack_packComponents_neg s _ _

theorem sub_eq_add_neg (x y : UnpackedFloat) :
    UnpackedFloat.sub spec x y = UnpackedFloat.add spec x y.neg := by
  cases x with
  | notANumber => rfl
  | infinity s => cases y <;> rfl
  | zero s => cases y <;> rfl
  | finite s m e h =>
    cases y with
    | notANumber => rfl
    | infinity t => rfl
    | zero t => rfl
    | finite t n k h' =>
      have ht : ∀ j : Nat, (-t).apply j = -t.apply j := by
        intro j
        cases t with
        | negative => exact (Int.neg_neg _).symm
        | positive => rfl
      simp only [UnpackedFloat.sub, UnpackedFloat.add, UnpackedFloat.neg, ht, Int.sub_eq_add_neg]

theorem toNat_packComponents (sign : Sign) (exponent : BitVec 11) (mantissa : BitVec 52) :
    (packComponents .binary64 sign exponent mantissa).toNat =
      (sign.toBitVec.toNat * 2 ^ 11 + exponent.toNat) * 2 ^ 52 + mantissa.toNat := by
  unfold packComponents
  rw [BitVec.toNat_append, BitVec.toNat_append, ← Nat.shiftLeft_add_eq_or_of_lt exponent.isLt,
    ← Nat.shiftLeft_add_eq_or_of_lt mantissa.isLt, Nat.shiftLeft_eq, Nat.shiftLeft_eq]

theorem toNat_ofMagnitude (negative : Bool) {m : Nat} (hm : m < 2 ^ 63) :
    (ofMagnitude negative m).bits.toNat = if negative then 2 ^ 63 + m else m := by
  refine UInt64.toNat_ofNat_of_lt' ?_
  rw [UInt64.size]
  split <;> omega

/-- The bits of a number are its sign, its exponent and its fraction. -/
theorem toBitVec_ofMagnitude (negative : Bool) {m : Nat} (hm : m < 2 ^ 63) :
    (ofMagnitude negative m).bits.toBitVec =
      packComponents .binary64 (if negative then .negative else .positive)
        (BitVec.ofNat 11 (m / 2 ^ 52)) (BitVec.ofNat 52 m) := by
  refine BitVec.eq_of_toNat_eq ?_
  rw [toNat_packComponents, BitVec.toNat_ofNat, BitVec.toNat_ofNat]
  have hb : (ofMagnitude negative m).bits.toBitVec.toNat =
      if negative then 2 ^ 63 + m else m := toNat_ofMagnitude negative hm
  rw [hb]
  cases negative with
  | false =>
    have hs : Sign.positive.toBitVec.toNat = 0 := rfl
    simp only [Bool.false_eq_true, ↓reduceIte, hs]
    omega
  | true =>
    have hs : Sign.negative.toBitVec.toNat = 1 := rfl
    simp only [↓reduceIte, hs]
    omega

theorem unpack_toFloat_neg {m : Nat} (hm : m < 2 ^ 63) :
    (ofMagnitude true m).toFloat.toModel.unpack = (ofMagnitude false m).toFloat.toModel.unpack.neg := by
  have h : UnpackedFloat.unpack .binary64 (ofMagnitude true m).bits.toBitVec =
      (UnpackedFloat.unpack .binary64 (ofMagnitude false m).bits.toBitVec).neg := by
    rw [toBitVec_ofMagnitude true hm, toBitVec_ofMagnitude false hm]
    exact unpack_packComponents_neg .positive _ _
  change UnpackedFloat.unpack _ (UnpackedFloat.pack _ (UnpackedFloat.unpack _ _)) = _
  rw [h]
  exact unpack_pack_neg _

/-- Taking a magnitude away is adding the negative number of that magnitude. -/
theorem sub_ofMagnitude (x : Binary64) {m : Nat} (hm : m < 2 ^ 63) :
    x - ofMagnitude false m = x + ofMagnitude true m := by
  have h : x.toFloat.toModel - (ofMagnitude false m).toFloat.toModel =
      x.toFloat.toModel + (ofMagnitude true m).toFloat.toModel := by
    change Float.Model.pack _ = Float.Model.pack _
    rw [sub_eq_add_neg, unpack_toFloat_neg hm]
  exact congrArg (fun y => ofFloat (.ofModel y)) h

end Calculator.Binary64
