import Calculator.Proofs.Number.Negation
import Calculator.Proofs.Number.ReadBack

/-!
The two numbers from which sums and products begin: adding to `-0.0` and multiplying by one leave
every number as it is, both zeros and the infinities included. No numeral but `nan` denotes a NaN.
-/

namespace Calculator.Binary64

open Float.Model UnpackedFloat

/-- The exponent of a number is the one that rounding would give it. -/
def Settled : UnpackedFloat → Prop
  | .finite _ mantissa exponent _ =>
    Format.binary64.targetExponent (totalExponent mantissa exponent) = exponent
  | _ => True

theorem log2_normal {m : Nat} (hlo : 2 ^ 52 ≤ m) (hhi : m < 2 ^ 53) : m.log2 = 52 :=
  (Nat.log2_eq_iff (by omega)).mpr ⟨hlo, hhi⟩

theorem log2_subnormal {m : Nat} (hm : m < 2 ^ 52) : m.log2 < 52 := by
  rcases Nat.eq_zero_or_pos m with rfl | hpos
  · decide
  · exact (Nat.log2_lt hpos.ne').mpr hm

theorem settled_normal {sign : Sign} {m : Nat} {e : Int} (hm : 0 < m) (hlo : 2 ^ 52 ≤ m)
    (hhi : m < 2 ^ 53) (he : -1074 ≤ e) : Settled (.finite sign m e hm) := by
  simp only [Settled, Format.targetExponent, totalExponent, log2_normal hlo hhi, Format.mantissaBits,
    Format.minExponent]
  omega

theorem settled_subnormal {sign : Sign} {m : Nat} (hm : 0 < m) (hhi : m < 2 ^ 52) :
    Settled (.finite sign m (-1074) hm) := by
  have hlog := log2_subnormal hhi
  simp only [Settled, Format.targetExponent, totalExponent, Format.mantissaBits, Format.minExponent]
  omega

theorem toNat_implicit_one (f : BitVec 52) : (1#1 ++ f).toNat = 2 ^ 52 + f.toNat := by
  rw [BitVec.toNat_append, ← Nat.shiftLeft_add_eq_or_of_lt f.isLt, Nat.shiftLeft_eq]
  rfl

theorem pack_normal (sign : Sign) {m : Nat} {e : Nat} (hm : 0 < m) (hlo : 2 ^ 52 ≤ m)
    (hhi : m < 2 ^ 53) (he : e < 2047) :
    UnpackedFloat.pack .binary64 (.finite sign m (e - 1075) hm) =
      packComponents .binary64 sign (BitVec.ofNat 11 e) (BitVec.ofNat 52 m) := by
  have hbias : ((e : Int) - 1075 + Format.binary64.exponentBias +
      Format.binary64.mantissaBitsWithoutImplicit).toNat = e := by
    change ((e : Int) - 1075 + (1023 : Nat) + (52 : Nat)).toNat = e
    omega
  unfold UnpackedFloat.pack
  dsimp only
  rw [hbias, if_neg (by omega), log2_normal hlo hhi, if_pos (by rfl)]

theorem pack_subnormal (sign : Sign) {m : Nat} (hm : 0 < m) (hhi : m < 2 ^ 52) :
    UnpackedFloat.pack .binary64 (.finite sign m (-1074) hm) =
      packComponents .binary64 sign 0#11 (BitVec.ofNat 52 m) := by
  have hlog := log2_subnormal hhi
  have hbits : m.log2 + 1 ≠ Format.binary64.mantissaBits := by
    change m.log2 + 1 ≠ 53
    omega
  unfold UnpackedFloat.pack
  dsimp only
  rw [if_neg (by decide), if_neg hbits]

theorem unpack_normal (sign : Sign) {e : BitVec 11} (f : BitVec 52) (hz : e ≠ 0#11)
    (hn : e ≠ -1#11) (hpos : 0 < (1#1 ++ f).toNat) :
    UnpackedFloat.unpack .binary64 (packComponents .binary64 sign e f) =
      .finite sign (1#1 ++ f).toNat (e.toNat - 1075) hpos := by
  unfold UnpackedFloat.unpack
  simp only [unpackMantissa_packComponents, unpackExponent_packComponents, unpackSign_packComponents,
    ofBitVec_toBitVec, if_neg hn, if_neg hz]
  rfl

theorem unpack_subnormal (sign : Sign) {f : BitVec 52} (hf : f ≠ 0#52) (hpos : 0 < f.toNat) :
    UnpackedFloat.unpack .binary64 (packComponents .binary64 sign 0#11 f) =
      .finite sign f.toNat (-1074) hpos := by
  unfold UnpackedFloat.unpack
  simp only [unpackMantissa_packComponents, unpackExponent_packComponents, unpackSign_packComponents,
    ofBitVec_toBitVec, dif_neg hf]
  rfl

theorem unpack_zero (sign : Sign) :
    UnpackedFloat.unpack .binary64 (packComponents .binary64 sign 0#11 0#52) = .zero sign := by
  cases sign <;> rfl

theorem unpack_infinity (sign : Sign) :
    UnpackedFloat.unpack .binary64 (packComponents .binary64 sign (-1#11) 0#52) =
      .infinity sign := by
  cases sign <;> rfl

/-- All bits but those of a NaN unpack to a number that packs to the same bits. -/
theorem exists_unpack (sign : Sign) (e : BitVec 11) (f : BitVec 52) (h : e = -1#11 → f = 0#52) :
    ∃ u, UnpackedFloat.unpack .binary64 (packComponents .binary64 sign e f) = u ∧
      UnpackedFloat.pack .binary64 u = packComponents .binary64 sign e f ∧ Settled u := by
  have hf := f.isLt
  by_cases hinf : e = -1#11
  · obtain rfl := h hinf
    rw [hinf]
    exact ⟨_, unpack_infinity sign, rfl, trivial⟩
  by_cases hzero : e = 0#11
  · rw [hzero]
    by_cases hnone : f = 0#52
    · rw [hnone]
      exact ⟨_, unpack_zero sign, rfl, trivial⟩
    · have hpos : 0 < f.toNat := Nat.pos_of_ne_zero fun hz => hnone (BitVec.eq_of_toNat_eq hz)
      refine ⟨_, unpack_subnormal sign hnone hpos, (pack_subnormal sign hpos hf).trans ?_,
        settled_subnormal hpos hf⟩
      rw [BitVec.ofNat_toNat, BitVec.setWidth_eq]
  · have he : 0 < e.toNat := Nat.pos_of_ne_zero fun hz => hzero (BitVec.eq_of_toNat_eq hz)
    have hlast : e.toNat < 2047 := by
      have hne : e.toNat ≠ 2047 := fun hl => hinf (BitVec.eq_of_toNat_eq hl)
      have hlt := e.isLt
      omega
    have hm := toNat_implicit_one f
    have hlo : 2 ^ 52 ≤ (1#1 ++ f).toNat := by omega
    have hhi : (1#1 ++ f).toNat < 2 ^ 53 := by omega
    have hpos : 0 < (1#1 ++ f).toNat := by omega
    have hfrac : BitVec.ofNat 52 (1#1 ++ f).toNat = f := by
      refine BitVec.eq_of_toNat_eq ?_
      rw [BitVec.toNat_ofNat, hm]
      omega
    refine ⟨_, unpack_normal sign f hzero hinf hpos, (pack_normal sign hpos hlo hhi hlast).trans ?_,
      settled_normal hpos hlo hhi (by omega)⟩
    rw [hfrac, BitVec.ofNat_toNat, BitVec.setWidth_eq]

theorem shiftRight_mul (m shift : Nat) :
    ExtendedMantissa.ofMantissaAndAccuracy (m * 2 ^ shift) .exact >>> shift =
      ⟨m, false, false⟩ := by
  induction shift generalizing m with
  | zero =>
    rw [Nat.pow_zero, Nat.mul_one]
    rfl
  | succ shift ih =>
    have hp : m * 2 ^ (shift + 1) = m * 2 * 2 ^ shift := by
      rw [Nat.pow_succ, Nat.mul_right_comm, Nat.mul_assoc]
    change ExtendedMantissa.shiftRightOne (ExtendedMantissa.ofMantissaAndAccuracy _ .exact >>> shift) = _
    rw [hp, ih]
    simp [ExtendedMantissa.shiftRightOne]

theorem log2_mul_two_pow {m : Nat} (hm : 0 < m) (shift : Nat) :
    (m * 2 ^ shift).log2 = m.log2 + shift := by
  refine (Nat.log2_eq_iff (Nat.mul_pos hm (Nat.two_pow_pos shift)).ne').mpr ⟨?_, ?_⟩
  · rw [Nat.pow_add]
    exact Nat.mul_le_mul_right _ (Nat.log2_self_le hm.ne')
  · rw [Nat.add_right_comm, Nat.pow_add]
    exact Nat.mul_lt_mul_of_pos_right Nat.lt_log2_self (Nat.two_pow_pos shift)

/-- Rounding undoes an exact shift of a number that is settled. -/
theorem roundWithAccuracy_mul {sign : Sign} {m : Nat} {e : Int} (hm : 0 < m)
    (h : Settled (.finite sign m e hm)) (shift : Nat) :
    roundWithAccuracy .binary64 sign (m * 2 ^ shift) (e - shift) .exact = .finite sign m e hm := by
  -- The first shift takes the zeros away again, and the second has nothing left to do.
  have htotal : totalExponent (m * 2 ^ shift) (e - shift) = totalExponent m e := by
    simp only [totalExponent, log2_mul_two_pow hm]
    omega
  have ht : Format.binary64.targetExponent (totalExponent m e) = e := h
  have hfirst : shiftToTargetExponent .binary64 (m * 2 ^ shift) (e - shift) .exact =
      (⟨m, false, false⟩, e) := by
    have hdistance : (e - (e - shift)).toNat = shift := by omega
    simp only [shiftToTargetExponent, htotal, ht, shiftToExponent, hdistance, shiftRight_mul]
    congr 1
    omega
  have hsecond : shiftToTargetExponent .binary64 m e .exact = (⟨m, false, false⟩, e) := by
    have hdistance : (e - e).toNat = 0 := by omega
    simp only [shiftToTargetExponent, ht, shiftToExponent, hdistance]
    congr 1
    omega
  have hround : (⟨m, false, false⟩ : ExtendedMantissa).roundedMantissa = m := rfl
  unfold roundWithAccuracy
  rw [hfirst]
  dsimp only
  rw [hround, hsecond]
  dsimp only
  rw [dif_neg hm.ne']

theorem zero_add (u : UnpackedFloat) : UnpackedFloat.add .binary64 (.zero .negative) u = u := by
  cases u with
  | zero sign => cases sign <;> rfl
  | _ => rfl

theorem one_mul_settled {u : UnpackedFloat} (h : Settled u) :
    UnpackedFloat.mul .binary64 (.finite .positive (2 ^ 52) (-52) (by decide)) u = u := by
  cases u with
  | finite sign m e hm =>
    have hr := roundWithAccuracy_mul hm h 52
    cases sign with
    | positive =>
      change roundWithAccuracy .binary64 .positive (2 ^ 52 * m) (-52 + e) .exact = _
      rw [Nat.mul_comm, Int.add_comm]
      exact hr
    | negative =>
      change roundWithAccuracy .binary64 .negative (2 ^ 52 * m) (-52 + e) .exact = _
      rw [Nat.mul_comm, Int.add_comm]
      exact hr
  | infinity sign => cases sign <;> rfl
  | zero sign => cases sign <;> rfl
  | notANumber => rfl

variable {x : Binary64}

/-- The bits of a number that is no NaN. -/
theorem exists_packComponents (hx : x.isNaN = false) :
    ∃ sign, ∃ e : BitVec 11, ∃ f : BitVec 52,
      x.bits.toBitVec = packComponents .binary64 sign e f ∧ (e = -1#11 → f = 0#52) := by
  have hm := x.magnitude_lt
  have hb := toBitVec_ofMagnitude x.isNegative hm
  rw [ofMagnitude_magnitude] at hb
  refine ⟨_, _, _, hb, fun he => BitVec.eq_of_toNat_eq ?_⟩
  have hlast : x.magnitude / 2 ^ 52 = 2047 := by
    have hn := congrArg BitVec.toNat he
    rw [BitVec.toNat_ofNat, Nat.mod_eq_of_lt (by omega)] at hn
    exact hn
  have hle : x.magnitude ≤ 2047 * 2 ^ 52 := Nat.not_lt.mp (of_decide_eq_false hx)
  rw [BitVec.toNat_ofNat]
  change x.magnitude % 2 ^ 52 = 0
  omega

/-- A number that is no NaN comes through `Float` as it is. -/
theorem exists_settled (hx : x.isNaN = false) :
    ∃ u, x.toFloat.toModel.unpack = u ∧ ofFloat (.ofModel (Float.Model.pack u)) = x ∧ Settled u := by
  obtain ⟨sign, e, f, hb, hnan⟩ := exists_packComponents hx
  obtain ⟨u, hu, hp, hs⟩ := exists_unpack sign e f hnan
  rw [← hb] at hu hp
  refine ⟨u, ?_, ?_, hs⟩
  · change UnpackedFloat.unpack .binary64 (UnpackedFloat.pack .binary64
      (UnpackedFloat.unpack .binary64 x.bits.toBitVec)) = u
    rw [hu, hp, hu]
  · change (⟨⟨UnpackedFloat.pack .binary64 u⟩⟩ : Binary64) = x
    rw [hp]

theorem negativeZero_add (hx : x.isNaN = false) : negativeZero + x = x := by
  obtain ⟨u, hu, hp, -⟩ := exists_settled hx
  have hz : negativeZero.toFloat.toModel.unpack = .zero .negative := rfl
  change ofFloat (.ofModel (Float.Model.pack (UnpackedFloat.add _ _ _))) = x
  rw [hu, hz, zero_add, hp]

theorem one_mul (hx : x.isNaN = false) : one * x = x := by
  obtain ⟨u, hu, hp, hs⟩ := exists_settled hx
  have ho : one.toFloat.toModel.unpack = .finite .positive (2 ^ 52) (-52) (by decide) := rfl
  change ofFloat (.ofModel (Float.Model.pack (UnpackedFloat.mul _ _ _))) = x
  rw [hu, ho, one_mul_settled hs, hp]

/-- A sum begins with its first number. -/
theorem sum_cons (hx : x.isNaN = false) (values : List Binary64) :
    sum (x :: values) = values.foldl (· + ·) x := by
  rw [sum, List.foldl_cons, negativeZero_add hx]

/-- A product begins with its first number. -/
theorem product_cons (hx : x.isNaN = false) (values : List Binary64) :
    product (x :: values) = values.foldl (· * ·) x := by
  rw [product, List.foldl_cons, one_mul hx]

theorem nan_div (x : Binary64) : nan false / x = nan false := by
  have hn : (nan false).toFloat.toModel.unpack = .notANumber := rfl
  change ofFloat (.ofModel (Float.Model.pack (UnpackedFloat.div _ _ _))) = nan false
  rw [hn]
  rfl

theorem isNaN_ofMagnitude (negative : Bool) {m : Nat} (hm : m ≤ infiniteMagnitude) :
    (ofMagnitude negative m).isNaN = false := by
  have hlt : infiniteMagnitude < 2 ^ 63 := by decide
  have hmag : (ofMagnitude negative m).magnitude = m := by
    rw [magnitude, toNat_ofMagnitude negative (by omega)]
    split <;> omega
  rw [isNaN, hmag]
  exact decide_eq_false (Nat.not_lt.mpr hm)

theorem climb_cases (p : Nat → Bool) (n base : Nat) :
    climb p n base = base ∨ p (climb p n base) = true := by
  induction n generalizing base with
  | zero => exact .inl rfl
  | succ n ih =>
    unfold climb
    split
    next hp =>
      rcases ih (base + 2 ^ n) with hc | hc
      · rw [hc]
        exact .inr hp
      · exact .inr hc
    next => exact ih base

theorem nearest_le (numerator denominator : Nat) :
    nearest numerator denominator ≤ infiniteMagnitude := by
  unfold nearest
  rcases climb_cases (fun m => decide (m ≤ infiniteMagnitude) &&
    reaches (numerator <<< 1075) denominator m) 63 0 with hc | hc
  · rw [hc]
    exact Nat.zero_le _
  · exact of_decide_eq_true (Bool.and_eq_true_iff.mp hc).1

/-- No decimal is nearest to a NaN. -/
theorem isNaN_ofDecimal (negative : Bool) (digits : Nat) (exponent : Int) :
    (ofDecimal negative digits exponent).isNaN = false := by
  unfold ofDecimal infinity
  repeat' split
  · exact isNaN_ofMagnitude negative (Nat.zero_le _)
  · exact isNaN_ofMagnitude negative (Nat.le_refl _)
  · exact isNaN_ofMagnitude negative (Nat.zero_le _)
  · exact isNaN_ofMagnitude negative (nearest_le _ _)
  · exact isNaN_ofMagnitude negative (nearest_le _ _)

end Calculator.Binary64
