import Timings.Json.Numeral

/-!
Which doubles are finite.

A double is finite unless all bits of its exponent are set. Rounding gives a finite
double as long as the number to round is below `2 ^ 1023`; from this follows what is
said of products, of quotients by at least eight and of words. Nothing here says which
number a rounding gives.
-/

namespace Timings.Double

open Float.Model

/-! ## Unpacking -/

/-- An unpacked finite double: its mantissa has at most 53 bits, and its exponent is at
most that of the largest double. -/
def InRange : UnpackedFloat → Prop
  | .finite _ m e _ => m < 2 ^ 53 ∧ e ≤ 971
  | .zero _ => True
  | .infinity _ => False
  | .notANumber => False

theorem InRange.isFinite {u : UnpackedFloat} (range : InRange u) : u.isFinite = true := by
  cases u with
  | notANumber => exact range.elim
  | infinity s => exact range.elim
  | zero s => rfl
  | finite s m e pos => rfl

theorem InRange.isNaN {u : UnpackedFloat} (range : InRange u) : u.isNaN = false := by
  cases u with
  | notANumber => exact range.elim
  | infinity s => rfl
  | zero s => rfl
  | finite s m e pos => rfl

theorem unpack_of_ones {b : BitVec Format.binary64.numBits}
    (ones : UnpackedFloat.unpackExponent b = -1#_) :
    UnpackedFloat.unpack Format.binary64 b =
      if UnpackedFloat.unpackMantissa b = 0#_ then
        .infinity (.ofBitVec (UnpackedFloat.unpackSign b))
      else .notANumber := by
  unfold UnpackedFloat.unpack
  dsimp only
  rw [if_pos ones]

theorem inRange_unpack_of_ne {b : BitVec Format.binary64.numBits}
    (ones : UnpackedFloat.unpackExponent b ≠ -1#_) :
    InRange (UnpackedFloat.unpack Format.binary64 b) := by
  have exponent : (UnpackedFloat.unpackExponent b).toNat ≤ 2046 := by
    have bound : (UnpackedFloat.unpackExponent b).toNat < 2048 :=
      (UnpackedFloat.unpackExponent b).isLt
    have other : (UnpackedFloat.unpackExponent b).toNat ≠ 2047 := by
      intro all
      exact ones (BitVec.eq_of_toNat_eq all)
    omega
  have mantissa : (UnpackedFloat.unpackMantissa b).toNat < 2 ^ 52 :=
    (UnpackedFloat.unpackMantissa b).isLt
  have bias : ((Format.binary64.exponentBias : Int) + (52 : Nat)) = 1075 := rfl
  unfold UnpackedFloat.unpack
  dsimp only
  rw [if_neg ones]
  by_cases least : UnpackedFloat.unpackExponent b = 0#_
  · rw [if_pos least]
    by_cases nothing : UnpackedFloat.unpackMantissa b = 0#_
    · rw [dif_pos nothing]
      trivial
    · rw [dif_neg nothing]
      refine ⟨by omega, ?_⟩
      rw [least]
      decide
  · rw [if_neg least]
    refine ⟨(1#1 ++ UnpackedFloat.unpackMantissa b).isLt, ?_⟩
    rw [bias]
    omega

theorem isNaN_unpack_iff {b : BitVec Format.binary64.numBits} :
    (UnpackedFloat.unpack Format.binary64 b).isNaN = true ↔
      UnpackedFloat.unpackExponent b = -1#_ ∧ UnpackedFloat.unpackMantissa b ≠ 0#_ := by
  by_cases ones : UnpackedFloat.unpackExponent b = -1#_
  · rw [unpack_of_ones ones]
    by_cases nothing : UnpackedFloat.unpackMantissa b = 0#_
    · rw [if_pos nothing]
      exact iff_of_false Bool.false_ne_true fun both => both.2 nothing
    · rw [if_neg nothing]
      exact iff_of_true rfl ⟨ones, nothing⟩
  · rw [(inRange_unpack_of_ne ones).isNaN]
    exact iff_of_false Bool.false_ne_true fun both => ones both.1

theorem isFinite_unpack_iff {b : BitVec Format.binary64.numBits} :
    (UnpackedFloat.unpack Format.binary64 b).isFinite = true ↔
      UnpackedFloat.unpackExponent b ≠ -1#_ := by
  by_cases ones : UnpackedFloat.unpackExponent b = -1#_
  · rw [unpack_of_ones ones]
    refine iff_of_false ?_ fun other => other ones
    by_cases nothing : UnpackedFloat.unpackMantissa b = 0#_
    · rw [if_pos nothing]
      exact Bool.false_ne_true
    · rw [if_neg nothing]
      exact Bool.false_ne_true
  · exact iff_of_true (inRange_unpack_of_ne ones).isFinite ones

theorem inRange_unpack {b : BitVec Format.binary64.numBits}
    (finite : (UnpackedFloat.unpack Format.binary64 b).isFinite = true) :
    InRange (UnpackedFloat.unpack Format.binary64 b) :=
  inRange_unpack_of_ne (isFinite_unpack_iff.1 finite)

/-! ## Packing -/

theorem pack_finite (s : UnpackedFloat.Sign) (m : Nat) (e : Int) (pos : 0 < m) :
    UnpackedFloat.pack Format.binary64 (.finite s m e pos) =
      if 971 < e then UnpackedFloat.packedInfinity Format.binary64 s
      else if m.log2 + 1 = 53 then
        UnpackedFloat.packComponents Format.binary64 s (BitVec.ofNat 11 (e + 1075).toNat)
          (BitVec.ofNat 52 m)
      else UnpackedFloat.packComponents Format.binary64 s 0#11 (BitVec.ofNat 52 m) := by
  have biased : (e + Format.binary64.exponentBias + (52 : Nat)).toNat = (e + 1075).toNat := by
    change (e + 1023 + 52).toNat = _
    omega
  have overflow : 2 ^ 11 ≤ (e + 1075).toNat + 1 ↔ 971 < e := by omega
  unfold UnpackedFloat.pack
  dsimp only
  simp only [biased, overflow]
  rfl

/-- Whether an unpacked double is finite and stays so when it is packed. -/
def Fits : UnpackedFloat → Prop
  | .finite _ _ e _ => e ≤ 971
  | .zero _ => True
  | .infinity _ => False
  | .notANumber => False

theorem isFinite_pack {u : UnpackedFloat} (fits : Fits u) :
    (Float.ofModel (Float.Model.pack u)).isFinite = true := by
  refine isFinite_unpack_iff.2 ?_
  change UnpackedFloat.unpackExponent (UnpackedFloat.pack Format.binary64 u) ≠ -1#_
  cases u with
  | notANumber => exact fits.elim
  | infinity s => exact fits.elim
  | zero s =>
    change UnpackedFloat.unpackExponent (UnpackedFloat.packedZero Format.binary64 s) ≠ -1#_
    unfold UnpackedFloat.packedZero
    rw [UnpackedFloat.unpackExponent_packComponents]
    decide
  | finite s m e pos =>
    have exponent : e ≤ 971 := fits
    have stored : BitVec.ofNat 11 (e + 1075).toNat ≠ -1#11 := by
      intro same
      have bits := congrArg BitVec.toNat same
      rw [BitVec.toNat_ofNat, Nat.mod_eq_of_lt (by omega)] at bits
      change _ = 2047 at bits
      omega
    rw [pack_finite, if_neg (by omega)]
    split
    · rw [UnpackedFloat.unpackExponent_packComponents]
      exact stored
    · rw [UnpackedFloat.unpackExponent_packComponents]
      decide

theorem isNaN_pack {u : UnpackedFloat} (number : u.isNaN = false) :
    (Float.ofModel (Float.Model.pack u)).isNaN = false := by
  rw [← Bool.not_eq_true]
  intro none
  obtain ⟨ones, mantissa⟩ := isNaN_unpack_iff.1 none
  cases u with
  | notANumber => cases number
  | infinity s =>
    refine mantissa ?_
    change UnpackedFloat.unpackMantissa (UnpackedFloat.packedInfinity Format.binary64 s) = 0#_
    exact UnpackedFloat.unpackMantissa_packComponents
  | zero s =>
    refine mantissa ?_
    change UnpackedFloat.unpackMantissa (UnpackedFloat.packedZero Format.binary64 s) = 0#_
    exact UnpackedFloat.unpackMantissa_packComponents
  | finite s m e pos =>
    by_cases fits : e ≤ 971
    · have finite : Fits (.finite s m e pos) := fits
      exact isFinite_unpack_iff.1 (isFinite_pack finite) ones
    · refine mantissa ?_
      change UnpackedFloat.unpackMantissa
        (UnpackedFloat.pack Format.binary64 (.finite s m e pos)) = 0#_
      rw [pack_finite, if_pos (by omega)]
      exact UnpackedFloat.unpackMantissa_packComponents

/-! ## Finite doubles -/

theorem not_isFinite_iff {x : Float} :
    ¬x.isFinite = true ↔ x.isNaN = true ∨ x.isInf = true := by
  unfold Float.isFinite Float.Model.isFinite Float.isNaN Float.Model.isNaN Float.isInf
    Float.Model.isInf
  have neither : ¬(false = true ∨ false = true) := by decide
  cases x.toModel.unpack with
  | notANumber => exact iff_of_true Bool.false_ne_true (.inl rfl)
  | infinity s => exact iff_of_true Bool.false_ne_true (.inr rfl)
  | zero s => exact iff_of_false (· rfl) neither
  | finite s m e pos => exact iff_of_false (· rfl) neither

theorem isFinite_of_not_isInf {x : Float} (number : x.isNaN = false) (bounded : x.isInf = false) :
    x.isFinite = true := by
  refine Decidable.byContradiction fun other => ?_
  rcases not_isFinite_iff.1 other with none | infinite
  · rw [number] at none
    cases none
  · rw [bounded] at infinite
    cases infinite

theorem isFinite_neg {x : Float} (finite : x.isFinite = true) : (-x).isFinite = true := by
  have range : InRange x.toModel.unpack := inRange_unpack finite
  refine isFinite_pack ?_
  generalize x.toModel.unpack = u at range
  cases u with
  | notANumber => exact range
  | infinity s => exact range
  | zero s => trivial
  | finite s m e pos => exact range.2

/-! ## Rounding -/

theorem mantissa_shiftRight (em : UnpackedFloat.ExtendedMantissa) (k : Nat) :
    (em >>> k).mantissa = em.mantissa / 2 ^ k := by
  induction k generalizing em with
  | zero => exact (Nat.div_one _).symm
  | succ k ih =>
    have step : (em >>> (k + 1)).mantissa = (em >>> k).mantissa / 2 := rfl
    rw [step, ih, Nat.div_div_eq_div_mul, ← Nat.pow_succ]

theorem roundedMantissa_le (em : UnpackedFloat.ExtendedMantissa) :
    em.roundedMantissa ≤ em.mantissa + 1 := by
  obtain ⟨m, round, sticky⟩ := em
  have parity : m % 2 ≤ 1 := by omega
  cases round <;> cases sticky <;>
    simp [UnpackedFloat.ExtendedMantissa.roundedMantissa, UnpackedFloat.ExtendedMantissa.accuracy,
      UnpackedFloat.Accuracy.roundToNearestEven, parity]

theorem mantissa_ofMantissaAndAccuracy (m : Nat) (accuracy : UnpackedFloat.Accuracy) :
    (UnpackedFloat.ExtendedMantissa.ofMantissaAndAccuracy m accuracy).mantissa = m := by
  fun_cases UnpackedFloat.ExtendedMantissa.ofMantissaAndAccuracy m accuracy <;> rfl

theorem log2_le_of_lt {m k : Nat} (small : m < 2 ^ (k + 1)) : m.log2 ≤ k := by
  by_cases zero : m = 0
  · rw [zero, Nat.log2_zero]
    exact Nat.zero_le k
  · exact Nat.lt_succ_iff.1 ((Nat.log2_lt zero).2 small)

theorem targetExponent_eq (t : Int) :
    Format.binary64.targetExponent t = max (t - 53) (-1074) := rfl

theorem exponent_shiftToTargetExponent (m : Nat) (e : Int) (accuracy : UnpackedFloat.Accuracy) :
    (UnpackedFloat.shiftToTargetExponent Format.binary64 m e accuracy).2 =
      max e (max (totalExponent m e - 53) (-1074)) := by
  change e + ((Format.binary64.targetExponent (totalExponent m e) - e).toNat : Int) = _
  rw [targetExponent_eq]
  omega

theorem mantissa_shiftToTargetExponent_lt (m : Nat) (e : Int)
    (accuracy : UnpackedFloat.Accuracy) :
    (UnpackedFloat.shiftToTargetExponent Format.binary64 m e accuracy).1.mantissa < 2 ^ 53 := by
  unfold UnpackedFloat.shiftToTargetExponent UnpackedFloat.shiftToExponent
  dsimp only
  rw [mantissa_shiftRight, mantissa_ofMantissaAndAccuracy, targetExponent_eq,
    Nat.div_lt_iff_lt_mul (Nat.two_pow_pos _), ← Nat.pow_add]
  refine Nat.lt_of_lt_of_le Nat.lt_log2_self (Nat.pow_le_pow_right (by decide) ?_)
  unfold totalExponent
  omega

/-- Rounding gives a zero, or what is left of the mantissa with the exponent that two
shifts lead to: rounding up can carry into one more bit. -/
theorem roundWithAccuracy_eq_zero_or_finite (s : UnpackedFloat.Sign) (m : Nat) (e : Int)
    (accuracy : UnpackedFloat.Accuracy) :
    let first := UnpackedFloat.shiftToTargetExponent Format.binary64 m e accuracy
    let second := UnpackedFloat.shiftToTargetExponent Format.binary64 first.1.roundedMantissa
      first.2 .exact
    UnpackedFloat.roundWithAccuracy Format.binary64 s m e accuracy = .zero s ∨
      ∃ m' pos, UnpackedFloat.roundWithAccuracy Format.binary64 s m e accuracy =
        .finite s m' second.2 pos := by
  intro first second
  by_cases nothing : second.1.mantissa = 0
  · exact .inl (dif_pos nothing)
  · exact .inr ⟨_, Nat.pos_of_ne_zero nothing, dif_neg nothing⟩

/-- **Rounding below `2 ^ 1023`.** What is below `2 ^ 1023` rounds to a finite double. -/
theorem fits_roundWithAccuracy {m : Nat} {e : Int} (magnitude : totalExponent m e ≤ 1023)
    (exponent : e ≤ 970) (s : UnpackedFloat.Sign) (accuracy : UnpackedFloat.Accuracy) :
    Fits (UnpackedFloat.roundWithAccuracy Format.binary64 s m e accuracy) := by
  rcases roundWithAccuracy_eq_zero_or_finite s m e accuracy with zero | ⟨m', pos, finite⟩
  · rw [zero]
    trivial
  · rw [finite]
    have shifted := exponent_shiftToTargetExponent m e accuracy
    have bounded := mantissa_shiftToTargetExponent_lt m e accuracy
    generalize UnpackedFloat.shiftToTargetExponent Format.binary64 m e accuracy = first at *
    obtain ⟨em, e'⟩ := first
    have rounded : em.roundedMantissa.log2 ≤ 53 :=
      log2_le_of_lt (by have upper := roundedMantissa_le em; dsimp only at bounded; omega)
    have again := exponent_shiftToTargetExponent em.roundedMantissa e' .exact
    change (UnpackedFloat.shiftToTargetExponent Format.binary64 em.roundedMantissa e' _).2 ≤ 971
    rw [again]
    unfold totalExponent at *
    dsimp only at shifted
    omega

theorem isNaN_roundWithAccuracy (s : UnpackedFloat.Sign) (m : Nat) (e : Int)
    (accuracy : UnpackedFloat.Accuracy) :
    (UnpackedFloat.roundWithAccuracy Format.binary64 s m e accuracy).isNaN = false := by
  rcases roundWithAccuracy_eq_zero_or_finite s m e accuracy with zero | ⟨m', pos, finite⟩
  · rw [zero]
    rfl
  · rw [finite]
    rfl

/-! ## Products, quotients and words -/

theorem isNaN_mul {x y : Float} (left : x.isFinite = true) (right : y.isFinite = true) :
    (x * y).isNaN = false := by
  have range : InRange x.toModel.unpack := inRange_unpack left
  have range' : InRange y.toModel.unpack := inRange_unpack right
  refine isNaN_pack ?_
  generalize x.toModel.unpack = u at range
  generalize y.toModel.unpack = v at range'
  cases u with
  | notANumber => exact range.elim
  | infinity s => exact range.elim
  | zero s =>
    cases v with
    | notANumber => exact range'.elim
    | infinity s' => exact range'.elim
    | zero s' => rfl
    | finite s' m' e' pos' => rfl
  | finite s m e pos =>
    cases v with
    | notANumber => exact range'.elim
    | infinity s' => exact range'.elim
    | zero s' => rfl
    | finite s' m' e' pos' => exact isNaN_roundWithAccuracy _ _ _ _

/-- Whether the size of a double is at least eight, and finite. -/
def atLeastEight (x : Float) : Bool :=
  match x.toModel.unpack with
  | .finite _ m e _ => 4 ≤ totalExponent m e
  | .zero _ | .infinity _ | .notANumber => false

theorem isFinite_of_atLeastEight {x : Float} (large : atLeastEight x = true) :
    x.isFinite = true := by
  unfold atLeastEight at large
  unfold Float.isFinite Float.Model.isFinite
  generalize x.toModel.unpack = u at *
  cases u with
  | notANumber => cases large
  | infinity s => cases large
  | zero s => rfl
  | finite s m e pos => rfl

theorem log2_shiftLeft_le (m s : Nat) : (m <<< s).log2 ≤ m.log2 + s := by
  refine log2_le_of_lt ?_
  rw [Nat.shiftLeft_eq, Nat.add_right_comm, Nat.pow_add]
  exact Nat.mul_lt_mul_of_pos_right Nat.lt_log2_self (Nat.two_pow_pos s)

theorem log2_div_le {m m' s : Nat} (pos : 0 < m') :
    ((m <<< s) / m').log2 ≤ m.log2 + s - m'.log2 := by
  refine log2_le_of_lt ((Nat.div_lt_iff_lt_mul pos).2 ?_)
  have dividend : m <<< s < 2 ^ (m.log2 + 1) * 2 ^ s := by
    rw [Nat.shiftLeft_eq]
    exact Nat.mul_lt_mul_of_pos_right Nat.lt_log2_self (Nat.two_pow_pos s)
  have divisor : 2 ^ m'.log2 ≤ m' := Nat.log2_self_le (Nat.ne_of_gt pos)
  calc m <<< s < 2 ^ (m.log2 + 1) * 2 ^ s := dividend
    _ = 2 ^ (m.log2 + 1 + s) := (Nat.pow_add 2 _ _).symm
    _ ≤ 2 ^ (m.log2 + s - m'.log2 + 1 + m'.log2) := Nat.pow_le_pow_right (by decide) (by omega)
    _ = 2 ^ (m.log2 + s - m'.log2 + 1) * 2 ^ m'.log2 := Nat.pow_add 2 _ _
    _ ≤ 2 ^ (m.log2 + s - m'.log2 + 1) * m' := Nat.mul_le_mul_left _ divisor

theorem isFinite_div {x y : Float} (finite : x.isFinite = true) (large : atLeastEight y = true) :
    (x / y).isFinite = true := by
  have range : InRange x.toModel.unpack := inRange_unpack finite
  refine isFinite_pack ?_
  unfold atLeastEight at large
  generalize x.toModel.unpack = u at range
  generalize y.toModel.unpack = v at large
  cases v with
  | notANumber => cases large
  | infinity s' => cases large
  | zero s' => cases large
  | finite s' m' e' pos' =>
    cases u with
    | notANumber => exact range.elim
    | infinity s => exact range.elim
    | zero s => trivial
    | finite s m e pos =>
      obtain ⟨bits, exponent⟩ := range
      have bits := log2_le_of_lt bits
      have divisor := of_decide_eq_true large
      change Fits (UnpackedFloat.roundWithAccuracy Format.binary64 _
        ((m <<< (e - e' - _).toNat) / m') _ _)
      have quotient := @log2_div_le m m' (e - e' - min (e - e')
        (Format.binary64.targetExponent (totalExponent m e - totalExponent m' e'))).toNat pos'
      rw [targetExponent_eq] at *
      unfold totalExponent at *
      refine fits_roundWithAccuracy ?_ ?_ _ _
      · unfold totalExponent
        omega
      · omega

theorem isFinite_word (n : UInt64) : n.toFloat.isFinite = true := by
  refine isFinite_pack ?_
  change Fits (UnpackedFloat.normalize Format.binary64 (n.toNat : Int) 0 .positive)
  have word : n.toNat < 2 ^ 64 := n.toNat_lt
  unfold UnpackedFloat.normalize
  split
  case h_1 less =>
    have negative := Int.compare_eq_lt.1 less
    omega
  case h_2 => trivial
  case h_3 =>
    have bits := log2_le_of_lt word
    have shifted := log2_shiftLeft_le n.toNat
      (0 - Format.binary64.targetExponent (totalExponent n.toNat 0)).toNat
    rw [targetExponent_eq] at shifted
    refine fits_roundWithAccuracy ?_ ?_ _ _
    · rw [targetExponent_eq]
      unfold totalExponent at *
      dsimp only [Int.toNat_natCast] at *
      omega
    · omega

end Timings.Double
