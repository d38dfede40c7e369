import Mathlib.Algebra.Ring.Nat
import Reckoner.Binary64.Nearest

namespace Reckoner.Binary64

open Float.Model (UnpackedFloat Format)
open Float.Model.UnpackedFloat (Sign unpackExponent unpackMantissa packComponents)

/-- The bits of a double. -/
abbrev Word := BitVec Format.binary64.numBits

/-- A zero of either sign. -/
inductive IsZero : UnpackedFloat → Prop where
  | zero (s : Sign) : IsZero (.zero s)

theorem beq_zero_iff {x : Float} : (x == 0.0) = true ↔ IsZero x.toModel.unpack := by
  change (x.toModel.unpack.compare (.zero .positive) == some .eq) = true ↔ _
  cases x.toModel.unpack with
  | notANumber => exact iff_of_false (by decide) nofun
  | infinity s => exact iff_of_false (by cases s <;> decide) nofun
  | zero s => exact iff_of_true rfl (.zero s)
  | finite s m e pos => exact iff_of_false (by cases s <;> exact Bool.false_ne_true) nofun

/-- What a word stands for, by its exponent and its fraction. -/
inductive Unpacked (w : Word) : UnpackedFloat → Prop where
  | infinity (s : Sign) (top : unpackExponent w = -1#_) : Unpacked w (.infinity s)
  | notANumber (top : unpackExponent w = -1#_) : Unpacked w .notANumber
  | zero (s : Sign) (bottom : unpackExponent w = 0#_) (empty : unpackMantissa w = 0#_) :
    Unpacked w (.zero s)
  | subnormal (s : Sign) (bottom : unpackExponent w = 0#_) (filled : unpackMantissa w ≠ 0#_)
    (pos : 0 < (unpackMantissa w).toNat) :
    Unpacked w (.finite s (unpackMantissa w).toNat (-1074) pos)
  | normal (s : Sign) (notBottom : unpackExponent w ≠ 0#_) (notTop : unpackExponent w ≠ -1#_)
    (pos : 0 < (1#1 ++ unpackMantissa w).toNat) :
    Unpacked w (.finite s (1#1 ++ unpackMantissa w).toNat ((unpackExponent w).toNat - 1075) pos)

theorem unpacked (w : Word) : Unpacked w (UnpackedFloat.unpack .binary64 w) := by
  by_cases top : unpackExponent w = -1#_
  · by_cases empty : unpackMantissa w = 0#_
    · have h : UnpackedFloat.unpack .binary64 w = .infinity _ :=
        (if_pos top).trans (if_pos empty)
      rw [h]
      exact .infinity _ top
    · have h : UnpackedFloat.unpack .binary64 w = .notANumber :=
        (if_pos top).trans (if_neg empty)
      rw [h]
      exact .notANumber top
  · by_cases bottom : unpackExponent w = 0#_
    · by_cases empty : unpackMantissa w = 0#_
      · have h : UnpackedFloat.unpack .binary64 w = .zero _ :=
          (if_neg top).trans ((if_pos bottom).trans (dif_pos empty))
        rw [h]
        exact .zero _ bottom empty
      · have h : UnpackedFloat.unpack .binary64 w =
            .finite (Sign.ofBitVec (UnpackedFloat.unpackSign w)) (unpackMantissa w).toNat
              ((unpackExponent w).toNat - 1075 + 1) _ :=
          (if_neg top).trans ((if_pos bottom).trans (dif_neg empty))
        have least : ((unpackExponent w).toNat - 1075 + 1 : Int) = -1074 := by
          rw [bottom]
          rfl
        rw [h, least]
        exact .subnormal _ bottom empty _
    · have h : UnpackedFloat.unpack .binary64 w = .finite _ _ _ _ :=
        (if_neg top).trans (if_neg bottom)
      rw [h]
      exact .normal _ bottom top _

theorem isZero_unpack_iff (w : Word) :
    IsZero (UnpackedFloat.unpack .binary64 w) ↔
      unpackExponent w = 0#_ ∧ unpackMantissa w = 0#_ := by
  have found := unpacked w
  generalize UnpackedFloat.unpack .binary64 w = u at found
  cases found with
  | infinity s top =>
    rw [top]
    exact iff_of_false nofun fun h => absurd h.1 (by decide)
  | notANumber top =>
    rw [top]
    exact iff_of_false nofun fun h => absurd h.1 (by decide)
  | zero s bottom empty => exact iff_of_true (.zero s) ⟨bottom, empty⟩
  | subnormal s bottom filled pos => exact iff_of_false nofun fun h => filled h.2
  | normal s notBottom notTop pos => exact iff_of_false nofun fun h => notBottom h.1

/-- The bits of a number that is no zero: beyond the greatest exponent those of an infinity, and the
first bit of a full significand is left out. -/
theorem pack_finite (s : Sign) {m : Nat} {e : Int} (pos : 0 < m) :
    UnpackedFloat.pack .binary64 (.finite s m e pos) =
      if 2 ^ 11 ≤ (e + Format.binary64.exponentBias + 52).toNat + 1 then
        UnpackedFloat.packedInfinity .binary64 s
      else if m.log2 + 1 = 53 then
        packComponents .binary64 s
          (BitVec.ofNat _ (e + Format.binary64.exponentBias + 52).toNat) (BitVec.ofNat _ m)
      else packComponents .binary64 s 0#_ (BitVec.ofNat _ m) := rfl

theorem pack_subnormal (s : Sign) {m : Nat} (pos : 0 < m) (small : m < 2 ^ 52) :
    UnpackedFloat.pack .binary64 (.finite s m (-1074) pos) =
      packComponents .binary64 s 0#_ (BitVec.ofNat _ m) := by
  have short : m.log2 < 52 := (Nat.log2_lt (Nat.ne_of_gt pos)).mpr small
  rw [pack_finite, if_neg (by decide), if_neg (by omega)]

theorem pack_normal (s : Sign) {m k : Nat} (pos : 0 < m) (full : m.log2 = 52) (small : k < 2047) :
    UnpackedFloat.pack .binary64 (.finite s m (k - 1075) pos) =
      packComponents .binary64 s (BitVec.ofNat _ k) (BitVec.ofNat _ m) := by
  have biased : ((k - 1075 : Int) + Format.binary64.exponentBias + 52).toNat = k := by
    change ((k - 1075 : Int) + 1023 + 52).toNat = k
    omega
  rw [pack_finite, biased, if_neg (by omega), if_pos (by omega)]

theorem log2_significand (m : BitVec 52) : (1#1 ++ m).toNat.log2 = 52 := by
  have bound := m.isLt
  have sum : (1#1 ++ m).toNat = m.toNat + 2 ^ 52 := by
    rw [BitVec.toNat_append, Nat.shiftLeft_eq, Nat.or_comm]
    exact Nat.or_two_pow_eq_add_of_lt bound
  rw [sum, Nat.log2_eq_iff (by omega)]
  omega

/-- The same but for the sign. -/
inductive SameSize : UnpackedFloat → UnpackedFloat → Prop where
  | notANumber : SameSize .notANumber .notANumber
  | infinity (s t : Sign) : SameSize (.infinity s) (.infinity t)
  | zero (s t : Sign) : SameSize (.zero s) (.zero t)
  | finite (s t : Sign) {m : Nat} {e : Int} (pos : 0 < m) :
    SameSize (.finite s m e pos) (.finite t m e pos)

/-- What is unpacked and packed again, be it with another sign, is a zero only if it was one. -/
theorem isZero_of_repacked {w : Word} {u : UnpackedFloat}
    (same : SameSize (UnpackedFloat.unpack .binary64 w) u)
    (zero : IsZero (UnpackedFloat.unpack .binary64 (UnpackedFloat.pack .binary64 u))) :
    IsZero (UnpackedFloat.unpack .binary64 w) := by
  obtain ⟨exponent, mantissa⟩ := (isZero_unpack_iff _).mp zero
  have found := unpacked w
  generalize UnpackedFloat.unpack .binary64 w = v at found same ⊢
  cases same with
  | notANumber =>
    change unpackExponent (packComponents _ _ _ _) = _ at exponent
    rw [UnpackedFloat.unpackExponent_packComponents] at exponent
    exact absurd exponent (by decide)
  | infinity s t =>
    change unpackExponent (packComponents _ _ _ _) = _ at exponent
    rw [UnpackedFloat.unpackExponent_packComponents] at exponent
    exact absurd exponent (by decide)
  | zero s t => exact .zero s
  | finite s t pos =>
    cases found with
    | subnormal _ bottom filled =>
      rw [pack_subnormal t pos (unpackMantissa w).isLt,
        UnpackedFloat.unpackMantissa_packComponents, BitVec.ofNat_toNat,
        BitVec.setWidth_eq] at mantissa
      exact absurd mantissa filled
    | normal _ notBottom notTop =>
      have bound : (unpackExponent w).toNat < 2048 := (unpackExponent w).isLt
      have below : (unpackExponent w).toNat ≠ 2047 := fun h => notTop (BitVec.eq_of_toNat_eq h)
      rw [pack_normal t pos (log2_significand _) (by omega),
        UnpackedFloat.unpackExponent_packComponents, BitVec.ofNat_toNat,
        BitVec.setWidth_eq] at exponent
      exact absurd exponent notBottom

section

variable {x : Float}

theorem neg_beq_zero (h : (x == 0.0) = false) : (-x == 0.0) = false := by
  rw [Bool.eq_false_iff, ne_eq, beq_zero_iff] at h ⊢
  intro zero
  apply h
  refine isZero_of_repacked (w := x.toModel.toBits.toBitVec) (u := x.toModel.unpack.neg) ?_ zero
  change SameSize x.toModel.unpack _
  cases x.toModel.unpack <;> constructor

theorem abs_beq_zero (h : (x == 0.0) = false) : (x.abs == 0.0) = false := by
  rw [Bool.eq_false_iff, ne_eq, beq_zero_iff] at h ⊢
  intro zero
  apply h
  refine isZero_of_repacked (w := x.toModel.toBits.toBitVec) (u := x.toModel.unpack.abs) ?_ zero
  change SameSize x.toModel.unpack _
  cases x.toModel.unpack <;> constructor

theorem toNat_unpackExponent (w : Word) :
    (unpackExponent w).toNat = w.toNat / 2 ^ 52 % 2 ^ 11 := by
  change (w.toNat >>> 52) % 2 ^ 11 = _
  rw [Nat.shiftRight_eq_div_pow]

/-- Bits that reach into the exponent are no zero. -/
theorem ofBits_beq_zero {bits : Nat} (low : 2 ^ 52 ≤ bits) (high : bits < 2047 * 2 ^ 52) :
    (Float.ofBits (UInt64.ofNat bits) == 0.0) = false := by
  rw [Bool.eq_false_iff, ne_eq, beq_zero_iff]
  intro zero
  have same : SameSize (UnpackedFloat.unpack .binary64 (UInt64.ofNat bits).toBitVec)
      (UnpackedFloat.unpack .binary64 (UInt64.ofNat bits).toBitVec) := by
    cases UnpackedFloat.unpack .binary64 (UInt64.ofNat bits).toBitVec <;> constructor
  have bottom := ((isZero_unpack_iff _).mp (isZero_of_repacked same zero)).1
  have place : bits % 2 ^ 64 / 2 ^ 52 % 2 ^ 11 = 0 := by
    have := congrArg BitVec.toNat bottom
    rwa [toNat_unpackExponent] at this
  omega

/-- The last place of a double next to an integer lies at most fifty-three bits behind the point. -/
theorem le_placeOf (n : Nat) : -53 ≤ placeOf n 1 := by
  have one : Nat.log2 1 = 0 := by decide
  unfold placeOf
  dsimp only
  split <;> omega

theorem nearestSize?_beq_zero {n : Nat} (h : n ≠ 0) (found : nearestSize? n 1 = some x) :
    (x == 0.0) = false := by
  unfold nearestSize? at found
  rw [if_neg h] at found
  dsimp only at found
  split at found
  · rename_i high
    cases found
    have place := le_placeOf n
    have positive : 0 < (placeOf n 1 + 1074).toNat := by omega
    apply ofBits_beq_zero _ high
    calc 2 ^ 52 ≤ (placeOf n 1 + 1074).toNat * 2 ^ 52 := Nat.le_mul_of_pos_left _ positive
      _ ≤ _ := Nat.le_add_right _ _
  · cases found

/-- **Integers do not vanish.** The double nearest to an integer is zero only for zero. -/
theorem ofInt?_beq_zero {n : Int} (h : n ≠ 0) (found : ofInt? n = some x) :
    (x == 0.0) = false := by
  unfold ofInt? nearest? at found
  obtain ⟨size, sized, rfl⟩ := Option.map_eq_some_iff.mp found
  have filled : (size == 0.0) = false := nearestSize?_beq_zero (Int.natAbs_ne_zero.mpr h) sized
  split
  · exact neg_beq_zero filled
  · exact filled

end

end Reckoner.Binary64
