import Mathlib

/-!
# Doubles as exact numbers

A double that is neither infinite nor without a number stands for a rational number: a mantissa of
at most 53 bits, times a power of two. Products and differences of doubles are rounded. Where the
exact product or difference is the number of some double, rounding has nothing to do, and the
result is exact.

## Main definitions

* `Double.value?` — the number that a double stands for.
* `Double.IsExact` — a number that some double stands for.
* `Double.IsCanonical` — the mantissas and exponents that doubles are written with.

## Main results

* `Double.unpack_pack` — what is written with a canonical mantissa and exponent is read again.
* `Double.round_eq` — rounding leaves a number alone that some double stands for.
* `Double.value?_mul`, `Double.value?_sub` — exact products and differences.
-/

namespace Playthrough

open Float.Model
open Float.Model.UnpackedFloat (Sign)

namespace Double

/-- The mantissas and exponents that doubles are written with. The mantissa has all 53 bits, unless
the exponent is the least one. -/
structure IsCanonical (m : Nat) (e : Int) : Prop where
  pos : 0 < m
  lt : m < 2 ^ 53
  least : -1074 ≤ e
  greatest : e ≤ 971
  normal : e = -1074 ∨ 2 ^ 52 ≤ m

/-- The format of doubles. -/
abbrev format : Format := Format.binary64

theorem targetExponent_eq (m : Nat) (e : Int) :
    format.targetExponent (totalExponent m e) = max (m.log2 + e - 52) (-1074) := by
  simp only [Format.targetExponent, totalExponent, Format.mantissaBits, Format.minExponent]
  norm_num
  omega

namespace IsCanonical

variable {m : Nat} {e : Int}

theorem log2_le (h : IsCanonical m e) : m.log2 ≤ 52 :=
  Nat.le_of_lt_succ ((Nat.log2_lt h.pos.ne').mpr h.lt)

theorem log2_eq (h : IsCanonical m e) (hm : 2 ^ 52 ≤ m) : m.log2 = 52 :=
  (Nat.log2_eq_iff h.pos.ne').mpr ⟨hm, h.lt⟩

/-- The exponent is the one at which numbers of this size are written. -/
theorem targetExponent (h : IsCanonical m e) :
    format.targetExponent (totalExponent m e) = e := by
  have hle := h.log2_le
  have hleast := h.least
  rw [targetExponent_eq]
  rcases h.normal with he | hm
  · omega
  · rw [h.log2_eq hm]
    omega

end IsCanonical

/-! ### Writing and reading -/

theorem unpack_normal (s : Sign) {b f : Nat} (hb : 0 < b) (hb' : b < 2047) (hf : f < 2 ^ 52) :
    UnpackedFloat.unpack format
        (UnpackedFloat.packComponents format s (BitVec.ofNat 11 b) (BitVec.ofNat 52 f)) =
      .finite s (2 ^ 52 + f) (b - 1075) (by omega) := by
  have htoNat : (BitVec.ofNat 11 b).toNat = b := Nat.mod_eq_of_lt (by omega)
  have hfinite : BitVec.ofNat 11 b ≠ -1#11 := fun heq => by
    have : b = 2047 := htoNat.symm.trans (congrArg BitVec.toNat heq)
    omega
  have hnonzero : BitVec.ofNat 11 b ≠ 0#11 := fun heq => by
    have : b = 0 := htoNat.symm.trans (congrArg BitVec.toNat heq)
    omega
  have hmantissa : (1#1 ++ BitVec.ofNat 52 f).toNat = 2 ^ 52 + f := by
    rw [BitVec.toNat_append, BitVec.toNat_ofNat, BitVec.toNat_ofNat, Nat.mod_eq_of_lt hf,
      ← Nat.shiftLeft_add_eq_or_of_lt hf]
    rfl
  simp only [UnpackedFloat.unpack, UnpackedFloat.unpackExponent_packComponents,
    UnpackedFloat.unpackMantissa_packComponents, UnpackedFloat.unpackSign_packComponents,
    Sign.ofBitVec_toBitVec, if_neg hfinite, if_neg hnonzero, hmantissa, htoNat]
  rfl

theorem unpack_subnormal (s : Sign) {f : Nat} (hpos : 0 < f) (hf : f < 2 ^ 52) :
    UnpackedFloat.unpack format
        (UnpackedFloat.packComponents format s 0#11 (BitVec.ofNat 52 f)) =
      .finite s f (-1074) hpos := by
  have htoNat : (BitVec.ofNat 52 f).toNat = f := Nat.mod_eq_of_lt hf
  have hnonzero : BitVec.ofNat 52 f ≠ 0#52 := fun heq => by
    have : f = 0 := htoNat.symm.trans (congrArg BitVec.toNat heq)
    omega
  have hfinite : (0#11 : BitVec 11) ≠ -1#11 := by decide
  simp only [UnpackedFloat.unpack, UnpackedFloat.unpackExponent_packComponents,
    UnpackedFloat.unpackMantissa_packComponents, UnpackedFloat.unpackSign_packComponents,
    Sign.ofBitVec_toBitVec, if_neg hfinite, dif_neg hnonzero, htoNat, if_true]
  rfl

/-- What is written with a canonical mantissa and exponent is read again. -/
theorem unpack_pack {m : Nat} {e : Int} (h : IsCanonical m e) (s : Sign) :
    UnpackedFloat.unpack format (UnpackedFloat.pack format (.finite s m e h.pos)) =
      .finite s m e h.pos := by
  have hlt := h.lt
  have hgreatest := h.greatest
  have hleast := h.least
  obtain ⟨b, hb⟩ : ∃ b : Nat, (b : Int) = e + 1075 := ⟨(e + 1075).toNat, by omega⟩
  have hbiased : (e + (format.exponentBias : Int) +
      (format.mantissaBitsWithoutImplicit : Int)).toNat = b := by
    have h1 : format.exponentBias = 1023 := rfl
    have h2 : format.mantissaBitsWithoutImplicit = 52 := rfl
    omega
  have hfinite : ¬ 2 ^ format.exponentBits ≤ b + 1 := by
    have h1 : format.exponentBits = 11 := rfl
    rw [h1]
    omega
  have hbits : format.mantissaBits = 53 := rfl
  by_cases hnormal : 2 ^ 52 ≤ m
  · obtain ⟨f, rfl⟩ := Nat.exists_eq_add_of_le hnormal
    have hf : f < 2 ^ 52 := by omega
    have hpack : UnpackedFloat.pack format (.finite s (2 ^ 52 + f) e h.pos) =
        UnpackedFloat.packComponents format s (BitVec.ofNat 11 b) (BitVec.ofNat 52 f) := by
      have hbit : BitVec.ofNat 52 (2 ^ 52 + f) = BitVec.ofNat 52 f := by
        refine BitVec.eq_of_toNat_eq ?_
        rw [BitVec.toNat_ofNat, BitVec.toNat_ofNat, Nat.add_mod_left]
      simp only [UnpackedFloat.pack, hbiased, if_neg hfinite, h.log2_eq hnormal, hbits, if_true,
        hbit]
    rw [hpack, unpack_normal s (by omega) (by omega) hf]
    congr 1
    omega
  · have hlog : m.log2 + 1 ≠ format.mantissaBits := by
      have : m.log2 < 52 := (Nat.log2_lt h.pos.ne').mpr (by omega)
      omega
    have hpack : UnpackedFloat.pack format (.finite s m e h.pos) =
        UnpackedFloat.packComponents format s 0#11 (BitVec.ofNat 52 m) := by
      simp only [UnpackedFloat.pack, hbiased, if_neg hfinite, if_neg hlog]
    rw [hpack, unpack_subnormal s h.pos (by omega)]
    obtain rfl : e = -1074 := h.normal.resolve_right hnormal
    rfl

/-- What is read is canonical. -/
theorem isCanonical_of_unpack {b : BitVec format.numBits} {s : Sign} {m : Nat} {e : Int}
    {hm : 0 < m} (h : UnpackedFloat.unpack format b = .finite s m e hm) : IsCanonical m e := by
  have hf : (UnpackedFloat.unpackMantissa b).toNat < 2 ^ 52 :=
    (UnpackedFloat.unpackMantissa b).isLt
  have hx : (UnpackedFloat.unpackExponent b).toNat < 2 ^ 11 :=
    (UnpackedFloat.unpackExponent b).isLt
  have hbias : (format.exponentBias : Int) + (format.mantissaBitsWithoutImplicit : Int) = 1075 :=
    rfl
  simp only [UnpackedFloat.unpack, hbias] at h
  split at h
  · split at h <;> cases h
  · rename_i hfinite
    split at h
    · rename_i hzero
      split at h
      · cases h
      · cases h
        refine ⟨hm, by omega, ?_, ?_, .inl ?_⟩ <;> rw [hzero] <;> decide
    · rename_i hnonzero
      cases h
      have hfinite' : (UnpackedFloat.unpackExponent b).toNat ≠ 2047 := fun h =>
        hfinite (BitVec.eq_of_toNat_eq h)
      have hnonzero' : (UnpackedFloat.unpackExponent b).toNat ≠ 0 := fun h =>
        hnonzero (BitVec.eq_of_toNat_eq h)
      have hmantissa : (1#1 ++ UnpackedFloat.unpackMantissa b).toNat =
          2 ^ 52 + (UnpackedFloat.unpackMantissa b).toNat := by
        rw [BitVec.toNat_append, ← Nat.shiftLeft_add_eq_or_of_lt hf]
        rfl
      rw [hmantissa]
      exact ⟨by omega, by omega, by omega, by omega, .inr (by omega)⟩

/-! ### Rounding of what need not be rounded -/

theorem shiftRight_exact (m k : Nat) :
    (⟨m * 2 ^ k, false, false⟩ : UnpackedFloat.ExtendedMantissa) >>> k = ⟨m, false, false⟩ := by
  induction k generalizing m with
  | zero => rw [pow_zero, mul_one]; rfl
  | succ k ih =>
    show UnpackedFloat.ExtendedMantissa.shiftRightOne
      ((⟨m * 2 ^ (k + 1), false, false⟩ : UnpackedFloat.ExtendedMantissa) >>> k) = _
    have hm : m * 2 ^ (k + 1) = 2 * m * 2 ^ k := by ring
    rw [hm, ih (2 * m)]
    simp [UnpackedFloat.ExtendedMantissa.shiftRightOne]

theorem log2_mul_two_pow {m : Nat} (hm : 0 < m) (k : Nat) : (m * 2 ^ k).log2 = m.log2 + k := by
  induction k with
  | zero => rw [pow_zero, mul_one, add_zero]
  | succ k ih =>
    have h : m * 2 ^ (k + 1) = 2 * (m * 2 ^ k) := by ring
    rw [h, Nat.log2_two_mul (by positivity), ih, add_assoc]

theorem totalExponent_mul_two_pow {m : Nat} (hm : 0 < m) (e : Int) (k : Nat) :
    totalExponent (m * 2 ^ k) (e - k) = totalExponent m e := by
  rw [totalExponent, log2_mul_two_pow hm, totalExponent]
  push_cast
  ring

theorem shiftToTargetExponent_eq {m : Nat} {e : Int} (h : IsCanonical m e) (k : Nat) :
    UnpackedFloat.shiftToTargetExponent format (m * 2 ^ k) (e - k) .exact =
      (⟨m, false, false⟩, e) := by
  rw [UnpackedFloat.shiftToTargetExponent, totalExponent_mul_two_pow h.pos, h.targetExponent,
    UnpackedFloat.shiftToExponent]
  have hk : (e - (e - k)).toNat = k := by omega
  rw [hk, UnpackedFloat.ExtendedMantissa.ofMantissaAndAccuracy]
  simp [shiftRight_exact]

theorem roundWithAccuracy_eq {m : Nat} {e : Int} (h : IsCanonical m e) (s : Sign) (k : Nat) :
    UnpackedFloat.roundWithAccuracy format s (m * 2 ^ k) (e - k) .exact =
      .finite s m e h.pos := by
  have hagain := shiftToTargetExponent_eq h 0
  rw [pow_zero, mul_one, Nat.cast_zero, sub_zero] at hagain
  have hrounded : (⟨m, false, false⟩ : UnpackedFloat.ExtendedMantissa).roundedMantissa = m := rfl
  simp only [UnpackedFloat.roundWithAccuracy, shiftToTargetExponent_eq h k, hrounded, hagain,
    dif_neg h.pos.ne']

theorem eq_mul_two_pow {m M : Nat} {e : Int} {k : Nat}
    (heq : (M : ℚ) * 2 ^ e = m * 2 ^ (e + k)) : M = m * 2 ^ k := by
  have hpow : (2 : ℚ) ^ e ≠ 0 := zpow_ne_zero _ two_ne_zero
  rw [zpow_add₀ two_ne_zero, zpow_natCast, mul_comm ((2 : ℚ) ^ e), ← mul_assoc] at heq
  exact_mod_cast mul_right_cancel₀ hpow heq

/-- Rounding leaves a number alone that can be written as a double. -/
theorem round_eq {m M : Nat} {e E : Int} (h : IsCanonical m e) (s : Sign)
    (heq : (M : ℚ) * 2 ^ E = m * 2 ^ e) :
    UnpackedFloat.round format s M E = .finite s m e h.pos := by
  rcases le_total E e with hle | hle
  · obtain ⟨k, rfl⟩ := Int.exists_add_of_le hle
    have hM : M = m * 2 ^ k := eq_mul_two_pow heq
    have hE : E = E + k - k := by omega
    have hshift : (E - (E + k)).toNat = 0 := by omega
    have htotal : totalExponent M E = totalExponent m (E + k) := by
      conv_lhs => rw [hM, hE]
      exact totalExponent_mul_two_pow h.pos _ k
    rw [UnpackedFloat.round, htotal, h.targetExponent]
    simp only [UnpackedFloat.decreaseExponent, hshift, Nat.shiftLeft_zero, Nat.cast_zero, sub_zero]
    conv_lhs => rw [hM, hE]
    exact roundWithAccuracy_eq h s k
  · obtain ⟨k, rfl⟩ := Int.exists_add_of_le hle
    have hm : m = M * 2 ^ k := eq_mul_two_pow heq.symm
    have hM : 0 < M := Nat.pos_of_ne_zero fun hzero => by
      rw [hzero, zero_mul] at hm
      exact h.pos.ne' hm
    have he : e = e + k - k := by omega
    have hshift : (e + k - e).toNat = k := by omega
    have htotal : totalExponent M (e + k) = totalExponent m e := by
      conv_rhs => rw [hm, he]
      exact (totalExponent_mul_two_pow hM _ k).symm
    rw [UnpackedFloat.round, htotal, h.targetExponent]
    simp only [UnpackedFloat.decreaseExponent, hshift, Nat.shiftLeft_eq, ← hm, ← he]
    have hround := roundWithAccuracy_eq h s 0
    rwa [pow_zero, mul_one, Nat.cast_zero, sub_zero] at hround

/-! ### Values -/

/-- The number that an unpacked double stands for, if it stands for one. -/
def numberOf? : UnpackedFloat → Option ℚ
  | .infinity _ => none
  | .notANumber => none
  | .zero _ => some 0
  | .finite s m e _ => some ((s.apply m : ℚ) * 2 ^ e)

/-- The number that a double stands for, if it stands for one. -/
def value? (x : Float) : Option ℚ :=
  numberOf? x.toModel.unpack

/-- A number that some double stands for. -/
def IsExact (q : ℚ) : Prop :=
  ∃ x : Float, value? x = some q

/-- The number that is read where an unpacked double was written. -/
def written? (u : UnpackedFloat) : Option ℚ :=
  numberOf? (UnpackedFloat.unpack format (UnpackedFloat.pack format u))

theorem written?_zero (s : Sign) : written? (.zero s) = some 0 := by
  cases s <;> rfl

theorem written?_of_isCanonical {m : Nat} {e : Int} (h : IsCanonical m e) (s : Sign) :
    written? (.finite s m e h.pos) = some ((s.apply m : ℚ) * 2 ^ e) := by
  rw [written?, unpack_pack h]
  rfl

/-- A double that stands for a number is a zero, or has a canonical mantissa and exponent. -/
theorem cases_of_value? {x : Float} {q : ℚ} (h : value? x = some q) :
    (∃ s, x.toModel.unpack = .zero s ∧ q = 0) ∨
      ∃ s m e, ∃ hc : IsCanonical m e, x.toModel.unpack = .finite s m e hc.pos ∧
        q = (s.apply m : ℚ) * 2 ^ e := by
  rw [value?] at h
  cases hu : x.toModel.unpack with
  | infinity s => rw [hu] at h; cases h
  | notANumber => rw [hu] at h; cases h
  | zero s =>
    rw [hu] at h
    exact .inl ⟨s, rfl, (Option.some.inj h).symm⟩
  | finite s m e hm =>
    rw [hu] at h
    exact .inr ⟨s, m, e, isCanonical_of_unpack hu, rfl, (Option.some.inj h).symm⟩

theorem apply_mul (s t : Sign) (m n : Int) : (s * t).apply (m * n) = s.apply m * t.apply n := by
  cases s <;> cases t
  · exact (neg_mul_neg m n).symm
  · exact (neg_mul m n).symm
  · exact (mul_neg m n).symm
  · rfl

theorem apply_neg (s : Sign) (n : Int) : (-s).apply n = -s.apply n := by
  cases s
  · exact (neg_neg n).symm
  · rfl

/-- A number other than zero has one sign and one size. -/
theorem eq_of_apply_eq {s t : Sign} {m n : Nat} {d e : Int} (hm : 0 < m) (hn : 0 < n)
    (h : (s.apply m : ℚ) * 2 ^ d = (t.apply n : ℚ) * 2 ^ e) :
    s = t ∧ (m : ℚ) * 2 ^ d = n * 2 ^ e := by
  have hpos : (0 : ℚ) < m * 2 ^ d := by positivity
  have hpos' : (0 : ℚ) < n * 2 ^ e := by positivity
  cases s <;> cases t <;> simp only [Sign.apply, Int.cast_neg, Int.cast_natCast] at h
  · exact ⟨rfl, by linarith⟩
  · linarith
  · linarith
  · exact ⟨rfl, h⟩

/-- A number that some double stands for has a canonical mantissa and exponent. -/
theorem exists_of_isExact {s : Sign} {M : Nat} {E : Int} (hM : 0 < M)
    (h : IsExact ((s.apply M : ℚ) * 2 ^ E)) :
    ∃ m e, IsCanonical m e ∧ (M : ℚ) * 2 ^ E = m * 2 ^ e := by
  obtain ⟨x, hx⟩ := h
  rcases cases_of_value? hx with ⟨-, -, hzero⟩ | ⟨t, m, e, hc, -, heq⟩
  · exfalso
    have : (0 : ℚ) < M * 2 ^ E := by positivity
    cases s <;> simp only [Sign.apply, Int.cast_neg, Int.cast_natCast] at hzero <;> linarith
  · exact ⟨m, e, hc, (eq_of_apply_eq hM hc.pos heq).2⟩

theorem written?_round {M : Nat} {E : Int} (s : Sign) (hM : 0 < M)
    (h : IsExact ((s.apply M : ℚ) * 2 ^ E)) :
    written? (UnpackedFloat.round format s M E) = some ((s.apply M : ℚ) * 2 ^ E) := by
  obtain ⟨m, e, hc, heq⟩ := exists_of_isExact hM h
  rw [round_eq hc s heq, written?_of_isCanonical hc]
  cases s <;> simp [Sign.apply, heq]

theorem written?_normalize {M : Int} {E : Int} (z : Sign) (h : IsExact ((M : ℚ) * 2 ^ E)) :
    written? (UnpackedFloat.normalize format M E z) = some ((M : ℚ) * 2 ^ E) := by
  rw [UnpackedFloat.normalize]
  rcases lt_trichotomy M 0 with hM | rfl | hM
  · have happly : Sign.negative.apply ((-M).toNat : Int) = M := by
      rw [Int.toNat_of_nonneg (by omega), Sign.apply, neg_neg]
    rw [← happly] at h
    have hround := written?_round .negative (by omega) h
    rw [happly] at hround
    rwa [compare_lt_iff_lt.mpr hM]
  · simpa using written?_zero z
  · have happly : Sign.positive.apply (M.toNat : Int) = M := Int.toNat_of_nonneg hM.le
    rw [← happly] at h
    have hround := written?_round .positive (by omega) h
    rw [happly] at hround
    rwa [compare_gt_iff_gt.mpr hM]

/-! ### Operations -/

/-- The product of two mantissas has no bits to spare for a larger exponent. -/
theorem add_le_of_mul_eq {m n M : Nat} {d e E : Int} (hm : IsCanonical m d) (hn : IsCanonical n e)
    (h : IsCanonical M E) (heq : ((m * n : Nat) : ℚ) * 2 ^ (d + e) = M * 2 ^ E) : d + e ≤ E := by
  by_contra hlt
  obtain ⟨k, hk⟩ := Int.exists_add_of_le (by omega : E + 1 ≤ d + e)
  have hM : M = m * n * 2 ^ (k + 1) := by
    refine eq_mul_two_pow (e := E) ?_
    rw [← heq, hk]
    push_cast
    ring_nf
  have hlarge : 2 ^ 52 ≤ m * n := by
    have hsmall := h.least
    rcases hm.normal with hd | hm'
    · rcases hn.normal with he | hn'
      · omega
      · exact hn'.trans (Nat.le_mul_of_pos_left n hm.pos)
    · exact hm'.trans (Nat.le_mul_of_pos_right m hn.pos)
  have hpow : 2 ^ 1 ≤ 2 ^ (k + 1) := Nat.pow_le_pow_right two_pos (by omega)
  have hprod : 2 ^ 52 * 2 ^ 1 ≤ M := hM ▸ Nat.mul_le_mul hlarge hpow
  exact absurd h.lt (by omega)

theorem decreaseExponent_eq (s : Sign) (m : Nat) {d c : Int} (h : c ≤ d) :
    (s.apply ((UnpackedFloat.decreaseExponent m d c).1 : Int) : ℚ) * 2 ^ c =
      s.apply m * 2 ^ d := by
  obtain ⟨k, rfl⟩ := Int.exists_add_of_le h
  have hk : (c + k - c).toNat = k := by omega
  simp only [UnpackedFloat.decreaseExponent, hk, Nat.shiftLeft_eq]
  rw [zpow_add₀ two_ne_zero, zpow_natCast]
  cases s <;> simp only [Sign.apply] <;> push_cast <;> ring

variable {x y : Float} {a b : ℚ}

/-- A product is exact if it is a double. -/
theorem value?_mul (hx : value? x = some a) (hy : value? y = some b) (h : IsExact (a * b)) :
    value? (x * y) = some (a * b) := by
  show written? (UnpackedFloat.mul format x.toModel.unpack y.toModel.unpack) = some (a * b)
  rcases cases_of_value? hx with ⟨s, hs, rfl⟩ | ⟨s, m, d, hm, hs, rfl⟩ <;>
    rcases cases_of_value? hy with ⟨t, ht, rfl⟩ | ⟨t, n, e, hn, ht, rfl⟩ <;>
    rw [hs, ht]
  · rw [zero_mul]
    exact written?_zero _
  · rw [zero_mul]
    exact written?_zero _
  · rw [mul_zero]
    exact written?_zero _
  · have hproduct : (s.apply m : ℚ) * 2 ^ d * ((t.apply n : ℚ) * 2 ^ e) =
        ((s * t).apply ((m * n : Nat) : Int) : ℚ) * 2 ^ (d + e) := by
      rw [Nat.cast_mul, apply_mul, zpow_add₀ two_ne_zero]
      push_cast
      ring
    rw [hproduct] at h ⊢
    obtain ⟨M, E, hc, heq⟩ := exists_of_isExact (Nat.mul_pos hm.pos hn.pos) h
    obtain ⟨k, rfl⟩ := Int.exists_add_of_le (add_le_of_mul_eq hm hn hc heq)
    have hround := roundWithAccuracy_eq hc (s * t) k
    rw [← eq_mul_two_pow heq, add_sub_cancel_right] at hround
    rw [UnpackedFloat.mul, hround, written?_of_isCanonical hc]
    cases s * t <;> simp [Sign.apply, ← heq]

/-- A difference is exact if it is a double. -/
theorem value?_sub (hx : value? x = some a) (hy : value? y = some b) (h : IsExact (a - b)) :
    value? (x - y) = some (a - b) := by
  show written? (UnpackedFloat.sub format x.toModel.unpack y.toModel.unpack) = some (a - b)
  rcases cases_of_value? hx with ⟨s, hs, rfl⟩ | ⟨s, m, d, hm, hs, rfl⟩ <;>
    rcases cases_of_value? hy with ⟨t, ht, rfl⟩ | ⟨t, n, e, hn, ht, rfl⟩ <;>
    rw [hs, ht]
  · rw [sub_zero, UnpackedFloat.sub]
    split <;> exact written?_zero _
  · rw [UnpackedFloat.sub, written?_of_isCanonical hn, apply_neg, zero_sub]
    push_cast
    rw [neg_mul]
  · rw [sub_zero]
    exact written?_of_isCanonical hm s
  · have hdifference : (s.apply m : ℚ) * 2 ^ d - t.apply n * 2 ^ e =
        ((s.apply ((UnpackedFloat.decreaseExponent m d (min d e)).1 : Int) -
          t.apply ((UnpackedFloat.decreaseExponent n e (min d e)).1 : Int) : Int) : ℚ) *
            2 ^ min d e := by
      rw [← decreaseExponent_eq s m (min_le_left d e), ← decreaseExponent_eq t n (min_le_right d e)]
      push_cast
      ring
    rw [hdifference] at h ⊢
    exact written?_normalize .positive h

theorem value?_eq {m : Nat} {e : Int} (h : IsCanonical m e) (s : Sign) (hm : 0 < m)
    (hx : x = .ofModel (Float.Model.pack (.finite s m e hm))) :
    value? x = some ((s.apply m : ℚ) * 2 ^ e) := by
  rw [hx]
  exact written?_of_isCanonical h s

/-- A whole number whose canonical exponent is not positive. -/
theorem value?_natCast {n k : Nat} (h : IsCanonical (n * 2 ^ k) (-k)) (hm : 0 < n * 2 ^ k)
    (hx : x = .ofModel (Float.Model.pack (.finite .positive (n * 2 ^ k) (-k) hm))) :
    value? x = some (n : ℚ) := by
  rw [value?_eq h .positive hm hx, Sign.apply, zpow_neg, zpow_natCast]
  push_cast
  rw [mul_inv_cancel_right₀ (by positivity)]

theorem value?_half : value? 0.5 = some (1 / 2) := by
  have hc : IsCanonical (2 ^ 52) (-53) := by constructor <;> decide
  rw [value?_eq hc .positive (by decide) (by decide +kernel)]
  norm_num [Sign.apply]

/-- Half a number is exact if it is a double. -/
theorem value?_half_mul (hx : value? x = some a) (h : IsExact (1 / 2 * a)) :
    value? (0.5 * x) = some (1 / 2 * a) :=
  value?_mul value?_half hx h

end Double

end Playthrough
