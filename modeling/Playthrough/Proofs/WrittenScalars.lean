import Playthrough.Proofs.SpelledScalars
import Playthrough.Proofs.Words

/-!
# Scalars as they are written

A text is written as a quotation, a natural number as its decimal digits. These are spellings of the
text and of the numeral, without control characters. A machine word is read back from its numeral,
and is within the range of the numbers that may stand where none is wanted.

## Main results

* `Wire.spellsText_flatMap_quoteChar` — a text is spelled by its quotation.
* `Wire.Numeral.isSpelled_ofNat` — a numeral is spelled by its digits.
* `Wire.Numeral.natural?_ofNat` — a machine word is read back.
* `Wire.Numeral.inRange_ofNat` — a machine word is in range.
-/

namespace Playthrough

namespace Wire

open Text

/-! ### Texts -/

theorem codeUnit?_hexDigit :
    ∀ n < 0x20, codeUnit? '0' '0' (hexDigit (n / 16)) (hexDigit (n % 16)) = some n := by
  decide

/-- A character is spelled as it is written, in front of any spelled text. -/
theorem SpellsText.quoteChar (c : Char) {cs ts : List Char} (h : SpellsText cs ts) :
    SpellsText (c :: cs) (quoteChar c ++ ts) := by
  unfold Wire.quoteChar
  iterate 7
    split
    · subst_vars
      exact .named rfl h
  split
  · next hcontrol =>
    have hunit := SpellsText.unit (codeUnit?_hexDigit _ hcontrol)
      ⟨by simp [Quotation.isLead]; omega, by simp [Quotation.isTrail]; omega⟩ h
    rwa [Char.ofNat_toNat] at hunit
  · next hquote hslash _ _ _ _ _ hcontrol =>
    exact .plain (Nat.le_of_not_lt hcontrol) hquote hslash h

/-- A text is spelled by its quotation. -/
theorem spellsText_flatMap_quoteChar (cs : List Char) : SpellsText cs (cs.flatMap quoteChar) := by
  induction cs with
  | nil => exact .nil
  | cons c cs ih => exact ih.quoteChar c

theorem le_of_mem_quoteChar {c d : Char} (h : d ∈ quoteChar c) : 0x20 ≤ d.toNat := by
  unfold quoteChar at h
  iterate 7
    split at h
    · rw [List.mem_cons, List.mem_singleton] at h
      rcases h with rfl | rfl <;> decide
  split at h
  · next hcontrol =>
    have hdigits : ∀ n < 0x20,
        0x20 ≤ (hexDigit (n / 16)).toNat ∧ 0x20 ≤ (hexDigit (n % 16)).toNat := by
      decide
    obtain ⟨hfirst, hsecond⟩ := hdigits _ hcontrol
    simp only [List.mem_cons, List.not_mem_nil, or_false] at h
    rcases h with rfl | rfl | rfl | rfl | rfl | rfl
    iterate 4
      · decide
    · exact hfirst
    · exact hsecond
  · next hcontrol =>
    rw [List.mem_singleton.mp h]
    exact Nat.le_of_not_lt hcontrol

/-- No character of a quotation is a control character. -/
theorem le_of_mem_quote {cs : List Char} {d : Char} (h : d ∈ quote cs) : 0x20 ≤ d.toNat := by
  rw [quote, List.mem_cons, List.mem_append, List.mem_flatMap, List.mem_singleton] at h
  rcases h with rfl | ⟨c, -, h⟩ | rfl
  · decide
  · exact le_of_mem_quoteChar h
  · decide

/-! ### Numbers -/

namespace Numeral

theorem render_ofNat (k : Nat) : (ofNat k).render = Nat.toDigits 10 k := by
  simp [render, ofNat]

theorem isDigit_toDigits (k : Nat) : ∀ d ∈ Nat.toDigits 10 k, d.isDigit = true :=
  fun _ h => Nat.isDigit_of_mem_toDigits (by decide) (by decide) h

theorem le_of_mem_render {k : Nat} {d : Char} (h : d ∈ (ofNat k).render) : 0x20 ≤ d.toNat := by
  rw [render_ofNat] at h
  exact Nat.le_trans (by decide) (bounds_of_isDigit (isDigit_toDigits k d h)).1

/-- Only zero is written with a zero in front. -/
theorem toDigits_eq_cons (k : Nat) :
    k = 0 ∨ ∃ d ds, Nat.toDigits 10 k = d :: ds ∧ d ≠ '0' := by
  induction k using Nat.strongRecOn with
  | ind k ih =>
    by_cases hk : k < 10
    · have hdigit : ∀ k < 10, k = 0 ∨ Nat.digitChar k ≠ '0' := by decide
      rw [Nat.toDigits_of_lt_base hk]
      exact (hdigit k hk).imp_right fun hne => ⟨_, [], rfl, hne⟩
    · right
      rw [Nat.toDigits_of_base_le (by decide) (Nat.le_of_not_lt hk)]
      rcases ih (k / 10) (by omega) with hzero | ⟨d, ds, hds, hd⟩
      · omega
      · exact ⟨d, ds ++ [Nat.digitChar (k % 10)], by rw [hds, List.cons_append], hd⟩

/-- A numeral is spelled by its digits. -/
theorem isSpelled_ofNat (k : Nat) : (ofNat k).IsSpelled (ofNat k).render := by
  have hwhole : IsWhole (Nat.toDigits 10 k) := by
    rcases toDigits_eq_cons k with rfl | ⟨d, ds, hds, hd⟩
    · exact .inl rfl
    · refine .inr ⟨Nat.toDigits_ne_nil, isDigit_toDigits k, ?_⟩
      rw [hds]
      exact fun h => hd (Option.some.inj h)
  have hspelled : (ofNat k).IsSpelled ([] ++ (Nat.toDigits 10 k ++ ([] ++ []))) :=
    .mk hwhole (List.forall_mem_nil _) .absent
  rw [render_ofNat]
  simpa using hspelled

theorem digitsValue_toDigits (k : Nat) : digitsValue (Nat.toDigits 10 k) = k :=
  Nat.ofDigitChars_ten_toDigits

/-- A machine word is read back. -/
theorem natural?_ofNat {k : Nat} (h : k < wordLimit) : (ofNat k).natural? = some k := by
  simp [natural?, ofNat, digitsValue_toDigits, h]

theorem le_ofDigitChars (ds : List Char) (m : Nat) : m ≤ Nat.ofDigitChars 10 ds m := by
  induction ds generalizing m with
  | nil => exact Nat.le_refl m
  | cons d ds ih =>
    rw [Nat.ofDigitChars_cons]
    refine Nat.le_trans ?_ (ih _)
    omega

/-- All digits of a machine word are taken. -/
theorem takeDigits_eq (ds : List Char) {m : Nat} (h : Nat.ofDigitChars 10 ds m < wordLimit) :
    takeDigits m ds = (Nat.ofDigitChars 10 ds m, 0) := by
  induction ds generalizing m with
  | nil => rfl
  | cons d ds ih =>
    have hnext : 10 * m + digitsValue [d] = 10 * m + (d.toNat - '0'.toNat) := by
      simp [digitsValue, Nat.ofDigitChars_cons]
    rw [Nat.ofDigitChars_cons] at h ⊢
    rw [takeDigits, hnext]
    rw [if_pos (Nat.lt_of_le_of_lt (le_ofDigitChars ds _) h)]
    exact ih h

/-- Rounding does not double a number. -/
theorem nearestDouble_le (n : Nat) : nearestDouble n ≤ 2 * n := by
  rw [nearestDouble]
  split
  · omega
  · next hlarge =>
    have hn : n ≠ 0 := by
      rintro rfl
      exact hlarge (by decide)
    -- rounding up adds one unit, which is at most the number itself
    have hunit : Nat.pow 2 (Nat.log2 n - 52) ≤ n :=
      Nat.le_trans (Nat.pow_le_pow_right (by decide) (Nat.sub_le _ _)) (Nat.log2_self_le hn)
    have hbelow := Nat.div_mul_le_self n (Nat.pow 2 (Nat.log2 n - 52))
    simp only
    split <;> omega

/-- A machine word is in range. -/
theorem inRange_ofNat {k : Nat} (h : k < wordLimit) : (ofNat k).inRange = true := by
  have htake : takeDigits 0 (Nat.toDigits 10 k) = (k, 0) := by
    have hvalue : Nat.ofDigitChars 10 (Nat.toDigits 10 k) 0 = k := digitsValue_toDigits k
    rw [takeDigits_eq _ (by rwa [hvalue]), hvalue]
  have hscientific : (ofNat k).scientific = (k, 0) := by
    simp [scientific, ofNat, htake, takeDigits, exponentValue]
  have hone : nearestDouble (Nat.pow 10 0) = 1 := by decide
  have hlimit : 2 * wordLimit < doubleLimit := by decide +kernel
  have hbound : nearestDouble k * nearestDouble (Nat.pow 10 0) < doubleLimit := by
    have hdouble := nearestDouble_le k
    rw [hone]
    omega
  simp only [inRange, hscientific]
  split
  · rfl
  · exact (if_neg (by decide)).trans (decide_eq_true hbound)

end Numeral

end Wire

end Playthrough
