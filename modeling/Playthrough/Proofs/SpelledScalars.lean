import Playthrough.Wire.Numeral
import Playthrough.Wire.Quotation

/-!
# All spellings of a scalar

A text has many spellings besides the one that is written: any of its characters may be named by a
letter behind a backslash, as far as there is one, or be given by one or two code units in
hexadecimal digits of either case. A numeral leaves a choice too, in the letter and the sign of its
exponent. Whichever spelling is used, the scanner finds it, whatever stands behind it, or unless a
numeral would go on, and a text is read back.

## Main definitions

* `Wire.SpellsText` — the spellings of a text between its quotes.
* `Wire.Numeral.Ends` — a numeral does not go on with these characters.
* `Wire.Numeral.IsSpelled` — the spellings of a numeral.

## Main results

* `Wire.SpellsText.exists_units` — a spelled text is found, and read.
* `Wire.Numeral.IsSpelled.scan_eq` — a spelled numeral is found.
-/

namespace Playthrough

namespace Wire

/-! ### Texts -/

/-- The spellings of a text between its quotes. -/
inductive SpellsText : List Char → List Char → Prop where
  | nil : SpellsText [] []
  /-- A character that stands for itself. -/
  | plain {c : Char} {cs ts : List Char} (visible : 0x20 ≤ c.toNat) (quote : c ≠ '"')
      (slash : c ≠ '\\') (rest : SpellsText cs ts) : SpellsText (c :: cs) (c :: ts)
  /-- A character that is named by a letter. -/
  | named {c letter : Char} {cs ts : List Char} (name : namedChar? letter = some c)
      (rest : SpellsText cs ts) : SpellsText (c :: cs) ('\\' :: letter :: ts)
  /-- A character that is one code unit. -/
  | unit {n : Nat} {a b c d : Char} {cs ts : List Char} (digits : codeUnit? a b c d = some n)
      (whole : Quotation.isLead n = false ∧ Quotation.isTrail n = false)
      (rest : SpellsText cs ts) :
      SpellsText (Char.ofNat n :: cs) ('\\' :: 'u' :: a :: b :: c :: d :: ts)
  /-- A character that is a pair of code units. -/
  | pair {n m : Nat} {a b c d a' b' c' d' : Char} {cs ts : List Char}
      (lead : codeUnit? a b c d = some n ∧ Quotation.isLead n = true)
      (trail : codeUnit? a' b' c' d' = some m ∧ Quotation.isTrail m = true)
      (rest : SpellsText cs ts) :
      SpellsText (Quotation.pairChar n m :: cs)
        ('\\' :: 'u' :: a :: b :: c :: d :: '\\' :: 'u' :: a' :: b' :: c' :: d' :: ts)

namespace Quotation

theorem scan_named {letter c : Char} (h : namedChar? letter = some c) (cs : List Char) :
    scan ('\\' :: letter :: cs) = cons (.plain c) (scan cs) := by
  unfold namedChar? at h
  split at h <;> cases h <;> rfl

theorem scan_plain {c : Char} (visible : 0x20 ≤ c.toNat) (quote : c ≠ '"') (slash : c ≠ '\\')
    (cs : List Char) : scan (c :: cs) = cons (.plain c) (scan cs) := by
  rw [scan, if_neg (Nat.not_lt.mpr visible)]
  all_goals simp_all

theorem scan_unit {a b c d : Char} {n : Nat} (h : codeUnit? a b c d = some n) (cs : List Char) :
    scan ('\\' :: 'u' :: a :: b :: c :: d :: cs) = cons (.code n) (scan cs) := by
  rw [scan, h]

/-- A code unit that is no half of a pair stands for a character, whatever follows it. -/
theorem join_whole {n : Nat} (h : isLead n = false ∧ isTrail n = false) (us : List TextUnit)
    (f : Option Fault) : join (.code n :: us) f = (join us f).map (Char.ofNat n :: ·) := by
  obtain ⟨hlead, htrail⟩ := h
  cases us with
  | nil => simp [join, hlead, htrail]
  | cons u us => cases u <;> simp [join, hlead, htrail]

theorem join_pair {n m : Nat} (hn : isLead n = true) (hm : isTrail m = true) (us : List TextUnit)
    (f : Option Fault) :
    join (.code n :: .code m :: us) f = (join us f).map (pairChar n m :: ·) := by
  have htrail : isTrail n = false := by
    simp only [isLead, isTrail, Bool.and_eq_true, decide_eq_true_eq, Bool.and_eq_false_iff,
      decide_eq_false_iff_not] at hn ⊢
    omega
  simp [join, hn, hm, htrail]

end Quotation

/-- A spelled text is found by its units, and read. -/
theorem SpellsText.exists_units {cs ts : List Char} (h : SpellsText cs ts) :
    ∃ us, (∀ rest, Quotation.scan (ts ++ '"' :: rest) = (⟨us, none⟩, rest)) ∧
      Quotation.join us none = .ok cs := by
  induction h with
  | nil => exact ⟨[], fun rest => rfl, rfl⟩
  | @plain c cs ts visible quote slash _ ih =>
    obtain ⟨us, hscan, hjoin⟩ := ih
    refine ⟨.plain c :: us, fun rest => ?_, by rw [Quotation.join, hjoin]; rfl⟩
    rw [List.cons_append, Quotation.scan_plain visible quote slash, hscan]
    rfl
  | @named c letter cs ts name _ ih =>
    obtain ⟨us, hscan, hjoin⟩ := ih
    refine ⟨.plain c :: us, fun rest => ?_, by rw [Quotation.join, hjoin]; rfl⟩
    rw [List.cons_append, List.cons_append, Quotation.scan_named name, hscan]
    rfl
  | @unit n a b c d cs ts digits whole _ ih =>
    obtain ⟨us, hscan, hjoin⟩ := ih
    refine ⟨.code n :: us, fun rest => ?_, by rw [Quotation.join_whole whole, hjoin]; rfl⟩
    simp only [List.cons_append]
    rw [Quotation.scan_unit digits, hscan]
    rfl
  | @pair n m a b c d a' b' c' d' cs ts lead trail _ ih =>
    obtain ⟨us, hscan, hjoin⟩ := ih
    refine ⟨.code n :: .code m :: us, fun rest => ?_, ?_⟩
    · simp only [List.cons_append]
      rw [Quotation.scan_unit lead.1, Quotation.scan_unit trail.1, hscan]
      rfl
    · rw [Quotation.join_pair lead.2 trail.2, hjoin]
      rfl

/-! ### Numbers -/

namespace Numeral

/-- A numeral does not go on with these characters. -/
def Ends (rest : List Char) : Prop :=
  ∀ c ∈ rest.head?, c.isDigit = false ∧ c ≠ '.' ∧ c ≠ 'e' ∧ c ≠ 'E'

/-- The whole part of a numeral: a zero, or digits that do not begin with one. -/
def IsWhole (ds : List Char) : Prop :=
  ds = ['0'] ∨ ds ≠ [] ∧ (∀ d ∈ ds, d.isDigit = true) ∧ ds.head? ≠ some '0'

/-- The spellings of an exponent: a letter of either case, a sign that need not stand there unless
it is a minus, and digits. -/
inductive SpellsExponent : Option Exponent → List Char → Prop where
  | absent : SpellsExponent none []
  | present {letter : Char} {negative : Bool} {sign digits : List Char}
      (letter_eq : letter = 'e' ∨ letter = 'E')
      (sign_eq : if negative then sign = ['-'] else sign = [] ∨ sign = ['+'])
      (nonempty : digits ≠ []) (isDigit : ∀ d ∈ digits, d.isDigit = true) :
      SpellsExponent (some ⟨negative, digits⟩) (letter :: (sign ++ digits))

/-- The spellings of a numeral. -/
inductive IsSpelled : Numeral → List Char → Prop where
  | mk {negative : Bool} {whole fraction : List Char} {exponent : Option Exponent}
      {tail : List Char} (isWhole : IsWhole whole) (isDigit : ∀ d ∈ fraction, d.isDigit = true)
      (spells : SpellsExponent exponent tail) :
      IsSpelled ⟨negative, whole, fraction, exponent⟩
        ((if negative then ['-'] else []) ++
          (whole ++ ((if fraction = [] then [] else '.' :: fraction) ++ tail)))

theorem scanDigits_append {ds rest : List Char} (hne : ds ≠ []) (hds : ∀ d ∈ ds, d.isDigit = true)
    (hrest : ∀ c ∈ rest.head?, c.isDigit = false) : scanDigits (ds ++ rest) = .ok (ds, rest) := by
  have htake : rest.takeWhile Char.isDigit = [] := by
    cases rest with
    | nil => rfl
    | cons c rest => exact List.takeWhile_cons_of_neg (by simp [hrest c rfl])
  have hdrop : rest.dropWhile Char.isDigit = rest := by
    cases rest with
    | nil => rfl
    | cons c rest => exact List.dropWhile_cons_of_neg (by simp [hrest c rfl])
  have hdigits : (ds ++ rest).takeWhile Char.isDigit = ds := by
    rw [List.takeWhile_append_of_pos hds, htake, List.append_nil]
  obtain ⟨d, ds, rfl⟩ := List.exists_cons_of_ne_nil hne
  rw [scanDigits, hdigits, List.dropWhile_append_of_pos hds, hdrop]

theorem scanWhole_append {ds rest : List Char} (h : IsWhole ds)
    (hrest : ∀ c ∈ rest.head?, c.isDigit = false) : scanWhole (ds ++ rest) = .ok (ds, rest) := by
  rcases h with rfl | ⟨hne, hdigits, hhead⟩
  · cases rest with
    | nil => rfl
    | cons c rest =>
      have hc : c.isDigit = false := hrest c rfl
      change (if c.isDigit then _ else _) = _
      rw [hc]
      rfl
  · obtain ⟨d, ds, rfl⟩ := List.exists_cons_of_ne_nil hne
    have hd : d ≠ '0' := fun heq => hhead (by rw [heq]; rfl)
    rw [List.cons_append, scanWhole]
    · exact scanDigits_append hne hdigits hrest
    · exact fun _ _ heq => absurd (List.cons.inj heq).1 hd

/-- The end of a numeral ends each of its parts. -/
theorem Ends.isDigit_eq {rest : List Char} (h : Ends rest) :
    ∀ c ∈ rest.head?, c.isDigit = false :=
  fun c hc => (h c hc).1

theorem scanExponent_append {e : Option Exponent} {tail rest : List Char}
    (h : SpellsExponent e tail) (hrest : Ends rest) :
    scanExponent (tail ++ rest) = .ok (e, rest) := by
  cases h with
  | absent =>
    cases rest with
    | nil => rfl
    | cons c rest => exact if_neg (by simp [(hrest c rfl).2.2])
  | @present letter negative sign digits letter_eq sign_eq nonempty isDigit =>
    have hdigits : scanDigits (digits ++ rest) = .ok (digits, rest) :=
      scanDigits_append nonempty isDigit hrest.isDigit_eq
    have hsign : scanSign (sign ++ digits ++ rest) = (negative, digits ++ rest) := by
      cases negative with
      | true =>
        obtain rfl : sign = ['-'] := by simpa using sign_eq
        rfl
      | false =>
        rcases (show sign = [] ∨ sign = ['+'] by simpa using sign_eq) with rfl | rfl
        · obtain ⟨d, ds, rfl⟩ := List.exists_cons_of_ne_nil nonempty
          have hd : d.isDigit = true := isDigit d List.mem_cons_self
          rw [List.nil_append, List.cons_append, scanSign]
          all_goals
            rintro cs heq
            obtain ⟨rfl, -⟩ := List.cons.inj heq
            contradiction
        · rfl
    rw [List.cons_append, scanExponent, if_pos letter_eq, hsign, hdigits]
    rfl

theorem scanFraction_append {fraction tail : List Char} (h : ∀ d ∈ fraction, d.isDigit = true)
    (htail : ∀ c ∈ tail.head?, c.isDigit = false ∧ c ≠ '.') :
    scanFraction ((if fraction = [] then [] else '.' :: fraction) ++ tail) =
      .ok (fraction, tail) := by
  split
  · next hempty =>
    subst hempty
    cases tail with
    | nil => rfl
    | cons c tail =>
      rw [List.nil_append, scanFraction]
      exact fun _ heq => absurd (List.cons.inj heq).1 (htail c rfl).2
  · next hne => exact scanDigits_append hne h fun c hc => (htail c hc).1

/-- Neither a digit nor a point stands where the exponent begins or would begin. -/
theorem SpellsExponent.head?_append {e : Option Exponent} {tail rest : List Char}
    (h : SpellsExponent e tail) (hrest : Ends rest) :
    ∀ c ∈ (tail ++ rest).head?, c.isDigit = false ∧ c ≠ '.' := by
  cases h with
  | absent => exact fun c hc => ⟨(hrest c hc).1, (hrest c hc).2.1⟩
  | present letter_eq =>
    rintro c ⟨⟩
    rcases letter_eq with rfl | rfl <;> decide

theorem IsWhole.digits {ds : List Char} (h : IsWhole ds) :
    ds ≠ [] ∧ ∀ d ∈ ds, d.isDigit = true := by
  rcases h with rfl | ⟨hne, hdigits, -⟩
  · exact ⟨List.cons_ne_nil _ _, by simp⟩
  · exact ⟨hne, hdigits⟩

theorem IsWhole.exists_cons {ds : List Char} (h : IsWhole ds) :
    ∃ d ds', ds = d :: ds' ∧ d.isDigit = true := by
  obtain ⟨d, ds', rfl⟩ := List.exists_cons_of_ne_nil h.digits.1
  exact ⟨d, ds', rfl, h.digits.2 d List.mem_cons_self⟩

/-- A spelled numeral is found, unless it goes on. -/
theorem IsSpelled.scan_eq {n : Numeral} {cs rest : List Char} (h : n.IsSpelled cs)
    (hrest : Ends rest) : scan (cs ++ rest) = .ok (n, rest) := by
  cases h with
  | @mk negative whole fraction exponent tail isWhole isDigit spells =>
    have htail := spells.head?_append hrest
    have hexponent := scanExponent_append spells hrest
    have hfraction := scanFraction_append isDigit htail
    have hpoint : ∀ c ∈ ((if fraction = [] then [] else '.' :: fraction) ++
        (tail ++ rest)).head?, c.isDigit = false := by
      split
      · exact fun c hc => (htail c hc).1
      · rintro c ⟨⟩
        rfl
    have hunsigned : scanUnsigned negative (whole ++
        ((if fraction = [] then [] else '.' :: fraction) ++ (tail ++ rest))) =
          .ok (⟨negative, whole, fraction, exponent⟩, rest) := by
      rw [scanUnsigned, scanWhole_append isWhole hpoint]
      simp only [bind, Except.bind, hfraction, hexponent]
      rfl
    rw [List.append_assoc, List.append_assoc, List.append_assoc]
    cases negative with
    | true => exact hunsigned
    | false =>
      obtain ⟨d, ds, rfl, hd⟩ := isWhole.exists_cons
      rw [if_neg Bool.false_ne_true, List.nil_append, List.cons_append, scan]
      · exact hunsigned
      · intro cs heq
        obtain ⟨rfl, -⟩ := List.cons.inj heq
        contradiction

/-- A spelled numeral begins with a minus sign or a digit. -/
theorem IsSpelled.exists_cons {n : Numeral} {cs : List Char} (h : n.IsSpelled cs) :
    ∃ d ds, cs = d :: ds ∧ (d = '-' ∨ d.isDigit = true) := by
  cases h with
  | @mk negative whole fraction exponent tail isWhole isDigit spells =>
    obtain ⟨d, ds, rfl, hd⟩ := isWhole.exists_cons
    cases negative with
    | true => exact ⟨'-', _, rfl, .inl rfl⟩
    | false => exact ⟨d, _, rfl, .inr hd⟩

theorem getLast?_digits (front : List Char) {ds : List Char} (hne : ds ≠ [])
    (hds : ∀ d ∈ ds, d.isDigit = true) :
    ∃ d, (front ++ ds).getLast? = some d ∧ d.isDigit = true := by
  refine ⟨ds.getLast hne, ?_, hds _ (List.getLast_mem hne)⟩
  rw [List.getLast?_append, List.getLast?_eq_some_getLast hne, Option.some_or]

/-- A spelled numeral ends with a digit. -/
theorem IsSpelled.getLast?_eq {n : Numeral} {cs : List Char} (h : n.IsSpelled cs) :
    ∃ d, cs.getLast? = some d ∧ d.isDigit = true := by
  cases h with
  | @mk negative whole fraction exponent tail isWhole isDigit spells =>
    cases spells with
    | @present letter negative' sign digits _ _ nonempty isDigit' =>
      rw [← List.append_assoc, ← List.append_assoc, ← List.cons_append, ← List.append_assoc]
      exact getLast?_digits _ nonempty isDigit'
    | absent =>
      by_cases hne : fraction = []
      · rw [if_pos hne, List.append_nil, List.append_nil]
        exact getLast?_digits _ isWhole.digits.1 isWhole.digits.2
      · have hpoint : '.' :: fraction = ['.'] ++ fraction := rfl
        rw [if_neg hne, List.append_nil, hpoint, ← List.append_assoc, ← List.append_assoc]
        exact getLast?_digits _ hne isDigit

end Numeral

end Wire

end Playthrough
