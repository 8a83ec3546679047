import Playthrough.Text.Decimal
import Playthrough.Wire.Fault

/-!
# Numerals

A number is written as an optional minus sign, a whole part without needless leading zeros, an
optional fraction and an optional exponent. A message only ever wants a *natural* number of one
machine word, written without sign, fraction and exponent. Any other numeral is a number all the
same and may stand where nothing is wanted, provided that a double precision number can hold it.

## Main definitions

* `Wire.Numeral` — the parts of a written number.
* `Wire.Numeral.scan` — the numeral at the front of a text.
* `Wire.Numeral.natural?` — the machine word that a numeral stands for.
* `Wire.Numeral.inRange` — whether a double precision number can hold a numeral.
* `Wire.Numeral.toFloat?` — the double precision number that a numeral is read as.
* `Wire.Numeral.render` — the text of a numeral.
-/

namespace Playthrough

namespace Wire

open Text

/-- The exponent of a numeral: whether it has a minus sign, and its digits. -/
structure Exponent where
  negative : Bool
  digits : List Char
  deriving DecidableEq, Repr

/-- The parts of a written number. A fraction without digits is no fraction. -/
structure Numeral where
  negative : Bool
  whole : List Char
  fraction : List Char
  exponent : Option Exponent
  deriving DecidableEq, Repr

namespace Numeral

/-- The numeral of a natural number. -/
def ofNat (n : Nat) : Numeral :=
  ⟨false, Nat.toDigits 10 n, [], none⟩

/-- The text of a numeral. -/
def render (n : Numeral) : List Char :=
  (if n.negative then ['-'] else []) ++ n.whole ++
    (if n.fraction.isEmpty then [] else '.' :: n.fraction) ++
    match n.exponent with
    | none => []
    | some e => 'e' :: ((if e.negative then ['-'] else []) ++ e.digits)

/-! ### Scanning -/

/-- The digits at the front of a text, and the rest. -/
def spanDigits (cs : List Char) : List Char × List Char :=
  (cs.takeWhile Char.isDigit, cs.dropWhile Char.isDigit)

/-- The fault of a text that goes on with something else where a digit is due. -/
def digitFault : List Char → Fault
  | [] => .truncated
  | _ :: _ => .malformed

/-- One or more digits, and the rest. -/
def scanDigits (cs : List Char) : Except Fault (List Char × List Char) :=
  match cs.takeWhile Char.isDigit with
  | [] => .error (digitFault cs)
  | d :: ds => .ok (d :: ds, cs.dropWhile Char.isDigit)

/-- The whole part: a zero with no digit behind it, or digits that do not begin with a zero. -/
def scanWhole (cs : List Char) : Except Fault (List Char × List Char) :=
  match cs with
  | '0' :: d :: cs => if d.isDigit then .error .malformed else .ok (['0'], d :: cs)
  | cs => scanDigits cs

/-- The fraction: a point and one or more digits, or nothing. -/
def scanFraction (cs : List Char) : Except Fault (List Char × List Char) :=
  match cs with
  | '.' :: cs => scanDigits cs
  | cs => .ok ([], cs)

/-- The sign of an exponent: whether it is a minus, and the rest. -/
def scanSign : List Char → Bool × List Char
  | '+' :: cs => (false, cs)
  | '-' :: cs => (true, cs)
  | cs => (false, cs)

/-- The exponent: a letter, an optional sign and one or more digits, or nothing. -/
def scanExponent (cs : List Char) : Except Fault (Option Exponent × List Char) :=
  match cs with
  | c :: cs =>
    if c = 'e' ∨ c = 'E' then
      (scanDigits (scanSign cs).2).map fun (ds, rest) => (some ⟨(scanSign cs).1, ds⟩, rest)
    else .ok (none, c :: cs)
  | [] => .ok (none, [])

/-- The parts of a number behind its sign, and the rest of the text. -/
def scanUnsigned (negative : Bool) (cs : List Char) : Except Fault (Numeral × List Char) := do
  let (whole, cs) ← scanWhole cs
  let (fraction, cs) ← scanFraction cs
  let (exponent, cs) ← scanExponent cs
  return (⟨negative, whole, fraction, exponent⟩, cs)

/-- The numeral at the front of a text, and the rest of the text. -/
def scan (cs : List Char) : Except Fault (Numeral × List Char) :=
  match cs with
  | '-' :: cs => scanUnsigned true cs
  | cs => scanUnsigned false cs

theorem length_scanDigits_lt {cs ds rest : List Char} (h : scanDigits cs = .ok (ds, rest)) :
    rest.length < cs.length := by
  unfold scanDigits at h
  split at h
  · simp at h
  · rename_i d ds' heq
    simp only [Except.ok.injEq, Prod.mk.injEq] at h
    have hlen := congrArg List.length (@List.takeWhile_append_dropWhile _ Char.isDigit cs)
    rw [List.length_append, heq, h.2, List.length_cons] at hlen
    omega

theorem length_scanWhole_lt {cs ds rest : List Char} (h : scanWhole cs = .ok (ds, rest)) :
    rest.length < cs.length := by
  unfold scanWhole at h
  split at h
  · split at h <;> simp_all
  · exact length_scanDigits_lt h

theorem length_scanFraction_le {cs ds rest : List Char} (h : scanFraction cs = .ok (ds, rest)) :
    rest.length ≤ cs.length := by
  unfold scanFraction at h
  split at h
  · have := length_scanDigits_lt h
    simp only [List.length_cons]
    omega
  · simp_all

theorem length_scanSign_le (cs : List Char) : (scanSign cs).2.length ≤ cs.length := by
  unfold scanSign
  split <;> simp

theorem length_scanExponent_le {cs rest : List Char} {e : Option Exponent}
    (h : scanExponent cs = .ok (e, rest)) : rest.length ≤ cs.length := by
  unfold scanExponent at h
  split at h
  · rename_i c cs
    split at h
    · cases hd : scanDigits (scanSign cs).2 with
      | error f => simp [hd, Except.map] at h
      | ok p =>
        obtain ⟨ds, r⟩ := p
        simp only [hd, Except.map, Except.ok.injEq, Prod.mk.injEq] at h
        have := length_scanDigits_lt hd
        have := length_scanSign_le cs
        simp only [List.length_cons, ← h.2]
        omega
    · simp only [Except.ok.injEq, Prod.mk.injEq] at h
      simp [← h.2]
  · simp_all

theorem length_scanUnsigned_lt {b : Bool} {cs rest : List Char} {n : Numeral}
    (h : scanUnsigned b cs = .ok (n, rest)) : rest.length < cs.length := by
  simp only [scanUnsigned, bind, Except.bind] at h
  split at h
  · simp at h
  · rename_i w hw
    split at h
    · simp at h
    · rename_i f hf
      split at h
      · simp at h
      · rename_i e he
        simp only [pure, Except.pure, Except.ok.injEq, Prod.mk.injEq] at h
        have := length_scanWhole_lt hw
        have := length_scanFraction_le hf
        have := length_scanExponent_le he
        obtain ⟨-, rfl⟩ := h
        omega

theorem length_scan_lt {cs rest : List Char} {n : Numeral} (h : scan cs = .ok (n, rest)) :
    rest.length < cs.length := by
  unfold scan at h
  split at h
  · have := length_scanUnsigned_lt h
    simp only [List.length_cons]
    omega
  · exact length_scanUnsigned_lt h

/-! ### Values -/

/-- The machine word that a numeral stands for: no sign, no fraction, no exponent, and small
enough. -/
def natural? (n : Numeral) : Option Nat :=
  if n.negative = false ∧ n.fraction = [] ∧ n.exponent = none ∧
      digitsValue n.whole < wordLimit then
    some (digitsValue n.whole)
  else none

/-- Append digits to a number as long as the result is a machine word. The second part is the
number of digits that were left out, beginning with the first that did not fit. -/
def takeDigits : Nat → List Char → Nat × Nat
  | m, [] => (m, 0)
  | m, d :: ds =>
    let next := 10 * m + digitsValue [d]
    if next < wordLimit then takeDigits next ds else (m, ds.length + 1)

/-- The double precision number nearest to a natural number, to the even one of two neighbours at
the same distance. -/
def nearestDouble (n : Nat) : Nat :=
  if n < Nat.pow 2 53 then n
  else
    let unit := Nat.pow 2 (Nat.log2 n - 52)
    let below := n / unit * unit
    let rest := n - below
    if 2 * rest < unit ∨ (2 * rest = unit ∧ n / unit % 2 = 0) then below else below + unit

/-- The first natural number that rounds to no finite double precision number. -/
def doubleLimit : Nat := Nat.pow 2 1024 - Nat.pow 2 970

/-- The exponent as an integer. -/
def exponentValue (n : Numeral) : Int :=
  match n.exponent with
  | none => 0
  | some e => if e.negative then -(digitsValue e.digits : Int) else digitsValue e.digits

/-- The significand of a numeral, made of its leading digits that fit a machine word, and the power
of ten that scales it. -/
def scientific (n : Numeral) : Nat × Int :=
  let (w, dropped) := takeDigits 0 n.whole
  let (s, ignored) := takeDigits w n.fraction
  (s, n.exponentValue + dropped - (n.fraction.length - ignored : Nat))

/-- The exponent of the greatest power of ten that is a double precision number. -/
def maxPower : Nat := 308

/-- Whether a double precision number can hold a numeral. -/
def inRange (n : Numeral) : Bool :=
  let (s, scale) := n.scientific
  if s = 0 ∨ scale < 0 then true
  else if scale > maxPower then false
  else decide (nearestDouble s * nearestDouble (Nat.pow 10 scale.toNat) < doubleLimit)

/-- The double precision number nearest to a power of ten. -/
def powerOfTen (k : Nat) : Float :=
  Float.ofNat (nearestDouble (Nat.pow 10 k))

/-- Divide by a power of ten, in steps of at most the greatest one that is a double precision
number. -/
def divideByPower (x : Float) (k : Nat) : Float :=
  if k ≤ maxPower then x / powerOfTen k
  else if x == 0 then x
  else divideByPower (x / powerOfTen maxPower) (k - maxPower)
termination_by k
decreasing_by
  have : maxPower = 308 := rfl
  omega

/-- The double precision number that a numeral is read as, if one can hold it. The significand and
the power of ten are rounded before they are put together, and the result is rounded again, so it
may be a neighbour of the nearest number. A zero keeps its sign. -/
def toFloat? (n : Numeral) : Option Float :=
  if n.inRange then
    let (s, scale) := n.scientific
    let x := Float.ofNat s
    let y :=
      if s = 0 then x
      else if scale < 0 then divideByPower x scale.natAbs
      else x * powerOfTen scale.toNat
    some (if n.negative then -y else y)
  else none

end Numeral

end Wire

end Playthrough
