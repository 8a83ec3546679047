import Playthrough.Wire.Fault

/-!
# Quoted texts

A text is written between double quotes. A quote, a backslash and the control characters below
`U+0020` are written with a backslash. Any character may also be written as one or two 16-bit code
units of four hexadecimal digits each, so a quotation is a sequence of *units*, and a pair of units
has to fit together to be one character.

A quotation is scanned first, which finds its end and its units, and read afterwards, which joins
the units to characters. What is only skipped is scanned and never read, so that it may hold units
that stand for no character.

## Main definitions

* `Wire.Quotation` — the units of a quotation and how it ends.
* `Wire.Quotation.scan` — the quotation behind an opening quote, and what follows it.
* `Wire.Quotation.read` — the text that a quotation stands for.
* `Wire.quote` — the shortest quotation of a text.
-/

namespace Playthrough

namespace Wire

/-! ### Writing -/

/-- A hexadecimal digit below sixteen, in lower case. -/
def hexDigit (n : Nat) : Char :=
  Nat.digitChar n

/-- One character inside a quotation. -/
def quoteChar (c : Char) : List Char :=
  if c = '"' then ['\\', '"']
  else if c = '\\' then ['\\', '\\']
  else if c = '\x08' then ['\\', 'b']
  else if c = '\t' then ['\\', 't']
  else if c = '\n' then ['\\', 'n']
  else if c = '\x0c' then ['\\', 'f']
  else if c = '\r' then ['\\', 'r']
  else if c.toNat < 0x20 then
    ['\\', 'u', '0', '0', hexDigit (c.toNat / 16), hexDigit (c.toNat % 16)]
  else [c]

/-- The shortest quotation of a text. -/
def quote (cs : List Char) : List Char :=
  '"' :: (cs.flatMap quoteChar ++ ['"'])

/-! ### Scanning -/

/-- A part of a quotation. -/
inductive TextUnit where
  /-- A character that stands for itself, or is named by a letter behind a backslash. -/
  | plain (c : Char)
  /-- A 16-bit code unit given by its hexadecimal digits. -/
  | code (n : Nat)
  deriving DecidableEq, Repr

/-- The units of a quotation, and the fault that keeps it from being closed. -/
structure Quotation where
  units : List TextUnit
  fault : Option Fault
  deriving DecidableEq, Repr

/-- The value of a hexadecimal digit. -/
def hexValue? (c : Char) : Option Nat :=
  if '0' ≤ c ∧ c ≤ '9' then some (c.toNat - '0'.toNat)
  else if 'a' ≤ c ∧ c ≤ 'f' then some (c.toNat - 'a'.toNat + 10)
  else if 'A' ≤ c ∧ c ≤ 'F' then some (c.toNat - 'A'.toNat + 10)
  else none

/-- The code unit with four given hexadecimal digits. -/
def codeUnit? (a b c d : Char) : Option Nat := do
  return (((← hexValue? a) * 16 + (← hexValue? b)) * 16 + (← hexValue? c)) * 16 + (← hexValue? d)

/-- The character that a letter behind a backslash names. -/
def namedChar? : Char → Option Char
  | '"' => some '"'
  | '\\' => some '\\'
  | '/' => some '/'
  | 'b' => some '\x08'
  | 'f' => some '\x0c'
  | 'n' => some '\n'
  | 'r' => some '\r'
  | 't' => some '\t'
  | _ => none

/-- The number of octets of a text. -/
def octetCount : List Char → Nat
  | [] => 0
  | c :: cs => c.utf8Size + octetCount cs

namespace Quotation

/-- A quotation that is cut short by a fault. -/
def broken (f : Fault) : Quotation :=
  ⟨[], some f⟩

/-- The quotation with one more unit in front. -/
def cons (u : TextUnit) (q : Quotation × List Char) : Quotation × List Char :=
  (⟨u :: q.1.units, q.1.fault⟩, q.2)

/-- The quotation behind an opening quote, and what follows its closing quote. Nothing follows one
that is not closed. The four digits of a code unit take four octets; it is cut short if the line
has fewer octets left, and malformed if they are not all hexadecimal digits. -/
def scan : List Char → Quotation × List Char
  | [] => (broken .truncated, [])
  | '"' :: cs => (⟨[], none⟩, cs)
  | '\\' :: [] => (broken .truncated, [])
  | '\\' :: 'u' :: a :: b :: c :: d :: cs =>
    match codeUnit? a b c d with
    | some n => cons (.code n) (scan cs)
    | none => (broken .malformed, [])
  | '\\' :: 'u' :: cs =>
    (broken (if octetCount cs < 4 then .truncated else .malformed), [])
  | '\\' :: c :: cs =>
    match namedChar? c with
    | some e => cons (.plain e) (scan cs)
    | none => (broken .malformed, [])
  | c :: cs =>
    if c.toNat < 0x20 then (broken .malformed, []) else cons (.plain c) (scan cs)

theorem length_scan_le (cs : List Char) : (scan cs).2.length ≤ cs.length := by
  fun_induction scan cs <;> simp_all [cons] <;> omega

/-! ### Reading -/

/-- Whether a code unit is the first half of a pair. -/
def isLead (n : Nat) : Bool :=
  0xd800 ≤ n && n < 0xdc00

/-- Whether a code unit is the second half of a pair. -/
def isTrail (n : Nat) : Bool :=
  0xdc00 ≤ n && n < 0xe000

/-- The character that a pair of code units stands for. -/
def pairChar (lead trail : Nat) : Char :=
  Char.ofNat (0x10000 + (lead - 0xd800) * 0x400 + (trail - 0xdc00))

/-- The text of a sequence of units that ends with a closing quote or with a fault. Half a pair
without the other half is malformed, unless the fault comes first. -/
def join : List TextUnit → Option Fault → Except Fault (List Char)
  | [], none => .ok []
  | [], some f => .error f
  | .plain c :: us, f => (join us f).map (c :: ·)
  | .code n :: [], f =>
    if isTrail n then .error .malformed
    else if isLead n then .error (f.getD .malformed)
    else (join [] f).map (Char.ofNat n :: ·)
  | .code n :: .code m :: us, f =>
    if isTrail n then .error .malformed
    else if isLead n then
      if isTrail m then (join us f).map (pairChar n m :: ·) else .error .malformed
    else (join (.code m :: us) f).map (Char.ofNat n :: ·)
  | .code n :: .plain c :: us, f =>
    if isTrail n then .error .malformed
    else if isLead n then .error .malformed
    else (join (.plain c :: us) f).map (Char.ofNat n :: ·)

/-- The text that a quotation stands for. -/
def read (q : Quotation) : Except Fault (List Char) :=
  join q.units q.fault

/-- Whether a quotation is closed, whatever its units stand for. -/
def skip (q : Quotation) : Except Fault Unit :=
  match q.fault with
  | none => .ok ()
  | some f => .error f

end Quotation

end Wire

end Playthrough
