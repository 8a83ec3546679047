import Playthrough.Wire.Numeral
import Playthrough.Wire.Quotation

/-!
# Tokens of a line

A line is cut into punctuation and *scalars*: quotations, numerals and the three literals. A scalar
that is not written correctly is a scalar too, which knows its fault, and is the last token of the
line: nothing behind it can matter, because the first fault counts.

## Main definitions

* `Wire.Scalar`, `Wire.Token` — the tokens.
* `Wire.Token.scan` — the token that begins with a given character, and what follows it.
* `Wire.tokens` — the tokens of a line.
-/

namespace Playthrough

namespace Wire

/-- A value that is written as one word. -/
inductive Literal where
  | null
  | flag (b : Bool)
  deriving DecidableEq, Repr

/-- A value without parts, as it is written. -/
inductive Scalar where
  | text (q : Quotation)
  | number (n : Numeral)
  | literal (l : Literal)
  /-- A number that is not written correctly. -/
  | brokenNumber (f : Fault)
  /-- A literal that is not written correctly. -/
  | brokenLiteral (f : Fault)
  /-- A character that begins no value. -/
  | stray (c : Char)
  deriving DecidableEq, Repr

/-- Whether a scalar is written correctly, up to what its units or digits stand for. -/
def Scalar.isWhole : Scalar → Bool
  | .text q => q.fault.isNone
  | .number _ => true
  | .literal _ => true
  | _ => false

/-- A token of a line. -/
inductive Token where
  | openObject
  | closeObject
  | openArray
  | closeArray
  | comma
  | colon
  | scalar (s : Scalar)
  deriving DecidableEq, Repr

/-- The white space that may stand between two tokens. -/
def isGap (c : Char) : Bool :=
  c = ' ' || c = '\t' || c = '\n' || c = '\r'

/-- What follows a given word at the front of a text. -/
def dropWord : List Char → List Char → Except Fault (List Char)
  | [], cs => .ok cs
  | _ :: _, [] => .error .truncated
  | w :: ws, c :: cs => if c = w then dropWord ws cs else .error .malformed

theorem length_dropWord_le {ws cs rest : List Char} (h : dropWord ws cs = .ok rest) :
    rest.length ≤ cs.length := by
  fun_induction dropWord ws cs <;> simp_all
  omega

namespace Token

/-- A literal whose first letter has been read, with the rest of its word. -/
def scanLiteral (l : Literal) (word : List Char) (cs : List Char) : Token × List Char :=
  match dropWord word cs with
  | .ok rest => (.scalar (.literal l), rest)
  | .error f => (.scalar (.brokenLiteral f), [])

/-- A number. -/
def scanNumber (cs : List Char) : Token × List Char :=
  match Numeral.scan cs with
  | .ok (n, rest) => (.scalar (.number n), rest)
  | .error f => (.scalar (.brokenNumber f), [])

/-- The punctuation mark that a character is. -/
def punctuation? : Char → Option Token
  | '{' => some .openObject
  | '}' => some .closeObject
  | '[' => some .openArray
  | ']' => some .closeArray
  | ',' => some .comma
  | ':' => some .colon
  | _ => none

/-- The scalar that begins with the character `c`, and what follows it. -/
def scanScalar (c : Char) (cs : List Char) : Token × List Char :=
  if c = '"' then (.scalar (.text (Quotation.scan cs).1), (Quotation.scan cs).2)
  else if c = 'n' then scanLiteral .null ['u', 'l', 'l'] cs
  else if c = 't' then scanLiteral (.flag true) ['r', 'u', 'e'] cs
  else if c = 'f' then scanLiteral (.flag false) ['a', 'l', 's', 'e'] cs
  else if c = '-' ∨ c.isDigit then scanNumber (c :: cs)
  else (.scalar (.stray c), [])

/-- The token that begins with the character `c`, and what follows it. -/
def scan (c : Char) (cs : List Char) : Token × List Char :=
  match punctuation? c with
  | some t => (t, cs)
  | none => scanScalar c cs

/-- Whether more tokens may follow. -/
def isWhole : Token → Bool
  | .scalar s => s.isWhole
  | _ => true

theorem length_scanLiteral_le (l : Literal) (word cs : List Char) :
    (scanLiteral l word cs).2.length ≤ cs.length := by
  unfold scanLiteral
  split
  · rename_i h
    exact length_dropWord_le h
  · simp

theorem length_scanNumber_le (c : Char) (cs : List Char) :
    (scanNumber (c :: cs)).2.length ≤ cs.length := by
  unfold scanNumber
  split
  · rename_i h
    exact Nat.le_of_lt_succ (Numeral.length_scan_lt h)
  · simp

theorem length_scanScalar_le (c : Char) (cs : List Char) :
    (scanScalar c cs).2.length ≤ cs.length := by
  unfold scanScalar
  split
  · exact Quotation.length_scan_le cs
  iterate 3
    split
    · exact length_scanLiteral_le _ _ cs
  split
  · exact length_scanNumber_le c cs
  · simp

theorem length_scan_le (c : Char) (cs : List Char) : (scan c cs).2.length ≤ cs.length := by
  unfold scan
  split
  · simp
  · exact length_scanScalar_le c cs

end Token

/-- The tokens of a line, up to the first one that is not written correctly. -/
def tokens : List Char → List Token
  | [] => []
  | c :: cs =>
    if isGap c then tokens cs
    else
      let t := Token.scan c cs
      if t.1.isWhole then t.1 :: tokens t.2 else [t.1]
termination_by cs => cs.length
decreasing_by
  · simp
  · exact Nat.lt_succ_of_le (Token.length_scan_le c cs)

end Wire

end Playthrough
