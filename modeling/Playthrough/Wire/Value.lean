import Playthrough.Wire.Numeral
import Playthrough.Wire.Quotation
import Playthrough.Wire.Token

/-!
# Values

The values that a line can spell, and the shortest line that spells one. The members of an object
keep their order, and a name may occur more than once.

## Main definitions

* `Wire.Value` — the values.
* `Wire.Value.render` — the shortest spelling of a value.
-/

namespace Playthrough

namespace Wire

/-- A value of the wire format. -/
inductive Value where
  | null
  | flag (b : Bool)
  | number (n : Numeral)
  | text (s : String)
  | array (items : List Value)
  | object (members : List (String × Value))

/-- The value of a literal. -/
def Literal.value : Literal → Value
  | .null => .null
  | .flag b => .flag b

/-- The word of a literal. -/
def Literal.word : Literal → List Char
  | .null => ['n', 'u', 'l', 'l']
  | .flag true => ['t', 'r', 'u', 'e']
  | .flag false => ['f', 'a', 'l', 's', 'e']

/-- Texts one after the other with a comma between two of them. -/
def commaSeparated : List (List Char) → List Char
  | [] => []
  | [t] => t
  | t :: u :: ts => t ++ ',' :: commaSeparated (u :: ts)

namespace Value

/-- The value of a natural number. -/
def natural (n : Nat) : Value :=
  .number (Numeral.ofNat n)

mutual

/-- The shortest spelling of a value. -/
def render : Value → List Char
  | .null => Literal.word .null
  | .flag b => Literal.word (.flag b)
  | .number n => n.render
  | .text s => quote s.toList
  | .array items => '[' :: (commaSeparated (renderItems items) ++ [']'])
  | .object members => '{' :: (commaSeparated (renderMembers members) ++ ['}'])

/-- The shortest spellings of the items of an array. -/
def renderItems : List Value → List (List Char)
  | [] => []
  | v :: vs => render v :: renderItems vs

/-- The shortest spellings of the members of an object. -/
def renderMembers : List (String × Value) → List (List Char)
  | [] => []
  | (name, v) :: ms => (quote name.toList ++ ':' :: render v) :: renderMembers ms

end

end Value

end Wire

end Playthrough
