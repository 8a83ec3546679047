import Playthrough.Text.Blank

/-!
# Environment variables

The value of a variable is a sequence of octets. One that is no text counts as not set, and so does
a blank one where a setting is wanted.

## Main definitions

* `Environment` — the variables that are set.
* `Environment.text?`, `Environment.setting?` — the value of a variable.
-/

namespace Playthrough

/-- The text that octets in UTF-8 stand for. -/
def textOfOctets? (bs : List UInt8) : Option String :=
  String.fromUTF8? ⟨bs.toArray⟩

/-- The variables that are set, with their values. -/
structure Environment where
  bindings : List (String × List UInt8) := []
  deriving DecidableEq, Repr, Inhabited

namespace Environment

variable (env : Environment)

/-- The value of a variable, if it is a text. -/
def text? (name : String) : Option String :=
  (env.bindings.lookup name).bind textOfOctets?

/-- The value of a variable, if it is a text that is not blank. -/
def setting? (name : String) : Option String :=
  (env.text? name).filter fun value => !Text.isBlankText value.toList

end Environment

end Playthrough
