import Playthrough.Text.Blank
import Playthrough.Text.Decimal

/-!
# Lines that are typed

A line is the number of a choice, or a command that begins with a colon. Any other line is kept as
it is, without the blanks around it, so that it can be named in an answer.

## Main definitions

* `InputLine` — the meaning of a line.
* `InputLine.parse?` — the meaning of a given line, if it is not blank.
* `helpText` — what is said about the commands.
-/

namespace Playthrough

open Text

/-- The meaning of a line that was typed. -/
inductive InputLine where
  | choose (number : Nat)
  | rewind
  | back
  | nextIssue
  | line (number : Nat)
  | issues
  | help
  | quit
  | unknown (text : String)
  deriving DecidableEq, Repr, Inhabited

/-- What is said about the commands. -/
def helpText : String :=
  "Enter a choice number, or one of :rewind, :back, :next, :issues, :line N, :help, :quit"

namespace InputLine

/-- The meaning of a command and the word behind it, if there is one. Further words are not looked
at. -/
def ofWords : List String → Option InputLine
  | [":rewind"] => some .rewind
  | [":back"] => some .back
  | [":next"] => some .nextIssue
  | [":issues"] => some .issues
  | [":help"] => some .help
  | [":quit"] => some .quit
  | [":q"] => some .quit
  | ":line" :: word :: _ =>
    match readWord? word.toList with
    | some (n + 1) => some (.line (n + 1))
    | _ => none
  | _ => none

/-- The meaning of a trimmed line that is not blank. -/
def ofTrimmed (cs : List Char) : InputLine :=
  match readWord? cs with
  | some n => .choose n
  | none =>
    match cs.head?, ofWords ((words cs).map String.ofList) with
    | some ':', some input => input
    | _, _ => .unknown (String.ofList cs)

/-- The meaning of a line. Blank lines have none. -/
def parse? (line : String) : Option InputLine :=
  match trim line.toList with
  | [] => none
  | c :: cs => some (ofTrimmed (c :: cs))

end InputLine

end Playthrough
