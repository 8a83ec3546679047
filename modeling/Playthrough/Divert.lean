import Playthrough.Text.Search

/-!
# Following a divert

A divert names the place where the story goes on, as a path of names with dots between them. The
text of the story is given as a list of classified tokens. Following a divert looks for each name of
its path in turn, starting from where the name before it was found and taking the nearest token, so
a name that is defined more than once may lead to the wrong definition.

## Main definitions

* `Position`, `StoryToken` — places and tokens in the text of a story.
* `StoryToken.under` — the token at a position.
* `Divert.path` — the names of a divert.
* `Divert.nearest`, `Divert.chain` — the nearest token with a name, and a chain of them.
* `Divert.resolve` — where a click leads.
* `Pointer.over` — the shape of the pointer over a position.
-/

namespace Playthrough

open Text

/-- A place in the text of a story, counted from zero. -/
structure Position where
  row : Nat
  column : Nat
  deriving DecidableEq, Repr, Inhabited

/-- A classified piece of the text of a story, and where it begins. -/
structure StoryToken where
  kind : String
  text : String
  row : Nat
  column : Nat
  deriving DecidableEq, Repr, Inhabited

namespace StoryToken

variable (t : StoryToken)

/-- The kind of a divert target. -/
def divertKind : String := "divert.target"

/-- The kind of the path of an included file. -/
def includeKind : String := "include.filepath"

/-- Where a token begins. -/
def position : Position :=
  ⟨t.row, t.column⟩

/-- Whether a token defines a name: its kind mentions one. -/
def isName : Bool :=
  occursIn ['n', 'a', 'm', 'e'] t.kind.toList

/-- Whether a position lies on a token. -/
def covers (p : Position) : Bool :=
  t.row == p.row && t.column ≤ p.column && p.column < t.column + t.text.length

/-- Whether a click on a token may lead somewhere. -/
def isLink : Bool :=
  t.kind = divertKind || t.kind = includeKind

/-- Whether a token defines a given name. -/
def defines (name : String) : Bool :=
  t.isName && t.text = name

/-- The first token at a position. -/
def under (tokens : List StoryToken) (p : Position) : Option StoryToken :=
  tokens.find? (·.covers p)

/-- The index of the first token at a position. -/
def indexUnder (tokens : List StoryToken) (p : Position) : Option Nat :=
  tokens.findIdx? (·.covers p)

end StoryToken

/-! ### The shape of the pointer -/

/-- The shape of the pointer. -/
inductive Pointer where
  | default
  | link
  deriving DecidableEq, Repr, Inhabited

/-- The shape of the pointer over a position. Links show while the modifier key is held. -/
def Pointer.over (tokens : List StoryToken) (p : Position) (modifier : Bool) : Pointer :=
  match modifier, StoryToken.under tokens p with
  | true, some t => if t.isLink then .link else .default
  | _, _ => .default

namespace Divert

/-! ### Paths -/

/-- A text without the argument lists in it: an opening parenthesis and all up to the next closing
one. A parenthesis that is not closed stays. `inside` tells whether an argument list has been opened
already. -/
def dropArguments (inside : Bool) : List Char → List Char
  | [] => []
  | c :: cs =>
    if inside then dropArguments (c != ')') cs
    else if c = '(' ∧ ')' ∈ cs then dropArguments true cs
    else c :: dropArguments false cs

/-- The name in one part of a path. -/
def nameOf (part : List Char) : String :=
  String.ofList (trim (dropArguments false part))

/-- The names of a divert. The text is cut at its dots first, those in argument lists included. -/
def path (text : String) : List String :=
  (splitAt '.' text.toList).map nameOf

/-! ### Resolution -/

/-- A token and its index. -/
abbrev Indexed := StoryToken × Nat

/-- The number of rows between two tokens. -/
def rowDistance (a b : StoryToken) : Nat :=
  (a.row - b.row) + (b.row - a.row)

/-- The first token from an index on that defines a name. -/
def behind (tokens : List StoryToken) (index : Nat) (name : String) : Option Indexed :=
  (tokens.zipIdx.drop index).find? fun t => t.1.defines name

/-- The last token up to an index, that one included, that defines a name. -/
def upTo (tokens : List StoryToken) (index : Nat) (name : String) : Option Indexed :=
  (tokens.zipIdx.take (index + 1)).reverse.find? fun t => t.1.defines name

/-- The nearest token that defines a name. Of the next one on either side, the one behind the origin
is taken only if it is strictly fewer rows away. -/
def nearest (tokens : List StoryToken) (origin : Indexed) (name : String) : Option Indexed :=
  match behind tokens origin.2 name, upTo tokens origin.2 name with
  | some after, some before =>
    if rowDistance after.1 origin.1 < rowDistance before.1 origin.1 then some after
    else some before
  | some after, none => some after
  | none, before => before

/-- The tokens that define the names of a path, each the nearest to the one before it. The chain
ends at the first name that is not defined. -/
def chain (tokens : List StoryToken) : Indexed → List String → List Indexed
  | _, [] => []
  | origin, name :: names =>
    match nearest tokens origin name with
    | none => []
    | some t => t :: chain tokens t names

/-- Where a click leads. -/
inductive Destination where
  /-- The token is no link. -/
  | nowhere
  /-- The token names another file. -/
  | otherFile
  /-- The place of the last name that was found. -/
  | definition (p : Position)
  /-- Not even the first name was found. -/
  | unknown
  deriving DecidableEq, Repr, Inhabited

/-- Where the divert at an indexed token leads. -/
def follow (tokens : List StoryToken) (t : Indexed) : Destination :=
  match (chain tokens t (path t.1.text)).getLast? with
  | some last => .definition last.1.position
  | none => .unknown

/-- Where a click leads. Only the first token at the position counts. -/
def resolve (tokens : List StoryToken) (p : Position) : Destination :=
  match tokens.zipIdx.find? fun t => t.1.covers p with
  | none => .nowhere
  | some t =>
    if t.1.kind = StoryToken.includeKind then .otherFile
    else if t.1.kind = StoryToken.divertKind then follow tokens t
    else .nowhere

end Divert

end Playthrough
