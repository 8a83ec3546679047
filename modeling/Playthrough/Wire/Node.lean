import Playthrough.Wire.Token
import Playthrough.Wire.Value

/-!
# The tree of a line

The tokens of a line form a tree of arrays, objects and scalars. A line may break off, or go on with
a token that is not due; the tree then tells where and with which token, so that a reader of the
tree can still go through it from left to right and meet the faults in the order of the line.

Objects and arrays are built on a stack of the containers that are open, so that one pass over the
tokens suffices.

## Main definitions

* `Wire.Node`, `Wire.Ending` — the tree of a line.
* `Wire.Node.ofTokens` — the tree at the front of a sequence of tokens, and what follows it.
* `Wire.Node.skip` — whether a tree is written correctly, without reading it.
* `Wire.Node.value` — the value that a tree spells.
-/

namespace Playthrough

namespace Wire

/-- How a container ends. -/
inductive Ending where
  | closed
  /-- The container is not closed; `found` is the token at which it breaks, or none if the line
  ends there, and `afterComma` tells whether another part was due. -/
  | broken (afterComma : Bool) (found : Option Token)
  deriving DecidableEq, Repr

/-- The tree of a line. -/
inductive Node where
  | leaf (s : Scalar)
  /-- There is no value where one is due, but another token or the end of the line. -/
  | missing (found : Option Token)
  | array (items : List Node) (ending : Ending)
  | object (members : List (Quotation × Node)) (ending : Ending)

/-- The fault of a line that goes on with a token, or ends, where something else is due. -/
def faultAt : Option Token → Fault
  | none => .truncated
  | some _ => .malformed

/-- Whether a container is closed. -/
def Ending.check : Ending → Except Fault Unit
  | .closed => .ok ()
  | .broken _ found => .error (faultAt found)

namespace Node

/-! ### Building -/

/-- The place of a value inside an open container. -/
inductive Place where
  /-- An item of an array, behind the items `before`, the last one first. -/
  | item (before : List Node) (afterComma : Bool)
  /-- The value of the member `name` of an object, behind the members `before`. -/
  | member (before : List (Quotation × Node)) (name : Quotation)

/-- What is due next. -/
inductive Due where
  /-- A value, or the end of an array that has no items. -/
  | value
  /-- A comma or the end of an array with these items. -/
  | itemEnd (items : List Node)
  /-- The name of a member, or the end of an object that has no members. -/
  | name (members : List (Quotation × Node)) (afterComma : Bool)
  /-- The colon behind a name. -/
  | colon (members : List (Quotation × Node)) (name : Quotation)
  /-- A comma or the end of an object with these members. -/
  | memberEnd (members : List (Quotation × Node))

/-- Put a value in its place. -/
def Place.put : Place → Node → Due
  | .item before _, n => .itemEnd (n :: before)
  | .member before name, n => .memberEnd ((name, n) :: before)

/-- The container around a value at which the line breaks. -/
def Place.close : Place → Node → Node
  | .item before _, n => .array (n :: before).reverse (.broken false none)
  | .member before name, n => .object ((name, n) :: before).reverse (.broken false none)

/-- The innermost container when the line breaks at the token `found`. -/
def Due.break (found : Option Token) : Due → List Place → Node × List Place
  | .value, [] => (.missing found, [])
  | .value, .item before afterComma :: places =>
    (.array before.reverse (.broken afterComma found), places)
  | .value, .member before key :: places =>
    (.object ((key, .missing found) :: before).reverse (.broken false none), places)
  | .itemEnd items, places => (.array items.reverse (.broken false found), places)
  | .name members afterComma, places =>
    (.object members.reverse (.broken afterComma found), places)
  | .colon members key, places =>
    (.object ((key, .missing found) :: members).reverse (.broken false none), places)
  | .memberEnd members, places => (.object members.reverse (.broken false found), places)

/-- The whole tree when the line breaks at the token `found`. -/
def breakAt (found : Option Token) (due : Due) (places : List Place) : Node :=
  let (n, outer) := due.break found places
  outer.foldl (fun n p => p.close n) n

/-- The next step behind a token, in a tree with open containers. -/
inductive Step where
  /-- A container was opened, or a part of one was read. -/
  | next (due : Due) (places : List Place)
  /-- A value is complete. -/
  | done (n : Node) (places : List Place)
  /-- The token was not due. -/
  | stuck

/-- What a token does to a tree with open containers. -/
def step : Due → List Place → Token → Step
  | .value, places, .openArray => .next .value (.item [] false :: places)
  | .value, places, .openObject => .next (.name [] false) places
  | .value, places, .scalar s => .done (.leaf s) places
  | .value, .item [] false :: places, .closeArray => .done (.array [] .closed) places
  | .itemEnd items, places, .comma => .next .value (.item items true :: places)
  | .itemEnd items, places, .closeArray => .done (.array items.reverse .closed) places
  | .name members _, places, .scalar (.text q) => .next (.colon members q) places
  | .name [] false, places, .closeObject => .done (.object [] .closed) places
  | .colon members q, places, .colon => .next .value (.member members q :: places)
  | .memberEnd members, places, .comma => .next (.name members true) places
  | .memberEnd members, places, .closeObject => .done (.object members.reverse .closed) places
  | _, _, _ => .stuck

/-- The tree at the front of a sequence of tokens, in a tree with open containers, and the tokens
that follow it. -/
def build : Due → List Place → List Token → Node × List Token
  | due, places, [] => (breakAt none due places, [])
  | due, places, t :: ts =>
    match step due places t with
    | .next due places => build due places ts
    | .done n [] => (n, ts)
    | .done n (p :: places) => build (p.put n) places ts
    | .stuck => (breakAt (some t) due places, ts)

/-- The tree at the front of a sequence of tokens, and the tokens that follow it. -/
def ofTokens (ts : List Token) : Node × List Token :=
  build .value [] ts

/-! ### Faults -/

/-- The fault of a scalar where a value of another kind is due: it says something else, unless it
is not written correctly. -/
def scalarFault : Scalar → Fault
  | .text q =>
    match q.read with
    | .ok _ => .mismatched
    | .error f => f
  | .number n => if n.inRange then .mismatched else .malformed
  | .literal _ => .mismatched
  | .brokenNumber f => f
  | .brokenLiteral f => f
  | .stray _ => .malformed

/-- The fault of a tree where a value of another kind is due. Arrays and objects are not looked
into. -/
def unexpected : Node → Fault
  | .leaf s => scalarFault s
  | .missing found => faultAt found
  | .array _ _ => .mismatched
  | .object _ _ => .mismatched

/-! ### Skipping -/

/-- Whether a scalar is written correctly, whatever it stands for. A number that breaks off is
malformed here, as there is no telling what it was going to be. -/
def skipScalar : Scalar → Except Fault Unit
  | .text q => q.skip
  | .number _ => .ok ()
  | .literal _ => .ok ()
  | .brokenNumber _ => .error .malformed
  | .brokenLiteral f => .error f
  | .stray _ => .error .malformed

mutual

/-- Whether a tree is written correctly, whatever it stands for. -/
def skip : Node → Except Fault Unit
  | .leaf s => skipScalar s
  | .missing found => .error (faultAt found)
  | .array items ending => do
    skipItems items
    ending.check
  | .object members ending => do
    skipMembers members
    ending.check

/-- Whether the items of an array are written correctly. -/
def skipItems : List Node → Except Fault Unit
  | [] => .ok ()
  | n :: ns => do
    skip n
    skipItems ns

/-- Whether the members of an object are written correctly. -/
def skipMembers : List (Quotation × Node) → Except Fault Unit
  | [] => .ok ()
  | (q, n) :: ms => do
    q.skip
    skip n
    skipMembers ms

end

/-! ### Values -/

/-- A container may be opened inside fewer than this many others. -/
def depthLimit : Nat := 127

/-- Open a container inside `depth` others. -/
def enter (depth : Nat) : Except Fault Unit :=
  if depth < depthLimit then .ok () else .error .malformed

/-- The value that a scalar spells. -/
def scalarValue : Scalar → Except Fault Value
  | .text q => q.read.map fun cs => .text (String.ofList cs)
  | .number n => if n.inRange then .ok (.number n) else .error .malformed
  | .literal l => .ok l.value
  | .brokenNumber f => .error f
  | .brokenLiteral f => .error f
  | .stray _ => .error .malformed

mutual

/-- The value that a tree inside `depth` containers spells. -/
def value (depth : Nat) : Node → Except Fault Value
  | .leaf s => scalarValue s
  | .missing found => .error (faultAt found)
  | .array items ending => do
    enter depth
    let vs ← values (depth + 1) items
    ending.check
    return .array vs
  | .object members ending => do
    enter depth
    let ms ← memberValues (depth + 1) members
    ending.check
    return .object ms

/-- The values of the items of an array. -/
def values (depth : Nat) : List Node → Except Fault (List Value)
  | [] => .ok []
  | n :: ns => do
    let v ← value depth n
    let vs ← values depth ns
    return v :: vs

/-- The names and values of the members of an object. -/
def memberValues (depth : Nat) : List (Quotation × Node) → Except Fault (List (String × Value))
  | [] => .ok []
  | (q, n) :: ms => do
    let name ← q.read
    let v ← value depth n
    let vs ← memberValues depth ms
    return (String.ofList name, v) :: vs

end

end Node

end Wire

end Playthrough
