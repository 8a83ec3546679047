import Playthrough.Message
import Playthrough.Wire.Node

/-!
# Records

A record is written as an object of its fields in any order, or as an array of its fields in a
fixed order. A field may not be missing or repeated; members with other names are ignored.

A *tagged* record is one of several, told apart by the tag, a field of its own that may stand
anywhere among the others, or first in an array. As the other fields may come before the tag, they
are read as values first, and looked at once the object is complete.

## Main definitions

* `Wire.Field` — a field: its name, and how it is added to a draft of the record.
* `Wire.Node.record` — a record that is read from the tree of a line.
* `Wire.Body.record` — a record that is read from values.
* `Wire.Node.tagged` — a tagged record.
-/

namespace Playthrough

namespace Wire

variable {ν π α β : Type}

/-- A field of a record whose parts are read from `ν` and whose drafts are of type `π`. -/
structure Field (ν π : Type) where
  name : String
  /-- Whether the draft has this field already. -/
  isSet : π → Bool
  /-- The draft with this field. -/
  read : ν → π → Except Fault π

/-- The field that `get` finds in a draft and `put` adds to one. -/
def Field.of (name : String) (get : π → Option β) (put : β → π → π) (read : ν → Except Fault β) :
    Field ν π where
  name := name
  isSet p := (get p).isSome
  read n p := (read n).map fun b => put b p

/-- The only field of a record, which is then its own draft. -/
def Field.only (name : String) (read : ν → Except Fault β) : Field ν (Option β) :=
  .of name id (fun b _ => some b) read

/-- What has been found, or the fault of a record that lacks it. -/
def required : Option β → Except Fault β
  | some b => .ok b
  | none => .error .mismatched

/-! ### Records in the tree of a line -/

namespace Node

/-- The draft with the members of an object. A repeated field is a fault at once. -/
def readMembers (fields : List (Field Node π)) : π → List (Quotation × Node) → Except Fault π
  | p, [] => .ok p
  | p, (q, n) :: ms => do
    let name ← q.read
    match fields.find? fun f => f.name = String.ofList name with
    | none => do
      n.skip
      readMembers fields p ms
    | some f =>
      if f.isSet p then .error .mismatched
      else do
        let p ← f.read n p
        readMembers fields p ms

/-- The draft with the items of an array, one for each field. A closed array with too few items says
something else, one with too many is malformed. -/
def readItems : List (Field Node π) → π → List Node → Ending → Except Fault π
  | [], p, [], .closed => .ok p
  | [], _, [], .broken true _ => .error .malformed
  | [], _, [], .broken false found => .error (faultAt found)
  | [], _, _ :: _, _ => .error .malformed
  | _ :: _, _, [], .closed => .error .mismatched
  | _ :: _, _, [], .broken _ found => .error (faultAt found)
  | f :: fs, p, n :: ns, ending => do
    let p ← f.read n p
    readItems fs p ns ending

/-- The draft of a record inside `depth` containers. -/
def record (depth : Nat) (fields : List (Field Node π)) (p : π) : Node → Except Fault π
  | .object members ending => do
    enter depth
    let p ← readMembers fields p members
    ending.check
    return p
  | .array items ending => do
    enter depth
    readItems fields p items ending
  | n => .error n.unexpected

/-- The meaning of a name. -/
def named (lookup : String → Option α) : Node → Except Fault α
  | .leaf (.text q) => do
    let name ← q.read
    required (lookup (String.ofList name))
  | n => .error n.unexpected

end Node

/-! ### Records in values -/

/-- The parts of a record, apart from its tag. -/
inductive Body where
  | members (ms : List (String × Value))
  | items (vs : List Value)

namespace Body

/-- The draft with the members of an object. -/
def readMembers (fields : List (Field Value π)) : π → List (String × Value) → Except Fault π
  | p, [] => .ok p
  | p, (name, v) :: ms =>
    match fields.find? fun f => f.name = name with
    | none => readMembers fields p ms
    | some f =>
      if f.isSet p then .error .mismatched
      else do
        let p ← f.read v p
        readMembers fields p ms

/-- The draft with the items of an array, exactly one for each field. -/
def readItems : List (Field Value π) → π → List Value → Except Fault π
  | [], p, [] => .ok p
  | f :: fs, p, v :: vs => do
    let p ← f.read v p
    readItems fs p vs
  | _, _, _ => .error .mismatched

/-- The draft of a record. -/
def record (fields : List (Field Value π)) (p : π) : Body → Except Fault π
  | .members ms => readMembers fields p ms
  | .items vs => readItems fields p vs

/-- A record with one field. -/
def single (name : String) (read : Value → Except Fault β) (body : Body) : Except Fault β := do
  let b ← body.record [.only name read] none
  required b

/-- A record without fields. Members are ignored, items are not. -/
def empty (a : α) : Body → Except Fault α
  | .members _ => .ok a
  | .items [] => .ok a
  | .items (_ :: _) => .error .mismatched

end Body

/-- The draft of a record. -/
def Value.record (fields : List (Field Value π)) (p : π) : Value → Except Fault π
  | .object ms => (Body.members ms).record fields p
  | .array vs => (Body.items vs).record fields p
  | _ => .error .mismatched

/-! ### Tagged records -/

namespace Node

/-- The meaning of the tag and the other members of an object. A tag that means nothing is a fault
at once, and so is a second one. -/
def readTagged (tag : String) (lookup : String → Option α) (depth : Nat) :
    Option α → List (String × Value) → List (Quotation × Node) →
      Except Fault (Option α × List (String × Value))
  | found, before, [] => .ok (found, before.reverse)
  | found, before, (q, n) :: ms => do
    let name ← q.read
    if String.ofList name = tag then
      match found with
      | some _ => .error .mismatched
      | none => do
        let a ← n.named lookup
        readTagged tag lookup depth (some a) before ms
    else do
      let v ← n.value depth
      readTagged tag lookup depth found ((String.ofList name, v) :: before) ms

/-- A tagged record inside `depth` containers. The meaning of the tag is how the rest is read. -/
def tagged (tag : String) (lookup : String → Option (Body → Except Fault α)) (depth : Nat) :
    Node → Except Fault α
  | .object members ending => do
    enter depth
    let (found, ms) ← readTagged tag lookup (depth + 1) none [] members
    ending.check
    let shape ← required found
    shape (.members ms)
  | .array [] ending => do
    enter depth
    ending.check
    .error .mismatched
  | .array (n :: ns) ending => do
    enter depth
    let shape ← n.named lookup
    let vs ← values (depth + 1) ns
    ending.check
    shape (.items vs)
  | n => .error n.unexpected

end Node

end Wire

end Playthrough
