import Playthrough.Text.Blank
import Playthrough.Wire.Record

/-!
# Messages as lines

Every message is one line. Its shortest spelling is what is written; every spelling of the same
value, with the fields in any order and with further fields, is read.

A severity is written as its name. In the place of the name there may also be an object with the
name as its only member and nothing as its value.

## Main definitions

* `Wire.Codec` — how the messages of a type are written and read.
* `Wire.toLine` — the line of a message.
* `Wire.ofLine` — the message of a line, or why there is none.
-/

namespace Playthrough

namespace Wire

/-- How the messages of a type are written and read. -/
class Codec (α : Type) where
  /-- The value that is written. -/
  toValue : α → Value
  /-- The message at a node inside some number of containers. -/
  read : Nat → Node → Except Fault α

/-- A line that is no message of the wanted kind. -/
structure LineError where
  /-- The line as it was given. -/
  line : String
  fault : Fault
  deriving DecidableEq, Repr

/-- The line of a message, without a line end. -/
def toLine {α : Type} [Codec α] (a : α) : String :=
  String.ofList (Codec.toValue a).render

/-- The message that a tree and the tokens behind it spell. -/
def readTree {α : Type} [Codec α] (tree : Node × List Token) : Except Fault α := do
  let a ← Codec.read 0 tree.1
  if tree.2.isEmpty then return a else .error .malformed

/-- The message that a sequence of characters spells. White space at its end does not count. -/
def readChars {α : Type} [Codec α] (cs : List Char) : Except Fault α :=
  readTree (Node.ofTokens (tokens (Text.trimEnd cs)))

/-- The message of a line. -/
def ofLine {α : Type} [Codec α] (line : String) : Except LineError α :=
  (readChars line.toList).mapError fun f => ⟨line, f⟩

/-! ### Fields -/

/-- The severity with a given name. -/
def severity? : String → Option Severity
  | "ERROR" => some .error
  | "RUNTIME ERROR" => some .runtimeError
  | "RUNTIME_ERROR" => some .runtimeError
  | "WARNING" => some .warning
  | "TODO" => some .todo
  | _ => none

/-- What the parts of a record are read from. -/
class Source (ν : Type) where
  natural : ν → Except Fault Nat
  text : ν → Except Fault String
  severity : ν → Except Fault Severity

namespace Node

/-- A machine word. -/
def natural : Node → Except Fault Nat
  | .leaf (.number n) =>
    match n.natural? with
    | some k => .ok k
    | none => .error (scalarFault (.number n))
  | n => .error n.unexpected

/-- A text. -/
def text : Node → Except Fault String
  | .leaf (.text q) => q.read.map String.ofList
  | n => .error n.unexpected

/-- Nothing. -/
def null : Node → Except Fault Unit
  | .leaf (.literal .null) => .ok ()
  | n => .error n.unexpected

/-- A severity. An object has to be closed right behind its only member; whatever is neither a text
nor an object is malformed. -/
def severity : Node → Except Fault Severity
  | .leaf (.text q) => named severity? (.leaf (.text q))
  | .object [] .closed => .error .malformed
  | .object [] (.broken _ found) => .error (faultAt found)
  | .object ((q, n) :: ms) ending => do
    let s ← named severity? (.leaf (.text q))
    n.null
    match ms, ending with
    | [], .closed => return s
    | [], .broken false none => .error .truncated
    | _, _ => .error .malformed
  | .missing found => .error (faultAt found)
  | _ => .error .malformed

end Node

namespace Value

/-- A machine word. -/
def natural? : Value → Option Nat
  | .number n => n.natural?
  | _ => none

/-- A text. -/
def text? : Value → Option String
  | .text s => some s
  | _ => none

/-- A severity. An object without members counts as nothing. -/
def severity? : Value → Option Severity
  | .text s => Wire.severity? s
  | .object [(name, .null)] => Wire.severity? name
  | .object [(name, .object [])] => Wire.severity? name
  | _ => none

end Value

instance : Source Node where
  natural := Node.natural
  text := Node.text
  severity := Node.severity

instance : Source Value where
  natural v := required v.natural?
  text v := required v.text?
  severity v := required v.severity?

/-! ### Diagnostics and choices -/

section Records

variable {ν : Type} [Source ν]

/-- A diagnostic some of whose fields have been read. -/
structure DiagnosticDraft where
  severity : Option Severity := none
  line : Option Nat := none
  message : Option String := none

/-- The diagnostic of a draft that has all fields. -/
def DiagnosticDraft.finish (p : DiagnosticDraft) : Except Fault Diagnostic := do
  return ⟨← required p.severity, ← required p.line, ← required p.message⟩

/-- The fields of a diagnostic. -/
def diagnosticFields : List (Field ν DiagnosticDraft) :=
  [.of "type" (·.severity) (fun s p => { p with severity := some s }) Source.severity,
   .of "lineNumber" (·.line) (fun n p => { p with line := some n }) Source.natural,
   .of "message" (·.message) (fun t p => { p with message := some t }) Source.text]

/-- A choice some of whose fields have been read. -/
structure ChoiceDraft where
  number : Option Nat := none
  text : Option String := none

/-- The choice of a draft that has all fields. -/
def ChoiceDraft.finish (p : ChoiceDraft) : Except Fault Choice := do
  return ⟨← required p.number, ← required p.text⟩

/-- The fields of a choice. -/
def choiceFields : List (Field ν ChoiceDraft) :=
  [.of "number" (·.number) (fun n p => { p with number := some n }) Source.natural,
   .of "text" (·.text) (fun t p => { p with text := some t }) Source.text]

end Records

instance : Codec Severity where
  toValue s := .text s.label
  read _ n := n.severity

instance : Codec Diagnostic where
  toValue d := .object
    [("type", .text d.severity.label), ("lineNumber", .natural d.line),
     ("message", .text d.message)]
  read depth n := do
    let p ← n.record depth diagnosticFields {}
    p.finish

instance : Codec Choice where
  toValue c := .object [("number", .natural c.number), ("text", .text c.text)]
  read depth n := do
    let p ← n.record depth choiceFields {}
    p.finish

/-- A diagnostic inside an event. -/
def diagnosticOfValue (v : Value) : Except Fault Diagnostic := do
  let p ← v.record diagnosticFields {}
  p.finish

/-- A choice inside an event. -/
def choiceOfValue (v : Value) : Except Fault Choice := do
  let p ← v.record choiceFields {}
  p.finish

/-! ### Events and replies -/

/-- How the event with a given name is read. -/
def eventShape? : String → Option (Body → Except Fault Event)
  | "textProduced" => some fun b => (b.single "text" Source.text).map .text
  | "diagnosticProduced" => some fun b => (b.single "diagnostic" diagnosticOfValue).map .diagnostic
  | "choiceProduced" => some fun b => (b.single "choice" choiceOfValue).map .choice
  | "inputRequired" => some (Body.empty .inputRequired)
  | "storyCompleted" => some (Body.empty .storyCompleted)
  | "unexpectedExit" => some (Body.empty .unexpectedExit)
  | "stopAcknowledged" => some (Body.empty .stopAcknowledged)
  | _ => none

/-- The members of an event behind its name. -/
def eventMembers : Event → List (String × Value)
  | .text t => [("text", .text t)]
  | .diagnostic d => [("diagnostic", Codec.toValue d)]
  | .choice c => [("choice", Codec.toValue c)]
  | _ => []

instance : Codec Event where
  toValue e := .object (("kind", .text e.name) :: eventMembers e)
  read depth n := n.tagged "kind" eventShape? depth

/-- A reply some of whose fields have been read. -/
structure ReplyDraft where
  session : Option SessionId := none
  event : Option Event := none

/-- The reply of a draft that has all fields. -/
def ReplyDraft.finish (p : ReplyDraft) : Except Fault Reply := do
  return ⟨← required p.session, ← required p.event⟩

/-- The fields of a reply inside `depth` containers. -/
def replyFields (depth : Nat) : List (Field Node ReplyDraft) :=
  [.of "sessionId" (·.session) (fun n p => { p with session := some n }) Source.natural,
   .of "event" (·.event) (fun e p => { p with event := some e }) (Codec.read (depth + 1))]

instance : Codec Reply where
  toValue r := .object [("sessionId", .natural r.session), ("event", Codec.toValue r.event)]
  read depth n := do
    let p ← n.record depth (replyFields depth) {}
    p.finish

/-! ### Requests -/

/-- A request some of whose fields have been read. -/
structure RequestDraft where
  content : Option String := none
  choice : Option Nat := none
  session : Option SessionId := none

namespace RequestDraft

/-- The content of a story. -/
def contentField : Field Value RequestDraft :=
  .of "content" (·.content) (fun t p => { p with content := some t }) Source.text

/-- The number of a choice. -/
def choiceField : Field Value RequestDraft :=
  .of "choiceNumber" (·.choice) (fun n p => { p with choice := some n }) Source.natural

/-- The session of a request. -/
def sessionField : Field Value RequestDraft :=
  .of "sessionId" (·.session) (fun n p => { p with session := some n }) Source.natural

end RequestDraft

open RequestDraft in
/-- How the request with a given name is read. -/
def requestShape? : String → Option (Body → Except Fault Request)
  | "run" => some fun b => do
    let p ← b.record [contentField, sessionField] {}
    return .run (← required p.content) (← required p.session)
  | "stop" => some fun b => do
    let p ← b.record [sessionField] {}
    return .stop (← required p.session)
  | "continueWithChoice" => some fun b => do
    let p ← b.record [choiceField, sessionField] {}
    return .continueWith (← required p.choice) (← required p.session)
  | _ => none

instance : Codec Request where
  toValue
    | .run content session => .object
      [("message", .text "run"), ("content", .text content), ("sessionId", .natural session)]
    | .stop session => .object [("message", .text "stop"), ("sessionId", .natural session)]
    | .continueWith choice session => .object
      [("message", .text "continueWithChoice"), ("choiceNumber", .natural choice),
       ("sessionId", .natural session)]
  read depth n := n.tagged "message" requestShape? depth

end Wire

end Playthrough
