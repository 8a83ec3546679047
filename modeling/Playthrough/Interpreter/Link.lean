import Playthrough.Environment
import Playthrough.Frontend
import Playthrough.Text.Lines
import Playthrough.Wire.Codec

/-!
# The link to a program

An interpreter that is a program of its own reads one request a line and writes one reply a line.
Two tasks serve it: the *writer* passes on the requests that were accepted, and the *reader* turns
the lines of the program into replies. Accepting a request never waits for either.

When the output of the program ends, its last session is ended. When a request cannot be written,
its session is ended, and so are those of all requests behind it. Either way no further request is
accepted.

The steps of the two tasks are separate functions here, so that they can be taken in any order.

## Main definitions

* `Link`, `Link.send` — the link, and a request to it.
* `Link.writeNext`, `Link.failWrite` — the steps of the writer.
* `Link.readLine`, `Link.endOutput` — the steps of the reader.
* `Link.readOutput` — the reader from the first line to the end.
-/

namespace Playthrough

open Text

/-- The state of the link. -/
structure Link where
  /-- The session of the last accepted request to run a story, or zero. -/
  lastRun : SessionId := 0
  /-- Whether the output of the program has ended, or a request could not be written. -/
  exited : Bool := false
  /-- The accepted requests that have not been written, the first one first. -/
  queue : List Request := []
  /-- The requests that have been written. -/
  written : List Request := []
  /-- The replies that have not been delivered. -/
  replies : List Reply := []
  deriving DecidableEq, Repr, Inhabited

namespace Link

variable (l : Link)

/-- The last session, behind a request. -/
def runAfter (last : SessionId) : Request → SessionId
  | .run _ session => session
  | _ => last

/-- Accept a request, unless the program is gone. -/
def send (r : Request) : Link × Except SendError Unit :=
  if l.exited then (l, .error .closed)
  else ({ l with lastRun := runAfter l.lastRun r, queue := l.queue ++ [r] }, .ok ())

/-- The end of a session. -/
def exitReply (session : SessionId) : Reply :=
  ⟨session, .unexpectedExit⟩

/-- What is reported about a request that was lost: the end of its session, unless it was to be
stopped anyway. -/
def lostReply? : Request → Option Reply
  | .stop _ => none
  | r => some (exitReply r.session)

/-- The writer passes on the first request in the queue. -/
def writeNext : Link :=
  match l.queue with
  | [] => l
  | r :: queue => { l with queue, written := l.written ++ [r] }

/-- The writer cannot pass on the first request in the queue: this one and all behind it are
lost. -/
def failWrite : Link :=
  match l.queue with
  | [] => l
  | lost =>
    { l with exited := true, queue := [], replies := l.replies ++ lost.filterMap lostReply? }

/-- The writer passes on all requests in the queue. -/
def writeAll : Link :=
  { l with queue := [], written := l.written ++ l.queue }

/-- The reply on a line of the program. Blank lines and lines that are no reply are skipped. -/
def replyOfLine? (line : String) : Option Reply :=
  if isBlankText line.toList then none else (Wire.ofLine line).toOption

/-- The reader passes on a line. -/
def readLine (line : String) : Link :=
  { l with replies := l.replies ++ (replyOfLine? line).toList }

/-- The reader comes to the end of the output: the last session has ended. -/
def endOutput : Link :=
  { l with
    exited := true
    replies := l.replies ++ if l.lastRun = 0 then [] else [exitReply l.lastRun] }

/-- The lines of the output up to the first one that is no text. -/
def textLines (output : List UInt8) : List String :=
  ((octetLines output).map textOfOctets?).takeWhile Option.isSome |>.filterMap id

/-- The reader passes on all lines up to the first one that is no text, where it takes the output to
have ended. -/
def readOutput (output : List UInt8) : Link :=
  ((textLines output).foldl readLine l).endOutput

/-- The link behind a sequence of requests, and what became of each. -/
def sendAll : List Request → Link → Link × List (Except SendError Unit)
  | [], l => (l, [])
  | r :: rs, l =>
    let (l, result) := l.send r
    let (l, results) := sendAll rs l
    (l, result :: results)

end Link

end Playthrough
