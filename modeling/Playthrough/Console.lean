import Playthrough.InputLine
import Playthrough.Terminal
import Playthrough.Watcher
import Playthrough.Workbench

/-!
# The console

The workbench on a terminal, with a story in a file that is watched. Whatever happens, all replies
that the interpreter gives at once are received before the next thing happens.

## Main definitions

* `Console` — the workbench and the watcher of the story.
* `Console.receiveAll` — receive what the interpreter has to say.
* `Console.look`, `Console.readLine`, `Console.hear`, `Console.stop` — what happens at a console.
-/

namespace Playthrough

/-- Whether the console goes on. -/
inductive Verdict where
  | goOn
  | quit
  deriving DecidableEq, Repr, Inhabited

/-- The workbench on a terminal, and the watcher of the story. -/
structure Console where
  bench : Workbench Terminal
  watcher : Watcher

namespace Console

/-- A console at the time `now`, with the story as it was seen first. -/
def start (timing : Timing) (now : Nat) (interpreter : Interpreter) (story : Watcher × String) :
    Console :=
  ⟨.start timing now { interpreter, content := story.2 }, story.1⟩

variable (c : Console)

/-- The state of the play. -/
def state : PlayState :=
  c.bench.director.state

/-- The terminal. -/
def terminal : Terminal :=
  c.bench.director.front

/-- Change the terminal. -/
def modifyTerminal (f : Terminal → Terminal) : Console :=
  { c with bench := c.bench.modify fun d => { d with front := f d.front } }

/-- Print a text. -/
def print (s : String) : Console :=
  c.modifyTerminal (·.print s)

/-! ### Replies -/

/-- Take the replies that are there without waiting. -/
def takeReplies : Console × List Reply :=
  let (terminal, replies) := c.terminal.takeReplies
  (c.modifyTerminal fun _ => terminal, replies)

/-- Receive a reply. -/
def receive (r : Reply) : Console :=
  { c with bench := (c.bench.onReply r).1 }

/-- Receive, up to `rounds` times, all replies that are there. -/
def receiveRounds : Nat → Console → Console
  | 0, c => c
  | rounds + 1, c =>
    match c.takeReplies with
    | (c, []) => c
    | (c, replies) => receiveRounds rounds (replies.foldl receive c)

/-- Receive replies until there are none. A round makes the interpreter say more only by submitting
a choice of the log, which bounds the number of rounds. -/
def receiveAll : Console :=
  receiveRounds (c.state.log.unplayed + 1) c

/-- A reply that was waited for. -/
def hear (r : Reply) : Console :=
  (c.receive r).receiveAll

/-! ### Time -/

/-- The story has another content. -/
def takeContent (now : Nat) (content : String) : Console :=
  let c := c.modifyTerminal fun t => { t with content }
  { c with bench := c.bench.onEdit now }

/-- Compile if it is time for it. -/
def onTime (now : Nat) : Console :=
  { c with bench := (c.bench.onTime now).1 }.receiveAll

/-- Look at the story, and compile it if it is time for it. If the look fails, nothing else
happens. -/
def look (now : Nat) (seen : Sighting) : Console × Except FileError Unit :=
  match c.watcher.look seen with
  | (watcher, .error e) => ({ c with watcher }, .error e)
  | (watcher, .ok none) => ({ c with watcher }.onTime now, .ok ())
  | (watcher, .ok (some content)) =>
    (({ c with watcher }.takeContent now content).onTime now, .ok ())

/-! ### Lines that are typed -/

/-- Do what the author wants, and say so if it is refused. -/
def pursue (i : Intent) : Console :=
  let (bench, result) := c.bench.onIntent i
  let c := { c with bench }
  let c := match result with
    | .ok () => c
    | .error e => c.print s!"  ({e.message})\n"
  c.receiveAll

/-- What a line that is not blank does. -/
def perform : InputLine → Console × Verdict
  | .choose n => (c.pursue (.choose c.state.session n), .goOn)
  | .rewind => (c.pursue .startOver, .goOn)
  | .back => (c.pursue .takeBack, .goOn)
  | .nextIssue => (c.pursue .nextIssue, .goOn)
  | .line n => (c.pursue (.goTo n), .goOn)
  | .issues => (c.modifyTerminal (·.printIssues), .goOn)
  | .help => (c.print s!"  {helpText}\n", .goOn)
  | .quit => (c, .quit)
  | .unknown text => (c.print s!"  Unknown input '{text}'. Type :help\n", .goOn)

/-- A line that was typed. -/
def readLine (line : String) : Console × Verdict :=
  match InputLine.parse? line with
  | some input => c.perform input
  | none => (c, .goOn)

/-- The lines that were typed, up to the one that ends the play. -/
def readLines : List String → Console → Console
  | [], c => c
  | line :: rest, c =>
    match c.readLine line with
    | (c, .quit) => c
    | (c, .goOn) => readLines rest c

/-- Ask the interpreter to abandon the session, if there is one. -/
def stop : Console :=
  if c.state.session = 0 then c
  else c.modifyTerminal fun t => (t.send (.stop c.state.session)).1

end Console

end Playthrough
