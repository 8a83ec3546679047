import Playthrough.Proofs.ConsoleRehearsal
import Playthrough.Proofs.IssueVisits

/-!
# The acts of a console

A console drives its workbench: time passes, the author wants something, replies are taken and
received, and something may be printed without asking the director. On each occasion this comes down
to a list of acts at the workbench, done one after the other, and nothing else happens. Acts make
sense on every front end, so what a console did can be done again on a front end that remembers
more than a terminal does.

Whatever an act changes without the director leaves what is shown of the issues, and takes nothing
back that was printed.

## Main definitions

* `Console.act`, `Console.acts` — the console after an act at its workbench, and after some.
* `Console.actsOn`, `Console.actsThrough` — the acts of an occasion, and of some occasions.
* `Terminal.IsAside` — a change of a terminal that leaves what is shown of the issues.

## Main results

* `Console.meet_eq`, `Console.bench_attend` — what happens at a console is what its acts do.
* `Console.isAside_of_mem_actsThrough` — what acts change without the director.
-/

namespace Playthrough

open Workbench (Act)

namespace Console

variable {c c' : Console}

/-! ### Acts at a console -/

/-- The console after an act at its workbench. -/
def act (c : Console) : Act Terminal → Console
  | .edit now => { c with bench := c.bench.onEdit now }
  | .time now => { c with bench := (c.bench.onTime now).1 }
  | .reply r => c.receive r
  | .intent i => { c with bench := (c.bench.onIntent i).1 }
  | .change f => c.modifyTerminal f

/-- The console after some acts at its workbench. -/
def acts (c : Console) (as : List (Act Terminal)) : Console :=
  as.foldl act c

@[simp] theorem acts_cons (c : Console) (a : Act Terminal) (as : List (Act Terminal)) :
    c.acts (a :: as) = (c.act a).acts as := rfl

@[simp] theorem acts_append (c : Console) (as bs : List (Act Terminal)) :
    c.acts (as ++ bs) = (c.acts as).acts bs :=
  List.foldl_append

/-! ### What an occasion does -/

/-- The acts of receiving, up to `rounds` times, all replies that are there. -/
def actsOfRounds : Nat → Console → List (Act Terminal)
  | 0, _ => []
  | rounds + 1, c =>
    .change (fun t => t.takeReplies.1) ::
      match c.takeReplies with
      | (_, []) => []
      | (c, replies) => replies.map .reply ++ actsOfRounds rounds (replies.foldl receive c)

/-- Some acts, and those of receiving all replies afterwards. -/
def thenReceive (c : Console) (as : List (Act Terminal)) : List (Act Terminal) :=
  as ++ actsOfRounds ((c.acts as).state.log.unplayed + 1) (c.acts as)

/-- The acts of doing what the author wants. A refusal is printed. -/
def actsOfPursuit (c : Console) (i : Intent) : List (Act Terminal) :=
  c.thenReceive <| .intent i ::
    match (c.bench.onIntent i).2 with
    | .ok () => []
    | .error e => [.change (·.print s!"  ({e.message})\n")]

/-- The acts of a line with a meaning. -/
def actsOfInput (c : Console) : InputLine → List (Act Terminal)
  | .choose n => c.actsOfPursuit (.choose c.state.session n)
  | .rewind => c.actsOfPursuit .startOver
  | .back => c.actsOfPursuit .takeBack
  | .nextIssue => c.actsOfPursuit .nextIssue
  | .line n => c.actsOfPursuit (.goTo n)
  | .issues => [.change (·.printIssues)]
  | .help => [.change (·.print s!"  {helpText}\n")]
  | .quit => []
  | .unknown text => [.change (·.print s!"  Unknown input '{text}'. Type :help\n")]

/-- The console whose watcher has seen what there is to be seen on an occasion. -/
def sees (c : Console) : Occasion → Console
  | .look _ seen => { c with watcher := (c.watcher.look seen).1 }
  | .line _ => c

/-- The acts of an occasion. -/
def actsOn (c : Console) : Occasion → List (Act Terminal)
  | .look now seen =>
    match (c.watcher.look seen).2 with
    | .error _ => []
    | .ok none => (c.sees (.look now seen)).thenReceive [.time now]
    | .ok (some content) =>
      (c.sees (.look now seen)).thenReceive
        [.change fun t => { t with content }, .edit now, .time now]
  | .line text =>
    match InputLine.parse? text with
    | some input => c.actsOfInput input
    | none => []

/-- The acts of some occasions. -/
def actsThrough (c : Console) : List Occasion → List (Act Terminal)
  | [] => []
  | o :: os => c.actsOn o ++ (c.meet o).actsThrough os

/-! ### Nothing else happens -/

theorem acts_reply (c : Console) (replies : List Reply) :
    c.acts (replies.map .reply) = replies.foldl receive c :=
  List.foldl_map

theorem receiveRounds_eq (rounds : Nat) (c : Console) :
    receiveRounds rounds c = c.acts (actsOfRounds rounds c) := by
  induction rounds generalizing c with
  | zero => rfl
  | succ rounds ih =>
    have htake : c.takeReplies = (c.act (.change fun t => t.takeReplies.1), c.takeReplies.2) := rfl
    rw [receiveRounds, actsOfRounds, acts_cons, htake]
    cases c.takeReplies.2 with
    | nil => rfl
    | cons r replies =>
      rw [acts_append, acts_reply]
      exact ih _

theorem acts_thenReceive (c : Console) (as : List (Act Terminal)) :
    c.acts (c.thenReceive as) = (c.acts as).receiveAll := by
  rw [thenReceive, acts_append, receiveAll, receiveRounds_eq]

theorem pursue_eq (c : Console) (i : Intent) : c.pursue i = c.acts (c.actsOfPursuit i) := by
  rw [actsOfPursuit, acts_thenReceive, pursue]
  cases hintent : c.bench.onIntent i with
  | mk bench result =>
    have hact : c.act (.intent i) = { c with bench } := by rw [act, hintent]
    rw [acts_cons, hact]
    cases result <;> rfl

theorem perform_eq (c : Console) (input : InputLine) :
    (c.perform input).1 = c.acts (c.actsOfInput input) := by
  cases input with
  | choose n => exact c.pursue_eq (.choose c.state.session n)
  | rewind => exact c.pursue_eq .startOver
  | back => exact c.pursue_eq .takeBack
  | nextIssue => exact c.pursue_eq .nextIssue
  | line n => exact c.pursue_eq (.goTo n)
  | issues => rfl
  | help => rfl
  | quit => rfl
  | unknown text => rfl

/-- What happens on an occasion is what its acts do, once the watcher has seen it. -/
theorem meet_eq (c : Console) (o : Occasion) : c.meet o = (c.sees o).acts (c.actsOn o) := by
  cases o with
  | look now seen =>
    rw [meet, look, actsOn]
    cases hlook : c.watcher.look seen with
    | mk watcher result =>
      have hsees : c.sees (.look now seen) = { c with watcher } := by rw [sees, hlook]
      rw [hsees]
      cases result with
      | error e => rfl
      | ok news =>
        cases news with
        | none =>
          dsimp only
          rw [acts_thenReceive]
          rfl
        | some content =>
          dsimp only
          rw [acts_thenReceive]
          rfl
  | line text =>
    rw [meet, readLine, actsOn, sees]
    cases InputLine.parse? text with
    | none => rfl
    | some input => exact c.perform_eq input

/-- The watcher takes no part in the acts. -/
theorem bench_acts_congr (h : c'.bench = c.bench) (as : List (Act Terminal)) :
    (c'.acts as).bench = (c.acts as).bench := by
  induction as generalizing c c' with
  | nil => exact h
  | cons a as ih =>
    refine ih ?_
    cases a <;> simp only [act, receive, modifyTerminal, h]

theorem bench_sees (c : Console) (o : Occasion) : (c.sees o).bench = c.bench := by
  cases o <;> rfl

/-- What happens at a console is what its acts do. -/
theorem bench_attend (c : Console) (os : List Occasion) :
    (c.attend os).bench = (c.acts (c.actsThrough os)).bench := by
  induction os generalizing c with
  | nil => rfl
  | cons o os ih =>
    have hmeet : (c.meet o).bench = (c.acts (c.actsOn o)).bench := by
      rw [meet_eq]
      exact bench_acts_congr (c.bench_sees o) _
    rw [actsThrough, acts_append]
    exact (ih (c.meet o)).trans (bench_acts_congr hmeet _)

end Console

/-! ### Changes without the director -/

/-- A change of a terminal leaves what is shown of the issues, and takes back nothing that was
printed. -/
structure Terminal.IsAside (f : Terminal → Terminal) : Prop where
  notes : ∀ t, (f t).notes = t.notes
  entries : ∀ t, (f t).entries = t.entries
  markers : ∀ t, (f t).markers = t.markers
  badge : ∀ t, (f t).badge = t.badge
  printed : ∀ t, t.printed <+: (f t).printed

namespace Terminal

variable (t : Terminal)

/-- What is printed for some entries, and what that leaves. -/
theorem foldl_print_entryText (es : List IssueEntry) :
    es.foldl (fun t e => t.print (entryText e)) t =
      { t with printed := t.printed ++ es.map entryText } := by
  induction es generalizing t with
  | nil => simp
  | cons e es ih =>
    rw [List.foldl_cons, ih]
    simp [print]

theorem printIssues_eq_append :
    t.printIssues = { t with printed := t.printed ++
      if t.entries = [] then ["  No issues.\n"] else t.entries.map entryText } := by
  unfold printIssues
  rw [foldl_print_entryText]
  by_cases h : t.entries = [] <;> simp [h, print]

theorem isAside_print (s : String) : IsAside (·.print s) :=
  ⟨fun _ => rfl, fun _ => rfl, fun _ => rfl, fun _ => rfl, fun _ => List.prefix_append _ _⟩

theorem isAside_printIssues : IsAside (·.printIssues) where
  notes t := by rw [printIssues_eq_append]
  entries t := by rw [printIssues_eq_append]
  markers t := by rw [printIssues_eq_append]
  badge t := by rw [printIssues_eq_append]
  printed t := by
    rw [printIssues_eq_append]
    exact List.prefix_append _ _

theorem isAside_takeReplies : IsAside (·.takeReplies.1) :=
  ⟨fun _ => rfl, fun _ => rfl, fun _ => rfl, fun _ => rfl, fun _ => List.prefix_rfl⟩

theorem isAside_content (content : String) : IsAside fun t => { t with content } :=
  ⟨fun _ => rfl, fun _ => rfl, fun _ => rfl, fun _ => rfl, fun _ => List.prefix_rfl⟩

end Terminal

namespace Console

variable {f : Terminal → Terminal}

theorem isAside_of_mem_actsOfRounds {rounds : Nat} {c : Console}
    (hf : .change f ∈ actsOfRounds rounds c) : Terminal.IsAside f := by
  induction rounds generalizing c with
  | zero => exact absurd hf List.not_mem_nil
  | succ rounds ih =>
    rcases List.mem_cons.mp hf with heq | hf
    · obtain rfl := Act.change.inj heq
      exact Terminal.isAside_takeReplies
    · split at hf
      · exact absurd hf List.not_mem_nil
      · rcases List.mem_append.mp hf with hf | hf
        · obtain ⟨r, -, heq⟩ := List.mem_map.mp hf
          contradiction
        · exact ih hf

theorem isAside_of_mem_thenReceive {c : Console} {as : List (Act Terminal)}
    (has : .change f ∈ as → Terminal.IsAside f) (hf : .change f ∈ c.thenReceive as) :
    Terminal.IsAside f := by
  rcases List.mem_append.mp hf with hf | hf
  · exact has hf
  · exact isAside_of_mem_actsOfRounds hf

theorem isAside_of_mem_actsOfPursuit {c : Console} {i : Intent}
    (hf : .change f ∈ c.actsOfPursuit i) : Terminal.IsAside f := by
  refine isAside_of_mem_thenReceive (fun hf => ?_) hf
  rcases List.mem_cons.mp hf with heq | hf
  · contradiction
  · split at hf
    · exact absurd hf List.not_mem_nil
    · obtain rfl := Act.change.inj (List.mem_singleton.mp hf)
      exact Terminal.isAside_print _

theorem isAside_of_mem_actsOfInput {c : Console} {input : InputLine}
    (hf : .change f ∈ c.actsOfInput input) : Terminal.IsAside f := by
  cases input with
  | choose n => exact isAside_of_mem_actsOfPursuit hf
  | rewind => exact isAside_of_mem_actsOfPursuit hf
  | back => exact isAside_of_mem_actsOfPursuit hf
  | nextIssue => exact isAside_of_mem_actsOfPursuit hf
  | line n => exact isAside_of_mem_actsOfPursuit hf
  | issues =>
    obtain rfl := Act.change.inj (List.mem_singleton.mp hf)
    exact Terminal.isAside_printIssues
  | help =>
    obtain rfl := Act.change.inj (List.mem_singleton.mp hf)
    exact Terminal.isAside_print _
  | quit => exact absurd hf List.not_mem_nil
  | unknown text =>
    obtain rfl := Act.change.inj (List.mem_singleton.mp hf)
    exact Terminal.isAside_print _

theorem isAside_of_mem_actsOn {c : Console} {o : Occasion} (hf : .change f ∈ c.actsOn o) :
    Terminal.IsAside f := by
  cases o with
  | look now seen =>
    rw [actsOn] at hf
    split at hf
    · exact absurd hf List.not_mem_nil
    · exact isAside_of_mem_thenReceive (by simp) hf
    · refine isAside_of_mem_thenReceive (fun hf => ?_) hf
      obtain rfl : f = _ := by simpa using hf
      exact Terminal.isAside_content _
  | line text =>
    rw [actsOn] at hf
    split at hf
    · exact isAside_of_mem_actsOfInput hf
    · exact absurd hf List.not_mem_nil

/-- What the acts of a console change without the director leaves what is shown of the issues. -/
theorem isAside_of_mem_actsThrough {c : Console} {os : List Occasion}
    (hf : .change f ∈ c.actsThrough os) : Terminal.IsAside f := by
  induction os generalizing c with
  | nil => exact absurd hf List.not_mem_nil
  | cons o os ih =>
    rcases List.mem_append.mp hf with hf | hf
    · exact isAside_of_mem_actsOn hf
    · exact ih hf

end Console

end Playthrough
