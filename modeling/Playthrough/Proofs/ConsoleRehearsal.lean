import Playthrough.Console
import Playthrough.Proofs.Retelling

/-!
# A console is a rehearsal

A console on a scripted interpreter does what a rehearsal does on a stage that is as wide as the
terminal. After each occasion the console receives all replies, in rounds of as many as are there;
the rehearsal delivers everything, one reply after the other. The replies of a round that are still
to be received wait in the inbox of the rehearsal; what the storyteller has said meanwhile waits
behind them, while on the console it is still with the storyteller.

What is printed without the director being asked, such as the list of issues, makes no difference.

## Main definitions

* `Reflects` — a terminal and a recorded stage with the same storyteller, up to earlier output.
* `Rehearses` — a console and a rehearsal in the middle of a round.
* `Occasion`, `Console.meet`, `Console.attend` — what happens at a console.

## Main results

* `Rehearses.receiveAll` — receiving all replies is delivering everything.
* `Rehearses.meet` — whatever happens at a console, a rehearsal does it in some moves.
-/

namespace Playthrough

/-! ### Earlier output -/

/-- A storyteller with some output in front of its own. -/
def Storyteller.behind (st : Storyteller) (earlier : List Reply) : Storyteller :=
  { st with output := earlier ++ st.output }

namespace Storyteller

variable (st : Storyteller) (earlier : List Reply) (session : SessionId)

theorem say_behind (events : List Event) :
    (st.behind earlier).say session events = (st.say session events).behind earlier := by
  simp [say, behind]

theorem crash_behind (message : String) :
    (st.behind earlier).crash session message = (st.crash session message).behind earlier :=
  (st.leave session).say_behind earlier session _

theorem play_behind (index : Nat) :
    (st.behind earlier).play session index = (st.play session index).behind earlier := by
  have hscript : (st.behind earlier).script = st.script := rfl
  unfold play
  rw [hscript]
  split
  · exact st.crash_behind earlier session _
  · split
    · exact (st.leave session).say_behind earlier session _
    · exact (st.wait session index).say_behind earlier session _

theorem compile_behind (content : String) :
    (st.behind earlier).compile session content = (st.compile session content).behind earlier := by
  have hdiagnostics : (st.behind earlier).diagnosticsOf content = st.diagnosticsOf content := rfl
  unfold compile
  rw [hdiagnostics]
  dsimp only
  rw [say_behind]
  split
  · exact say_behind _ earlier session _
  · exact play_behind _ earlier session 0

theorem takeChoice_behind (n : Nat) :
    (st.behind earlier).takeChoice session n = (st.takeChoice session n).behind earlier := by
  have hposition : (st.behind earlier).position? session = st.position? session := rfl
  have hscript : (st.behind earlier).script = st.script := rfl
  unfold takeChoice
  rw [hposition, hscript]
  split
  · rfl
  · split
    · exact st.play_behind earlier session _
    · exact st.crash_behind earlier session _

/-- Output that was there before makes no difference to what a request does. -/
theorem send_behind (r : Request) :
    (st.behind earlier).send r = ((st.send r).1.behind earlier, (st.send r).2) := by
  have hclosed : (st.behind earlier).closed = st.closed := rfl
  unfold send
  rw [hclosed]
  split
  · rfl
  · let noted : Storyteller := { st with received := st.received ++ [r] }
    refine Prod.ext ?_ rfl
    cases r with
    | run content session => exact noted.compile_behind earlier session content
    | stop session => exact (noted.leave session).say_behind earlier session _
    | continueWith n session => exact noted.takeChoice_behind earlier session n

end Storyteller

/-! ### A terminal and a stage -/

/-- What a cue prints leaves the interpreter, the text, and the names of markers as they are. -/
theorem Terminal.perform_eq (t : Terminal) (q : Cue) :
    (t.perform q).interpreter = t.interpreter ∧ (t.perform q).content = t.content ∧
      (t.perform q).nextMarker = t.nextMarker := by
  have hbadge (text : String) : (t.sayBadge text).interpreter = t.interpreter ∧
      (t.sayBadge text).content = t.content ∧ (t.sayBadge text).nextMarker = t.nextMarker := by
    unfold sayBadge
    split
    · exact ⟨rfl, rfl, rfl⟩
    · exact ⟨rfl, rfl, rfl⟩
  cases q with
  | showNone message => exact hbadge message
  | showBadge badge => exact hbadge badge.text
  | _ => exact ⟨rfl, rfl, rfl⟩

/-- So does the list of issues. -/
theorem Terminal.printIssues_eq (t : Terminal) :
    t.printIssues.interpreter = t.interpreter ∧ t.printIssues.content = t.content ∧
      t.printIssues.nextMarker = t.nextMarker := by
  have hentries (es : List IssueEntry) (t : Terminal) :
      let printed := es.foldl (fun t e => t.print (entryText e)) t
      printed.interpreter = t.interpreter ∧ printed.content = t.content ∧
        printed.nextMarker = t.nextMarker := by
    induction es generalizing t with
    | nil => exact ⟨rfl, rfl, rfl⟩
    | cons e es ih => exact ih (t.print (entryText e))
  unfold printIssues
  split
  · exact ⟨rfl, rfl, rfl⟩
  · exact hentries t.entries t

/-- A terminal and a recorded stage with the same text, as wide as each other. They have the same
storyteller, which on the terminal has some output in front. -/
structure Reflects (earlier : List Reply) (t : Terminal) (c : Recorder Stage) : Prop where
  interpreter : t.interpreter = .scripted (c.front.interpreter.behind earlier)
  content : t.content = c.front.content
  marker : t.nextMarker = c.front.nextMarker
  windowWidth : c.front.windowWidth = Terminal.windowColumns
  listWidth : c.front.listWidth = Terminal.listColumns

namespace Reflects

variable {earlier : List Reply} {t t' : Terminal} {c : Recorder Stage}

/-- What is printed makes no difference. -/
theorem aside (h : Reflects earlier t c) (hinterpreter : t'.interpreter = t.interpreter)
    (hcontent : t'.content = t.content) (hmarker : t'.nextMarker = t.nextMarker) :
    Reflects earlier t' c :=
  ⟨hinterpreter.trans h.interpreter, hcontent.trans h.content, hmarker.trans h.marker,
    h.windowWidth, h.listWidth⟩

theorem perform (h : Reflects earlier t c) (q : Cue) : Reflects earlier (t.perform q) c := by
  obtain ⟨hinterpreter, hcontent, hmarker⟩ := t.perform_eq q
  exact h.aside hinterpreter hcontent hmarker

theorem send (h : Reflects earlier t c) (r : Request) :
    Reflects earlier (Frontend.send r t).1 (Frontend.send r c).1 ∧
      (Frontend.send r t).2 = (Frontend.send r c).2 := by
  have hsend : t.interpreter.send r =
      (.scripted ((c.front.interpreter.send r).1.behind earlier),
        (c.front.interpreter.send r).2) := by
    rw [h.interpreter, Interpreter.send, Storyteller.send_behind]
  refine ⟨⟨?_, h.content, h.marker, h.windowWidth, h.listWidth⟩, ?_⟩
  · exact congrArg Prod.fst hsend
  · exact congrArg Prod.snd hsend

end Reflects

theorem matched_reflects (earlier : List Reply) : Frontend.Matched (Reflects earlier) where
  content h := h.content
  windowWidth h := h.windowWidth.symm
  listWidth h := h.listWidth.symm
  cue q _ _ h :=
    let ⟨interpreter, content, marker, windowWidth, listWidth⟩ := h.perform q
    ⟨interpreter, content, marker, windowWidth, listWidth⟩
  mark _ _ _ _ h :=
    ⟨⟨h.interpreter, h.content, congrArg (· + 1) h.marker, h.windowWidth, h.listWidth⟩, h.marker⟩
  send r _ _ h := h.send r

/-! ### A round of replies -/

/-- A console and a rehearsal in the middle of a round: some replies are still to be received, and
the storyteller has said `later` meanwhile. -/
structure Rehearses (pending later : List Reply) (c : Console) (r : Rehearsal) : Prop where
  alike : Director.Alike (Reflects later) c.bench.director r.director
  inbox : r.inbox = pending ++ later
  output : r.director.storyteller.output = []

namespace Rehearses

variable {pending later : List Reply} {c c' : Console} {r r' : Rehearsal}

theorem state_eq (h : Rehearses pending later c r) : c.state = r.state :=
  h.alike.state

/-- The rehearsal collects what the storyteller has said. -/
theorem collect (halike : Director.Alike (Reflects later) c.bench.director r.director)
    (hinbox : r.inbox = pending ++ later) :
    Rehearses pending (later ++ r.director.storyteller.output) c r.collect := by
  obtain ⟨interpreter, content, marker, windowWidth, listWidth⟩ := halike.front
  refine ⟨⟨halike.state, halike.display, ?_, content, marker, windowWidth, listWidth⟩, ?_, rfl⟩
  · rw [interpreter]
    show Interpreter.scripted (r.director.storyteller.behind later) =
      .scripted (r.collect.director.storyteller.behind (later ++ r.director.storyteller.output))
    simp only [Storyteller.behind, Rehearsal.output_collect, List.append_nil]
    rfl
  · rw [Rehearsal.inbox_collect, hinbox, List.append_assoc]

/-- A reply is received, and delivered. -/
theorem receive {x : Reply} (h : Rehearses (x :: pending) later c r) :
    ∃ more, Rehearses pending (later ++ more) (c.receive x) r.advance := by
  have hcollect : r.collect = r := Rehearsal.collect_of_output_eq_nil h.output
  have hcons : r.collect.inbox = x :: (pending ++ later) := by rw [hcollect, h.inbox]; rfl
  let next : Rehearsal := ({ r with inbox := pending ++ later }.onReply x).1
  have hadvance : r.advance = next.collect := by
    rw [Rehearsal.advance_of_cons hcons, hcollect]
  have halike : Director.Alike (Reflects later) (c.receive x).bench.director next.director :=
    ((matched_reflects later).receive h.alike x).1
  rw [hadvance]
  exact ⟨_, collect halike rfl⟩

/-- All replies of a round are received, and delivered. -/
theorem foldl_receive (h : Rehearses pending later c r) :
    ∃ later', Rehearses [] later' (pending.foldl Console.receive c)
      (Rehearsal.advance^[pending.length] r) := by
  induction pending generalizing later c r with
  | nil => exact ⟨later, h⟩
  | cons x pending ih =>
    obtain ⟨more, hnext⟩ := h.receive
    exact ih hnext

/-- A round begins: the replies that are there are taken. -/
theorem takeReplies (h : Rehearses [] later c r) :
    c.takeReplies.2 = later ∧ Rehearses later [] c.takeReplies.1 r := by
  obtain ⟨⟨state, display, interpreter, content, marker, windowWidth, listWidth⟩, inbox, output⟩ :=
    h
  have htake : c.terminal.takeReplies =
      ({ c.terminal with interpreter := .scripted r.director.storyteller }, later) := by
    have hterminal : c.terminal.interpreter =
        .scripted (r.director.storyteller.behind later) := interpreter
    have houtput : (r.director.storyteller.behind later).takeOutput =
        (r.director.storyteller, later) := by
      refine Prod.ext ?_ ?_
      · show { r.director.storyteller with output := [] } = r.director.storyteller
        rw [← output]
      · show later ++ r.director.storyteller.output = later
        rw [output, List.append_nil]
    rw [Terminal.takeReplies, hterminal, Interpreter.takeReplies, houtput]
  rw [Console.takeReplies, htake]
  exact ⟨rfl, ⟨state, display, rfl, content, marker, windowWidth, listWidth⟩,
    by rw [inbox, List.nil_append, List.append_nil], output⟩

/-- All rounds. Nothing is left if nothing was there at first, or if there are more rounds than
choices of the log. -/
theorem receiveRounds (h : Rehearses [] later c r) (rounds : Nat) :
    ∃ count later', Rehearses [] later' (Console.receiveRounds rounds c)
        (Rehearsal.advance^[count] r) ∧
      (later = [] ∨ r.state.log.unplayed < rounds → later' = []) := by
  induction rounds generalizing later c r with
  | zero => exact ⟨0, later, h, fun hleft => hleft.resolve_right (Nat.not_lt_zero _)⟩
  | succ rounds ih =>
    obtain ⟨htaken, hround⟩ := h.takeReplies
    have htake : c.takeReplies = (c.takeReplies.1, later) := Prod.ext rfl htaken
    cases hlater : later with
    | nil =>
      have hend : Console.receiveRounds (rounds + 1) c = c.takeReplies.1 := by
        rw [Console.receiveRounds, htake, hlater]
      rw [hend]
      exact ⟨0, [], hlater ▸ hround, fun _ => rfl⟩
    | cons x xs =>
      have hmore : Console.receiveRounds (rounds + 1) c =
          Console.receiveRounds rounds (later.foldl Console.receive c.takeReplies.1) := by
        rw [Console.receiveRounds, htake, hlater]
      obtain ⟨later', hnext⟩ := hround.foldl_receive
      obtain ⟨count, last, hlast, hnone⟩ := ih hnext
      rw [hmore]
      refine ⟨count + later.length, last, ?_, fun hleft => hnone ?_⟩
      · rw [Function.iterate_add_apply]
        exact hlast
      -- a choice of the log was taken in this round, or nothing was said
      · have hunplayed : r.state.log.unplayed < rounds + 1 :=
          hleft.resolve_left (by simp)
        have hall : r.inbox = later := h.inbox
        obtain ⟨said, hsaid, -, -, hlt⟩ := Rehearsal.iterate_advance h.output
          (Nat.le_of_eq (congrArg List.length hall).symm)
        have hinbox : said = later' := by
          rw [hall, List.drop_length, List.nil_append, hnext.inbox] at hsaid
          exact hsaid.symm
        subst hinbox
        by_cases hempty : said = []
        · exact .inl hempty
        · have := hlt hempty
          exact .inr (by omega)

/-- Receiving all replies is delivering everything, and nothing is left then. -/
theorem receiveAll (halike : Director.Alike (Reflects []) c.bench.director r.director)
    (hinbox : r.inbox = []) : Rehearses [] [] c.receiveAll r.deliverAll.1 := by
  have hbegun : Rehearses [] ([] ++ r.director.storyteller.output) c r.collect :=
    collect halike (by rw [hinbox]; rfl)
  obtain ⟨count, later, hlast, hnone⟩ := hbegun.receiveRounds (c.state.log.unplayed + 1)
  have hunplayed : r.collect.state.log.unplayed < c.state.log.unplayed + 1 := by
    rw [hbegun.state_eq]
    exact Nat.lt_succ_self _
  obtain rfl : later = [] := hnone (.inr hunplayed)
  have hsettled : (Rehearsal.advance^[count] r.collect).IsSettled := ⟨hlast.inbox, hlast.output⟩
  rw [Rehearsal.deliverAll_eq hsettled rfl]
  exact hlast

theorem isSettled (h : Rehearses [] [] c r) : r.IsSettled :=
  ⟨h.inbox, h.output⟩

/-! ### What is done at a console -/

/-- What is only printed makes no difference. -/
theorem aside (h : Rehearses pending later c r) (hstate : c'.state = c.state)
    (hdisplay : c'.bench.director.display = c.bench.director.display)
    (hfront : Reflects later c'.terminal r.director.front) : Rehearses pending later c' r :=
  ⟨⟨hstate.trans h.alike.state, hdisplay.trans h.alike.display, hfront⟩, h.inbox, h.output⟩

/-- Nothing is left to receive. -/
theorem rest (h : Rehearses [] [] c r) : Rehearses [] [] c.receiveAll r := by
  have hall := receiveAll h.alike h.inbox
  rwa [h.isSettled.deliverAll_fst] at hall

theorem printed (h : Rehearses pending later c r) (f : Terminal → Terminal)
    (hinterpreter : (f c.terminal).interpreter = c.terminal.interpreter)
    (hcontent : (f c.terminal).content = c.terminal.content)
    (hmarker : (f c.terminal).nextMarker = c.terminal.nextMarker) :
    Rehearses pending later (c.modifyTerminal f) r :=
  h.aside rfl rfl (h.alike.front.aside hinterpreter hcontent hmarker)

end Rehearses

/-- What the author wants is an order, or is shown without asking the director. -/
theorem Workbench.director_onIntent {F : Type} [Frontend F] (w : Workbench F) (i : Intent) :
    (∃ o, (w.onIntent i).1.director = (w.director.follow o).1) ∨
      (w.onIntent i).1.director = w.director ∨
      ∃ q, (w.onIntent i).1.director = w.director.cue q := by
  cases i with
  | choose session n => exact .inl ⟨.select session n, rfl⟩
  | goTo line => exact .inr (.inr ⟨_, rfl⟩)
  | nextIssue => exact .inl ⟨.nextIssue, rfl⟩
  | startOver => exact .inl ⟨.startOver, rfl⟩
  | takeBack => exact .inl ⟨.takeBack, rfl⟩
  | click position modifier =>
    cases modifier with
    | false => exact .inr (.inl rfl)
    | true =>
      show _ ∨ (w.followDivert position).director = _ ∨ ∃ q, (w.followDivert position).director = _
      unfold followDivert
      split
      · exact .inr (.inr ⟨_, rfl⟩)
      · exact .inr (.inl rfl)
  | resize => exact .inl ⟨.centre, rfl⟩

/-- Whether a move leaves the script and the complaints as they are. -/
def Move.KeepsScript (script : Script) (complaints : List Diagnostic) : Move → Prop
  | .order _ => True
  | .edit source => source.script = script ∧ source.complaints = complaints

/-- A rehearsal is what a console is after some moves that leave the script and the complaints as
they are. -/
def RehearsedBy (r : Rehearsal) (c : Console) : Prop :=
  ∃ ms, Rehearses [] [] c (r.play ms) ∧
    ∀ m ∈ ms, m.KeepsScript r.stage.interpreter.script r.stage.interpreter.complaints

/-- What happens at a console. -/
inductive Occasion where
  | look (now : Nat) (seen : Sighting)
  | line (text : String)

namespace Console

/-- The console after an occasion. -/
def meet (c : Console) : Occasion → Console
  | .look now seen => (c.look now seen).1
  | .line text => (c.readLine text).1

/-- The console after some occasions, one after the other. -/
def attend (c : Console) (os : List Occasion) : Console :=
  os.foldl meet c

end Console

namespace Rehearses

variable {c : Console} {r : Rehearsal}

theorem rehearsedBy (h : Rehearses [] [] c r) : RehearsedBy r c :=
  ⟨[], h, fun _ hm => absurd hm List.not_mem_nil⟩

/-- The director follows an order, and all replies are received. -/
theorem follow (h : Rehearses [] [] c r) {c' : Console} {o : Order}
    (halike : Director.Alike (Reflects []) c'.bench.director (r.director.follow o).1) :
    RehearsedBy r c'.receiveAll := by
  refine ⟨[.order o], receiveAll halike h.inbox, fun m hm => ?_⟩
  obtain rfl := List.mem_singleton.mp hm
  trivial

/-- What the author wants is done. -/
theorem pursue (h : Rehearses [] [] c r) (i : Intent) : RehearsedBy r (c.pursue i) := by
  let asked : Console := { c with bench := (c.bench.onIntent i).1 }
  -- a refusal is only printed
  obtain ⟨said, hpursue, hsaid⟩ : ∃ said : Console, c.pursue i = said.receiveAll ∧
      ∀ d : Director (Recorder Stage), Director.Alike (Reflects []) asked.bench.director d →
        Director.Alike (Reflects []) said.bench.director d := by
    cases hresult : (c.bench.onIntent i).2 with
    | ok _ =>
      refine ⟨asked, ?_, fun d halike => halike⟩
      simp only [Console.pursue, hresult, asked]
    | error e =>
      refine ⟨asked.print s!"  ({e.message})\n", ?_, fun d halike => ?_⟩
      · simp only [Console.pursue, hresult, asked]
      · exact ⟨halike.state, halike.display, halike.front.aside rfl rfl rfl⟩
  rw [hpursue]
  rcases c.bench.director_onIntent i with ⟨o, ho⟩ | hsame | ⟨q, hq⟩
  · have halike : Director.Alike (Reflects []) asked.bench.director (r.director.follow o).1 :=
      ho ▸ ((matched_reflects []).follow h.alike o).1
    exact h.follow (hsaid _ halike)
  · have halike : Director.Alike (Reflects []) asked.bench.director r.director :=
      hsame ▸ h.alike
    exact (rest ⟨hsaid _ halike, h.inbox, h.output⟩).rehearsedBy
  · have halike : Director.Alike (Reflects []) asked.bench.director r.director :=
      hq ▸ ⟨h.alike.state, h.alike.display, h.alike.front.perform q⟩
    exact (rest ⟨hsaid _ halike, h.inbox, h.output⟩).rehearsedBy

/-- The meaning of a line is done. -/
theorem perform (h : Rehearses [] [] c r) (input : InputLine) :
    RehearsedBy r (c.perform input).1 := by
  have hprint (s : String) : RehearsedBy r (c.print s) := (h.printed _ rfl rfl rfl).rehearsedBy
  cases input with
  | choose n => exact h.pursue (.choose c.state.session n)
  | rewind => exact h.pursue .startOver
  | back => exact h.pursue .takeBack
  | nextIssue => exact h.pursue .nextIssue
  | line n => exact h.pursue (.goTo n)
  | issues =>
    obtain ⟨hinterpreter, hcontent, hmarker⟩ := c.terminal.printIssues_eq
    exact (h.printed _ hinterpreter hcontent hmarker).rehearsedBy
  | help => exact hprint _
  | quit => exact h.rehearsedBy
  | unknown text => exact hprint _

/-- The story is compiled if it is time for it. -/
theorem onTime (h : Rehearses [] [] c r) (now : Nat) : RehearsedBy r (c.onTime now) := by
  unfold Console.onTime Workbench.onTime
  split
  · exact h.rest.rehearsedBy
  · let o : Order := .compile (Frontend.content c.bench.director.front)
    exact h.follow ((matched_reflects []).follow h.alike o).1

/-- The story has another content. -/
theorem takeContent (h : Rehearses [] [] c r) (now : Nat) (content : String) :
    Rehearses [] [] (c.takeContent now content) (r.move (.edit
      ⟨r.stage.interpreter.script, r.stage.interpreter.complaints, content⟩)) := by
  obtain ⟨⟨state, display, interpreter, -, marker, windowWidth, listWidth⟩, inbox, output⟩ := h
  exact ⟨⟨state, display, interpreter, rfl, marker, windowWidth, listWidth⟩, inbox, output⟩

/-- Whatever happens at a console, a rehearsal does it in some moves. -/
theorem meet (h : Rehearses [] [] c r) (o : Occasion) : RehearsedBy r (c.meet o) := by
  cases o with
  | line text =>
    show RehearsedBy r (c.readLine text).1
    unfold Console.readLine
    split
    · exact h.perform _
    · exact h.rehearsedBy
  | look now seen =>
    have hwatched (watcher : Watcher) : Rehearses [] [] { c with watcher } r :=
      h.aside rfl rfl h.alike.front
    show RehearsedBy r (c.look now seen).1
    unfold Console.look
    split
    · exact (hwatched _).rehearsedBy
    · exact (hwatched _).onTime now
    · rename_i watcher content _
      obtain ⟨ms, hlast, hms⟩ := ((hwatched watcher).takeContent now content).onTime now
      refine ⟨.edit _ :: ms, hlast, fun m hm => ?_⟩
      rcases List.mem_cons.mp hm with rfl | hm
      · exact ⟨rfl, rfl⟩
      · exact hms m hm

/-- The rehearsal on a stage that is as wide as the terminal. -/
def stageOf (st : Storyteller) (content : String) : Stage :=
  { interpreter := st, content
    windowWidth := Terminal.windowColumns, listWidth := Terminal.listColumns }

theorem start (timing : Timing) (now : Nat) {st : Storyteller} (hout : st.output = [])
    (story : Watcher × String) :
    Rehearses [] [] (.start timing now (.scripted st) story)
      ⟨.start timing now ⟨stageOf st story.2, []⟩, [], []⟩ :=
  ⟨⟨rfl, rfl, rfl, rfl, rfl, rfl, rfl⟩, rfl, hout⟩

end Rehearses

end Playthrough
