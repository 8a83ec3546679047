import Mathlib.Data.List.Induction
import Playthrough.Proofs.StoryGrammar

/-!
# Chronicles of a storyteller

Whatever is sent to a storyteller, and however its script is changed meanwhile, the events of every
session are a story. Sessions interleave in the output, which may be taken at any time. So a
*chronicle* is kept of the requests that were accepted and the replies that were given, one after
the other. What carries the grammar through is that the storyteller has a position for a session
exactly as long as the session *awaits input*: the last thing in it, apart from acknowledgements,
was a request for input.

## Main definitions

* `Handling`, `Chronicle` — what is done with a storyteller, and what comes of it.
* `Chronicle.AwaitsInput` — the session awaits input.
* `Storyteller.Serves` — what a storyteller says to an accepted request.

## Main results

* `Storyteller.serves_send` — what sending a request to an open storyteller does.
* `Chronicle.Faithful.handle` — what is kept by everything that is done with a storyteller.
* `events_follow_grammar` — the events of every session follow the grammar.
-/

namespace Playthrough

/-! ### Accepted requests -/

namespace Storyteller

variable (st : Storyteller)

/-- What a storyteller says to an accepted request, and where the session of the request is then. -/
inductive Serves : Request → List Event → Option Nat → Prop where
  | run (content : String) (session : SessionId) :
      Serves (.run content session) (st.source content).opening.events
        (st.source content).opening.halt.position?
  | stop (session : SessionId) : Serves (.stop session) [.stopAcknowledged] none
  /-- The session is at no decision point. -/
  | ignore (n : Nat) (session : SessionId) (position : st.position? session = none) :
      Serves (.continueWith n session) [] none
  | goOn {index : Nat} (n : Nat) (session : SessionId)
      (position : st.position? session = some index) :
      Serves (.continueWith n session) (st.script.sceneAfter index n).events
        (st.script.sceneAfter index n).halt.position?

theorem received_play (session : SessionId) (index : Nat) :
    (st.play session index).received = st.received := by
  unfold play
  split
  · rfl
  · dsimp only
    split <;> rfl

theorem received_answer (r : Request) : (st.answer r).received = st.received := by
  cases r with
  | run content session =>
    rw [answer, compile]
    split
    · rfl
    · exact received_play _ session 0
  | stop session => rfl
  | continueWith n session =>
    rw [answer, takeChoice]
    split
    · rfl
    · split
      · exact st.received_play session _
      · rfl

variable {st}

theorem send_of_open (hopen : st.closed = false) (r : Request) :
    st.send r = ({ st with received := st.received ++ [r] }.answer r, .ok ()) := by
  rw [send, if_neg (by simp [hopen])]

/-- A choice in a session that is at no decision point is only noted. -/
theorem send_continueWith_of_nowhere (hopen : st.closed = false) {session : SessionId}
    (h : st.position? session = none) (n : Nat) :
    (st.send (.continueWith n session)).1 =
      { st with received := st.received ++ [.continueWith n session] } := by
  let noted : Storyteller := { st with received := st.received ++ [.continueWith n session] }
  have hnowhere : noted.position? session = none := h
  rw [send_of_open hopen]
  show noted.takeChoice session n = noted
  rw [takeChoice, hnowhere]

/-- An open storyteller accepts every request. A session is run while it is at no decision point. -/
theorem serves_send (hopen : st.closed = false) {r : Request}
    (hrun : r.isRun = true → st.position? r.session = none) :
    ∃ events, st.Serves r events ((st.send r).1.position? r.session) ∧
      (st.send r).1.output = st.output ++ events.map (Reply.mk r.session) := by
  cases r with
  | run content session =>
    have hplays := st.plays_send_run session hopen content (hrun rfl)
    refine ⟨_, ?_, hplays.output⟩
    rw [show (Request.run content session).session = session from rfl, hplays.position]
    exact .run content session
  | stop session =>
    have hsend : (st.send (.stop session)).1.position? session = none := by
      rw [send_of_open hopen]
      simp [answer]
    refine ⟨[.stopAcknowledged], ?_, ?_⟩
    · rw [show (Request.stop session).session = session from rfl, hsend]
      exact .stop session
    · rw [send_of_open hopen]
      rfl
  | continueWith n session =>
    cases hposition : st.position? session with
    | none =>
      have hsend := send_continueWith_of_nowhere hopen hposition n
      refine ⟨[], ?_, ?_⟩
      · rw [hsend]
        exact hposition ▸ .ignore n session hposition
      · rw [hsend]
        simp
    | some index =>
      have hplays := st.plays_send_continueWith session hopen hposition n
      refine ⟨_, ?_, hplays.output⟩
      rw [show (Request.continueWith n session).session = session from rfl, hplays.position]
      exact .goOn n session hposition

end Storyteller

/-! ### Chronicles -/

/-- What is done with a storyteller. -/
inductive Handling where
  | send (r : Request)
  /-- Its output is taken. -/
  | take
  /-- It is given another script. -/
  | setScript (script : Script)
  /-- It is given other diagnostics to report at every compile. -/
  | setComplaints (complaints : List Diagnostic)
  | close

/-- A request that was accepted, or a reply that was given. -/
inductive Entry where
  | asked (r : Request)
  | said (x : Reply)
  deriving DecidableEq

namespace Entry

/-- The request of an entry. -/
def request? : Entry → Option Request
  | .asked r => some r
  | .said _ => none

/-- The reply of an entry. -/
def reply? : Entry → Option Reply
  | .asked _ => none
  | .said x => some x

/-- The event of an entry. -/
def event? (e : Entry) : Option Event :=
  e.reply?.map Reply.event

@[simp] theorem request?_asked (r : Request) : (asked r).request? = some r := rfl

@[simp] theorem request?_said (x : Reply) : (said x).request? = none := rfl

@[simp] theorem reply?_asked (r : Request) : (asked r).reply? = none := rfl

@[simp] theorem reply?_said (x : Reply) : (said x).reply? = some x := rfl

@[simp] theorem event?_asked (r : Request) : (asked r).event? = none := rfl

@[simp] theorem event?_said (x : Reply) : (said x).event? = some x.event := rfl

/-- Whether an entry matters to a session: it is a request to stop it, or an event of it that does
not just acknowledge such a request. -/
def concerns (session : SessionId) : Entry → Bool
  | .asked r => r = .stop session
  | .said x => x.session = session ∧ x.event ≠ .stopAcknowledged

end Entry

/-- A compile: the diagnostics that were reported at every compile then, and the content. -/
structure Compiled where
  session : SessionId
  complaints : List Diagnostic
  content : String
  deriving DecidableEq

/-- All diagnostics of a compile: those of every compile, and then the notes in the content. -/
def Compiled.diagnostics (x : Compiled) : List Diagnostic :=
  x.complaints ++ todoNotes x.content

/-- A storyteller, the output that was taken from it, the requests and replies one after the other,
and the compiles. -/
structure Chronicle where
  teller : Storyteller
  taken : List Reply := []
  entries : List Entry := []
  compiles : List Compiled := []

/-- The compile that a storyteller is asked for. -/
def Storyteller.compiled? (st : Storyteller) : Request → Option Compiled
  | .run content session => some ⟨session, st.complaints, content⟩
  | _ => none

namespace Chronicle

/-- A storyteller with which nothing has been done. -/
def start (script : Script) (complaints : List Diagnostic) : Chronicle where
  teller := { script, complaints }

/-- What comes of something that is done with the storyteller. -/
def handle (c : Chronicle) : Handling → Chronicle
  | .send r =>
    match c.teller.send r with
    | (teller, .error _) => { c with teller }
    | (teller, .ok ()) =>
      { c with
        teller
        entries := c.entries ++
          .asked r :: (teller.output.drop c.teller.output.length).map .said
        compiles := c.compiles ++ (c.teller.compiled? r).toList }
  | .take =>
    let (teller, replies) := c.teller.takeOutput
    { c with teller, taken := c.taken ++ replies }
  | .setScript script => { c with teller := { c.teller with script } }
  | .setComplaints complaints => { c with teller := { c.teller with complaints } }
  | .close => { c with teller := c.teller.close }

/-- What comes of some things that are done one after the other. -/
def handleAll (c : Chronicle) (hs : List Handling) : Chronicle :=
  hs.foldl handle c

/-- All replies that the storyteller has given. -/
def replies (c : Chronicle) : List Reply :=
  c.taken ++ c.teller.output

/-- The entries that matter to a session. -/
def entriesOf (c : Chronicle) (session : SessionId) : List Entry :=
  c.entries.filter (Entry.concerns session)

/-- The last event of a session, apart from acknowledgements, was a request for input, and no
request to stop the session was accepted since. -/
def AwaitsInput (c : Chronicle) (session : SessionId) : Prop :=
  ∃ earlier later, c.entries = earlier ++ .said ⟨session, .inputRequired⟩ :: later ∧
    (∀ e, .said ⟨session, e⟩ ∈ later → e = .stopAcknowledged) ∧ .asked (.stop session) ∉ later

theorem awaitsInput_iff (c : Chronicle) (session : SessionId) :
    c.AwaitsInput session ↔
      (c.entriesOf session).getLast? = some (.said ⟨session, .inputRequired⟩) := by
  constructor
  · rintro ⟨earlier, later, hentries, hsaid, hasked⟩
    have hlater : later.filter (Entry.concerns session) = [] := by
      rw [List.filter_eq_nil_iff]
      intro e he hconcerns
      cases e with
      | asked r =>
        obtain rfl : r = .stop session := by simpa [Entry.concerns] using hconcerns
        exact hasked he
      | said x =>
        obtain ⟨other, event⟩ := x
        obtain ⟨rfl, hevent⟩ : other = session ∧ event ≠ .stopAcknowledged := by
          simpa [Entry.concerns] using hconcerns
        exact hevent (hsaid event he)
    have hconcerns : Entry.concerns session (.said ⟨session, .inputRequired⟩) = true := by
      simp [Entry.concerns]
    rw [entriesOf, hentries, List.filter_append, List.filter_cons_of_pos hconcerns, hlater]
    exact List.getLast?_concat
  · intro hlast
    obtain ⟨es, hes⟩ := List.getLast?_eq_some_iff.mp hlast
    obtain ⟨as, bs, hentries, -, hbs⟩ := List.filter_eq_append_iff.mp hes
    obtain ⟨between, later, rfl, -, -, hlater⟩ := List.filter_eq_cons_iff.mp hbs
    rw [List.filter_eq_nil_iff] at hlater
    refine ⟨as ++ between, later, by rw [hentries, List.append_assoc], fun e he => ?_, fun he => ?_⟩
    · simpa [Entry.concerns] using hlater _ he
    · exact hlater _ he (by simp [Entry.concerns])

end Chronicle

/-- The events of a session among some replies, apart from acknowledgements. -/
def storyOf (session : SessionId) (xs : List Reply) : List Event :=
  (eventsFor session xs).filter (· ≠ .stopAcknowledged)

section Story

variable {session : SessionId}

@[simp] theorem storyOf_append (xs ys : List Reply) :
    storyOf session (xs ++ ys) = storyOf session xs ++ storyOf session ys := by
  simp [storyOf]

theorem storyOf_map (events : List Event) :
    storyOf session (events.map (Reply.mk session)) =
      events.filter (· ≠ .stopAcknowledged) := by
  rw [storyOf, eventsFor_map]

theorem storyOf_map_of_ne {other : SessionId} (h : other ≠ session) (events : List Event) :
    storyOf session (events.map (Reply.mk other)) = [] := by
  rw [storyOf, eventsFor_eq_nil, List.filter_nil]
  intro x hx
  obtain ⟨e, -, rfl⟩ := List.mem_map.mp hx
  exact h

/-- Nothing in a scene is an acknowledgement. -/
theorem Scene.filter_events (scene : Scene) :
    scene.events.filter (· ≠ .stopAcknowledged) = scene.events :=
  List.filter_eq_self.mpr fun e he => by simpa using scene.ne_stopAcknowledged_of_mem he

/-- The story of a session is what its entries say. -/
theorem storyOf_filterMap_reply? (es : List Entry) :
    storyOf session (es.filterMap Entry.reply?) =
      (es.filter (Entry.concerns session)).filterMap Entry.event? := by
  induction es with
  | nil => rfl
  | cons e es ih =>
    cases e with
    | asked r =>
      by_cases hstop : r = .stop session
      · simpa [Entry.concerns, hstop, List.filterMap_cons] using ih
      · simpa [Entry.concerns, hstop, List.filterMap_cons] using ih
    | said x =>
      rw [List.filterMap_cons_some (Entry.reply?_said x), ← List.singleton_append,
        storyOf_append, ih]
      by_cases hsession : x.session = session
      · by_cases hack : x.event = .stopAcknowledged
        · simp [storyOf, eventsFor, Entry.concerns, hsession, hack]
        · simp [storyOf, eventsFor, Entry.concerns, hsession, hack]
      · simp [storyOf, eventsFor, Entry.concerns, hsession]

end Story

/-! ### What an accepted request leaves behind -/

/-- The entries of a request and of the events it is answered with. -/
def exchangeEntries (r : Request) (events : List Event) : List Entry :=
  .asked r :: events.map fun e => .said ⟨r.session, e⟩

section Exchange

variable {r : Request} {events : List Event} {session : SessionId}

theorem filter_exchangeEntries_of_ne (h : r.session ≠ session) :
    (exchangeEntries r events).filter (Entry.concerns session) = [] := by
  have hasked : r ≠ .stop session := by
    rintro rfl
    exact h rfl
  simp [exchangeEntries, Entry.concerns, hasked, h]

/-- The entries of a scene that matter to its session. -/
theorem Scene.filter_exchangeEntries (scene : Scene) (hr : r ≠ .stop r.session) :
    (exchangeEntries r scene.events).filter (Entry.concerns r.session) =
      scene.events.map fun e => .said ⟨r.session, e⟩ := by
  rw [exchangeEntries, List.filter_cons_of_neg (by simpa [Entry.concerns] using hr),
    List.filter_eq_self]
  intro e he
  obtain ⟨event, hevent, rfl⟩ := List.mem_map.mp he
  simpa [Entry.concerns] using scene.ne_stopAcknowledged_of_mem hevent

theorem filterMap_reply?_exchangeEntries :
    (exchangeEntries r events).filterMap Entry.reply? = events.map (Reply.mk r.session) := by
  simp [exchangeEntries, List.filterMap_cons, Function.comp_def]

theorem filterMap_request?_exchangeEntries :
    (exchangeEntries r events).filterMap Entry.request? = [r] := by
  simp [exchangeEntries, Function.comp_def]

end Exchange

/-- The session that a reply acknowledges to have stopped. -/
def Reply.acknowledged? (x : Reply) : Option SessionId :=
  if x.event = .stopAcknowledged then some x.session else none

/-- The session that a request stops. -/
def Request.stopped? : Request → Option SessionId
  | .stop session => some session
  | _ => none

theorem Scene.filterMap_acknowledged? (scene : Scene) (session : SessionId) :
    (scene.events.map (Reply.mk session)).filterMap Reply.acknowledged? = [] := by
  rw [List.filterMap_map, List.filterMap_eq_nil_iff]
  intro e he
  exact if_neg (scene.ne_stopAcknowledged_of_mem he)

/-- A stop is acknowledged, and nothing else is. -/
theorem Storyteller.Serves.filterMap_acknowledged? {st : Storyteller} {r : Request}
    {events : List Event} {position : Option Nat} (h : st.Serves r events position) :
    (events.map (Reply.mk r.session)).filterMap Reply.acknowledged? =
      r.stopped?.toList := by
  cases h with
  | run content session => exact Scene.filterMap_acknowledged? _ _
  | stop session => rfl
  | ignore n session position => rfl
  | goOn n session position => exact Scene.filterMap_acknowledged? _ _

namespace Chronicle

/-! ### What is kept -/

/-- A chronicle tells what has happened, and the storyteller has a position for just the sessions
that await input. -/
structure Faithful (c : Chronicle) : Prop where
  requests : c.entries.filterMap Entry.request? = c.teller.received
  replies : c.entries.filterMap Entry.reply? = c.replies
  compiles : c.compiles.map (fun x => Request.run x.content x.session) =
    c.teller.received.filter Request.isRun
  acknowledged :
    c.replies.filterMap Reply.acknowledged? = c.teller.received.filterMap Request.stopped?
  position : ∀ session, (c.teller.position? session).isSome = true ↔ c.AwaitsInput session
  story : ∀ x ∈ c.compiles, IsStory x.diagnostics (storyOf x.session c.replies)
  unheard : ∀ session, session ∉ c.compiles.map Compiled.session → storyOf session c.replies = []

theorem faithful_start (script : Script) (complaints : List Diagnostic) :
    (start script complaints).Faithful where
  requests := rfl
  replies := rfl
  compiles := rfl
  acknowledged := rfl
  position session := by
    rw [awaitsInput_iff]
    show (none : Option Nat).isSome = true ↔ none = some _
    simp
  story x hx := absurd hx List.not_mem_nil
  unheard session h := rfl

namespace Faithful

variable {c : Chronicle} (h : c.Faithful)

include h

theorem storyOf_replies (session : SessionId) :
    storyOf session c.replies = (c.entriesOf session).filterMap Entry.event? := by
  rw [← h.replies, storyOf_filterMap_reply?, entriesOf]

/-- The story of a session that awaits input ends with a request for it. -/
theorem getLast?_storyOf {session : SessionId} (awaits : c.AwaitsInput session) :
    (storyOf session c.replies).getLast? = some .inputRequired := by
  obtain ⟨es, hes⟩ := List.getLast?_eq_some_iff.mp ((c.awaitsInput_iff session).mp awaits)
  rw [h.storyOf_replies, hes, List.filterMap_append]
  exact List.getLast?_concat

/-- A session that was not compiled is at no decision point. -/
theorem position_of_unheard {session : SessionId}
    (hsession : session ∉ c.compiles.map Compiled.session) :
    c.teller.position? session = none := by
  cases hposition : c.teller.position? session with
  | none => rfl
  | some index =>
    have hlast := h.getLast?_storyOf ((h.position session).mp (by rw [hposition]; rfl))
    rw [h.unheard session hsession] at hlast
    contradiction

end Faithful

/-- What becomes of a chronicle when a request is accepted and answered with some events. -/
structure Records (c : Chronicle) (r : Request) (events : List Event) (c' : Chronicle) : Prop where
  serves : c.teller.Serves r events (c'.teller.position? r.session)
  others : ∀ session, session ≠ r.session →
    c'.teller.position? session = c.teller.position? session
  received : c'.teller.received = c.teller.received ++ [r]
  replies : c'.replies = c.replies ++ events.map (Reply.mk r.session)
  entries : c'.entries = c.entries ++ exchangeEntries r events
  compiles : c'.compiles = c.compiles ++ (c.teller.compiled? r).toList

theorem records_send {c : Chronicle} (hopen : c.teller.closed = false) {r : Request}
    (hrun : r.isRun = true → c.teller.position? r.session = none) :
    ∃ events, c.Records r events (c.handle (.send r)) := by
  obtain ⟨events, hserves, houtput⟩ := Storyteller.serves_send hopen hrun
  have hsend := Storyteller.send_of_open hopen r
  have hresult : c.teller.send r = ((c.teller.send r).1, .ok ()) := by rw [hsend]
  have hhandle : c.handle (.send r) =
      { c with
        teller := (c.teller.send r).1
        entries := c.entries ++ .asked r ::
          ((c.teller.send r).1.output.drop c.teller.output.length).map .said
        compiles := c.compiles ++ (c.teller.compiled? r).toList } := by
    rw [handle, hresult]
  refine ⟨events, ?_⟩
  rw [hhandle]
  refine ⟨hserves, fun session => (c.teller.attends_send r).others session, ?_, ?_, ?_, rfl⟩
  · rw [hsend, Storyteller.received_answer]
  · rw [Chronicle.replies, houtput, ← List.append_assoc]
    rfl
  · rw [houtput, List.drop_left, List.map_map]
    rfl

namespace Records

variable {c c' : Chronicle} {r : Request} {events : List Event} (h : c.Records r events c')

include h

theorem entriesOf (session : SessionId) : c'.entriesOf session =
    c.entriesOf session ++ (exchangeEntries r events).filter (Entry.concerns session) := by
  rw [Chronicle.entriesOf, h.entries, List.filter_append]
  rfl

theorem awaitsInput_of_ne {session : SessionId} (hsession : session ≠ r.session) :
    c'.AwaitsInput session ↔ c.AwaitsInput session := by
  rw [awaitsInput_iff, awaitsInput_iff, h.entriesOf, filter_exchangeEntries_of_ne hsession.symm,
    List.append_nil]

/-- After a scene, the session awaits input if the scene has asked for it. -/
theorem awaitsInput_of_scene {scene : Scene} (hevents : events = scene.events)
    (hr : r ≠ .stop r.session) :
    c'.AwaitsInput r.session ↔ scene.halt.position?.isSome = true := by
  rw [awaitsInput_iff, h.entriesOf, hevents, scene.filter_exchangeEntries hr, List.getLast?_append,
    List.getLast?_map, scene.getLast?_events, ← scene.halt.last_eq_inputRequired_iff]
  simp

theorem storyOf_of_ne {session : SessionId} (hsession : session ≠ r.session) :
    storyOf session c'.replies = storyOf session c.replies := by
  rw [h.replies, storyOf_append, storyOf_map_of_ne hsession.symm, List.append_nil]

theorem storyOf_eq :
    storyOf r.session c'.replies =
      storyOf r.session c.replies ++ events.filter (· ≠ .stopAcknowledged) := by
  rw [h.replies, storyOf_append, storyOf_map]

theorem position_iff (hc : c.Faithful) (session : SessionId) :
    (c'.teller.position? session).isSome = true ↔ c'.AwaitsInput session := by
  by_cases hsession : session = r.session
  · have hserves := h.serves
    rw [hsession]
    generalize hposition : c'.teller.position? r.session = position at hserves
    cases hserves with
    | run content session => exact (h.awaitsInput_of_scene rfl (by simp)).symm
    | goOn n session earlier => exact (h.awaitsInput_of_scene rfl (by simp)).symm
    | stop session =>
      rw [awaitsInput_iff, h.entriesOf]
      simp [exchangeEntries, Entry.concerns, Request.session]
    | ignore n session earlier =>
      have hnowhere := hc.position session
      rw [earlier, awaitsInput_iff] at hnowhere
      rw [awaitsInput_iff, h.entriesOf]
      simpa [exchangeEntries, Entry.concerns, Request.session] using hnowhere
  · rw [h.others session hsession, h.awaitsInput_of_ne hsession]
    exact hc.position session

theorem mem_compiles {x : Compiled} (hx : x ∈ c'.compiles) :
    x ∈ c.compiles ∨ c.teller.compiled? r = some x := by
  rw [h.compiles, List.mem_append] at hx
  exact hx.imp_right Option.mem_toList.mp

theorem isStory (hc : c.Faithful)
    (fresh : r.isRun = true → r.session ∉ c.compiles.map Compiled.session) {x : Compiled}
    (hx : x ∈ c'.compiles) : IsStory x.diagnostics (storyOf x.session c'.replies) := by
  rcases h.mem_compiles hx with hold | hnew
  -- the session was compiled before, so the request does not run it
  · have hbefore := hc.story x hold
    by_cases hsession : x.session = r.session
    · have hserves := h.serves
      have hstory := h.storyOf_eq
      have hcompiled := List.mem_map_of_mem (f := Compiled.session) hold
      generalize c'.teller.position? r.session = position at hserves
      rw [hsession] at hbefore hcompiled ⊢
      rw [hstory]
      cases hserves with
      | run content session => exact absurd hcompiled (fresh rfl)
      | stop session => simpa using hbefore
      | ignore n session earlier => simpa using hbefore
      | goOn n session earlier =>
        have hawaits : c.AwaitsInput session := (hc.position session).mp (by rw [earlier]; rfl)
        rw [Scene.filter_events]
        exact .next hbefore (hc.getLast?_storyOf hawaits) (Script.isBlock_sceneAfter _ _ _)
    · rwa [h.storyOf_of_ne hsession]
  -- the session is compiled now
  · have hserves := h.serves
    have hstory := h.storyOf_eq
    generalize c'.teller.position? r.session = position at hserves
    cases hserves with
    | run content session =>
      rw [hc.unheard _ (fresh rfl), List.nil_append, Scene.filter_events] at hstory
      cases hnew
      rw [show storyOf session c'.replies = _ from hstory]
      exact (c.teller.source content).isStory_opening
    | stop session => contradiction
    | ignore n session earlier => contradiction
    | goOn n session earlier => contradiction

theorem storyOf_of_unheard (hc : c.Faithful) {session : SessionId}
    (hsession : session ∉ c'.compiles.map Compiled.session) :
    storyOf session c'.replies = [] := by
  rw [h.compiles, List.map_append, List.mem_append, not_or] at hsession
  by_cases hown : session = r.session
  · have hserves := h.serves
    generalize c'.teller.position? r.session = position at hserves
    rw [hown, h.storyOf_eq, hc.unheard _ (hown ▸ hsession.1), List.nil_append]
    cases hserves with
    | run content other => exact absurd (List.mem_singleton.mpr hown) hsession.2
    | stop other => rfl
    | ignore n other earlier => rfl
    | goOn n other earlier =>
      have hother : session = other := hown
      have hnowhere := hc.position_of_unheard (hother ▸ hsession.1)
      rw [earlier] at hnowhere
      contradiction
  · rw [h.storyOf_of_ne hown]
    exact hc.unheard session hsession.1

theorem faithful (hc : c.Faithful)
    (fresh : r.isRun = true → r.session ∉ c.compiles.map Compiled.session) : c'.Faithful where
  requests := by
    rw [h.entries, h.received, List.filterMap_append, hc.requests,
      filterMap_request?_exchangeEntries]
  replies := by
    rw [h.entries, h.replies, List.filterMap_append, hc.replies, filterMap_reply?_exchangeEntries]
  compiles := by
    rw [h.compiles, h.received, List.map_append, List.filter_append, hc.compiles]
    cases r <;> rfl
  acknowledged := by
    rw [h.replies, h.received, List.filterMap_append, List.filterMap_append, hc.acknowledged,
      h.serves.filterMap_acknowledged?]
    cases r <;> rfl
  position := h.position_iff hc
  story x hx := h.isStory hc fresh hx
  unheard session hsession := h.storyOf_of_unheard hc hsession

end Records

/-! ### Whatever is done with a storyteller -/

/-- Compiles are only added. -/
theorem exists_compiles_handle (c : Chronicle) (x : Handling) :
    ∃ added, (c.handle x).compiles = c.compiles ++ added := by
  cases x with
  | send r =>
    cases hsend : c.teller.send r with
    | mk teller result =>
      cases result with
      | ok => exact ⟨(c.teller.compiled? r).toList, by simp only [handle, hsend]⟩
      | error e => exact ⟨[], by simp only [handle, hsend, List.append_nil]⟩
  | take => exact ⟨[], (List.append_nil _).symm⟩
  | setScript script => exact ⟨[], (List.append_nil _).symm⟩
  | setComplaints complaints => exact ⟨[], (List.append_nil _).symm⟩
  | close => exact ⟨[], (List.append_nil _).symm⟩

namespace Faithful

variable {c : Chronicle} (h : c.Faithful)

include h

/-- What neither sends nor answers anything is not told. -/
theorem congr {c' : Chronicle} (hentries : c'.entries = c.entries)
    (hcompiles : c'.compiles = c.compiles) (hreplies : c'.replies = c.replies)
    (hreceived : c'.teller.received = c.teller.received)
    (hpositions : c'.teller.positions = c.teller.positions) : c'.Faithful where
  requests := by rw [hentries, hreceived, h.requests]
  replies := by rw [hentries, hreplies, h.replies]
  compiles := by rw [hcompiles, hreceived, h.compiles]
  acknowledged := by rw [hreplies, hreceived, h.acknowledged]
  position session := by
    rw [Storyteller.position?, hpositions, awaitsInput_iff, entriesOf, hentries, ← entriesOf,
      ← awaitsInput_iff]
    exact h.position session
  story x hx := by
    rw [hreplies]
    exact h.story x (hcompiles ▸ hx)
  unheard session hsession := by
    rw [hreplies]
    exact h.unheard session (hcompiles ▸ hsession)

/-- Everything that is done with a storyteller is told, as long as no session is run again. -/
theorem handle (x : Handling) (once : ((c.handle x).compiles.map Compiled.session).Nodup) :
    (c.handle x).Faithful := by
  cases x with
  | send r =>
    cases hopen : c.teller.closed with
    | true =>
      have hsend : c.teller.send r = (c.teller, .error .closed) := by
        rw [Storyteller.send, if_pos hopen]
      simpa only [Chronicle.handle, hsend] using h
    | false =>
      have hcompiles : (c.handle (.send r)).compiles =
          c.compiles ++ (c.teller.compiled? r).toList := by
        simp only [Chronicle.handle, Storyteller.send_of_open hopen]
      have fresh (hrun : r.isRun = true) : r.session ∉ c.compiles.map Compiled.session := by
        cases r with
        | run content session =>
          rw [hcompiles, List.map_append] at once
          exact fun hmem => (List.nodup_append.mp once).2.2 _ hmem _ List.mem_cons_self rfl
        | stop session => contradiction
        | continueWith n session => contradiction
      obtain ⟨events, hrecords⟩ :=
        records_send hopen fun hrun => h.position_of_unheard (fresh hrun)
      exact hrecords.faithful h fresh
  | take => exact h.congr rfl rfl (List.append_nil _) rfl rfl
  | setScript script => exact h.congr rfl rfl rfl rfl rfl
  | setComplaints complaints => exact h.congr rfl rfl rfl rfl rfl
  | close => exact h.congr rfl rfl rfl rfl rfl

/-- All that is done with a storyteller is told, if no session is run twice. -/
theorem handleAll (hs : List Handling)
    (once : ((c.handleAll hs).compiles.map Compiled.session).Nodup) :
    (c.handleAll hs).Faithful := by
  induction hs using List.reverseRecOn with
  | nil => exact h
  | append_singleton hs x ih =>
    have hlast : c.handleAll (hs ++ [x]) = (c.handleAll hs).handle x := by
      simp [Chronicle.handleAll]
    rw [hlast] at once ⊢
    obtain ⟨added, hadded⟩ := (c.handleAll hs).exists_compiles_handle x
    refine (ih ?_).handle x once
    rw [hadded, List.map_append] at once
    exact (List.nodup_append.mp once).1

/-- An open storyteller answers a choice just if the session awaits input, and only notes it
otherwise. -/
theorem send_continueWith (hopen : c.teller.closed = false) (n : Nat) (session : SessionId) :
    ((c.teller.send (.continueWith n session)).1.output ≠ c.teller.output ↔
        c.AwaitsInput session) ∧
      (¬ c.AwaitsInput session → (c.teller.send (.continueWith n session)).1 =
        { c.teller with received := c.teller.received ++ [.continueWith n session] }) := by
  have hiff := h.position session
  cases hposition : c.teller.position? session with
  | none =>
    have hsend := Storyteller.send_continueWith_of_nowhere hopen hposition n
    rw [hposition] at hiff
    exact ⟨by rw [hsend]; simpa using hiff, fun _ => hsend⟩
  | some index =>
    have hplays := c.teller.plays_send_continueWith session hopen hposition n
    have hevents : (c.teller.script.sceneAfter index n).events ≠ [] := by
      have hlast := (c.teller.script.sceneAfter index n).getLast?_events
      rintro hnil
      rw [hnil] at hlast
      contradiction
    have hawaits : c.AwaitsInput session := hiff.mp (by rw [hposition]; rfl)
    refine ⟨⟨fun _ => hawaits, fun _ => ?_⟩, fun hnot => absurd hawaits hnot⟩
    rw [hplays.output]
    simpa using hevents

end Faithful

end Chronicle

/-! ### The events of all sessions -/

/-- **The events of a storyteller follow a grammar.** Let a storyteller be sent requests, its output
be taken, its script and complaints be replaced, and let it be closed, in any order, so that no
session is run twice. The entries of the chronicle are the requests that it has received and all
replies that it has given. The events of a session that was compiled are a story, with the
complaints of that time and then one note for each line with a `TODO` as its diagnostics. A session
that was not compiled has no events, and a final event is the last one of its session. A choice is
answered just if its session awaits input, and otherwise it is only noted. Every stop is answered by
its acknowledgement, and the acknowledgements are those of the stops, in their order. -/
theorem events_follow_grammar (script : Script) (complaints : List Diagnostic)
    (hs : List Handling)
    (once : (((Chronicle.start script complaints).handleAll hs).compiles.map
      Compiled.session).Nodup) :
    let c := (Chronicle.start script complaints).handleAll hs
    (c.entries.filterMap Entry.request? = c.teller.received ∧
        c.entries.filterMap Entry.reply? = c.taken ++ c.teller.output ∧
        c.compiles.map (fun x => Request.run x.content x.session) =
          c.teller.received.filter Request.isRun) ∧
      (∀ x ∈ c.compiles,
        IsStory (x.complaints ++ todoNotes x.content) (storyOf x.session c.replies)) ∧
      (∀ content, (todoNotes content).map (fun x => (x.severity, x.line)) =
        ((Text.lines content.toList).zipIdx.filter fun p => ['T', 'O', 'D', 'O'] <:+: p.1).map
          fun p => (.todo, p.2 + 1)) ∧
      (∀ session, session ∉ c.compiles.map Compiled.session → storyOf session c.replies = []) ∧
      (∀ session es e es', storyOf session c.replies = es ++ e :: es' → e.isFinal = true →
        es' = []) ∧
      (c.teller.closed = false → ∀ n session,
        ((c.teller.send (.continueWith n session)).1.output ≠ c.teller.output ↔
            c.AwaitsInput session) ∧
          (¬ c.AwaitsInput session → (c.teller.send (.continueWith n session)).1 =
            { c.teller with received := c.teller.received ++ [.continueWith n session] })) ∧
      (c.teller.closed = false → ∀ session,
        (c.teller.send (.stop session)).1.output =
          c.teller.output ++ [⟨session, .stopAcknowledged⟩]) ∧
      c.replies.filterMap Reply.acknowledged? =
        c.teller.received.filterMap Request.stopped? := by
  intro c
  have h : c.Faithful := (Chronicle.faithful_start script complaints).handleAll hs once
  refine ⟨⟨h.requests, h.replies, h.compiles⟩, h.story, map_todoNotes, h.unheard, ?_,
    fun hopen => h.send_continueWith hopen, fun hopen session => ?_, h.acknowledged⟩
  · intro session es e es' hstory he
    by_cases hsession : session ∈ c.compiles.map Compiled.session
    · obtain ⟨x, hx, rfl⟩ := List.mem_map.mp hsession
      have hgrammar := h.story x hx
      rw [hstory] at hgrammar
      exact hgrammar.eq_nil_of_isFinal he
    · rw [h.unheard session hsession] at hstory
      simp at hstory
  · rw [Storyteller.send_of_open hopen]
    rfl

/-- The script is replaced by an empty one while a session is at its first decision point. -/
theorem events_follow_grammar_of_replaced_script :
    let hs : List Handling := [.send (.run "TODO: an ending" 1), .take, .send (.run "" 2),
      .send (.stop 2), .setScript {}, .send (.continueWith 1 2), .send (.continueWith 1 1)]
    let c := (Chronicle.start .crossroads []).handleAll hs
    (c.compiles.map Compiled.session).Nodup ∧ IsStory [⟨.todo, 1, "an ending"⟩] [
      .diagnostic ⟨.todo, 1, "an ending"⟩,
      .text "The lamp gutters as you reach the crossroads.",
      .choice ⟨1, "Take the forest path"⟩, .choice ⟨2, "Follow the river"⟩, .inputRequired,
      .diagnostic ⟨.runtimeError, 1, "Choice 1 is out of range"⟩, .unexpectedExit] := by
  intro hs c
  have once : (c.compiles.map Compiled.session).Nodup := by decide +kernel
  have hx : ⟨1, [], "TODO: an ending"⟩ ∈ c.compiles := by decide +kernel
  have hnotes : ([] : List Diagnostic) ++ todoNotes "TODO: an ending" =
      [⟨.todo, 1, "an ending"⟩] := by decide +kernel
  have hgrammar := (events_follow_grammar .crossroads [] hs once).2.1 _ hx
  have hstory : storyOf 1 c.replies = [
      .diagnostic ⟨.todo, 1, "an ending"⟩,
      .text "The lamp gutters as you reach the crossroads.",
      .choice ⟨1, "Take the forest path"⟩, .choice ⟨2, "Follow the river"⟩, .inputRequired,
      .diagnostic ⟨.runtimeError, 1, "Choice 1 is out of range"⟩, .unexpectedExit] := by
    decide +kernel
  rw [hnotes] at hgrammar
  exact ⟨once, hstory ▸ hgrammar⟩

end Playthrough
