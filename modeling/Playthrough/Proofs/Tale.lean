import Playthrough.Director
import Playthrough.Interpreter.Storyteller

/-!
# The tale of a script

What a session hears of a scripted story depends only on the script, the complaints of the compiler,
the content, and the choices that are taken. The story goes on in *scenes*. A scene has some
remarks, and then either stands still at a decision point or is over. The scene behind a choice is
known from the decision point and the choice.

A *telling* follows a list of choices from the first scene on, as far as the story lasts. It takes
all of them exactly if it still stands at a decision point, or ends with the last of them.

## Main definitions

* `Remark`, `Halt`, `Scene` — what a story says, where it stands then, and both together.
* `Script.scene`, `Script.sceneAfter` — the scene of a passage, and the one behind a choice.
* `Source`, `Source.opening` — what a session is compiled from, and its first scene.
* `Telling`, `Source.telling` — the scenes along a list of choices.
* `eventsFor` — the events of a session among some replies.

## Main results

* `Storyteller.plays_takeChoice`, `Storyteller.plays_compile` — a storyteller plays these scenes.
* `Script.goOn_append` — a telling that stands at a decision point goes on with one more choice.
-/

namespace Playthrough

/-! ### Scenes -/

/-- What a story says without waiting for anyone. -/
inductive Remark where
  | text (text : String)
  | diagnostic (diagnostic : Diagnostic)

namespace Remark

/-- The event of a remark. -/
def event : Remark → Event
  | .text t => .text t
  | .diagnostic x => .diagnostic x

/-- The text of a remark. -/
def text? : Remark → Option String
  | .text t => some t
  | .diagnostic _ => none

/-- The diagnostic of a remark. -/
def diagnostic? : Remark → Option Diagnostic
  | .text _ => none
  | .diagnostic x => some x

end Remark

/-- The phase of a session whose story has ended. -/
def Ending.phase : Ending → Phase
  | .complete => .completed
  | .crash => .failed

/-- Where a story stands after a scene. -/
inductive Halt where
  /-- It is at the decision point of a passage, which offers some choices. -/
  | point (index : Nat) (choices : List Choice) (offered : choices ≠ [])
  | ended (ending : Ending)

namespace Halt

/-- The passage at whose decision point the story stands. -/
def position? : Halt → Option Nat
  | .point index _ _ => some index
  | .ended _ => none

/-- The choices that may be selected. -/
def choices : Halt → List Choice
  | .point _ choices _ => choices
  | .ended _ => []

/-- The phase of the session. -/
def phase : Halt → Phase
  | .point _ _ _ => .running
  | .ended ending => ending.phase

/-- The events that say where the story stands. -/
def events : Halt → List Event
  | .point _ choices _ => choices.map .choice ++ [.inputRequired]
  | .ended ending => [ending.event]

end Halt

/-- What a story says up to the next decision point or its end. -/
structure Scene where
  remarks : List Remark
  halt : Halt

namespace Scene

/-- The output of a scene. -/
def events (scene : Scene) : List Event :=
  scene.remarks.map Remark.event ++ scene.halt.events

/-- The scene of a failure. -/
def crash (message : String) : Scene :=
  ⟨[.diagnostic ⟨.runtimeError, 1, message⟩], .ended .crash⟩

end Scene

theorem Passage.choices_ne_nil {p : Passage} (h : p.branches ≠ []) : p.choices ≠ [] := by
  rw [choices, ← List.length_pos_iff, List.length_mapIdx]
  exact List.length_pos_iff.mpr h

/-- The scene of a passage with an index. -/
def Passage.scene (p : Passage) (index : Nat) : Scene where
  remarks := p.texts.map .text ++ p.diagnostics.map .diagnostic
  halt :=
    if h : p.branches = [] then .ended p.ending else .point index p.choices (p.choices_ne_nil h)

namespace Script

variable (s : Script)

/-- The scene of the passage with an index. -/
def scene (index : Nat) : Scene :=
  match s.passages[index]? with
  | none => .crash s!"Missing passage {index}"
  | some p => p.scene index

/-- The scene behind a choice at the decision point of a passage. -/
def sceneAfter (index n : Nat) : Scene :=
  match s.passages[index]?.bind (·.branch? n) with
  | some branch => s.scene branch.target
  | none => .crash s!"Choice {n} is out of range"

end Script

/-- A decision point is one of a script: it offers the choices of its passage. -/
def Halt.IsOf (s : Script) : Halt → Prop
  | .point index choices _ => ∃ p, s.passages[index]? = some p ∧ choices = p.choices
  | .ended _ => True

namespace Script

variable (s : Script)

theorem isOf_scene (index : Nat) : (s.scene index).halt.IsOf s := by
  cases hpassage : s.passages[index]? with
  | none =>
    rw [scene, hpassage]
    trivial
  | some p =>
    rw [scene, hpassage]
    by_cases h : p.branches = []
    · simp [Passage.scene, h, Halt.IsOf]
    · simp only [Passage.scene, h, dite_false]
      exact ⟨p, hpassage, rfl⟩

theorem isOf_sceneAfter (index n : Nat) : (s.sceneAfter index n).halt.IsOf s := by
  cases hbranch : s.passages[index]?.bind (·.branch? n) with
  | none =>
    rw [sceneAfter, hbranch]
    trivial
  | some branch =>
    rw [sceneAfter, hbranch]
    exact s.isOf_scene branch.target

end Script

/-- The choice with a number takes the branch with its text. -/
theorem Passage.branch?_of_mem_choices {p : Passage} {c : Choice} (h : c ∈ p.choices) :
    ∃ b, p.branch? c.number = some b ∧ b.text = c.text := by
  obtain ⟨i, hi, hc⟩ := List.getElem_of_mem h
  have hlength : i < p.branches.length := by simpa [choices] using hi
  refine ⟨p.branches[i], ?_, ?_⟩
  · rw [← hc]
    simp [branch?, choices, hlength]
  · rw [← hc]
    simp [choices]

/-! ### Tellings -/

/-- What a session is compiled from. -/
structure Source where
  script : Script
  complaints : List Diagnostic
  content : String

/-- All that was said of a story, the choices that were taken, and where it stands. -/
structure Telling where
  remarks : List Remark
  choices : List Nat
  halt : Halt

/-- The telling from where a story stands along some choices, as far as it lasts. -/
def Script.goOn (s : Script) : Halt → List Nat → Telling
  | halt, [] => ⟨[], [], halt⟩
  | .ended ending, _ :: _ => ⟨[], [], .ended ending⟩
  | .point index _ _, n :: ns =>
    let scene := s.sceneAfter index n
    let rest := s.goOn scene.halt ns
    ⟨scene.remarks ++ rest.remarks, n :: rest.choices, rest.halt⟩

namespace Source

variable (source : Source)

/-- The complaints of a compile. -/
def diagnostics : List Diagnostic :=
  source.complaints ++ todoNotes source.content

/-- The first scene of a session. -/
def opening : Scene :=
  if source.diagnostics.any fun x => x.severity = .error then
    ⟨source.diagnostics.map .diagnostic, .ended .crash⟩
  else
    ⟨source.diagnostics.map .diagnostic ++ (source.script.scene 0).remarks,
      (source.script.scene 0).halt⟩

/-- The telling along some choices from the beginning. -/
def telling (ns : List Nat) : Telling :=
  let rest := source.script.goOn source.opening.halt ns
  ⟨source.opening.remarks ++ rest.remarks, rest.choices, rest.halt⟩

theorem isOf_opening : source.opening.halt.IsOf source.script := by
  rw [opening]
  split
  · trivial
  · exact source.script.isOf_scene 0

end Source

namespace Script

variable {s : Script} {halt : Halt} {ns : List Nat} {index : Nat} {cs : List Choice}
  {offered : cs ≠ []}

@[simp] theorem goOn_ended (ending : Ending) :
    s.goOn (.ended ending) ns = ⟨[], [], .ended ending⟩ := by
  cases ns <;> rfl

@[simp] theorem goOn_nil : s.goOn halt [] = ⟨[], [], halt⟩ := by
  rw [goOn]

/-- A story that stands at a decision point has taken all choices. -/
theorem choices_goOn (h : (s.goOn halt ns).halt = .point index cs offered) :
    (s.goOn halt ns).choices = ns := by
  induction ns generalizing halt with
  | nil => rw [goOn]
  | cons n ns ih =>
    cases halt with
    | ended ending => simp [goOn] at h
    | point i cs' offered' =>
      rw [goOn] at h ⊢
      exact congrArg (n :: ·) (ih h)

/-- A telling that stands at a decision point goes on with one more choice. -/
theorem goOn_append (h : (s.goOn halt ns).halt = .point index cs offered) (n : Nat) :
    s.goOn halt (ns ++ [n]) =
      ⟨(s.goOn halt ns).remarks ++ (s.sceneAfter index n).remarks, ns ++ [n],
        (s.sceneAfter index n).halt⟩ := by
  induction ns generalizing halt with
  | nil =>
    rw [goOn] at h
    simp only at h
    subst h
    simp [goOn]
  | cons m ns ih =>
    cases halt with
    | ended ending => simp [goOn] at h
    | point i cs' offered' =>
      rw [goOn] at h
      rw [List.cons_append, goOn, ih h, goOn, List.append_assoc]

/-- Where a telling stands is a decision point of its script, or the end. -/
theorem isOf_goOn (h : halt.IsOf s) (ns : List Nat) : (s.goOn halt ns).halt.IsOf s := by
  induction ns generalizing halt with
  | nil => simpa using h
  | cons n ns ih =>
    cases halt with
    | ended ending => trivial
    | point index cs offered =>
      rw [goOn]
      exact ih (s.isOf_sceneAfter index n)

end Script

theorem Source.isOf_telling (source : Source) (ns : List Nat) :
    (source.telling ns).halt.IsOf source.script :=
  Script.isOf_goOn source.isOf_opening ns

theorem Source.telling_append {source : Source} {ns : List Nat} {index : Nat} {cs : List Choice}
    {offered : cs ≠ []} (h : (source.telling ns).halt = .point index cs offered) (n : Nat) :
    source.telling (ns ++ [n]) =
      ⟨(source.telling ns).remarks ++ (source.script.sceneAfter index n).remarks, ns ++ [n],
        (source.script.sceneAfter index n).halt⟩ := by
  simp only [telling, Script.goOn_append h, List.append_assoc]

/-! ### A storyteller plays the scenes -/

namespace Storyteller

section Positions

variable (st : Storyteller) (session other : SessionId)

theorem lookup_filter_ne (ps : List (SessionId × Nat)) :
    (ps.filter fun p => p.1 ≠ session).lookup other =
      if other = session then none else ps.lookup other := by
  induction ps with
  | nil => simp
  | cons p ps ih =>
    obtain ⟨k, i⟩ := p
    by_cases hk : k = session
    · rw [List.filter_cons_of_neg (by simpa using hk), ih, List.lookup_cons, hk]
      by_cases hother : other = session
      · simp [hother]
      · have hne : (other == session) = false := by simpa using hother
        simp [hother, hne]
    · rw [List.filter_cons_of_pos (by simpa using hk), List.lookup_cons, ih, List.lookup_cons]
      by_cases hother : other = session
      · have hne : (session == k) = false := by simpa using Ne.symm hk
        simp [hother, hne]
      · simp [hother]

@[simp] theorem position?_leave :
    (st.leave session).position? other =
      if other = session then none else st.position? other :=
  lookup_filter_ne session other st.positions

@[simp] theorem position?_wait (index : Nat) :
    (st.wait session index).position? other =
      if other = session then some index else st.position? other := by
  by_cases hother : other = session
  · simp [wait, position?, hother]
  · have hne : (other == session) = false := by simpa using hother
    have hleave := position?_leave st session other
    rw [if_neg hother, ← hleave.trans (if_neg hother)]
    simp [wait, position?, List.lookup_cons, hne]

@[simp] theorem position?_say (events : List Event) :
    (st.say session events).position? other = st.position? other := rfl

end Positions

/-! ### A storyteller plays the scenes -/

variable (st : Storyteller) (session : SessionId)

/-- A storyteller attends to a session: whatever it does for it, other sessions stay where they are,
and so do the script and the complaints. -/
structure Attends (st st' : Storyteller) : Prop where
  others : ∀ other, other ≠ session → st'.position? other = st.position? other
  script : st'.script = st.script
  complaints : st'.complaints = st.complaints
  closed : st'.closed = st.closed

/-- A storyteller plays a scene of a session: it says what the scene says, and knows where the
session stands then. -/
structure Plays (scene : Scene) (st st' : Storyteller) : Prop extends Attends session st st' where
  output : st'.output = st.output ++ scene.events.map (⟨session, ·⟩)
  position : st'.position? session = scene.halt.position?

/-- The session stands where a scene left it. -/
def stand : Halt → Storyteller
  | .point index _ _ => st.wait session index
  | .ended _ => st.leave session

theorem attends_leave : Attends session st (st.leave session) :=
  ⟨fun other h => by simp [h], rfl, rfl, rfl⟩

theorem attends_stand (halt : Halt) : Attends session st (st.stand session halt) := by
  cases halt with
  | point index cs offered => exact ⟨fun other h => by simp [stand, h], rfl, rfl, rfl⟩
  | ended ending => exact st.attends_leave session

theorem plays_stand (scene : Scene) :
    Plays session scene st ((st.stand session scene.halt).say session scene.events) := by
  obtain ⟨others, script, complaints, closed⟩ := st.attends_stand session scene.halt
  refine ⟨⟨others, script, complaints, closed⟩, ?_, ?_⟩
  · cases scene.halt <;> rfl
  · cases hhalt : scene.halt <;> simp [stand, Halt.position?]

theorem events_scene (p : Passage) (index : Nat) : (p.scene index).events = p.events := by
  by_cases h : p.branches = []
  · simp [Scene.events, Passage.scene, Passage.events, Passage.closing, Halt.events, h,
      Function.comp_def, Remark.event]
  · simp [Scene.events, Passage.scene, Passage.events, Passage.closing, Halt.events, h,
      Function.comp_def, Remark.event]

theorem plays_play (index : Nat) :
    Plays session (st.script.scene index) st (st.play session index) := by
  cases hpassage : st.script.passages[index]? with
  | none =>
    rw [play, Script.scene, hpassage]
    exact st.plays_stand session (.crash _)
  | some p =>
    have hplays := st.plays_stand session (p.scene index)
    rw [play, Script.scene, hpassage]
    rw [events_scene] at hplays
    by_cases h : p.branches = []
    · simpa [h, Passage.scene, stand] using hplays
    · simpa [h, Passage.scene, stand] using hplays

/-- At a decision point, a storyteller plays the scene behind the choice. -/
theorem plays_takeChoice {index : Nat} (h : st.position? session = some index) (n : Nat) :
    Plays session (st.script.sceneAfter index n) st (st.takeChoice session n) := by
  cases hbranch : st.script.passages[index]?.bind (·.branch? n) with
  | none =>
    simp only [takeChoice, h, Script.sceneAfter, hbranch]
    exact st.plays_stand session (.crash _)
  | some branch =>
    simp only [takeChoice, h, Script.sceneAfter, hbranch]
    exact st.plays_play session branch.target

/-- The source of a session, if a storyteller compiles some content. -/
def source (content : String) : Source :=
  ⟨st.script, st.complaints, content⟩

/-- Attending to a session leaves the source of every session as it is. -/
theorem Attends.source_eq {session : SessionId} {st st' : Storyteller}
    (h : Attends session st st') (content : String) :
    st'.source content = st.source content := by
  rw [source, h.script, h.complaints, source]

/-- A session that has not been heard of begins with the first scene of its source. -/
theorem plays_compile (content : String) (h : st.position? session = none) :
    Plays session (st.source content).opening st (st.compile session content) := by
  have hdiagnostics : (st.source content).diagnostics = st.diagnosticsOf content := rfl
  have hevents (xs : List Diagnostic) :
      (xs.map Remark.diagnostic).map Remark.event = xs.map Event.diagnostic := by
    rw [List.map_map]
    rfl
  by_cases herror : (st.diagnosticsOf content).any fun x => x.severity = .error
  · rw [compile, if_pos herror, Source.opening, hdiagnostics, if_pos herror]
    refine ⟨⟨fun other _ => rfl, rfl, rfl, rfl⟩, ?_, h⟩
    rw [Scene.events, hevents]
    simp [say, Halt.events, Ending.event]
  · let noted := st.say session ((st.diagnosticsOf content).map .diagnostic)
    have hplays : Plays session (st.script.scene 0) noted (noted.play session 0) :=
      noted.plays_play session 0
    rw [compile, if_neg herror, Source.opening, hdiagnostics, if_neg herror]
    refine ⟨⟨hplays.others, hplays.script, hplays.complaints, hplays.closed⟩, ?_, hplays.position⟩
    refine hplays.output.trans ?_
    simp only [noted, say, Scene.events, source, List.map_append, hevents, List.append_assoc]

/-! ### Requests -/

theorem attends_compile (content : String) :
    Attends session st (st.compile session content) := by
  unfold compile
  dsimp only
  split
  · exact ⟨fun other _ => rfl, rfl, rfl, rfl⟩
  · obtain ⟨others, script, complaints, closed⟩ :=
      (st.say session ((st.diagnosticsOf content).map .diagnostic)).plays_play session 0
        |>.toAttends
    exact ⟨others, script, complaints, closed⟩

theorem attends_takeChoice (n : Nat) : Attends session st (st.takeChoice session n) := by
  cases h : st.position? session with
  | none =>
    rw [takeChoice, h]
    exact ⟨fun other _ => rfl, rfl, rfl, rfl⟩
  | some index => exact (st.plays_takeChoice session h n).toAttends

/-- A request is attended to for its own session only. -/
theorem attends_send (r : Request) : Attends r.session st (st.send r).1 := by
  unfold send
  split
  · exact ⟨fun other _ => rfl, rfl, rfl, rfl⟩
  · let noted : Storyteller := { st with received := st.received ++ [r] }
    suffices h : Attends r.session noted (noted.answer r) from
      ⟨h.others, h.script, h.complaints, h.closed⟩
    cases r with
    | run content session => exact noted.attends_compile session content
    | stop session =>
      obtain ⟨others, script, complaints, closed⟩ := noted.attends_leave session
      exact ⟨others, script, complaints, closed⟩
    | continueWith n session => exact noted.attends_takeChoice session n

theorem output_compile (content : String) : ∃ events : List Event,
    (st.compile session content).output = st.output ++ events.map (Reply.mk session) := by
  let noted := st.say session ((st.diagnosticsOf content).map .diagnostic)
  obtain ⟨events, hevents⟩ : ∃ events : List Event,
      (st.compile session content).output = noted.output ++ events.map (Reply.mk session) := by
    unfold compile
    dsimp only
    split
    · exact ⟨[.unexpectedExit], rfl⟩
    · exact ⟨_, (noted.plays_play session 0).output⟩
  refine ⟨(st.diagnosticsOf content).map .diagnostic ++ events, ?_⟩
  rw [hevents, List.map_append, ← List.append_assoc]
  rfl

theorem output_takeChoice (n : Nat) : ∃ events : List Event,
    (st.takeChoice session n).output = st.output ++ events.map (Reply.mk session) := by
  cases h : st.position? session with
  | none =>
    rw [takeChoice, h]
    exact ⟨[], (List.append_nil _).symm⟩
  | some index => exact ⟨_, (st.plays_takeChoice session h n).output⟩

/-- What a storyteller says to a request is for the session of the request. -/
theorem output_send (r : Request) : ∃ events : List Event,
    (st.send r).1.output = st.output ++ events.map (Reply.mk r.session) := by
  unfold send
  split
  · exact ⟨[], (List.append_nil _).symm⟩
  · let noted : Storyteller := { st with received := st.received ++ [r] }
    cases r with
    | run content session => exact noted.output_compile session content
    | stop session => exact ⟨[.stopAcknowledged], rfl⟩
    | continueWith n session => exact noted.output_takeChoice session n

/-- An open storyteller goes on with the scene behind a choice. -/
theorem plays_send_continueWith (hopen : st.closed = false) {index : Nat}
    (h : st.position? session = some index) (n : Nat) :
    Plays session (st.script.sceneAfter index n) st (st.send (.continueWith n session)).1 := by
  let noted : Storyteller := { st with received := st.received ++ [.continueWith n session] }
  have hsend : (st.send (.continueWith n session)).1 = noted.takeChoice session n := by
    rw [send, if_neg (by simp [hopen])]
    rfl
  obtain ⟨⟨others, script, complaints, closed⟩, output, position⟩ :=
    noted.plays_takeChoice session h n
  rw [hsend]
  exact ⟨⟨others, script, complaints, closed⟩, output, position⟩

/-- An open storyteller begins a session with the first scene. -/
theorem plays_send_run (hopen : st.closed = false) (content : String)
    (h : st.position? session = none) :
    Plays session (st.source content).opening st (st.send (.run content session)).1 := by
  let noted : Storyteller := { st with received := st.received ++ [.run content session] }
  have hsend : (st.send (.run content session)).1 = noted.compile session content := by
    rw [send, if_neg (by simp [hopen])]
    rfl
  obtain ⟨⟨others, script, complaints, closed⟩, output, position⟩ :=
    noted.plays_compile session content h
  rw [hsend]
  exact ⟨⟨others, script, complaints, closed⟩, output, position⟩

end Storyteller

/-! ### The events of a session -/

/-- The events of a session among some replies. -/
def eventsFor (session : SessionId) (xs : List Reply) : List Event :=
  (xs.filter fun x => x.session = session).map Reply.event

section

variable {session : SessionId}

@[simp] theorem eventsFor_append (xs ys : List Reply) :
    eventsFor session (xs ++ ys) = eventsFor session xs ++ eventsFor session ys := by
  simp [eventsFor]

@[simp] theorem eventsFor_map (es : List Event) :
    eventsFor session (es.map (Reply.mk session)) = es := by
  induction es with
  | nil => rfl
  | cons e es ih => simpa [eventsFor] using ih

theorem eventsFor_eq_nil {xs : List Reply} (h : ∀ x ∈ xs, x.session ≠ session) :
    eventsFor session xs = [] := by
  simpa [eventsFor] using h

theorem eventsFor_cons_of_ne {x : Reply} (h : x.session ≠ session) (xs : List Reply) :
    eventsFor session (x :: xs) = eventsFor session xs := by
  simp [eventsFor, h]

theorem eventsFor_cons (e : Event) (xs : List Reply) :
    eventsFor session (⟨session, e⟩ :: xs) = e :: eventsFor session xs := by
  simp [eventsFor]

end

end Playthrough
