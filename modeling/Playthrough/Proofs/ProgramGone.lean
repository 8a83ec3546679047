import Mathlib.Data.List.Basic
import Mathlib.Logic.Relation
import Playthrough.Interpreter.Link
import Playthrough.Proofs.Backstage

/-!
# When the program goes away

An interpreter that is a program of its own may go away at any time. The reader notices when the
output of the program ends, and the writer when it cannot pass on a request. These two tasks, the
director and the delivery of replies take their steps in any order. Still no session is left waiting
for a program that is gone: when all replies have been delivered, the session has ended, and no
session that is started later gets to run.

What the reader reports is the end of the last session that the link accepted; what the writer
reports are the ends of the sessions of the requests that were lost. That these are the current
session takes an invariant: as long as the link accepts requests, the last one that waits to be
written is of the current session and not a request to stop it, and the last session accepted is the
current one if that is running.

## Main definitions

* `Wired` — a front end whose requests go over a link to a program.
* `Production` — a play on such a front end, and whether the two tasks have ended.
* `Link.Answers` — the invariant.
* `Production.Tick` — a step of the director, of a task, or of the delivery.

## Main results

* `Production.Tick.answers` — the invariant of every step.
* `Production.not_running_of_gone` — no session is left running when the program is gone.
-/

namespace Playthrough

/-! ### The link -/

/-- A front end whose requests go over a link to a program. -/
structure Wired (F : Type) where
  surfaces : F
  link : Link := {}

instance {F : Type} [Frontend F] : Frontend (Wired F) where
  content w := Frontend.content w.surfaces
  tokens w := Frontend.tokens w.surfaces
  windowWidth w := Frontend.windowWidth w.surfaces
  listWidth w := Frontend.listWidth w.surfaces
  cue q w := { w with surfaces := Frontend.cue q w.surfaces }
  mark rows style w :=
    let (surfaces, m) := Frontend.mark rows style w.surfaces
    ({ w with surfaces }, m)
  send r w :=
    let (link, result) := w.link.send r
    ({ w with link }, result)

theorem Wired.served_link {F : Type} [Frontend F] :
    Frontend.Served (F := Wired F) Wired.link fun l r => (l.send r).1 :=
  ⟨fun _ _ => rfl, fun _ _ _ => rfl, fun _ _ => rfl⟩

namespace Link

variable {l : Link} {r : Request}

/-- A link that is closed refuses every request, and stays as it is. -/
theorem send_of_exited (h : l.exited = true) (r : Request) : l.send r = (l, .error .closed) := by
  rw [send, if_pos h]

/-- An open link accepts every request. -/
theorem foldl_send_of_open (h : l.exited = false) (rs : List Request) :
    rs.foldl (fun l r => (l.send r).1) l =
      { l with lastRun := rs.foldl runAfter l.lastRun, queue := l.queue ++ rs } := by
  induction rs generalizing l with
  | nil => simp
  | cons r rs ih =>
    have hsend : (l.send r).1 =
        { l with lastRun := runAfter l.lastRun r, queue := l.queue ++ [r] } := by
      rw [send, if_neg (by simp [h])]
    rw [List.foldl_cons, hsend]
    refine (ih ?_).trans ?_
    · exact h
    · simp

/-- The last request in the queue is one whose loss ends the session. -/
def EndsWith (l : Link) (session : SessionId) : Prop :=
  ∃ earlier r, l.queue = earlier ++ [r] ∧ lostReply? r = some (exitReply session)

/-- The link answers for the session of a play. While it is open, both tasks would report the end of
the session; when it is closed, that end has been reported. -/
structure Answers (l : Link) (s : PlayState) : Prop where
  lastRun : l.exited = false → s.phase = .running → l.lastRun = s.session ∧ s.session ≠ 0
  queue : l.exited = false → l.queue ≠ [] → l.EndsWith s.session
  reported : l.exited = true → s.phase = .running → exitReply s.session ∈ l.replies

namespace Answers

variable {s : PlayState}

theorem of_exited (hexited : l.exited = true)
    (h : s.phase = .running → exitReply s.session ∈ l.replies) : l.Answers s :=
  ⟨fun hopen => absurd (hexited.symm.trans hopen) (by simp),
    fun hopen => absurd (hexited.symm.trans hopen) (by simp), fun _ => h⟩

theorem of_open (hopen : l.exited = false)
    (hlast : s.phase = .running → l.lastRun = s.session ∧ s.session ≠ 0)
    (hqueue : l.queue ≠ [] → l.EndsWith s.session) : l.Answers s :=
  ⟨fun _ => hlast, fun _ => hqueue, fun hexited => absurd (hopen.symm.trans hexited) (by simp)⟩

theorem writeNext (h : l.Answers s) : l.writeNext.Answers s := by
  cases hqueue : l.queue with
  | nil =>
    rw [Link.writeNext, hqueue]
    exact h
  | cons r queue =>
    rw [Link.writeNext, hqueue]
    refine ⟨h.lastRun, fun hopen hwaiting => ?_, h.reported⟩
    obtain ⟨earlier, last, hends, hlost⟩ := h.queue hopen (by simp [hqueue])
    rw [hqueue] at hends
    rcases List.append_eq_cons_iff.mp hends.symm with ⟨-, hnone⟩ | ⟨earlier', -, hqueue'⟩
    · simp at hnone
      exact absurd hnone.2 hwaiting
    · exact ⟨earlier', last, hqueue', hlost⟩

/-- When a request cannot be written, the end of the session is reported: the last request that is
lost is one of it. -/
theorem failWrite (h : l.Answers s) (hwaiting : l.queue ≠ []) : l.failWrite.Answers s := by
  have hfail : l.failWrite =
      { l with
        exited := true, queue := [], replies := l.replies ++ l.queue.filterMap lostReply? } := by
    cases hqueue : l.queue with
    | nil => contradiction
    | cons r queue => rw [Link.failWrite, hqueue]
  rw [hfail]
  refine of_exited rfl fun hrunning => ?_
  cases hexited : l.exited with
  | true => exact List.mem_append_left _ (h.reported hexited hrunning)
  | false =>
    obtain ⟨earlier, last, hends, hlost⟩ := h.queue hexited hwaiting
    refine List.mem_append_right _ (List.mem_filterMap.mpr ⟨last, ?_, hlost⟩)
    rw [hends]
    exact List.mem_append_right _ List.mem_cons_self

theorem readLine (h : l.Answers s) (line : String) : (l.readLine line).Answers s :=
  ⟨h.lastRun, h.queue, fun hexited hrunning =>
    List.mem_append_left _ (h.reported hexited hrunning)⟩

/-- When the output of the program ends, the end of the session is reported: it is the last one that
was accepted. -/
theorem endOutput (h : l.Answers s) : l.endOutput.Answers s := by
  refine of_exited rfl fun hrunning => ?_
  cases hexited : l.exited with
  | true => exact List.mem_append_left _ (h.reported hexited hrunning)
  | false =>
    obtain ⟨hlast, hsession⟩ := h.lastRun hexited hrunning
    refine List.mem_append_right _ ?_
    rw [hlast, if_neg hsession]
    exact List.mem_cons_self

end Answers

end Link

/-! ### Plays with a program -/

/-- A play whose interpreter is a program, and whether the tasks that serve the link have ended. -/
structure Production (F : Type) where
  director : Director (Recorder (Wired F))
  writerDone : Bool := false
  readerDone : Bool := false

namespace Production

variable {F : Type}

/-- The link to the program. -/
def link (p : Production F) : Link :=
  p.director.front.front.link

/-- The state of the play. -/
def state (p : Production F) : PlayState :=
  p.director.state

/-- Change the link. -/
def modifyLink (p : Production F) (f : Link → Link) : Production F :=
  { p with director := { p.director with front := { p.director.front with
      front := { p.director.front.front with link := f p.link } } } }

/-- Change what the play is shown on. -/
def modifySurfaces (p : Production F) (f : F → F) : Production F :=
  { p with director := { p.director with front := { p.director.front with
      front := { p.director.front.front with surfaces := f p.director.front.front.surfaces } } } }

/-- A play that has not begun, with a program that was just started. -/
def opening (surfaces : F) : Production F where
  director := .opening { surfaces }

/-- Whether the output of the program has ended or a request could not be written. -/
def IsGone (p : Production F) : Prop :=
  p.readerDone = true ∨ p.writerDone = true

variable [Frontend F]

/-- A play after something happened to its director. -/
def happen (p : Production F) (h : Happening (Wired F)) : Production F :=
  { p with director := (p.director.happen h).1 }

variable {p p' : Production F} {h : Happening (Wired F)}

/-! ### Orders and replies -/

/-- An order or a reply changes the link by its requests alone. -/
theorem link_happen (hkept : ∀ P, Frontend.Kept P → P p.director.front →
      P (p.director.happen h).1.front) :
    (p.happen h).link =
      (requests (p.director.turn h).calls).foldl (fun l r => (l.send r).1) p.link :=
  Wired.served_link.part_of_kept (p.director.calls_happen h) hkept

/-- On a closed link, an order or a reply leaves the link as it is. -/
theorem link_happen_of_exited (hexited : p.link.exited = true)
    (hkept : ∀ P, Frontend.Kept P → P p.director.front → P (p.director.happen h).1.front) :
    (p.happen h).link = p.link :=
  (link_happen hkept).trans
    (List.foldl_fixed' (fun r => by rw [Link.send_of_exited hexited]) _)

/-- The first reply is taken off the link and received. -/
def deliver (p : Production F) (r : Reply) (rest : List Reply) : Production F :=
  (p.modifyLink fun l => { l with replies := rest }).happen (.reply r)

theorem link_order_of_exited (hexited : p.link.exited = true) (o : Order) :
    (p.happen (.order o)).link = p.link :=
  link_happen_of_exited hexited fun _ hP h => hP.follow h o

theorem link_deliver_of_exited (hexited : p.link.exited = true) (r : Reply) (rest : List Reply) :
    (p.deliver r rest).link = { p.link with replies := rest } :=
  link_happen_of_exited (p := p.modifyLink fun l => { l with replies := rest }) hexited
    fun _ hP h => hP.receive h r

/-- On an open link, an order or a reply has all its requests accepted. -/
theorem answers_happen_of_open (hp : p.link.Answers p.state) (hopen : p.link.exited = false)
    (hkept : ∀ P, Frontend.Kept P → P p.director.front → P (p.director.happen h).1.front) :
    (p.happen h).link.Answers (p.happen h).state := by
  have hlink := link_happen hkept
  rw [Link.foldl_send_of_open hopen] at hlink
  have hopen' : (p.happen h).link.exited = false := by rw [hlink, hopen]
  rcases (p.director.turn_step h).requests_cases with
    ⟨-, hsession, content, hcs⟩ | ⟨-, hsession, hphase, hcs⟩
  -- the next session is started: its request to run is the last one accepted
  · rw [hcs] at hlink
    have hqueue : (p.happen h).link.queue =
        (p.link.queue ++ if p.state.session = 0 then [] else [.stop p.state.session]) ++
          [.run content (p.happen h).state.session] := by
      rw [hlink, List.append_assoc]
      rfl
    refine .of_open hopen' (fun _ => ⟨?_, ?_⟩) fun _ => ⟨_, _, hqueue, rfl⟩
    · rw [hlink, List.foldl_append]
      rfl
    · exact hsession ▸ Nat.succ_ne_zero _
  · have hsession' : (p.happen h).state.session = p.state.session := hsession
    rcases hcs with hcs | ⟨n, -, hcs⟩ <;> rw [hcs] at hlink
    -- nothing is requested
    · have hsame : (p.happen h).link = p.link := by simpa using hlink
      refine .of_open hopen' (fun hrunning => ?_) ?_ <;> rw [hsame, hsession']
      · exact hp.lastRun hopen (hphase hrunning)
      · exact hp.queue hopen
    -- a choice of the current session is the last request
    · have hlast : (p.happen h).link.lastRun = p.link.lastRun := by rw [hlink]; rfl
      have hqueue : (p.happen h).link.queue =
          p.link.queue ++ [.continueWith n p.state.session] := by rw [hlink]; rfl
      refine .of_open hopen' (fun hrunning => ?_) ?_ <;> rw [hsession']
      · rw [hlast]
        exact hp.lastRun hopen (hphase hrunning)
      · exact fun _ => ⟨_, _, hqueue, rfl⟩

/-- A closed link is kept closed. -/
theorem kept_exited : Frontend.Kept fun r : Recorder (Wired F) => r.front.link.exited = true where
  cue q r h := h
  mark rows style r h := h
  send q r h := by
    show (r.front.link.send q).1.exited = true
    rw [Link.send_of_exited h, h]

/-- On a closed link, a session that is started fails at once. -/
theorem phase_start_of_exited (hexited : p.link.exited = true) {o : Order}
    (ho : o.isStart = true) : (p.happen (.order o)).state.phase = .failed := by
  refine kept_exited.phase_follow_of_refused hexited (fun r front hfront => ⟨.closed, ?_⟩) ho
  show (front.front.link.send r).2 = .error .closed
  rw [Link.send_of_exited hfront]

theorem answers_order (hp : p.link.Answers p.state) (o : Order) :
    (p.happen (.order o)).link.Answers (p.happen (.order o)).state := by
  cases hexited : p.link.exited with
  | false => exact answers_happen_of_open hp hexited fun _ hP h => hP.follow h o
  | true =>
    rw [link_order_of_exited hexited o]
    refine .of_exited hexited fun hrunning => ?_
    rcases (p.director.turn_step (.order o)).requests_cases with
      ⟨hstart, -⟩ | ⟨-, hsession, hphase, -⟩
    · rw [phase_start_of_exited hexited hstart] at hrunning
      contradiction
    · have hsession' : (p.happen (.order o)).state.session = p.state.session := hsession
      rw [hsession']
      exact hp.reported hexited (hphase hrunning)

theorem answers_deliver (hp : p.link.Answers p.state) {r : Reply} {rest : List Reply}
    (first : p.link.replies = r :: rest) :
    (p.deliver r rest).link.Answers (p.deliver r rest).state := by
  let taken := p.modifyLink fun l => { l with replies := rest }
  cases hexited : p.link.exited with
  | false =>
    have htaken : taken.link.Answers taken.state :=
      .of_open hexited (hp.lastRun hexited) (hp.queue hexited)
    exact answers_happen_of_open htaken hexited fun _ hP h => hP.receive h r
  | true =>
    rw [link_deliver_of_exited hexited r rest]
    refine .of_exited hexited fun hrunning => ?_
    rcases (taken.director.turn_step (.reply r)).requests_cases with
      ⟨hstart, -⟩ | ⟨-, hsession, hphase, -⟩
    · contradiction
    · have hsession' : (p.deliver r rest).state.session = p.state.session := hsession
      have hwaits := hp.reported hexited (hphase hrunning)
      rw [first, List.mem_cons] at hwaits
      rw [hsession']
      refine hwaits.resolve_left fun hexit => ?_
      -- the session has just heard of its end
      have hheard : taken.director.state.hears r := ⟨hphase hrunning, hexit ▸ rfl⟩
      have hfailed : (p.deliver r rest).state.phase = .failed := by
        show (taken.director.receive r).1.state.phase = .failed
        rw [taken.director.receive_of_hears hheard, ← hexit]
        rfl
      rw [hfailed] at hrunning
      contradiction

/-! ### All steps -/

/-- The steps of the director, of the writer, of the reader, and of the delivery. An order is
followed with all its requests in one step, and so is a reply. When the writer fails, the whole
queue is lost in one step. -/
inductive Tick (p : Production F) : Production F → Prop where
  | order (o : Order) : Tick p (p.happen (.order o))
  | surfaces (f : F → F) : Tick p (p.modifySurfaces f)
  | deliver {r : Reply} {rest : List Reply} (first : p.link.replies = r :: rest) :
      Tick p (p.deliver r rest)
  | write (writing : p.writerDone = false) : Tick p (p.modifyLink Link.writeNext)
  | failWrite (writing : p.writerDone = false) (waiting : p.link.queue ≠ []) :
      Tick p { p.modifyLink Link.failWrite with writerDone := true }
  | readLine (line : String) (reading : p.readerDone = false) :
      Tick p (p.modifyLink fun l => l.readLine line)
  | endOutput (reading : p.readerDone = false) :
      Tick p { p.modifyLink Link.endOutput with readerDone := true }

/-- One step after the other. -/
abbrev Ticks : Production F → Production F → Prop :=
  Relation.ReflTransGen Tick

theorem Tick.answers (tick : Tick p p') (hp : p.link.Answers p.state) :
    p'.link.Answers p'.state := by
  cases tick with
  | order o => exact answers_order hp o
  | surfaces f => exact hp
  | deliver first => exact answers_deliver hp first
  | write writing => exact hp.writeNext
  | failWrite writing waiting => exact hp.failWrite waiting
  | readLine line reading => exact hp.readLine line
  | endOutput reading => exact hp.endOutput

/-- A link that is closed stays closed, and accepts no session any more. -/
theorem Tick.exited (tick : Tick p p') (hexited : p.link.exited = true) :
    p'.link.exited = true ∧ p'.link.lastRun = p.link.lastRun := by
  cases tick with
  | order o =>
    rw [link_order_of_exited hexited o]
    exact ⟨hexited, rfl⟩
  | surfaces f => exact ⟨hexited, rfl⟩
  | deliver first =>
    rw [link_deliver_of_exited hexited]
    exact ⟨hexited, rfl⟩
  | write writing =>
    show p.link.writeNext.exited = true ∧ p.link.writeNext.lastRun = p.link.lastRun
    unfold Link.writeNext
    split <;> exact ⟨hexited, rfl⟩
  | failWrite writing waiting =>
    show p.link.failWrite.exited = true ∧ p.link.failWrite.lastRun = p.link.lastRun
    unfold Link.failWrite
    split
    · exact ⟨hexited, rfl⟩
    · exact ⟨rfl, rfl⟩
  | readLine line reading => exact ⟨hexited, rfl⟩
  | endOutput reading => exact ⟨rfl, rfl⟩

theorem Tick.exited_of_gone (tick : Tick p p') (hp : p.IsGone → p.link.exited = true)
    (hgone : p'.IsGone) : p'.link.exited = true := by
  have hexited := fun h => (tick.exited h).1
  cases tick with
  | failWrite writing waiting =>
    show p.link.failWrite.exited = true
    rw [Link.failWrite]
    split
    · contradiction
    · rfl
  | endOutput reading => rfl
  | _ => exact hexited (hp hgone)

theorem Ticks.sound {surfaces : F} (h : Ticks (opening surfaces) p) :
    (p.IsGone → p.link.exited = true) ∧ p.link.Answers p.state := by
  induction h with
  | refl =>
    refine ⟨fun hgone => absurd hgone (by simp [IsGone, opening]), ?_⟩
    exact .of_open rfl (fun hrunning => by contradiction) fun hwaiting => absurd rfl hwaiting
  | tail _ tick ih => exact ⟨tick.exited_of_gone ih.1, tick.answers ih.2⟩

theorem Ticks.exited (h : Ticks p p') (hexited : p.link.exited = true) :
    p'.link.exited = true ∧ p'.link.lastRun = p.link.lastRun := by
  induction h with
  | refl => exact ⟨hexited, rfl⟩
  | tail _ tick ih =>
    obtain ⟨hexited', hlast⟩ := tick.exited ih.1
    exact ⟨hexited', hlast.trans ih.2⟩

/-- **No session waits for a program that is gone.** Let the director, the two tasks and the
delivery take their steps in any order. Once the reader has ended or the writer has failed, a play
with no reply left to deliver is not running. From then on the link refuses every request and
accepts no session, so every session that is started fails. -/
theorem not_running_of_gone {surfaces : F} (reached : Ticks (opening surfaces) p)
    (gone : p.IsGone) :
    (p.link.replies = [] →
        p.state.phase = .idle ∨ p.state.phase = .completed ∨ p.state.phase = .failed) ∧
      ∀ p', Ticks p p' →
        (∀ r, p'.link.send r = (p'.link, .error .closed)) ∧ p'.link.lastRun = p.link.lastRun ∧
        ∀ o, o.isStart = true → (p'.happen (.order o)).state.phase = .failed := by
  obtain ⟨hgone, hanswers⟩ := reached.sound
  have hexited : p.link.exited = true := hgone gone
  refine ⟨fun hdelivered => ?_, fun p' later => ?_⟩
  · cases hphase : p.state.phase with
    | running =>
      have hwaits := hanswers.reported hexited hphase
      rw [hdelivered] at hwaits
      exact absurd hwaits List.not_mem_nil
    | idle => simp
    | completed => simp
    | failed => simp
  · obtain ⟨hexited', hlast⟩ := later.exited hexited
    exact ⟨Link.send_of_exited hexited', hlast, fun o ho => phase_start_of_exited hexited' ho⟩

/-- The request to stop the first session cannot be written, and the next session is lost with
it. -/
theorem not_running_of_lost_stop :
    let first := ((opening ({} : Stage)).happen (.order (.compile ""))).modifyLink Link.writeNext
    let lost := (first.happen (.order .startOver)).modifyLink Link.failWrite
    let p := Production.deliver { lost with writerDone := true } ⟨2, .unexpectedExit⟩ []
    Ticks (opening ({} : Stage)) p ∧ p.IsGone ∧ p.link.replies = [] ∧
      (p.state.phase = .idle ∨ p.state.phase = .completed ∨ p.state.phase = .failed) ∧
      (p.happen (.order .takeBack)).state.phase = .failed := by
  intro first lost p
  have hfirst : Ticks (opening ({} : Stage)) first :=
    .tail (.single (.order (.compile ""))) (.write rfl)
  have hlost : Ticks first { lost with writerDone := true } :=
    .tail (.single (.order .startOver)) (.failWrite rfl (by decide +kernel))
  have reached : Ticks (opening ({} : Stage)) p :=
    .tail (hfirst.trans hlost) (.deliver (by decide +kernel))
  have gone : p.IsGone := .inr rfl
  have hdelivered : p.link.replies = [] := by decide +kernel
  obtain ⟨hphase, hlater⟩ := not_running_of_gone reached gone
  exact ⟨reached, gone, hdelivered, hphase hdelivered, (hlater p .refl).2.2 .takeBack rfl⟩

end Production

end Playthrough
