import Playthrough.Proofs.LatestContent
import Playthrough.Proofs.ReceivingEnds

/-!
# Failed looks

A look at the story fails if its modification time or its content cannot be observed. If it fails at
the time, it has no effect. If it fails at the content, the watcher remembers the time it observed,
and takes the content for known from now on. So what matters is the time that was observed last, not
the content that was handed out last. A look that finds another time hands the content out, and the
edit is compiled once the text has been left alone, however many looks have failed before.

## Main definitions

* `Watcher.lookAll`, `Console.lookAll` — looks at the story, one after the other.
* `Watcher.lastTime` — the modification time that was observed last.
* `Console.Leaves` — the text, the timer and the watcher are the same in two consoles.
* `Console.Compiles` — a console starts a session with a content.

## Main results

* `Watcher.lookAll_eq` — a watcher remembers the time that was observed last.
* `Console.lookAll_of_failed` — looks that fail have no other effect.
* `Console.compiles_onTime` — what happens when an edit is compiled.
* `edit_is_compiled_after_failed_looks` — a look that finds another time loses no edit.
-/

namespace Playthrough

/-! ### Times -/

namespace Watcher

/-- Looks at a file, one after the other. -/
def lookAll (w : Watcher) (seen : List Sighting) : Watcher :=
  seen.foldl (fun w s => (w.look s).1) w

/-- The modification time that was observed last, in looks that may have failed. -/
def lastTime (w : Watcher) (seen : List Sighting) : Option Nat :=
  (seen.filterMap fun s => s.modified.toOption).getLastD w.modified

variable {w : Watcher} {seen : Sighting}

theorem look_of_untimed {e : FileError} (h : seen.modified = .error e) :
    w.look seen = (w, .error e) := by
  rw [look, h]

theorem look_of_same (h : seen.modified = .ok w.modified) : w.look seen = (w, .ok none) := by
  rw [look, h]
  exact if_pos rfl

theorem look_of_other {modified : Option Nat} (h : seen.modified = .ok modified)
    (hother : modified ≠ w.modified) : w.look seen = (⟨modified⟩, seen.content.map some) := by
  rw [look, h]
  exact if_neg hother

/-- A look at a file that can be read hands its content out just if it finds another time. -/
theorem look_snd_of_readable (w : Watcher) (modified : Option Nat) (content : String) :
    (w.look ⟨.ok modified, .ok content⟩).2 =
      .ok (if modified = w.modified then none else some content) := by
  split
  · rename_i hsame
    rw [look_of_same (congrArg Except.ok hsame)]
  · rename_i hother
    rw [look_of_other rfl hother]
    rfl

/-- Whatever becomes of a look, a time that it observes is remembered. -/
theorem look_fst (w : Watcher) (seen : Sighting) :
    (w.look seen).1 = ⟨seen.modified.toOption.getD w.modified⟩ := by
  cases hmodified : seen.modified with
  | error e => rw [look_of_untimed hmodified]; rfl
  | ok modified =>
    by_cases hsame : modified = w.modified
    · rw [look_of_same (hsame ▸ hmodified)]
      exact congrArg Watcher.mk hsame.symm
    · rw [look_of_other hmodified hsame]
      rfl

/-- A watcher remembers the time that was observed last. -/
theorem lookAll_eq (w : Watcher) (seen : List Sighting) : w.lookAll seen = ⟨w.lastTime seen⟩ := by
  induction seen generalizing w with
  | nil => rfl
  | cons s seen ih =>
    have hnext : w.lookAll (s :: seen) = (w.look s).1.lookAll seen := rfl
    rw [hnext, ih, look_fst, lastTime, lastTime]
    cases hmodified : s.modified with
    | error e => rw [List.filterMap_cons_none (by rw [hmodified]; rfl)]; rfl
    | ok modified =>
      rw [List.filterMap_cons_some (b := modified) (by rw [hmodified]; rfl), List.getLastD_cons]
      rfl

end Watcher

namespace Console

/-! ### Looks that fail -/

/-- Looks at the story at some times, one after the other, and their results. -/
def lookAll (c : Console) : List (Nat × Sighting) → Console × List (Except FileError Unit)
  | [] => (c, [])
  | (now, seen) :: looks =>
    let (next, result) := c.look now seen
    let (last, results) := next.lookAll looks
    (last, result :: results)

variable {c c' c'' : Console}

/-- A look that fails has no effect but on the watcher. -/
theorem look_of_failed {now : Nat} {seen : Sighting} {e : FileError}
    (h : (c.look now seen).2 = .error e) :
    (c.look now seen).1 = { c with watcher := (c.watcher.look seen).1 } := by
  unfold look at h ⊢
  split at h
  · rename_i hlook
    rw [hlook]
  · contradiction
  · contradiction

/-- Looks that fail have no effect but on the watcher. -/
theorem lookAll_of_failed {looks : List (Nat × Sighting)}
    (h : ∀ r ∈ (c.lookAll looks).2, ∃ e, r = .error e) :
    (c.lookAll looks).1 = { c with watcher := c.watcher.lookAll (looks.map Prod.snd) } := by
  induction looks generalizing c with
  | nil => rfl
  | cons l looks ih =>
    obtain ⟨now, seen⟩ := l
    obtain ⟨e, hresult⟩ := h (c.look now seen).2 (List.mem_cons_self ..)
    have hnext := ih (c := (c.look now seen).1) fun r hr => h r (List.mem_cons_of_mem _ hr)
    rw [look_of_failed hresult] at hnext
    exact (congrArg (fun c => (Console.lookAll c looks).1) (look_of_failed hresult)).trans hnext

/-! ### What replies leave -/

/-- The text, the timer and the watcher are the same in two consoles. -/
structure Leaves (c c' : Console) : Prop where
  timer : c'.bench.timer = c.bench.timer
  watcher : c'.watcher = c.watcher
  content : c'.terminal.content = c.terminal.content

theorem Leaves.refl (c : Console) : c.Leaves c :=
  ⟨rfl, rfl, rfl⟩

theorem Leaves.trans (h : c.Leaves c') (h' : c'.Leaves c'') : c.Leaves c'' :=
  ⟨h'.timer.trans h.timer, h'.watcher.trans h.watcher, h'.content.trans h.content⟩

/-- Nothing that a director does changes the text. -/
theorem kept_content (content : String) :
    Frontend.Kept fun t : Terminal => t.content = content where
  cue q t h := (t.perform_eq q).2.1.trans h
  mark _ _ _ h := h
  send _ _ h := h

theorem leaves_foldl_receive (c : Console) (replies : List Reply) :
    c.Leaves (replies.foldl receive c) := by
  induction replies generalizing c with
  | nil => exact .refl c
  | cons r replies ih =>
    have hreceive : c.Leaves (c.receive r) :=
      ⟨rfl, rfl, (kept_content c.terminal.content).receive rfl r⟩
    exact hreceive.trans (ih (c.receive r))

theorem leaves_receiveRounds (rounds : Nat) (c : Console) : c.Leaves (receiveRounds rounds c) := by
  induction rounds generalizing c with
  | zero => exact .refl c
  | succ rounds ih =>
    have htake : c.Leaves c.takeReplies.1 := ⟨rfl, rfl, rfl⟩
    rw [receiveRounds]
    split
    · rename_i hnone
      rw [hnone] at htake
      exact htake
    · rename_i replies _ hsome
      rw [hsome] at htake
      exact htake.trans ((leaves_foldl_receive _ replies).trans (ih _))

theorem leaves_receiveAll (c : Console) : c.Leaves c.receiveAll :=
  leaves_receiveRounds _ c

end Console

/-! ### What is compiled -/

/-- The requests that have a content compiled: the session is stopped, if there is one, and the next
one is started. -/
def compileRequests (session : SessionId) (content : String) : List Request :=
  (if session = 0 then [] else [.stop session]) ++ [.run content (session + 1)]

theorem Director.compile_on_terminal (d : Director Terminal) (content : String) :
    (d.compile content).state.session = d.state.session + 1 ∧
      (d.compile content).front.interpreter =
        d.front.interpreter.sendAll (compileRequests d.state.session content) := by
  obtain ⟨hsession, hrequests⟩ := d.recorded.requests_compile content
  have halike := Recorder.matched.compile d.alike_recorded content
  have hserved : (d.recorded.compile content).front.front.interpreter =
      d.front.interpreter.sendAll (requests (d.recorded.compile content).calls) :=
    Terminal.served_interpreter.part_of_kept (d := d.recorded) (List.nil_append _).symm
      fun P hP h => hP.compile h content
  refine ⟨(congrArg PlayState.session halike.state).trans hsession, ?_⟩
  rw [halike.front, hserved, hrequests]
  rfl

namespace Console

/-- A console starts a session with a content, after it has stopped the session before, and receives
all replies. -/
def Compiles (c : Console) (content : String) (c' : Console) : Prop :=
  ∃ asked : Console, c' = asked.receiveAll ∧ asked.state.session = c.state.session + 1 ∧
    asked.terminal.interpreter =
      c.terminal.interpreter.sendAll (compileRequests c.state.session content)

variable {c c' : Console} {now : Nat}

theorem onTime_of_early (h : c.bench.timer.isDue now = false) : c.onTime now = c.receiveAll := by
  have hbench : (c.bench.onTime now).1 = c.bench := by
    simp [Workbench.onTime, CompileTimer.check, h]
  rw [onTime, hbench]

/-- If it is time to compile, the text of the terminal is compiled. -/
theorem compiles_onTime (h : c.bench.timer.isDue now = true) :
    c.Compiles c.terminal.content (c.onTime now) := by
  have hdirector : (c.bench.onTime now).1.director =
      c.bench.director.compile c.terminal.content := by
    simp only [Workbench.onTime, CompileTimer.check, h, if_true]
    rfl
  obtain ⟨hsession, hinterpreter⟩ := c.bench.director.compile_on_terminal c.terminal.content
  refine ⟨{ c with bench := (c.bench.onTime now).1 }, rfl, ?_, ?_⟩
  · exact (congrArg (·.state.session) hdirector).trans hsession
  · exact (congrArg (·.front.interpreter) hdirector).trans hinterpreter

/-- The passing of time leaves the text. -/
theorem content_onTime (c : Console) : (c.onTime now).terminal.content = c.terminal.content := by
  have hbench : (c.bench.onTime now).1.director.front.content = c.terminal.content := by
    unfold Workbench.onTime
    split
    · rfl
    · exact (kept_content c.terminal.content).compile rfl _
  exact (leaves_receiveAll _).content.trans hbench

/-! ### From an edit to its compile -/

/-- A look at a story that is as it was seen last has the effect of time alone. -/
theorem look_of_same {seen : Sighting} (h : seen.modified = .ok c.watcher.modified) :
    c.look now seen = (c.onTime now, .ok ()) := by
  rw [look, Watcher.look_of_same h]

/-- A look before it is time to compile, at a story that is as it was seen last or is not there. -/
theorem leaves_look_of_early {seen : Sighting} (hearly : c.bench.timer.isDue now = false)
    (hsame : ∀ modified, seen.modified = .ok modified → modified = c.watcher.modified) :
    c.Leaves (c.look now seen).1 := by
  cases hmodified : seen.modified with
  | error e =>
    have hlook : c.look now seen = (c, .error e) := by
      rw [look, Watcher.look_of_untimed hmodified]
    rw [hlook]
    exact .refl c
  | ok modified =>
    rw [look_of_same (hsame modified hmodified ▸ hmodified), onTime_of_early hearly]
    exact c.leaves_receiveAll

theorem leaves_lookAll_of_early {looks : List (Nat × Sighting)}
    (hearly : ∀ l ∈ looks, c.bench.timer.isDue l.1 = false)
    (hsame : ∀ l ∈ looks, ∀ modified, l.2.modified = .ok modified →
      modified = c.watcher.modified) :
    c.Leaves (c.lookAll looks).1 := by
  induction looks generalizing c with
  | nil => exact .refl c
  | cons l looks ih =>
    have hfirst : c.Leaves (c.look l.1 l.2).1 :=
      leaves_look_of_early (hearly l (List.mem_cons_self ..)) (hsame l (List.mem_cons_self ..))
    refine hfirst.trans (ih ?_ ?_)
    · intro l' hl'
      rw [hfirst.timer]
      exact hearly l' (List.mem_cons_of_mem _ hl')
    · intro l' hl'
      rw [hfirst.watcher]
      exact hsame l' (List.mem_cons_of_mem _ hl')

/-- A console right after the story was seen with another time and another content. -/
def edited (c : Console) (now : Nat) (modified : Option Nat) (content : String) : Console :=
  { c with watcher := ⟨modified⟩ }.takeContent now content

variable {modified : Option Nat} {content : String}

theorem look_of_other (h : modified ≠ c.watcher.modified) :
    c.look now ⟨.ok modified, .ok content⟩ =
      ((c.edited now modified content).onTime now, .ok ()) := by
  rw [look, Watcher.look_of_other rfl h]
  rfl

theorem isDue_edited (c : Console) (now : Nat) (modified : Option Nat) (content : String)
    (later : Nat) :
    (c.edited now modified content).bench.timer.isDue later =
      decide (c.bench.timer.quiet ≤ later - now) :=
  rfl

/-- If no pause is needed, an edit is compiled at once. -/
theorem compiles_edited (hquiet : c.bench.timer.quiet = 0) :
    c.Compiles content ((c.edited now modified content).onTime now) := by
  have hdue : (c.edited now modified content).bench.timer.isDue now = true := by
    rw [isDue_edited, hquiet]
    exact decide_eq_true (Nat.zero_le _)
  exact compiles_onTime hdue

/-- Otherwise it is compiled at the first look after the pause, if the story is left alone. -/
theorem compiles_after_pause (hquiet : 0 < c.bench.timer.quiet) {between : List (Nat × Sighting)}
    (hbetween : ∀ l ∈ between, l.1 < now + c.bench.timer.quiet ∧
      ∀ time, l.2.modified = .ok time → time = modified)
    {later : Nat} (hlater : now + c.bench.timer.quiet ≤ later) {seen : Sighting}
    (hseen : seen.modified = .ok modified) :
    let waiting := (((c.edited now modified content).onTime now).lookAll between).1
    waiting.Compiles content (waiting.look later seen).1 := by
  intro waiting
  let edited := c.edited now modified content
  have hearly (time : Nat) (h : time < now + c.bench.timer.quiet) :
      edited.bench.timer.isDue time = false := by
    rw [isDue_edited]
    exact decide_eq_false (by omega)
  have hnoted : edited.Leaves (edited.onTime now) := by
    rw [onTime_of_early (hearly now (by omega))]
    exact edited.leaves_receiveAll
  have hwaiting : edited.Leaves waiting := by
    refine hnoted.trans (leaves_lookAll_of_early (fun l hl => ?_) fun l hl => ?_)
    · rw [hnoted.timer]
      exact hearly l.1 (hbetween l hl).1
    · rw [hnoted.watcher]
      exact (hbetween l hl).2
  have hdue : waiting.bench.timer.isDue later = true := by
    rw [hwaiting.timer, isDue_edited]
    exact decide_eq_true (by omega)
  have hsame : seen.modified = .ok waiting.watcher.modified := by rw [hwaiting.watcher, hseen]; rfl
  have hcontent : waiting.terminal.content = content := hwaiting.content
  rw [look_of_same hsame]
  exact hcontent ▸ compiles_onTime hdue

end Console

/-- **An edit is compiled after failed looks.** Take a console in any state, and any number of looks
at the story that fail. They have no effect, but that the watcher knows the modification time that
they observed last, if they observed one. If the next look finds a time and a content, it hands the
content out just if the time is another one than that. The terminal has the content then, and it is
compiled: at once if no pause is needed, and otherwise at the first look after the pause, if those
before found no other time. -/
theorem edit_is_compiled_after_failed_looks {c : Console} {failed : List (Nat × Sighting)}
    (fails : ∀ r ∈ (c.lookAll failed).2, ∃ e, r = .error e) (now : Nat) (modified : Option Nat)
    (content : String) :
    let known := c.watcher.lastTime (failed.map Prod.snd)
    let seen : Sighting := ⟨.ok modified, .ok content⟩
    let before := (c.lookAll failed).1
    let after := (before.look now seen).1
    let pause := c.bench.timer.quiet
    before = { c with watcher := ⟨known⟩ } ∧
      (before.watcher.look seen).2 = .ok (if modified = known then none else some content) ∧
      (modified ≠ known → after.terminal.content = content ∧
        (pause = 0 → c.Compiles content after) ∧
        ∀ between later again, 0 < pause →
          (∀ l ∈ between, l.1 < now + pause ∧ ∀ time, l.2.modified = .ok time → time = modified) →
          now + pause ≤ later → again.modified = .ok modified →
            let waiting := (after.lookAll between).1
            waiting.Compiles content (waiting.look later again).1) := by
  intro known seen before after pause
  have hbefore : before = { c with watcher := ⟨known⟩ } := by
    rw [← Watcher.lookAll_eq]
    exact Console.lookAll_of_failed fails
  have hresult := before.watcher.look_snd_of_readable modified content
  have hlook (hother : modified ≠ known) :
      after = (before.edited now modified content).onTime now :=
    congrArg Prod.fst (Console.look_of_other (by rwa [hbefore]))
  rw [hbefore] at hresult hlook
  refine ⟨hbefore, hbefore ▸ hresult, fun hother => ?_⟩
  rw [hlook hother]
  refine ⟨?_, fun hpause => ?_, fun between later again hpause hbetween hlater hseen => ?_⟩
  · exact Console.content_onTime _
  · exact Console.compiles_edited (c := { c with watcher := ⟨known⟩ }) hpause
  · exact Console.compiles_after_pause (c := { c with watcher := ⟨known⟩ }) hpause hbetween hlater
      hseen

/-- The story is gone for a while, and then cannot be read, before it is there again. -/
theorem edit_is_compiled_after_gone_and_unreadable :
    let c : Console := .start {} 0 (.scripted {}) (⟨some 1⟩, "Once")
    let failed : List (Nat × Sighting) :=
      [(250, ⟨.error .notFound, .error .notFound⟩), (500, ⟨.ok (some 2), .error .notText⟩)]
    let seen : Sighting := ⟨.ok (some 3), .ok "Twice"⟩
    let after := ((c.lookAll failed).1.look 750 seen).1
    (∀ r ∈ (c.lookAll failed).2, ∃ e, r = .error e) ∧ after.terminal.content = "Twice" ∧
      after.Compiles "Twice" (after.look 1250 seen).1 := by
  intro c failed seen after
  have hresults : (c.lookAll failed).2 = [.error .notFound, .error .notText] := rfl
  have fails : ∀ r ∈ (c.lookAll failed).2, ∃ e, r = .error e := by simp [hresults]
  obtain ⟨-, -, hother⟩ := edit_is_compiled_after_failed_looks fails 750 (some 3) "Twice"
  obtain ⟨hcontent, -, hpause⟩ := hother (by decide)
  exact ⟨fails, hcontent, hpause [] 1250 seen (by decide) (by simp) (by decide) rfl⟩

/-- A look that cannot read a content takes it for known. When it can be read, it is not handed out,
and the terminal never has it. -/
theorem failed_look_loses_content :
    let c : Console := .start {} 0 (.scripted {}) (⟨some 1⟩, "Once")
    let unreadable : Sighting := ⟨.ok (some 2), .error .notText⟩
    let seen : Sighting := ⟨.ok (some 2), .ok "Twice"⟩
    c.watcher.look unreadable = (⟨some 2⟩, .error .notText) ∧
      ((c.watcher.look unreadable).1.look seen).2 = .ok none ∧
      (c.lookAll [(250, unreadable), (500, seen), (1250, seen)]).1.terminal.content = "Once" :=
  ⟨rfl, rfl, by decide +kernel⟩

end Playthrough
