import Mathlib.Data.List.Basic
import Mathlib.Logic.Function.Iterate
import Mathlib.Logic.Relation
import Playthrough.Proofs.ProgramGone

/-!
# The traffic of a link

Requests are handed in at any number of copies of the sending end of a link. The writer takes them
up one after the other, the reader turns the output of the program into replies, and whoever plays
the story takes the replies off the link. All of them take their steps in any order. In particular a
request may be handed in between any two steps of a writer that has failed, which first closes the
link and then gives up the requests in the queue one by one.

Beside the state of the link and of its two tasks, the traffic records what became of every request,
which replies each task has put into the stream, and which of them were delivered. The records
decide nothing; they are what the results are about.

The receiving end is taken to be open: a task that cannot put its reply into the stream any more has
nobody to report to. Every request has a line, so it is only the program that can keep one from
being written.

## Main definitions

* `Link.close`, `Link.loseNext` — the small steps of a writer that has failed.
* `Traffic`, `Traffic.opening` — the link, its tasks and the records, and how they begin.
* `Traffic.Step`, `Traffic.Steps` — a step of anyone, and steps in any order.
* `Traffic.accepted`, `Traffic.repliesOf` — the accepted requests, and the replies of one task.
* `Traffic.Kept` — the books of the traffic.

## Main results

* `Link.failWrite_eq_iterate` — a writer that fails without interruption.
* `Traffic.Steps.kept` — the books balance after any steps.
* `Traffic.requests_are_accounted_for` — every accepted request is written, waits, or was reported.
-/

namespace Playthrough

/-! ### Small steps of the link -/

/-- Whether a request is to stop a session. -/
def Request.isStop : Request → Bool
  | .stop _ => true
  | _ => false

namespace Link

variable (l : Link)

/-- No further request is accepted. -/
def close : Link :=
  { l with exited := true }

/-- The first request in the queue is lost. -/
def loseNext : Link :=
  match l.queue with
  | [] => l
  | r :: queue => { l with queue, replies := l.replies ++ (lostReply? r).toList }

variable {l} {r : Request} {queue : List Request}

theorem loseNext_of_queue (first : l.queue = r :: queue) :
    l.loseNext = { l with queue, replies := l.replies ++ (lostReply? r).toList } := by
  rw [loseNext, first]

theorem iterate_loseNext (l : Link) (h : l.queue = queue) :
    loseNext^[queue.length] l =
      { l with queue := [], replies := l.replies ++ queue.filterMap lostReply? } := by
  induction queue generalizing l with
  | nil =>
    cases l
    cases h
    simp
  | cons r queue ih =>
    rw [List.length_cons, Function.iterate_succ_apply, loseNext_of_queue h, ih _ rfl]
    cases hlost : lostReply? r <;> simp [hlost]

/-- When nobody interrupts it, a writer that fails closes the link and loses the queue. -/
theorem failWrite_eq_iterate (waiting : l.queue ≠ []) :
    l.failWrite = loseNext^[l.queue.length] l.close := by
  refine Eq.trans ?_ (iterate_loseNext l.close rfl).symm
  cases hqueue : l.queue with
  | nil => contradiction
  | cons r queue => rw [failWrite, hqueue, close, hqueue]

theorem writeNext_fields (l : Link) :
    l.writeNext.lastRun = l.lastRun ∧ l.writeNext.exited = l.exited ∧
      l.writeNext.written ++ l.writeNext.queue = l.written ++ l.queue ∧
      l.writeNext.replies = l.replies := by
  rw [writeNext]
  cases hqueue : l.queue <;> simp [hqueue]

/-- The sessions of all lost requests end, but for those that were to be stopped. -/
theorem filterMap_lostReply? (rs : List Request) :
    rs.filterMap lostReply? =
      (rs.filter fun r => !r.isStop).map fun r => ⟨r.session, .unexpectedExit⟩ := by
  induction rs with
  | nil => rfl
  | cons r rs ih =>
    cases r with
    | stop session => exact ih
    | run content session => exact congrArg (_ :: ·) ih
    | continueWith n session => exact congrArg (_ :: ·) ih

/-- An open link accepts a request. -/
theorem send_of_open (h : l.exited = false) (r : Request) :
    l.send r = ({ l with lastRun := runAfter l.lastRun r, queue := l.queue ++ [r] }, .ok ()) := by
  rw [send, if_neg (by simp [h])]

/-! ### What the reader adds -/

/-- The reply on a line of octets. -/
def replyOfOctets? (line : List UInt8) : Option Reply :=
  (textOfOctets? line).bind replyOfLine?

/-- The session that a request starts. -/
def startedBy? : Request → Option SessionId
  | .run _ session => some session
  | _ => none

/-- The session that was started last. -/
def lastStarted? (rs : List Request) : Option SessionId :=
  (rs.filterMap startedBy?).getLast?

/-- What is reported when the output ends behind some requests: the end of the session that was
started last. Zero is the number of no session. -/
def exitBehind (rs : List Request) : List Reply :=
  (((lastStarted? rs).filter (· ≠ 0)).map exitReply).toList

theorem foldl_runAfter (rs : List Request) (last : SessionId) :
    rs.foldl runAfter last = (lastStarted? rs).getD last := by
  induction rs using List.reverseRecOn with
  | nil => rfl
  | append_singleton rs r ih =>
    rw [List.foldl_append, ih, lastStarted?, lastStarted?, List.filterMap_append]
    cases r <;> simp [runAfter, startedBy?]

/-- What the reader adds at the end of the output. -/
theorem replies_endOutput {rs : List Request} (h : l.lastRun = rs.foldl runAfter 0) :
    l.endOutput.replies = l.replies ++ exitBehind rs := by
  rw [foldl_runAfter] at h
  rw [endOutput, exitBehind, h]
  cases hlast : lastStarted? rs with
  | none => simp
  | some session => by_cases hzero : session = 0 <;> simp [hzero, Option.filter]

end Link

/-! ### The system -/

/-- The tasks that serve a link. -/
inductive LinkTask where
  | writer
  | reader
  deriving DecidableEq, Repr

/-- Where the writer stands. -/
inductive WriterPhase where
  | waiting
  /-- The first request in the queue is being written. -/
  | writing
  /-- A request could not be written, and the queue is being given up. -/
  | draining
  | finished
  deriving DecidableEq, Repr

/-- Whether a request could not be written. -/
def WriterPhase.hasFailed : WriterPhase → Bool
  | .draining => true
  | .finished => true
  | _ => false

/-- Where the reader stands. -/
inductive ReaderPhase where
  | reading
  /-- The output has ended, or has come to a line that is no text. -/
  | ended
  /-- The output could not be read any further. -/
  | cutOff
  deriving DecidableEq, Repr

/-- A request that was handed in at one of the copies of the sending end, and what became of it. -/
structure Attempt where
  copy : Nat
  request : Request
  result : Except SendError Unit

/-- The request, if it was accepted. -/
def Attempt.accepted? (a : Attempt) : Option Request :=
  match a.result with
  | .ok () => some a.request
  | .error _ => none

/-- A link with its tasks, and the records of what passed over it. -/
structure Traffic where
  link : Link := {}
  writer : WriterPhase := .waiting
  reader : ReaderPhase := .reading
  /-- The lines of the output that the reader has not come to. -/
  unread : List (List UInt8)
  /-- The lines that were read. -/
  read : List (List UInt8) := []
  /-- The requests that were handed in. -/
  attempts : List Attempt := []
  /-- The requests that the writer has given up. -/
  lost : List Request := []
  /-- All replies, with the tasks that put them into the stream. -/
  stream : List (LinkTask × Reply) := []
  delivered : List Reply := []

namespace Traffic

/-- The traffic with a program that was just started and is going to write `output`. -/
def opening (output : List UInt8) : Traffic where
  unread := Text.octetLines output

variable (t : Traffic)

/-- The accepted requests. -/
def accepted : List Request :=
  t.attempts.filterMap Attempt.accepted?

/-- The request that is being written. -/
def inHand? : Option Request :=
  if t.writer = .writing then t.link.queue.head? else none

/-- The accepted requests that the writer has not taken up. -/
def queued : List Request :=
  if t.writer = .writing then t.link.queue.tail else t.link.queue

/-- The replies that a task has put into the stream. -/
def repliesOf (who : LinkTask) : List Reply :=
  t.stream.filterMap fun entry => if entry.1 = who then some entry.2 else none

/-- A request is handed in. -/
def handIn (copy : Nat) (r : Request) : Traffic :=
  { t with
    link := (t.link.send r).1
    attempts := t.attempts ++ [⟨copy, r, (t.link.send r).2⟩] }

/-- A task takes a step on the link. The replies that are added are its own. -/
def act (who : LinkTask) (f : Link → Link) : Traffic :=
  { t with
    link := f t.link
    stream := t.stream ++ ((f t.link).replies.drop t.link.replies.length).map (who, ·) }

/-- A step of somebody who hands in a request, of the writer, of the reader, or of the delivery. -/
inductive Step (t : Traffic) : Traffic → Prop where
  | handIn (copy : Nat) (r : Request) : Step t (t.handIn copy r)
  /-- The writer takes up the first request in the queue. -/
  | take (free : t.writer = .waiting) (waits : t.link.queue ≠ []) :
      Step t { t with writer := .writing }
  | write (busy : t.writer = .writing) :
      Step t { t.act .writer Link.writeNext with writer := .waiting }
  /-- The request cannot be written, and the link is closed. -/
  | fail (busy : t.writer = .writing) : Step t { t.act .writer Link.close with writer := .draining }
  | lose {r : Request} {queue : List Request} (failed : t.writer = .draining)
      (first : t.link.queue = r :: queue) :
      Step t { t.act .writer Link.loseNext with lost := t.lost ++ [r] }
  | finish (failed : t.writer = .draining) (drained : t.link.queue = []) :
      Step t { t with writer := .finished }
  | read {line : List UInt8} {text : String} {lines : List (List UInt8)}
      (reading : t.reader = .reading) (next : t.unread = line :: lines)
      (isText : textOfOctets? line = some text) :
      Step t { t.act .reader (Link.readLine · text) with
        unread := lines, read := t.read ++ [line] }
  /-- There is no further line, or the next one is no text. -/
  | endOutput (reading : t.reader = .reading)
      (atEnd : ∀ line ∈ t.unread.head?, textOfOctets? line = none) :
      Step t { t.act .reader Link.endOutput with reader := .ended }
  /-- Reading fails, wherever the reader is. -/
  | cutOff (reading : t.reader = .reading) :
      Step t { t.act .reader Link.endOutput with reader := .cutOff }
  | deliver {r : Reply} {rest : List Reply} (first : t.link.replies = r :: rest) :
      Step t { t with
        link := { t.link with replies := rest }, delivered := t.delivered ++ [r] }

/-- One step after the other. -/
abbrev Steps : Traffic → Traffic → Prop :=
  Relation.ReflTransGen Step

/-! ### What a step does to the records -/

variable {t} {t' : Traffic} {f : Link → Link} {who : LinkTask} {new : List Reply}

theorem inHand?_append_queued : t.inHand?.toList ++ t.queued = t.link.queue := by
  unfold inHand? queued
  split
  · cases t.link.queue <;> rfl
  · rfl

/-- On a closed link, a request is only recorded. -/
theorem handIn_of_exited (hexited : t.link.exited = true) (copy : Nat) (r : Request) :
    t.handIn copy r = { t with attempts := t.attempts ++ [⟨copy, r, .error .closed⟩] } := by
  rw [handIn, Link.send_of_exited hexited]

theorem handIn_of_open (hopen : t.link.exited = false) (copy : Nat) (r : Request) :
    t.handIn copy r =
      { t with
        link := { t.link with
          lastRun := Link.runAfter t.link.lastRun r, queue := t.link.queue ++ [r] }
        attempts := t.attempts ++ [⟨copy, r, .ok ()⟩] } := by
  rw [handIn, Link.send_of_open hopen]

theorem accepted_handIn_of_exited (hexited : t.link.exited = true) (copy : Nat) (r : Request) :
    (t.handIn copy r).accepted = t.accepted := by
  simp [handIn_of_exited hexited, accepted, Attempt.accepted?]

theorem accepted_handIn_of_open (hopen : t.link.exited = false) (copy : Nat) (r : Request) :
    (t.handIn copy r).accepted = t.accepted ++ [r] := by
  simp [handIn_of_open hopen, accepted, Attempt.accepted?]

theorem stream_act (h : (f t.link).replies = t.link.replies ++ new) :
    (t.act who f).stream = t.stream ++ new.map (who, ·) := by
  rw [act, h, List.drop_left]

/-- A task adds to its own replies. -/
theorem repliesOf_act (h : (f t.link).replies = t.link.replies ++ new) :
    (t.act who f).repliesOf who = t.repliesOf who ++ new := by
  rw [repliesOf, stream_act h, List.filterMap_append, List.filterMap_map]
  simp [repliesOf]

/-- A task adds nothing to the replies of the other. -/
theorem repliesOf_act_of_ne {other : LinkTask} (hne : who ≠ other)
    (h : (f t.link).replies = t.link.replies ++ new) :
    (t.act who f).repliesOf other = t.repliesOf other := by
  rw [repliesOf, stream_act h, List.filterMap_append, List.filterMap_map]
  simp [repliesOf, hne]

/-- A task keeps track of what it puts into the stream. -/
theorem map_stream_act (hkept : t.delivered ++ t.link.replies = t.stream.map Prod.snd)
    (h : (f t.link).replies = t.link.replies ++ new) :
    t.delivered ++ (f t.link).replies = (t.act who f).stream.map Prod.snd := by
  rw [stream_act h, List.map_append, List.map_map, ← hkept, h, ← List.append_assoc]
  exact congrArg _ (List.map_id new).symm

/-! ### The books -/

/-- The books of the requests. -/
structure RequestsKept (t : Traffic) : Prop where
  accepted : t.accepted = t.link.written ++ t.lost ++ t.link.queue
  lastRun : t.link.lastRun = t.accepted.foldl Link.runAfter 0
  writing : t.writer = .writing → t.link.queue ≠ []
  unfailed : t.writer.hasFailed = false → t.lost = []
  failed : t.writer.hasFailed = true → t.link.exited = true
  finished : t.writer = .finished → t.link.queue = []

/-- The books of the replies. -/
structure RepliesKept (t : Traffic) : Prop where
  stream : t.delivered ++ t.link.replies = t.stream.map Prod.snd
  writer : t.repliesOf .writer = t.lost.filterMap Link.lostReply?
  reader : t.repliesOf .reader = t.read.filterMap Link.replyOfOctets? ++
    if t.reader = .reading then [] else Link.exitBehind t.accepted
  gone : t.reader ≠ .reading → t.link.exited = true

/-- The books of the output. -/
structure OutputKept (output : List UInt8) (t : Traffic) : Prop where
  lines : t.read ++ t.unread = Text.octetLines output
  texts : ∀ line ∈ t.read, (textOfOctets? line).isSome
  ended : t.reader = .ended → ∀ line ∈ t.unread.head?, textOfOctets? line = none

/-- When the writer has finished, the accepted requests are those it wrote and those it lost. -/
theorem RequestsKept.accepted_of_finished (h : t.RequestsKept) (hfinished : t.writer = .finished) :
    t.accepted = t.link.written ++ t.lost := by
  rw [h.accepted, h.finished hfinished, List.append_nil]

theorem RequestsKept.exited_of_finished (h : t.RequestsKept) (hfinished : t.writer = .finished) :
    t.link.exited = true :=
  h.failed (by rw [hfinished]; rfl)

/-- What the writer reports is the loss of requests. -/
theorem RepliesKept.act_writer (h : t.RepliesKept) {lost : List Request}
    (hnew : (f t.link).replies = t.link.replies ++ new)
    (hlost : lost.filterMap Link.lostReply? = t.lost.filterMap Link.lostReply? ++ new)
    (hexited : t.link.exited = true → (f t.link).exited = true) (phase : WriterPhase) :
    RepliesKept { t.act .writer f with writer := phase, lost := lost } where
  stream := map_stream_act h.stream hnew
  writer := (repliesOf_act hnew).trans (by rw [h.writer, hlost])
  reader := (repliesOf_act_of_ne (by decide) hnew).trans h.reader
  gone hdone := hexited (h.gone hdone)

/-- The reader reports the end of the session that was started last. -/
theorem RepliesKept.endOutput (h : t.RepliesKept) (hrequests : t.RequestsKept)
    (reading : t.reader = .reading) {phase : ReaderPhase} (hphase : phase ≠ .reading) :
    RepliesKept { t.act .reader Link.endOutput with reader := phase } := by
  have hnew := Link.replies_endOutput hrequests.lastRun
  have hreader := h.reader
  rw [if_pos reading, List.append_nil] at hreader
  refine ⟨map_stream_act h.stream hnew, ?_, ?_, fun _ => rfl⟩
  · exact (repliesOf_act_of_ne (by decide) hnew).trans h.writer
  · refine (repliesOf_act hnew).trans ?_
    rw [hreader, if_neg hphase]
    rfl

namespace Step

theorem requestsKept (step : Step t t') (h : t.RequestsKept) : t'.RequestsKept := by
  cases step with
  | handIn copy r =>
    cases hexited : t.link.exited with
    | true =>
      have haccepted := accepted_handIn_of_exited hexited copy r
      rw [handIn_of_exited hexited] at haccepted ⊢
      exact { h with
        accepted := haccepted.trans h.accepted
        lastRun := haccepted ▸ h.lastRun }
    | false =>
      have haccepted := accepted_handIn_of_open hexited copy r
      rw [handIn_of_open hexited] at haccepted ⊢
      exact { h with
        accepted := by rw [haccepted, h.accepted, List.append_assoc]
        lastRun := by rw [haccepted, List.foldl_append, ← h.lastRun]; rfl
        writing := fun _ => List.append_ne_nil_of_right_ne_nil _ (List.cons_ne_nil r [])
        finished := fun hfinished => by simp [h.exited_of_finished hfinished] at hexited }
  | take free waits =>
    have hlost := h.unfailed (by rw [free]; rfl)
    exact ⟨h.accepted, h.lastRun, fun _ => waits, fun _ => hlost, nofun, nofun⟩
  | write busy =>
    have hlost := h.unfailed (by rw [busy]; rfl)
    obtain ⟨hlast, -, hwritten, -⟩ := t.link.writeNext_fields
    refine ⟨?_, hlast.trans h.lastRun, nofun, fun _ => hlost, nofun, nofun⟩
    show t.accepted = t.link.writeNext.written ++ t.lost ++ t.link.writeNext.queue
    rw [h.accepted, hlost, List.append_nil, List.append_nil, hwritten]
  | fail busy => exact ⟨h.accepted, h.lastRun, nofun, nofun, fun _ => rfl, nofun⟩
  | @lose r queue failed first =>
    have hexited := h.failed (by rw [failed]; rfl)
    have haccepted := h.accepted
    rw [first] at haccepted
    refine ⟨?_, ?_, ?_, ?_, ?_, ?_⟩ <;>
      simp only [act, Link.loseNext_of_queue first]
    · show t.accepted = _
      simp [haccepted]
    · exact h.lastRun
    · simp [failed]
    · simp [failed, WriterPhase.hasFailed]
    · exact fun _ => hexited
    · simp [failed]
  | finish failed drained =>
    have hexited := h.failed (by rw [failed]; rfl)
    exact ⟨h.accepted, h.lastRun, nofun, nofun, fun _ => hexited, fun _ => drained⟩
  | read reading next isText => exact { h with }
  | endOutput reading atEnd => exact { h with failed := fun _ => rfl }
  | cutOff reading => exact { h with failed := fun _ => rfl }
  | deliver first => exact { h with }

theorem repliesKept (step : Step t t') (h : t.RepliesKept) (hrequests : t.RequestsKept) :
    t'.RepliesKept := by
  cases step with
  | handIn copy r =>
    cases hexited : t.link.exited with
    | true =>
      rw [handIn_of_exited hexited]
      have haccepted := accepted_handIn_of_exited hexited copy r
      rw [handIn_of_exited hexited] at haccepted
      exact ⟨h.stream, h.writer, by rw [haccepted]; exact h.reader, h.gone⟩
    | false =>
      have hreading : t.reader = .reading := by
        by_contra hdone
        simp [h.gone hdone] at hexited
      have hreader := h.reader
      rw [if_pos hreading] at hreader
      rw [handIn_of_open hexited]
      exact ⟨h.stream, h.writer, by rw [if_pos hreading]; exact hreader,
        fun hdone => absurd hreading hdone⟩
  | take free waits => exact { h with }
  | write busy =>
    obtain ⟨-, hexited, -, hreplies⟩ := t.link.writeNext_fields
    exact h.act_writer (hreplies.trans (List.append_nil _).symm) (List.append_nil _).symm
      hexited.trans .waiting
  | fail busy =>
    exact h.act_writer (f := Link.close) (List.append_nil _).symm (List.append_nil _).symm
      (fun _ => rfl) .draining
  | @lose r queue failed first =>
    have hlost := Link.loseNext_of_queue first
    have hnew : t.link.loseNext.replies = t.link.replies ++ (Link.lostReply? r).toList := by
      rw [hlost]
    refine h.act_writer hnew ?_ (fun hexited => ?_) t.writer
    · rw [List.filterMap_append]
      cases hreply : Link.lostReply? r <;> simp [hreply]
    · rw [hlost]
      exact hexited
  | finish failed drained => exact { h with }
  | @read line text lines reading next isText =>
    have hnew : (t.link.readLine text).replies =
        t.link.replies ++ (Link.replyOfLine? text).toList := rfl
    have hreader := h.reader
    rw [if_pos reading, List.append_nil] at hreader
    refine ⟨map_stream_act (f := (Link.readLine · text)) h.stream hnew, ?_, ?_, h.gone⟩
    · exact (repliesOf_act_of_ne (f := (Link.readLine · text)) (by decide) hnew).trans h.writer
    · refine (repliesOf_act (f := (Link.readLine · text)) hnew).trans ?_
      show _ = (t.read ++ [line]).filterMap _ ++ if t.reader = .reading then [] else _
      rw [hreader, if_pos reading, List.append_nil, List.filterMap_append]
      cases hreply : Link.replyOfLine? text <;> simp [Link.replyOfOctets?, isText, hreply]
  | endOutput reading atEnd => exact h.endOutput hrequests reading (by decide)
  | cutOff reading => exact h.endOutput hrequests reading (by decide)
  | @deliver r rest first =>
    refine ⟨?_, h.writer, h.reader, h.gone⟩
    have hstream := h.stream
    rw [first] at hstream
    simpa using hstream

theorem outputKept {output : List UInt8} (step : Step t t') (h : t.OutputKept output) :
    t'.OutputKept output := by
  cases step with
  | @read line text lines reading next isText =>
    refine ⟨?_, ?_, ?_⟩
    · have hlines := h.lines
      rw [next] at hlines
      simpa using hlines
    · refine fun read hread => ?_
      rcases List.mem_append.mp hread with hold | hnew
      · exact h.texts read hold
      · rw [List.mem_singleton.mp hnew, isText]
        rfl
    · simp [reading, act]
  | endOutput reading atEnd => exact { h with ended := fun _ => atEnd }
  | cutOff reading => exact { h with ended := nofun }
  | _ => exact { h with }

/-- A link that is closed stays closed, and nothing is accepted any more. -/
theorem closed (step : Step t t') (hexited : t.link.exited = true) :
    t'.link.exited = true ∧ t'.accepted = t.accepted := by
  cases step with
  | handIn copy r =>
    refine ⟨?_, accepted_handIn_of_exited hexited copy r⟩
    rw [handIn_of_exited hexited]
    exact hexited
  | write busy => exact ⟨t.link.writeNext_fields.2.1.trans hexited, rfl⟩
  | lose failed first =>
    refine ⟨?_, rfl⟩
    show t.link.loseNext.exited = true
    rw [Link.loseNext_of_queue first]
    exact hexited
  | fail busy => exact ⟨rfl, rfl⟩
  | endOutput reading atEnd => exact ⟨rfl, rfl⟩
  | cutOff reading => exact ⟨rfl, rfl⟩
  | _ => exact ⟨hexited, rfl⟩

/-- A writer that has finished takes no step. -/
theorem finished (step : Step t t') (hfinished : t.writer = .finished) :
    t'.writer = .finished ∧ t'.lost = t.lost := by
  cases step with
  | take free waits => simp [hfinished] at free
  | write busy => simp [hfinished] at busy
  | fail busy => simp [hfinished] at busy
  | lose failed first => simp [hfinished] at failed
  | finish failed drained => simp [hfinished] at failed
  | _ => exact ⟨hfinished, rfl⟩

end Step

/-- The books of a link to a program with a given output. -/
structure Kept (output : List UInt8) (t : Traffic) : Prop where
  requests : t.RequestsKept
  replies : t.RepliesKept
  output : t.OutputKept output

namespace Steps

variable {output : List UInt8}

theorem kept (reached : Steps (opening output) t) : t.Kept output := by
  induction reached with
  | refl =>
    exact {
      requests := ⟨rfl, rfl, nofun, fun _ => rfl, nofun, nofun⟩
      replies := ⟨rfl, rfl, rfl, fun hdone => absurd rfl hdone⟩
      output := ⟨rfl, nofun, nofun⟩ }
  | tail _ step ih =>
    exact {
      requests := step.requestsKept ih.requests
      replies := step.repliesKept ih.replies ih.requests
      output := step.outputKept ih.output }

theorem closed (later : Steps t t') (hexited : t.link.exited = true) :
    t'.link.exited = true ∧ t'.accepted = t.accepted := by
  induction later with
  | refl => exact ⟨hexited, rfl⟩
  | tail _ step ih =>
    obtain ⟨hexited', haccepted⟩ := step.closed ih.1
    exact ⟨hexited', haccepted.trans ih.2⟩

theorem finished (later : Steps t t') (hfinished : t.writer = .finished) :
    t'.writer = .finished ∧ t'.lost = t.lost := by
  induction later with
  | refl => exact ⟨hfinished, rfl⟩
  | tail _ step ih =>
    obtain ⟨hfinished', hlost⟩ := step.finished ih.1
    exact ⟨hfinished', hlost.trans ih.2⟩

end Steps

/-- **Every accepted request is accounted for.** Let requests be handed in at any copies of the
sending end, and let the writer, the reader and the delivery take their steps in any order.

While the writer has not failed, the accepted requests are, in order, those that were written, the
one that is being written, and those in the queue, and the writer has reported nothing. Once it has
failed and finished, they are those that were written and those that were lost, and it has reported
the end of the session of every lost request that was not to stop one, in the order of the requests.
From then on every request is refused, and nothing of this changes.

The reader has put the replies of the lines it has read, the first ones of the output, into the
stream and, behind them when it is done, the end of the session of the last accepted request to run
a story. The delivery takes the replies in the order of the stream. -/
theorem requests_are_accounted_for {output : List UInt8} (reached : Steps (opening output) t) :
    (t.writer.hasFailed = false →
        t.accepted = t.link.written ++ t.inHand?.toList ++ t.queued ∧
        (t.inHand?.isSome ↔ t.writer = .writing) ∧ t.repliesOf .writer = []) ∧
      (t.writer = .finished →
        t.accepted = t.link.written ++ t.lost ∧
        t.repliesOf .writer =
          ((t.lost.filter fun r => !r.isStop).map fun r => ⟨r.session, .unexpectedExit⟩) ∧
        ∀ t', Steps t t' →
          (∀ r, t'.link.send r = (t'.link, .error .closed)) ∧ t'.accepted = t.accepted ∧
          t'.link.written = t.link.written ∧ t'.lost = t.lost ∧
          t'.repliesOf .writer = t.repliesOf .writer) ∧
      t.repliesOf .reader = t.read.filterMap Link.replyOfOctets? ++
        (if t.reader = .reading then [] else Link.exitBehind t.accepted) ∧
      t.read ++ t.unread = Text.octetLines output ∧
      t.delivered ++ t.link.replies = t.stream.map Prod.snd := by
  obtain ⟨hrequests, hreplies, houtput⟩ := reached.kept
  refine ⟨fun hunfailed => ⟨?_, ?_, ?_⟩, fun hfinished => ⟨?_, ?_, fun t' later => ?_⟩,
    hreplies.reader, houtput.lines, hreplies.stream⟩
  · rw [hrequests.accepted, hrequests.unfailed hunfailed, List.append_nil, List.append_assoc,
      inHand?_append_queued]
  · unfold inHand?
    split
    · rename_i hwriting
      simp [hwriting, hrequests.writing hwriting]
    · simpa
  · rw [hreplies.writer, hrequests.unfailed hunfailed]
    rfl
  · exact hrequests.accepted_of_finished hfinished
  · rw [hreplies.writer, Link.filterMap_lostReply?]
  · obtain ⟨hrequests', hreplies', -⟩ := Steps.kept (reached.trans later)
    obtain ⟨hfinished', hlost⟩ := later.finished hfinished
    obtain ⟨hexited, haccepted⟩ := later.closed (hrequests.exited_of_finished hfinished)
    refine ⟨Link.send_of_exited hexited, haccepted, ?_, hlost, ?_⟩
    · rw [hrequests'.accepted_of_finished hfinished', hrequests.accepted_of_finished hfinished,
        hlost] at haccepted
      exact List.append_cancel_right haccepted
    · rw [hreplies'.writer, hreplies.writer, hlost]

/-- The first request is written, the second cannot be. A request that is handed in before the queue
has been given up is refused, and the session that was started last ends twice. -/
theorem requests_are_accounted_for_when_writer_fails :
    let started := ((opening []).handIn 0 (.run "" 1)).act .writer Link.writeNext
    let waiting := (started.handIn 1 (.stop 1)).handIn 0 (.run "" 2)
    let closed := { waiting.act .writer Link.close with writer := .draining }
    let refused := closed.handIn 1 (.continueWith 1 2)
    let drained := { (refused.act .writer Link.loseNext).act .writer Link.loseNext with
      writer := .finished, lost := [.stop 1, .run "" 2] }
    let t := { drained.act .reader Link.endOutput with reader := .ended }
    Steps (opening []) t ∧ t.writer = .finished ∧
      t.accepted = [.run "" 1] ++ [.stop 1, .run "" 2] ∧
      t.repliesOf .writer = [⟨2, .unexpectedExit⟩] ∧
      t.repliesOf .reader = [⟨2, .unexpectedExit⟩] ∧
      ∀ t', Steps t t' → ∀ r, t'.link.send r = (t'.link, .error .closed) := by
  intro started waiting closed refused drained t
  have hstarted : Steps (opening []) started :=
    .tail (.tail (.single (.handIn 0 (.run "" 1))) (.take rfl (by decide))) (.write rfl)
  have hclosed : Steps started closed :=
    .tail (.tail (.tail (.single (.handIn 1 (.stop 1))) (.handIn 0 (.run "" 2)))
      (.take rfl (by decide))) (.fail rfl)
  have hdrained : Steps closed drained :=
    .tail (.tail (.tail (.single (.handIn 1 (.continueWith 1 2))) (.lose rfl rfl)) (.lose rfl rfl))
      (.finish rfl rfl)
  have reached : Steps (opening []) t :=
    .tail ((hstarted.trans hclosed).trans hdrained) (.endOutput rfl (by decide))
  obtain ⟨-, hfinished, hreader, -⟩ := requests_are_accounted_for reached
  obtain ⟨haccepted, hwriter, hlater⟩ := hfinished rfl
  exact ⟨reached, rfl, haccepted, hwriter, hreader, fun t' later => (hlater t' later).1⟩

end Traffic

end Playthrough
