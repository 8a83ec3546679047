import Playthrough.Proofs.Backstage
import Playthrough.Proofs.IssueSurfaces
import Playthrough.Proofs.OfferedChoices

/-!
# The order of requests

What a director asks of the interpreter is one *exchange* for each session, in the order of the
sessions: to run a content, and then to continue with some choices. Between two exchanges the former
session is asked to stop. Nothing is added to the exchange of a session that has ended, and a
session ends when one of its requests is refused.

The calls tell which requests were made, but not which of them were sent. A *ledger* is a front end
that keeps a receipt for every request, with the answer that the director was given.

## Main definitions

* `Exchange`, `conversation` — what is asked in one session, and in several ones.
* `Ledger` — a front end that keeps receipts.
* `Director.KeepsReceipts` — receipts tell of a refused request only if its session has ended.

## Main results

* `Director.requests_run` — the requests of a play form a conversation.
* `Director.not_continued` — nothing is added to the exchange of a session that has ended.
* `requests_form_conversation` — the order of the requests of a play.
-/

namespace Playthrough

variable {F : Type}

/-! ### Conversations -/

/-- What is asked of the interpreter in one session: to run a content, and to continue with some
choices. -/
structure Exchange where
  content : String
  choices : List Nat := []

/-- The requests of the exchange in a session. -/
def Exchange.requests (x : Exchange) (session : SessionId) : List Request :=
  .run x.content session :: x.choices.map fun n => .continueWith n session

/-- The requests of sessions that follow each other, from the one with the given number. Each
session but the last is asked to stop right before the next one is run. -/
def conversation (session : SessionId) : List Exchange → List Request
  | [] => []
  | [x] => x.requests session
  | x :: y :: xs => x.requests session ++ .stop session :: conversation (session + 1) (y :: xs)

theorem conversation_cons {session : SessionId} (x : Exchange) {xs : List Exchange}
    (h : xs ≠ []) : conversation session (x :: xs) =
      x.requests session ++ .stop session :: conversation (session + 1) xs := by
  cases xs with
  | nil => exact absurd rfl h
  | cons y xs => rfl

/-- One more session. -/
theorem conversation_next (session : SessionId) (xs : List Exchange) (x y : Exchange) :
    conversation session (xs ++ [x] ++ [y]) = conversation session (xs ++ [x]) ++
      .stop (session + xs.length) :: y.requests (session + xs.length + 1) := by
  induction xs generalizing session with
  | nil => rfl
  | cons z xs ih =>
    rw [List.cons_append, List.cons_append, conversation_cons z (by simp),
      conversation_cons z (by simp), ih, List.length_cons, List.append_assoc, List.cons_append,
      Nat.add_right_comm session 1, Nat.add_assoc session xs.length 1]

/-- One more choice in the last session. -/
theorem conversation_continue (session : SessionId) (xs : List Exchange) (x : Exchange) (n : Nat) :
    conversation session (xs ++ [{ x with choices := x.choices ++ [n] }]) =
      conversation session (xs ++ [x]) ++ [.continueWith n (session + xs.length)] := by
  induction xs generalizing session with
  | nil => simp [conversation, Exchange.requests]
  | cons z xs ih =>
    rw [List.cons_append, List.cons_append, conversation_cons z (by simp),
      conversation_cons z (by simp), ih, List.length_cons, List.append_assoc, List.cons_append,
      Nat.add_right_comm session 1, Nat.add_assoc session xs.length 1]

/-- Some requests are those of all sessions up to one. -/
def ConversationUpTo (session : SessionId) (rs : List Request) : Prop :=
  ∃ xs : List Exchange, xs.length = session ∧ rs = conversation 1 xs

namespace ConversationUpTo

variable {session : SessionId} {rs : List Request}

theorem next (h : ConversationUpTo session rs) (content : String) :
    ConversationUpTo (session + 1)
      (rs ++ ((if session = 0 then [] else [.stop session]) ++ [.run content (session + 1)])) := by
  obtain ⟨xs, rfl, rfl⟩ := h
  refine ⟨xs ++ [⟨content, []⟩], by simp, ?_⟩
  rcases List.eq_nil_or_concat xs with rfl | ⟨xs, x, rfl⟩
  · rfl
  · rw [List.concat_eq_append, conversation_next]
    simp [Exchange.requests, Nat.add_comm 1 xs.length]

theorem continue_ (h : ConversationUpTo session rs) (hsession : session ≠ 0) (n : Nat) :
    ConversationUpTo session (rs ++ [.continueWith n session]) := by
  obtain ⟨xs, rfl, rfl⟩ := h
  rcases List.eq_nil_or_concat xs with rfl | ⟨xs, x, rfl⟩
  · exact absurd rfl hsession
  · rw [List.concat_eq_append]
    refine ⟨xs ++ [{ x with choices := x.choices ++ [n] }], by simp, ?_⟩
    rw [conversation_continue, List.length_append, List.length_singleton,
      Nat.add_comm 1 xs.length]

end ConversationUpTo

theorem mem_requests {cs : List Call} {r : Request} : r ∈ requests cs ↔ Call.send r ∈ cs := by
  constructor
  · intro hr
    obtain ⟨c, hc, heq⟩ := List.mem_filterMap.mp hr
    cases c <;> simp_all [Call.request?]
  · exact fun hc => List.mem_filterMap.mpr ⟨_, hc, rfl⟩

namespace Director

variable [Frontend F]

/-- A play has begun just if its first session has. -/
theorem phase_eq_idle_iff_session (front : F) (hs : List (Happening F)) :
    ((opening front).run hs).state.phase = .idle ↔
      ((opening front).run hs).state.session = 0 := by
  induction hs using List.reverseRecOn with
  | nil => exact ⟨fun _ => rfl, fun _ => rfl⟩
  | append_singleton hs h ih =>
    have step := ((opening front).run hs).turn_step h
    rw [run_append, run_singleton, step.session_eq]
    cases hstart : h.isStart with
    | true => simp [(step.of_isStart hstart).1]
    | false => simpa [step.phase_eq_idle_iff hstart] using ih

/-- The requests of a play form a conversation. -/
theorem requests_run (front : F) (hs : List (Happening F)) :
    ConversationUpTo ((opening front).run hs).state.session
      (requests ((opening front).run hs).calls) := by
  induction hs using List.reverseRecOn with
  | nil => exact ⟨[], rfl, rfl⟩
  | append_singleton hs h ih =>
    let d := (opening front).run hs
    rw [run_append, run_singleton, d.calls_happen, requests_append]
    rcases (d.turn_step h).requests_cases with
      ⟨-, hsession, content, hcs⟩ | ⟨-, hsession, -, hcs | ⟨n, hrunning, hcs⟩⟩
    · rw [hcs, hsession]
      exact ih.next content
    · rw [hcs, hsession, List.append_nil]
      exact ih
    · have hbegun : d.state.session ≠ 0 :=
        (phase_eq_idle_iff_session front hs).not.mp (by rw [hrunning]; exact Phase.noConfusion)
      rw [hcs, hsession]
      exact ih.continue_ hbegun n

variable (d : Director (Recorder F)) (h : Happening F)

/-- A turn that continues a session is one of the running session, and makes no other request. -/
theorem requests_turn_of_continueWith {n : Nat} {session : SessionId}
    (hmem : .continueWith n session ∈ requests (d.turn h).calls) :
    session = d.state.session ∧ d.state.phase = .running ∧
      requests (d.turn h).calls = [.continueWith n session] := by
  rcases (d.turn_step h).requests_cases with
    ⟨-, -, content, hcs⟩ | ⟨-, -, -, hcs | ⟨m, hrunning, hcs⟩⟩ <;> rw [hcs] at hmem
  · split at hmem <;> simp at hmem
  · simp at hmem
  · obtain ⟨rfl, rfl⟩ : n = m ∧ session = d.state.session := by simpa using hmem
    exact ⟨rfl, hrunning, hcs⟩

/-- Once a session is over, it stays so: it does not run any more, or is not the current one. -/
theorem over_happen {k : SessionId} (hle : k ≤ d.state.session)
    (hover : d.state.session = k → d.state.phase ≠ .running) :
    k ≤ (d.happen h).1.state.session ∧
      ((d.happen h).1.state.session = k → (d.happen h).1.state.phase ≠ .running) := by
  rcases (d.turn_step h).requests_cases with
    ⟨-, hsession, -⟩ | ⟨-, hsession, hrunning, -⟩ <;> rw [hsession]
  · exact ⟨Nat.le_succ_of_le hle, fun heq => absurd (heq ▸ hle) (Nat.not_succ_le_self _)⟩
  · exact ⟨hle, fun heq hphase => hover heq (hrunning hphase)⟩

/-- Nothing is added to the exchange of a session that is over. -/
theorem not_continued {k : SessionId} (hle : k ≤ d.state.session)
    (hover : d.state.session = k → d.state.phase ≠ .running) (hs : List (Happening F)) (n : Nat) :
    .continueWith n k ∉ requests (callsOf (d.turns hs)) := by
  induction hs generalizing d with
  | nil => simp
  | cons h hs ih =>
    rw [turns, ← List.singleton_append, callsOf_append, callsOf_singleton, requests_append,
      List.mem_append, not_or]
    obtain ⟨hle', hover'⟩ := d.over_happen h hle hover
    refine ⟨fun hmem => ?_, ih _ hle' hover'⟩
    obtain ⟨rfl, hrunning, -⟩ := d.requests_turn_of_continueWith h hmem
    exact hover rfl hrunning

end Director

/-! ### Receipts -/

/-- A front end that keeps a receipt for every request: the request, and what was answered. -/
structure Ledger (F : Type) where
  front : F
  receipts : List (Request × Except SendError Unit) := []

namespace Ledger

variable [Frontend F]

instance : Frontend (Ledger F) where
  content l := Frontend.content l.front
  tokens l := Frontend.tokens l.front
  windowWidth l := Frontend.windowWidth l.front
  listWidth l := Frontend.listWidth l.front
  cue q l := { l with front := Frontend.cue q l.front }
  mark rows style l :=
    let (front, m) := Frontend.mark rows style l.front
    ({ l with front }, m)
  send q l :=
    let (front, result) := Frontend.send q l.front
    (⟨front, l.receipts ++ [(q, result)]⟩, result)

theorem receipts_send (q : Request) (r : Recorder (Ledger F)) :
    (Frontend.send q r).1.front.receipts =
      r.front.receipts ++ [(q, (Frontend.send q r).2)] := rfl

/-- Calls only add receipts, one for each request among them. -/
theorem kept_receipts (old : List (Request × Except SendError Unit)) (base : List Call) :
    Frontend.Kept fun r : Recorder (Ledger F) => ∃ new cs, r.front.receipts = old ++ new ∧
      r.calls = base ++ cs ∧ new.map Prod.fst = requests cs where
  cue q r h := by
    obtain ⟨new, cs, hreceipts, hcalls, hnew⟩ := h
    refine ⟨new, cs ++ [.cue q], hreceipts, ?_, by simpa using hnew⟩
    rw [Recorder.calls_cue, hcalls, List.append_assoc]
  mark rows style r h := by
    obtain ⟨new, cs, hreceipts, hcalls, hnew⟩ := h
    refine ⟨new, cs ++ [.mark (Frontend.mark rows style r).2 rows style], hreceipts, ?_,
      by simpa using hnew⟩
    rw [Recorder.calls_mark, hcalls, List.append_assoc]
  send q r h := by
    obtain ⟨new, cs, hreceipts, hcalls, hnew⟩ := h
    refine ⟨new ++ [(q, (Frontend.send q r).2)], cs ++ [.send q], ?_, ?_, by simpa using hnew⟩
    · rw [receipts_send, hreceipts, List.append_assoc]
    · rw [Recorder.calls_send, hcalls, List.append_assoc]

end Ledger

/-- What happens in a play, in one on a ledger. A change leaves the receipts alone. -/
def Happening.onLedger : Happening F → Happening (Ledger F)
  | .order o => .order o
  | .reply r => .reply r
  | .change f => .change fun l => { l with front := f l.front }

namespace Director

variable [Frontend F]

theorem calls_turn_eq {d : Director (Recorder F)} {h : Happening F} {cs : List Call}
    (hcalls : (d.happen h).1.calls = d.calls ++ cs) : (d.turn h).calls = cs :=
  List.append_cancel_left ((d.calls_happen h).symm.trans hcalls)

/-- A turn that makes a request ends with one. -/
theorem exists_request (d : Director (Recorder F)) (h : Happening F) :
    requests (d.turn h).calls = [] ∨
      ∃ (before : Director (Recorder F)) (q : Request), (d.happen h).1 = before.request q := by
  rcases (d.turn_step h).requests_cases with ⟨hstart, -⟩ | ⟨-, -, -, hnone | ⟨n, -, hcs⟩⟩
  · match h with
    | .order (.compile content) => exact .inr ⟨_, _, rfl⟩
    | .order .startOver => exact .inr ⟨_, _, rfl⟩
    | .order .takeBack => exact .inr ⟨_, _, rfl⟩
  · exact .inl hnone
  · have hmem : Call.send (.continueWith n d.state.session) ∈ (d.turn h).calls :=
      mem_requests.mp (by rw [hcs]; exact List.mem_singleton_self _)
    obtain ⟨-, -, ⟨rfl, -⟩ | ⟨heard, -⟩⟩ := (d.turn_step h).of_submission hmem
    · cases hrefusal : refusal? d.state d.state.session n with
      | none => exact .inr ⟨_, _, congrArg Prod.fst (d.select_eq hrefusal)⟩
      | some e =>
        have hsame : (d.happen (.order (.select d.state.session n))).1 = d :=
          congrArg Prod.fst (d.select_of_refused hrefusal)
        have hcalls : (d.turn (.order (.select d.state.session n))).calls = [] :=
          calls_turn_eq (by rw [hsame, List.append_nil])
        exact .inl (by rw [hcalls]; rfl)
    · have hsettle : (d.happen h).1 = d.settlePoint := by
        rw [heard.1, happen, d.receive_of_hears ⟨heard.2, rfl⟩]
        rfl
      cases hdue : replayedChoice d.state with
      | none =>
        rw [d.settlePoint_of_none hdue] at hsettle
        have hcalls : (d.turn h).calls = [.cue .scrollDown] :=
          calls_turn_eq (by rw [hsettle]; rfl)
        exact .inl (by rw [hcalls]; rfl)
      | some m => exact .inr ⟨_, _, hsettle.trans (d.settlePoint_eq hdue)⟩

/-- All receipts of a director on a ledger, the first one first. -/
abbrev receipts (d : Director (Recorder (Ledger F))) : List (Request × Except SendError Unit) :=
  d.front.front.receipts

theorem receipts_request (d : Director (Recorder (Ledger F))) (q : Request) :
    (d.request q).receipts = d.receipts ++ [(q, (Frontend.send q d.front).2)] := by
  rw [request]
  cases hsend : Frontend.send q d.front with
  | mk front result =>
    have hreceipts : front.front.receipts = d.receipts ++ [(q, result)] := by
      simpa [hsend] using Ledger.receipts_send q d.front
    cases result <;> exact hreceipts

variable (d : Director (Recorder (Ledger F))) (h : Happening F)

/-- A turn adds one receipt for each of its requests. -/
theorem receipts_happen :
    ∃ new, (d.happen h.onLedger).1.receipts = d.receipts ++ new ∧
      new.map Prod.fst = requests (d.turn h.onLedger).calls := by
  have hkept := Ledger.kept_receipts (F := F) d.receipts d.calls
  have hbefore : ∃ new cs, d.receipts = d.receipts ++ new ∧ d.calls = d.calls ++ cs ∧
      new.map Prod.fst = requests cs := ⟨[], [], by simp, by simp, rfl⟩
  have hafter : ∃ new cs, (d.happen h.onLedger).1.receipts = d.receipts ++ new ∧
      (d.happen h.onLedger).1.calls = d.calls ++ cs ∧ new.map Prod.fst = requests cs := by
    cases h with
    | order o => exact hkept.follow hbefore o
    | reply r => exact hkept.receive hbefore r
    | change f => exact hbefore
  obtain ⟨new, cs, hreceipts, hcalls, hnew⟩ := hafter
  exact ⟨new, hreceipts, by rw [calls_turn_eq hcalls, hnew]⟩

/-- Among the new receipts of a turn, one for the session behind it that tells of a refusal is the
last one, and the session has failed. -/
theorem not_running_of_refused {new : List (Request × Except SendError Unit)}
    (hreceipts : (d.happen h.onLedger).1.receipts = d.receipts ++ new)
    (hnew : new.map Prod.fst = requests (d.turn h.onLedger).calls) {r : Request} {e : SendError}
    (hmem : (r, .error e) ∈ new) (hsession : r.session = (d.happen h.onLedger).1.state.session) :
    (d.happen h.onLedger).1.state.phase ≠ .running := by
  rcases List.eq_nil_or_concat new with rfl | ⟨first, last, rfl⟩
  · contradiction
  rw [List.concat_eq_append] at hreceipts hnew hmem
  obtain hnone | ⟨before, q, hrequest⟩ := d.exists_request h.onLedger
  · rw [hnone] at hnew
    simp at hnew
  have hlast : last = (q, (Frontend.send q before.front).2) := by
    rw [hrequest, before.receipts_request, ← List.append_assoc] at hreceipts
    exact (List.singleton_inj.mp (List.append_inj' hreceipts rfl).2).symm
  rcases List.mem_append.mp hmem with hfirst | hmem
  · -- only the request that stops the former session comes before the last one
    have hr : r ∈ first.map Prod.fst := List.mem_map_of_mem hfirst
    rw [List.map_append, List.map_singleton] at hnew
    rcases (d.turn_step h.onLedger).requests_cases with
      ⟨-, hnext, content, hcs⟩ | ⟨-, -, -, hcs | ⟨n, -, hcs⟩⟩ <;> rw [hcs] at hnew
    · rw [(List.append_inj' hnew rfl).1] at hr
      split at hr
      · contradiction
      · obtain rfl := List.mem_singleton.mp hr
        exact absurd (hsession.trans hnext) (Nat.ne_of_lt (Nat.lt_succ_self _))
    · simp at hnew
    · rw [(List.append_inj' (hnew.trans (List.nil_append _).symm) rfl).1] at hr
      contradiction
  · rw [← List.mem_singleton.mp hmem, Prod.mk.injEq] at hlast
    rw [hrequest, phase_request_of_refused hlast.2.symm]
    exact Phase.noConfusion

/-- What the receipts tell: the requests that were made, which are of sessions up to the current
one, and whether the current session had a request refused, in which case it does not run. -/
structure KeepsReceipts : Prop where
  requests_eq : d.receipts.map Prod.fst = requests d.calls
  session_le : ∀ r ∈ requests d.calls, r.session ≤ d.state.session
  refused : ∀ r e, (r, .error e) ∈ d.receipts → r.session = d.state.session →
    d.state.phase ≠ .running

variable {d}

theorem KeepsReceipts.happen (kept : d.KeepsReceipts) : (d.happen h.onLedger).1.KeepsReceipts := by
  obtain ⟨new, hreceipts, hnew⟩ := d.receipts_happen h
  have hcalls := d.calls_happen h.onLedger
  refine ⟨?_, fun r hr => ?_, fun r e hmem hsession => ?_⟩
  · rw [hreceipts, List.map_append, hcalls, requests_append, kept.requests_eq, hnew]
  · rw [hcalls, requests_append] at hr
    rcases List.mem_append.mp hr with hr | hr
    · exact Nat.le_trans (kept.session_le r hr) (d.session_le_happen h.onLedger)
    · exact (d.turn_step h.onLedger).session_le_of_mem_requests r hr
  · rw [hreceipts] at hmem
    rcases List.mem_append.mp hmem with hmem | hmem
    · have hr : r ∈ requests d.calls := by
        rw [← kept.requests_eq]
        exact List.mem_map_of_mem hmem
      refine (d.over_happen h.onLedger (kept.session_le r hr) fun heq => ?_).2 hsession.symm
      exact kept.refused r e hmem heq.symm
    · exact d.not_running_of_refused h hreceipts hnew hmem hsession

theorem keepsReceipts_run (front : F) (hs : List (Happening F)) :
    ((opening (⟨front, []⟩ : Ledger F)).run (hs.map Happening.onLedger)).KeepsReceipts := by
  induction hs using List.reverseRecOn with
  | nil =>
    exact ⟨rfl, fun _ hr => absurd hr List.not_mem_nil, fun _ _ hr => absurd hr List.not_mem_nil⟩
  | append_singleton hs h ih =>
    rw [List.map_append, List.map_singleton, run_append, run_singleton]
    exact ih.happen h

end Director

/-- **Requests form a conversation.** In every play, the requests are one exchange for each session,
in the order of their numbers from one on, each session but the last being asked to stop right
before the next one is run. Once a session has ended or one of its requests was refused, it is not
continued any more, whatever happens later. A turn continues at most once, and then a choice was
offered in the session since it was continued last, or since it began. -/
theorem requests_form_conversation [Frontend F] (front : F) (hs : List (Happening F)) :
    let opening := Director.opening (⟨front, []⟩ : Ledger F)
    let d := opening.run (hs.map Happening.onLedger)
    ConversationUpTo d.state.session (requests d.calls) ∧
      d.receipts.map Prod.fst = requests d.calls ∧
      (d.state.phase.isFinal = true ∨
          (∃ r e, (r, .error e) ∈ d.receipts ∧ r.session = d.state.session) →
        ∀ (later : List (Happening F)) (n : Nat), .continueWith n d.state.session ∉
          requests (callsOf (d.turns (later.map Happening.onLedger)))) ∧
      ∀ (h : Happening F) (n : Nat) (session : SessionId),
        .continueWith n session ∈ requests (d.turn h.onLedger).calls →
          requests (d.turn h.onLedger).calls = [.continueWith n session] ∧
            ∃ c, OfferedSince (opening.turns (hs.map Happening.onLedger)) session c := by
  intro opening d
  have kept : d.KeepsReceipts := Director.keepsReceipts_run front hs
  have hoffered := pointOffered_run (⟨front, []⟩ : Ledger F) (hs.map Happening.onLedger)
  refine ⟨Director.requests_run _ _, kept.requests_eq, fun hover later n => ?_,
    fun h n session hmem => ?_⟩
  · refine d.not_continued (Nat.le_refl _) (fun _ hrunning => ?_) _ n
    rcases hover with hfinal | ⟨r, e, hr, hsession⟩
    · rw [hrunning] at hfinal
      contradiction
    · exact kept.refused r e hr hsession hrunning
  · obtain ⟨rfl, -, hcs⟩ := d.requests_turn_of_continueWith h.onLedger hmem
    obtain ⟨-, -, hcase⟩ := (d.turn_step h.onLedger).of_submission (mem_requests.mp hmem)
    refine ⟨hcs, ?_⟩
    rcases hcase with ⟨-, c, hc, -⟩ | ⟨-, -, hopen⟩
    · exact ⟨c, hoffered.since c hc⟩
    · obtain ⟨c, hc⟩ := List.exists_mem_of_ne_nil _ (hoffered.some_offered hopen)
      exact ⟨c, hoffered.since c hc⟩

end Playthrough
