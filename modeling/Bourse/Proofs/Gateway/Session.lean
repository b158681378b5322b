import Bourse.Gateway.Session

/-!
# What a session guarantees

Whatever the threads sharing a session do, and in whatever order their actions fall, the
session keeps its promises (`Session.Guarantees`): the handler runs on the messages the session
accepted, once each and in the order they were accepted, and on no other; the client's reader
takes the messages queued for the client, once each and in the order they were queued; a close
returns only after every accepted message was handled, and refuses every later one; once closed
and emptied, the session has delivered everything it queued and answers every further take
with nothing; and a handler that panics is answered with exactly one business reject while the
worker goes on to the next message.

What the actions did is read off their events (`SessionEvent.accepted?` and the like). The
proof is an invariant (`Session.Consistent`): the accepted messages are those handled followed
by those waiting, and the queued ones those taken followed by those waiting, while the close
moves through its stages only after the worker. `Session.Moves` says once what a step can do,
so that the invariant is checked move by move.
-/

namespace Bourse

namespace SessionEvent

/-- The message a client's submit had accepted. -/
def accepted? : SessionEvent → Option String
  | .submitted raw true => some raw
  | _ => none

/-- The message the handler ran on. -/
def handled? : SessionEvent → Option String
  | .handling raw => some raw
  | _ => none

/-- The message queued for the client. -/
def queued? : SessionEvent → Option Outbound
  | .sent message true => some message
  | .rejected true => some Session.internalError
  | _ => none

/-- The message the client's reader took. -/
def taken? : SessionEvent → Option Outbound
  | .taken message => message
  | _ => none

end SessionEvent

namespace Session

/-- What holds of a session after any run, given what its actions did. -/
structure Consistent (session : Session) (events : List SessionEvent) : Prop where
  /-- Every accepted message was handled, or still waits, in the order accepted. -/
  inbound : events.filterMap SessionEvent.accepted? =
    events.filterMap SessionEvent.handled? ++ session.inbound
  /-- Every queued message was taken, or still waits, in the order queued. -/
  outbound : events.filterMap SessionEvent.queued? =
    events.filterMap SessionEvent.taken? ++ session.outbound
  /-- The inbound queue is closed exactly when a close began. -/
  inboundClosed : session.inboundClosed = true ↔ session.close ≠ .open
  /-- The worker leaves only an empty inbound queue, once it is closed. -/
  drained : session.worker = .exited → session.inbound = [] ∧ session.inboundClosed = true
  /-- The session is detached only once the worker is gone. -/
  detachedAfterExit : session.close = .detached ∨ session.close = .closed →
    session.worker = .exited
  /-- The outbound queue is closed exactly when the close finished. -/
  outboundClosed : session.outboundClosed = true ↔ session.close = .closed

/-- A session just opened, before any action, is consistent. -/
theorem consistent_opened : opened.Consistent [] :=
  ⟨rfl, rfl, by simp [opened], fun waiting => SessionWorker.noConfusion waiting, by simp [opened],
    by simp [opened]⟩

/-- Every move a session can make, with what it shows. -/
inductive Moves : Session → Session → SessionEvent → Prop
  | accept {session : Session} (raw : String) (running : session.worker ≠ .crashed)
      (accepting : session.inboundClosed = false) :
      Moves session { session with inbound := session.inbound ++ [raw] } (.submitted raw true)
  | refuse {session : Session} (raw : String) (running : session.worker ≠ .crashed)
      (refusing : session.inboundClosed = true) :
      Moves session session (.submitted raw false)
  | queue {session : Session} (message : Outbound) (running : session.worker ≠ .crashed)
      (queueing : session.outboundClosed = false) :
      Moves session { session with outbound := session.outbound ++ [message] } (.sent message true)
  | drop {session : Session} (message : Outbound) (running : session.worker ≠ .crashed)
      (dropping : session.outboundClosed = true) :
      Moves session session (.sent message false)
  | take {session : Session} {message : Outbound} {rest : List Outbound}
      (running : session.worker ≠ .crashed) (front : session.outbound = message :: rest) :
      Moves session { session with outbound := rest } (.taken (some message))
  | finish {session : Session} (running : session.worker ≠ .crashed) (empty : session.outbound = [])
      (finished : session.outboundClosed = true) :
      Moves session session (.taken none)
  | pop {session : Session} {raw : String} {rest : List String} (waiting : session.worker = .waiting)
      (front : session.inbound = raw :: rest) :
      Moves session { session with inbound := rest, worker := .handling raw } (.handling raw)
  | exit {session : Session} (waiting : session.worker = .waiting) (empty : session.inbound = [])
      (finished : session.inboundClosed = true) :
      Moves session { session with worker := .exited } .exited
  | handled {session : Session} {raw : String} (handling : session.worker = .handling raw) :
      Moves session { session with worker := .waiting } .returned
  | reject {session : Session} {raw : String} (handling : session.worker = .handling raw) :
      Moves session { (session.offer internalError).1 with worker := .waiting }
        (.rejected (session.offer internalError).2)
  | crash {session : Session} {raw : String} (handling : session.worker = .handling raw) :
      Moves session { session with worker := .crashed } .crashed
  | beginClose {session : Session} (running : session.worker ≠ .crashed)
      (opened : session.close = .open) :
      Moves session { session with inboundClosed := true, close := .draining } .closing
  | detach {session : Session} (draining : session.close = .draining)
      (exited : session.worker = .exited) :
      Moves session { session with close := .detached } .detached
  | closeOutbound {session : Session} (running : session.worker ≠ .crashed)
      (detached : session.close = .detached) :
      Moves session { session with outboundClosed := true, close := .closed } .closedOutbound
  | closeReturns {session : Session} (running : session.worker ≠ .crashed)
      (closed : session.close = .closed) :
      Moves session session .closeReturned

/-- Every step a session takes is one of its moves. -/
theorem step_moves {session after : Session} {action : SessionAction} {event : SessionEvent}
    (stepped : session.step action = some (after, event)) : Moves session after event := by
  unfold step at stepped
  split at stepped
  · cases stepped
  rename_i running
  split at stepped
  · split at stepped <;> cases stepped
    · exact .refuse _ running ‹_›
    · exact .accept _ running (Bool.eq_false_iff.mpr ‹_›)
  · simp only [offer] at stepped
    split at stepped <;> cases stepped
    · exact .drop _ running ‹_›
    · exact .queue _ running (Bool.eq_false_iff.mpr ‹_›)
  · split at stepped
    · cases stepped
      exact .take running ‹_›
    · split at stepped
      · cases stepped
        exact .finish running ‹_› ‹_›
      · cases stepped
  · split at stepped
    · cases stepped
      exact .pop ‹_› ‹_›
    · split at stepped
      · cases stepped
        exact .exit ‹_› ‹_› ‹_›
      · cases stepped
    · cases stepped
  · split at stepped
    · cases stepped
      exact .handled ‹_›
    · cases stepped
      exact .reject ‹_›
    · cases stepped
      exact .crash ‹_›
    · cases stepped
  · split at stepped
    · cases stepped
      exact .beginClose running ‹_›
    · cases stepped
  · split at stepped
    · cases stepped
      exact .detach ‹_ ∧ _›.1 ‹_ ∧ _›.2
    · cases stepped
  · split at stepped
    · cases stepped
      exact .closeOutbound running ‹_›
    · cases stepped
  · split at stepped
    · cases stepped
      exact .closeReturns running ‹_›
    · cases stepped

/-- An event that shows a log's message on neither side leaves the log's equation as it was. -/
theorem log_quiet {α : Type} {added removed : SessionEvent → Option α} {events : List SessionEvent}
    {event : SessionEvent} {queue : List α}
    (log : events.filterMap added = events.filterMap removed ++ queue)
    (unadded : added event = none) (unremoved : removed event = none) :
    (events ++ [event]).filterMap added = (events ++ [event]).filterMap removed ++ queue := by
  simp [log, unadded, unremoved]

/-- Every move keeps a session consistent with what its actions did. -/
theorem Consistent.move {session after : Session} {events : List SessionEvent}
    {event : SessionEvent} (consistent : session.Consistent events)
    (moves : Moves session after event) : after.Consistent (events ++ [event]) := by
  obtain ⟨inbound, outbound, inboundClosed, drained, detachedAfterExit, outboundClosed⟩ := consistent
  -- Each move touches one queue end or one stage: the fields it leaves alone carry over, and a
  -- log its event shows nothing of stays as it was.
  cases moves with
  | accept raw running accepting =>
    refine ⟨by simp [SessionEvent.accepted?, SessionEvent.handled?, inbound],
      log_quiet outbound rfl rfl, inboundClosed, fun exited => ?_, detachedAfterExit,
      outboundClosed⟩
    -- the worker exits only once the inbound queue is closed, and this accept found it open
    simp [(drained exited).2] at accepting
  | refuse raw running refusing =>
    exact ⟨log_quiet inbound rfl rfl, log_quiet outbound rfl rfl, inboundClosed, drained,
      detachedAfterExit, outboundClosed⟩
  | queue message running queueing =>
    exact ⟨log_quiet inbound rfl rfl,
      by simp [SessionEvent.queued?, SessionEvent.taken?, outbound], inboundClosed, drained,
      detachedAfterExit, outboundClosed⟩
  | drop message running dropping =>
    exact ⟨log_quiet inbound rfl rfl, log_quiet outbound rfl rfl, inboundClosed, drained,
      detachedAfterExit, outboundClosed⟩
  | take running front =>
    exact ⟨log_quiet inbound rfl rfl,
      by simp [SessionEvent.queued?, SessionEvent.taken?, outbound, front], inboundClosed, drained,
      detachedAfterExit, outboundClosed⟩
  | finish running empty finished =>
    exact ⟨log_quiet inbound rfl rfl, log_quiet outbound rfl rfl, inboundClosed, drained,
      detachedAfterExit, outboundClosed⟩
  | pop waiting front =>
    exact ⟨by simp [SessionEvent.accepted?, SessionEvent.handled?, inbound, front],
      log_quiet outbound rfl rfl, inboundClosed, fun exited => SessionWorker.noConfusion exited,
      fun late => absurd (detachedAfterExit late) (by simp [waiting]), outboundClosed⟩
  | exit waiting empty finished =>
    exact ⟨log_quiet inbound rfl rfl, log_quiet outbound rfl rfl, inboundClosed,
      fun _ => ⟨empty, finished⟩, fun _ => rfl, outboundClosed⟩
  | handled handling =>
    exact ⟨log_quiet inbound rfl rfl, log_quiet outbound rfl rfl, inboundClosed,
      fun exited => SessionWorker.noConfusion exited,
      fun late => absurd (detachedAfterExit late) (by simp [handling]), outboundClosed⟩
  | reject handling =>
    -- the reject is queued exactly when the outbound queue is still open
    have attached : ¬(session.close = .detached ∨ session.close = .closed) :=
      fun late => absurd (detachedAfterExit late) (by simp [handling])
    cases open? : session.outboundClosed with
    | false =>
      simp only [offer, open?, Bool.false_eq_true, reduceIte]
      exact ⟨log_quiet inbound rfl rfl,
        by simp [SessionEvent.queued?, SessionEvent.taken?, outbound], inboundClosed,
        fun exited => SessionWorker.noConfusion exited, fun late => absurd late attached,
        open? ▸ outboundClosed⟩
    | true =>
      simp only [offer, open?, reduceIte]
      exact ⟨log_quiet inbound rfl rfl, log_quiet outbound rfl rfl, inboundClosed,
        fun exited => SessionWorker.noConfusion exited, fun late => absurd late attached,
        open? ▸ outboundClosed⟩
  | crash handling =>
    exact ⟨log_quiet inbound rfl rfl, log_quiet outbound rfl rfl, inboundClosed,
      fun exited => SessionWorker.noConfusion exited,
      fun late => absurd (detachedAfterExit late) (by simp [handling]), outboundClosed⟩
  | beginClose running opened =>
    exact ⟨log_quiet inbound rfl rfl, log_quiet outbound rfl rfl, by simp,
      fun exited => ⟨(drained exited).1, rfl⟩, by simp, by simp [outboundClosed, opened]⟩
  | detach draining exited =>
    exact ⟨log_quiet inbound rfl rfl, log_quiet outbound rfl rfl,
      by simp [inboundClosed, draining], drained, fun _ => exited,
      by simp [outboundClosed, draining]⟩
  | closeOutbound running detached =>
    exact ⟨log_quiet inbound rfl rfl, log_quiet outbound rfl rfl,
      by simp [inboundClosed, detached], drained, fun _ => detachedAfterExit (.inl detached),
      by simp⟩
  | closeReturns running closed =>
    exact ⟨log_quiet inbound rfl rfl, log_quiet outbound rfl rfl, inboundClosed, drained,
      detachedAfterExit, outboundClosed⟩

/-- Every run keeps a session consistent with what its actions did. -/
theorem Consistent.runs {session last : Session} {events later : List SessionEvent}
    {actions : List SessionAction} (consistent : session.Consistent events)
    (ran : session.runs actions = some (last, later)) : last.Consistent (events ++ later) := by
  induction actions generalizing session events later with
  | nil =>
    obtain ⟨rfl, rfl⟩ := Prod.mk.inj (Option.some.inj ran)
    simpa using consistent
  | cons action rest inductionHypothesis =>
    simp only [Session.runs] at ran
    cases stepped : session.step action with
    | none => rw [stepped] at ran; cases ran
    | some result =>
      obtain ⟨after, event⟩ := result
      rw [stepped] at ran
      obtain ⟨⟨last', rest'⟩, ranRest, same⟩ := Option.map_eq_some_iff.mp ran
      obtain ⟨rfl, rfl⟩ := Prod.mk.inj same
      simpa using inductionHypothesis (consistent.move (step_moves stepped)) ranRest

/-- What a session guarantees, at any point of any run, given what its actions did. -/
structure Guarantees (session : Session) (events : List SessionEvent) : Prop where
  /-- The handler ran on accepted messages only, each once, in the order they were accepted. -/
  handledInOrder :
    (events.filterMap SessionEvent.handled?) <+: events.filterMap SessionEvent.accepted?
  /-- The reader took queued messages only, each once, in the order they were queued. -/
  takenInOrder : (events.filterMap SessionEvent.taken?) <+: events.filterMap SessionEvent.queued?
  /-- A close returns only once the handler has run on every accepted message and the worker
  is gone; no message is accepted after that. -/
  closeAfterHandling : (session.step .closeReturns).isSome →
    events.filterMap SessionEvent.handled? = events.filterMap SessionEvent.accepted? ∧
      session.worker = .exited ∧ ∀ raw, session.step (.submit raw) = some (session, .submitted raw false)
  /-- Once the session is closed and the reader took everything, it took every queued message,
  and every further take finds nothing. -/
  nextAfterClose : session.outboundClosed = true → session.outbound = [] →
    events.filterMap SessionEvent.taken? = events.filterMap SessionEvent.queued? ∧
      session.step .next = some (session, .taken none)
  /-- A handler that panics is answered with one business reject, queued for the client, and
  the worker goes on to the next message. -/
  panicRejected : ∀ raw, session.worker = .handling raw →
    session.step (.complete .panicked) =
      some ({ session with outbound := session.outbound ++ [internalError], worker := .waiting },
        .rejected true)

/-- A consistent session gives its guarantees. -/
theorem Consistent.guarantees {session : Session} {events : List SessionEvent}
    (consistent : session.Consistent events) : session.Guarantees events where
  handledInOrder := by
    rw [consistent.inbound]
    exact List.prefix_append _ _
  takenInOrder := by
    rw [consistent.outbound]
    exact List.prefix_append _ _
  closeAfterHandling returns := by
    -- A close returns only from a session whose close has finished.
    have finished : session.close = .closed := by
      simp only [step] at returns
      split at returns
      · cases returns
      · split at returns
        · assumption
        · cases returns
    have exited := consistent.detachedAfterExit (.inr finished)
    obtain ⟨empty, refusing⟩ := consistent.drained exited
    refine ⟨by simpa [empty] using consistent.inbound.symm, exited, fun raw => ?_⟩
    simp [step, exited, refusing]
  nextAfterClose refusing empty := by
    have exited := consistent.detachedAfterExit (.inr (consistent.outboundClosed.mp refusing))
    refine ⟨by simpa [empty] using consistent.outbound.symm, ?_⟩
    simp [step, exited, empty, refusing]
  panicRejected raw handling := by
    -- The outbound queue closes only after the worker is gone.
    have queueing : session.outboundClosed = false := by
      cases closedOut : session.outboundClosed
      · rfl
      · have exited := consistent.detachedAfterExit (.inr (consistent.outboundClosed.mp closedOut))
        rw [handling] at exited
        cases exited
    simp [step, handling, offer, queueing]

/-- Sessions keep their guarantees: at every point of every run of a session, with any
messages submitted and sent from any threads, any closes and any handler outcomes, in any order,
the handler has run on the accepted messages only, once each and in order; the client's reader
has taken queued messages only, once each and in order; a close returns only after every
accepted message was handled; once closed and emptied, the session has delivered every queued
message and answers every take with nothing; and a handler that panics is answered with one
business reject while the worker goes on. -/
theorem runs_keep_guarantees (actions : List SessionAction) {session : Session}
    {events : List SessionEvent} (ran : opened.runs actions = some (session, events)) :
    session.Guarantees events :=
  (by simpa using consistent_opened.runs ran : session.Consistent events).guarantees

/-- A client sends one message, whose handler panics, and the session is closed. -/
def panickingSchedule : List SessionAction :=
  [.submit "a", .pop, .complete .panicked, .beginClose, .pop, .detach, .closeOutbound, .next,
    .closeReturns]

/-- The session of `panickingSchedule` rejects the message with one business reject, which
the reader takes, and closes after handling it. -/
theorem panicking_session_keeps_guarantees :
    opened.runs panickingSchedule =
        some (⟨[], true, [], true, .exited, .closed⟩,
          [.submitted "a" true, .handling "a", .rejected true, .closing, .exited, .detached,
            .closedOutbound, .taken (some internalError), .closeReturned]) ∧
      Session.Guarantees ⟨[], true, [], true, .exited, .closed⟩
        [.submitted "a" true, .handling "a", .rejected true, .closing, .exited, .detached,
          .closedOutbound, .taken (some internalError), .closeReturned] :=
  ⟨rfl, runs_keep_guarantees panickingSchedule rfl⟩

end Session

end Bourse
