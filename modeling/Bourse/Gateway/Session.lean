import Bourse.Gateway.Schema

/-!
# Trading sessions

A session stands between one client's connection and the gateway. Messages the client sends
wait in an inbound queue and are handled one at a time by the session's own worker, in the
order they arrived; messages for the client wait in an outbound queue, from which the
connection takes them. Both queues are unbounded: adding to one never waits, taking from an
empty one waits until something arrives or the queue is closed, and a closed queue refuses
additions but still hands out what it holds.

Many threads share a session: those that submit messages, those that send to the client, the
reader of the outbound queue, the worker, and those that close the session. Each of their
actions on the session is atomic, and `Session.step` gives its effect, or nothing while the
action has to wait; any order of such actions is a possible run (`Session.runs`).

The worker hands each message to the gateway's handler. A handler that panics is answered with
a business reject, `internal error`, and the worker goes on with the next message; a panic that
reports a broken invariant of the book is not recovered, and stops the program. Closing a
session closes the inbound queue, waits until the worker has handled every message it held,
detaches the session from its client, and then closes the outbound queue; a second close waits
for the first.
-/

namespace Bourse

/-- Where a session's worker is. -/
inductive SessionWorker where
  /-- Waiting for the next message. -/
  | waiting
  /-- Running the handler on a message. -/
  | handling (raw : String)
  /-- Gone, after the inbound queue was closed and emptied. -/
  | exited
  /-- Stopped by a broken invariant of the book, which stops the program. -/
  | crashed
  deriving Repr, DecidableEq

/-- How far the first close of a session has got. -/
inductive SessionClose where
  /-- Not asked for. -/
  | open
  /-- The inbound queue is closed; waiting for the worker to finish. -/
  | draining
  /-- The worker has finished and the session is detached from its client. -/
  | detached
  /-- The outbound queue is closed too. -/
  | closed
  deriving Repr, DecidableEq

/-- How a run of the handler ended. -/
inductive HandlerOutcome where
  /-- It returned. -/
  | returned
  /-- It panicked, for any reason but a broken invariant of the book. -/
  | panicked
  /-- It panicked with a broken invariant of the book. -/
  | brokeInvariant
  deriving Repr, DecidableEq

/-- A session as the threads sharing it see it. -/
structure Session where
  /-- Messages received and not yet taken by the worker, oldest first. -/
  inbound : List String
  /-- Whether the inbound queue refuses more. -/
  inboundClosed : Bool
  /-- Messages for the client not yet taken, oldest first. -/
  outbound : List Outbound
  /-- Whether the outbound queue refuses more. -/
  outboundClosed : Bool
  worker : SessionWorker
  /-- The first close. -/
  close : SessionClose
  deriving Repr

/-- One atomic action of a thread on a session. -/
inductive SessionAction where
  /-- Offers a message the client sent. -/
  | submit (raw : String)
  /-- Offers a message for the client. -/
  | send (message : Outbound)
  /-- Takes the next message for the client. -/
  | next
  /-- The worker takes the next message and runs the handler on it. -/
  | pop
  /-- The handler's run ends. -/
  | complete (outcome : HandlerOutcome)
  /-- The first close closes the inbound queue. -/
  | beginClose
  /-- The first close, once the worker is gone, detaches the session. -/
  | detach
  /-- The first close closes the outbound queue. -/
  | closeOutbound
  /-- A close returns. -/
  | closeReturns
  deriving Repr

/-- What an action did, as its thread sees it. -/
inductive SessionEvent where
  /-- A message was offered, and accepted or refused because the session is closed. -/
  | submitted (raw : String) (accepted : Bool)
  /-- A message for the client was offered, and queued or dropped because the session is
  closed. -/
  | sent (message : Outbound) (queued : Bool)
  /-- The next message for the client, or none once the session is closed and nothing is
  left. -/
  | taken (message : Option Outbound)
  /-- The handler runs on a message. -/
  | handling (raw : String)
  /-- The handler returned. -/
  | returned
  /-- The handler panicked, and its reject was offered to the client: queued, or dropped
  because the session is closed. -/
  | rejected (queued : Bool)
  /-- A broken invariant escaped the handler. -/
  | crashed
  /-- The worker is gone. -/
  | exited
  /-- The first close began. -/
  | closing
  /-- The session was detached from its client. -/
  | detached
  /-- The outbound queue was closed. -/
  | closedOutbound
  /-- A close returned. -/
  | closeReturned
  deriving Repr

namespace Session

/-- A session just opened, its worker waiting. -/
def opened : Session := ⟨[], false, [], false, .waiting, .open⟩

/-- The answer to a handler that panicked. -/
def internalError : Outbound :=
  .businessReject (rejectMessage none businessRejectOther "internal error")

/-- Offers a message for the client: queued unless the session is closed. -/
def offer (session : Session) (message : Outbound) : Session × Bool :=
  if session.outboundClosed then (session, false)
  else ({ session with outbound := session.outbound ++ [message] }, true)

/-- The effect of an action, or nothing while it has to wait. Nothing happens once a broken
invariant has stopped the program. -/
def step (session : Session) (action : SessionAction) : Option (Session × SessionEvent) :=
  if session.worker = .crashed then none else
  match action with
  | .submit raw =>
    if session.inboundClosed then some (session, .submitted raw false)
    else some ({ session with inbound := session.inbound ++ [raw] }, .submitted raw true)
  | .send message =>
    let (session, queued) := session.offer message
    some (session, .sent message queued)
  | .next =>
    match session.outbound with
    | message :: rest => some ({ session with outbound := rest }, .taken (some message))
    | [] => if session.outboundClosed then some (session, .taken none) else none
  | .pop =>
    match session.worker, session.inbound with
    | .waiting, raw :: rest =>
      some ({ session with inbound := rest, worker := .handling raw }, .handling raw)
    | .waiting, [] =>
      if session.inboundClosed then some ({ session with worker := .exited }, .exited) else none
    | _, _ => none
  | .complete outcome =>
    match session.worker, outcome with
    | .handling _, .returned => some ({ session with worker := .waiting }, .returned)
    | .handling _, .panicked =>
      let (session, queued) := session.offer internalError
      some ({ session with worker := .waiting }, .rejected queued)
    | .handling _, .brokeInvariant => some ({ session with worker := .crashed }, .crashed)
    | _, _ => none
  | .beginClose =>
    if session.close = .open then
      some ({ session with inboundClosed := true, close := .draining }, .closing)
    else none
  | .detach =>
    if session.close = .draining ∧ session.worker = .exited then
      some ({ session with close := .detached }, .detached)
    else none
  | .closeOutbound =>
    if session.close = .detached then
      some ({ session with outboundClosed := true, close := .closed }, .closedOutbound)
    else none
  | .closeReturns => if session.close = .closed then some (session, .closeReturned) else none

/-- Takes actions in order, giving the session after them and what each did; nothing if one
of them would wait for ever at its turn. -/
def runs (session : Session) : List SessionAction → Option (Session × List SessionEvent)
  | [] => some (session, [])
  | action :: rest =>
    match session.step action with
    | none => none
    | some (after, event) =>
      (after.runs rest).map fun (last, events) => (last, event :: events)

end Session

end Bourse
