import Mathlib
import Bourse.Proofs.Run.Calm
import Bourse.Proofs.Json.Object
import Bourse.Json.Record
import Bourse.Log.Logger

/-!
# What the book writes down

Besides changing the book, a run writes notes: each trade it puts on the tape, log records and
counts for the monitor. The notes are written in order, and the tape grows by exactly the
trades among them, each traded for a positive quantity, for a fill books only a positive
quantity. The log records the book writes hold texts and integers under fixed keys, and none
is a trade event (`LogRecord.Quiet`).

`BookRun.Wrote` says so of two states of a run, and every computation of the book keeps it,
whether it returns or stops, whatever the subscribers do: one step at a time
(`BookM.perform_wrote`), over a run of the queue (`BookM.drain_wrote`) and over a call
(`BookCall.exec_wrote`), so along every sequence of calls (`BookRun.Called.wrote`).
-/

open Std.Do

set_option mvcgen.warning false

namespace Bourse

/-- A log record no reader of fills takes for a fill: its message is not that of a trade event,
no field's key names the message whatever its case, and every field holds a text or an
integer. -/
def LogRecord.Quiet (record : LogRecord) : Prop :=
  record.message ≠ "trade_event" ∧
    ∀ field ∈ record.fields, Json.keyNames field.1 "msg" = false ∧ Json.Scalar field.2.toLogJson

/-- The trade a note puts on the tape, if it is one. -/
def BookNote.trade? : BookNote → Option Trade
  | .traded trade => some trade
  | _ => none

/-- What a note must be for the log to be read back: a trade of a positive quantity, or a quiet
log record; the other notes write no line. -/
def BookNote.Sound : BookNote → Prop
  | .traded trade => 0 < trade.execution.execQty
  | .log record => record.Quiet
  | _ => True

variable {ρ σ : Type}

/-- What a run wrote between two of its states: notes after those it had, all sound, and on
the tape the trades among them, in the order noted. -/
def BookRun.Wrote (start run : BookRun ρ σ) : Prop :=
  ∃ fresh : List BookNote, run.notes.toList = start.notes.toList ++ fresh ∧
    run.book.tape.toList = start.book.tape.toList ++ fresh.filterMap BookNote.trade? ∧
    ∀ note ∈ fresh, note.Sound

namespace BookRun.Wrote

variable {start run : BookRun ρ σ}

theorem refl (run : BookRun ρ σ) : run.Wrote run :=
  ⟨[], by simp, by simp, by simp⟩

/-- Only the notes and the tape count. -/
theorem of_same (wrote : start.Wrote run) {after : BookRun ρ σ} (sameNotes : after.notes = run.notes)
    (sameTape : after.book.tape = run.book.tape) : start.Wrote after := by
  rw [BookRun.Wrote, sameNotes, sameTape]
  exact wrote

theorem trans {later : BookRun ρ σ} (first : start.Wrote run) (second : run.Wrote later) :
    start.Wrote later := by
  obtain ⟨fresh, notes, tape, sound⟩ := first
  obtain ⟨more, moreNotes, moreTape, moreSound⟩ := second
  refine ⟨fresh ++ more, ?_, ?_, ?_⟩
  · rw [moreNotes, notes, List.append_assoc]
  · rw [moreTape, tape, List.filterMap_append, List.append_assoc]
  · intro note member
    rcases List.mem_append.mp member with early | late
    · exact sound note early
    · exact moreSound note late

/-- A sound note that is no trade. -/
theorem push (wrote : start.Wrote run) {entry : BookNote} (sound : entry.Sound)
    (untraded : entry.trade? = none) {after : BookRun ρ σ}
    (notes : after.notes = run.notes.push entry) (tape : after.book.tape = run.book.tape) :
    start.Wrote after := by
  refine wrote.trans ⟨[entry], by simp [notes], by simp [tape, untraded], by simpa using sound⟩

/-- A trade of a positive quantity, put on the tape and noted. -/
theorem record (wrote : start.Wrote run) {trade : Trade} (positive : 0 < trade.execution.execQty)
    {after : BookRun ρ σ} (notes : after.notes = run.notes.push (.traded trade))
    (tape : after.book.tape = run.book.tape.push trade) : start.Wrote after := by
  refine wrote.trans ⟨[.traded trade], by simp [notes], by simp [tape, BookNote.trade?], ?_⟩
  simpa [BookNote.Sound] using positive

end BookRun.Wrote

/-- A record is quiet when its message is not a trade event's and each field, under a key that
does not name the message, holds a text or an integer. -/
theorem LogRecord.quiet_of {level : LogLevel} {message : String} {fields : List Field}
    (notTrade : message ≠ "trade_event")
    (plain : fields.Forall fun field => Json.keyNames field.1 "msg" = false ∧
      Json.Scalar field.2.toLogJson) :
    LogRecord.Quiet ⟨level, message, fields⟩ :=
  ⟨notTrade, List.forall_iff_forall_mem.mp plain⟩

namespace BookM

variable (start : BookRun ρ σ)

theorem note_wrote (entry : BookNote) (sound : entry.Sound) (untraded : entry.trade? = none) :
    ⦃fun run => ⌜start.Wrote run⌝⦄ (note entry : BookM ρ σ Unit) ⦃⇓ _ run => ⌜start.Wrote run⌝⦄ := by
  mvcgen [note]
  exact ‹start.Wrote _›.push sound untraded rfl rfl

theorem log_wrote (level : LogLevel) (message : String) (fields : List Field)
    (quiet : LogRecord.Quiet ⟨level, message, fields⟩) :
    ⦃fun run => ⌜start.Wrote run⌝⦄ (log level message fields : BookM ρ σ Unit)
    ⦃⇓ _ run => ⌜start.Wrote run⌝⦄ := by
  have noted := note_wrote start (.log ⟨level, message, fields⟩) quiet rfl
  mvcgen [log, noted]

theorem takeRequests_wrote (requests : List BookRequest) :
    ⦃fun run => ⌜start.Wrote run⌝⦄ (takeRequests requests : BookM ρ σ Unit)
    ⦃⇓ _ run => ⌜start.Wrote run⌝⦄ := by
  induction requests with
  | nil => mvcgen [takeRequests]
  | cons request rest inductionHypothesis =>
    have logged := @log_wrote ρ σ start
    mvcgen [takeRequests, book, enqueue, inductionHypothesis, logged]
    exact LogRecord.quiet_of (by decide) ⟨by dsimp only; decide, .string _⟩

variable (deliver : Delivery ρ σ)

theorem deliverTo_wrote (subscription : Subscription ρ) (event : MarketEvent) :
    ⦃fun run => ⌜start.Wrote run⌝⦄ deliverTo deliver subscription event
    ⦃post⟨fun _ run => ⌜start.Wrote run⌝, fun _ run => ⌜start.Wrote run⌝⟩⦄ := by
  have noted := @note_wrote ρ σ start
  have logged := @log_wrote ρ σ start
  have taken := takeRequests_wrote start
  mvcgen [deliverTo, book, noted, logged, taken]
  · exact LogRecord.quiet_of (by decide)
      ⟨⟨by dsimp only; decide, .string _⟩, ⟨by dsimp only; decide, .string _⟩,
        by dsimp only; decide, .string _⟩
  · exact id

theorem deliverAll_wrote (event : MarketEvent) (subscriptions : List (Subscription ρ)) :
    ⦃fun run => ⌜start.Wrote run⌝⦄ deliverAll deliver event subscriptions
    ⦃post⟨fun _ run => ⌜start.Wrote run⌝, fun _ run => ⌜start.Wrote run⌝⟩⦄ := by
  induction subscriptions with
  | nil => mvcgen [deliverAll]
  | cons subscription rest inductionHypothesis =>
    have delivered := deliverTo_wrote start deliver subscription event
    mvcgen [deliverAll, delivered, inductionHypothesis]

theorem publish_wrote (event : MarketEvent) :
    ⦃fun run => ⌜start.Wrote run⌝⦄ publish deliver event
    ⦃post⟨fun _ run => ⌜start.Wrote run⌝, fun _ run => ⌜start.Wrote run⌝⟩⦄ := by
  have noted := @note_wrote ρ σ start
  have delivered := deliverAll_wrote start deliver event
  mvcgen [publish, book, noted, delivered]

theorem record_wrote (trade : Trade) (positive : 0 < trade.execution.execQty) :
    ⦃fun run => ⌜start.Wrote run⌝⦄ (record trade : BookM ρ σ Unit)
    ⦃⇓ _ run => ⌜start.Wrote run⌝⦄ := by
  mvcgen [record, modifyBook, note]
  rename_i run wrote _ _
  exact wrote.record positive rfl rfl

/-- A change of the book that leaves the tape alone writes nothing. -/
theorem modifyBook_wrote (change : OrderBook ρ → OrderBook ρ)
    (sameTape : ∀ book, (change book).tape = book.tape) :
    ⦃fun run => ⌜start.Wrote run⌝⦄ (modifyBook change : BookM ρ σ Unit)
    ⦃⇓ _ run => ⌜start.Wrote run⌝⦄ := by
  mvcgen [modifyBook]
  rename_i run wrote _
  exact wrote.of_same rfl (sameTape run.book)

/-- A quantity a fill accepts is positive. -/
theorem positive_of_accepted {qty remaining : Int64}
    (accepted : ¬(decide (qty ≤ 0) || decide (qty > remaining)) = true) : 0 < qty := by
  simp only [Bool.or_eq_true, decide_eq_true_eq, not_or] at accepted
  exact Int64.not_le.mp accepted.1

/-- Filling books only a positive quantity: when it returns, the quantity was positive. -/
theorem fillOrder_wrote (side : Side) (opposite : Bool) (key : OrderKey) (qty : Int64)
    (price : Decimal) :
    ⦃fun run => ⌜start.Wrote run⌝⦄ (fillOrder side opposite key qty price : BookM ρ σ Header)
    ⦃post⟨fun _ run => ⌜start.Wrote run ∧ 0 < qty⌝, fun _ run => ⌜start.Wrote run⌝⟩⦄ := by
  mvcgen [fillOrder, book, modifyBook]
  · rename_i run wrote _ _ _ _ _ _ _ _ _ _ _ _
    exact wrote.of_same rfl (by simp +zetaDelta [apply_ite OrderBook.tape])
  · rename_i run wrote _ _ _ _ _ _ accepted _ _ _ _ _ _ _ _
    exact ⟨wrote.of_same rfl (by simp +zetaDelta [apply_ite OrderBook.tape]),
      positive_of_accepted accepted⟩
  · rename_i run wrote _ _ _ _ _ _ accepted _ _ _ _ _ _ _
    exact ⟨wrote.of_same rfl (by simp +zetaDelta [apply_ite OrderBook.tape]),
      positive_of_accepted accepted⟩

theorem matchOrder_wrote (now : Instant) (side : Side) (key : OrderKey) (rounds : Nat) :
    ⦃fun run => ⌜start.Wrote run⌝⦄ matchOrder deliver now side key rounds
    ⦃post⟨fun _ run => ⌜start.Wrote run⌝, fun _ run => ⌜start.Wrote run⌝⟩⦄ := by
  induction rounds with
  | zero => mvcgen [matchOrder]
  | succ rounds inductionHypothesis =>
    have filled := @fillOrder_wrote ρ σ start
    have recorded := @record_wrote ρ σ start
    have published := publish_wrote start deliver
    mvcgen [matchOrder, book, filled, recorded, published, inductionHypothesis]
    -- Both fills returned, so the quantity both trades carry is positive.
    · exact ‹start.Wrote _ ∧ _›.1
    · exact ‹start.Wrote _ ∧ _›.2
    · exact ‹start.Wrote _ ∧ _›.1
    · rename_i filled _ _ _ _ _ _
      simpa +zetaDelta [Trade.counterpart, Trade.withHeader] using filled.2

theorem place_wrote (now : Instant) (order : MarketEvent) :
    ⦃fun run => ⌜start.Wrote run⌝⦄ place deliver now order
    ⦃post⟨fun _ run => ⌜start.Wrote run⌝, fun _ run => ⌜start.Wrote run⌝⟩⦄ := by
  have logged := @log_wrote ρ σ start
  have published := publish_wrote start deliver
  have matched := matchOrder_wrote start deliver now
  have placed := @modifyBook_wrote ρ σ start
  mvcgen [place, book, placed, logged, published, matched]
  · exact LogRecord.quiet_of (by decide) ⟨by dsimp only; decide, .string _⟩
  · exact id
  · exact fun _ => by simp

theorem applyTrade_wrote (now : Instant) (trade : Trade) :
    ⦃fun run => ⌜start.Wrote run⌝⦄ applyTrade deliver now trade
    ⦃post⟨fun _ run => ⌜start.Wrote run⌝, fun _ run => ⌜start.Wrote run⌝⟩⦄ := by
  have noted := @note_wrote ρ σ start
  have logged := @log_wrote ρ σ start
  have filled := @fillOrder_wrote ρ σ start
  have recorded := @record_wrote ρ σ start
  have published := publish_wrote start deliver
  mvcgen [applyTrade, book, noted, logged, filled, recorded, published]
  · exact id
  · intro _ _
    exact LogRecord.quiet_of (by decide)
      ⟨⟨by dsimp only; decide, .string _⟩, by dsimp only; decide, .string _⟩
  -- Whichever quantity is chosen, the fill returned only if it was positive.
  · rename_i filled
    exact filled.2
  · rename_i filled
    exact filled.1
  · exact LogRecord.quiet_of (by decide)
      ⟨⟨by dsimp only; decide, .string _⟩, ⟨by dsimp only; decide, .integer _⟩,
        by dsimp only; decide, .integer _⟩
  · rename_i filled
    exact filled.2
  · rename_i filled
    exact filled.1
  · rename_i filled
    exact filled.2
  · rename_i filled
    exact filled.1

theorem remove_wrote (request : MarketEvent) :
    ⦃fun run => ⌜start.Wrote run⌝⦄ remove deliver request
    ⦃post⟨fun _ run => ⌜start.Wrote run⌝, fun _ run => ⌜start.Wrote run⌝⟩⦄ := by
  have noted := @note_wrote ρ σ start
  have logged := @log_wrote ρ σ start
  have published := publish_wrote start deliver
  have removed := @modifyBook_wrote ρ σ start
  mvcgen [remove, book, removed, noted, logged, published]
  · exact fun _ => by simp
  · exact LogRecord.quiet_of (by decide)
      ⟨⟨by dsimp only; decide, .string _⟩, by dsimp only; decide, .string _⟩

theorem perform_wrote (now : Instant) (request : BookRequest) :
    ⦃fun run => ⌜start.Wrote run⌝⦄ perform deliver now request
    ⦃post⟨fun _ run => ⌜start.Wrote run⌝, fun _ run => ⌜start.Wrote run⌝⟩⦄ := by
  have applied := applyTrade_wrote start deliver now
  have placed := place_wrote start deliver now
  have removed := remove_wrote start deliver
  mvcgen [perform, applied, placed, removed]

theorem drain_wrote (now : Instant) (budget : Nat) :
    ⦃fun run => ⌜start.Wrote run⌝⦄ drain deliver now budget
    ⦃post⟨fun _ run => ⌜start.Wrote run⌝, fun _ run => ⌜start.Wrote run⌝⟩⦄ := by
  induction budget with
  | zero => mvcgen [drain]
  | succ budget inductionHypothesis =>
    have performed := perform_wrote start deliver now
    mvcgen [drain, performed, inductionHypothesis]

theorem run_wrote (budget : Nat) (now : Instant) (first : BookRequest) :
    ⦃fun run => ⌜start.Wrote run⌝⦄ BookM.run deliver budget now first
    ⦃post⟨fun _ run => ⌜start.Wrote run⌝, fun _ run => ⌜start.Wrote run⌝⟩⦄ := by
  have noted := @note_wrote ρ σ start
  have drained := drain_wrote start deliver now
  mvcgen [BookM.run, book, noted, drained]
  · exact id
  · exact fun _ _ => trivial
  · exact fun _ _ => rfl

end BookM

/-- Whatever a call does, and whether it returns or is stopped, it writes sound notes and puts
on the tape exactly the trades it notes. -/
theorem BookCall.exec_wrote (deliver : Delivery ρ σ) (call : BookCall ρ) (run : BookRun ρ σ) :
    run.Wrote (run.after (call.exec deliver)) := by
  have executed : ⦃fun current => ⌜run.Wrote current⌝⦄ call.exec deliver
      ⦃post⟨fun _ current => ⌜run.Wrote current⌝, fun _ current => ⌜run.Wrote current⌝⟩⦄ := by
    have ran := BookM.run_wrote run deliver
    have changed := @BookM.modifyBook_wrote ρ σ run
    cases call with
    | add budget now event => mvcgen [BookCall.exec, BookM.add, BookM.book, ran]
    | delete budget now event => mvcgen [BookCall.exec, BookM.delete, BookM.book, ran]
    | subscribe name role =>
      -- Changing the subscribers leaves the tape alone.
      mvcgen [BookCall.exec, changed]
      · exact id
      · exact fun _ _ _ => rfl
    | unsubscribe number =>
      mvcgen [BookCall.exec, changed]
      · exact id
      · exact fun _ _ _ => rfl
  have ends : BookM.Ends (fun _ after => run.Wrote after) (EStateM.run (call.exec deliver) run) := by
    apply EStateM.of_wp_run_eq rfl
    intro _
    exact executed run (BookRun.Wrote.refl run)
  unfold BookRun.after
  generalize EStateM.run (call.exec deliver) run = result at ends ⊢
  cases result <;> exact ends

/-- Along any calls, the book writes sound notes and puts on the tape exactly the trades it
notes. -/
theorem BookRun.Called.wrote {deliver : Delivery ρ σ} {admits : BookCall ρ → BookRun ρ σ → Prop}
    {start run : BookRun ρ σ} (calls : Relation.ReflTransGen (BookRun.Called deliver admits) start run) :
    start.Wrote run := by
  induction calls with
  | refl => exact .refl start
  | tail _ called inductionHypothesis =>
    obtain ⟨call, -, rfl⟩ := called
    exact inductionHypothesis.trans (call.exec_wrote deliver _)

end Bourse
