import Bourse.Replay.Simulator

/-!
# How the replay loop reads its cursor and paces itself

One run of a simulator takes rows from its cursor, one per round, until the cursor reports
anything else, a stop is asked for or a wait fails. Each round moves the simulation clock to the
row's time, waits the simulator's delay when the row starts a new second, and applies the row.
Neither moving the clock nor applying a row touches the simulator, apart from the record of the
row's action (`Replay.applyRow_simulator`), so the flags, the store and the pacer the loop reads
change only through the loop itself. Hence, with no stop asked for and no wait set to fail, a
run applies exactly the rows the cursor hands out, in its order, ends with the cursor's failure
if there is one, and waits once before each row that `pacesBefore` selects
(`Replay.replayFrom_follows_cursor`).

The loop remembers the second of the last row read, and starts from the zero time, which thus
also stands for "no row read yet". A row stamped with the zero time itself leaves that mark in
place, and the loop does not wait before the next row even when it starts another second
(`Replay.zero_time_row_skips_wait`).
-/

namespace Bourse

namespace Replay

variable {ρ σ : Type} {α β : Type}

/-- Running a computation and then its continuation. -/
theorem run_bind_eq (first : ReplayM ρ σ α) (next : α → ReplayM ρ σ β) (replay : Replay ρ σ) :
    (first >>= next).run replay = (next (first.run replay).1).run (first.run replay).2 := rfl

/-- A computation of a replay that leaves its simulator as it was. -/
def KeepsSimulator (action : ReplayM ρ σ α) : Prop :=
  ∀ replay, (action.run replay).2.simulator = replay.simulator

namespace KeepsSimulator

theorem pure (value : α) : KeepsSimulator (Pure.pure value : ReplayM ρ σ α) := fun _ => rfl

theorem get : KeepsSimulator (MonadState.get : ReplayM ρ σ (Replay ρ σ)) := fun _ => rfl

theorem bind {first : ReplayM ρ σ α} {next : α → ReplayM ρ σ β} (keepsFirst : KeepsSimulator first)
    (keepsNext : ∀ value, KeepsSimulator (next value)) : KeepsSimulator (first >>= next) :=
  fun replay => (keepsNext _ _).trans (keepsFirst replay)

theorem modify {change : Replay ρ σ → Replay ρ σ}
    (keeps : ∀ replay, (change replay).simulator = replay.simulator) :
    KeepsSimulator (modify change : ReplayM ρ σ Unit) :=
  keeps

theorem ite {condition : Prop} [Decidable condition] {yes no : ReplayM ρ σ α}
    (keepsYes : KeepsSimulator yes) (keepsNo : KeepsSimulator no) :
    KeepsSimulator (if condition then yes else no) := by
  split
  · exact keepsYes
  · exact keepsNo

/-- A computation followed by one that keeps the simulator leaves it as the first did. -/
theorem simulator_bind {first : ReplayM ρ σ α} {next : α → ReplayM ρ σ β}
    (keepsNext : ∀ value, KeepsSimulator (next value)) (replay : Replay ρ σ) :
    ((first >>= next).run replay).2.simulator = (first.run replay).2.simulator :=
  keepsNext _ _

end KeepsSimulator

/-- Work on the book leaves the simulator as it was. -/
theorem keepsSimulator_onBook (action : BookM ρ σ α) : KeepsSimulator (onBook action) := by
  intro replay
  simp only [onBook, StateT.run_bind, StateT.run_get, pure_bind]
  split <;> rfl

/-- Waiting records the delay with the pacer, and goes through unless this is the wait set to
fail. -/
theorem run_pause (replay : Replay ρ σ) :
    pause.run replay =
      (replay.simulator.pacer.failAt !=
          some (replay.simulator.pacer.waits.push replay.simulator.delay).size,
        { replay with simulator := { replay.simulator with pacer :=
          { replay.simulator.pacer with
            waits := replay.simulator.pacer.waits.push replay.simulator.delay } } }) :=
  rfl

variable [ReplayHost ρ σ]

theorem keepsSimulator_modifyCredits (change : MatchCredits → MatchCredits) :
    KeepsSimulator (modifyCredits change : ReplayM ρ σ Unit) :=
  KeepsSimulator.modify fun _ => rfl

theorem keepsSimulator_bookAdd (event : MarketEvent) :
    KeepsSimulator (bookAdd event : ReplayM ρ σ _) :=
  KeepsSimulator.bind KeepsSimulator.get fun _ => keepsSimulator_onBook _

theorem keepsSimulator_bookDelete (event : MarketEvent) :
    KeepsSimulator (bookDelete event : ReplayM ρ σ _) :=
  KeepsSimulator.bind KeepsSimulator.get fun _ =>
    KeepsSimulator.bind (keepsSimulator_onBook _) fun _ => KeepsSimulator.pure _

/-- Moving the simulation clock leaves the simulator as it was. -/
theorem keepsSimulator_moveClock (moment : Instant) :
    KeepsSimulator (moveClock moment : ReplayM ρ σ Unit) :=
  KeepsSimulator.modify fun _ => rfl

/-- Applying a row changes the simulator only by recording the row's action. -/
theorem applyRow_simulator (row : ReplayRow) (replay : Replay ρ σ) :
    ((applyRow row).run replay).2.simulator =
      { replay.simulator with actions := replay.simulator.actions.push row.action.name } := by
  unfold applyRow
  refine (KeepsSimulator.simulator_bind (fun _ => ?_) replay).trans rfl
  refine KeepsSimulator.bind KeepsSimulator.get fun _ => ?_
  dsimp only
  refine KeepsSimulator.ite (KeepsSimulator.pure _)
    (KeepsSimulator.ite ?_ (KeepsSimulator.ite ?_ ?_))
  · -- a delete or an expiry
    split
    · exact KeepsSimulator.pure _
    · exact KeepsSimulator.bind (keepsSimulator_modifyCredits _) fun _ =>
        keepsSimulator_bookDelete _
  · -- a match, with or without a quantity left after the credit
    refine KeepsSimulator.bind KeepsSimulator.get fun _ => ?_
    split
    · exact KeepsSimulator.bind (keepsSimulator_modifyCredits _) fun _ => KeepsSimulator.pure _
    · exact KeepsSimulator.bind (keepsSimulator_modifyCredits _) fun _ =>
        KeepsSimulator.bind (keepsSimulator_bookAdd _) fun _ => KeepsSimulator.pure _
  · -- a new order or another action
    split
    · exact KeepsSimulator.pure _
    · exact KeepsSimulator.bind (keepsSimulator_modifyCredits _) fun _ =>
        KeepsSimulator.bind (keepsSimulator_bookAdd _) fun _ => KeepsSimulator.pure _

end Replay

/-- Whether the replay loop waits before a row read after a row of second `last`: the row
falls in another second, and `last` is not the zero time, which stands for "no row yet". -/
def pacesBefore (last : Instant) (row : ReplayRow) : Bool :=
  !last.isZero && (row.time.truncate Duration.second).nanos != last.nanos

/-- How many times the replay loop waits over rows read in order after a row of second
`last`. -/
def waitsOver (last : Instant) : List ReplayRow → Nat
  | [] => 0
  | row :: rest =>
    (if pacesBefore last row then 1 else 0) + waitsOver (row.time.truncate Duration.second) rest

/-- The failure of a replay that read `applied` rows before its cursor gave this. -/
def CursorStep.failure (applied : Nat) : CursorStep → Option RunError
  | .failed error => some (.readFailed (applied + 1) error)
  | _ => none

namespace Replay

variable {ρ σ : Type} [ReplayHost ρ σ]

/-- The replay loop follows its cursor: from a replay with no stop asked for and no wait set to
fail, the loop applies the rows the cursor hands out within its budget, in the cursor's order,
ends with the failure the cursor reported if it did, and waits the delay once before each row
that starts a new second after a row of a second other than the zero time. -/
theorem replayFrom_follows_cursor (budget : Nat) (cursor : ReplayCursor) (applied : Nat)
    (last : Instant) (replay : Replay ρ σ) (running : replay.simulator.stopRequested = false)
    (noFailure : replay.simulator.pacer.failAt = none) :
    let taken := cursor.takeWithin replay.simulator.store replay.simulator.cancelled budget
    let ran := (replayFrom cursor applied last budget).run replay
    ran.1.1 = applied + taken.2.2.1.length ∧
      ran.1.2 = taken.2.2.2.failure (applied + taken.2.2.1.length) ∧
      ran.2.simulator.actions.toList =
        replay.simulator.actions.toList ++ taken.2.2.1.map (·.action.name) ∧
      ran.2.simulator.pacer.waits.toList =
        replay.simulator.pacer.waits.toList ++
          List.replicate (waitsOver last taken.2.2.1) replay.simulator.delay := by
  -- The budget counts the rounds left; each round takes one step of the cursor.
  induction budget generalizing cursor applied last replay with
  | zero => exact ⟨rfl, rfl, (List.append_nil _).symm, (List.append_nil _).symm⟩
  | succ budget inductionHypothesis =>
    cases stepped : cursor.next replay.simulator.store replay.simulator.cancelled with
    | mk next rest =>
    obtain ⟨store, step⟩ := rest
    simp only [replayFrom, StateT.run_bind, StateT.run_get, pure_bind, ReplayCursor.takeWithin,
      stepped]
    rw [if_neg (by simp [running])]
    simp only [modifySimulator, StateT.run_bind, StateT.run_modify, pure_bind]
    cases step with
    | finished => exact ⟨rfl, rfl, (List.append_nil _).symm, (List.append_nil _).symm⟩
    | cancelled => exact ⟨rfl, rfl, (List.append_nil _).symm, (List.append_nil _).symm⟩
    | failed error => exact ⟨rfl, rfl, (List.append_nil _).symm, (List.append_nil _).symm⟩
    | row row =>
      dsimp only
      generalize storedEq :
        ({ replay with simulator := { replay.simulator with store } } : Replay ρ σ) = stored
      rw [run_bind_eq]
      have movedSimulator := keepsSimulator_moveClock row.time stored
      generalize StateT.run (moveClock row.time) stored = movedRun at movedSimulator ⊢
      obtain ⟨⟨⟩, moved⟩ := movedRun
      dsimp only at movedSimulator ⊢
      -- Whether or not it waited, the loop applies the row and goes on with the rows after it.
      have goesOn : ∀ ready : Replay ρ σ, ready.simulator.stopRequested = false →
          ready.simulator.pacer.failAt = none → ready.simulator.store = store →
          ready.simulator.cancelled = replay.simulator.cancelled →
          ready.simulator.delay = replay.simulator.delay →
          let second := row.time.truncate Duration.second
          let rest : ReplayM ρ σ _ := do applyRow row; replayFrom next (applied + 1) second budget
          let ran := rest.run ready
          let taken := ReplayCursor.takeWithin store replay.simulator.cancelled next budget
          ran.1.1 = applied + (row :: taken.2.2.1).length ∧
            ran.1.2 = taken.2.2.2.failure (applied + (row :: taken.2.2.1).length) ∧
            ran.2.simulator.actions.toList =
              ready.simulator.actions.toList ++ (row :: taken.2.2.1).map (·.action.name) ∧
            ran.2.simulator.pacer.waits.toList = ready.simulator.pacer.waits.toList ++
              List.replicate (waitsOver second taken.2.2.1) replay.simulator.delay := by
        intro ready readyStop readyFailure readyStore readyCancelled readyDelay
        dsimp only
        rw [run_bind_eq]
        have simulatorApplied := applyRow_simulator row ready
        have later := inductionHypothesis next (applied + 1) (row.time.truncate Duration.second)
          ((applyRow row).run ready).2 (by rw [simulatorApplied]; exact readyStop)
          (by rw [simulatorApplied]; exact readyFailure)
        simp only [simulatorApplied, readyStore, readyCancelled, readyDelay] at later
        obtain ⟨count, failure, actions, waits⟩ := later
        refine ⟨?_, ?_, ?_, waits⟩
        · rw [count, List.length_cons]
          omega
        · rw [failure, List.length_cons, Nat.add_assoc, Nat.add_comm 1]
        · rw [actions]
          simp
      have test : (!last.isZero && (row.time.truncate Duration.second).nanos != last.nanos) =
          pacesBefore last row := rfl
      rw [test]
      have storedSimulator : stored.simulator = { replay.simulator with store } := by
        rw [← storedEq]
      rw [storedSimulator] at movedSimulator
      by_cases paces : pacesBefore last row = true
      · -- The row starts a new second: the loop waits once, and the wait goes through.
        have passed : (pause.run moved).1 = true := by
          rw [run_pause, movedSimulator]
          simp [noFailure]
        rw [if_pos paces, run_bind_eq, passed, Bool.not_true, if_neg Bool.false_ne_true]
        have paused : (pause.run moved).2.simulator = { replay.simulator with store, pacer :=
            { replay.simulator.pacer with
              waits := replay.simulator.pacer.waits.push replay.simulator.delay } } := by
          rw [run_pause, movedSimulator]
        obtain ⟨count, failure, actions, waits⟩ := goesOn (pause.run moved).2
          (by rw [paused]; exact running) (by rw [paused]; exact noFailure) (by rw [paused])
          (by rw [paused]) (by rw [paused])
        refine ⟨count, failure, actions.trans (by rw [paused]), waits.trans ?_⟩
        simp [paused, waitsOver, paces, Nat.add_comm 1, List.replicate_succ]
      · rw [if_neg paces]
        obtain ⟨count, failure, actions, waits⟩ := goesOn moved
          (by rw [movedSimulator]; exact running) (by rw [movedSimulator]; exact noFailure)
          (by rw [movedSimulator]) (by rw [movedSimulator]) (by rw [movedSimulator])
        refine ⟨count, failure, actions.trans (by rw [movedSimulator]), waits.trans ?_⟩
        simp [movedSimulator, waitsOver, paces]

/-- Two rows: one at the zero time, and one a second later. -/
def zeroTimeRows : List ReplayRow :=
  [{ (default : ReplayRow) with orderId := "o1", time := ⟨0⟩ },
    { (default : ReplayRow) with orderId := "o2", time := ⟨1000000000⟩ }]

/-- A replay over an interval that starts at the zero time, of a row at the zero time and a row
a second later, applies both rows without waiting, although the second row starts a new
second. -/
theorem zero_time_row_skips_wait :
    let replay := Replay.recorded ⟨"VOD.L", "exchange", ⟨⟨0⟩, ⟨nanosPerDay⟩⟩⟩
      (.file "replay.csv" none "") ⟨0⟩
    let ran := (replayFrom (.rows zeroTimeRows) 0 Instant.zero 3).run replay
    zeroTimeRows.map (·.time.truncate Duration.second) = [⟨0⟩, ⟨1000000000⟩] ∧ ran.1.1 = 2 ∧
      ran.2.simulator.pacer.waits = #[] := by
  intro replay ran
  obtain ⟨count, -, -, waits⟩ :=
    replayFrom_follows_cursor 3 (.rows zeroTimeRows) 0 Instant.zero replay rfl rfl
  exact ⟨rfl, count.trans rfl, Array.toList_inj.mp (waits.trans rfl)⟩

end Replay

end Bourse
