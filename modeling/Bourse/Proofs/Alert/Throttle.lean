import Bourse.Alert.Manager

/-!
# Throttling alerts by scope key

An alert manager lets an alert through when no alert with the same scope key went out less than
the throttle interval before, counted since the throttle was last cleared; an alert held back
only raises the count of suppressed alerts. The key is `Alert.scope`: the level, the message
and the values of the `symbol` and `subscriber` fields, written one after the other with `:`,
`|` and `=` between them.

The throttle keeps only the last time of each key, while the rule speaks of every alert that
went out. `freshAfter` states the rule over the whole history (scope key and time of each alert
let through, newest first), and `freshAfter_eq_lookup` shows that on a history whose times never
go back, the last time of the key decides it. `Throttle.Records` ties the throttle to such a
history; `allow_records` shows that one call keeps the tie, and `callAll_records` carries it
along any run whose clock readings never go back. The main theorem, `alerts_throttled_per_key`,
says what every call of such a run does to the channels and to the suppressed count.

Alerts of one scope share a key (`scope_eq_of_same_scope`), but the key is not injective: a
message that itself holds `|symbol=x` has the key of the shorter message with a field `symbol`
of value `x`, so two alerts of different scopes can hold each other back
(`spelled_field_suppresses_real_field`).
-/

namespace Bourse

/-- A call on an alert manager, with the reading of its clock when the call is made. -/
inductive AlertCall where
  /-- Sends an alert while the clock reads `now`. -/
  | send (now : Instant) (alert : Alert)
  /-- Clears the throttle. -/
  | resetThrottle

namespace AlertCall

/-- The clock reading of a send. -/
def time? : AlertCall → Option Instant
  | .send now _ => some now
  | .resetThrottle => none

end AlertCall

namespace AlertManager

/-- Makes a call. -/
def call (manager : AlertManager) : AlertCall → AlertManager
  | .send now alert => ({ manager with now }.send alert).1
  | .resetThrottle => manager.resetThrottle

/-- Makes calls in order. -/
def callAll (manager : AlertManager) (calls : List AlertCall) : AlertManager :=
  calls.foldl call manager

end AlertManager

/-! ## The rule over the whole history -/

/-- An alert with key `scope` may go out at `now` after the deliveries `sent` (key and time):
no delivery of the same key lies less than `interval` before `now`. -/
def freshAfter (interval : Duration) (sent : List (String × Instant)) (now : Instant)
    (scope : String) : Bool :=
  sent.all fun entry => entry.1 != scope || decide (interval.nanos ≤ (now.since entry.2).nanos)

/-- The deliveries since the throttle was last cleared, newest first, after a run of calls that
started from the deliveries `sent`; the rule alone decides which sends go out. -/
def sentAfter (interval : Duration) : List (String × Instant) → List AlertCall →
    List (String × Instant)
  | sent, [] => sent
  | sent, .send now alert :: rest =>
    sentAfter interval
      (if freshAfter interval sent now alert.scope then (alert.scope, now) :: sent else sent) rest
  | _, .resetThrottle :: rest => sentAfter interval [] rest

/-- How many sends of a run the rule holds back, starting from the deliveries `sent`. -/
def heldBack (interval : Duration) : List (String × Instant) → List AlertCall → Nat
  | _, [] => 0
  | sent, .send now alert :: rest =>
    if freshAfter interval sent now alert.scope then
      heldBack interval ((alert.scope, now) :: sent) rest
    else heldBack interval sent rest + 1
  | _, .resetThrottle :: rest => heldBack interval [] rest

/-- Newest first: each delivery is at or after every later one in the list. -/
def NewestFirst (sent : List (String × Instant)) : Prop :=
  sent.Pairwise fun newer older => older.2.nanos ≤ newer.2.nanos

/-- On a history that is newest first, the rule is decided by the last delivery of the key:
an older delivery of the key lies further back from `now`. -/
theorem freshAfter_eq_lookup {interval : Duration} {sent : List (String × Instant)}
    (sorted : NewestFirst sent) (now : Instant) (scope : String) :
    freshAfter interval sent now scope = match sent.lookup scope with
      | none => true
      | some last => decide (interval.nanos ≤ (now.since last).nanos) := by
  induction sent with
  | nil => rfl
  | cons entry rest ih =>
    obtain ⟨key, time⟩ := entry
    have restSorted : NewestFirst rest := (List.pairwise_cons.mp sorted).2
    have older : ∀ e ∈ rest, e.2.nanos ≤ time.nanos := (List.pairwise_cons.mp sorted).1
    by_cases same : key = scope
    · subst same
      -- the newest delivery of the key decides; every older one lies further back
      have rule : freshAfter interval rest now key = true ∨
          ¬ interval.nanos ≤ (now.since time).nanos := by
        by_cases wide : interval.nanos ≤ (now.since time).nanos
        · refine .inl (List.all_eq_true.mpr fun e member => ?_)
          have before := older e member
          simp only [Instant.since] at wide ⊢
          by_cases other : e.1 = key
          · simp only [other, bne_self_eq_false, Bool.false_or]
            exact decide_eq_true (by omega)
          · simp [other]
        · exact .inr wide
      simp only [freshAfter, List.all_cons, bne_self_eq_false, Bool.false_or,
        List.lookup_cons_self]
      rcases rule with restFresh | narrow
      · simp only [freshAfter] at restFresh
        simp [restFresh]
      · simp [narrow]
    · have differs : (scope == key) = false := by simpa using Ne.symm same
      simp only [freshAfter, List.all_cons, List.lookup_cons, differs] at ih ⊢
      simp [same, ih restSorted]

/-! ## The throttle keeps the history -/

/-- The throttle's interval is `interval`, and for each key it holds the time of the last
delivery of `sent`. -/
structure Throttle.Records (throttle : Throttle) (interval : Duration)
    (sent : List (String × Instant)) : Prop where
  interval : throttle.interval = interval
  last : ∀ scope, throttle.lastSent.lookup scope = sent.lookup scope

/-- Dropping the entries of one key forgets that key and keeps every other. -/
theorem lookup_filter_other (entries : List (String × Instant)) (scope key : String) :
    (entries.filter (·.1 != scope)).lookup key =
      if key = scope then none else entries.lookup key := by
  induction entries with
  | nil => simp
  | cons entry rest ih =>
    obtain ⟨name, time⟩ := entry
    by_cases dropped : name = scope
    · subst dropped
      by_cases asked : key = name
      · subst asked; simpa using ih
      · have differs : (key == name) = false := by simpa using asked
        simp [List.lookup_cons, differs, ih, asked]
    · have kept : (name != scope) = true := by simpa using dropped
      simp only [List.filter_cons, kept, ↓reduceIte]
      by_cases asked : key = name
      · subst asked; simp [dropped]
      · have differs : (key == name) = false := by simpa using asked
        simp [List.lookup_cons, differs, ih]

variable {throttle : Throttle} {interval : Duration} {sent : List (String × Instant)}

/-- The throttle's verdict is the rule's, and the throttle afterwards holds the history the rule
gives: the new delivery in front when the alert goes out, the same history otherwise. -/
theorem allow_records (records : throttle.Records interval sent) (sorted : NewestFirst sent)
    (now : Instant) (scope : String) :
    (throttle.allow now scope).2 = freshAfter interval sent now scope ∧
    (throttle.allow now scope).1.Records interval
      (if freshAfter interval sent now scope then (scope, now) :: sent else sent) := by
  have rule : freshAfter interval sent now scope = match sent.lookup scope with
      | none => true
      | some last => decide (interval.nanos ≤ (now.since last).nanos) :=
    freshAfter_eq_lookup sorted now scope
  rw [← records.last scope] at rule
  by_cases fresh : freshAfter interval sent now scope = true
  · have allowed : throttle.allow now scope = ({ throttle with
        lastSent := (scope, now) :: throttle.lastSent.filter (·.1 != scope) }, true) := by
      cases found : throttle.lastSent.lookup scope with
      | none => simp [Throttle.allow, found]
      | some last =>
        have wide : decide (interval.nanos ≤ (now.since last).nanos) = true := by
          rw [← fresh, rule, found]
        simp [Throttle.allow, found, records.interval, wide]
    refine ⟨by rw [allowed, fresh], ?_⟩
    rw [allowed, if_pos fresh]
    refine ⟨records.interval, fun key => ?_⟩
    by_cases asked : key = scope
    · subst asked; simp
    · have differs : (key == scope) = false := by simpa using asked
      simp [List.lookup_cons, differs, lookup_filter_other, asked, records.last]
  · have refused : throttle.allow now scope = (throttle, false) := by
      cases found : throttle.lastSent.lookup scope with
      | none => simp [found] at rule; simp [rule] at fresh
      | some last =>
        have narrow : decide (interval.nanos ≤ (now.since last).nanos) = false := by
          simpa [rule, found] using fresh
        simp [Throttle.allow, found, records.interval, narrow]
    simp only [Bool.not_eq_true] at fresh
    rw [refused, fresh]
    exact ⟨rfl, records⟩

/-! ## What a send does -/

namespace AlertManager

/-- Handing an alert to the channels leaves each channel as its own `send` leaves it. -/
theorem deliver_channels (alert : Alert) (channels : List AlertChannel) (taken : Nat)
    (failure : Option String) :
    (deliver alert channels taken failure).1 = channels.map fun c => (c.send alert).1 := by
  induction channels generalizing taken failure with
  | nil => rfl
  | cons channel rest ih =>
    simp only [deliver, List.map_cons]
    split <;> simp [ih]

/-- The scope key does not read the alert's time. -/
@[simp] theorem scope_withTimestamp (alert : Alert) (moment : Instant) :
    ({ alert with timestamp := moment } : Alert).scope = alert.scope := rfl

/-- A send asks the throttle about the alert's key at the manager's time. Let through, the
alert (stamped with that time when it has none) goes to every channel; held back, only the
suppressed count moves. -/
theorem send_fst (manager : AlertManager) (alert : Alert) :
    (manager.send alert).1 =
      if (manager.throttle.allow manager.now alert.scope).2 then
        { manager with
          throttle := (manager.throttle.allow manager.now alert.scope).1
          channels := (manager.channels.toList.map fun c => (c.send
            (if alert.timestamp.isZero then { alert with timestamp := manager.now }
              else alert)).1).toArray }
      else
        { manager with
          throttle := (manager.throttle.allow manager.now alert.scope).1
          suppressed := manager.suppressed + 1 } := by
  have sameScope : (if alert.timestamp.isZero then { alert with timestamp := manager.now }
      else alert).scope = alert.scope := by
    split <;> rfl
  unfold send
  dsimp only
  rw [sameScope]
  cases (manager.throttle.allow manager.now alert.scope).2
  · rfl
  · -- whether some channel took the alert changes only the answer, not the manager
    simp only [Bool.not_true, Bool.false_eq_true, ↓reduceIte, deliver_channels,
      apply_ite Prod.fst, ite_self]

/-- A send at `now` on a throttle that records `sent`: the rule decides the verdict; let
through, the alert (stamped with `now` when it has none) goes to every channel and the history
gains it; held back, only the suppressed count moves. -/
theorem call_send {manager : AlertManager} (records : manager.throttle.Records interval sent)
    (sorted : NewestFirst sent) (now : Instant) (alert : Alert) :
    (manager.call (.send now alert)).throttle.Records interval
      (if freshAfter interval sent now alert.scope then (alert.scope, now) :: sent else sent) ∧
    (manager.call (.send now alert)).suppressed =
      manager.suppressed + (if freshAfter interval sent now alert.scope then 0 else 1) ∧
    (manager.call (.send now alert)).channels.toList =
      if freshAfter interval sent now alert.scope then
        manager.channels.toList.map fun c => (c.send
          (if alert.timestamp.isZero then { alert with timestamp := now } else alert)).1
      else manager.channels.toList := by
  obtain ⟨verdict, kept⟩ := allow_records records sorted now alert.scope
  simp only [call, send_fst]
  by_cases fresh : freshAfter interval sent now alert.scope = true
  · have allowed : (manager.throttle.allow now alert.scope).2 = true := verdict.trans fresh
    simp only [fresh, ↓reduceIte] at kept
    simp [allowed, fresh, kept]
  · have refused : (manager.throttle.allow now alert.scope).2 = false := by
      simpa [fresh] using verdict
    simp only [fresh, Bool.false_eq_true, ↓reduceIte] at kept
    simp [refused, fresh, kept]

/-- Clearing the throttle leaves it recording no delivery. -/
theorem call_reset (manager : AlertManager) :
    (manager.call .resetThrottle).throttle.Records manager.throttle.interval [] ∧
    (manager.call .resetThrottle).suppressed = manager.suppressed ∧
    (manager.call .resetThrottle).channels = manager.channels :=
  ⟨⟨rfl, fun _ => rfl⟩, rfl, rfl⟩

end AlertManager

/-! ## Runs -/

/-- A run whose clock readings never go back, and never go before a delivery of `sent`. -/
structure ClockForward (sent : List (String × Instant)) (calls : List AlertCall) : Prop where
  after : ∀ e ∈ sent, ∀ t ∈ calls.filterMap AlertCall.time?, e.2.nanos ≤ t.nanos
  ordered :
    (calls.filterMap AlertCall.time?).Pairwise fun earlier later => earlier.nanos ≤ later.nanos

namespace ClockForward

variable {calls : List AlertCall}

/-- After a send, the rest of the run is clocked forward from the history the rule gives. -/
theorem send {now : Instant} {alert : Alert}
    (forward : ClockForward sent (.send now alert :: calls)) (fresh : Bool) :
    ClockForward (if fresh then (alert.scope, now) :: sent else sent) calls := by
  have later : ∀ t ∈ calls.filterMap AlertCall.time?, now.nanos ≤ t.nanos := by
    have := forward.ordered
    simp only [List.filterMap_cons, AlertCall.time?, List.pairwise_cons] at this
    exact this.1
  have restOrdered := forward.ordered
  simp only [List.filterMap_cons, AlertCall.time?, List.pairwise_cons] at restOrdered
  refine ⟨fun e member t reading => ?_, restOrdered.2⟩
  have earlier : ∀ e ∈ sent, e.2.nanos ≤ t.nanos := fun e member =>
    forward.after e member t (by simp [AlertCall.time?, reading])
  cases fresh
  · exact earlier e member
  · rcases List.mem_cons.mp member with rfl | old
    · exact later t reading
    · exact earlier e old

/-- After a reset, the rest of the run is clocked forward from no history. -/
theorem reset (forward : ClockForward sent (.resetThrottle :: calls)) : ClockForward [] calls :=
  ⟨fun _ member => absurd member List.not_mem_nil, by
    simpa [List.filterMap_cons, AlertCall.time?] using forward.ordered⟩

end ClockForward

/-- A delivery the rule adds at `now`, in front of a history clocked before `now`, keeps the
history newest first. -/
theorem NewestFirst.cons {now : Instant} (sorted : NewestFirst sent) (scope : String)
    (before : ∀ e ∈ sent, e.2.nanos ≤ now.nanos) : NewestFirst ((scope, now) :: sent) :=
  List.pairwise_cons.mpr ⟨before, sorted⟩

/-- Along a run clocked forward, the throttle keeps recording the rule's history, which stays
newest first, and the suppressed count grows by the sends the rule holds back. -/
theorem AlertManager.callAll_records {manager : AlertManager} {calls : List AlertCall}
    (records : manager.throttle.Records interval sent) (sorted : NewestFirst sent)
    (forward : ClockForward sent calls) :
    (manager.callAll calls).throttle.Records interval (sentAfter interval sent calls) ∧
    NewestFirst (sentAfter interval sent calls) ∧
    (manager.callAll calls).suppressed = manager.suppressed + heldBack interval sent calls := by
  induction calls generalizing manager sent with
  | nil => exact ⟨records, sorted, rfl⟩
  | cons next rest ih =>
    cases next with
    | send now alert =>
      obtain ⟨kept, counted, -⟩ := AlertManager.call_send records sorted now alert
      have before : ∀ e ∈ sent, e.2.nanos ≤ now.nanos := fun e member =>
        forward.after e member now (by simp [AlertCall.time?])
      have stillSorted : NewestFirst (if freshAfter interval sent now alert.scope
          then (alert.scope, now) :: sent else sent) := by
        split
        · exact sorted.cons alert.scope before
        · exact sorted
      obtain ⟨records', sorted', suppressed'⟩ := ih kept stillSorted (forward.send _)
      refine ⟨records', sorted', ?_⟩
      rw [AlertManager.callAll, List.foldl_cons, ← AlertManager.callAll, suppressed', counted]
      by_cases fresh : freshAfter interval sent now alert.scope = true
      · simp [heldBack, fresh]
      · simp [heldBack, fresh]
        omega
    | resetThrottle =>
      obtain ⟨cleared, counted, -⟩ := AlertManager.call_reset manager
      obtain ⟨records', sorted', suppressed'⟩ :=
        ih (records.interval ▸ cleared) List.Pairwise.nil forward.reset
      exact ⟨records', sorted', by
        rw [AlertManager.callAll, List.foldl_cons, ← AlertManager.callAll, suppressed', counted]
        rfl⟩

/-- Every delivery of the rule's history was already there or is a send of the run. -/
theorem sentAfter_mem {calls : List AlertCall} {entry : String × Instant}
    (member : entry ∈ sentAfter interval sent calls) :
    entry ∈ sent ∨ entry.2 ∈ calls.filterMap AlertCall.time? := by
  induction calls generalizing sent with
  | nil => exact .inl member
  | cons next rest ih =>
    cases next with
    | send now alert =>
      rcases ih member with old | later
      · split at old
        · rcases List.mem_cons.mp old with rfl | older
          · exact .inr (by simp [AlertCall.time?])
          · exact .inl older
        · exact .inl old
      · exact .inr (by simp [AlertCall.time?, later])
    | resetThrottle =>
      rcases ih member with old | later
      · exact absurd old List.not_mem_nil
      · exact .inr (by simpa [List.filterMap_cons, AlertCall.time?] using later)

/-! ## The manager throttles per key -/

/-- Throttling is per scope key. Along any run of sends and resets on a new manager whose clock
readings never go back, the suppressed count is the number of sends the rule held back, and the
next send at `now` goes to every channel exactly when no alert of its key went out, since the
throttle was last cleared, less than the interval before `now`; otherwise it only raises the
suppressed count. After a reset the next send goes out, whatever its key. -/
theorem alerts_throttled_per_key (channels : List AlertChannel) (interval : Duration)
    (clock : Instant) (calls : List AlertCall) (now : Instant) (alert : Alert)
    (forward : (calls.filterMap AlertCall.time?).Pairwise
      fun earlier later => earlier.nanos ≤ later.nanos) :
    let before := (AlertManager.new channels interval clock).callAll calls
    let stamped : Alert := if alert.timestamp.isZero then { alert with timestamp := now } else alert
    before.suppressed = heldBack interval [] calls ∧
    (freshAfter interval (sentAfter interval [] calls) now alert.scope = true →
      (before.call (.send now alert)).suppressed = before.suppressed ∧
      (before.call (.send now alert)).channels.toList =
        before.channels.toList.map fun c => (c.send stamped).1) ∧
    (freshAfter interval (sentAfter interval [] calls) now alert.scope = false →
      (before.call (.send now alert)).suppressed = before.suppressed + 1 ∧
      (before.call (.send now alert)).channels = before.channels) ∧
    ((before.call .resetThrottle).call (.send now alert)).suppressed = before.suppressed ∧
    ((before.call .resetThrottle).call (.send now alert)).channels.toList =
      before.channels.toList.map fun c => (c.send stamped).1 := by
  intro before stamped
  have start : ClockForward [] calls := ⟨fun _ member => absurd member List.not_mem_nil, forward⟩
  have ran : before.throttle.Records interval (sentAfter interval [] calls) ∧
      NewestFirst (sentAfter interval [] calls) ∧
      before.suppressed = 0 + heldBack interval [] calls :=
    AlertManager.callAll_records ⟨rfl, fun _ => rfl⟩ List.Pairwise.nil start
  obtain ⟨records, sorted, suppressed⟩ := ran
  obtain ⟨-, counted, delivered⟩ := AlertManager.call_send records sorted now alert
  -- after a reset the throttle records nothing, so the rule lets any key through
  obtain ⟨cleared, clearedCount, clearedChannels⟩ := AlertManager.call_reset before
  obtain ⟨-, countedAfterReset, deliveredAfterReset⟩ :=
    AlertManager.call_send (records.interval ▸ cleared) List.Pairwise.nil now alert
  have freshAfterReset : freshAfter interval [] now alert.scope = true := rfl
  rw [freshAfterReset, if_pos rfl] at countedAfterReset deliveredAfterReset
  refine ⟨by simpa using suppressed, fun fresh => ?_, fun held => ?_, ?_, ?_⟩
  · rw [fresh, if_pos rfl] at counted delivered
    exact ⟨counted, delivered⟩
  · rw [held] at counted delivered
    exact ⟨counted, by simpa using delivered⟩
  · rw [countedAfterReset, clearedCount]
    rfl
  · rw [deliveredAfterReset, clearedChannels]

/-- An error alert about `VOD.L`. -/
def replayAborted : Alert := ⟨.error, "replay aborted", Instant.zero, [("symbol", .text "VOD.L")]⟩

/-- With an hourly throttle, the same alert sent again a minute later is held back. -/
theorem repeated_alert_held_back :
    ([AlertCall.send ⟨0⟩ replayAborted].filterMap AlertCall.time?).Pairwise
        (fun earlier later => earlier.nanos ≤ later.nanos) ∧
      (((AlertManager.new [AlertChannel.new "ops" false] ⟨3600000000000⟩ Instant.zero).callAll
        [.send ⟨0⟩ replayAborted]).call (.send ⟨60000000000⟩ replayAborted)).suppressed = 1 := by
  have ordered : ([AlertCall.send ⟨0⟩ replayAborted].filterMap AlertCall.time?).Pairwise
      (fun earlier later => earlier.nanos ≤ later.nanos) := by
    simp [AlertCall.time?]
  refine ⟨ordered, ?_⟩
  have held := (alerts_throttled_per_key [AlertChannel.new "ops" false] ⟨3600000000000⟩
    Instant.zero [.send ⟨0⟩ replayAborted] ⟨60000000000⟩ replayAborted ordered).2.2.1
    (by decide +kernel)
  rw [held.1]
  decide +kernel

/-! ## The key and the scope -/

/-- Alerts of one scope (level, message, and presence and value of the `symbol` and
`subscriber` fields) share a key, so they hold each other back. -/
theorem scope_eq_of_same_scope {first second : Alert} (level : first.level = second.level)
    (message : first.message = second.message)
    (symbol : first.fields.lookup "symbol" = second.fields.lookup "symbol")
    (subscriber : first.fields.lookup "subscriber" = second.fields.lookup "subscriber") :
    first.scope = second.scope := by
  simp [Alert.scope, scopeFields, level, message, symbol, subscriber]

/-- An error whose message spells out a `symbol` field. -/
def spelledSymbol : Alert := ⟨.error, "a|symbol=x", Instant.zero, []⟩

/-- An error with message `a` and a `symbol` field of value `x`. -/
def fieldSymbol : Alert := ⟨.error, "a", Instant.zero, [("symbol", .text "x")]⟩

/-- Two alerts of different scopes (their messages differ) share a key: sent one after the other
under an hourly throttle, the second is held back. -/
theorem spelled_field_suppresses_real_field :
    spelledSymbol.message ≠ fieldSymbol.message ∧ spelledSymbol.scope = fieldSymbol.scope ∧
    ((AlertManager.new [AlertChannel.new "ops" false] ⟨3600000000000⟩ Instant.zero).callAll
      [.send ⟨0⟩ spelledSymbol, .send ⟨0⟩ fieldSymbol]).suppressed = 1 := by
  refine ⟨by decide +kernel, by decide +kernel, by decide +kernel⟩

end Bourse
