import Bourse.Order.Tracking

/-!
# The discipline of an order tracker

Whatever calls a tracker takes, in any order and with any events and target statuses, it keeps
its open and done orders apart: no client order id is both open and done, every open order is
new or partially filled, and every status kept for a done order is final (`Tracker.Sound`,
which every tracker reached from an empty one satisfies). Each call keeps its promises about
the orders it touches (`TrackerRun.StepLaws`): an order open before and after the call keeps
its exchange order id; a replace hands the original's exchange order id, executed quantity and
average price on to the new order; an order leaves the open orders only when it is forgotten
or moved to a final status, which is then kept as done; and a refused call changes nothing.

The tracker's association lists are read through `Tracker.lookup`, with one lemma for each way
the tracker changes them. The invariant is proved one client order id at a time (`Known`):
a call changes at most two ids, and every other id keeps what was known of it.
-/

namespace Bourse

namespace Tracker

variable {α : Type}

@[simp] theorem lookup_nil (key : String) : lookup ([] : List (String × α)) key = none := rfl

@[simp] theorem lookup_cons (entry : String × α) (rest : List (String × α)) (key : String) :
    lookup (entry :: rest) key = if entry.1 = key then some entry.2 else lookup rest key := by
  by_cases same : entry.1 = key <;> simp [lookup, same]

/-- A key is looked up in the second list only when the first has no entry for it. -/
theorem lookup_append (entries more : List (String × α)) (key : String) :
    lookup (entries ++ more) key = (lookup entries key).or (lookup more key) := by
  induction entries with
  | nil => simp
  | cons entry rest inductionHypothesis =>
    by_cases same : entry.1 = key <;> simp [same, inductionHypothesis]

/-- A list has an entry under a key exactly when looking the key up finds one. -/
theorem any_key_iff (entries : List (String × α)) (key : String) :
    entries.any (·.1 == key) = true ↔ (lookup entries key).isSome := by
  induction entries with
  | nil => simp
  | cons entry rest inductionHypothesis =>
    by_cases same : entry.1 = key <;> simp [same, inductionHypothesis]

/-- Setting the value of a key in place changes what the key finds, if it finds anything, and
nothing else. -/
theorem lookup_map_set (entries : List (String × α)) (key other : String) (value : α) :
    lookup (entries.map fun (k, v) => if k == key then (k, value) else (k, v)) other =
      if other = key then (lookup entries key).map fun _ => value else lookup entries other := by
  induction entries with
  | nil => simp
  | cons entry rest inductionHypothesis =>
    obtain ⟨k, v⟩ := entry
    simp only [beq_iff_eq] at inductionHypothesis
    by_cases named : k = key
    · subst named
      by_cases asked : other = k
      · simp [asked]
      · simp [asked, Ne.symm asked, inductionHypothesis]
    · by_cases asked : other = k
      · subst asked
        simp [named]
      · simp [named, Ne.symm asked, inductionHypothesis]

/-- After setting a key, the key finds the value and every other key what it found before. -/
@[simp] theorem lookup_assign (entries : List (String × α)) (key other : String) (value : α) :
    lookup (assign entries key value) other =
      if other = key then some value else lookup entries other := by
  unfold assign
  split
  · rename_i present
    rw [lookup_map_set]
    split
    · obtain ⟨_, held⟩ := Option.isSome_iff_exists.mp ((any_key_iff entries key).mp present)
      simp [held]
    · rfl
  · rename_i absent
    have missing : lookup entries key = none := by
      simpa using (not_congr (any_key_iff entries key)).mp absent
    rw [lookup_append]
    by_cases asked : other = key
    · simp [asked, missing]
    · simp [asked, Ne.symm asked]

/-- After removing a key, the key finds nothing and every other key what it found before. -/
@[simp] theorem lookup_unassign (entries : List (String × α)) (key other : String) :
    lookup (unassign entries key) other = if other = key then none else lookup entries other := by
  induction entries with
  | nil => simp [unassign]
  | cons entry rest inductionHypothesis =>
    unfold unassign at inductionHypothesis ⊢
    by_cases kept : entry.1 = key <;> by_cases found : entry.1 = other <;> simp_all

end Tracker

namespace OrderStatus

/-- Statuses are compared by their code. -/
@[simp] theorem beq_iff_eq (a b : OrderStatus) : (a == b) = true ↔ a = b := by
  obtain ⟨a⟩ := a
  obtain ⟨b⟩ := b
  change (a == b) = true ↔ _
  simp

/-- A move is allowed exactly when a status that is not final stays, or the move is listed. -/
theorem checkMove_eq_ok_iff (source target : OrderStatus) :
    checkMove source target = .ok () ↔
      (source = target ∧ source.isFinal = false) ∨ (source, target) ∈ moves := by
  unfold checkMove
  split
  · rename_i stays
    simp only [Bool.and_eq_true, beq_iff_eq, Bool.not_eq_true'] at stays
    exact iff_of_true rfl (.inl stays)
  · rename_i moving
    split
    · rename_i listed
      simp only [List.any_eq_true, Bool.and_eq_true, beq_iff_eq] at listed
      obtain ⟨⟨a, b⟩, member, rfl, rfl⟩ := listed
      simp [member]
    · rename_i unlisted
      simp only [List.any_eq_true, Bool.and_eq_true, beq_iff_eq, not_exists, not_and] at unlisted
      simp only [Bool.and_eq_true, beq_iff_eq, Bool.not_eq_true', not_and] at moving
      simp only [reduceCtorEq, false_iff, not_or, not_and]
      exact ⟨moving, fun member => unlisted _ member rfl rfl⟩

/-- An order that is new or partially filled, moved to a status that is not final, is again new
or partially filled. -/
theorem checkMove_live {source target : OrderStatus}
    (live : source = new ∨ source = partiallyFilled) (moved : checkMove source target = .ok ())
    (staysOpen : target.isFinal = false) : target = new ∨ target = partiallyFilled := by
  rcases (checkMove_eq_ok_iff source target).mp moved with ⟨rfl, -⟩ | member
  · exact live
  · simp only [moves, List.mem_cons, Prod.mk.injEq, List.not_mem_nil, or_false] at member
    rcases member with ⟨-, rfl⟩ | ⟨-, rfl⟩ | ⟨-, rfl⟩ | ⟨-, rfl⟩ | ⟨-, rfl⟩ | ⟨-, rfl⟩ |
      ⟨-, rfl⟩ | ⟨-, rfl⟩ | ⟨-, rfl⟩ | ⟨-, rfl⟩ <;> revert staysOpen <;> decide

/-- A pending order may become new. -/
theorem checkMove_pending_new : checkMove pending new = .ok () := rfl

end OrderStatus

namespace Tracker

variable {tracker after : Tracker} {orderId original : String} {event : MarketEvent}
  {now : Instant} {order : TrackedOrder}

/-- The open order of an id is the entry of the id among the open orders. -/
theorem get?_eq_lookup (tracker : Tracker) (id : String) :
    tracker.get? id = lookup tracker.open id := rfl

@[simp] theorem restore_done (id : String) : (tracker.restore id).done = tracker.done := rfl

@[simp] theorem restore_open (id : String) :
    (tracker.restore id).open = unassign tracker.open id := rfl

/-- Accepting an order whose client order id is not open makes it new and open, and forgets
any done status of the id. -/
theorem accept_of_fresh (fresh : tracker.get? event.header.clientOrderId = none) :
    tracker.accept orderId event now =
      let order := { TrackedOrder.ofEvent event with orderId, status := .new, updatedAt := now }
      .ok (⟨assign tracker.open event.header.clientOrderId order,
        unassign tracker.done event.header.clientOrderId⟩, order) := by
  simp only [accept, fresh, Option.isSome_none, Bool.false_eq_true, if_false, move,
    OrderStatus.checkMove_pending_new]
  rfl

/-- An order whose client order id is open is refused as a duplicate. -/
theorem accept_of_open {existing : TrackedOrder}
    (found : tracker.get? event.header.clientOrderId = some existing) :
    tracker.accept orderId event now = .error (.duplicate event.header.clientOrderId) := by
  simp [accept, found]
  rfl

/-- A replace that goes through found the original open and the new client order id free
(unless it is the original's), and moved the original to replaced: the original is done and the
new order, new, is open with what it carries over. -/
theorem replace_eq_ok (replaced : tracker.replace original event now = .ok (after, order)) :
    ∃ orig, tracker.get? original = some orig ∧
      (event.header.clientOrderId ≠ original → tracker.get? event.header.clientOrderId = none) ∧
      OrderStatus.checkMove orig.status .replaced = .ok () ∧
      order = { TrackedOrder.ofEvent event with
        orderId := orig.orderId, cumQty := orig.cumQty, avgPrice := orig.avgPrice,
        leavesQty := (TrackedOrder.ofEvent event).quantity - orig.cumQty, status := .new,
        updatedAt := now } ∧
      after = ⟨assign (unassign tracker.open original) event.header.clientOrderId order,
        unassign (assign tracker.done original .replaced) event.header.clientOrderId⟩ := by
  unfold replace at replaced
  cases found : tracker.get? original with
  | none => simp [found] at replaced
  | some orig =>
    simp only [found] at replaced
    refine ⟨orig, rfl, ?_⟩
    split at replaced
    · cases replaced
    · rename_i free
      have free : event.header.clientOrderId ≠ original →
          tracker.get? event.header.clientOrderId = none := by
        intro differs
        simp only [Bool.and_eq_true, bne_iff_ne, ne_eq, not_and, Decidable.not_not] at free
        cases taken : tracker.get? event.header.clientOrderId with
        | none => rfl
        | some _ => exact absurd (free (by simp [taken])) differs
      unfold move at replaced
      cases moved : OrderStatus.checkMove orig.status .replaced with
      | error refusal =>
        rw [moved] at replaced
        cases replaced
      | ok u =>
        simp only [moved] at replaced
        obtain ⟨rfl, rfl⟩ := replaced
        exact ⟨free, rfl, rfl, rfl⟩

variable {target : OrderStatus}

/-- Applying an event to an order that is not open is refused, and changes nothing. -/
theorem apply_of_unknown (missing : tracker.get? event.header.clientOrderId = none) :
    tracker.apply event target now =
      (tracker, .error (.unknown event.header.clientOrderId, TrackedOrder.empty)) := by
  simp [apply, missing]

/-- Applying an event that would move its order illegally is refused, and changes nothing. -/
theorem apply_of_illegal {refusal : OrderStatus.IllegalMove}
    (found : tracker.get? event.header.clientOrderId = some order)
    (illegal : OrderStatus.checkMove order.status target = .error refusal) :
    tracker.apply event target now =
      (tracker, .error (.illegal order.clientOrderId refusal, order)) := by
  simp [apply, found, move, illegal]

/-- Applying an event with a legal move updates the order's quantities and status; an order
reaching a final status is done, with that status kept. -/
theorem apply_of_legal (found : tracker.get? event.header.clientOrderId = some order)
    (legal : OrderStatus.checkMove order.status target = .ok ()) :
    tracker.apply event target now =
      let h := event.header
      let moved := { order with
        status := target, updatedAt := now, quantity := h.orderQty, cumQty := h.cumQty,
        leavesQty := h.remainingQty, avgPrice := h.avgPrice }
      if target.isFinal then
        (⟨unassign tracker.open h.clientOrderId, assign tracker.done h.clientOrderId target⟩,
          .ok { moved with leavesQty := 0 })
      else (⟨assign tracker.open h.clientOrderId moved, tracker.done⟩, .ok moved) := by
  simp [apply, found, move, legal]

/-- What a tracker may know of one client order id: an open order, new or partially filled,
with no done status; a final status with no open order; or nothing. -/
def Known : Option TrackedOrder → Option OrderStatus → Prop
  | some order, none => order.status = .new ∨ order.status = .partiallyFilled
  | none, some status => status.isFinal = true
  | none, none => True
  | some _, some _ => False

/-- What every tracker reached by its calls keeps: no client order id is both open and done,
every open order is new or partially filled, and every status kept for a done order is final. -/
structure Sound (tracker : Tracker) : Prop where
  /-- An open order has no done status. -/
  disjoint : ∀ id, (tracker.get? id).isSome → lookup tracker.done id = none
  /-- Open orders are new or partially filled. -/
  live : ∀ id order, tracker.get? id = some order →
    order.status = .new ∨ order.status = .partiallyFilled
  /-- Done orders ended in a final status. -/
  final : ∀ id status, lookup tracker.done id = some status → status.isFinal = true

/-- An id with an open order has no done status, and its order is new or partially filled. -/
theorem Known.of_open {status : Option OrderStatus} (known : Known (some order) status) :
    status = none ∧ (order.status = .new ∨ order.status = .partiallyFilled) := by
  cases status with
  | none => exact ⟨rfl, known⟩
  | some _ => exact known.elim

/-- An id with a done status has no open order, and the status is final. -/
theorem Known.of_done {opened : Option TrackedOrder} {status : OrderStatus}
    (known : Known opened (some status)) : opened = none ∧ status.isFinal = true := by
  cases opened with
  | none => exact ⟨rfl, known⟩
  | some _ => exact known.elim

/-- Forgetting an open order keeps what is known of its id. -/
theorem Known.forget {order : Option TrackedOrder} {status : Option OrderStatus}
    (known : Known order status) : Known none status := by
  cases order with
  | none => exact known
  | some _ =>
    cases status with
    | none => trivial
    | some _ => exact known.elim

/-- A tracker is sound exactly when what it knows of each client order id is allowed. -/
theorem sound_iff_known :
    tracker.Sound ↔ ∀ id, Known (lookup tracker.open id) (lookup tracker.done id) := by
  constructor
  · intro sound id
    cases opened : lookup tracker.open id with
    | some order =>
      rw [sound.disjoint id (by simp [get?_eq_lookup, opened])]
      exact sound.live id order opened
    | none =>
      cases kept : lookup tracker.done id with
      | none => trivial
      | some status => exact sound.final id status kept
  · intro known
    refine ⟨fun id opened => ?_, fun id order found => ?_, fun id status kept => ?_⟩
    · obtain ⟨order, found⟩ := Option.isSome_iff_exists.mp opened
      have entry := known id
      rw [← get?_eq_lookup, found] at entry
      exact entry.of_open.1
    · have entry := known id
      rw [← get?_eq_lookup, found] at entry
      exact entry.of_open.2
    · have entry := known id
      rw [kept] at entry
      exact entry.of_done.2

/-- What a sound tracker knows of each id is allowed. -/
theorem Sound.known (sound : tracker.Sound) (id : String) :
    Known (lookup tracker.open id) (lookup tracker.done id) :=
  sound_iff_known.mp sound id

/-- An empty tracker is sound. -/
theorem Sound.empty : Tracker.empty.Sound :=
  sound_iff_known.mpr fun _ => by simp [Tracker.empty, Known]

/-- Forgetting an open order keeps a tracker sound. -/
theorem Sound.restore (sound : tracker.Sound) (id : String) : (tracker.restore id).Sound := by
  refine sound_iff_known.mpr fun other => ?_
  by_cases forgotten : other = id
  · simpa [forgotten] using (sound.known id).forget
  · simpa [forgotten] using sound.known other

/-- Accepting an order keeps a tracker sound. -/
theorem Sound.accept (sound : tracker.Sound)
    (accepted : tracker.accept orderId event now = .ok (after, order)) : after.Sound := by
  cases fresh : tracker.get? event.header.clientOrderId with
  | some existing => rw [accept_of_open fresh] at accepted; cases accepted
  | none =>
    rw [accept_of_fresh fresh] at accepted
    obtain ⟨rfl, rfl⟩ := Prod.mk.inj (Except.ok.inj accepted)
    refine sound_iff_known.mpr fun id => ?_
    by_cases named : id = event.header.clientOrderId
    · simp [named, Known]
    · simpa [named] using sound.known id

/-- Replacing an order keeps a tracker sound. -/
theorem Sound.replace (sound : tracker.Sound)
    (replaced : tracker.replace original event now = .ok (after, order)) : after.Sound := by
  obtain ⟨orig, -, -, -, rfl, rfl⟩ := replace_eq_ok replaced
  refine sound_iff_known.mpr fun id => ?_
  by_cases named : id = event.header.clientOrderId
  · simp [named, Known]
  · by_cases origin : id = original
    · subst origin
      simp [named, Known]
      rfl
    · simpa [named, origin] using sound.known id

/-- Applying an event, with any target status, keeps a tracker sound. -/
theorem Sound.apply (sound : tracker.Sound) (event : MarketEvent) (target : OrderStatus)
    (now : Instant) : (tracker.apply event target now).1.Sound := by
  cases found : tracker.get? event.header.clientOrderId with
  | none => rw [apply_of_unknown found]; exact sound
  | some order =>
    cases legal : OrderStatus.checkMove order.status target with
    | error refusal => rw [apply_of_illegal found legal]; exact sound
    | ok u =>
      rw [apply_of_legal found legal]
      refine sound_iff_known.mpr fun id => ?_
      by_cases named : id = event.header.clientOrderId
      · subst named
        cases finished : target.isFinal
        · -- The order stays open, in the status it moved to.
          have live := OrderStatus.checkMove_live (sound.live _ order found) legal finished
          have undone := sound.disjoint event.header.clientOrderId (by simp [found])
          simpa [finished, Known, undone] using live
        · -- The order is done, its final status kept.
          simp [finished, Known]
      · cases finished : target.isFinal <;> simpa [named, finished] using sound.known id

/-- An accepted order is open under its client order id; every other id is as it was. -/
theorem accept_open (accepted : tracker.accept orderId event now = .ok (after, order)) :
    tracker.get? event.header.clientOrderId = none ∧ ∀ id,
      lookup after.open id =
        if id = event.header.clientOrderId then some order else lookup tracker.open id := by
  cases fresh : tracker.get? event.header.clientOrderId with
  | some existing => rw [accept_of_open fresh] at accepted; cases accepted
  | none =>
    rw [accept_of_fresh fresh] at accepted
    obtain ⟨rfl, rfl⟩ := Prod.mk.inj (Except.ok.inj accepted)
    exact ⟨rfl, fun id => lookup_assign _ _ id _⟩

section Untouched

variable {before after : Tracker} {id : String}

/-- An id whose open entry a change leaves as it was keeps its exchange order id. -/
theorem orderId_of_untouched {old new : TrackedOrder}
    (same : lookup after.open id = lookup before.open id) (found : before.get? id = some old)
    (kept : after.get? id = some new) : new.orderId = old.orderId := by
  rw [get?_eq_lookup, same, ← get?_eq_lookup, found] at kept
  cases kept
  rfl

/-- An id whose open entry a change leaves as it was stays open. -/
theorem open_of_untouched (same : lookup after.open id = lookup before.open id)
    (opened : (before.get? id).isSome) : after.get? id ≠ none := by
  rw [get?_eq_lookup, same, ← get?_eq_lookup]
  exact Option.isSome_iff_ne_none.mp opened

end Untouched

end Tracker

namespace TrackerRun

/-- The run after taking steps in order. -/
def takeAll (run : TrackerRun) (steps : List TrackerStep) : TrackerRun :=
  steps.foldl (fun run step => (run.step step).1) run

/-- Every step keeps a sound tracker sound. -/
theorem step_sound {run : TrackerRun} (sound : run.tracker.Sound) (step : TrackerStep) :
    (run.step step).1.tracker.Sound := by
  cases step with
  | accept event =>
    simp only [TrackerRun.step]
    cases accepted : run.tracker.accept ("ord-" ++ toString (run.issued + 1)) event run.now with
    | error _ => exact sound
    | ok result => exact sound.accept accepted
  | replace original event =>
    simp only [TrackerRun.step]
    cases replaced : run.tracker.replace original event run.now with
    | error _ => exact sound
    | ok result => exact sound.replace replaced
  | apply event target => exact sound.apply event _ run.now
  | restore id => exact sound.restore id
  | get id => exact sound
  | canCancel id => exact sound
  | setClock moment => exact sound

/-- Every tracker reached from an empty one is sound. -/
theorem takeAll_sound (now : Instant) (steps : List TrackerStep) :
    (takeAll ⟨Tracker.empty, now, 0⟩ steps).tracker.Sound := by
  suffices ∀ run : TrackerRun, run.tracker.Sound → (takeAll run steps).tracker.Sound from
    this _ Tracker.Sound.empty
  induction steps with
  | nil => exact fun _ sound => sound
  | cons step rest inductionHypothesis =>
    exact fun run sound => inductionHypothesis _ (step_sound sound step)

/-- What one step promises about the orders it touches. -/
structure StepLaws (run : TrackerRun) (step : TrackerStep) : Prop where
  /-- An order open before and after the step keeps its exchange order id. -/
  keepsOrderId : ∀ id before after, run.tracker.get? id = some before →
    (run.step step).1.tracker.get? id = some after → after.orderId = before.orderId
  /-- A replace that goes through gives the new order, open under its client order id, the
  original's exchange order id, executed quantity and average price, with the rest of its
  quantity left. -/
  carries : ∀ original event order, step = .replace original event →
    (run.step step).2 = .order (.ok order) →
    ∃ orig, run.tracker.get? original = some orig ∧ order.orderId = orig.orderId ∧
      order.cumQty = orig.cumQty ∧ order.avgPrice = orig.avgPrice ∧
      order.leavesQty = order.quantity - order.cumQty ∧
      (run.step step).1.tracker.get? event.header.clientOrderId = some order
  /-- An order leaves the open orders only when it is forgotten, or when an apply or a
  replace moves it to a final status, which is then kept as done. -/
  leaves : ∀ id, (run.tracker.get? id).isSome → (run.step step).1.tracker.get? id = none →
    step = .restore id ∨
    ∃ status, status.isFinal = true ∧
      Tracker.lookup (run.step step).1.tracker.done id = some status ∧
      ((∃ event target, step = .apply event target ∧ event.header.clientOrderId = id ∧
          target.getD (OrderStatus.ofEvent event) = status) ∨
        (∃ event, step = .replace id event ∧ status = .replaced))
  /-- A refused step changes nothing. -/
  refusalChangesNothing : ∀ error order, (run.step step).2 = .order (.error (error, order)) →
    (run.step step).1 = run

/-- A step that leaves the tracker as it was, and answers with an order only to refuse and
change nothing, keeps every law. -/
theorem stepLaws_of_untouched {run : TrackerRun} {step : TrackerStep}
    (same : (run.step step).1.tracker = run.tracker)
    (refused : ∀ result, (run.step step).2 = .order result →
      (∃ error, result = .error error) ∧ (run.step step).1 = run) :
    run.StepLaws step where
  keepsOrderId _ _ _ found kept := by
    rw [same, found] at kept
    cases kept
    rfl
  carries _ _ _ _ answer := by
    obtain ⟨⟨_, refusal⟩, -⟩ := refused _ answer
    cases refusal
  leaves _ opened gone := by
    rw [same] at gone
    rw [gone] at opened
    cases opened
  refusalChangesNothing _ _ answer := (refused _ answer).2

/-- A refused acceptance or replacement leaves the run as it was. -/
theorem stepLaws_of_refused {run : TrackerRun} {step : TrackerStep} {refusal : TrackerError}
    (stepped : run.step step = (run, .order (.error (refusal, TrackedOrder.empty)))) :
    run.StepLaws step :=
  stepLaws_of_untouched (by rw [stepped]) fun _ answer => by
    rw [stepped] at answer ⊢
    cases answer
    exact ⟨⟨_, rfl⟩, rfl⟩

/-- Accepting an order touches no order that was open. -/
theorem stepLaws_accept (run : TrackerRun) (event : MarketEvent) :
    run.StepLaws (.accept event) := by
  cases accepted : run.tracker.accept ("ord-" ++ toString (run.issued + 1)) event run.now with
  | error refusal =>
    have stepped : run.step (.accept event) =
        (run, .order (.error (refusal, TrackedOrder.empty))) := by
      simp only [TrackerRun.step]
      rw [accepted]
      rfl
    exact stepLaws_of_refused stepped
  | ok result =>
    obtain ⟨after, order⟩ := result
    have stepped : run.step (.accept event) =
        ({ run with tracker := after, issued := run.issued + 1 }, .order (.ok order)) := by
      simp only [TrackerRun.step]
      rw [accepted]
      rfl
    have opens := Tracker.accept_open accepted
    refine ⟨fun id before later found kept => ?_,
      fun _ _ _ replaced _ => TrackerStep.noConfusion replaced,
      fun id opened gone => ?_, fun _ _ answer => ?_⟩
    · -- The accepted id was free, so an order open before is untouched.
      rw [stepped] at kept
      by_cases named : id = event.header.clientOrderId
      · subst named
        rw [opens.1] at found
        cases found
      · exact Tracker.orderId_of_untouched (by rw [opens.2 id, if_neg named]) found kept
    · rw [stepped] at gone
      by_cases named : id = event.header.clientOrderId
      · rw [Tracker.get?_eq_lookup, opens.2 id, if_pos named] at gone
        cases gone
      · exact absurd gone (Tracker.open_of_untouched (by rw [opens.2 id, if_neg named]) opened)
    · rw [stepped] at answer
      cases answer

/-- A replace takes only the original off, and keeps it as replaced unless its id goes on. -/
theorem stepLaws_replace (run : TrackerRun) (original : String) (event : MarketEvent) :
    run.StepLaws (.replace original event) := by
  cases replaced : run.tracker.replace original event run.now with
  | error refusal =>
    have stepped : run.step (.replace original event) =
        (run, .order (.error (refusal, TrackedOrder.empty))) := by
      simp only [TrackerRun.step]
      rw [replaced]
      rfl
    exact stepLaws_of_refused stepped
  | ok result =>
    obtain ⟨after, order⟩ := result
    have stepped : run.step (.replace original event) =
        ({ run with tracker := after }, .order (.ok order)) := by
      simp only [TrackerRun.step]
      rw [replaced]
      rfl
    obtain ⟨orig, found, free, -, rfl, rfl⟩ := Tracker.replace_eq_ok replaced
    refine ⟨fun id before later opened kept => ?_, fun _ _ _ same answer => ?_,
      fun id opened gone => ?_, fun _ _ answer => ?_⟩
    · rw [stepped] at kept
      by_cases named : id = event.header.clientOrderId
      · -- The new order's id was free unless it is the original's.
        simp only [Tracker.get?_eq_lookup, Tracker.lookup_assign, Tracker.lookup_unassign] at kept
        rw [if_pos named] at kept
        cases kept
        by_cases origin : id = original
        · subst origin
          rw [found] at opened
          cases opened
          rfl
        · rw [named] at origin opened
          rw [free origin] at opened
          cases opened
      · by_cases origin : id = original
        · subst origin
          simp [Tracker.get?_eq_lookup, named] at kept
        · exact Tracker.orderId_of_untouched (by simp [named, origin]) opened kept
    · cases same
      rw [stepped] at answer ⊢
      cases answer
      exact ⟨orig, found, rfl, rfl, rfl, rfl, by simp [Tracker.get?_eq_lookup]⟩
    · rw [stepped] at gone
      by_cases named : id = event.header.clientOrderId
      · simp [Tracker.get?_eq_lookup, named] at gone
      · by_cases origin : id = original
        · -- The original is replaced, and kept as done unless its id goes on.
          subst origin
          refine .inr ⟨.replaced, rfl, ?_, .inr ⟨event, rfl, rfl⟩⟩
          rw [stepped]
          simp [named]
        · exact absurd gone (Tracker.open_of_untouched (by simp [named, origin]) opened)
    · rw [stepped] at answer
      cases answer

/-- Forgetting an order takes only that order off. -/
theorem stepLaws_restore (run : TrackerRun) (id : String) : run.StepLaws (.restore id) where
  keepsOrderId other before after found kept := by
    change (run.tracker.restore id).get? other = some after at kept
    by_cases forgotten : other = id
    · simp [Tracker.get?_eq_lookup, forgotten] at kept
    · exact Tracker.orderId_of_untouched (by simp [forgotten]) found kept
  carries _ _ _ same _ := TrackerStep.noConfusion same
  leaves other opened gone := by
    change (run.tracker.restore id).get? other = none at gone
    by_cases forgotten : other = id
    · exact .inl (by rw [forgotten])
    · exact absurd gone (Tracker.open_of_untouched (by simp [forgotten]) opened)
  refusalChangesNothing _ _ answer := TrackerAnswer.noConfusion answer

/-- Applying an event touches only the order it names: the order keeps its exchange order id
while open, and leaves only for the final status it moved to. -/
theorem stepLaws_apply (run : TrackerRun) (event : MarketEvent) (target : Option OrderStatus) :
    run.StepLaws (.apply event target) := by
  have stepped : run.step (.apply event target) =
      ({ run with tracker := (run.tracker.apply event (target.getD (.ofEvent event)) run.now).1 },
        .order (run.tracker.apply event (target.getD (.ofEvent event)) run.now).2) := rfl
  -- A refused apply gives the tracker back as it was.
  have untouched : ∀ result,
      run.tracker.apply event (target.getD (.ofEvent event)) run.now =
        (run.tracker, .error result) →
      run.StepLaws (.apply event target) := fun result refused =>
    stepLaws_of_untouched (by rw [stepped, refused]) fun _ answer => by
      rw [stepped, refused] at answer ⊢
      cases answer
      exact ⟨⟨_, rfl⟩, rfl⟩
  cases found : run.tracker.get? event.header.clientOrderId with
  | none => exact untouched _ (Tracker.apply_of_unknown found)
  | some order =>
    cases legal : OrderStatus.checkMove order.status (target.getD (.ofEvent event)) with
    | error refusal => exact untouched _ (Tracker.apply_of_illegal found legal)
    | ok u =>
      rw [Tracker.apply_of_legal found legal] at stepped
      cases finished : (target.getD (OrderStatus.ofEvent event)).isFinal
      · -- The order stays open under its id, with its exchange order id.
        simp only [finished, Bool.false_eq_true, if_false] at stepped
        refine ⟨fun id before later opened kept => ?_,
          fun _ _ _ same _ => TrackerStep.noConfusion same,
          fun id opened gone => ?_, fun _ _ answer => ?_⟩
        · rw [stepped] at kept
          by_cases named : id = event.header.clientOrderId
          · simp only [Tracker.get?_eq_lookup, Tracker.lookup_assign] at kept
            rw [if_pos named] at kept
            rw [named, found] at opened
            cases kept
            cases opened
            rfl
          · exact Tracker.orderId_of_untouched (by simp [named]) opened kept
        · rw [stepped] at gone
          by_cases named : id = event.header.clientOrderId
          · simp [Tracker.get?_eq_lookup, named] at gone
          · exact absurd gone (Tracker.open_of_untouched (by simp [named]) opened)
        · rw [stepped] at answer
          cases answer
      · -- The order is done, its final status kept.
        simp only [finished, if_true] at stepped
        refine ⟨fun id before later opened kept => ?_,
          fun _ _ _ same _ => TrackerStep.noConfusion same,
          fun id opened gone => ?_, fun _ _ answer => ?_⟩
        · rw [stepped] at kept
          by_cases named : id = event.header.clientOrderId
          · simp [Tracker.get?_eq_lookup, named] at kept
          · exact Tracker.orderId_of_untouched (by simp [named]) opened kept
        · by_cases named : id = event.header.clientOrderId
          · subst named
            refine .inr ⟨_, finished, ?_, .inl ⟨event, target, rfl, rfl, rfl⟩⟩
            rw [stepped]
            simp
          · rw [stepped] at gone
            exact absurd gone (Tracker.open_of_untouched (by simp [named]) opened)
        · rw [stepped] at answer
          cases answer

/-- Every step keeps its laws. -/
theorem stepLaws (run : TrackerRun) (step : TrackerStep) : run.StepLaws step := by
  cases step with
  | accept event => exact stepLaws_accept run event
  | replace original event => exact stepLaws_replace run original event
  | apply event target => exact stepLaws_apply run event target
  | restore id => exact stepLaws_restore run id
  | get id =>
    refine stepLaws_of_untouched rfl fun _ answer => TrackerAnswer.noConfusion answer
  | canCancel id =>
    refine stepLaws_of_untouched rfl fun _ answer => TrackerAnswer.noConfusion answer
  | setClock moment =>
    refine stepLaws_of_untouched rfl fun _ answer => TrackerAnswer.noConfusion answer

/-- Whatever calls a tracker takes from empty, it stays sound, and the next call keeps its
laws: open orders keep their exchange order id, a replace carries the original's exchange order
id, executed quantity and average price over, an order leaves the open orders only when
forgotten or moved to a final status kept as done, and a refused call changes nothing. -/
theorem tracker_calls_keep_discipline (now : Instant) (steps : List TrackerStep) :
    (takeAll ⟨Tracker.empty, now, 0⟩ steps).tracker.Sound ∧
      ∀ step, (takeAll ⟨Tracker.empty, now, 0⟩ steps).StepLaws step :=
  ⟨takeAll_sound now steps, stepLaws _⟩

end TrackerRun

end Bourse
