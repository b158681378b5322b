import Mathlib.Tactic.NormNum.Basic
import Mathlib.Tactic.NormNum.DivMod
import Bourse.Proofs.Book.Steps
import Bourse.Proofs.Matching.FullScan
import Bourse.Event.Validate

/-!
# The representation invariant of the book

A well-formed side (`BookSide.WellFormed`) stands best first, holds each key once, holds only
the orders that belong on it (bids that buy on the bid side, offers that sell on the offer
side), and every order on it is balanced: its remaining quantity is its order quantity less its
cumulative quantity, exactly and without wrapping, and is not negative (`Header.Balanced`).

The invariant is kept by every change the book makes (`Bourse.Proofs.Book.Steps`): inserting
an order that the book admits, filling an order by a positive quantity within what remains,
taking an order off, and so by a whole round of matching. Quantities are 64-bit; the balance of
an admitted order and of every fill is exact in the integers, because the order quantity is
positive and every fill stays within what remains, so no sum or difference leaves the range.
-/

namespace Bourse

/-- A difference of 64-bit integers is exact when the first is positive and the result is not
negative: a wrapped difference would be negative. -/
theorem Int64.toInt_sub_of_nonneg (first second : Int64) (positive : 0 < first.toInt)
    (nonnegative : 0 ≤ (first - second).toInt) :
    (first - second).toInt = first.toInt - second.toInt := by
  have firstBelow := Int64.toInt_lt first
  have secondAbove := Int64.le_toInt second
  have secondBelow := Int64.toInt_lt second
  rw [Int64.toInt_sub, Int.bmod_def] at nonnegative ⊢
  norm_num at nonnegative ⊢
  split at nonnegative <;> split <;> omega

/-- A sum of 64-bit integers that stays in range is exact. -/
theorem Int64.toInt_add_of_bounds (first second : Int64)
    (below : first.toInt + second.toInt < 2 ^ 63) (above : -2 ^ 63 ≤ first.toInt + second.toInt) :
    (first + second).toInt = first.toInt + second.toInt := by
  rw [Int64.toInt_add]
  exact Int.bmod_eq_of_le (by norm_num; omega) (by norm_num; omega)

/-- A difference of 64-bit integers that stays in range is exact. -/
theorem Int64.toInt_sub_of_bounds (first second : Int64)
    (below : first.toInt - second.toInt < 2 ^ 63) (above : -2 ^ 63 ≤ first.toInt - second.toInt) :
    (first - second).toInt = first.toInt - second.toInt := by
  rw [Int64.toInt_sub]
  exact Int.bmod_eq_of_le (by norm_num; omega) (by norm_num; omega)

namespace Header

/-- The quantities of an order add up: what remains is the order quantity less what was
executed, exactly, and it is not negative. -/
def Balanced (header : Header) : Prop :=
  header.remainingQty.toInt = header.orderQty.toInt - header.cumQty.toInt ∧
    0 ≤ header.remainingQty.toInt

/-- In 64-bit arithmetic, as the book checks it. -/
theorem Balanced.remainingQty_eq {header : Header} (balanced : header.Balanced) :
    header.remainingQty = header.orderQty - header.cumQty := by
  have balance := balanced.1
  have nonnegative := balanced.2
  have remainingBelow := Int64.toInt_lt header.remainingQty
  apply Int64.toInt_inj.mp
  rw [balance, Int64.toInt_sub_of_bounds _ _ (by omega) (by omega)]

/-- A balanced order passes the check the book makes of an order's quantities after a fill. -/
theorem Balanced.passes_check {header : Header} (balanced : header.Balanced) :
    ¬(header.remainingQty < 0 ∨ ¬header.remainingQty = header.orderQty - header.cumQty) := by
  rintro (negative | mismatch)
  · have below := Int64.lt_iff_toInt_lt.mp negative
    have nonnegative := balanced.2
    rw [Int64.toInt_zero] at below
    omega
  · exact mismatch balanced.remainingQty_eq

section Execution

variable {header : Header} {qty : Int64} (price : Decimal)

/-- A fill within what remains adds to the cumulative quantity exactly. -/
theorem cumQty_applyExecution (balanced : header.Balanced) (positive : 0 < qty)
    (within : qty ≤ header.remainingQty) :
    (header.applyExecution qty price).cumQty.toInt = header.cumQty.toInt + qty.toInt := by
  have qtyPositive : 0 < qty.toInt := by simpa using Int64.lt_iff_toInt_lt.mp positive
  have qtyWithin := Int64.le_iff_toInt_le.mp within
  have orderBelow := Int64.toInt_lt header.orderQty
  have cumAbove := Int64.le_toInt header.cumQty
  exact Int64.toInt_add_of_bounds _ _ (by have := balanced.1; omega) (by omega)

/-- A fill within what remains takes exactly its quantity off what remains. -/
theorem remainingQty_applyExecution (balanced : header.Balanced) (positive : 0 < qty)
    (within : qty ≤ header.remainingQty) :
    (header.applyExecution qty price).remainingQty.toInt =
      header.remainingQty.toInt - qty.toInt := by
  have added := cumQty_applyExecution price balanced positive within
  have qtyWithin := Int64.le_iff_toInt_le.mp within
  have qtyPositive : 0 < qty.toInt := by simpa using Int64.lt_iff_toInt_lt.mp positive
  have remainingBelow := Int64.toInt_lt header.remainingQty
  have balance := balanced.1
  show (header.orderQty - (header.applyExecution qty price).cumQty).toInt = _
  rw [Int64.toInt_sub_of_bounds _ _ (by rw [added]; omega) (by rw [added]; omega), added]
  omega

/-- A fill within what remains keeps the order balanced. -/
theorem Balanced.applyExecution (balanced : header.Balanced) (positive : 0 < qty)
    (within : qty ≤ header.remainingQty) : (header.applyExecution qty price).Balanced := by
  have added := cumQty_applyExecution price balanced positive within
  have taken := remainingQty_applyExecution price balanced positive within
  have qtyWithin := Int64.le_iff_toInt_le.mp within
  have sameOrder : (header.applyExecution qty price).orderQty = header.orderQty := rfl
  refine ⟨?_, ?_⟩
  · rw [taken, added, sameOrder, balanced.1]
    omega
  · rw [taken]
    omega

/-- A fill within what remains leaves nothing exactly when it takes all that remains. -/
theorem Balanced.remainingQty_applyExecution_eq_zero (balanced : header.Balanced)
    (positive : 0 < qty) (within : qty ≤ header.remainingQty) :
    (header.applyExecution qty price).remainingQty = 0 ↔ qty = header.remainingQty := by
  have taken := remainingQty_applyExecution price balanced positive within
  rw [← Int64.toInt_inj, ← Int64.toInt_inj, taken, Int64.toInt_zero]
  omega

end Execution

/-- Stamping an order for placement leaves its quantities alone. -/
@[simp] theorem balanced_stamp (now : Instant) (header : Header) :
    (OrderBook.stamp now header).Balanced ↔ header.Balanced :=
  Iff.rfl

end Header

/-- An order's side code agrees with its kind: a bid buys, an offer sells, short or not. -/
def MarketEvent.Sided (order : MarketEvent) : Prop :=
  (order.kind = .bid ∧ order.header.side = Side.buy) ∨
    (order.kind = .offer ∧ order.header.side.isSell = true)

/-- What the event rules ask of an order: its side agrees with its kind and its quantities add
up. -/
theorem MarketEvent.validate_order {event : MarketEvent}
    (valid : event.validate = .ok ()) (order : Trade.ofEvent? event = none) :
    event.Sided ∧ MarketEvent.checkResting event.header = .ok () := by
  unfold MarketEvent.validate at valid
  dsimp only at valid
  by_cases negative : event.header.orderQty < 0
  · rw [if_pos negative] at valid
    cases valid
  rw [if_neg negative] at valid
  -- A bid and an offer end in the check of their quantities, once their side is right.
  split at valid
  case h_1 header =>
    split at valid
    · cases valid
    · rename_i buying
      exact ⟨.inl ⟨rfl, by simpa [MarketEvent.header] using buying⟩, valid⟩
  case h_2 header =>
    split at valid
    · cases valid
    · rename_i selling
      exact ⟨.inr ⟨rfl, by simpa [MarketEvent.header] using selling⟩, valid⟩
  all_goals simp [Trade.ofEvent?] at order

/-- An order the book admits is sided and balanced. The book asks for a positive order quantity
and the event's own rules for a remaining quantity equal, in 64 bits, to the order quantity less
the cumulative quantity and not negative; with a positive order quantity that difference cannot
have wrapped. -/
theorem MarketEvent.admitted_of_check {ρ : Type} {book : OrderBook ρ} {event : MarketEvent}
    (admitted : book.check event = .ok ()) (order : Trade.ofEvent? event = none) :
    event.Sided ∧ event.header.Balanced := by
  have isOrder : event.isOrder = true := by
    cases event <;> simp_all [Trade.ofEvent?, MarketEvent.isOrder]
  unfold OrderBook.check at admitted
  simp only [isOrder, if_true] at admitted
  split at admitted
  · cases admitted
  split at admitted
  · cases admitted
  rename_i positiveQty
  obtain ⟨sided, resting⟩ : event.Sided ∧ MarketEvent.checkResting event.header = .ok () := by
    split at admitted
    · rename_i valid
      exact MarketEvent.validate_order valid order
    · cases admitted
  refine ⟨sided, ?_⟩
  unfold MarketEvent.checkResting at resting
  split at resting
  · cases resting
  rename_i consistent
  split at resting
  · cases resting
  rename_i nonnegative
  have remaining : event.header.remainingQty = event.header.orderQty - event.header.cumQty := by
    simpa using consistent
  have remainingNonneg : 0 ≤ event.header.remainingQty.toInt := by
    simpa using Int64.le_iff_toInt_le.mp (Int64.not_lt.mp nonnegative)
  have orderPositive : 0 < event.header.orderQty.toInt := by
    simpa using Int64.lt_iff_toInt_lt.mp (Int64.not_le.mp positiveQty)
  refine ⟨?_, remainingNonneg⟩
  rw [remaining] at remainingNonneg ⊢
  exact Int64.toInt_sub_of_nonneg _ _ orderPositive remainingNonneg

theorem Side.isBuy_eq_false_of_isSell {side : Side} (selling : side.isSell = true) :
    side.isBuy = false := by
  unfold Side.isSell at selling
  rcases Bool.or_eq_true_iff.mp selling with sell | sellShort
  · rw [beq_iff_eq] at sell
    subst sell
    decide
  · rw [beq_iff_eq] at sellShort
    subst sellShort
    decide

/-- What an order at rest shows to matching: its shape, and whether it has quantity left. -/
def MarketEvent.standing (order : MarketEvent) : OrderShape × Bool :=
  (order.shape, decide (0 < order.header.remainingQty))

namespace BookSide

/-- The shapes that rest on a side: bids that buy on the buying side, offers that sell on the
other. -/
def Fits (side : BookSide) (shape : OrderShape) : Prop :=
  (shape.kind = .bid ∧ side.buying = true ∧ shape.side = Side.buy) ∨
    (shape.kind = .offer ∧ side.buying = false ∧ shape.side.isSell = true)

/-- The index agrees with the list: under every key it holds the first order of the list with
that key, and nothing under a key no order has. -/
def Indexed (side : BookSide) : Prop :=
  ∀ key, side.index key = side.orders.find? (·.key == key)

/-- The representation invariant of one side of the book. -/
structure WellFormed (side : BookSide) : Prop where
  /-- Best first. -/
  ranked : side.Ranked
  /-- No key rests twice. -/
  keysUnique : (side.orders.map MarketEvent.key).Nodup
  /-- Only orders of this side rest here. -/
  fits : ∀ order ∈ side.orders, side.Fits order.shape
  /-- Every order's quantities add up. -/
  balanced : ∀ order ∈ side.orders, order.header.Balanced
  /-- The index holds what the list holds. -/
  indexed : side.Indexed

/-- A side thins into `after` when `after` is the same side and the standings of its orders are
some of the side's, in the same order: orders were taken off, and others filled in place
without using up what they had left. -/
def Thins (side after : BookSide) : Prop :=
  after.buying = side.buying ∧
    (after.orders.map MarketEvent.standing).Sublist (side.orders.map MarketEvent.standing)

theorem Thins.refl (side : BookSide) : side.Thins side := ⟨rfl, List.Sublist.refl _⟩

theorem Thins.trans {side middle after : BookSide} (first : side.Thins middle)
    (second : middle.Thins after) : side.Thins after :=
  ⟨second.1.trans first.1, second.2.trans first.2⟩

/-- A thinned side keeps some of the shapes, in the same order. -/
theorem Thins.shapes {side after : BookSide} (thins : side.Thins after) :
    (after.orders.map MarketEvent.shape).Sublist (side.orders.map MarketEvent.shape) := by
  have firsts := thins.2.map Prod.fst
  simpa [List.map_map, Function.comp_def, MarketEvent.standing] using firsts

/-- Every order of a thinned side stands as an order of the side stood. -/
theorem Thins.exists_of_mem {side after : BookSide} (thins : side.Thins after)
    {order : MarketEvent} (member : order ∈ after.orders) :
    ∃ source ∈ side.orders, source.standing = order.standing :=
  List.mem_map.mp (thins.2.subset (List.mem_map_of_mem member))

/-- Priority is read off the shapes. -/
theorem ranked_iff_shapes (side : BookSide) :
    side.Ranked ↔ (side.orders.map MarketEvent.shape).Pairwise fun earlier later =>
      priority side.buying later.market later.price ≤
        priority side.buying earlier.market earlier.price := by
  unfold Ranked
  rw [List.pairwise_map]
  rfl

theorem keys_eq_shapes (orders : List MarketEvent) :
    orders.map MarketEvent.key = (orders.map MarketEvent.shape).map OrderShape.key := by
  rw [List.map_map]
  rfl

/-- A side whose shapes are some of a well-formed side's, in the same order, is well formed
once its orders are balanced. Removing orders and filling them in place do no more. -/
theorem WellFormed.of_shapes_sublist {side thinned : BookSide} (wellFormed : side.WellFormed)
    (buying : thinned.buying = side.buying)
    (shapes : (thinned.orders.map MarketEvent.shape).Sublist (side.orders.map MarketEvent.shape))
    (balanced : ∀ order ∈ thinned.orders, order.header.Balanced) (indexed : thinned.Indexed) :
    thinned.WellFormed where
  ranked := by
    rw [ranked_iff_shapes, buying]
    exact ((ranked_iff_shapes side).mp wellFormed.ranked).sublist shapes
  keysUnique := by
    rw [keys_eq_shapes]
    have unique := wellFormed.keysUnique
    rw [keys_eq_shapes] at unique
    exact unique.sublist (shapes.map _)
  fits := by
    intro order member
    obtain ⟨original, originalMember, sameShape⟩ :=
      List.mem_map.mp (shapes.subset (List.mem_map_of_mem member))
    have fitted := wellFormed.fits original originalMember
    unfold Fits at fitted ⊢
    rw [buying, ← sameShape]
    exact fitted
  balanced := balanced
  indexed := indexed

/-- An order found by its key cuts the side in two, and no order before it has the key. -/
theorem find?_eq_some_split {side : BookSide} (indexed : side.Indexed) {key : OrderKey}
    {order : MarketEvent} (found : side.find? key = some order) :
    order.key = key ∧ ∃ front back, side.orders = front ++ order :: back ∧
      ∀ earlier ∈ front, earlier.key ≠ key := by
  rw [find?, indexed key] at found
  obtain ⟨keyed, front, back, whole, before⟩ := List.find?_eq_some_iff_append.mp found
  refine ⟨by simpa using keyed, front, back, whole, ?_⟩
  intro earlier member
  simpa using before earlier member

/-- On a side with unique keys every resting order is found by its key. -/
theorem WellFormed.find?_of_mem {side : BookSide} (wellFormed : side.WellFormed)
    {order : MarketEvent} (member : order ∈ side.orders) : side.find? order.key = some order := by
  have present : (side.orders.find? fun other => other.key == order.key).isSome := by
    rw [List.find?_isSome]
    exact ⟨order, member, by simp⟩
  obtain ⟨found, isFound⟩ := Option.isSome_iff_exists.mp present
  have keyed : found.key = order.key := by simpa using List.find?_some isFound
  have same := List.inj_on_of_nodup_map wellFormed.keysUnique
    (List.mem_of_find?_eq_some isFound) member keyed
  rw [same] at isFound
  rw [find?, wellFormed.indexed]
  exact isFound

/-- The index and the list are one bijection: on a well-formed side the index holds an order
under a key exactly when the order rests on the side with that key. -/
theorem WellFormed.index_eq_some_iff {side : BookSide} (wellFormed : side.WellFormed)
    (key : OrderKey) (order : MarketEvent) :
    side.index key = some order ↔ order ∈ side.orders ∧ order.key = key := by
  constructor
  · intro found
    obtain ⟨keyed, front, back, whole, -⟩ := find?_eq_some_split wellFormed.indexed found
    exact ⟨by simp [whole], keyed⟩
  · rintro ⟨member, rfl⟩
    exact wellFormed.find?_of_mem member

/-- What a well-formed side finds under a key rests on it. -/
theorem WellFormed.mem_of_find? {side : BookSide} (wellFormed : side.WellFormed)
    {key : OrderKey} {order : MarketEvent} (found : side.find? key = some order) :
    order ∈ side.orders :=
  ((wellFormed.index_eq_some_iff key order).mp found).1

/-- What a well-formed side finds under a key has that key. -/
theorem WellFormed.key_of_find? {side : BookSide} (wellFormed : side.WellFormed)
    {key : OrderKey} {order : MarketEvent} (found : side.find? key = some order) :
    order.key = key :=
  ((wellFormed.index_eq_some_iff key order).mp found).2

theorem Indexed.contains_eq_false_iff {side : BookSide} (indexed : side.Indexed)
    {key : OrderKey} : side.contains key = false ↔ ∀ order ∈ side.orders, order.key ≠ key := by
  simp [contains, find?, indexed key]

/-- Changing the header of the order found by its key changes it in place. -/
theorem updateKey_split {key : OrderKey} (change : Header → Header) {order : MarketEvent}
    (keyed : order.key = key) (back : List MarketEvent) :
    ∀ front : List MarketEvent, (∀ earlier ∈ front, earlier.key ≠ key) →
      updateKey key change (front ++ order :: back) = front ++ order.mapHeader change :: back
  | [], _ => by simp [updateKey, keyed]
  | first :: rest, before => by
    have firstOther : first.key ≠ key := before first List.mem_cons_self
    have restEquation := updateKey_split change keyed back rest
      fun earlier member => before earlier (List.mem_cons_of_mem _ member)
    simp [updateKey, firstOther, restEquation]

/-- Removing the order found by its key takes out exactly that order. -/
theorem eraseKey_split {key : OrderKey} {order : MarketEvent} (keyed : order.key = key)
    (back : List MarketEvent) :
    ∀ front : List MarketEvent, (∀ earlier ∈ front, earlier.key ≠ key) →
      eraseKey key (front ++ order :: back) = front ++ back
  | [], _ => by simp [eraseKey, keyed]
  | first :: rest, before => by
    have firstOther : first.key ≠ key := before first List.mem_cons_self
    have restEquation := eraseKey_split keyed back rest
      fun earlier member => before earlier (List.mem_cons_of_mem _ member)
    simp [eraseKey, firstOther, restEquation]

theorem eraseKey_sublist (key : OrderKey) :
    ∀ orders : List MarketEvent, (eraseKey key orders).Sublist orders
  | [] => List.Sublist.refl _
  | first :: rest => by
    unfold eraseKey
    split
    · exact List.sublist_cons_self first rest
    · exact (eraseKey_sublist key rest).cons_cons first

/-! ## The index after each change

Each change of a side changes the list and the index together; the lemmas below follow the
first order with a key through the list operations, so that the index is seen to follow it. -/

section Index

variable {key other : OrderKey}

theorem find?_insertBefore_of_ne (before : MarketEvent → Bool) {order : MarketEvent}
    (different : order.key ≠ other) (orders : List MarketEvent) :
    (insertBefore before order orders).find? (·.key == other) = orders.find? (·.key == other) := by
  induction orders with
  | nil => simp [insertBefore, different]
  | cons first rest inductionHypothesis =>
    unfold insertBefore
    split
    · simp [different]
    · simp [List.find?_cons, inductionHypothesis]

theorem find?_insertBefore_self (before : MarketEvent → Bool) {order : MarketEvent}
    (orders : List MarketEvent) (fresh : ∀ resting ∈ orders, resting.key ≠ order.key) :
    (insertBefore before order orders).find? (·.key == order.key) = some order := by
  induction orders with
  | nil => simp [insertBefore]
  | cons first rest inductionHypothesis =>
    unfold insertBefore
    split <;> simp_all

theorem find?_eraseKey_of_ne (different : key ≠ other) (orders : List MarketEvent) :
    (eraseKey key orders).find? (·.key == other) = orders.find? (·.key == other) := by
  induction orders with
  | nil => rfl
  | cons first rest inductionHypothesis =>
    unfold eraseKey
    split
    · rename_i keyed
      have firstKey : first.key = key := by simpa using keyed
      simp [firstKey, different]
    · simp [List.find?_cons, inductionHypothesis]

/-- With keys unique, taking off the order with a key leaves none with it. -/
theorem find?_eraseKey_self {orders : List MarketEvent}
    (unique : (orders.map MarketEvent.key).Nodup) :
    (eraseKey key orders).find? (·.key == key) = none := by
  induction orders with
  | nil => rfl
  | cons first rest inductionHypothesis =>
    rw [List.map_cons, List.nodup_cons] at unique
    unfold eraseKey
    split
    · -- The first order had the key, and no later one has it.
      rename_i keyed
      have firstKey : first.key = key := by simpa using keyed
      rw [List.find?_eq_none]
      intro later member same
      exact unique.1 (List.mem_map.mpr ⟨later, member, by simpa [firstKey] using same⟩)
    · rename_i missed
      simp [missed, inductionHypothesis unique.2]

section KeepsKey

-- A change of a header that leaves an order with the key under it.
variable {change : Header → Header}
  (keeps : ∀ header : Header, header.key = key → (change header).key = key)
include keeps

theorem find?_updateKey_of_ne (different : key ≠ other) (orders : List MarketEvent) :
    (updateKey key change orders).find? (·.key == other) = orders.find? (·.key == other) := by
  induction orders with
  | nil => rfl
  | cons first rest inductionHypothesis =>
    unfold updateKey
    split
    · rename_i keyed
      have firstKey : first.key = key := by simpa using keyed
      have changedKey : (first.mapHeader change).key = key := by
        simpa [MarketEvent.mapHeader] using keeps first.header firstKey
      simp [changedKey, firstKey, different]
    · simp [List.find?_cons, inductionHypothesis]

theorem find?_updateKey_self (orders : List MarketEvent) :
    (updateKey key change orders).find? (·.key == key) =
      (orders.find? (·.key == key)).map (·.mapHeader change) := by
  induction orders with
  | nil => rfl
  | cons first rest inductionHypothesis =>
    unfold updateKey
    split
    · rename_i keyed
      have firstKey : first.key = key := by simpa using keyed
      have changedKey : (first.mapHeader change).key = key := by
        simpa [MarketEvent.mapHeader] using keeps first.header firstKey
      simp [changedKey, firstKey]
    · rename_i missed
      simp [missed, inductionHypothesis]

theorem keys_updateKey (orders : List MarketEvent) :
    (updateKey key change orders).map MarketEvent.key = orders.map MarketEvent.key := by
  induction orders with
  | nil => rfl
  | cons first rest inductionHypothesis =>
    unfold updateKey
    split
    · rename_i keyed
      have firstKey : first.key = key := by simpa using keyed
      have changedKey : (first.mapHeader change).key = key := by
        simpa [MarketEvent.mapHeader] using keeps first.header firstKey
      simp [changedKey, firstKey]
    · simp [inductionHypothesis]

end KeepsKey

namespace Indexed

variable {side : BookSide} (indexed : side.Indexed)
include indexed

theorem insert {order : MarketEvent} (fresh : ∀ resting ∈ side.orders, resting.key ≠ order.key) :
    (side.insert order).Indexed := by
  intro key
  by_cases same : key = order.key
  · subst same
    simp [BookSide.insert, find?_insertBefore_self _ side.orders fresh]
  · simp [BookSide.insert, same, indexed key, find?_insertBefore_of_ne _ (Ne.symm same)]

theorem update {change : Header → Header}
    (keeps : ∀ header : Header, header.key = key → (change header).key = key) :
    (side.update key change).Indexed := by
  intro other
  by_cases same : other = key
  · subst same
    simp [BookSide.update, indexed other, find?_updateKey_self keeps]
  · simp [BookSide.update, same, indexed other, find?_updateKey_of_ne keeps (Ne.symm same)]

theorem erase (unique : (side.orders.map MarketEvent.key).Nodup) (key : OrderKey) :
    (side.erase key).Indexed := by
  intro other
  by_cases same : other = key
  · subst same
    simp [BookSide.erase, find?_eraseKey_self unique]
  · simp [BookSide.erase, same, indexed other, find?_eraseKey_of_ne (Ne.symm same)]

/-- A fill changes the order in place and takes it off when nothing remains; either way the
index follows. -/
theorem fill (unique : (side.orders.map MarketEvent.key).Nodup) {filled : Header}
    (sameKey : filled.key = key) : (side.fill key filled).Indexed := by
  have keeps : ∀ header : Header, header.key = key → ((fun _ => filled) header).key = key :=
    fun _ _ => sameKey
  have updated := indexed.update keeps
  unfold BookSide.fill
  split
  · have sameKeys : ((side.update key fun _ => filled).orders.map MarketEvent.key) =
        side.orders.map MarketEvent.key := keys_updateKey keeps side.orders
    exact updated.erase (sameKeys ▸ unique) key
  · exact updated

end Indexed

end Index

/-- Filling the order found by its key replaces it in place by its filled version, or takes it
off when nothing of it remains. -/
theorem fill_orders_split {side : BookSide} {key : OrderKey} {order : MarketEvent}
    {front back : List MarketEvent} (whole : side.orders = front ++ order :: back)
    (keyed : order.key = key) (before : ∀ earlier ∈ front, earlier.key ≠ key)
    (filled : Header) (sameKey : filled.key = key) :
    (side.fill key filled).orders =
      front ++ if filled.remainingQty == 0 then back else order.withHeader filled :: back := by
  have updated : (side.update key fun _ => filled).orders =
      front ++ order.withHeader filled :: back := by
    simp only [update, whole]
    exact updateKey_split _ keyed back front before
  unfold fill
  split
  · rename_i exhausted
    simp only [erase, updated]
    exact eraseKey_split (by simpa using sameKey) back front before
  · rename_i remains
    simp only [updated]

/-- A fresh order of the side's own kind keeps the side well formed when inserted, if it is
balanced. -/
theorem WellFormed.insert {side : BookSide} (wellFormed : side.WellFormed) {order : MarketEvent}
    (fresh : side.contains order.key = false) (fits : side.Fits order.shape)
    (balanced : order.header.Balanced) : (side.insert order).WellFormed := by
  obtain ⟨front, back, whole, inserted, -, -⟩ := insert_orders_split side wellFormed.ranked order
  have others := wellFormed.indexed.contains_eq_false_iff.mp fresh
  have members : ∀ other ∈ (side.insert order).orders, other = order ∨ other ∈ side.orders :=
    fun _ member => mem_insert.mp member
  refine ⟨insert_ranked side wellFormed.ranked order, ?_, ?_, ?_,
    wellFormed.indexed.insert others⟩
  · rw [inserted, (List.perm_middle.map MarketEvent.key).nodup_iff, List.map_cons,
      List.nodup_cons, ← whole]
    refine ⟨?_, wellFormed.keysUnique⟩
    intro present
    obtain ⟨other, member, sameKey⟩ := List.mem_map.mp present
    exact others other member sameKey
  · intro other member
    rcases members other member with same | old
    · exact same ▸ fits
    · exact wellFormed.fits other old
  · intro other member
    rcases members other member with same | old
    · exact same ▸ balanced
    · exact wellFormed.balanced other old

/-- A fill by a positive quantity within what remains thins the side: the filled order keeps
its shape, and keeps quantity left unless it leaves the side. -/
theorem WellFormed.fill_thins {side : BookSide} (wellFormed : side.WellFormed) {key : OrderKey}
    {order : MarketEvent} (found : side.find? key = some order) {qty : Int64} {price : Decimal}
    (positive : 0 < qty) (within : qty ≤ order.header.remainingQty) :
    side.Thins (side.fill key (order.header.applyExecution qty price)) := by
  obtain ⟨keyed, front, back, whole, before⟩ := find?_eq_some_split wellFormed.indexed found
  have filledOrder := fill_orders_split whole keyed before
    (order.header.applyExecution qty price) keyed
  refine ⟨by simp, ?_⟩
  rw [filledOrder, whole]
  split
  · simp only [List.map_append, List.map_cons]
    exact List.Sublist.append_left (List.sublist_cons_self _ _) _
  · -- Something is left, and so the order stands as it stood.
    rename_i remains
    have filledBalanced := (wellFormed.balanced order (by simp [whole])).applyExecution
      price positive within
    have nonzero : (order.header.applyExecution qty price).remainingQty.toInt ≠ 0 := by
      intro zero
      exact remains (by simpa [← Int64.toInt_inj] using zero)
    have live : 0 < (order.header.applyExecution qty price).remainingQty := by
      rw [Int64.lt_iff_toInt_lt, Int64.toInt_zero]
      have nonnegative := filledBalanced.2
      omega
    have wasLive : 0 < order.header.remainingQty := by
      have qtyPositive := Int64.lt_iff_toInt_lt.mp positive
      have qtyWithin := Int64.le_iff_toInt_le.mp within
      exact Int64.lt_iff_toInt_lt.mpr (by omega)
    have same : (order.withHeader (order.header.applyExecution qty price)).standing =
        order.standing := by
      simp [MarketEvent.standing, live, wasLive]
    simp [same]

/-- Filling a resting order by a positive quantity within what remains keeps the side well
formed. -/
theorem WellFormed.fill {side : BookSide} (wellFormed : side.WellFormed) {key : OrderKey}
    {order : MarketEvent} (found : side.find? key = some order) {qty : Int64} {price : Decimal}
    (positive : 0 < qty) (within : qty ≤ order.header.remainingQty) :
    (side.fill key (order.header.applyExecution qty price)).WellFormed := by
  obtain ⟨keyed, front, back, whole, before⟩ := find?_eq_some_split wellFormed.indexed found
  have filledOrder := fill_orders_split whole keyed before
    (order.header.applyExecution qty price) keyed
  have filledBalanced := (wellFormed.balanced order (by simp [whole])).applyExecution
    price positive within
  refine wellFormed.of_shapes_sublist (by simp) (wellFormed.fill_thins found positive within).shapes
    ?_ (wellFormed.indexed.fill wellFormed.keysUnique keyed)
  intro other member
  rw [filledOrder] at member
  simp only [List.mem_append] at member
  rcases member with inFront | inRest
  · exact wellFormed.balanced other (by simp [whole, inFront])
  · split at inRest
    · exact wellFormed.balanced other (by simp [whole, inRest])
    · rcases List.mem_cons.mp inRest with same | inBack
      · simpa [same] using filledBalanced
      · exact wellFormed.balanced other (by simp [whole, inBack])

/-- Taking an order off thins a side. -/
theorem erase_thins (side : BookSide) (key : OrderKey) : side.Thins (side.erase key) :=
  ⟨rfl, (eraseKey_sublist key side.orders).map _⟩

/-- Taking an order off keeps a side well formed. -/
theorem WellFormed.erase {side : BookSide} (wellFormed : side.WellFormed) (key : OrderKey) :
    (side.erase key).WellFormed :=
  wellFormed.of_shapes_sublist rfl (erase_thins side key).shapes
    (fun order member => wellFormed.balanced order ((eraseKey_sublist key side.orders).subset member))
    (wellFormed.indexed.erase wellFormed.keysUnique key)

/-- No key rests twice, so no order behind the one with a key has that key. -/
theorem WellFormed.not_behind {side : BookSide} (wellFormed : side.WellFormed)
    {key : OrderKey} {order : MarketEvent} {front back : List MarketEvent}
    (whole : side.orders = front ++ order :: back) (keyed : order.key = key) :
    ∀ later ∈ back, later.key ≠ key := by
  have unique := wellFormed.keysUnique
  rw [whole, List.map_append, List.map_cons, List.nodup_middle, List.nodup_cons] at unique
  intro later member same
  exact unique.1 (List.mem_append_right _ (List.mem_map.mpr ⟨later, member, same.trans keyed.symm⟩))

/-- Once the order with a key is taken off, the key is found no more. -/
@[simp] theorem find?_erase_self (side : BookSide) (key : OrderKey) :
    (side.erase key).find? key = none := by
  simp [erase, find?]

/-- Once the order with a key is taken off a well-formed side, no order with the key is left. -/
theorem WellFormed.not_mem_erase {side : BookSide} (wellFormed : side.WellFormed) (key : OrderKey) :
    ∀ order ∈ (side.erase key).orders, order.key ≠ key := by
  have gone : (eraseKey key side.orders).find? (·.key == key) = none :=
    find?_eraseKey_self wellFormed.keysUnique
  intro order member same
  exact absurd (List.find?_eq_none.mp gone order member) (by simp [same])

/-- After a fill of the order found by its key, every order on the side is one that was there
under another key, or that order with its new header. -/
theorem WellFormed.mem_fill {side : BookSide} (wellFormed : side.WellFormed) {key : OrderKey}
    {order : MarketEvent} (found : side.find? key = some order) {filled : Header}
    (sameKey : filled.key = key) {other : MarketEvent}
    (member : other ∈ (side.fill key filled).orders) :
    (other ∈ side.orders ∧ other.key ≠ key) ∨ other = order.withHeader filled := by
  obtain ⟨keyed, front, back, whole, before⟩ := find?_eq_some_split wellFormed.indexed found
  have notBehind := wellFormed.not_behind whole keyed
  rw [fill_orders_split whole keyed before filled sameKey] at member
  rcases List.mem_append.mp member with inFront | inRest
  · exact .inl ⟨by simp [whole, inFront], before other inFront⟩
  · split at inRest
    · exact .inl ⟨by simp [whole, inRest], notBehind other inRest⟩
    · rcases List.mem_cons.mp inRest with same | inBack
      · exact .inr same
      · exact .inl ⟨by simp [whole, inBack], notBehind other inBack⟩

/-- Every order on a well-formed side has the side's direction. -/
theorem WellFormed.isBuy_of_mem {side : BookSide} (wellFormed : side.WellFormed)
    {order : MarketEvent} (member : order ∈ side.orders) :
    order.header.side.isBuy = side.buying := by
  rcases wellFormed.fits order member with ⟨-, buying, buys⟩ | ⟨-, selling, sells⟩
  · rw [buying]
    have buyCode : order.header.side = Side.buy := buys
    rw [buyCode]
    rfl
  · rw [selling]
    exact Side.isBuy_eq_false_of_isSell sells

/-- A fill that leaves nothing of the order found by its key takes it off: the key is no
longer found, and the side is one order shorter. -/
theorem WellFormed.fill_exhausted {side : BookSide} (wellFormed : side.WellFormed)
    {key : OrderKey} {order : MarketEvent} (found : side.find? key = some order)
    (filled : Header) (sameKey : filled.key = key) (exhausted : filled.remainingQty = 0) :
    (side.fill key filled).find? key = none ∧ (side.fill key filled).size + 1 = side.size := by
  obtain ⟨keyed, front, back, whole, before⟩ := find?_eq_some_split wellFormed.indexed found
  have removed := fill_orders_split whole keyed before filled sameKey
  simp only [exhausted, beq_self_eq_true, if_true] at removed
  refine ⟨?_, ?_⟩
  · unfold BookSide.fill
    simp only [exhausted, beq_self_eq_true, if_true, find?_erase_self]
  · simp only [size, removed, whole, List.length_append, List.length_cons]
    omega

end BookSide

end Bourse
