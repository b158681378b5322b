import Bourse.Portfolio.Basic
import Bourse.Proofs.Run.Publication

/-!
# A portfolio mirrors its client's part of the book

A portfolio rebuilds its client's part of the book from the events the book publishes. It
`Mirrors` the book when its open bids and offers are the client's resting bids and offers,
exactly as they rest, and its trades are the client's trades on the tape, in tape order.

Every move the book publishes (`Publication`) keeps the mirror (`Portfolio.Mirrors.observe`),
with one exception: the book publishes a delete that finds nothing as it was asked, and a
portfolio takes a trade it is shown for a trade of its client, whether it went on the tape or
not. So the mirror is kept when nobody asks to delete a trade of the client
(`BookRequest.DeletesNoTradeOf`).
-/

namespace Bourse

variable {ρ : Type}

/-! ## Looking orders up after a change -/

namespace BookSide

variable {key other : OrderKey}

variable {side : BookSide}

theorem find?_insert_of_ne {order : MarketEvent} (different : order.key ≠ other) :
    (side.insert order).find? other = side.find? other := by
  simp [insert, find?, Ne.symm different]

/-- An order put on the side is found under its key. -/
theorem find?_insert_self (order : MarketEvent) :
    (side.insert order).find? order.key = some order := by
  simp [insert, find?]

theorem find?_erase_of_ne (different : key ≠ other) :
    (side.erase key).find? other = side.find? other := by
  simp [erase, find?, Ne.symm different]

/-- A fill changes what is found under no other key. -/
theorem find?_fill_of_ne {filled : Header} (different : key ≠ other) :
    (side.fill key filled).find? other = side.find? other := by
  unfold fill
  split <;> simp [erase, update, find?, Ne.symm different]

/-- A fill that leaves something of the order keeps it under its key, filled. -/
theorem find?_fill_self {order : MarketEvent} (found : side.find? key = some order)
    {filled : Header} (remains : filled.remainingQty ≠ 0) :
    (side.fill key filled).find? key = some (order.withHeader filled) := by
  have kept : (filled.remainingQty == 0) = false := by simpa using remains
  rw [find?] at found
  simp [fill, kept, update, find?, found, MarketEvent.mapHeader]

/-- Only orders rest on a well-formed side, never trades. -/
theorem WellFormed.ofEvent?_of_mem (wellFormed : side.WellFormed) {order : MarketEvent}
    (member : order ∈ side.orders) : Trade.ofEvent? order = none := by
  rcases wellFormed.fits order member with ⟨isBid, -⟩ | ⟨isOffer, -⟩ <;>
    cases order <;> simp_all [MarketEvent.shape, MarketEvent.kind, Trade.ofEvent?]

end BookSide

/-! ## Open orders by id -/

namespace OpenOrders

variable {orders : OpenOrders} {id other : String}

theorem put_cons_of_ne (entry : String × MarketEvent) (rest : OpenOrders) (order : MarketEvent)
    (different : entry.1 ≠ id) : put (entry :: rest) id order = entry :: put rest id order := by
  unfold put
  by_cases present : rest.any (·.1 == id) <;> simp [present, different]

@[simp] theorem get?_put_self (order : MarketEvent) :
    (orders.put id order).get? id = some order := by
  induction orders with
  | nil => simp [put, get?]
  | cons entry rest inductionHypothesis =>
    by_cases keyed : entry.1 = id
    · simp [put, get?, keyed]
    · rw [put_cons_of_ne entry rest order keyed]
      simpa [get?, keyed] using inductionHypothesis

@[simp] theorem get?_erase_self : (orders.erase id).get? id = none := by
  simp [erase, get?, List.find?_filter]

/-- Replacing the entries of one id in place leaves every other id's order. -/
theorem get?_map_of_ne (order : MarketEvent) (different : other ≠ id) :
    get? (orders.map fun entry => if entry.1 == id then (id, order) else entry) other =
      orders.get? other := by
  induction orders with
  | nil => rfl
  | cons entry rest inductionHypothesis =>
    obtain ⟨name, held⟩ := entry
    by_cases keyed : name = id
    · simpa [get?, keyed, Ne.symm different] using inductionHypothesis
    · by_cases named : name = other
      · subst named
        simp [get?, different]
      · simpa [get?, keyed, named] using inductionHypothesis

theorem get?_put_of_ne (order : MarketEvent) (different : other ≠ id) :
    (orders.put id order).get? other = orders.get? other := by
  unfold put
  split
  · exact get?_map_of_ne order different
  · simp [get?, List.find?_append, Ne.symm different]

theorem get?_erase_of_ne (different : other ≠ id) :
    (orders.erase id).get? other = orders.get? other := by
  induction orders with
  | nil => rfl
  | cons entry rest inductionHypothesis =>
    obtain ⟨name, held⟩ := entry
    by_cases keyed : name = id
    · simpa [get?, erase, keyed, Ne.symm different] using inductionHypothesis
    · by_cases named : name = other
      · subst named
        simp [get?, erase, keyed]
      · simpa [get?, erase, keyed, named] using inductionHypothesis

end OpenOrders

/-! ## The mirror -/

/-- The open orders of a client's portfolio on one side are the client's orders resting on a
side of the book: the order open under an id is the one resting under the client and that id,
and no id is open that does not rest. -/
def OpenOrders.Reflects (orders : OpenOrders) (client : String) (side : BookSide) : Prop :=
  ∀ id, orders.get? id = side.find? ⟨client, id⟩

/-- A portfolio mirrors the book when its open bids and offers are its client's resting bids
and offers, and its trades are its client's trades on the tape, in tape order. -/
structure Portfolio.Mirrors (portfolio : Portfolio) (book : OrderBook ρ) : Prop where
  bids : portfolio.bids.Reflects portfolio.clientId book.bids
  offers : portfolio.offers.Reflects portfolio.clientId book.offers
  fills : portfolio.fills.toList = book.tape.toList.filter (·.header.clientId == portfolio.clientId)

/-- What a client bought on the tape less what they sold. -/
def OrderBook.netPositionOf (book : OrderBook ρ) (client : String) : Int64 :=
  (book.tape.toList.filter (·.header.clientId == client)).foldl
    (fun net trade => if trade.header.side.isBuy then net + trade.execution.execQty
      else net - trade.execution.execQty) 0

/-- The request deletes no trade of the client. -/
def BookRequest.DeletesNoTradeOf (client : String) : BookRequest → Prop
  | .add _ => True
  | .delete event => event.header.clientId = client → Trade.ofEvent? event = none

namespace OpenOrders.Reflects

variable {orders : OpenOrders} {client : String} {side : BookSide}

/-- A side changed only under other clients' keys is reflected by the same orders. -/
theorem of_find? (reflects : orders.Reflects client side) {changed : BookSide}
    (kept : ∀ id, changed.find? ⟨client, id⟩ = side.find? ⟨client, id⟩) :
    orders.Reflects client changed :=
  fun id => (reflects id).trans (kept id).symm

/-- Open orders and side that changed under one id only, and agree there, still reflect each
other. -/
theorem change (reflects : orders.Reflects client side) (id : String) {changedOrders : OpenOrders}
    {changedSide : BookSide} (changed : changedOrders.get? id = changedSide.find? ⟨client, id⟩)
    (keptOrders : ∀ other ≠ id, changedOrders.get? other = orders.get? other)
    (keptSide : ∀ other ≠ id, changedSide.find? ⟨client, other⟩ = side.find? ⟨client, other⟩) :
    changedOrders.Reflects client changedSide := by
  intro other
  by_cases same : other = id
  · rw [same]
    exact changed
  · rw [keptOrders other same, keptSide other same]
    exact reflects other

theorem insert (reflects : orders.Reflects client side) {id : String} {order : MarketEvent}
    (keyed : order.key = ⟨client, id⟩) :
    (orders.put id order).Reflects client (side.insert order) :=
  reflects.change id (by rw [get?_put_self, ← keyed, BookSide.find?_insert_self])
    (fun _ different => get?_put_of_ne order different)
    (fun _ different => BookSide.find?_insert_of_ne (by simpa [keyed] using Ne.symm different))

theorem insert_other (reflects : orders.Reflects client side) {order : MarketEvent}
    (other : order.key.client ≠ client) : orders.Reflects client (side.insert order) :=
  reflects.of_find? fun _ => BookSide.find?_insert_of_ne fun same => other (by rw [same])

theorem erase (reflects : orders.Reflects client side) (id : String) : (orders.erase id).Reflects client (side.erase ⟨client, id⟩) :=
  reflects.change id (by rw [get?_erase_self, BookSide.find?_erase_self])
    (fun _ different => get?_erase_of_ne different)
    (fun _ different => BookSide.find?_erase_of_ne (by simpa using Ne.symm different))

theorem erase_other (reflects : orders.Reflects client side) {key : OrderKey}
    (other : key.client ≠ client) : orders.Reflects client (side.erase key) :=
  reflects.of_find? fun _ => BookSide.find?_erase_of_ne fun same => other (by rw [same])

theorem fill_other (reflects : orders.Reflects client side) {key : OrderKey} {filled : Header}
    (other : key.client ≠ client) : orders.Reflects client (side.fill key filled) :=
  reflects.of_find? fun _ => BookSide.find?_fill_of_ne fun same => other (by rw [same])

/-- A fill that leaves nothing of the client's order closes it. -/
theorem fill_exhausted (reflects : orders.Reflects client side) (wellFormed : side.WellFormed)
    {id : String} {order : MarketEvent} (found : side.find? ⟨client, id⟩ = some order)
    {filled : Header} (sameKey : filled.key = ⟨client, id⟩) (exhausted : filled.remainingQty = 0) :
    (orders.erase id).Reflects client (side.fill ⟨client, id⟩ filled) :=
  reflects.change id
    (by rw [get?_erase_self, (wellFormed.fill_exhausted found filled sameKey exhausted).1])
    (fun _ different => get?_erase_of_ne different)
    (fun _ different => BookSide.find?_fill_of_ne (by simpa using Ne.symm different))

/-- A fill that leaves something of the client's order keeps it open, filled. -/
theorem fill_remains (reflects : orders.Reflects client side) {id : String}
    {order : MarketEvent} (found : side.find? ⟨client, id⟩ = some order) {filled : Header}
    (remains : filled.remainingQty ≠ 0) :
    (orders.put id (order.withHeader filled)).Reflects client (side.fill ⟨client, id⟩ filled) :=
  reflects.change id (by rw [get?_put_self, BookSide.find?_fill_self found remains])
    (fun _ different => get?_put_of_ne _ different)
    (fun _ different => BookSide.find?_fill_of_ne (by simpa using Ne.symm different))

end OpenOrders.Reflects

theorem OrderBook.record_setSide (book : OrderBook ρ) (side : Side) (orders : BookSide)
    (trade : Trade) :
    (book.setSide side orders).record trade = (book.record trade).setSide side orders := by
  unfold OrderBook.setSide OrderBook.record
  split <;> rfl

theorem OrderBook.fill_own (book : OrderBook ρ) (side : Side) (key : OrderKey) (filled : Header) :
    book.fill side false key filled = book.setSide side ((book.sideOf side).fill key filled) := rfl

namespace Portfolio

variable {portfolio : Portfolio}

@[simp] theorem clientId_setSide (side : Side) (orders : OpenOrders) :
    (portfolio.setSide side orders).clientId = portfolio.clientId := by
  unfold setSide
  split <;> rfl

theorem setSide_sideOf (side : Side) :
    portfolio.setSide side (portfolio.sideOf side) = portfolio := by
  unfold setSide sideOf
  split <;> rfl

theorem sideOf_of_isBuy {side other : Side} (same : other.isBuy = side.isBuy) :
    portfolio.sideOf other = portfolio.sideOf side := by
  simp only [sideOf, same]

theorem setSide_of_isBuy {side other : Side} (same : other.isBuy = side.isBuy)
    (orders : OpenOrders) : portfolio.setSide other orders = portfolio.setSide side orders := by
  simp only [setSide, same]

end Portfolio

namespace Portfolio.Mirrors

variable {portfolio : Portfolio} {book : OrderBook ρ}

theorem sideOf (mirrors : portfolio.Mirrors book) (side : Side) :
    (portfolio.sideOf side).Reflects portfolio.clientId (book.sideOf side) := by
  unfold Portfolio.sideOf OrderBook.sideOf
  split
  · exact mirrors.bids
  · exact mirrors.offers

theorem setSide (mirrors : portfolio.Mirrors book) (side : Side) {orders : OpenOrders}
    {sideOrders : BookSide} (reflects : orders.Reflects portfolio.clientId sideOrders) :
    (portfolio.setSide side orders).Mirrors (book.setSide side sideOrders) := by
  unfold Portfolio.setSide OrderBook.setSide
  split
  · exact ⟨reflects, mirrors.offers, mirrors.fills⟩
  · exact ⟨mirrors.bids, reflects, mirrors.fills⟩

/-- A side of the book changed under other clients' keys only is still mirrored. -/
theorem keep (mirrors : portfolio.Mirrors book) (side : Side) {sideOrders : BookSide}
    (reflects : (portfolio.sideOf side).Reflects portfolio.clientId sideOrders) :
    portfolio.Mirrors (book.setSide side sideOrders) := by
  simpa [Portfolio.setSide_sideOf] using mirrors.setSide side reflects

theorem record_other (mirrors : portfolio.Mirrors book) {trade : Trade}
    (other : trade.header.clientId ≠ portfolio.clientId) : portfolio.Mirrors (book.record trade) :=
  ⟨mirrors.bids, mirrors.offers, by simp [mirrors.fills, other]⟩

theorem record (mirrors : portfolio.Mirrors book) {trade : Trade}
    (own : trade.header.clientId = portfolio.clientId) :
    { portfolio with fills := portfolio.fills.push trade }.Mirrors (book.record trade) :=
  ⟨mirrors.bids, mirrors.offers, by simp [mirrors.fills, own]⟩

/-- The net position of a mirroring portfolio is what its client bought on the tape less what
they sold. -/
theorem netPosition_eq (mirrors : portfolio.Mirrors book) :
    portfolio.netPosition = book.netPositionOf portfolio.clientId := by
  rw [Portfolio.netPosition, ← Array.foldl_toList, mirrors.fills]
  rfl

end Portfolio.Mirrors

/-! ## What a portfolio learns from an event -/

theorem Header.key_of_clientId {header : Header} {client : String}
    (own : header.clientId = client) : header.key = ⟨client, header.clientOrderId⟩ := by
  rw [← own]
  rfl

/-- A balanced order with nothing positive left has exactly nothing left. -/
theorem Header.Balanced.remainingQty_eq_zero_of_nonpos {header : Header}
    (balanced : header.Balanced) (spent : header.remainingQty ≤ 0) : header.remainingQty = 0 := by
  have left := balanced.2
  rw [Int64.le_iff_toInt_le] at spent
  apply Int64.toInt_inj.mp
  simp only [Int64.toInt_zero] at spent ⊢
  omega

/-- The quantities and average price a trade reports, copied onto the order it fills, make the
filled order. -/
theorem Trade.Reports.copied {trade : Trade} {header : Header} {qty : Int64} {price : Decimal}
    (reports : trade.Reports (header.applyExecution qty price)) :
    { header with
      orderQty := trade.header.orderQty, cumQty := trade.header.cumQty,
      remainingQty := trade.header.remainingQty, avgPrice := trade.header.avgPrice } =
      header.applyExecution qty price := by
  rw [reports.orderQty, reports.cumQty, reports.remainingQty, reports.avgPrice]
  rfl

@[simp] theorem MarketEvent.header_mapHeader (event : MarketEvent) (change : Header → Header) :
    (event.mapHeader change).header = change event.header := by
  simp [MarketEvent.mapHeader]

@[simp] theorem Trade.header_toEvent (trade : Trade) : trade.toEvent.header = trade.header := by
  unfold Trade.toEvent
  split <;> rfl

theorem MarketEvent.ofEvent?_withHeader {event : MarketEvent}
    (isOrder : Trade.ofEvent? event = none) (header : Header) : Trade.ofEvent? (event.withHeader header) = none := by
  cases event <;> simp_all [Trade.ofEvent?, MarketEvent.withHeader]

namespace Portfolio

variable {portfolio : Portfolio} {event : MarketEvent}

@[simp] theorem clientId_observe (event : MarketEvent) :
    (portfolio.observe event).1.clientId = portfolio.clientId := by
  unfold observe
  dsimp only
  split
  · rfl
  · split <;> (try split) <;> (try split) <;> simp

theorem observe_other (other : event.header.clientId ≠ portfolio.clientId) :
    (portfolio.observe event).1 = portfolio := by
  simp [observe, other]

theorem observe_order (isOrder : Trade.ofEvent? event = none)
    (own : event.header.clientId = portfolio.clientId)
    (adds : event.header.action ≠ Action.delete) :
    (portfolio.observe event).1 = portfolio.setSide event.header.side
      ((portfolio.sideOf event.header.side).put event.header.clientOrderId event) := by
  cases event <;> simp_all [observe, Trade.ofEvent?]

theorem observe_cancel_missing (isOrder : Trade.ofEvent? event = none)
    (deletes : event.header.action = Action.delete)
    (missing : (portfolio.sideOf event.header.side).get? event.header.clientOrderId = none) :
    (portfolio.observe event).1 = portfolio := by
  cases event <;> simp_all [observe, Trade.ofEvent?]

theorem observe_cancel (isOrder : Trade.ofEvent? event = none)
    (own : event.header.clientId = portfolio.clientId)
    (deletes : event.header.action = Action.delete) {order : MarketEvent}
    (held : (portfolio.sideOf event.header.side).get? event.header.clientOrderId = some order) :
    (portfolio.observe event).1 = portfolio.setSide event.header.side
      ((portfolio.sideOf event.header.side).erase event.header.clientOrderId) := by
  cases event <;> simp_all [observe, Trade.ofEvent?]

variable {trade : Trade}

theorem observe_fill (own : trade.header.clientId = portfolio.clientId)
    (complete : trade.complete = true) :
    (portfolio.observe trade.toEvent).1 =
      { portfolio with fills := portfolio.fills.push trade }.setSide trade.header.side
        ((portfolio.sideOf trade.header.side).erase trade.header.clientOrderId) := by
  obtain ⟨complete', header, execution⟩ := trade
  subst complete
  simp_all [observe, Trade.toEvent, MarketEvent.header]

theorem observe_partialFill (own : trade.header.clientId = portfolio.clientId)
    (incomplete : trade.complete = false) {order : MarketEvent}
    (held : (portfolio.sideOf trade.header.side).get? trade.header.clientOrderId = some order) :
    (portfolio.observe trade.toEvent).1 =
      { portfolio with fills := portfolio.fills.push trade }.setSide trade.header.side
        (if trade.header.remainingQty ≤ 0 then
          (portfolio.sideOf trade.header.side).erase trade.header.clientOrderId
        else (portfolio.sideOf trade.header.side).put trade.header.clientOrderId
          (order.mapHeader fun rh =>
            { rh with
              orderQty := trade.header.orderQty, cumQty := trade.header.cumQty,
              remainingQty := trade.header.remainingQty, avgPrice := trade.header.avgPrice })) := by
  obtain ⟨complete', header, execution⟩ := trade
  subst incomplete
  simp_all [observe, Trade.toEvent, MarketEvent.header]

end Portfolio

/-! ## Each move keeps the mirror -/

namespace Portfolio.Mirrors

variable {portfolio : Portfolio} {book : OrderBook ρ}

/-- An order placed, shown as it rests, is opened in its client's portfolio. -/
theorem observe_placed (mirrors : portfolio.Mirrors book) (now : Instant) {event : MarketEvent}
    (isOrder : Trade.ofEvent? event = none) :
    (portfolio.observe (event.withHeader (OrderBook.stamp now event.header))).1.Mirrors
      (book.placeOrder now event) := by
  have placed : book.placeOrder now event = book.setSide event.header.side
      ((book.sideOf event.header.side).insert
        (event.withHeader (OrderBook.stamp now event.header))) := rfl
  rw [placed]
  generalize shownIs : event.withHeader (OrderBook.stamp now event.header) = shown
  have shownHeader : shown.header = OrderBook.stamp now event.header := by
    rw [← shownIs, MarketEvent.header_withHeader]
  have shownKey : shown.key = event.key := by
    rw [← shownIs, MarketEvent.key_withHeader, OrderBook.key_stamp]
    rfl
  have sameClient : shown.header.clientId = event.header.clientId := by
    rw [shownHeader]
    rfl
  have sameSide : shown.header.side = event.header.side := by
    rw [shownHeader, OrderBook.side_stamp]
  by_cases own : event.header.clientId = portfolio.clientId
  · have keyed : shown.key = ⟨portfolio.clientId, shown.header.clientOrderId⟩ :=
      Header.key_of_clientId (sameClient.trans own)
    -- The book stamps what it places as an addition, so the portfolio opens it.
    have adds : shown.header.action ≠ Action.delete := by
      rw [shownHeader]
      exact nofun
    rw [Portfolio.observe_order (shownIs ▸ MarketEvent.ofEvent?_withHeader isOrder _)
      (sameClient.trans own) adds, sameSide]
    exact mirrors.setSide _ ((mirrors.sideOf _).insert keyed)
  · have otherKey : shown.key.client ≠ portfolio.clientId := by
      rw [shownKey]
      exact own
    rw [Portfolio.observe_other (sameClient.trans_ne own)]
    exact mirrors.keep _ ((mirrors.sideOf _).insert_other otherKey)

/-- A trade of the client fills its open order, closing it when nothing remains, and joins its
trades; another client's trade changes nothing the portfolio holds. -/
theorem observe_traded (mirrors : portfolio.Mirrors book) (wellFormed : book.WellFormed)
    {qty : Int64} {price : Decimal} {order : MarketEvent} {trade : Trade}
    (fillable : book.Fillable trade.header.side false trade.header.key qty order)
    (balanced : order.header.Balanced)
    (reports : trade.Reports (order.header.applyExecution qty price)) :
    (portfolio.observe trade.toEvent).1.Mirrors
      ((book.fill trade.header.side false trade.header.key
        (order.header.applyExecution qty price)).record trade) := by
  have found : (book.sideOf trade.header.side).find? trade.header.key = some order := fillable.1
  have sameKey : (order.header.applyExecution qty price).key = trade.header.key := reports.key.symm
  rw [OrderBook.fill_own, OrderBook.record_setSide]
  by_cases own : trade.header.clientId = portfolio.clientId
  · have keyed : trade.header.key = ⟨portfolio.clientId, trade.header.clientOrderId⟩ :=
      Header.key_of_clientId own
    rw [keyed] at found sameKey ⊢
    have recorded := mirrors.record own
    cases complete : trade.complete
    · -- A partial fill finds the order open, as it rests.
      have held : (portfolio.sideOf trade.header.side).get? trade.header.clientOrderId =
          some order := (mirrors.sideOf _ _).trans found
      rw [Portfolio.observe_partialFill own complete held]
      split
      · rename_i spent
        -- What is left after a fill within what remained is never below nothing.
        have exhausted : (order.header.applyExecution qty price).remainingQty = 0 :=
          (balanced.applyExecution price fillable.2.1 fillable.2.2).remainingQty_eq_zero_of_nonpos
            (reports.remainingQty ▸ spent)
        exact recorded.setSide _
          ((mirrors.sideOf _).fill_exhausted (wellFormed.sideOf _) found sameKey exhausted)
      · rename_i remains
        have nonzero : (order.header.applyExecution qty price).remainingQty ≠ 0 := by
          rw [← reports.remainingQty]
          rintro zero
          exact remains (by rw [zero]; decide)
        -- The portfolio copies the quantities the trade reports onto the order it holds.
        have copied : order.mapHeader (fun rh =>
            { rh with
              orderQty := trade.header.orderQty, cumQty := trade.header.cumQty,
              remainingQty := trade.header.remainingQty, avgPrice := trade.header.avgPrice }) =
            order.withHeader (order.header.applyExecution qty price) :=
          congrArg order.withHeader reports.copied
        rw [copied]
        exact recorded.setSide _ ((mirrors.sideOf _).fill_remains found nonzero)
    · rw [Portfolio.observe_fill own complete]
      exact recorded.setSide _ ((mirrors.sideOf _).fill_exhausted (wellFormed.sideOf _) found
        sameKey (reports.complete complete))
  · rw [Portfolio.observe_other (by simpa using own)]
    exact (mirrors.record_other own).keep _ ((mirrors.sideOf _).fill_other own)

/-- An order taken off, shown deleted, is closed in its client's portfolio. -/
theorem observe_taken (mirrors : portfolio.Mirrors book) (wellFormed : book.WellFormed)
    {event removed : MarketEvent}
    (found : (book.sideOf event.header.side).find? event.key = some removed) :
    (portfolio.observe (removed.mapHeader fun rh => { rh with action := Action.delete })).1.Mirrors
      (book.setSide event.header.side ((book.sideOf event.header.side).erase event.key)) := by
  have member := (wellFormed.sideOf _).mem_of_find? found
  have keyed : removed.key = event.key := (wellFormed.sideOf _).key_of_find? found
  -- The order comes off the side it rests on, which is the side of its own side code.
  have sameSide : removed.header.side.isBuy = event.header.side.isBuy :=
    ((wellFormed.sideOf _).isBuy_of_mem member).trans (wellFormed.buying_sideOf _)
  have isOrder := MarketEvent.ofEvent?_withHeader ((wellFormed.sideOf _).ofEvent?_of_mem member)
    { removed.header with action := Action.delete }
  generalize shownIs : removed.mapHeader (fun rh => { rh with action := Action.delete }) = shown
  have shownHeader : shown.header = { removed.header with action := Action.delete } := by
    rw [← shownIs, MarketEvent.header_mapHeader]
  have sameClient : shown.header.clientId = event.header.clientId := by
    rw [shownHeader]
    exact congrArg OrderKey.client keyed
  by_cases own : event.header.clientId = portfolio.clientId
  · have sameId : shown.header.clientOrderId = event.header.clientOrderId := by
      rw [shownHeader]
      exact congrArg OrderKey.orderId keyed
    have shownSide : shown.header.side.isBuy = event.header.side.isBuy := by
      rw [shownHeader]
      exact sameSide
    have eventKey : event.key = ⟨portfolio.clientId, event.header.clientOrderId⟩ :=
      Header.key_of_clientId own
    have sides : portfolio.sideOf shown.header.side = portfolio.sideOf event.header.side :=
      Portfolio.sideOf_of_isBuy shownSide
    have held : (portfolio.sideOf shown.header.side).get? shown.header.clientOrderId =
        some removed := by
      rw [sides, sameId, mirrors.sideOf _ _, ← eventKey, found]
    rw [Portfolio.observe_cancel (shownIs ▸ isOrder) (sameClient.trans own)
      (by rw [shownHeader]) held, sides, sameId, Portfolio.setSide_of_isBuy shownSide, eventKey]
    exact mirrors.setSide _ ((mirrors.sideOf _).erase _)
  · rw [Portfolio.observe_other (sameClient.trans_ne own)]
    exact mirrors.keep _ ((mirrors.sideOf _).erase_other own)

/-- A delete that finds nothing, shown as it was asked, changes nothing the client's portfolio
holds, unless it carries a trade of the client. -/
theorem observe_missed (mirrors : portfolio.Mirrors book) {event : MarketEvent}
    (spares : BookRequest.DeletesNoTradeOf portfolio.clientId (.delete event))
    (missing : (book.sideOf event.header.side).find? event.key = none) :
    (portfolio.observe (event.mapHeader fun rh => { rh with action := Action.delete })).1.Mirrors
      book := by
  generalize shownIs : event.mapHeader (fun rh => { rh with action := Action.delete }) = shown
  have shownHeader : shown.header = { event.header with action := Action.delete } := by
    rw [← shownIs, MarketEvent.header_mapHeader]
  by_cases own : event.header.clientId = portfolio.clientId
  · have eventKey : event.key = ⟨portfolio.clientId, event.header.clientOrderId⟩ :=
      Header.key_of_clientId own
    have unheld : (portfolio.sideOf shown.header.side).get? shown.header.clientOrderId = none := by
      rw [shownHeader, mirrors.sideOf _ _, ← eventKey]
      exact missing
    rw [Portfolio.observe_cancel_missing (shownIs ▸ MarketEvent.ofEvent?_withHeader (spares own) _)
      (by rw [shownHeader]) unheld]
    exact mirrors
  · rw [Portfolio.observe_other (by rw [shownHeader]; exact own)]
    exact mirrors

/-- Every move the book publishes from a well-formed book keeps a portfolio that is shown it
mirroring the book, when no trade of its client is deleted. -/
theorem observe (mirrors : portfolio.Mirrors book) (wellFormed : book.WellFormed)
    {event : MarketEvent} {after : OrderBook ρ}
    (publication : Publication (BookRequest.DeletesNoTradeOf portfolio.clientId) book event after) :
    (portfolio.observe event).1.Mirrors after := by
  cases publication with
  | placed allowed isOrder fresh => exact mirrors.observe_placed _ isOrder
  | traded fillable balanced reports =>
    exact mirrors.observe_traded wellFormed fillable balanced reports
  | taken found => exact mirrors.observe_taken wellFormed found
  | missed allowed missing => exact mirrors.observe_missed allowed missing

end Portfolio.Mirrors

end Bourse
