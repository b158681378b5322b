import Bourse.Gateway.Translate
import Bourse.Book.Run

/-!
# What the translator accepts, the book accepts

The gateway checks an order message on its own (symbol, time in force, order type, the
symbol's constraints, the side) before it builds the book's event, and the book checks the event
again when it is offered (`OrderBook.check`: symbol, positive quantity, a well-formed event).
This module shows that the first check is the stronger one: an event the translator builds
passes the book's check on a book of the translator's symbol, so offering it can only be refused
as a duplicate. The event is a bid exactly when the message's side is `1`, and otherwise an
offer whose side is the one the message names; it is unexecuted, has the message's quantity,
which is positive, meets the symbol's constraints, and a market order carries price zero.

`TranslatedOrder` collects what a translated event satisfies; `translate_sound` proves it of
every event the translator returns, `TranslatedOrder.check` turns it into the book's verdict,
and `BookM.add_refusal_duplicate` reads the refusal of `add` off that verdict.
-/

namespace Bourse

/-! ## The side byte of a message -/

/-- The loop of `ByteArray.toList` lists the bytes from `i` on after the reversed
accumulator. -/
theorem ByteArray.toList_loop (bytes : ByteArray) (i : Nat) (r : List UInt8) :
    ByteArray.toList.loop bytes i r = r.reverse ++ bytes.data.toList.drop i := by
  fun_induction ByteArray.toList.loop bytes i r with
  | case1 i r inside ih =>
    have within : i < bytes.data.toList.length := by simpa using inside
    rw [ih, List.drop_eq_getElem_cons within]
    simp [ByteArray.get!, getElem!_pos bytes.data i inside]
  | case2 i r outside =>
    have past : bytes.data.toList.length ≤ i := by simpa using outside
    simp [List.drop_eq_nil_of_le past]

/-- A text whose first byte reads as a nonzero byte is that one byte. -/
theorem toByteArray_of_firstByte {text : String} {byte : UInt8} (read : firstByte text = byte)
    (nonzero : byte ≠ 0) : text.toByteArray = [byte].toByteArray := by
  unfold firstByte at read
  split at read
  · rename_i single one
    subst read
    apply ByteArray.ext
    apply Array.toList_inj.mp
    rw [List.toList_data_toByteArray, ← one, String.toUTF8, ByteArray.toList,
      ByteArray.toList_loop]
    simp
  · exact absurd read.symm nonzero

/-- The texts whose byte is a side code: `1` buys, `2` sells, `5` sells short. -/
theorem text_of_side_code (text : String) :
    (firstByte text = Side.buy.code → text = "1") ∧
      (firstByte text = Side.sell.code → text = "2") ∧
      (firstByte text = Side.sellShort.code → text = "5") := by
  refine ⟨fun read => ?_, fun read => ?_, fun read => ?_⟩ <;>
  · apply String.toByteArray_inj.mp
    rw [toByteArray_of_firstByte read (by decide)]
    decide +kernel

/-! ## Building the event -/

/-- Everything a successful translation says: the symbol is the translator's, and the event is
the order built from a header that carries the message's symbol, side byte and quantity, no
execution, price zero for a market order, and that passes the symbol's constraints. -/
theorem Translator.translate_inv {translator : Translator} {client : String}
    {message : OrderMessage} {event : MarketEvent}
    (translated : translator.translate client message = .ok (.ok event)) :
    message.symbol = translator.symbol ∧ ∃ header : Header,
      MarketEvent.newOrder header = .ok event ∧ header.symbol = message.symbol ∧
      header.side = ⟨firstByte message.side⟩ ∧ header.orderQty = message.orderQty ∧
      header.cumQty = 0 ∧ (header.isMarket = true → header.price = Decimal.zero) ∧
      translator.constraints.check header.price header.orderQty header.isMarket = .ok (.ok ()) := by
  unfold Translator.translate at translated
  dsimp only at translated
  -- every rejection branch answers `.ok (.error _)`; only the last branch builds an event
  split at translated
  · cases translated
  rename_i sameSymbol
  split at translated
  · cases translated
  split at translated
  · cases translated
  split at translated
  · cases translated
  · cases translated
  rename_i passed
  split at translated
  · rename_i built
    cases translated
    refine ⟨by simpa using sameSymbol, _, built, rfl, rfl, rfl, rfl, ?_, ?_⟩
    · intro market
      simp_all [Header.isMarket]
    · simpa [Header.isMarket] using passed
  · cases translated

/-- `newOrder` builds a bid for the buy side and an offer for either sale. -/
theorem MarketEvent.newOrder_inv {header : Header} {event : MarketEvent}
    (built : MarketEvent.newOrder header = .ok event) :
    (header.side = Side.buy ∧ event = MarketEvent.newBid header) ∨
      (header.side.isSell = true ∧ event = MarketEvent.newOffer header) := by
  unfold MarketEvent.newOrder at built
  split at built
  · rename_i buys
    cases built
    exact .inl ⟨by simpa [Side.isBuy] using buys, rfl⟩
  · split at built
    · rename_i sells
      cases built
      exact .inr ⟨sells, rfl⟩
    · cases built

/-- A constraint check that passes has seen a positive quantity. -/
theorem SymbolConstraints.check_positive {limits : SymbolConstraints} {price : Decimal}
    {qty : Int64} {market : Bool} (passed : limits.check price qty market = .ok (.ok ())) :
    0 < qty := by
  unfold SymbolConstraints.check at passed
  split at passed
  · cases passed
  · rename_i notPositive
    exact Int64.not_le.mp notPositive

/-! ## The book's verdict -/

/-- What a translated event satisfies. -/
structure TranslatedOrder (translator : Translator) (message : OrderMessage)
    (event : MarketEvent) : Prop where
  /-- A bid for side `1`, an offer for side `2` or `5`, with the side the message names. -/
  sideAsSent : (message.side = "1" ∧ event = .bid event.header ∧ event.header.side = Side.buy) ∨
    (message.side = "2" ∧ event = .offer event.header ∧ event.header.side = Side.sell) ∨
    (message.side = "5" ∧ event = .offer event.header ∧ event.header.side = Side.sellShort)
  /-- The symbol is the translator's. -/
  symbol : event.header.symbol = translator.symbol
  /-- The order quantity is the message's. -/
  ordered : event.header.orderQty = message.orderQty
  /-- All of it remains. -/
  remaining : event.header.remainingQty = message.orderQty
  /-- The quantity is positive. -/
  positive : 0 < message.orderQty
  /-- Nothing is executed yet. -/
  unexecuted : event.header.cumQty = 0
  /-- The event's own price and quantity meet the symbol's constraints. -/
  withinConstraints :
    translator.constraints.check event.header.price event.header.orderQty event.header.isMarket =
      .ok (.ok ())
  /-- A market order carries price zero. -/
  marketAtZero : event.header.isMarket = true → event.header.price = Decimal.zero

/-- Every event the translator returns is a `TranslatedOrder` of its message. -/
theorem Translator.translate_sound {translator : Translator} {client : String}
    {message : OrderMessage} {event : MarketEvent}
    (translated : translator.translate client message = .ok (.ok event)) :
    TranslatedOrder translator message event := by
  obtain ⟨sameSymbol, header, built, symbol, side, ordered, unexecuted, atZero, passed⟩ :=
    Translator.translate_inv translated
  have positive : 0 < message.orderQty := ordered ▸ SymbolConstraints.check_positive passed
  have texts := text_of_side_code message.side
  rcases MarketEvent.newOrder_inv built with ⟨buys, rfl⟩ | ⟨sells, rfl⟩
  · -- a bid: the side byte was `1`
    have isOne : message.side = "1" := texts.1 (by rw [← buys, side])
    refine ⟨.inl ⟨isOne, rfl, rfl⟩, ?_, ?_, ?_, positive, ?_, ?_, ?_⟩ <;>
      simp_all [MarketEvent.newBid, MarketEvent.header, Header.isMarket]
  · -- an offer keeps the sale it was given, short or not
    have sale : header.side = Side.sell ∨ header.side = Side.sellShort := by
      simpa [Side.isSell] using sells
    refine ⟨?_, ?_, ?_, ?_, positive, ?_, ?_, ?_⟩
    · rcases sale with sells | shorts
      · have isTwo : message.side = "2" := texts.2.1 (by rw [← sells, side])
        refine .inr (.inl ⟨isTwo, rfl, ?_⟩)
        simp [MarketEvent.newOffer, MarketEvent.header, sells, Side.sell, Side.sellShort]
      · have isFive : message.side = "5" := texts.2.2 (by rw [← shorts, side])
        exact .inr (.inr ⟨isFive, rfl, by simp [MarketEvent.newOffer, MarketEvent.header, shorts]⟩)
    all_goals simp_all [MarketEvent.newOffer, MarketEvent.header, Header.isMarket]

/-- A translated event passes the check of every book of the translator's symbol. -/
theorem TranslatedOrder.check {translator : Translator} {message : OrderMessage}
    {event : MarketEvent} (order : TranslatedOrder translator message event) {ρ : Type}
    (book : OrderBook ρ) (sameSymbol : book.symbol = translator.symbol) :
    book.check event = .ok () := by
  have notNegative : ¬ event.header.orderQty < 0 := Int64.lt_asymm (order.ordered ▸ order.positive)
  have notEmpty : ¬ event.header.orderQty ≤ 0 := Int64.not_le.mpr (order.ordered ▸ order.positive)
  have balanced : event.header.remainingQty = event.header.orderQty - event.header.cumQty := by
    rw [order.unexecuted, Int64.sub_zero, order.remaining, order.ordered]
  have notShort : ¬ event.header.orderQty - event.header.cumQty < 0 :=
    balanced ▸ order.remaining ▸ Int64.lt_asymm order.positive
  have symbol := order.symbol
  -- the book reads the header back out of the event, so name it and forget the event
  rcases order.sideAsSent with ⟨-, shape, side⟩ | ⟨-, shape, side⟩ | ⟨-, shape, side⟩ <;>
  · generalize event.header = header at *
    subst shape
    simp only [OrderBook.check, MarketEvent.isOrder, MarketEvent.validate,
      MarketEvent.checkResting, MarketEvent.header]
    simp [symbol, sameSymbol, notNegative, notEmpty, balanced, notShort, side, Side.isSell]

namespace BookM

variable {ρ σ : Type}

/-- An event that passes the book's check is refused by `add` only as a duplicate. -/
theorem add_refusal_duplicate {deliver : Delivery ρ σ} {budget : Nat} {now : Instant}
    {event : MarketEvent}
    {run after : BookRun ρ σ} {refusal : BookError} (accepted : run.book.check event = .ok ())
    (refused : EStateM.run (BookM.add deliver budget now event) run = .ok (.error refusal) after) :
    refusal = .duplicate event.key := by
  simp only [BookM.add, BookM.book, EStateM.run_bind, EStateM.run_get, EStateM.run_pure,
    accepted] at refused
  by_cases duplicate :
      (event.isOrder && (run.book.sideOf event.header.side).contains event.key) = true
  · rw [if_pos duplicate] at refused
    cases refused
    rfl
  · -- the book runs the event, and a run that returns answers acceptance
    rw [if_neg duplicate] at refused
    simp only [EStateM.run_bind, EStateM.run_pure] at refused
    generalize EStateM.run (BookM.run deliver budget now (.add event)) run = result at refused
    cases result <;> cases refused

end BookM

/-- A message for another symbol is rejected as an unknown symbol. -/
theorem Translator.translate_other_symbol {translator : Translator} {client : String}
    {message : OrderMessage} (differs : message.symbol ≠ translator.symbol) :
    translator.translate client message =
      .ok (.error ⟨.unknownSymbol, "unknown symbol " ++ quoteText message.symbol⟩) := by
  simp [Translator.translate, differs]

/-- The translator and the book agree. A message for another symbol is rejected as unknown;
an event the translator builds is a `TranslatedOrder` of its message, passes the check of every
book of the translator's symbol, and offering it to such a book is refused only as a
duplicate. -/
theorem translated_orders_pass_book (translator : Translator) (client : String)
    (message : OrderMessage) :
    (message.symbol ≠ translator.symbol → translator.translate client message =
      .ok (.error ⟨.unknownSymbol, "unknown symbol " ++ quoteText message.symbol⟩)) ∧
    ∀ event, translator.translate client message = .ok (.ok event) →
      TranslatedOrder translator message event ∧
      ∀ {ρ σ : Type} (deliver : Delivery ρ σ) (budget : Nat) (now : Instant)
        (run after : BookRun ρ σ) (refusal : BookError), run.book.symbol = translator.symbol →
        run.book.check event = .ok () ∧
        (EStateM.run (BookM.add deliver budget now event) run = .ok (.error refusal) after →
          refusal = .duplicate event.key) := by
  refine ⟨Translator.translate_other_symbol, fun event translated => ?_⟩
  have order := Translator.translate_sound translated
  refine ⟨order, fun deliver budget now run after refusal sameSymbol => ?_⟩
  have accepted := order.check run.book sameSymbol
  exact ⟨accepted, BookM.add_refusal_duplicate accepted⟩

/-- A short sale of ten at 100.25 for `VOD.L`, on a tick of 0.25 and quantities 1 to 10000. -/
def shortSaleMessage : OrderMessage :=
  ⟨"D", "a1", "", "VOD.L", "5", "2", "1", 10, ⟨10025, -2⟩, "", ZonedTime.zero⟩

/-- A translator for `VOD.L` with a tick of 0.25 and quantities 1 to 10000. -/
def quarterTickTranslator : Translator := ⟨"VOD.L", ⟨⟨25, -2⟩, 1, 10000⟩, .keep⟩

/-- A book of `VOD.L` at work, with nothing resting and no subscribers. -/
def vodOpeningRun : BookRun Unit Unit := ⟨OrderBook.empty "VOD.L" .priceTime, (), [], #[]⟩

/-- The short sale is translated, the book of `VOD.L` takes it, and offering it there can be
refused only as a duplicate. -/
theorem short_sale_passes_book : ∃ event,
    quarterTickTranslator.translate "alice" shortSaleMessage = .ok (.ok event) ∧
    TranslatedOrder quarterTickTranslator shortSaleMessage event ∧
    vodOpeningRun.book.check event = .ok () := by
  have accepted : ((quarterTickTranslator.translate "alice" shortSaleMessage).toOption.bind
      Except.toOption).isSome = true := by decide +kernel
  cases translated : quarterTickTranslator.translate "alice" shortSaleMessage with
  | error reason => simp [translated, Except.toOption] at accepted
  | ok answer =>
    cases answer with
    | error reject => simp [translated, Except.toOption] at accepted
    | ok event =>
      have agree := (translated_orders_pass_book quarterTickTranslator "alice" shortSaleMessage).2
        event translated
      have silent : Delivery Unit Unit := fun audience _ _ _ => (audience, .none)
      exact ⟨event, rfl, agree.1,
        (agree.2 silent queueLimit Instant.zero vodOpeningRun vodOpeningRun (.duplicate event.key)
          rfl).1⟩

end Bourse
