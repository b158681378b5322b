import Bourse.Gateway.Message
import Bourse.Order.Constraints
import Bourse.Book.DeskView

/-!
# From order messages to book events

A translator turns a client's new order or replace into the order event the book takes. It
accepts only good-till-cancel market and limit orders for its own symbol, whose price and
quantity meet the symbol's constraints; a market order's price is ignored and counts as zero.
The account defaults to the client; the time is the message's, passed through the translator's
stamp (a simulation clock may replace it).
-/

namespace Bourse

/-- The single byte of a one-character text, or zero for any other text. -/
def firstByte (text : String) : UInt8 :=
  match text.toUTF8.toList with
  | [b] => b
  | _ => 0

/-- What fixes the time of translated orders. -/
inductive Stamp where
  /-- The message's own time. -/
  | keep
  /-- A fixed time, whatever the message says. -/
  | fixed (moment : Instant)
  deriving Repr, Inhabited

/-- The time a stamp gives a message that says `moment`. -/
def Stamp.apply : Stamp → Instant → Instant
  | .keep, moment => moment
  | .fixed moment, _ => moment

/-- A translator for one symbol. -/
structure Translator where
  /-- The symbol served. -/
  symbol : String
  /-- What the symbol accepts. -/
  constraints : SymbolConstraints
  /-- How order times are fixed. -/
  stamp : Stamp
  deriving Repr, Inhabited

/-- The rejection of an order that breaks the symbol's constraints: quantity errors are
incorrect quantities, price errors unsupported characteristics. -/
def ConstraintError.toReject (error : ConstraintError) : Reject :=
  ⟨if error.isQuantity then .incorrectQuantity else .unsupportedOrderCharacteristic, error.message⟩

/-- Translates a client's order message into the book's order event, or rejects it; the outer
error is the reason the constraint check broke down. -/
def Translator.translate (translator : Translator) (client : String) (message : OrderMessage) :
    Except String (Except Reject MarketEvent) :=
  if message.symbol != translator.symbol then
    .ok (.error ⟨.unknownSymbol, "unknown symbol " ++ quoteText message.symbol⟩)
  else if TimeInForce.mk (firstByte message.timeInForce) != TimeInForce.goodTillCancel then
    .ok (.error ⟨.unknownOrder, "unsupported time in force " ++ quoteText message.timeInForce⟩)
  else
    let type : OrderType := ⟨firstByte message.ordType⟩
    if type != OrderType.market && type != OrderType.limit then
      .ok (.error ⟨.unknownOrder, "unsupported order type " ++ quoteText message.ordType⟩)
    else
      let market := type == OrderType.market
      let price := if market then Decimal.zero else message.price
      match translator.constraints.check price message.orderQty market with
      | .error reason => .error reason
      | .ok (.error e) => .ok (.error e.toReject)
      | .ok (.ok ()) =>
        let header : Header :=
          { Header.empty with
            clientOrderId := message.clOrdId, clientId := client,
            account := if message.account.isEmpty then client else message.account,
            symbol := message.symbol, side := ⟨firstByte message.side⟩, orderType := type,
            price, orderQty := message.orderQty,
            transactTime := translator.stamp.apply message.transactTime.instant,
            action := Action.add }
        match MarketEvent.newOrder header with
        | .ok event => .ok (.ok event)
        | .error e => .ok (.error ⟨.other, e.message⟩)

/-- The rejection of an order the book refused: a duplicate, a wrong symbol, or anything
else. -/
def BookError.toReject (error : BookError) : Reject :=
  match error with
  | .duplicate _ => ⟨.duplicateOrder, error.message⟩
  | .wrongSymbol _ => ⟨.unknownSymbol, error.message⟩
  | .invalid _ => ⟨.other, error.message⟩

end Bourse
