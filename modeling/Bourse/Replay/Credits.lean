import Bourse.Event.Trade

/-!
# Match credits

When two replayed orders meet in the book, the book trades them itself; the archive then
describes the same trade again in its match rows. The replay keeps, per client order id, the
quantity the book has already traded between two of its own orders, and a later match row for
that order first uses up this credit: only what is left of the row's quantity is applied.

Only trades in which both the order and its counterpart belong to the replay earn credit, and
only for a positive quantity. A new, deleted or expired order forgets its credit.
-/

namespace Bourse

/-- Quantities already traded by the book, per client order id. -/
structure MatchCredits where
  /-- The credit of each order that has one. -/
  credits : List (String × Int64)
  deriving Repr, Inhabited

namespace MatchCredits

/-- No credit for anyone. -/
def empty : MatchCredits := ⟨[]⟩

/-- The credit of an order; zero when it has none. -/
def creditOf (credits : MatchCredits) (orderId : String) : Int64 :=
  (credits.credits.lookup orderId).getD 0

/-- Forgets an order's credit. -/
def drop (credits : MatchCredits) (orderId : String) : MatchCredits :=
  ⟨credits.credits.filter (·.1 != orderId)⟩

/-- Sets an order's credit. -/
def setCredit (credits : MatchCredits) (orderId : String) (qty : Int64) : MatchCredits :=
  ⟨(credits.drop orderId).credits ++ [(orderId, qty)]⟩

/-- Credits a trade of the book in which both sides belong to `owner`. -/
def observe (credits : MatchCredits) (owner : String) (event : MarketEvent) : MatchCredits :=
  match Trade.ofEvent? event with
  | none => credits
  | some trade =>
    let h := trade.header
    let x := trade.execution
    if h.clientId != owner || x.contraClientId != owner || x.execQty ≤ 0 then credits
    else credits.setCredit h.clientOrderId (credits.creditOf h.clientOrderId + x.execQty)

/-- Uses up to `wanted` of an order's credit; gives what was used and the credits after. -/
def take (credits : MatchCredits) (orderId : String) (wanted : Int64) : Int64 × MatchCredits :=
  let held := credits.creditOf orderId
  if held ≤ 0 then (0, credits)
  else
    let used := if held ≤ wanted then held else wanted
    if held == used then (used, credits.drop orderId)
    else (used, credits.setCredit orderId (held - used))

end MatchCredits

end Bourse
