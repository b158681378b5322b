import Bourse.Event.Basic
import Bourse.Text.Blank
import Bourse.Text.Integer
import Bourse.Time.Layout

/-!
# Archived market rows

An archive of a market day is a list of rows, each one thing that happened to an order: it was
entered (`N`), deleted (`D`) or expired (`E`), it traded in part (`P`) or in full (`M`), or it hit
a transaction limit (`T`). A row names the order, the action, the quantity, the price, the side
(`B` or `S`), the time and a sequence number. Rows are replayed in the order of their time, and
of their sequence number within one time.

Reading is lenient about the action, which defaults to a new order, and strict about the side,
which must be `B` or `S` in either case, white space around it allowed.
-/

namespace Bourse

/-- What a row does to its order, as the byte of the archive. -/
structure ReplayAction where
  /-- The byte: `N`, `D`, `E`, `P`, `M` or `T`. -/
  code : UInt8
  deriving DecidableEq, Repr, Inhabited

namespace ReplayAction

/-- A new order. -/
def new : ReplayAction := ⟨78⟩
/-- A deleted order. -/
def delete : ReplayAction := ⟨68⟩
/-- An expired order. -/
def expire : ReplayAction := ⟨69⟩
/-- A trade that leaves part of the order open. -/
def partialMatch : ReplayAction := ⟨80⟩
/-- A trade that fills what was left of the order. -/
def fullMatch : ReplayAction := ⟨77⟩
/-- An order stopped by a transaction limit. -/
def transactionLimit : ReplayAction := ⟨84⟩

/-- The actions an archive may name, with their names. -/
def named : List (ReplayAction × String) :=
  [(new, "new"), (delete, "delete"), (expire, "expire"), (partialMatch, "partial_match"),
    (fullMatch, "full_match"), (transactionLimit, "transaction_limit")]

/-- The name of an action, `unknown` for a byte that names none. -/
def name (action : ReplayAction) : String :=
  ((named.find? (·.1 == action)).map (·.2)).getD "unknown"

/-- Reads the action column: the first byte after trimming white space when it names an action
other than a new order, and a new order otherwise, an empty column included. -/
def ofText (text : String) : ReplayAction :=
  match (trimBlank text).toUTF8.toList with
  | [] => new
  | b :: _ => if (named.map (·.1)).contains ⟨b⟩ then ⟨b⟩ else new

end ReplayAction

/-- Reads the side column: `B` buys and `S` sells, in either case and with white space around
it. The letters whose capital is `S` include the long s. -/
def readSide (text : String) : Except String Side :=
  match (trimBlank text).toList with
  | ['B'] | ['b'] => .ok Side.buy
  | ['S'] | ['s'] | ['ſ'] => .ok Side.sell
  | _ => .error ("unknown buySellInd " ++ quoteText text)

/-- The letter of a side in an archive: `B` for buying, `S` for everything else. -/
def sideLetter (side : Side) : String := if side.isBuy then "B" else "S"

/-- One archived market event. -/
structure ReplayRow where
  orderId : String
  /-- What happened to it. -/
  action : ReplayAction
  /-- The quantity. -/
  qty : Int64
  price : Decimal
  /-- Buy or sell. -/
  side : Side
  /-- When it happened. -/
  time : Instant
  /-- The sequence number, which orders rows of one time. -/
  seq : Int64
  deriving Repr, Inhabited

/-- Whether a row is replayed before another: it is earlier, or as early with a smaller
sequence number. -/
def ReplayRow.before (row other : ReplayRow) : Bool :=
  if row.time.nanos != other.time.nanos then row.time.nanos < other.time.nanos
  else row.seq < other.seq

/-- Rows in replay order; rows that neither precedes keep their order. -/
def sortRows (rows : List ReplayRow) : List ReplayRow :=
  rows.mergeSort fun a b => !b.before a

/-- Why a row could not be read. -/
inductive RowError where
  /-- A record with too few fields. -/
  | fieldCount (count : Nat)
  /-- An integer column that is not an integer. -/
  | integer (column : String) (error : IntegerError)
  /-- A price that is not a decimal. -/
  | price (error : Decimal.SyntaxError)
  /-- A side that is neither `B` nor `S`. -/
  | side (message : String)
  /-- A time that does not match its layout. -/
  | time (column : String) (error : TimeParseError)
  deriving Repr

/-- The message of a row error, naming the column at fault. -/
def RowError.message : RowError → String
  | .fieldCount count => "expected at least 6 fields, got " ++ toString count
  | .integer column error => column ++ ": " ++ error.message
  | .price error => "price: " ++ error.message
  | .side message => message
  | .time column error => column ++ ": " ++ error.message

end Bourse
