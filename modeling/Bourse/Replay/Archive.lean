import Bourse.Replay.Row
import Bourse.Text.Csv

/-!
# Archive files

An archive file holds one row per record, with the columns `orderID`, `orderActionType`,
`orderQty`, `price`, `buySellInd`, `dateTime` and, optionally, `messageSequenceNumber`. A first
record whose first field is `orderID` (in any case) is a header and is skipped, as are records
with a single blank field. Fields are trimmed of white space; the time is read with the
archive's layout. A row without a sequence number, or with zero, takes the number of its record
(counted from zero, the header included).

Reading stops at the first record that is not a row, naming the file and the record (counted
from one).
-/

namespace Bourse

/-- Why an archive file could not be read. -/
inductive ArchiveError where
  /-- There is no such file. -/
  | missing (path : String)
  /-- The file is not comma-separated records. -/
  | malformed (path : String) (error : Csv.ParseError)
  /-- A record is not a row. -/
  | row (path : String) (record : Nat) (error : RowError)
  deriving Repr

/-- The message of an archive error. -/
def ArchiveError.message : ArchiveError → String
  | .missing path => "open " ++ path ++ ": no such file or directory"
  | .malformed path error => "read " ++ path ++ ": " ++ error.message
  | .row path record error => path ++ " line " ++ toString record ++ ": " ++ error.message

/-- The field at a position of a record, trimmed; empty past its end. -/
def trimmedField (fields : List String) (index : Nat) : String :=
  trimBlank (fields.getD index "")

/-- Reads a row from the fields of a record; the time is read with `layout`. -/
def readArchiveRecord (layout : String) (fields : List String) : Except RowError ReplayRow := do
  if fields.length < 6 then throw (.fieldCount fields.length)
  let qty ← (readInt64 (trimmedField fields 2)).mapError (.integer "orderQty")
  let price ← (Decimal.ofText? (trimmedField fields 3)).mapError .price
  let side ← (readSide (fields.getD 4 "")).mapError .side
  let time ← (Instant.parse layout (trimmedField fields 5)).mapError (.time "dateTime")
  let seq ← if fields.length > 6 && !(trimmedField fields 6).isEmpty then
      (readInt64 (trimmedField fields 6)).mapError (.integer "messageSequenceNumber")
    else pure 0
  return ⟨trimmedField fields 0, ReplayAction.ofText (fields.getD 1 ""), qty, price, side, time, seq⟩

/-- Whether a record is the header of an archive. -/
def isArchiveHeader (fields : List String) : Bool :=
  match fields with
  | first :: _ => sameIgnoringAsciiCase (trimBlank first) "orderID"
  | [] => false

/-- Whether a record has nothing in it. -/
def isBlankRecord (fields : List String) : Bool :=
  match fields with
  | [] => true
  | [only] => (trimBlank only).isEmpty
  | _ => false

/-- Reads the rows of records, the first of them numbered `index` (from zero). -/
def readArchiveRecords (path layout : String) : Nat → List (List String) → Except ArchiveError (List ReplayRow)
  | _, [] => .ok []
  | index, fields :: rest =>
    if (index == 0 && isArchiveHeader fields) || isBlankRecord fields then
      readArchiveRecords path layout (index + 1) rest
    else match readArchiveRecord layout fields with
      | .error e => .error (.row path (index + 1) e)
      | .ok row => do
        let row := if row.seq == 0 then { row with seq := Int64.ofNat index } else row
        let later ← readArchiveRecords path layout (index + 1) rest
        return row :: later

/-- Reads an archive file, given its contents (`none` when there is no such file). -/
def readArchive (path : String) (contents : Option String) (layout : String) :
    Except ArchiveError (List ReplayRow) :=
  match contents with
  | none => .error (.missing path)
  | some text =>
    match Csv.readAll text with
    | .error e => .error (.malformed path e)
    | .ok records => readArchiveRecords path layout 0 records

end Bourse
