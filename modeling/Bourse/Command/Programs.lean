import Bourse.Command.Flags
import Bourse.Exchange.Lifecycle
import Bourse.PostTrade.Fills
import Bourse.Replay.Archive

/-!
# The programs

Three programs come with the exchange, each reading its flags first (see `parseFlags`): asking
for the usage prints it and succeeds, a flag that cannot be read prints the problem and the
usage and exits with 2. Other failures print one line and exit with 1.

* `tradestats` sums up the fills of an exchange log (`-log`), for one symbol (`-symbol`) and
  from a time on (`-since`, RFC 3339), and prints the file with its counts of lines and skipped
  fills, the filters, and a table of the clients by id: trades, quantities bought and sold, net
  position, average buying and selling prices and cash flow to four places.
* `loader` reads an archive (`-csv`, times in `-layout`) and would append it to a stream of the
  store at `-redis`; the store must answer first, and here none does.
* `exchange` loads its settings (`-config`), watching the file, builds and starts the exchange,
  and runs until the replay ends, when the settings say the exchange should then stop; it then
  stops the exchange.
-/

namespace Bourse

/-- What a program's run left: its exit code, what it printed and the files. -/
structure ProgramRun where
  /-- The exit code. -/
  exit : Nat
  /-- What it printed to its output. -/
  stdout : String
  /-- What it printed to its error output. -/
  stderr : String
  /-- The files afterwards. -/
  disk : Disk
  deriving Repr

/-- The programs. -/
inductive Program where
  /-- Sums up the fills of an exchange log. -/
  | tradeStats
  /-- Loads an archive into a stream. -/
  | loader
  /-- Runs the exchange. -/
  | exchange
  deriving Repr, DecidableEq

namespace Program

/-- The program of a name. -/
def ofName? : String → Option Program
  | "tradestats" => some .tradeStats
  | "loader" => some .loader
  | "exchange" => some .exchange
  | _ => none

/-- The flags of a program. -/
def flags : Program → List FlagSpec
  | .tradeStats =>
    [⟨"log", .text, "logs/exchange.log", "交易所日志路径"⟩,
     ⟨"symbol", .text, "", "仅统计指定标的 (默认全量)"⟩,
     ⟨"since", .text, "", "仅统计此时间之后的记录 (RFC3339)"⟩]
  | .loader =>
    [⟨"csv", .text, "data/events.csv", "CSV 归档路径"⟩,
     ⟨"layout", .text, "2006-01-02 15:04:05", "dateTime 列的时间格式"⟩,
     ⟨"redis", .text, "redis://localhost:6379", "Redis 地址"⟩,
     ⟨"password", .text, "", "Redis 密码"⟩,
     ⟨"stream", .text, "exsim:events", "目标 Stream"⟩,
     ⟨"reset", .switch, "false", "写入前删除已有 Stream"⟩]
  | .exchange => [⟨"config", .text, "configs/exchange.yaml", "配置文件路径"⟩]

end Program

/-- A run that printed one line of error and failed. -/
def ProgramRun.failure (disk : Disk) (message : String) : ProgramRun := ⟨1, "", message ++ "\n", disk⟩

/-- A text padded with spaces on the right to a width. -/
def padRight (text : String) (width : Nat) : String :=
  text ++ String.ofList (List.replicate (width - text.length) ' ')

/-- A text padded with spaces on the left to a width. -/
def padLeft (text : String) (width : Nat) : String :=
  String.ofList (List.replicate (width - text.length) ' ') ++ text

/-- A row of the fills table. -/
def fillsRow (cells : List String) : String :=
  let widths := [16, 8, 10, 10, 10, 14, 14, 14]
  let padded := (cells.zip widths).zipIdx.map fun ((cell, width), i) =>
    if i == 0 then padRight cell width else padLeft cell width
  " ".intercalate padded ++ "\n"

/-- The table row of a client's fills. -/
def ClientFills.row (fills : ClientFills) : String :=
  fillsRow [fills.client, toString fills.trades, toString fills.bought.toInt, toString fills.sold.toInt,
    toString fills.net.toInt, fills.buyAverage.toFixed 4, fills.sellAverage.toFixed 4,
    fills.cashFlow.toFixed 4]

/-- Sums up the fills of an exchange log. -/
def fillStats (values : FlagValues) (disk : Disk) : ProgramRun :=
  let path := values.get "log"
  let symbol := values.get "symbol"
  let sinceText := values.get "since"
  let since : Except String ZonedTime :=
    if sinceText.isEmpty then .ok ZonedTime.zero
    else (Instant.parseRfc3339Zoned sinceText).mapError (·.message)
  match since with
  | .error e => ProgramRun.failure disk ("解析 since 参数失败: " ++ e)
  | .ok since =>
    match disk.read? path with
    | none =>
      if disk.isDir path then ProgramRun.failure disk ("读取日志出错: scan log: read " ++ path ++ ": is a directory")
      else ProgramRun.failure disk ("无法读取日志: open " ++ path ++ ": no such file or directory")
    | some log =>
      match analyzeFills log ⟨symbol, since.instant⟩ with
      | (_, some e) => ProgramRun.failure disk ("读取日志出错: " ++ e)
      | (report, none) =>
        let lines := ["统计文件: " ++ path ++ " (" ++ toString report.lines ++ " 行, 跳过 " ++
            toString report.skipped ++ ")\n"] ++
          (if symbol.isEmpty then [] else ["标的: " ++ symbol ++ "\n"]) ++
          (if since.instant.isZero then [] else ["起始时间: " ++ since.format rfc3339 ++ "\n"]) ++
          [fillsRow ["client", "trades", "bought", "sold", "net", "buy vwap", "sell vwap", "cash flow"]] ++
          report.byClient.map ClientFills.row
        ⟨0, String.join lines, "", disk⟩

/-- Reads an archive and reaches for the store to load it into. -/
def loadArchive (values : FlagValues) (disk : Disk) : ProgramRun :=
  let path := values.get "csv"
  match readArchive path (disk.read? path) (values.get "layout") with
  | .error e => ProgramRun.failure disk ("读取归档失败: " ++ e.message)
  | .ok rows =>
    match dialStore (values.get "redis") with
    | .error e => ProgramRun.failure disk ("连接 Redis 失败: " ++ e)
    | .ok () => ⟨0, "", "写入 " ++ toString rows.length ++ " 条到 " ++ values.get "stream" ++ "\n", disk⟩

/-- Runs the exchange until its replay ends, then stops it. -/
def serveExchange (values : FlagValues) (env : Environment) (disk : Disk) (wall : Instant) :
    ProgramRun :=
  let path := values.get "config"
  match Settings.load path (disk.read? path) env with
  | .error e => ProgramRun.failure disk ("加载配置失败: load config failed: " ++ e.message)
  | .ok settings =>
    match Exchange.build settings (some path) disk wall with
    | .error (.failed e disk) => ProgramRun.failure disk ("构建失败: " ++ e)
    | .error (.brokeDown e disk) => ⟨2, "", "panic: " ++ e ++ "\n", disk⟩
    | .ok ex =>
      match ex.start with
      | (ex, some e) => ProgramRun.failure ex.stop.disk ("启动失败: " ++ e)
      | (ex, none) =>
        let notice := if ex.replayEnded then "回放结束，正在停止...\n" else "收到退出信号，正在停止...\n"
        ⟨0, "", notice, ex.stop.disk⟩

/-- Runs a program, invoked under a name, with its arguments, the variables of its environment,
the files and the wall clock's time. -/
def Program.run (program : Program) (invokedAs : String) (args : List String) (env : Environment)
    (disk : Disk) (wall : Instant) : ProgramRun :=
  let usage := usageText invokedAs program.flags
  match parseFlags program.flags args with
  | .error .help => ⟨0, "", usage, disk⟩
  | .error (.failed message) => ⟨2, "", message ++ "\n" ++ usage, disk⟩
  | .ok values =>
    match program with
    | .tradeStats => fillStats values disk
    | .loader => loadArchive values disk
    | .exchange => serveExchange values env disk wall

/-- The paths a run looks at, as far as the files at hand tell: the file its flags name and,
for the exchange, the files its settings name. Each round of reading these paths, and the
directories above them, can only add to what the next round asks for, and two rounds give all
a run reads: the flags name the settings, and the settings the rest. -/
def Program.inputs (program : Program) (args : List String) (env : Environment) (disk : Disk) :
    List String :=
  match parseFlags program.flags args with
  | .error _ => []
  | .ok values =>
    match program with
    | .tradeStats => [values.get "log"]
    | .loader => [values.get "csv"]
    | .exchange =>
      let path := values.get "config"
      match Settings.load path (disk.read? path) env with
      | .error _ => [path]
      | .ok s => [path, s.replay.csvPath, s.log.outputFile, s.log.errorFile, s.exchange.tradeLogPath]

end Bourse
