import Bourse.Config.Load
import Bourse.Disk.Basic

/-!
# Watching the settings file

A watcher follows the directory of a settings file, so that editors which write a new file and
rename it over the old one are seen as well as writes in place. The file system reports each
change as a file and a set of operations; a report that the settings file was written or
created reloads the settings, with the file as it is at that moment. A reload that fails is
passed over, and the settings of one that succeeds are handed on. After a successful reload,
further changes are passed over until the cooldown has passed: the cooldown counts from that
reload on the wall clock, and from the zero time before the first. A change passed over is
dropped, not kept for later.

Reports about other files of the directory, and about other operations, are passed over.

The component that owns the watcher keeps the settings last handed on and the simulator: a new
replay delay takes effect at once, and other changes wait for a restart.
-/

namespace Bourse

/-- The operations a change report names, as bits: created (1), written (2), removed (4),
renamed (8), mode changed (16). -/
structure FileOp where
  bits : UInt32
  deriving DecidableEq, Repr

namespace FileOp

/-- A file was created, or renamed into the directory. -/
def create : FileOp := ⟨1⟩
/-- A file was written. -/
def write : FileOp := ⟨2⟩

/-- Whether a report names an operation. -/
def has (op other : FileOp) : Bool := op.bits &&& other.bits != 0

end FileOp

/-- A report of the file system about a file of the watched directory. -/
structure FileEvent where
  /-- The file, as reported. -/
  path : String
  /-- What happened to it. -/
  op : FileOp
  deriving Repr

/-- Whether a report says a file was written or created. -/
def FileEvent.writes (event : FileEvent) : Bool := event.op.has .write || event.op.has .create

/-- A report as the watcher takes it: the wall clock's time, the report, and what the settings
file holds at that moment (`none` when there is no such file). -/
structure WatchNotice where
  /-- When the watcher takes the report. -/
  time : Instant
  /-- The report. -/
  event : FileEvent
  /-- The settings file at that moment. -/
  contents : Option String
  deriving Repr

/-- The time from an earlier instant as the clock gives it: held to the range of a duration. -/
def Instant.elapsedSince (moment earlier : Instant) : Duration :=
  ⟨max (-9223372036854775808) (min (moment.nanos - earlier.nanos) 9223372036854775807)⟩

/-- A watcher of a settings file. -/
structure SettingsWatcher where
  /-- The settings file, as a plain path. -/
  target : String
  /-- How long changes are passed over after a successful reload. -/
  cooldown : Duration
  /-- When the last successful reload was; the zero time before the first. -/
  lastReload : Instant
  deriving Repr

namespace SettingsWatcher

/-- Starts watching a settings file; its directory must exist. -/
def start (disk : Disk) (path : String) (cooldown : Duration) : Except String SettingsWatcher :=
  let target := Disk.clean path
  if disk.isDir (Disk.parentOf target) then .ok ⟨target, cooldown, Instant.zero⟩
  else .error "failed to watch config dir: no such file or directory"

/-- Whether changes at a time are passed over: less than the cooldown has passed since the last
reload. -/
def cooling (watcher : SettingsWatcher) (time : Instant) : Bool :=
  (time.elapsedSince watcher.lastReload).nanos < watcher.cooldown.nanos

/-- What a report does: when it says the settings file was written or created, and no cooldown
holds, the settings are loaded from the file as it is; the answer has them when they load. -/
def notice (watcher : SettingsWatcher) (env : Environment) (change : WatchNotice) :
    SettingsWatcher × Option Settings :=
  if Disk.clean change.event.path != watcher.target then (watcher, none)
  else if !change.event.writes then (watcher, none)
  else if watcher.cooling change.time then (watcher, none)
  else
    match Settings.load watcher.target change.contents env with
    | .ok settings => ({ watcher with lastReload := change.time }, some settings)
    | .error _ => (watcher, none)

/-- Takes reports in order: the watcher after them, and the settings of each reload, in order. -/
def run (watcher : SettingsWatcher) (env : Environment) :
    List WatchNotice → SettingsWatcher × List Settings
  | [] => (watcher, [])
  | change :: rest =>
    let (watcher, loaded) := watcher.notice env change
    let (watcher, later) := watcher.run env rest
    (watcher, loaded.toList ++ later)

/-- The reports that writing files in order gives, all at one moment: each write reports its
file as written, with the settings file as the writes so far left it. -/
def writeNotices (target : String) (disk : Disk) (now : Instant) :
    List (String × String) → List WatchNotice
  | [] => []
  | (path, text) :: rest =>
    let disk := disk.write path text
    ⟨now, ⟨path, .write⟩, disk.read? target⟩ :: writeNotices target disk now rest

/-- Writes files in order at one moment, each write noticed by the watcher: the settings of
each reload. -/
def followWrites (watcher : SettingsWatcher) (disk : Disk) (now : Instant)
    (writes : List (String × String)) : List Settings :=
  (watcher.run [] (writeNotices watcher.target disk now writes)).2

end SettingsWatcher

/-- What the watcher's owner keeps: the settings last handed on, and the simulator whose delay
follows them. -/
structure SettingsHolder where
  /-- The settings last handed on. -/
  current : Settings
  /-- The simulator, when a replay is configured. -/
  simulator : Option Simulator

/-- Takes reloaded settings: they become the current ones, and a replay delay that differs from
the current one is set on the simulator. -/
def SettingsHolder.take (holder : SettingsHolder) (next : Settings) : SettingsHolder :=
  { current := next,
    simulator :=
      if next.replay.delay.nanos != holder.current.replay.delay.nanos then
        holder.simulator.map (·.setDelay next.replay.delay)
      else holder.simulator }

end Bourse
