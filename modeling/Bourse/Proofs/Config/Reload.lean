import Bourse.Config.Watch

/-!
# Reloading the settings file

The watcher takes the file system's reports one after another (`SettingsWatcher.run`), and its
owner takes the settings of each reload in order (`SettingsHolder.take`). Three facts describe
the whole run:

- a report that cannot reload (another file, another operation, or a file that does not load)
  changes nothing: it can be dropped from any run;
- a report that can reload does so exactly when no cooldown holds; one that comes within the
  cooldown of the last reload is dropped, not kept for later;
- the owner's simulator waits the current settings' replay delay, held to the least delay, after
  every reload when it did before.

So when the last report of a run says the settings file was written, the file then loads, and
the cooldown of the last reload before it has run out, those settings are the last handed on,
the owner's current ones, and the simulator's delay follows them. The cooldown condition cannot
be dropped: `write_within_cooldown_dropped` is a run whose last write is lost.
-/

namespace Bourse

namespace SettingsWatcher

variable (watcher : SettingsWatcher) (env : Environment)

/-- Whether a report can make the watcher reload: it says the settings file was written or
created, and the file then holds settings that load. -/
def mayReload (change : WatchNotice) : Bool :=
  Disk.clean change.event.path == watcher.target && change.event.writes &&
    (Settings.load watcher.target change.contents env).isOk

theorem mayReload_of_target {watcher other : SettingsWatcher} (same : other.target = watcher.target) :
    other.mayReload env = watcher.mayReload env := by
  funext change
  simp [mayReload, same]

/-! ## One report -/

/-- A report that cannot reload leaves the watcher as it is and hands nothing on. -/
theorem notice_passed_over {change : WatchNotice} (passed : watcher.mayReload env change = false) :
    watcher.notice env change = (watcher, none) := by
  unfold notice
  by_cases target : Disk.clean change.event.path = watcher.target
  · by_cases writes : change.event.writes = true
    · cases loaded : Settings.load watcher.target change.contents env with
      | error e => simp
      | ok settings => simp [mayReload, target, writes, loaded, Except.isOk, Except.toBool] at passed
    · simp [target, writes]
  · simp [target]

/-- A write of the settings file that loads, once the cooldown has run out, reloads them and
restarts the cooldown. -/
theorem notice_reloads {change : WatchNotice} {settings : Settings}
    (target : Disk.clean change.event.path = watcher.target) (writes : change.event.writes = true)
    (cooled : watcher.cooling change.time = false)
    (loads : Settings.load watcher.target change.contents env = .ok settings) :
    watcher.notice env change = ({ watcher with lastReload := change.time }, some settings) := by
  unfold notice
  simp [target, writes, cooled, loads]

/-- All one report can do: nothing, or a reload with the settings the file then holds, which
restarts the cooldown. -/
theorem notice_cases (change : WatchNotice) :
    watcher.notice env change = (watcher, none) ∨
      ∃ settings, Settings.load watcher.target change.contents env = .ok settings ∧
        watcher.notice env change = ({ watcher with lastReload := change.time }, some settings) := by
  cases passed : watcher.mayReload env change
  · exact .inl (notice_passed_over watcher env passed)
  · by_cases cooling : watcher.cooling change.time = true
    · left
      unfold notice
      simp [cooling]
    · simp only [mayReload, Bool.and_eq_true, beq_iff_eq] at passed
      obtain ⟨⟨target, writes⟩, loaded⟩ := passed
      cases loads : Settings.load watcher.target change.contents env with
      | error e => simp [loads, Except.isOk, Except.toBool] at loaded
      | ok settings =>
        exact .inr ⟨settings, rfl, notice_reloads watcher env target writes (by simpa using cooling) loads⟩

theorem notice_target (change : WatchNotice) : (watcher.notice env change).1.target = watcher.target := by
  rcases notice_cases watcher env change with unchanged | ⟨_, _, reloaded⟩
  · rw [unchanged]
  · rw [reloaded]

/-! ## Runs -/

theorem run_cons (change : WatchNotice) (rest : List WatchNotice) :
    watcher.run env (change :: rest) =
      (((watcher.notice env change).1.run env rest).1,
        (watcher.notice env change).2.toList ++ ((watcher.notice env change).1.run env rest).2) :=
  rfl

theorem run_target (changes : List WatchNotice) :
    (watcher.run env changes).1.target = watcher.target := by
  induction changes generalizing watcher with
  | nil => rfl
  | cons change rest ih => rw [run_cons, ih, notice_target]

theorem run_append (first later : List WatchNotice) :
    watcher.run env (first ++ later) =
      (((watcher.run env first).1.run env later).1,
        (watcher.run env first).2 ++ ((watcher.run env first).1.run env later).2) := by
  induction first generalizing watcher with
  | nil => rfl
  | cons change rest ih => simp [run_cons, ih]

/-- Reports that cannot reload change nothing in a run: dropping them leaves the watcher's end
and the settings handed on as they were. -/
theorem run_filter_mayReload (changes : List WatchNotice) :
    watcher.run env (changes.filter (watcher.mayReload env)) = watcher.run env changes := by
  induction changes generalizing watcher with
  | nil => rfl
  | cons change rest ih =>
    by_cases may : watcher.mayReload env change = true
    · -- the report is kept, and what comes after it is filtered for the same settings file
      have same := mayReload_of_target env (notice_target watcher env change)
      rw [List.filter_cons_of_pos may, run_cons, run_cons, ← ih, same]
    · have passed : watcher.mayReload env change = false := by simpa using may
      rw [List.filter_cons_of_neg may, run_cons, notice_passed_over watcher env passed, ih]
      rfl

end SettingsWatcher

/-! ## The owner of the watcher -/

namespace SettingsHolder

/-- The simulator, if any, waits the current settings' replay delay, held to the least delay. -/
def DelayInStep (holder : SettingsHolder) : Prop :=
  ∀ simulator ∈ holder.simulator, simulator.delay =
    if holder.current.replay.delay.nanos < minimumDelay.nanos then minimumDelay
    else holder.current.replay.delay

theorem take_current (holder : SettingsHolder) (next : Settings) : (holder.take next).current = next :=
  rfl

/-- Taking settings keeps the simulator's delay in step: a new delay is set on it, and an equal
one needs no change. -/
theorem DelayInStep.take {holder : SettingsHolder} (inStep : holder.DelayInStep) (next : Settings) :
    (holder.take next).DelayInStep := by
  intro simulator mem
  unfold SettingsHolder.take at mem
  rw [take_current]
  by_cases changed : next.replay.delay.nanos = holder.current.replay.delay.nanos
  · -- the same delay: the simulator is untouched and already waits it
    have equal : next.replay.delay = holder.current.replay.delay := congrArg Duration.mk changed
    simp only [changed, bne_self_eq_false, Bool.false_eq_true, ↓reduceIte] at mem
    rw [equal]
    exact inStep simulator mem
  · simp only [bne_iff_ne, ne_eq, changed, not_false_eq_true, ↓reduceIte, Option.mem_def,
      Option.map_eq_some_iff] at mem
    obtain ⟨_, _, rfl⟩ := mem
    rfl

theorem DelayInStep.takeAll {holder : SettingsHolder} (inStep : holder.DelayInStep)
    (loaded : List Settings) : (loaded.foldl SettingsHolder.take holder).DelayInStep := by
  induction loaded generalizing holder with
  | nil => exact inStep
  | cons next rest ih => exact ih (inStep.take next)

end SettingsHolder

namespace SettingsWatcher

/-- The last report of a run is a write of the settings file that loads, once the cooldown of
the last reload before it has run out: those settings are the last handed on, the owner ends with
them as its current settings, and the simulator, when its delay followed the owner's settings at
the start, waits their replay delay held to the least delay. A report that cannot reload hands
nothing on and changes nothing, wherever it stands in a run. -/
theorem last_write_reloads (watcher : SettingsWatcher) (env : Environment) (holder : SettingsHolder)
    (earlier : List WatchNotice) (last : WatchNotice) (settings : Settings)
    (inStep : holder.DelayInStep)
    (target : Disk.clean last.event.path = watcher.target) (writes : last.event.writes = true)
    (loads : Settings.load watcher.target last.contents env = .ok settings)
    (cooled : (watcher.run env earlier).1.cooling last.time = false) :
    (watcher.run env (earlier ++ [last])).2.getLast? = some settings ∧
    ((watcher.run env (earlier ++ [last])).2.foldl SettingsHolder.take holder).current = settings ∧
    (∀ simulator ∈ ((watcher.run env (earlier ++ [last])).2.foldl SettingsHolder.take holder).simulator,
      simulator.delay = if settings.replay.delay.nanos < minimumDelay.nanos then minimumDelay
        else settings.replay.delay) ∧
    (∀ (state : SettingsWatcher) (change : WatchNotice),
      state.mayReload env change = false → state.notice env change = (state, none)) ∧
    ∀ changes : List WatchNotice,
      watcher.run env (changes.filter (watcher.mayReload env)) = watcher.run env changes := by
  -- the watcher reaches `last` with the settings file it started with
  have sameTarget := run_target watcher env earlier
  have reloads := notice_reloads (watcher.run env earlier).1 env (sameTarget ▸ target) writes cooled
    (sameTarget ▸ loads)
  have handedOn : (watcher.run env (earlier ++ [last])).2 = (watcher.run env earlier).2 ++ [settings] := by
    rw [run_append, run_cons, reloads]
    rfl
  have current : ((watcher.run env (earlier ++ [last])).2.foldl SettingsHolder.take holder).current =
      settings := by
    rw [handedOn, List.foldl_append, List.foldl_cons, List.foldl_nil, SettingsHolder.take_current]
  refine ⟨by simp [handedOn], current, ?_, fun state _ passed => notice_passed_over state env passed,
    run_filter_mayReload watcher env⟩
  intro simulator mem
  rw [SettingsHolder.DelayInStep.takeAll inStep _ simulator mem, current]

/-- With a cooldown of an hour, a write of the settings file a second after a reload is lost,
though the file it leaves loads: the last settings handed on are the earlier ones. -/
theorem write_within_cooldown_dropped :
    (Settings.load "config.yaml" (some "exchange:\n  symbol: C\n") []).toOption.map
        (·.exchange.symbol) = some "C" ∧
    ((⟨"config.yaml", Duration.hour, Instant.zero⟩ : SettingsWatcher).run []
        [⟨Instant.ofUnixMillis 1204531200000, ⟨"config.yaml", FileOp.write⟩,
            some "exchange:\n  symbol: B\n"⟩,
          ⟨Instant.ofUnixMillis 1204531201000, ⟨"config.yaml", FileOp.write⟩,
            some "exchange:\n  symbol: C\n"⟩]).2.map (·.exchange.symbol) = ["B"] := by
  decide +kernel

/-- A watcher of `config.yaml` with a cooldown of a second that has not reloaded yet. -/
def secondWatcher : SettingsWatcher := ⟨"config.yaml", Duration.second, Instant.zero⟩

/-- A write of `config.yaml` at a Unix millisecond, leaving the given text. -/
def configWrite (millis : Int) (text : String) : WatchNotice :=
  ⟨Instant.ofUnixMillis millis, ⟨"config.yaml", FileOp.write⟩, some text⟩

/-- The owner of a watcher as a replay is built: the default settings, and a simulator at their
delay. -/
def replayHolder : SettingsHolder :=
  ⟨Settings.defaults, some ((Simulator.new ⟨"VOD.L", "exchange", ⟨Instant.zero, Instant.zero⟩⟩
    (.file "archive.csv" none "2006-01-02 15:04:05")).setDelay Settings.defaults.replay.delay)⟩

/-- Two seconds after a first reload, a write that lowers the replay delay below the least one is
handed on, and the simulator waits the least delay. -/
theorem later_write_reloads : ∃ settings : Settings,
    Settings.load "config.yaml" (configWrite 1204531202000 "exchange:\n  symbol: C\nreplay:\n  delayMs: 50\n").contents [] = .ok settings ∧
    replayHolder.DelayInStep ∧
    (secondWatcher.run [] [configWrite 1204531200000 "exchange:\n  symbol: B\n"]).1.cooling
      (configWrite 1204531202000 "exchange:\n  symbol: C\nreplay:\n  delayMs: 50\n").time = false ∧
    (secondWatcher.run [] ([configWrite 1204531200000 "exchange:\n  symbol: B\n"] ++
      [configWrite 1204531202000 "exchange:\n  symbol: C\nreplay:\n  delayMs: 50\n"])).2.getLast? =
      some settings ∧
    ((secondWatcher.run [] ([configWrite 1204531200000 "exchange:\n  symbol: B\n"] ++
      [configWrite 1204531202000 "exchange:\n  symbol: C\nreplay:\n  delayMs: 50\n"])).2.foldl
        SettingsHolder.take replayHolder).current = settings ∧
    (∀ simulator ∈ ((secondWatcher.run [] ([configWrite 1204531200000 "exchange:\n  symbol: B\n"] ++
      [configWrite 1204531202000 "exchange:\n  symbol: C\nreplay:\n  delayMs: 50\n"])).2.foldl
        SettingsHolder.take replayHolder).simulator,
      simulator.delay = if settings.replay.delay.nanos < minimumDelay.nanos then minimumDelay
        else settings.replay.delay) ∧
    (∀ (state : SettingsWatcher) (change : WatchNotice),
      state.mayReload [] change = false → state.notice [] change = (state, none)) ∧
    ∀ changes : List WatchNotice,
      secondWatcher.run [] (changes.filter (secondWatcher.mayReload [])) = secondWatcher.run [] changes := by
  have inStep : replayHolder.DelayInStep := by
    intro simulator mem
    obtain rfl := Option.mem_some_iff.mp mem
    rfl
  have cooled : (secondWatcher.run [] [configWrite 1204531200000 "exchange:\n  symbol: B\n"]).1.cooling
      (configWrite 1204531202000 "exchange:\n  symbol: C\nreplay:\n  delayMs: 50\n").time = false := by
    decide +kernel
  have loaded : (Settings.load "config.yaml" (configWrite 1204531202000
      "exchange:\n  symbol: C\nreplay:\n  delayMs: 50\n").contents []).isOk = true := by
    decide +kernel
  cases loads : Settings.load "config.yaml" (configWrite 1204531202000
      "exchange:\n  symbol: C\nreplay:\n  delayMs: 50\n").contents [] with
  | error e => simp [loads, Except.isOk, Except.toBool] at loaded
  | ok settings =>
    exact ⟨settings, rfl, inStep, cooled, last_write_reloads secondWatcher [] replayHolder _ _ settings
      inStep (by decide) (by decide) loads cooled⟩

end SettingsWatcher

end Bourse
