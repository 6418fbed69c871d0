import Mathlib
import TurboCore.Foundation.Rollover
import TurboCore.Base.LoggerShutdown

/-!
# What the log files hold

The appenders that `Init` adds, beside the logger that hands them its events, and a disk they
write to. `FileAppender` opens a file for each date and looks at the date at each `Append`; its
`std::ofstream` gives its buffer to the file whenever it likes. The file system decides at each
opening whether it can be opened, and the clock may show any time at all.
-/

namespace TurboCore.Base

open Foundation

/-- The contents of the files, by their paths; a file that is not there is empty. -/
abbrev Disk := String → List Char

namespace LogUtils

def levelToString : LogLevel → String
  | .DEBUG => "DEBUG"
  | .INFO => "INFO"
  | .WARN => "WARN"
  | .ERROR => "ERROR"
  | .FATAL => "FATAL"

end LogUtils

structure FileAppender where
  basePath : String
  currentDate : String
  ofs : OutStream String Char

namespace FileAppender

def fullPath (basePath date : String) : String := basePath ++ "." ++ date ++ ".log"

/-- `opens`: the file system can open the file. -/
def openNewLogFile (appender : FileAppender) (opens : Bool) : FileAppender :=
  { appender with ofs := .openAt (fullPath appender.basePath appender.currentDate) opens }

/-- The constructor, with the current date. -/
def new (basePath today : String) (opens : Bool) : FileAppender :=
  openNewLogFile ⟨basePath, today, .closed⟩ opens

def checkRollOver (appender : FileAppender) (disk : Disk) (today : String) (opens : Bool) :
    FileAppender × Disk :=
  if today ≠ appender.currentDate then
    let closed := appender.ofs.close disk
    (openNewLogFile { appender with ofs := closed.1, currentDate := today } opens, closed.2)
  else (appender, disk)

/-- The line of an event. -/
def logStr (event : LogEvent) : String :=
  "[" ++ event.timeStr ++ "] " ++ "[" ++ LogUtils.levelToString event.level ++ "] " ++
    event.content ++ "\n"

def append (appender : FileAppender) (disk : Disk) (event : LogEvent) (today : String)
    (opens : Bool) : FileAppender × Disk :=
  let checked := appender.checkRollOver disk today opens
  if checked.1.ofs.isOpen then
    ({ checked.1 with ofs := checked.1.ofs.write (logStr event).toList }, checked.2)
  else checked

def flush (appender : FileAppender) (disk : Disk) : FileAppender × Disk :=
  if appender.ofs.isOpen then
    let flushed := appender.ofs.flush disk
    ({ appender with ofs := flushed.1 }, flushed.2)
  else (appender, disk)

/-- `~FileAppender`. -/
def destroy (appender : FileAppender) (disk : Disk) : FileAppender × Disk :=
  let flushed := appender.flush disk
  if flushed.1.ofs.isOpen then
    let closed := flushed.1.ofs.close flushed.2
    ({ flushed.1 with ofs := closed.1 }, closed.2)
  else flushed

/-- The stream writes out the first characters of its buffer. -/
def spill (appender : FileAppender) (disk : Disk) (count : Nat) : FileAppender × Disk :=
  let spilt := appender.ofs.spill disk count
  ({ appender with ofs := spilt.1 }, spilt.2)

end FileAppender

/-- The base path of an appender that writes to files. -/
def Appender.basePath? : Appender → Option String
  | file basePath | errorFile basePath => some basePath
  | console | added _ => none

/-- The events that go on to `FileAppender::Append`: `ErrorFileAppender` drops the others. -/
def Appender.accepts : Appender → LogEvent → Bool
  | errorFile _, event => decide (LogLevel.ERROR.value ≤ event.level.value)
  | _, _ => true

/-- The base path of the file appender at a place, if there is one. -/
def basePathAt (appenders : List Appender) (slot : Nat) : Option String :=
  appenders[slot]?.bind Appender.basePath?

/-- The logger, the objects behind its file appenders, and the disk. -/
structure LogFiles where
  run : LoggerRun
  disk : Disk
  /-- the object behind each place of `m_appenders` that holds a file appender -/
  files : Nat → FileAppender
  /-- the calls of `FileAppender::Append` on it, in order -/
  written : Nat → List (Keyed String Char)

namespace LogFiles

/-- The object at one place has changed, and with it the disk. -/
@[simps] def setFile (state : LogFiles) (slot : Nat) (changed : FileAppender × Disk) : LogFiles :=
  { state with
    files := fun other => if other = slot then changed.1 else state.files other
    disk := changed.2 }

/-- `appender->Append(event)` for the appender at this place. -/
def appendTo (state : LogFiles) (slot : Nat) (event : LogEvent) (today : String) (opens : Bool) :
    LogFiles :=
  match state.run.appenders[slot]? with
  | none => state
  | some appender =>
      if appender.basePath?.isSome ∧ appender.accepts event then
        { state.setFile slot ((state.files slot).append state.disk event today opens) with
          written := fun other =>
            if other = slot then
              state.written slot ++ [⟨today, opens, (FileAppender.logStr event).toList⟩]
            else state.written other }
      else state

/-- What is done with each object behind a place of `m_appenders` that holds a file appender. -/
def forEachFile (state : LogFiles) (action : FileAppender → Disk → FileAppender × Disk) :
    LogFiles :=
  (List.range state.run.appenders.length).foldl
    (fun next slot =>
      if (basePathAt state.run.appenders slot).isSome then
        next.setFile slot (action (next.files slot) next.disk)
      else next)
    state

/-- What a step of the logger does to the files. -/
def effect (putDate : Int → String) (state : LogFiles) (now : Int) (opens : Bool) :
    LoggerEvent → LogFiles
  | .logLoop =>
      match state.run.logLoopPc with
      | .append event next => state.appendTo next event (putDate now) opens
      | .flush => state.forEachFile FileAppender.flush
      | _ => state
  | .shutdown =>
      match state.run.shutdownPc with
      | .join => state.forEachFile FileAppender.flush
      | .discard => state.forEachFile FileAppender.destroy
      | _ => state
  | _ => state

/-- The files of the appenders that `Init` finds and adds; `created` is when each object was
constructed, and whether its file could be opened. -/
def init (putDate : Int → String) (added : List Appender) (minLevel : LogLevel)
    (logBasePath : String) (disk : Disk) (created : Nat → Int × Bool) : LogFiles where
  run := .init added minLevel logBasePath
  disk := disk
  files slot :=
    match basePathAt (LoggerRun.initialAppenders added logBasePath) slot with
    | some basePath => .new basePath (putDate (created slot).1) (created slot).2
    | none => ⟨"", "", .closed⟩
  written _ := []

end LogFiles

inductive LogFilesEvent where
  /-- a step of the logger, at the time `now`; `opens` is what becomes of an opening -/
  | logger (event : LoggerEvent) (now : Int) (opens : Bool)
  | spill (slot count : Nat)

/-- The logger with its files; `putDate` stands for `Log_utils::GetCurrentDate`. -/
def logFiles (putTime putDate : Int → String) : Machine LogFiles LogFilesEvent where
  step state
    | .logger event now opens =>
        (state.run.step putTime event).map fun next =>
          { state.effect putDate now opens event with run := next }
    | .spill slot count => some (state.setFile slot ((state.files slot).spill state.disk count))

/-- The file as its object opened it first, without a line. -/
def LogFiles.opening (putDate : Int → String) (created : Nat → Int × Bool) (slot : Nat) :
    Keyed String Char :=
  ⟨putDate (created slot).1, (created slot).2, []⟩

/-- No two objects ever write to one file. -/
def Apart (putDate : Int → String) (appenders : List Appender) : Prop :=
  ∀ slot other basePath otherPath, slot ≠ other → basePathAt appenders slot = some basePath →
    basePathAt appenders other = some otherPath → ∀ now later,
      FileAppender.fullPath basePath (putDate now) ≠
        FileAppender.fullPath otherPath (putDate later)

namespace FileAppender

theorem fullPath_inj {basePath first second : String} :
    fullPath basePath first = fullPath basePath second ↔ first = second := by
  simp [fullPath, ← String.toList_inj]

/-- The date, and whether the stream is open, are those of the last of the calls. -/
structure Current (file : FileAppender) (writes : List (Keyed String Char)) : Prop where
  date : ∃ last, writes.getLast? = some last ∧ last.key = file.currentDate
  target : file.ofs.target =
    if Keyed.lastOpened writes then some (fullPath file.basePath file.currentDate) else none

/-- What `Append` does: it opens the file of the date if it has to, and writes to it if it
can. -/
structure Appended (file : FileAppender) (disk : Disk) (write : Keyed String Char)
    (able : Bool) (after : FileAppender × Disk) : Prop where
  basePath : after.1.basePath = file.basePath
  date : after.1.currentDate = write.key
  target : after.1.ofs.target = if able then some (fullPath file.basePath write.key) else none
  shown : after.1.ofs.visible after.2 =
    appendAt (file.ofs.visible disk) after.1.ofs.target write.items
  disk : ∃ items, after.2 = appendAt disk file.ofs.target items

theorem append_spec {file : FileAppender} {writes : List (Keyed String Char)}
    (current : Current file writes) (disk : Disk) (event : LogEvent) (today : String)
    (opens : Bool) :
    Appended file disk ⟨today, opens, (logStr event).toList⟩
      (Keyed.opensFor writes ⟨today, opens, (logStr event).toList⟩)
      (file.append disk event today opens) := by
  obtain ⟨last, ends, date⟩ := current.date
  by_cases same : today = file.currentDate
  · have able : Keyed.opensFor writes ⟨today, opens, (logStr event).toList⟩ =
        Keyed.lastOpened writes := by
      simp [Keyed.opensFor, ends, date, same]
    have target := current.target
    cases opened : Keyed.lastOpened writes with
    | false =>
        simp only [opened, Bool.false_eq_true, if_false] at target
        have kept : file.append disk event today opens = (file, disk) := by
          simp [append, checkRollOver, same, OutStream.isOpen, target]
        rw [kept]
        exact ⟨rfl, same.symm, by simp [target, able, opened], by simp [target], [], by simp⟩
    | true =>
        simp only [opened, if_true] at target
        have kept : file.append disk event today opens =
            ({ file with ofs := file.ofs.write (logStr event).toList }, disk) := by
          simp [append, checkRollOver, same, OutStream.isOpen, target]
        rw [kept]
        exact ⟨rfl, same.symm, by rw [able, opened]; simp [OutStream.write, target, same],
          OutStream.visible_write _ _, [], by simp⟩
  · have able : Keyed.opensFor writes ⟨today, opens, (logStr event).toList⟩ = opens := by
      have other : ¬ file.currentDate = today := fun still => same still.symm
      simp [Keyed.opensFor, ends, date, other]
    have rolled : file.checkRollOver disk today opens =
        (⟨file.basePath, today, .openAt (fullPath file.basePath today) opens⟩,
          file.ofs.visible disk) := by
      simp [checkRollOver, same, openNewLogFile, OutStream.close, OutStream.visible]
    cases opens with
    | false =>
        have closed : file.append disk event today false =
            (⟨file.basePath, today, .openAt (fullPath file.basePath today) false⟩,
              file.ofs.visible disk) := by
          simp [append, rolled, OutStream.isOpen, OutStream.openAt]
        rw [closed]
        exact ⟨rfl, rfl, by simp [OutStream.openAt, able], by simp [OutStream.openAt,
          OutStream.visible], file.ofs.pending, rfl⟩
    | true =>
        have opened : file.append disk event today true =
            (⟨file.basePath, today,
              (OutStream.openAt (fullPath file.basePath today) true).write (logStr event).toList⟩,
              file.ofs.visible disk) := by
          simp [append, rolled, OutStream.isOpen, OutStream.openAt]
        rw [opened]
        exact ⟨rfl, rfl, by simp [OutStream.openAt, OutStream.write, able],
          by simp [OutStream.visible_write]; rfl, file.ofs.pending, rfl⟩

end FileAppender

/-- An object, and what is on the disk and in its buffer, are those of its calls so far. -/
structure Filed (putDate : Int → String) (before : Disk) (basePath : String)
    (writes : List (Keyed String Char)) (file : FileAppender) (disk : Disk) : Prop where
  base : file.basePath = basePath
  dated : ∃ now, file.currentDate = putDate now
  target : ∀ path, file.ofs.target = some path →
    path = FileAppender.fullPath basePath file.currentDate
  shown : ∀ now, file.ofs.visible disk (FileAppender.fullPath basePath (putDate now)) =
    before (FileAppender.fullPath basePath (putDate now)) ++ Keyed.contents writes (putDate now)

namespace Filed

variable {putDate : Int → String} {before disk other : Disk} {basePath : String}
  {writes : List (Keyed String Char)} {file after : FileAppender}

/-- The files of other objects do not matter. -/
theorem of_disk (filed : Filed putDate before basePath writes file disk)
    (same : ∀ now, other (FileAppender.fullPath basePath (putDate now)) =
      disk (FileAppender.fullPath basePath (putDate now))) :
    Filed putDate before basePath writes file other where
  base := filed.base
  dated := filed.dated
  target := filed.target
  shown now := by
    rw [file.ofs.visible_congr (same now)]
    exact filed.shown now

/-- The object writes out what it has in its buffer, or closes its file. -/
theorem of_visible (filed : Filed putDate before basePath writes file disk)
    (path : after.basePath = file.basePath) (date : after.currentDate = file.currentDate)
    (target : ∀ path, after.ofs.target = some path → file.ofs.target = some path)
    (same : after.ofs.visible other = file.ofs.visible disk) :
    Filed putDate before basePath writes after other where
  base := path.trans filed.base
  dated := date ▸ filed.dated
  target opened here := date ▸ filed.target opened (target opened here)
  shown now := by
    rw [same]
    exact filed.shown now

theorem append (filed : Filed putDate before basePath writes file disk)
    (current : file.Current writes) (event : LogEvent) (now : Int) (opens : Bool) :
    Filed putDate before basePath
      (writes ++ [⟨putDate now, opens, (FileAppender.logStr event).toList⟩])
      (file.append disk event (putDate now) opens).1
      (file.append disk event (putDate now) opens).2 := by
  have spec := FileAppender.append_spec current disk event (putDate now) opens
  have target := spec.target
  rw [filed.base] at target
  refine ⟨spec.basePath.trans filed.base, ⟨now, spec.date⟩, fun path opened => ?_,
    fun later => ?_⟩
  · rw [target] at opened
    split at opened
    · exact (Option.some.inj opened).symm.trans (congrArg _ spec.date.symm)
    · cases opened
  · rw [spec.shown, target, Keyed.contents_concat, ← List.append_assoc, ← filed.shown later]
    generalize Keyed.opensFor writes _ = able
    cases able with
    | false => simp
    | true => by_cases same : putDate now = putDate later <;>
        simp [appendAt, same, FileAppender.fullPath_inj]

end Filed

namespace FileAppender

/-- After `Append` the last call is the one that has been made. -/
theorem Current.append {file : FileAppender} {writes : List (Keyed String Char)}
    (current : Current file writes) (disk : Disk) (event : LogEvent) (today : String)
    (opens : Bool) :
    Current (file.append disk event today opens).1
      (writes ++ [⟨today, opens, (logStr event).toList⟩]) := by
  have spec := append_spec current disk event today opens
  refine ⟨⟨_, List.getLast?_concat, spec.date.symm⟩, ?_⟩
  rw [spec.target, Keyed.lastOpened_concat, spec.basePath, spec.date]

/-- Writing out the buffer changes neither. -/
theorem Current.of_target {file after : FileAppender} {writes : List (Keyed String Char)}
    (current : Current file writes) (path : after.basePath = file.basePath)
    (date : after.currentDate = file.currentDate)
    (target : after.ofs.target = file.ofs.target) : Current after writes where
  date := date ▸ current.date
  target := by
    rw [target, path, date]
    exact current.target

/-- What an action on an object may do that writes nothing new. -/
structure WritesOut (file : FileAppender) (disk : Disk) (after : FileAppender × Disk) : Prop where
  basePath : after.1.basePath = file.basePath
  date : after.1.currentDate = file.currentDate
  target : after.1.ofs.target = file.ofs.target ∨ after.1.ofs.target = none
  shown : after.1.ofs.visible after.2 = file.ofs.visible disk
  disk : ∃ items, after.2 = appendAt disk file.ofs.target items

theorem writesOut_spill (file : FileAppender) (disk : Disk) (count : Nat) :
    WritesOut file disk (file.spill disk count) :=
  ⟨rfl, rfl, .inl rfl, file.ofs.visible_spill count, _, rfl⟩

theorem writesOut_flush (file : FileAppender) (disk : Disk) :
    WritesOut file disk (file.flush disk) := by
  unfold flush
  split
  · exact ⟨rfl, rfl, .inl rfl, file.ofs.visible_flush, _, rfl⟩
  · exact ⟨rfl, rfl, .inl rfl, rfl, [], by simp⟩

theorem writesOut_destroy (file : FileAppender) (disk : Disk) :
    WritesOut file disk (file.destroy disk) := by
  have flushed := writesOut_flush file disk
  obtain ⟨items, written⟩ := flushed.disk
  unfold destroy
  generalize file.flush disk = middle at flushed written
  simp only
  split
  · refine ⟨flushed.basePath, flushed.date, .inr rfl,
      (middle.1.ofs.visible_close).trans flushed.shown, ?_⟩
    rcases flushed.target with same | gone
    · exact ⟨items ++ middle.1.ofs.pending, by simp [OutStream.close, written, same]⟩
    · exact ⟨items, by simp [OutStream.close, written, gone]⟩
  · exact flushed

end FileAppender

/-- The buffer is empty, or there is no file it could be written to. -/
def FileAppender.Dry (file : FileAppender) : Prop :=
  file.ofs.pending = [] ∨ file.ofs.target = none

/-- The files are those of the calls of their objects, and the objects have been handed all that
their appenders have; they are as their last call left them while they are `alive`. -/
structure Logged (putDate : Int → String) (before : Disk) (appenders : List Appender)
    (created : Nat → Int × Bool) (alive : Prop) (state : LogFiles) : Prop where
  filed : ∀ slot basePath, basePathAt appenders slot = some basePath →
    Filed putDate before basePath (LogFiles.opening putDate created slot :: state.written slot)
      (state.files slot) state.disk
  empty : ∀ slot, basePathAt appenders slot = none → (state.files slot).ofs.target = none
  handed : ∀ slot appender, appenders[slot]? = some appender → appender.basePath?.isSome = true →
    (state.written slot).map Keyed.items =
      ((state.run.received slot).filter appender.accepts).map
        fun event => (FileAppender.logStr event).toList
  still : alive → state.run.appenders = appenders
  current : alive → ∀ slot, (basePathAt appenders slot).isSome →
    (state.files slot).Current (LogFiles.opening putDate created slot :: state.written slot)
  dry : state.run.shutdownPc.hasJoined = true → ∀ slot, (basePathAt appenders slot).isSome →
    (state.files slot).Dry

namespace Logged

variable {putTime putDate : Int → String} {before : Disk} {appenders : List Appender}
  {created : Nat → Int × Bool} {alive : Prop} {state : LogFiles} {next : LoggerRun}

/-- What an object does to the disk does not show in the files of the others. -/
theorem elsewhere (apart : Apart putDate appenders)
    (logged : Logged putDate before appenders created alive state) {slot other : Nat} {disk : Disk}
    (changed : ∃ items, disk = appendAt state.disk (state.files slot).ofs.target items)
    (different : other ≠ slot) {basePath : String}
    (here : basePathAt appenders other = some basePath) (now : Int) :
    disk (FileAppender.fullPath basePath (putDate now)) =
      state.disk (FileAppender.fullPath basePath (putDate now)) := by
  obtain ⟨items, rfl⟩ := changed
  refine appendAt_of_ne (fun target => ?_) items
  cases there : basePathAt appenders slot with
  | none =>
      rw [logged.empty slot there] at target
      cases target
  | some otherPath =>
      have filed := logged.filed slot otherPath there
      obtain ⟨later, date⟩ := filed.dated
      have same := filed.target _ target
      rw [date] at same
      exact apart other slot basePath otherPath different here there now later same

/-- An object has written something out. -/
theorem setFile (apart : Apart putDate appenders)
    (logged : Logged putDate before appenders created alive state) (slot : Nat)
    {changed : FileAppender × Disk}
    (spec : (state.files slot).WritesOut state.disk changed)
    (opened : alive →
      changed.1.ofs.target = (state.files slot).ofs.target)
    (dry : (state.files slot).Dry → changed.1.Dry) :
    Logged putDate before appenders created alive (state.setFile slot changed) where
  filed other basePath here := by
    simp only [LogFiles.setFile_files, LogFiles.setFile_written]
    by_cases same : other = slot
    · subst same
      rw [if_pos rfl]
      refine (logged.filed other basePath here).of_visible spec.basePath spec.date
        (fun path target => ?_) spec.shown
      rcases spec.target with kept | gone
      · exact kept.symm.trans target
      · cases gone.symm.trans target
    · rw [if_neg same]
      exact (logged.filed other basePath here).of_disk fun now =>
        logged.elsewhere apart spec.disk same here now
  empty other here := by
    simp only [LogFiles.setFile_files]
    split
    · next same =>
        subst same
        rcases spec.target with kept | gone
        · exact kept.trans (logged.empty other here)
        · exact gone
    · exact logged.empty other here
  handed := logged.handed
  still := logged.still
  current active other here := by
    simp only [LogFiles.setFile_files]
    split
    · next same =>
        subst same
        exact (logged.current active other here).of_target spec.basePath spec.date (opened active)
    · exact logged.current active other here
  dry joined other here := by
    simp only [LogFiles.setFile_files]
    split
    · next same =>
        subst same
        exact dry (logged.dry joined other here)
    · exact logged.dry joined other here

/-- A step of the logger that does not concern the files. -/
theorem quiet (logged : Logged putDate before appenders created alive state)
    (kept : next.appenders = state.run.appenders) (received : next.received = state.run.received)
    (joined : next.shutdownPc.hasJoined = true → state.run.shutdownPc.hasJoined = true) :
    Logged putDate before appenders created alive { state with run := next } where
  filed := logged.filed
  empty := logged.empty
  handed slot appender here file := by
    rw [received]
    exact logged.handed slot appender here file
  still active := kept.trans (logged.still active)
  current := logged.current
  dry now := logged.dry (joined now)

theorem weaken {fewer : Prop} (logged : Logged putDate before appenders created alive state)
    (implies : fewer → alive) : Logged putDate before appenders created fewer state :=
  ⟨logged.filed, logged.empty, logged.handed, fun active => logged.still (implies active),
    fun active => logged.current (implies active), logged.dry⟩

/-- Every file appender in turn writes out what it has. -/
theorem forEachFile (apart : Apart putDate appenders)
    (logged : Logged putDate before appenders created alive state)
    {action : FileAppender → Disk → FileAppender × Disk}
    (spec : ∀ (file : FileAppender) disk, file.WritesOut disk (action file disk))
    (opened : alive →
      ∀ file disk, (action file disk).1.ofs.target = file.ofs.target)
    (dries : ∀ file disk, (action file disk).1.Dry) :
    Logged putDate before appenders created alive (state.forEachFile action) ∧
      (state.forEachFile action).run = state.run ∧
      ∀ slot, (basePathAt state.run.appenders slot).isSome →
        ((state.forEachFile action).files slot).Dry := by
  suffices ∀ count, ∃ folded : LogFiles,
      (List.range count).foldl
        (fun next slot =>
          if (basePathAt state.run.appenders slot).isSome then
            next.setFile slot (action (next.files slot) next.disk)
          else next) state = folded ∧
      Logged putDate before appenders created alive folded ∧ folded.run = state.run ∧
      ∀ slot < count, (basePathAt state.run.appenders slot).isSome → (folded.files slot).Dry by
    obtain ⟨folded, result, kept, run, dry⟩ := this state.run.appenders.length
    rw [LogFiles.forEachFile, result]
    refine ⟨kept, run, fun slot here => dry slot ?_ here⟩
    by_contra outside
    simp [basePathAt, List.getElem?_eq_none (Nat.le_of_not_lt outside)] at here
  intro count
  induction count with
  | zero => exact ⟨state, rfl, logged, rfl, fun slot inside => by omega⟩
  | succ count inductionHypothesis =>
      obtain ⟨folded, result, kept, run, dry⟩ := inductionHypothesis
      rw [List.range_succ, List.foldl_append, result, List.foldl_cons, List.foldl_nil]
      refine ⟨_, rfl, ?_⟩
      split
      · refine ⟨kept.setFile apart count (spec _ _) (fun active => opened active _ _)
          fun _ => dries _ _, run, fun slot inside here => ?_⟩
        simp only [LogFiles.setFile_files]
        split
        · exact dries _ _
        · exact dry slot (by omega) here
      · next none =>
          refine ⟨kept, run, fun slot inside here => ?_⟩
          have different : slot ≠ count := by
            rintro rfl
            exact none here
          exact dry slot (by omega) here

theorem dry_flush (file : FileAppender) (disk : Disk) : (file.flush disk).1.Dry := by
  unfold FileAppender.flush
  split
  · exact .inl rfl
  · next closed => exact .inr (by simpa [OutStream.isOpen] using closed)

theorem dry_destroy (file : FileAppender) (disk : Disk) : (file.destroy disk).1.Dry := by
  have flushed := dry_flush file disk
  unfold FileAppender.destroy
  simp only
  split
  · exact .inl rfl
  · exact flushed

theorem target_flush (file : FileAppender) (disk : Disk) :
    (file.flush disk).1.ofs.target = file.ofs.target := by
  unfold FileAppender.flush
  split <;> rfl

/-- A file appender is handed an event that it accepts. -/
theorem handAccepted (apart : Apart putDate appenders)
    (logged : Logged putDate before appenders created alive state)
    (active : alive) (unjoined : state.run.shutdownPc.hasJoined = false) {slot : Nat}
    {appender : Appender} (here : appenders[slot]? = some appender)
    (isFile : appender.basePath?.isSome = true) {event : LogEvent}
    (accepts : appender.accepts event = true) (now : Int) (opens : Bool) (pc : LogLoopPc) :
    Logged putDate before appenders created alive
      { state.appendTo slot event (putDate now) opens with
        run := { state.run.handTo slot event with logLoopPc := pc } } := by
  have known := logged.still active
  obtain ⟨basePath, base⟩ := Option.isSome_iff_exists.mp isFile
  have isPath : basePathAt appenders slot = some basePath := by simp [basePathAt, here, base]
  have current := logged.current active slot (by simp [isPath])
  have spec := FileAppender.append_spec current state.disk event (putDate now) opens
  have effect : state.appendTo slot event (putDate now) opens =
      { state.setFile slot ((state.files slot).append state.disk event (putDate now) opens) with
        written := fun other =>
          if other = slot then
            state.written slot ++ [⟨putDate now, opens, (FileAppender.logStr event).toList⟩]
          else state.written other } := by
    simp [LogFiles.appendTo, known, here, isFile, accepts]
  rw [effect]
  refine ⟨fun other path there => ?_, fun other none => ?_, fun other found there file => ?_,
    fun _ => known, fun _ other there => ?_, fun joined => ?_⟩
  · simp only [LogFiles.setFile_files]
    by_cases same : other = slot
    · subst same
      rw [if_pos rfl, if_pos rfl]
      exact (logged.filed other path there).append current event now opens
    · rw [if_neg same, if_neg same]
      exact (logged.filed other path there).of_disk fun later =>
        logged.elsewhere apart spec.disk same there later
  · have different : other ≠ slot := by
      rintro rfl
      cases isPath.symm.trans none
    simp only [LogFiles.setFile_files, if_neg different]
    exact logged.empty other none
  · simp only [LoggerRun.handTo]
    by_cases same : other = slot
    · subst same
      rw [here, Option.some.injEq] at there
      subst there
      simp [logged.handed other appender here file, accepts]
    · simp only [if_neg same]
      exact logged.handed other found there file
  · simp only [LogFiles.setFile_files]
    by_cases same : other = slot
    · subst same
      rw [if_pos rfl, if_pos rfl]
      exact current.append state.disk event (putDate now) opens
    · rw [if_neg same, if_neg same]
      exact logged.current active other there
  · exact absurd joined (by simp [LoggerRun.handTo, unjoined])

/-- The console, or an appender that does not accept the event, leaves the files as they are. -/
theorem handDropped (logged : Logged putDate before appenders created alive state)
    (active : alive) (unjoined : state.run.shutdownPc.hasJoined = false) {slot : Nat}
    {appender : Appender} (here : appenders[slot]? = some appender) {event : LogEvent}
    (drops : ¬ (appender.basePath?.isSome = true ∧ appender.accepts event = true)) (now : Int)
    (opens : Bool) (pc : LogLoopPc) :
    Logged putDate before appenders created alive
      { state.appendTo slot event (putDate now) opens with
        run := { state.run.handTo slot event with logLoopPc := pc } } := by
  have known := logged.still active
  have effect : state.appendTo slot event (putDate now) opens = state := by
    simp [LogFiles.appendTo, known, here, drops]
  rw [effect]
  refine ⟨logged.filed, logged.empty, fun other found there file => ?_, fun _ => known,
    fun _ => logged.current active, fun joined => ?_⟩
  · simp only [LoggerRun.handTo]
    by_cases same : other = slot
    · subst same
      rw [here, Option.some.injEq] at there
      subst there
      have dropped : appender.accepts event = false :=
        Bool.eq_false_of_not_eq_true fun accepts => drops ⟨file, accepts⟩
      simp [logged.handed other appender here file, dropped]
    · simp only [if_neg same]
      exact logged.handed other found there file
  · exact absurd joined (by simp [LoggerRun.handTo, unjoined])

/-- The log thread hands an event to the appender at one place. -/
theorem hand (apart : Apart putDate appenders)
    (logged : Logged putDate before appenders created alive state)
    (active : alive) (unjoined : state.run.shutdownPc.hasJoined = false)
    {slot : Nat} (inside : slot < state.run.appenders.length) (event : LogEvent) (now : Int)
    (opens : Bool) (pc : LogLoopPc) :
    Logged putDate before appenders created alive
      { state.appendTo slot event (putDate now) opens with
        run := { state.run.handTo slot event with logLoopPc := pc } } := by
  obtain ⟨appender, here⟩ : ∃ appender, appenders[slot]? = some appender :=
    ⟨_, List.getElem?_eq_getElem (logged.still active ▸ inside)⟩
  by_cases passes : appender.basePath?.isSome = true ∧ appender.accepts event = true
  · exact logged.handAccepted apart active unjoined here passes.1 passes.2 now opens pc
  · exact logged.handDropped active unjoined here passes now opens pc

/-- A step of the log thread. -/
theorem logLoop (apart : Apart putDate appenders)
    (ledger : LoggerRun.Ledger appenders.length state.run)
    (logged : Logged putDate before appenders created alive state)
    (lives : state.run.logLoopPc ≠ .exited → alive) (now : Int) (opens : Bool)
    (step : LoggerRun.LogLoopStep state.run next) :
    Logged putDate before appenders created alive
      { state.effect putDate now opens .logLoop with run := next } := by
  cases step with
  | hand event slot position inside =>
      have unexited : state.run.logLoopPc ≠ .exited := by simp [position]
      have unjoined : state.run.shutdownPc.hasJoined = false :=
        Bool.eq_false_of_not_eq_true fun joined => unexited (ledger.joined joined)
      have effect : state.effect putDate now opens .logLoop =
          state.appendTo slot event (putDate now) opens := by
        simp [LogFiles.effect, position]
      rw [effect]
      exact logged.hand apart (lives unexited) unjoined inside event now opens _
  | flushed position =>
      have effect : state.effect putDate now opens .logLoop =
          state.forEachFile FileAppender.flush := by
        simp [LogFiles.effect, position]
      rw [effect]
      obtain ⟨written, run, _⟩ := logged.forEachFile apart FileAppender.writesOut_flush
        (fun _ => target_flush) dry_flush
      exact written.quiet (by rw [run]) (by rw [run]) fun joined => by rwa [run]
  | handed event slot position outside =>
      have effect : state.effect putDate now opens .logLoop = state := by
        simp [LogFiles.effect, position, LogFiles.appendTo, List.getElem?_eq_none outside]
      rw [effect]
      exact logged.quiet rfl rfl id
  | lock position _ =>
      have effect : state.effect putDate now opens .logLoop = state := by
        rcases position with position | position <;> simp [LogFiles.effect, position]
      rw [effect]
      exact logged.quiet rfl rfl id
  | enterLoop position _ | leaveLoop position _ | ready position | idle position | sleep position
  | drained position _ | take _ _ position _ | relock position _ | leave position _
  | again position _ =>
      have effect : state.effect putDate now opens .logLoop = state := by
        simp [LogFiles.effect, position]
      rw [effect]
      exact logged.quiet rfl rfl id

/-- A step of `Shutdown`. -/
theorem shutdown (apart : Apart putDate appenders)
    (logged : Logged putDate before appenders created True state) (now : Int) (opens : Bool)
    (transition : state.run.shutdownStep = some next) :
    Logged putDate before appenders created (next.shutdownPc ≠ .returned)
      { state.effect putDate now opens .shutdown with run := next } := by
  cases LoggerRun.shutdownStep_cases transition with
  | call position => simp [LoggerRun.shutdownStep, position] at transition
  | store position | notify position =>
      have effect : state.effect putDate now opens .shutdown = state := by
        simp [LogFiles.effect, position]
      rw [effect]
      refine weaken (logged.quiet rfl rfl fun joined => ?_) fun _ => trivial
      cases joined
  | lock position free =>
      have effect : state.effect putDate now opens .shutdown = state := by
        simp [LogFiles.effect, position]
      rw [effect]
      refine weaken (logged.quiet rfl rfl fun _ => ?_) fun _ => trivial
      rw [position]
      rfl
  | join position exited =>
      have effect : state.effect putDate now opens .shutdown =
          state.forEachFile FileAppender.flush := by
        simp [LogFiles.effect, position]
      rw [effect]
      obtain ⟨written, run, dry⟩ := logged.forEachFile apart FileAppender.writesOut_flush
        (fun _ => target_flush) dry_flush
      have still := logged.still trivial
      rw [still] at dry
      exact ⟨written.filed, written.empty, run ▸ written.handed, fun _ => still,
        fun _ => written.current trivial, fun _ => dry⟩
  | discard position =>
      have effect : state.effect putDate now opens .shutdown =
          state.forEachFile FileAppender.destroy := by
        simp [LogFiles.effect, position]
      rw [effect]
      have silent : Logged putDate before appenders created False state := logged.weaken False.elim
      obtain ⟨written, run, _⟩ := silent.forEachFile apart FileAppender.writesOut_destroy
        False.elim dry_destroy
      refine ⟨written.filed, written.empty, run ▸ written.handed, fun active => absurd rfl active,
        fun active => absurd rfl active, fun _ => written.dry ?_⟩
      rw [run, position]
      rfl

/-- A step of the logger with its files. -/
theorem step {event : LogFilesEvent} {after : LogFiles} (apart : Apart putDate appenders)
    (ledger : LoggerRun.Ledger appenders.length state.run)
    (logged : Logged putDate before appenders created (state.run.shutdownPc ≠ .returned) state)
    (transition : (logFiles putTime putDate).step state event = some after) :
    LoggerRun.Ledger appenders.length after.run ∧
      Logged putDate before appenders created (after.run.shutdownPc ≠ .returned) after := by
  cases event with
  | spill slot count =>
      cases transition
      exact ⟨ledger, logged.setFile apart slot (FileAppender.writesOut_spill _ _ _) (fun _ => rfl)
        fun dry => dry.imp (fun empty => by
          simp [FileAppender.spill, OutStream.spill, empty]) id⟩
  | logger event now opens =>
      simp only [logFiles, Option.map_eq_some_iff] at transition
      obtain ⟨next, moved, rfl⟩ := transition
      have step : LoggerRun.LoggerStep state.run event next :=
        @LoggerRun.step_cases putTime _ _ _ moved
      refine ⟨ledger.step step, ?_⟩
      cases event with
      | logLoop =>
          have steps := LoggerRun.logLoopStep_cases moved
          have same : next.shutdownPc = state.run.shutdownPc := by cases steps <;> rfl
          rw [show (next.shutdownPc ≠ .returned) = (state.run.shutdownPc ≠ .returned) by rw [same]]
          exact logged.logLoop apart ledger ledger.not_returned now opens steps
      | shutdown =>
          have active : state.run.shutdownPc ≠ .returned := by
            intro returned
            simp [LoggerRun.step, LoggerRun.shutdownStep, returned] at moved
          exact (logged.weaken fun _ => active).shutdown apart now opens moved
      | callShutdown =>
          simp only [LoggerRun.step, Option.ite_none_right_eq_some, Option.some.injEq] at moved
          obtain ⟨position, rfl⟩ := moved
          refine weaken (logged.quiet rfl rfl fun joined => ?_) fun _ => by simp [position]
          cases joined
      | spurious =>
          simp only [LoggerRun.step, Option.ite_none_right_eq_some, Option.some.injEq] at moved
          obtain ⟨_, rfl⟩ := moved
          exact logged.quiet rfl rfl id
      | write writer call =>
          simp only [LoggerRun.step, Option.ite_none_right_eq_some, Option.some.injEq] at moved
          obtain ⟨_, rfl⟩ := moved
          exact logged.quiet rfl rfl id
      | writer writer time =>
          cases LoggerRun.writerStep_cases moved <;> exact logged.quiet rfl rfl id

/-- The objects as they were constructed. -/
theorem init (putDate : Int → String) (added : List Appender) (minLevel : LogLevel)
    (logBasePath : String) (disk : Disk) (created : Nat → Int × Bool) :
    Logged putDate disk (LoggerRun.initialAppenders added logBasePath) created
      ((LogFiles.init putDate added minLevel logBasePath disk created).run.shutdownPc ≠ .returned)
      (LogFiles.init putDate added minLevel logBasePath disk created) where
  filed slot basePath here := by
    have object : (LogFiles.init putDate added minLevel logBasePath disk created).files slot =
        .new basePath (putDate (created slot).1) (created slot).2 := by
      simp [LogFiles.init, here]
    rw [object]
    refine ⟨rfl, ⟨_, rfl⟩, fun path opened => ?_, fun now => ?_⟩
    · simp only [FileAppender.new, FileAppender.openNewLogFile, OutStream.openAt] at opened
      split at opened
      · exact (Option.some.inj opened).symm
      · cases opened
    · have nothing : Keyed.contents [LogFiles.opening putDate created slot] (putDate now) = [] := by
        rw [← List.nil_append [LogFiles.opening putDate created slot], Keyed.contents_concat]
        simp only [LogFiles.opening, Keyed.contents, Keyed.kept, Keyed.stretches,
          List.splitBy_nil, List.filter_nil, List.flatten_nil, List.flatMap_nil, List.nil_append]
        exact ite_self _
      simp [LogFiles.init, nothing, FileAppender.new, FileAppender.openNewLogFile]
  empty slot none := by simp [LogFiles.init, none, OutStream.closed]
  handed slot appender here file := rfl
  still _ := rfl
  current _ slot here := by
    obtain ⟨basePath, base⟩ := Option.isSome_iff_exists.mp here
    have object : (LogFiles.init putDate added minLevel logBasePath disk created).files slot =
        .new basePath (putDate (created slot).1) (created slot).2 := by
      simp [LogFiles.init, base]
    rw [object]
    refine ⟨⟨_, rfl, rfl⟩, ?_⟩
    have first : Keyed.lastOpened [LogFiles.opening putDate created slot] = (created slot).2 := by
      rw [← List.nil_append [LogFiles.opening putDate created slot], Keyed.lastOpened_concat]
      simp [Keyed.opensFor, LogFiles.opening]
    simp only [LogFiles.init, first]
    rfl
  dry joined := by cases joined

end Logged

/-- The two files that `Init` opens of itself never meet, whatever the date, if no date begins
like the rest of the longer name. -/
theorem apart_default {putDate : Int → String} (added : List Appender) (logBasePath : String)
    (plain : ∀ appender ∈ added, appender.basePath? = none)
    (dates : ∀ now, ¬ "error.".toList <+: (putDate now).toList) :
    Apart putDate (LoggerRun.initialAppenders added logBasePath) := by
  have places (slot : Nat) (basePath : String)
      (here : basePathAt (LoggerRun.initialAppenders added logBasePath) slot = some basePath) :
      slot = added.length + 1 ∧ basePath = logBasePath ++ "/tcframe" ∨
        slot = added.length + 2 ∧ basePath = logBasePath ++ "/tcframe.error" := by
    rw [basePathAt, LoggerRun.initialAppenders, List.getElem?_append] at here
    split at here
    · next inside =>
        rw [List.getElem?_eq_getElem inside, Option.bind_some,
          plain _ (List.getElem_mem inside)] at here
        cases here
    · next outside =>
        obtain ⟨place, rfl⟩ := Nat.exists_eq_add_of_le (Nat.le_of_not_lt outside)
        rw [Nat.add_sub_cancel_left] at here
        rcases place with _ | _ | _ | place
        · simp [Appender.basePath?] at here
        · exact .inl ⟨rfl, by simpa [Appender.basePath?] using here.symm⟩
        · exact .inr ⟨rfl, by simpa [Appender.basePath?] using here.symm⟩
        · simp at here
  have differ (now later : Int) :
      FileAppender.fullPath (logBasePath ++ "/tcframe") (putDate now) ≠
        FileAppender.fullPath (logBasePath ++ "/tcframe.error") (putDate later) := by
    intro same
    have tails : (putDate now).toList ++ ".log".toList =
        "error.".toList ++ ((putDate later).toList ++ ".log".toList) := by
      simpa [FileAppender.fullPath, ← String.toList_inj] using same
    rcases List.append_eq_append_iff.mp tails with ⟨rest, long, short⟩ | ⟨rest, long, _⟩
    · have lengths := congrArg List.length short
      simp only [List.length_append] at lengths
      have none : rest = [] := List.eq_nil_of_length_eq_zero (by omega)
      exact dates now ⟨[], by simpa [none] using long⟩
    · exact dates now ⟨rest, long.symm⟩
  intro slot other basePath otherPath different here there now later
  rcases places slot basePath here with ⟨at_, rfl⟩ | ⟨at_, rfl⟩ <;>
    rcases places other otherPath there with ⟨at', rfl⟩ | ⟨at', rfl⟩
  · exact absurd (at_.trans at'.symm) different
  · exact differ now later
  · exact (differ later now).symm
  · exact absurd (at_.trans at'.symm) different

/-- In every run of the logger with its files, of which no two are one file, whatever the
clock shows and the file system refuses: once the log thread has been joined, each file object
has been handed the events that its appender accepts of those that were taken from the queue,
in their order, and the file of each date holds, after what it held before, the lines of that
date whose file was open: all of them where every opening succeeded. -/
theorem files_hold_the_log (putTime putDate : Int → String) (added : List Appender)
    (minLevel : LogLevel) (logBasePath : String) (disk : Disk) (created : Nat → Int × Bool)
    {events : List LogFilesEvent} {state : LogFiles}
    (executed : (logFiles putTime putDate).AnyRun
      (.init putDate added minLevel logBasePath disk created) events state)
    (apart : Apart putDate (LoggerRun.initialAppenders added logBasePath))
    (joined : state.run.shutdownPc.hasJoined = true) {slot : Nat} {appender : Appender}
    {basePath : String}
    (here : (LoggerRun.initialAppenders added logBasePath)[slot]? = some appender)
    (base : appender.basePath? = some basePath) :
    (state.written slot).map Keyed.items =
        (state.run.taken.filter appender.accepts).map
          (fun event => (FileAppender.logStr event).toList) ∧
      (∀ now, state.disk (FileAppender.fullPath basePath (putDate now)) =
        disk (FileAppender.fullPath basePath (putDate now)) ++
          Keyed.contents (LogFiles.opening putDate created slot :: state.written slot)
            (putDate now)) ∧
      ((∀ write ∈ LogFiles.opening putDate created slot :: state.written slot,
          write.opens = true) → ∀ now,
        Keyed.contents (LogFiles.opening putDate created slot :: state.written slot)
            (putDate now) =
          ((state.written slot).filter (·.key = putDate now)).flatMap Keyed.items) := by
  obtain ⟨ledger, logged⟩ := executed.invariant
    (fun state => LoggerRun.Ledger (LoggerRun.initialAppenders added logBasePath).length state.run ∧
      Logged putDate disk (LoggerRun.initialAppenders added logBasePath) created
        (state.run.shutdownPc ≠ .returned) state)
    ⟨.init added minLevel logBasePath,
      .init putDate added minLevel logBasePath disk created⟩
    fun _ _ _ sound _ transition => sound.2.step apart sound.1 transition
  have isFile : basePathAt (LoggerRun.initialAppenders added logBasePath) slot = some basePath := by
    simp [basePathAt, here, base]
  obtain ⟨inside, _⟩ := List.getElem?_eq_some_iff.mp here
  have received : state.run.received slot = state.run.taken := by
    have passed := ledger.passed slot inside
    rw [ledger.joined joined] at passed
    exact (List.append_nil _).symm.trans passed
  refine ⟨received ▸ logged.handed slot appender here (by simp [base]), fun now => ?_,
    fun able now => ?_⟩
  · have settled : (state.files slot).ofs.visible state.disk = state.disk := by
      rcases logged.dry joined slot (by simp [isFile]) with empty | closed
      · simp [OutStream.visible, empty]
      · simp [OutStream.visible, closed]
    rw [← settled]
    exact (logged.filed slot basePath isFile).shown now
  · rw [Keyed.contents, Keyed.kept_of_opens able, List.filter_cons]
    split
    · rfl
    · rfl

/-- The objects are constructed the day before an error is logged, whose line goes to the file of
its own day. -/
def rolledRun : List LogFilesEvent :=
  ([.write 0 (Logger.Error "disk full"), .writer 0 1700000000123, .writer 0 1700000000123,
    .writer 0 1700000000123, .writer 0 1700000000123, .writer 0 1700000000123,
    .logLoop, .logLoop, .logLoop, .logLoop, .logLoop, .logLoop, .logLoop, .logLoop, .logLoop,
    .logLoop, .logLoop, .logLoop, .logLoop, .logLoop, .logLoop, .logLoop,
    .callShutdown, .shutdown, .shutdown, .logLoop, .logLoop, .logLoop, .logLoop, .logLoop,
    .shutdown, .shutdown, .shutdown] : List LoggerEvent).map
      fun event => .logger event 1700000000123 true

/-- The date of the example: the objects are constructed at the epoch. -/
def exampleDate (now : Int) : String := if now = 0 then "1970-01-01" else "2023-11-14"

theorem error_is_in_its_file :
    ∃ state, (logFiles (fun _ => "2023-11-14 22:13:20") exampleDate).exec
        (.init exampleDate [] .DEBUG "logs" (fun _ => []) fun _ => (0, true)) rolledRun =
          some state ∧
      state.disk "logs/tcframe.error.2023-11-14.log" =
        "[2023-11-14 22:13:20.123] [ERROR] disk full\n".toList := by
  have observed : ((logFiles (fun _ => "2023-11-14 22:13:20") exampleDate).exec
      (.init exampleDate [] .DEBUG "logs" (fun _ => []) fun _ => (0, true)) rolledRun).map
        (fun state => (state.run.shutdownPc, state.written 2)) =
      some (.returned, [⟨"2023-11-14", true,
        "[2023-11-14 22:13:20.123] [ERROR] disk full\n".toList⟩]) := by
    decide +kernel
  obtain ⟨state, executed, seen⟩ := Option.map_eq_some_iff.mp observed
  simp only [Prod.mk.injEq] at seen
  obtain ⟨returned, written⟩ := seen
  have dates (now : Int) : ¬ "error.".toList <+: (exampleDate now).toList := by
    unfold exampleDate
    split <;> decide
  have apart : Apart exampleDate (LoggerRun.initialAppenders [] "logs") :=
    apart_default [] "logs" (by simp) dates
  have holds := (@files_hold_the_log _ exampleDate [] .DEBUG "logs" _ _ _ _
    (Machine.run_of_exec executed) apart (by rw [returned]; rfl) 2 _ _ rfl rfl).2.1 1
  refine ⟨state, executed, holds.trans ?_⟩
  rw [written]
  decide +kernel

end TurboCore.Base
