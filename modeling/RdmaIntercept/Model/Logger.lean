import RdmaIntercept.Library.FileTable
import RdmaIntercept.Library.Runs
import RdmaIntercept.Model.Config

/-!
# The log file

The part of `g_intercept_state` that belongs to the log file, and the calls that open,
change, write and close it, one at a time.  What the file system and the dynamic linker
answer comes with each call.  A result `false` stands for the return value `-1`.  The file
is never `stdout`: every value but `NULL` has come from `fopen`.

SOURCE: src/logger.c, src/intercept_core.c
-/

set_option autoImplicit false

namespace RdmaIntercept.Model

open RdmaIntercept.Library RdmaIntercept.Library.CText

/-- SOURCE: rdma_intercept.h:29 -/
abbrev MAX_CONFIG_FILE_PATH : ℕ := 256

/-- The value of the enumeration constant.
SOURCE: rdma_intercept.h:33-39 -/
def LogLevel.rank : LogLevel → ℕ
  | .debug => 0
  | .info => 1
  | .warn => 2
  | .error => 3
  | .fatal => 4

/-- The members of `g_intercept_state` that are used here, and the streams of the process. -/
structure LoggerState where
  initialized : Bool
  config : InterceptSettings
  logFile : Option ℕ
  files : FileTable

/-- SOURCE: intercept_core.c:21-56 -/
def LoggerState.unstarted : LoggerState where
  initialized := false
  config := .default
  logFile := none
  files := .empty

/-- `if (log_file) fprintf(log_file, ..)`; one write stands for several in a row. -/
def LoggerState.write (s : LoggerState) : LoggerState :=
  match s.logFile with
  | some f => { s with files := s.files.fprintf f }
  | none => s

/-- `fclose(f)` -/
def LoggerState.close (s : LoggerState) (f : ℕ) : LoggerState :=
  { s with files := s.files.fclose f }

/-- SOURCE: logger.c:282-316 -/
def rdmaInterceptLog (s : LoggerState) (level : LogLevel) : LoggerState :=
  if !s.initialized || level.rank < s.config.logLevel.rank then s else s.write

/-! ## Starting and stopping -/

/-- What `rdma_intercept_init` finds: the environment, the configuration files, whether the log
file can be opened, `libibverbs.so` and the three symbols in it that are needed. -/
structure InitOutcome where
  env : Environment
  configFiles : Files
  fopen : Bool
  dlopen : Bool
  createQp : Bool
  regMr : Bool
  deregMr : Bool

/-- SOURCE: intercept_core.c:89-174 -/
def rdmaInterceptInit (s : LoggerState) (o : InitOutcome) : Bool × LoggerState :=
  if s.initialized then (true, s)
  else
    let s := { s with config := rdmaInterceptLoadConfig s.config o.env o.configFiles none }
    let (file, files) := s.files.fopen o.fopen
    let s := { s with logFile := file, files := files }
    match file with
    | none => (false, s)
    | some f =>
      if !o.dlopen then (false, s.close f)
      else if !o.createQp then (false, s.close f)
      else if !o.regMr then (false, s.close f)
      else if !o.deregMr then (false, s.close f)
      else (true, { s.write with initialized := true })

/-- SOURCE: intercept_core.c:177-189 -/
def rdmaInterceptCleanup (s : LoggerState) : LoggerState :=
  if !s.initialized then s
  else
    match s.logFile with
    | some f => { s.write.close f with logFile := none, initialized := false }
    | none => { s with initialized := false }

/-! ## Changing the file -/

/-- `dirUsable` says of a directory that it is there or can be made.  The directory is what
stands before the last slash, if that is not the first character.
SOURCE: logger.c:43-67 -/
def ensureLogDirectory (dirUsable : Bytes → Bool) (logPath : Bytes) : Bool :=
  let dir := (logPath.rdropWhile (· ≠ 47)).dropLast
  dir = [] || dirUsable dir

/-- SOURCE: logger.c:136-169 -/
def rdmaInterceptSetLogFile (s : LoggerState) (logFilePath : Option Bytes)
    (dirUsable : Bytes → Bool) (fopenOk : Bool) : Bool × LoggerState :=
  match logFilePath with
  | none => (false, s)
  | some path =>
    if MAX_CONFIG_FILE_PATH ≤ path.length then (false, s)
    else if !ensureLogDirectory dirUsable path then (false, s)
    else
      let s :=
        match s.logFile with
        | some f => s.close f
        | none => s
      match s.files.fopen fopenOk with
      | (none, _) => (false, s)
      | (some newFile, files) =>
        let s :=
          { s with
            config := { s.config with logFilePath := path }
            logFile := some newFile
            files := files }
        (true, rdmaInterceptLog s .info)

/-- The file on disk is renamed before the new one is opened, and back if that fails.
SOURCE: logger.c:172-210 -/
def rdmaInterceptRotateLog (s : LoggerState) (fopenOk : Bool) : Bool × LoggerState :=
  match s.logFile with
  | none => (false, s)
  | some f =>
    if s.config.logFilePath = [] then (false, s)
    else
      let s := s.close f
      match s.files.fopen fopenOk with
      | (none, _) => (false, s)
      | (some newFile, files) =>
        (true, rdmaInterceptLog { s with logFile := some newFile, files := files } .info)

/-! ## Sequences of calls -/

inductive LoggerCall
  | init (o : InitOutcome)
  | setLogFile (logFilePath : Option Bytes) (dirUsable : Bytes → Bool) (fopenOk : Bool)
  | rotateLog (fopenOk : Bool)
  | cleanup
  | log (level : LogLevel)

/-- The state that a call leaves. -/
def LoggerState.step (s : LoggerState) : LoggerCall → LoggerState
  | .init o => (rdmaInterceptInit s o).2
  | .setLogFile path dirUsable fopenOk => (rdmaInterceptSetLogFile s path dirUsable fopenOk).2
  | .rotateLog fopenOk => (rdmaInterceptRotateLog s fopenOk).2
  | .cleanup => rdmaInterceptCleanup s
  | .log level => rdmaInterceptLog s level

end RdmaIntercept.Model
