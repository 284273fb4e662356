import RdmaIntercept.Model.Logger

/-!
# The log file is open whenever it is used

Three functions close the log file before they know that there will be another one, and
leave the closed handle where it was if there is none: `rdma_intercept_set_log_file` and
`rdma_intercept_rotate_log` when `fopen` fails, and `rdma_intercept_init` when it does not
find what it needs of `libibverbs.so`.  A run in which none of this happens uses open
handles only, and each of these calls breaks the property at once.
-/

set_option autoImplicit false

namespace RdmaIntercept.Analysis

open RdmaIntercept.Library RdmaIntercept.Library.CText RdmaIntercept.Model

/-- `log_file` is `NULL` or open, no handle has been closed twice, and every write went to an
open handle. -/
structure HandleSound (s : LoggerState) : Prop where
  logFile : ∀ f, s.logFile = some f → f ∈ s.files.openFiles
  clean : s.files.Clean

/-- `rdma_intercept_init` fails, but not for want of the log file. -/
def LosesLibrary (o : InitOutcome) : Prop :=
  o.fopen = true ∧ (o.dlopen && o.createQp && o.regMr && o.deregMr) = false

/-- The path passes the checks that come before the old file is closed. -/
def PathAccepted (logFilePath : Option Bytes)
    (dirUsable : Bytes → Bool) : Prop :=
  ∃ path, logFilePath = some path ∧ path.length < MAX_CONFIG_FILE_PATH ∧
    ensureLogDirectory dirUsable path = true

/-- The call does not close the log file and fail after that. -/
def KeepsHandle (s : LoggerState) : LoggerCall → Prop
  | .init o => s.initialized = false → ¬ LosesLibrary o
  | .setLogFile path dirUsable fopenOk =>
    PathAccepted path dirUsable → s.logFile ≠ none → fopenOk = true
  | .rotateLog fopenOk => s.logFile ≠ none → s.config.logFilePath ≠ [] → fopenOk = true
  | .cleanup => True
  | .log _ => True

/-! ## Writing and closing -/

section Primitives
variable {s : LoggerState}

theorem HandleSound.write (h : HandleSound s) : s.write = s := by
  unfold LoggerState.write
  cases hfile : s.logFile with
  | none => rfl
  | some f =>
    simp only [FileTable.fprintf_of_mem (h.logFile f hfile)]
    rw [← hfile]

theorem HandleSound.log (h : HandleSound s) (level : LogLevel) :
    rdmaInterceptLog s level = s := by
  unfold rdmaInterceptLog
  rw [h.write, ite_self]

/-- A file that has just been opened. -/
theorem handleSound_opened {files : FileTable} {f : ℕ} (hmem : f ∈ files.openFiles)
    (hclean : files.Clean) (initialized : Bool) (config : InterceptSettings) :
    HandleSound ⟨initialized, config, some f, files⟩ := by
  refine ⟨?_, hclean⟩
  rintro f' ⟨rfl⟩
  exact hmem

/-- The handle that has been closed is still there. -/
theorem not_handleSound_close {f : ℕ} (hfile : s.logFile = some f) :
    ¬ HandleSound (s.close f) := by
  intro h
  exact FileTable.notMem_fclose s.files f (h.logFile f hfile)

/-- Closing the file that is open, to open another one. -/
theorem clean_close {f : ℕ} (h : HandleSound s) (hfile : s.logFile = some f) :
    (s.close f).files.Clean :=
  FileTable.clean_fclose (h.logFile f hfile) h.clean

end Primitives

/-! ## One call -/

section Calls
variable {s : LoggerState}

/-- With the log file open, `rdma_intercept_init` succeeds or closes it again. -/
theorem rdmaInterceptInit_opened {o : InitOutcome} (hinit : s.initialized = false)
    (hfopen : o.fopen = true) {f : ℕ} {files : FileTable}
    (hopen : s.files.fopen true = (some f, files)) :
    (rdmaInterceptInit s o).2 =
      let opened : LoggerState :=
        ⟨false, rdmaInterceptLoadConfig s.config o.env o.configFiles none, some f, files⟩
      if o.dlopen && o.createQp && o.regMr && o.deregMr then
        { opened.write with initialized := true }
      else opened.close f := by
  simp only [rdmaInterceptInit, hinit, Bool.false_eq_true, if_false, hfopen, hopen]
  cases o.dlopen <;> cases o.createQp <;> cases o.regMr <;> cases o.deregMr <;> rfl

theorem handleSound_init_iff (h : HandleSound s) (o : InitOutcome) :
    HandleSound (rdmaInterceptInit s o).2 ↔ (s.initialized = false → ¬ LosesLibrary o) := by
  cases hinit : s.initialized with
  | true => simp [rdmaInterceptInit, hinit, h]
  | false =>
    cases hfopen : o.fopen with
    | false =>
      refine iff_of_true ?_ fun _ hloses => absurd hloses.1 (by simp [hfopen])
      simp only [rdmaInterceptInit, hinit, Bool.false_eq_true, if_false, hfopen,
        FileTable.fopen_false]
      exact ⟨nofun, h.clean⟩
    | true =>
      obtain ⟨f, files, hopen, hmem, hclean⟩ := FileTable.fopen_true s.files
      have hsound := handleSound_opened hmem (hclean h.clean) false
        (rdmaInterceptLoadConfig s.config o.env o.configFiles none)
      rw [rdmaInterceptInit_opened hinit hfopen hopen]
      cases hlib : o.dlopen && o.createQp && o.regMr && o.deregMr with
      | false => exact iff_of_false (not_handleSound_close rfl) (by simp [LosesLibrary, hfopen, hlib])
      | true =>
        simp only [if_true, hsound.write]
        exact iff_of_true ⟨hsound.logFile, hsound.clean⟩ (by simp [LosesLibrary, hlib])

/-- A call of `rdma_intercept_set_log_file` that is turned down changes nothing. -/
theorem setLogFile_of_not_accepted {path : Option Bytes}
    {dirUsable : Bytes → Bool} (hpath : ¬ PathAccepted path dirUsable)
    (fopenOk : Bool) : rdmaInterceptSetLogFile s path dirUsable fopenOk = (false, s) := by
  cases path with
  | none => rfl
  | some p =>
    by_cases hlength : MAX_CONFIG_FILE_PATH ≤ p.length
    · simp only [rdmaInterceptSetLogFile, if_pos hlength]
    · cases hdir : ensureLogDirectory dirUsable p with
      | false => simp [rdmaInterceptSetLogFile, hlength, hdir]
      | true => exact absurd ⟨p, rfl, Nat.not_le.mp hlength, hdir⟩ hpath

/-- One that is not closes the file that is open, if there is one. -/
def closedOld (s : LoggerState) : LoggerState :=
  match s.logFile with
  | some f => s.close f
  | none => s

theorem clean_closedOld (h : HandleSound s) : (closedOld s).files.Clean := by
  unfold closedOld
  cases hfile : s.logFile with
  | none => exact h.clean
  | some f => exact clean_close h hfile

/-- Without a new file, the handle of the old one stays. -/
theorem setLogFile_of_fopen_failed {path : Option Bytes} {dirUsable : Bytes → Bool}
    (hpath : PathAccepted path dirUsable) :
    (rdmaInterceptSetLogFile s path dirUsable false).2 = closedOld s := by
  obtain ⟨p, rfl, hlength, hdir⟩ := hpath
  simp only [rdmaInterceptSetLogFile, if_neg (Nat.not_le.mpr hlength), hdir, Bool.not_true,
    Bool.false_eq_true, if_false, FileTable.fopen_false]
  rfl

/-- A new file takes its place. -/
theorem setLogFile_of_fopen {path : Option Bytes} {dirUsable : Bytes → Bool}
    (hpath : PathAccepted path dirUsable) {g : ℕ} {files : FileTable}
    (hopen : (closedOld s).files.fopen true = (some g, files)) :
    ∃ config, (rdmaInterceptSetLogFile s path dirUsable true).2 =
      rdmaInterceptLog ⟨(closedOld s).initialized, config, some g, files⟩ .info := by
  obtain ⟨p, rfl, hlength, hdir⟩ := hpath
  refine ⟨{ (closedOld s).config with logFilePath := p }, ?_⟩
  unfold closedOld at hopen ⊢
  simp only [rdmaInterceptSetLogFile, if_neg (Nat.not_le.mpr hlength), hdir, Bool.not_true,
    Bool.false_eq_true, if_false]
  cases hfile : s.logFile <;> rw [hfile] at hopen <;> simp only [hopen]

/-- It ends with the new file, or with the handle of the old one. -/
theorem handleSound_setLogFile_accepted (h : HandleSound s) {path : Option Bytes}
    {dirUsable : Bytes → Bool} (hpath : PathAccepted path dirUsable)
    (fopenOk : Bool) :
    HandleSound (rdmaInterceptSetLogFile s path dirUsable fopenOk).2 ↔
      (s.logFile ≠ none → fopenOk = true) := by
  cases fopenOk with
  | true =>
    obtain ⟨g, files, hopen, hmem, hclean⟩ := FileTable.fopen_true (closedOld s).files
    obtain ⟨config, hresult⟩ := setLogFile_of_fopen hpath hopen
    have hsound := handleSound_opened hmem (hclean (clean_closedOld h)) (closedOld s).initialized
      config
    rw [hresult, hsound.log .info]
    exact iff_of_true hsound (by simp)
  | false =>
    rw [setLogFile_of_fopen_failed hpath]
    unfold closedOld
    cases hfile : s.logFile with
    | none => exact iff_of_true h fun hne => absurd rfl hne
    | some f => exact iff_of_false (not_handleSound_close hfile) (by simp)

theorem handleSound_setLogFile_iff (h : HandleSound s) (path : Option Bytes)
    (dirUsable : Bytes → Bool) (fopenOk : Bool) :
    HandleSound (rdmaInterceptSetLogFile s path dirUsable fopenOk).2 ↔
      (PathAccepted path dirUsable → s.logFile ≠ none → fopenOk = true) := by
  by_cases hpath : PathAccepted path dirUsable
  · rw [handleSound_setLogFile_accepted h hpath]
    exact ⟨fun hfile _ => hfile, fun hfile => hfile hpath⟩
  · rw [setLogFile_of_not_accepted hpath]
    exact iff_of_true h fun haccepted => absurd haccepted hpath

theorem handleSound_rotateLog_iff (h : HandleSound s) (fopenOk : Bool) :
    HandleSound (rdmaInterceptRotateLog s fopenOk).2 ↔
      (s.logFile ≠ none → s.config.logFilePath ≠ [] → fopenOk = true) := by
  cases hfile : s.logFile with
  | none => simp [rdmaInterceptRotateLog, hfile, h]
  | some f =>
    by_cases hpath : s.config.logFilePath = []
    · simp [rdmaInterceptRotateLog, hfile, hpath, h]
    · cases fopenOk with
      | false =>
        have hresult : (rdmaInterceptRotateLog s false).2 = s.close f := by
          simp [rdmaInterceptRotateLog, hfile, hpath]
        rw [hresult]
        exact iff_of_false (not_handleSound_close hfile) (by simp [hpath])
      | true =>
        obtain ⟨g, files, hopen, hmem, hclean⟩ := FileTable.fopen_true (s.close f).files
        have hsound : HandleSound { s.close f with logFile := some g, files := files } :=
          handleSound_opened hmem (hclean (clean_close h hfile)) s.initialized s.config
        have hresult : (rdmaInterceptRotateLog s true).2 =
            { s.close f with logFile := some g, files := files } := by
          simp only [rdmaInterceptRotateLog, hfile, if_neg hpath, hopen]
          exact hsound.log .info
        rw [hresult]
        exact iff_of_true hsound (by simp)

theorem handleSound_cleanup (h : HandleSound s) : HandleSound (rdmaInterceptCleanup s) := by
  unfold rdmaInterceptCleanup
  by_cases hinit : s.initialized = true
  · simp only [hinit, Bool.not_true, Bool.false_eq_true, if_false]
    cases hfile : s.logFile with
    | none => exact ⟨nofun, h.clean⟩
    | some f =>
      rw [h.write]
      exact ⟨by simp, clean_close h hfile⟩
  · simp only [hinit, Bool.not_false, if_true]
    exact h

end Calls

/-- One call: it keeps the handle sound if and only if it does not fail after closing it. -/
theorem handleSound_step_iff {s : LoggerState} (h : HandleSound s) (c : LoggerCall) :
    HandleSound (s.step c) ↔ KeepsHandle s c := by
  cases c with
  | init o => exact handleSound_init_iff h o
  | setLogFile path dirUsable fopenOk => exact handleSound_setLogFile_iff h path dirUsable fopenOk
  | rotateLog fopenOk => exact handleSound_rotateLog_iff h fopenOk
  | cleanup => exact iff_of_true (handleSound_cleanup h) trivial
  | log level =>
    have hlog : s.step (.log level) = s := h.log level
    rw [hlog]
    exact iff_of_true h trivial

/-- In every run, the log file is `NULL` or open after every call, no handle is closed twice and
every write goes to an open one, if and only if no call closes the log file and then fails. -/
theorem logger_handles_iff (calls : List LoggerCall) :
    Always LoggerState.step HandleSound .unstarted calls ↔
      Along LoggerState.step KeepsHandle .unstarted calls := by
  have hstart : HandleSound .unstarted := ⟨nofun, rfl, rfl⟩
  exact always_iff_along (I := fun _ => True) (A := fun _ _ => True) (fun _ _ _ _ => trivial)
    (fun s c _ _ h => handleSound_step_iff h c) trivial hstart (along_of_forall (fun _ _ => trivial) _)

/-- A start with nothing configured, in which everything is found. -/
def plainStart : InitOutcome where
  env := fun _ => none
  configFiles := fun _ => none
  fopen := true
  dlopen := true
  createQp := true
  regMr := true
  deregMr := true

/-- After the start, the log is to go to a file that cannot be opened; then something is
logged. -/
def unopenedRun : List LoggerCall :=
  [.init plainStart, .setLogFile (some (text "/tmp/b.log")) (fun _ => true) false,
    .log .error]

/-- The message goes to the file that has been closed. -/
theorem logger_writesClosed :
    (exec LoggerState.step .unstarted unopenedRun).files.wroteClosed = true ∧
    ¬ Always LoggerState.step HandleSound .unstarted unopenedRun := by
  have hwrote : (exec LoggerState.step .unstarted unopenedRun).files.wroteClosed = true := by decide
  refine ⟨hwrote, ?_⟩
  intro h
  have hend := h.last
  rw [hend.clean.2] at hwrote
  exact absurd hwrote (by decide)

end RdmaIntercept.Analysis
