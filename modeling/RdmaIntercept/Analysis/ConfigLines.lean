import RdmaIntercept.Library.Runs
import RdmaIntercept.Analysis.ConfigPrecedence

/-!
# The configuration file, line by line

The file is meant to be read by lines, each of which assigns a setting or has no effect.  The
buffer takes 1023 bytes, and what a longer line goes on with is read as a line of its own.
The configuration that is loaded is the one that is meant exactly when the pieces of the
over-long lines assign to each setting what these lines assign as wholes, wherever no later
line that fits assigns the setting again.
-/

set_option autoImplicit false

namespace RdmaIntercept.Analysis

open RdmaIntercept.Library RdmaIntercept.Library.CText RdmaIntercept.Model

/-! ## What a file means -/

/-- The row and the text of the value in a line that assigns a setting: no comment, the name of
a row before the first equals sign, white space at the ends left out. -/
def assignment (line : Bytes) : Option (ConfigKey × Bytes) :=
  let line := trimWhitespace line
  if line.head? = some 35 ∨ line.head? = some 59 ∨ 61 ∉ line then none
  else
    let key := trimWhitespace (line.takeWhile (· ≠ 61))
    let value := trimWhitespace (line.dropWhile (· ≠ 61)).tail
    (configTable.find? fun row => sameIgnoringCase key row.key).map fun row => (row, value)

/-- A line whose assignment is valid stores the value, every other one nothing. -/
def applyAssignment (config : InterceptSettings) (line : Bytes) : InterceptSettings :=
  match assignment line with
  | some (row, value) => (row.parser value config).getD config
  | none => config

/-- The lines between the newlines, in their order. -/
def readByLines (config : InterceptSettings) (file : Bytes) : InterceptSettings :=
  (file.splitOn 10).foldl applyAssignment config

/-! ## Settings -/

inductive ConfigValue
  | flag (on : Bool)
  | limit (max : UInt32)
  | level (l : LogLevel)
  | path (p : Bytes)
  deriving DecidableEq

/-- The value of a row in a configuration. -/
def rowValue (config : InterceptSettings) : ConfigKey → ConfigValue
  | .enableIntercept => .flag config.enableIntercept
  | .logQpCreation => .flag config.logQpCreation
  | .logAllOperations => .flag config.logAllOperations
  | .logLevel => .level config.logLevel
  | .logFilePath => .path config.logFilePath
  | .enableQpControl => .flag config.enableQpControl
  | .maxQpPerProcess => .limit config.maxQpPerProcess
  | .maxSendWrLimit => .limit config.maxSendWrLimit
  | .maxRecvWrLimit => .limit config.maxRecvWrLimit
  | .allowRcQp => .flag config.allowRcQp
  | .allowUcQp => .flag config.allowUcQp
  | .allowUdQp => .flag config.allowUdQp
  | .maxGlobalQp => .limit config.maxGlobalQp

/-- The value that a text stands for in a row. -/
def rowParse (value : Bytes) : ConfigKey → Option ConfigValue
  | .enableIntercept => (parseBool value).map .flag
  | .logQpCreation => (parseBool value).map .flag
  | .logAllOperations => (parseBool value).map .flag
  | .logLevel => (parseLogLevelValue value).map .level
  | .logFilePath => (parseString value 256).map .path
  | .enableQpControl => (parseBool value).map .flag
  | .maxQpPerProcess => (parseLimit value).map .limit
  | .maxSendWrLimit => (parseLimit value).map .limit
  | .maxRecvWrLimit => (parseLimit value).map .limit
  | .allowRcQp => (parseBool value).map .flag
  | .allowUcQp => (parseBool value).map .flag
  | .allowUdQp => (parseBool value).map .flag
  | .maxGlobalQp => (parseLimit value).map .limit

/-- The value that a line gives the row validly. -/
def lineAssigns (row : ConfigKey) (line : Bytes) : Option ConfigValue :=
  (assignment line).bind fun a => if a.1 = row then rowParse a.2 row else none

/-- The value that the pieces of a line give, the last valid one. -/
def piecesAssign (row : ConfigKey) (line : Bytes) : Option ConfigValue :=
  lastWrite (lineAssigns row) (fgetsLines 1024 line)

/-- The line fits into the buffer. -/
def fitsBuffer (line : Bytes) : Bool := line.length < 1024

/-- For every setting: behind the last line that fits and assigns it, the pieces of the
over-long lines give the value that these lines give as wholes; where none gives one, that is
the value of the line that fits, or the one before. -/
def LongLinesHarmless (config : InterceptSettings) (file : Bytes) : Prop :=
  ∀ row : ConfigKey,
    let lines := file.splitOn 10
    let long :=
      (behindSettled fitsBuffer (lineAssigns row) lines).filter fun line => !fitsBuffer line
    let before :=
      (lastWrite (lineAssigns row) (upToSettled fitsBuffer (lineAssigns row) lines)).getD
        (rowValue config row)
    (lastWrite (piecesAssign row) long).getD before = (lastWrite (lineAssigns row) long).getD before

variable {row : ConfigKey} {config : InterceptSettings} {line file : Bytes}

/-! ## One line -/

/-- The code takes a line as it is meant, up to the end mark. -/
theorem applyConfigLine_eq (config : InterceptSettings) (line : Bytes) :
    applyConfigLine config line = applyAssignment config (configString line) := by
  unfold applyConfigLine parseConfigLine applyAssignment assignment splitAtEquals isBlank
  generalize trimWhitespace (configString line) = line
  by_cases hcomment : line.head? = some 35 ∨ line.head? = some 59
  · rcases hcomment with hhash | hsemicolon
    · simp [hhash]
    · simp [hsemicolon]
  · rw [not_or] at hcomment
    by_cases hequals : 61 ∈ line
    · have hne : line ≠ [] := List.ne_nil_of_mem hequals
      simp only [hne, hcomment, hequals, decide_false, Bool.or_false, Bool.false_eq_true, if_false,
        if_true, not_true_eq_false, or_self]
      cases configTable.find? fun row =>
        sameIgnoringCase (trimWhitespace (line.takeWhile (· ≠ 61))) row.key <;> rfl
    · by_cases hempty : line = [] <;> simp [hcomment, hequals, hempty]

/-- A parser writes its own row and no other. -/
theorem rowValue_parsed (row other : ConfigKey) (value : Bytes) (config : InterceptSettings) :
    rowValue ((other.parser value config).getD config) row =
      if other = row then (rowParse value row).getD (rowValue config row)
      else rowValue config row := by
  by_cases hother : other = row
  · rw [if_pos hother, hother]
    cases row <;> exact getD_map_own (fun config => rowValue config _) fun _ => rfl
  · rw [if_neg hother]
    cases other <;> cases row <;>
      first
        | exact absurd rfl hother
        | exact getD_map_frame (fun config => rowValue config _) fun _ => rfl

/-- Of the rows a line changes the one that it assigns validly. -/
theorem rowValue_applyAssignment (row : ConfigKey) (config : InterceptSettings) (line : Bytes) :
    rowValue (applyAssignment config line) row =
      (lineAssigns row line).getD (rowValue config row) := by
  unfold applyAssignment lineAssigns
  cases assignment line with
  | none => rfl
  | some a =>
    obtain ⟨other, value⟩ := a
    simp only [rowValue_parsed, Option.bind_some]
    split_ifs <;> rfl

/-- The settings that the file has no row for. -/
def settingsWithoutRow (config : InterceptSettings) : Bool × Bool × UInt32 × UInt64 :=
  (config.allowRqQp, config.enableMrControl, config.maxMrPerProcess, config.maxMemoryPerProcess)

theorem settingsWithoutRow_applyAssignment (config : InterceptSettings) (line : Bytes) :
    settingsWithoutRow (applyAssignment config line) = settingsWithoutRow config := by
  unfold applyAssignment
  cases assignment line with
  | none => rfl
  | some a =>
    obtain ⟨row, value⟩ := a
    cases row <;> exact getD_map_frame settingsWithoutRow fun _ => rfl

/-- A configuration is what its rows hold and the settings without a row. -/
theorem settings_ext {a b : InterceptSettings} (hrows : ∀ row, rowValue a row = rowValue b row)
    (hothers : settingsWithoutRow a = settingsWithoutRow b) : a = b := by
  have hvalues : ∀ row ∈ configTable, rowValue a row = rowValue b row := fun row _ => hrows row
  simp only [configTable, List.forall_mem_cons, rowValue, ConfigValue.flag.injEq,
    ConfigValue.limit.injEq, ConfigValue.level.injEq, ConfigValue.path.injEq] at hvalues
  simp only [settingsWithoutRow, Prod.mk.injEq] at hothers
  obtain ⟨a, _, _, _, _⟩ := a
  obtain ⟨b, _, _, _, _⟩ := b
  cases a
  cases b
  simp_all

/-! ## The whole file -/

theorem takeWhile_concat_of_neg {p : UInt8 → Bool} {c : UInt8} (hc : p c = false) (b : Bytes) :
    (b ++ [c]).takeWhile p = b.takeWhile p := by
  induction b with
  | nil => simp [hc]
  | cons d b ih =>
    rw [List.cons_append, List.takeWhile_cons, List.takeWhile_cons, ih]

theorem configString_eq (b : Bytes) :
    configString b = b.takeWhile fun c => (c ≠ 13 && c ≠ 10) && c ≠ 0 := by
  unfold configString terminated
  rw [List.takeWhile_takeWhile]
  congr 1
  funext c
  simp

/-- The newline at the end of a line does not count. -/
theorem configString_concat (b : Bytes) : configString (b ++ [10]) = configString b := by
  rw [configString_eq, configString_eq]
  exact takeWhile_concat_of_neg (by decide) b

theorem configString_of_notMem {b : Bytes} (h : ∀ c ∈ b, c ≠ 0 ∧ c ≠ 13 ∧ c ≠ 10) :
    configString b = b := by
  rw [configString_eq, List.takeWhile_eq_self_iff]
  intro c hc
  simp [h c hc]

theorem lineAssigns_nil (row : ConfigKey) : lineAssigns row [] = none := rfl

/-- A line that fits is its only piece. -/
theorem piecesAssign_of_fits (hline : (10 : UInt8) ∉ line) (hfits : fitsBuffer line = true) :
    piecesAssign row line = lineAssigns row line := by
  have hroom : line.length ≤ 1024 - 1 := by
    have hlt : line.length < 1024 := by simpa [fitsBuffer] using hfits
    omega
  rw [piecesAssign, fgetsLines, fgetsFrom_short hline hroom, List.reverse_nil, List.nil_append]
  split_ifs with hempty
  · rw [hempty, lineAssigns_nil]
    rfl
  · simp [lastWrite]

theorem piecesAssign_of_mem (row : ConfigKey) (file : Bytes) :
    ∀ line ∈ file.splitOn 10, fitsBuffer line = true →
      piecesAssign row line = lineAssigns row line := by
  intro line hline
  exact piecesAssign_of_fits fun hc => (mem_of_mem_line hline hc).2 rfl

/-- What is loaded: of every row the last valid value in the pieces of the lines. -/
theorem rowValue_loaded (hbytes : ∀ c ∈ file, c ≠ 0 ∧ c ≠ 13) (row : ConfigKey)
    (config : InterceptSettings) :
    rowValue ((fgetsLines 1024 file).foldl applyConfigLine config) row =
      (lastWrite (piecesAssign row) (file.splitOn 10)).getD (rowValue config row) := by
  have hfold : rowValue ((fgetsLines 1024 file).foldl applyConfigLine config) row =
      (lastWrite (fun b => lineAssigns row (configString b)) (fgetsLines 1024 file)).getD
        (rowValue config row) := by
    apply foldl_eq_lastWrite applyConfigLine fun config => rowValue config row
    intro config b
    rw [applyConfigLine_eq, rowValue_applyAssignment]
  have hnewline (b : Bytes) : lineAssigns row (configString (b ++ [10])) =
      lineAssigns row (configString b) := by rw [configString_concat]
  rw [hfold, lastWrite, filterMap_fgetsLines hnewline rfl, getLast?_flatMap]
  congr 1
  apply lastWrite_congr
  intro line hline
  apply lastWrite_congr
  intro piece hpiece
  rw [configString_of_notMem]
  intro c hc
  have hmem : c ∈ line := by
    rw [← flatten_fgetsLines 1024 line]
    exact List.mem_flatten.mpr ⟨piece, hpiece, hc⟩
  obtain ⟨hfile, hne⟩ := mem_of_mem_line hline hmem
  exact ⟨(hbytes c hfile).1, (hbytes c hfile).2, hne⟩

/-- What is meant: of every row the last valid value in the lines. -/
theorem rowValue_readByLines (row : ConfigKey) (config : InterceptSettings) (file : Bytes) :
    rowValue (readByLines config file) row =
      (lastWrite (lineAssigns row) (file.splitOn 10)).getD (rowValue config row) :=
  foldl_eq_lastWrite applyAssignment (fun config => rowValue config row)
    (rowValue_applyAssignment row) config (file.splitOn 10)

/-- The file is read as it is meant exactly when its over-long lines do no harm. -/
theorem loaded_eq_iff (hbytes : ∀ c ∈ file, c ≠ 0 ∧ c ≠ 13) (config : InterceptSettings) :
    (fgetsLines 1024 file).foldl applyConfigLine config = readByLines config file ↔
      LongLinesHarmless config file := by
  have hothers : settingsWithoutRow ((fgetsLines 1024 file).foldl applyConfigLine config) =
      settingsWithoutRow (readByLines config file) := by
    have hpieces : ∀ config b,
        settingsWithoutRow (applyConfigLine config b) = settingsWithoutRow config := by
      intro config b
      rw [applyConfigLine_eq, settingsWithoutRow_applyAssignment]
    exact (exec_kept hpieces config _).trans
      (exec_kept settingsWithoutRow_applyAssignment config _).symm
  have hrow (row : ConfigKey) :
      rowValue ((fgetsLines 1024 file).foldl applyConfigLine config) row =
          rowValue (readByLines config file) row ↔
        (lastWrite (piecesAssign row) (file.splitOn 10)).getD (rowValue config row) =
          (lastWrite (lineAssigns row) (file.splitOn 10)).getD (rowValue config row) := by
    rw [rowValue_loaded hbytes, rowValue_readByLines]
  have hharmless (row : ConfigKey) := (hrow row).trans
    (getD_lastWrite_eq_iff (piecesAssign_of_mem row file) (rowValue config row))
  constructor
  · intro hsame row
    exact (hharmless row).mp (by rw [hsame])
  · intro h
    exact settings_ext (fun row => (hharmless row).mpr (h row)) hothers

/-! ## Loading -/

/-- The configuration that is loaded from a file without NUL and carriage return is the one
that its lines give exactly when the over-long lines do no harm. -/
theorem loadConfig_byLines_iff {env : Environment} {files : Files} {configFile : Option Bytes}
    (hopen : openConfig env files configFile = some file) (hbytes : ∀ c ∈ file, c ≠ 0 ∧ c ≠ 13)
    (config : InterceptSettings) :
    rdmaInterceptLoadConfig config env files configFile =
        readByLines (loadConfigFromEnv env config) file ↔
      LongLinesHarmless (loadConfigFromEnv env config) file := by
  unfold rdmaInterceptLoadConfig
  rw [hopen]
  exact loaded_eq_iff hbytes (loadConfigFromEnv env config)

/-- A file of lines that fit is read as it is meant. -/
theorem longLinesHarmless_of_fits (h : ∀ line ∈ file.splitOn 10, fitsBuffer line = true)
    (config : InterceptSettings) : LongLinesHarmless config file := by
  intro row
  have hnone : ((behindSettled fitsBuffer (lineAssigns row) (file.splitOn 10)).filter
      fun line => !fitsBuffer line) = [] := by
    rw [List.filter_eq_nil_iff]
    intro line hline
    simp [h line ((List.rtakeWhile_suffix _ _).subset hline)]
  simp only [hnone]
  rfl

/-- One line. -/
theorem loadConfig_byLines_limit :
    rdmaInterceptLoadConfig .default (fun _ => none) (fun _ => some (text "max_global_qp = 7"))
        none =
      readByLines (loadConfigFromEnv (fun _ => none) .default) (text "max_global_qp = 7") :=
  (loadConfig_byLines_iff rfl (by decide +kernel) _).mpr (longLinesHarmless_of_fits (by decide) _)

/-- What is dropped from the end stops at a character that is kept. -/
theorem rdropWhile_append_cons_of_neg {p : UInt8 → Bool} {c : UInt8} (hc : p c = false)
    (a b : Bytes) : (a ++ c :: b).rdropWhile p = a ++ c :: b.rdropWhile p := by
  simp only [List.rdropWhile, List.reverse_append, List.reverse_cons, List.append_assoc,
    List.dropWhile_append]
  cases b.reverse.dropWhile p <;> simp [hc]

/-- A comment assigns nothing. -/
theorem lineAssigns_comment (row : ConfigKey) (b : Bytes) : lineAssigns row (35 :: b) = none := by
  have htrim : trimWhitespace (35 :: b) = 35 :: b.rdropWhile isSpace := by
    unfold trimWhitespace
    rw [List.dropWhile_cons_of_neg (by decide)]
    exact rdropWhile_append_cons_of_neg (by decide) [] b
  unfold lineAssigns assignment
  rw [htrim]
  simp

/-- A comment that fills the buffer, and what follows in its line. -/
theorem piecesAssign_comment {front rest : Bytes} (hfront : (10 : UInt8) ∉ front)
    (hlength : front.length = 1022) (row : ConfigKey) :
    piecesAssign row (35 :: (front ++ rest)) = piecesAssign row rest := by
  have hline : (10 : UInt8) ∉ 35 :: front := by
    rw [List.mem_cons, not_or]
    exact ⟨by decide, hfront⟩
  have hread : fgetsFrom 1024 (1024 - 1) [] ((35 :: front) ++ rest) =
      ([].reverse ++ 35 :: front) :: fgetsLines 1024 rest :=
    fgetsFrom_full hline (by rw [List.length_cons, hlength]) (by decide)
  rw [piecesAssign, fgetsLines, ← List.cons_append, hread, List.reverse_nil, List.nil_append,
    lastWrite_cons, lineAssigns_comment, Option.or_none]
  rfl

/-- The end of a long comment is taken for a limit. -/
theorem loadConfig_readsComment :
    ¬ ∀ (config : InterceptSettings) (env : Environment) (files : Files)
      (configFile : Option Bytes) (file : Bytes),
      openConfig env files configFile = some file → (∀ c ∈ file, c ≠ 0 ∧ c ≠ 13) →
        rdmaInterceptLoadConfig config env files configFile =
          readByLines (loadConfigFromEnv env config) file := by
  intro h
  let front : Bytes := List.replicate 1022 45
  let rest : Bytes := text "max_global_qp = 7"
  let file : Bytes := 35 :: (front ++ rest)
  have hfront : ∀ c ∈ front, c = 45 := fun c hc => List.eq_of_mem_replicate hc
  have hrest : ∀ c ∈ rest, c ≠ 0 ∧ c ≠ 13 ∧ c ≠ 10 := by decide +kernel
  have hchars : ∀ c ∈ file, c ≠ 0 ∧ c ≠ 13 ∧ c ≠ 10 := by
    intro c hc
    rcases List.mem_cons.mp hc with rfl | hc
    · decide
    · rcases List.mem_append.mp hc with hc | hc
      · rw [hfront c hc]
        decide
      · exact hrest c hc
  have hbytes : ∀ c ∈ file, c ≠ 0 ∧ c ≠ 13 := fun c hc => ⟨(hchars c hc).1, (hchars c hc).2.1⟩
  have hlines : file.splitOn 10 = [file] :=
    List.splitOn_eq_singleton fun hmem => (hchars 10 hmem).2.2 rfl
  -- the limit is that of the tail of the comment, and should be the one before
  have hpieces : lastWrite (piecesAssign .maxGlobalQp) [file] = some (.limit 7) := by
    have hnewline : (10 : UInt8) ∉ front := fun hmem => absurd (hfront 10 hmem) (by decide)
    rw [lastWrite_cons, piecesAssign_comment hnewline List.length_replicate]
    decide
  have hwhole : lastWrite (lineAssigns .maxGlobalQp) [file] = none := by
    rw [lastWrite_cons, lineAssigns_comment]
    rfl
  have hopen : openConfig (fun _ => none) (fun _ => some file) none = some file := rfl
  have hloaded := (loadConfig_byLines_iff hopen hbytes .default).mp (h _ _ _ _ file hopen hbytes)
  have hsame := congrArg (fun config => rowValue config .maxGlobalQp)
    ((loaded_eq_iff hbytes (loadConfigFromEnv (fun _ => none) .default)).mpr hloaded)
  simp only [rowValue_loaded hbytes, rowValue_readByLines, hlines, hpieces, hwhole,
    Option.getD_some, Option.getD_none] at hsame
  exact absurd hsame (by decide)

end RdmaIntercept.Analysis
