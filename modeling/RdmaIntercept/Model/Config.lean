import RdmaIntercept.Library.CText
import RdmaIntercept.Model.Hooks

/-!
# Loading the configuration

The configuration of a process is read from environment variables and from a file.  A
parser answers `none` for the result `-1`; the configuration it was given then stays as it
is.  The environment and the files are functions, to the string of a variable and to the
contents of a file that can be opened.  What is logged is left out, and `0` is the only
result of `rdma_intercept_load_config`.

SOURCE: include/rdma_intercept.h, src/config.c
-/

set_option autoImplicit false

namespace RdmaIntercept.Model

open RdmaIntercept.Library.CText

/-- SOURCE: rdma_intercept.h:33-39 -/
inductive LogLevel
  | debug
  | info
  | warn
  | error
  | fatal
  deriving DecidableEq, Repr

/-- The whole of `intercept_config_t`; a path is its bytes before the terminating NUL.
SOURCE: rdma_intercept.h:42-66 -/
structure InterceptSettings extends InterceptConfig where
  logQpCreation : Bool
  logAllOperations : Bool
  logLevel : LogLevel
  logFilePath : Bytes
  deriving DecidableEq

/-- SOURCE: intercept_core.c:25-46 -/
def InterceptSettings.default : InterceptSettings where
  toInterceptConfig := .default
  logQpCreation := true
  logAllOperations := false
  logLevel := .info
  logFilePath := text "/tmp/rdma_intercept.log"

/-! ## Values -/

/-- The argument is one of the words, in whatever case. -/
def isWord (words : List Bytes) (value : Bytes) : Bool := words.any (sameIgnoringCase value)

/-- SOURCE: config.c:125-144 -/
def parseBool (value : Bytes) : Option Bool :=
  let value := skipSpaces value
  if isWord [text "true", text "yes", text "on", text "1"] value then some true
  else if isWord [text "false", text "no", text "off", text "0"] value then some false
  else none

/-- SOURCE: config.c:147-170 -/
def parseLogLevelValue (value : Bytes) : Option LogLevel :=
  let value := skipSpaces value
  if isWord [text "debug"] value then some .debug
  else if isWord [text "info"] value then some .info
  else if isWord [text "warn", text "warning"] value then some .warn
  else if isWord [text "error"] value then some .error
  else if isWord [text "fatal"] value then some .fatal
  else none

/-- White space or a quotation mark. -/
def isSpaceOrQuote (c : UInt8) : Bool := isSpace c || c = 34 || c = 39

/-- SOURCE: config.c:173-194 -/
def parseString (value : Bytes) (maxLen : ℕ) : Option Bytes :=
  let value := (value.dropWhile isSpaceOrQuote).rdropWhile isSpaceOrQuote
  if maxLen ≤ value.length then none else some value

/-- The body of the parsers of a limit.
SOURCE: config.c:56-61 -/
def parseLimit (value : Bytes) : Option UInt32 :=
  let val := strtol value
  if val ≤ 0 ∨ 2 ^ 32 - 1 < val then none else some (UInt32.ofInt val)

/-! ## Parsers -/

/-- SOURCE: config.c:25-27 -/
def parseEnableIntercept (value : Bytes) (config : InterceptSettings) : Option InterceptSettings :=
  (parseBool value).map fun on => { config with enableIntercept := on }

/-- SOURCE: config.c:29-31 -/
def parseLogQpCreation (value : Bytes) (config : InterceptSettings) : Option InterceptSettings :=
  (parseBool value).map fun on => { config with logQpCreation := on }

/-- SOURCE: config.c:33-35 -/
def parseLogAllOperations (value : Bytes) (config : InterceptSettings) :
    Option InterceptSettings :=
  (parseBool value).map fun on => { config with logAllOperations := on }

/-- SOURCE: config.c:37-44 -/
def parseLogLevelConfig (value : Bytes) (config : InterceptSettings) : Option InterceptSettings :=
  (parseLogLevelValue value).map fun level => { config with logLevel := level }

/-- SOURCE: config.c:46-48 -/
def parseLogFilePath (value : Bytes) (config : InterceptSettings) : Option InterceptSettings :=
  (parseString value 256).map fun path => { config with logFilePath := path }

/-- SOURCE: config.c:51-53 -/
def parseEnableQpControl (value : Bytes) (config : InterceptSettings) : Option InterceptSettings :=
  (parseBool value).map fun on => { config with enableQpControl := on }

/-- SOURCE: config.c:55-62 -/
def parseMaxQpPerProcess (value : Bytes) (config : InterceptSettings) : Option InterceptSettings :=
  (parseLimit value).map fun max => { config with maxQpPerProcess := max }

/-- SOURCE: config.c:64-71 -/
def parseMaxSendWrLimit (value : Bytes) (config : InterceptSettings) : Option InterceptSettings :=
  (parseLimit value).map fun max => { config with maxSendWrLimit := max }

/-- SOURCE: config.c:73-80 -/
def parseMaxRecvWrLimit (value : Bytes) (config : InterceptSettings) : Option InterceptSettings :=
  (parseLimit value).map fun max => { config with maxRecvWrLimit := max }

/-- SOURCE: config.c:82-84 -/
def parseAllowRcQp (value : Bytes) (config : InterceptSettings) : Option InterceptSettings :=
  (parseBool value).map fun on => { config with allowRcQp := on }

/-- SOURCE: config.c:86-88 -/
def parseAllowUcQp (value : Bytes) (config : InterceptSettings) : Option InterceptSettings :=
  (parseBool value).map fun on => { config with allowUcQp := on }

/-- SOURCE: config.c:90-92 -/
def parseAllowUdQp (value : Bytes) (config : InterceptSettings) : Option InterceptSettings :=
  (parseBool value).map fun on => { config with allowUdQp := on }

/-- SOURCE: config.c:94-101 -/
def parseMaxGlobalQp (value : Bytes) (config : InterceptSettings) : Option InterceptSettings :=
  (parseLimit value).map fun max => { config with maxGlobalQp := max }

/-! ## Lines -/

/-- The rows of `config_table`. -/
inductive ConfigKey
  | enableIntercept
  | logQpCreation
  | logAllOperations
  | logLevel
  | logFilePath
  | enableQpControl
  | maxQpPerProcess
  | maxSendWrLimit
  | maxRecvWrLimit
  | allowRcQp
  | allowUcQp
  | allowUdQp
  | maxGlobalQp
  deriving DecidableEq, Repr

def ConfigKey.key : ConfigKey → Bytes
  | .enableIntercept => text "enable_intercept"
  | .logQpCreation => text "log_qp_creation"
  | .logAllOperations => text "log_all_operations"
  | .logLevel => text "log_level"
  | .logFilePath => text "log_file_path"
  | .enableQpControl => text "enable_qp_control"
  | .maxQpPerProcess => text "max_qp_per_process"
  | .maxSendWrLimit => text "max_send_wr_limit"
  | .maxRecvWrLimit => text "max_recv_wr_limit"
  | .allowRcQp => text "allow_rc_qp"
  | .allowUcQp => text "allow_uc_qp"
  | .allowUdQp => text "allow_ud_qp"
  | .maxGlobalQp => text "max_global_qp"

def ConfigKey.parser : ConfigKey → Bytes → InterceptSettings → Option InterceptSettings
  | .enableIntercept => parseEnableIntercept
  | .logQpCreation => parseLogQpCreation
  | .logAllOperations => parseLogAllOperations
  | .logLevel => parseLogLevelConfig
  | .logFilePath => parseLogFilePath
  | .enableQpControl => parseEnableQpControl
  | .maxQpPerProcess => parseMaxQpPerProcess
  | .maxSendWrLimit => parseMaxSendWrLimit
  | .maxRecvWrLimit => parseMaxRecvWrLimit
  | .allowRcQp => parseAllowRcQp
  | .allowUcQp => parseAllowUcQp
  | .allowUdQp => parseAllowUdQp
  | .maxGlobalQp => parseMaxGlobalQp

/-- SOURCE: config.c:104-122 -/
def configTable : List ConfigKey :=
  [.enableIntercept, .logQpCreation, .logAllOperations, .logLevel, .logFilePath,
    .enableQpControl, .maxQpPerProcess, .maxSendWrLimit, .maxRecvWrLimit, .allowRcQp,
    .allowUcQp, .allowUdQp, .maxGlobalQp]

/-- SOURCE: config.c:197-215 -/
def trimWhitespace (str : Bytes) : Bytes := (str.dropWhile isSpace).rdropWhile isSpace

/-- What stands before and behind the first equals sign.
SOURCE: config.c:231-239 -/
def splitAtEquals (line : Bytes) : Option (Bytes × Bytes) :=
  if 61 ∈ line then
    some (trimWhitespace (line.takeWhile (· ≠ 61)),
      trimWhitespace (line.dropWhile (· ≠ 61)).tail)
  else none

/-- An empty line or a comment. -/
def isBlank (line : Bytes) : Bool := line = [] || line.head? = some 35 || line.head? = some 59

/-- SOURCE: config.c:218-252 -/
def parseConfigLine (line : Bytes) (config : InterceptSettings) : Option InterceptSettings :=
  let line := trimWhitespace line
  if isBlank line then some config
  else
    match splitAtEquals line with
    | none => none
    | some (key, value) =>
      match configTable.find? fun entry => sameIgnoringCase key entry.key with
      | none => none
      | some entry => entry.parser value config

/-! ## The environment -/

abbrev Environment : Type := String → Option Bytes

def getenv (env : Environment) (variableName : String) : Option Bytes :=
  (env variableName).map terminated

/-- A variable that is set and that the parser accepts is stored. -/
def fromEnv (env : Environment) (variableName : String)
    (parser : Bytes → InterceptSettings → Option InterceptSettings) (config : InterceptSettings) :
    InterceptSettings :=
  match getenv env variableName with
  | none => config
  | some value => (parser value config).getD config

/-- SOURCE: config.c:316-320 -/
def envEnableMrControl (value : Bytes) (config : InterceptSettings) : Option InterceptSettings :=
  (parseBool value).map fun on => { config with enableMrControl := on }

/-- SOURCE: config.c:322-329 -/
def envMaxMrPerProcess (value : Bytes) (config : InterceptSettings) : Option InterceptSettings :=
  (parseLimit value).map fun max => { config with maxMrPerProcess := max }

/-- SOURCE: config.c:331-338 -/
def envMaxMemoryPerProcess (value : Bytes) (config : InterceptSettings) :
    Option InterceptSettings :=
  let val := strtoull value
  if 0 < val then some { config with maxMemoryPerProcess := val } else none

/-- Each variable is parsed as the setting of the file is.
SOURCE: config.c:255-345 -/
def loadConfigFromEnv (env : Environment) (config : InterceptSettings) : InterceptSettings :=
  let config := fromEnv env "RDMA_INTERCEPT_ENABLE_QP_CONTROL" parseEnableQpControl config
  let config := fromEnv env "RDMA_INTERCEPT_MAX_QP_PER_PROCESS" parseMaxQpPerProcess config
  let config := fromEnv env "RDMA_INTERCEPT_MAX_GLOBAL_QP" parseMaxGlobalQp config
  let config := fromEnv env "RDMA_INTERCEPT_MAX_SEND_WR_LIMIT" parseMaxSendWrLimit config
  let config := fromEnv env "RDMA_INTERCEPT_MAX_RECV_WR_LIMIT" parseMaxRecvWrLimit config
  let config := fromEnv env "RDMA_INTERCEPT_ALLOW_RC_QP" parseAllowRcQp config
  let config := fromEnv env "RDMA_INTERCEPT_ALLOW_UC_QP" parseAllowUcQp config
  let config := fromEnv env "RDMA_INTERCEPT_ALLOW_UD_QP" parseAllowUdQp config
  let config := fromEnv env "RDMA_INTERCEPT_ENABLE_MR_CONTROL" envEnableMrControl config
  let config := fromEnv env "RDMA_INTERCEPT_MAX_MR_PER_PROCESS" envMaxMrPerProcess config
  let config := fromEnv env "RDMA_INTERCEPT_MAX_MEMORY_PER_PROCESS" envMaxMemoryPerProcess config
  fromEnv env "RDMA_INTERCEPT_LOG_FILE_PATH" parseLogFilePath config

/-! ## The file -/

/-- The contents of the files that can be opened, by their paths. -/
abbrev Files : Type := Bytes → Option Bytes

/-- The file that is read: the one that is named, or the default one, and else the one that
`RDMA_INTERCEPT_CONFIG` names.
SOURCE: config.c:355-376 -/
def openConfig (env : Environment) (files : Files) (configFile : Option Bytes) : Option Bytes :=
  match files (configFile.getD (text "/etc/rdma_intercept.conf")) with
  | some file => some file
  | none => (getenv env "RDMA_INTERCEPT_CONFIG").bind files

/-- The string that `fgets` has left in the buffer, up to the end of the line. -/
def configString (line : Bytes) : Bytes :=
  (terminated line).takeWhile fun c => c ≠ 13 && c ≠ 10

/-- A line that is not accepted leaves the configuration as it is. -/
def applyConfigLine (config : InterceptSettings) (line : Bytes) : InterceptSettings :=
  (parseConfigLine (configString line) config).getD config

/-- The configuration of the process afterwards.
SOURCE: config.c:348-414 -/
def rdmaInterceptLoadConfig (config : InterceptSettings) (env : Environment) (files : Files)
    (configFile : Option Bytes) : InterceptSettings :=
  let tempConfig := loadConfigFromEnv env config
  match openConfig env files configFile with
  | none => tempConfig
  | some file => (fgetsLines 1024 file).foldl applyConfigLine tempConfig

end RdmaIntercept.Model
