import RdmaIntercept.Library.LastWrite
import RdmaIntercept.Model.Config

/-!
# The precedence of the environment

Nine settings can be given by an environment variable and by a line of the configuration
file.  The variables are read first, and the lines of the file are then parsed into the same
configuration, one after the other.  So a setting with a valid variable has the value of the
variable exactly when no file is opened, or when its last valid line, if it has one, gives
that value.
-/

set_option autoImplicit false

namespace RdmaIntercept.Analysis

open RdmaIntercept.Library RdmaIntercept.Library.CText RdmaIntercept.Model

/-- The settings that can be given in both places. -/
inductive Setting
  | enableQpControl
  | maxQpPerProcess
  | maxGlobalQp
  | maxSendWrLimit
  | maxRecvWrLimit
  | allowRcQp
  | allowUcQp
  | allowUdQp
  | logFilePath
  deriving DecidableEq, Repr

inductive SettingValue
  | flag (on : Bool)
  | limit (max : UInt32)
  | path (p : Bytes)
  deriving DecidableEq

namespace Setting

/-- The row of the table that parses the setting. -/
def key : Setting → ConfigKey
  | enableQpControl => .enableQpControl
  | maxQpPerProcess => .maxQpPerProcess
  | maxGlobalQp => .maxGlobalQp
  | maxSendWrLimit => .maxSendWrLimit
  | maxRecvWrLimit => .maxRecvWrLimit
  | allowRcQp => .allowRcQp
  | allowUcQp => .allowUcQp
  | allowUdQp => .allowUdQp
  | logFilePath => .logFilePath

def variableName : Setting → String
  | enableQpControl => "RDMA_INTERCEPT_ENABLE_QP_CONTROL"
  | maxQpPerProcess => "RDMA_INTERCEPT_MAX_QP_PER_PROCESS"
  | maxGlobalQp => "RDMA_INTERCEPT_MAX_GLOBAL_QP"
  | maxSendWrLimit => "RDMA_INTERCEPT_MAX_SEND_WR_LIMIT"
  | maxRecvWrLimit => "RDMA_INTERCEPT_MAX_RECV_WR_LIMIT"
  | allowRcQp => "RDMA_INTERCEPT_ALLOW_RC_QP"
  | allowUcQp => "RDMA_INTERCEPT_ALLOW_UC_QP"
  | allowUdQp => "RDMA_INTERCEPT_ALLOW_UD_QP"
  | logFilePath => "RDMA_INTERCEPT_LOG_FILE_PATH"

/-- The value of the setting in a configuration. -/
def get (config : InterceptSettings) : Setting → SettingValue
  | enableQpControl => .flag config.enableQpControl
  | maxQpPerProcess => .limit config.maxQpPerProcess
  | maxGlobalQp => .limit config.maxGlobalQp
  | maxSendWrLimit => .limit config.maxSendWrLimit
  | maxRecvWrLimit => .limit config.maxRecvWrLimit
  | allowRcQp => .flag config.allowRcQp
  | allowUcQp => .flag config.allowUcQp
  | allowUdQp => .flag config.allowUdQp
  | logFilePath => .path config.logFilePath

/-- The value that a string stands for. -/
def parse (value : Bytes) : Setting → Option SettingValue
  | enableQpControl => (parseBool value).map .flag
  | maxQpPerProcess => (parseLimit value).map .limit
  | maxGlobalQp => (parseLimit value).map .limit
  | maxSendWrLimit => (parseLimit value).map .limit
  | maxRecvWrLimit => (parseLimit value).map .limit
  | allowRcQp => (parseBool value).map .flag
  | allowUcQp => (parseBool value).map .flag
  | allowUdQp => (parseBool value).map .flag
  | logFilePath => (parseString value 256).map .path

/-- The value of a valid variable. -/
def envValue (setting : Setting) (env : Environment) : Option SettingValue :=
  (getenv env setting.variableName).bind fun value => setting.parse value

/-- The value that a valid line gives. -/
def lineValue (setting : Setting) (line : Bytes) : Option SettingValue :=
  let line := trimWhitespace (configString line)
  if isBlank line then none
  else
    match splitAtEquals line with
    | none => none
    | some (key, value) =>
      if sameIgnoringCase key setting.key.key then setting.parse value else none

/-- The value of the last valid line. -/
def fileValue (setting : Setting) (file : Bytes) : Option SettingValue :=
  lastWrite setting.lineValue (fgetsLines 1024 file)

end Setting

theorem Setting.key_injective : Function.Injective Setting.key := by
  intro a b h
  cases a <;> cases b <;>
    first
      | rfl
      | cases h

/-! ## Parsers -/

section Fields

variable {α β : Type} {config : InterceptSettings} {o : Option α} {store : α → InterceptSettings}
  (field : InterceptSettings → β)

/-- What is not stored into the field leaves it. -/
theorem getD_map_frame (h : ∀ a, field (store a) = field config) :
    field ((o.map store).getD config) = field config := by
  cases o with
  | none => rfl
  | some a => exact h a

/-- What is stored into the field is found there. -/
theorem getD_map_own {value : α → β} (h : ∀ a, field (store a) = value a) :
    field ((o.map store).getD config) = (o.map value).getD (field config) := by
  cases o with
  | none => rfl
  | some a => exact h a

end Fields

/-- A parser writes its own setting and no other. -/
theorem get_parsed (setting : Setting) (k : ConfigKey) (value : Bytes)
    (config : InterceptSettings) :
    setting.get ((k.parser value config).getD config) =
      if k = setting.key then (setting.parse value).getD (setting.get config)
      else setting.get config := by
  by_cases hk : k = setting.key
  · rw [if_pos hk, hk]
    cases setting <;> exact getD_map_own (fun config => Setting.get config _) fun _ => rfl
  · rw [if_neg hk]
    cases k <;> cases setting <;>
      first
        | exact absurd rfl hk
        | exact getD_map_frame (fun config => Setting.get config _) fun _ => rfl

/-! ## Lines -/

theorem mem_configTable (k : ConfigKey) : k ∈ configTable := by
  cases k <;> decide

/-- No two rows of the table have the same key, in whatever case. -/
theorem key_unique {name : Bytes} {k l : ConfigKey} (hk : sameIgnoringCase name k.key = true)
    (hl : sameIgnoringCase name l.key = true) : k = l := by
  have hnodup : (configTable.map fun k => k.key.map toLower).Nodup := by decide
  have hk' : name.map toLower = k.key.map toLower := by simpa [sameIgnoringCase] using hk
  have hl' : name.map toLower = l.key.map toLower := by simpa [sameIgnoringCase] using hl
  exact List.inj_on_of_nodup_map hnodup (mem_configTable k) (mem_configTable l)
    (hk'.symm.trans hl')

theorem key_of_find {name : Bytes} {k : ConfigKey}
    (h : (configTable.find? fun entry => sameIgnoringCase name entry.key) = some k) :
    sameIgnoringCase name k.key = true := by
  have hfound := List.find?_some h
  exact hfound

/-- The row of a key is the one that is found. -/
theorem find_configTable {name : Bytes} {k : ConfigKey}
    (h : sameIgnoringCase name k.key = true) :
    (configTable.find? fun entry => sameIgnoringCase name entry.key) = some k := by
  cases hfind : configTable.find? fun entry => sameIgnoringCase name entry.key with
  | none => exact absurd h (List.find?_eq_none.mp hfind k (mem_configTable k))
  | some l => rw [key_unique h (key_of_find hfind)]

/-- A line writes the setting that it gives validly, and no other. -/
theorem get_applyConfigLine (setting : Setting) (config : InterceptSettings) (line : Bytes) :
    setting.get (applyConfigLine config line) =
      (setting.lineValue line).getD (setting.get config) := by
  simp only [applyConfigLine, parseConfigLine, Setting.lineValue]
  generalize trimWhitespace (configString line) = line
  cases isBlank line with
  | true => rfl
  | false =>
    cases splitAtEquals line with
    | none => rfl
    | some parts =>
      obtain ⟨name, value⟩ := parts
      simp only [Bool.false_eq_true, if_false]
      by_cases hname : sameIgnoringCase name setting.key.key = true
      · simp only [find_configTable hname, hname, if_true, get_parsed]
      · rw [if_neg hname]
        cases hfind : configTable.find? fun entry => sameIgnoringCase name entry.key with
        | none => rfl
        | some k =>
          -- another row is found: its key is the name, and that of the setting is not
          have hk : k ≠ setting.key := by
            rintro rfl
            exact hname (key_of_find hfind)
          simp only [get_parsed, hk, if_false, Option.getD_none]

/-- A file writes the settings that its lines give validly, the last of them winning. -/
theorem get_configFile (setting : Setting) (config : InterceptSettings) (file : Bytes) :
    setting.get ((fgetsLines 1024 file).foldl applyConfigLine config) =
      (setting.fileValue file).getD (setting.get config) :=
  foldl_eq_lastWrite applyConfigLine (fun config => setting.get config)
    (get_applyConfigLine setting) config (fgetsLines 1024 file)

/-! ## The environment -/

section Environment

variable {setting : Setting} {env : Environment} {variableName : String}
  {parser : Bytes → InterceptSettings → Option InterceptSettings}

/-- A variable of another setting. -/
theorem get_fromEnv_frame
    (h : ∀ value config, setting.get ((parser value config).getD config) = setting.get config)
    (config : InterceptSettings) :
    setting.get (fromEnv env variableName parser config) = setting.get config := by
  unfold fromEnv
  cases getenv env variableName with
  | none => rfl
  | some value => exact h value config

/-- The variable of the setting itself, or of another one. -/
theorem get_fromEnv (other : Setting) (config : InterceptSettings) :
    setting.get (fromEnv env other.variableName other.key.parser config) =
      if other = setting then (setting.envValue env).getD (setting.get config)
      else setting.get config := by
  by_cases hother : other = setting
  · subst hother
    rw [if_pos rfl]
    unfold fromEnv Setting.envValue
    cases getenv env other.variableName with
    | none => rfl
    | some value =>
      change other.get ((other.key.parser value config).getD config) = _
      rw [get_parsed, if_pos rfl]
      rfl
  · rw [if_neg hother]
    apply get_fromEnv_frame
    intro value config
    rw [get_parsed, if_neg fun hkey => hother (Setting.key_injective hkey)]

theorem get_envEnableMrControl (config : InterceptSettings) :
    setting.get (fromEnv env variableName envEnableMrControl config) = setting.get config := by
  apply get_fromEnv_frame
  intro value config
  cases setting <;> exact getD_map_frame (fun config => Setting.get config _) fun _ => rfl

theorem get_envMaxMrPerProcess (config : InterceptSettings) :
    setting.get (fromEnv env variableName envMaxMrPerProcess config) = setting.get config := by
  apply get_fromEnv_frame
  intro value config
  cases setting <;> exact getD_map_frame (fun config => Setting.get config _) fun _ => rfl

theorem get_envMaxMemoryPerProcess (config : InterceptSettings) :
    setting.get (fromEnv env variableName envMaxMemoryPerProcess config) = setting.get config := by
  apply get_fromEnv_frame
  intro value config
  unfold envMaxMemoryPerProcess
  by_cases hpos : 0 < strtoull value
  · simp only [if_pos hpos]
    cases setting <;> rfl
  · simp only [if_neg hpos]
    rfl

end Environment

/-- The variables of the settings of the file, and between them those of memory. -/
theorem loadConfigFromEnv_eq (env : Environment) (config : InterceptSettings) :
    loadConfigFromEnv env config =
      fromEnv env Setting.logFilePath.variableName Setting.logFilePath.key.parser
        (fromEnv env "RDMA_INTERCEPT_MAX_MEMORY_PER_PROCESS" envMaxMemoryPerProcess
          (fromEnv env "RDMA_INTERCEPT_MAX_MR_PER_PROCESS" envMaxMrPerProcess
            (fromEnv env "RDMA_INTERCEPT_ENABLE_MR_CONTROL" envEnableMrControl
              ([.enableQpControl, .maxQpPerProcess, .maxGlobalQp, .maxSendWrLimit,
                .maxRecvWrLimit, .allowRcQp, .allowUcQp, .allowUdQp].foldl
                (fun config (s : Setting) => fromEnv env s.variableName s.key.parser config)
                config)))) := rfl

/-- A valid variable gives its setting; the others keep their values. -/
theorem get_loadConfigFromEnv (setting : Setting) (env : Environment)
    (config : InterceptSettings) :
    setting.get (loadConfigFromEnv env config) =
      (setting.envValue env).getD (setting.get config) := by
  rw [loadConfigFromEnv_eq, get_fromEnv, get_envMaxMemoryPerProcess, get_envMaxMrPerProcess,
    get_envEnableMrControl]
  cases setting <;> simp [get_fromEnv]

/-! ## Loading -/

/-- The loaded configuration has the value of the variable, when that is valid. -/
def EnvWins (setting : Setting) (config : InterceptSettings) (env : Environment) (files : Files)
    (configFile : Option Bytes) : Prop :=
  ∀ value, setting.envValue env = some value →
    setting.get (rdmaInterceptLoadConfig config env files configFile) = value

/-- The last valid line of the file that is opened, if there is one, gives the value of the
variable. -/
def FileAgrees (setting : Setting) (env : Environment) (files : Files)
    (configFile : Option Bytes) : Prop :=
  ∀ value file lastValue, setting.envValue env = some value →
    openConfig env files configFile = some file → setting.fileValue file = some lastValue →
      lastValue = value

/-- The value after loading: that of the file, else that of the environment, else the one
before. -/
theorem get_rdmaInterceptLoadConfig (setting : Setting) (config : InterceptSettings)
    (env : Environment) (files : Files) (configFile : Option Bytes) :
    setting.get (rdmaInterceptLoadConfig config env files configFile) =
      ((openConfig env files configFile).bind fun file => setting.fileValue file).getD
        ((setting.envValue env).getD (setting.get config)) := by
  unfold rdmaInterceptLoadConfig
  cases openConfig env files configFile with
  | none => exact get_loadConfigFromEnv setting env config
  | some file =>
    rw [Option.bind_some, ← get_loadConfigFromEnv]
    exact get_configFile setting (loadConfigFromEnv env config) file

/-- The environment takes precedence exactly when the file agrees with it. -/
theorem envWins_iff (setting : Setting) (config : InterceptSettings) (env : Environment)
    (files : Files) (configFile : Option Bytes) :
    EnvWins setting config env files configFile ↔ FileAgrees setting env files configFile := by
  unfold EnvWins FileAgrees
  rw [get_rdmaInterceptLoadConfig]
  constructor
  · intro hwins value file lastValue henv hopen hlast
    have hvalue := hwins value henv
    rw [hopen, Option.bind_some, hlast] at hvalue
    exact hvalue
  · intro hagrees value henv
    cases hopen : openConfig env files configFile with
    | none =>
      rw [henv]
      rfl
    | some file =>
      cases hlast : setting.fileValue file with
      | none =>
        rw [Option.bind_some, hlast, henv]
        rfl
      | some lastValue =>
        rw [Option.bind_some, hlast]
        exact hagrees value file lastValue henv hopen hlast

/-- A file that gives another limit than the variable. -/
theorem envWins_fileLater :
    ¬ ∀ (setting : Setting) (config : InterceptSettings) (env : Environment) (files : Files)
      (configFile : Option Bytes), EnvWins setting config env files configFile := by
  intro h
  let env : Environment := fun name =>
    if name = "RDMA_INTERCEPT_MAX_QP_PER_PROCESS" then some (text "5") else none
  let files : Files := fun _ => some (text "max_qp_per_process = 7\n")
  have hagrees := (envWins_iff .maxQpPerProcess .default env files none).mp (h _ _ _ _ _)
  have hlast : SettingValue.limit 7 = .limit 5 :=
    hagrees (.limit 5) (text "max_qp_per_process = 7\n") (.limit 7) (by decide) rfl (by decide)
  simp at hlast

end RdmaIntercept.Analysis
