import RdmaIntercept.Analysis.ConfigLines

/-!
# Numeric settings

Six settings are numbers, four of them in a line of the file and all of them in an environment
variable.  A value is meant to be a decimal number in the range of its setting, with white
space around it, and everything else to be refused.  The code takes what `strtol` and
`strtoull` make of the front of the value.  A place reads a value as it is meant exactly when
whatever it takes is a row of digits in the range.
-/

set_option autoImplicit false

namespace RdmaIntercept.Analysis

open RdmaIntercept.Library RdmaIntercept.Library.CText RdmaIntercept.Model

/-! ## The places -/

/-- The limits that a line and a variable can give. -/
inductive LimitSetting
  | maxQpPerProcess
  | maxGlobalQp
  | maxSendWrLimit
  | maxRecvWrLimit
  deriving DecidableEq, Repr

def LimitSetting.setting : LimitSetting → Setting
  | .maxQpPerProcess => .maxQpPerProcess
  | .maxGlobalQp => .maxGlobalQp
  | .maxSendWrLimit => .maxSendWrLimit
  | .maxRecvWrLimit => .maxRecvWrLimit

def LimitSetting.store (max : UInt32) (config : InterceptSettings) :
    LimitSetting → InterceptSettings
  | .maxQpPerProcess => { config with maxQpPerProcess := max }
  | .maxGlobalQp => { config with maxGlobalQp := max }
  | .maxSendWrLimit => { config with maxSendWrLimit := max }
  | .maxRecvWrLimit => { config with maxRecvWrLimit := max }

/-- The places where a number is read: a line of the file, or a variable. -/
inductive NumericPlace
  | line (l : LimitSetting)
  | env (l : LimitSetting)
  | envMaxMrPerProcess
  | envMaxMemoryPerProcess
  deriving DecidableEq, Repr

/-- The environment with one variable. -/
def onlyVariable (variableName : String) (value : Bytes) : Environment := fun name =>
  if name = variableName then some value else none

namespace NumericPlace

/-- The string can stand there: it has no NUL, and in a line neither newline nor carriage
return. -/
def Carries (value : Bytes) : NumericPlace → Prop
  | line _ => ∀ c ∈ value, c ≠ 0 ∧ c ≠ 13 ∧ c ≠ 10
  | _ => (0 : UInt8) ∉ value

/-- The configuration after the place was read. -/
def read (value : Bytes) (config : InterceptSettings) : NumericPlace → InterceptSettings
  | line l => applyConfigLine config (l.setting.key.key ++ 61 :: value)
  | env l => loadConfigFromEnv (onlyVariable l.setting.variableName value) config
  | envMaxMrPerProcess =>
    loadConfigFromEnv (onlyVariable "RDMA_INTERCEPT_MAX_MR_PER_PROCESS" value) config
  | envMaxMemoryPerProcess =>
    loadConfigFromEnv (onlyVariable "RDMA_INTERCEPT_MAX_MEMORY_PER_PROCESS" value) config

/-- The configuration with the number in the setting. -/
def store (n : ℕ) (config : InterceptSettings) : NumericPlace → InterceptSettings
  | line l => l.store (UInt32.ofNat n) config
  | env l => l.store (UInt32.ofNat n) config
  | envMaxMrPerProcess => { config with maxMrPerProcess := UInt32.ofNat n }
  | envMaxMemoryPerProcess => { config with maxMemoryPerProcess := UInt64.ofNat n }

/-- The greatest number of the setting. -/
def max : NumericPlace → ℕ
  | envMaxMemoryPerProcess => 2 ^ 64 - 1
  | _ => 2 ^ 32 - 1

end NumericPlace

/-! ## What a value means -/

/-- The string is a row of digits. -/
def isDecimal (b : Bytes) : Bool := b ≠ [] && b.all isDigit

/-- A decimal number in the range is stored, and everything else leaves the configuration. -/
def NumericPlace.meant (value : Bytes) (config : InterceptSettings) (place : NumericPlace) :
    InterceptSettings :=
  let text := trimWhitespace value
  if isDecimal text ∧ 1 ≤ digitsValue text ∧ digitsValue text ≤ place.max then
    place.store (digitsValue text) config
  else config

/-- The place reads the value as it is meant, whatever the configuration was. -/
def ReadsDecimal (place : NumericPlace) (value : Bytes) : Prop :=
  ∀ config, place.read value config = place.meant value config

/-- The place takes a number with this sign and this absolute value: a limit takes those of its
range, the limit on memory all but zero. -/
def NumericPlace.Takes (negative : Bool) (v : ℕ) : NumericPlace → Prop
  | .envMaxMemoryPerProcess => 0 < v
  | _ => negative = false ∧ 0 < v ∧ v < 2 ^ 32

instance (place : NumericPlace) (negative : Bool) (v : ℕ) : Decidable (place.Takes negative v) :=
  match place with
  | .envMaxMemoryPerProcess => inferInstanceAs (Decidable (0 < v))
  | .line _ => inferInstanceAs (Decidable (_ ∧ _))
  | .env _ => inferInstanceAs (Decidable (_ ∧ _))
  | .envMaxMrPerProcess => inferInstanceAs (Decidable (_ ∧ _))

/-- When the number at the front of the value is one that the place takes, the value is a row
of digits and the number is in the range. -/
def PlainWhenTaken (place : NumericPlace) (value : Bytes) : Prop :=
  ∀ negative v, scanValue value = some (negative, v) → place.Takes negative v →
    isDecimal (trimWhitespace value) = true ∧ v ≤ place.max

variable {value : Bytes} {config : InterceptSettings} {place : NumericPlace}

/-! ## Numbers and white space -/

/-- White space around a number does not count. -/
theorem scanValue_rdropWhile (b : Bytes) : scanValue (b.rdropWhile isSpace) = scanValue b := by
  have hspaces : ∀ c ∈ b.rtakeWhile isSpace, isSpace c = true := fun c hc =>
    List.mem_rtakeWhile_imp hc
  have hsplit : b.rdropWhile isSpace ++ b.rtakeWhile isSpace = b :=
    List.rdropWhile_append_rtakeWhile
  calc scanValue (b.rdropWhile isSpace) =
        scanValue (b.rdropWhile isSpace ++ b.rtakeWhile isSpace) :=
      (scanValue_append_spaces hspaces).symm
    _ = scanValue b := by rw [hsplit]

theorem scanValue_trimWhitespace (b : Bytes) : scanValue (trimWhitespace b) = scanValue b := by
  rw [trimWhitespace, scanValue_rdropWhile]
  exact scanValue_skipSpaces b

/-- A row of digits is read as its number. -/
theorem scanValue_of_isDecimal (h : isDecimal (trimWhitespace value) = true) :
    scanValue value = some (false, digitsValue (trimWhitespace value)) := by
  obtain ⟨hne, hdigits⟩ := Bool.and_eq_true_iff.mp h
  have hread : scanNumber (trimWhitespace value ++ []) = _ :=
    scanNumber_digits (by simpa using hne) (by simpa using hdigits) fun c hc => by simp at hc
  rw [← scanValue_trimWhitespace, scanValue]
  rw [List.append_nil] at hread
  rw [hread]
  rfl

/-- What `strtol` makes of a limit. -/
theorem parseLimit_eq (b : Bytes) :
    parseLimit b =
      match scanValue b with
      | some (negative, v) =>
        if negative = false ∧ 0 < v ∧ v < 2 ^ 32 then some (UInt32.ofNat v) else none
      | none => none := by
  unfold parseLimit strtol scanValue
  cases scanNumber b with
  | none => rfl
  | some r =>
    obtain ⟨negative, v, rest⟩ := r
    cases negative with
    | true => simp
    | false =>
      by_cases hrange : 0 < v ∧ v < 2 ^ 32
      · have hvalue : min (2 ^ 63 - 1) (v : ℤ) = v := by omega
        have htaken : ¬ ((v : ℤ) ≤ 0 ∨ 2 ^ 32 - 1 < (v : ℤ)) := by omega
        have hsmall : ((v : ℤ) % 2 ^ 32).toNat = v := by omega
        have hword : UInt32.ofInt v = UInt32.ofNat v := by rw [UInt32.ofInt, hsmall]
        simp only [hvalue, if_neg htaken, hword, Option.map_some, hrange, and_self, if_true]
      · have hrefused : min (2 ^ 63 - 1) (v : ℤ) ≤ 0 ∨ 2 ^ 32 - 1 < min (2 ^ 63 - 1) (v : ℤ) := by
          omega
        simp only [if_pos hrefused, Option.map_some, hrange, and_false, if_false]

/-- What `strtoull` makes of the limit on memory. -/
theorem strtoull_eq (b : Bytes) :
    strtoull b =
      match scanValue b with
      | some (negative, v) => unsignedValue negative v
      | none => 0 := by
  unfold strtoull scanValue
  cases scanNumber b <;> rfl

/-- The number is zero only when zero was read. -/
theorem unsignedValue_pos_iff {negative : Bool} {v : ℕ} :
    0 < unsignedValue negative v ↔ 0 < v := by
  unfold unsignedValue
  rw [UInt64.lt_iff_toNat_lt, UInt64.toNat_zero]
  split_ifs
  · exact iff_of_true (by decide) (by omega)
  · have hsize : UInt64.size = 2 ^ 64 := rfl
    rw [UInt64.toNat_neg, UInt64.toNat_ofNat', hsize]
    omega
  · rw [UInt64.toNat_ofNat']
    omega

/-- A positive number that fits is what was read. -/
theorem unsignedValue_of_lt {v : ℕ} (h : v < 2 ^ 64) : unsignedValue false v = UInt64.ofNat v := by
  rw [unsignedValue, if_neg (by omega), if_neg Bool.false_ne_true]

/-! ## What the places do -/

/-- The names of the rows stand as they are in a line. -/
theorem key_plain (row : ConfigKey) :
    (∃ c rest, row.key = c :: rest ∧ isSpace c = false ∧ c ≠ 35 ∧ c ≠ 59) ∧
      (∀ c ∈ row.key, c ≠ 61 ∧ c ≠ 0 ∧ c ≠ 13 ∧ c ≠ 10) ∧ trimWhitespace row.key = row.key := by
  have hall : ∀ row ∈ configTable,
      (row.key.head?.any fun c => !isSpace c && c != 35 && c != 59) ∧
        (∀ c ∈ row.key, c ≠ 61 ∧ c ≠ 0 ∧ c ≠ 13 ∧ c ≠ 10) ∧ trimWhitespace row.key = row.key := by
    decide +kernel
  obtain ⟨hhead, hchars, htrim⟩ := hall row (mem_configTable row)
  refine ⟨?_, hchars, htrim⟩
  cases hkey : row.key with
  | nil => simp [hkey] at hhead
  | cons c rest => exact ⟨c, rest, rfl, by simpa [hkey, and_assoc] using hhead⟩

/-- A line is the name of a row, an equals sign and a value. -/
theorem assignment_line (row : ConfigKey) (value : Bytes) :
    assignment (row.key ++ 61 :: value) = some (row, trimWhitespace (value.rdropWhile isSpace)) := by
  obtain ⟨⟨c, rest, hkey, hspace, hhash, hsemicolon⟩, hchars, hname⟩ := key_plain row
  have htrim : trimWhitespace (row.key ++ 61 :: value) =
      row.key ++ 61 :: value.rdropWhile isSpace := by
    have hfront : (row.key ++ 61 :: value).dropWhile isSpace = row.key ++ 61 :: value := by
      rw [hkey, List.cons_append]
      exact List.dropWhile_cons_of_neg (by simp [hspace])
    rw [trimWhitespace, hfront]
    exact rdropWhile_append_cons_of_neg (by decide) row.key value
  have hequals : ∀ c ∈ row.key, decide (c ≠ 61) = true := fun c hc => by
    simpa using (hchars c hc).1
  have hfind : (configTable.find? fun other => sameIgnoringCase row.key other.key) = some row :=
    find_configTable (by simp [sameIgnoringCase])
  unfold assignment
  rw [htrim]
  have hcomment : ¬ ((row.key ++ 61 :: value.rdropWhile isSpace).head? = some 35 ∨
      (row.key ++ 61 :: value.rdropWhile isSpace).head? = some 59 ∨
      61 ∉ row.key ++ 61 :: value.rdropWhile isSpace) := by
    simp [hkey, hhash, hsemicolon]
  have hbefore : (row.key ++ 61 :: value.rdropWhile isSpace).takeWhile (· ≠ 61) = row.key := by
    rw [List.takeWhile_append_of_pos hequals]
    simp
  have hbehind : (row.key ++ 61 :: value.rdropWhile isSpace).dropWhile (· ≠ 61) =
      61 :: value.rdropWhile isSpace := by
    rw [List.dropWhile_append_of_pos hequals]
    simp
  simp only [if_neg hcomment, hbefore, hbehind, hname, hfind, List.tail_cons, Option.map_some]

theorem applyConfigLine_line (row : ConfigKey) (hvalue : ∀ c ∈ value, c ≠ 0 ∧ c ≠ 13 ∧ c ≠ 10)
    (config : InterceptSettings) :
    applyConfigLine config (row.key ++ 61 :: value) =
      (row.parser (trimWhitespace (value.rdropWhile isSpace)) config).getD config := by
  have hline : ∀ c ∈ row.key ++ 61 :: value, c ≠ 0 ∧ c ≠ 13 ∧ c ≠ 10 := by
    intro c hc
    rcases List.mem_append.mp hc with hkey | hrest
    · exact ((key_plain row).2.1 c hkey).2
    · rcases List.mem_cons.mp hrest with rfl | hmem
      · decide
      · exact hvalue c hmem
  rw [applyConfigLine_eq, configString_of_notMem hline, applyAssignment, assignment_line]

section Environment

variable {variableName : String}
  {parser : Bytes → InterceptSettings → Option InterceptSettings}

theorem fromEnv_onlyVariable (hvalue : (0 : UInt8) ∉ value) :
    fromEnv (onlyVariable variableName value) variableName parser config =
      (parser value config).getD config := by
  simp [fromEnv, getenv, onlyVariable, terminated_of_notMem hvalue]

theorem fromEnv_otherVariable {other : String} (h : other ≠ variableName) :
    fromEnv (onlyVariable variableName value) other parser config = config := by
  simp [fromEnv, getenv, onlyVariable, h]

theorem loadConfigFromEnv_limit (l : LimitSetting) (hvalue : (0 : UInt8) ∉ value)
    (config : InterceptSettings) :
    loadConfigFromEnv (onlyVariable l.setting.variableName value) config =
      (l.setting.key.parser value config).getD config := by
  cases l <;>
    simp [loadConfigFromEnv, LimitSetting.setting, Setting.variableName, Setting.key,
      ConfigKey.parser, fromEnv_onlyVariable hvalue, fromEnv_otherVariable]

theorem loadConfigFromEnv_maxMr (hvalue : (0 : UInt8) ∉ value) (config : InterceptSettings) :
    loadConfigFromEnv (onlyVariable "RDMA_INTERCEPT_MAX_MR_PER_PROCESS" value) config =
      (envMaxMrPerProcess value config).getD config := by
  simp [loadConfigFromEnv, fromEnv_onlyVariable hvalue, fromEnv_otherVariable]

theorem loadConfigFromEnv_maxMemory (hvalue : (0 : UInt8) ∉ value) (config : InterceptSettings) :
    loadConfigFromEnv (onlyVariable "RDMA_INTERCEPT_MAX_MEMORY_PER_PROCESS" value) config =
      (envMaxMemoryPerProcess value config).getD config := by
  simp [loadConfigFromEnv, fromEnv_onlyVariable hvalue, fromEnv_otherVariable]

end Environment

theorem parser_limit (l : LimitSetting) (b : Bytes) (config : InterceptSettings) :
    l.setting.key.parser b config = (parseLimit b).map fun max => l.store max config := by
  cases l <;> rfl

/-- A limit is stored when its number is in the range. -/
theorem getD_map_parseLimit (store : UInt32 → InterceptSettings) (b : Bytes)
    (config : InterceptSettings) :
    ((parseLimit b).map store).getD config =
      match scanValue b with
      | some (negative, v) =>
        if negative = false ∧ 0 < v ∧ v < 2 ^ 32 then store (UInt32.ofNat v) else config
      | none => config := by
  rw [parseLimit_eq]
  cases scanValue b with
  | none => rfl
  | some r =>
    obtain ⟨negative, v⟩ := r
    dsimp only
    split_ifs <;> rfl

/-- The number that a place stores, when it takes it. -/
def NumericPlace.taken (negative : Bool) (v : ℕ) : NumericPlace → ℕ
  | .envMaxMemoryPerProcess => (unsignedValue negative v).toNat
  | _ => v

/-- A place stores the number that it takes, and leaves the configuration otherwise. -/
theorem read_eq (h : place.Carries value) (config : InterceptSettings) :
    place.read value config =
      match scanValue value with
      | some (negative, v) =>
        if place.Takes negative v then place.store (place.taken negative v) config else config
      | none => config := by
  cases place with
  | line l =>
    have hread := applyConfigLine_line l.setting.key h config
    rw [parser_limit, getD_map_parseLimit, scanValue_trimWhitespace, scanValue_rdropWhile] at hread
    exact hread
  | env l =>
    have hread := loadConfigFromEnv_limit l h config
    rw [parser_limit, getD_map_parseLimit] at hread
    exact hread
  | envMaxMrPerProcess =>
    have hread := loadConfigFromEnv_maxMr h config
    rw [envMaxMrPerProcess, getD_map_parseLimit] at hread
    exact hread
  | envMaxMemoryPerProcess =>
    have hread := loadConfigFromEnv_maxMemory h config
    rw [envMaxMemoryPerProcess, strtoull_eq] at hread
    cases hscan : scanValue value with
    | none =>
      rw [hscan] at hread
      exact hread
    | some r =>
      obtain ⟨negative, v⟩ := r
      rw [hscan] at hread
      by_cases htaken : 0 < v
      · have hpos : 0 < unsignedValue negative v := unsignedValue_pos_iff.mpr htaken
        have htakes : NumericPlace.envMaxMemoryPerProcess.Takes negative v := htaken
        simp only [if_pos hpos, Option.getD_some] at hread
        simp only [if_pos htakes, NumericPlace.taken, NumericPlace.store, UInt64.ofNat_toNat]
        exact hread
      · have hzero : ¬ 0 < unsignedValue negative v := mt unsignedValue_pos_iff.mp htaken
        have hrefuses : ¬ NumericPlace.envMaxMemoryPerProcess.Takes negative v := htaken
        simp only [if_neg hzero, Option.getD_none] at hread
        simp only [if_neg hrefuses]
        exact hread

/-! ## Reading as meant -/

theorem takes_pos {negative : Bool} {v : ℕ} (h : place.Takes negative v) : 0 < v := by
  cases place with
  | line l => exact h.2.1
  | env l => exact h.2.1
  | envMaxMrPerProcess => exact h.2.1
  | envMaxMemoryPerProcess => exact h

/-- Every number of the range is taken. -/
theorem takes_of_range {v : ℕ} (hpos : 1 ≤ v) (hmax : v ≤ place.max) : place.Takes false v := by
  cases place with
  | line l => exact ⟨rfl, hpos, by simp only [NumericPlace.max] at hmax; omega⟩
  | env l => exact ⟨rfl, hpos, by simp only [NumericPlace.max] at hmax; omega⟩
  | envMaxMrPerProcess => exact ⟨rfl, hpos, by simp only [NumericPlace.max] at hmax; omega⟩
  | envMaxMemoryPerProcess => exact hpos

/-- A number of the range is stored as it is. -/
theorem store_taken {v : ℕ} (hmax : v ≤ place.max) (config : InterceptSettings) :
    place.store (place.taken false v) config = place.store v config := by
  cases place with
  | line l => rfl
  | env l => rfl
  | envMaxMrPerProcess => rfl
  | envMaxMemoryPerProcess =>
    simp only [NumericPlace.max] at hmax
    rw [NumericPlace.taken, unsignedValue_of_lt (by omega), NumericPlace.store, NumericPlace.store,
      UInt64.ofNat_toNat]

theorem ne_add_one32 (v : UInt32) : v ≠ v + 1 := by
  intro h
  have hnat := congrArg UInt32.toNat h
  rw [UInt32.toNat_add, UInt32.toNat_one] at hnat
  have hlt := v.toNat_lt
  omega

theorem ne_add_one64 (v : UInt64) : v ≠ v + 1 := by
  intro h
  have hnat := congrArg UInt64.toNat h
  rw [UInt64.toNat_add, UInt64.toNat_one] at hnat
  have hlt := v.toNat_lt
  omega

theorem exists_limit_store_ne (l : LimitSetting) (max : UInt32) :
    ∃ config, l.store max config ≠ config := by
  refine ⟨l.store (max + 1) .default, fun h => ne_add_one32 max ?_⟩
  cases l with
  | maxQpPerProcess => exact congrArg (fun config => config.maxQpPerProcess) h
  | maxGlobalQp => exact congrArg (fun config => config.maxGlobalQp) h
  | maxSendWrLimit => exact congrArg (fun config => config.maxSendWrLimit) h
  | maxRecvWrLimit => exact congrArg (fun config => config.maxRecvWrLimit) h

/-- Whatever a place stores, there is a configuration that it changes. -/
theorem exists_store_ne (place : NumericPlace) (n : ℕ) : ∃ config, place.store n config ≠ config := by
  cases place with
  | line l => exact exists_limit_store_ne l (UInt32.ofNat n)
  | env l => exact exists_limit_store_ne l (UInt32.ofNat n)
  | envMaxMrPerProcess =>
    refine ⟨{ InterceptSettings.default with maxMrPerProcess := UInt32.ofNat n + 1 }, fun h => ?_⟩
    exact ne_add_one32 _ (congrArg (fun config => config.maxMrPerProcess) h)
  | envMaxMemoryPerProcess =>
    refine ⟨{ InterceptSettings.default with maxMemoryPerProcess := UInt64.ofNat n + 1 },
      fun h => ?_⟩
    exact ne_add_one64 _ (congrArg (fun config => config.maxMemoryPerProcess) h)

end RdmaIntercept.Analysis
