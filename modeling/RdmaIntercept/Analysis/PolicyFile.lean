import RdmaIntercept.Analysis.PolicyLimits

/-!
# The policy file

A configuration is saved line by line and read back from the defaults.  The numbers are
written with the digits they have and read as 32-bit words, the limit on memory in whole
megabytes; all settings but that limit come back as they were, and the limit comes back cut
down to what the file can carry.
-/

set_option autoImplicit false

namespace RdmaIntercept.Analysis

open RdmaIntercept.Library RdmaIntercept.Library.CText RdmaIntercept.Library.LockM
  RdmaIntercept.Model

/-- The settings that the file has a line for. -/
structure SavedSettings where
  qpPerProcess : UInt32
  qpGlobal : UInt32
  mrPerProcess : UInt32
  mrGlobal : UInt32
  memory : UInt64
  autoAdjust : Bool
  adjustInterval : UInt32
  deriving DecidableEq, Repr

def savedSettings (c : DynamicPolicyConfig) : SavedSettings where
  qpPerProcess := c.qpPolicy.limit.maxPerProcess
  qpGlobal := c.qpPolicy.limit.maxGlobal
  mrPerProcess := c.mrPolicy.limit.maxPerProcess
  mrGlobal := c.mrPolicy.limit.maxGlobal
  memory := c.memoryPolicy.limit.maxMemory
  autoAdjust := c.autoAdjust
  adjustInterval := c.adjustInterval

/-- The configuration is saved to a file that opens, the defaults are restored and the file is
loaded. -/
def saveAndLoad (t : Thread) (now : TimeT) : PolicyM Int32 := do
  let (_, file) ← dynamicPolicySaveConfig t true
  discard (dynamicPolicySetDefault t now)
  dynamicPolicyLoadConfig t file

/-! ## The lines of the file -/

/-- A line without its newline. -/
def policyLine (key : Bytes) (n : ℕ) : Bytes := key ++ 32 :: decimal n

/-- The keys and the numbers of the configuration, in the order in which they are written. -/
def printedSettings (c : DynamicPolicyConfig) : List (String × ℕ) :=
  [("max_qp_per_process", c.qpPolicy.limit.maxPerProcess.toNat),
    ("max_global_qp", c.qpPolicy.limit.maxGlobal.toNat),
    ("max_mr_per_process", c.mrPolicy.limit.maxPerProcess.toNat),
    ("max_global_mr", c.mrPolicy.limit.maxGlobal.toNat),
    ("max_memory_mb", (c.memoryPolicy.limit.maxMemory / (1024 * 1024)).toNat),
    ("auto_adjust", if c.autoAdjust then 1 else 0),
    ("adjust_interval", c.adjustInterval.toNat)]

def policyLines (c : DynamicPolicyConfig) : List Bytes :=
  text "# RDMA Dynamic Policy Configuration" ::
    (printedSettings c).map fun r => policyLine (text r.1) r.2

theorem policyFile_eq (c : DynamicPolicyConfig) :
    policyFile c = (policyLines c).flatMap fun line => line ++ [10] := by
  have hcomment : text "# RDMA Dynamic Policy Configuration\n" =
      text "# RDMA Dynamic Policy Configuration" ++ [10] := by decide
  have hend : text "\n" = [10] := by decide
  have hqp : text "max_qp_per_process " = text "max_qp_per_process" ++ [32] := by decide
  have hglobalQp : text "max_global_qp " = text "max_global_qp" ++ [32] := by decide
  have hmr : text "max_mr_per_process " = text "max_mr_per_process" ++ [32] := by decide
  have hglobalMr : text "max_global_mr " = text "max_global_mr" ++ [32] := by decide
  have hmemory : text "max_memory_mb " = text "max_memory_mb" ++ [32] := by decide
  have hadjust : text "auto_adjust " = text "auto_adjust" ++ [32] := by decide
  have hinterval : text "adjust_interval " = text "adjust_interval" ++ [32] := by decide
  unfold policyFile policyLines printedSettings policyLine
  simp only [hcomment, hend, hqp, hglobalQp, hmr, hglobalMr, hmemory, hadjust, hinterval,
    List.map_cons, List.map_nil, List.flatMap_cons, List.flatMap_nil, List.append_assoc, List.cons_append, List.nil_append,
    List.append_nil]

/-- A key that is read back as it was written. -/
structure KeyWord (key : Bytes) : Prop where
  nonempty : key ≠ []
  short : key.length ≤ 63
  word : ∀ c ∈ key, isSpace c = false ∧ c ≠ 0 ∧ c ≠ 35

theorem notMem_policyLine {key : Bytes} {n : ℕ} {c : UInt8} (hkey : c ∉ key) (hspace : c ≠ 32)
    (hdigit : isDigit c = false) : c ∉ policyLine key n := by
  rw [policyLine, List.mem_append, List.mem_cons]
  rintro (hmem | rfl | hmem)
  · exact hkey hmem
  · exact hspace rfl
  · exact notMem_decimal hdigit hmem

/-- A line is read as the key and the low half of the number. -/
theorem policySetting_policyLine {key : Bytes} (h : KeyWord key) {n : ℕ} (hn : n < 2 ^ 64) :
    policySetting (policyLine key n ++ [10]) = some (key, UInt32.ofNat n) := by
  have hnul : (0 : UInt8) ∉ policyLine key n ++ [10] := by
    rw [List.mem_append, not_or]
    exact ⟨notMem_policyLine (fun hmem => (h.word 0 hmem).2.1 rfl) (by decide) (by decide),
      by decide⟩
  have hhead : ¬ ((policyLine key n ++ [10]).head? = some 35 ∨
      (policyLine key n ++ [10]).head? = some 10) := by
    have hfront : (policyLine key n ++ [10]).head? = key.head? := by
      rw [policyLine, List.append_assoc, List.head?_append_of_ne_nil _ h.nonempty]
    rw [hfront]
    rintro (hhash | hnewline)
    · exact (h.word 35 (List.mem_of_head? hhash)).2.2 rfl
    · exact absurd (h.word 10 (List.mem_of_head? hnewline)).1 (by decide)
  have hword : scanWord 63 (policyLine key n ++ [10]) = some (key, 32 :: decimal n ++ [10]) := by
    rw [policyLine, List.append_assoc]
    exact scanWord_append (fun c hc => (h.word c hc).1) h.nonempty h.short (by decide)
  have hnumber : scanUnsigned (32 :: decimal n ++ [10]) = some (UInt32.ofNat n) := by
    have hskip : skipSpaces (32 :: decimal n ++ [10]) = skipSpaces (decimal n ++ [10]) := by
      simp [skipSpaces, isSpace]
    rw [← scanUnsigned_skipSpaces, hskip, scanUnsigned_skipSpaces]
    apply scanUnsigned_decimal_ofNat hn
    intro c hc
    obtain rfl : 10 = c := by simpa using hc
    decide
  rw [policySetting, if_neg hhead, terminated_of_notMem hnul, scanPolicyLine, hword]
  simp only [hnumber, Option.map_some]

theorem applyPolicyLine_policyLine {key : Bytes} (h : KeyWord key) {n : ℕ} (hn : n < 2 ^ 64)
    (c : DynamicPolicyConfig) :
    applyPolicyLine c (policyLine key n ++ [10]) =
      applyPolicySetting c key (UInt32.ofNat n) := by
  rw [applyPolicyLine, policySetting_policyLine h hn]

/-- The comment at the top has no effect. -/
theorem applyPolicyLine_comment (c : DynamicPolicyConfig) :
    applyPolicyLine c (text "# RDMA Dynamic Policy Configuration" ++ [10]) = c := rfl

theorem policyLine_fits {key : Bytes} (h : KeyWord key) {n : ℕ} (hn : n < 2 ^ 64) :
    (10 : UInt8) ∉ policyLine key n ∧ (policyLine key n).length < 256 - 1 := by
  have hkey : (10 : UInt8) ∉ key := fun hmem => absurd (h.word 10 hmem).1 (by decide)
  have hshort := h.short
  have hdigits : (decimal n).length ≤ 20 := length_decimal_le (by omega) (by omega)
  refine ⟨notMem_policyLine hkey (by decide) (by decide), ?_⟩
  rw [policyLine, List.length_append, List.length_cons]
  omega

/-! ## The whole file -/

/-- The keys are words, and the numbers are read in 64 bits. -/
theorem printedSettings_readable (c : DynamicPolicyConfig) :
    ∀ r ∈ printedSettings c, KeyWord (text r.1) ∧ r.2 < 2 ^ 64 := by
  have hkeys : ∀ key ∈ (printedSettings c).map Prod.fst,
      text key ≠ [] ∧ (text key).length ≤ 63 ∧
        ∀ d ∈ text key, isSpace d = false ∧ d ≠ 0 ∧ d ≠ 35 := by
    simp only [printedSettings, List.map_cons, List.map_nil]
    decide +kernel
  have hword (v : UInt32) : v.toNat < 2 ^ 64 := lt_trans v.toNat_lt (by decide)
  have hlong (v : UInt64) : v.toNat < 2 ^ 64 := v.toNat_lt
  have hflag (b : Bool) : (if b then 1 else 0) < 2 ^ 64 := by cases b <;> decide
  have hnumbers : ∀ n ∈ (printedSettings c).map Prod.snd, n < 2 ^ 64 := by
    simp only [printedSettings, List.map_cons, List.map_nil, List.forall_mem_cons, hword, hlong,
      hflag, true_and]
    exact List.forall_mem_nil _
  intro r hr
  obtain ⟨hne, hshort, hchars⟩ := hkeys r.1 (List.mem_map_of_mem hr)
  exact ⟨⟨hne, hshort, hchars⟩, hnumbers r.2 (List.mem_map_of_mem hr)⟩

/-- A file that was saved is loaded setting by setting. -/
theorem loadPolicyFile_policyFile (c c' : DynamicPolicyConfig) :
    loadPolicyFile c' (policyFile c) =
      (printedSettings c).foldl
        (fun c r => applyPolicySetting c (text r.1) (UInt32.ofNat r.2)) c' := by
  have hfit : ∀ line ∈ policyLines c, (10 : UInt8) ∉ line ∧ line.length < 256 - 1 := by
    intro line hline
    rcases List.mem_cons.mp hline with rfl | hprinted
    · decide
    · obtain ⟨r, hr, rfl⟩ := List.mem_map.mp hprinted
      obtain ⟨hkey, hn⟩ := printedSettings_readable c r hr
      exact policyLine_fits hkey hn
  rw [loadPolicyFile, policyFile_eq, fgetsLines_flatMap hfit, List.foldl_map, policyLines,
    List.foldl_cons, applyPolicyLine_comment, List.foldl_map]
  apply List.foldl_ext
  intro c r hr
  obtain ⟨hkey, hn⟩ := printedSettings_readable _ r hr
  exact applyPolicyLine_policyLine hkey hn c

/-- The limit on memory is written in megabytes and read in 32 bits. -/
theorem loadedMemory_eq (memory : UInt64) :
    (UInt32.ofNat (memory / (1024 * 1024)).toNat).toUInt64 * 1024 * 1024 =
      UInt64.ofNat (memory.toNat / 2 ^ 20 % 2 ^ 32 * 2 ^ 20) := by
  apply UInt64.toNat_inj.mp
  have hmegabyte : (1024 * 1024 : UInt64).toNat = 2 ^ 20 := by decide
  rw [UInt64.toNat_mul, UInt64.toNat_mul, UInt32.toNat_toUInt64, UInt32.toNat_ofNat',
    UInt64.toNat_div, hmegabyte, UInt64.toNat_ofNat']
  simp only [UInt64.reduceToNat]
  omega

/-- What comes back: all that was saved, but the limit on memory in whole megabytes, the number
of which was cut to 32 bits. -/
theorem savedSettings_loadPolicyFile (c c' : DynamicPolicyConfig) :
    savedSettings (loadPolicyFile c' (policyFile c)) =
      { savedSettings c with
        memory :=
          UInt64.ofNat (c.memoryPolicy.limit.maxMemory.toNat / 2 ^ 20 % 2 ^ 32 * 2 ^ 20) } := by
  rw [loadPolicyFile_policyFile, ← loadedMemory_eq]
  cases hflag : c.autoAdjust <;>
    simp +decide [printedSettings, hflag, applyPolicySetting, DynamicPolicyConfig.modifyRule,
      savedSettings]

/-! ## Saving and loading -/

variable {d : PolicyManager} {t : Thread} {now : TimeT}

theorem run_saveAndLoad :
    (saveAndLoad t now).run ⟨allFree, d⟩ =
      .ok 0
        ⟨allFree,
          { d with config := loadPolicyFile (setDefaultConfig now) (policyFile d.config) }⟩ := by
  simp [saveAndLoad, dynamicPolicySaveConfig, dynamicPolicySetDefault, dynamicPolicyLoadConfig,
    changeConfig]

/-- The run, by the settings that it leaves. -/
theorem saveAndLoad_outcome (d : PolicyManager) (t : Thread) (now : TimeT) :
    ∃ c : DynamicPolicyConfig,
      (saveAndLoad t now).run ⟨allFree, d⟩ = .ok 0 ⟨allFree, { d with config := c }⟩ ∧
        savedSettings c =
          { savedSettings d.config with
            memory :=
              UInt64.ofNat ((savedSettings d.config).memory.toNat / 2 ^ 20 % 2 ^ 32 * 2 ^ 20) } :=
  ⟨loadPolicyFile (setDefaultConfig now) (policyFile d.config), run_saveAndLoad,
    savedSettings_loadPolicyFile d.config (setDefaultConfig now)⟩

/-- The settings come back as they were. -/
def RestoresSettings (s : PolicySystem) (t : Thread) (now : TimeT) : Prop :=
  ∃ s', (saveAndLoad t now).run s = .ok 0 s' ∧
    savedSettings s'.data.config = savedSettings s.data.config

/-- Saving and loading succeeds and brings back every setting, the limit on memory rounded down
to a whole number of megabytes when that number is one of 32 bits. -/
theorem saveAndLoad_restores (d : PolicyManager) (t : Thread) (now : TimeT) :
    ∃ s', (saveAndLoad t now).run ⟨allFree, d⟩ = .ok 0 s' ∧
      ∃ memory : UInt64,
        savedSettings s'.data.config = { savedSettings d.config with memory := memory } ∧
        ((savedSettings d.config).memory.toNat / 2 ^ 20 < 2 ^ 32 →
          memory.toNat = (savedSettings d.config).memory.toNat / 2 ^ 20 * 2 ^ 20) := by
  obtain ⟨c, hrun, hsaved⟩ := saveAndLoad_outcome d t now
  refine ⟨_, hrun, _, hsaved, ?_⟩
  intro hfits
  have hlt := (savedSettings d.config).memory.toNat_lt
  rw [UInt64.toNat_ofNat', Nat.mod_eq_of_lt (b := 2 ^ 32) hfits]
  omega

theorem exec_opStep_eq (segment : SharedMemoryData) (ops : List (Thread × PolicyOp)) :
    exec opStep (.unstarted segment) ops =
      ⟨allFree, (exec opStep (.unstarted segment) ops).data⟩ := by
  have hfree : (exec opStep (.unstarted segment) ops).holder = allFree :=
    exec_of_invariant (I := fun s : PolicySystem => s.holder = allFree)
      (fun s e hs => holder_opStep hs e) rfl ops
  rw [← hfree]

/-- A limit of one byte comes back as none at all. -/
theorem saveAndLoad_losesByte :
    ¬ ∀ (segment : SharedMemoryData) (ops : List (Thread × PolicyOp)) (t : Thread) (now : TimeT),
      RestoresSettings (exec opStep (.unstarted segment) ops) t now := by
  intro h
  let ops : List (Thread × PolicyOp) :=
    [(0, .init (.succeeds 0) true 0), (0, .setLimit 4 (some ⟨0, 0, 1⟩))]
  have hone : (savedSettings (exec opStep (.unstarted .blank) ops).data.config).memory = 1 := rfl
  obtain ⟨s', hrun, hsame⟩ := h .blank ops 0 0
  obtain ⟨c, hrun', hsaved⟩ := saveAndLoad_outcome (exec opStep (.unstarted .blank) ops).data 0 0
  rw [exec_opStep_eq, hrun'] at hrun
  obtain ⟨-, rfl⟩ := EStateM.Result.ok.inj hrun
  have hmemory := congrArg SavedSettings.memory (hsaved.symm.trans hsame)
  rw [hone] at hmemory
  exact absurd hmemory (by decide)

end RdmaIntercept.Analysis
