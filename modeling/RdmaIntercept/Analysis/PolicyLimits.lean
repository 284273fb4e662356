import RdmaIntercept.Analysis.PolicyLocks
import RdmaIntercept.Library.LastWrite

/-!
# The limits of the policy and those of the segment

The manager keeps the global limits in its configuration and stores a copy into the segment,
where the other processes read them.  Of the operations that write the configuration some
store the copy and some do not, and a process without a mapping cannot.  The copies agree
after every successful operation of a run exactly when every operation that is to succeed
either stores or asks for the limits that the segment holds already.
-/

set_option autoImplicit false

namespace RdmaIntercept.Analysis

open RdmaIntercept.Library RdmaIntercept.Library.CText RdmaIntercept.Library.LockM
  RdmaIntercept.Model

/-- The limits for all processes together. -/
structure GlobalLimits where
  qp : UInt32
  mr : UInt32
  memory : UInt64
  deriving DecidableEq, Repr

/-- The limits of a configuration. -/
def policyLimits (c : DynamicPolicyConfig) : GlobalLimits :=
  ⟨c.qpPolicy.limit.maxGlobal, c.mrPolicy.limit.maxGlobal, c.memoryPolicy.limit.maxMemory⟩

/-- The limits in the segment. -/
def segmentLimits (d : SharedMemoryData) : GlobalLimits :=
  ⟨d.maxGlobalQp, d.maxGlobalMr, d.maxGlobalMemory⟩

/-- The two copies agree. -/
def InStep (s : PolicyManager) : Prop := segmentLimits s.segment = policyLimits s.config

/-- A run of operations, each on some thread. -/
def opStep (s : PolicySystem) (e : Thread × PolicyOp) : PolicySystem := s.step (e.1, .op e.2)

/-- When the operation returns 0, the copies agree after it. -/
def InStepAfter (s : PolicySystem) (e : Thread × PolicyOp) : Prop :=
  ∀ s', (e.2.exec e.1).run s = .ok 0 s' → InStep s'.data

/-! ## What the operations ask for -/

/-- The value that a line gives for a key. -/
def lineSetting (key : Bytes) (line : Bytes) : Option UInt32 :=
  ((policySetting line).filter fun r => r.1 = key).map Prod.snd

/-- The value in the last line of a file that gives one for the key. -/
def fileSetting (key : Bytes) (file : Bytes) : Option UInt32 :=
  lastWrite (lineSetting key) (fgetsLines 256 file)

def defaultLimits : GlobalLimits := ⟨1000, 10000, 10 * 1024 * 1024 * 1024⟩

/-- The limits that hold after a file was read. -/
def GlobalLimits.fromFile (g : GlobalLimits) (file : Bytes) : GlobalLimits where
  qp := (fileSetting (text "max_global_qp") file).getD g.qp
  mr := (fileSetting (text "max_global_mr") file).getD g.mr
  memory :=
    ((fileSetting (text "max_memory_mb") file).map fun mb => mb.toUInt64 * 1024 * 1024).getD
      g.memory

/-- The limit of one resource is given; those of completion queues and protection domains are
not among the global ones. -/
def GlobalLimits.withLimit (g : GlobalLimits) (limit : ResourceLimit) :
    Option ResourceType → GlobalLimits
  | some .qp => { g with qp := limit.maxGlobal }
  | some .mr => { g with mr := limit.maxGlobal }
  | some .memory => { g with memory := limit.maxMemory }
  | _ => g

/-- The limits that are asked for where `g` was asked for before. -/
def asksFor (g : GlobalLimits) : PolicyOp → GlobalLimits
  | .init _ _ _ => defaultLimits
  | .setLimit resource (some limit) => g.withLimit limit (ResourceType.ofInt resource)
  | .update (some config) => policyLimits config
  | .loadConfig (some file) => g.fromFile file
  | .setDefault _ => defaultLimits
  | _ => g

/-- The arguments and the environment let the operation succeed. -/
def Succeeds : PolicyOp → Prop
  | .init shm threadCreated _ => (∃ nowNs, shm = .succeeds nowNs) ∧ threadCreated = true
  | .setLimit resource limit => limit.isSome ∧ (ResourceType.ofInt resource).isSome
  | .update config => config.isSome
  | .loadConfig file => file.isSome
  | .enableRule resource _ => (ResourceType.ofInt resource).isSome
  | .setDefault _ => True
  | .setAutoAdjust _ _ _ _ => True

/-- The operation stores its limits into the segment. -/
def Stores (s : PolicyManager) : PolicyOp → Prop
  | .init _ _ _ => True
  | .setLimit _ _ => s.attached = true
  | .update _ => s.attached = true
  | _ => False

/-- An operation that is to succeed stores, or asks for what the segment holds. -/
def LimitsReach (s : PolicySystem) (e : Thread × PolicyOp) : Prop :=
  Succeeds e.2 → Stores s.data e.2 ∨
    asksFor (policyLimits s.data.config) e.2 = segmentLimits s.data.segment

/-! ## The configuration file -/

theorem policyLimits_applyPolicySetting (c : DynamicPolicyConfig) (key : Bytes) (val : UInt32) :
    policyLimits (applyPolicySetting c key val) =
      { qp := if key = text "max_global_qp" then val else (policyLimits c).qp
        mr := if key = text "max_global_mr" then val else (policyLimits c).mr
        memory :=
          if key = text "max_memory_mb" then val.toUInt64 * 1024 * 1024
          else (policyLimits c).memory } := by
  unfold applyPolicySetting
  split_ifs <;> simp_all +decide [policyLimits, DynamicPolicyConfig.modifyRule]

/-- Of the limits a line changes those that it gives. -/
theorem policyLimits_applyPolicyLine (c : DynamicPolicyConfig) (line : Bytes) :
    policyLimits (applyPolicyLine c line) =
      { qp := (lineSetting (text "max_global_qp") line).getD (policyLimits c).qp
        mr := (lineSetting (text "max_global_mr") line).getD (policyLimits c).mr
        memory :=
          ((lineSetting (text "max_memory_mb") line).map fun mb => mb.toUInt64 * 1024 * 1024).getD
            (policyLimits c).memory } := by
  unfold applyPolicyLine lineSetting
  cases policySetting line with
  | none => rfl
  | some setting =>
    obtain ⟨key, val⟩ := setting
    rw [policyLimits_applyPolicySetting]
    simp only [Option.filter_some, decide_eq_true_eq]
    congr 1 <;> split_ifs <;> rfl

/-- The last lines that give the limits decide. -/
theorem policyLimits_loadPolicyFile (c : DynamicPolicyConfig) (file : Bytes) :
    policyLimits (loadPolicyFile c file) = (policyLimits c).fromFile file := by
  have hqp : (policyLimits (loadPolicyFile c file)).qp =
      (fileSetting (text "max_global_qp") file).getD (policyLimits c).qp :=
    foldl_eq_lastWrite applyPolicyLine (fun c => (policyLimits c).qp)
      (fun c line => by rw [policyLimits_applyPolicyLine]) c (fgetsLines 256 file)
  have hmr : (policyLimits (loadPolicyFile c file)).mr =
      (fileSetting (text "max_global_mr") file).getD (policyLimits c).mr :=
    foldl_eq_lastWrite applyPolicyLine (fun c => (policyLimits c).mr)
      (fun c line => by rw [policyLimits_applyPolicyLine]) c (fgetsLines 256 file)
  have hmemory : (policyLimits (loadPolicyFile c file)).memory =
      ((fileSetting (text "max_memory_mb") file).map fun mb => mb.toUInt64 * 1024 * 1024).getD
        (policyLimits c).memory := by
    rw [fileSetting, ← lastWrite_map]
    exact foldl_eq_lastWrite applyPolicyLine (fun c => (policyLimits c).memory)
      (fun c line => by rw [policyLimits_applyPolicyLine]) c (fgetsLines 256 file)
  rw [GlobalLimits.fromFile, ← hqp, ← hmr, ← hmemory]

/-! ## One operation -/

variable {d : PolicyManager}

theorem segmentLimits_shmSetGlobalLimits (d : SharedMemoryData) (maxQp maxMr : UInt32)
    (maxMemory : UInt64) :
    segmentLimits (shmSetGlobalLimits d maxQp maxMr maxMemory) = ⟨maxQp, maxMr, maxMemory⟩ := rfl

/-- The limits are stored by a process that has the segment mapped. -/
theorem inStep_syncGlobalLimits (h : d.attached = true) : InStep d.syncGlobalLimits := by
  unfold InStep PolicyManager.syncGlobalLimits
  rw [if_pos h]
  exact segmentLimits_shmSetGlobalLimits ..

theorem config_syncGlobalLimits (d : PolicyManager) : d.syncGlobalLimits.config = d.config := by
  unfold PolicyManager.syncGlobalLimits
  split <;> rfl

/-- Without a mapping nothing is stored. -/
theorem syncGlobalLimits_detached (h : d.attached = false) : d.syncGlobalLimits = d := by
  simp [PolicyManager.syncGlobalLimits, h]

theorem policyLimits_setLimit (c : DynamicPolicyConfig) (resource : ResourceType)
    (limit : ResourceLimit) :
    policyLimits (c.modifyRule resource fun r => { r with limit := limit }) =
      (policyLimits c).withLimit limit (some resource) := by
  cases resource <;> rfl

theorem policyLimits_enableRule (c : DynamicPolicyConfig) (resource : ResourceType)
    (enable : Bool) :
    policyLimits (c.modifyRule resource fun r => { r with enabled := enable }) =
      policyLimits c := by
  cases resource <;> rfl

/-- What an operation leaves that ends with `r`. -/
structure OpEffect (o : PolicyOp) (d : PolicyManager) (r : Int32) (d' : PolicyManager) : Prop where
  result : r = 0 ↔ Succeeds o
  limits : Succeeds o → policyLimits d'.config = asksFor (policyLimits d.config) o
  stored : Succeeds o → Stores d o → InStep d'
  kept : ¬ Stores d o → segmentLimits d'.segment = segmentLimits d.segment

/-- An operation that fails, and stores nothing. -/
theorem OpEffect.of_fails {o : PolicyOp} {d d' : PolicyManager} (h : ¬ Succeeds o)
    (hkept : ¬ Stores d o → segmentLimits d'.segment = segmentLimits d.segment) :
    OpEffect o d (-1) d' :=
  ⟨iff_of_false (by decide) h, fun hs => absurd hs h, fun hs => absurd hs h, hkept⟩

/-- An operation that stores whenever the segment is mapped. -/
theorem OpEffect.of_synced {o : PolicyOp} {c : DynamicPolicyConfig} (h : Succeeds o)
    (hlimits : policyLimits c = asksFor (policyLimits d.config) o)
    (hstores : Stores d o ↔ d.attached = true) :
    OpEffect o d 0 { d with config := c }.syncGlobalLimits := by
  refine ⟨iff_of_true rfl h, fun _ => ?_, fun _ hs => ?_, fun hs => ?_⟩
  · rw [config_syncGlobalLimits]
    exact hlimits
  · exact inStep_syncGlobalLimits (hstores.mp hs)
  · have hdetached : d.attached = false := by
      rw [← Bool.not_eq_true]
      exact fun hatt => hs (hstores.mpr hatt)
    have hsame : ({ d with config := c } : PolicyManager).syncGlobalLimits =
        { d with config := c } := syncGlobalLimits_detached hdetached
    rw [hsame]

/-- An operation that leaves the segment alone. -/
theorem OpEffect.of_unsynced {o : PolicyOp} {c : DynamicPolicyConfig} (h : Succeeds o)
    (hlimits : policyLimits c = asksFor (policyLimits d.config) o) (hstores : ¬ Stores d o) :
    OpEffect o d 0 { d with config := c } :=
  ⟨iff_of_true rfl h, fun _ => hlimits, fun _ hs => absurd hs hstores, fun _ => rfl⟩

theorem init_effect (d : PolicyManager) (shm : ShmInit) (threadCreated : Bool) (now : TimeT) :
    OpEffect (.init shm threadCreated now) d (opOutcome d (.init shm threadCreated now)).1
      (opOutcome d (.init shm threadCreated now)).2 := by
  have hstores : Stores d (.init shm threadCreated now) := trivial
  cases shm with
  | openFails => exact .of_fails (by simp [Succeeds]) fun h => absurd hstores h
  | truncateFails => exact .of_fails (by simp [Succeeds]) fun h => absurd hstores h
  | mapFails => exact .of_fails (by simp [Succeeds]) fun h => absurd hstores h
  | succeeds nowNs =>
    cases threadCreated with
    | false => exact .of_fails (by simp [Succeeds]) fun h => absurd hstores h
    | true =>
      let opened : PolicyManager :=
        { d with
          config := setDefaultConfig now
          attached := true
          segment := shmInit d.segment nowNs }
      have hsynced : InStep opened.syncGlobalLimits := inStep_syncGlobalLimits rfl
      have hlimits : policyLimits opened.syncGlobalLimits.config = defaultLimits := by
        rw [config_syncGlobalLimits]
        rfl
      exact ⟨iff_of_true rfl ⟨⟨nowNs, rfl⟩, rfl⟩, fun _ => hlimits, fun _ _ => hsynced,
        fun h => absurd hstores h⟩

/-- The effect of an operation. -/
theorem op_effect (d : PolicyManager) (o : PolicyOp) :
    OpEffect o d (opOutcome d o).1 (opOutcome d o).2 := by
  cases o with
  | init shm threadCreated now => exact init_effect d shm threadCreated now
  | setLimit resource limit =>
    cases limit with
    | none => exact .of_fails (by simp [Succeeds]) fun _ => rfl
    | some limit =>
      simp only [opOutcome]
      cases hr : ResourceType.ofInt resource with
      | none => exact .of_fails (by simp [Succeeds, hr]) fun _ => rfl
      | some r =>
        apply OpEffect.of_synced (by simp [Succeeds, hr]) _ Iff.rfl
        rw [policyLimits_setLimit, asksFor, hr]
  | update config =>
    cases config with
    | none => exact .of_fails (by simp [Succeeds]) fun _ => rfl
    | some config => exact .of_synced (by simp [Succeeds]) rfl Iff.rfl
  | loadConfig file =>
    cases file with
    | none => exact .of_fails (by simp [Succeeds]) fun _ => rfl
    | some file =>
      exact .of_unsynced (by simp [Succeeds]) (policyLimits_loadPolicyFile d.config file) id
  | setDefault now => exact .of_unsynced trivial rfl id
  | setAutoAdjust enable interval high low => exact .of_unsynced trivial rfl id
  | enableRule resource enable =>
    simp only [opOutcome]
    cases hr : ResourceType.ofInt resource with
    | none => exact .of_fails (by simp [Succeeds, hr]) fun _ => rfl
    | some r => exact .of_unsynced (by simp [Succeeds, hr]) (policyLimits_enableRule ..) id

/-! ## Runs -/

/-- The step lemma: the copies agree after the operation exactly when its limits reach the
segment. -/
theorem inStepAfter_iff {s : PolicySystem} (hs : s.holder = allFree) (e : Thread × PolicyOp) :
    InStepAfter s e ↔ LimitsReach s e := by
  obtain ⟨hold, d⟩ := s
  obtain rfl : hold = allFree := hs
  obtain ⟨t, o⟩ := e
  have hrun := run_op (t := t) (d := d) o
  have heffect := op_effect d o
  constructor
  · intro hafter hsucceeds
    by_cases hstores : Stores d o
    · exact Or.inl hstores
    · right
      rw [heffect.result.mpr hsucceeds] at hrun
      have hin : InStep (opOutcome d o).2 := hafter _ hrun
      calc asksFor (policyLimits d.config) o = policyLimits (opOutcome d o).2.config :=
            (heffect.limits hsucceeds).symm
        _ = segmentLimits (opOutcome d o).2.segment := hin.symm
        _ = segmentLimits d.segment := heffect.kept hstores
  · intro hreach s' hreturns
    have hsame : EStateM.Result.ok (opOutcome d o).1 ⟨allFree, (opOutcome d o).2⟩ =
        EStateM.Result.ok 0 s' := hrun.symm.trans hreturns
    obtain ⟨hzero, rfl⟩ := EStateM.Result.ok.inj hsame
    have hsucceeds := heffect.result.mp hzero
    by_cases hstores : Stores d o
    · exact heffect.stored hsucceeds hstores
    · calc segmentLimits (opOutcome d o).2.segment = segmentLimits d.segment :=
            heffect.kept hstores
        _ = asksFor (policyLimits d.config) o := ((hreach hsucceeds).resolve_left hstores).symm
        _ = policyLimits (opOutcome d o).2.config := (heffect.limits hsucceeds).symm

theorem holder_opStep {s : PolicySystem} (hs : s.holder = allFree) (e : Thread × PolicyOp) :
    (opStep s e).holder = allFree :=
  holder_step hs fun h => nomatch h.1

/-- In every run the copies agree after each successful operation exactly when the limits of
each such operation reach the segment. -/
theorem policyLimits_inStep_iff (segment : SharedMemoryData)
    (ops : List (Thread × PolicyOp)) :
    Along opStep InStepAfter (.unstarted segment) ops ↔
      Along opStep LimitsReach (.unstarted segment) ops := by
  apply along_congr (I := fun s => s.holder = allFree)
  · intro s e hs
    exact holder_opStep hs e
  · intro s e hs
    exact inStepAfter_iff hs e
  · rfl

/-- The defaults are restored after the limit of queue pairs was set. -/
theorem policyLimits_afterDefault :
    ¬ ∀ (segment : SharedMemoryData) (ops : List (Thread × PolicyOp)),
      Along opStep InStepAfter (.unstarted segment) ops := by
  intro h
  have hreach := (policyLimits_inStep_iff .blank
    [(0, .init (.succeeds 0) true 0), (0, .setLimit 0 (some ⟨10, 50, 0⟩)), (0, .setDefault 0)]).mp
    (h .blank _)
  have hlast := (hreach.2.2.1 trivial).resolve_left id
  have hqp : (1000 : UInt32) = 50 := congrArg GlobalLimits.qp hlast
  exact absurd hqp (by decide)

end RdmaIntercept.Analysis
