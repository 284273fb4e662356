import RdmaIntercept.Analysis.DynamicPolicySpec
import RdmaIntercept.Analysis.PerfOptimizerSpec
import RdmaIntercept.Analysis.PolicyLimits
import RdmaIntercept.Analysis.SegmentCollector
import RdmaIntercept.Library.LastWrite
import RdmaIntercept.Model.TenantTool

/-!
# What the command-line tool leaves behind

On the tenant segment an invocation is one call of the tenant API.  Which one is said here by
the options as a whole: what kinds of options there are, and the last that gives a tenant, a
process, a name or a quota.  On the process-resource segment every invocation that attaches
writes the default limits, whatever it was asked to do, and it empties the table of the
processes while the global counters are zero.
-/

set_option autoImplicit false

namespace RdmaIntercept.Analysis

open RdmaIntercept.Library RdmaIntercept.Library.CText RdmaIntercept.Library.LockM
open RdmaIntercept.Model

/-! ## What is asked for -/

/-- The tool exits when it comes to such an option. -/
def exitCode : ToolOption → Option Int32
  | .help => some 0
  | .unknown => some 1
  | _ => none

def namedTenant : ToolOption → Option UInt32
  | .create id => some (atoi id).toUInt32
  | .delete id => some (atoi id).toUInt32
  | .status id => some (atoi id).toUInt32
  | .tenant id => some (atoi id).toUInt32
  | _ => none

def namedPid : ToolOption → Option Pid
  | .bind pid => some (atoi pid)
  | .unbind pid => some (atoi pid)
  | _ => none

def namedName : ToolOption → Option Bytes
  | .name name => some name
  | _ => none

def namedQuota : ToolOption → Option Bytes
  | .quota quota => some quota
  | _ => none

/-- The options that ask for a command. -/
inductive CommandKind
  | create
  | delete
  | status
  | list
  | bind
  | unbind
  | monitor
  deriving DecidableEq

def commandKind : ToolOption → Option CommandKind
  | .create _ => some .create
  | .delete _ => some .delete
  | .status _ => some .status
  | .list => some .list
  | .bind _ => some .bind
  | .unbind _ => some .unbind
  | .monitor => some .monitor
  | _ => none

def givesKind (kind : CommandKind) (option : ToolOption) : Bool :=
  decide (commandKind option = some kind)

/-- What is done, the kinds in their order of precedence. -/
inductive ToolCommand
  | exit (code : Int32)
  | create (tenantId : UInt32) (name quotaStr : Option Bytes)
  | delete (tenantId : UInt32)
  | status (tenantId : UInt32)
  | list
  | bind (pid : Pid) (tenantId : UInt32)
  | unbind (pid : Pid)
  | monitor

def askedCommand (options : List ToolOption) : ToolCommand :=
  match options.findSome? exitCode with
  | some code => .exit code
  | none =>
    let tenantId := (lastWrite namedTenant options).getD 0
    let pid := (lastWrite namedPid options).getD 0
    if options.any (givesKind .create) then
      if tenantId = 0 then .exit 1
      else .create tenantId (lastWrite namedName options) (lastWrite namedQuota options)
    else if options.any (givesKind .delete) then .delete tenantId
    else if options.any (givesKind .status) then .status tenantId
    else if options.any (givesKind .list) then .list
    else if options.any (givesKind .bind) then
      if tenantId = 0 then .exit 1 else .bind pid tenantId
    else if options.any (givesKind .unbind) then .unbind pid
    else if options.any (givesKind .monitor) then .monitor
    else .exit 0

/-- The exit code and the tenant segment. -/
def commandOutcome (env : ToolEnv) (shm : TenantShm) : ToolCommand → Int32 × TenantShm
  | .exit code => (code, shm)
  | .create tenantId name quotaStr =>
    match toolQuota quotaStr with
    | none => (-1, shm)
    | some quota =>
      let called := tenantCreate shm tenantId name (some quota) env.now
      (returnCode called.1, called.2)
  | .delete tenantId =>
    let called := tenantDelete shm tenantId env.now
    (returnCode called.1, called.2)
  | .status tenantId => cmdShowStatus env shm tenantId
  | .list => cmdListTenants env shm
  | .bind pid tenantId => cmdBindProcess env shm pid tenantId
  | .unbind pid => cmdUnbindProcess env shm pid
  | .monitor => cmdMonitor env shm

/-- When the invocation attaches to the process-resource segment, the time at which it does. -/
def attachTime (env : ToolEnv) : Option UInt64 :=
  if env.tenantShmMapped then
    match env.shm with
    | .succeeds nowNs => some nowNs
    | _ => none
  else none

/-- An invocation as a whole. -/
def toolOutcome (env : ToolEnv) (options : List ToolOption) (shm : TenantShm) :
    Int32 × TenantShm :=
  if !env.tenantShmMapped then (1, shm)
  else if (attachTime env).isSome ∧ env.threadCreated = true then
    commandOutcome env (tenantShmInit shm env.initNow) (askedCommand options)
  else (1, tenantShmInit shm env.initNow)

/-- What attaching does to the process-resource segment. -/
def attachedBy (env : ToolEnv) (d : SharedMemoryData) : SharedMemoryData :=
  match attachTime env with
  | none => d
  | some nowNs =>
    shmSetGlobalLimits (shmInit d nowNs) defaultLimits.qp defaultLimits.mr defaultLimits.memory

variable {t : Thread} {s : AdminRun}

/-! ## Reading the options -/

/-- The variables after an option that does not end the tool. -/
def noteOption (a : ToolArgs) (option : ToolOption) : ToolArgs :=
  match a.read option with
  | .ok a => a
  | .error _ => a

/-- The options are read to the end or to the first that ends the tool. -/
theorem readAll_eq (a : ToolArgs) (options : List ToolOption) :
    a.readAll options =
      match options.findSome? exitCode with
      | some code => .error code
      | none => .ok (options.foldl noteOption a) := by
  induction options generalizing a with
  | nil => rfl
  | cons option options ih =>
    cases option with
    | help => rfl
    | unknown => rfl
    | _ => exact ih _

theorem foldl_tenantId (a : ToolArgs) (options : List ToolOption) :
    (options.foldl noteOption a).tenantId = (lastWrite namedTenant options).getD a.tenantId :=
  foldl_eq_lastWrite noteOption ToolArgs.tenantId (fun _ option => by cases option <;> rfl) a
    options

theorem foldl_pid (a : ToolArgs) (options : List ToolOption) :
    (options.foldl noteOption a).pid = (lastWrite namedPid options).getD a.pid :=
  foldl_eq_lastWrite noteOption ToolArgs.pid (fun _ option => by cases option <;> rfl) a options

theorem foldl_name (options : List ToolOption) :
    (options.foldl noteOption .start).name = lastWrite namedName options := by
  have hwrites : ∀ a option,
      (noteOption a option).name = ((namedName option).map some).getD a.name :=
    fun _ option => by cases option <;> rfl
  rw [foldl_eq_lastWrite noteOption ToolArgs.name hwrites, lastWrite_map]
  cases lastWrite namedName options <;> rfl

theorem foldl_quotaStr (options : List ToolOption) :
    (options.foldl noteOption .start).quotaStr = lastWrite namedQuota options := by
  have hwrites : ∀ a option,
      (noteOption a option).quotaStr = ((namedQuota option).map some).getD a.quotaStr :=
    fun _ option => by cases option <;> rfl
  rw [foldl_eq_lastWrite noteOption ToolArgs.quotaStr hwrites, lastWrite_map]
  cases lastWrite namedQuota options <;> rfl

/-- The flag of a kind of command. -/
def commandFlag (a : ToolArgs) : CommandKind → Bool
  | .create => a.createFlag
  | .delete => a.deleteFlag
  | .status => a.statusFlag
  | .list => a.listFlag
  | .bind => a.bindFlag
  | .unbind => a.unbindFlag
  | .monitor => a.monitorFlag

theorem foldl_flag (kind : CommandKind) (options : List ToolOption) :
    commandFlag (options.foldl noteOption .start) kind = options.any (givesKind kind) := by
  have hsets : ∀ (a : ToolArgs) (option : ToolOption),
      commandFlag (noteOption a option) kind = (commandFlag a kind || givesKind kind option) := by
    intro a option
    cases option <;> cases kind <;>
      simp [noteOption, ToolArgs.read, commandFlag, givesKind, commandKind]
  rw [foldl_eq_any noteOption (commandFlag · kind) (givesKind kind) hsets]
  cases kind <;> rfl

/-! ## One invocation -/

section Commands

variable (t : Thread) (env : ToolEnv) (shm : TenantShm) (m : PolicyManager)

/-- A policy is a variable of the tool's process. -/
theorem run_cmdCreateTenant (tenantId : UInt32) (name quotaStr : Option Bytes) :
    ∃ m', m'.segment = m.segment ∧
      (cmdCreateTenant t env shm tenantId name quotaStr).run ⟨allFree, m⟩ =
        .ok (commandOutcome env shm (.create tenantId name quotaStr)) ⟨allFree, m'⟩ := by
  simp only [cmdCreateTenant, commandOutcome]
  cases toolQuota quotaStr with
  | none => exact ⟨m, rfl, rfl⟩
  | some quota =>
    by_cases hid : 64 ≤ tenantId
    · exact ⟨m, rfl, by simp [dynamicPolicySetTenantPolicy, hid]⟩
    · exact ⟨m.setTenantPolicy tenantId
        { toolPolicy tenantId name quota with lastUpdated := env.now }, rfl,
        by simp [dynamicPolicySetTenantPolicy, hid]⟩

theorem run_cmdDeleteTenant (tenantId : UInt32) :
    ∃ m', m'.segment = m.segment ∧
      (cmdDeleteTenant t env shm tenantId).run ⟨allFree, m⟩ =
        .ok (commandOutcome env shm (.delete tenantId)) ⟨allFree, m'⟩ := by
  simp only [cmdDeleteTenant, commandOutcome]
  by_cases hid : 64 ≤ tenantId
  · exact ⟨m, rfl, by simp [dynamicPolicyDeleteTenantPolicy, hid]⟩
  · exact ⟨m.setTenantPolicy tenantId .zero, rfl, by simp [dynamicPolicyDeleteTenantPolicy, hid]⟩

/-- The command runs to its end, and leaves the process-resource segment. -/
theorem run_executeCommand (a : ToolArgs) : ∃ m', m'.segment = m.segment ∧
    (executeCommand t env shm a).run ⟨allFree, m⟩ = .ok
      (if a.createFlag then
        if a.tenantId = 0 then (1, shm)
        else commandOutcome env shm (.create a.tenantId a.name a.quotaStr)
      else if a.deleteFlag then commandOutcome env shm (.delete a.tenantId)
      else if a.statusFlag then cmdShowStatus env shm a.tenantId
      else if a.listFlag then cmdListTenants env shm
      else if a.bindFlag then
        if a.tenantId = 0 then (1, shm) else cmdBindProcess env shm a.pid a.tenantId
      else if a.unbindFlag then cmdUnbindProcess env shm a.pid
      else if a.monitorFlag then cmdMonitor env shm
      else (0, shm)) ⟨allFree, m'⟩ := by
  unfold executeCommand
  by_cases hcreate : a.createFlag = true
  · simp only [hcreate, if_true]
    by_cases hzero : a.tenantId = 0
    · simp only [if_pos hzero]
      exact ⟨m, rfl, rfl⟩
    · simp only [if_neg hzero]
      exact run_cmdCreateTenant t env shm m a.tenantId a.name a.quotaStr
  · simp only [hcreate, Bool.false_eq_true, if_false]
    by_cases hdelete : a.deleteFlag = true
    · simp only [hdelete, if_true]
      exact run_cmdDeleteTenant t env shm m a.tenantId
    · -- the other commands touch no policy
      simp only [hdelete, Bool.false_eq_true, if_false]
      refine ⟨m, rfl, ?_⟩
      split_ifs <;> rfl

/-- The options decide as a whole on the command. -/
theorem run_command (options : List ToolOption) (hgo : options.findSome? exitCode = none) :
    ∃ m', m'.segment = m.segment ∧
      (executeCommand t env shm (options.foldl noteOption .start)).run ⟨allFree, m⟩ =
        .ok (commandOutcome env shm (askedCommand options)) ⟨allFree, m'⟩ := by
  obtain ⟨m', hsegment, hrun⟩ := run_executeCommand t env shm m (options.foldl noteOption .start)
  refine ⟨m', hsegment, ?_⟩
  have hflag (kind : CommandKind) := foldl_flag kind options
  have hcreate := hflag .create
  have hdelete := hflag .delete
  have hstatus := hflag .status
  have hlist := hflag .list
  have hbind := hflag .bind
  have hunbind := hflag .unbind
  have hmonitor := hflag .monitor
  simp only [commandFlag] at hcreate hdelete hstatus hlist hbind hunbind hmonitor
  rw [hrun, hcreate, hdelete, hstatus, hlist, hbind, hunbind, hmonitor, foldl_tenantId, foldl_pid,
    foldl_name, foldl_quotaStr, askedCommand, hgo]
  have hzero : ToolArgs.start.tenantId = 0 ∧ ToolArgs.start.pid = 0 := ⟨rfl, rfl⟩
  rw [hzero.1, hzero.2]
  dsimp only
  split_ifs <;> rfl

end Commands

/-- `dynamic_policy_init` runs to its end; it succeeds when it attaches and starts its thread, and
the limits that it writes are the default ones. -/
theorem run_policyInit (env : ToolEnv) (hmapped : env.tenantShmMapped = true)
    (d : SharedMemoryData) : ∃ ret m,
    (dynamicPolicyInit t env.shm env.threadCreated env.policyNow).run ⟨allFree, .unstarted d⟩ =
        .ok ret ⟨allFree, m⟩ ∧
      (ret = 0 ↔ (attachTime env).isSome ∧ env.threadCreated = true) ∧
      m.segment = attachedBy env d := by
  refine ⟨_, _, run_op (.init env.shm env.threadCreated env.policyNow), ?_⟩
  have hfails : ¬ ((-1 : Int32) = 0) := by decide
  unfold attachedBy attachTime
  rw [if_pos hmapped]
  cases env.shm with
  | succeeds nowNs =>
    cases env.threadCreated with
    | true => exact ⟨iff_of_true rfl ⟨rfl, rfl⟩, rfl⟩
    | false => exact ⟨iff_of_false hfails fun h => Bool.false_ne_true h.2, rfl⟩
  | _ => exact ⟨iff_of_false hfails fun h => Bool.false_ne_true h.1, rfl⟩

/-- Every invocation ends, with the call that the options ask for made once. -/
theorem invoke_eq (s : Segments) (env : ToolEnv) (options : List ToolOption) :
    s.invoke env options =
      some ((toolOutcome env options s.tenants).1,
        ⟨(toolOutcome env options s.tenants).2, attachedBy env s.processes⟩) := by
  unfold Segments.invoke toolMain toolOutcome
  by_cases hmapped : env.tenantShmMapped = true
  · obtain ⟨ret, m, hinit, hret, hsegment⟩ := run_policyInit (t := 0) env hmapped s.processes
    by_cases hok : (attachTime env).isSome ∧ env.threadCreated = true
    · obtain rfl := hret.mpr hok
      cases hstop : options.findSome? exitCode with
      | some code =>
        have hasked : askedCommand options = .exit code := by simp only [askedCommand, hstop]
        simp [hmapped, hinit, if_pos hok, readAll_eq, hstop, hasked, commandOutcome, hsegment]
      | none =>
        obtain ⟨m', hkept, hrun⟩ :=
          run_command 0 env (tenantShmInit s.tenants env.initNow) m options hstop
        simp [hmapped, hinit, if_pos hok, readAll_eq, hstop, hrun, hkept, hsegment]
    · have hne := mt hret.mp hok
      simp [hmapped, hinit, hne, if_neg hok, hsegment]
  · have hnone : attachedBy env s.processes = s.processes := by
      simp [attachedBy, attachTime, hmapped]
    simp [hmapped, hnone, PolicyManager.unstarted]

/-! ## The process-resource segment -/

theorem segmentLimits_attachedBy (env : ToolEnv) (d : SharedMemoryData) :
    segmentLimits (attachedBy env d) =
      ((attachTime env).map fun _ => defaultLimits).getD (segmentLimits d) := by
  unfold attachedBy
  cases attachTime env <;> rfl

/-- The limits that a call writes. -/
def callLimits : ShmOp → Option GlobalLimits
  | .setLimits maxQp maxMr maxMemory => some ⟨maxQp, maxMr, maxMemory⟩
  | _ => none

theorem segmentLimits_call (op : ShmOp) (d : SharedMemoryData) (nowNs : UInt64) :
    segmentLimits (op.call d nowNs) = (callLimits op).getD (segmentLimits d) := by
  cases op with
  | updateGlobal usage => rfl
  | setLimits maxQp maxMr maxMemory => rfl
  | updateProcess p usage =>
    have hkept := (update_others d p usage nowNs).2
    exact congrArg (fun limits => GlobalLimits.mk limits.1 limits.2.1 limits.2.2) hkept

def emptyTable : ProcessTable := (fun _ => 0, fun _ => .zero)

/-- Attaching empties the table while the global counters are zero. -/
theorem processTable_attachedBy (env : ToolEnv) (d : SharedMemoryData) :
    processTable (attachedBy env d) =
      if (attachTime env).isSome ∧ d.globalStats = .zero then emptyTable else processTable d := by
  have hzero : (d.globalStats.qpCount = 0 ∧ d.globalStats.mrCount = 0 ∧
      d.globalStats.memoryUsed = 0) ↔ d.globalStats = .zero := by
    rw [ResourceUsage.zero, ResourceUsage.mk.injEq]
  unfold attachedBy
  cases attachTime env with
  | none => simp
  | some nowNs =>
    change processTable (shmInit d nowNs) = _
    unfold shmInit
    rw [if_congr hzero rfl rfl]
    by_cases h0 : d.globalStats = .zero
    · rw [if_pos h0, if_pos ⟨rfl, h0⟩]
      rfl
    · rw [if_neg h0, if_neg fun h => h0 h.2]

/-! ## Runs -/

/-- The tenant segment and the exit codes when the calls are made directly. -/
def callsDirectly (c : TenantShm × List (Option Int32)) :
    AdminEvent → TenantShm × List (Option Int32)
  | .tool env options =>
    ((toolOutcome env options c.1).2, c.2 ++ [some (toolOutcome env options c.1).1])
  | .tenants op now => ((op.exec c.1 now).2, c.2)
  | .processes _ _ => c

/-- The limits that an event writes. -/
def writtenLimits : AdminEvent → Option GlobalLimits
  | .tool env _ => (attachTime env).map fun _ => defaultLimits
  | .processes op _ => callLimits op
  | .tenants _ _ => none

/-- The table of the processes is as it is when nobody invokes the tool. -/
def TableUntouched (s : AdminRun) : Prop :=
  processTable s.segments.processes = processTable s.untouched

/-- An invocation that attaches finds a global counter that is not zero, or no process. -/
def FindsInUse (s : AdminRun) : AdminEvent → Prop
  | .tool env _ =>
    (attachTime env).isSome → s.segments.processes.globalStats ≠ .zero ∨
      processTable s.segments.processes = emptyTable
  | _ => True

theorem step_tool (s : AdminRun) (env : ToolEnv) (options : List ToolOption) :
    s.step (.tool env options) =
      { segments :=
          ⟨(toolOutcome env options s.segments.tenants).2, attachedBy env s.segments.processes⟩
        codes := s.codes ++ [some (toolOutcome env options s.segments.tenants).1]
        untouched := s.untouched } := by
  simp only [AdminRun.step, invoke_eq]

theorem exec_callsDirectly (s : AdminRun) (es : List AdminEvent) :
    ((exec AdminRun.step s es).segments.tenants, (exec AdminRun.step s es).codes) =
      exec callsDirectly (s.segments.tenants, s.codes) es := by
  induction es generalizing s with
  | nil => rfl
  | cons e es ih =>
    rw [exec_cons, exec_cons, ih]
    cases e with
    | tool env options =>
      rw [step_tool]
      rfl
    | tenants op now => rfl
    | processes op nowNs => rfl

theorem segmentLimits_step (s : AdminRun) (e : AdminEvent) :
    segmentLimits (s.step e).segments.processes =
      (writtenLimits e).getD (segmentLimits s.segments.processes) := by
  cases e with
  | tool env options =>
    rw [step_tool]
    exact segmentLimits_attachedBy env s.segments.processes
  | tenants op now => rfl
  | processes op nowNs => exact segmentLimits_call op s.segments.processes nowNs

/-- One event leaves the table as it is without the tool exactly if it finds the segment in use. -/
theorem tableUntouched_step (h : TableUntouched s) (e : AdminEvent) :
    TableUntouched (s.step e) ↔ FindsInUse s e := by
  unfold TableUntouched at h ⊢
  cases e with
  | tool env options =>
    rw [step_tool]
    dsimp only
    rw [processTable_attachedBy, ← h]
    by_cases hempties : (attachTime env).isSome ∧ s.segments.processes.globalStats = .zero
    · rw [if_pos hempties]
      constructor
      · intro hsame _
        exact Or.inr hsame.symm
      · intro hfinds
        exact ((hfinds hempties.1).resolve_left fun hne => hne hempties.2).symm
    · rw [if_neg hempties]
      exact iff_of_true rfl fun hattach => Or.inl fun h0 => hempties ⟨hattach, h0⟩
  | tenants op now => exact iff_of_true h trivial
  | processes op nowNs =>
    refine iff_of_true ?_ trivial
    change processTable (op.call s.segments.processes nowNs) =
      processTable (op.call s.untouched nowNs)
    rw [processTable_call, processTable_call, h]

/-- What a run of invocations and of calls of other processes leaves behind. -/
structure LeftBehind (s : Segments) (es : List AdminEvent) : Prop where
  calls : ((exec AdminRun.step (.start s) es).segments.tenants,
      (exec AdminRun.step (.start s) es).codes) = exec callsDirectly (s.tenants, []) es
  limits : segmentLimits (exec AdminRun.step (.start s) es).segments.processes =
    (lastWrite writtenLimits es).getD (segmentLimits s.processes)
  table : Always AdminRun.step TableUntouched (.start s) es ↔
    Along AdminRun.step FindsInUse (.start s) es

/-- In every run each invocation makes the one call of the tenant API that its options ask for;
every one that attaches, also one that only lists the tenants, has the default limits written;
and the table of the processes is throughout as it is without the tool exactly if none attaches
while the global counters are zero and a process is in the table. -/
theorem tool_left_behind (s : Segments) (es : List AdminEvent) : LeftBehind s es := by
  refine ⟨exec_callsDirectly (.start s) es, ?_, ?_⟩
  · exact foldl_eq_lastWrite AdminRun.step (fun r => segmentLimits r.segments.processes)
      segmentLimits_step (.start s) es
  · exact always_iff_along (I := fun _ => True) (A := fun _ _ => True) (fun _ _ _ _ => trivial)
      (fun _ e _ _ h => tableUntouched_step h e) trivial rfl
      (along_of_forall (fun _ _ => trivial) _)

end RdmaIntercept.Analysis
