import RdmaIntercept.Model.PerfOptimizer

/-!
# Threads that share the batch buffer

The updates and flushes of several threads, cut at their critical sections on
`g_batch_mutex`, with batching enabled throughout.  An update that finds the buffer full
has three of them: its own, that of the flush it calls, and the one in which it takes the
mutex again.  Every update carries the number it got in its first critical section; the
numbers and the two logs are not part of the program.  What an update does after its last
critical section concerns the cache and the counters and is no step here.
-/

set_option autoImplicit false

namespace RdmaIntercept.Model

open RdmaIntercept.Library

/-- A usage and the number of updates submitted before it. -/
structure Submission where
  number : ℕ
  usage : ResourceUsage
  deriving DecidableEq, Repr

/-- How far the update of a thread has got. -/
inductive BatchPhase
  | idle
  /-- the buffer was full, the flush follows -/
  | overflow (pid : Pid) (sub : Submission)
  /-- flushed, about to take the mutex again -/
  | retry (pid : Pid) (sub : Submission)
  deriving DecidableEq

/-- The buffer, the segment and the threads `T`; `returned` are the updates that have
answered 0, `passed` the calls of `shm_update_process_resources` made by flushes. -/
structure BatchWorld (T : Type) where
  buffer : BatchBuffer Submission
  shm : SharedMemoryData
  phase : T → BatchPhase
  submitted : ℕ
  returned : List (Pid × Submission)
  passed : List (Pid × Submission)

/-- The next critical section of thread `t`.  A step that the thread cannot make changes
nothing. -/
inductive BatchEvent (T : Type)
  /-- an update starts -/
  | update (t : T) (pid : Pid) (usage : ResourceUsage)
  /-- the update of the thread goes on after an overflow -/
  | next (t : T) (clock : Clock)
  /-- a call of `perf_optimizer_flush_batch_buffer` -/
  | flush (t : T) (clock : Clock)
  deriving DecidableEq

variable {T : Type} [DecidableEq T]

/-- An entry without its number. -/
def unnumbered : Pid × Submission → Pid × ResourceUsage := Prod.map id Submission.usage

/-- SOURCE: performance_optimizer.c:239-260, 270 -/
def BatchWorld.update (w : BatchWorld T) (t : T) (pid : Pid) (usage : ResourceUsage) :
    BatchWorld T :=
  let sub : Submission := ⟨w.submitted, usage⟩
  match w.buffer.submit pid sub with
  | some b =>
    { w with buffer := b, submitted := w.submitted + 1, returned := (pid, sub) :: w.returned }
  | none =>
    { w with
      phase := Function.update w.phase t (.overflow pid sub)
      submitted := w.submitted + 1 }

/-- SOURCE: performance_optimizer.c:284-301 -/
def BatchWorld.flush (w : BatchWorld T) (clock : Clock) : BatchWorld T :=
  let (entries, b) := w.buffer.drain clock.ms
  { w with
    buffer := b
    shm := writeBatch w.shm (entries.map unnumbered) clock.ns
    passed := w.passed ++ entries }

/-- SOURCE: performance_optimizer.c:264-270 -/
def BatchWorld.retry (w : BatchWorld T) (t : T) (pid : Pid) (sub : Submission) : BatchWorld T :=
  { w with
    buffer := w.buffer.restart pid sub
    phase := Function.update w.phase t .idle
    returned := (pid, sub) :: w.returned }

def BatchWorld.step (w : BatchWorld T) : BatchEvent T → BatchWorld T
  | .update t pid usage =>
    match w.phase t with
    | .idle => w.update t pid usage
    | _ => w
  | .next t clock =>
    match w.phase t with
    | .idle => w
    | .overflow pid sub =>
      { w.flush clock with phase := Function.update w.phase t (.retry pid sub) }
    | .retry pid sub => w.retry t pid sub
  | .flush t clock =>
    match w.phase t with
    | .idle => w.flush clock
    | _ => w

/-- After `perf_optimizer_init`. -/
def BatchWorld.start (shm : SharedMemoryData) : BatchWorld T :=
  ⟨.empty 50, shm, fun _ => .idle, 0, [], []⟩

/-- All critical sections of one update. -/
def updateSteps (t : T) (pid : Pid) (usage : ResourceUsage) (clock : Clock) :
    List (BatchEvent T) :=
  [.update t pid usage, .next t clock, .next t clock]

/-- The critical sections of a serial call made by a thread. -/
def callSteps : T × Clock × PerfEvent → List (BatchEvent T)
  | (t, clock, .update pid usage) => updateSteps t pid usage clock
  | (t, clock, .flush) => [.flush t clock]
  | _ => []

end RdmaIntercept.Model
