import Mathlib.Data.List.Basic
import Mathlib.Logic.Function.Basic
import Mathlib.Tactic.Common
import RdmaIntercept.Library.Runs

/-!
# Sections under a spin lock, access by access

Threads share data of type `σ` that one lock word guards, and marks of type `μ` that it does
not.  A call waits until it finds the lock word free, makes the accesses of its body to the
data, releases the lock, and makes the accesses of its tail to the marks.  A look reads the
data without the lock.  Every access is a step of its own, in any order between the threads,
and a thread may die between any two of its steps.

The lock makes the calls serial: whenever it is free, the data is what the calls leave
behind that run one after the other in the order in which they took the lock, and every call
was answered as it is there.  While it is held, exactly one thread is inside, and the data is
what a part of its body makes of such serial data (`Serial`).  The lock can become free again
exactly when its holder is alive (`freed_iff`); a lock that a dead thread holds stops every
call for ever (`Stuck.exec`), but no look (`look_completes`).
-/

set_option autoImplicit false

namespace RdmaIntercept.Library.SpinLock

open RdmaIntercept.Library

variable {T R σ μ : Type}

/-! ## Calls -/

/-- The registers with which a call starts, its accesses while it holds the lock, and its
accesses after it has released it. -/
structure Call (R σ μ : Type) where
  regs : R
  body : List (R × σ → R × σ)
  tail : List (R × μ → R × μ)

/-- Accesses made one after the other. -/
def runAll {α : Type} (fs : List (α → α)) (x : α) : α := fs.foldl (fun x f => f x) x

@[simp] theorem runAll_nil {α : Type} (x : α) : runAll [] x = x := rfl

@[simp] theorem runAll_cons {α : Type} (f : α → α) (fs : List (α → α)) (x : α) :
    runAll (f :: fs) x = runAll fs (f x) := rfl

@[simp] theorem runAll_append {α : Type} (fs gs : List (α → α)) (x : α) :
    runAll (fs ++ gs) x = runAll gs (runAll fs x) := by
  simp [runAll]

/-- What every access keeps a sequence of them keeps. -/
theorem runAll_of_mem {α : Type} {I : α → Prop} {fs : List (α → α)}
    (h : ∀ f ∈ fs, ∀ x, I x → I (f x)) {x : α} (hx : I x) : I (runAll fs x) := by
  induction fs generalizing x with
  | nil => exact hx
  | cons f fs ih =>
    have hfx := h f List.mem_cons_self x hx
    exact ih (fun g hg => h g (List.mem_cons_of_mem _ hg)) hfx

/-- The body of the call, run without interruption. -/
def Call.result (c : Call R σ μ) (d : σ) : R × σ := runAll c.body (c.regs, d)

/-- The data after calls that run one after the other. -/
def after (d : σ) : List (T × Call R σ μ) → σ
  | [] => d
  | (_, c) :: calls => after (c.result d).2 calls

/-- The registers with which such calls end. -/
def replies (d : σ) : List (T × Call R σ μ) → List (T × R)
  | [] => []
  | (t, c) :: calls => (t, (c.result d).1) :: replies (c.result d).2 calls

theorem after_append (d : σ) (calls more : List (T × Call R σ μ)) :
    after d (calls ++ more) = after (after d calls) more := by
  induction calls generalizing d with
  | nil => rfl
  | cons tc calls ih => exact ih _

theorem replies_append (d : σ) (calls more : List (T × Call R σ μ)) :
    replies d (calls ++ more) = replies d calls ++ replies (after d calls) more := by
  induction calls generalizing d with
  | nil => rfl
  | cons tc calls ih => simp only [List.cons_append, replies, after, ih]

theorem replies_threads (d : σ) (calls : List (T × Call R σ μ)) :
    (replies d calls).map Prod.fst = calls.map Prod.fst := by
  induction calls generalizing d with
  | nil => rfl
  | cons tc calls ih => simp only [replies, List.map_cons, ih]

theorem length_replies (d : σ) (calls : List (T × Call R σ μ)) :
    (replies d calls).length = calls.length := by
  simpa using congrArg List.length (replies_threads d calls)

/-- What every call keeps the calls together keep. -/
theorem after_of_result {G : σ → Prop} {calls : List (T × Call R σ μ)}
    (h : ∀ tc ∈ calls, ∀ d, G d → G (tc.2.result d).2) {d : σ} (hd : G d) :
    G (after d calls) := by
  induction calls generalizing d with
  | nil => exact hd
  | cons tc calls ih =>
    have hc := h tc List.mem_cons_self d hd
    exact ih (fun tc htc => h tc (List.mem_cons_of_mem _ htc)) hc

section Whole

variable {C D A : Type} (view : D → σ) {sect : C → T × Call R σ μ} {whole : D → C → D}
  {I : D → Prop} {ok : C → Prop}

/-- Calls whose bodies do what they do as a whole to a state `D` of which the data is the view:
one after the other they do the same. -/
theorem after_whole
    (hwhole : ∀ d c, I d → ok c →
      I (whole d c) ∧ ((sect c).2.result (view d)).2 = view (whole d c))
    {calls : List C} (hok : ∀ c ∈ calls, ok c) {d : D} (hd : I d) :
    I (calls.foldl whole d) ∧ after (view d) (calls.map sect) = view (calls.foldl whole d) := by
  induction calls generalizing d with
  | nil => exact ⟨hd, rfl⟩
  | cons c calls ih =>
    obtain ⟨hnext, hresult⟩ := hwhole d c hd (hok c List.mem_cons_self)
    obtain ⟨hlast, hafter⟩ := ih (fun c hc => hok c (List.mem_cons_of_mem _ hc)) hnext
    refine ⟨hlast, ?_⟩
    rw [List.map_cons, List.foldl_cons, ← hafter, ← hresult]
    rfl

/-- And they answer the same. -/
theorem replies_whole (answer : C → R → A) (returns : D → List C → List (T × A))
    (hwhole : ∀ d c, I d → ok c →
      I (whole d c) ∧ ((sect c).2.result (view d)).2 = view (whole d c))
    (hnil : ∀ d, returns d [] = [])
    (hcons : ∀ d c calls, I d → ok c → returns d (c :: calls) =
      ((sect c).1, answer c ((sect c).2.result (view d)).1) :: returns (whole d c) calls)
    {calls : List C} (hok : ∀ c ∈ calls, ok c) {d : D} (hd : I d) :
    List.zipWith (fun c a => (a.1, answer c a.2)) calls (replies (view d) (calls.map sect)) =
      returns d calls := by
  induction calls generalizing d with
  | nil => exact (hnil d).symm
  | cons c calls ih =>
    have hc := hok c List.mem_cons_self
    obtain ⟨hnext, hresult⟩ := hwhole d c hd hc
    rw [hcons d c calls hd hc, ← ih (fun c hc => hok c (List.mem_cons_of_mem _ hc)) hnext,
      ← hresult]
    rfl

end Whole

/-- A list of what `ok` things give is given by a list of `ok` things. -/
theorem exists_map_eq {α β : Type} {f : α → β} {ok : α → Prop} {ys : List β}
    (h : ∀ y ∈ ys, ∃ x, ok x ∧ f x = y) :
    ∃ xs : List α, (∀ x ∈ xs, ok x) ∧ xs.map f = ys := by
  induction ys with
  | nil => exact ⟨[], fun x hx => absurd hx List.not_mem_nil, rfl⟩
  | cons y ys ih =>
    obtain ⟨x, hx, hy⟩ := h y List.mem_cons_self
    obtain ⟨xs, hxs, hys⟩ := ih fun y hy => h y (List.mem_cons_of_mem _ hy)
    exact ⟨x :: xs, List.forall_mem_cons.mpr ⟨hx, hxs⟩, by rw [List.map_cons, hy, hys]⟩

/-! ## Threads -/

/-- How far a thread has got. -/
inductive Phase (R σ μ : Type)
  | idle
  | waiting (c : Call R σ μ)
  | inside (c : Call R σ μ) (regs : R) (rest : List (R × σ → R × σ))
  | leaving (regs : R) (rest : List (R × μ → R × μ))
  | looking (regs : R) (rest : List (R → σ → R))

/-- The thread has no access left to make and may begin anew. -/
def Phase.atRest : Phase R σ μ → Bool
  | .idle => true
  | .leaving _ [] => true
  | .looking _ [] => true
  | _ => false

def Phase.isInside : Phase R σ μ → Bool
  | .inside .. => true
  | _ => false

/-- The shared memory and the threads, with the calls in the order in which they took the
lock and the registers with which they released it. -/
structure State (T R σ μ : Type) where
  data : σ
  marks : μ
  locked : Bool
  phase : T → Phase R σ μ
  alive : T → Bool
  taken : List (T × Call R σ μ)
  answers : List (T × R)

inductive Event (T R σ μ : Type)
  | call (t : T) (c : Call R σ μ)
  | look (t : T) (regs : R) (reads : List (R → σ → R))
  | run (t : T)
  | die (t : T)

section Steps

variable [DecidableEq T]

def State.setPhase (s : State T R σ μ) (t : T) (p : Phase R σ μ) : State T R σ μ :=
  { s with phase := Function.update s.phase t p }

/-- One access of thread `t`. -/
def State.advance (s : State T R σ μ) (t : T) : State T R σ μ :=
  match s.phase t with
  | .idle => s
  | .waiting c =>
    if s.locked then s
    else { s with locked := true, taken := s.taken ++ [(t, c)] }.setPhase t (.inside c c.regs c.body)
  | .inside c regs [] =>
    { s with locked := false, answers := s.answers ++ [(t, regs)] }.setPhase t
      (.leaving regs c.tail)
  | .inside c regs (f :: rest) =>
    { s with data := (f (regs, s.data)).2 }.setPhase t (.inside c (f (regs, s.data)).1 rest)
  | .leaving _ [] => s
  | .leaving regs (f :: rest) =>
    { s with marks := (f (regs, s.marks)).2 }.setPhase t (.leaving (f (regs, s.marks)).1 rest)
  | .looking _ [] => s
  | .looking regs (f :: rest) => s.setPhase t (.looking (f regs s.data) rest)

/-- A thread that is dead, or not at rest when it would begin, does nothing. -/
def State.step (s : State T R σ μ) : Event T R σ μ → State T R σ μ
  | .call t c => if s.alive t ∧ (s.phase t).atRest then s.setPhase t (.waiting c) else s
  | .look t regs reads =>
    if s.alive t ∧ (s.phase t).atRest then s.setPhase t (.looking regs reads) else s
  | .run t => if s.alive t then s.advance t else s
  | .die t => { s with alive := Function.update s.alive t false }

end Steps

/-- Nobody has begun yet. -/
def State.initial (d : σ) (m : μ) : State T R σ μ where
  data := d
  marks := m
  locked := false
  phase := fun _ => .idle
  alive := fun _ => true
  taken := []
  answers := []

/-! ## What a step does -/

section Steps

variable [DecidableEq T]

@[simp] theorem setPhase_data (s : State T R σ μ) (t : T) (p : Phase R σ μ) :
    (s.setPhase t p).data = s.data := rfl

@[simp] theorem setPhase_marks (s : State T R σ μ) (t : T) (p : Phase R σ μ) :
    (s.setPhase t p).marks = s.marks := rfl

@[simp] theorem setPhase_locked (s : State T R σ μ) (t : T) (p : Phase R σ μ) :
    (s.setPhase t p).locked = s.locked := rfl

@[simp] theorem setPhase_alive (s : State T R σ μ) (t : T) (p : Phase R σ μ) :
    (s.setPhase t p).alive = s.alive := rfl

@[simp] theorem setPhase_taken (s : State T R σ μ) (t : T) (p : Phase R σ μ) :
    (s.setPhase t p).taken = s.taken := rfl

@[simp] theorem setPhase_answers (s : State T R σ μ) (t : T) (p : Phase R σ μ) :
    (s.setPhase t p).answers = s.answers := rfl

@[simp] theorem setPhase_self (s : State T R σ μ) (t : T) (p : Phase R σ μ) :
    (s.setPhase t p).phase t = p := Function.update_self _ _ _

theorem setPhase_of_ne (s : State T R σ μ) {t t' : T} (h : t' ≠ t) (p : Phase R σ μ) :
    (s.setPhase t p).phase t' = s.phase t' := Function.update_of_ne h _ _

/-- The thread whose step it is. -/
def Event.thread : Event T R σ μ → T
  | .call t _ => t
  | .look t _ _ => t
  | .run t => t
  | .die t => t

/-- What a step can do. -/
inductive Moved (s : State T R σ μ) : Event T R σ μ → State T R σ μ → Prop
  | stay (e : Event T R σ μ) : Moved s e s
  | ask (t : T) (c : Call R σ μ) (h : (s.phase t).atRest = true) :
    Moved s (.call t c) (s.setPhase t (.waiting c))
  | glance (t : T) (regs : R) (reads : List (R → σ → R)) (h : (s.phase t).atRest = true) :
    Moved s (.look t regs reads) (s.setPhase t (.looking regs reads))
  | acquire (t : T) (c : Call R σ μ) (h : s.phase t = .waiting c) (hfree : s.locked = false) :
    Moved s (.run t) ({ s with locked := true, taken := s.taken ++ [(t, c)] }.setPhase t
      (.inside c c.regs c.body))
  | access (t : T) (c : Call R σ μ) (regs : R) (f : R × σ → R × σ) (rest : List (R × σ → R × σ))
    (h : s.phase t = .inside c regs (f :: rest)) :
    Moved s (.run t) ({ s with data := (f (regs, s.data)).2 }.setPhase t
      (.inside c (f (regs, s.data)).1 rest))
  | release (t : T) (c : Call R σ μ) (regs : R) (h : s.phase t = .inside c regs []) :
    Moved s (.run t) ({ s with locked := false, answers := s.answers ++ [(t, regs)] }.setPhase t
      (.leaving regs c.tail))
  | mark (t : T) (regs : R) (f : R × μ → R × μ) (rest : List (R × μ → R × μ))
    (h : s.phase t = .leaving regs (f :: rest)) :
    Moved s (.run t) ({ s with marks := (f (regs, s.marks)).2 }.setPhase t
      (.leaving (f (regs, s.marks)).1 rest))
  | read (t : T) (regs : R) (f : R → σ → R) (rest : List (R → σ → R))
    (h : s.phase t = .looking regs (f :: rest)) :
    Moved s (.run t) (s.setPhase t (.looking (f regs s.data) rest))
  | die (t : T) : Moved s (.die t) { s with alive := Function.update s.alive t false }

theorem advance_moved (s : State T R σ μ) (t : T) : Moved s (.run t) (s.advance t) := by
  unfold State.advance
  split
  · exact .stay _
  · rename_i c h
    by_cases hl : s.locked = true
    · rw [if_pos hl]
      exact .stay _
    · rw [if_neg hl]
      exact .acquire t c h (Bool.not_eq_true _ ▸ hl)
  · rename_i c regs h
    exact .release t c regs h
  · rename_i c regs f rest h
    exact .access t c regs f rest h
  · exact .stay _
  · rename_i regs f rest h
    exact .mark t regs f rest h
  · exact .stay _
  · rename_i regs f rest h
    exact .read t regs f rest h

theorem step_moved (s : State T R σ μ) (e : Event T R σ μ) : Moved s e (s.step e) := by
  cases e with
  | call t c =>
    by_cases h : s.alive t = true ∧ (s.phase t).atRest = true
    · simp only [State.step, if_pos h]
      exact .ask t c h.2
    · simp only [State.step, if_neg h]
      exact .stay _
  | look t regs reads =>
    by_cases h : s.alive t = true ∧ (s.phase t).atRest = true
    · simp only [State.step, if_pos h]
      exact .glance t regs reads h.2
    · simp only [State.step, if_neg h]
      exact .stay _
  | run t =>
    by_cases h : s.alive t = true
    · simp only [State.step, if_pos h]
      exact advance_moved s t
    · simp only [State.step, if_neg h]
      exact .stay _
  | die t => exact .die t

/-- A step leaves the phases of the other threads. -/
theorem Moved.phase_of_ne {s s' : State T R σ μ} {e : Event T R σ μ} {t : T} (h : Moved s e s')
    (ht : t ≠ e.thread) : s'.phase t = s.phase t := by
  cases h with
  | stay e => rfl
  | die t' => rfl
  | _ => exact setPhase_of_ne _ ht _

/-! ## The calls are serial -/

/-- Thread `t` is the only one inside, in call `c`, with `rest` still to come; the accesses
before have been made to what the calls before have left behind. -/
structure Section (d₀ : σ) (s : State T R σ μ) (t : T) (c : Call R σ μ) (regs : R)
    (rest : List (R × σ → R × σ)) : Prop where
  phase : s.phase t = .inside c regs rest
  alone : ∀ t', t' ≠ t → (s.phase t').isInside = false
  partly : ∃ pre before, s.taken = pre ++ [(t, c)] ∧ c.body = before ++ rest ∧
    runAll before (c.regs, after d₀ pre) = (regs, s.data) ∧ s.answers = replies d₀ pre

/-- The invariant of the lock. -/
structure Serial (d₀ : σ) (s : State T R σ μ) : Prop where
  free : s.locked = false → s.data = after d₀ s.taken ∧ s.answers = replies d₀ s.taken ∧
    ∀ t, (s.phase t).isInside = false
  held : s.locked = true → ∃ t c regs rest, Section d₀ s t c regs rest

omit [DecidableEq T] in
theorem serial_initial (d₀ : σ) (m : μ) : Serial d₀ (State.initial d₀ m : State T R σ μ) where
  free := fun _ => ⟨rfl, rfl, fun _ => rfl⟩
  held := fun h => absurd h Bool.false_ne_true

/-- The phases differ outside the section only. -/
def SameInside (s s' : State T R σ μ) : Prop :=
  ∀ t, s'.phase t = s.phase t ∨ (s.phase t).isInside = false ∧ (s'.phase t).isInside = false

omit [DecidableEq T] in
theorem SameInside.isInside {s s' : State T R σ μ} (h : SameInside s s') (t : T) :
    (s'.phase t).isInside = (s.phase t).isInside := by
  rcases h t with heq | ⟨hs, hs'⟩
  · rw [heq]
  · rw [hs, hs']

theorem sameInside_setPhase {s : State T R σ μ} {t : T} {p : Phase R σ μ}
    (hs : (s.phase t).isInside = false) (hp : p.isInside = false) :
    SameInside s (s.setPhase t p) := by
  intro t'
  by_cases ht : t' = t
  · subst ht
    rw [setPhase_self]
    exact Or.inr ⟨hs, hp⟩
  · exact Or.inl (setPhase_of_ne s ht p)

theorem exists_of_isInside {p : Phase R σ μ} (h : p.isInside = true) :
    ∃ c regs rest, p = .inside c regs rest := by
  cases p with
  | inside c regs rest => exact ⟨c, regs, rest, rfl⟩
  | _ => exact absurd h Bool.false_ne_true

theorem isInside_of_atRest {p : Phase R σ μ} (h : p.atRest = true) : p.isInside = false := by
  cases p with
  | inside c regs rest => exact absurd h Bool.false_ne_true
  | _ => rfl

omit [DecidableEq T] in
/-- A step outside the section. -/
theorem Serial.outside {d₀ : σ} {s s' : State T R σ μ} (h : Serial d₀ s)
    (hin : SameInside s s') (hdata : s'.data = s.data) (hlocked : s'.locked = s.locked)
    (htaken : s'.taken = s.taken) (hanswers : s'.answers = s.answers) : Serial d₀ s' where
  free := by
    intro hfree
    obtain ⟨hd, ha, hout⟩ := h.free (hlocked ▸ hfree)
    rw [hdata, htaken, hanswers]
    exact ⟨hd, ha, fun t => (hin.isInside t).trans (hout t)⟩
  held := by
    intro hheld
    obtain ⟨t, c, regs, rest, hsec⟩ := h.held (hlocked ▸ hheld)
    refine ⟨t, c, regs, rest, ?_, fun t' ht' => (hin.isInside t').trans (hsec.alone t' ht'), ?_⟩
    · rcases hin t with heq | ⟨hout, -⟩
      · rw [heq, hsec.phase]
      · rw [hsec.phase] at hout
        exact absurd hout.symm Bool.false_ne_true
    · rw [htaken, hdata, hanswers]
      exact hsec.partly

/-- The thread inside is the one whose section it is. -/
theorem Section.unique {d₀ : σ} {s : State T R σ μ} {t t' : T} {c c' : Call R σ μ} {regs regs' : R}
    {rest rest' : List (R × σ → R × σ)} (h : Section d₀ s t c regs rest)
    (h' : s.phase t' = .inside c' regs' rest') : t' = t ∧ c' = c ∧ regs' = regs ∧ rest' = rest := by
  have ht : t' = t := by
    by_contra hne
    have hout := h.alone t' hne
    rw [h'] at hout
    exact absurd hout.symm Bool.false_ne_true
  subst ht
  rw [h.phase] at h'
  cases h'
  exact ⟨rfl, rfl, rfl, rfl⟩

/-- Whoever is inside holds the lock. -/
theorem Serial.section {d₀ : σ} {s : State T R σ μ} (h : Serial d₀ s) {t : T} {c : Call R σ μ}
    {regs : R} {rest : List (R × σ → R × σ)} (ht : s.phase t = .inside c regs rest) :
    s.locked = true ∧ Section d₀ s t c regs rest := by
  have hlocked : s.locked = true := by
    cases hl : s.locked with
    | true => rfl
    | false =>
      have hout := (h.free hl).2.2 t
      rw [ht] at hout
      exact absurd hout.symm Bool.false_ne_true
  obtain ⟨t', c', regs', rest', hsec⟩ := h.held hlocked
  obtain ⟨rfl, rfl, rfl, rfl⟩ := hsec.unique ht
  exact ⟨hlocked, hsec⟩

theorem Serial.moved {d₀ : σ} {s s' : State T R σ μ} {e : Event T R σ μ} (h : Serial d₀ s)
    (hmove : Moved s e s') : Serial d₀ s' := by
  cases hmove with
  | stay => exact h
  | ask t c hrest =>
    exact h.outside (sameInside_setPhase (isInside_of_atRest hrest) rfl) rfl rfl rfl rfl
  | glance t regs reads hrest =>
    exact h.outside (sameInside_setPhase (isInside_of_atRest hrest) rfl) rfl rfl rfl rfl
  | acquire t c hphase hfree =>
    obtain ⟨hd, ha, hout⟩ := h.free hfree
    refine ⟨fun hl => absurd hl.symm Bool.false_ne_true, fun _ => ⟨t, c, c.regs, c.body, ?_⟩⟩
    refine ⟨setPhase_self _ _ _, ?_, s.taken, [], rfl, rfl, ?_, ha⟩
    · intro t' ht'
      rw [setPhase_of_ne _ ht']
      exact hout t'
    · rw [← hd]
      rfl
  | access t c regs f rest hphase =>
    obtain ⟨hlocked, hsec⟩ := h.section hphase
    refine ⟨fun hl => absurd (hl.symm.trans hlocked) Bool.false_ne_true, fun _ =>
      ⟨t, c, (f (regs, s.data)).1, rest, setPhase_self _ _ _, ?_, ?_⟩⟩
    · intro t' ht'
      rw [setPhase_of_ne _ ht']
      exact hsec.alone t' ht'
    · obtain ⟨pre, before, htaken, hbody, hrun, ha⟩ := hsec.partly
      refine ⟨pre, before ++ [f], htaken, by rw [hbody]; simp, ?_, ha⟩
      rw [runAll_append, hrun]
      rfl
  | release t c regs hphase =>
    obtain ⟨-, hsec⟩ := h.section hphase
    obtain ⟨pre, before, htaken, hbody, hrun, ha⟩ := hsec.partly
    have hresult : c.result (after d₀ pre) = (regs, s.data) := by
      rw [Call.result, hbody, List.append_nil, hrun]
    refine ⟨fun _ => ⟨?_, ?_, ?_⟩, fun hl => absurd hl Bool.false_ne_true⟩
    · change s.data = after d₀ s.taken
      rw [htaken, after_append]
      simp only [after, hresult]
    · change s.answers ++ [(t, regs)] = replies d₀ s.taken
      rw [htaken, replies_append, ha]
      simp only [replies, hresult]
    · intro t'
      by_cases ht' : t' = t
      · subst ht'
        rw [setPhase_self]
        rfl
      · rw [setPhase_of_ne _ ht']
        exact hsec.alone t' ht'
  | mark t regs f rest hphase =>
    have hin : (s.phase t).isInside = false := by rw [hphase]; rfl
    exact h.outside (sameInside_setPhase hin rfl) rfl rfl rfl rfl
  | read t regs f rest hphase =>
    have hin : (s.phase t).isInside = false := by rw [hphase]; rfl
    exact h.outside (sameInside_setPhase hin rfl) rfl rfl rfl rfl
  | die t => exact h.outside (fun _ => Or.inl rfl) rfl rfl rfl rfl

theorem Serial.step {d₀ : σ} {s : State T R σ μ} (h : Serial d₀ s) (e : Event T R σ μ) :
    Serial d₀ (s.step e) := h.moved (step_moved s e)

/-- The lock is a lock in every state of every run. -/
theorem Serial.exec {d₀ : σ} {s : State T R σ μ} (h : Serial d₀ s) (es : List (Event T R σ μ)) :
    Serial d₀ (exec State.step s es) :=
  exec_of_invariant (fun _ e hs => hs.step e) h es

omit [DecidableEq T] in
/-- What holds of the data wherever the body of a call may stand holds of it at every moment.
The calls start from data that satisfies `G`. -/
theorem Serial.data_rule {G D : σ → Prop} {d₀ : σ} {s : State T R σ μ} (h : Serial d₀ s)
    (hd₀ : G d₀) (hGD : ∀ d, G d → D d)
    (hresult : ∀ tc ∈ s.taken, ∀ d, G d → G (tc.2.result d).2)
    (hpartly : ∀ tc ∈ s.taken, ∀ d, G d → ∀ before rest, tc.2.body = before ++ rest →
      D (runAll before (tc.2.regs, d)).2) : D s.data := by
  cases hl : s.locked with
  | false =>
    rw [(h.free hl).1]
    exact hGD _ (after_of_result hresult hd₀)
  | true =>
    obtain ⟨t, c, regs, rest, hsec⟩ := h.held hl
    obtain ⟨pre, before, htaken, hbody, hrun, -⟩ := hsec.partly
    have hmem : (t, c) ∈ s.taken := by rw [htaken]; simp
    have hpre : G (after d₀ pre) := by
      refine after_of_result (fun tc htc => hresult tc ?_) hd₀
      rw [htaken]
      exact List.mem_append_left _ htc
    have hdata := hpartly (t, c) hmem _ hpre before rest hbody
    rwa [hrun] at hdata

/-- How one step changes the data: not at all, or by one access of a body. -/
theorem Serial.step_rule {G : σ → Prop} {K : σ → σ → Prop} {d₀ : σ} {s s' : State T R σ μ}
    {e : Event T R σ μ} (h : Serial d₀ s) (hmove : Moved s e s') (hd₀ : G d₀)
    (hK : ∀ d, K d d) (hresult : ∀ tc ∈ s.taken, ∀ d, G d → G (tc.2.result d).2)
    (haccess : ∀ tc ∈ s.taken, ∀ d, G d → ∀ before f rest, tc.2.body = before ++ f :: rest →
      K (runAll before (tc.2.regs, d)).2 (f (runAll before (tc.2.regs, d))).2) :
    K s.data s'.data := by
  cases hmove with
  | access t c regs f rest hphase =>
    obtain ⟨-, hsec⟩ := h.section hphase
    obtain ⟨pre, before, htaken, hbody, hrun, -⟩ := hsec.partly
    have hpre : G (after d₀ pre) := by
      refine after_of_result (fun tc htc => hresult tc ?_) hd₀
      rw [htaken]
      exact List.mem_append_left _ htc
    have hchange := haccess (t, c) (by rw [htaken]; simp) _ hpre before f rest hbody
    rwa [hrun] at hchange
  | _ => exact hK _

omit [DecidableEq T] in
/-- What holds of the data while a call is under way, and then before or after that call, holds
after a number of whole calls. -/
theorem Serial.exists_after {Q : σ → Prop} {d₀ : σ} {s : State T R σ μ} (h : Serial d₀ s)
    (hQ : Q s.data)
    (hpartly : ∀ tc ∈ s.taken, ∀ d before rest, tc.2.body = before ++ rest →
      Q (runAll before (tc.2.regs, d)).2 → Q d ∨ Q (tc.2.result d).2) :
    ∃ n, s.answers.length ≤ n ∧ n ≤ s.taken.length ∧ Q (after d₀ (s.taken.take n)) := by
  cases hl : s.locked with
  | false =>
    obtain ⟨hdata, hanswers, -⟩ := h.free hl
    refine ⟨s.taken.length, ?_, Nat.le_refl _, ?_⟩
    · have hlength : s.answers.length = s.taken.length := by rw [hanswers, length_replies]
      exact Nat.le_of_eq hlength
    · rwa [List.take_length, ← hdata]
  | true =>
    obtain ⟨t, c, regs, rest, hsec⟩ := h.held hl
    obtain ⟨pre, before, htaken, hbody, hrun, hanswers⟩ := hsec.partly
    have hmem : (t, c) ∈ s.taken := by rw [htaken]; simp
    have hcount : s.answers.length = pre.length := by rw [hanswers, length_replies]
    have hlength : s.taken.length = pre.length + 1 := by rw [htaken]; simp
    rcases hpartly (t, c) hmem (after d₀ pre) before rest hbody (by rwa [hrun]) with hQ | hQ
    · refine ⟨pre.length, by omega, by omega, ?_⟩
      rwa [htaken, List.take_left]
    · refine ⟨s.taken.length, by omega, Nat.le_refl _, ?_⟩
      rw [List.take_length, htaken, after_append]
      exact hQ

/-! ## The order of the calls -/

/-- Calls are added at the end. -/
theorem Moved.taken_prefix {s s' : State T R σ μ} {e : Event T R σ μ} (h : Moved s e s') :
    s.taken <+: s'.taken := by
  cases h with
  | acquire t c hphase hfree => exact List.prefix_append _ _
  | _ => exact List.prefix_refl _

theorem Moved.answers_prefix {s s' : State T R σ μ} {e : Event T R σ μ} (h : Moved s e s') :
    s.answers <+: s'.answers := by
  cases h with
  | release t c regs hphase => exact List.prefix_append _ _
  | _ => exact List.prefix_refl _

/-- The order in which the calls take the lock is never changed afterwards. -/
theorem exec_prefix (s : State T R σ μ) (es : List (Event T R σ μ)) :
    s.taken <+: (exec State.step s es).taken ∧ s.answers <+: (exec State.step s es).answers := by
  refine exec_of_invariant (I := fun s' : State T R σ μ => s.taken <+: s'.taken ∧ s.answers <+: s'.answers) ?_
    ⟨List.prefix_refl _, List.prefix_refl _⟩ es
  rintro s' e ⟨htaken, hanswers⟩
  have hmove := step_moved s' e
  exact ⟨htaken.trans hmove.taken_prefix, hanswers.trans hmove.answers_prefix⟩

/-- A condition on every call that has been made. -/
def Made (C : T → Call R σ μ → Prop) (s : State T R σ μ) : Prop :=
  (∀ tc ∈ s.taken, C tc.1 tc.2) ∧ ∀ t c, s.phase t = .waiting c → C t c

theorem Made.setPhase {C : T → Call R σ μ → Prop} {s : State T R σ μ} (h : Made C s) {t : T}
    {p : Phase R σ μ} (hp : ∀ c, p = .waiting c → C t c) : Made C (s.setPhase t p) := by
  refine ⟨h.1, ?_⟩
  intro t' c hc
  by_cases ht : t' = t
  · subst ht
    exact hp c ((setPhase_self s t' p).symm.trans hc)
  · rw [setPhase_of_ne s ht] at hc
    exact h.2 t' c hc

/-- A step adds the call that it makes. -/
theorem Made.moved {C : T → Call R σ μ → Prop} {s s' : State T R σ μ} {e : Event T R σ μ}
    (h : Made C s) (hmove : Moved s e s') (he : ∀ t c, e = .call t c → C t c) : Made C s' := by
  cases hmove with
  | stay => exact h
  | ask t c hrest =>
    apply h.setPhase
    rintro c' ⟨⟩
    exact he t c rfl
  | acquire t c hphase hfree =>
    have hadded : Made C { s with locked := true, taken := s.taken ++ [(t, c)] } := by
      refine ⟨?_, h.2⟩
      intro tc htc
      rcases List.mem_append.mp htc with htc | htc
      · exact h.1 tc htc
      · rw [List.mem_singleton.mp htc]
        exact h.2 t c hphase
    exact hadded.setPhase nofun
  | die t => exact h
  | _ => exact Made.setPhase h nofun

/-- Along a run whose calls satisfy the condition every call satisfies it. -/
theorem made_exec {C : T → Call R σ μ → Prop} {s : State T R σ μ} (h : Made C s)
    {es : List (Event T R σ μ)} (hes : ∀ t c, Event.call t c ∈ es → C t c) :
    Made C (exec State.step s es) := by
  refine exec_of_step (C := fun _ e => ∀ t c, e = .call t c → C t c)
    (fun s e hs he => hs.moved (step_moved s e) he) h (along_of_forall ?_ s)
  rintro e he t c rfl
  exact hes t c he

omit [DecidableEq T] in
theorem made_initial (C : T → Call R σ μ → Prop) (d : σ) (m : μ) :
    Made C (State.initial d m) := ⟨nofun, nofun⟩

/-- The call for which the thread waits. -/
def Phase.pending : Phase R σ μ → List (Call R σ μ)
  | .waiting c => [c]
  | _ => []

/-- The calls of thread `t` that have taken the lock, and the one that waits for it. -/
def State.callsOf (s : State T R σ μ) (t : T) : List (Call R σ μ) :=
  (s.taken.filter fun tc => tc.1 = t).map Prod.snd ++ (s.phase t).pending

/-- The call that the event makes, if it is one of thread `t`. -/
def Event.asked (t : T) : Event T R σ μ → Option (Call R σ μ)
  | .call t' c => if t' = t then some c else none
  | _ => none

theorem callsOf_setPhase (s : State T R σ μ) {t t' : T} {p : Phase R σ μ}
    (h : p.pending = (s.phase t').pending) : (s.setPhase t' p).callsOf t = s.callsOf t := by
  unfold State.callsOf
  by_cases ht : t = t'
  · subst ht
    rw [setPhase_self, setPhase_taken, h]
  · rw [setPhase_of_ne s ht, setPhase_taken]

omit [DecidableEq T] in
theorem pending_of_atRest {p : Phase R σ μ} (h : p.atRest = true) : p.pending = [] := by
  cases p with
  | waiting c => exact absurd h Bool.false_ne_true
  | _ => rfl

/-- A call is added when it is made, and is moved when it takes the lock. -/
theorem Moved.callsOf {s s' : State T R σ μ} {e : Event T R σ μ} (h : Moved s e s') (t : T) :
    s'.callsOf t = s.callsOf t ∨ ∃ c, e.asked t = some c ∧ s'.callsOf t = s.callsOf t ++ [c] := by
  cases h with
  | stay => exact Or.inl rfl
  | die t' => exact Or.inl rfl
  | ask t' c hrest =>
    by_cases ht : t' = t
    · subst ht
      refine Or.inr ⟨c, if_pos rfl, ?_⟩
      rw [State.callsOf, State.callsOf, setPhase_self, pending_of_atRest hrest, List.append_nil]
      rfl
    · left
      rw [State.callsOf, setPhase_of_ne s (Ne.symm ht)]
      rfl
  | glance t' regs reads hrest =>
    exact Or.inl (callsOf_setPhase s (pending_of_atRest hrest).symm)
  | acquire t' c hphase hfree =>
    left
    by_cases ht : t' = t
    · subst ht
      simp [State.callsOf, Phase.pending, hphase]
    · rw [State.callsOf, setPhase_of_ne _ (Ne.symm ht), setPhase_taken, List.filter_append,
        List.filter_cons_of_neg (by simpa using ht), List.filter_nil, List.append_nil]
      rfl
  | access t' c regs f rest hphase => exact Or.inl (callsOf_setPhase _ (by rw [hphase]; rfl))
  | release t' c regs hphase => exact Or.inl (callsOf_setPhase _ (by rw [hphase]; rfl))
  | mark t' regs f rest hphase => exact Or.inl (callsOf_setPhase _ (by rw [hphase]; rfl))
  | read t' regs f rest hphase => exact Or.inl (callsOf_setPhase _ (by rw [hphase]; rfl))

/-- The calls of a thread take the lock at most once each, in the order in which it makes
them. -/
theorem callsOf_exec (s : State T R σ μ) (es : List (Event T R σ μ)) (t : T) :
    ∃ more, (exec State.step s es).callsOf t = s.callsOf t ++ more ∧
      more.Sublist (es.filterMap (Event.asked t)) := by
  induction es generalizing s with
  | nil => exact ⟨[], (List.append_nil _).symm, List.nil_sublist _⟩
  | cons e es ih =>
    obtain ⟨more, hexec, hsub⟩ := ih (s.step e)
    rcases (step_moved s e).callsOf t with hkept | ⟨c, hasked, hadded⟩
    · refine ⟨more, by rw [exec_cons, hexec, hkept], ?_⟩
      cases hasked : e.asked t with
      | none => rwa [List.filterMap_cons_none hasked]
      | some c =>
        rw [List.filterMap_cons_some hasked]
        exact hsub.trans (List.sublist_cons_self _ _)
    · refine ⟨c :: more, by rw [exec_cons, hexec, hadded, List.append_assoc]; rfl, ?_⟩
      rw [List.filterMap_cons_some hasked]
      exact hsub.cons_cons c

/-! ## A lock that is never released -/

/-- Thread `t` has died inside. -/
def Stuck (s : State T R σ μ) (t : T) : Prop :=
  (s.phase t).isInside = true ∧ s.alive t = false

/-- A dead thread does not move. -/
theorem step_of_dead {s : State T R σ μ} {e : Event T R σ μ} (h : s.alive e.thread = false) :
    s.step e = s ∨ s.step e = { s with alive := Function.update s.alive e.thread false } := by
  cases e with
  | die t => exact Or.inr rfl
  | _ =>
    left
    simp only [Event.thread] at h
    simp [State.step, h]

/-- Nothing comes back to life. -/
theorem Moved.alive_of_dead {s s' : State T R σ μ} {e : Event T R σ μ} (h : Moved s e s') {t : T}
    (ht : s.alive t = false) : s'.alive t = false := by
  cases h with
  | die t' =>
    by_cases htt : t = t'
    · rw [htt]
      exact Function.update_self _ _ _
    · exact (Function.update_of_ne htt _ _).trans ht
  | _ => exact ht

/-- What stays as it is while the lock is stuck. -/
structure SameSection (s s' : State T R σ μ) : Prop where
  data : s'.data = s.data
  locked : s'.locked = s.locked
  taken : s'.taken = s.taken
  answers : s'.answers = s.answers
  waiting : ∀ t c, s.phase t = .waiting c → s'.phase t = .waiting c

/-- Who waits for a lock that is held waits on. -/
theorem Moved.waiting {s s' : State T R σ μ} {e : Event T R σ μ} (h : Moved s e s')
    (hlocked : s.locked = true) {t : T} {c : Call R σ μ} (ht : s.phase t = .waiting c) :
    s'.phase t = .waiting c := by
  by_cases hte : t = e.thread
  · subst hte
    cases h with
    | stay => exact ht
    | die => exact ht
    | ask t c' hrest =>
      rw [Event.thread] at ht
      rw [ht] at hrest
      exact absurd hrest Bool.false_ne_true
    | glance t regs reads hrest =>
      rw [Event.thread] at ht
      rw [ht] at hrest
      exact absurd hrest Bool.false_ne_true
    | acquire t c' hphase hfree =>
      rw [hfree] at hlocked
      exact absurd hlocked Bool.false_ne_true
    | access t c' regs f rest hphase => exact absurd (ht.symm.trans hphase) nofun
    | release t c' regs hphase => exact absurd (ht.symm.trans hphase) nofun
    | mark t regs f rest hphase => exact absurd (ht.symm.trans hphase) nofun
    | read t regs f rest hphase => exact absurd (ht.symm.trans hphase) nofun
  · rw [h.phase_of_ne hte, ht]

theorem Stuck.moved {d₀ : σ} {s s' : State T R σ μ} {e : Event T R σ μ} {t : T} (h : Serial d₀ s)
    (hstuck : Stuck s t) (hmove : Moved s e s') (ht : t ≠ e.thread) :
    Stuck s' t ∧ SameSection s s' := by
  obtain ⟨c, regs, rest, hphase⟩ := exists_of_isInside hstuck.1
  obtain ⟨hlocked, hsec⟩ := h.section hphase
  refine ⟨⟨by rw [hmove.phase_of_ne ht, hstuck.1], hmove.alive_of_dead hstuck.2⟩, ?_⟩
  have hwaiting := fun t c => hmove.waiting hlocked (t := t) (c := c)
  cases hmove with
  | acquire t' c' hphase' hfree =>
    rw [hfree] at hlocked
    exact absurd hlocked Bool.false_ne_true
  | access t' c' regs' f rest' hphase' => exact absurd (hsec.unique hphase').1.symm ht
  | release t' c' regs' hphase' => exact absurd (hsec.unique hphase').1.symm ht
  | _ => exact ⟨rfl, rfl, rfl, rfl, hwaiting⟩

theorem Stuck.step {d₀ : σ} {s : State T R σ μ} {t : T} (h : Serial d₀ s) (hstuck : Stuck s t)
    (e : Event T R σ μ) : Stuck (s.step e) t ∧ SameSection s (s.step e) := by
  by_cases ht : t = e.thread
  · subst ht
    rcases step_of_dead hstuck.2 with heq | heq <;> rw [heq]
    · exact ⟨hstuck, rfl, rfl, rfl, rfl, fun _ _ h => h⟩
    · exact ⟨⟨hstuck.1, Function.update_self _ _ _⟩, rfl, rfl, rfl, rfl, fun _ _ h => h⟩
  · exact hstuck.moved h (step_moved s e) ht

/-- A lock that a dead thread holds is held for ever, and no call changes the data or is
answered any more. -/
theorem Stuck.exec {d₀ : σ} {s : State T R σ μ} {t : T} (h : Serial d₀ s) (hstuck : Stuck s t)
    (es : List (Event T R σ μ)) :
    Stuck (exec State.step s es) t ∧ SameSection s (exec State.step s es) := by
  have hkept : ∀ (s' : State T R σ μ) e, Serial d₀ s' ∧ Stuck s' t ∧ SameSection s s' →
      Serial d₀ (s'.step e) ∧ Stuck (s'.step e) t ∧ SameSection s (s'.step e) := by
    rintro s' e ⟨hserial, hs', hsame⟩
    obtain ⟨hnext, hstep⟩ := hs'.step hserial e
    exact ⟨hserial.step e, hnext, hstep.data.trans hsame.data, hstep.locked.trans hsame.locked,
      hstep.taken.trans hsame.taken, hstep.answers.trans hsame.answers,
      fun t c ht => hstep.waiting t c (hsame.waiting t c ht)⟩
  exact (exec_of_invariant hkept ⟨h, hstuck, rfl, rfl, rfl, rfl, fun _ _ h => h⟩ es).2

/-! ## A lock that is released -/

/-- Thread `t` has released the lock and no other thread has moved. -/
structure Released (s s' : State T R σ μ) (t : T) (c : Call R σ μ) : Prop where
  phase : ∃ regs, s'.phase t = .leaving regs c.tail ∧ s'.answers = s.answers ++ [(t, regs)]
  free : s'.locked = false
  alive : s'.alive = s.alive
  others : ∀ t', t' ≠ t → s'.phase t' = s.phase t'

/-- A living thread inside comes to the end of its section on its own. -/
theorem released_of_inside {c : Call R σ μ} {t : T} (rest : List (R × σ → R × σ))
    {s : State T R σ μ} {regs : R} (halive : s.alive t = true)
    (hphase : s.phase t = .inside c regs rest) :
    Released s (exec State.step s (List.replicate (rest.length + 1) (.run t))) t c := by
  induction rest generalizing s regs with
  | nil =>
    have hstep : s.step (.run t) =
        { s with locked := false, answers := s.answers ++ [(t, regs)] }.setPhase t
          (.leaving regs c.tail) := by
      simp only [State.step, halive, if_true, State.advance, hphase]
    rw [List.length_nil, Nat.zero_add, List.replicate_one, exec_cons, exec_nil, hstep]
    exact ⟨⟨regs, setPhase_self _ _ _, rfl⟩, rfl, rfl, fun t' ht' => setPhase_of_ne _ ht' _⟩
  | cons f rest ih =>
    have hstep : s.step (.run t) = { s with data := (f (regs, s.data)).2 }.setPhase t
        (.inside c (f (regs, s.data)).1 rest) := by
      simp only [State.step, halive, if_true, State.advance, hphase]
    rw [List.length_cons, List.replicate_succ, exec_cons, hstep]
    have hrest := ih (s := { s with data := (f (regs, s.data)).2 }.setPhase t
      (.inside c (f (regs, s.data)).1 rest)) halive (setPhase_self _ _ _)
    refine ⟨hrest.phase, hrest.free, hrest.alive, ?_⟩
    intro t' ht'
    rw [hrest.others t' ht', setPhase_of_ne _ ht']

/-- A living thread that finds the lock free makes its call on its own. -/
theorem released_of_waiting {c : Call R σ μ} {t : T} {s : State T R σ μ}
    (halive : s.alive t = true) (hphase : s.phase t = .waiting c) (hfree : s.locked = false) :
    Released s (exec State.step s (List.replicate (c.body.length + 2) (.run t))) t c := by
  have hstep : s.step (.run t) = { s with locked := true, taken := s.taken ++ [(t, c)] }.setPhase t
      (.inside c c.regs c.body) := by
    simp [State.step, halive, State.advance, hphase, hfree]
  have hinside : (s.step (.run t)).phase t = .inside c c.regs c.body := by
    rw [hstep]
    exact setPhase_self _ _ _
  have hrest := released_of_inside c.body (by rw [hstep]; exact halive) hinside
  rw [List.replicate_succ, exec_cons]
  rw [hstep] at hrest ⊢
  refine ⟨hrest.phase, hrest.free, hrest.alive, ?_⟩
  intro t' ht'
  rw [hrest.others t' ht', setPhase_of_ne _ ht']

/-- The lock can become free again exactly when whoever is inside is alive; then the accesses
of one thread are enough. -/
theorem freed_iff {d₀ : σ} {s : State T R σ μ} (h : Serial d₀ s) :
    (∃ ts : List T, (exec State.step s (ts.map .run)).locked = false) ↔
      ∀ t, (s.phase t).isInside = true → s.alive t = true := by
  constructor
  · rintro ⟨ts, hfree⟩ t hinside
    by_contra hdead
    have hstuck : Stuck s t := ⟨hinside, Bool.not_eq_true _ ▸ hdead⟩
    obtain ⟨c, regs, rest, hphase⟩ := exists_of_isInside hinside
    rw [(hstuck.exec h _).2.locked, (h.section hphase).1] at hfree
    exact absurd hfree.symm Bool.false_ne_true
  · intro halive
    cases hl : s.locked with
    | false => exact ⟨[], hl⟩
    | true =>
      obtain ⟨t, c, regs, rest, hsec⟩ := h.held hl
      have hin : (s.phase t).isInside = true := by rw [hsec.phase]; rfl
      refine ⟨List.replicate (rest.length + 1) t, ?_⟩
      rw [List.map_replicate]
      exact (released_of_inside rest (halive t hin) hsec.phase).free

/-- While no dead thread is inside every living thread that waits can be served: there is a
continuation at whose end its call has been answered. -/
theorem served {d₀ : σ} {s : State T R σ μ} (h : Serial d₀ s)
    (halive : ∀ t, (s.phase t).isInside = true → s.alive t = true) {t : T} {c : Call R σ μ}
    (ht : s.alive t = true) (hphase : s.phase t = .waiting c) :
    ∃ (ts : List T) (regs : R), (exec State.step s (ts.map .run)).phase t = .leaving regs c.tail ∧
      (exec State.step s (ts.map .run)).answers.getLast? = some (t, regs) := by
  have hready : ∃ ts : List T, (exec State.step s (ts.map .run)).locked = false ∧
      (exec State.step s (ts.map .run)).phase t = .waiting c ∧
      (exec State.step s (ts.map .run)).alive t = true := by
    cases hl : s.locked with
    | false => exact ⟨[], hl, hphase, ht⟩
    | true =>
      obtain ⟨t', c', regs, rest, hsec⟩ := h.held hl
      have hin : (s.phase t').isInside = true := by rw [hsec.phase]; rfl
      have hrel := released_of_inside rest (halive t' hin) hsec.phase
      have hne : t ≠ t' := by
        rintro rfl
        rw [hsec.phase] at hphase
        cases hphase
      refine ⟨List.replicate (rest.length + 1) t', ?_⟩
      rw [List.map_replicate]
      exact ⟨hrel.free, (hrel.others t hne).trans hphase, by rw [hrel.alive, ht]⟩
  obtain ⟨ts, hfree, hwait, hlive⟩ := hready
  have hrel := released_of_waiting hlive hwait hfree
  obtain ⟨regs, hleave, hanswers⟩ := hrel.phase
  refine ⟨ts ++ List.replicate (c.body.length + 2) t, regs, ?_⟩
  rw [List.map_append, List.map_replicate, exec_append, hanswers]
  exact ⟨hleave, by simp⟩

/-! ## Looks -/

/-- Thread `t` begins a call or a look. -/
def Event.begins (t : T) : Event T R σ μ → Bool
  | .call t' _ => decide (t' = t)
  | .look t' _ _ => decide (t' = t)
  | _ => false

theorem Moved.look {s s' : State T R σ μ} {e : Event T R σ μ} {t : T} (h : Moved s e s') {regs : R}
    {reads : List (R → σ → R)} (hphase : s.phase t = .looking regs reads)
    (hbegin : e.begins t = false) :
    s'.phase t = s.phase t ∨
      ∃ f rest, reads = f :: rest ∧ s'.phase t = .looking (f regs s.data) rest := by
  by_cases ht : t = e.thread
  · subst ht
    cases h with
    | stay => exact Or.inl rfl
    | ask t c hrest => simp [Event.begins, Event.thread] at hbegin
    | glance t regs' reads' hrest => simp [Event.begins, Event.thread] at hbegin
    | acquire t c h hfree => exact absurd (hphase.symm.trans h) nofun
    | access t c regs' f rest h => exact absurd (hphase.symm.trans h) nofun
    | release t c regs' h => exact absurd (hphase.symm.trans h) nofun
    | mark t regs' f rest h => exact absurd (hphase.symm.trans h) nofun
    | read t regs' f rest h =>
      obtain ⟨rfl, rfl⟩ := Phase.looking.inj (hphase.symm.trans h)
      exact Or.inr ⟨f, rest, rfl, setPhase_self _ _ _⟩
    | die t => exact Or.inl rfl
  · exact Or.inl (h.phase_of_ne ht)

/-- The rule for a look: an assertion about the reads to come, the registers and the data that
a read of data which satisfies `D` keeps, and that every change of the data keeps. -/
theorem look_rule {D : σ → Prop} {K : σ → σ → Prop} {J : List (R → σ → R) → R → σ → Prop}
    (hread : ∀ f rest regs d, D d → J (f :: rest) regs d → J rest (f regs d) d)
    (hkeep : ∀ rest regs d d', K d d' → J rest regs d → J rest regs d') {t : T}
    {s : State T R σ μ} {regs : R} {reads : List (R → σ → R)}
    (hphase : s.phase t = .looking regs reads) (hstart : J reads regs s.data)
    {es : List (Event T R σ μ)}
    (hrun : Along State.step (fun s e => D s.data ∧ K s.data (s.step e).data) s es)
    (hes : ∀ e ∈ es, e.begins t = false) :
    ∃ regs' rest, (exec State.step s es).phase t = .looking regs' rest ∧
      J rest regs' (exec State.step s es).data := by
  induction es generalizing s regs reads with
  | nil => exact ⟨regs, reads, hphase, hstart⟩
  | cons e es ih =>
    obtain ⟨⟨hD, hK⟩, hrest⟩ := hrun
    have hnext : ∃ regs' rest, (s.step e).phase t = .looking regs' rest ∧
        J rest regs' (s.step e).data := by
      rcases (step_moved s e).look hphase (hes e List.mem_cons_self) with
        hkept | ⟨f, rest, rfl, hlook⟩
      · exact ⟨regs, reads, hkept.trans hphase, hkeep _ _ _ _ hK hstart⟩
      · exact ⟨f regs s.data, rest, hlook, hkeep _ _ _ _ hK (hread f rest regs s.data hD hstart)⟩
    obtain ⟨regs', rest, hphase', hJ'⟩ := hnext
    exact ih hphase' hJ' hrest fun e he => hes e (List.mem_cons_of_mem _ he)

/-- Thread `t` makes an access. -/
def Event.runs (t : T) : Event T R σ μ → Bool
  | .run t' => decide (t' = t)
  | _ => false

/-- Thread `t` dies. -/
def Event.kills (t : T) : Event T R σ μ → Bool
  | .die t' => decide (t' = t)
  | _ => false

theorem Moved.alive_of_not_kills {s s' : State T R σ μ} {e : Event T R σ μ} {t : T}
    (h : Moved s e s') (hkill : e.kills t = false) : s'.alive t = s.alive t := by
  cases h with
  | die t' =>
    have hne : t ≠ t' := by
      rintro rfl
      simp [Event.kills] at hkill
    exact Function.update_of_ne hne _ _
  | _ => rfl

/-- A look waits for nobody: after as many accesses of its thread as it has reads it is over,
whatever the other threads do or do not do. -/
theorem look_completes {t : T} {s : State T R σ μ} {regs : R} {reads : List (R → σ → R)}
    (halive : s.alive t = true) (hphase : s.phase t = .looking regs reads)
    {es : List (Event T R σ μ)} (hes : ∀ e ∈ es, e.begins t = false ∧ e.kills t = false)
    (hcount : reads.length ≤ es.countP (Event.runs t)) :
    ∃ regs', (exec State.step s es).phase t = .looking regs' [] := by
  induction es generalizing s regs reads with
  | nil =>
    rw [List.countP_nil, Nat.le_zero, List.length_eq_zero_iff] at hcount
    exact ⟨regs, hcount ▸ hphase⟩
  | cons e es ih =>
    obtain ⟨hbegin, hkill⟩ := hes e List.mem_cons_self
    have hlive := ((step_moved s e).alive_of_not_kills hkill).trans halive
    have hrest : ∀ e ∈ es, e.begins t = false ∧ e.kills t = false :=
      fun e he => hes e (List.mem_cons_of_mem _ he)
    cases hruns : e.runs t with
    | false =>
      rw [List.countP_cons_of_neg (by rw [hruns]; exact Bool.false_ne_true)] at hcount
      rcases (step_moved s e).look hphase hbegin with hkept | ⟨f, rest, rfl, hread⟩
      · exact ih hlive (hkept.trans hphase) hrest hcount
      · exact ih hlive hread hrest (by rw [List.length_cons] at hcount; omega)
    | true =>
      rw [List.countP_cons_of_pos hruns] at hcount
      obtain rfl : e = .run t := by
        cases e with
        | run t' => rw [of_decide_eq_true hruns]
        | _ => exact absurd hruns Bool.false_ne_true
      cases reads with
      | nil =>
        have hkept : s.step (.run t) = s := by
          simp only [State.step, halive, if_true, State.advance, hphase]
        rw [exec_cons, hkept]
        exact ih halive hphase hrest (Nat.zero_le _)
      | cons f reads =>
        have hread : s.step (.run t) = s.setPhase t (.looking (f regs s.data) reads) := by
          simp only [State.step, halive, if_true, State.advance, hphase]
        rw [exec_cons]
        refine ih hlive (by rw [hread, setPhase_self]) hrest ?_
        rw [List.length_cons] at hcount
        omega

end Steps

end RdmaIntercept.Library.SpinLock
