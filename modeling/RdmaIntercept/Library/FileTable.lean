import Mathlib.Data.Finset.Basic

/-!
# Open files

The streams that a process has open, each under a number that is not used again, and what
`fopen`, `fclose` and `fprintf` do to them.  Closing a stream that is not open and writing
to one are undefined; the table records that it has happened.
-/

set_option autoImplicit false

namespace RdmaIntercept.Library

structure FileTable where
  openFiles : Finset ℕ
  next : ℕ
  closedTwice : Bool
  wroteClosed : Bool

namespace FileTable

def empty : FileTable := ⟨∅, 0, false, false⟩

/-- Whether the file can be opened is not for the table to say. -/
def fopen (t : FileTable) (ok : Bool) : Option ℕ × FileTable :=
  if ok then (some t.next, { t with openFiles := insert t.next t.openFiles, next := t.next + 1 })
  else (none, t)

def fclose (t : FileTable) (f : ℕ) : FileTable :=
  if f ∈ t.openFiles then { t with openFiles := t.openFiles.erase f }
  else { t with closedTwice := true }

def fprintf (t : FileTable) (f : ℕ) : FileTable :=
  if f ∈ t.openFiles then t else { t with wroteClosed := true }

/-- Nothing undefined has happened. -/
def Clean (t : FileTable) : Prop := t.closedTwice = false ∧ t.wroteClosed = false

variable {t : FileTable} {f : ℕ}

theorem fopen_true (t : FileTable) : ∃ f t', t.fopen true = (some f, t') ∧ f ∈ t'.openFiles ∧
    (t.Clean → t'.Clean) :=
  ⟨_, _, rfl, Finset.mem_insert_self _ _, id⟩

@[simp] theorem fopen_false (t : FileTable) : t.fopen false = (none, t) := rfl

@[simp] theorem fprintf_of_mem (h : f ∈ t.openFiles) : t.fprintf f = t := if_pos h

theorem clean_fclose (h : f ∈ t.openFiles) (hclean : t.Clean) : (t.fclose f).Clean := by
  rw [fclose, if_pos h]
  exact hclean

/-- A stream is not open after it has been closed. -/
theorem notMem_fclose (t : FileTable) (f : ℕ) : f ∉ (t.fclose f).openFiles := by
  by_cases h : f ∈ t.openFiles
  · rw [fclose, if_pos h]
    exact Finset.notMem_erase f t.openFiles
  · rw [fclose, if_neg h]
    exact h

end FileTable

end RdmaIntercept.Library
