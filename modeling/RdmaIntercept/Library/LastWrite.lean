import Mathlib.Data.List.Basic
import Mathlib.Data.List.DropRight
import Mathlib.Tactic.Common

/-!
# The last write

A record is changed by events one after the other, and of its fields one is looked at: an
event writes a value to it or leaves it.  After all events the field holds the value of the
last event that wrote it, or what it held before.
-/

set_option autoImplicit false

namespace RdmaIntercept.Library

variable {ρ ε β : Type}

/-- The value that the last writing event writes. -/
def lastWrite (write : ε → Option β) (es : List ε) : Option β := (es.filterMap write).getLast?

variable {write : ε → Option β} {e : ε} {es fs : List ε}

theorem lastWrite_cons : lastWrite write (e :: es) = (lastWrite write es).or (write e) := by
  cases h : write e with
  | none => simp [lastWrite, h]
  | some b =>
    rw [lastWrite, List.filterMap_cons_some h, List.getLast?_cons]
    cases hlast : (es.filterMap write).getLast? <;> simp [lastWrite, hlast]

/-- A field that every event writes or leaves holds the last write. -/
theorem foldl_eq_lastWrite (apply : ρ → ε → ρ) (get : ρ → β)
    (h : ∀ r e, get (apply r e) = (write e).getD (get r)) (r : ρ) (es : List ε) :
    get (es.foldl apply r) = (lastWrite write es).getD (get r) := by
  induction es generalizing r with
  | nil => rfl
  | cons e es ih =>
    rw [List.foldl_cons, ih, h, lastWrite_cons]
    cases lastWrite write es <;> simp

/-- A flag that events only set is set when one of them has set it. -/
theorem foldl_eq_any (apply : ρ → ε → ρ) (get : ρ → Bool) (sets : ε → Bool)
    (h : ∀ r e, get (apply r e) = (get r || sets e)) (r : ρ) (es : List ε) :
    get (es.foldl apply r) = (get r || es.any sets) := by
  induction es generalizing r with
  | nil => simp
  | cons e es ih => rw [List.foldl_cons, ih, h, List.any_cons, Bool.or_assoc]

/-- Values that are converted where they are written may be converted afterwards. -/
theorem lastWrite_map {γ : Type} (f : β → γ) :
    lastWrite (fun e => (write e).map f) es = (lastWrite write es).map f := by
  induction es with
  | nil => rfl
  | cons e es ih =>
    rw [lastWrite_cons, lastWrite_cons, ih]
    cases lastWrite write es <;> simp

theorem lastWrite_append :
    lastWrite write (es ++ fs) = (lastWrite write fs).or (lastWrite write es) := by
  rw [lastWrite, List.filterMap_append, List.getLast?_append]
  rfl

theorem lastWrite_eq_none_iff : lastWrite write es = none ↔ ∀ e ∈ es, write e = none := by
  rw [lastWrite, List.getLast?_eq_none_iff, List.filterMap_eq_nil_iff]

/-- The last write is the write of one of the events. -/
theorem exists_of_lastWrite {b : β} (h : lastWrite write es = some b) :
    ∃ e ∈ es, write e = some b :=
  List.mem_filterMap.mp (List.mem_of_getLast? h)

/-- When all writes are of one value it is the last write. -/
theorem lastWrite_of_unique {b : β} (he : e ∈ es) (hb : write e = some b)
    (hunique : ∀ e' ∈ es, ∀ b', write e' = some b' → b' = b) : lastWrite write es = some b := by
  cases h : lastWrite write es with
  | none => exact absurd (hb.symm.trans (lastWrite_eq_none_iff.mp h e he)) (Option.some_ne_none b)
  | some b' =>
    obtain ⟨e', he', hb'⟩ := exists_of_lastWrite h
    rw [hunique e' he' b' hb']

/-- The last of the writes in groups is the last write of the last group that has one. -/
theorem getLast?_flatMap (g : ε → List β) :
    (es.flatMap g).getLast? = lastWrite (fun e => (g e).getLast?) es := by
  induction es with
  | nil => rfl
  | cons e es ih =>
    rw [List.flatMap_cons, List.getLast?_append, ih, lastWrite_cons]

/-- Events that do not write may be left out. -/
theorem lastWrite_filter {p : ε → Bool} (h : ∀ e ∈ es, p e = false → write e = none) :
    lastWrite write (es.filter p) = lastWrite write es := by
  induction es with
  | nil => rfl
  | cons e es ih =>
    have hrest := ih fun e' he' => h e' (List.mem_cons_of_mem e he')
    cases hp : p e with
    | true => rw [List.filter_cons_of_pos hp, lastWrite_cons, lastWrite_cons, hrest]
    | false =>
      rw [List.filter_cons_of_neg (Bool.not_eq_true _ ▸ hp), lastWrite_cons, hrest,
        h e List.mem_cons_self hp, Option.or_none]

theorem lastWrite_congr {write' : ε → Option β} (h : ∀ e ∈ es, write e = write' e) :
    lastWrite write es = lastWrite write' es := by
  rw [lastWrite, lastWrite, List.filterMap_congr h]

/-! ## Two readings of the same events -/

/-- The events up to the last one that is settled and writes. -/
def upToSettled (settled : ε → Bool) (write : ε → Option β) (es : List ε) : List ε :=
  es.rdropWhile fun e => !(settled e && (write e).isSome)

/-- The events behind it. -/
def behindSettled (settled : ε → Bool) (write : ε → Option β) (es : List ε) : List ε :=
  es.rtakeWhile fun e => !(settled e && (write e).isSome)

variable {settled : ε → Bool} {write' : ε → Option β}

theorem getD_lastWrite_append (b : β) :
    (lastWrite write (es ++ fs)).getD b =
      (lastWrite write fs).getD ((lastWrite write es).getD b) := by
  rw [lastWrite_append]
  cases lastWrite write fs <;> rfl

theorem upToSettled_append_behindSettled :
    upToSettled settled write es ++ behindSettled settled write es = es :=
  List.rdropWhile_append_rtakeWhile ..

/-- Up to the last settled event that writes, readings that agree on the settled events have
the same last write. -/
theorem lastWrite_upToSettled (hsame : ∀ e ∈ es, settled e = true → write' e = write e) :
    lastWrite write' (upToSettled settled write es) =
      lastWrite write (upToSettled settled write es) := by
  have hlast := List.rdropWhile_last_not (fun e => !(settled e && (write e).isSome)) es
  have hsubset := (List.rdropWhile_prefix (fun e => !(settled e && (write e).isSome)) es).subset
  rw [upToSettled]
  rcases List.eq_nil_or_concat (es.rdropWhile fun e => !(settled e && (write e).isSome)) with
    hnil | ⟨front, e, hend⟩
  · rw [hnil]
    rfl
  · rw [hend] at hsubset
    simp only [hend, List.concat_eq_append, List.getLast_append_singleton] at hlast ⊢
    have hsettles : settled e = true ∧ ¬ write e = none := by simpa using hlast (by simp)
    have hmem : e ∈ es := hsubset (by simp)
    obtain ⟨v, hv⟩ := Option.ne_none_iff_exists'.mp hsettles.2
    rw [lastWrite_append, lastWrite_append, lastWrite_cons, lastWrite_cons, hsame e hmem hsettles.1, hv]
    rfl

/-- Behind it, the settled events do not write. -/
theorem eq_none_of_mem_behindSettled (h : e ∈ behindSettled settled write es)
    (hsettled : settled e = true) : write e = none := by
  have hsilent : settled e = false ∨ write e = none := by simpa using List.mem_rtakeWhile_imp h
  exact hsilent.resolve_left (by simp [hsettled])

/-- Two readings that agree on the settled events have the same last write exactly when they do
on the others behind the last settled event that writes, whose value counts as the value
before. -/
theorem getD_lastWrite_eq_iff (hsame : ∀ e ∈ es, settled e = true → write' e = write e) (b : β) :
    (lastWrite write' es).getD b = (lastWrite write es).getD b ↔
      (lastWrite write' ((behindSettled settled write es).filter fun e => !settled e)).getD
          ((lastWrite write (upToSettled settled write es)).getD b) =
        (lastWrite write ((behindSettled settled write es).filter fun e => !settled e)).getD
          ((lastWrite write (upToSettled settled write es)).getD b) := by
  have hothers : lastWrite write ((behindSettled settled write es).filter fun e => !settled e) =
      lastWrite write (behindSettled settled write es) := by
    apply lastWrite_filter
    intro e he hs
    exact eq_none_of_mem_behindSettled he (by simpa using hs)
  have hothers' : lastWrite write' ((behindSettled settled write es).filter fun e => !settled e) =
      lastWrite write' (behindSettled settled write es) := by
    apply lastWrite_filter
    intro e he hs
    have hsettled : settled e = true := by simpa using hs
    have hmem : e ∈ es := (List.rtakeWhile_suffix _ es).subset he
    rw [hsame e hmem hsettled, eq_none_of_mem_behindSettled he hsettled]
  rw [hothers, hothers', ← getD_lastWrite_append, upToSettled_append_behindSettled,
    ← lastWrite_upToSettled hsame, ← getD_lastWrite_append, upToSettled_append_behindSettled]

end RdmaIntercept.Library
