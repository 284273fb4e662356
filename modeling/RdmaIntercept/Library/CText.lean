import Mathlib.Algebra.Group.Int.Defs
import Mathlib.Algebra.Group.Nat.Defs
import Mathlib.Data.List.DropRight
import Mathlib.Data.List.TakeWhile
import Mathlib.Tactic.Common

/-!
# C strings

Buffers as lists of bytes, and what the string functions of the C library do with them:
where a string ends, decimal numbers as `printf` writes and `strtol` and `scanf` read
them, searching, comparing without regard to case, and the lines that `fgets` reads.
Characters are classified as in the `C` locale.  A number that is printed is read back
(`scanNumber_decimal`), whatever follows it but a digit.
-/

set_option autoImplicit false

namespace RdmaIntercept.Library.CText

abbrev Bytes : Type := List UInt8

/-- The bytes of a string literal, without the terminating NUL. -/
def text (s : String) : Bytes := s.toUTF8.data.toList

/-- The string that a buffer holds. -/
def terminated (b : Bytes) : Bytes := b.takeWhile (· ≠ 0)

/-- What `snprintf` leaves of its output in a buffer of `size` bytes. -/
def snprintf (size : ℕ) (output : Bytes) : Bytes := output.take (size - 1)

/-- The string in a buffer of `size` bytes after a read of `size - 1` bytes at most and the
writing of the NUL behind them. -/
def received (size : ℕ) (b : Bytes) : Bytes := terminated (b.take (size - 1))

/-! ## Characters -/

/-- `isspace` -/
def isSpace (c : UInt8) : Bool := c = 32 || (9 ≤ c && c ≤ 13)

/-- `isdigit` -/
def isDigit (c : UInt8) : Bool := 48 ≤ c && c ≤ 57

/-- `tolower` -/
def toLower (c : UInt8) : UInt8 := if 65 ≤ c && c ≤ 90 then c + 32 else c

/-- Whether `strcasecmp` answers 0. -/
def sameIgnoringCase (a b : Bytes) : Bool := a.map toLower = b.map toLower

def skipSpaces (b : Bytes) : Bytes := b.dropWhile isSpace

/-! ## Numbers -/

/-- What `%u`, `%zu` and `%llu` print. -/
def decimal (n : ℕ) : Bytes := (Nat.toDigits 10 n).map fun c => UInt8.ofNat c.toNat

/-- The number that a row of digits stands for. -/
def digitsValue (ds : Bytes) : ℕ := ds.foldl (fun v d => 10 * v + (d.toNat - 48)) 0

/-- Takes a sign off; `true` for a minus. -/
def splitSign : Bytes → Bool × Bytes
  | 45 :: b => (true, b)
  | 43 :: b => (false, b)
  | b => (false, b)

/-- A number as `strtol` and `scanf` read it: white space, a sign, digits.  `none` when there
is no digit; else the sign, the absolute value and what follows. -/
def scanNumber (b : Bytes) : Option (Bool × ℕ × Bytes) :=
  let (negative, b) := splitSign (skipSpaces b)
  if b.takeWhile isDigit = [] then none
  else some (negative, digitsValue (b.takeWhile isDigit), b.dropWhile isDigit)

/-- The number that is read, without what follows it. -/
def scanValue (b : Bytes) : Option (Bool × ℕ) := (scanNumber b).map fun r => (r.1, r.2.1)

/-- The value of `strtoul`, which stops at `ULONG_MAX`; a minus negates in 64 bits. -/
def unsignedValue (negative : Bool) (v : ℕ) : UInt64 :=
  if 2 ^ 64 ≤ v then UInt64.ofNat (2 ^ 64 - 1)
  else if negative then -UInt64.ofNat v
  else UInt64.ofNat v

/-- `strtol(b, NULL, 10)`, which stops at `LONG_MIN` and `LONG_MAX`; 0 without digits. -/
def strtol (b : Bytes) : ℤ :=
  match scanNumber b with
  | none => 0
  | some (true, v, _) => max (-(2 ^ 63)) (-v)
  | some (false, v, _) => min (2 ^ 63 - 1) v

/-- `strtoull(b, NULL, 10)` -/
def strtoull (b : Bytes) : UInt64 :=
  match scanNumber b with
  | none => 0
  | some (negative, v, _) => unsignedValue negative v

/-- `atoi(b)` -/
def atoi (b : Bytes) : Int32 := Int32.ofInt (strtol b)

/-! ## Formatted input -/

/-- The literal part of a `scanf` format: white space matches any amount of white space,
every other character itself. -/
def scanLiteral : Bytes → Bytes → Option Bytes
  | [], b => some b
  | c :: fmt, b =>
    if isSpace c then scanLiteral fmt (skipSpaces b)
    else
      match b with
      | [] => none
      | d :: b => if c = d then scanLiteral fmt b else none

/-- `%zu` -/
def scanSize (b : Bytes) : Option UInt64 :=
  (scanNumber b).map fun r => unsignedValue r.1 r.2.1

/-- `%u`: the low half of the number read. -/
def scanUnsigned (b : Bytes) : Option UInt32 := (scanSize b).map UInt64.toUInt32

/-- `%<width>s`: the next word, or as much of it as fits, and what follows. -/
def scanWord (width : ℕ) (b : Bytes) : Option (Bytes × Bytes) :=
  let word := ((skipSpaces b).takeWhile fun c => !isSpace c).take width
  if word = [] then none else some (word, (skipSpaces b).drop word.length)

/-! ## Searching -/

/-- `strstr(b, needle)`: the rest of `b` from the first occurrence on. -/
def strstr (needle : Bytes) : Bytes → Option Bytes
  | [] => if needle = [] then some [] else none
  | c :: b => if needle.isPrefixOf (c :: b) then some (c :: b) else strstr needle b

/-! ## Files -/

/-- The lines that `fgets(line, size, fp)` reads from a file, each with its newline if it has
one: `room` more characters fit into the line whose characters so far are `acc`, the last
one first. -/
def fgetsFrom (size : ℕ) : ℕ → Bytes → Bytes → List Bytes
  | _, acc, [] => if acc = [] then [] else [acc.reverse]
  | room, acc, c :: b =>
    if c = 10 ∨ room ≤ 1 then (c :: acc).reverse :: fgetsFrom size (size - 1) [] b
    else fgetsFrom size (room - 1) (c :: acc) b

/-- The lines of a file. -/
def fgetsLines (size : ℕ) (file : Bytes) : List Bytes := fgetsFrom size (size - 1) [] file

/-! ## Reading numbers -/

section Digits
variable {ds rest s t b : Bytes} {c : UInt8}

theorem isDigit_iff : isDigit c = true ↔ 48 ≤ c.toNat ∧ c.toNat ≤ 57 := by
  simp [isDigit, UInt8.le_iff_toNat_le]

/-- A digit is neither white space nor a sign. -/
theorem digit_ne (hc : isDigit c = true) : isSpace c = false ∧ c ≠ 45 ∧ c ≠ 43 := by
  rw [isDigit_iff] at hc
  refine ⟨?_, ?_, ?_⟩
  · simp [isSpace, UInt8.le_iff_toNat_le, ← UInt8.toNat_inj]
    omega
  · rintro rfl
    exact absurd hc (by decide)
  · rintro rfl
    exact absurd hc (by decide)

/-- `b` does not go on with a digit. -/
def NoDigit (b : Bytes) : Prop := ∀ c, b.head? = some c → isDigit c = false

/-- Digits are read to the last, whatever follows them but a digit. -/
theorem scanNumber_digits (hne : ds ≠ []) (hds : ∀ c ∈ ds, isDigit c = true)
    (hrest : NoDigit rest) : scanNumber (ds ++ rest) = some (false, digitsValue ds, rest) := by
  have hsign : splitSign (skipSpaces (ds ++ rest)) = (false, ds ++ rest) := by
    cases ds with
    | nil => exact absurd rfl hne
    | cons c ds =>
      obtain ⟨hspace, hminus, hplus⟩ := digit_ne (hds c List.mem_cons_self)
      simp only [skipSpaces, List.cons_append, List.dropWhile_cons, hspace]
      simp [splitSign, hminus, hplus]
  have htake : (ds ++ rest).takeWhile isDigit = ds ∧ (ds ++ rest).dropWhile isDigit = rest := by
    rw [List.takeWhile_append_of_pos hds, List.dropWhile_append_of_pos hds]
    cases rest with
    | nil => simp
    | cons c rest => simp [hrest c rfl]
  unfold scanNumber
  rw [hsign]
  simp only [htake.1, htake.2, hne, if_false]

theorem takeWhile_append_spaces (hs : ∀ c ∈ s, isSpace c = true) :
    (t ++ s).takeWhile isDigit = t.takeWhile isDigit := by
  induction t with
  | nil =>
    cases s with
    | nil => rfl
    | cons c s =>
      have hc : isDigit c = false := by
        rw [← Bool.not_eq_true]
        intro hdigit
        have hspace := (digit_ne hdigit).1
        rw [hs c List.mem_cons_self] at hspace
        exact absurd hspace (by decide)
      simp [hc]
  | cons c t ih => simp only [List.cons_append, List.takeWhile_cons, ih]

theorem scanNumber_skipSpaces : scanNumber (skipSpaces b) = scanNumber b := by
  have hskip : skipSpaces (skipSpaces b) = skipSpaces b := List.dropWhile_idempotent ..
  unfold scanNumber
  rw [hskip]

/-- The sign and the digits behind white space make the number. -/
theorem scanValue_congr {b b' : Bytes}
    (hsign : (splitSign (skipSpaces b)).1 = (splitSign (skipSpaces b')).1)
    (hdigits : (splitSign (skipSpaces b)).2.takeWhile isDigit =
      (splitSign (skipSpaces b')).2.takeWhile isDigit) : scanValue b = scanValue b' := by
  unfold scanValue scanNumber
  dsimp only
  rw [hsign, hdigits]
  split_ifs <;> rfl

theorem scanValue_skipSpaces (b : Bytes) : scanValue (skipSpaces b) = scanValue b := by
  unfold scanValue
  rw [scanNumber_skipSpaces]

/-- White space behind a number does not count. -/
theorem scanValue_append_spaces (hs : ∀ c ∈ s, isSpace c = true) :
    scanValue (t ++ s) = scanValue t := by
  induction t with
  | nil =>
    have hskip : skipSpaces s = [] := List.dropWhile_eq_nil_iff.mpr hs
    rw [List.nil_append, ← scanValue_skipSpaces, hskip]
  | cons c t ih =>
    by_cases hc : isSpace c = true
    · have hskip (b : Bytes) : scanValue (c :: b) = scanValue b := by
        rw [← scanValue_skipSpaces, skipSpaces, List.dropWhile_cons_of_pos hc]
        exact scanValue_skipSpaces b
      rw [List.cons_append, hskip, hskip, ih]
    · have hskip (b : Bytes) : skipSpaces (c :: b) = c :: b := List.dropWhile_cons_of_neg hc
      have hsign (b : Bytes) : splitSign (c :: b) =
          if c = 45 then (true, b) else if c = 43 then (false, b) else (false, c :: b) := by
        unfold splitSign
        split <;> simp_all
      apply scanValue_congr
      · rw [List.cons_append, hskip, hskip, hsign, hsign]
        split_ifs <;> rfl
      · rw [List.cons_append, hskip, hskip, hsign, hsign]
        split_ifs
        · exact takeWhile_append_spaces hs
        · exact takeWhile_append_spaces hs
        · rw [← List.cons_append]
          exact takeWhile_append_spaces hs

end Digits

/-! ## Printed numbers -/

section Decimal

variable {c : UInt8} {n k : ℕ} {b rest : Bytes}

theorem isDigit_of_mem_decimal (h : c ∈ decimal n) : isDigit c = true := by
  obtain ⟨d, hd, rfl⟩ := List.mem_map.mp h
  have hdigit := Nat.isDigit_of_mem_toDigits (by omega) (by omega) hd
  rw [Char.isDigit_iff_toNat] at hdigit
  rw [isDigit_iff, UInt8.toNat_ofNat']
  simp at hdigit
  omega

/-- What is neither a digit nor in the number is not in it. -/
theorem notMem_decimal (h : isDigit c = false) : c ∉ decimal n := by
  intro hc
  rw [isDigit_of_mem_decimal hc] at h
  exact absurd h (by decide)

theorem decimal_ne_nil : decimal n ≠ [] := by
  simp [decimal]

theorem length_decimal_le (hk : 0 < k) (h : n < 10 ^ k) : (decimal n).length ≤ k := by
  rw [decimal, List.length_map]
  exact (Nat.length_toDigits_le_iff (by omega) hk).mpr h

theorem digitsValue_decimal : digitsValue (decimal n) = n := by
  have hfold : ∀ (ds : List Char) (v : ℕ), (∀ d ∈ ds, d.isDigit = true) →
      (ds.map fun d => UInt8.ofNat d.toNat).foldl (fun v d => 10 * v + (d.toNat - 48)) v =
        Nat.ofDigitChars 10 ds v := by
    intro ds
    induction ds with
    | nil =>
      intro v _
      simp
    | cons d ds ih =>
      intro v hds
      have hd := hds d List.mem_cons_self
      rw [Char.isDigit_iff_toNat] at hd
      simp at hd
      have hsmall : d.toNat % 256 = d.toNat := Nat.mod_eq_of_lt (by omega)
      rw [List.map_cons, List.foldl_cons, ih _ fun e he => hds e (List.mem_cons_of_mem d he),
        Nat.ofDigitChars_cons, UInt8.toNat_ofNat']
      simp [hsmall]
  have hdigits : ∀ d ∈ Nat.toDigits 10 n, d.isDigit = true := fun d hd =>
    Nat.isDigit_of_mem_toDigits (by omega) (by omega) hd
  rw [digitsValue, decimal, hfold _ 0 hdigits, Nat.ofDigitChars_ten_toDigits]

/-- A number that is printed is read back. -/
theorem scanNumber_decimal (h : NoDigit rest) :
    scanNumber (decimal n ++ rest) = some (false, n, rest) := by
  rw [scanNumber_digits decimal_ne_nil (fun c hc => isDigit_of_mem_decimal hc) h,
    digitsValue_decimal]

theorem scanUnsigned_skipSpaces : scanUnsigned (skipSpaces b) = scanUnsigned b := by
  unfold scanUnsigned scanSize
  rw [scanNumber_skipSpaces]

theorem scanSize_decimal (v : UInt64) (h : NoDigit rest) :
    scanSize (decimal v.toNat ++ rest) = some v := by
  have hv := v.toNat_lt
  rw [scanSize, scanNumber_decimal h]
  simp only [Option.map_some, unsignedValue]
  rw [if_neg (by omega)]
  simp

/-- A number that takes more than 32 bits is cut. -/
theorem scanUnsigned_decimal_ofNat (hn : n < 2 ^ 64) (h : NoDigit rest) :
    scanUnsigned (decimal n ++ rest) = some (UInt32.ofNat n) := by
  rw [scanUnsigned, scanSize, scanNumber_decimal h]
  simp only [Option.map_some, unsignedValue]
  rw [if_neg (by omega), if_neg Bool.false_ne_true, UInt64.toUInt32_ofNat']

theorem scanUnsigned_decimal (v : UInt32) (h : NoDigit rest) :
    scanUnsigned (decimal v.toNat ++ rest) = some v := by
  have hv := v.toNat_lt
  rw [scanUnsigned_decimal_ofNat (by omega) h, UInt32.ofNat_toNat]
end Decimal

/-! ## Strings without the end mark -/

theorem terminated_of_notMem {b : Bytes} (h : (0 : UInt8) ∉ b) : terminated b = b := by
  rw [terminated, List.takeWhile_eq_self_iff]
  intro c hc
  simp only [ne_eq, decide_eq_true_eq]
  rintro rfl
  exact h hc

/-! ## Searching -/

theorem strstr_of_prefix {needle b : Bytes} (h : needle <+: b) : strstr needle b = some b := by
  cases b with
  | nil => simp [strstr, List.prefix_nil.mp h]
  | cons c b => rw [strstr, if_pos (List.isPrefixOf_iff_prefix.mpr h)]

/-- A part without the first character of the needle is passed over. -/
theorem strstr_append {c : UInt8} {needle front b : Bytes} (h : c ∉ front) :
    strstr (c :: needle) (front ++ b) = strstr (c :: needle) b := by
  induction front with
  | nil => rfl
  | cons d front ih =>
    rw [List.mem_cons, not_or] at h
    obtain ⟨hd, hfront⟩ := h
    have hno : (c :: needle).isPrefixOf (d :: (front ++ b)) = false := by
      simp [List.isPrefixOf, hd]
    rw [List.cons_append, strstr, hno, if_neg Bool.false_ne_true, ih hfront]

/-! ## Words and lines -/

/-- A word is read up to the white space behind it. -/
theorem scanWord_append {width : ℕ} {word rest : Bytes} {c : UInt8}
    (hword : ∀ d ∈ word, isSpace d = false) (hne : word ≠ []) (hwidth : word.length ≤ width)
    (hc : isSpace c = true) : scanWord width (word ++ c :: rest) = some (word, c :: rest) := by
  have hskip : skipSpaces (word ++ c :: rest) = word ++ c :: rest := by
    cases word with
    | nil => exact absurd rfl hne
    | cons d word => simp [skipSpaces, hword d List.mem_cons_self]
  have htake : (word ++ c :: rest).takeWhile (fun d => !isSpace d) = word := by
    rw [List.takeWhile_append_of_pos (by simpa using hword)]
    simp [hc]
  unfold scanWord
  rw [hskip, htake, List.take_of_length_le hwidth]
  simp [hne]

/-- A line that fits is read whole, with its newline. -/
theorem fgetsFrom_append {size room : ℕ} {acc line rest : Bytes} (hline : (10 : UInt8) ∉ line)
    (hroom : line.length < room) :
    fgetsFrom size room acc (line ++ 10 :: rest) =
      (acc.reverse ++ line ++ [10]) :: fgetsLines size rest := by
  induction line generalizing room acc with
  | nil => simp [fgetsFrom, fgetsLines]
  | cons c line ih =>
    rw [List.mem_cons, not_or] at hline
    rw [List.length_cons] at hroom
    have hgoes : ¬ (c = 10 ∨ room ≤ 1) := by
      rintro (rfl | hfull)
      · exact hline.1 rfl
      · omega
    rw [List.cons_append, fgetsFrom, if_neg hgoes, ih hline.2 (by omega)]
    simp

/-- Lines that fit are read one by one. -/
theorem fgetsLines_flatMap {size : ℕ} {lines : List Bytes}
    (h : ∀ line ∈ lines, (10 : UInt8) ∉ line ∧ line.length < size - 1) :
    fgetsLines size (lines.flatMap fun line => line ++ [10]) =
      lines.map fun line => line ++ [10] := by
  induction lines with
  | nil => rfl
  | cons line lines ih =>
    obtain ⟨hline, hfits⟩ := h line List.mem_cons_self
    have hsplit : (line :: lines).flatMap (fun line => line ++ [10]) =
        line ++ 10 :: lines.flatMap fun line => line ++ [10] := by simp
    rw [hsplit, fgetsLines, fgetsFrom_append hline hfits,
      ih fun l hl => h l (List.mem_cons_of_mem _ hl)]
    simp

/-- What is read is the whole file. -/
theorem flatten_fgetsFrom (size room : ℕ) (acc b : Bytes) :
    (fgetsFrom size room acc b).flatten = acc.reverse ++ b := by
  induction b generalizing room acc with
  | nil =>
    unfold fgetsFrom
    by_cases hacc : acc = []
    · simp [hacc]
    · simp [hacc]
  | cons c b ih =>
    unfold fgetsFrom
    split_ifs
    · rw [List.flatten_cons, ih]
      simp
    · rw [ih]
      simp

theorem flatten_fgetsLines (size : ℕ) (file : Bytes) : (fgetsLines size file).flatten = file :=
  flatten_fgetsFrom size (size - 1) [] file

/-- The part of a line that fills the buffer is read, the rest as a line of its own. -/
theorem fgetsFrom_full {size room : ℕ} {acc line rest : Bytes} (hline : (10 : UInt8) ∉ line)
    (hroom : line.length = room) (hpos : 0 < room) :
    fgetsFrom size room acc (line ++ rest) = (acc.reverse ++ line) :: fgetsLines size rest := by
  induction line generalizing room acc with
  | nil =>
    rw [List.length_nil] at hroom
    omega
  | cons c line ih =>
    rw [List.mem_cons, not_or] at hline
    rw [List.length_cons] at hroom
    rw [List.cons_append, fgetsFrom]
    by_cases hfull : room ≤ 1
    · have hlast : line = [] := List.length_eq_zero_iff.mp (by omega)
      rw [if_pos (Or.inr hfull), hlast]
      simp [fgetsLines]
    · rw [if_neg (not_or.mpr ⟨Ne.symm hline.1, hfull⟩), ih hline.2 (by omega) (by omega)]
      simp

/-- A line that ends the file and fits. -/
theorem fgetsFrom_short {size room : ℕ} {acc line : Bytes} (hline : (10 : UInt8) ∉ line)
    (hroom : line.length ≤ room) :
    fgetsFrom size room acc line = if acc.reverse ++ line = [] then [] else [acc.reverse ++ line] := by
  induction line generalizing room acc with
  | nil => simp [fgetsFrom]
  | cons c line ih =>
    rw [List.mem_cons, not_or] at hline
    rw [List.length_cons] at hroom
    rw [fgetsFrom]
    by_cases hfull : room ≤ 1
    · have hlast : line = [] := List.length_eq_zero_iff.mp (by omega)
      rw [if_pos (Or.inr hfull), hlast]
      simp [fgetsFrom]
    · rw [if_neg (not_or.mpr ⟨Ne.symm hline.1, hfull⟩), ih hline.2 (by omega)]
      simp

/-! ## The lines of a file -/

/-- A file is a last line, or a line with its newline and the rest. -/
@[elab_as_elim]
theorem lines_induction {P : Bytes → Prop} (last : ∀ line, (10 : UInt8) ∉ line → P line)
    (cons : ∀ line rest, (10 : UInt8) ∉ line → P rest → P (line ++ 10 :: rest)) (file : Bytes) :
    P file := by
  by_cases h : (10 : UInt8) ∈ file
  · obtain ⟨line, rest, hfile, hline⟩ := List.eq_append_cons_of_mem h
    have hshorter : rest.length < file.length := by
      rw [hfile, List.length_append, List.length_cons]
      omega
    rw [hfile]
    exact cons line rest hline (lines_induction last cons rest)
  · exact last file h
termination_by file.length

/-- The bytes of a line are bytes of the file, and none is a newline. -/
theorem mem_of_mem_line {file line : Bytes} {c : UInt8} (hline : line ∈ file.splitOn 10)
    (hc : c ∈ line) : c ∈ file ∧ c ≠ 10 := by
  induction file using lines_induction with
  | last first h =>
    rw [List.splitOn_eq_singleton h, List.mem_singleton] at hline
    subst hline
    exact ⟨hc, fun h10 => h (h10 ▸ hc)⟩
  | cons first rest h ih =>
    rw [List.splitOn_append_cons_self_of_not_mem h, List.mem_cons] at hline
    rcases hline with rfl | hrest
    · exact ⟨List.mem_append_left _ hc, fun h10 => h (h10 ▸ hc)⟩
    · obtain ⟨hmem, hne⟩ := ih hrest
      exact ⟨List.mem_append_right _ (List.mem_cons_of_mem _ hmem), hne⟩

section Newlines

variable {β : Type} {f : Bytes → Option β} {size : ℕ}

/-- Where newlines at the end do not count, the pieces of a line are read before the rest. -/
theorem filterMap_fgetsFrom (hnewline : ∀ b, f (b ++ [10]) = f b) (hnil : f [] = none) {room : ℕ}
    {acc line rest : Bytes} (hline : (10 : UInt8) ∉ line) :
    (fgetsFrom size room acc (line ++ 10 :: rest)).filterMap f =
      (fgetsFrom size room acc line).filterMap f ++ (fgetsLines size rest).filterMap f := by
  induction line generalizing room acc with
  | nil =>
    have hread : fgetsFrom size room acc (10 :: rest) =
        (acc.reverse ++ [10]) :: fgetsLines size rest := by simp [fgetsFrom, fgetsLines]
    rw [List.nil_append, hread, fgetsFrom, List.filterMap_cons, hnewline]
    by_cases hacc : acc = []
    · simp [hacc, hnil, fgetsLines]
    · cases hf : f acc.reverse <;> simp [hacc, hf, fgetsLines]
  | cons c line ih =>
    rw [List.mem_cons, not_or] at hline
    rw [List.cons_append, fgetsFrom, fgetsFrom]
    split_ifs
    · rw [List.filterMap_cons, List.filterMap_cons, ih hline.2]
      cases f (c :: acc).reverse <;> simp
    · exact ih hline.2

/-- The pieces of the lines, one line after the other. -/
theorem filterMap_fgetsLines (hnewline : ∀ b, f (b ++ [10]) = f b) (hnil : f [] = none)
    (file : Bytes) :
    (fgetsLines size file).filterMap f =
      (file.splitOn 10).flatMap fun line => (fgetsLines size line).filterMap f := by
  induction file using lines_induction with
  | last line h =>
    rw [List.splitOn_eq_singleton h]
    simp
  | cons line rest h ih =>
    rw [List.splitOn_append_cons_self_of_not_mem h, List.flatMap_cons, ← ih]
    exact filterMap_fgetsFrom hnewline hnil h

end Newlines

end RdmaIntercept.Library.CText
