import Mathlib.Algebra.GroupWithZero.Nat
import RdmaIntercept.Library.CText

/-!
# JSON values

A JSON value as the json-c library holds it, the functions that read one, and the text
that it writes.  A `json_object *` is a `Json`; the pointer `NULL`, which stands for the
value `null` and for no value at all, is `Json.null`.  A number that does not fit is cut to
the nearest one that does, and a value of the wrong type counts as zero.

The text is the one of `json_object_to_json_string`, with a blank before every element and
every name.
-/

set_option autoImplicit false

namespace RdmaIntercept.Library

open CText

/-- A `double` keeps the text it is written as; of its value only the whole part is ever
asked for. -/
inductive Json
  | null
  | boolean (b : Bool)
  | int (v : ℤ)
  | double (repr : {b : Bytes // 0 ∉ b}) (whole : ℤ)
  | string (s : Bytes)
  | array (elements : List Json)
  | object (members : List (Bytes × Json))

namespace Json

/-! ## Writing -/

/-- What `%d` prints. -/
def signedDecimal (v : ℤ) : Bytes :=
  if v < 0 then 45 :: decimal v.natAbs else decimal v.natAbs

/-- A hexadecimal digit. -/
def hexDigit (n : ℕ) : UInt8 := if n < 10 then UInt8.ofNat (48 + n) else UInt8.ofNat (87 + n)

/-- A character within quotes. -/
def escapeChar (c : UInt8) : Bytes :=
  if c = 8 then [92, 98]
  else if c = 10 then [92, 110]
  else if c = 13 then [92, 114]
  else if c = 9 then [92, 116]
  else if c = 12 then [92, 102]
  else if c = 34 ∨ c = 92 ∨ c = 47 then [92, c]
  else if c < 32 then [92, 117, 48, 48, hexDigit (c.toNat / 16), hexDigit (c.toNat % 16)]
  else [c]

def quoted (s : Bytes) : Bytes := [34] ++ s.flatMap escapeChar ++ [34]

/-- The comma between two elements. -/
def separator {α : Type} : List α → Bytes
  | [] => []
  | _ :: _ => [44]

mutual

/-- `json_object_to_json_string` -/
def print : Json → Bytes
  | null => text "null"
  | boolean b => if b then text "true" else text "false"
  | int v => signedDecimal v
  | double repr _ => repr
  | string s => quoted s
  | array elements => [91] ++ printElements elements ++ [32, 93]
  | object members => [123] ++ printMembers members ++ [32, 125]

def printElements : List Json → Bytes
  | [] => []
  | e :: es => [32] ++ print e ++ separator es ++ printElements es

def printMembers : List (Bytes × Json) → Bytes
  | [] => []
  | (name, v) :: ms =>
    [32] ++ quoted name ++ [58, 32] ++ print v ++ separator ms ++ printMembers ms

end

example : (object [(text "a", int (-5)), (text "b", array [null, boolean true])]).print =
    text "\x7b \"a\": -5, \"b\": [ null, true ] \x7d" := by decide

/-! ## Reading -/

/-- The number that a value is taken for. -/
def number : Json → ℤ
  | boolean b => if b then 1 else 0
  | int v => v
  | double _ whole => whole
  | string s => strtol (terminated s)
  | _ => 0

/-- The value of an integer type from `lo` to `hi` that is nearest. -/
def clamp (lo hi v : ℤ) : ℤ := max lo (min hi v)

/-- `json_object_get_int` -/
def getInt (o : Json) : Int32 := Int32.ofInt (clamp (-(2 ^ 31)) (2 ^ 31 - 1) o.number)

/-- `json_object_get_int64` -/
def getInt64 (o : Json) : Int64 := Int64.ofInt (clamp (-(2 ^ 63)) (2 ^ 63 - 1) o.number)

/-- `json_object_get_boolean` -/
def getBoolean : Json → Bool
  | string s => terminated s ≠ []
  | o => o.number ≠ 0

/-- `json_object_get_string`; `none` is `NULL`. -/
def getString : Json → Option Bytes
  | null => none
  | string s => some (terminated s)
  | o => some o.print

/-- `json_object_object_get_ex`; `none` when it answers `FALSE`.  A member whose value is
`null` is found. -/
def getEx (o : Json) (name : Bytes) : Option Json :=
  match o with
  | object members => members.lookup name
  | _ => none

/-- The pointer that `json_object_object_get_ex` leaves. -/
def member (o : Json) (name : Bytes) : Json := (o.getEx name).getD null

theorem getString_eq_none_iff {o : Json} : o.getString = none ↔ o = null := by
  cases o <;> simp [getString]

/-- A number of the type it is read with is read as it is. -/
theorem getInt_int (v : Int32) : (int v.toInt).getInt = v := by
  have hlo := v.le_toInt
  have hhi := v.toInt_lt
  have hclamp : clamp (-(2 ^ 31)) (2 ^ 31 - 1) v.toInt = v.toInt := by
    unfold clamp
    omega
  rw [getInt, number, hclamp, Int32.ofInt_toInt]

theorem getInt64_int (v : Int64) : (int v.toInt).getInt64 = v := by
  have hlo := v.le_toInt
  have hhi := v.toInt_lt
  have hclamp : clamp (-(2 ^ 63)) (2 ^ 63 - 1) v.toInt = v.toInt := by
    unfold clamp
    omega
  rw [getInt64, number, hclamp, Int64.ofInt_toInt]

/-! ## The text -/

theorem print_boolean (b : Bool) :
    (boolean b).print = if b then text "true" else text "false" := by rw [print]

theorem print_int (v : ℤ) : (int v).print = signedDecimal v := by rw [print]

theorem print_string (s : Bytes) : (string s).print = quoted s := by rw [print]

theorem zero_notMem_escapeChar (c : UInt8) : (0 : UInt8) ∉ escapeChar c := by
  have hhex : ∀ n, n < 16 → (0 : UInt8) ≠ hexDigit n := by decide
  have hlow : c.toNat % 16 < 16 := Nat.mod_lt _ (by decide)
  have hhigh : c.toNat / 16 < 16 := by
    have := c.toNat_lt
    omega
  unfold escapeChar
  split_ifs with _ _ _ _ _ hplain hcontrol
  all_goals try decide
  · rcases hplain with rfl | rfl | rfl <;> decide
  · simp [hhex _ hlow, hhex _ hhigh]
  · rintro h
    rw [List.mem_singleton] at h
    subst h
    exact hcontrol (by decide)

theorem zero_notMem_quoted (s : Bytes) : (0 : UInt8) ∉ quoted s := by
  simp [quoted, zero_notMem_escapeChar]

theorem zero_notMem_signedDecimal (v : ℤ) : (0 : UInt8) ∉ signedDecimal v := by
  have hdigits : (0 : UInt8) ∉ decimal v.natAbs := notMem_decimal (by decide)
  unfold signedDecimal
  split_ifs <;> simp [hdigits]

theorem zero_notMem_separator {α : Type} (l : List α) : (0 : UInt8) ∉ separator l := by
  cases l <;> simp [separator]

-- one case for each kind of value; a container is its pieces
mutual

theorem zero_notMem_print : ∀ o : Json, (0 : UInt8) ∉ o.print
  | null => by rw [print]; decide
  | boolean b => by cases b <;> simp only [print] <;> decide
  | int v => by rw [print]; exact zero_notMem_signedDecimal v
  | double repr _ => by rw [print]; exact repr.2
  | string s => by rw [print]; exact zero_notMem_quoted s
  | array elements => by
    have h := zero_notMem_printElements elements
    simp [print, h]
  | object members => by
    have h := zero_notMem_printMembers members
    simp [print, h]

theorem zero_notMem_printElements : ∀ es : List Json, (0 : UInt8) ∉ printElements es
  | [] => by simp [printElements]
  | e :: es => by
    have he := zero_notMem_print e
    have hes := zero_notMem_printElements es
    simp [printElements, he, hes, zero_notMem_separator]

theorem zero_notMem_printMembers : ∀ ms : List (Bytes × Json), (0 : UInt8) ∉ printMembers ms
  | [] => by simp [printMembers]
  | (name, v) :: ms => by
    have hv := zero_notMem_print v
    have hms := zero_notMem_printMembers ms
    simp [printMembers, hv, hms, zero_notMem_quoted, zero_notMem_separator]

end

theorem length_signedDecimal (v : ℤ) : 1 ≤ (signedDecimal v).length := by
  have hne : (decimal v.natAbs).length ≠ 0 := by simp [decimal_ne_nil]
  unfold signedDecimal
  split_ifs
  · simp
  · omega

/-- An element takes a blank and a comma besides its text, the last one no comma. -/
theorem length_printElements (es : List Json) :
    (printElements es).length = (es.map fun e => e.print.length + 2).sum - 1 := by
  induction es with
  | nil => rfl
  | cons e es ih =>
    cases es with
    | nil => simp [printElements, separator, Nat.add_comm]
    | cons e' es =>
      rw [printElements]
      simp only [List.length_append, ih, separator, List.map_cons, List.sum_cons, List.length_cons,
        List.length_nil]
      omega

/-- A member takes its name, a colon, two blanks and a comma besides its text, the last one no
comma. -/
theorem length_printMembers (ms : List (Bytes × Json)) :
    (printMembers ms).length =
      (ms.map fun m => (quoted m.1).length + m.2.print.length + 4).sum - 1 := by
  induction ms with
  | nil => rfl
  | cons m ms ih =>
    obtain ⟨name, v⟩ := m
    cases ms with
    | nil =>
      simp only [printMembers, separator, List.length_append, List.length_cons, List.length_nil,
        List.map_cons, List.map_nil, List.sum_cons, List.sum_nil]
      omega
    | cons m' ms =>
      rw [printMembers]
      simp only [List.length_append, ih, separator, List.map_cons, List.sum_cons, List.length_cons,
        List.length_nil]
      omega

theorem length_print_array (es : List Json) :
    (array es).print.length = (es.map fun e => e.print.length + 2).sum - 1 + 3 := by
  rw [print, List.length_append, List.length_append, length_printElements]
  simp only [List.length_cons, List.length_nil]
  omega

theorem length_print_object (ms : List (Bytes × Json)) :
    (object ms).print.length =
      (ms.map fun m => (quoted m.1).length + m.2.print.length + 4).sum - 1 + 3 := by
  rw [print, List.length_append, List.length_append, length_printMembers]
  simp only [List.length_cons, List.length_nil]
  omega

end Json

end RdmaIntercept.Library
