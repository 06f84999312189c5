/-
Hexadecimal numbers: what `%x` of `sscanf` takes from the front of a text and stores, as glibc does it,
and the digits that `%0<width>x` prints, which it reads back.
-/
import TimeAgent.Lib.Double
import Mathlib.Tactic.IntervalCases

namespace CHex

open CText CNum CDouble

/-! ## Scanning -/

/-- The digits that `%x` takes, and what follows them; an `x` behind a leading zero is no digit. -/
def hexDigits : Str → Str × Str
  | '0' :: c :: s =>
    if c.toLower = 'x' then ('0' :: s.takeWhile isHexDigit, s.dropWhile isHexDigit)
    else ('0' :: (c :: s).takeWhile isHexDigit, (c :: s).dropWhile isHexDigit)
  | s => (s.takeWhile isHexDigit, s.dropWhile isHexDigit)

/-- `strtoul` of the digits: too large a number gives the largest, a minus sign the complement. -/
def strtoul (sign : Sign) (digits : Str) : Nat :=
  let v := hexVal digits
  if 2 ^ 64 ≤ v then 2 ^ 64 - 1
  else if sign = .minus then (2 ^ 64 - v) % 2 ^ 64
  else v

/-- `%x`: the `unsigned int` it stores, and what follows; `none` without a digit. -/
def scanHex (s : Str) : Option (Nat × Str) :=
  let (sign, r) := splitSign (skipSpace s)
  let (digits, rest) := hexDigits r
  if digits = [] then none else some (strtoul sign digits % 2 ^ 32, rest)

/-- A character of the format that stands for itself. -/
def expect (c : Char) : Str → Option Str
  | [] => none
  | d :: s => if d = c then some s else none

/-! ## Printing -/

/-- `%0<width>x`. -/
def hexText (width n : Nat) : Str := List.replicate (width - (Nat.toDigits 16 n).length) '0' ++ Nat.toDigits 16 n

theorem hexVal_append (ds ds' : Str) : hexVal (ds ++ ds') = 16 ^ ds'.length * hexVal ds + hexVal ds' := by
  unfold hexVal
  rw [List.foldl_append]
  generalize ds.foldl _ 0 = acc
  induction ds' using List.reverseRecOn with
  | nil => simp
  | append_singleton ds' d ih =>
    rw [List.foldl_append, List.foldl_append, ih]
    simp only [List.foldl_cons, List.foldl_nil, List.length_append, List.length_singleton, Nat.pow_succ]
    ring

theorem hexVal_zeros (k : Nat) : hexVal (List.replicate k '0') = 0 := by
  induction k with
  | zero => rfl
  | succ k ih =>
    rw [List.replicate_succ', hexVal_append, ih]
    rfl

theorem hexVal_digitChar {n : Nat} (h : n < 16) : hexVal [n.digitChar] = n := by
  interval_cases n <;> rfl

theorem hexVal_toDigits (n : Nat) : hexVal (Nat.toDigits 16 n) = n := by
  induction n using Nat.strongRecOn with
  | ind n ih =>
    by_cases h : n < 16
    · rw [Nat.toDigits_of_lt_base h, hexVal_digitChar h]
    · have hdiv : n / 16 < n := Nat.div_lt_self (by omega) (by omega)
      rw [Nat.toDigits_of_base_le (by omega) (by omega), hexVal_append, ih _ hdiv,
        hexVal_digitChar (Nat.mod_lt n (by omega)), List.length_singleton]
      omega

/-- What holds of the sixteen digits holds of every printed character. -/
theorem forall_mem_hexText {p : Char → Prop} (h : ∀ d < 16, p d.digitChar) (width n : Nat) :
    ∀ c ∈ hexText width n, p c := by
  have hdigits : ∀ c ∈ Nat.toDigits 16 n, p c := by
    induction n using Nat.strongRecOn with
    | ind n ih =>
      by_cases hn : n < 16
      · rw [Nat.toDigits_of_lt_base hn, List.forall_mem_singleton]
        exact h n hn
      · have hdiv : n / 16 < n := Nat.div_lt_self (by omega) (by omega)
        rw [Nat.toDigits_of_base_le (by omega) (by omega), List.forall_mem_append, List.forall_mem_singleton]
        exact ⟨ih _ hdiv, h _ (Nat.mod_lt n (by omega))⟩
  unfold hexText
  rw [List.forall_mem_append]
  refine ⟨fun c hc => ?_, hdigits⟩
  rw [(List.mem_replicate.1 hc).2]
  exact h 0 (by omega)

/-- A digit continues a number, and is neither the mark of a hexadecimal prefix, nor a space, nor a sign. -/
theorem hexText_digit (width n : Nat) :
    ∀ c ∈ hexText width n, isHexDigit c = true ∧ c.toLower ≠ 'x' ∧ isspace c = false ∧ c ≠ '-' ∧ c ≠ '+' := by
  refine forall_mem_hexText (fun d hd => ?_) width n
  interval_cases d <;> decide

theorem hexVal_hexText (width n : Nat) : hexVal (hexText width n) = n := by
  unfold hexText
  rw [hexVal_append, hexVal_zeros, hexVal_toDigits, Nat.mul_zero, Nat.zero_add]

theorem hexText_ne_nil (width n : Nat) : hexText width n ≠ [] :=
  List.append_ne_nil_of_right_ne_nil _ Nat.toDigits_ne_nil

/-! ## Reading back -/

/-- Without an `x` in the second place the digits are the run of them at the front. -/
theorem hexDigits_eq {s : Str} (h : ∀ c ∈ s.tail.head?, c.toLower ≠ 'x') :
    hexDigits s = (s.takeWhile isHexDigit, s.dropWhile isHexDigit) := by
  unfold hexDigits
  split
  · rename_i c s
    rw [if_neg (h c rfl)]
    rfl
  · rfl

/-- A run of digits is taken whole when what follows is neither a digit nor an `x`. -/
theorem hexDigits_run {digits rest : Str} (hne : digits ≠ [])
    (h : ∀ c ∈ digits, isHexDigit c = true ∧ c.toLower ≠ 'x')
    (hrest : Stops (fun c => isHexDigit c || c.toLower = 'x') rest) : hexDigits (digits ++ rest) = (digits, rest) := by
  have hdigit : ∀ c ∈ digits, isHexDigit c = true := fun c hc => (h c hc).1
  have hstop : Stops isHexDigit rest := fun c hc => (Bool.or_eq_false_iff.1 (hrest c hc)).1
  rw [hexDigits_eq, takeWhile_run hdigit hstop, dropWhile_run hdigit hstop]
  intro c hc
  obtain ⟨d, ds, rfl⟩ := List.exists_cons_of_ne_nil hne
  cases ds with
  | nil => simpa using (Bool.or_eq_false_iff.1 (hrest c hc)).2
  | cons e ds =>
    simp only [List.cons_append, List.tail_cons, List.head?_cons, Option.mem_some_iff] at hc
    subst hc
    exact (h _ (by simp)).2

/-- What was printed is read back, when what follows does not continue the number. -/
theorem scanHex_hexText (width : Nat) {n : Nat} (hn : n < 2 ^ 32) {rest : Str}
    (hrest : Stops (fun c => isHexDigit c || c.toLower = 'x') rest) :
    scanHex (hexText width n ++ rest) = some (n, rest) := by
  have hdigit := hexText_digit width n
  obtain ⟨d, ds, htext⟩ := List.exists_cons_of_ne_nil (hexText_ne_nil width n)
  have hhead := hdigit d (by simp [htext])
  have hspace : skipSpace (hexText width n ++ rest) = hexText width n ++ rest := by
    refine skipSpace_of_stops (Stops.append (hexText_ne_nil width n) ?_)
    simp [htext, hhead.2.2.1]
  have hsign : splitSign (hexText width n ++ rest) = (.none, hexText width n ++ rest) := by
    refine splitSign_text .none (Stops.append (hexText_ne_nil width n) ?_)
    simp [htext, hhead.2.2.2]
  unfold scanHex
  rw [hspace, hsign]
  dsimp only
  rw [hexDigits_run (hexText_ne_nil width n) (fun c hc => ⟨(hdigit c hc).1, (hdigit c hc).2.1⟩) hrest]
  dsimp only
  have hvalue : strtoul .none (hexText width n) = n := by
    unfold strtoul
    simp only [hexVal_hexText]
    rw [if_neg (by omega), if_neg (by simp)]
  rw [if_neg (hexText_ne_nil width n), hvalue, Nat.mod_eq_of_lt hn]

end CHex
