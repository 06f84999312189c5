/-
Signed decimal numerals: the text, its mathematical value, and the conversions of the C and C++
standard libraries that read one (`strtol` as `scanf` uses it, `std::stoi`, `std::from_chars`).
A numeral carries its own well-formedness, so reading one back from its text needs no side
condition but the end of the digit run.
-/
import TimeAgent.Lib.Text
import Mathlib.Data.Int.Order.Basic
import Mathlib.Data.List.TakeWhile
import Mathlib.Tactic.Ring

namespace CNum

open CText

/-! ## Digits -/

theorem digit_ne {c : Char} (h : c.isDigit = true) (d : Char) (hd : d.isDigit = false) : c ≠ d := by
  rintro rfl; rw [h] at hd; cases hd

theorem isspace_digit {c : Char} (h : c.isDigit = true) : isspace c = false := by
  simp [isspace, digit_ne h ' ' rfl, digit_ne h '\t' rfl, digit_ne h '\n' rfl, digit_ne h '\x0b' rfl,
    digit_ne h '\x0c' rfl, digit_ne h '\r' rfl]

theorem toLower_digit {c : Char} (h : c.isDigit = true) : c.toLower = c := by
  simp only [Char.isDigit, Bool.and_eq_true, decide_eq_true_eq] at h
  unfold Char.toLower
  rw [dif_neg]
  intro hA
  exact absurd (UInt32.le_trans hA.1 h.2) (by decide)

def isHexDigit (c : Char) : Bool := c.isDigit || ('a' ≤ c && c ≤ 'f') || ('A' ≤ c && c ≤ 'F')

/-- `w` at the front of `s` in either case, and the rest. -/
def dropNoCase : Str → Str → Option Str
  | [], s => some s
  | _ :: _, [] => none
  | w :: ws, c :: s => if c.toLower = w then dropNoCase ws s else none

/-! ## Numerals -/

/-- The sign in front of a numeral. -/
inductive Sign
  | none
  | plus
  | minus
  deriving DecidableEq, Repr

def Sign.text : Sign → Str
  | .none => []
  | .plus => ['+']
  | .minus => ['-']

/-- The number a digit run denotes. -/
def decVal (ds : Str) : Nat := Nat.ofDigitChars 10 ds 0

/-- An optional sign and at least one decimal digit. -/
structure Numeral where
  sign : Sign
  digits : Str
  ne : digits ≠ []
  dec : ∀ c ∈ digits, c.isDigit = true

namespace Numeral

def text (ν : Numeral) : Str := ν.sign.text ++ ν.digits

def value (ν : Numeral) : Int :=
  match ν.sign with
  | .minus => -(decVal ν.digits : Int)
  | _ => decVal ν.digits

/-- A numeral printed without a sign. -/
def ofNat (n : Nat) : Numeral where
  sign := .none
  digits := Nat.toDigits 10 n
  ne := Nat.toDigits_ne_nil
  dec := fun _ h => Nat.isDigit_of_mem_toDigits (by decide) (by decide) h

/-- An integer as C prints it: `-` in front of a negative one, nothing in front of the others. -/
def ofInt (z : Int) : Numeral where
  sign := if z < 0 then .minus else .none
  digits := Nat.toDigits 10 z.natAbs
  ne := Nat.toDigits_ne_nil
  dec := fun _ h => Nat.isDigit_of_mem_toDigits (by decide) (by decide) h

@[simp] theorem decVal_toDigits (n : Nat) : decVal (Nat.toDigits 10 n) = n :=
  Nat.ofDigitChars_ten_toDigits

@[simp] theorem value_ofNat (n : Nat) : (ofNat n).value = n := by
  simp [ofNat, value]

@[simp] theorem value_ofInt (z : Int) : (ofInt z).value = z := by
  unfold ofInt value
  by_cases h : z < 0
  · rw [if_pos h]; dsimp only; rw [decVal_toDigits]; omega
  · rw [if_neg h]; dsimp only; rw [decVal_toDigits]; omega

theorem text_isToken (ν : Numeral) : IsToken ν.text := by
  refine ⟨by simp [text, ν.ne], fun c hc => ?_⟩
  rcases List.mem_append.1 hc with h | h
  · cases hs : ν.sign <;> rw [hs] at h <;> simp [Sign.text] at h <;> subst h <;> rfl
  · exact isspace_digit (ν.dec c h)

theorem stops_isspace (ν : Numeral) (rest : Str) : Stops isspace (ν.text ++ rest) :=
  ν.text_isToken.stops_append rest

end Numeral

/-! ## Fewer digits -/

theorem decVal_append (a b : Str) : decVal (a ++ b) = 10 ^ b.length * decVal a + decVal b := by
  unfold decVal
  rw [Nat.ofDigitChars_append, Nat.ofDigitChars_eq_ofDigitChars_zero]

/-- Fewer digits are a smaller number, except of 0. -/
theorem decVal_take_lt {ds : Str} {n : Nat} (hn : n < ds.length) (h : decVal (ds.take n) ≠ 0) :
    decVal (ds.take n) < decVal ds := by
  have hsplit := decVal_append (ds.take n) (ds.drop n)
  rw [List.take_append_drop] at hsplit
  have hpow : 10 ≤ 10 ^ (ds.drop n).length :=
    Nat.le_self_pow (by rw [List.length_drop]; omega) 10
  have := Nat.mul_le_mul_right (decVal (ds.take n)) hpow
  omega

theorem decVal_take_le (ds : Str) (n : Nat) : decVal (ds.take n) ≤ decVal ds := by
  have hsplit := decVal_append (ds.take n) (ds.drop n)
  rw [List.take_append_drop] at hsplit
  have := Nat.le_mul_of_pos_left (decVal (ds.take n)) (Nat.pow_pos (n := (ds.drop n).length) (show 0 < 10 by decide))
  omega

/-! ## Reading a numeral -/

/-- The sign character a number may start with, and the rest. -/
def splitSign : Str → Sign × Str
  | '+' :: s => (.plus, s)
  | '-' :: s => (.minus, s)
  | s => (.none, s)

/-- The longest numeral at the front of `s`, without skipping whitespace. -/
def scanNumeral (s : Str) : Option (Numeral × Str) :=
  let r := (splitSign s).2
  if h : r.takeWhile Char.isDigit = [] then none
  else some (⟨(splitSign s).1, r.takeWhile Char.isDigit, h, fun _ hc => List.mem_takeWhile_imp hc⟩,
    r.dropWhile Char.isDigit)

theorem splitSign_text (sg : Sign) {s : Str} (h : Stops (fun c => c = '+' || c = '-') s) :
    splitSign (sg.text ++ s) = (sg, s) := by
  cases sg with
  | none =>
    cases s with
    | nil => rfl
    | cons c s =>
      simp only [stops_cons, Bool.or_eq_false_iff, decide_eq_false_iff_not] at h
      unfold splitSign Sign.text
      split
      · rename_i heq; cases heq; exact absurd rfl h.1
      · rename_i heq; cases heq; exact absurd rfl h.2
      · rfl
  | plus => rfl
  | minus => rfl

theorem splitSign_eq (s : Str) : s = (splitSign s).1.text ++ (splitSign s).2 := by
  unfold splitSign
  split <;> rfl

theorem Numeral.digits_stop_sign (ν : Numeral) (rest : Str) :
    Stops (fun c => c = '+' || c = '-') (ν.digits ++ rest) := by
  have hne := ν.ne
  have hd := ν.dec
  cases hds : ν.digits with
  | nil => exact absurd hds hne
  | cons c ds =>
    have := hd c (by rw [hds]; simp)
    simp only [List.cons_append, stops_cons, Bool.or_eq_false_iff, decide_eq_false_iff_not]
    constructor <;> rintro rfl <;> cases this

/-- A numeral is read back from its text when the digit run ends behind it. -/
theorem scanNumeral_text (ν : Numeral) {rest : Str} (h : Stops Char.isDigit rest) :
    scanNumeral (ν.text ++ rest) = some (ν, rest) := by
  have hs : splitSign (ν.text ++ rest) = (ν.sign, ν.digits ++ rest) := by
    rw [Numeral.text, List.append_assoc]; exact splitSign_text ν.sign (ν.digits_stop_sign rest)
  unfold scanNumeral
  simp only [hs, takeWhile_run ν.dec h, dropWhile_run ν.dec h]
  rw [dif_neg ν.ne]

/-- What was read is the front of the input, and no digit follows it. -/
theorem scanNumeral_some {s : Str} {ν : Numeral} {rest : Str} (h : scanNumeral s = some (ν, rest)) :
    s = ν.text ++ rest ∧ Stops Char.isDigit rest := by
  unfold scanNumeral at h
  dsimp only at h
  split at h
  · cases h
  · cases h
    refine ⟨?_, stops_dropWhile _ _⟩
    rw [Numeral.text, List.append_assoc, List.takeWhile_append_dropWhile]
    exact splitSign_eq s

/-- A numeral can be read exactly where the text of one stands. -/
theorem scanNumeral_isSome_iff (s : Str) :
    (scanNumeral s).isSome = true ↔ ∃ (ν : Numeral) (rest : Str), s = ν.text ++ rest := by
  constructor
  · intro h
    obtain ⟨⟨ν, rest⟩, hν⟩ := Option.isSome_iff_exists.1 h
    exact ⟨ν, rest, (scanNumeral_some hν).1⟩
  · rintro ⟨ν, rest, rfl⟩
    -- the digits of `ν` may go on in `rest`
    have hsign : splitSign (ν.text ++ rest) = (ν.sign, ν.digits ++ rest) := by
      rw [Numeral.text, List.append_assoc]
      exact splitSign_text ν.sign (ν.digits_stop_sign rest)
    have hne : (ν.digits ++ rest).takeWhile Char.isDigit ≠ [] := by
      rw [List.takeWhile_append_of_pos ν.dec]
      exact fun h => ν.ne (List.append_eq_nil_iff.1 h).1
    unfold scanNumeral
    simp [hsign, hne]

/-! ## Ranges -/

/-- The range of a 64-bit signed integer. -/
def InInt64 (z : Int) : Prop := -2 ^ 63 ≤ z ∧ z < 2 ^ 63

/-- The range of a 32-bit signed integer. -/
def InInt32 (z : Int) : Prop := -2 ^ 31 ≤ z ∧ z < 2 ^ 31

instance (z : Int) : Decidable (InInt64 z) := inferInstanceAs (Decidable (_ ∧ _))
instance (z : Int) : Decidable (InInt32 z) := inferInstanceAs (Decidable (_ ∧ _))

theorem InInt32.inInt64 {z : Int} (h : InInt32 z) : InInt64 z := by
  unfold InInt32 at h; unfold InInt64; omega

/-- `strtol` on the text of a numeral: the value, saturated at the limits of a 64-bit `long`. -/
def strtol (ν : Numeral) : Int := max (-2 ^ 63) (min (2 ^ 63 - 1) ν.value)

/-- The low 32 bits of a `long`, read as an `int`. -/
def lowInt (z : Int) : Int := z.bmod (2 ^ 32)

theorem strtol_of_inInt64 {ν : Numeral} (h : InInt64 ν.value) : strtol ν = ν.value := by
  unfold InInt64 at h; unfold strtol; omega

theorem lowInt_of_inInt32 {z : Int} (h : InInt32 z) : lowInt z = z := by
  unfold InInt32 at h; unfold lowInt
  rw [Int.bmod_eq_of_le] <;> omega

theorem strtol_eq_iff (ν : Numeral) : strtol ν = ν.value ↔ InInt64 ν.value := by
  unfold strtol InInt64
  omega

theorem lowInt_range (z : Int) : InInt32 (lowInt z) := by
  have hle := Int.le_bmod (x := z) (m := 2 ^ 32) (by decide)
  have hlt := Int.bmod_lt (x := z) (m := 2 ^ 32) (by decide)
  unfold InInt32 lowInt
  omega

theorem lowInt_eq_zero_iff (z : Int) : lowInt z = 0 ↔ 2 ^ 32 ∣ z := by
  unfold lowInt
  exact Int.dvd_iff_bmod_eq_zero.symm

/-- Narrowing keeps a value exactly when it is in the range of an `int`. -/
theorem lowInt_eq_iff (z : Int) : lowInt z = z ↔ InInt32 z :=
  ⟨fun h => h ▸ lowInt_range z, lowInt_of_inInt32⟩

/-- `%d` keeps the value of a numeral exactly when it is in the range of an `int`. -/
theorem lowInt_strtol_eq_iff (ν : Numeral) : lowInt (strtol ν) = ν.value ↔ InInt32 ν.value := by
  constructor
  · intro h
    rw [← h]
    exact lowInt_range _
  · intro h
    rw [strtol_of_inInt64 h.inInt64, lowInt_of_inInt32 h]

/-! ## `std::stoi` and `std::from_chars` -/

/-- The exceptions of the `std::stoi` family, and the error codes of `std::from_chars`. -/
inductive NumError
  | invalidArgument
  | outOfRange
  deriving DecidableEq, Repr

/-- `std::stoi(s)`. -/
def stoi (s : Str) : Except NumError Int :=
  match scanNumeral (skipSpace s) with
  | none => .error .invalidArgument
  | some (ν, _) => if InInt32 ν.value then .ok ν.value else .error .outOfRange

theorem stoi_text (ν : Numeral) {rest : Str} (h : Stops Char.isDigit rest) (hr : InInt32 ν.value) :
    stoi (ν.text ++ rest) = .ok ν.value := by
  unfold stoi
  rw [skipSpace_of_stops (ν.stops_isspace rest), scanNumeral_text ν h]
  simp [hr]

/-- `std::from_chars(first, last, int&)` over the bytes `[first, last)`: no whitespace and no
`+`, and a value out of range is an error. -/
def fromCharsInt (s : Str) : Except NumError (Int × Str) :=
  if s.head? = some '+' then .error .invalidArgument
  else match scanNumeral s with
    | none => .error .invalidArgument
    | some (ν, rest) => if InInt32 ν.value then .ok (ν.value, rest) else .error .outOfRange

/-! ## An integer at the front of a text -/

/-- The integer that a text starts with, if it is one of an `int` and has no `+` in front. -/
def intAt (s : Str) : Option Int :=
  (scanNumeral s).bind fun r => if r.1.sign ≠ .plus ∧ InInt32 r.1.value then some r.1.value else none

/-- `std::from_chars` reads the integer at the front. -/
theorem fromCharsInt_eq (s : Str) : (fromCharsInt s).toOption.map Prod.fst = intAt s := by
  unfold fromCharsInt intAt
  cases hscan : scanNumeral s with
  | none => split <;> rfl
  | some r =>
    obtain ⟨ν, rest⟩ := r
    have hplus : s.head? = some '+' ↔ ν.sign = .plus := by
      have hdigit := ν.digits_stop_sign rest
      rw [(scanNumeral_some hscan).1, Numeral.text, List.append_assoc]
      cases ν.sign with
      | none =>
        refine iff_of_false (fun h => ?_) (by simp)
        exact absurd (hdigit '+' h) (by decide)
      | plus => exact iff_of_true rfl rfl
      | minus => exact iff_of_false (by simp [Sign.text]) (by simp)
    by_cases hsign : ν.sign = .plus
    · rw [if_pos (hplus.2 hsign), Option.bind_some, if_neg fun h => h.1 hsign]
      rfl
    · rw [if_neg (hplus.not.2 hsign), Option.bind_some]
      by_cases hrange : InInt32 ν.value
      · simp [hsign, hrange, Except.toOption]
      · simp [hrange, Except.toOption]

/-- What is left of a numeral in the first `n` characters, at least a sign and a digit. -/
def Numeral.cut (ν : Numeral) (n : Nat) : Numeral where
  sign := ν.sign
  digits := ν.digits.take (n - 1 - ν.sign.text.length + 1)
  ne := by simpa using ν.ne
  dec := fun c hc => ν.dec c (List.mem_of_mem_take hc)

theorem Sign.text_length_le (sg : Sign) : sg.text.length ≤ 1 := by
  cases sg <;> decide

theorem Numeral.cut_text (ν : Numeral) {n : Nat} (hn : 2 ≤ n) : (ν.cut n).text = ν.text.take n := by
  have hsign := ν.sign.text_length_le
  have hcount : n - 1 - ν.sign.text.length + 1 = n - ν.sign.text.length := by omega
  show ν.sign.text ++ ν.digits.take _ = (ν.sign.text ++ ν.digits).take n
  rw [List.take_append, List.take_of_length_le (i := n) (by omega), hcount]

theorem Numeral.natAbs_value (ν : Numeral) : ν.value.natAbs = decVal ν.digits := by
  unfold value
  cases ν.sign <;> simp

/-- The value of what is left is nearer to 0, except that of 0. -/
theorem Numeral.natAbs_cut_lt {ν : Numeral} {n : Nat} (hn : 2 ≤ n) (hlong : n < ν.text.length) (hne : ν.value ≠ 0) :
    (ν.cut n).value.natAbs < ν.value.natAbs := by
  have hsign := ν.sign.text_length_le
  have hcut : n - 1 - ν.sign.text.length + 1 < ν.digits.length := by
    unfold text at hlong
    rw [List.length_append] at hlong
    omega
  by_cases hzero : (ν.cut n).value.natAbs = 0
  · omega
  · rw [natAbs_value] at hzero
    rw [natAbs_value, natAbs_value]
    exact decVal_take_lt hcut hzero

theorem Numeral.natAbs_cut_le (ν : Numeral) (n : Nat) : (ν.cut n).value.natAbs ≤ ν.value.natAbs := by
  rw [natAbs_value, natAbs_value]
  exact decVal_take_le _ _

/-- What is left of a number of an `int` is one. -/
theorem Numeral.inInt32_cut {ν : Numeral} (n : Nat) (h : InInt32 ν.value) : InInt32 (ν.cut n).value := by
  have hle := ν.natAbs_cut_le n
  have hsame : ν.value ≤ 0 → (ν.cut n).value ≤ 0 := by
    intro hneg
    cases hs : ν.sign with
    | minus =>
      have hcut : (ν.cut n).value = -(decVal (ν.cut n).digits : Int) := by
        unfold value
        rw [show (ν.cut n).sign = ν.sign from rfl, hs]
      omega
    | _ =>
      have hvalue : 0 ≤ ν.value := by
        unfold value
        rw [hs]
        exact Int.natCast_nonneg _
      omega
  unfold InInt32 at h ⊢
  omega

theorem scanNumeral_take {s : Str} {n : Nat} (hn : 2 ≤ n) :
    (scanNumeral (s.take n)).map Prod.fst =
      (scanNumeral s).map fun r => if r.1.text.length ≤ n then r.1 else r.1.cut n := by
  cases hscan : scanNumeral s with
  | none =>
    cases hcut : scanNumeral (s.take n) with
    | none => rfl
    | some r =>
      have hsome : (scanNumeral s).isSome = true := by
        rw [scanNumeral_isSome_iff]
        refine ⟨r.1, r.2 ++ s.drop n, ?_⟩
        rw [← List.append_assoc, ← (scanNumeral_some hcut).1, List.take_append_drop]
      rw [hscan] at hsome
      cases hsome
  | some r =>
    obtain ⟨ν, rest⟩ := r
    obtain ⟨rfl, hrest⟩ := scanNumeral_some hscan
    rw [List.take_append]
    by_cases hlen : ν.text.length ≤ n
    · have hstop : Stops Char.isDigit (rest.take (n - ν.text.length)) := by
        intro c hc
        rw [List.head?_take] at hc
        split at hc
        · cases hc
        · exact hrest c hc
      rw [List.take_of_length_le hlen, scanNumeral_text ν hstop]
      simp [hlen]
    · have hread := scanNumeral_text (ν.cut n) (stops_nil Char.isDigit)
      rw [ν.cut_text hn] at hread
      rw [show n - ν.text.length = 0 by omega, List.take_zero, hread]
      simp [hlen]

/-- The first `n` characters are enough for the integer at the front: its numeral ends there, or is 0,
or is out of range there already. -/
def FitsFront (n : Nat) (s : Str) : Prop :=
  ∀ r ∈ scanNumeral s, r.1.sign ≠ .plus → r.1.text.length ≤ n ∨ r.1.value = 0 ∨ ¬ InInt32 (r.1.cut n).value

instance (n : Nat) (s : Str) : Decidable (FitsFront n s) := inferInstanceAs (Decidable (∀ r ∈ scanNumeral s, _))

theorem intAt_of_fitsFront {n : Nat} (hn : 2 ≤ n) {s : Str} (h : FitsFront n s) : intAt (s.take n) = intAt s := by
  have htake := scanNumeral_take (s := s) hn
  unfold FitsFront at h
  unfold intAt
  cases hscan : scanNumeral s with
  | none =>
    rw [hscan, Option.map_none, Option.map_eq_none_iff] at htake
    rw [htake]
  | some r =>
    rw [hscan, Option.map_some, Option.map_eq_some_iff] at htake
    obtain ⟨r', hr', hν⟩ := htake
    rw [hr', Option.bind_some, Option.bind_some, hν]
    by_cases hlen : r.1.text.length ≤ n
    · rw [if_pos hlen]
    · rw [if_neg hlen]
      by_cases hsign : r.1.sign = .plus
      · rw [if_neg fun hc => hc.1 hsign, if_neg fun hc => hc.1 hsign]
      · rcases (h r hscan hsign).resolve_left hlen with hzero | hrange
        · have hcut : (r.1.cut n).value = 0 := by
            have hle := r.1.natAbs_cut_le n
            omega
          rw [hcut, hzero]
          rfl
        · rw [if_neg fun hc => hrange hc.2, if_neg fun hc => hrange (r.1.inInt32_cut n hc.2)]

/-- Where they are not, they hold an integer nearer to 0. -/
theorem intAt_of_not_fitsFront {n : Nat} (hn : 2 ≤ n) {s : Str} (h : ¬ FitsFront n s) :
    ∃ v, intAt (s.take n) = some v ∧ ∀ w ∈ intAt s, v.natAbs < w.natAbs := by
  have htake := scanNumeral_take (s := s) hn
  unfold FitsFront at h
  simp only [not_forall, not_or, not_not] at h
  obtain ⟨r, hscan, hsign, hlen, hne, hrange⟩ := h
  rw [hscan, Option.map_some, Option.map_eq_some_iff] at htake
  obtain ⟨r', hr', hν⟩ := htake
  rw [if_neg hlen] at hν
  refine ⟨(r.1.cut n).value, ?_, fun w hw => ?_⟩
  · unfold intAt
    rw [hr', Option.bind_some, hν]
    exact if_pos ⟨hsign, hrange⟩
  · unfold intAt at hw
    rw [hscan, Option.bind_some] at hw
    split at hw
    · cases hw
      exact Numeral.natAbs_cut_lt hn (by omega) hne
    · cases hw

/-! ## An unsigned number at the front of a text -/

/-- `std::from_chars(first, last, uint64_t&)`. -/
def fromCharsU64 (s : Str) : Except NumError (Nat × Str) :=
  let ds := s.takeWhile Char.isDigit
  if ds = [] then .error .invalidArgument
  else if decVal ds < 2 ^ 64 then .ok (decVal ds, s.dropWhile Char.isDigit) else .error .outOfRange

/-- The text begins with the decimal digits of `v`, and no digit follows them. -/
def StartsWith (s : Str) (v : Nat) : Prop :=
  ∃ digits rest, s = digits ++ rest ∧ digits ≠ [] ∧ (∀ c ∈ digits, c.isDigit = true) ∧ Stops Char.isDigit rest ∧
    decVal digits = v

theorem startsWith_iff {s : Str} {v : Nat} :
    StartsWith s v ↔ s.takeWhile Char.isDigit ≠ [] ∧ decVal (s.takeWhile Char.isDigit) = v := by
  constructor
  · rintro ⟨digits, rest, rfl, hne, hdigits, hrest, rfl⟩
    rw [takeWhile_run hdigits hrest]
    exact ⟨hne, rfl⟩
  · rintro ⟨hne, rfl⟩
    exact ⟨_, _, List.takeWhile_append_dropWhile.symm, hne, fun _ hc => List.mem_takeWhile_imp hc,
      stops_dropWhile _ _, rfl⟩

theorem startsWith_toDigits (v : Nat) {rest : Str} (h : Stops Char.isDigit rest) :
    StartsWith (Nat.toDigits 10 v ++ rest) v :=
  ⟨Nat.toDigits 10 v, rest, rfl, Nat.toDigits_ne_nil,
    fun _ hc => Nat.isDigit_of_mem_toDigits (by decide) (by decide) hc, h, Numeral.decVal_toDigits v⟩

/-- What is left of a text in front of a cut starts with the same number, if the digits fit. -/
theorem startsWith_take {s : Str} {n : Nat} (h : (s.takeWhile Char.isDigit).length ≤ n) (v : Nat) :
    StartsWith (s.take n) v ↔ StartsWith s v := by
  have hdigits : (s.take n).takeWhile Char.isDigit = s.takeWhile Char.isDigit := by
    rw [← List.take_takeWhile, List.take_of_length_le h]
  rw [startsWith_iff, startsWith_iff, hdigits]

theorem fromCharsU64_ok_iff {s : Str} {v : Nat} :
    (∃ rest, fromCharsU64 s = .ok (v, rest)) ↔ StartsWith s v ∧ v < 2 ^ 64 := by
  rw [startsWith_iff]
  unfold fromCharsU64
  dsimp only
  by_cases hne : s.takeWhile Char.isDigit = []
  · rw [if_pos hne]
    exact iff_of_false nofun fun h => h.1.1 hne
  · rw [if_neg hne]
    by_cases hlt : decVal (s.takeWhile Char.isDigit) < 2 ^ 64
    · rw [if_pos hlt]
      constructor
      · rintro ⟨rest, h⟩
        cases h
        exact ⟨⟨hne, rfl⟩, hlt⟩
      · rintro ⟨⟨_, rfl⟩, _⟩
        exact ⟨_, rfl⟩
    · rw [if_neg hlt]
      refine iff_of_false nofun ?_
      rintro ⟨⟨_, rfl⟩, hv⟩
      exact hlt hv

end CNum
