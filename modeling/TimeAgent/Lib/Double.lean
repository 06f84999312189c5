/-
Binary64 numbers as `std::stod` and `llround` handle them: the exact value of a numeral, its
rounding to the nearest double (ties to even), the range errors, and rounding to an integer.
Every number a double can hold is its own rounding.
-/
import TimeAgent.Lib.Numeral
import Mathlib.Data.Int.Log
import Mathlib.Data.Rat.Floor
import Mathlib.Algebra.Order.Field.Power
import Mathlib.Tactic.FieldSimp
import Mathlib.Tactic.Linarith
import Mathlib.Tactic.NormNum
import Mathlib.Tactic.Positivity
import Mathlib.Tactic.Zify

namespace CDouble

open CText CNum

/-! ## Rounding to a double -/

/-- A `double`; the sign of a zero is not kept. -/
inductive Double
  | finite (q : ℚ)
  | inf (neg : Bool)
  | nan
  deriving DecidableEq

/-- The integer nearest to a non-negative rational, the even one of two. -/
def nearestEven (q : ℚ) : Int :=
  let f := ⌊q⌋
  if q - f < 1 / 2 then f
  else if 1 / 2 < q - f then f + 1
  else if f % 2 = 0 then f else f + 1

/-- The exponent of the last place of a double of magnitude `q`. -/
def lastPlace (q : ℚ) : Int := max (Int.log 2 q - 52) (-1074)

/-- The double nearest to a magnitude, before the overflow check. -/
def roundMag (q : ℚ) : ℚ :=
  if q ≤ 0 then 0 else nearestEven (q / 2 ^ lastPlace q) * 2 ^ lastPlace q

/-- The finite magnitudes of a double: `m · 2 ^ e` with a 53-bit `m`, below `2 ^ 1024`. -/
def Representable (q : ℚ) : Prop :=
  ∃ (m : Nat) (e : Int), m < 2 ^ 53 ∧ -1074 ≤ e ∧ q = m * 2 ^ e ∧ q < 2 ^ 1024

theorem nearestEven_int (z : Int) : nearestEven (z : ℚ) = z := by
  unfold nearestEven
  simp

theorem two_zpow_pos (e : Int) : (0 : ℚ) < 2 ^ e := zpow_pos (by norm_num) e

/-- In units of its last place a representable magnitude is an integer. -/
theorem exists_int_lastPlace {q : ℚ} (h : Representable q) (hq : 0 < q) : ∃ z : Int, q / 2 ^ lastPlace q = z := by
  obtain ⟨m, e, hm, he, rfl, -⟩ := h
  have hdiv : ∀ p : Int, (m * 2 ^ e : ℚ) / 2 ^ p = m * 2 ^ (e - p) := by
    intro p
    rw [zpow_sub₀ (by norm_num)]; ring
  rw [hdiv]
  by_cases hle : lastPlace (m * 2 ^ e : ℚ) ≤ e
  · refine ⟨m * 2 ^ (e - lastPlace (m * 2 ^ e : ℚ)).toNat, ?_⟩
    push_cast
    rw [← zpow_natCast, Int.toNat_of_nonneg (by omega)]
  · exfalso
    -- the last place is above `e`, so `m` has more than 53 bits
    have hlog : e + 53 ≤ Int.log 2 (m * 2 ^ e : ℚ) := by
      unfold lastPlace at hle; omega
    have hpow : (2 : ℚ) ^ (e + 53) ≤ m * 2 ^ e :=
      calc (2 : ℚ) ^ (e + 53) ≤ 2 ^ Int.log 2 (m * 2 ^ e : ℚ) := zpow_le_zpow_right₀ (by norm_num) hlog
        _ ≤ m * 2 ^ e := by simpa using Int.zpow_log_le_self (b := 2) (by decide) hq
    rw [zpow_add₀ (by norm_num), mul_comm] at hpow
    have hm' : (2 : ℚ) ^ (53 : Int) ≤ m := le_of_mul_le_mul_right hpow (two_zpow_pos e)
    have hlt : (m : ℚ) < 2 ^ (53 : Int) := by exact_mod_cast hm
    linarith

/-- A magnitude a double can hold is its own rounding. -/
theorem roundMag_representable {q : ℚ} (h : Representable q) (hq : 0 ≤ q) : roundMag q = q := by
  unfold roundMag
  rcases hq.eq_or_lt with rfl | hq
  · simp
  · obtain ⟨z, hz⟩ := exists_int_lastPlace h hq
    rw [if_neg (not_le.2 hq), hz, nearestEven_int, ← hz]
    exact div_mul_cancel₀ q (two_zpow_pos _).ne'

theorem representable_natCast {n : Nat} (h : n < 2 ^ 53) : Representable n := by
  refine ⟨n, 0, h, by norm_num, by simp, ?_⟩
  have h1 : (n : ℚ) < 2 ^ 53 := by exact_mod_cast h
  exact h1.trans (pow_lt_pow_right₀ (by norm_num) (by norm_num))

/-! ## `std::stod` -/

/-- The magnitude of the text of a number. -/
inductive Magnitude
  | num (q : ℚ)
  | inf
  | nan

def hexVal (ds : Str) : Nat :=
  ds.foldl (fun n c => 16 * n + (if c.isDigit then c.toNat - 48 else c.toLower.toNat - 87)) 0

/-- The exponent behind a mantissa; 0 when none is written. -/
def exponent (mark : Char) : Str → Int
  | [] => 0
  | c :: s => if c.toLower = mark then (match scanNumeral s with | none => 0 | some (ν, _) => ν.value) else 0

/-- The digits behind a point, and what follows. -/
def fraction (p : Char → Bool) : Str → Str × Str
  | '.' :: s => (s.takeWhile p, s.dropWhile p)
  | s => ([], s)

/-- A decimal number at the front of `s`. -/
def decimal (s : Str) : Option ℚ :=
  let i := s.takeWhile Char.isDigit
  let (f, rest) := fraction Char.isDigit (s.dropWhile Char.isDigit)
  if i = [] ∧ f = [] then none else some (decVal (i ++ f) * 10 ^ (exponent 'e' rest - f.length))

/-- A hexadecimal number behind its `0x`; without digits the number is the `0`. -/
def hexadecimal (s : Str) : ℚ :=
  let i := s.takeWhile isHexDigit
  let (f, rest) := fraction isHexDigit (s.dropWhile isHexDigit)
  if i = [] ∧ f = [] then 0 else hexVal (i ++ f) * 2 ^ (exponent 'p' rest - 4 * f.length)

/-- `strtod` behind the sign, before rounding. -/
def magnitude (s : Str) : Option Magnitude :=
  if (dropNoCase "inf".toList s).isSome then some .inf
  else if (dropNoCase "nan".toList s).isSome then some .nan
  else if (dropNoCase "0x".toList s).isSome then some (.num (hexadecimal (s.drop 2)))
  else (decimal s).map .num

/-- `std::stod(s)`: no number at the front is an invalid argument; a number too large for a
double, or too small to be held exactly in the subnormal range, is out of range. -/
def stod (s : Str) : Except NumError Double :=
  let (sg, r) := splitSign (skipSpace s)
  match magnitude r with
  | none => .error .invalidArgument
  | some .inf => .ok (.inf (sg = .minus))
  | some .nan => .ok .nan
  | some (.num q) =>
    let v := roundMag q
    if 2 ^ 1024 ≤ v ∨ (v < 2 ^ (-1022 : Int) ∧ v ≠ q) then .error .outOfRange
    else .ok (.finite (if sg = .minus then -v else v))

/-- What a text denotes, exactly: the number at its front as `strtod` reads it, before any rounding,
if a double can hold it. -/
inductive Denotes (s : Str) : Double → Prop
  | finite {q : ℚ} (hnum : magnitude (splitSign (skipSpace s)).2 = some (.num q)) (hrep : Representable q) :
    Denotes s (.finite (if (splitSign (skipSpace s)).1 = .minus then -q else q))
  | inf (hinf : magnitude (splitSign (skipSpace s)).2 = some .inf) :
    Denotes s (.inf ((splitSign (skipSpace s)).1 = .minus))
  | nan (hnan : magnitude (splitSign (skipSpace s)).2 = some .nan) : Denotes s .nan

theorem Representable.nonneg {q : ℚ} (h : Representable q) : 0 ≤ q := by
  obtain ⟨m, e, _, _, rfl, _⟩ := h
  exact mul_nonneg (Nat.cast_nonneg m) (two_zpow_pos e).le

/-- `std::stod` is exact where a double can hold the value. -/
theorem stod_of_denotes {s : Str} {d : Double} (h : Denotes s d) : stod s = .ok d := by
  unfold stod
  cases h with
  | finite hnum hrep =>
    have hround := roundMag_representable hrep hrep.nonneg
    obtain ⟨_, _, _, _, _, hlt⟩ := hrep
    dsimp only
    rw [hnum]
    dsimp only
    rw [hround, if_neg (fun h => h.elim (fun h => absurd hlt (not_lt.2 h)) (fun h => h.2 rfl))]
  | inf hinf =>
    dsimp only
    rw [hinf]
  | nan hnan =>
    dsimp only
    rw [hnan]

/-! ## `llround` -/

/-- The nearest integer, halves away from zero. -/
def roundHalfAway (q : ℚ) : Int := if 0 ≤ q then ⌊q + 1 / 2⌋ else -⌊-q + 1 / 2⌋

/-- `llround(d)`: the C standard leaves the value open (`unspecified`) when the rounded value is
no `long long`. -/
def llround (unspecified : Double → Int) : Double → Int
  | .finite q => if InInt64 (roundHalfAway q) then roundHalfAway q else unspecified (.finite q)
  | d => unspecified d

theorem roundHalfAway_int (z : Int) : roundHalfAway (z : ℚ) = z := by
  have h : ∀ w : Int, ⌊(w : ℚ) + 1 / 2⌋ = w := by
    intro w
    rw [Int.floor_eq_iff]
    constructor <;> linarith
  unfold roundHalfAway
  split
  · exact h z
  · have := h (-z)
    push_cast at this
    omega

theorem llround_int (unspecified : Double → Int) {z : Int} (h : InInt64 z) :
    llround unspecified (.finite z) = z := by
  simp [llround, roundHalfAway_int, h]

/-! ## Printed integers -/

theorem dropNoCase_digit {w s : Str} {c d : Char} (hd : d.isDigit = true) (hc : c.isDigit = false) :
    dropNoCase (c :: w) (d :: s) = none := by
  rw [dropNoCase, if_neg]
  rw [toLower_digit hd]; exact digit_ne hd c hc

theorem magnitude_digits {ds rest : Str} (hne : ds ≠ []) (hd : ∀ c ∈ ds, c.isDigit = true)
    (hx : Stops (fun c => c.toLower = 'x') rest) : magnitude (ds ++ rest) = (decimal (ds ++ rest)).map .num := by
  cases ds with
  | nil => exact absurd rfl hne
  | cons d ds =>
    have hdd := hd d (by simp)
    have h0x : dropNoCase "0x".toList (d :: (ds ++ rest)) = none := by
      show dropNoCase ['0', 'x'] _ = none
      rw [dropNoCase]
      split
      · cases ds with
        | cons e ds => exact dropNoCase_digit (hd e (by simp)) rfl
        | nil =>
          cases rest with
          | nil => rfl
          | cons c rest => rw [stops_cons, decide_eq_false_iff_not] at hx; simp [dropNoCase, hx]
      · rfl
    unfold magnitude
    rw [List.cons_append, h0x, show dropNoCase "inf".toList (d :: (ds ++ rest)) = none from dropNoCase_digit hdd rfl,
      show dropNoCase "nan".toList (d :: (ds ++ rest)) = none from dropNoCase_digit hdd rfl]
    rfl

theorem decimal_int {ds : Str} (hne : ds ≠ []) (hd : ∀ c ∈ ds, c.isDigit = true) :
    decimal ds = some (decVal ds : ℚ) := by
  unfold decimal
  simp [takeWhile_all hd, dropWhile_all hd, fraction, exponent, hne]

/-- `.0` behind an integer does not change its value. -/
theorem decimal_point_zero {ds : Str} (hne : ds ≠ []) (hd : ∀ c ∈ ds, c.isDigit = true) :
    decimal (ds ++ ".0".toList) = some (decVal ds : ℚ) := by
  have hstop : Stops Char.isDigit ".0".toList := by simp
  have hval : decVal (ds ++ ['0']) = 10 * decVal ds := by
    unfold decVal; rw [Nat.ofDigitChars_append, Nat.ofDigitChars_eq_foldl]; simp
  unfold decimal
  rw [takeWhile_run hd hstop, dropWhile_run hd hstop]
  have hf : fraction Char.isDigit ".0".toList = (['0'], []) := rfl
  simp only [hf, hval]
  rw [if_neg (by simp [hne])]
  simp only [exponent, List.length_singleton, Nat.cast_mul, Nat.cast_ofNat]
  norm_num
  field_simp

theorem signed_natAbs (z : Int) :
    (if (Numeral.ofInt z).sign = .minus then -(z.natAbs : ℚ) else (z.natAbs : ℚ)) = z := by
  unfold Numeral.ofInt
  by_cases h : z < 0
  · have hz : (z.natAbs : Int) = -z := by omega
    have hq : (z.natAbs : ℚ) = -(z : ℚ) := by rw [← Int.cast_natCast, hz, Int.cast_neg]
    simp only [h, if_true, hq, neg_neg]
  · have hz : (z.natAbs : Int) = z := by omega
    have hq : (z.natAbs : ℚ) = (z : ℚ) := by rw [← Int.cast_natCast, hz]
    simp only [h, if_false, reduceCtorEq, hq]

/-- The text of an integer of at most 53 bits denotes it, with or without `.0`. -/
theorem denotes_ofInt {z : Int} (hz : z.natAbs < 2 ^ 53) {tail : Str} (ht : tail = [] ∨ tail = ".0".toList) :
    Denotes ((Numeral.ofInt z).text ++ tail) (.finite z) := by
  have hsign := signed_natAbs z
  have hval : decVal (Numeral.ofInt z).digits = z.natAbs := Numeral.decVal_toDigits _
  generalize Numeral.ofInt z = ν at hsign hval ⊢
  have hsplit : splitSign (skipSpace (ν.text ++ tail)) = (ν.sign, ν.digits ++ tail) := by
    rw [skipSpace_of_stops (ν.stops_isspace tail), Numeral.text, List.append_assoc]
    exact splitSign_text ν.sign (ν.digits_stop_sign tail)
  have hdec : decimal (ν.digits ++ tail) = some (decVal ν.digits : ℚ) := by
    rcases ht with rfl | rfl
    · rw [List.append_nil]; exact decimal_int ν.ne ν.dec
    · exact decimal_point_zero ν.ne ν.dec
  have hmag : magnitude (splitSign (skipSpace (ν.text ++ tail))).2 = some (.num (z.natAbs : ℚ)) := by
    rw [hsplit, magnitude_digits ν.ne ν.dec (by rcases ht with rfl | rfl <;> simp), hdec, hval]; rfl
  have hdenotes := Denotes.finite hmag (representable_natCast hz)
  rw [hsplit] at hdenotes
  exact hsign ▸ hdenotes

theorem stod_ofInt {z : Int} (hz : z.natAbs < 2 ^ 53) {tail : Str} (ht : tail = [] ∨ tail = ".0".toList) :
    stod ((Numeral.ofInt z).text ++ tail) = .ok (.finite z) :=
  stod_of_denotes (denotes_ofInt hz ht)

end CDouble
