/-
`sscanf` as glibc runs it: a format is a list of directives over a record of destinations, every
directive consumes the front of the input or ends the scan, and the result is the number of
stored conversions together with the destinations as the stores left them. A scan that stops
midway keeps the stores made before.
-/
import TimeAgent.Lib.Numeral

namespace CScanf

open CText CNum

/-! ## Formats -/

/-- A conversion that takes a text: `%lf`, `%s` and `%[..]`, the latter two with an optional
maximum width. -/
inductive TextConv
  | real
  | word (width : Option Nat)
  | set (width : Option Nat) (mem : Char → Bool)

/-- One directive of a format whose conversions store into `σ`; a conversion without a store is
an assignment-suppressed one (`%*`). -/
inductive Directive (σ : Type)
  | space
  | lit (c : Char)
  | int (store : Option (Numeral → σ → σ))
  | text (k : TextConv) (store : Option (Str → σ → σ))

abbrev Format (σ : Type) := List (Directive σ)

/-- The literal part of a format: whitespace matches any whitespace, every other character itself. -/
def lits {σ : Type} (s : String) : Format σ :=
  s.toList.map fun c => if isspace c then .space else .lit c

/-- `%ld`. -/
def long {σ : Type} (f : Int → σ → σ) : Directive σ := .int (some fun ν => f (strtol ν))

/-- `%d`: the `long` `strtol` returns, cut to 32 bits. -/
def int {σ : Type} (f : Int → σ → σ) : Directive σ := .int (some fun ν => f (lowInt (strtol ν)))

/-- `%*ld`. -/
def skipLong {σ : Type} : Directive σ := .int none

/-- `%<width>s`. -/
def word {σ : Type} (width : Nat) (f : Str → σ → σ) : Directive σ := .text (.word (some width)) (some f)

/-- `%*s`. -/
def skipWord {σ : Type} : Directive σ := .text (.word none) none

/-- `%<width>[^stop]`. -/
def setNot {σ : Type} (width : Nat) (stop : Char) (f : Str → σ → σ) : Directive σ :=
  .text (.set (some width) (· != stop)) (some f)

/-! ## `%lf` -/

/-- What the loop that collects a floating-point number has seen. -/
structure RealState where
  hex : Bool
  gotDigit : Bool
  gotDot : Bool
  gotExp : Bool
  lastExp : Bool

/-- One more character of the number, or `none` when it is not part of it. -/
def realStep (st : RealState) (c : Char) : Option RealState :=
  if c.isDigit || (st.hex && !st.gotExp && isHexDigit c) then some { st with gotDigit := true, lastExp := false }
  else if st.gotExp && st.lastExp && (c = '-' || c = '+') then some { st with lastExp := false }
  else if st.gotDigit && !st.gotExp && c.toLower = (if st.hex then 'p' else 'e') then
    some { st with gotExp := true, gotDot := true, lastExp := true }
  else if !st.gotDot && c = '.' then some { st with gotDot := true, lastExp := false }
  else none

def realRun : RealState → Str → RealState × Str
  | st, [] => (st, [])
  | st, c :: s =>
    match realStep st c with
    | none => (st, c :: s)
    | some st' => realRun st' s

/-- What follows the floating-point number at the front of `s`; `none` when there is no number. -/
def afterReal (s : Str) : Option Str :=
  match (splitSign s).2 with
  | [] => none
  | c :: r =>
    if c.toLower = 'n' then dropNoCase "nan".toList (c :: r)
    else if c.toLower = 'i' then
      match dropNoCase "inf".toList (c :: r) with
      | none => none
      | some r' => if r'.head?.map Char.toLower = some 'i' then dropNoCase "inity".toList r' else some r'
    else if c = '0' && r.head?.map Char.toLower = some 'x' then
      let (_, rest) := realRun ⟨true, false, false, false, false⟩ r.tail
      if rest.length = r.tail.length then none else some rest
    else
      let (st, rest) := realRun ⟨false, false, false, false, false⟩ (c :: r)
      if st.gotDigit then some rest else none

/-! ## The scan -/

/-- The longest run of `p` at the front of `s`, of at most `width` characters. -/
def takeRun (width : Option Nat) (p : Char → Bool) (s : Str) : Str :=
  match width with
  | none => s.takeWhile p
  | some n => (s.take n).takeWhile p

/-- The text a conversion takes and what follows it. -/
def TextConv.take : TextConv → Str → Option (Str × Str)
  | .real, s =>
    let s := skipSpace s
    (afterReal s).map fun rest => (s.take (s.length - rest.length), rest)
  | .word width, s =>
    let s := skipSpace s
    let t := takeRun width (fun c => !isspace c) s
    if t = [] then none else some (t, s.drop t.length)
  | .set width mem, s =>
    let t := takeRun width mem s
    if t = [] then none else some (t, s.drop t.length)

def store {α σ : Type} (st : Option (α → σ → σ)) (v : α) (s : σ) : σ :=
  match st with
  | none => s
  | some f => f v s

/-- Counts a conversion that stores. -/
def counted {α σ : Type} (st : Option α) (r : Nat × σ) : Nat × σ := (r.1 + st.isSome.toNat, r.2)

/-- `sscanf(inp, fmt, ..)`: how many conversions were stored, and the destinations. (glibc
returns -1 in place of 0 on an input failure before the first conversion.) -/
def sscanf {σ : Type} : Format σ → Str → σ → Nat × σ
  | [], _, s => (0, s)
  | .space :: ds, inp, s => sscanf ds (skipSpace inp) s
  | .lit _ :: _, [], s => (0, s)
  | .lit c :: ds, d :: inp, s => if d = c then sscanf ds inp s else (0, s)
  | .int st :: ds, inp, s =>
    match scanNumeral (skipSpace inp) with
    | none => (0, s)
    | some (ν, rest) => counted st (sscanf ds rest (store st ν s))
  | .text k st :: ds, inp, s =>
    match k.take inp with
    | none => (0, s)
    | some (t, rest) => counted st (sscanf ds rest (store st t s))

/-! ## Literal text -/

/-- What follows literal text in the input, `none` at the first character that differs. -/
def matchText : Str → Str → Option Str
  | [], inp => some inp
  | c :: t, inp =>
    if isspace c then matchText t (skipSpace inp)
    else match inp with
      | [] => none
      | d :: inp => if d = c then matchText t inp else none

theorem matchText_space {c : Char} (hc : isspace c = true) (t inp : Str) :
    matchText (c :: t) inp = matchText t (skipSpace inp) := by
  cases inp <;> simp [matchText, hc]

theorem matchText_lit {c : Char} (hc : isspace c = false) (t : Str) (d : Char) (inp : Str) :
    matchText (c :: t) (d :: inp) = if d = c then matchText t inp else none := by
  simp [matchText, hc]

theorem matchText_lit_nil {c : Char} (hc : isspace c = false) (t : Str) : matchText (c :: t) [] = none := by
  simp [matchText, hc]

theorem matchText_append (t u inp : Str) : matchText (t ++ u) inp = (matchText t inp).bind (matchText u) := by
  induction t generalizing inp with
  | nil => rfl
  | cons c t ih =>
    rw [List.cons_append]
    cases hc : isspace c with
    | true => rw [matchText_space hc, matchText_space hc, ih]
    | false =>
      cases inp with
      | nil => rw [matchText_lit_nil hc, matchText_lit_nil hc]; rfl
      | cons d inp =>
        rw [matchText_lit hc, matchText_lit hc]
        split
        · exact ih inp
        · rfl

variable {σ : Type}

theorem sscanf_lits (t : String) (ds : Format σ) (inp : Str) (s : σ) :
    sscanf (lits t ++ ds) inp s = match matchText t.toList inp with
      | none => (0, s)
      | some rest => sscanf ds rest s := by
  unfold lits
  generalize t.toList = t
  induction t generalizing inp with
  | nil => rfl
  | cons c t ih =>
    cases hc : isspace c with
    | true =>
      rw [matchText_space hc]
      simp only [List.map_cons, hc, if_true, List.cons_append, sscanf, ih]
    | false =>
      simp only [List.map_cons, hc, Bool.false_eq_true, if_false, List.cons_append]
      cases inp with
      | nil => rw [matchText_lit_nil hc]; rfl
      | cons d inp =>
        rw [matchText_lit hc]
        by_cases hd : d = c
        · simp only [sscanf, hd, if_true, ih]
        · simp only [sscanf, hd, if_false]

theorem sscanf_lits_none {t : String} {inp : Str} (h : matchText t.toList inp = none)
    (ds : Format σ) (s : σ) : sscanf (lits t ++ ds) inp s = (0, s) := by
  rw [sscanf_lits, h]

/-- No two whitespace characters in a row. -/
def singleSpaced : Str → Bool
  | [] => true
  | [_] => true
  | c :: d :: t => !(isspace c && isspace d) && singleSpaced (d :: t)

/-- Single-spaced literal text matches itself; whitespace at its end also takes the whitespace
that follows. -/
theorem matchText_self {t : Str} (h : singleSpaced t = true) (rest : Str) :
    matchText t (t ++ rest) = some (if t.getLast?.any isspace then skipSpace rest else rest) := by
  induction t with
  | nil => rfl
  | cons c t ih =>
    cases t with
    | nil =>
      cases hc : isspace c with
      | true => simp [matchText, hc, skipSpace]
      | false => simp [matchText, hc]
    | cons d t =>
      simp only [singleSpaced, Bool.and_eq_true, Bool.not_eq_true', Bool.and_eq_false_iff] at h
      have hlast : (c :: d :: t).getLast? = (d :: t).getLast? := by simp
      rw [hlast, ← ih h.2, List.cons_append]
      cases hc : isspace c with
      | true =>
        have hd : isspace d = false := by simpa [hc] using h.1
        rw [matchText_space hc]
        congr 1
        rw [List.cons_append]
        simp [skipSpace, hc, hd]
      | false => rw [matchText_lit hc, if_pos rfl]

theorem sscanf_lits_self {t : String} (h : singleSpaced t.toList = true)
    (hl : t.toList.getLast?.any isspace = false) (rest : Str) (ds : Format σ) (s : σ) :
    sscanf (lits t ++ ds) (t.toList ++ rest) s = sscanf ds rest s := by
  rw [sscanf_lits, matchText_self h, hl]; rfl

/-- Literal text without whitespace rejects every input it is not a prefix of. -/
theorem matchText_none_of_not_prefix {t inp : Str} (ht : ∀ c ∈ t, isspace c = false) (h : ¬ t <+: inp) :
    matchText t inp = none := by
  induction t generalizing inp with
  | nil => exact absurd (List.nil_prefix) h
  | cons c t ih =>
    have hc := ht c (by simp)
    cases inp with
    | nil => exact matchText_lit_nil hc t
    | cons d inp =>
      rw [matchText_lit hc]
      by_cases hd : d = c
      · subst hd
        simp only [if_true]
        exact ih (fun e he => ht e (List.mem_cons_of_mem _ he)) (fun hp => h (List.cons_prefix_cons.2 ⟨rfl, hp⟩))
      · simp [hd]

/-! ## Conversions -/

@[simp] theorem store_some {α : Type} (f : α → σ → σ) (v : α) (s : σ) : store (some f) v s = f v s := rfl

@[simp] theorem store_none {α : Type} (v : α) (s : σ) : store (none : Option (α → σ → σ)) v s = s := rfl

@[simp] theorem counted_some {α : Type} (a : α) (r : Nat × σ) : counted (some a) r = (r.1 + 1, r.2) := rfl

@[simp] theorem counted_none {α : Type} (r : Nat × σ) : counted (none : Option α) r = r := rfl

/-- `%d` and `%ld` skip whitespace themselves. -/
@[simp] theorem sscanf_int_skip (st : Option (Numeral → σ → σ)) (ds : Format σ) (inp : Str) (s : σ) :
    sscanf (.int st :: ds) (skipSpace inp) s = sscanf (.int st :: ds) inp s := by
  simp only [sscanf, skipSpace_idem]

@[simp] theorem sscanf_word_skip (width : Option Nat) (st : Option (Str → σ → σ)) (ds : Format σ) (inp : Str) (s : σ) :
    sscanf (.text (.word width) st :: ds) (skipSpace inp) s = sscanf (.text (.word width) st :: ds) inp s := by
  simp only [sscanf, TextConv.take, skipSpace_idem]

theorem sscanf_int {st : Option (Numeral → σ → σ)} {inp rest : Str} {ν : Numeral}
    (h : skipSpace inp = ν.text ++ rest) (hr : Stops Char.isDigit rest) (ds : Format σ) (s : σ) :
    sscanf (.int st :: ds) inp s = counted st (sscanf ds rest (store st ν s)) := by
  rw [sscanf, h, scanNumeral_text ν hr]

theorem sscanf_text {k : TextConv} {st : Option (Str → σ → σ)} {inp t rest : Str}
    (h : k.take inp = some (t, rest)) (ds : Format σ) (s : σ) :
    sscanf (.text k st :: ds) inp s = counted st (sscanf ds rest (store st t s)) := by
  rw [sscanf, h]

theorem takeRun_eq {width : Option Nat} {p : Char → Bool} {run rest : Str} (hr : ∀ c ∈ run, p c = true)
    (hs : Stops p rest) (hw : ∀ n, width = some n → run.length ≤ n) : takeRun width p (run ++ rest) = run := by
  unfold takeRun
  cases width with
  | none => exact takeWhile_run hr hs
  | some n =>
    have hn := hw n rfl
    simp only [List.take_append, List.take_of_length_le hn]
    refine takeWhile_run hr ?_
    cases rest with
    | nil => simp
    | cons c rest =>
      cases hm : n - run.length with
      | zero => simp
      | succ m => simpa using hs

/-- `%s` takes a token that fits its width. -/
theorem take_word {width : Option Nat} {inp w rest : Str} (h : skipSpace inp = w ++ rest) (hw : IsToken w)
    (hs : Stops (fun c => !isspace c) rest) (hn : ∀ n, width = some n → w.length ≤ n) :
    (TextConv.word width).take inp = some (w, rest) := by
  have hrun : takeRun width (fun c => !isspace c) (w ++ rest) = w :=
    takeRun_eq (fun c hc => by simpa using hw.2 c hc) hs hn
  simp only [TextConv.take, h, hrun, hw.1, if_false, List.drop_left]

/-- `%[..]` takes a non-empty run of its set that fits its width. -/
theorem take_set {width : Option Nat} {mem : Char → Bool} {run rest : Str} (hne : run ≠ [])
    (hr : ∀ c ∈ run, mem c = true) (hs : Stops mem rest) (hn : ∀ n, width = some n → run.length ≤ n) :
    (TextConv.set width mem).take (run ++ rest) = some (run, rest) := by
  have hrun : takeRun width mem (run ++ rest) = run := takeRun_eq hr hs hn
  simp only [TextConv.take, hrun, hne, if_false, List.drop_left]

/-! ## Decimal numbers under `%lf` -/

theorem realRun_digits {ds : Str} (hd : ∀ c ∈ ds, c.isDigit = true) (hne : ds ≠ []) (st : RealState) (s : Str) :
    realRun st (ds ++ s) = realRun { st with gotDigit := true, lastExp := false } s := by
  induction ds generalizing st with
  | nil => exact absurd rfl hne
  | cons c ds ih =>
    have hc : realStep st c = some { st with gotDigit := true, lastExp := false } := by
      simp [realStep, hd c (by simp)]
    rw [List.cons_append, realRun, hc]
    cases ds with
    | nil => rfl
    | cons d ds => exact ih (fun e he => hd e (List.mem_cons_of_mem _ he)) (by simp) _

/-- `digits.digits` is one number when neither a digit nor an exponent follows. -/
theorem afterReal_decimal {i f rest : Str} (hi : ∀ c ∈ i, c.isDigit = true) (hine : i ≠ [])
    (hf : ∀ c ∈ f, c.isDigit = true) (hfne : f ≠ [])
    (hr : Stops (fun c => c.isDigit || c.toLower = 'e' || c = '.') rest) :
    afterReal (i ++ '.' :: (f ++ rest)) = some rest := by
  have hrun : realRun ⟨false, false, false, false, false⟩ (i ++ '.' :: (f ++ rest)) =
      (⟨false, true, true, false, false⟩, rest) := by
    have hdot : realStep ⟨false, true, false, false, false⟩ '.' = some ⟨false, true, true, false, false⟩ := rfl
    rw [realRun_digits hi hine, realRun, hdot]
    simp only
    rw [realRun_digits hf hfne]
    cases rest with
    | nil => rfl
    | cons c rest =>
      simp only [stops_cons, Bool.or_eq_false_iff, decide_eq_false_iff_not] at hr
      obtain ⟨⟨h1, h2⟩, h3⟩ := hr
      simp [realRun, realStep, h1, h2]
  cases i with
  | nil => exact absurd rfl hine
  | cons c r =>
    have hc : c.isDigit = true := hi c (by simp)
    have hsign : splitSign (c :: r ++ '.' :: (f ++ rest)) = (.none, c :: r ++ '.' :: (f ++ rest)) :=
      splitSign_text .none (by simp [digit_ne hc '+' rfl, digit_ne hc '-' rfl])
    -- a digit or a point follows the first digit, so a leading 0 starts no hexadecimal number
    have hx : ((r ++ '.' :: (f ++ rest)).head?.map Char.toLower = some 'x') = False := by
      cases r with
      | nil => simp
      | cons d r =>
        have hd : d.isDigit = true := hi d (by simp)
        simp [toLower_digit hd, digit_ne hd 'x' rfl]
    rw [List.cons_append] at hrun hsign ⊢
    unfold afterReal
    rw [hsign]
    simp only [toLower_digit hc, digit_ne hc 'n' rfl, digit_ne hc 'i' rfl, if_false, hx, decide_false,
      Bool.and_false, Bool.false_eq_true, hrun, if_true]

theorem take_real {i f rest inp : Str} (h : skipSpace inp = i ++ '.' :: (f ++ rest))
    (hi : ∀ c ∈ i, c.isDigit = true) (hine : i ≠ []) (hf : ∀ c ∈ f, c.isDigit = true) (hfne : f ≠ [])
    (hr : Stops (fun c => c.isDigit || c.toLower = 'e' || c = '.') rest) :
    TextConv.real.take inp = some (i ++ '.' :: f, rest) := by
  have hlen : (i ++ '.' :: (f ++ rest)).length - rest.length = (i ++ '.' :: f).length := by
    simp; omega
  have happ : i ++ '.' :: (f ++ rest) = (i ++ '.' :: f) ++ rest := by simp
  simp only [TextConv.take, h, afterReal_decimal hi hine hf hfne hr, Option.map_some, hlen]
  rw [happ, List.take_left]

end CScanf
