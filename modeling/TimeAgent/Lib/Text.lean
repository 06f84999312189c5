/-
Byte strings as the C and C++ standard libraries read them: the whitespace of the "C" locale,
maximal runs of a character class, tokens, substring search and `std::getline`.
-/
import Mathlib.Data.List.Infix
import Mathlib.Data.List.TakeWhile
import Mathlib.Tactic.Common

namespace CText

/-- A `std::string`; a `Char` stands for one byte. -/
abbrev Str := List Char

/-- `isspace` in the "C" locale. -/
def isspace (c : Char) : Bool :=
  c = ' ' || c = '\t' || c = '\n' || c = '\x0b' || c = '\x0c' || c = '\r'

@[simp] theorem isspace_space : isspace ' ' = true := rfl

/-- What is left of `s` after its leading whitespace. -/
def skipSpace (s : Str) : Str := s.dropWhile isspace

/-- `s.find(needle) != std::string::npos`. -/
def contains (s needle : Str) : Bool := decide (needle <:+: s)

/-- `c_str()`: the bytes before the first NUL. -/
def cstr (s : Str) : Str := s.takeWhile (· ≠ '\x00')

/-! ## Runs of a character class -/

/-- `s` is empty or starts with a character outside `p`: a run of `p` ends in front of `s`. -/
def Stops (p : Char → Bool) (s : Str) : Prop := ∀ c ∈ s.head?, p c = false

@[simp] theorem stops_nil (p : Char → Bool) : Stops p [] := by
  intro c h; cases h

@[simp] theorem stops_cons (p : Char → Bool) (c : Char) (s : Str) : Stops p (c :: s) ↔ p c = false := by
  simp [Stops]

theorem Stops.takeWhile {p : Char → Bool} {s : Str} (h : Stops p s) : s.takeWhile p = [] := by
  cases s with
  | nil => rfl
  | cons c s => rw [stops_cons] at h; simp [h]

theorem Stops.dropWhile {p : Char → Bool} {s : Str} (h : Stops p s) : s.dropWhile p = s := by
  cases s with
  | nil => rfl
  | cons c s => rw [stops_cons] at h; simp [h]

theorem Stops.append {p : Char → Bool} {a b : Str} (ha : a ≠ []) (h : Stops p a) : Stops p (a ++ b) := by
  cases a with
  | nil => exact absurd rfl ha
  | cons c a => simpa using h

theorem Stops.front {p : Char → Bool} {a b : Str} (h : Stops p (a ++ b)) : Stops p a := by
  cases a with
  | nil => exact stops_nil p
  | cons c a => simpa using h

theorem stops_dropWhile (p : Char → Bool) (s : Str) : Stops p (s.dropWhile p) := by
  induction s with
  | nil => simp
  | cons c s ih =>
    rw [List.dropWhile_cons]
    split
    · exact ih
    · rename_i h; simpa using h

/-- The run of `p` at the front of `run ++ rest` is `run`. -/
theorem takeWhile_run {p : Char → Bool} {run rest : Str} (hr : ∀ c ∈ run, p c = true) (h : Stops p rest) :
    (run ++ rest).takeWhile p = run := by
  rw [List.takeWhile_append_of_pos hr, h.takeWhile, List.append_nil]

theorem dropWhile_run {p : Char → Bool} {run rest : Str} (hr : ∀ c ∈ run, p c = true) (h : Stops p rest) :
    (run ++ rest).dropWhile p = rest := by
  rw [List.dropWhile_append_of_pos hr, h.dropWhile]

theorem takeWhile_all {p : Char → Bool} {s : Str} (h : ∀ c ∈ s, p c = true) : s.takeWhile p = s := by
  simpa using takeWhile_run h (stops_nil p)

theorem dropWhile_all {p : Char → Bool} {s : Str} (h : ∀ c ∈ s, p c = true) : s.dropWhile p = [] := by
  simpa using dropWhile_run h (stops_nil p)

theorem skipSpace_append {a b : Str} (ha : ∀ c ∈ a, isspace c = true) : skipSpace (a ++ b) = skipSpace b :=
  List.dropWhile_append_of_pos ha

theorem skipSpace_of_stops {s : Str} (h : Stops isspace s) : skipSpace s = s := h.dropWhile

@[simp] theorem skipSpace_idem (s : Str) : skipSpace (skipSpace s) = skipSpace s :=
  (stops_dropWhile isspace s).dropWhile

/-! ## Tokens -/

/-- A non-empty text without whitespace. -/
def IsToken (w : Str) : Prop := w ≠ [] ∧ ∀ c ∈ w, isspace c = false

instance (w : Str) : Decidable (IsToken w) := @instDecidableAnd _ _ inferInstance (List.decidableBAll _ w)

theorem IsToken.stops {w : Str} (h : IsToken w) : Stops isspace w := by
  cases w with
  | nil => simp
  | cons c w => simpa using h.2 c (by simp)

theorem IsToken.stops_append {w : Str} (h : IsToken w) (rest : Str) : Stops isspace (w ++ rest) :=
  h.stops.append h.1

/-- `std::istringstream(s) >> token`: the first token of `s`, empty if there is none. -/
def firstToken (s : Str) : Str := (skipSpace s).takeWhile (fun c => !isspace c)

/-- What the stream holds after the first token. -/
def afterToken (s : Str) : Str := (skipSpace s).dropWhile (fun c => !isspace c)

theorem firstToken_eq {a w rest : Str} (ha : ∀ c ∈ a, isspace c = true) (hw : IsToken w)
    (hr : Stops (fun c => !isspace c) rest) : firstToken (a ++ (w ++ rest)) = w := by
  unfold firstToken
  rw [skipSpace_append ha, skipSpace_of_stops (hw.stops_append rest)]
  exact takeWhile_run (fun c hc => by simpa using hw.2 c hc) hr

theorem afterToken_eq {a w rest : Str} (ha : ∀ c ∈ a, isspace c = true) (hw : IsToken w)
    (hr : Stops (fun c => !isspace c) rest) : afterToken (a ++ (w ++ rest)) = rest := by
  unfold afterToken
  rw [skipSpace_append ha, skipSpace_of_stops (hw.stops_append rest)]
  exact dropWhile_run (fun c hc => by simpa using hw.2 c hc) hr

theorem firstToken_token {w : Str} (hw : IsToken w) : firstToken w = w := by
  simpa using firstToken_eq (List.forall_mem_nil _) hw (stops_nil _)

/-! ## Substrings -/

theorem contains_iff {s needle : Str} : contains s needle = true ↔ needle <:+: s := by
  unfold contains; simp

theorem contains_append (a needle b : Str) : contains (a ++ (needle ++ b)) needle = true := by
  rw [contains_iff]; exact ⟨a, b, by simp⟩

/-- A text that is no prefix of `w` stays none when a character it lacks follows `w`. -/
theorem not_prefix_append {t w rest : Str} {c : Char} (hc : c ∉ t) (h : ¬ t <+: w) : ¬ t <+: w ++ c :: rest := by
  intro hp
  have hw : w ++ [c] <+: w ++ c :: rest := ⟨rest, by simp⟩
  rcases List.prefix_or_prefix_of_prefix hp hw with h1 | h1
  · rcases List.prefix_concat_iff.1 h1 with h2 | h2
    · exact hc (h2 ▸ by simp)
    · exact h h2
  · exact hc (h1.subset (by simp))

theorem cstr_eq {s : Str} (h : '\x00' ∉ s) : cstr s = s :=
  takeWhile_all fun c hc => by
    have : c ≠ '\x00' := fun e => h (e ▸ hc)
    simpa using this

/-! ## Lines -/

/-- The lines a `std::getline` loop yields: the segments between newlines, the last one only
if it is not empty. -/
def getlines : Str → List Str
  | [] => []
  | c :: cs =>
    if c = '\n' then [] :: getlines cs
    else match getlines cs with
      | [] => [[c]]
      | l :: ls => (c :: l) :: ls

theorem getlines_newline (rest : Str) : getlines ('\n' :: rest) = [] :: getlines rest := by
  simp [getlines]

theorem getlines_line {l : Str} (hl : '\n' ∉ l) (rest : Str) :
    getlines (l ++ '\n' :: rest) = l :: getlines rest := by
  induction l with
  | nil => exact getlines_newline rest
  | cons c l ih =>
    simp only [List.mem_cons, not_or] at hl
    rw [List.cons_append, getlines, if_neg (Ne.symm hl.1), ih hl.2]

theorem getlines_last {l : Str} (hl : '\n' ∉ l) (hne : l ≠ []) : getlines l = [l] := by
  induction l with
  | nil => exact absurd rfl hne
  | cons c l ih =>
    simp only [List.mem_cons, not_or] at hl
    rw [getlines, if_neg (Ne.symm hl.1)]
    cases l with
    | nil => rfl
    | cons d l => rw [ih hl.2 (by simp)]

/-- Every line ended by a newline, as a loop that writes `line << '\n'` leaves them. -/
def unlines (ls : List Str) : Str := ls.flatMap (· ++ ['\n'])

@[simp] theorem unlines_nil : unlines [] = [] := rfl

@[simp] theorem unlines_cons (l : Str) (ls : List Str) : unlines (l :: ls) = l ++ '\n' :: unlines ls := by
  simp [unlines]

theorem getlines_unlines_append {ls : List Str} (h : ∀ l ∈ ls, '\n' ∉ l) (rest : Str) :
    getlines (unlines ls ++ rest) = ls ++ getlines rest := by
  induction ls with
  | nil => rfl
  | cons l ls ih =>
    rw [unlines_cons, List.append_assoc, List.cons_append, getlines_line (h l (by simp)),
      ih fun m hm => h m (List.mem_cons_of_mem _ hm), List.cons_append]

theorem getlines_unlines {ls : List Str} (h : ∀ l ∈ ls, '\n' ∉ l) : getlines (unlines ls) = ls := by
  simpa [getlines] using getlines_unlines_append h []

theorem getlines_no_newline (s : Str) : ∀ l ∈ getlines s, '\n' ∉ l := by
  induction s with
  | nil => simp [getlines]
  | cons c s ih =>
    rw [getlines]
    split
    · simpa using ih
    · rename_i hc
      cases hs : getlines s with
      | nil => simpa using Ne.symm hc
      | cons l ls =>
        rw [hs] at ih
        rw [List.forall_mem_cons] at ih ⊢
        exact ⟨by simpa using ⟨Ne.symm hc, ih.1⟩, ih.2⟩

/-! ## One line -/

/-- One `std::getline`: the line and what the stream holds behind it; `none` at the end. -/
def getline (s : Str) : Option (Str × Str) :=
  if s = [] then none else some (s.takeWhile (· ≠ '\n'), (s.dropWhile (· ≠ '\n')).drop 1)

/-- Line by line, a `getline` loop reads the lines of the stream. -/
theorem getlines_eq_getline (s : Str) :
    getlines s = match getline s with
      | none => []
      | some (line, rest) => line :: getlines rest := by
  unfold getline
  by_cases hs : s = []
  · rw [if_pos hs, hs]; rfl
  · rw [if_neg hs]
    have hline : '\n' ∉ s.takeWhile (· ≠ '\n') := fun h => by simpa using List.mem_takeWhile_imp h
    have hsplit := List.takeWhile_append_dropWhile (p := (· ≠ '\n')) (l := s)
    have hstop := stops_dropWhile (· ≠ '\n') s
    cases hrest : s.dropWhile (· ≠ '\n') with
    | nil =>
      rw [hrest, List.append_nil] at hsplit
      rw [hsplit] at hline ⊢
      exact getlines_last hline hs
    | cons c rest =>
      rw [hrest, stops_cons] at hstop
      have hc : c = '\n' := by simpa using hstop
      rw [hrest, hc] at hsplit
      nth_rewrite 1 [← hsplit]
      exact getlines_line hline rest

end CText
