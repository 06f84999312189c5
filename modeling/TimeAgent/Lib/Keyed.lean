/-
Text made of lines that start with a key and go on with numbers: the text behind a key, as a search
from line to line finds it and as splitting the text finds it, and the numbers read there. Both are
followed through a cut of the text at any place.
-/
import TimeAgent.Lib.Numeral

namespace CKeyed

open CText CNum

/-! ## Behind a key -/

/-- What follows `key` on the first line that starts with it, up to the end of the text. -/
def afterKey (key s : Str) : Option Str :=
  if key <+: s then some (s.drop key.length)
  else
    match _hrest : s.dropWhile (· ≠ '\n') with
    | [] => none
    | _ :: rest => afterKey key rest
termination_by s.length
decreasing_by
  have := (List.dropWhile_suffix (p := (· ≠ '\n')) (l := s)).length_le
  rw [_hrest, List.length_cons] at this
  omega

/-- What follows `key` on the first line that starts with it, up to the end of that line. -/
def lineRest (key s : Str) : Option Str :=
  ((s.splitOn '\n').find? fun line => key.isPrefixOf line).map (List.drop key.length)

theorem takeWhile_newline_free (s : Str) : '\n' ∉ s.takeWhile (· ≠ '\n') :=
  fun h => by simpa using List.mem_takeWhile_imp h

/-- A text is a line, or a line and more text behind a newline. -/
theorem line_cases (s : Str) :
    ('\n' ∉ s ∧ s.dropWhile (· ≠ '\n') = []) ∨
      ∃ line rest, '\n' ∉ line ∧ s = line ++ '\n' :: rest ∧ s.dropWhile (· ≠ '\n') = '\n' :: rest ∧
        s.takeWhile (· ≠ '\n') = line := by
  have hsplit := List.takeWhile_append_dropWhile (p := (· ≠ '\n')) (l := s)
  have hfree := takeWhile_newline_free s
  cases hrest : s.dropWhile (· ≠ '\n') with
  | nil =>
    rw [hrest, List.append_nil] at hsplit
    rw [hsplit] at hfree
    exact .inl ⟨hfree, rfl⟩
  | cons c rest =>
    have hstop := stops_dropWhile (· ≠ '\n') s
    rw [hrest, stops_cons] at hstop
    have hc : c = '\n' := by simpa using hstop
    rw [hrest, hc] at hsplit
    exact .inr ⟨_, rest, hfree, hsplit.symm, by rw [hc], rfl⟩

theorem dropWhile_newline {line : Str} (h : '\n' ∉ line) (rest : Str) :
    (line ++ '\n' :: rest).dropWhile (· ≠ '\n') = '\n' :: rest :=
  dropWhile_run (fun c hc => by simpa using fun e : c = '\n' => h (e ▸ hc)) (by simp)

theorem dropWhile_line {line : Str} (h : '\n' ∉ line) : line.dropWhile (· ≠ '\n') = [] :=
  dropWhile_all fun c hc => by simpa using fun e : c = '\n' => h (e ▸ hc)

theorem afterKey_eq_drop {key s : Str} (h : key <+: s) : afterKey key s = some (s.drop key.length) := by
  rw [afterKey, if_pos h]

theorem afterKey_line {key line : Str} (hline : '\n' ∉ line) (h : ¬ key <+: line) : afterKey key line = none := by
  rw [afterKey, if_neg h]
  split
  · rfl
  · rename_i heq
    rw [dropWhile_line hline] at heq
    cases heq

theorem afterKey_next {key line rest : Str} (hline : '\n' ∉ line) (h : ¬ key <+: line ++ '\n' :: rest) :
    afterKey key (line ++ '\n' :: rest) = afterKey key rest := by
  rw [afterKey, if_neg h]
  split
  · rename_i heq
    rw [dropWhile_newline hline] at heq
    cases heq
  · rename_i heq
    rw [dropWhile_newline hline] at heq
    cases heq
    rfl

theorem afterKey_nil {key : Str} (hne : key ≠ []) : afterKey key [] = none :=
  afterKey_line (by simp) (by simpa using hne)

/-- Line by line: an induction over the text. -/
theorem line_induction {P : Str → Prop} (last : ∀ s, '\n' ∉ s → P s)
    (next : ∀ line rest, '\n' ∉ line → P rest → P (line ++ '\n' :: rest)) (s : Str) : P s := by
  induction hn : s.length using Nat.strong_induction_on generalizing s with
  | _ n ih =>
    rcases line_cases s with ⟨hfree, _⟩ | ⟨line, rest, hline, rfl, _, _⟩
    · exact last s hfree
    · refine next line rest hline (ih rest.length ?_ rest rfl)
      rw [← hn, List.length_append, List.length_cons]
      omega

/-- A key without a newline is in front of a text when it is in front of its first line. -/
theorem prefix_line_iff {key line : Str} (hk : '\n' ∉ key) (rest : Str) :
    key <+: line ++ '\n' :: rest ↔ key <+: line := by
  constructor
  · intro h
    by_contra hno
    exact not_prefix_append hk hno h
  · intro h
    exact h.trans (List.prefix_append _ _)

theorem afterKey_suffix {key s rest : Str} (h : afterKey key s = some rest) : rest <:+ s := by
  induction s using line_induction with
  | last s hfree =>
    by_cases hp : key <+: s
    · rw [afterKey_eq_drop hp] at h
      cases h
      exact List.drop_suffix _ _
    · rw [afterKey_line hfree hp] at h
      cases h
  | next line more hline ih =>
    by_cases hp : key <+: line ++ '\n' :: more
    · rw [afterKey_eq_drop hp] at h
      cases h
      exact List.drop_suffix _ _
    · rw [afterKey_next hline hp] at h
      exact ((ih h).trans (List.suffix_cons _ _)).trans (List.suffix_append _ _)

/-! ## By splitting -/

theorem takeWhile_line {line : Str} (h : '\n' ∉ line) : line.takeWhile (· ≠ '\n') = line :=
  takeWhile_all fun c hc => by simpa using fun e : c = '\n' => h (e ▸ hc)

theorem takeWhile_newline {line : Str} (h : '\n' ∉ line) (rest : Str) :
    (line ++ '\n' :: rest).takeWhile (· ≠ '\n') = line :=
  takeWhile_run (fun c hc => by simpa using fun e : c = '\n' => h (e ▸ hc)) (by simp)

/-- Splitting finds the line that the search finds. -/
theorem lineRest_eq {key : Str} (hk : '\n' ∉ key) (s : Str) :
    lineRest key s = (afterKey key s).map (List.takeWhile (· ≠ '\n')) := by
  unfold lineRest
  induction s using line_induction with
  | last s hfree =>
    rw [List.splitOn_eq_singleton hfree]
    by_cases hp : key <+: s
    · have hdrop : '\n' ∉ s.drop key.length := fun h => hfree (List.mem_of_mem_drop h)
      rw [afterKey_eq_drop hp, Option.map_some, takeWhile_line hdrop]
      simp [hp]
    · rw [afterKey_line hfree hp]
      simp [hp]
  | next line rest hline ih =>
    rw [List.splitOn_append_cons_self_of_not_mem hline]
    by_cases hp : key <+: line
    · obtain ⟨more, rfl⟩ := hp
      have hmore : '\n' ∉ more := fun h => hline (List.mem_append_right _ h)
      rw [afterKey_eq_drop (by rw [List.append_assoc]; exact List.prefix_append _ _), Option.map_some,
        List.append_assoc, List.drop_left, takeWhile_newline hmore]
      simp
    · have hp' : ¬ key <+: line ++ '\n' :: rest := fun h => hp ((prefix_line_iff hk rest).1 h)
      rw [afterKey_next hline hp', ← ih, List.find?_cons_of_neg (by simpa using hp)]

/-! ## Numbers behind a key -/

/-- Drops spaces and takes one number below `2 ^ 64`: the number and what follows it. -/
def number (s : Str) : Option (UInt64 × Str) :=
  let s := s.dropWhile (· = ' ')
  let ds := s.takeWhile Char.isDigit
  if ds ≠ [] ∧ decVal ds < 2 ^ 64 then some (UInt64.ofNat (decVal ds), s.dropWhile Char.isDigit) else none

/-- `n` numbers in a row. -/
def numbers : Nat → Str → Option (List UInt64)
  | 0, _ => some []
  | n + 1, s =>
    match number s with
    | none => none
    | some (v, rest) => (numbers n rest).map (v :: ·)

/-- A text as the scan for a number sees it: spaces, digits, and the rest. -/
theorem number_cases (s : Str) :
    ∃ pad ds rest, s = pad ++ (ds ++ rest) ∧ (∀ c ∈ pad, c = ' ') ∧ (∀ c ∈ ds, c.isDigit = true) ∧
      Stops Char.isDigit rest ∧ (ds = [] → Stops (· = ' ') rest) := by
  refine ⟨s.takeWhile (· = ' '), (s.dropWhile (· = ' ')).takeWhile Char.isDigit,
    (s.dropWhile (· = ' ')).dropWhile Char.isDigit, ?_, ?_, ?_, stops_dropWhile _ _, ?_⟩
  · rw [List.takeWhile_append_dropWhile, List.takeWhile_append_dropWhile]
  · intro c hc
    simpa using List.mem_takeWhile_imp hc
  · intro c hc
    exact List.mem_takeWhile_imp hc
  · intro hnil
    have hstop := stops_dropWhile (· = ' ') s
    have hsplit := List.takeWhile_append_dropWhile (p := Char.isDigit) (l := s.dropWhile (· = ' '))
    rw [hnil, List.nil_append] at hsplit
    rw [hsplit]
    exact hstop

section Pieces

variable {pad ds rest : Str} (hpad : ∀ c ∈ pad, c = ' ') (hds : ∀ c ∈ ds, c.isDigit = true)
  (hrest : Stops Char.isDigit rest) (hnil : ds = [] → Stops (· = ' ') rest)

include hpad hds hnil

theorem dropWhile_pad : (pad ++ (ds ++ rest)).dropWhile (· = ' ') = ds ++ rest := by
  refine dropWhile_run (fun c hc => by simpa using hpad c hc) ?_
  cases ds with
  | nil => exact hnil rfl
  | cons d ds =>
    rw [List.cons_append, stops_cons]
    simpa using digit_ne (hds d List.mem_cons_self) ' ' rfl

include hrest

theorem number_eq :
    number (pad ++ (ds ++ rest)) =
      if ds ≠ [] ∧ decVal ds < 2 ^ 64 then some (UInt64.ofNat (decVal ds), rest) else none := by
  unfold number
  rw [dropWhile_pad hpad hds hnil]
  dsimp only
  rw [takeWhile_run hds hrest, dropWhile_run hds hrest]

end Pieces

/-! ## Within a line -/

theorem stops_takeWhile {p q : Char → Bool} {s : Str} (h : Stops p s) : Stops p (s.takeWhile q) := by
  cases s with
  | nil => simp
  | cons c s =>
    rw [stops_cons] at h
    rw [List.takeWhile_cons]
    split
    · simpa using h
    · simp

/-- A number does not reach into the next line. -/
theorem number_line (s : Str) :
    number (s.takeWhile (· ≠ '\n')) = (number s).map fun (v, rest) => (v, rest.takeWhile (· ≠ '\n')) := by
  obtain ⟨pad, ds, rest, rfl, hpad, hds, hrest, hnil⟩ := number_cases s
  have hline : (pad ++ (ds ++ rest)).takeWhile (· ≠ '\n') = pad ++ (ds ++ rest.takeWhile (· ≠ '\n')) := by
    rw [List.takeWhile_append_of_pos fun c hc => by simp [hpad c hc],
      List.takeWhile_append_of_pos fun c hc => by simpa using digit_ne (hds c hc) '\n' rfl]
  rw [hline, number_eq hpad hds hrest hnil,
    number_eq hpad hds (stops_takeWhile hrest) fun h => stops_takeWhile (hnil h)]
  split <;> rfl

theorem numbers_line (n : Nat) (s : Str) : numbers n (s.takeWhile (· ≠ '\n')) = numbers n s := by
  induction n generalizing s with
  | zero => rfl
  | succ n ih =>
    rw [numbers, numbers, number_line]
    cases number s with
    | none => rfl
    | some p =>
      obtain ⟨v, rest⟩ := p
      show (numbers n (rest.takeWhile (· ≠ '\n'))).map _ = (numbers n rest).map _
      rw [ih]

/-! ## A cut -/

/-- The front of a text with numbers in a row: those before the last one, the place where the last
one's digits start, and those digits. -/
structure Front where
  before : List UInt64
  place : Nat
  digits : Str

def Front.numbers (f : Front) : Option (List UInt64) :=
  if decVal f.digits < 2 ^ 64 then some (f.before ++ [UInt64.ofNat (decVal f.digits)]) else none

def Front.push (v : UInt64) (offset : Nat) (f : Front) : Front :=
  { f with before := v :: f.before, place := offset + f.place }

/-- What a cut of the text at `k` leaves of its front. -/
def Front.cut (k : Nat) (f : Front) : Option Front :=
  if f.place < k then some { f with digits := f.digits.take (k - f.place) } else none

/-- `none` when a number before the last of `n + 1` is missing or out of range, or the last one has
no digit. -/
def front : Nat → Str → Option Front
  | 0, s =>
    let ds := (s.dropWhile (· = ' ')).takeWhile Char.isDigit
    if ds = [] then none else some ⟨[], (s.takeWhile (· = ' ')).length, ds⟩
  | n + 1, s =>
    match number s with
    | none => none
    | some (v, rest) => (front n rest).map (Front.push v (s.length - rest.length))

theorem Front.numbers_push (v : UInt64) (offset : Nat) (f : Front) :
    (f.push v offset).numbers = f.numbers.map (v :: ·) := by
  unfold Front.numbers Front.push
  dsimp only
  split <;> rfl

theorem Front.cut_push (v : UInt64) (offset k : Nat) (f : Front) (h : offset ≤ k) :
    (f.push v offset).cut k = (f.cut (k - offset)).map (Front.push v offset) := by
  unfold Front.cut Front.push
  dsimp only
  by_cases hlt : f.place < k - offset
  · rw [if_pos hlt, if_pos (by omega), Nat.sub_sub]
    rfl
  · rw [if_neg hlt, if_neg (by omega)]
    rfl

theorem numbers_eq_front (n : Nat) (s : Str) : numbers (n + 1) s = (front n s).bind Front.numbers := by
  induction n generalizing s with
  | zero =>
    unfold numbers front number
    dsimp only
    by_cases hds : (s.dropWhile (· = ' ')).takeWhile Char.isDigit = []
    · rw [if_neg (fun h => h.1 hds), if_pos hds]
      rfl
    · rw [if_neg hds, Option.bind_some, Front.numbers]
      by_cases hlt : decVal ((s.dropWhile (· = ' ')).takeWhile Char.isDigit) < 2 ^ 64
      · rw [if_pos ⟨hds, hlt⟩, if_pos hlt]
        rfl
      · rw [if_neg (fun h => hlt h.2), if_neg hlt]
  | succ n ih =>
    rw [numbers, front]
    cases number s with
    | none => rfl
    | some p =>
      obtain ⟨v, rest⟩ := p
      dsimp only
      rw [ih]
      cases front n rest with
      | none => rfl
      | some f =>
        rw [Option.map_some, Option.bind_some, Option.bind_some, f.numbers_push]

theorem stops_take {p : Char → Bool} {s : Str} (h : Stops p s) (k : Nat) : Stops p (s.take k) := by
  intro c hc
  rw [List.head?_take] at hc
  split at hc
  · cases hc
  · exact h c hc

theorem take_pieces (pad ds rest : Str) (k : Nat) :
    (pad ++ (ds ++ rest)).take k =
      pad.take k ++ (ds.take (k - pad.length) ++ rest.take (k - (pad.length + ds.length))) := by
  rw [List.take_append, List.take_append, Nat.sub_sub]

/-- What the cut text looks like to the scan for a number. -/
theorem number_cases_take {pad ds rest : Str} (hpad : ∀ c ∈ pad, c = ' ') (hds : ∀ c ∈ ds, c.isDigit = true)
    (hrest : Stops Char.isDigit rest) (hnil : ds = [] → Stops (· = ' ') rest) (k : Nat) :
    (∀ c ∈ pad.take k, c = ' ') ∧ (∀ c ∈ ds.take (k - pad.length), c.isDigit = true) ∧
      Stops Char.isDigit (rest.take (k - (pad.length + ds.length))) ∧
      (ds.take (k - pad.length) = [] → Stops (· = ' ') (rest.take (k - (pad.length + ds.length)))) := by
  refine ⟨fun c hc => hpad c (List.mem_of_mem_take hc), fun c hc => hds c (List.mem_of_mem_take hc),
    stops_take hrest _, fun he => ?_⟩
  rcases List.take_eq_nil_iff.1 he with hz | hz
  · rw [show k - (pad.length + ds.length) = 0 by omega]
    simp
  · exact stops_take (hnil hz) _

/-- A number that ends in front of the cut is read as without the cut. -/
theorem number_take_whole {s rest : Str} {v : UInt64} (h : number s = some (v, rest)) {k : Nat}
    (hk : s.length - rest.length ≤ k) :
    number (s.take k) = some (v, rest.take (k - (s.length - rest.length))) := by
  obtain ⟨pad, ds, rest', rfl, hpad, hds, hrest, hnil⟩ := number_cases s
  obtain ⟨hpad', hds', hrest', hnil'⟩ := number_cases_take hpad hds hrest hnil k
  rw [number_eq hpad hds hrest hnil] at h
  split at h
  · rename_i hok
    cases h
    have hlen : (pad ++ (ds ++ rest)).length - rest.length = pad.length + ds.length := by
      simp only [List.length_append]
      omega
    have hall : ds.take (k - pad.length) = ds := List.take_of_length_le (by omega)
    rw [take_pieces, number_eq hpad' hds' hrest' hnil', hall, if_pos hok, hlen]
  · cases h

/-- A number that the cut reaches leaves nothing behind it. -/
theorem number_take_cut {s : Str} {k : Nat} (h : ∀ v rest, number s = some (v, rest) → k < s.length - rest.length)
    {v : UInt64} {rest : Str} (hcut : number (s.take k) = some (v, rest)) : rest = [] := by
  obtain ⟨pad, ds, more, rfl, hpad, hds, hrest, hnil⟩ := number_cases s
  obtain ⟨hpad', hds', hrest', hnil'⟩ := number_cases_take hpad hds hrest hnil k
  rw [take_pieces, number_eq hpad' hds' hrest' hnil'] at hcut
  split at hcut
  · rename_i hok
    cases hcut
    by_cases hk : k ≤ pad.length + ds.length
    · rw [Nat.sub_eq_zero_of_le hk, List.take_zero]
    · -- the digits are all there, so the number itself ends in front of the cut
      have hall : ds.take (k - pad.length) = ds := List.take_of_length_le (by omega)
      rw [hall] at hok
      have hlt := h _ _ (by rw [number_eq hpad hds hrest hnil, if_pos hok])
      simp only [List.length_append] at hlt
      omega
  · cases hcut

theorem front_nil (n : Nat) : front n [] = none := by
  cases n <;> rfl

theorem front_zero_eq {pad ds rest : Str} (hpad : ∀ c ∈ pad, c = ' ') (hds : ∀ c ∈ ds, c.isDigit = true)
    (hrest : Stops Char.isDigit rest) (hnil : ds = [] → Stops (· = ' ') rest) :
    front 0 (pad ++ (ds ++ rest)) = if ds = [] then none else some ⟨[], pad.length, ds⟩ := by
  have hsplit := List.takeWhile_append_dropWhile (p := (· = ' ')) (l := pad ++ (ds ++ rest))
  rw [dropWhile_pad hpad hds hnil] at hsplit
  have htake : (pad ++ (ds ++ rest)).takeWhile (· = ' ') = pad := List.append_cancel_right hsplit
  unfold front
  rw [dropWhile_pad hpad hds hnil, htake]
  dsimp only
  rw [takeWhile_run hds hrest]

/-- Of the last number, a cut leaves the digits in front of it. -/
theorem front_take (n : Nat) (s : Str) (k : Nat) : front n (s.take k) = (front n s).bind (Front.cut k) := by
  induction n generalizing s k with
  | zero =>
    obtain ⟨pad, ds, rest, rfl, hpad, hds, hrest, hnil⟩ := number_cases s
    obtain ⟨hpad', hds', hrest', hnil'⟩ := number_cases_take hpad hds hrest hnil k
    rw [take_pieces, front_zero_eq hpad' hds' hrest' hnil', front_zero_eq hpad hds hrest hnil]
    by_cases hne : ds = []
    · rw [if_pos (by rw [hne, List.take_nil]), if_pos hne]
      rfl
    · rw [if_neg hne, Option.bind_some, Front.cut]
      dsimp only
      by_cases hlt : pad.length < k
      · rw [if_pos hlt, if_neg, List.take_of_length_le (by omega : pad.length ≤ k)]
        rw [List.take_eq_nil_iff]
        rintro (h | h)
        · omega
        · exact hne h
      · rw [if_neg hlt, if_pos]
        rw [List.take_eq_nil_iff]
        exact .inl (by omega)
  | succ n ih =>
    rw [front, front]
    by_cases hwhole : ∃ v rest, number s = some (v, rest) ∧ s.length - rest.length ≤ k
    · obtain ⟨v, rest, hnum, hk⟩ := hwhole
      rw [number_take_whole hnum hk, hnum]
      dsimp only
      have hlen : (s.take k).length - (rest.take (k - (s.length - rest.length))).length =
          s.length - rest.length := by
        rw [List.length_take, List.length_take]
        omega
      rw [ih, hlen]
      cases front n rest with
      | none => rfl
      | some f => rw [Option.map_some, Option.bind_some, Option.bind_some, f.cut_push v _ k hk]
    · -- the cut reaches a number before the last one, or that number is none at all
      have hleft : (match number (s.take k) with
          | none => none
          | some (v, rest) => (front n rest).map (Front.push v ((s.take k).length - rest.length))) = none := by
        cases hcut : number (s.take k) with
        | none => rfl
        | some p =>
          obtain ⟨v, rest⟩ := p
          have hrest : rest = [] := by
            refine number_take_cut (fun v rest h => ?_) hcut
            by_contra hle
            exact hwhole ⟨v, rest, h, by omega⟩
          dsimp only
          rw [hrest, front_nil]
          rfl
      rw [hleft]
      cases hnum : number s with
      | none => rfl
      | some p =>
        obtain ⟨v, rest⟩ := p
        have hlt : k < s.length - rest.length := by
          by_contra hle
          exact hwhole ⟨v, rest, hnum, by omega⟩
        dsimp only
        cases front n rest with
        | none => rfl
        | some f =>
          rw [Option.map_some, Option.bind_some, Front.cut, if_neg]
          unfold Front.push
          dsimp only
          omega

theorem afterKey_append (key rest : Str) : afterKey key (key ++ rest) = some rest := by
  rw [afterKey_eq_drop (List.prefix_append _ _), List.drop_left]

theorem afterKey_take_key {key : Str} (hk : '\n' ∉ key) (rest : Str) (k : Nat) :
    afterKey key ((key ++ rest).take k) = if key.length ≤ k then some (rest.take (k - key.length)) else none := by
  rw [List.take_append]
  by_cases hle : key.length ≤ k
  · rw [if_pos hle, List.take_of_length_le hle, afterKey_append]
  · rw [if_neg hle, show k - key.length = 0 by omega, List.take_zero, List.append_nil]
    refine afterKey_line (fun h => hk (List.mem_of_mem_take h)) fun h => ?_
    have := h.length_le
    rw [List.length_take] at this
    omega

/-- The search in a cut text finds the same line, if the key lies in front of the cut. -/
theorem afterKey_take {key : Str} (hk : '\n' ∉ key) (s : Str) (k : Nat) :
    afterKey key (s.take k) = (afterKey key s).bind fun rest =>
      if s.length - rest.length ≤ k then some (rest.take (k - (s.length - rest.length))) else none := by
  induction s using line_induction generalizing k with
  | last s hfree =>
    by_cases hp : key <+: s
    · obtain ⟨rest, rfl⟩ := hp
      rw [afterKey_take_key hk, afterKey_append, Option.bind_some, List.length_append, Nat.add_sub_cancel]
    · have hp' : ¬ key <+: s.take k := fun h => hp (h.trans (List.take_prefix _ _))
      rw [afterKey_line (fun h => hfree (List.mem_of_mem_take h)) hp', afterKey_line hfree hp]
      rfl
  | next line more hline ih =>
    by_cases hp : key <+: line ++ '\n' :: more
    · obtain ⟨rest, hrest⟩ := hp
      rw [← hrest, afterKey_take_key hk, afterKey_append, Option.bind_some, List.length_append, Nat.add_sub_cancel]
    · have hp' : ¬ key <+: (line ++ '\n' :: more).take k := fun h => hp (h.trans (List.take_prefix _ _))
      rw [afterKey_next hline hp]
      by_cases hcut : k ≤ line.length
      · -- the cut is in the first line, which has not the key
        rw [List.take_append, show k - line.length = 0 by omega, List.take_zero, List.append_nil] at hp' ⊢
        rw [afterKey_line (fun h => hline (List.mem_of_mem_take h)) hp']
        cases hmore : afterKey key more with
        | none => rfl
        | some rest =>
          have hle := (afterKey_suffix hmore).length_le
          rw [Option.bind_some, if_neg]
          rw [List.length_append, List.length_cons]
          omega
      · have htake : (line ++ '\n' :: more).take k = line ++ '\n' :: more.take (k - (line.length + 1)) := by
          rw [List.take_append, List.take_of_length_le (by omega),
            show k - line.length = k - (line.length + 1) + 1 by omega, List.take_succ_cons]
        rw [htake] at hp' ⊢
        rw [afterKey_next hline hp', ih]
        cases hmore : afterKey key more with
        | none => rfl
        | some rest =>
          have hle := (afterKey_suffix hmore).length_le
          have hplace : (line ++ '\n' :: more).length - rest.length =
              line.length + 1 + (more.length - rest.length) := by
            rw [List.length_append, List.length_cons]
            omega
          rw [Option.bind_some, Option.bind_some, hplace, Nat.sub_sub]
          by_cases hle : more.length - rest.length ≤ k - (line.length + 1)
          · rw [if_pos hle, if_pos (by omega)]
          · rw [if_neg hle, if_neg (by omega)]

/-! ## Numbers behind a key in a cut text -/

/-- `n` numbers in a row behind `key`. -/
def numbersBehind (n : Nat) (key s : Str) : Option (List UInt64) := (afterKey key s).bind (numbers n)

/-- The front of the `n + 1` numbers behind `key`, its place counted from the start of the text. -/
def frontBehind (n : Nat) (key s : Str) : Option Front :=
  (afterKey key s).bind fun rest =>
    (front n rest).map fun f => { f with place := s.length - rest.length + f.place }

theorem numbersBehind_eq (n : Nat) (key s : Str) :
    numbersBehind (n + 1) key s = (frontBehind n key s).bind Front.numbers := by
  unfold numbersBehind frontBehind
  cases afterKey key s with
  | none => rfl
  | some rest =>
    rw [Option.bind_some, Option.bind_some, numbers_eq_front]
    cases front n rest <;> rfl

theorem frontBehind_take {key : Str} (hk : '\n' ∉ key) (n : Nat) (s : Str) (k : Nat) :
    frontBehind n key (s.take k) = (frontBehind n key s).bind (Front.cut k) := by
  unfold frontBehind
  rw [afterKey_take hk]
  cases hs : afterKey key s with
  | none => rfl
  | some rest =>
    have hle := (afterKey_suffix hs).length_le
    rw [Option.bind_some, Option.bind_some]
    -- a key that reaches over the cut is not found, and neither is what is behind it
    by_cases hk : s.length - rest.length ≤ k
    · have hlen : (s.take k).length - (rest.take (k - (s.length - rest.length))).length =
          s.length - rest.length := by
        rw [List.length_take, List.length_take]
        omega
      rw [if_pos hk, Option.bind_some, front_take, hlen]
      cases front n rest with
      | none => rfl
      | some f =>
        rw [Option.bind_some, Option.map_some, Option.bind_some]
        unfold Front.cut
        dsimp only
        by_cases hlt : f.place < k - (s.length - rest.length)
        · rw [if_pos hlt, if_pos (by omega), Nat.sub_sub]
          rfl
        · rw [if_neg hlt, if_neg (by omega)]
          rfl
    · rw [if_neg hk]
      cases front n rest with
      | none => rfl
      | some f =>
        rw [Option.map_some, Option.bind_some, Front.cut, if_neg (by dsimp only; omega)]
        rfl

/-! ## What a cut changes -/

theorem front_digits_ne {n : Nat} {s : Str} {f : Front} (h : front n s = some f) : f.digits ≠ [] := by
  induction n generalizing s f with
  | zero =>
    unfold front at h
    dsimp only at h
    split at h
    · cases h
    · rename_i hne
      cases h
      exact hne
  | succ n ih =>
    rw [front] at h
    split at h
    · cases h
    · obtain ⟨g, hg, rfl⟩ := Option.map_eq_some_iff.1 h
      have hne : g.digits ≠ [] := ih hg
      exact hne

theorem frontBehind_digits_ne {n : Nat} {key s : Str} {f : Front} (h : frontBehind n key s = some f) :
    f.digits ≠ [] := by
  unfold frontBehind at h
  obtain ⟨rest, _, h⟩ := Option.bind_eq_some_iff.1 h
  obtain ⟨g, hg, rfl⟩ := Option.map_eq_some_iff.1 h
  have hne : g.digits ≠ [] := front_digits_ne hg
  exact hne

/-- The last number ends in front of the cut. -/
def Front.Within (k : Nat) (f : Front) : Prop := f.place + f.digits.length ≤ k

instance (k : Nat) (f : Front) : Decidable (f.Within k) := inferInstanceAs (Decidable (_ ≤ _))

theorem Front.cut_within {k : Nat} {f : Front} (h : f.Within k) (hne : f.digits ≠ []) : f.cut k = some f := by
  have hpos := List.length_pos_iff.2 hne
  unfold Front.Within at h
  rw [Front.cut, if_pos (by omega), List.take_of_length_le (by omega)]

theorem ofNat_inj {a b : Nat} (ha : a < 2 ^ 64) (hb : b < 2 ^ 64) : UInt64.ofNat a = UInt64.ofNat b ↔ a = b := by
  constructor
  · intro h
    have := congrArg UInt64.toNat h
    rwa [UInt64.toNat_ofNat_of_lt' ha, UInt64.toNat_ofNat_of_lt' hb] at this
  · rintro rfl
    rfl

/-- The numbers are the same after the cut exactly when the last one ends in front of it, or is out
of range on both sides of it, or is a 0 that the cut shortens. -/
theorem Front.numbers_cut_iff {k : Nat} {f : Front} (hne : f.digits ≠ []) :
    (f.cut k).bind Front.numbers = f.numbers ↔
      f.Within k ∨ (2 ^ 64 ≤ decVal f.digits ∧ (k ≤ f.place ∨ 2 ^ 64 ≤ decVal (f.digits.take (k - f.place)))) ∨
        (decVal f.digits = 0 ∧ f.place < k) := by
  by_cases hin : f.Within k
  · rw [f.cut_within hin hne]
    exact iff_of_true rfl (.inl hin)
  -- the cut falls inside the last number or in front of it
  · have hcut : k - f.place < f.digits.length := by
      have hpos := List.length_pos_iff.2 hne
      unfold Front.Within at hin
      omega
    have hle := decVal_take_le f.digits (k - f.place)
    rw [Front.cut]
    by_cases hplace : f.place < k
    · rw [if_pos hplace, Option.bind_some]
      unfold Front.numbers
      dsimp only
      by_cases hbig : decVal f.digits < 2 ^ 64
      · rw [if_pos (by omega), if_pos hbig, Option.some.injEq, List.append_cancel_left_eq, List.cons.injEq,
          ofNat_inj (by omega) hbig]
        by_cases hzero : decVal f.digits = 0
        · exact iff_of_true ⟨by omega, rfl⟩ (.inr (.inr ⟨hzero, hplace⟩))
        · refine iff_of_false (fun h => ?_) ?_
          -- a number without its last digits is smaller, unless it is 0
          · have := decVal_take_lt hcut (by omega)
            omega
          · rintro (h | h | h)
            · exact hin h
            · omega
            · exact hzero h.1
      · rw [if_neg hbig]
        by_cases hpart : decVal (f.digits.take (k - f.place)) < 2 ^ 64
        · rw [if_pos hpart]
          refine iff_of_false (by simp) ?_
          rintro (h | h | h)
          · exact hin h
          · omega
          · omega
        · rw [if_neg hpart]
          exact iff_of_true rfl (.inr (.inl ⟨by omega, .inr (by omega)⟩))
    · rw [if_neg hplace, Option.bind_none]
      unfold Front.numbers
      by_cases hbig : decVal f.digits < 2 ^ 64
      · rw [if_pos hbig]
        refine iff_of_false (by simp) ?_
        rintro (h | h | h)
        · exact hin h
        · omega
        · exact hplace h.2
      · rw [if_neg hbig]
        exact iff_of_true rfl (.inr (.inl ⟨by omega, .inl (by omega)⟩))

/-- Digits that are read as 0: all zeros or none at all, or a number out of range. -/
def ReadsZero (ds : Str) : Prop := decVal ds = 0 ∨ 2 ^ 64 ≤ decVal ds

instance (ds : Str) : Decidable (ReadsZero ds) := inferInstanceAs (Decidable (_ ∨ _))

/-- What a reader with the default 0 makes of one number. -/
def Front.value (f : Front) : UInt64 :=
  if decVal f.digits < 2 ^ 64 then UInt64.ofNat (decVal f.digits) else 0

/-- One number behind a key, with the default 0. -/
theorem number_value (s : Str) :
    (number s).elim 0 Prod.fst = (front 0 s).elim 0 Front.value := by
  unfold number front
  dsimp only
  by_cases hds : (s.dropWhile (· = ' ')).takeWhile Char.isDigit = []
  · rw [if_neg fun h => h.1 hds, if_pos hds]
    rfl
  · rw [if_neg hds, Option.elim_some, Front.value]
    by_cases hlt : decVal ((s.dropWhile (· = ' ')).takeWhile Char.isDigit) < 2 ^ 64
    · rw [if_pos ⟨hds, hlt⟩, if_pos hlt]
      rfl
    · rw [if_neg fun h => hlt h.2, if_neg hlt]
      rfl

theorem readsZero_iff (ds : Str) : (if decVal ds < 2 ^ 64 then UInt64.ofNat (decVal ds) else 0) = 0 ↔ ReadsZero ds := by
  unfold ReadsZero
  split
  · rename_i hlt
    rw [show (0 : UInt64) = UInt64.ofNat 0 from rfl, ofNat_inj hlt (by decide)]
    omega
  · exact iff_of_true rfl (.inr (by omega))

/-- The value is the same after the cut exactly when the number ends in front of it, or is read as 0
on both sides of it. -/
theorem Front.value_cut_iff {k : Nat} {f : Front} (hne : f.digits ≠ []) :
    (f.cut k).elim 0 Front.value = f.value ↔
      f.Within k ∨ (ReadsZero f.digits ∧ ReadsZero (f.digits.take (k - f.place))) := by
  by_cases hin : f.Within k
  · rw [f.cut_within hin hne]
    exact iff_of_true rfl (.inl hin)
  · have hcut : k - f.place < f.digits.length := by
      have hpos := List.length_pos_iff.2 hne
      unfold Front.Within at hin
      omega
    have hvalue : (f.cut k).elim 0 Front.value =
        if decVal (f.digits.take (k - f.place)) < 2 ^ 64 then
          UInt64.ofNat (decVal (f.digits.take (k - f.place))) else 0 := by
      unfold Front.cut
      by_cases hplace : f.place < k
      · rw [if_pos hplace]
        rfl
      · rw [if_neg hplace, show k - f.place = 0 by omega]
        rfl
    rw [hvalue, Front.value, or_iff_right hin]
    constructor
    · intro h
      -- digits left of a number that is not 0 are not read as the number
      have hpart : ReadsZero (f.digits.take (k - f.place)) := by
        by_contra hnot
        unfold ReadsZero at hnot
        rw [not_or, Nat.not_le] at hnot
        have hlt := decVal_take_lt hcut hnot.1
        rw [if_pos hnot.2] at h
        by_cases hbig : decVal f.digits < 2 ^ 64
        · rw [if_pos hbig, ofNat_inj hnot.2 hbig] at h
          omega
        · rw [if_neg hbig, show (0 : UInt64) = UInt64.ofNat 0 from rfl, ofNat_inj hnot.2 (by decide)] at h
          exact hnot.1 h
      rw [(readsZero_iff _).2 hpart] at h
      exact ⟨(readsZero_iff _).1 h.symm, hpart⟩
    · rintro ⟨hall, hpart⟩
      rw [(readsZero_iff _).2 hall, (readsZero_iff _).2 hpart]

end CKeyed
