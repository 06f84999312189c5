/-
What the pointer scans of `CpuCollector` and `MemoryCollector` read, line by line: a key counts only
at the start of a line, the first such line is taken, and its numbers are those of that line alone,
although the pointer is bounded by the buffer and not by the line.
-/
import TimeAgent.Lib.Keyed
import TimeAgent.Metrics.Cpu
import TimeAgent.Metrics.Memory

namespace TimeAgent

open CText CNum CKeyed

/-! ## The scans as reads of text -/

theorem slice_add (buf : Str) (p n last : Nat) : slice buf (p + n) last = (slice buf p last).drop n := by
  unfold slice
  rw [List.drop_drop]

/-- A key of at most the remaining bytes is compared with the front of those bytes. -/
theorem slice_front {buf key : Str} {p len : Nat} (h : key.length ≤ len - p) :
    slice buf p (p + key.length) = (slice buf p len).take key.length := by
  unfold slice
  rw [List.drop_take, List.drop_take, List.take_take]
  congr 1
  omega

theorem slice_length {buf : Str} {p len : Nat} (h : len ≤ buf.length) : (slice buf p len).length = len - p := by
  unfold slice
  rw [List.length_drop, List.length_take]
  omega

theorem idxOf?_newline {line : Str} (h : '\n' ∉ line) (rest : Str) :
    (line ++ '\n' :: rest).idxOf? '\n' = some line.length := by
  induction line with
  | nil => simp [List.idxOf?_cons]
  | cons c line ih =>
    simp only [List.mem_cons, not_or] at h
    rw [List.cons_append, List.idxOf?_cons, ih h.2]
    simp [Ne.symm h.1]

/-- The comparison at one line start: the key is in front of the remaining bytes. -/
theorem compare_iff {buf key : Str} {p len : Nat} (hlen : len ≤ buf.length) :
    (key.length ≤ len - p ∧ slice buf p (p + key.length) = key) ↔ key <+: slice buf p len := by
  constructor
  · rintro ⟨hle, heq⟩
    rw [slice_front hle] at heq
    exact heq ▸ List.take_prefix _ _
  · intro h
    have hle := h.length_le
    rw [slice_length hlen] at hle
    refine ⟨hle, ?_⟩
    rw [slice_front hle]
    exact (List.prefix_iff_eq_take.1 h).symm

theorem findLinePrefixFrom_eq {buf key : Str} {len : Nat} (hlen : len ≤ buf.length) (hne : key ≠ []) (p : Nat) :
    (findLinePrefixFrom buf len key p).map (slice buf · len) = afterKey key (slice buf p len) := by
  fun_induction findLinePrefixFrom buf len key p with
  | case1 p hp remaining hkey =>
    have hprefix := (compare_iff hlen).1 hkey
    rw [Option.map_some, slice_add, afterKey_eq_drop hprefix]
  | case2 p hp remaining hkey hnl =>
    have hprefix : ¬ key <+: slice buf p len := fun h => hkey ((compare_iff hlen).2 h)
    rw [show p + remaining = len by omega, List.idxOf?_eq_none_iff] at hnl
    rw [afterKey_line hnl hprefix]
    rfl
  | case3 p hp remaining hkey nl hnl ih =>
    have hprefix : ¬ key <+: slice buf p len := fun h => hkey ((compare_iff hlen).2 h)
    rw [show p + remaining = len by omega] at hnl
    rw [ih, Nat.add_assoc, slice_add]
    -- the pointer moves behind the newline, the line scan to the next line
    rcases line_cases (slice buf p len) with ⟨hfree, _⟩ | ⟨line, rest, hline, heq, _, _⟩
    · rw [List.idxOf?_eq_none_iff.2 hfree] at hnl
      cases hnl
    · rw [heq] at hnl hprefix ⊢
      rw [idxOf?_newline hline] at hnl
      cases hnl
      rw [afterKey_next hline hprefix]
      congr 1
      rw [← List.drop_drop, List.drop_left]
      rfl
  | case4 p hp =>
    have hempty : slice buf p len = [] := List.length_eq_zero_iff.1 (by rw [slice_length hlen]; omega)
    rw [hempty, afterKey_nil hne]
    rfl

/-- The pointer search finds the text behind the key. -/
theorem findLinePrefix_eq {buf key : Str} {len : Nat} (hlen : len ≤ buf.length) (hne : key ≠ []) :
    (findLinePrefix buf len key).map (slice buf · len) = afterKey key (buf.take len) :=
  findLinePrefixFrom_eq hlen hne 0

/-- One `parseNext` takes the number of the text it points at, and points behind it. -/
theorem parseNext_spec (buf : Str) (last p : Nat) :
    (parseNext buf last p).2 = (number (slice buf p last)).map Prod.fst ∧
      ∀ v rest, number (slice buf p last) = some (v, rest) → slice buf (parseNext buf last p).1 last = rest := by
  have hpad : slice buf (p + ((slice buf p last).takeWhile (· = ' ')).length) last =
      (slice buf p last).dropWhile (· = ' ') := by
    have hsplit := List.takeWhile_append_dropWhile (p := (· = ' ')) (l := slice buf p last)
    rw [slice_add]
    nth_rewrite 2 [← hsplit]
    exact List.drop_left
  unfold parseNext number
  dsimp only
  rw [hpad]
  -- from here on only the text behind the spaces matters
  generalize p + ((slice buf p last).takeWhile (· = ' ')).length = q at hpad
  generalize (slice buf p last).dropWhile (· = ' ') = s at hpad
  unfold fromCharsU64
  dsimp only
  by_cases hds : s.takeWhile Char.isDigit = []
  · simp [hds]
  · by_cases hlt : decVal (s.takeWhile Char.isDigit) < 2 ^ 64
    · rw [if_neg hds, if_pos hlt, if_pos ⟨hds, hlt⟩]
      refine ⟨rfl, fun v rest h => ?_⟩
      cases h
      -- the pointer stops behind the digits `from_chars` took
      have hdrop := List.suffix_iff_eq_drop.1 (List.dropWhile_suffix (p := Char.isDigit) (l := s))
      dsimp only
      rw [slice_add, hpad, ← hdrop]
    · rw [if_neg hds, if_neg hlt, if_neg fun h => hlt h.2]
      exact ⟨rfl, nofun⟩

/-! ## The columns -/

/-- `n` calls of `parseNext` in a row. -/
def parseRow (buf : Str) (last : Nat) : Nat → Nat → Option (List UInt64)
  | 0, _ => some []
  | n + 1, p =>
    match parseNext buf last p with
    | (p, some v) => (parseRow buf last n p).map (v :: ·)
    | (_, none) => none

theorem parseRow_eq (buf : Str) (last n p : Nat) : parseRow buf last n p = numbers n (slice buf p last) := by
  induction n generalizing p with
  | zero => rfl
  | succ n ih =>
    obtain ⟨hvalue, hrest⟩ := parseNext_spec buf last p
    rw [parseRow, numbers]
    rcases hp : parseNext buf last p with ⟨q, _ | v⟩ <;> rw [hp] at hvalue hrest
    · cases hnum : number (slice buf p last) with
      | none => rfl
      | some w => rw [hnum] at hvalue; cases hvalue
    · cases hnum : number (slice buf p last) with
      | none => rw [hnum] at hvalue; cases hvalue
      | some w =>
        rw [hnum] at hvalue
        cases hvalue
        dsimp only
        rw [ih, hrest _ _ hnum]

/-- Eight numbers as columns. -/
def CpuTimes.ofNumbers : List UInt64 → Option CpuTimes
  | [user, nice, system, idle, iowait, irq, softirq, steal] =>
    some { user, nice, system, idle, iowait, irq, softirq, steal }
  | _ => none

/-- One read, with the place where the next one starts. -/
def nextNumber (buf : Str) (last p : Nat) : Option (Nat × UInt64) :=
  match parseNext buf last p with
  | (p, some v) => some (p, v)
  | (_, none) => none

/-- What is done with a row of reads is done with its first read and the rest of the row. -/
theorem parseRow_bind {α : Type} (buf : Str) (last n p : Nat) (f : List UInt64 → Option α) :
    (parseRow buf last (n + 1) p).bind f =
      (nextNumber buf last p).bind fun r => (parseRow buf last n r.1).bind fun vs => f (r.2 :: vs) := by
  rw [parseRow, nextNumber]
  rcases parseNext buf last p with ⟨q, _ | v⟩
  · rfl
  · dsimp only
    rw [Option.bind_map, Option.bind_some]
    rfl

/-- The short-circuit chain of eight reads is all or nothing. -/
theorem CpuTimes.parse_eq (buf : Str) (last p : Nat) :
    CpuTimes.parse buf last p = (numbers 8 (slice buf p last)).bind CpuTimes.ofNumbers := by
  rw [← parseRow_eq]
  simp only [parseRow_bind]
  rfl

/-! ## Line by line -/

/-- The columns of the first `cpu` line. -/
def CpuTimes.ofLines (data : Str) : Option CpuTimes :=
  (lineRest "cpu ".toList data).bind fun line => (numbers 8 line).bind CpuTimes.ofNumbers

/-- The number on the first line with the key, or the default 0. -/
def counterOfLines (data : Str) (key : String) : UInt64 :=
  match (lineRest key.toList data).bind number with
  | some (v, _) => v
  | none => 0

/-- What a call of `CpuCollector::collect` makes of the bytes it reads, line by line. -/
def CpuCollector.collectLines (c : CpuCollector) (content : Option Str) : Option CpuStats × CpuCollector :=
  match c.read content with
  | none => (none, c)
  | some data =>
    let (usagePercent, prevIdle, prevTotal) :=
      match CpuTimes.ofLines data with
      | some t => (c.usagePercent t, t.idleTime, t.totalTime)
      | none => (0, c.prevIdle, c.prevTotal)
    (some { usagePercent, contextSwitches := counterOfLines data "ctxt ", interrupts := counterOfLines data "intr ",
            softirqs := counterOfLines data "softirq " },
      { c with prevIdle, prevTotal, buf := overwrite c.buf data })

/-- What a call of `MemoryCollector::collect` makes of the bytes it reads, line by line. -/
def MemoryCollector.collectLines (c : MemoryCollector) (content : Option Str) :
    Option MemoryStats × MemoryCollector :=
  match c.read content with
  | none => (none, c)
  | some data =>
    (some { memAvailableKb := counterOfLines data "MemAvailable:", memFreeKb := counterOfLines data "MemFree:",
            swapTotalKb := counterOfLines data "SwapTotal:", swapFreeKb := counterOfLines data "SwapFree:",
            buffersKb := counterOfLines data "Buffers:" },
      { c with buf := overwrite c.buf data })

theorem overwrite_take (buf data : Str) : (overwrite buf data).take data.length = data :=
  List.take_left

theorem le_overwrite_length (buf data : Str) : data.length ≤ (overwrite buf data).length := by
  rw [overwrite, List.length_append]
  omega

/-- What `buf` holds behind the bytes read plays no part in a read behind a key. -/
theorem findLinePrefix_overwrite (buf data : Str) {key : Str} (hne : key ≠ []) :
    (findLinePrefix (overwrite buf data) data.length key).map (slice (overwrite buf data) · data.length) =
      afterKey key data := by
  rw [findLinePrefix_eq (le_overwrite_length buf data) hne, overwrite_take]

theorem cpuLine_eq (buf data : Str) :
    CpuCollector.cpuLine (overwrite buf data) data.length = CpuTimes.ofLines data := by
  have hfind := findLinePrefix_overwrite buf data (show "cpu ".toList ≠ [] by decide)
  unfold CpuCollector.cpuLine CpuTimes.ofLines
  rw [lineRest_eq (by decide), ← hfind]
  cases findLinePrefix (overwrite buf data) data.length "cpu ".toList with
  | none => rfl
  | some p =>
    rw [Option.map_some, Option.map_some, Option.bind_some, numbers_line]
    exact CpuTimes.parse_eq _ _ p

/-- The one read behind a key, by both collectors. -/
theorem parseNext_overwrite (buf data : Str) {key : Str} (hne : key ≠ []) (hk : '\n' ∉ key) :
    (match findLinePrefix (overwrite buf data) data.length key with
      | some p => (parseNext (overwrite buf data) data.length p).2.getD 0
      | none => 0) =
    match (lineRest key data).bind number with
      | some (v, _) => v
      | none => 0 := by
  rw [lineRest_eq hk, ← findLinePrefix_overwrite buf data hne]
  cases findLinePrefix (overwrite buf data) data.length key with
  | none => rfl
  | some p =>
    obtain ⟨hvalue, _⟩ := parseNext_spec (overwrite buf data) data.length p
    dsimp only
    rw [hvalue, Option.map_some, Option.map_some, Option.bind_some, number_line]
    cases number (slice (overwrite buf data) p data.length) <;> rfl

theorem counter_eq (buf data : Str) {key : String} (hne : key.toList ≠ []) (hk : '\n' ∉ key.toList) :
    CpuCollector.counter (overwrite buf data) data.length key = counterOfLines data key :=
  parseNext_overwrite buf data hne hk

theorem readField_eq (buf data : Str) {key : String} (hne : key.toList ≠ []) (hk : '\n' ∉ key.toList) :
    MemoryCollector.readField (overwrite buf data) data.length key = counterOfLines data key :=
  parseNext_overwrite buf data hne hk

theorem CpuCollector.collect_eq_lines (c : CpuCollector) (content : Option Str) :
    c.collect content = c.collectLines content := by
  unfold CpuCollector.collect CpuCollector.collectLines
  cases c.read content with
  | none => rfl
  | some data =>
    dsimp only
    rw [counter_eq _ _ (by decide) (by decide), counter_eq _ _ (by decide) (by decide),
      counter_eq _ _ (by decide) (by decide)]
    have hcolumns := cpuLine_eq c.buf data
    generalize CpuCollector.cpuLine (overwrite c.buf data) data.length = columns at hcolumns ⊢
    subst hcolumns
    cases CpuTimes.ofLines data <;> rfl

theorem MemoryCollector.collect_eq_lines (c : MemoryCollector) (content : Option Str) :
    c.collect content = c.collectLines content := by
  unfold MemoryCollector.collect MemoryCollector.collectLines
  cases c.read content with
  | none => rfl
  | some data =>
    dsimp only
    rw [readField_eq _ _ (by decide) (by decide), readField_eq _ _ (by decide) (by decide),
      readField_eq _ _ (by decide) (by decide), readField_eq _ _ (by decide) (by decide),
      readField_eq _ _ (by decide) (by decide)]

/-- On every buffer and every outcome of the read, both collectors take from the bytes what
splitting them into lines gives. -/
theorem collect_lines (cpu : CpuCollector) (memory : MemoryCollector) (content : Option Str) :
    cpu.collect content = cpu.collectLines content ∧ memory.collect content = memory.collectLines content :=
  ⟨cpu.collect_eq_lines content, memory.collect_eq_lines content⟩

/-- `cpu0` and the `ctxt` inside a line are no keys, and the number of the next line is not taken. -/
example : counterOfLines "cpu0 1\nx ctxt 2\nctxt \n3\n".toList "ctxt " = 0 := by decide +kernel

end TimeAgent
