/-
The two pointer scans with the bytes they look at. The buffer of a collector keeps what an earlier,
longer read has left behind the bytes of this one; no loop looks there, no pointer goes there, and
every loop comes to an end, so what is left there makes no difference.
-/
import TimeAgent.Lib.Access
import TimeAgent.Metrics.Lines

namespace TimeAgent

open CText CNum CMem

/-! ## The scans, access by access -/

/-- The comparison at a line start, made if enough bytes remain. -/
def compareAt (buf : Str) (len : Nat) (needle : Str) (p : Nat) : Run Bool :=
  if needle.length ≤ len - p then memcmp buf p needle else pure false

/-- One pass of the loop of `findLinePrefix`. -/
def findLinePrefixPass (buf : Str) (len : Nat) (needle : Str) (p : Nat) : Run (Pass Nat (Option Nat)) := do
  if p < len then
    let found ← compareAt buf len needle p
    if found then
      point (p + needle.length)
      return .leave (some (p + needle.length))
    else
      match ← memchr buf p '\n' (len - p) with
      | none => return .leave none
      | some nl =>
        point (nl + 1)
        return .again (nl + 1)
  else return .leave none

def findLinePrefixRun (fuel : Nat) (buf : Str) (len : Nat) (needle : Str) : Run (Option Nat) :=
  loop (findLinePrefixPass buf len needle) fuel 0

/-- One pass of the loop of `parseNext`, which skips spaces. -/
def skipSpacesPass (buf : Str) (last p : Nat) : Run (Pass Nat Nat) := do
  if p < last then
    let c ← byteAt buf p
    if c = some ' ' then
      point (p + 1)
      return .again (p + 1)
    else return .leave p
  else return .leave p

def parseNextRun (fuel : Nat) (buf : Str) (last p : Nat) : Run (Nat × Option UInt64) := do
  let p ← loop (skipSpacesPass buf last) fuel p
  let s ← bytes buf p last
  match fromCharsU64 s with
  | .ok (v, rest) =>
    point (p + (s.length - rest.length))
    return (p + (s.length - rest.length), some (UInt64.ofNat v))
  | .error _ =>
    point p
    return (p, none)

/-- `n` calls of `parseNext` in a row, up to the first that fails. -/
def parseRowRun (fuel : Nat) (buf : Str) (last : Nat) : Nat → Nat → Run (Option (List UInt64))
  | 0, _ => return some []
  | n + 1, p => do
    match ← parseNextRun fuel buf last p with
    | (p, some v) =>
      let vs ← parseRowRun fuel buf last n p
      return vs.map (v :: ·)
    | (_, none) => return none

namespace CpuCollector

def cpuLineRun (fuel : Nat) (buf : Str) (len : Nat) : Run (Option CpuTimes) := do
  match ← findLinePrefixRun fuel buf len "cpu ".toList with
  | some p =>
    let vs ← parseRowRun fuel buf len 8 p
    return vs.bind CpuTimes.ofNumbers
  | none => return none

end CpuCollector

/-- The number behind a key, by both collectors. -/
def counterRun (fuel : Nat) (buf : Str) (len : Nat) (key : String) : Run UInt64 := do
  match ← findLinePrefixRun fuel buf len key.toList with
  | some p =>
    let r ← parseNextRun fuel buf len p
    return r.2.getD 0
  | none => return 0

def CpuCollector.collectRun (fuel : Nat) (c : CpuCollector) (content : Option Str) :
    Run (Option CpuStats × CpuCollector) :=
  match c.read content with
  | none => return (none, c)
  | some data => do
    let buf := overwrite c.buf data
    let len := data.length
    let columns ← cpuLineRun fuel buf len
    let (usagePercent, prevIdle, prevTotal) :=
      match columns with
      | some t => (c.usagePercent t, t.idleTime, t.totalTime)
      | none => (0, c.prevIdle, c.prevTotal)
    let contextSwitches ← counterRun fuel buf len "ctxt "
    let interrupts ← counterRun fuel buf len "intr "
    let softirqs ← counterRun fuel buf len "softirq "
    return (some { usagePercent, contextSwitches, interrupts, softirqs }, { c with prevIdle, prevTotal, buf })

def MemoryCollector.collectRun (fuel : Nat) (c : MemoryCollector) (content : Option Str) :
    Run (Option MemoryStats × MemoryCollector) :=
  match c.read content with
  | none => return (none, c)
  | some data => do
    let buf := overwrite c.buf data
    let len := data.length
    let memAvailableKb ← counterRun fuel buf len "MemAvailable:"
    let memFreeKb ← counterRun fuel buf len "MemFree:"
    let swapTotalKb ← counterRun fuel buf len "SwapTotal:"
    let swapFreeKb ← counterRun fuel buf len "SwapFree:"
    let buffersKb ← counterRun fuel buf len "Buffers:"
    return (some { memAvailableKb, memFreeKb, swapTotalKb, swapFreeKb, buffersKb }, { c with buf })

/-! ## Within the bytes read -/

theorem compareAt_returns (buf : Str) {len p : Nat} (needle : Str) (hp : p < len) :
    (compareAt buf len needle p).Returns len
      (decide (needle.length ≤ len - p ∧ slice buf p (p + needle.length) = needle)) := by
  unfold compareAt
  by_cases hle : needle.length ≤ len - p
  · have hcmp : (memcmp buf p needle).Returns len (decide (slice buf p (p + needle.length) = needle)) :=
      returns_memcmp buf (by omega)
    rw [if_pos hle, show decide (needle.length ≤ len - p ∧ slice buf p (p + needle.length) = needle) =
      decide (slice buf p (p + needle.length) = needle) by simp [hle]]
    exact hcmp
  · rw [if_neg hle, decide_eq_false fun h => hle h.1]
    exact returns_pure len false

/-- One pass leaves with what the search from `p` finds, or goes on behind the next newline. -/
theorem findLinePrefixPass_returns (buf : Str) (len : Nat) (needle : Str) (p : Nat) :
    (findLinePrefixPass buf len needle p).Returns len (.leave (findLinePrefixFrom buf len needle p)) ∨
      ∃ p', (findLinePrefixPass buf len needle p).Returns len (.again p') ∧ len - p' < len - p ∧
        findLinePrefixFrom buf len needle p' = findLinePrefixFrom buf len needle p := by
  rw [findLinePrefixFrom]
  unfold findLinePrefixPass
  by_cases hp : p < len
  · have hfound := compareAt_returns buf needle hp
    rw [if_pos hp, if_pos hp]
    dsimp only
    by_cases hkey : needle.length ≤ len - p ∧ slice buf p (p + needle.length) = needle
    · rw [if_pos hkey]
      rw [decide_eq_true hkey] at hfound
      have hpoint : (point (p + needle.length)).Returns len () := returns_point (by omega)
      exact .inl (hfound.bind (hpoint.bind (returns_pure len _)))
    · rw [if_neg hkey]
      rw [decide_eq_false hkey] at hfound
      have hchr : (memchr buf p '\n' (len - p)).Returns len
          (((slice buf p (p + (len - p))).idxOf? '\n').map (p + ·)) := returns_memchr buf '\n' (by omega)
      cases hnl : (slice buf p (p + (len - p))).idxOf? '\n' with
      | none =>
        rw [hnl] at hchr
        exact .inl (hfound.bind (hchr.bind (returns_pure len _)))
      | some nl =>
        rw [hnl] at hchr
        have hlt : nl < len - p := by
          obtain ⟨hlt, _⟩ := List.idxOf?_eq_some_iff.1 hnl
          unfold slice at hlt
          rw [List.length_drop, List.length_take] at hlt
          omega
        have hpoint : (point (p + nl + 1)).Returns len () := returns_point (by omega)
        exact .inr ⟨p + nl + 1, hfound.bind (hchr.bind (hpoint.bind (returns_pure len _))), by omega, rfl⟩
  · rw [if_neg hp, if_neg hp]
    exact .inl (returns_pure len _)

theorem findLinePrefixRun_returns (buf : Str) {len fuel : Nat} (needle : Str) (hfuel : len < fuel) :
    (findLinePrefixRun fuel buf len needle).Returns len (findLinePrefix buf len needle) :=
  returns_loop (fun p => len - p) (findLinePrefixFrom buf len needle) (findLinePrefixPass_returns buf len needle)
    (by omega)

theorem slice_length_le (buf : Str) (p last : Nat) : (slice buf p last).length ≤ last - p := by
  unfold slice
  rw [List.length_drop, List.length_take]
  omega

theorem slice_head (buf : Str) {p last : Nat} (hp : p < last) :
    slice buf p last = buf[p]?.toList ++ slice buf (p + 1) last := by
  unfold slice
  rw [List.drop_eq_getElem?_toList_append, List.getElem?_take_of_lt hp]

theorem takeWhile_slice_of_ne {buf : Str} {p last : Nat} (hp : p < last) (h : buf[p]? ≠ some ' ') :
    (slice buf p last).takeWhile (· = ' ') = [] := by
  rw [slice_head buf hp]
  cases hc : buf[p]? with
  | none =>
    have hend : slice buf (p + 1) last = [] := by
      have hle := List.getElem?_eq_none_iff.1 hc
      unfold slice
      exact List.drop_eq_nil_of_le (by rw [List.length_take]; omega)
    rw [hend]
    rfl
  | some c =>
    have hne : c ≠ ' ' := fun hspace => h (by rw [hc, hspace])
    simp [hne]

/-- One pass stops where the spaces end, or goes on behind one more of them. -/
theorem skipSpacesPass_returns (buf : Str) (last p : Nat) :
    (skipSpacesPass buf last p).Returns last (.leave (p + ((slice buf p last).takeWhile (· = ' ')).length)) ∨
      ∃ p', (skipSpacesPass buf last p).Returns last (.again p') ∧ last - p' < last - p ∧
        p' + ((slice buf p' last).takeWhile (· = ' ')).length =
          p + ((slice buf p last).takeWhile (· = ' ')).length := by
  unfold skipSpacesPass
  by_cases hp : p < last
  · have hbyte := returns_byteAt buf hp
    rw [if_pos hp]
    by_cases hspace : buf[p]? = some ' '
    · rw [hspace] at hbyte
      have hpoint : (point (p + 1)).Returns last () := returns_point hp
      refine .inr ⟨p + 1, hbyte.bind (hpoint.bind (returns_pure last _)), by omega, ?_⟩
      rw [slice_head buf hp, hspace, Option.toList_some, List.singleton_append,
        List.takeWhile_cons_of_pos (by decide), List.length_cons]
      omega
    · rw [takeWhile_slice_of_ne hp hspace]
      refine .inl (hbyte.bind ?_)
      rw [if_neg hspace]
      exact returns_pure last _
  · have hempty : slice buf p last = [] := by
      have hle := slice_length_le buf p last
      exact List.length_eq_zero_iff.1 (by omega)
    rw [if_neg hp, hempty]
    exact .inl (returns_pure last _)

/-- From a position in the bytes read `parseNext` looks at those bytes only, and stays in them. -/
theorem parseNextRun_returns (buf : Str) {last p fuel : Nat} (hp : p ≤ last) (hfuel : last < fuel) :
    (parseNextRun fuel buf last p).Returns last (parseNext buf last p) ∧ (parseNext buf last p).1 ≤ last := by
  have hskip : (loop (skipSpacesPass buf last) fuel p).Returns last
      (p + ((slice buf p last).takeWhile (· = ' ')).length) :=
    returns_loop (fun p => last - p) (fun p => p + ((slice buf p last).takeWhile (· = ' ')).length)
      (skipSpacesPass_returns buf last) (by omega)
  have hle : p + ((slice buf p last).takeWhile (· = ' ')).length ≤ last := by
    have hspaces := (List.takeWhile_prefix (p := (· = ' ')) (l := slice buf p last)).length_le
    have hslice := slice_length_le buf p last
    omega
  unfold parseNextRun parseNext
  dsimp only
  generalize p + ((slice buf p last).takeWhile (· = ' ')).length = q at hskip hle ⊢
  have hbytes : (bytes buf q last).Returns last (slice buf q last) := returns_bytes buf (Nat.le_refl last)
  cases hnum : fromCharsU64 (slice buf q last) with
  | error e =>
    refine ⟨hskip.bind (hbytes.bind ?_), hle⟩
    rw [hnum]
    exact (returns_point hle).bind (returns_pure last _)
  | ok r =>
    obtain ⟨v, rest⟩ := r
    have hin : q + ((slice buf q last).length - rest.length) ≤ last := by
      have hslice := slice_length_le buf q last
      omega
    refine ⟨hskip.bind (hbytes.bind ?_), hin⟩
    rw [hnum]
    exact (returns_point hin).bind (returns_pure last _)

theorem findLinePrefixFrom_le {buf needle : Str} {len q : Nat} (p : Nat)
    (h : findLinePrefixFrom buf len needle p = some q) : q ≤ len := by
  fun_induction findLinePrefixFrom buf len needle p with
  | case1 p hp remaining hkey =>
    cases h
    omega
  | case2 => cases h
  | case3 p hp remaining hkey nl hnl ih => exact ih h
  | case4 => cases h

theorem parseRowRun_returns (buf : Str) {last fuel : Nat} (hfuel : last < fuel) (n : Nat) {p : Nat} (hp : p ≤ last) :
    (parseRowRun fuel buf last n p).Returns last (parseRow buf last n p) := by
  induction n generalizing p with
  | zero => exact returns_pure last _
  | succ n ih =>
    obtain ⟨hnext, hle⟩ := parseNextRun_returns buf hp hfuel
    rw [parseRowRun, parseRow]
    refine hnext.bind ?_
    rcases hr : parseNext buf last p with ⟨q, _ | v⟩
    · exact returns_pure last _
    · rw [hr] at hle
      exact (ih hle).bind (returns_pure last _)

theorem cpuLineRun_returns (buf : Str) {len fuel : Nat} (hfuel : len < fuel) :
    (CpuCollector.cpuLineRun fuel buf len).Returns len (CpuCollector.cpuLine buf len) := by
  have hfind := findLinePrefixRun_returns buf "cpu ".toList hfuel
  unfold CpuCollector.cpuLineRun CpuCollector.cpuLine
  refine hfind.bind ?_
  cases hp : findLinePrefix buf len "cpu ".toList with
  | none => exact returns_pure len _
  | some p =>
    dsimp only
    rw [CpuTimes.parse_eq, ← parseRow_eq]
    exact (parseRowRun_returns buf hfuel 8 (findLinePrefixFrom_le 0 hp)).bind (returns_pure len _)

theorem counterRun_returns (buf : Str) {len fuel : Nat} (key : String) (hfuel : len < fuel) :
    (counterRun fuel buf len key).Returns len (CpuCollector.counter buf len key) := by
  have hfind := findLinePrefixRun_returns buf key.toList hfuel
  unfold counterRun CpuCollector.counter
  refine hfind.bind ?_
  cases hp : findLinePrefix buf len key.toList with
  | none => exact returns_pure len _
  | some p => exact (parseNextRun_returns buf (findLinePrefixFrom_le 0 hp) hfuel).1.bind (returns_pure len _)

/-- The length of what a call reads. -/
def readLength (data : Option Str) : Nat := (data.getD []).length

theorem CpuCollector.collectRun_returns (c : CpuCollector) (content : Option Str) {fuel : Nat}
    (hfuel : readLength (c.read content) < fuel) :
    (c.collectRun fuel content).Returns (readLength (c.read content)) (c.collect content) := by
  unfold collectRun collect
  cases hread : c.read content with
  | none => exact returns_pure 0 _
  | some data =>
    rw [hread] at hfuel
    refine (cpuLineRun_returns (overwrite c.buf data) hfuel).bind ?_
    cases hcolumns : cpuLine (overwrite c.buf data) data.length with
    | none =>
      exact (counterRun_returns _ "ctxt " hfuel).bind <| (counterRun_returns _ "intr " hfuel).bind <|
        (counterRun_returns _ "softirq " hfuel).bind <| returns_pure _ _
    | some t =>
      exact (counterRun_returns _ "ctxt " hfuel).bind <| (counterRun_returns _ "intr " hfuel).bind <|
        (counterRun_returns _ "softirq " hfuel).bind <| returns_pure _ _

theorem MemoryCollector.collectRun_returns (c : MemoryCollector) (content : Option Str) {fuel : Nat}
    (hfuel : readLength (c.read content) < fuel) :
    (c.collectRun fuel content).Returns (readLength (c.read content)) (c.collect content) := by
  unfold collectRun collect
  cases hread : c.read content with
  | none => exact returns_pure 0 _
  | some data =>
    rw [hread] at hfuel
    exact (counterRun_returns _ "MemAvailable:" hfuel).bind <| (counterRun_returns _ "MemFree:" hfuel).bind <|
      (counterRun_returns _ "SwapTotal:" hfuel).bind <| (counterRun_returns _ "SwapFree:" hfuel).bind <|
        (counterRun_returns _ "Buffers:" hfuel).bind <| returns_pure _ _

/-! ## What an earlier read left -/

theorem CpuCollector.collect_of_buf (c : CpuCollector) (content : Option Str) (buf : Str) :
    ({ c with buf }.collect content).1 = (c.collect content).1 ∧
      ({ c with buf }.collect content).2.prevIdle = (c.collect content).2.prevIdle ∧
      ({ c with buf }.collect content).2.prevTotal = (c.collect content).2.prevTotal := by
  have hread : { c with buf }.read content = c.read content := rfl
  rw [CpuCollector.collect_eq_lines, CpuCollector.collect_eq_lines]
  unfold CpuCollector.collectLines
  rw [hread]
  cases c.read content with
  | none => exact ⟨rfl, rfl, rfl⟩
  | some data =>
    dsimp only
    cases CpuTimes.ofLines data <;> exact ⟨rfl, rfl, rfl⟩

theorem MemoryCollector.collect_of_buf (c : MemoryCollector) (content : Option Str) (buf : Str) :
    ({ c with buf }.collect content).1 = (c.collect content).1 := by
  have hread : { c with buf }.read content = c.read content := rfl
  rw [MemoryCollector.collect_eq_lines, MemoryCollector.collect_eq_lines]
  unfold MemoryCollector.collectLines
  rw [hread]
  cases c.read content <;> rfl

/-- Whatever two earlier reads left in the buffer, a call gives the same result and leaves the same
totals. Whatever is there, the call comes to an end having looked at nothing but the bytes of its own
read, and no pointer went further than behind the last of them. -/
theorem collect_ignores_stale (cpu : CpuCollector) (memory : MemoryCollector) (content : Option Str)
    (buf₁ buf₂ : Str) :
    (({ cpu with buf := buf₁ }.collect content).1 = ({ cpu with buf := buf₂ }.collect content).1 ∧
      ({ cpu with buf := buf₁ }.collect content).2.prevIdle = ({ cpu with buf := buf₂ }.collect content).2.prevIdle ∧
      ({ cpu with buf := buf₁ }.collect content).2.prevTotal =
        ({ cpu with buf := buf₂ }.collect content).2.prevTotal) ∧
    ({ memory with buf := buf₁ }.collect content).1 = ({ memory with buf := buf₂ }.collect content).1 ∧
    (∀ fuel, readLength (cpu.read content) < fuel →
      (cpu.collectRun fuel content).Returns (readLength (cpu.read content)) (cpu.collect content)) ∧
    ∀ fuel, readLength (memory.read content) < fuel →
      (memory.collectRun fuel content).Returns (readLength (memory.read content)) (memory.collect content) := by
  obtain ⟨hstats₁, hidle₁, htotal₁⟩ := cpu.collect_of_buf content buf₁
  obtain ⟨hstats₂, hidle₂, htotal₂⟩ := cpu.collect_of_buf content buf₂
  have hmemory₁ := memory.collect_of_buf content buf₁
  have hmemory₂ := memory.collect_of_buf content buf₂
  refine ⟨⟨hstats₁.trans hstats₂.symm, hidle₁.trans hidle₂.symm, htotal₁.trans htotal₂.symm⟩,
    hmemory₁.trans hmemory₂.symm, ?_, ?_⟩
  · intro fuel hfuel
    exact cpu.collectRun_returns content hfuel
  · intro fuel hfuel
    exact memory.collectRun_returns content hfuel

end TimeAgent
