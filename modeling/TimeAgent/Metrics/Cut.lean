/-
The read limits of `CpuCollector` and `MemoryCollector` against the length of the files: what the
collectors report is what the whole file says exactly when every number they read ends within the
limit, numbers that are read as 0 on both sides of it apart.
-/
import TimeAgent.Metrics.Baseline

namespace TimeAgent

open CText CNum CKeyed

/-! ## The whole file -/

/-- What `CpuCollector::collect` takes from a file is what the same searches and reads take from all
of it. -/
def CpuCollector.FromWhole (c : CpuCollector) (content : Str) : Prop :=
  c.sample (some content) = cpuLine content content.length ∧
    ∀ stats ∈ (c.collect (some content)).1,
      stats.contextSwitches = counter content content.length "ctxt " ∧
        stats.interrupts = counter content content.length "intr " ∧
        stats.softirqs = counter content content.length "softirq "

def MemoryCollector.FromWhole (c : MemoryCollector) (content : Str) : Prop :=
  ∀ stats ∈ (c.collect (some content)).1,
    stats.memAvailableKb = readField content content.length "MemAvailable:" ∧
      stats.memFreeKb = readField content content.length "MemFree:" ∧
      stats.swapTotalKb = readField content content.length "SwapTotal:" ∧
      stats.swapFreeKb = readField content content.length "SwapFree:" ∧
      stats.buffersKb = readField content content.length "Buffers:"

/-- `sizeof(buf_) - 1`. -/
def CpuCollector.cap : Nat := 16384 - 1

/-- `sizeof(buf_) - 1`. -/
def MemoryCollector.cap : Nat := 4096 - 1

/-! ## The limit -/

/-- The number behind `key` ends within the first `cap` bytes, or both the number and its digits
there are read as 0. -/
def CounterWithin (cap : Nat) (content : Str) (key : String) : Prop :=
  ∀ f ∈ frontBehind 0 key.toList content,
    f.Within cap ∨ (ReadsZero f.digits ∧ ReadsZero (f.digits.take (cap - f.place)))

/-- The eighth number behind `cpu ` ends within the first `cap` bytes, or is out of range on both
sides of the limit, or is a 0 with a first digit there. -/
def ColumnsWithin (cap : Nat) (content : Str) : Prop :=
  ∀ f ∈ frontBehind 7 "cpu ".toList content,
    f.Within cap ∨ (2 ^ 64 ≤ decVal f.digits ∧ (cap ≤ f.place ∨ 2 ^ 64 ≤ decVal (f.digits.take (cap - f.place)))) ∨
      (decVal f.digits = 0 ∧ f.place < cap)

/-! ## Reads of text -/

theorem columnsOf_eq (data : Str) :
    CpuTimes.ofLines data = (numbersBehind 8 "cpu ".toList data).bind CpuTimes.ofNumbers := by
  unfold CpuTimes.ofLines numbersBehind
  rw [lineRest_eq (by decide)]
  cases afterKey "cpu ".toList data with
  | none => rfl
  | some rest => rw [Option.map_some, Option.bind_some, Option.bind_some, numbers_line]

theorem counterOfLines_eq (data : Str) {key : String} (hk : '\n' ∉ key.toList) :
    counterOfLines data key = (frontBehind 0 key.toList data).elim 0 Front.value := by
  unfold counterOfLines frontBehind
  rw [lineRest_eq hk]
  cases afterKey key.toList data with
  | none => rfl
  | some rest =>
    have hvalue := number_value rest
    rw [Option.map_some, Option.bind_some, Option.bind_some, number_line]
    revert hvalue
    cases number rest <;> cases front 0 rest <;> exact id

theorem ofNumbers_inj {vs ws : List UInt64} {t : CpuTimes} (hv : CpuTimes.ofNumbers vs = some t)
    (hw : CpuTimes.ofNumbers ws = some t) : vs = ws := by
  unfold CpuTimes.ofNumbers at hv hw
  split at hv
  · split at hw
    · cases hv
      cases hw
      rfl
    · cases hw
  · cases hv

theorem ofNumbers_isSome {vs : List UInt64} (h : vs.length = 8) : ∃ t, CpuTimes.ofNumbers vs = some t := by
  match vs, h with
  | [a, b, c, d, e, f, g, i], _ => exact ⟨_, rfl⟩

theorem numbers_length {n : Nat} {s : Str} {vs : List UInt64} (h : numbers n s = some vs) : vs.length = n := by
  induction n generalizing s vs with
  | zero =>
    cases h
    rfl
  | succ n ih =>
    rw [numbers] at h
    split at h
    · cases h
    · obtain ⟨ws, hws, rfl⟩ := Option.map_eq_some_iff.1 h
      rw [List.length_cons, ih hws]

theorem numbersBehind_length {n : Nat} {key s : Str} {vs : List UInt64} (h : numbersBehind n key s = some vs) :
    vs.length = n := by
  obtain ⟨rest, _, hnum⟩ := Option.bind_eq_some_iff.1 h
  exact numbers_length hnum

/-- Columns are the same when their numbers are. -/
theorem columns_eq_iff (data data' : Str) :
    CpuTimes.ofLines data = CpuTimes.ofLines data' ↔
      numbersBehind 8 "cpu ".toList data = numbersBehind 8 "cpu ".toList data' := by
  rw [columnsOf_eq, columnsOf_eq]
  constructor
  · intro h
    cases hv : numbersBehind 8 "cpu ".toList data with
    | none =>
      cases hw : numbersBehind 8 "cpu ".toList data' with
      | none => rfl
      | some ws =>
        obtain ⟨t, ht⟩ := ofNumbers_isSome (numbersBehind_length hw)
        rw [hv, hw, Option.bind_some, ht] at h
        cases h
    | some vs =>
      obtain ⟨t, ht⟩ := ofNumbers_isSome (numbersBehind_length hv)
      cases hw : numbersBehind 8 "cpu ".toList data' with
      | none =>
        rw [hv, hw, Option.bind_some, ht] at h
        cases h
      | some ws =>
        rw [hv, hw, Option.bind_some, Option.bind_some, ht] at h
        rw [ofNumbers_inj ht h.symm]
  · intro h
    rw [h]

/-! ## The limit decides -/

theorem columns_take_iff (cap : Nat) (content : Str) :
    CpuTimes.ofLines (content.take cap) = CpuTimes.ofLines content ↔ ColumnsWithin cap content := by
  unfold ColumnsWithin
  rw [columns_eq_iff, numbersBehind_eq, numbersBehind_eq, frontBehind_take (by decide)]
  cases hf : frontBehind 7 "cpu ".toList content with
  | none => simp
  | some f =>
    rw [Option.bind_some, Option.bind_some, f.numbers_cut_iff (frontBehind_digits_ne hf)]
    simp

theorem counter_take_iff (cap : Nat) (content : Str) {key : String} (hk : '\n' ∉ key.toList) :
    counterOfLines (content.take cap) key = counterOfLines content key ↔ CounterWithin cap content key := by
  unfold CounterWithin
  rw [counterOfLines_eq _ hk, counterOfLines_eq _ hk, frontBehind_take hk]
  cases hf : frontBehind 0 key.toList content with
  | none => simp
  | some f =>
    rw [Option.bind_some, Option.elim_some, f.value_cut_iff (frontBehind_digits_ne hf)]
    simp

theorem overwrite_nil (data : Str) : overwrite [] data = data := by
  rw [overwrite, List.drop_nil, List.append_nil]

theorem cpuLine_whole (content : Str) :
    CpuCollector.cpuLine content content.length = CpuTimes.ofLines content := by
  have := cpuLine_eq [] content
  rwa [overwrite_nil] at this

theorem counter_whole (content : Str) {key : String} (hne : key.toList ≠ []) (hk : '\n' ∉ key.toList) :
    CpuCollector.counter content content.length key = counterOfLines content key := by
  have := counter_eq [] content hne hk
  rwa [overwrite_nil] at this

theorem readField_whole (content : Str) {key : String} (hne : key.toList ≠ []) (hk : '\n' ∉ key.toList) :
    MemoryCollector.readField content content.length key = counterOfLines content key := by
  have := readField_eq [] content hne hk
  rwa [overwrite_nil] at this

/-- A read of an open file gives its first `cap` bytes, unless it is empty. -/
theorem CpuCollector.read_some {c : CpuCollector} (hfd : c.fd ≠ -1) (content : Str) :
    c.read (some content) = if content = [] then none else some (content.take CpuCollector.cap) := by
  unfold CpuCollector.read pread
  rw [if_neg hfd]
  cases content with
  | nil => rfl
  | cons b bs => rfl

theorem MemoryCollector.read_some {c : MemoryCollector} (hfd : c.fd ≠ -1) (content : Str) :
    c.read (some content) = if content = [] then none else some (content.take MemoryCollector.cap) := by
  unfold MemoryCollector.read pread
  rw [if_neg hfd]
  cases content with
  | nil => rfl
  | cons b bs => rfl

theorem frontBehind_nil {n : Nat} {key : Str} (hne : key ≠ []) : frontBehind n key [] = none := by
  unfold frontBehind
  rw [afterKey_nil hne]
  rfl

theorem CpuCollector.sample_some {c : CpuCollector} (hfd : c.fd ≠ -1) (content : Str) :
    c.sample (some content) = CpuTimes.ofLines (content.take CpuCollector.cap) := by
  rw [sample_eq, columnsRead]
  show (c.read (some content)).bind _ = _
  rw [c.read_some hfd]
  cases content <;> rfl

theorem counterWithin_nil (cap : Nat) {key : String} (hne : key.toList ≠ []) : CounterWithin cap [] key := by
  unfold CounterWithin
  rw [frontBehind_nil hne]
  exact nofun

theorem CpuCollector.fromWhole_iff {c : CpuCollector} (hfd : c.fd ≠ -1) (content : Str) :
    c.FromWhole content ↔
      ColumnsWithin CpuCollector.cap content ∧ CounterWithin CpuCollector.cap content "ctxt " ∧
        CounterWithin CpuCollector.cap content "intr " ∧ CounterWithin CpuCollector.cap content "softirq " := by
  unfold FromWhole
  rw [c.sample_some hfd, cpuLine_whole, columns_take_iff, counter_whole _ (by decide) (by decide),
    counter_whole _ (by decide) (by decide), counter_whole _ (by decide) (by decide), c.collect_eq_lines,
    collectLines, c.read_some hfd]
  by_cases hempty : content = []
  · subst hempty
    refine and_congr_right fun _ => iff_of_true nofun ?_
    exact ⟨counterWithin_nil _ (by decide), counterWithin_nil _ (by decide), counterWithin_nil _ (by decide)⟩
  · rw [if_neg hempty, ← counter_take_iff _ _ (by decide), ← counter_take_iff _ _ (by decide),
      ← counter_take_iff _ _ (by decide)]
    simp only [Option.mem_def, Option.some.injEq, forall_eq']

theorem MemoryCollector.fromWhole_iff {c : MemoryCollector} (hfd : c.fd ≠ -1) (content : Str) :
    c.FromWhole content ↔
      CounterWithin MemoryCollector.cap content "MemAvailable:" ∧
        CounterWithin MemoryCollector.cap content "MemFree:" ∧ CounterWithin MemoryCollector.cap content "SwapTotal:" ∧
        CounterWithin MemoryCollector.cap content "SwapFree:" ∧ CounterWithin MemoryCollector.cap content "Buffers:" := by
  unfold FromWhole
  rw [readField_whole _ (by decide) (by decide), readField_whole _ (by decide) (by decide),
    readField_whole _ (by decide) (by decide), readField_whole _ (by decide) (by decide),
    readField_whole _ (by decide) (by decide), c.collect_eq_lines, collectLines, c.read_some hfd]
  by_cases hempty : content = []
  · subst hempty
    refine iff_of_true nofun ?_
    exact ⟨counterWithin_nil _ (by decide), counterWithin_nil _ (by decide), counterWithin_nil _ (by decide),
      counterWithin_nil _ (by decide), counterWithin_nil _ (by decide)⟩
  · rw [if_neg hempty, ← counter_take_iff _ _ (by decide), ← counter_take_iff _ _ (by decide),
      ← counter_take_iff _ _ (by decide), ← counter_take_iff _ _ (by decide), ← counter_take_iff _ _ (by decide)]
    simp only [Option.mem_def, Option.some.injEq, forall_eq']

/-- On files of any length: what each collector reports is what the whole file says exactly when the
numbers it reads end within its read limit, except that a number read as 0 on both sides may not. -/
theorem fromWhole_iff_within {cpu : CpuCollector} {memory : MemoryCollector} (hcpu : cpu.fd ≠ -1)
    (hmemory : memory.fd ≠ -1) (stat meminfo : Str) :
    (cpu.FromWhole stat ↔
        ColumnsWithin CpuCollector.cap stat ∧
          ∀ key ∈ ["ctxt ", "intr ", "softirq "], CounterWithin CpuCollector.cap stat key) ∧
      (memory.FromWhole meminfo ↔
        ∀ key ∈ ["MemAvailable:", "MemFree:", "SwapTotal:", "SwapFree:", "Buffers:"],
          CounterWithin MemoryCollector.cap meminfo key) := by
  rw [cpu.fromWhole_iff hcpu, memory.fromWhole_iff hmemory]
  simp only [List.forall_mem_cons, List.not_mem_nil, false_imp_iff, implies_true, and_true, and_self]

/-- An `intr` line of `n + 1` numbers. -/
def intrLine (n : Nat) : Str := "intr 1".toList ++ (List.replicate n " 0".toList).flatten

/-- The context switches stand behind the interrupts. -/
def statOf (n : Nat) : Str := intrLine n ++ '\n' :: "ctxt 7\n".toList

theorem intrLine_length (n : Nat) : (intrLine n).length = 6 + n * 2 := by
  delta intrLine
  rw [List.length_append, List.length_flatten, List.map_replicate, List.sum_replicate]
  rfl

theorem intrLine_newline_free (n : Nat) : '\n' ∉ intrLine n := by
  delta intrLine
  rw [List.mem_append, List.mem_flatten, not_or]
  refine ⟨by decide, ?_⟩
  rintro ⟨l, hl, hmem⟩
  rw [List.eq_of_mem_replicate hl] at hmem
  exact absurd hmem (by decide)

theorem statOf_ctxt (n : Nat) :
    frontBehind 0 "ctxt ".toList (statOf n) = some ⟨[], 6 + n * 2 + 6, "7".toList⟩ := by
  have hnot : ¬ "ctxt ".toList <+: intrLine n ++ '\n' :: "ctxt 7\n".toList := by
    intro h
    cases (List.cons_prefix_cons.1 h).1
  have hkey : afterKey "ctxt ".toList (statOf n) = some "7\n".toList := by
    rw [statOf, afterKey_next (intrLine_newline_free n) hnot]
    exact afterKey_append "ctxt ".toList "7\n".toList
  have hlen : (statOf n).length - "7\n".toList.length = 6 + n * 2 + 6 := by
    rw [statOf, List.length_append, intrLine_length]
    rfl
  rw [frontBehind, hkey, Option.bind_some, hlen]
  rfl

/-- Behind 8193 interrupt numbers, the 7 context switches are reported as 0. -/
theorem statOf_not_fromWhole : ¬ (CpuCollector.new 3 []).FromWhole (statOf 8192) := by
  rw [CpuCollector.fromWhole_iff (by decide)]
  rintro ⟨_, hctxt, _⟩
  rcases hctxt _ (statOf_ctxt 8192) with h | ⟨h, _⟩
  · exact absurd h (by decide)
  · exact absurd h (by decide)

theorem fromWhole_iff_within_short :
    ((CpuCollector.new 3 []).FromWhole "intr 1\nctxt 7\n".toList ↔
        ColumnsWithin CpuCollector.cap "intr 1\nctxt 7\n".toList ∧
          ∀ key ∈ ["ctxt ", "intr ", "softirq "], CounterWithin CpuCollector.cap "intr 1\nctxt 7\n".toList key) ∧
      ((⟨4, []⟩ : MemoryCollector).FromWhole "Buffers: 5 kB\n".toList ↔
        ∀ key ∈ ["MemAvailable:", "MemFree:", "SwapTotal:", "SwapFree:", "Buffers:"],
          CounterWithin MemoryCollector.cap "Buffers: 5 kB\n".toList key) :=
  fromWhole_iff_within (by decide) (by decide) _ _

end TimeAgent
