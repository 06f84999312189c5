/-
`CpuCollector`: the counters of /proc/stat, and the usage computed from two samples through
unsigned differences.
-/
import TimeAgent.Metrics.Basic
import Mathlib.Data.List.Chain
import Mathlib.Tactic.Linarith
import Mathlib.Tactic.FieldSimp
import Mathlib.Tactic.Positivity
import Mathlib.Algebra.Order.Field.Rat

namespace TimeAgent

open CText CNum

/-- The eight columns of the `cpu` line. -/
structure CpuTimes where
  user : UInt64
  nice : UInt64
  system : UInt64
  idle : UInt64
  iowait : UInt64
  irq : UInt64
  softirq : UInt64
  steal : UInt64
  deriving DecidableEq

namespace CpuTimes

def idleTime (t : CpuTimes) : UInt64 := t.idle + t.iowait

def totalTime (t : CpuTimes) : UInt64 :=
  t.user + t.nice + t.system + t.idle + t.iowait + t.irq + t.softirq + t.steal

/-- The columns that are not idle time. -/
def busyTime (t : CpuTimes) : UInt64 := t.user + t.nice + t.system + t.irq + t.softirq + t.steal

theorem totalTime_eq (t : CpuTimes) : t.totalTime = t.idleTime + t.busyTime := by
  unfold totalTime idleTime busyTime
  ac_rfl

/-- The eight `parseNext` calls behind `cpu `, stopping at the first that fails. -/
def parse (buf : Str) (last p : Nat) : Option CpuTimes := do
  let next (p : Nat) : Option (Nat × UInt64) :=
    match parseNext buf last p with
    | (p, some v) => some (p, v)
    | (_, none) => none
  let (p, user) ← next p
  let (p, nice) ← next p
  let (p, system) ← next p
  let (p, idle) ← next p
  let (p, iowait) ← next p
  let (p, irq) ← next p
  let (p, softirq) ← next p
  let (_, steal) ← next p
  return { user, nice, system, idle, iowait, irq, softirq, steal }

end CpuTimes

structure CpuCollector where
  fd : Int
  prevIdle : UInt64 := 0
  prevTotal : UInt64 := 0
  buf : Str

namespace CpuCollector

/-- The operands of the division, when the code reaches it. -/
def deltas (c : CpuCollector) (t : CpuTimes) : Option (UInt64 × UInt64) :=
  if c.prevTotal > 0 then
    let totalDelta := t.totalTime - c.prevTotal
    let idleDelta := t.idleTime - c.prevIdle
    if totalDelta > 0 then some (idleDelta, totalDelta) else none
  else none

def usagePercent (c : CpuCollector) (t : CpuTimes) : Rat :=
  match c.deltas t with
  | some (idleDelta, totalDelta) => 100 * (1 - (idleDelta.toNat : Rat) / (totalDelta.toNat : Rat))
  | none => 0

/-- The bytes of one read; `none` when `collect` returns early. -/
def read (c : CpuCollector) (content : Option Str) : Option Str :=
  if c.fd = -1 then none
  else
    match pread content (16384 - 1) with
    | none => none
    | some data => if data.length = 0 then none else some data

/-- The `cpu` line in the first `len` bytes of the buffer. -/
def cpuLine (buf : Str) (len : Nat) : Option CpuTimes :=
  match findLinePrefix buf len "cpu ".toList with
  | some p => CpuTimes.parse buf len p
  | none => none

/-- The number behind `key`, or the default 0. -/
def counter (buf : Str) (len : Nat) (key : String) : UInt64 :=
  match findLinePrefix buf len key.toList with
  | some p => (parseNext buf len p).2.getD 0
  | none => 0

def collect (c : CpuCollector) (content : Option Str) : Option CpuStats × CpuCollector :=
  match c.read content with
  | none => (none, c)
  | some data =>
    let buf := overwrite c.buf data
    let len := data.length
    let (usagePercent, prevIdle, prevTotal) :=
      match cpuLine buf len with
      | some t => (c.usagePercent t, t.idleTime, t.totalTime)
      | none => (0, c.prevIdle, c.prevTotal)
    (some { usagePercent, contextSwitches := counter buf len "ctxt ", interrupts := counter buf len "intr ",
            softirqs := counter buf len "softirq " },
      { c with prevIdle, prevTotal, buf })

/-- The columns one call parses, if it gets that far. -/
def sample (c : CpuCollector) (content : Option Str) : Option CpuTimes :=
  (c.read content).bind fun data => cpuLine (overwrite c.buf data) data.length

/-- The collector in front of each call of a sequence of calls, with what the file holds then. -/
def calls (c : CpuCollector) : List (Option Str) → List (CpuCollector × Option Str)
  | [] => []
  | content :: contents => (c, content) :: (c.collect content).2.calls contents

/-- A collector as its constructor leaves it; `buf` is not initialised. -/
def new (fd : Int) (buf : Str) : CpuCollector := { fd, buf }

/-- The columns a sequence of calls parses, one after the other. -/
def samples (c : CpuCollector) (contents : List (Option Str)) : List CpuTimes :=
  (c.calls contents).filterMap fun call => call.1.sample call.2

/-! ## What one call does -/

theorem collect_of_sample {c : CpuCollector} {content : Option Str} {t : CpuTimes} (h : c.sample content = some t) :
    (∃ stats, (c.collect content).1 = some stats ∧ stats.usagePercent = c.usagePercent t) ∧
      (c.collect content).2.prevIdle = t.idleTime ∧ (c.collect content).2.prevTotal = t.totalTime := by
  unfold sample at h
  obtain ⟨data, hread, hline⟩ := Option.bind_eq_some_iff.1 h
  unfold collect
  simp only [hread, hline]
  exact ⟨⟨_, by rfl, rfl⟩, trivial, trivial⟩

theorem collect_of_no_sample {c : CpuCollector} {content : Option Str} (h : c.sample content = none) :
    (∀ stats ∈ (c.collect content).1, stats.usagePercent = 0) ∧
      (c.collect content).2.prevIdle = c.prevIdle ∧ (c.collect content).2.prevTotal = c.prevTotal := by
  unfold sample at h
  unfold collect
  cases hread : c.read content with
  | none => simp
  | some data =>
    rw [hread] at h
    rw [Option.bind_some] at h
    simp [h]

/-! ## When the quotient is a percentage -/

/-- The usage is a percentage and the divisor, if there is a division, is not zero. -/
def Percentage (c : CpuCollector) (content : Option Str) : Prop :=
  (∀ stats ∈ (c.collect content).1, 0 ≤ stats.usagePercent ∧ stats.usagePercent ≤ 100) ∧
    ∀ t ∈ c.sample content, ∀ d ∈ c.deltas t, d.2 ≠ 0

/-- From `prev` to `next` the idle columns and the busy columns advance, each counted modulo
`2 ^ 64`, by amounts whose sum does not wrap. The code forms no quotient behind a zero total or
when the total did not move. -/
def Steady (prev next : CpuTimes) : Prop :=
  prev.totalTime = 0 ∨ next.totalTime = prev.totalTime ∨
    (next.idleTime - prev.idleTime).toNat + (next.busyTime - prev.busyTime).toNat < 2 ^ 64

theorem totalDelta_eq (prev next : CpuTimes) :
    next.totalTime - prev.totalTime =
      (next.idleTime - prev.idleTime) + (next.busyTime - prev.busyTime) := by
  rw [next.totalTime_eq, prev.totalTime_eq]
  grind

/-- The summand of a wrapping sum is at most the sum exactly when the sum did not wrap. -/
theorem le_add_iff_no_wrap (i b : UInt64) : i.toNat ≤ (i + b).toNat ↔ i.toNat + b.toNat < 2 ^ 64 := by
  have hi := i.toNat_lt
  have hb := b.toNat_lt
  rw [UInt64.toNat_add]
  omega

theorem quotient_percentage_iff {i d : UInt64} (hd : d > 0) :
    (0 ≤ 100 * (1 - (i.toNat : Rat) / (d.toNat : Rat)) ∧ 100 * (1 - (i.toNat : Rat) / (d.toNat : Rat)) ≤ 100) ↔
      i.toNat ≤ d.toNat := by
  have hd' : (0 : Rat) < d.toNat := by exact_mod_cast hd
  have hi : (0 : Rat) ≤ (i.toNat : Rat) / (d.toNat : Rat) := by positivity
  have hle : (i.toNat : Rat) / (d.toNat : Rat) ≤ 1 ↔ i.toNat ≤ d.toNat := by
    rw [div_le_one hd']; exact_mod_cast Iff.rfl
  rw [← hle]
  constructor
  · intro h; linarith [h.1]
  · intro h; constructor <;> linarith

/-- `(prevIdle, prevTotal)` are the sums of the last parsed columns, or 0 when there are none. -/
def Baseline (c : CpuCollector) (last : Option CpuTimes) : Prop :=
  match last with
  | some t => c.prevIdle = t.idleTime ∧ c.prevTotal = t.totalTime
  | none => c.prevIdle = 0 ∧ c.prevTotal = 0

theorem deltas_ne_zero (c : CpuCollector) (t : CpuTimes) : ∀ d ∈ c.deltas t, d.2 ≠ 0 := by
  intro d hd
  unfold deltas at hd
  split at hd
  · dsimp only at hd
    split at hd
    · rename_i hpos
      cases hd
      exact UInt64.pos_iff_ne_zero.1 hpos
    · cases hd
  · cases hd

/-- The usage of a sample behind `last` is a percentage exactly when the step to it is steady. -/
theorem usagePercent_iff {c : CpuCollector} {last : Option CpuTimes} (hb : c.Baseline last) (t : CpuTimes) :
    (0 ≤ c.usagePercent t ∧ c.usagePercent t ≤ 100) ↔ ∀ prev ∈ last, Steady prev t := by
  cases last with
  | none =>
    have hzero : c.prevTotal = 0 := hb.2
    have hnot : ¬ c.prevTotal > 0 := by rw [hzero]; decide
    simp [usagePercent, deltas, hnot]
  | some prev =>
    obtain ⟨hidle, htotal⟩ := hb
    simp only [Option.mem_def, Option.some.injEq, forall_eq']
    unfold usagePercent deltas Steady
    rw [hidle, htotal]
    by_cases hprev : prev.totalTime = 0
    · have hnot : ¬ prev.totalTime > 0 := by rw [hprev]; decide
      simp [hprev]
    · have hpos : prev.totalTime > 0 := UInt64.pos_iff_ne_zero.2 hprev
      by_cases hmove : t.totalTime = prev.totalTime
      · simp [hmove]
      · have hdelta : t.totalTime - prev.totalTime > 0 := by
          refine UInt64.pos_iff_ne_zero.2 fun h => hmove ?_
          grind
        rw [if_pos hpos]
        dsimp only
        rw [if_pos hdelta]
        dsimp only
        rw [quotient_percentage_iff hdelta, totalDelta_eq, le_add_iff_no_wrap]
        simp [hprev, hmove]

/-! ## Runs -/

theorem samples_cons (c : CpuCollector) (content : Option Str) (contents : List (Option Str)) :
    c.samples (content :: contents) =
      (c.sample content).toList ++ (c.collect content).2.samples contents := by
  rw [samples, calls, List.filterMap_cons]
  cases c.sample content <;> rfl

theorem isChain_toList_append {α : Type} {R : α → α → Prop} (a : Option α) (b : α) (l : List α) :
    List.IsChain R (a.toList ++ b :: l) ↔ (∀ x ∈ a, R x b) ∧ List.IsChain R (b :: l) := by
  cases a <;> simp

/-- From any baseline: every call of the run reports a percentage exactly when every step
between consecutive samples is steady. -/
theorem calls_percentage_iff (contents : List (Option Str)) : ∀ (c : CpuCollector) (last : Option CpuTimes),
    c.Baseline last →
      ((∀ call ∈ c.calls contents, Percentage call.1 call.2) ↔
        List.IsChain Steady (last.toList ++ c.samples contents)) := by
  induction contents with
  | nil =>
    intro c last _
    cases last <;> simp [calls, samples]
  | cons content contents ih =>
    intro c last hb
    rw [calls, List.forall_mem_cons, samples_cons]
    cases hs : c.sample content with
    | none =>
      obtain ⟨husage, hidle, htotal⟩ := collect_of_no_sample hs
      have hp : Percentage c content := by
        refine ⟨fun stats h => ?_, by simp [hs]⟩
        rw [husage stats h]
        exact ⟨le_refl _, by norm_num⟩
      have hb' : (c.collect content).2.Baseline last := by
        unfold Baseline at hb ⊢
        rw [hidle, htotal]; exact hb
      rw [ih _ last hb']
      simp [hp]
    | some t =>
      obtain ⟨⟨stats, hstats, husage⟩, hidle, htotal⟩ := collect_of_sample hs
      have hp : Percentage c content ↔ ∀ prev ∈ last, Steady prev t := by
        unfold Percentage
        rw [hstats, hs, ← usagePercent_iff hb t, ← husage]
        simp only [Option.mem_def, Option.some.injEq, forall_eq']
        exact and_iff_left (c.deltas_ne_zero t)
      have hb' : (c.collect content).2.Baseline (some t) := ⟨hidle, htotal⟩
      rw [ih _ (some t) hb', hp, Option.toList_some, List.singleton_append, isChain_toList_append]

/-- On every run of a new collector: every usage is a percentage and no division is by zero
exactly when every two consecutive samples are steady. -/
theorem percentage_iff_steady (fd : Int) (buf : Str) (contents : List (Option Str)) :
    (∀ call ∈ (new fd buf).calls contents, Percentage call.1 call.2) ↔
      List.IsChain Steady ((new fd buf).samples contents) :=
  calls_percentage_iff contents (new fd buf) none ⟨rfl, rfl⟩

/-- Five ticks of user time while the idle column goes back by one. -/
theorem usage_not_percentage :
    ¬ ∀ call ∈ (new 3 (List.replicate 16384 '\x00')).calls
        [some "cpu  0 0 0 100 0 0 0 0\n".toList, some "cpu  5 0 0 99 0 0 0 0\n".toList],
      Percentage call.1 call.2 := by
  intro h
  have hstats := (h _ (List.mem_cons_of_mem _ List.mem_cons_self)).1
    { usagePercent := 100 * (1 - (2 ^ 64 - 1) / 4) } (by decide +kernel)
  exact absurd hstats.1 (by norm_num)

end CpuCollector

end TimeAgent
