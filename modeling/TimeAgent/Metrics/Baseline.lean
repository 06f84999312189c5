/-
The baseline that `CpuCollector` carries from call to call, over whole runs: it is that of the last
read whose cpu line parsed, whatever failed in between. On counters that never go back the usages
therefore add up: charged with the time between their samples, they are the busy time.
-/
import TimeAgent.Metrics.Lines

namespace TimeAgent

open CText CNum

namespace CpuTimes

/-- The sum of the columns. -/
def total (t : CpuTimes) : Nat :=
  t.user.toNat + t.nice.toNat + t.system.toNat + t.idle.toNat + t.iowait.toNat + t.irq.toNat + t.softirq.toNat +
    t.steal.toNat

/-- The time that is not idle time. -/
def busy (t : CpuTimes) : Rat := t.total - t.idle.toNat - t.iowait.toNat

/-- No column goes back. -/
structure Advances (prev next : CpuTimes) : Prop where
  user : prev.user ≤ next.user
  nice : prev.nice ≤ next.nice
  system : prev.system ≤ next.system
  idle : prev.idle ≤ next.idle
  iowait : prev.iowait ≤ next.iowait
  irq : prev.irq ≤ next.irq
  softirq : prev.softirq ≤ next.softirq
  steal : prev.steal ≤ next.steal

instance (prev next : CpuTimes) : Decidable (Advances prev next) :=
  decidable_of_iff
    (prev.user ≤ next.user ∧ prev.nice ≤ next.nice ∧ prev.system ≤ next.system ∧ prev.idle ≤ next.idle ∧
      prev.iowait ≤ next.iowait ∧ prev.irq ≤ next.irq ∧ prev.softirq ≤ next.softirq ∧ prev.steal ≤ next.steal)
    ⟨fun ⟨a, b, c, d, e, f, g, h⟩ => ⟨a, b, c, d, e, f, g, h⟩, fun ⟨a, b, c, d, e, f, g, h⟩ => ⟨a, b, c, d, e, f, g, h⟩⟩

/-- When the columns do not overflow their sum, the code's sums are the sums. -/
theorem toNat_totalTime {t : CpuTimes} (h : t.total < 2 ^ 64) :
    t.totalTime.toNat = t.total ∧ t.idleTime.toNat = t.idle.toNat + t.iowait.toNat := by
  unfold total at h
  unfold totalTime idleTime total
  simp only [UInt64.toNat_add]
  omega

/-- Over samples that do not go back, idle time and busy time both advance. -/
theorem Advances.total_le {prev next : CpuTimes} (h : Advances prev next) :
    prev.total ≤ next.total ∧
      prev.idle.toNat + prev.iowait.toNat ≤ next.idle.toNat + next.iowait.toNat ∧
      next.idle.toNat + next.iowait.toNat - (prev.idle.toNat + prev.iowait.toNat) ≤ next.total - prev.total := by
  obtain ⟨h1, h2, h3, h4, h5, h6, h7, h8⟩ := h
  rw [UInt64.le_iff_toNat_le] at h1 h2 h3 h4 h5 h6 h7 h8
  unfold total
  omega

end CpuTimes

namespace CpuCollector

/-! ## The baseline -/

/-- The columns a read on the descriptor gives, when its first cpu line carries eight numbers. -/
def columnsRead (fd : Int) (content : Option Str) : Option CpuTimes :=
  ((new fd []).read content).bind CpuTimes.ofLines

/-- A sequence of calls, with what the file holds at each. -/
def run (c : CpuCollector) (contents : List (Option Str)) : CpuCollector :=
  contents.foldl (fun c content => (c.collect content).2) c

theorem sample_eq (c : CpuCollector) (content : Option Str) : c.sample content = columnsRead c.fd content := by
  have hread : c.read content = (new c.fd []).read content := rfl
  unfold sample columnsRead
  rw [hread]
  cases (new c.fd []).read content with
  | none => rfl
  | some data => exact cpuLine_eq _ data

theorem collect_fd (c : CpuCollector) (content : Option Str) : (c.collect content).2.fd = c.fd := by
  unfold collect
  cases c.read content <;> rfl

theorem run_fd (contents : List (Option Str)) (c : CpuCollector) : (c.run contents).fd = c.fd := by
  induction contents generalizing c with
  | nil => rfl
  | cons content contents ih => exact (ih _).trans (c.collect_fd content)

/-- One call moves the baseline to its own sample, and leaves it when it has none. -/
theorem collect_baseline {c : CpuCollector} {last : Option CpuTimes} (h : c.Baseline last) (content : Option Str) :
    (c.collect content).2.Baseline ((columnsRead c.fd content).or last) := by
  rw [← sample_eq]
  cases hs : c.sample content with
  | none =>
    obtain ⟨_, hidle, htotal⟩ := collect_of_no_sample hs
    unfold Baseline at h ⊢
    rw [hidle, htotal]
    exact h
  | some t =>
    obtain ⟨_, hidle, htotal⟩ := collect_of_sample hs
    exact ⟨hidle, htotal⟩

theorem run_baseline (contents : List (Option Str)) {c : CpuCollector} {last : Option CpuTimes} (h : c.Baseline last) :
    (c.run contents).Baseline ((contents.filterMap (columnsRead c.fd)).getLast?.or last) := by
  induction contents generalizing c last with
  | nil => exact h
  | cons content contents ih =>
    have hstep := ih (collect_baseline h content)
    rw [collect_fd] at hstep
    have hlast : ((content :: contents).filterMap (columnsRead c.fd)).getLast?.or last =
        (contents.filterMap (columnsRead c.fd)).getLast?.or ((columnsRead c.fd content).or last) := by
      rw [List.filterMap_cons]
      cases columnsRead c.fd content with
      | none => rfl
      | some t =>
        rw [List.getLast?_cons]
        cases (contents.filterMap (columnsRead c.fd)).getLast? <;> rfl
    rw [hlast]
    exact hstep

/-! ## What the usages add up to -/

/-- The calls of a run that read columns: the columns, and the usage each call reports. -/
def reports (c : CpuCollector) (contents : List (Option Str)) : List (CpuTimes × Rat) :=
  (c.calls contents).filterMap fun (c, content) =>
    match columnsRead c.fd content, (c.collect content).1 with
    | some t, some stats => some (t, stats.usagePercent)
    | _, _ => none

/-- Every usage but the first, charged with the time since the sample before it. -/
def charged : List (CpuTimes × Rat) → Rat
  | (prev, _) :: (t, usage) :: rest => usage / 100 * (t.total - prev.total) + charged ((t, usage) :: rest)
  | _ => 0

theorem reports_cons (c : CpuCollector) (content : Option Str) (contents : List (Option Str)) :
    c.reports (content :: contents) =
      ((columnsRead c.fd content).map fun t => (t, c.usagePercent t)).toList ++
        (c.collect content).2.reports contents := by
  unfold reports
  rw [calls, List.filterMap_cons]
  dsimp only
  cases hs : columnsRead c.fd content with
  | none => rfl
  | some t =>
    have hsample : c.sample content = some t := by rw [sample_eq, hs]
    obtain ⟨⟨stats, hstats, husage⟩, _⟩ := collect_of_sample hsample
    rw [hstats, Option.map_some, ← husage]
    rfl

/-- Between two samples the usage is the busy part of the time. -/
theorem usage_step {c : CpuCollector} {prev t : CpuTimes} (hb : c.Baseline (some prev)) (hadv : prev.Advances t)
    (hprev : prev.total < 2 ^ 64) (ht : t.total < 2 ^ 64) (hpos : prev.total ≠ 0) :
    c.usagePercent t / 100 * (t.total - prev.total) = t.busy - prev.busy := by
  obtain ⟨hidle, htotal⟩ := hb
  obtain ⟨htle, hile, hdle⟩ := hadv.total_le
  obtain ⟨htt, hti⟩ := CpuTimes.toNat_totalTime ht
  obtain ⟨hpt, hpi⟩ := CpuTimes.toNat_totalTime hprev
  -- a non-zero sum is what marks the earlier sample as there
  have hgt : c.prevTotal > 0 := by
    rw [htotal, gt_iff_lt, UInt64.lt_iff_toNat_lt, hpt]
    exact Nat.pos_of_ne_zero hpos
  have hdelta : (t.totalTime - c.prevTotal).toNat = t.total - prev.total := by
    rw [htotal, UInt64.toNat_sub_of_le _ _ (by rw [UInt64.le_iff_toNat_le, htt, hpt]; exact htle), htt, hpt]
  have hidleDelta : (t.idleTime - c.prevIdle).toNat =
      t.idle.toNat + t.iowait.toNat - (prev.idle.toNat + prev.iowait.toNat) := by
    rw [hidle, UInt64.toNat_sub_of_le _ _ (by rw [UInt64.le_iff_toNat_le, hti, hpi]; exact hile), hti, hpi]
  have hbusy : t.busy - prev.busy = ((t.total - prev.total : Nat) : Rat) -
      ((t.idle.toNat + t.iowait.toNat - (prev.idle.toNat + prev.iowait.toNat) : Nat) : Rat) := by
    rw [Nat.cast_sub htle, Nat.cast_sub hile]
    push_cast [CpuTimes.busy]
    ring
  have hcast : (t.total : Rat) - prev.total = ((t.total - prev.total : Nat) : Rat) := (Nat.cast_sub htle).symm
  rw [hbusy, hcast]
  unfold usagePercent deltas
  rw [if_pos hgt]
  dsimp only
  -- no time between the samples: the usage is 0, and so is what it is charged with
  by_cases hzero : t.total - prev.total = 0
  · have hnot : ¬ t.totalTime - c.prevTotal > 0 := by
      rw [gt_iff_lt, UInt64.lt_iff_toNat_lt, hdelta, hzero]
      exact Nat.lt_irrefl _
    rw [if_neg hnot, show t.idle.toNat + t.iowait.toNat - (prev.idle.toNat + prev.iowait.toNat) = 0 by omega, hzero]
    simp
  · have hmove : t.totalTime - c.prevTotal > 0 := by
      rw [gt_iff_lt, UInt64.lt_iff_toNat_lt, hdelta]
      exact Nat.pos_of_ne_zero hzero
    have hne : ((t.total - prev.total : Nat) : Rat) ≠ 0 := by exact_mod_cast hzero
    rw [if_pos hmove]
    dsimp only
    rw [hdelta, hidleDelta]
    field_simp

/-- From any baseline with a non-zero total on, the charges telescope. -/
theorem charged_from {prev : CpuTimes} (contents : List (Option Str)) {c : CpuCollector} (u : Rat)
    (hb : c.Baseline (some prev)) (hpos : prev.total ≠ 0)
    (hadv : (prev :: contents.filterMap (columnsRead c.fd)).IsChain CpuTimes.Advances)
    (hfit : ∀ t ∈ prev :: contents.filterMap (columnsRead c.fd), t.total < 2 ^ 64) :
    charged ((prev, u) :: c.reports contents) =
      ((contents.filterMap (columnsRead c.fd)).getLast?.getD prev).busy - prev.busy := by
  induction contents generalizing c prev u with
  | nil =>
    show (0 : Rat) = prev.busy - prev.busy
    rw [sub_self]
  | cons content contents ih =>
    have hstep := collect_baseline hb content
    have hfd := c.collect_fd content
    rw [reports_cons]
    rw [List.filterMap_cons] at hadv hfit ⊢
    -- a call without a sample changes neither the baseline nor the charges
    cases hs : columnsRead c.fd content with
    | none =>
      rw [hs] at hadv hfit hstep
      rw [← hfd] at hadv hfit
      have := ih u hstep hpos hadv hfit
      rw [hfd] at this
      exact this
    | some t =>
      rw [hs] at hadv hfit hstep
      obtain ⟨hfirst, hrest⟩ := List.isChain_cons_cons.1 hadv
      have hprev := hfit prev List.mem_cons_self
      have ht := hfit t (List.mem_cons_of_mem _ List.mem_cons_self)
      -- the next sample is a marker as well: its sum is no smaller
      have htpos : t.total ≠ 0 := by have := hfirst.total_le.1; omega
      have htail : ∀ t' ∈ t :: contents.filterMap (columnsRead c.fd), t'.total < 2 ^ 64 :=
        fun t' h => hfit t' (List.mem_cons_of_mem _ h)
      rw [← hfd] at hrest htail
      have hmore := ih (c.usagePercent t) hstep htpos hrest htail
      rw [hfd] at hmore
      show c.usagePercent t / 100 * (t.total - prev.total) +
        charged ((t, c.usagePercent t) :: (c.collect content).2.reports contents) = _
      rw [usage_step hb hfirst hprev ht hpos, hmore]
      dsimp only
      rw [List.getLast?_cons, Option.getD_some]
      ring

/-- In front of the first sample there is nothing to charge. -/
theorem charged_new {first : CpuTimes} (contents : List (Option Str)) {c : CpuCollector} (hb : c.Baseline none)
    (hfirst : (contents.filterMap (columnsRead c.fd)).head? = some first) (hpos : first.total ≠ 0)
    (hadv : (contents.filterMap (columnsRead c.fd)).IsChain CpuTimes.Advances)
    (hfit : ∀ t ∈ contents.filterMap (columnsRead c.fd), t.total < 2 ^ 64) :
    charged (c.reports contents) =
      ((contents.filterMap (columnsRead c.fd)).getLast?.getD first).busy - first.busy := by
  induction contents generalizing c with
  | nil => cases hfirst
  | cons content contents ih =>
    have hstep := collect_baseline hb content
    have hfd := c.collect_fd content
    rw [reports_cons]
    rw [List.filterMap_cons] at hfirst hadv hfit ⊢
    -- up to the first sample the baseline is the pair of zeros, and there is no charge
    cases hs : columnsRead c.fd content with
    | none =>
      rw [hs] at hfirst hadv hfit hstep
      rw [← hfd] at hfirst hadv hfit
      have hrest := ih hstep hfirst hadv hfit
      rw [hfd] at hrest
      exact hrest
    | some t =>
      rw [hs] at hfirst hadv hfit hstep
      cases hfirst
      rw [← hfd] at hadv hfit
      have hrest := charged_from contents (c.usagePercent first) hstep hpos hadv hfit
      rw [hfd] at hrest
      dsimp only
      rw [List.getLast?_cons, Option.getD_some]
      exact hrest

/-- Over every sequence of calls of a new collector: the baseline is that of the last read with
eight numbers on its cpu line, and a call without such a read leaves it alone. If the columns read
never go back, their sums fit 64 bits and the first sum is not 0, the usages charged with the time
between the reads are the busy time from the first read to the last. -/
theorem baseline_conserved (fd : Int) (buf : Str) (contents : List (Option Str)) :
    (((new fd buf).run contents).prevIdle, ((new fd buf).run contents).prevTotal) =
        (match (contents.filterMap (columnsRead fd)).getLast? with
          | some t => (t.idleTime, t.totalTime)
          | none => (0, 0)) ∧
      (∀ content, columnsRead fd content = none →
        (((new fd buf).run contents).collect content).2.prevIdle = ((new fd buf).run contents).prevIdle ∧
          (((new fd buf).run contents).collect content).2.prevTotal = ((new fd buf).run contents).prevTotal) ∧
      ∀ first last, (contents.filterMap (columnsRead fd)).head? = some first →
        (contents.filterMap (columnsRead fd)).getLast? = some last →
        (contents.filterMap (columnsRead fd)).IsChain CpuTimes.Advances →
        (∀ t ∈ contents.filterMap (columnsRead fd), t.total < 2 ^ 64) → first.total ≠ 0 →
          charged ((new fd buf).reports contents) = last.busy - first.busy := by
  have hnew : (new fd buf).Baseline none := ⟨rfl, rfl⟩
  refine ⟨?_, ?_, ?_⟩
  · have hrun := run_baseline contents hnew
    rw [Option.or_none] at hrun
    show (((new fd buf).run contents).prevIdle, _) =
      match (contents.filterMap (columnsRead (new fd buf).fd)).getLast? with
        | some t => (t.idleTime, t.totalTime)
        | none => (0, 0)
    cases hlast : (contents.filterMap (columnsRead (new fd buf).fd)).getLast? with
    | none =>
      rw [hlast] at hrun
      exact Prod.ext hrun.1 hrun.2
    | some t =>
      rw [hlast] at hrun
      exact Prod.ext hrun.1 hrun.2
  · intro content hnone
    have hfd : ((new fd buf).run contents).fd = fd := run_fd contents _
    have hsample : ((new fd buf).run contents).sample content = none := by rw [sample_eq, hfd, hnone]
    exact (collect_of_no_sample hsample).2
  · intro first last hfirst hlast hadv hfit hpos
    have hcharged := charged_new contents hnew hfirst hpos hadv hfit
    rw [hcharged]
    show (((contents.filterMap (columnsRead fd)).getLast?).getD first).busy - first.busy = _
    rw [hlast, Option.getD_some]

/-- Two samples with a failed and an empty read between them: 3 busy ticks of 4. -/
theorem baseline_conserved_two :
    charged ((new 3 []).reports [some "cpu  1 0 0 1 0 0 0 0\n".toList, none, some [],
        some "cpu  4 0 0 2 0 0 0 0\n".toList]) =
      CpuTimes.busy ⟨4, 0, 0, 2, 0, 0, 0, 0⟩ - CpuTimes.busy ⟨1, 0, 0, 1, 0, 0, 0, 0⟩ := by
  have hread : [some "cpu  1 0 0 1 0 0 0 0\n".toList, none, some [],
      some "cpu  4 0 0 2 0 0 0 0\n".toList].filterMap (columnsRead 3) =
      [⟨1, 0, 0, 1, 0, 0, 0, 0⟩, ⟨4, 0, 0, 2, 0, 0, 0, 0⟩] := by decide +kernel
  have hall := (baseline_conserved 3 [] [some "cpu  1 0 0 1 0 0 0 0\n".toList, none, some [],
    some "cpu  4 0 0 2 0 0 0 0\n".toList]).2.2
  rw [hread] at hall
  refine hall _ _ rfl rfl ?_ ?_ (by decide)
  · decide
  · decide

end CpuCollector

end TimeAgent
