/-
The watched interface over whole runs: the ptp4l handler sets it from the port sentences, the snapshots
read it. While no two of these calls overlap, the network group of a snapshot comes from the files of
the interface that the last port sentence named.
-/
import TimeAgent.Agent.Lines
import TimeAgent.Metrics.System

namespace TimeAgent

open CText Handles NetworkCollector

/-! ## Turns -/

/-- What the agent does to its `SysMetricsCollector` at a time: it handles a ptp4l record, with the
answers to the calls of `open` if the record names an interface, or it takes a snapshot. -/
inductive Turn
  | record (r : Ptp4lRecord) (answers : List (Option Nat))
  | snapshot (nowUs : Nat) (content : Nat → Option Str)

def Effect.sysCall (answers : List (Option Nat)) : Effect → Option SysMetricsCollector.Call
  | .setInterface interface => some (.setInterface interface answers)
  | .send _ => none

def Turn.calls (config : AgentConfig) : Turn → List SysMetricsCollector.Call
  | .record r answers => (ptp4lHandler config r.machine r.event).filterMap (Effect.sysCall answers)
  | .snapshot nowUs content => [.collect nowUs content]

/-- The interface that the turn makes the agent watch. -/
def Turn.watches : Turn → Option (Str × List (Option Nat))
  | .record r answers => r.line.watched.map fun interface => (interface, answers)
  | .snapshot _ _ => none

theorem Ptp4lLine.watched_ne_nil {line : Ptp4lLine} {interface : Str} (h : line.watched = some interface) :
    interface ≠ [] := by
  unfold Ptp4lLine.watched at h
  split at h
  · rename_i l
    split at h
    · cases h
    · cases h
      exact l.name.ne
  · cases h

theorem Turn.watches_ne_nil {t : Turn} {interface : Str} {answers : List (Option Nat)}
    (h : t.watches = some (interface, answers)) : interface ≠ [] := by
  cases t with
  | snapshot nowUs content => cases h
  | record r answers =>
    obtain ⟨name, hname, hpair⟩ := Option.map_eq_some_iff.1 h
    cases hpair
    exact Ptp4lLine.watched_ne_nil hname

theorem Turn.calls_record (config : AgentConfig) (r : Ptp4lRecord) (answers : List (Option Nat)) :
    Turn.calls config (.record r answers) =
      (r.line.watched.map fun interface => SysMetricsCollector.Call.setInterface interface answers).toList := by
  show (ptp4lHandler config r.machine r.event).filterMap (Effect.sysCall answers) = _
  rw [ptp4lHandler_line, List.filterMap_append]
  cases r.line.watched <;> cases r.call config <;> rfl

/-- A turn records what it watches. -/
theorem Turn.foldl_record (config : AgentConfig) (t : Turn) (last : Option (Str × List (Option Nat))) :
    ((t.calls config).map SysMetricsCollector.Call.network).foldl Members.record last = t.watches.or last := by
  cases t with
  | snapshot nowUs content => rfl
  | record r answers =>
    rw [Turn.calls_record]
    show _ = (r.line.watched.map fun interface => (interface, answers)).or last
    cases r.line.watched <;> rfl

/-- Over any turns the last `setInterface` is that of the last turn that watches an interface. -/
theorem foldl_record_turns (config : AgentConfig) (turns : List Turn) (last : Option (Str × List (Option Nat))) :
    ((turns.flatMap (Turn.calls config)).map SysMetricsCollector.Call.network).foldl Members.record last =
      (turns.filterMap Turn.watches).getLast?.or last := by
  induction turns generalizing last with
  | nil => rfl
  | cons t turns ih =>
    rw [List.flatMap_cons, List.map_append, List.foldl_append, Turn.foldl_record, ih, List.filterMap_cons]
    cases t.watches with
    | none => rfl
    | some set =>
      rw [List.getLast?_cons]
      cases (turns.filterMap Turn.watches).getLast? <;> rfl

/-! ## Without a descriptor -/

/-- A metric whose file was not opened leaves the snapshot without the group. -/
theorem NetworkCollector.collectEntries_unopened (files : Table Nat Str) (content : Nat → Option Str)
    (base interface : Str) {ms : List MetricDef} {answers : List (Option Nat)} (hlength : answers.length = ms.length)
    (h : none ∈ answers) (metrics : NetworkStats) :
    collectEntries files content (List.zipWith (entryOf base interface) ms answers) metrics = some none := by
  induction ms generalizing answers metrics with
  | nil =>
    cases List.length_eq_zero_iff.1 hlength
    cases h
  | cons m ms ih =>
    obtain ⟨answer, answers, rfl⟩ := List.exists_cons_of_length_eq_add_one hlength
    rw [List.zipWith_cons_cons, collectEntries_cons]
    cases hnumber : answer.bind (numberOf files content) with
    | none => rfl
    | some v =>
      refine ih (Nat.succ.inj hlength) ((List.mem_cons.1 h).resolve_left ?_) _
      rintro rfl
      cases hnumber

/-! ## Snapshots -/

variable {sensors : List Str} {paths : SystemPaths} {hwmon : Hwmon} {order : MapOrder} {opens : Opens}
  {cpuBuf memoryBuf : Str}

/-- After any records and snapshots the network group is absent as long as no port sentence named an
interface; behind one it is that of the last interface named: its files are open, one that is not
leaves the group absent, and numbers that they hold are those of the group. -/
theorem watched_of_turns (config : AgentConfig) {s₀ s : SysMetricsCollector} {turns : List Turn}
    (hnew : SysMetricsCollector.new sensors paths hwmon order opens cpuBuf memoryBuf = some (.ok s₀))
    (hrun : LTS.run (SysMetricsCollector.call paths.netStats) s₀ (turns.flatMap (Turn.calls config)) = some s)
    (nowUs : Nat) (content : Nat → Option Str) :
    ∃ stats s', s.collect nowUs content = some (stats, s') ∧
      (turns.filterMap Turn.watches = [] → stats.networkStats = none) ∧
      ∀ interface answers, (turns.filterMap Turn.watches).getLast? = some (interface, answers) →
        (∀ (i : Nat) (m : MetricDef) (fd : Nat), kNetworkMetrics[i]? = some m → answers[i]? = some (some fd) →
          s.files.opened fd = some (cstr (metricPath paths.netStats interface m))) ∧
        (none ∈ answers → stats.networkStats = none) ∧
        ∀ printed, List.Forall₂ (Members.Printed content printed) kNetworkMetrics answers →
          stats.networkStats = some printed := by
  have hinv := SysMetricsCollector.inv_of_run hnew hrun
  obtain ⟨alone, halone⟩ := hinv.network
  obtain ⟨result, s', hresult, hcollect, _⟩ := hinv.collect halone nowUs content
  have hset := Members.inv_of_run halone.1
  have hlast : Members.lastSet ((turns.flatMap (Turn.calls config)).map SysMetricsCollector.Call.network) =
      (turns.filterMap Turn.watches).getLast? := by
    unfold Members.lastSet
    rw [foldl_record_turns, Option.or_none]
  rw [hlast] at hset
  refine ⟨_, s', hcollect, fun hnone => ?_, fun interface answers hsome => ?_⟩
  · rw [hnone] at hset
    have hempty : alone.collect content = some none := if_pos hset.asSet.1
    rw [hempty] at hresult
    exact (Option.some.inj hresult).symm
  · rw [hsome] at hset
    obtain ⟨t, _, ht⟩ := List.mem_filterMap.1 (List.mem_of_getLast? hsome)
    have hne := Turn.watches_ne_nil ht
    obtain ⟨hname, hlength, hentries⟩ := hset.asSet
    refine ⟨fun i m fd hm hfd => ?_, fun hmem => ?_, fun printed hprinted => ?_⟩
    · rw [hinv.holds.opened]
      unfold SysMetricsCollector.owned
      rw [← halone.2.2, hentries]
      simp only [List.mem_append]
      refine .inr (.inr (.inl (mem_held.2 ⟨entryOf paths.netStats interface m (some fd), ?_, rfl, rfl⟩)))
      exact List.mem_of_getElem? (List.getElem?_zipWith_eq_some.2 ⟨m, some fd, hm, hfd, rfl⟩)
    · have hunopened : alone.collect content = some none := by
        unfold Members.collect
        rw [if_neg (hname ▸ hne), hentries]
        exact collectEntries_unopened _ _ _ _ hlength hmem _
      rw [hunopened] at hresult
      exact (Option.some.inj hresult).symm
    · rw [hset.collect_printed hne hprinted] at hresult
      exact (Option.some.inj hresult).symm

/-- `[1.5] port 1 (eth0): INITIALIZING to LISTENING on INIT_COMPLETE`. -/
def eth0Record : Ptp4lRecord where
  tsUsec := 5000000
  unit := "ptp4l".toList
  line := .port
    { ts := oneStamp
      port := oneState
      name := { text := "eth0".toList, ne := by simp, le := by decide, noParen := by decide, noNul := by decide }
      fromState := { text := "INITIALIZING".toList, token := by decide, le := by decide, noNul := by decide }
      toState := { text := "LISTENING".toList, token := by decide, le := by decide, noNul := by decide }
      trigger := "INIT_COMPLETE".toList
      triggerNe := by simp
      triggerLe := by decide
      triggerStops := by simp [isspace]
      triggerNoNewline := by decide
      triggerNoNul := by decide }
  machine := { resolve := fun _ => [], exec := fun _ _ => none, nowUs := 0, unspecified := fun _ => 0 }

def eth0Turns : List Turn :=
  [.snapshot 1 SysMetricsCollector.proc, .record eth0Record (List.ofFn fun i : Fin 7 => some (6 + i)),
    .snapshot 2 SysMetricsCollector.proc]

/-- Between two snapshots ptp4l names `eth0`; all of its counters are 7. -/
theorem watched_of_turns_eth0 :
    ∃ s₀ s stats s', SysMetricsCollector.new [] {} { entries := [] } TemperatureCollector.yieldOrder
        { zones := [], procStat := some 4, procMeminfo := none } [] [] = some (.ok s₀) ∧
      LTS.run (SysMetricsCollector.call "/sys/class/net".toList) s₀
          (eth0Turns.flatMap (Turn.calls { node := "node".toList, configPtpTopology := {} })) = some s ∧
      s.collect 3 SysMetricsCollector.proc = some (stats, s') ∧ stats.networkStats = some ⟨7, 7, 7, 7, 7, 7, 7⟩ := by
  have hbuilt : ((SysMetricsCollector.new [] {} { entries := [] } TemperatureCollector.yieldOrder
      { zones := [], procStat := some 4, procMeminfo := none } [] []).map fun r =>
        (r.toOption.bind fun s₀ => LTS.run (SysMetricsCollector.call "/sys/class/net".toList) s₀
          (eth0Turns.flatMap (Turn.calls { node := "node".toList, configPtpTopology := {} }))).isSome) = some true := by
    decide +kernel
  obtain ⟨r, hnew, hr⟩ := Option.map_eq_some_iff.1 hbuilt
  obtain ⟨s, hs⟩ := Option.isSome_iff_exists.1 hr
  obtain ⟨s₀, hs₀, hrun⟩ := Option.bind_eq_some_iff.1 hs
  cases r with
  | error left => cases hs₀
  | ok s₀ =>
    cases hs₀
    obtain ⟨stats, s', hcollect, _, hnamed⟩ :=
      watched_of_turns { node := "node".toList, configPtpTopology := {} } hnew hrun 3 SysMetricsCollector.proc
    refine ⟨s₀, s, stats, s', hnew, hrun, hcollect, (hnamed "eth0".toList _ rfl).2.2 ⟨7, 7, 7, 7, 7, 7, 7⟩ ?_⟩
    have hseven : ∀ (m : MetricDef) (fd : Nat), SysMetricsCollector.proc fd = some "7\n".toList →
        Members.Printed SysMetricsCollector.proc ⟨7, 7, 7, 7, 7, 7, 7⟩ m (some fd) := by
      intro m fd hfd
      have hget : (NetworkStats.get ⟨7, 7, 7, 7, 7, 7, 7⟩ m.field).toNat = 7 := by cases m.field <;> rfl
      refine ⟨fd, "\n".toList, rfl, ?_, by simp⟩
      rw [hfd, hget]
      rfl
    have hall : List.Forall₂ (Members.Printed SysMetricsCollector.proc ⟨7, 7, 7, 7, 7, 7, 7⟩) kNetworkMetrics
        [some 6, some 7, some 8, some 9, some 10, some 11, some 12] :=
      .cons (hseven _ 6 rfl) (.cons (hseven _ 7 rfl) (.cons (hseven _ 8 rfl) (.cons (hseven _ 9 rfl)
        (.cons (hseven _ 10 rfl) (.cons (hseven _ 11 rfl) (.cons (hseven _ 12 rfl) .nil))))))
    exact hall

end TimeAgent
