/-
The snapshots from the files to the adapter: the threads together with the one collector object that the
ptp4l handler and the system-metrics thread call, in runs in which these calls do not overlap.
-/
import TimeAgent.Adapter.Lines
import TimeAgent.Agent.Watched

namespace TimeAgent

open CText

/-! ## The snapshots that were taken -/

/-- The call for what `collect` returned, with the time behind it. -/
def AdapterCall.ofSnapshot (node : Str) (stats : SystemStats) (nowUs : Nat) : AdapterCall :=
  .sendSysStatistics { stats with timestampUs := nowUs } node

/-- The time that the system-metrics thread takes in the step. -/
def Label.clock : Label → List Nat
  | .collects _ nowUs => [nowUs]
  | _ => []

/-- What `collect` returned in the step. -/
def Label.stats : Label → List SystemStats
  | .collects stats _ => [stats]
  | _ => []

theorem Label.length_clock (l : Label) : l.clock.length = l.stats.length := by
  unfold clock stats
  split <;> rfl

/-- The call that the system-metrics thread is to make after the step. -/
def Label.snapshot (node : Str) (l : Label) : List AdapterCall :=
  List.zipWith (AdapterCall.ofSnapshot node) l.stats l.clock

/-- The calls that the system-metrics thread has made, and the one at hand. -/
def AgentState.due (s : AgentState) : List AdapterCall := s.calls .sys ++ (s.threads .sys).pending.toList

section

variable {agent : Agent}

theorem AgentState.due_congr {s s' : AgentState} (hlog : s'.log = s.log)
    (hpending : (s'.threads .sys).pending = (s.threads .sys).pending) : s'.due = s.due := by
  unfold due
  rw [calls_of_log_eq hlog, hpending]

/-- Of the moves `collect` returning and the send change what the system-metrics thread has at hand. -/
theorem Moves.sysPending_eq {s s' : AgentState} {t : Thread} {l : Label} (hmove : Moves agent s t l s')
    (hl : ∀ stats nowUs, l ≠ .collects stats nowUs) (hsends : s.sends l = false) :
    (s'.threads .sys).pending = (s.threads .sys).pending := by
  by_cases ht : Thread.sys = t
  · subst ht
    cases hmove with
    | collected _ _ _ => exact absurd rfl (hl _ _)
    | hand ht => cases ht
    | noEvent ht => cases ht
    | send hpc =>
      rw [AgentState.sends_iff.2 ⟨_, _, rfl, hpc⟩] at hsends
      cases hsends
    | loop hpc | leave hpc | wake hpc | collect hpc | leaveAwake hpc | unhandled hpc | lock hpc | unlock hpc =>
      rw [AgentState.go_threads_self, hpc]
      rfl
  · rw [hmove.frame.2.2.1 _ ht]

/-- `collect` returning adds the snapshot. -/
theorem due_of_collects {s s' : AgentState} {stats : SystemStats} {nowUs : Nat}
    (hs : agent.step s (.collects stats nowUs) = some s') :
    s'.due = s.due ++ [AdapterCall.ofSnapshot agent.config.node stats nowUs] := by
  unfold Agent.step Agent.collectsStep at hs
  dsimp only at hs
  split at hs
  · rename_i hpc
    cases hs
    unfold AgentState.due
    rw [AgentState.go_threads_self, hpc]
    simp only [ThreadPc.pending, Option.toList_none, List.append_nil]
    rfl
  · cases hs

/-- The call at hand is made, and then it is no longer at hand. -/
theorem due_of_send {s s' : AgentState} {t : Thread} {call : AdapterCall} (hpc : s.threads t = .calling call)
    (hs : agent.step s (.thread t) = some s') : s'.due = s.due := by
  have hlog := log_of_send hpc hs
  have hs : agent.threadStep s t = some s' := hs
  unfold Agent.threadStep at hs
  rw [hpc] at hs
  dsimp only at hs
  split at hs
  · cases hs
    unfold AgentState.due
    rw [AgentState.calls_of_log_append hlog]
    by_cases ht : t = .sys
    · subst ht
      rw [if_pos rfl, AgentState.go_threads_self, hpc]
      simp [ThreadPc.pending]
    · rw [if_neg ht, AgentState.go_threads_of_ne _ _ (Ne.symm ht)]
      simp
  · cases hs

/-- A step adds the snapshot that was taken in it. -/
theorem due_of_step {s s' : AgentState} {l : Label} (h : PhaseInv agent s) (hs : agent.step s l = some s') :
    s'.due = s.due ++ l.snapshot agent.config.node := by
  by_cases hl : ∃ stats nowUs, l = .collects stats nowUs
  · obtain ⟨stats, nowUs, rfl⟩ := hl
    exact due_of_collects hs
  · have hnone : l.snapshot agent.config.node = [] := by
      cases l <;> first | rfl | exact absurd ⟨_, _, rfl⟩ hl
    rw [hnone, List.append_nil]
    cases hsends : s.sends l with
    | true =>
      obtain ⟨t, call, rfl, hpc⟩ := AgentState.sends_iff.1 hsends
      exact due_of_send hpc hs
    | false =>
      refine AgentState.due_congr (log_of_step hs hsends) ?_
      cases trans_of_step hs with
      | main hrun => exact hrun.pending h .sys
      | stop hstop => rw [hstop.frame.1]
      | drain => rfl
      | moves hmove => exact hmove.sysPending_eq (fun stats nowUs heq => hl ⟨stats, nowUs, heq⟩) hsends

end

/-! ## The reports -/

/-- The interface that the handler makes the network collector watch. -/
def Effect.interface : Effect → Option Str
  | .setInterface interface => some interface
  | .send _ => none

def SysMetricsCollector.Call.interface : SysMetricsCollector.Call → Option Str
  | .setInterface interface _ => some interface
  | .collect _ _ => none

namespace SysMetricsCollector

variable (netStats : Str) (s₀ : SysMetricsCollector)

/-- The snapshot behind the calls, each group from its collector alone. -/
def report (past : List Call) (nowUs : Nat) (content : Nat → Option Str) : SystemStats :=
  let alone := LTS.run (NetworkCollector.Members.call netStats) {} (past.map Call.network)
  groups s₀ past (alone.bind fun alone => alone.collect content).join nowUs content

/-- The snapshots of the calls behind those of `past`. -/
def reports (past : List Call) : List Call → List SystemStats
  | [] => []
  | .setInterface interface answers :: calls => reports (past ++ [.setInterface interface answers]) calls
  | .collect nowUs content :: calls =>
    report netStats s₀ past nowUs content :: reports (past ++ [.collect nowUs content]) calls

theorem reports_append (past calls calls' : List Call) :
    reports netStats s₀ past (calls ++ calls') =
      reports netStats s₀ past calls ++ reports netStats s₀ (past ++ calls) calls' := by
  induction calls generalizing past with
  | nil => rw [List.nil_append, List.append_nil]; rfl
  | cons call calls ih =>
    cases call with
    | setInterface interface answers =>
      rw [List.cons_append, reports, reports, ih, List.append_assoc, List.singleton_append]
    | collect nowUs content =>
      rw [List.cons_append, reports, reports, ih, List.append_assoc, List.singleton_append, List.cons_append]

variable {netStats s₀} {paths : SystemPaths} {past : List Call} {s s' : SysMetricsCollector}

theorem reports_eq_nil {calls : List Call} (h : ∀ call ∈ calls, call.interface ≠ none) (past : List Call) :
    reports netStats s₀ past calls = [] := by
  induction calls generalizing past with
  | nil => rfl
  | cons call calls ih =>
    rw [List.forall_mem_cons] at h
    cases call with
    | setInterface interface answers => exact ih h.2 _
    | collect nowUs content => exact absurd rfl h.1

/-- `collect` gives the report. -/
theorem Inv.report (h : Inv paths s₀ past s) (nowUs : Nat) (content : Nat → Option Str) :
    (s.collect nowUs content).map Prod.fst = some (report paths.netStats s₀ past nowUs content) := by
  obtain ⟨alone, halone⟩ := h.network
  obtain ⟨result, s', hresult, hcollect, _⟩ := h.collect halone nowUs content
  unfold SysMetricsCollector.report
  rw [hcollect, halone.1]
  dsimp only [Option.bind_some]
  rw [hresult]
  rfl

theorem Inv.calls {calls : List Call} (h : Inv paths s₀ past s)
    (hrun : LTS.run (SysMetricsCollector.call paths.netStats) s calls = some s') : Inv paths s₀ (past ++ calls) s' := by
  induction calls generalizing past s with
  | nil =>
    cases hrun
    rw [List.append_nil]
    exact h
  | cons c calls ih =>
    obtain ⟨s₁, hcall, hrun⟩ := LTS.run_cons.1 hrun
    rw [List.append_cons]
    exact ih (h.call hcall) hrun

end SysMetricsCollector

/-! ## The system -/

/-- The threads with the results of their calls, and the collector object with the calls made on it; and the
time that the system-metrics thread took behind each `collect`. -/
structure Whole where
  out : Outbound
  sys : SysMetricsCollector
  calls : List SysMetricsCollector.Call := []
  clock : List Nat := []

/-- A step, and what the kernel answers to the calls of `open` and `pread` in it. -/
structure WholeLabel where
  step : OutLabel
  answers : List (Option Nat) := []
  content : Nat → Option Str := fun _ => none

/-- What `collect` returned in the step is what the object gives. -/
def WholeLabel.agrees (l : WholeLabel) (sys : SysMetricsCollector) : Bool :=
  match l.step.step with
  | .collects stats _ => (sys.collect stats.timestampUs l.content).map Prod.fst = some stats
  | _ => true

namespace Agent

variable (agent : Agent)

/-- What the handler of the collector does with an event. -/
def handled (i : Nat) (event : Event) : List Effect :=
  match agent.handler i with
  | none => []
  | some handler => handler event.1 event.2

/-- What is done with the event that the step hands over. -/
def effects (s : AgentState) : Label → List Effect
  | .thread (.reader i) =>
    if s.threads (.reader i) = .reading then ((s.events i).head?.map (agent.handled i)).getD [] else []
  | _ => []

/-- The calls on the collector object in the step. -/
def sysCalls (s : AgentState) (l : WholeLabel) : List SysMetricsCollector.Call :=
  match l.step.step with
  | .collects stats _ => [.collect stats.timestampUs l.content]
  | step => (agent.effects s step).filterMap (Effect.sysCall l.answers)

/-- A step in which the calls on the collector object are made without another in between. -/
def wholeStep (netStats : Str) (s : Whole) (l : WholeLabel) : Option Whole := do
  let out ← agent.outStep s.out l.step
  let calls := agent.sysCalls s.out.state l
  let sys ← LTS.run (SysMetricsCollector.call netStats) s.sys calls
  if l.agrees s.sys then
    return { out, sys, calls := s.calls ++ calls, clock := s.clock ++ l.step.step.clock }
  else none

end Agent

theorem wholeStep_eq_some {agent : Agent} {netStats : Str} {s s' : Whole} {l : WholeLabel} :
    agent.wholeStep netStats s l = some s' ↔ ∃ out sys, agent.outStep s.out l.step = some out ∧
      LTS.run (SysMetricsCollector.call netStats) s.sys (agent.sysCalls s.out.state l) = some sys ∧
      l.agrees s.sys = true ∧
      s' = { out, sys, calls := s.calls ++ agent.sysCalls s.out.state l, clock := s.clock ++ l.step.step.clock } := by
  unfold Agent.wholeStep
  constructor
  · intro h
    obtain ⟨out, hout, h⟩ := Option.bind_eq_some_iff.1 h
    obtain ⟨sys, hsys, h⟩ := Option.bind_eq_some_iff.1 h
    split at h
    · rename_i hagrees
      exact ⟨out, sys, hout, hsys, hagrees, (Option.some.inj h).symm⟩
    · cases h
  · rintro ⟨out, sys, hout, hsys, hagrees, rfl⟩
    rw [hout, Option.bind_eq_bind, Option.bind_some]
    dsimp only
    rw [hsys, Option.bind_eq_bind, Option.bind_some, if_pos hagrees]
    rfl

/-! ## The interfaces -/

section

variable {agent : Agent}

/-- A move hands over the event that is worth its effects, or it has none and leaves the events alone. -/
theorem Moves.effects {s s' : AgentState} {t : Thread} {l : Label} (hmove : Moves agent s t l s') :
    agent.effects s l = [] ∧ s'.events = s.events ∨ ∃ i event events, s.events i = event :: events ∧
      s'.events = Function.update s.events i events ∧ agent.effects s l = agent.handled i event := by
  have hidle : ∀ pc, s.threads t = pc → pc ≠ .reading → agent.effects s (.thread t) = [] := by
    rintro pc rfl hpc
    cases t with
    | sys => rfl
    | reader i => exact if_neg hpc
  cases hmove with
  | @hand i event events ht hpc he =>
    subst ht
    refine .inr ⟨i, event, events, he, rfl, (if_pos hpc).trans ?_⟩
    rw [he]
    rfl
  | noEvent | collected => exact .inl ⟨rfl, rfl⟩
  | loop hpc | leave hpc | wake hpc | collect hpc | leaveAwake hpc | unhandled hpc | lock hpc | send hpc | unlock hpc =>
    exact .inl ⟨hidle _ hpc (by simp), rfl⟩

theorem effects_of_step {s s' : AgentState} {l : Label} (hs : agent.step s l = some s') :
    agent.effects s l = [] ∧ s'.events = s.events ∨ ∃ i event events, s.events i = event :: events ∧
      s'.events = Function.update s.events i events ∧ agent.effects s l = agent.handled i event := by
  cases trans_of_step hs with
  | main hrun => exact .inl ⟨rfl, hrun.frame.2.2.2.1⟩
  | stop hstop => exact .inl ⟨rfl, hstop.frame.2.2.2.2.2⟩
  | drain => exact .inl ⟨rfl, rfl⟩
  | moves hmove => exact hmove.effects

theorem effects_of_outStep {s s' : Outbound} {l : OutLabel} (hs : agent.outStep s l = some s') :
    agent.effects s.state l.step = [] ∧ s'.state.events = s.state.events ∨ ∃ i event events,
      s.state.events i = event :: events ∧ s'.state.events = Function.update s.state.events i events ∧
        agent.effects s.state l.step = agent.handled i event := by
  have heffects := effects_of_step (step_of_outStep hs)
  exact heffects

/-- The interfaces that the handler of the collector names in the events. -/
def Agent.interfaces (agent : Agent) (i : Nat) (events : List Event) : List Str :=
  events.flatMap fun event => (agent.handled i event).filterMap Effect.interface

theorem sysCalls_interface (s : AgentState) (l : WholeLabel) :
    (agent.sysCalls s l).filterMap SysMetricsCollector.Call.interface =
      (agent.effects s l.step.step).filterMap Effect.interface := by
  obtain ⟨step, answers, content⟩ := l
  have heffects : ∀ effects : List Effect, (effects.filterMap (Effect.sysCall answers)).filterMap
      SysMetricsCollector.Call.interface = effects.filterMap Effect.interface := by
    intro effects
    rw [List.filterMap_filterMap]
    refine List.filterMap_congr fun effect _ => ?_
    cases effect <;> rfl
  unfold Agent.sysCalls
  dsimp only
  cases hl : step.step with
  | collects stats nowUs => rfl
  | _ => exact heffects _

/-- No handler but that of ptp4l names an interface. -/
theorem handled_interface (hnames : (agent.collectors.map ServiceCollector.name).Nodup) {i j : Nat}
    {c : ServiceCollector} (hc : agent.collectors[i]? = some c) (hname : c.name = "ptp4l".toList) (hj : j ≠ i)
    (event : Event) : (agent.handled j event).filterMap Effect.interface = [] := by
  unfold Agent.handled Agent.handler
  cases hc' : agent.collectors[j]? with
  | none => rfl
  | some c' =>
    have hother : c'.name ≠ "ptp4l".toList := fun hsame =>
      hj (Agent.index_of_name hnames hc hc' (hsame.trans hname.symm))
    rw [Option.bind_some]
    unfold buildHandlers
    rw [if_neg hother]
    by_cases hphc2sys : c'.name = "phc2sys".toList
    · rw [if_pos hphc2sys]
      unfold phc2sysHandler
      dsimp only
      split
      · rfl
      · split <;> rfl
    · rw [if_neg hphc2sys]
      by_cases hppswatch : c'.name = "ppswatch".toList
      · rw [if_pos hppswatch]
        unfold ppswatchHandler
        dsimp only
        split <;> rfl
      · rw [if_neg hppswatch]
        rfl

/-- The interfaces that were set are those of the events that the reader took. -/
def Watches (agent : Agent) (s : Whole) (i : Nat) : Prop :=
  ∃ handed, agent.events i = handed ++ s.out.state.events i ∧
    s.calls.filterMap SysMetricsCollector.Call.interface = agent.interfaces i handed

theorem watches_step (hnames : (agent.collectors.map ServiceCollector.name).Nodup) {netStats : Str} {i : Nat}
    {c : ServiceCollector} (hc : agent.collectors[i]? = some c) (hname : c.name = "ptp4l".toList) {s s' : Whole}
    {l : WholeLabel} (h : Watches agent s i) (hs : agent.wholeStep netStats s l = some s') : Watches agent s' i := by
  obtain ⟨out, sys, hout, _, _, rfl⟩ := wholeStep_eq_some.1 hs
  obtain ⟨handed, hsplit, hcalls⟩ := h
  unfold Watches
  dsimp only
  rw [List.filterMap_append, sysCalls_interface, hcalls]
  rcases effects_of_outStep hout with ⟨hnone, hevents⟩ | ⟨j, event, events, he, hevents, heffects⟩
  · refine ⟨handed, by rw [hevents, hsplit], ?_⟩
    rw [hnone, List.filterMap_nil, List.append_nil]
  · rw [heffects, hevents]
    by_cases hj : j = i
    · subst hj
      refine ⟨handed ++ [event], ?_, ?_⟩
      · rw [hsplit, he, Function.update_self, List.append_assoc, List.singleton_append]
      · unfold Agent.interfaces
        rw [List.flatMap_append, List.flatMap_singleton]
    · refine ⟨handed, by rw [Function.update_of_ne (Ne.symm hj), hsplit], ?_⟩
      rw [handled_interface hnames hc hname hj, List.append_nil]

/-! ## The invariant -/

/-- The calls for the snapshots that the object gave. -/
def Whole.snapshots (netStats : Str) (s₀ : SysMetricsCollector) (node : Str) (s : Whole) : List AdapterCall :=
  List.zipWith (AdapterCall.ofSnapshot node) (s₀.reports netStats [] s.calls) s.clock

variable {paths : SystemPaths} {s₀ : SysMetricsCollector}

structure WholeInv (agent : Agent) (paths : SystemPaths) (s₀ : SysMetricsCollector) (s : Whole) : Prop where
  reached : LTS.Reaches agent.outStep agent.outInit s.out
  sys : SysMetricsCollector.Inv paths s₀ s.calls s.sys
  clock : s.clock.length = (s₀.reports paths.netStats [] s.calls).length
  due : s.out.state.due = s.snapshots paths.netStats s₀ agent.config.node

theorem wholeInv_init (h : SysMetricsCollector.Inv paths s₀ [] s₀) :
    WholeInv agent paths s₀ { out := agent.outInit, sys := s₀ } where
  reached := LTS.reaches_refl _
  sys := h
  clock := rfl
  due := rfl

/-- The reports of a step are what `collect` returned in it. -/
theorem reports_sysCalls {s : Whole} {l : WholeLabel} (h : SysMetricsCollector.Inv paths s₀ s.calls s.sys)
    (hagrees : l.agrees s.sys = true) :
    s₀.reports paths.netStats s.calls (agent.sysCalls s.out.state l) = l.step.step.stats := by
  obtain ⟨step, answers, content⟩ := l
  unfold WholeLabel.agrees at hagrees
  unfold Agent.sysCalls
  dsimp only at hagrees ⊢
  split at hagrees
  · rename_i stats nowUs hl
    rw [decide_eq_true_eq, h.report] at hagrees
    rw [hl, SysMetricsCollector.reports, Option.some.inj hagrees]
    rfl
  · rename_i hother
    have hstats : step.step.stats = [] := by
      unfold Label.stats
      split
      · rename_i hl
        exact absurd hl (hother _ _)
      · rfl
    rw [hstats]
    refine SysMetricsCollector.reports_eq_nil (fun call hcall => ?_) _
    obtain ⟨effect, _, heffect⟩ := List.mem_filterMap.1 hcall
    cases effect with
    | send => cases heffect
    | setInterface interface => cases heffect; exact Option.some_ne_none _

theorem wholeInv_step {s s' : Whole} {l : WholeLabel} (h : WholeInv agent paths s₀ s)
    (hs : agent.wholeStep paths.netStats s l = some s') : WholeInv agent paths s₀ s' := by
  obtain ⟨out, sys, hout, hsys, hagrees, rfl⟩ := wholeStep_eq_some.1 hs
  obtain ⟨ls, hr⟩ := h.reached
  have hdue := due_of_step (takenInv_of_run (Outbound.simulated hr)).phase (step_of_outStep hout)
  have hreports : s₀.reports paths.netStats [] (s.calls ++ agent.sysCalls s.out.state l) =
      s₀.reports paths.netStats [] s.calls ++ l.step.step.stats := by
    rw [SysMetricsCollector.reports_append, List.nil_append, reports_sysCalls h.sys hagrees]
  refine ⟨h.reached.trans (LTS.reaches_single hout), h.sys.calls hsys, ?_, ?_⟩
  · rw [hreports, List.length_append, List.length_append, h.clock, Label.length_clock]
  · unfold Whole.snapshots
    dsimp only
    rw [hreports, List.zipWith_append h.clock.symm, hdue, h.due]
    rfl

end

/-! ## The run -/

/-- What the system-metrics thread has sent of the reports that the collectors alone give. -/
structure Reported (agent : Agent) (netStats : Str) (s₀ : SysMetricsCollector) (s : Whole) : Prop where
  /-- Each report has its time. -/
  clock : s.clock.length = (s₀.reports netStats [] s.calls).length
  /-- In their order and each once, and at most the last is still to come. -/
  made : s.out.state.calls .sys <+: s.snapshots netStats s₀ agent.config.node
  last : (s.snapshots netStats s₀ agent.config.node).length ≤ (s.out.state.calls .sys).length + 1
  returned : s.out.state.main = .returned → s.out.state.calls .sys = s.snapshots netStats s₀ agent.config.node
  accepted : (s.out.acceptedOf .sys).Sublist (s.out.state.calls .sys)
  all : (∀ result ∈ s.out.results, result = true) → s.out.acceptedOf .sys = s.out.state.calls .sys
  /-- The interfaces set are those that the handler of ptp4l named, in the order of the events. -/
  interfaces : ∀ (i : Nat) (c : ServiceCollector), agent.collectors[i]? = some c → c.name = "ptp4l".toList →
    ∃ handed, handed <+: c.events ∧
      s.calls.filterMap SysMetricsCollector.Call.interface = agent.interfaces i handed

/-- In any run in which no two calls on the collector object overlap. -/
theorem reports_accepted {agent : Agent} {sensors : List Str} {paths : SystemPaths} {hwmon : Hwmon} {order : MapOrder}
    {opens : Opens} {cpuBuf memoryBuf : Str} {s₀ : SysMetricsCollector}
    (hnames : (agent.collectors.map ServiceCollector.name).Nodup)
    (hnew : SysMetricsCollector.new sensors paths hwmon order opens cpuBuf memoryBuf = some (.ok s₀))
    {ls : List WholeLabel} {s : Whole}
    (hr : LTS.run (agent.wholeStep paths.netStats) { out := agent.outInit, sys := s₀ } ls = some s) :
    Reported agent paths.netStats s₀ s := by
  have hinit : SysMetricsCollector.Inv paths s₀ [] s₀ := SysMetricsCollector.inv_of_run hnew rfl
  have hinv := LTS.run_invariant (fun _ _ _ h hs => wholeInv_step h hs) hr (wholeInv_init hinit)
  obtain ⟨outs, hout⟩ := hinv.reached
  have hdue := hinv.due
  obtain ⟨hsub, hall⟩ := Outbound.acceptedOf_sublist (answered_of_run hout) .sys
  refine ⟨hinv.clock, ⟨_, hdue⟩, ?_, fun hreturned => ?_, hsub, hall, fun i c hc hname => ?_⟩
  · rw [← hdue]
    unfold AgentState.due
    rw [List.length_append]
    cases (s.out.state.threads .sys).pending <;> simp
  · have hdone : s.out.state.threads .sys = .done := by
      have hplace := (TakenInv.outbound hout).phase.phase
      rw [hreturned] at hplace
      exact hplace.2
    rw [← hdue]
    unfold AgentState.due
    rw [hdone]
    exact (List.append_nil _).symm
  · obtain ⟨handed, hsplit, hcalls⟩ := LTS.run_invariant (P := fun s => Watches agent s i)
      (fun _ _ _ h hs => watches_step hnames hc hname h hs) hr ⟨[], rfl, rfl⟩
    rw [Agent.events_eq hc] at hsplit
    exact ⟨handed, ⟨_, hsplit.symm⟩, hcalls⟩

/-- An agent that is handed the record of `eth0`. -/
def eth0Agent : Agent where
  config := { node := "node".toList, configPtpTopology := {} }
  collectors := [{ name := "ptp4l".toList, events := [(eth0Record.machine, eth0Record.event)], ends := true }]
  queueSize := 2

/-- A snapshot whose files other than those of the network are missing. -/
def statsAt (timestampUs : Nat) (networkStats : Option NetworkStats) : SystemStats where
  timestampUs
  temperatureStats := some { zonesReadings := [] }
  networkStats
  cpuStats := none
  memoryStats := none

/-- The system-metrics thread wakes, takes the snapshot and sends it. -/
def collectSteps (stats : SystemStats) (nowUs : Nat) (answer : SendAnswer) : List WholeLabel :=
  List.replicate 3 { step := .agent (.thread .sys) } ++
    [{ step := .agent (.collects stats nowUs), content := SysMetricsCollector.proc }, { step := .agent (.thread .sys) },
      { step := .send .sys true answer }, { step := .agent (.thread .sys) }]

/-- Between two snapshots the record is handled; the first snapshot fails to be sent. -/
def eth0Steps : List WholeLabel :=
  List.replicate 3 { step := .agent .main } ++ collectSteps (statsAt 1 none) 2 .error ++
    [{ step := .agent (.thread (.reader 0)) },
      { step := .agent (.thread (.reader 0)), answers := List.ofFn fun i : Fin 7 => some (6 + i) }] ++
    collectSteps (statsAt 3 (some ⟨7, 7, 7, 7, 7, 7, 7⟩)) 4 .sent

theorem reports_accepted_eth0 :
    ∃ s₀ s, SysMetricsCollector.new [] {} { entries := [] } TemperatureCollector.yieldOrder
        { zones := [], procStat := none, procMeminfo := none } [] [] = some (.ok s₀) ∧
      LTS.run (eth0Agent.wholeStep "/sys/class/net".toList) { out := eth0Agent.outInit, sys := s₀ } eth0Steps =
        some s ∧ s.clock = [2, 4] ∧ s.out.results = [false, true] ∧ (s.out.acceptedOf .sys).length = 1 ∧
      Reported eth0Agent "/sys/class/net".toList s₀ s := by
  have hbuilt : ((SysMetricsCollector.new [] {} { entries := [] } TemperatureCollector.yieldOrder
      { zones := [], procStat := none, procMeminfo := none } [] []).map fun r =>
        (r.toOption.bind fun s₀ => LTS.run (eth0Agent.wholeStep "/sys/class/net".toList)
          { out := eth0Agent.outInit, sys := s₀ } eth0Steps).map fun s =>
            (s.clock, s.out.results, (s.out.acceptedOf .sys).length)) =
      some (some ([2, 4], [false, true], 1)) := by
    decide +kernel
  obtain ⟨r, hnew, hr⟩ := Option.map_eq_some_iff.1 hbuilt
  obtain ⟨s, hs, hend⟩ := Option.map_eq_some_iff.1 hr
  obtain ⟨s₀, hs₀, hrun⟩ := Option.bind_eq_some_iff.1 hs
  injection hend with hclock hend
  injection hend with hresults haccepted
  cases r with
  | error left => cases hs₀
  | ok s₁ =>
    cases hs₀
    exact ⟨s₀, s, hnew, hrun, hclock, hresults, haccepted, reports_accepted (by decide) hnew hrun⟩

end TimeAgent
