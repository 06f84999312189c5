/-
Any run, whether `stop` is called or not and wherever it falls: the calls of each reader thread stay
those of the events it took, in their order, the system-metrics thread sends nothing but snapshots,
and when `run` returns no event that was taken is left without its call.
-/
import TimeAgent.Agent.Order

namespace TimeAgent

open CText

/-! ## Snapshots -/

/-- A call of the system-metrics thread. -/
def AdapterCall.IsSnapshot (node : Str) (call : AdapterCall) : Prop := ∃ stats, call = .sendSysStatistics stats node

/-- Whatever the system-metrics thread has sent or is about to send is a snapshot. -/
def Snapshots (agent : Agent) (s : AgentState) : Prop :=
  ∀ call, (s.threads .sys).pending = some call ∨ (Thread.sys, call) ∈ s.log → call.IsSnapshot agent.config.node

/-- Apart from `collect` returning, no move gives the system-metrics thread a call. -/
theorem Moves.sysPending {agent : Agent} {s s' : AgentState} {t : Thread} {l : Label} (hmove : Moves agent s t l s')
    (hl : ∀ stats nowUs, l ≠ .collects stats nowUs) {call : AdapterCall}
    (h : (s'.threads .sys).pending = some call) : (s.threads .sys).pending = some call := by
  by_cases ht : Thread.sys = t
  · subst ht
    cases hmove with
    | collected _ _ hpc => exact absurd rfl (hl _ _)
    | hand ht => cases ht
    | lock hpc => rw [AgentState.go_threads_self] at h; rw [hpc]; exact h
    | loop => rw [AgentState.go_threads_self] at h; cases h
    | _ => rw [AgentState.go_threads_self] at h; cases h
  · rw [hmove.frame.2.2.1 _ ht] at h
    exact h

theorem Moves.snapshots {agent : Agent} {s s' : AgentState} {t : Thread} {l : Label} (hmove : Moves agent s t l s')
    (hl : ∀ stats nowUs, l ≠ .collects stats nowUs) (h : Snapshots agent s) : Snapshots agent s' := by
  rintro call (hpending | hlog)
  · exact h call (.inl (hmove.sysPending hl hpending))
  · rcases hmove.effect with ⟨_, heq, _⟩ | ⟨_, _, _, _, _, _, _, heq, _⟩ | ⟨sent, hpc, _, heq, _⟩
    · rw [heq] at hlog
      exact h call (.inr hlog)
    · rw [heq] at hlog
      exact h call (.inr hlog)
    · rw [heq, List.mem_append, List.mem_singleton, Prod.mk.injEq] at hlog
      rcases hlog with hlog | ⟨ht, hcall⟩
      · exact h call (.inr hlog)
      · subst ht hcall
        exact h call (.inl (by rw [hpc]; rfl))

/-- A step of `run` starts a thread or leaves it where it is. -/
theorem RunMoves.starts {agent : Agent} {s s' : AgentState} (hrun : RunMoves agent s s') (h : PhaseInv agent s)
    (t : Thread) : s'.threads t = s.threads t ∨ s.threads t = .unstarted ∧ s'.threads t = .checking := by
  have hplace := h.phase
  cases hrun with
  | @spawn k hm hk hh =>
    rw [hm] at hplace
    by_cases ht : t = .reader k
    · subst ht
      exact .inr ⟨hplace.1 k (Nat.le_refl k), AgentState.go_threads_self s (.reader k) .checking⟩
    · exact .inl (AgentState.go_threads_of_ne s _ ht)
  | spawnSys hm hk =>
    rw [hm] at hplace
    by_cases ht : t = .sys
    · subst ht
      exact .inr ⟨hplace.2.1, AgentState.go_threads_self s .sys .checking⟩
    · exact .inl (AgentState.go_threads_of_ne s _ ht)
  | _ => exact .inl rfl

theorem RunMoves.pending {agent : Agent} {s s' : AgentState} (hrun : RunMoves agent s s') (h : PhaseInv agent s)
    (t : Thread) : (s'.threads t).pending = (s.threads t).pending := by
  rcases hrun.starts h t with heq | ⟨hpc, hpc'⟩
  · rw [heq]
  · rw [hpc, hpc']
    rfl

/-! ## The invariant -/

structure TakenInv (agent : Agent) (s : AgentState) : Prop where
  phase : PhaseInv agent s
  mutex : MutexInv s
  consumed : ∀ i, Consumed agent s i
  snapshots : Snapshots agent s

theorem takenInv_init (agent : Agent) : TakenInv agent agent.init where
  phase := phaseInv_init agent
  mutex := mutexInv_init agent
  consumed := fun _ => ⟨[], rfl, rfl⟩
  snapshots := by
    rintro call (hpending | hlog)
    · cases hpending
    · cases hlog

/-- A step that leaves events, log and calls at hand alone. -/
theorem Snapshots.congr {agent : Agent} {s s' : AgentState} (h : Snapshots agent s)
    (hpending : (s'.threads .sys).pending = (s.threads .sys).pending) (hlog : s'.log = s.log) :
    Snapshots agent s' := by
  unfold Snapshots
  rw [hpending, hlog]
  exact h

theorem takenInv_step {agent : Agent} {s s' : AgentState} {l : Label} (h : TakenInv agent s)
    (hs : agent.step s l = some s') : TakenInv agent s' := by
  have hphase := phaseInv_step h.phase hs
  have hmutex := mutexInv_step h.phase h.mutex hs
  cases trans_of_step hs with
  | main hrun =>
    obtain ⟨_, _, hlog, hevents, _⟩ := hrun.frame
    refine ⟨hphase, hmutex, fun i => ?_, h.snapshots.congr (hrun.pending h.phase .sys) hlog⟩
    exact (h.consumed i).congr (by rw [hevents]) (AgentState.calls_of_log_eq hlog _) (hrun.pending h.phase _)
  | stop hstop =>
    obtain ⟨hthreads, _, _, _, hlog, hevents⟩ := hstop.frame
    refine ⟨hphase, hmutex, fun i => ?_, h.snapshots.congr (by rw [hthreads]) hlog⟩
    exact (h.consumed i).congr (by rw [hevents]) (AgentState.calls_of_log_eq hlog _) (by rw [hthreads])
  | drain => exact ⟨hphase, hmutex, h.consumed, h.snapshots⟩
  | moves hmove =>
    refine ⟨hphase, hmutex, fun i => hmove.consumed (h.consumed i), ?_⟩
    by_cases hl : ∃ stats nowUs, l = .collects stats nowUs
    · -- the snapshot that `collect` returned goes into the call
      obtain ⟨stats, nowUs, rfl⟩ := hl
      unfold Agent.step Agent.collectsStep at hs
      dsimp only at hs
      split at hs
      · cases hs
        rintro call (hpending | hlog)
        · rw [AgentState.go_threads_self] at hpending
          cases hpending
          exact ⟨_, rfl⟩
        · exact h.snapshots call (.inr hlog)
      · cases hs
    · exact hmove.snapshots (fun stats nowUs heq => hl ⟨stats, nowUs, heq⟩) h.snapshots

theorem takenInv_of_run {agent : Agent} {ls : List Label} {s : AgentState}
    (hr : LTS.run agent.step agent.init ls = some s) : TakenInv agent s :=
  LTS.run_invariant (fun _ _ _ h hs => takenInv_step h hs) hr (takenInv_init agent)

/-! ## The run -/

theorem TakenInv.unhandled {agent : Agent} {s : AgentState} (h : TakenInv agent s) {i : Nat}
    (hhandler : agent.handler i = none) : s.calls (.reader i) = [] := by
  obtain ⟨handed, _, hcalls⟩ := (h.consumed i).made
  rw [hcalls, List.filterMap_eq_nil_iff]
  intro event _
  unfold Agent.call
  rw [hhandler]
  rfl

theorem TakenInv.exclusive {agent : Agent} {s : AgentState} (h : TakenInv agent s) {t u : Thread}
    (ht : (s.threads t).holds = true) (hu : (s.threads u).holds = true) : t = u := by
  have ht := (h.mutex t).1 ht
  rw [(h.mutex u).1 hu] at ht
  exact (Option.some.inj ht).symm

/-- When `run` has returned a reader has made the calls of all events it took. -/
theorem TakenInv.settled {agent : Agent} {s : AgentState} (h : TakenInv agent s) (hmain : s.main = .returned)
    {i : Nat} {handler : Handler} (hhandler : agent.handler i = some handler) :
    ∃ handed, agent.events i = handed ++ s.events i ∧ s.calls (.reader i) = handed.flatMap handler.calls := by
  have hdone : s.threads (.reader i) = .done := by
    have hplace := h.phase.phase
    rw [hmain] at hplace
    exact hplace.1 i (by rw [hhandler]; simp)
  obtain ⟨handed, hsplit, hcalls⟩ := h.consumed i
  rw [hdone, ← Agent.flatMap_calls hhandler] at hcalls
  refine ⟨handed, hsplit, ?_⟩
  simpa [ThreadPc.pending] using hcalls.symm

theorem TakenInv.snapshot {agent : Agent} {s : AgentState} (h : TakenInv agent s) {call : AdapterCall}
    (hcall : call ∈ s.calls .sys) : call.IsSnapshot agent.config.node := by
  unfold AgentState.calls at hcall
  obtain ⟨⟨t, call'⟩, hlog, heq⟩ := List.mem_filterMap.1 hcall
  dsimp only at heq
  split at heq
  · rename_i ht
    subst ht
    cases heq
    exact h.snapshots call (.inr hlog)
  · cases heq

/-- What the adapter has received in a state of any run. -/
structure Taken (agent : Agent) (s : AgentState) : Prop where
  /-- The calls of a collector are all calls of its handler for a prefix of its events. -/
  readers : ∀ i handler, agent.handler i = some handler →
    ∃ handed, handed <+: agent.events i ∧ s.calls (.reader i) = handed.flatMap handler.calls
  unhandled : ∀ i, agent.handler i = none → s.calls (.reader i) = []
  sys : ∀ call ∈ s.calls .sys, call.IsSnapshot agent.config.node
  /-- No two threads are in an adapter call. -/
  exclusive : ∀ t u, (s.threads t).holds = true → (s.threads u).holds = true → t = u
  /-- Behind the return of `run` each event was handled or is still at its source, and no call follows. -/
  returned : s.main = .returned →
    (∀ i handler, agent.handler i = some handler →
      ∃ handed, agent.events i = handed ++ s.events i ∧ s.calls (.reader i) = handed.flatMap handler.calls) ∧
    ∀ ls s', LTS.run agent.step s ls = some s' → s'.log = s.log

/-- In every state that the agent reaches under any schedule, with `stop` anywhere in it or not at all. -/
theorem taken_of_run (agent : Agent) {ls : List Label} {s : AgentState}
    (hr : LTS.run agent.step agent.init ls = some s) : Taken agent s := by
  have h := takenInv_of_run hr
  refine ⟨fun i handler hhandler => ?_, fun i => h.unhandled, fun call => h.snapshot, fun t u => h.exclusive,
    fun hmain => ⟨fun i handler hhandler => h.settled hmain hhandler, fun ls s' hr' => ?_⟩⟩
  · obtain ⟨handed, hmade, hcalls⟩ := (h.consumed i).made
    exact ⟨handed, hmade, hcalls.trans (Agent.flatMap_calls hhandler handed).symm⟩
  · exact log_of_returned h.phase hmain hr'

/-- The reader has taken the first of two events when `stop` runs; the second stays at its source. -/
theorem taken_of_run_stopped :
    ∃ agent s, LTS.run (Agent.step agent) agent.init
        (List.replicate 4 Label.main ++ List.replicate 2 (Label.thread (.reader 1)) ++ List.replicate 4 Label.stop ++
          List.replicate 4 (Label.thread (.reader 1)) ++ List.replicate 4 Label.main ++
          [Label.thread .sys, Label.main]) = some s ∧
      s.main = .returned ∧ (s.events 1).length = 1 ∧ (s.calls (.reader 1)).length = 1 ∧ Taken agent s := by
  have hsome : ((LTS.run
        (twoCollectors 0 "ppswatch" (List.replicate 2 "timestamp: 1, sequence: 2, offset: -7") true).step
        (twoCollectors 0 "ppswatch" (List.replicate 2 "timestamp: 1, sequence: 2, offset: -7") true).init
        (List.replicate 4 Label.main ++ List.replicate 2 (Label.thread (.reader 1)) ++ List.replicate 4 Label.stop ++
          List.replicate 4 (Label.thread (.reader 1)) ++ List.replicate 4 Label.main ++
          [Label.thread .sys, Label.main])).map fun s =>
      (s.main, (s.events 1).length, (s.calls (.reader 1)).length)) = some (.returned, 1, 1) := by
    decide +kernel
  obtain ⟨s, hs, hend⟩ := Option.map_eq_some_iff.1 hsome
  injection hend with hmain hend
  injection hend with hevents hcalls
  exact ⟨_, s, hs, hmain, hevents, hcalls, taken_of_run _ hs⟩

end TimeAgent
