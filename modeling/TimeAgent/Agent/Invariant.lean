/-
What holds in every state the agent's threads reach, whether `stop` is called or not: who has the
mutex, and which threads have started and ended by the place of `run`.
-/
import TimeAgent.Agent.Threads

namespace TimeAgent

/-! ## Places -/

/-- In an adapter call. -/
def ThreadPc.holds : ThreadPc → Bool
  | .calling _ | .called => true
  | _ => false

/-- In one of the loops. -/
def ThreadPc.active : ThreadPc → Bool
  | .unstarted | .done => false
  | _ => true

theorem Agent.handler_lt {agent : Agent} {i : Nat} (h : agent.handler i ≠ none) : i < agent.collectors.length := by
  by_contra hle
  apply h
  unfold Agent.handler
  rw [List.getElem?_eq_none (Nat.le_of_not_lt hle)]
  rfl

/-- A move is one of a thread in its loop, and only that thread goes elsewhere. -/
theorem Moves.frame {agent : Agent} {s s' : AgentState} {t : Thread} {l : Label} (h : Moves agent s t l s') :
    (s.threads t).active = true ∧ s'.threads t ≠ .unstarted ∧ (∀ u, u ≠ t → s'.threads u = s.threads u) ∧
      s'.main = s.main ∧ s'.stopping = s.stopping ∧ s'.running = s.running ∧
      s'.stopRequested = s.stopRequested := by
  have hgo : ∀ (r : AgentState) (pc : ThreadPc) u, u ≠ t → (r.go t pc).threads u = r.threads u :=
    fun r pc u hu => AgentState.go_threads_of_ne r pc hu
  cases h with
  | loop h hr =>
    refine ⟨by rw [h]; rfl, ?_, hgo s _, rfl, rfl, rfl, rfl⟩
    rw [AgentState.go_threads_self]
    cases t <;> simp [Thread.body]
  | leave h _ | hand _ h _ | noEvent _ h _ | wake h | collect h _ | leaveAwake h _ | collected _ _ h | unhandled h
  | lock h _ | send h _ | unlock h =>
    exact ⟨by rw [h]; rfl, by simp, hgo _ _, rfl, rfl, rfl, rfl⟩

/-- `stop` touches the flags only. -/
theorem StopMoves.frame {agent : Agent} {s s' : AgentState} (h : StopMoves agent s s') :
    s'.threads = s.threads ∧ s'.main = s.main ∧ s'.adapterMutex = s.adapterMutex ∧ s'.queue = s.queue ∧
      s'.log = s.log ∧ s'.events = s.events := by
  cases h <;> exact ⟨rfl, rfl, rfl, rfl, rfl, rfl⟩

/-- `run` touches no data of the threads, and starts a thread at most. -/
theorem RunMoves.frame {agent : Agent} {s s' : AgentState} (h : RunMoves agent s s') :
    s'.adapterMutex = s.adapterMutex ∧ s'.queue = s.queue ∧ s'.log = s.log ∧ s'.events = s.events ∧
      s'.stopping = s.stopping ∧ s'.stopRequested = s.stopRequested := by
  cases h <;> exact ⟨rfl, rfl, rfl, rfl, rfl, rfl⟩

theorem RunMoves.main_ne_returned {agent : Agent} {s s' : AgentState} (h : RunMoves agent s s') :
    s.main ≠ .returned := by
  cases h with
  | _ hm => rw [hm]; nofun

/-! ## Starting and ending -/

/-- Every reader thread has ended. -/
def ReadersDone (agent : Agent) (threads : Thread → ThreadPc) : Prop :=
  ∀ i, agent.handler i ≠ none → threads (.reader i) = .done

/-- Every thread has started. -/
def Started (agent : Agent) (threads : Thread → ThreadPc) : Prop :=
  (∀ i, agent.handler i ≠ none → threads (.reader i) ≠ .unstarted) ∧ threads .sys ≠ .unstarted

/-- What the place of `run` says about the threads. -/
def Phase (agent : Agent) (threads : Thread → ThreadPc) : MainPc → Prop
  | .entering => ∀ t, threads t = .unstarted
  | .spawning k => (∀ i, k ≤ i → threads (.reader i) = .unstarted) ∧ threads .sys = .unstarted ∧
      ∀ i < k, agent.handler i ≠ none → threads (.reader i) ≠ .unstarted
  | .joining k => Started agent threads ∧ ∀ i < k, agent.handler i ≠ none → threads (.reader i) = .done
  | .clearing | .joiningSys => Started agent threads ∧ ReadersDone agent threads
  | .returned => ReadersDone agent threads ∧ threads .sys = .done

structure PhaseInv (agent : Agent) (s : AgentState) : Prop where
  unhandled : ∀ i, agent.handler i = none → s.threads (.reader i) = .unstarted
  phase : Phase agent s.threads s.main

theorem Phase.mono {agent : Agent} {threads threads' : Thread → ThreadPc} {pc : MainPc}
    (h : Phase agent threads pc) (hunstarted : ∀ u, threads' u = .unstarted ↔ threads u = .unstarted)
    (hdone : ∀ u, threads u = .done → threads' u = .done) : Phase agent threads' pc := by
  have hne : ∀ u, threads u ≠ .unstarted → threads' u ≠ .unstarted := fun u hu hu' => hu ((hunstarted u).1 hu')
  cases pc with
  | entering => exact fun t => (hunstarted t).2 (h t)
  | spawning k =>
    exact ⟨fun i hi => (hunstarted _).2 (h.1 i hi), (hunstarted _).2 h.2.1, fun i hi hh => hne _ (h.2.2 i hi hh)⟩
  | joining k => exact ⟨⟨fun i hh => hne _ (h.1.1 i hh), hne _ h.1.2⟩, fun i hi hh => hdone _ (h.2 i hi hh)⟩
  | clearing => exact ⟨⟨fun i hh => hne _ (h.1.1 i hh), hne _ h.1.2⟩, fun i hh => hdone _ (h.2 i hh)⟩
  | joiningSys => exact ⟨⟨fun i hh => hne _ (h.1.1 i hh), hne _ h.1.2⟩, fun i hh => hdone _ (h.2 i hh)⟩
  | returned => exact ⟨fun i hh => hdone _ (h.1 i hh), hdone _ h.2⟩

theorem Moves.phaseInv {agent : Agent} {s s' : AgentState} {t : Thread} {l : Label} (hmove : Moves agent s t l s')
    (h : PhaseInv agent s) : PhaseInv agent s' := by
  obtain ⟨hactive, hstarted, hother, hmain, _⟩ := hmove.frame
  have hunstarted : ∀ u, s'.threads u = .unstarted ↔ s.threads u = .unstarted := by
    intro u
    by_cases hu : u = t
    · subst hu
      refine ⟨fun h => absurd h hstarted, fun h => ?_⟩
      rw [h] at hactive
      cases hactive
    · rw [hother u hu]
  have hdone : ∀ u, s.threads u = .done → s'.threads u = .done := by
    intro u hu
    have hne : u ≠ t := by
      rintro rfl
      rw [hu] at hactive
      cases hactive
    rw [hother u hne, hu]
  refine ⟨fun i hi => (hunstarted _).2 (h.unhandled i hi), ?_⟩
  rw [hmain]
  exact h.phase.mono hunstarted hdone

theorem RunMoves.phaseInv {agent : Agent} {s s' : AgentState} (hrun : RunMoves agent s s') (h : PhaseInv agent s) :
    PhaseInv agent s' := by
  have hphase := h.phase
  cases hrun with
  | enter hm =>
    rw [hm] at hphase
    exact ⟨h.unhandled, fun i _ => hphase _, hphase _, fun i hi => absurd hi (Nat.not_lt_zero i)⟩
  | @skip k hm hk hh =>
    rw [hm] at hphase
    refine ⟨h.unhandled, fun i hi => hphase.1 i (by omega), hphase.2.1, fun i hi hi' => ?_⟩
    rcases Nat.lt_succ_iff_lt_or_eq.1 hi with hi | rfl
    · exact hphase.2.2 i hi hi'
    · exact absurd hh hi'
  | @spawn k hm hk hh =>
    rw [hm] at hphase
    -- the step starts one reader and leaves the others alone
    have hother : ∀ i, i ≠ k → (s.go (.reader k) .checking).threads (.reader i) = s.threads (.reader i) :=
      fun i hi => AgentState.go_threads_of_ne s _ (by simpa using hi)
    refine ⟨fun i hi => ?_, fun i hi => ?_, ?_, fun i hi hi' => ?_⟩
    · have hne : i ≠ k := by rintro rfl; exact hh hi
      exact (hother i hne).trans (h.unhandled i hi)
    · exact (hother i (by omega)).trans (hphase.1 i (by omega))
    · exact (AgentState.go_threads_of_ne s .checking (nofun : Thread.sys ≠ .reader k)).trans hphase.2.1
    · show (s.go (.reader k) .checking).threads (.reader i) ≠ .unstarted
      rcases Nat.lt_succ_iff_lt_or_eq.1 hi with hi | rfl
      · rw [hother i (by omega)]; exact hphase.2.2 i hi hi'
      · rw [AgentState.go_threads_self]; simp
  | @spawnSys k hm hk =>
    rw [hm] at hphase
    have hother : ∀ i, (s.go .sys .checking).threads (.reader i) = s.threads (.reader i) :=
      fun i => AgentState.go_threads_of_ne s _ (by simp)
    refine ⟨fun i hi => (hother i).trans (h.unhandled i hi), ⟨fun i hi => ?_, ?_⟩,
      fun i hi => absurd hi (Nat.not_lt_zero i)⟩
    · show (s.go .sys .checking).threads (.reader i) ≠ .unstarted
      rw [hother i]
      exact hphase.2.2 i (by have := agent.handler_lt hi; omega) hi
    · show (s.go .sys .checking).threads .sys ≠ .unstarted
      rw [AgentState.go_threads_self]; simp
  | @joinSkip k hm hk hh =>
    rw [hm] at hphase
    refine ⟨h.unhandled, hphase.1, fun i hi hi' => ?_⟩
    rcases Nat.lt_succ_iff_lt_or_eq.1 hi with hi | rfl
    · exact hphase.2 i hi hi'
    · exact absurd hh hi'
  | @join k hm hk hd =>
    rw [hm] at hphase
    refine ⟨h.unhandled, hphase.1, fun i hi hi' => ?_⟩
    rcases Nat.lt_succ_iff_lt_or_eq.1 hi with hi | rfl
    · exact hphase.2 i hi hi'
    · exact hd
  -- every reader is done: no index from `k` on has a handler
  | @joined k hm hk =>
    rw [hm] at hphase
    exact ⟨h.unhandled, hphase.1, fun i hi => hphase.2 i (by have := agent.handler_lt hi; omega) hi⟩
  | clear hm =>
    rw [hm] at hphase
    exact ⟨h.unhandled, hphase⟩
  | joinSys hm hd =>
    rw [hm] at hphase
    exact ⟨h.unhandled, hphase.2, hd⟩

theorem phaseInv_step {agent : Agent} {s s' : AgentState} {l : Label} (h : PhaseInv agent s)
    (hs : agent.step s l = some s') : PhaseInv agent s' := by
  cases trans_of_step hs with
  | main hrun => exact hrun.phaseInv h
  | stop hstop =>
    obtain ⟨hthreads, hmain, _⟩ := hstop.frame
    exact ⟨by rw [hthreads]; exact h.unhandled, by rw [hthreads, hmain]; exact h.phase⟩
  | moves hmove => exact hmove.phaseInv h
  | drain => exact ⟨h.unhandled, h.phase⟩

/-- Behind the return of `run` no thread is left to move. -/
theorem PhaseInv.not_moves {agent : Agent} {s s' : AgentState} {t : Thread} {l : Label} (h : PhaseInv agent s)
    (hreturned : s.main = .returned) : ¬ Moves agent s t l s' := by
  intro hmove
  have hactive := hmove.frame.1
  have hplace := h.phase
  rw [hreturned] at hplace
  cases t with
  | sys => rw [hplace.2] at hactive; cases hactive
  | reader i =>
    cases hhandler : agent.handler i with
    | none => rw [h.unhandled i hhandler] at hactive; cases hactive
    | some handler => rw [hplace.1 i (by rw [hhandler]; simp)] at hactive; cases hactive

theorem phaseInv_init (agent : Agent) : PhaseInv agent agent.init := ⟨fun _ _ => rfl, fun _ => rfl⟩

/-! ## The mutex -/

/-- The mutex belongs to the thread that is in an adapter call, if there is one. -/
def MutexInv (s : AgentState) : Prop := ∀ t, (s.threads t).holds = true ↔ s.adapterMutex = some t

/-- A thread goes elsewhere and takes neither the mutex nor gives it back. -/
theorem MutexInv.go {s s' : AgentState} {t : Thread} (h : MutexInv s)
    (hother : ∀ u, u ≠ t → s'.threads u = s.threads u) (hself : (s'.threads t).holds = (s.threads t).holds)
    (hmutex : s'.adapterMutex = s.adapterMutex) : MutexInv s' := by
  intro u
  rw [hmutex, ← h u]
  by_cases hu : u = t
  · subst hu; rw [hself]
  · rw [hother u hu]

theorem Moves.mutexInv {agent : Agent} {s s' : AgentState} {t : Thread} {l : Label} (hmove : Moves agent s t l s')
    (h : MutexInv s) : MutexInv s' := by
  have hother := hmove.frame.2.2.1
  cases hmove with
  | loop hpc hr =>
    refine h.go hother ?_ rfl
    rw [AgentState.go_threads_self, hpc]
    cases t <;> rfl
  | leave hpc _ | hand _ hpc _ | noEvent _ hpc _ | wake hpc | collect hpc _ | leaveAwake hpc _ | collected _ _ hpc
  | unhandled hpc | send hpc _ =>
    exact h.go hother (by rw [AgentState.go_threads_self, hpc]; rfl) rfl
  | @lock call hpc hm =>
    intro u
    show ((AgentState.go _ t (.calling call)).threads u).holds = true ↔ some t = some u
    by_cases hu : u = t
    · subst hu
      rw [AgentState.go_threads_self]
      exact ⟨fun _ => rfl, fun _ => rfl⟩
    · have hfree : ¬ (s.threads u).holds = true := by rw [h u, hm]; simp
      rw [AgentState.go_threads_of_ne _ _ hu]
      exact ⟨fun hholds => absurd hholds hfree, fun heq => absurd (Option.some.inj heq).symm hu⟩
  | unlock hpc =>
    have hmine : s.adapterMutex = some t := (h t).1 (by rw [hpc]; rfl)
    intro u
    show ((AgentState.go _ t .checking).threads u).holds = true ↔ none = some u
    refine ⟨fun hholds => ?_, fun heq => by cases heq⟩
    by_cases hu : u = t
    · subst hu
      rw [AgentState.go_threads_self] at hholds
      cases hholds
    · rw [AgentState.go_threads_of_ne _ _ hu] at hholds
      have := (h u).1 hholds
      rw [hmine] at this
      exact absurd (Option.some.inj this).symm hu

theorem RunMoves.mutexInv {agent : Agent} {s s' : AgentState} (hrun : RunMoves agent s s') (hphase : PhaseInv agent s)
    (h : MutexInv s) : MutexInv s' := by
  have hplace := hphase.phase
  cases hrun with
  | @spawn k hm hk hh =>
    rw [hm] at hplace
    refine h.go (t := .reader k) (fun u hu => AgentState.go_threads_of_ne s _ hu) ?_ rfl
    show ((s.go (.reader k) .checking).threads (.reader k)).holds = _
    rw [AgentState.go_threads_self, hplace.1 k (Nat.le_refl k)]
    rfl
  | spawnSys hm hk =>
    rw [hm] at hplace
    refine h.go (t := .sys) (fun u hu => AgentState.go_threads_of_ne s _ hu) ?_ rfl
    show ((s.go .sys .checking).threads .sys).holds = _
    rw [AgentState.go_threads_self, hplace.2.1]
    rfl
  | _ => exact h

theorem mutexInv_step {agent : Agent} {s s' : AgentState} {l : Label} (hphase : PhaseInv agent s) (h : MutexInv s)
    (hs : agent.step s l = some s') : MutexInv s' := by
  cases trans_of_step hs with
  | main hrun => exact hrun.mutexInv hphase h
  | stop hstop =>
    obtain ⟨hthreads, _, hmutex, _⟩ := hstop.frame
    intro t
    rw [hthreads, hmutex]
    exact h t
  | moves hmove => exact hmove.mutexInv h
  | drain => exact h

theorem mutexInv_init (agent : Agent) : MutexInv agent.init := fun _ => ⟨fun h => (nomatch h), fun h => (nomatch h)⟩

end TimeAgent
