/-
The outbound queue against shutdown: behind `stop` some thread can always go on until `run` returns,
if every send is started while the queue has room. A send on a full queue keeps the mutex for good.
-/
import TimeAgent.Agent.Invariant

namespace TimeAgent

/-- `stop` has returned, `run` has not, and only the peer could still take a step. -/
def Wedged (agent : Agent) (s : AgentState) : Prop :=
  s.stopping = .returned ∧ s.main ≠ .returned ∧ ∀ l, l ≠ .drain → agent.step s l = none

/-- The step takes the mutex for a send. -/
def AgentState.locks (s : AgentState) : Label → Bool
  | .thread t =>
    match s.threads t with
    | .handling (some _) => true
    | _ => false
  | _ => false

/-- Sends are started only while the queue has room. -/
def RoomFirst (agent : Agent) (s : AgentState) (l : Label) : Prop := s.locks l = true → agent.HasRoom s

instance (agent : Agent) (s : AgentState) (l : Label) : Decidable (RoomFirst agent s l) :=
  inferInstanceAs (Decidable (_ → _))

/-! ## The invariant -/

/-- Each kind of thread is at places of its own loop. -/
def Thread.Allows : Thread → ThreadPc → Prop
  | .reader _, .sleeping | .reader _, .rechecking | .reader _, .collecting => False
  | .sys, .reading => False
  | _, _ => True

/-- The collectors that `stop` has reached. -/
def StopPhase (agent : Agent) (stopRequested : Nat → Bool) : StopPc → Prop
  | .idle => True
  | .stopping k => ∀ i < k, stopRequested i = true
  | .returned => ∀ i < agent.collectors.length, stopRequested i = true

structure QueueInv (agent : Agent) (s : AgentState) : Prop where
  phase : PhaseInv agent s
  mutex : MutexInv s
  allows : ∀ t : Thread, t.Allows (s.threads t)
  stop : StopPhase agent s.stopRequested s.stopping
  /-- A send that is under way finds room. -/
  room : ∀ t call, s.threads t = .calling call → agent.HasRoom s

theorem Moves.allows {agent : Agent} {s s' : AgentState} {t : Thread} {l : Label} (hmove : Moves agent s t l s')
    (h : ∀ u : Thread, u.Allows (s.threads u)) (u : Thread) : u.Allows (s'.threads u) := by
  by_cases hu : u = t
  · subst hu
    have hplace := h u
    cases hmove with
    | loop hpc => rw [AgentState.go_threads_self]; cases u <;> trivial
    | wake hpc => rw [hpc] at hplace; rw [AgentState.go_threads_self]; cases u <;> trivial
    | collect hpc => rw [hpc] at hplace; rw [AgentState.go_threads_self]; cases u <;> trivial
    | _ => rw [AgentState.go_threads_self]; cases u <;> trivial
  · rw [hmove.frame.2.2.1 u hu]
    exact h u

/-- Only the thread with the mutex can be in a send, and it took the mutex while there was room. -/
theorem Moves.room {agent : Agent} {s s' : AgentState} {t : Thread} {l : Label} (hmove : Moves agent s t l s')
    (h : QueueInv agent s) (hl : RoomFirst agent s l) {u : Thread} {call : AdapterCall}
    (hu : s'.threads u = .calling call) : agent.HasRoom s' := by
  have hother := hmove.frame.2.2.1
  by_cases hut : u = t
  · subst hut
    cases hmove with
    | lock hpc hm =>
      have hlocks : s.locks (.thread u) = true := by unfold AgentState.locks; dsimp only; rw [hpc]
      exact hl hlocks
    | loop hpc hr => rw [AgentState.go_threads_self] at hu; cases u <;> cases hu
    | _ => rw [AgentState.go_threads_self] at hu; cases hu
  · rw [hother u hut] at hu
    have hroom := h.room u call hu
    cases hmove with
    | send hpc _ =>
      have hmine : s.adapterMutex = some t := (h.mutex t).1 (by rw [hpc]; rfl)
      have hyours : s.adapterMutex = some u := (h.mutex u).1 (by rw [hu]; rfl)
      rw [hmine] at hyours
      exact absurd (Option.some.inj hyours).symm hut
    | _ => exact hroom

theorem RunMoves.queueInv {agent : Agent} {s s' : AgentState} (hrun : RunMoves agent s s') (h : QueueInv agent s) :
    QueueInv agent s' := by
  obtain ⟨_, hqueue, _, _, hstopping, hrequested⟩ := hrun.frame
  -- `run` only ever starts a thread
  have hthreads : ∀ t, s'.threads t = s.threads t ∨ s'.threads t = .checking := by
    intro t
    cases hrun with
    | @spawn k hm hk hh =>
      by_cases ht : t = .reader k
      · subst ht; exact .inr (AgentState.go_threads_self s (.reader k) .checking)
      · exact .inl (AgentState.go_threads_of_ne s _ ht)
    | spawnSys hm hk =>
      by_cases ht : t = .sys
      · subst ht; exact .inr (AgentState.go_threads_self s .sys .checking)
      · exact .inl (AgentState.go_threads_of_ne s _ ht)
    | _ => exact .inl rfl
  refine ⟨hrun.phaseInv h.phase, hrun.mutexInv h.phase h.mutex, fun t => ?_,
    by rw [hrequested, hstopping]; exact h.stop, fun t call ht => ?_⟩
  · rcases hthreads t with heq | heq <;> rw [heq]
    · exact h.allows t
    · cases t <;> trivial
  · rcases hthreads t with heq | heq <;> rw [heq] at ht
    · unfold Agent.HasRoom
      rw [hqueue]
      exact h.room t call ht
    · cases ht

theorem StopMoves.stopPhase {agent : Agent} {s s' : AgentState} (hstop : StopMoves agent s s')
    (h : StopPhase agent s.stopRequested s.stopping) : StopPhase agent s'.stopRequested s'.stopping := by
  cases hstop with
  | clear hpc => exact fun i hi => absurd hi (Nat.not_lt_zero i)
  | @request k hpc hk =>
    rw [hpc] at h
    intro i hi
    show Function.update s.stopRequested k true i = true
    by_cases hik : i = k
    · subst hik; exact Function.update_self ..
    · rw [Function.update_of_ne hik]; exact h i (by omega)
  | @requested k hpc hk =>
    rw [hpc] at h
    exact fun i hi => h i (by omega)

theorem queueInv_step {agent : Agent} {s s' : AgentState} {l : Label} (hl : RoomFirst agent s l)
    (h : QueueInv agent s) (hs : agent.step s l = some s') : QueueInv agent s' := by
  cases trans_of_step hs with
  | main hrun => exact hrun.queueInv h
  | stop hstop =>
    have hphase := phaseInv_step h.phase hs
    have hmutex := mutexInv_step h.phase h.mutex hs
    obtain ⟨hthreads, _, _, hqueue, _⟩ := hstop.frame
    refine ⟨hphase, hmutex, fun t => by rw [hthreads]; exact h.allows t, hstop.stopPhase h.stop, fun t call ht => ?_⟩
    rw [hthreads] at ht
    unfold Agent.HasRoom
    rw [hqueue]
    exact h.room t call ht
  | moves hmove =>
    obtain ⟨_, _, _, _, hstopping, _, hrequested⟩ := hmove.frame
    exact ⟨hmove.phaseInv h.phase, hmove.mutexInv h.mutex, hmove.allows h.allows, by
      rw [hrequested, hstopping]; exact h.stop, fun _ _ => hmove.room h hl⟩
  | drain =>
    refine ⟨⟨h.phase.unhandled, h.phase.phase⟩, h.mutex, h.allows, h.stop, fun t call ht => ?_⟩
    have hroom := h.room t call ht
    unfold Agent.HasRoom at hroom ⊢
    dsimp only
    omega

theorem queueInv_init (agent : Agent) : QueueInv agent agent.init where
  phase := phaseInv_init agent
  mutex := mutexInv_init agent
  allows := fun t => by cases t <;> trivial
  stop := trivial
  room := fun _ _ h => (nomatch h)

/-! ## Going on -/

/-- Behind `stop`, with the mutex free, a thread in its loop can take a step. -/
theorem step_of_active {agent : Agent} {s : AgentState} (h : QueueInv agent s) (hstop : s.stopping = .returned)
    (hfree : s.adapterMutex = none) {t : Thread} (hactive : (s.threads t).active = true) :
    ∃ l, l ≠ .drain ∧ agent.step s l ≠ none := by
  have hplace := h.allows t
  have hthread : agent.threadStep s t ≠ none → ∃ l, l ≠ .drain ∧ agent.step s l ≠ none :=
    fun hne => ⟨.thread t, nofun, hne⟩
  cases hpc : s.threads t with
  | unstarted => rw [hpc] at hactive; cases hactive
  | done => rw [hpc] at hactive; cases hactive
  | reading =>
    cases t with
    | sys => rw [hpc] at hplace; exact hplace.elim
    | reader i =>
      have hhandler : agent.handler i ≠ none := by
        intro hnone
        rw [h.phase.unhandled i hnone] at hpc
        cases hpc
      -- `stop` has asked every collector, so `readEvent` returns
      have hrequested : s.stopRequested i = true := by
        have hall := h.stop
        rw [hstop] at hall
        exact hall i (agent.handler_lt hhandler)
      refine ⟨.noEvent i, nofun, ?_⟩
      show agent.noEventStep s i ≠ none
      unfold Agent.noEventStep
      rw [if_pos ⟨hpc, .inl hrequested⟩]
      nofun
  | collecting =>
    cases t with
    | reader i => rw [hpc] at hplace; exact hplace.elim
    | sys =>
      refine ⟨.collects {} 0, nofun, ?_⟩
      show agent.collectsStep s {} 0 ≠ none
      unfold Agent.collectsStep
      rw [if_pos hpc]
      nofun
  | handling call =>
    apply hthread
    unfold Agent.threadStep
    rw [hpc]
    cases call with
    | none => nofun
    | some call =>
      dsimp only
      rw [if_pos hfree]
      nofun
  | calling call =>
    apply hthread
    unfold Agent.threadStep
    rw [hpc]
    dsimp only
    rw [if_pos (h.room t call hpc)]
    nofun
  | checking => apply hthread; unfold Agent.threadStep; rw [hpc]; nofun
  | sleeping => apply hthread; unfold Agent.threadStep; rw [hpc]; nofun
  | rechecking => apply hthread; unfold Agent.threadStep; rw [hpc]; nofun
  | called => apply hthread; unfold Agent.threadStep; rw [hpc]; nofun

/-- The thread in an adapter call can always take a step. -/
theorem step_of_owner {agent : Agent} {s : AgentState} (h : QueueInv agent s) {t : Thread}
    (howner : s.adapterMutex = some t) : ∃ l, l ≠ .drain ∧ agent.step s l ≠ none := by
  have hholds := (h.mutex t).2 howner
  refine ⟨.thread t, nofun, ?_⟩
  show agent.threadStep s t ≠ none
  unfold Agent.threadStep
  cases hpc : s.threads t with
  | calling call =>
    dsimp only
    rw [if_pos (h.room t call hpc)]
    nofun
  | called => nofun
  | _ => rw [hpc] at hholds; cases hholds

/-- With no thread in its loop `run` can take a step. -/
theorem step_of_quiet {agent : Agent} {s : AgentState} (h : PhaseInv agent s) (hmain : s.main ≠ .returned)
    (hquiet : ∀ t, (s.threads t).active = false) : ∃ l, l ≠ .drain ∧ agent.step s l ≠ none := by
  have hdone : ∀ t, s.threads t ≠ .unstarted → s.threads t = .done := by
    intro t ht
    have hq := hquiet t
    cases hpc : s.threads t with
    | unstarted => exact absurd hpc ht
    | done => rfl
    | _ => rw [hpc] at hq; cases hq
  -- what `run` waits for is done already
  have hphase := h.phase
  refine ⟨.main, nofun, ?_⟩
  show agent.mainStep s ≠ none
  unfold Agent.mainStep
  cases hm : s.main with
  | entering => nofun
  | spawning k =>
    dsimp only
    split
    · split <;> nofun
    · nofun
  | joining k =>
    rw [hm] at hphase
    dsimp only
    split
    · split
      · nofun
      · rename_i hhandler
        rw [if_pos (hdone _ (hphase.1.1 k (by rw [hhandler]; nofun)))]
        nofun
    · nofun
  | clearing => nofun
  | joiningSys =>
    rw [hm] at hphase
    dsimp only
    rw [if_pos (hdone _ hphase.1.2)]
    nofun
  | returned => exact absurd hm hmain

theorem QueueInv.not_wedged {agent : Agent} {s : AgentState} (h : QueueInv agent s) : ¬ Wedged agent s := by
  rintro ⟨hstop, hmain, hstuck⟩
  have hno : ¬ ∃ l, l ≠ .drain ∧ agent.step s l ≠ none := by
    rintro ⟨l, hl, hstep⟩
    exact hstep (hstuck l hl)
  apply hno
  cases hmutex : s.adapterMutex with
  | some t => exact step_of_owner h hmutex
  | none =>
    by_cases hactive : ∃ t, (s.threads t).active = true
    · obtain ⟨t, ht⟩ := hactive
      exact step_of_active h hstop hmutex ht
    · refine step_of_quiet h.phase hmain fun t => ?_
      rw [← Bool.not_eq_true]
      exact fun ht => hactive ⟨t, ht⟩

/-- In every run in which sends are started only while the queue has room, shutdown is never wedged. -/
theorem not_wedged_of_roomFirst (agent : Agent) {ls : List Label} {s : AgentState}
    (hr : LTS.run (LTS.restrict (RoomFirst agent) agent.step) agent.init ls = some s) : ¬ Wedged agent s := by
  have hinv : QueueInv agent s := by
    refine LTS.run_invariant (P := QueueInv agent) (fun r l r' h hl => ?_) hr (queueInv_init agent)
    obtain ⟨hroom, hstep⟩ := LTS.restrict_eq_some.1 hl
    exact queueInv_step hroom h hstep
  exact hinv.not_wedged

/-- The turn of the system-metrics thread up to the mutex, and the rest of it. -/
def snapshotSteps : List Label := List.replicate 3 (.thread .sys) ++ [.collects {} 1, .thread .sys]

def sendSteps : List Label := List.replicate 2 (.thread .sys)

theorem not_wedged_of_roomFirst_full :
    ∃ s, LTS.run (LTS.restrict (RoomFirst (twoCollectors 1 "phc2sys" [] false))
          (twoCollectors 1 "phc2sys" [] false).step) (twoCollectors 1 "phc2sys" [] false).init
        (List.replicate 4 Label.main ++ snapshotSteps ++ sendSteps ++ List.replicate 4 Label.stop) = some s ∧
      s.stopping = .returned ∧ s.queue = 1 ∧ ¬ Wedged (twoCollectors 1 "phc2sys" [] false) s := by
  have hsome : ((LTS.run (LTS.restrict (RoomFirst (twoCollectors 1 "phc2sys" [] false))
          (twoCollectors 1 "phc2sys" [] false).step) (twoCollectors 1 "phc2sys" [] false).init
        (List.replicate 4 Label.main ++ snapshotSteps ++ sendSteps ++ List.replicate 4 Label.stop)).map fun s =>
      (s.stopping, s.queue)) = some (.returned, 1) := by
    decide +kernel
  obtain ⟨s, hs, hend⟩ := Option.map_eq_some_iff.1 hsome
  injection hend with hstop hqueue
  exact ⟨s, hs, hstop, hqueue, not_wedged_of_roomFirst _ hs⟩

/-- A snapshot that waits for room while `run` waits for its thread. -/
theorem wedged_of_sys {agent : Agent} {s : AgentState} {call : AdapterCall} (h : PhaseInv agent s)
    (hstop : s.stopping = .returned) (hmain : s.main = .joiningSys) (hsys : s.threads .sys = .calling call)
    (hfull : ¬ agent.HasRoom s) : Wedged agent s := by
  have hplace := h.phase
  rw [hmain] at hplace
  have hreaders : ∀ i, s.threads (.reader i) = .unstarted ∨ s.threads (.reader i) = .done := by
    intro i
    cases hhandler : agent.handler i with
    | none => exact .inl (h.unhandled i hhandler)
    | some handler => exact .inr (hplace.2 i (by rw [hhandler]; nofun))
  -- `run` waits for the thread, the thread for room, and nobody else is left
  refine ⟨hstop, by rw [hmain]; nofun, fun l hl => ?_⟩
  cases l with
  | main =>
    show agent.mainStep s = none
    unfold Agent.mainStep
    rw [hmain]
    dsimp only
    rw [if_neg (by rw [hsys]; nofun)]
  | stop =>
    show agent.stopStep s = none
    unfold Agent.stopStep
    rw [hstop]
  | thread t =>
    show agent.threadStep s t = none
    unfold Agent.threadStep
    cases t with
    | sys =>
      rw [hsys]
      dsimp only
      rw [if_neg hfull]
    | reader i => rcases hreaders i with hpc | hpc <;> rw [hpc]
  | noEvent i =>
    show agent.noEventStep s i = none
    unfold Agent.noEventStep
    rw [if_neg]
    rintro ⟨hpc, _⟩
    rcases hreaders i with hpc' | hpc' <;> rw [hpc'] at hpc <;> cases hpc
  | collects stats nowUs =>
    show agent.collectsStep s stats nowUs = none
    unfold Agent.collectsStep
    rw [if_neg (by rw [hsys]; nofun)]
  | drain => exact absurd rfl hl

/-- A queue of one message that nobody drains: the second snapshot waits, and so does `run`. -/
theorem shutdown_wedged :
    ∃ agent ls s, LTS.run (Agent.step agent) agent.init ls = some s ∧ Wedged agent s := by
  have hsome : ((LTS.run (twoCollectors 1 "phc2sys" [] false).step (twoCollectors 1 "phc2sys" [] false).init
        (List.replicate 4 Label.main ++ snapshotSteps ++ sendSteps ++ snapshotSteps ++ List.replicate 4 Label.stop ++
          [Label.thread (.reader 1)] ++ List.replicate 4 Label.main)).map fun s =>
      (s.stopping, s.main, s.threads .sys, s.queue)) =
      some (.returned, .joiningSys,
        .calling (.sendSysStatistics { ({} : SystemStats) with timestampUs := 1 } "node".toList), 1) := by
    decide +kernel
  obtain ⟨s, hs, hend⟩ := Option.map_eq_some_iff.1 hsome
  injection hend with hstop hend
  injection hend with hmain hend
  injection hend with hsys hqueue
  have hphase : PhaseInv (twoCollectors 1 "phc2sys" [] false) s :=
    LTS.run_invariant (fun _ _ _ h hstep => phaseInv_step h hstep) hs (phaseInv_init _)
  refine ⟨_, _, s, hs, wedged_of_sys hphase hstop hmain hsys ?_⟩
  unfold Agent.HasRoom
  rw [hqueue]
  decide

end TimeAgent
