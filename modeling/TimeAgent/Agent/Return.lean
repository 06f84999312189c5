/-
No deadlock: from every state of any run the agent can go on until `run` returns, without another
call of `stop`, if the peer takes its messages and each source ends or was asked to stop. What is
left to do is counted by a measure that some step always lowers.
-/
import TimeAgent.Agent.Ordered
import TimeAgent.Agent.Queue
import Mathlib.Algebra.Order.BigOperators.Group.Finset

namespace TimeAgent

/-! ## What is left to do -/

/-- The steps from a place to the end of the thread, at most, as long as it gets no further event. -/
def ThreadPc.rank : ThreadPc → Nat
  | .unstarted => 9
  | .collecting => 8
  | .handling (some _) => 7
  | .calling _ => 6
  | .called => 5
  | .sleeping => 4
  | .rechecking => 3
  | .handling none => 3
  | .checking => 2
  | .reading => 1
  | .done => 0

def AgentState.weight (s : AgentState) : Thread → Nat
  | .reader i => 10 * (s.events i).length + (s.threads (.reader i)).rank
  | .sys => (s.threads .sys).rank

namespace Agent

def mainRank (agent : Agent) : MainPc → Nat
  | .entering => 2 * agent.collectors.length + 6
  | .spawning k => agent.collectors.length - k + agent.collectors.length + 5
  | .joining k => agent.collectors.length - k + 4
  | .clearing => 3
  | .joiningSys => 2
  | .returned => 0

/-- A send makes a message, which is one more to take out: so the threads count twice. -/
def toGo (agent : Agent) (s : AgentState) : Nat :=
  2 * (agent.mainRank s.main + (Finset.range agent.collectors.length).sum (fun i => s.weight (.reader i)) +
    s.weight .sys) + s.queue

/-- Some step other than one of `stop` leaves less to do. -/
def Advances (agent : Agent) (s : AgentState) : Prop :=
  ∃ l s', l ≠ .stop ∧ agent.step s l = some s' ∧ agent.toGo s' < agent.toGo s

end Agent

section

variable {agent : Agent} {s s' : AgentState}

/-- One thread has less to do, and the others as much as before. -/
theorem toGo_lt {t : Thread} (ht : ∀ i, t = .reader i → i < agent.collectors.length)
    (hother : ∀ u, u ≠ t → s'.weight u = s.weight u) (hself : s'.weight t < s.weight t) (hmain : s'.main = s.main)
    (hqueue : s'.queue ≤ s.queue + 1) : agent.toGo s' < agent.toGo s := by
  have hsum : (Finset.range agent.collectors.length).sum (fun i => s'.weight (.reader i)) + s'.weight .sys <
      (Finset.range agent.collectors.length).sum (fun i => s.weight (.reader i)) + s.weight .sys := by
    cases t with
    | sys =>
      have hreaders : ∀ i ∈ Finset.range agent.collectors.length, s'.weight (.reader i) = s.weight (.reader i) :=
        fun i _ => hother _ (by simp)
      rw [Finset.sum_congr rfl hreaders]
      omega
    | reader j =>
      have hle : ∀ i ∈ Finset.range agent.collectors.length, s'.weight (.reader i) ≤ s.weight (.reader i) := by
        intro i _
        by_cases hij : i = j
        · subst hij; exact Nat.le_of_lt hself
        · exact Nat.le_of_eq (hother _ (by simpa using hij))
      have hlt := Finset.sum_lt_sum hle ⟨j, Finset.mem_range.2 (ht j rfl), hself⟩
      have hsys := hother .sys (by simp)
      omega
  unfold Agent.toGo
  rw [hmain]
  omega

/-- `run` has less to do, and the threads not more. -/
theorem toGo_lt_of_main (hmain : agent.mainRank s'.main < agent.mainRank s.main)
    (hthreads : ∀ t, s'.weight t ≤ s.weight t) (hqueue : s'.queue = s.queue) : agent.toGo s' < agent.toGo s := by
  have hsum : (Finset.range agent.collectors.length).sum (fun i => s'.weight (.reader i)) ≤
      (Finset.range agent.collectors.length).sum (fun i => s.weight (.reader i)) :=
    Finset.sum_le_sum fun i _ => hthreads (.reader i)
  have hsys := hthreads .sys
  unfold Agent.toGo
  omega

/-- A thread goes to a place of a lower rank. -/
theorem Agent.Advances.go {r : AgentState} {t : Thread} {p : ThreadPc} {l : Label}
    (hstep : agent.step s l = some (r.go t p)) (hl : l ≠ .stop)
    (ht : ∀ i, t = .reader i → i < agent.collectors.length) (hrank : p.rank < (s.threads t).rank)
    (hevents : r.events = s.events) (hthreads : r.threads = s.threads) (hmain : r.main = s.main)
    (hqueue : r.queue ≤ s.queue + 1) : agent.Advances s := by
  refine ⟨l, r.go t p, hl, hstep, toGo_lt ht (fun u hu => ?_) ?_ hmain hqueue⟩
  · have hsame : (r.go t p).threads u = s.threads u := by rw [AgentState.go_threads_of_ne r p hu, hthreads]
    have hsameEvents : (r.go t p).events = s.events := hevents
    cases u <;> simp [AgentState.weight, hsame, hsameEvents]
  · have hsameEvents : (r.go t p).events = s.events := hevents
    cases t <;> simpa [AgentState.weight, hsameEvents] using hrank

/-! ## The invariant -/

structure ReturnInv (agent : Agent) (s : AgentState) : Prop where
  phase : PhaseInv agent s
  mutex : MutexInv s
  allows : ∀ t : Thread, t.Allows (s.threads t)
  cleared : s.main = .joiningSys → s.running = false

theorem returnInv_init (agent : Agent) : ReturnInv agent agent.init where
  phase := phaseInv_init agent
  mutex := mutexInv_init agent
  allows := fun t => by cases t <;> trivial
  cleared := fun h => by cases h

theorem returnInv_step {l : Label} (h : ReturnInv agent s) (hs : agent.step s l = some s') : ReturnInv agent s' := by
  have hphase := phaseInv_step h.phase hs
  have hmutex := mutexInv_step h.phase h.mutex hs
  cases trans_of_step hs with
  | main hrun =>
    refine ⟨hphase, hmutex, fun t => ?_, ?_⟩
    · rcases hrun.starts h.phase t with heq | ⟨_, heq⟩ <;> rw [heq]
      · exact h.allows t
      · cases t <;> trivial
    · cases hrun with
      | clear => exact fun _ => rfl
      | _ => exact fun hm => by cases hm
  | stop hstop =>
    obtain ⟨hthreads, hmain, _⟩ := hstop.frame
    refine ⟨hphase, hmutex, fun t => by rw [hthreads]; exact h.allows t, fun hm => ?_⟩
    rw [hmain] at hm
    cases hstop with
    | clear => rfl
    | _ => exact h.cleared hm
  | moves hmove =>
    obtain ⟨_, _, _, hmain, _, hrunning, _⟩ := hmove.frame
    exact ⟨hphase, hmutex, hmove.allows h.allows, by rw [hmain, hrunning]; exact h.cleared⟩
  | drain => exact ⟨hphase, hmutex, h.allows, h.cleared⟩

theorem returnInv_of_run {ls : List Label} (hr : LTS.run agent.step agent.init ls = some s) : ReturnInv agent s :=
  LTS.run_invariant (fun _ _ _ h hs => returnInv_step h hs) hr (returnInv_init agent)

/-- A thread in its loop is that of a collector. -/
theorem ReturnInv.reader_lt (h : ReturnInv agent s) {t : Thread} (hactive : (s.threads t).active = true) (i : Nat)
    (ht : t = .reader i) : agent.handler i ≠ none ∧ i < agent.collectors.length := by
  subst ht
  have hhandler : agent.handler i ≠ none := by
    intro hnone
    rw [h.phase.unhandled i hnone] at hactive
    cases hactive
  exact ⟨hhandler, agent.handler_lt hhandler⟩

/-! ## Steps forward -/

/-- The thread in an adapter call goes on, or the peer makes room for it. -/
theorem ReturnInv.owner_advances (h : ReturnInv agent s) {t : Thread} (howner : s.adapterMutex = some t) :
    agent.Advances s := by
  have hholds := (h.mutex t).2 howner
  have hactive : (s.threads t).active = true := by
    cases hpc : s.threads t <;> rw [hpc] at hholds <;> first | rfl | cases hholds
  have hlt := fun i ht => (h.reader_lt hactive i ht).2
  cases hpc : s.threads t with
  | calling call =>
    by_cases hroom : agent.HasRoom s
    · refine .go (r := { s with queue := s.queue + 1, log := s.log ++ [(t, call)] }) (p := .called) (l := .thread t)
        ?_ (by simp) hlt (by rw [hpc]; exact Nat.lt_succ_self 5) rfl rfl rfl (Nat.le_refl _)
      show agent.threadStep s t = _
      unfold Agent.threadStep
      rw [hpc]
      exact if_pos hroom
    · have hpos : 0 < s.queue := by
        unfold Agent.HasRoom at hroom
        omega
      refine ⟨.drain, _, by simp, if_pos hpos, ?_⟩
      show agent.toGo { s with queue := s.queue - 1 } < agent.toGo s
      have hweight : AgentState.weight { s with queue := s.queue - 1 } = s.weight := by
        funext u
        cases u <;> rfl
      unfold Agent.toGo
      rw [hweight]
      dsimp only
      omega
  | called =>
    refine .go (r := { s with adapterMutex := none }) (p := .checking) (l := .thread t) ?_ (by simp) hlt
      (by rw [hpc]; decide) rfl rfl rfl (Nat.le_succ _)
    show agent.threadStep s t = _
    unfold Agent.threadStep
    rw [hpc]
  | _ => rw [hpc] at hholds; cases hholds

/-- Where a thread that holds no mutex goes on to a lower place. -/
theorem ReturnInv.thread_go (h : ReturnInv agent s) {t : Thread} {p : ThreadPc}
    (hactive : (s.threads t).active = true) (hstep : agent.threadStep s t = some (s.go t p))
    (hrank : p.rank < (s.threads t).rank) : agent.Advances s :=
  .go (l := .thread t) hstep (by simp) (fun i ht => (h.reader_lt hactive i ht).2) hrank rfl rfl rfl (Nat.le_succ _)

/-- A thread whose handler is about to call takes the mutex if it is free. -/
theorem ReturnInv.lock_advances (h : ReturnInv agent s) (hfree : s.adapterMutex = none) {t : Thread}
    {call : Option AdapterCall} (hpc : s.threads t = .handling call) : agent.Advances s := by
  have hactive : (s.threads t).active = true := by rw [hpc]; rfl
  cases call with
  | none =>
    refine h.thread_go (p := .checking) hactive ?_ (by rw [hpc]; decide)
    unfold Agent.threadStep
    rw [hpc]
  | some call =>
    refine .go (r := { s with adapterMutex := some t }) (p := .calling call) (l := .thread t) ?_ (by simp)
      (fun i ht => (h.reader_lt hactive i ht).2) (by rw [hpc]; show (6 : Nat) < 7; omega) rfl rfl rfl (Nat.le_succ _)
    show agent.threadStep s t = _
    unfold Agent.threadStep
    rw [hpc]
    exact if_pos hfree

/-- The source of a reader has something to say: it ends, or it was asked to stop. -/
def Answers (agent : Agent) (s : AgentState) : Prop :=
  ∀ i, agent.handler i ≠ none → agent.ends i = true ∨ s.stopRequested i = true

/-- A reader that takes an event has less to do: one event counts for more than all the places behind it. -/
theorem hand_advances {i : Nat} {event : Event} {events : List Event} (hlt : i < agent.collectors.length)
    (hpc : s.threads (.reader i) = .reading) (hevents : s.events i = event :: events) : agent.Advances s := by
  refine ⟨.thread (.reader i),
    { s with events := Function.update s.events i events }.go (.reader i) (.handling (agent.call i event)),
    by simp, ?_, toGo_lt (t := .reader i) (fun j hj => by cases hj; exact hlt) (fun u hu => ?_) ?_ rfl
      (Nat.le_succ _)⟩
  · show agent.threadStep s (.reader i) = _
    unfold Agent.threadStep
    rw [hpc]
    dsimp only
    rw [hevents]
  · have hsame : ({ s with events := Function.update s.events i events }.go (.reader i)
        (.handling (agent.call i event))).threads u = s.threads u := AgentState.go_threads_of_ne _ _ hu
    cases u with
    | sys => unfold AgentState.weight; dsimp only; rw [hsame]
    | reader j =>
      have hj : j ≠ i := by
        rintro rfl
        exact hu rfl
      unfold AgentState.weight
      dsimp only
      rw [hsame]
      show 10 * (Function.update s.events i events j).length + _ = _
      rw [Function.update_of_ne hj]
  · unfold AgentState.weight
    dsimp only
    rw [AgentState.go_threads_self, hpc, hevents]
    show 10 * (Function.update s.events i events i).length + _ < 10 * (event :: events).length + 1
    have hrank : (ThreadPc.handling (agent.call i event)).rank ≤ 7 := by
      cases agent.call i event
      · exact (by decide : 3 ≤ 7)
      · exact Nat.le_refl 7
    rw [Function.update_self, List.length_cons]
    omega

theorem ReturnInv.reader_advances (h : ReturnInv agent s) (hanswers : Answers agent s) (hfree : s.adapterMutex = none)
    {i : Nat} (hactive : (s.threads (.reader i)).active = true) : agent.Advances s := by
  have hplace := h.allows (.reader i)
  have hmutex := h.mutex (.reader i)
  obtain ⟨hhandler, hlt⟩ := h.reader_lt hactive i rfl
  cases hpc : s.threads (.reader i) with
  | checking =>
    cases hr : s.running with
    | true =>
      refine h.thread_go (p := .reading) hactive ?_ (by rw [hpc]; decide)
      unfold Agent.threadStep
      rw [hpc, hr]
      rfl
    | false =>
      refine h.thread_go (p := .done) hactive ?_ (by rw [hpc]; decide)
      unfold Agent.threadStep
      rw [hpc, hr]
      rfl
  | reading =>
    cases hevents : s.events i with
    | nil =>
      have hsaid : s.stopRequested i = true ∨ s.events i = [] ∧ agent.ends i = true := by
        rcases hanswers i hhandler with hends | hasked
        · exact .inr ⟨hevents, hends⟩
        · exact .inl hasked
      exact .go (r := s) (p := .done) (l := .noEvent i) (if_pos ⟨hpc, hsaid⟩) (by simp)
        (fun j hj => by cases hj; exact hlt) (by rw [hpc]; decide) rfl rfl rfl (Nat.le_succ _)
    | cons event events => exact hand_advances hlt hpc hevents
  | handling call => exact h.lock_advances hfree hpc
  | calling call => rw [hpc, hfree] at hmutex; exact absurd (hmutex.1 rfl) (by simp)
  | called => rw [hpc, hfree] at hmutex; exact absurd (hmutex.1 rfl) (by simp)
  | unstarted => rw [hpc] at hactive; cases hactive
  | done => rw [hpc] at hactive; cases hactive
  | _ => rw [hpc] at hplace; exact hplace.elim

/-- With `running_` cleared the system-metrics thread comes to its end. -/
theorem ReturnInv.sys_advances (h : ReturnInv agent s) (hfree : s.adapterMutex = none) (hrunning : s.running = false)
    (hactive : (s.threads .sys).active = true) : agent.Advances s := by
  have hplace := h.allows .sys
  have hmutex := h.mutex .sys
  cases hpc : s.threads .sys with
  | checking =>
    refine h.thread_go (p := .done) hactive ?_ (by rw [hpc]; decide)
    unfold Agent.threadStep
    rw [hpc, hrunning]
    rfl
  | sleeping =>
    refine h.thread_go (p := .rechecking) hactive ?_ (by rw [hpc]; decide)
    unfold Agent.threadStep
    rw [hpc]
  | rechecking =>
    refine h.thread_go (p := .done) hactive ?_ (by rw [hpc]; decide)
    unfold Agent.threadStep
    rw [hpc, hrunning]
    rfl
  | collecting =>
    refine .go (r := s) (l := .collects {} 0) (if_pos hpc) (by simp) (fun i hi => by cases hi) ?_ rfl rfl rfl
      (Nat.le_succ _)
    rw [hpc]
    exact Nat.lt_succ_self 7
  | handling call => exact h.lock_advances hfree hpc
  | calling call => rw [hpc, hfree] at hmutex; exact absurd (hmutex.1 rfl) (by simp)
  | called => rw [hpc, hfree] at hmutex; exact absurd (hmutex.1 rfl) (by simp)
  | unstarted => rw [hpc] at hactive; cases hactive
  | done => rw [hpc] at hactive; cases hactive
  | reading => rw [hpc] at hplace; exact hplace.elim

/-- `run` goes on where it can. -/
theorem ReturnInv.main_advances (h : ReturnInv agent s) (hstep : agent.mainStep s = some s') : agent.Advances s := by
  have hrun := runMoves_of_mainStep hstep
  obtain ⟨_, hqueue, _, hevents, _⟩ := hrun.frame
  refine ⟨.main, s', by simp, hstep, toGo_lt_of_main ?_ (fun t => ?_) hqueue⟩
  · cases hrun with
    | enter hm => rw [hm]; simp only [Agent.mainRank]; omega
    | skip hm hk hh => rw [hm]; simp only [Agent.mainRank]; omega
    | spawn hm hk hh => rw [hm]; simp only [Agent.mainRank]; omega
    | spawnSys hm hk => rw [hm]; simp only [Agent.mainRank]; omega
    | joinSkip hm hk hh => rw [hm]; simp only [Agent.mainRank]; omega
    | join hm hk hd => rw [hm]; simp only [Agent.mainRank]; omega
    | joined hm hk => rw [hm]; simp only [Agent.mainRank]; omega
    | clear hm => rw [hm]; simp only [Agent.mainRank]; omega
    | joinSys hm hd => rw [hm]; simp only [Agent.mainRank]; omega
  · have hrank : (s'.threads t).rank ≤ (s.threads t).rank := by
      rcases hrun.starts h.phase t with heq | ⟨hpc, hpc'⟩
      · rw [heq]
      · rw [hpc, hpc']
        decide
    cases t with
    | sys => exact hrank
    | reader i =>
      unfold AgentState.weight
      dsimp only
      rw [hevents]
      omega

/-- Where `run` cannot go on it waits for a thread. -/
theorem blocked_of_mainStep (hmain : s.main ≠ .returned) (hstuck : agent.mainStep s = none) :
    (∃ k, s.main = .joining k ∧ agent.handler k ≠ none ∧ s.threads (.reader k) ≠ .done) ∨
      s.main = .joiningSys ∧ s.threads .sys ≠ .done := by
  unfold Agent.mainStep at hstuck
  cases hm : s.main with
  | returned => exact absurd hm hmain
  | joining k =>
    rw [hm] at hstuck
    dsimp only at hstuck
    split at hstuck
    · cases hhandler : agent.handler k with
      | none => rw [hhandler] at hstuck; cases hstuck
      | some handler =>
        rw [hhandler] at hstuck
        dsimp only at hstuck
        split at hstuck
        · cases hstuck
        · rename_i hdone
          exact .inl ⟨k, rfl, by rw [hhandler]; simp, hdone⟩
    · cases hstuck
  | joiningSys =>
    rw [hm] at hstuck
    dsimp only at hstuck
    split at hstuck
    · cases hstuck
    · rename_i hdone
      exact .inr ⟨rfl, hdone⟩
  | entering => rw [hm] at hstuck; cases hstuck
  | clearing => rw [hm] at hstuck; cases hstuck
  | spawning k =>
    rw [hm] at hstuck
    dsimp only at hstuck
    split at hstuck
    · split at hstuck <;> cases hstuck
    · cases hstuck

theorem ThreadPc.active_of_ne {pc : ThreadPc} (hstarted : pc ≠ .unstarted) (hdone : pc ≠ .done) :
    pc.active = true := by
  cases pc <;> first | rfl | exact absurd rfl hstarted | exact absurd rfl hdone

/-- Somebody can always go on until `run` has returned. -/
theorem ReturnInv.advances (h : ReturnInv agent s) (hanswers : Answers agent s) (hmain : s.main ≠ .returned) :
    agent.Advances s := by
  have hphase := h.phase.phase
  cases hmutex : s.adapterMutex with
  | some t => exact h.owner_advances hmutex
  | none =>
    cases hstep : agent.mainStep s with
    | some s' => exact h.main_advances hstep
    | none =>
      rcases blocked_of_mainStep hmain hstep with ⟨k, hm, hhandler, hdone⟩ | ⟨hm, hdone⟩ <;> rw [hm] at hphase
      · exact h.reader_advances hanswers hmutex (ThreadPc.active_of_ne (hphase.1.1 k hhandler) hdone)
      · exact h.sys_advances hmutex (h.cleared hm) (ThreadPc.active_of_ne hphase.1.2 hdone)

/-- No step takes an answer back. -/
theorem Answers.step {l : Label} (h : Answers agent s) (hl : l ≠ .stop) (hs : agent.step s l = some s') :
    Answers agent s' := by
  have hsame : s'.stopRequested = s.stopRequested := by
    cases trans_of_step hs with
    | main hrun => exact hrun.frame.2.2.2.2.2
    | stop => exact absurd rfl hl
    | moves hmove => exact hmove.frame.2.2.2.2.2.2
    | drain => rfl
  unfold Answers
  rw [hsame]
  exact h

/-- From whatever state a run has led to, with `stop` called in it or not, steps of the agent and of
its peer lead on to the return of `run`. -/
theorem returns_of_run (agent : Agent) {ls : List Label} {s : AgentState}
    (hr : LTS.run agent.step agent.init ls = some s)
    (hanswers : ∀ i, agent.handler i ≠ none → agent.ends i = true ∨ s.stopRequested i = true) :
    ∃ ls' t, (∀ l ∈ ls', l ≠ .stop) ∧ LTS.run agent.step s ls' = some t ∧ t.main = .returned := by
  refine LTS.reaches_of_measure (P := fun r => ReturnInv agent r ∧ Answers agent r) agent.toGo ?_
    ⟨returnInv_of_run hr, hanswers⟩
  rintro r ⟨h, hr⟩ hmain
  obtain ⟨l, r', hl, hs, hlt⟩ := h.advances hr hmain
  exact ⟨l, r', hl, hs, ⟨returnInv_step h hs, hr.step hl hs⟩, hlt⟩

/-- Also from a state where `run` and a snapshot wait for the peer. -/
theorem returns_of_run_full :
    ∃ s t ls, LTS.run (twoCollectors 1 "phc2sys" [] false).step (twoCollectors 1 "phc2sys" [] false).init
        (List.replicate 4 Label.main ++ snapshotSteps ++ sendSteps ++ snapshotSteps ++ List.replicate 4 Label.stop ++
          [Label.thread (.reader 1)] ++ List.replicate 4 Label.main) = some s ∧
      LTS.run (twoCollectors 1 "phc2sys" [] false).step s ls = some t ∧ t.main = .returned := by
  have hsome : ((LTS.run (twoCollectors 1 "phc2sys" [] false).step (twoCollectors 1 "phc2sys" [] false).init
        (List.replicate 4 Label.main ++ snapshotSteps ++ sendSteps ++ snapshotSteps ++ List.replicate 4 Label.stop ++
          [Label.thread (.reader 1)] ++ List.replicate 4 Label.main)).map fun s => s.stopRequested 1) = some true := by
    decide +kernel
  obtain ⟨s, hs, hasked⟩ := Option.map_eq_some_iff.1 hsome
  obtain ⟨ls, t, _, ht, hmain⟩ := returns_of_run (twoCollectors 1 "phc2sys" [] false) hs (fun i hi => by
    have hlt : i < 2 := Agent.handler_lt hi
    obtain rfl | rfl : i = 0 ∨ i = 1 := by omega
    · exact .inl rfl
    · exact .inr hasked)
  exact ⟨s, t, ls, hs, ht, hmain⟩

end

end TimeAgent
