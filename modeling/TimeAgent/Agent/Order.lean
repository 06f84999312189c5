/-
A run without `stop`: under every schedule the calls of each reader thread are those of its events,
in their order; calls never overlap; and when `run` returns every event has been handled and no call
follows.
-/
import TimeAgent.Agent.Invariant

namespace TimeAgent

/-! ## What a move does to the data -/

/-- The call that the event at hand is still to make. -/
def ThreadPc.pending : ThreadPc → Option AdapterCall
  | .handling call => call
  | .calling call => some call
  | _ => none

/-- A move hands an event to the handler, or it ends a send, or it leaves events and log alone. -/
theorem Moves.effect {agent : Agent} {s s' : AgentState} {t : Thread} {l : Label} (h : Moves agent s t l s') :
    (s'.events = s.events ∧ s'.log = s.log ∧ (t ≠ .sys → (s'.threads t).pending = (s.threads t).pending)) ∨
      (∃ i event events, t = .reader i ∧ s.threads t = .reading ∧ s.events i = event :: events ∧
        s'.events = Function.update s.events i events ∧ s'.log = s.log ∧
        s'.threads t = .handling (agent.call i event)) ∨
      ∃ call, s.threads t = .calling call ∧ s'.events = s.events ∧ s'.log = s.log ++ [(t, call)] ∧
        s'.threads t = .called := by
  cases h with
  | loop h hr =>
    refine .inl ⟨rfl, rfl, fun _ => ?_⟩
    rw [AgentState.go_threads_self, h]
    cases t <;> rfl
  | leave h _ | noEvent _ h _ | wake h | collect h _ | leaveAwake h _ | unhandled h | lock h _ | unlock h =>
    exact .inl ⟨rfl, rfl, fun _ => by rw [AgentState.go_threads_self, h]; rfl⟩
  | hand ht h he => exact .inr (.inl ⟨_, _, _, ht, h, he, rfl, rfl, AgentState.go_threads_self ..⟩)
  | collected call ht h => exact .inl ⟨rfl, rfl, fun hne => absurd ht hne⟩
  | send h hroom => exact .inr (.inr ⟨_, h, rfl, rfl, AgentState.go_threads_self ..⟩)

/-! ## The events handed over -/

/-- The events that reader `i` took are worth the calls it made and the one it is about to make. -/
def Consumed (agent : Agent) (s : AgentState) (i : Nat) : Prop :=
  ∃ handed, agent.events i = handed ++ s.events i ∧
    handed.filterMap (agent.call i) = s.calls (.reader i) ++ (s.threads (.reader i)).pending.toList

theorem Consumed.congr {agent : Agent} {s s' : AgentState} {i : Nat} (h : Consumed agent s i)
    (hevents : s'.events i = s.events i) (hcalls : s'.calls (.reader i) = s.calls (.reader i))
    (hpending : (s'.threads (.reader i)).pending = (s.threads (.reader i)).pending) : Consumed agent s' i := by
  unfold Consumed
  rw [hevents, hcalls, hpending]
  exact h

theorem Moves.consumed {agent : Agent} {s s' : AgentState} {t : Thread} {l : Label} (hmove : Moves agent s t l s')
    {i : Nat} (h : Consumed agent s i) : Consumed agent s' i := by
  have hother := hmove.frame.2.2.1
  rcases hmove.effect with ⟨hevents, hlog, hpending⟩ | ⟨j, event, events, ht, hpc, he, hevents, hlog, hpc'⟩ |
    ⟨call, hpc, hevents, hlog, hpc'⟩
  · refine h.congr (by rw [hevents]) (AgentState.calls_of_log_eq hlog _) ?_
    by_cases hi : Thread.reader i = t
    · subst hi; exact hpending (nofun)
    · rw [hother _ hi]
  · by_cases hi : i = j
    · subst hi ht
      obtain ⟨handed, hsplit, hcalls⟩ := h
      refine ⟨handed ++ [event], ?_, ?_⟩
      · rw [hsplit, he, hevents, Function.update_self, List.append_assoc]
        rfl
      · rw [hpc] at hcalls
        rw [List.filterMap_append, hcalls, AgentState.calls_of_log_eq hlog, hpc']
        cases hcall : agent.call i event <;> simp [ThreadPc.pending, hcall]
    · have hne : Thread.reader i ≠ t := by
        rw [ht]
        simpa using hi
      exact h.congr (by rw [hevents, Function.update_of_ne hi]) (AgentState.calls_of_log_eq hlog _)
        (by rw [hother _ hne])
  · by_cases hi : Thread.reader i = t
    · subst hi
      obtain ⟨handed, hsplit, hcalls⟩ := h
      refine ⟨handed, by rw [hevents]; exact hsplit, ?_⟩
      rw [hcalls, AgentState.calls_of_log_append hlog, if_pos rfl, hpc, hpc']
      simp [ThreadPc.pending]
    · refine h.congr (by rw [hevents]) ?_ (by rw [hother _ hi])
      rw [AgentState.calls_of_log_append hlog, if_neg (fun heq => hi heq.symm), List.append_nil]

/-! ## The invariant -/

structure OrderInv (agent : Agent) (s : AgentState) : Prop where
  phase : PhaseInv agent s
  mutex : MutexInv s
  running : s.running = false → s.main = .entering ∨ s.main = .joiningSys ∨ s.main = .returned
  unstopped : ∀ i, s.stopRequested i = false
  consumed : ∀ i, Consumed agent s i
  drained : ∀ i, s.threads (.reader i) = .done → s.events i = []

/-- While a reader is in its loop nobody has cleared the flag: `run` does so behind the joins. -/
theorem OrderInv.running_of_active {agent : Agent} {s : AgentState} (h : OrderInv agent s) {i : Nat}
    (hactive : (s.threads (.reader i)).active = true) : s.running = true := by
  have hhandler : agent.handler i ≠ none := by
    intro hnone
    rw [h.phase.unhandled i hnone] at hactive
    cases hactive
  have hphase := h.phase.phase
  cases hr : s.running with
  | true => rfl
  | false =>
    rcases h.running hr with hm | hm | hm <;> rw [hm] at hphase
    · rw [hphase (.reader i)] at hactive; cases hactive
    · rw [hphase.2 i hhandler] at hactive; cases hactive
    · rw [hphase.1 i hhandler] at hactive; cases hactive

theorem Moves.drained {agent : Agent} {s s' : AgentState} {t : Thread} {l : Label} (hmove : Moves agent s t l s')
    (h : OrderInv agent s) {i : Nat} (hdone : s'.threads (.reader i) = .done) : s'.events i = [] := by
  have hframe := hmove.frame
  by_cases hi : Thread.reader i = t
  · subst hi
    have hrunning := h.running_of_active hframe.1
    cases hmove with
    | leave hpc hr => rw [hrunning] at hr; cases hr
    | leaveAwake hpc hr => rw [hrunning] at hr; cases hr
    | noEvent ht hpc he =>
      cases ht
      rcases he with he | he
      · rw [h.unstopped] at he; cases he
      · exact he.1
    | _ => rw [AgentState.go_threads_self] at hdone; cases hdone
  · rw [hframe.2.2.1 _ hi] at hdone
    have hnil := h.drained i hdone
    rcases hmove.effect with ⟨hevents, _⟩ | ⟨j, event, events, ht, _, he, hevents, _⟩ | ⟨call, _, hevents, _⟩
    · rw [hevents, hnil]
    · have hne : i ≠ j := by
        rintro rfl
        exact hi ht.symm
      rw [hevents, Function.update_of_ne hne, hnil]
    · rw [hevents, hnil]

theorem Moves.orderInv {agent : Agent} {s s' : AgentState} {t : Thread} {l : Label} (hmove : Moves agent s t l s')
    (h : OrderInv agent s) : OrderInv agent s' := by
  obtain ⟨_, _, _, hmain, _, hrunning, hrequested⟩ := hmove.frame
  refine ⟨hmove.phaseInv h.phase, hmove.mutexInv h.mutex, ?_, ?_, fun i => hmove.consumed (h.consumed i),
    fun i => hmove.drained h⟩
  · rw [hrunning, hmain]; exact h.running
  · rw [hrequested]; exact h.unstopped

theorem RunMoves.orderInv {agent : Agent} {s s' : AgentState} (hrun : RunMoves agent s s') (h : OrderInv agent s) :
    OrderInv agent s' := by
  obtain ⟨_, _, hlog, hevents, _, hrequested⟩ := hrun.frame
  have hplace := h.phase.phase
  -- a thread is started from `unstarted`, which like `checking` has no event at hand
  have hthreads : ∀ i, (s'.threads (.reader i)).pending = (s.threads (.reader i)).pending ∧
      (s'.threads (.reader i) = .done → s.threads (.reader i) = .done) := by
    intro i
    cases hrun with
    | @spawn k hm hk hh =>
      rw [hm] at hplace
      show ((s.go (.reader k) .checking).threads (.reader i)).pending = _ ∧
        ((s.go (.reader k) .checking).threads (.reader i) = .done → _)
      by_cases hi : i = k
      · subst hi
        rw [AgentState.go_threads_self, hplace.1 i (Nat.le_refl i)]
        exact ⟨rfl, nofun⟩
      · rw [AgentState.go_threads_of_ne s _ (by simpa using hi)]
        exact ⟨rfl, id⟩
    | spawnSys hm hk =>
      show ((s.go .sys .checking).threads (.reader i)).pending = _ ∧
        ((s.go .sys .checking).threads (.reader i) = .done → _)
      rw [AgentState.go_threads_of_ne s _ (by simp)]
      exact ⟨rfl, id⟩
    | _ => exact ⟨rfl, id⟩
  refine ⟨hrun.phaseInv h.phase, hrun.mutexInv h.phase h.mutex, ?_, by rw [hrequested]; exact h.unstopped,
    fun i => (h.consumed i).congr (by rw [hevents]) (AgentState.calls_of_log_eq hlog _) (hthreads i).1,
    fun i hdone => by rw [hevents]; exact h.drained i ((hthreads i).2 hdone)⟩
  intro hr
  have hrunning := h.running
  cases hrun with
  | enter hm => cases hr
  | clear hm => exact .inr (.inl rfl)
  | joinSys hm hd => exact .inr (.inr rfl)
  | _ hm =>
    -- between its two stores `run` leaves the flag alone
    rcases hrunning hr with hm' | hm' | hm' <;> rw [hm] at hm' <;> cases hm'

theorem orderInv_step {agent : Agent} {s s' : AgentState} {l : Label} (hl : l ≠ .stop) (h : OrderInv agent s)
    (hs : agent.step s l = some s') : OrderInv agent s' := by
  cases trans_of_step hs with
  | main hrun => exact hrun.orderInv h
  | stop => exact absurd rfl hl
  | moves hmove => exact hmove.orderInv h
  | drain => exact ⟨⟨h.phase.unhandled, h.phase.phase⟩, h.mutex, h.running, h.unstopped, h.consumed, h.drained⟩

theorem orderInv_init (agent : Agent) : OrderInv agent agent.init where
  phase := phaseInv_init agent
  mutex := mutexInv_init agent
  running := fun _ => .inl rfl
  unstopped := fun _ => rfl
  consumed := fun _ => ⟨[], rfl, rfl⟩
  drained := fun _ h => (nomatch h)

/-! ## The run -/

/-- Behind the return of `run` no call reaches the adapter. -/
theorem log_of_returned {agent : Agent} {s s' : AgentState} {ls : List Label} (h : PhaseInv agent s)
    (hreturned : s.main = .returned) (hr : LTS.run agent.step s ls = some s') : s'.log = s.log := by
  have hinv : PhaseInv agent s' ∧ s'.main = .returned ∧ s'.log = s.log := by
    refine LTS.run_invariant (P := fun r => PhaseInv agent r ∧ r.main = .returned ∧ r.log = s.log) ?_ hr
      ⟨h, hreturned, rfl⟩
    rintro r l r' ⟨hphase, hmain, hlog⟩ hstep
    refine ⟨phaseInv_step hphase hstep, ?_⟩
    cases trans_of_step hstep with
    | main hrun => exact absurd hmain hrun.main_ne_returned
    | stop hstop => exact ⟨hstop.frame.2.1.trans hmain, hstop.frame.2.2.2.2.1.trans hlog⟩
    | moves hmove => exact absurd hmove (hphase.not_moves hmain)
    | drain => exact ⟨hmain, hlog⟩
  exact hinv.2.2

/-- What the adapter has received in a reachable state. -/
structure InOrder (agent : Agent) (s : AgentState) : Prop where
  /-- The calls of a collector are all calls of its handler for a prefix of its events. -/
  readers : ∀ i handler, agent.handler i = some handler →
    ∃ handed, handed <+: agent.events i ∧ s.calls (.reader i) = handed.flatMap handler.calls
  unhandled : ∀ i, agent.handler i = none → s.calls (.reader i) = []
  /-- No two threads are in an adapter call. -/
  exclusive : ∀ t u, (s.threads t).holds = true → (s.threads u).holds = true → t = u
  /-- Behind the return of `run` all events are handled, and no call follows. -/
  returned : s.main = .returned →
    (∀ i handler, agent.handler i = some handler →
      s.calls (.reader i) = (agent.events i).flatMap handler.calls) ∧
    ∀ ls s', LTS.run agent.step s ls = some s' → s'.log = s.log

theorem call_of_handler {agent : Agent} {i : Nat} {handler : Handler} (h : agent.handler i = some handler) :
    agent.call i = handler.call := by
  funext event
  unfold Agent.call
  rw [h]
  rfl

/-- The calls of a handler for some events, one for an event at most. -/
theorem Agent.flatMap_calls {agent : Agent} {i : Nat} {handler : Handler} (h : agent.handler i = some handler)
    (events : List Event) : events.flatMap handler.calls = events.filterMap (agent.call i) := by
  obtain ⟨c, _, hbuild⟩ := Option.bind_eq_some_iff.1 h
  rw [call_of_handler h]
  exact TimeAgent.flatMap_calls hbuild events

/-- A prefix of the events is worth the calls made so far. -/
theorem Consumed.made {agent : Agent} {s : AgentState} {i : Nat} (h : Consumed agent s i) :
    ∃ handed, handed <+: agent.events i ∧ s.calls (.reader i) = handed.filterMap (agent.call i) := by
  obtain ⟨handed, hsplit, hcalls⟩ := h
  obtain ⟨made, rest, hhanded, hmade, _⟩ := List.filterMap_eq_append_iff.1 hcalls
  refine ⟨made, ?_, hmade.symm⟩
  rw [hsplit, hhanded, List.append_assoc]
  exact List.prefix_append _ _

theorem OrderInv.inOrder {agent : Agent} {s : AgentState} (h : OrderInv agent s) : InOrder agent s where
  readers := by
    intro i handler hhandler
    obtain ⟨handed, hprefix, hcalls⟩ := (h.consumed i).made
    exact ⟨handed, hprefix, hcalls.trans (Agent.flatMap_calls hhandler handed).symm⟩
  unhandled := by
    intro i hhandler
    obtain ⟨handed, _, hcalls⟩ := (h.consumed i).made
    rw [hcalls, List.filterMap_eq_nil_iff]
    intro event _
    unfold Agent.call
    rw [hhandler]
    rfl
  exclusive := by
    intro t u ht hu
    have ht := (h.mutex t).1 ht
    rw [(h.mutex u).1 hu] at ht
    exact (Option.some.inj ht).symm
  returned := by
    intro hmain
    refine ⟨fun i handler hhandler => ?_, fun ls s' hr => log_of_returned h.phase hmain hr⟩
    have hdone : s.threads (.reader i) = .done := by
      have hplace := h.phase.phase
      rw [hmain] at hplace
      exact hplace.1 i (by rw [hhandler]; simp)
    obtain ⟨handed, hsplit, hcalls⟩ := h.consumed i
    rw [h.drained i hdone, List.append_nil] at hsplit
    rw [hdone] at hcalls
    rw [hsplit, Agent.flatMap_calls hhandler, hcalls]
    simp [ThreadPc.pending]

/-- In every state that the agent reaches under any schedule without `stop`, for all collectors and
all their events. -/
theorem inOrder_of_run (agent : Agent) {ls : List Label} {s : AgentState} (hstop : .stop ∉ ls)
    (hr : LTS.run agent.step agent.init ls = some s) : InOrder agent s := by
  have hinv : OrderInv agent s :=
    LTS.run_invariant_of_forall (Q := fun l => l ≠ .stop) (fun _ _ _ hl h hs => orderInv_step hl h hs)
      (fun l hl => by rintro rfl; exact hstop hl) hr (orderInv_init agent)
  exact hinv.inOrder

def ppsAgent : Agent := twoCollectors 0 "ppswatch" ["timestamp: 1, sequence: 2, offset: -7"] true

theorem inOrder_of_run_pps :
    ∃ s, LTS.run ppsAgent.step ppsAgent.init
        (List.replicate 4 Label.main ++ List.replicate 6 (Label.thread (.reader 1)) ++ [Label.noEvent 1] ++
          List.replicate 4 Label.main ++ [Label.thread .sys, Label.main]) = some s ∧
      s.main = .returned ∧ s.log.length = 1 ∧ InOrder ppsAgent s := by
  have hsome : ((LTS.run ppsAgent.step ppsAgent.init
        (List.replicate 4 Label.main ++ List.replicate 6 (Label.thread (.reader 1)) ++ [Label.noEvent 1] ++
          List.replicate 4 Label.main ++ [Label.thread .sys, Label.main])).map fun s => (s.main, s.log.length)) =
      some (.returned, 1) := by
    decide +kernel
  obtain ⟨s, hs, hend⟩ := Option.map_eq_some_iff.1 hsome
  injection hend with hmain hlog
  exact ⟨s, hs, hmain, hlog, inOrder_of_run _ (by decide) hs⟩

end TimeAgent
