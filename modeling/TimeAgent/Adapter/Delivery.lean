/-
The calls behind the adapter: `ZMQAdapter::send_impl` in the place where the threads send, with every
answer that serializing and sending can give and nothing assumed of the socket. A call that returns
`false` is not made again and changes nothing else, so that the accepted calls of each thread are calls
of its events in their order.
-/
import TimeAgent.Agent.Ordered

namespace TimeAgent

/-! ## Sending -/

/-- What `send` on the socket does: it takes the message, it returns nothing, or it throws. -/
inductive SendAnswer
  | sent
  | again
  | error
  deriving DecidableEq

/-- `ZMQAdapter::send_impl`, by whether there is a socket and the message was serialized. -/
def sendImpl (sender serialized : Bool) (answer : SendAnswer) : Bool :=
  if !sender then false
  else if !serialized then false
  else
    match answer with
    | .sent => true
    | .again => false
    | .error => false

/-- The agent, and the results of the calls of the log. -/
structure Outbound where
  state : AgentState
  results : List Bool := []

inductive OutLabel
  | agent (l : Label)
  | send (t : Thread) (serialized : Bool) (answer : SendAnswer)
  deriving DecidableEq

/-- The step of the threads. -/
def OutLabel.step : OutLabel → Label
  | .agent l => l
  | .send t _ _ => .thread t

/-- The label without the answers. -/
def OutLabel.erase : OutLabel → Label ⊕ Thread
  | .agent l => .inl l
  | .send t _ _ => .inr t

/-- The step ends a send. -/
def AgentState.sends (s : AgentState) : Label → Bool
  | .thread t =>
    match s.threads t with
    | .calling _ => true
    | _ => false
  | _ => false

namespace Agent

/-- A send may end at any time, or never: no limit of a queue is in the way of the threads' steps. -/
def unlimited (agent : Agent) : Agent := { agent with queueSize := 0 }

def outInit (agent : Agent) : Outbound := { state := agent.init }

/-- The socket is there from the adapter's constructor to its destructor, which is behind `run`. -/
def outStep (agent : Agent) (s : Outbound) : OutLabel → Option Outbound
  | .agent l =>
    if s.state.sends l = true then none else (agent.unlimited.step s.state l).map fun state => { s with state }
  | .send t serialized answer =>
    if s.state.sends (.thread t) = true then
      (agent.unlimited.step s.state (.thread t)).map fun state =>
        { state, results := s.results ++ [sendImpl true serialized answer] }
    else none

end Agent

theorem AgentState.sends_iff {s : AgentState} {l : Label} :
    s.sends l = true ↔ ∃ t call, l = .thread t ∧ s.threads t = .calling call := by
  unfold sends
  split
  · rename_i t
    split
    · rename_i call hpc
      exact ⟨fun _ => ⟨t, call, rfl, hpc⟩, fun _ => rfl⟩
    · rename_i hpc
      refine ⟨nofun, fun ⟨u, call, hu, hcall⟩ => ?_⟩
      cases hu
      exact absurd hcall (hpc call)
  · rename_i hl
    exact ⟨nofun, fun ⟨t, _, ht, _⟩ => absurd ht (hl t)⟩

/-! ## What a step can do -/

/-- A step of the threads without a send, or the end of a send with its entry in the log and its result. -/
inductive OutMoves (agent : Agent) (s : Outbound) : OutLabel → Outbound → Prop
  | agent {l : Label} {state : AgentState} (hsends : s.state.sends l = false)
      (hs : agent.unlimited.step s.state l = some state) (hlog : state.log = s.state.log) :
      OutMoves agent s (.agent l) { s with state }
  | send {t : Thread} {serialized : Bool} {answer : SendAnswer} {call : AdapterCall} {state : AgentState}
      (hpc : s.state.threads t = .calling call) (hs : agent.unlimited.step s.state (.thread t) = some state)
      (hlog : state.log = s.state.log ++ [(t, call)]) :
      OutMoves agent s (.send t serialized answer)
        { state, results := s.results ++ [sendImpl true serialized answer] }

theorem log_of_step {agent : Agent} {s s' : AgentState} {l : Label} (hs : agent.step s l = some s')
    (hsends : s.sends l = false) : s'.log = s.log := by
  cases trans_of_step hs with
  | main hrun => exact hrun.frame.2.2.1
  | stop hstop => exact hstop.frame.2.2.2.2.1
  | drain => rfl
  | moves hmove =>
    cases hmove with
    | send hpc hroom =>
      rw [AgentState.sends_iff.2 ⟨_, _, rfl, hpc⟩] at hsends
      cases hsends
    | _ => rfl

theorem log_of_send {agent : Agent} {s s' : AgentState} {t : Thread} {call : AdapterCall}
    (hpc : s.threads t = .calling call) (hs : agent.step s (.thread t) = some s') :
    s'.log = s.log ++ [(t, call)] := by
  have hs : agent.threadStep s t = some s' := hs
  unfold Agent.threadStep at hs
  rw [hpc] at hs
  dsimp only at hs
  split at hs
  · cases hs
    rfl
  · cases hs

theorem outMoves_of_outStep {agent : Agent} {s s' : Outbound} {l : OutLabel} (h : agent.outStep s l = some s') :
    OutMoves agent s l s' := by
  unfold Agent.outStep at h
  cases l with
  | agent l =>
    dsimp only at h
    split at h
    · cases h
    · rename_i hsends
      obtain ⟨state, hstep, rfl⟩ := Option.map_eq_some_iff.1 h
      have hsends := Bool.eq_false_iff.2 hsends
      exact .agent hsends hstep (log_of_step hstep hsends)
  | send t serialized answer =>
    dsimp only at h
    split at h
    · rename_i hsends
      obtain ⟨state, hstep, rfl⟩ := Option.map_eq_some_iff.1 h
      obtain ⟨u, call, hu, hpc⟩ := AgentState.sends_iff.1 hsends
      cases hu
      exact .send hpc hstep (log_of_send hpc hstep)
    · cases h

/-! ## The threads behind it -/

theorem step_of_outStep {agent : Agent} {s s' : Outbound} {l : OutLabel} (hs : agent.outStep s l = some s') :
    agent.unlimited.step s.state l.step = some s'.state := by
  cases outMoves_of_outStep hs with
  | agent _ hstep => exact hstep
  | send _ hstep => exact hstep

theorem Outbound.simulated {agent : Agent} {ls : List OutLabel} {s : Outbound}
    (hr : LTS.run agent.outStep agent.outInit ls = some s) :
    LTS.run agent.unlimited.step agent.init (ls.flatMap fun l => [l.step]) = some s.state := by
  have hstep : ∀ s l s₁ t, t = s.state → agent.outStep s l = some s₁ →
      ∃ t₁, LTS.run agent.unlimited.step t [OutLabel.step l] = some t₁ ∧ t₁ = s₁.state := by
    rintro s l s₁ _ rfl hs
    exact ⟨_, LTS.run_cons.2 ⟨_, step_of_outStep hs, rfl⟩, rfl⟩
  obtain ⟨t, ht, rfl⟩ := LTS.run_simulates hstep hr rfl
  exact ht

theorem TakenInv.outbound {agent : Agent} {ls : List OutLabel} {s : Outbound}
    (hr : LTS.run agent.outStep agent.outInit ls = some s) : TakenInv agent s.state := by
  have h : TakenInv agent.unlimited s.state := takenInv_of_run (Outbound.simulated hr)
  exact ⟨⟨h.phase.unhandled, h.phase.phase⟩, h.mutex, h.consumed, h.snapshots⟩

/-- Other answers lead to the same state of the threads. -/
theorem outStep_erase {agent : Agent} {s₁ s₂ s : Outbound} {l₁ l₂ : OutLabel} (hstate : s₂.state = s₁.state)
    (hl : l₂.erase = l₁.erase) (hs : agent.outStep s₁ l₁ = some s) :
    ∃ s', agent.outStep s₂ l₂ = some s' ∧ s'.state = s.state := by
  cases outMoves_of_outStep hs with
  | @agent l state hsends hstep =>
    cases l₂ with
    | send => cases hl
    | agent l₂ =>
      cases hl
      refine ⟨{ s₂ with state }, ?_, rfl⟩
      unfold Agent.outStep
      dsimp only
      rw [hstate, hsends, hstep]
      rfl
  | @send t _ _ call state hpc hstep =>
    cases l₂ with
    | agent => cases hl
    | send t₂ serialized answer =>
      cases hl
      refine ⟨{ state, results := s₂.results ++ [sendImpl true serialized answer] }, ?_, rfl⟩
      unfold Agent.outStep
      dsimp only
      rw [hstate, AgentState.sends_iff.2 ⟨_, _, rfl, hpc⟩, hstep]
      rfl

theorem outRun_erase {agent : Agent} {s₁ s₂ s : Outbound} {ls ls' : List OutLabel} (hstate : s₂.state = s₁.state)
    (hls : ls'.map OutLabel.erase = ls.map OutLabel.erase) (hr : LTS.run agent.outStep s₁ ls = some s) :
    ∃ s', LTS.run agent.outStep s₂ ls' = some s' ∧ s'.state = s.state := by
  induction ls generalizing s₁ s₂ ls' with
  | nil =>
    cases List.map_eq_nil_iff.1 hls
    cases hr
    exact ⟨s₂, rfl, hstate⟩
  | cons l ls ih =>
    obtain ⟨l', ls', rfl, hl, hls⟩ := List.map_eq_cons_iff.1 hls
    obtain ⟨t, hs, hr⟩ := LTS.run_cons.1 hr
    obtain ⟨t', hs', hstate⟩ := outStep_erase hstate hl hs
    obtain ⟨s', hr', hstate⟩ := ih hstate hls hr
    exact ⟨s', LTS.run_cons.2 ⟨t', hs', hr'⟩, hstate⟩

/-! ## The accepted calls -/

/-- Each call of the log has its result. -/
def Outbound.Answered (s : Outbound) : Prop := s.results.length = s.state.log.length

theorem answered_of_run {agent : Agent} {ls : List OutLabel} {s : Outbound}
    (hr : LTS.run agent.outStep agent.outInit ls = some s) : s.Answered := by
  refine LTS.run_invariant (P := Outbound.Answered) (fun s l s' h hs => ?_) hr rfl
  unfold Outbound.Answered at h ⊢
  cases outMoves_of_outStep hs with
  | agent _ _ hlog =>
    dsimp only
    rw [hlog, h]
  | send _ _ hlog =>
    dsimp only
    rw [hlog, List.length_append, List.length_append, h]
    rfl

namespace Outbound

/-- The calls that returned `true`. -/
def accepted (s : Outbound) : List (Thread × AdapterCall) :=
  ((s.state.log.zip s.results).filter Prod.snd).map Prod.fst

/-- Those of one thread. -/
def acceptedOf (s : Outbound) (t : Thread) : List AdapterCall :=
  s.accepted.filterMap fun e => if e.1 = t then some e.2 else none

theorem accepted_sublist {s : Outbound} (h : s.Answered) : s.accepted.Sublist s.state.log := by
  have hzip : ((s.state.log.zip s.results).map Prod.fst) = s.state.log := List.map_fst_zip h.ge
  unfold accepted
  conv_rhs => rw [← hzip]
  exact List.filter_sublist.map _

theorem accepted_of_all {s : Outbound} (h : s.Answered) (hall : ∀ result ∈ s.results, result = true) :
    s.accepted = s.state.log := by
  unfold accepted
  rw [List.filter_eq_self.2]
  · exact List.map_fst_zip h.ge
  · rintro ⟨e, result⟩ hmem
    exact hall result (List.of_mem_zip hmem).2

/-- The accepted calls of a thread are calls of it in their order, and all of them where none failed. -/
theorem acceptedOf_sublist {s : Outbound} (h : s.Answered) (t : Thread) :
    (s.acceptedOf t).Sublist (s.state.calls t) ∧
      ((∀ result ∈ s.results, result = true) → s.acceptedOf t = s.state.calls t) := by
  unfold acceptedOf AgentState.calls
  exact ⟨(accepted_sublist h).filterMap _, fun hall => by rw [accepted_of_all h hall]⟩

end Outbound

/-- What the adapter has accepted in a state of any run. -/
structure Accepted (agent : Agent) (ls : List OutLabel) (s : Outbound) : Prop where
  answered : s.results.length = s.state.log.length
  accepted : s.accepted.Sublist s.state.log
  /-- The calls of a collector are made once each, those of a prefix of its events, and accepted in that order. -/
  readers : ∀ i handler, agent.handler i = some handler → ∃ handed, handed <+: agent.events i ∧
    s.state.calls (.reader i) = handed.flatMap handler.calls ∧
    (s.acceptedOf (.reader i)).Sublist (handed.flatMap handler.calls) ∧
    ((∀ result ∈ s.results, result = true) → s.acceptedOf (.reader i) = handed.flatMap handler.calls)
  sys : ∀ call ∈ s.acceptedOf .sys, call.IsSnapshot agent.config.node
  /-- With any other answers the same steps lead to the same state. -/
  unmoved : ∀ ls', ls'.map OutLabel.erase = ls.map OutLabel.erase →
    ∃ s', LTS.run agent.outStep agent.outInit ls' = some s' ∧ s'.state = s.state

theorem reader_accepted {agent : Agent} {ls : List OutLabel} {s : Outbound}
    (hr : LTS.run agent.outStep agent.outInit ls = some s) {i : Nat} {handler : Handler}
    (hhandler : agent.handler i = some handler) :
    ∃ handed, handed <+: agent.events i ∧ s.state.calls (.reader i) = handed.flatMap handler.calls ∧
      (s.acceptedOf (.reader i)).Sublist (handed.flatMap handler.calls) ∧
      ((∀ result ∈ s.results, result = true) → s.acceptedOf (.reader i) = handed.flatMap handler.calls) := by
  obtain ⟨handed, hhanded, hcalls⟩ := ((TakenInv.outbound hr).consumed i).made
  rw [← Agent.flatMap_calls hhandler] at hcalls
  refine ⟨handed, hhanded, hcalls, ?_⟩
  rw [← hcalls]
  exact Outbound.acceptedOf_sublist (answered_of_run hr) _

/-- Whatever the schedule, `stop` or no `stop`, and whatever the transport answers. -/
theorem accepted_of_run (agent : Agent) {ls : List OutLabel} {s : Outbound}
    (hr : LTS.run agent.outStep agent.outInit ls = some s) : Accepted agent ls s := by
  have hanswered := answered_of_run hr
  refine ⟨hanswered, Outbound.accepted_sublist hanswered, fun i handler => reader_accepted hr, fun call hcall => ?_,
    fun ls' hls => outRun_erase rfl hls hr⟩
  exact (TakenInv.outbound hr).snapshot ((Outbound.acceptedOf_sublist hanswered .sys).1.subset hcall)

/-- The turn of a reader for an event that is worth a call. -/
def turnSteps (i : Nat) (answer : SendAnswer) : List OutLabel :=
  List.replicate 3 (.agent (.thread (.reader i))) ++ [.send (.reader i) true answer, .agent (.thread (.reader i))]

def startSteps : List OutLabel := List.replicate 4 (.agent .main)

/-- The reader of the second collector finds no more events, and `run` returns. -/
def returnSteps : List OutLabel :=
  [.agent (.thread (.reader 1)), .agent (.noEvent 1)] ++ List.replicate 4 (.agent .main) ++
    [.agent (.thread .sys), .agent .main]

/-- Three records, of which the second fails to be sent. -/
theorem accepted_of_run_error :
    ∃ agent ls s, LTS.run (Agent.outStep agent) agent.outInit ls = some s ∧ s.state.main = .returned ∧
      s.results = [true, false, true] ∧ (s.acceptedOf (.reader 1)).length = 2 ∧ Accepted agent ls s := by
  have hsome : ((LTS.run (Agent.outStep
        (twoCollectors 0 "ppswatch" (List.replicate 3 "timestamp: 1, sequence: 2, offset: -7") true))
      (Agent.outInit (twoCollectors 0 "ppswatch" (List.replicate 3 "timestamp: 1, sequence: 2, offset: -7") true))
      (startSteps ++ turnSteps 1 .sent ++ turnSteps 1 .error ++ turnSteps 1 .sent ++ returnSteps)).map
        fun s => (s.state.main, s.results, (s.acceptedOf (.reader 1)).length)) =
      some (.returned, [true, false, true], 2) := by
    decide +kernel
  obtain ⟨s, hs, hend⟩ := Option.map_eq_some_iff.1 hsome
  injection hend with hmain hend
  injection hend with hresults haccepted
  exact ⟨_, _, s, hs, hmain, hresults, haccepted, accepted_of_run _ hs⟩

end TimeAgent
