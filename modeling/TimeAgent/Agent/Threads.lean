/-
The threads of the agent: `Agent::run` with its reader threads and the system-metrics thread, one
call of `Agent::stop`, the mutex in front of the adapter and the outbound queue behind it.
-/
import TimeAgent.Lib.Transition
import TimeAgent.Agent.Handlers
import Mathlib.Logic.Function.Basic

namespace TimeAgent

open CText

/-! ## The agent -/

/-- An event as its handler meets it: with what the machine answers meanwhile. -/
abbrev Event := Machine × CollectorEvent

/-- A collector: the events that `readEvent` returns one after the other, and whether the source
ends behind them, as the output of a process does and a journal does not. -/
structure ServiceCollector where
  name : Str
  events : List Event
  ends : Bool

/-- The collectors in the order in which the agent visits them; a queue of size 0 has no limit. -/
structure Agent where
  config : AgentConfig
  collectors : List ServiceCollector
  queueSize : Nat

namespace Agent

def handler (agent : Agent) (i : Nat) : Option Handler :=
  agent.collectors[i]?.bind fun c => buildHandlers agent.config c.name

def events (agent : Agent) (i : Nat) : List Event := (agent.collectors[i]?.map ServiceCollector.events).getD []

def ends (agent : Agent) (i : Nat) : Bool := (agent.collectors[i]?.map ServiceCollector.ends).getD false

/-- The adapter call that an event of collector `i` is worth. -/
def call (agent : Agent) (i : Nat) (event : Event) : Option AdapterCall :=
  (agent.handler i).bind fun handler => handler.call event

end Agent

/-- A collector that has no handler, and one with some records. -/
def twoCollectors (queueSize : Nat) (name : String) (msgs : List String) (ends : Bool) : Agent where
  config := { node := "node".toList, configPtpTopology := {} }
  collectors :=
    [{ name := "gpsd".toList, events := [], ends := true },
      { name := name.toList, ends
        events := msgs.map fun msg =>
          ({ resolve := fun _ => [], exec := fun _ _ => none, nowUs := 0, unspecified := fun _ => 0 },
            { tsUsec := 0, unit := name.toList, msg := msg.toList }) }]
  queueSize

/-! ## States -/

inductive Thread
  | reader (i : Nat)
  | sys
  deriving DecidableEq

/-- Where a thread stands. Both loops test `running_` at `checking` and send through the same three
places: in the handler with the mutex still to take, in `send_impl`, and in front of the unlock. -/
inductive ThreadPc
  | unstarted
  | checking
  | reading
  | sleeping
  | rechecking
  | collecting
  | handling (call : Option AdapterCall)
  | calling (call : AdapterCall)
  | called
  | done
  deriving DecidableEq

/-- Where `run` stands: the loop over the collectors, and the loop over their threads. -/
inductive MainPc
  | entering
  | spawning (k : Nat)
  | joining (k : Nat)
  | clearing
  | joiningSys
  | returned
  deriving DecidableEq

inductive StopPc
  | idle
  | stopping (k : Nat)
  | returned
  deriving DecidableEq

structure AgentState where
  running : Bool := false
  adapterMutex : Option Thread := none
  queue : Nat := 0
  log : List (Thread × AdapterCall) := []
  main : MainPc := .entering
  stopping : StopPc := .idle
  threads : Thread → ThreadPc := fun _ => .unstarted
  events : Nat → List Event
  stopRequested : Nat → Bool := fun _ => false

/-- `main` has built the agent and installed the signal handlers. -/
def Agent.init (agent : Agent) : AgentState := { events := agent.events }

/-- A step; the arguments are what the machine supplies. -/
inductive Label
  | main
  | stop
  | thread (t : Thread)
  | noEvent (i : Nat)
  | collects (stats : SystemStats) (nowUs : Nat)
  | drain
  deriving DecidableEq

namespace AgentState

/-- Thread `t` goes to `pc`. -/
def go (s : AgentState) (t : Thread) (pc : ThreadPc) : AgentState :=
  { s with threads := Function.update s.threads t pc }

@[simp] theorem go_threads_self (s : AgentState) (t : Thread) (pc : ThreadPc) : (s.go t pc).threads t = pc :=
  Function.update_self ..

theorem go_threads_of_ne (s : AgentState) {t u : Thread} (pc : ThreadPc) (h : u ≠ t) :
    (s.go t pc).threads u = s.threads u := Function.update_of_ne h ..

/-- The calls of one thread, in the order in which the adapter received them. -/
def calls (s : AgentState) (t : Thread) : List AdapterCall :=
  s.log.filterMap fun e => if e.1 = t then some e.2 else none

theorem calls_of_log_append {s s' : AgentState} {t : Thread} {call : AdapterCall} (h : s'.log = s.log ++ [(t, call)])
    (u : Thread) : s'.calls u = s.calls u ++ if t = u then [call] else [] := by
  unfold calls
  rw [h, List.filterMap_append]
  congr 1
  by_cases htu : t = u <;> simp [htu]

theorem calls_of_log_eq {s s' : AgentState} (h : s'.log = s.log) (u : Thread) : s'.calls u = s.calls u := by
  unfold calls
  rw [h]

end AgentState

/-! ## Steps -/

/-- What the loop does behind its test. -/
def Thread.body : Thread → ThreadPc
  | .reader _ => .reading
  | .sys => .sleeping

/-- The queue takes one more message. -/
def Agent.HasRoom (agent : Agent) (s : AgentState) : Prop := agent.queueSize = 0 ∨ s.queue < agent.queueSize

instance (agent : Agent) (s : AgentState) : Decidable (agent.HasRoom s) := inferInstanceAs (Decidable (_ ∨ _))

namespace Agent

/-- `Agent::run` on the main thread. -/
def mainStep (agent : Agent) (s : AgentState) : Option AgentState :=
  match s.main with
  | .entering => some { s with running := true, main := .spawning 0 }
  | .spawning k =>
    if k < agent.collectors.length then
      match agent.handler k with
      | none => some { s with main := .spawning (k + 1) }
      | some _ => some { s.go (.reader k) .checking with main := .spawning (k + 1) }
    else some { s.go .sys .checking with main := .joining 0 }
  | .joining k =>
    if k < agent.collectors.length then
      match agent.handler k with
      | none => some { s with main := .joining (k + 1) }
      | some _ => if s.threads (.reader k) = .done then some { s with main := .joining (k + 1) } else none
    else some { s with main := .clearing }
  | .clearing => some { s with running := false, main := .joiningSys }
  | .joiningSys => if s.threads .sys = .done then some { s with main := .returned } else none
  | .returned => none

/-- `Agent::stop`. -/
def stopStep (agent : Agent) (s : AgentState) : Option AgentState :=
  match s.stopping with
  | .idle => some { s with running := false, stopping := .stopping 0 }
  | .stopping k =>
    if k < agent.collectors.length then
      some { s with stopRequested := Function.update s.stopRequested k true, stopping := .stopping (k + 1) }
    else some { s with stopping := .returned }
  | .returned => none

/-- `readerLoop` and `sysMetricsLoop`, where they need nothing from outside. -/
def threadStep (agent : Agent) (s : AgentState) (t : Thread) : Option AgentState :=
  match s.threads t with
  | .checking => some (s.go t (if s.running then t.body else .done))
  | .reading =>
    match t with
    | .sys => none
    | .reader i =>
      match s.events i with
      | [] => none
      | event :: events =>
        some ({ s with events := Function.update s.events i events }.go t (.handling (agent.call i event)))
  | .sleeping => some (s.go t .rechecking)
  | .rechecking => some (s.go t (if s.running then .collecting else .done))
  | .handling none => some (s.go t .checking)
  | .handling (some call) =>
    if s.adapterMutex = none then some ({ s with adapterMutex := some t }.go t (.calling call)) else none
  | .calling call =>
    -- without `ZMQ_DONTWAIT` and without a timeout the send waits for room
    if agent.HasRoom s then some ({ s with queue := s.queue + 1, log := s.log ++ [(t, call)] }.go t .called) else none
  | .called => some ({ s with adapterMutex := none }.go t .checking)
  | _ => none

/-- `readEvent` returns `std::nullopt`: the source is at its end, or it was asked to stop and has
nothing at hand. -/
def noEventStep (agent : Agent) (s : AgentState) (i : Nat) : Option AgentState :=
  if s.threads (.reader i) = .reading ∧ (s.stopRequested i = true ∨ s.events i = [] ∧ agent.ends i = true) then
    some (s.go (.reader i) .done)
  else none

/-- `sysMetricsCollector_.collect()` returns. -/
def collectsStep (agent : Agent) (s : AgentState) (stats : SystemStats) (nowUs : Nat) : Option AgentState :=
  if s.threads .sys = .collecting then
    let sysMetrics := { stats with timestampUs := nowUs }
    some (s.go .sys (.handling (some (.sendSysStatistics sysMetrics agent.config.node))))
  else none

def step (agent : Agent) (s : AgentState) : Label → Option AgentState
  | .main => agent.mainStep s
  | .stop => agent.stopStep s
  | .thread t => agent.threadStep s t
  | .noEvent i => agent.noEventStep s i
  | .collects stats nowUs => agent.collectsStep s stats nowUs
  | .drain => if 0 < s.queue then some { s with queue := s.queue - 1 } else none

end Agent

/-! ## What a step can do -/

/-- The moves of the reader threads and of the system-metrics thread. -/
inductive Moves (agent : Agent) (s : AgentState) (t : Thread) : Label → AgentState → Prop
  | loop (h : s.threads t = .checking) (hr : s.running = true) : Moves agent s t (.thread t) (s.go t t.body)
  | leave (h : s.threads t = .checking) (hr : s.running = false) : Moves agent s t (.thread t) (s.go t .done)
  | hand {i : Nat} {event : Event} {events : List Event} (ht : t = .reader i) (h : s.threads t = .reading)
      (he : s.events i = event :: events) :
      Moves agent s t (.thread t)
        ({ s with events := Function.update s.events i events }.go t (.handling (agent.call i event)))
  | noEvent {i : Nat} (ht : t = .reader i) (h : s.threads t = .reading)
      (he : s.stopRequested i = true ∨ s.events i = [] ∧ agent.ends i = true) :
      Moves agent s t (.noEvent i) (s.go t .done)
  | wake (h : s.threads t = .sleeping) : Moves agent s t (.thread t) (s.go t .rechecking)
  | collect (h : s.threads t = .rechecking) (hr : s.running = true) : Moves agent s t (.thread t) (s.go t .collecting)
  | leaveAwake (h : s.threads t = .rechecking) (hr : s.running = false) : Moves agent s t (.thread t) (s.go t .done)
  | collected {stats : SystemStats} {nowUs : Nat} (call : AdapterCall) (ht : t = .sys) (h : s.threads t = .collecting) :
      Moves agent s t (.collects stats nowUs) (s.go t (.handling (some call)))
  | unhandled (h : s.threads t = .handling none) : Moves agent s t (.thread t) (s.go t .checking)
  | lock {call : AdapterCall} (h : s.threads t = .handling (some call)) (hm : s.adapterMutex = none) :
      Moves agent s t (.thread t) ({ s with adapterMutex := some t }.go t (.calling call))
  | send {call : AdapterCall} (h : s.threads t = .calling call) (hroom : agent.HasRoom s) :
      Moves agent s t (.thread t) ({ s with queue := s.queue + 1, log := s.log ++ [(t, call)] }.go t .called)
  | unlock (h : s.threads t = .called) : Moves agent s t (.thread t) ({ s with adapterMutex := none }.go t .checking)

/-- The steps of `run`. -/
inductive RunMoves (agent : Agent) (s : AgentState) : AgentState → Prop
  | enter (h : s.main = .entering) : RunMoves agent s { s with running := true, main := .spawning 0 }
  | skip {k : Nat} (h : s.main = .spawning k) (hk : k < agent.collectors.length) (hh : agent.handler k = none) :
      RunMoves agent s { s with main := .spawning (k + 1) }
  | spawn {k : Nat} (h : s.main = .spawning k) (hk : k < agent.collectors.length) (hh : agent.handler k ≠ none) :
      RunMoves agent s { s.go (.reader k) .checking with main := .spawning (k + 1) }
  | spawnSys {k : Nat} (h : s.main = .spawning k) (hk : agent.collectors.length ≤ k) :
      RunMoves agent s { s.go .sys .checking with main := .joining 0 }
  | joinSkip {k : Nat} (h : s.main = .joining k) (hk : k < agent.collectors.length) (hh : agent.handler k = none) :
      RunMoves agent s { s with main := .joining (k + 1) }
  | join {k : Nat} (h : s.main = .joining k) (hk : k < agent.collectors.length) (hd : s.threads (.reader k) = .done) :
      RunMoves agent s { s with main := .joining (k + 1) }
  | joined {k : Nat} (h : s.main = .joining k) (hk : agent.collectors.length ≤ k) :
      RunMoves agent s { s with main := .clearing }
  | clear (h : s.main = .clearing) : RunMoves agent s { s with running := false, main := .joiningSys }
  | joinSys (h : s.main = .joiningSys) (hd : s.threads .sys = .done) : RunMoves agent s { s with main := .returned }

/-- The steps of `stop`. -/
inductive StopMoves (agent : Agent) (s : AgentState) : AgentState → Prop
  | clear (h : s.stopping = .idle) : StopMoves agent s { s with running := false, stopping := .stopping 0 }
  | request {k : Nat} (h : s.stopping = .stopping k) (hk : k < agent.collectors.length) :
      StopMoves agent s
        { s with stopRequested := Function.update s.stopRequested k true, stopping := .stopping (k + 1) }
  | requested {k : Nat} (h : s.stopping = .stopping k) (hk : agent.collectors.length ≤ k) :
      StopMoves agent s { s with stopping := .returned }

/-- Who takes a step. -/
inductive Trans (agent : Agent) (s : AgentState) : Label → AgentState → Prop
  | main {s' : AgentState} (h : RunMoves agent s s') : Trans agent s .main s'
  | stop {s' : AgentState} (h : StopMoves agent s s') : Trans agent s .stop s'
  | moves {t : Thread} {l : Label} {s' : AgentState} (h : Moves agent s t l s') : Trans agent s l s'
  | drain : Trans agent s .drain { s with queue := s.queue - 1 }

theorem moves_of_threadStep {agent : Agent} {s s' : AgentState} {t : Thread} (h : agent.threadStep s t = some s') :
    Moves agent s t (.thread t) s' := by
  unfold Agent.threadStep at h
  split at h
  · rename_i hpc
    cases h
    cases hr : s.running with
    | true => exact .loop hpc hr
    | false => exact .leave hpc hr
  · rename_i hpc
    split at h
    · cases h
    · split at h
      · cases h
      · cases h; exact .hand rfl hpc ‹_›
  · cases h; exact .wake ‹_›
  · rename_i hpc
    cases h
    cases hr : s.running with
    | true => exact .collect hpc hr
    | false => exact .leaveAwake hpc hr
  · cases h; exact .unhandled ‹_›
  · split at h
    · cases h; exact .lock ‹_› ‹_›
    · cases h
  · split at h
    · cases h; exact .send ‹_› ‹_›
    · cases h
  · cases h; exact .unlock ‹_›
  · cases h

theorem runMoves_of_mainStep {agent : Agent} {s s' : AgentState} (h : agent.mainStep s = some s') :
    RunMoves agent s s' := by
  unfold Agent.mainStep at h
  split at h
  · cases h; exact .enter ‹_›
  · split at h
    · split at h
      · cases h; exact .skip ‹_› ‹_› ‹_›
      · rename_i hh
        cases h; exact .spawn ‹_› ‹_› (by rw [hh]; simp)
    · cases h; exact .spawnSys ‹_› (Nat.le_of_not_lt ‹_›)
  · split at h
    · split at h
      · cases h; exact .joinSkip ‹_› ‹_› ‹_›
      · split at h
        · cases h; exact .join ‹_› ‹_› ‹_›
        · cases h
    · cases h; exact .joined ‹_› (Nat.le_of_not_lt ‹_›)
  · cases h; exact .clear ‹_›
  · split at h
    · cases h; exact .joinSys ‹_› ‹_›
    · cases h
  · cases h

theorem stopMoves_of_stopStep {agent : Agent} {s s' : AgentState} (h : agent.stopStep s = some s') :
    StopMoves agent s s' := by
  unfold Agent.stopStep at h
  split at h
  · cases h; exact .clear ‹_›
  · split at h
    · cases h; exact .request ‹_› ‹_›
    · cases h; exact .requested ‹_› (Nat.le_of_not_lt ‹_›)
  · cases h

theorem trans_of_step {agent : Agent} {s s' : AgentState} {l : Label} (h : agent.step s l = some s') :
    Trans agent s l s' := by
  cases l with
  | main => exact .main (runMoves_of_mainStep h)
  | stop => exact .stop (stopMoves_of_stopStep h)
  | thread t => exact .moves (moves_of_threadStep h)
  | noEvent i =>
    unfold Agent.step Agent.noEventStep at h
    dsimp only at h
    split at h
    · rename_i hpc
      cases h
      exact .moves (.noEvent rfl hpc.1 hpc.2)
    · cases h
  | collects stats nowUs =>
    unfold Agent.step Agent.collectsStep at h
    dsimp only at h
    split at h
    · rename_i hpc
      cases h
      exact .moves (.collected _ rfl hpc)
    · cases h
  | drain =>
    unfold Agent.step at h
    dsimp only at h
    split at h
    · cases h; exact .drain
    · cases h

end TimeAgent
