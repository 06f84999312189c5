/-
The handlers of `Agent::buildHandlers`: what each source's events do to the watched interface and
to the adapter, and the run of the ptp4l handler over the sentences ptp4l prints.
-/
import TimeAgent.Collector.Dispatch
import TimeAgent.Topology.Parser
import TimeAgent.Metrics.Basic

namespace TimeAgent

open CText CNum CDouble

/-! ## Calls -/

/-- One call on the adapter, with the node name it carries. -/
inductive AdapterCall
  | sendPtpStatistics (stats : Ptp4lStats) (node : Str)
  | sendPhc2sysStatistics (stats : Phc2SysStats) (node : Str)
  | sendPpsStatistics (stats : PPSStats) (node : Str)
  | sendSysStatistics (stats : SystemStats) (node : Str)
  | sendPtp4lPortEvent (event : PortEvent) (node : Str)
  | sendPtpTopologySnapshot (snapshot : PtpTopologySnapshotData) (node : Str)
  deriving DecidableEq

/-- What a handler does besides logging. -/
inductive Effect
  | setInterface (interface : Str)
  | send (call : AdapterCall)
  deriving DecidableEq

/-- What the machine answers while one event is handled: the adapter name of an interface, pmc,
the clock, and `llround` outside its range. -/
structure Machine where
  resolve : Str → Str
  exec : Exec
  nowUs : Nat
  unspecified : Double → Int

/-- The members of `Agent` that the handlers capture. -/
structure AgentConfig where
  node : Str
  configPtpTopology : PtpTopologyConfig

abbrev Handler := Machine → CollectorEvent → List Effect

/-! ## Handlers -/

def ptp4lHandler (config : AgentConfig) : Handler := fun machine event =>
  match Ptp4lParser.parseMetrics event.msg with
  | some metrics =>
    [.send (.sendPtpStatistics { metrics with timestampUs := event.tsUsec, unit := event.unit } config.node)]
  | none =>
    match Ptp4lParser.parsePortEvent event.msg with
    | some portEvent =>
      let portEvent := { portEvent with timestampUs := event.tsUsec, unit := event.unit }
      if '/' ∉ portEvent.portName then
        [.setInterface portEvent.portName,
          .send (.sendPtp4lPortEvent { portEvent with adapterName := machine.resolve portEvent.portName } config.node)]
      else [.send (.sendPtp4lPortEvent portEvent config.node)]
    | none =>
      match Ptp4lParser.parseForeignMasterEvent event.msg with
      | some _ => []
      | none =>
        match Ptp4lParser.parseBestMasterEvent event.msg with
        | some _ =>
          if config.configPtpTopology.on then
            match PtpTopologyCollector.collect machine.exec machine.unspecified machine.nowUs
                config.configPtpTopology with
            | some snapshot => [.send (.sendPtpTopologySnapshot snapshot config.node)]
            | none => []
          else []
        | none => []

def phc2sysHandler (config : AgentConfig) : Handler := fun _ event =>
  match Phc2SysParser.parseMetrics event.msg with
  | some metrics =>
    [.send (.sendPhc2sysStatistics { metrics with timestampUs := event.tsUsec, unit := event.unit } config.node)]
  | none =>
    -- the two cases differ in what they log
    if Phc2SysParser.isWaiting event.msg then [] else []

def ppswatchHandler (config : AgentConfig) : Handler := fun _ event =>
  match PPSParser.parseMetrics event.msg with
  | some metrics =>
    [.send (.sendPpsStatistics { metrics with timestampUs := event.tsUsec, unit := event.unit } config.node)]
  | none => []

/-- The handler of a collector, by the collector's name. -/
def buildHandlers (config : AgentConfig) (name : Str) : Option Handler :=
  if name = "ptp4l".toList then some (ptp4lHandler config)
  else if name = "phc2sys".toList then some (phc2sysHandler config)
  else if name = "ppswatch".toList then some (ppswatchHandler config)
  else none

/-! ## The call of a handler -/

def Effect.call : Effect → Option AdapterCall
  | .setInterface _ => none
  | .send call => some call

@[simp] theorem Effect.call_setInterface (interface : Str) : Effect.call (.setInterface interface) = none := rfl

@[simp] theorem Effect.call_send (call : AdapterCall) : Effect.call (.send call) = some call := rfl

/-- The adapter calls a handler makes on an event. -/
def Handler.calls (handler : Handler) (event : Machine × CollectorEvent) : List AdapterCall :=
  (handler event.1 event.2).filterMap Effect.call

/-- The first of them. -/
def Handler.call (handler : Handler) (event : Machine × CollectorEvent) : Option AdapterCall :=
  ((handler event.1 event.2).filterMap Effect.call).head?

/-- No handler makes a second call. -/
theorem buildHandlers_calls {config : AgentConfig} {name : Str} {handler : Handler}
    (h : buildHandlers config name = some handler) (event : Machine × CollectorEvent) :
    handler.calls event = (handler.call event).toList := by
  have hone : ((handler event.1 event.2).filterMap Effect.call).length ≤ 1 := by
    unfold buildHandlers at h
    split at h
    · cases h
      unfold ptp4lHandler
      dsimp only
      repeat' split
      all_goals simp [List.filterMap_cons]
    · split at h
      · cases h
        unfold phc2sysHandler
        repeat' split
        all_goals simp
      · split at h
        · cases h
          unfold ppswatchHandler
          split <;> simp
        · cases h
  unfold Handler.call Handler.calls
  match hcalls : (handler event.1 event.2).filterMap Effect.call with
  | [] => rfl
  | [call] => rfl
  | _ :: _ :: _ =>
    rw [hcalls] at hone
    simp at hone

theorem flatMap_calls {config : AgentConfig} {name : Str} {handler : Handler}
    (h : buildHandlers config name = some handler) (events : List (Machine × CollectorEvent)) :
    events.flatMap handler.calls = events.filterMap handler.call := by
  rw [List.filterMap_eq_flatMap_toList, funext (buildHandlers_calls h)]

/-! ## Running a handler -/

/-- What the effects act on: the interface the network collector watches and the calls the
adapter received. -/
structure Effects where
  interface : Str := []
  calls : List AdapterCall := []
  deriving DecidableEq

def Effects.apply (s : Effects) : Effect → Effects
  | .setInterface interface => { s with interface }
  | .send call => { s with calls := s.calls ++ [call] }

/-- The events of one collector, handled one after the other. -/
def Handler.run (handler : Handler) (s : Effects) (events : List (Machine × CollectorEvent)) : Effects :=
  events.foldl (fun s e => (handler e.1 e.2).foldl Effects.apply s) s

/-! ## Canonical lines -/

/-- A line ptp4l prints, of any kind. -/
inductive Ptp4lLine
  | offset (l : OffsetLine)
  | rms (l : RmsLine)
  | port (l : PortLine)
  | foreignMaster (l : ForeignMasterLine)
  | bestMaster (l : BestMasterLine)
  | localClock (l : LocalClockLine)

def Ptp4lLine.text : Ptp4lLine → Str
  | .offset l => l.text
  | .rms l => l.text
  | .port l => l.text
  | .foreignMaster l => l.text
  | .bestMaster l => l.text
  | .localClock l => l.text

/-- A canonical line in the record it arrives in, and what the machine answers meanwhile. -/
structure Ptp4lRecord where
  tsUsec : Nat
  unit : Str
  line : Ptp4lLine
  machine : Machine

def Ptp4lRecord.event (r : Ptp4lRecord) : CollectorEvent := { tsUsec := r.tsUsec, unit := r.unit, msg := r.line.text }

/-- The interface a line makes the agent watch: the name of a port sentence, unless it is a path. -/
def Ptp4lLine.watched : Ptp4lLine → Option Str
  | .port l => if '/' ∈ l.name.text then none else some l.name.text
  | _ => none

/-- The adapter call a record is worth, in the line's own fields. -/
def Ptp4lRecord.call (config : AgentConfig) (r : Ptp4lRecord) : Option AdapterCall :=
  match r.line with
  | .offset l =>
    some (.sendPtpStatistics { unit := r.unit, timestampUs := r.tsUsec, offset := l.offset.value, freq := l.freq.value,
                               pathDelay := l.delay.value, state := l.state.value } config.node)
  | .rms l =>
    some (.sendPtpStatistics { unit := r.unit, timestampUs := r.tsUsec, offset := l.offset.value, freq := l.freq.value,
                               pathDelay := l.delay.value, state := 0 } config.node)
  | .port l =>
    some (.sendPtp4lPortEvent { unit := r.unit, timestampUs := r.tsUsec, portNumber := l.port.value,
                                portName := l.name.text,
                                adapterName := if '/' ∈ l.name.text then [] else r.machine.resolve l.name.text,
                                fromState := l.fromState.text, toState := l.toState.text,
                                trigger := l.trigger } config.node)
  | .foreignMaster _ => none
  | .bestMaster _ | .localClock _ =>
    if config.configPtpTopology.on then
      (PtpTopologyCollector.collect r.machine.exec r.machine.unspecified r.machine.nowUs config.configPtpTopology).map
        fun snapshot => .sendPtpTopologySnapshot snapshot config.node
    else none

/-! ## Each line -/

/-- On a line that only the best master parser accepts, the handler at most reports the topology. -/
theorem ptp4lHandler_bestMaster (config : AgentConfig) (machine : Machine) {event : CollectorEvent}
    {master : BestMasterEvent}
    (hearlier : Ptp4lParser.parseMetrics event.msg = none ∧ Ptp4lParser.parsePortEvent event.msg = none ∧
      Ptp4lParser.parseForeignMasterEvent event.msg = none)
    (h : Ptp4lParser.parseBestMasterEvent event.msg = some master) :
    ptp4lHandler config machine event =
      (if config.configPtpTopology.on then
        (PtpTopologyCollector.collect machine.exec machine.unspecified machine.nowUs config.configPtpTopology).map
          fun snapshot => AdapterCall.sendPtpTopologySnapshot snapshot config.node
      else none).toList.map Effect.send := by
  obtain ⟨h1, h2, h3⟩ := hearlier
  unfold ptp4lHandler
  simp only [h1, h2, h3, h]
  split
  · cases PtpTopologyCollector.collect machine.exec machine.unspecified machine.nowUs config.configPtpTopology <;> rfl
  · rfl

/-- The handler watches the line's interface first and then makes the line's call. -/
theorem ptp4lHandler_line (config : AgentConfig) (r : Ptp4lRecord) :
    ptp4lHandler config r.machine r.event =
      r.line.watched.toList.map .setInterface ++ (r.call config).toList.map .send := by
  obtain ⟨tsUsec, unit, line, machine⟩ := r
  cases line with
  | offset l =>
    simp [ptp4lHandler, Ptp4lRecord.event, Ptp4lLine.text, l.parseMetrics, Ptp4lLine.watched, Ptp4lRecord.call]
  | rms l => simp [ptp4lHandler, Ptp4lRecord.event, Ptp4lLine.text, l.parseMetrics, Ptp4lLine.watched, Ptp4lRecord.call]
  | port l =>
    by_cases h : '/' ∈ l.name.text <;>
      simp [ptp4lHandler, Ptp4lRecord.event, Ptp4lLine.text, l.parseMetrics, l.parsePortEvent, Ptp4lLine.watched,
        Ptp4lRecord.call, h]
  | foreignMaster l =>
    simp [ptp4lHandler, Ptp4lRecord.event, Ptp4lLine.text, l.parseMetrics, l.parsePortEvent, l.parseForeignMasterEvent,
      Ptp4lLine.watched, Ptp4lRecord.call]
  | bestMaster l => exact ptp4lHandler_bestMaster config machine l.earlier_none l.parseBestMasterEvent
  | localClock l => exact ptp4lHandler_bestMaster config machine l.earlier_none l.parseBestMasterEvent

/-! ## Runs -/

theorem foldl_apply_setInterface (names : List Str) (s : Effects) :
    (names.map Effect.setInterface).foldl Effects.apply s =
      { s with interface := names.getLast?.getD s.interface } := by
  induction names generalizing s with
  | nil => rfl
  | cons name names ih =>
    rw [List.map_cons, List.foldl_cons, ih]
    cases names <;> rfl

theorem foldl_apply_send (calls : List AdapterCall) (s : Effects) :
    (calls.map Effect.send).foldl Effects.apply s = { s with calls := s.calls ++ calls } := by
  induction calls generalizing s with
  | nil => simp
  | cons call calls ih =>
    rw [List.map_cons, List.foldl_cons, ih]
    simp [Effects.apply]

theorem Handler.run_cons (handler : Handler) (s : Effects) (machine : Machine) (event : CollectorEvent)
    (events : List (Machine × CollectorEvent)) :
    handler.run s ((machine, event) :: events) =
      handler.run ((handler machine event).foldl Effects.apply s) events := rfl

theorem ptp4lHandler_run_state (config : AgentConfig) (records : List Ptp4lRecord) (s : Effects) :
    (ptp4lHandler config).run s (records.map fun r => (r.machine, r.event)) =
      { interface := (records.filterMap fun r => r.line.watched).getLast?.getD s.interface,
        calls := s.calls ++ records.filterMap fun r => r.call config } := by
  induction records generalizing s with
  | nil => simp [Handler.run]
  | cons r records ih =>
    have hstep : (ptp4lHandler config r.machine r.event).foldl Effects.apply s =
        { interface := r.line.watched.getD s.interface, calls := s.calls ++ (r.call config).toList } := by
      rw [ptp4lHandler_line, List.foldl_append, foldl_apply_setInterface, foldl_apply_send]
      cases r.line.watched <;> rfl
    rw [List.map_cons, Handler.run_cons, hstep, ih, List.filterMap_cons, List.filterMap_cons]
    cases r.line.watched <;> cases r.call config <;> simp [List.getLast?_cons]

/-- Over any sequence of canonical lines the adapter receives exactly the calls of the lines, in
their order; the watched interface is that of the last line that names one; and every line that
names one sets it in front of its own call. -/
theorem ptp4lHandler_run (config : AgentConfig) (records : List Ptp4lRecord) (s : Effects) :
    ((ptp4lHandler config).run s (records.map fun r => (r.machine, r.event))).calls =
        s.calls ++ records.filterMap (fun r => r.call config) ∧
      ((ptp4lHandler config).run s (records.map fun r => (r.machine, r.event))).interface =
        (records.filterMap fun r => r.line.watched).getLast?.getD s.interface ∧
      (records.map fun r => ptp4lHandler config r.machine r.event) =
        records.map fun r => r.line.watched.toList.map .setInterface ++ (r.call config).toList.map .send := by
  rw [ptp4lHandler_run_state]
  exact ⟨rfl, rfl, List.map_congr_left fun r _ => ptp4lHandler_line config r⟩

end TimeAgent
