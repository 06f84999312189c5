/-
The calls of the readers: under any schedule and any answers of the transport each reader makes the calls
for the lines that its source was printed from, from the first on and each once, and those that were
accepted stand in that order.
-/
import TimeAgent.Adapter.Delivery
import TimeAgent.Agent.Lines

namespace TimeAgent

open CText CNum

/-! ## The calls of a reader -/

/-- The reader has made the first of the calls, and the accepted ones are among them in their order; behind a
return of `run` by itself it has made all. -/
structure ReaderSends (ls : List OutLabel) (s : Outbound) (i : Nat) (calls : List AdapterCall) : Prop where
  made : s.state.calls (.reader i) <+: calls
  accepted : (s.acceptedOf (.reader i)).Sublist (s.state.calls (.reader i))
  all : (∀ result ∈ s.results, result = true) → s.acceptedOf (.reader i) = s.state.calls (.reader i)
  returned : .agent .stop ∉ ls → s.state.main = .returned → s.state.calls (.reader i) = calls

theorem Agent.events_eq {agent : Agent} {i : Nat} {c : ServiceCollector} (hc : agent.collectors[i]? = some c) :
    agent.events i = c.events := by
  unfold Agent.events
  rw [hc]
  rfl

/-- The handler of the collector that has the name. -/
theorem Agent.handler_eq {agent : Agent} {i : Nat} {c : ServiceCollector} (hc : agent.collectors[i]? = some c)
    {handler : Handler} (h : buildHandlers agent.config c.name = some handler) : agent.handler i = some handler := by
  unfold Agent.handler
  rw [hc]
  exact h

/-- Among collectors of different names the name tells the index. -/
theorem Agent.index_of_name {agent : Agent} (hnames : (agent.collectors.map ServiceCollector.name).Nodup) {i j : Nat}
    {c c' : ServiceCollector} (hc : agent.collectors[i]? = some c) (hc' : agent.collectors[j]? = some c')
    (hname : c'.name = c.name) : j = i := by
  have hlt : j < (agent.collectors.map ServiceCollector.name).length := by
    rw [List.length_map]
    exact (List.getElem?_eq_some_iff.1 hc').1
  refine (List.getElem?_inj hlt hnames).1 ?_
  rw [List.getElem?_map, List.getElem?_map, hc, hc', Option.map_some, Option.map_some, hname]

/-- Of a run without `stop` the threads' steps are one as well. -/
theorem orderInv_of_outRun {agent : Agent} {ls : List OutLabel} {s : Outbound} (hstop : .agent .stop ∉ ls)
    (hr : LTS.run agent.outStep agent.outInit ls = some s) : OrderInv agent.unlimited s.state := by
  have hlabels : ∀ l ∈ ls.flatMap fun l => [l.step], l ≠ .stop := by
    intro l hl
    obtain ⟨o, ho, hl⟩ := List.mem_flatMap.1 hl
    rw [List.mem_singleton] at hl
    subst hl
    cases o with
    | agent l =>
      rintro rfl
      exact hstop ho
    | send t serialized answer => exact nofun
  exact LTS.run_invariant_of_forall (Q := fun l => l ≠ .stop) (fun _ _ _ hl h hs => orderInv_step hl h hs) hlabels
    (Outbound.simulated hr) (orderInv_init agent.unlimited)

theorem readerSends_of_run {agent : Agent} {ls : List OutLabel} {s : Outbound}
    (hr : LTS.run agent.outStep agent.outInit ls = some s) {i : Nat} {c : ServiceCollector} {handler : Handler}
    (hc : agent.collectors[i]? = some c) (hhandler : agent.handler i = some handler) :
    ReaderSends ls s i (c.events.flatMap handler.calls) := by
  obtain ⟨handed, hhanded, hcalls, _⟩ := reader_accepted hr hhandler
  obtain ⟨hsub, hall⟩ := Outbound.acceptedOf_sublist (answered_of_run hr) (.reader i)
  rw [Agent.events_eq hc] at hhanded
  refine ⟨?_, hsub, hall, fun hstop hreturned => ?_⟩
  · obtain ⟨rest, hsplit⟩ := hhanded
    rw [hcalls, ← hsplit, List.flatMap_append]
    exact List.prefix_append _ _
  · have hmade := ((orderInv_of_outRun hstop hr).inOrder.returned hreturned).1 i handler hhandler
    exact hmade.trans (congrArg (List.flatMap handler.calls) (Agent.events_eq hc))

/-! ## Lines -/

theorem flatMap_ptp4l (config : AgentConfig) (records : List Ptp4lRecord) :
    (records.map fun r => (r.machine, r.event)).flatMap (Handler.calls (ptp4lHandler config)) =
      records.filterMap fun r => r.call config := by
  rw [List.flatMap_map, List.filterMap_eq_flatMap_toList]
  refine List.flatMap_congr fun r _ => ?_
  unfold Handler.calls
  rw [ptp4lHandler_line]
  cases r.line.watched <;> cases r.call config <;> rfl

/-- The calls of records that each make one. -/
theorem flatMap_records {Line : Type} {text : Line → Str} {handler : Handler} {call : LineRecord Line → AdapterCall}
    (h : ∀ r, handler (r.event text).1 (r.event text).2 = [.send (call r)]) (records : List (LineRecord Line)) :
    (records.map (LineRecord.event text)).flatMap handler.calls = records.map call := by
  rw [List.flatMap_map, List.map_eq_flatMap]
  refine List.flatMap_congr fun r _ => ?_
  unfold Handler.calls
  rw [h]
  rfl

/-- Whatever the schedule and the transport: the readers of ptp4l, phc2sys and ppswatch make the calls for the
values that their lines were printed from, and what was accepted is among them in that order. -/
theorem lines_accepted (agent : Agent) {ls : List OutLabel} {s : Outbound}
    (hr : LTS.run agent.outStep agent.outInit ls = some s) :
    (∀ (i : Nat) (records : List Ptp4lRecord) (ends : Bool),
      agent.collectors[i]? =
        some { name := "ptp4l".toList, events := records.map fun r => (r.machine, r.event), ends } →
      ReaderSends ls s i (records.filterMap fun r => r.call agent.config)) ∧
    (∀ (i : Nat) (records : List (LineRecord Phc2SysLine)) (ends : Bool),
      agent.collectors[i]? =
        some { name := "phc2sys".toList, events := records.map (LineRecord.event Phc2SysLine.text), ends } →
      ReaderSends ls s i (records.map (phc2sysCall agent.config))) ∧
    ∀ (i : Nat) (records : List (LineRecord PpsLine)) (ends : Bool),
      agent.collectors[i]? =
        some { name := "ppswatch".toList, events := records.map (LineRecord.event PpsLine.text), ends } →
      ReaderSends ls s i (records.map (ppswatchCall agent.config)) := by
  refine ⟨fun i records ends hc => ?_, fun i records ends hc => ?_, fun i records ends hc => ?_⟩
  · rw [← flatMap_ptp4l]
    exact readerSends_of_run hr hc (Agent.handler_eq hc rfl)
  · rw [← flatMap_records (phc2sysHandler_line agent.config)]
    exact readerSends_of_run hr hc (Agent.handler_eq hc rfl)
  · rw [← flatMap_records (ppswatchHandler_line agent.config)]
    exact readerSends_of_run hr hc (Agent.handler_eq hc rfl)

def oneMachine : Machine where
  resolve := fun _ => []
  exec := fun _ _ => none
  nowUs := 0
  unspecified := fun _ => 0

/-- Records of the offsets, one behind the other. -/
def offsetRecords (offsets : List LongField) : List (LineRecord PpsLine) :=
  offsets.map fun offset =>
    { tsUsec := 5000000, unit := "ppswatch".toList, line := { time := oneField, sequence := oneField, offset },
      machine := oneMachine }

def twoField : LongField where
  pad := 1
  num := Numeral.ofNat 2
  inRange := by decide

def threeLinesAgent : Agent where
  config := { node := "node".toList, configPtpTopology := {} }
  collectors :=
    [{ name := "gpsd".toList, events := [], ends := true },
      { name := "ppswatch".toList, ends := true
        events := (offsetRecords [oneField, twoField, oneField]).map (LineRecord.event PpsLine.text) }]
  queueSize := 1

/-- The first of three records fails to be sent; the other two are accepted. -/
theorem lines_accepted_three :
    ∃ ls s, LTS.run threeLinesAgent.outStep threeLinesAgent.outInit ls = some s ∧ s.results = [false, true, true] ∧
      s.state.calls (.reader 1) =
        (offsetRecords [oneField, twoField, oneField]).map (ppswatchCall threeLinesAgent.config) ∧
      s.acceptedOf (.reader 1) = (offsetRecords [twoField, oneField]).map (ppswatchCall threeLinesAgent.config) := by
  have hsome : ((LTS.run threeLinesAgent.outStep threeLinesAgent.outInit (startSteps ++ turnSteps 1 .error ++
      turnSteps 1 .sent ++ turnSteps 1 .sent ++ returnSteps)).map fun s =>
        (s.state.main, s.results, s.acceptedOf (.reader 1))) =
      some (.returned, [false, true, true],
        (offsetRecords [twoField, oneField]).map (ppswatchCall threeLinesAgent.config)) := by
    decide +kernel
  obtain ⟨s, hs, hend⟩ := Option.map_eq_some_iff.1 hsome
  injection hend with hmain hend
  injection hend with hresults haccepted
  have hsends := (lines_accepted threeLinesAgent hs).2.2 1 (offsetRecords [oneField, twoField, oneField]) true rfl
  exact ⟨_, s, hs, hresults, hsends.returned (by decide) hmain, haccepted⟩

end TimeAgent
