/-
`main` as a whole: the collectors of the enabled services, each over its own source, in the agent, with
the adapter behind it. In the deployed configuration the calls for what ptp4l and phc2sys write to the
journal and for what ppswatch prints are made with the values it was written from.
-/
import TimeAgent.Adapter.Lines
import TimeAgent.Collector.Stream
import TimeAgent.Config.Services

namespace TimeAgent

open CText CNum CYaml

/-! ## What a source gives -/

/-- For each call of `readEvent` the clock at its start, and what the machine answers while the event
is handled. -/
abbrev ReadTurns := List (Nat × Machine)

/-- The events that the reader loop over the source hands to the handler, and whether it was left. -/
def Source.collected (turns : ReadTurns) : Source → List CollectorEvent × Bool
  | .subprocess unit stdout =>
    let r := readerLoop SubprocessCollector.readEvent (turns.map Prod.fst) { collector := { unit, stream := stdout } }
    (r.handed, r.left)
  | .journal unit reads =>
    let r := readerLoop (fun _ => JournalCollector.readEvent) (turns.map Prod.fst)
      { collector := { unit, journal := reads } }
    (r.handed, r.left)

/-- The collector as the agent meets it. -/
def Source.service (name : Str) (turns : ReadTurns) (source : Source) : ServiceCollector where
  name
  events := (turns.map Prod.snd).zip (source.collected turns).1
  ends := (source.collected turns).2

section Turns

variable {σ : Type} {readEvent : Nat → σ → ReadResult × σ} {nowUs : Nat} {r : Reader σ} {c : σ}
  (hleft : r.left = false)

include hleft

theorem Reader.turn_event {e : CollectorEvent} (h : readEvent nowUs r.collector = (.event e, c)) :
    r.turn readEvent true nowUs = { r with collector := c, handed := r.handed ++ [e] } := by
  unfold Reader.turn
  rw [hleft, h]
  rfl

theorem Reader.turn_nullopt (h : readEvent nowUs r.collector = (.nullopt, c)) :
    r.turn readEvent true nowUs = { r with collector := c, left := true } := by
  unfold Reader.turn
  rw [hleft, h]
  rfl

theorem Reader.turn_waiting (h : readEvent nowUs r.collector = (.waiting, c)) :
    r.turn readEvent true nowUs = { r with collector := c } := by
  unfold Reader.turn
  rw [hleft, h]
  rfl

end Turns

theorem getline_line {l : Str} (hl : '\n' ∉ l) (rest : Str) : getline (l ++ '\n' :: rest) = some (l, rest) := by
  have hline : ∀ c ∈ l, decide (c ≠ '\n') = true := fun c hc => decide_eq_true fun h => hl (h ▸ hc)
  have hrest : Stops (· ≠ '\n') ('\n' :: rest) := by simp
  unfold getline
  rw [if_neg (by simp), takeWhile_run hline hrest, dropWhile_run hline hrest]
  rfl

/-- A process that prints lines with text: each turn hands over the next of them. -/
theorem handed_lines (unit : Str) {texts : List Str} (h : ∀ text ∈ texts, text ≠ [] ∧ '\n' ∉ text) (clock : List Nat)
    (handed : List CollectorEvent) :
    (readerLoop SubprocessCollector.readEvent clock
        { collector := { unit, stream := unlines texts }, handed }).handed =
      handed ++ List.zipWith (fun nowUs text => { tsUsec := nowUs, unit, msg := text }) clock texts := by
  induction clock generalizing texts handed with
  | nil => simp [readerLoop]
  | cons nowUs clock ih =>
    cases texts with
    | nil =>
      have hturn : Reader.turn SubprocessCollector.readEvent true nowUs
          { collector := { unit, stream := unlines [] }, handed } =
            { collector := { unit, stream := unlines [] }, handed, left := true } := rfl
      rw [readerLoop, List.foldl_cons, hturn, ← readerLoop, readerLoop_left clock rfl]
      simp
    | cons text texts =>
      rw [List.forall_mem_cons] at h
      have hread : SubprocessCollector.readEvent nowUs { unit, stream := unlines (text :: texts) } =
          (.event { tsUsec := nowUs, unit, msg := text }, { unit, stream := unlines texts }) := by
        unfold SubprocessCollector.readEvent
        rw [unlines_cons, getline_line h.1.2]
        exact if_neg h.1.1
      rw [readerLoop, List.foldl_cons, Reader.turn_event rfl hread, ← readerLoop, ih h.2]
      simp

/-- The entries in front of the first read that fails. -/
def entriesOf : List JournalNext → List JournalEntry
  | [] => []
  | .entry entry :: reads => entry :: entriesOf reads
  | .noEntry wait :: reads => if wait < 0 then [] else entriesOf reads
  | .failed :: _ => []

def JournalEntry.event (unit : Str) (entry : JournalEntry) : CollectorEvent where
  tsUsec := entry.realtimeUsec
  unit
  msg := entry.message.getD []

/-- One `readEvent` takes the next entry, or there is none and the loop is left or waits for good. -/
theorem next_entriesOf (unit : Str) (reads : List JournalNext) :
    match entriesOf reads with
    | entry :: entries => ∃ reads', JournalCollector.next unit false reads = (.event (entry.event unit), reads') ∧
        entriesOf reads' = entries
    | [] => (∃ reads', JournalCollector.next unit false reads = (.nullopt, reads')) ∨
        JournalCollector.next unit false reads = (.waiting, []) := by
  induction reads with
  | nil => exact .inr rfl
  | cons r reads ih =>
    cases r with
    | entry entry =>
      refine ⟨reads, ?_, rfl⟩
      rw [JournalCollector.next, entry.drop_getData]
      rfl
    | failed => exact .inl ⟨reads, rfl⟩
    | noEntry wait =>
      rw [entriesOf, JournalCollector.next, if_neg Bool.false_ne_true]
      by_cases hwait : wait < 0
      · rw [if_pos hwait, if_pos hwait]
        exact .inl ⟨reads, rfl⟩
      · rw [if_neg hwait, if_neg hwait]
        exact ih

theorem handed_entries (unit : Str) (reads : List JournalNext) (clock : List Nat) (handed : List CollectorEvent) :
    (readerLoop (fun _ => JournalCollector.readEvent) clock
        { collector := { unit, journal := reads }, handed }).handed =
      handed ++ List.zipWith (fun _ entry => entry.event unit) clock (entriesOf reads) := by
  induction clock generalizing reads handed with
  | nil => simp [readerLoop]
  | cons nowUs clock ih =>
    have hread : ∀ {result : ReadResult} {reads' : List JournalNext},
        JournalCollector.next unit false reads = (result, reads') →
        JournalCollector.readEvent { unit, journal := reads } = (result, { unit, journal := reads' }) := by
      intro result reads' hnext
      unfold JournalCollector.readEvent
      rw [hnext]
    have hnext := next_entriesOf unit reads
    rw [readerLoop, List.foldl_cons, ← readerLoop]
    cases hentries : entriesOf reads with
    | cons entry entries =>
      rw [hentries] at hnext
      obtain ⟨reads', hnext, hrest⟩ := hnext
      rw [Reader.turn_event rfl (hread hnext), ih, hrest]
      simp
    | nil =>
      rw [hentries] at hnext
      rcases hnext with ⟨reads', hnext⟩ | hnext
      · rw [Reader.turn_nullopt rfl (hread hnext), readerLoop_left clock rfl]
        simp
      · rw [Reader.turn_waiting rfl (hread hnext), ih]
        simp [entriesOf]

/-! ## `main` -/

/-- What the machine gives: the output of a process by its arguments, the reads of the journal by the
unit, and the turns of the reader by the collector's name. -/
structure Sources where
  stdout : List Str → Str
  journal : Str → List JournalNext
  turns : Str → ReadTurns

def Config.Collector.source (sources : Sources) : Config.Collector → Source
  | .journal unit => .journal unit (sources.journal unit)
  | .subprocess cmd args => .subprocess cmd (sources.stdout args)

/-- The agent that `main` runs, with its collectors in the order of their map. A queue size without a
value or below 0 gives none. -/
def mainAgent (conv : Config.Conversions) (throws : Config.Throws) (sources : Sources)
    (order : List (Str × Config.Collector) → List (Str × Config.Collector)) (file : Option Yaml) : Option Agent :=
  let config := Config.loadOrDefault conv file
  let started := Config.startServices throws config.service
  config.configZMQ.queueSize.bind fun queueSize =>
    if 0 ≤ queueSize then
      some
        { config := { node := config.globalConfig.node, configPtpTopology := config.configPtpTopology }
          collectors := (order started.collectors).map fun e => (e.2.source sources).service e.1 (sources.turns e.1)
          queueSize := queueSize.toNat }
    else none

variable {conv : Config.Conversions} {throws : Config.Throws} {sources : Sources}
  {order : List (Str × Config.Collector) → List (Str × Config.Collector)} {file : Option Yaml} {agent : Agent}

/-- There is an agent only behind a document that was accepted. -/
theorem mainAgent_eq_some (h : mainAgent conv throws sources order file = some agent) :
    ∃ root config, file = some root ∧ Config.RootRead conv root config ∧
      agent.collectors = (order (Config.startServices throws config.service).collectors).map
        fun e => (e.2.source sources).service e.1 (sources.turns e.1) := by
  obtain ⟨queueSize, hsize, h⟩ := Option.bind_eq_some_iff.1 h
  split at h
  · cases h
    unfold Config.loadOrDefault at hsize
    cases hload : Config.load conv file with
    | none =>
      rw [hload] at hsize
      cases hsize
    | some config =>
      cases file with
      | none => cases hload
      | some root =>
        refine ⟨root, config, rfl, Config.load_some_iff.1 hload, ?_⟩
        unfold Config.loadOrDefault
        rw [hload]
        rfl
  · cases h

/-- No two collectors have the same name. -/
theorem mainAgent_nodup (horder : ∀ l, (order l).Perm l)
    (h : mainAgent conv throws sources order file = some agent) :
    (agent.collectors.map ServiceCollector.name).Nodup := by
  obtain ⟨root, config, _, _, hcollectors⟩ := mainAgent_eq_some h
  rw [hcollectors, List.map_map, Config.startServices_eq]
  exact ((horder _).map Prod.fst).nodup_iff.2 (Assoc.lastOnly_nodup _)

/-! ## The calls of a service -/

/-- The reader of the one collector that has the name sends the calls. -/
def ServiceSends (agent : Agent) (ls : List OutLabel) (s : Outbound) (name : Str) (calls : List AdapterCall) : Prop :=
  ∃ i c, agent.collectors[i]? = some c ∧ (∀ j c', agent.collectors[j]? = some c' → (c'.name = name ↔ j = i)) ∧
    ReaderSends ls s i calls

/-- The collector of a service that was started, in the agent. -/
theorem serviceSends_of_started (horder : ∀ l, (order l).Perm l)
    (h : mainAgent conv throws sources order file = some agent) {root : Yaml} {config : Config.AgentConfig}
    (hfile : file = some root) (hroot : Config.RootRead conv root config) {name : Str} {collector : Config.Collector}
    (hstarted : (name, collector) ∈ (Config.startServices throws config.service).collectors) {ls : List OutLabel}
    {s : Outbound} (hr : LTS.run agent.outStep agent.outInit ls = some s) {handler : Handler}
    (hhandler : buildHandlers agent.config name = some handler) {events : List Event}
    (hevents : ((collector.source sources).service name (sources.turns name)).events = events) :
    ServiceSends agent ls s name (events.flatMap handler.calls) := by
  obtain ⟨root', config', hfile', hroot', hcollectors⟩ := mainAgent_eq_some h
  rw [hfile] at hfile'
  cases hfile'
  have hconfig : config' = config := by
    have hload := Config.load_some_iff.2 hroot
    rw [Config.load_some_iff.2 hroot'] at hload
    exact Option.some.inj hload
  subst hconfig
  have hmem : (collector.source sources).service name (sources.turns name) ∈ agent.collectors := by
    rw [hcollectors]
    exact List.mem_map_of_mem (f := fun e : Str × Config.Collector =>
      (e.2.source sources).service e.1 (sources.turns e.1)) ((horder _).mem_iff.2 hstarted)
  obtain ⟨i, hc⟩ := List.mem_iff_getElem?.1 hmem
  have hsends := readerSends_of_run hr hc (Agent.handler_eq hc hhandler)
  rw [hevents] at hsends
  refine ⟨i, _, hc, fun j c' hc' => ⟨Agent.index_of_name (mainAgent_nodup horder h) hc hc', ?_⟩, hsends⟩
  rintro rfl
  rw [hc] at hc'
  cases hc'
  rfl

/-! ## The deployed configuration -/

/-- The document has the service on, with the source. -/
def Enabled (conv : Config.Conversions) (root : Yaml) (name source : String) (node : Yaml) : Prop :=
  root.find₂ "services" name = some node ∧ asOr conv.bool false (node.find "on") = true ∧
    asNode conv.string (node.find "source") = .ok source.toList

def ppswatchArgs (dev : Str) : List Str :=
  ["/usr/bin/stdbuf".toList, "-oL".toList, "/usr/bin/ppswatch".toList, dev]

theorem Enabled.entry {root node : Yaml} {config : Config.AgentConfig} (hroot : Config.RootRead conv root config)
    {name source : String} (hname : name ∈ Config.serviceNames) (h : Enabled conv root name source node) :
    ∃ entry, config.service.filter (fun e => e.name = name.toList) = [entry] ∧ entry.on = true ∧
      entry.name = name.toList ∧ entry.source = source.toList ∧
      (name = "ppswatch" → asNode conv.string (node.find "dev") = .ok entry.dev) := by
  obtain ⟨entry, hfilter, hbranch⟩ := hroot.entry_of_node hname h.1
  obtain ⟨hread, hdev, _⟩ := Config.branch_eq_ok hbranch
  have hsource := hread.source
  rw [h.2.2] at hsource
  exact ⟨entry, hfilter, hread.on.trans h.2.1, hread.name, (Except.ok.inj hsource).symm, hdev⟩

/-- A service that is on and whose collector can be built is started. -/
theorem mem_started {service : List Config.ServiceConfig} {name : Str} {entry : Config.ServiceConfig}
    (hfilter : service.filter (fun e => e.name = name) = [entry]) (hon : entry.on = true) (hname : entry.name = name)
    {collector : Config.Collector} (hmake : Config.makeCollector throws entry = .ok collector) :
    (name, collector) ∈ (Config.startServices throws service).collectors :=
  (Config.mem_collectors_iff hfilter).2 (Config.built_eq_some.2 ⟨hon, hname, hmake⟩)

theorem started_journal {root node : Yaml} {config : Config.AgentConfig} (hroot : Config.RootRead conv root config)
    (hthrows : ∀ collector, throws collector = none) {name : String} (hname : name = "ptp4l" ∨ name = "phc2sys")
    (h : Enabled conv root name "journal" node) :
    (name.toList, .journal name.toList) ∈ (Config.startServices throws config.service).collectors := by
  have hmake : ∀ c, Config.makeUnique throws c = .ok c := fun c => by rw [Config.makeUnique, hthrows]
  have hmem : name ∈ Config.serviceNames := by
    rcases hname with rfl | rfl <;> decide
  obtain ⟨entry, hfilter, hon, hentry, hsource, _⟩ := h.entry hroot hmem
  refine mem_started hfilter hon hentry ?_
  simp only [Config.makeCollector, hentry, hsource, hmake]
  rcases hname with rfl | rfl <;> rfl

theorem started_ppswatch {root node : Yaml} {config : Config.AgentConfig} (hroot : Config.RootRead conv root config)
    (hthrows : ∀ collector, throws collector = none) (h : Enabled conv root "ppswatch" "subproccess" node) {dev : Str}
    (hdev : asNode conv.string (node.find "dev") = .ok dev) :
    ("ppswatch".toList, .subprocess "ppswatch".toList (ppswatchArgs dev)) ∈
      (Config.startServices throws config.service).collectors := by
  have hmake : ∀ c, Config.makeUnique throws c = .ok c := fun c => by rw [Config.makeUnique, hthrows]
  obtain ⟨entry, hfilter, hon, hentry, hsource, hread⟩ := h.entry hroot (by decide)
  have hsame : entry.dev = dev := by
    have hread := hread rfl
    rw [hdev] at hread
    exact (Except.ok.inj hread).symm
  refine mem_started hfilter hon hentry ?_
  simp only [Config.makeCollector, hentry, hsource, hmake, hsame]
  rfl

/-- What a unit writes to the journal up to the first failing read: the times and texts of its entries. -/
def Sources.Logs (sources : Sources) (unit : Str) (texts : List (Nat × Str)) : Prop :=
  entriesOf (sources.journal unit) = texts.map fun e => { realtimeUsec := e.1, message := some e.2 }

/-- The records of a unit's entries, one for each turn. -/
def journalRecords {Line : Type} (unit : Str) (turns : ReadTurns) (entries : List (Nat × Line)) :
    List (LineRecord Line) :=
  List.zipWith (fun turn e => { tsUsec := e.1, unit, line := e.2, machine := turn.2 }) turns entries

/-- The records of the lines that a process prints, one for each turn. -/
def processRecords {Line : Type} (unit : Str) (turns : ReadTurns) (lines : List Line) : List (LineRecord Line) :=
  List.zipWith (fun turn line => { tsUsec := turn.1, unit, line, machine := turn.2 }) turns lines

/-- The machine's side of each turn beside what the turn hands over. -/
theorem zip_turns {α : Type} (event : Nat → α → CollectorEvent) (turns : ReadTurns) (items : List α) :
    (turns.map Prod.snd).zip (List.zipWith event (turns.map Prod.fst) items) =
      List.zipWith (fun turn item => (turn.2, event turn.1 item)) turns items := by
  induction turns generalizing items with
  | nil => rfl
  | cons turn turns ih =>
    cases items with
    | nil => rfl
    | cons item items => exact congrArg (_ :: ·) (ih items)

section Events

variable {unit : Str} {Line : Type} {text : Line → Str}

theorem events_journal {entries : List (Nat × Line)} (h : sources.Logs unit (entries.map fun e => (e.1, text e.2))) :
    (((Config.Collector.journal unit).source sources).service unit (sources.turns unit)).events =
      (journalRecords unit (sources.turns unit) entries).map (LineRecord.event text) := by
  show ((sources.turns unit).map Prod.snd).zip (readerLoop (fun _ => JournalCollector.readEvent)
    ((sources.turns unit).map Prod.fst) { collector := { unit, journal := sources.journal unit } }).handed = _
  unfold journalRecords
  rw [handed_entries, h, List.nil_append, zip_turns, List.map_map, List.zipWith_map_right, List.map_zipWith]
  rfl

theorem events_process {args : List Str} {lines : List Line} (htext : ∀ l, text l ≠ [] ∧ '\n' ∉ text l)
    (h : sources.stdout args = unlines (lines.map text)) :
    (((Config.Collector.subprocess unit args).source sources).service unit (sources.turns unit)).events =
      (processRecords unit (sources.turns unit) lines).map (LineRecord.event text) := by
  show ((sources.turns unit).map Prod.snd).zip (readerLoop SubprocessCollector.readEvent
    ((sources.turns unit).map Prod.fst) { collector := { unit, stream := sources.stdout args } }).handed = _
  have htexts : ∀ t ∈ lines.map text, t ≠ [] ∧ '\n' ∉ t := List.forall_mem_map.2 fun l _ => htext l
  unfold processRecords
  rw [h, handed_lines _ htexts, List.nil_append, zip_turns, List.zipWith_map_right, List.map_zipWith]
  rfl

end Events

/-! ## Lines -/

theorem Padded.no_newline (x : Padded) : '\n' ∉ x.text := by
  unfold Padded.text Numeral.text
  simp only [List.mem_append, List.mem_replicate, not_or, not_and]
  refine ⟨fun _ h => absurd h (by decide), ?_, fun h => absurd (x.num.dec _ h) (by decide)⟩
  cases x.num.sign <;> decide

theorem PpsLine.no_newline (l : PpsLine) : '\n' ∉ l.text := by
  unfold text
  simp [l.time.no_newline, l.sequence.no_newline, l.offset.no_newline]

theorem PpsLine.text_ne_nil (l : PpsLine) : l.text ≠ [] := by
  unfold text
  rw [List.flatten_cons]
  exact List.append_ne_nil_of_left_ne_nil (by decide) _

/-- A line of ptp4l in its record. -/
def LineRecord.ptp4l (r : LineRecord Ptp4lLine) : Ptp4lRecord where
  tsUsec := r.tsUsec
  unit := r.unit
  line := r.line
  machine := r.machine

/-- In the deployed configuration, whatever the schedule and the transport: the readers of ptp4l, phc2sys and
ppswatch make the calls for the values that the lines were printed from, in their order and each once, as far as
they have come, after a return without `stop` those of all; and what was accepted is among them in that order. -/
theorem deployed_lines_accepted {root : Yaml} (horder : ∀ l, (order l).Perm l)
    (hagent : mainAgent conv throws sources order (some root) = some agent)
    (hthrows : ∀ collector, throws collector = none) {ls : List OutLabel} {s : Outbound}
    (hr : LTS.run agent.outStep agent.outInit ls = some s) :
    (∀ node, Enabled conv root "ptp4l" "journal" node → ∀ entries : List (Nat × Ptp4lLine),
      sources.Logs "ptp4l".toList (entries.map fun e => (e.1, e.2.text)) →
        ServiceSends agent ls s "ptp4l".toList
          ((journalRecords "ptp4l".toList (sources.turns "ptp4l".toList) entries).filterMap
            fun r => r.ptp4l.call agent.config)) ∧
    (∀ node, Enabled conv root "phc2sys" "journal" node → ∀ entries : List (Nat × Phc2SysLine),
      sources.Logs "phc2sys".toList (entries.map fun e => (e.1, e.2.text)) →
        ServiceSends agent ls s "phc2sys".toList
          ((journalRecords "phc2sys".toList (sources.turns "phc2sys".toList) entries).map
            (phc2sysCall agent.config))) ∧
    ∀ node, Enabled conv root "ppswatch" "subproccess" node → ∀ dev, asNode conv.string (node.find "dev") = .ok dev →
      ∀ lines : List PpsLine, sources.stdout (ppswatchArgs dev) = unlines (lines.map PpsLine.text) →
        ServiceSends agent ls s "ppswatch".toList
          ((processRecords "ppswatch".toList (sources.turns "ppswatch".toList) lines).map
            (ppswatchCall agent.config)) := by
  obtain ⟨_, config, hfile, hroot, _⟩ := mainAgent_eq_some hagent
  cases hfile
  refine ⟨fun node henabled entries hlogs => ?_, fun node henabled entries hlogs => ?_,
    fun node henabled dev hdev lines hout => ?_⟩
  · have hstarted := started_journal hroot hthrows (.inl rfl) henabled
    have hsends := serviceSends_of_started horder hagent rfl hroot hstarted hr rfl (events_journal hlogs)
    have hcalls := flatMap_ptp4l agent.config
      ((journalRecords "ptp4l".toList (sources.turns "ptp4l".toList) entries).map LineRecord.ptp4l)
    rw [List.map_map, List.filterMap_map] at hcalls
    exact hcalls ▸ hsends
  · have hstarted := started_journal hroot hthrows (.inr rfl) henabled
    have hsends := serviceSends_of_started horder hagent rfl hroot hstarted hr rfl (events_journal hlogs)
    rw [flatMap_records (phc2sysHandler_line agent.config)] at hsends
    exact hsends
  · have hstarted := started_ppswatch hroot hthrows henabled hdev
    have hsends := serviceSends_of_started horder hagent rfl hroot hstarted hr rfl
      (events_process (fun l => ⟨PpsLine.text_ne_nil l, PpsLine.no_newline l⟩) hout)
    rw [flatMap_records (ppswatchHandler_line agent.config)] at hsends
    exact hsends

/-- A document with ptp4l from the journal and ppswatch from its process. -/
def ptp4lNode : Yaml :=
  .map [(.scalar "on".toList, .scalar "true".toList), (.scalar "source".toList, .scalar "journal".toList)]

def ppswatchNode : Yaml :=
  .map [(.scalar "on".toList, .scalar "true".toList), (.scalar "source".toList, .scalar "subproccess".toList),
    (.scalar "dev".toList, .scalar "/dev/pps0".toList)]

def deployedRoot : Yaml :=
  .map [(.scalar "zmq".toList, .map [(.scalar "queue_size".toList, .scalar "2".toList)]),
    (.scalar "services".toList, .map [(.scalar "ptp4l".toList, ptp4lNode), (.scalar "ppswatch".toList, ppswatchNode)])]

def rmsEntries : List (Nat × Ptp4lLine) :=
  [twoField, oneField].map fun offset =>
    (7, .rms { ts := oneStamp, rms := oneField.toPadded, offset, freq := oneField, freqDev := oneField.toPadded,
               delay := oneField, delayDev := oneField.toPadded })

def ppsLines : List PpsLine :=
  [oneField, twoField, oneField].map fun offset => { time := oneField, sequence := oneField, offset }

def deployedSources : Sources where
  stdout := fun _ => unlines (ppsLines.map PpsLine.text)
  journal := fun _ => rmsEntries.map fun e => .entry { realtimeUsec := e.1, message := some e.2.text }
  turns := fun _ => List.replicate 3 (5000000, oneMachine)

/-- The readers take turns until both have handled everything; the second line of ppswatch fails to be sent. -/
def deployedSteps : List OutLabel :=
  startSteps ++ turnSteps 0 .sent ++ turnSteps 1 .sent ++ turnSteps 1 .error ++ turnSteps 0 .sent ++ turnSteps 1 .sent

theorem deployed_lines_accepted_both :
    ∃ agent s, mainAgent .plain (fun _ => none) deployedSources id (some deployedRoot) = some agent ∧
      LTS.run agent.outStep agent.outInit deployedSteps = some s ∧ s.results = [true, true, false, true, true] ∧
      ServiceSends agent deployedSteps s "ptp4l".toList
        ((journalRecords "ptp4l".toList (deployedSources.turns "ptp4l".toList) rmsEntries).filterMap
          fun r => r.ptp4l.call agent.config) ∧
      ServiceSends agent deployedSteps s "ppswatch".toList
        ((processRecords "ppswatch".toList (deployedSources.turns "ppswatch".toList) ppsLines).map
          (ppswatchCall agent.config)) := by
  have hbuilt : ((mainAgent .plain (fun _ => none) deployedSources id (some deployedRoot)).map fun agent =>
      (LTS.run agent.outStep agent.outInit deployedSteps).map Outbound.results) =
        some (some [true, true, false, true, true]) := by
    decide +kernel
  obtain ⟨agent, hagent, hrun⟩ := Option.map_eq_some_iff.1 hbuilt
  obtain ⟨s, hs, hresults⟩ := Option.map_eq_some_iff.1 hrun
  have haccepted := deployed_lines_accepted (fun l => List.Perm.refl l) hagent (fun _ => rfl) hs
  exact ⟨agent, s, hagent, hs, hresults, haccepted.1 ptp4lNode ⟨rfl, rfl, rfl⟩ rmsEntries rfl,
    haccepted.2.2 ppswatchNode ⟨rfl, rfl, rfl⟩ "/dev/pps0".toList rfl ppsLines rfl⟩

end TimeAgent
