/-
What the parsers take from a message, before they convert it: the numerals and the texts that stand
where the fields are. Every parser is the conversion of its parts, and two scans into one record are
no different from two scans into records of their own.
-/
import TimeAgent.Lib.ScanRead
import TimeAgent.Collector.Parser

namespace TimeAgent

open CText CNum CScanf

/-! ## The formats up to their last store -/

/-- The deviation that closes a summary line. -/
def deviation {σ : Type} : Format σ := lits " +/- " ++ [skipLong]

def Ptp4lParser.rmsFront : Format Ptp4lStats :=
  lits "[" ++ [timestamp] ++ lits "] rms " ++ [skipLong] ++ lits " max " ++ [long fun v r => { r with offset := v }] ++
    lits " freq " ++ [long fun v r => { r with freq := v }] ++ lits " +/- " ++ [skipLong] ++
    lits " delay " ++ [long fun v r => { r with pathDelay := v }]

def Phc2SysParser.rmsFront : Format Phc2SysStats :=
  lits "[" ++ [timestamp] ++ lits "] " ++ [skipWord] ++ lits " rms " ++ [skipLong] ++
    lits " max " ++ [long fun v r => { r with offset := v }] ++
    lits " freq " ++ [long fun v r => { r with freq := v }] ++
    lits " +/- " ++ [skipLong] ++ lits " delay " ++ [long fun v r => { r with pathDelay := v }]

def Ptp4lParser.localClockFront : Format Str :=
  lits "[" ++ [timestamp] ++ lits "] selected local clock " ++ [word 63 fun t _ => t]

theorem Ptp4lParser.rmsFormat_eq : rmsFormat = rmsFront ++ deviation := by
  unfold rmsFormat rmsFront deviation
  simp only [List.append_assoc]

theorem Phc2SysParser.rmsFormat_eq : rmsFormat = rmsFront ++ deviation := by
  unfold rmsFormat rmsFront deviation
  simp only [List.append_assoc]

theorem Ptp4lParser.localClockFormat_eq : localClockFormat = localClockFront ++ lits " as best master" := by
  unfold localClockFormat localClockFront
  simp only [List.append_assoc]

/-! ## Metrics -/

/-- The numerals of a metrics line; a summary line has no state. -/
structure MetricsParts where
  offset : Numeral
  state : Option Numeral
  freq : Numeral
  pathDelay : Numeral

/-- The items of a summary line, and those of an offset line. -/
def MetricsParts.ofItems : List Item → Option MetricsParts
  | [.text _, .num offset, .num freq, .num pathDelay] => some { offset, state := none, freq, pathDelay }
  | [.text _, .num offset, .num state, .num freq, .num pathDelay] =>
    some { offset, state := some state, freq, pathDelay }
  | _ => none

/-- What `%d` makes of the state, the default 0 when there is none. -/
def MetricsParts.stateInt (p : MetricsParts) : Int :=
  match p.state with
  | some ν => lowInt (strtol ν)
  | none => 0

/-- The parts under the first of two formats that matches. -/
def metricsParts {σ : Type} (rms offset : Format σ) (msg : Str) : Option MetricsParts :=
  match reads rms (cstr msg) with
  | some (items, _) => MetricsParts.ofItems items
  | none => (reads offset (cstr msg)).bind fun r => MetricsParts.ofItems r.1

theorem items_rms {items : List Item} (h : items.map Item.isNum = [false, true, true, true]) :
    ∃ ts offset freq delay, items = [.text ts, .num offset, .num freq, .num delay] := by
  obtain ⟨ts, is, rfl, h1⟩ := items_text h
  obtain ⟨offset, is, rfl, h2⟩ := items_num h1
  obtain ⟨freq, is, rfl, h3⟩ := items_num h2
  obtain ⟨delay, is, rfl, h4⟩ := items_num h3
  obtain rfl := items_nil h4
  exact ⟨ts, offset, freq, delay, rfl⟩

theorem items_offset {items : List Item} (h : items.map Item.isNum = [false, true, true, true, true]) :
    ∃ ts offset state freq delay, items = [.text ts, .num offset, .num state, .num freq, .num delay] := by
  obtain ⟨ts, is, rfl, h1⟩ := items_text h
  obtain ⟨offset, is, rfl, h2⟩ := items_num h1
  obtain ⟨state, is, rfl, h3⟩ := items_num h2
  obtain ⟨freq, is, rfl, h4⟩ := items_num h3
  obtain ⟨delay, is, rfl, h5⟩ := items_num h4
  obtain rfl := items_nil h5
  exact ⟨ts, offset, state, freq, delay, rfl⟩

/-- The formats of a metrics parser: the summary line up to its last store, which leaves `kept` as it is,
and the offset line, which overwrites everything else. -/
structure MetricsScans (σ : Type) where
  front : Format σ
  offset : Format σ
  init : σ
  kept : σ → Str × Nat
  ofParts : MetricsParts → σ
  keeps : Keeps kept (front ++ deviation)
  frontLast : storesLast front = true
  offsetLast : storesLast offset = true
  frontKinds : kinds front = [false, true, true, true]
  offsetKinds : kinds offset = [false, true, true, true, true]
  frontStores : stores front = 4
  offsetStores : stores offset = 5
  replayFront : ∀ ts (o f d : Numeral), replay front [.text ts, .num o, .num f, .num d] init = ofParts ⟨o, none, f, d⟩
  replayOffset : ∀ res, kept res = kept init → ∀ ts (o st f d : Numeral),
    replay offset [.text ts, .num o, .num st, .num f, .num d] res = ofParts ⟨o, some st, f, d⟩

namespace MetricsScans

variable {σ : Type} (c : MetricsScans σ) (msg : Str)

/-- The two scans, the second into `second` of the record that the first leaves. -/
def scan (second : σ → σ) : Option σ :=
  let (n, res) := sscanf (c.front ++ deviation) (cstr msg) c.init
  if n = 4 then some res
  else
    let (n, res) := sscanf c.offset (cstr msg) (second res)
    if n = 5 then some res else none

theorem replay_front {items : List Item} (h : items.map Item.isNum = kinds c.front) :
    some (replay c.front items c.init) = (MetricsParts.ofItems items).map c.ofParts := by
  rw [c.frontKinds] at h
  obtain ⟨ts, o, f, d, rfl⟩ := items_rms h
  exact congrArg some (c.replayFront ts o f d)

theorem replay_offset {res : σ} (hres : c.kept res = c.kept c.init) {items : List Item}
    (h : items.map Item.isNum = kinds c.offset) :
    some (replay c.offset items res) = (MetricsParts.ofItems items).map c.ofParts := by
  rw [c.offsetKinds] at h
  obtain ⟨ts, o, st, f, d, rfl⟩ := items_offset h
  exact congrArg some (c.replayOffset res hres ts o st f d)

/-- Each scan by what it reads. -/
theorem scan_eq_reads (second : σ → σ) :
    c.scan msg second =
      match reads c.front (cstr msg) with
      | some (items, _) => some (replay c.front items c.init)
      | none => (reads c.offset (cstr msg)).map fun r =>
          replay c.offset r.1 (second (sscanf (c.front ++ deviation) (cstr msg) c.init).2) :=
  sscanf_taken_or c.front deviation c.offset c.frontLast c.frontStores rfl c.offsetLast c.offsetStores (cstr msg)
    c.init _

/-- A summary line is taken as soon as its last store is reached. -/
theorem scan_of_front {items : List Item} {rest : Str} (h : reads c.front (cstr msg) = some (items, rest))
    (second : σ → σ) : c.scan msg second = some (replay c.front items c.init) := by
  rw [scan_eq_reads, h]

/-- The record is the conversion of the parts, whether the second scan gets the record of the first or
any other with the same `kept`. -/
theorem scan_eq {second : σ → σ} (hsecond : ∀ res, c.kept res = c.kept c.init → c.kept (second res) = c.kept c.init) :
    c.scan msg second = (metricsParts c.front c.offset msg).map c.ofParts := by
  have hkept := hsecond _ (sscanf_keeps c.keeps (cstr msg) c.init)
  unfold metricsParts
  rw [scan_eq_reads]
  cases hreads : reads c.front (cstr msg) with
  | some r => exact c.replay_front (reads_kinds hreads)
  | none =>
    cases hreads' : reads c.offset (cstr msg) with
    | none => rfl
    | some r => exact c.replay_offset hkept (reads_kinds hreads')

/-- A second record for the second scan makes no difference. -/
theorem scan_fresh : c.scan msg id = c.scan msg fun _ => c.init :=
  (c.scan_eq msg fun _ h => h).trans (c.scan_eq msg fun _ _ => rfl).symm

end MetricsScans

namespace Ptp4lParser

def parts (msg : Str) : Option MetricsParts := metricsParts rmsFront offsetFormat msg

/-- What the conversions of a line's numerals are. -/
def ofParts (p : MetricsParts) : Ptp4lStats where
  offset := strtol p.offset
  freq := strtol p.freq
  pathDelay := strtol p.pathDelay
  state := p.stateInt

def scans : MetricsScans Ptp4lStats where
  front := rmsFront
  offset := offsetFormat
  init := {}
  kept := fun r => (r.unit, r.timestampUs)
  ofParts := ofParts
  keeps := by unfold rmsFront deviation timestamp; simp [Keeps, keeps_lits, long, skipLong]
  frontLast := rfl
  offsetLast := rfl
  frontKinds := rfl
  offsetKinds := rfl
  frontStores := rfl
  offsetStores := rfl
  replayFront := fun _ _ _ _ => rfl
  replayOffset := by rintro ⟨⟩ h _ _ _ _ _; cases h; rfl

theorem parseMetrics_eq_scan (msg : Str) : parseMetrics msg = scans.scan msg id := by
  unfold parseMetrics
  rw [rmsFormat_eq]
  rfl

/-- `parseMetrics` converts the numerals of the line, whatever the first scan left in the record. -/
theorem parseMetrics_eq (msg : Str) : parseMetrics msg = (parts msg).map ofParts := by
  rw [parseMetrics_eq_scan]
  exact scans.scan_eq msg fun _ h => h

end Ptp4lParser

namespace Phc2SysParser

def parts (msg : Str) : Option MetricsParts := metricsParts rmsFront offsetFormat msg

def ofParts (p : MetricsParts) : Phc2SysStats where
  offset := strtol p.offset
  freq := strtol p.freq
  pathDelay := strtol p.pathDelay
  state := p.stateInt

def scans : MetricsScans Phc2SysStats where
  front := rmsFront
  offset := offsetFormat
  init := {}
  kept := fun r => (r.unit, r.timestampUs)
  ofParts := ofParts
  keeps := by unfold rmsFront deviation timestamp; simp [Keeps, keeps_lits, long, skipLong, skipWord]
  frontLast := rfl
  offsetLast := rfl
  frontKinds := rfl
  offsetKinds := rfl
  frontStores := rfl
  offsetStores := rfl
  replayFront := fun _ _ _ _ => rfl
  replayOffset := by rintro ⟨⟩ h _ _ _ _ _; cases h; rfl

theorem parseMetrics_eq_scan (msg : Str) : parseMetrics msg = scans.scan msg id := by
  unfold parseMetrics
  rw [rmsFormat_eq]
  rfl

theorem parseMetrics_eq (msg : Str) : parseMetrics msg = (parts msg).map ofParts := by
  rw [parseMetrics_eq_scan]
  exact scans.scan_eq msg fun _ h => h

end Phc2SysParser

namespace PPSParser

/-- The numeral of the offset. -/
def part (msg : Str) : Option Numeral :=
  match reads format (cstr msg) with
  | some ([.num _, .num _, .num offset], _) => some offset
  | _ => none

theorem parseMetrics_eq (msg : Str) : parseMetrics msg = (part msg).map fun ν => { offset := strtol ν } := by
  refine (sscanf_taken format (n := 3) rfl rfl (cstr msg) {}).trans ?_
  unfold part
  cases hreads : reads format (cstr msg) with
  | none => rfl
  | some r =>
    obtain ⟨items, rest⟩ := r
    obtain ⟨time, is, rfl, h1⟩ := items_num (reads_kinds hreads)
    obtain ⟨sequence, is, rfl, h2⟩ := items_num h1
    obtain ⟨offset, is, rfl, h3⟩ := items_num h2
    obtain rfl := items_nil h3
    rfl

end PPSParser

/-! ## Events -/

/-- The numeral and the texts of a port event. -/
structure PortEventParts where
  port : Numeral
  name : Str
  fromState : Str
  toState : Str
  trigger : Str

/-- The numerals and the texts of a foreign master event. -/
structure ForeignMasterParts where
  port : Numeral
  name : Str
  clock : Str
  masterPort : Numeral

namespace Ptp4lParser

def portEventParts (msg : Str) : Option PortEventParts :=
  if !contains msg "port ".toList || !contains msg " to ".toList then none
  else
    match reads portEventFormat (cstr msg) with
    | some ([.text _, .num port, .text name, .text fromState, .text toState, .text trigger], _) =>
      some { port, name, fromState, toState, trigger }
    | _ => none

def foreignMasterParts (msg : Str) : Option ForeignMasterParts :=
  if !contains msg "new foreign master".toList then none
  else
    match reads foreignMasterFormat (cstr msg) with
    | some ([.text _, .num port, .text name, .text clock, .num masterPort], _) => some { port, name, clock, masterPort }
    | _ => none

theorem items_portEvent {items : List Item} (h : items.map Item.isNum = kinds portEventFormat) :
    ∃ ts port name fromState toState trigger,
      items = [.text ts, .num port, .text name, .text fromState, .text toState, .text trigger] := by
  obtain ⟨ts, is, rfl, h1⟩ := items_text h
  obtain ⟨port, is, rfl, h2⟩ := items_num h1
  obtain ⟨name, is, rfl, h3⟩ := items_text h2
  obtain ⟨fromState, is, rfl, h4⟩ := items_text h3
  obtain ⟨toState, is, rfl, h5⟩ := items_text h4
  obtain ⟨trigger, is, rfl, h6⟩ := items_text h5
  obtain rfl := items_nil h6
  exact ⟨ts, port, name, fromState, toState, trigger, rfl⟩

theorem items_foreignMaster {items : List Item} (h : items.map Item.isNum = kinds foreignMasterFormat) :
    ∃ ts port name clock masterPort, items = [.text ts, .num port, .text name, .text clock, .num masterPort] := by
  obtain ⟨ts, is, rfl, h1⟩ := items_text h
  obtain ⟨port, is, rfl, h2⟩ := items_num h1
  obtain ⟨name, is, rfl, h3⟩ := items_text h2
  obtain ⟨clock, is, rfl, h4⟩ := items_text h3
  obtain ⟨masterPort, is, rfl, h5⟩ := items_num h4
  obtain rfl := items_nil h5
  exact ⟨ts, port, name, clock, masterPort, rfl⟩

theorem parsePortEvent_eq (msg : Str) :
    parsePortEvent msg = (portEventParts msg).map fun p =>
      { portNumber := lowInt (strtol p.port), portName := p.name, fromState := p.fromState, toState := p.toState,
        trigger := p.trigger } := by
  unfold parsePortEvent portEventParts
  split
  · rfl
  · refine (sscanf_taken_map portEventFormat (n := 6) rfl rfl (cstr msg) {} fun loc : PortEventLocals =>
      ({ portNumber := loc.portNumber, portName := loc.portName, fromState := loc.fromState, toState := loc.toState,
         trigger := loc.trigger } : PortEvent)).trans ?_
    cases hreads : reads portEventFormat (cstr msg) with
    | none => rfl
    | some r =>
      obtain ⟨items, rest⟩ := r
      obtain ⟨ts, port, name, fromState, toState, trigger, rfl⟩ := items_portEvent (reads_kinds hreads)
      rfl

theorem parseForeignMasterEvent_eq (msg : Str) :
    parseForeignMasterEvent msg = (foreignMasterParts msg).map fun p =>
      { portNumber := lowInt (strtol p.port), portName := p.name, masterClockIdentity := p.clock,
        masterPortNumber := lowInt (strtol p.masterPort) } := by
  unfold parseForeignMasterEvent foreignMasterParts
  split
  · rfl
  · refine (sscanf_taken_map foreignMasterFormat (n := 5) rfl rfl (cstr msg) {} fun loc : ForeignMasterLocals =>
      ({ portNumber := loc.portNumber, portName := loc.portName, masterClockIdentity := loc.masterClockIdentity,
         masterPortNumber := loc.masterPortNumber } : ForeignMasterEvent)).trans ?_
    cases hreads : reads foreignMasterFormat (cstr msg) with
    | none => rfl
    | some r =>
      obtain ⟨items, rest⟩ := r
      obtain ⟨ts, port, name, clock, masterPort, rfl⟩ := items_foreignMaster (reads_kinds hreads)
      rfl

end Ptp4lParser

end TimeAgent
