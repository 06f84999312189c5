/-
The lines of phc2sys and ppswatch: every line is recovered by its parser whatever its fields hold,
and the handlers of the two sources make one adapter call for each line. A scan that gives up midway
leaves nothing behind that the next scan does not overwrite.
-/
import TimeAgent.Agent.Handlers
import TimeAgent.Collector.Parts

namespace TimeAgent

open CText CNum CScanf

/-! ## Lines -/

/-- `[ts] w1 w2 offset O sS freq F delay D`. -/
structure Phc2SysOffsetLine where
  ts : Stamp
  w1 : Str
  w2 : Str
  token1 : IsToken w1
  token2 : IsToken w2
  notRms : ¬ "rms".toList <+: w2
  noNul1 : '\x00' ∉ w1
  noNul2 : '\x00' ∉ w2
  offset : LongField
  state : IntField
  freq : LongField
  delay : LongField

def Phc2SysOffsetLine.textOf (ts : Stamp) (w1 w2 : Str) (offset : LongField) (state : IntField)
    (freq delay : LongField) : Str :=
  ["[".toList, ts.text, "] ".toList, w1, " ".toList, w2, " offset ".toList, offset.text, " s".toList, state.text,
    " freq ".toList, freq.text, " delay ".toList, delay.text].flatten

def Phc2SysOffsetLine.text (l : Phc2SysOffsetLine) : Str := textOf l.ts l.w1 l.w2 l.offset l.state l.freq l.delay

/-- `[ts] w1 rms A max O freq F`, and the deviations of the frequency and the delay. -/
structure Phc2SysRmsLine where
  ts : Stamp
  w1 : Str
  token1 : IsToken w1
  noNul1 : '\x00' ∉ w1
  rms : Padded
  offset : LongField
  freq : LongField
  freqDev : Padded
  delay : LongField
  delayDev : Padded

def Phc2SysRmsLine.text (l : Phc2SysRmsLine) : Str :=
  ["[".toList, l.ts.text, "] ".toList, l.w1, " rms ".toList, l.rms.text, " max ".toList, l.offset.text,
    " freq ".toList, l.freq.text, " +/- ".toList, l.freqDev.text, " delay ".toList, l.delay.text, " +/- ".toList,
    l.delayDev.text].flatten

/-- `timestamp: T, sequence: Q, offset: O`. -/
structure PpsLine where
  time : LongField
  sequence : LongField
  offset : LongField

def PpsLine.text (l : PpsLine) : Str :=
  ["timestamp: ".toList, l.time.text, ", sequence: ".toList, l.sequence.text, ", offset: ".toList,
    l.offset.text].flatten

theorem Phc2SysOffsetLine.no_nul (l : Phc2SysOffsetLine) : '\x00' ∉ l.text := by
  unfold text textOf
  simp [l.ts.no_nul, l.noNul1, l.noNul2, l.offset.no_nul, l.state.no_nul, l.freq.no_nul, l.delay.no_nul]

theorem Phc2SysRmsLine.no_nul (l : Phc2SysRmsLine) : '\x00' ∉ l.text := by
  unfold text
  simp [l.ts.no_nul, l.noNul1, l.rms.no_nul, l.offset.no_nul, l.freq.no_nul, l.freqDev.no_nul, l.delay.no_nul,
    l.delayDev.no_nul]

theorem PpsLine.no_nul (l : PpsLine) : '\x00' ∉ l.text := by
  unfold text
  simp [l.time.no_nul, l.sequence.no_nul, l.offset.no_nul]

/-! ## Scans -/

/-- The scan for a summary line stops at the second word of an offset line, where it wants `rms`. -/
theorem Phc2SysOffsetLine.rms_scan (l : Phc2SysOffsetLine) (r : Phc2SysStats) :
    sscanf Phc2SysParser.rmsFormat l.text r = (1, r) := by
  have hrms : ∀ rest, matchText " rms ".toList (" ".toList ++ (l.w2 ++ (" offset ".toList ++ rest))) = none := by
    intro rest
    have hsp : skipSpace (" ".toList ++ (l.w2 ++ (" offset ".toList ++ rest))) =
        l.w2 ++ ' ' :: ("offset ".toList ++ rest) := by
      rw [skipSpace_append (by simp)]
      exact skipSpace_of_stops (l.token2.stops_append _)
    have hword : matchText "rms".toList (l.w2 ++ ' ' :: ("offset ".toList ++ rest)) = none :=
      matchText_none_of_not_prefix (show IsToken "rms".toList by decide).2 (not_prefix_append (by decide) l.notRms)
    rw [show " rms ".toList = ' ' :: ("rms".toList ++ " ".toList) from rfl, matchText_space isspace_space, hsp,
      matchText_append, hword, Option.bind_none]
  unfold Phc2SysParser.rmsFormat text textOf
  simp only [List.append_assoc, List.cons_append, List.nil_append, List.flatten_cons, List.flatten_nil]
  rw [sscanf_lits_self rfl rfl, scan_timestamp _ (by simp), scan_skipWord rfl l.token1 (by simp),
    sscanf_lits_none (hrms _)]
  rfl

theorem Phc2SysOffsetLine.scan (l : Phc2SysOffsetLine) (r : Phc2SysStats) :
    sscanf Phc2SysParser.offsetFormat l.text r =
      (5, { r with offset := l.offset.value, state := l.state.value, freq := l.freq.value,
                   pathDelay := l.delay.value }) := by
  unfold Phc2SysParser.offsetFormat text textOf
  simp only [List.append_assoc, List.cons_append, List.nil_append, List.flatten_cons, List.flatten_nil]
  rw [sscanf_lits_self rfl rfl, scan_timestamp _ (by simp), scan_skipWord rfl l.token1 (by simp),
    scan_skipWord rfl l.token2 (by simp), scan_long rfl _ _ (by simp), scan_int rfl _ _ (by simp),
    scan_long rfl _ _ (by simp), scan_long rfl _ _ (by simp)]
  rfl

theorem Phc2SysRmsLine.scan (l : Phc2SysRmsLine) (r : Phc2SysStats) :
    sscanf Phc2SysParser.rmsFormat l.text r =
      (4, { r with offset := l.offset.value, freq := l.freq.value, pathDelay := l.delay.value }) := by
  unfold Phc2SysParser.rmsFormat text
  simp only [List.append_assoc, List.cons_append, List.nil_append, List.flatten_cons, List.flatten_nil]
  rw [sscanf_lits_self rfl rfl, scan_timestamp _ (by simp), scan_skipWord rfl l.token1 (by simp),
    scan_skipLong rfl _ (by simp), scan_long rfl _ _ (by simp), scan_long rfl _ _ (by simp),
    scan_skipLong rfl _ (by simp), scan_long rfl _ _ (by simp), scan_skipLong rfl _ (by simp)]
  rfl

theorem PpsLine.scan (l : PpsLine) (r : PPSStats) :
    sscanf PPSParser.format l.text r = (3, { r with offset := l.offset.value }) := by
  unfold PPSParser.format text
  simp only [List.append_assoc, List.cons_append, List.nil_append, List.flatten_cons, List.flatten_nil]
  rw [scan_long rfl _ _ (by simp), scan_long rfl _ _ (by simp), scan_long rfl _ _ (by simp)]
  rfl

/-! ## Each line reaches its parser -/

theorem Phc2SysOffsetLine.parseMetrics (l : Phc2SysOffsetLine) :
    Phc2SysParser.parseMetrics l.text =
      some { offset := l.offset.value, state := l.state.value, freq := l.freq.value, pathDelay := l.delay.value } := by
  unfold Phc2SysParser.parseMetrics
  simp only [cstr_eq l.no_nul, l.rms_scan, l.scan]
  rfl

theorem Phc2SysRmsLine.parseMetrics (l : Phc2SysRmsLine) :
    Phc2SysParser.parseMetrics l.text =
      some { offset := l.offset.value, freq := l.freq.value, pathDelay := l.delay.value, state := 0 } := by
  unfold Phc2SysParser.parseMetrics
  simp only [cstr_eq l.no_nul, l.scan]
  rfl

theorem PpsLine.parseMetrics (l : PpsLine) : PPSParser.parseMetrics l.text = some { offset := l.offset.value } := by
  unfold PPSParser.parseMetrics
  simp only [cstr_eq l.no_nul, l.scan]
  rfl

/-! ## A record of its own for each scan -/

/-- `parseMetrics` with a second record for the second scan. -/
def Phc2SysParser.parseMetricsFresh (msg : Str) : Option Phc2SysStats :=
  let (n, res) := sscanf rmsFormat (cstr msg) {}
  if n = 4 then some res
  else
    let (n, res) := sscanf offsetFormat (cstr msg) {}
    if n = 5 then some res else none

/-- `parseMetrics` with a second record for the second scan. -/
def Ptp4lParser.parseMetricsFresh (msg : Str) : Option Ptp4lStats :=
  let (n, res) := sscanf rmsFormat (cstr msg) {}
  if n = 4 then some res
  else
    let (n, res) := sscanf offsetFormat (cstr msg) {}
    if n = 5 then some res else none

theorem Phc2SysParser.parseMetrics_eq_fresh (msg : Str) : parseMetrics msg = parseMetricsFresh msg := by
  rw [parseMetrics_eq_scan, scans.scan_fresh]
  unfold parseMetricsFresh
  rw [rmsFormat_eq]
  rfl

theorem Ptp4lParser.parseMetrics_eq_fresh (msg : Str) : parseMetrics msg = parseMetricsFresh msg := by
  rw [parseMetrics_eq_scan, scans.scan_fresh]
  unfold parseMetricsFresh
  rw [rmsFormat_eq]
  rfl

/-! ## Handlers -/

/-- A line in the record it arrives in, and what the machine answers meanwhile. -/
structure LineRecord (Line : Type) where
  tsUsec : Nat
  unit : Str
  line : Line
  machine : Machine

def LineRecord.event {Line : Type} (text : Line → Str) (r : LineRecord Line) : Machine × CollectorEvent :=
  (r.machine, { tsUsec := r.tsUsec, unit := r.unit, msg := text r.line })

inductive Phc2SysLine
  | offset (l : Phc2SysOffsetLine)
  | rms (l : Phc2SysRmsLine)

def Phc2SysLine.text : Phc2SysLine → Str
  | .offset l => l.text
  | .rms l => l.text

/-- The call a record of phc2sys is worth, in the line's own fields. -/
def phc2sysCall (config : AgentConfig) (r : LineRecord Phc2SysLine) : AdapterCall :=
  match r.line with
  | .offset l =>
    .sendPhc2sysStatistics { unit := r.unit, timestampUs := r.tsUsec, offset := l.offset.value, freq := l.freq.value,
                             pathDelay := l.delay.value, state := l.state.value } config.node
  | .rms l =>
    .sendPhc2sysStatistics { unit := r.unit, timestampUs := r.tsUsec, offset := l.offset.value, freq := l.freq.value,
                             pathDelay := l.delay.value, state := 0 } config.node

def ppswatchCall (config : AgentConfig) (r : LineRecord PpsLine) : AdapterCall :=
  .sendPpsStatistics { unit := r.unit, timestampUs := r.tsUsec, offset := r.line.offset.value } config.node

theorem phc2sysHandler_line (config : AgentConfig) (r : LineRecord Phc2SysLine) :
    phc2sysHandler config r.machine (r.event Phc2SysLine.text).2 = [.send (phc2sysCall config r)] := by
  obtain ⟨tsUsec, unit, line, machine⟩ := r
  cases line with
  | offset l => simp [phc2sysHandler, LineRecord.event, Phc2SysLine.text, l.parseMetrics, phc2sysCall]
  | rms l => simp [phc2sysHandler, LineRecord.event, Phc2SysLine.text, l.parseMetrics, phc2sysCall]

theorem ppswatchHandler_line (config : AgentConfig) (r : LineRecord PpsLine) :
    ppswatchHandler config r.machine (r.event PpsLine.text).2 = [.send (ppswatchCall config r)] := by
  simp [ppswatchHandler, LineRecord.event, r.line.parseMetrics, ppswatchCall]

/-- A handler that makes one call for each record, and nothing else. -/
theorem Handler.run_sends {ρ : Type} {handler : Handler} {event : ρ → Machine × CollectorEvent}
    {call : ρ → AdapterCall} (hone : ∀ r, handler (event r).1 (event r).2 = [.send (call r)]) (records : List ρ)
    (s : Effects) : handler.run s (records.map event) = { s with calls := s.calls ++ records.map call } := by
  induction records generalizing s with
  | nil => simp [Handler.run]
  | cons r records ih =>
    have hstep : (handler (event r).1 (event r).2).foldl Effects.apply s = { s with calls := s.calls ++ [call r] } := by
      rw [hone]
      exact foldl_apply_send [call r] s
    rw [List.map_cons, Handler.run_cons, hstep, ih, List.map_cons, List.append_assoc, List.singleton_append]

/-- Lines of phc2sys and ppswatch are recovered for all values, each with one adapter call, in order;
and on every message a scan that stops midway leaks nothing into the next. -/
theorem phc2sys_ppswatch_recovered :
    (∀ l : Phc2SysOffsetLine, Phc2SysParser.parseMetrics l.text =
        some { offset := l.offset.value, freq := l.freq.value, pathDelay := l.delay.value, state := l.state.value }) ∧
      (∀ l : Phc2SysRmsLine, Phc2SysParser.parseMetrics l.text =
        some { offset := l.offset.value, freq := l.freq.value, pathDelay := l.delay.value, state := 0 }) ∧
      (∀ l : PpsLine, PPSParser.parseMetrics l.text = some { offset := l.offset.value }) ∧
      (∀ config (records : List (LineRecord Phc2SysLine)) s,
        (phc2sysHandler config).run s (records.map (LineRecord.event Phc2SysLine.text)) =
        { s with calls := s.calls ++ records.map (phc2sysCall config) }) ∧
      (∀ config (records : List (LineRecord PpsLine)) s,
        (ppswatchHandler config).run s (records.map (LineRecord.event PpsLine.text)) =
        { s with calls := s.calls ++ records.map (ppswatchCall config) }) ∧
      (∀ msg, Phc2SysParser.parseMetrics msg = Phc2SysParser.parseMetricsFresh msg) ∧
      ∀ msg, Ptp4lParser.parseMetrics msg = Ptp4lParser.parseMetricsFresh msg := by
  refine ⟨Phc2SysOffsetLine.parseMetrics, Phc2SysRmsLine.parseMetrics, PpsLine.parseMetrics, ?_, ?_,
    Phc2SysParser.parseMetrics_eq_fresh, Ptp4lParser.parseMetrics_eq_fresh⟩
  · intro config records s
    exact Handler.run_sends (phc2sysHandler_line config) records s
  · intro config records s
    exact Handler.run_sends (ppswatchHandler_line config) records s

/-! ## A NUL byte in a token -/

def oneStamp : Stamp where
  whole := "1".toList
  frac := "5".toList
  wholeNe := by decide
  wholeDec := by simp
  fracNe := by decide
  fracDec := by simp

def oneField : LongField where
  pad := 0
  num := Numeral.ofNat 1
  inRange := by decide

def oneState : IntField where
  pad := 0
  num := Numeral.ofNat 1
  inRange := by decide

/-- `c_str()` ends at a NUL byte, which no whitespace check finds in a token. -/
theorem nulToken_not_recovered :
    ¬ ∀ (ts : Stamp) (w1 w2 : Str) (offset : LongField) (state : IntField) (freq delay : LongField),
      IsToken w1 → IsToken w2 → ¬ "rms".toList <+: w2 →
        Phc2SysParser.parseMetrics (Phc2SysOffsetLine.textOf ts w1 w2 offset state freq delay) =
          some { offset := offset.value, freq := freq.value, pathDelay := delay.value, state := state.value } := by
  intro h
  have hparse := h oneStamp ['\x00'] "phc".toList oneField oneState oneField oneField (by decide) (by decide)
    (by decide)
  have hnone : Phc2SysParser.parseMetrics
      (Phc2SysOffsetLine.textOf oneStamp ['\x00'] "phc".toList oneField oneState oneField oneField) = none := by
    decide +kernel
  rw [hnone] at hparse
  cases hparse

end TimeAgent
