/-
Numbers out of range. `scanf` has no error for them: `%ld` saturates and `%d` keeps the low bits, so a
record is returned whatever the numerals are, and its fields are theirs exactly when every numeral fits
its field.
-/
import TimeAgent.Collector.Parts

namespace TimeAgent

open CText CNum CScanf

/-! ## Numerals that fit -/

/-- Every numeral is in the range of its field: `int64_t`, and `int` for the state. -/
structure MetricsParts.Fits (p : MetricsParts) : Prop where
  offset : InInt64 p.offset.value
  freq : InInt64 p.freq.value
  pathDelay : InInt64 p.pathDelay.value
  state : ∀ ν ∈ p.state, InInt32 ν.value

/-- Four integers are the values of the numerals they were scanned from. -/
structure MetricsParts.Are (p : MetricsParts) (offset freq pathDelay state : Int) : Prop where
  offset : offset = p.offset.value
  freq : freq = p.freq.value
  pathDelay : pathDelay = p.pathDelay.value
  state : ∀ ν ∈ p.state, state = ν.value

theorem MetricsParts.are_iff (p : MetricsParts) :
    p.Are (strtol p.offset) (strtol p.freq) (strtol p.pathDelay) p.stateInt ↔ p.Fits := by
  have hstate : (∀ ν ∈ p.state, p.stateInt = ν.value) ↔ ∀ ν ∈ p.state, InInt32 ν.value := by
    unfold MetricsParts.stateInt
    cases p.state with
    | none => simp
    | some ν => simp [lowInt_strtol_eq_iff]
  constructor
  · rintro ⟨h1, h2, h3, h4⟩
    exact ⟨(strtol_eq_iff _).1 h1, (strtol_eq_iff _).1 h2, (strtol_eq_iff _).1 h3, hstate.1 h4⟩
  · rintro ⟨h1, h2, h3, h4⟩
    exact ⟨(strtol_eq_iff _).2 h1, (strtol_eq_iff _).2 h2, (strtol_eq_iff _).2 h3, hstate.2 h4⟩

def PortEventParts.Fits (p : PortEventParts) : Prop := InInt32 p.port.value

def ForeignMasterParts.Fits (p : ForeignMasterParts) : Prop := InInt32 p.port.value ∧ InInt32 p.masterPort.value

/-! ## Records that are not altered -/

/-- A record comes from parts that it is, and parts out of range give no record. -/
def Unaltered {π ρ : Type} (parts : Option π) (record : Option ρ) (are : π → ρ → Prop) (fits : π → Prop) : Prop :=
  (∀ r ∈ record, ∃ p ∈ parts, are p r) ∧ ∀ p ∈ parts, ¬ fits p → record = none

/-- A parser that converts its parts, and whose conversions are exact on the parts that fit only. -/
theorem unaltered_iff {π ρ : Type} {parts : Option π} {record : Option ρ} {convert : π → ρ} {are : π → ρ → Prop}
    {fits : π → Prop} (hrecord : record = parts.map convert) (hare : ∀ p, are p (convert p) ↔ fits p) :
    Unaltered parts record are fits ↔ ∀ p ∈ parts, fits p := by
  subst hrecord
  unfold Unaltered
  cases parts with
  | none => simp
  | some p =>
    simp only [Option.map_some, Option.mem_def, Option.some.injEq, forall_eq', exists_eq_left', hare]
    constructor
    · exact fun h => h.1
    · exact fun h => ⟨h, fun hn => absurd h hn⟩

def Ptp4lParser.MetricsUnaltered (msg : Str) : Prop :=
  Unaltered (parts msg) (parseMetrics msg) (fun p r => p.Are r.offset r.freq r.pathDelay r.state) MetricsParts.Fits

def Phc2SysParser.MetricsUnaltered (msg : Str) : Prop :=
  Unaltered (parts msg) (parseMetrics msg) (fun p r => p.Are r.offset r.freq r.pathDelay r.state) MetricsParts.Fits

def PPSParser.MetricsUnaltered (msg : Str) : Prop :=
  Unaltered (part msg) (parseMetrics msg) (fun ν r => r.offset = ν.value) fun ν => InInt64 ν.value

def Ptp4lParser.PortEventUnaltered (msg : Str) : Prop :=
  Unaltered (portEventParts msg) (parsePortEvent msg) (fun p r => r.portNumber = p.port.value) PortEventParts.Fits

def Ptp4lParser.ForeignMasterUnaltered (msg : Str) : Prop :=
  Unaltered (foreignMasterParts msg) (parseForeignMasterEvent msg)
    (fun p r => r.portNumber = p.port.value ∧ r.masterPortNumber = p.masterPort.value) ForeignMasterParts.Fits

/-- On every message: each parser returns the numbers of the message, or nothing for numbers out of
range, exactly when the numerals at the places of its integer fields are in the fields' ranges. -/
theorem unaltered_iff_fits (msg : Str) :
    (Ptp4lParser.MetricsUnaltered msg ↔ ∀ p ∈ Ptp4lParser.parts msg, p.Fits) ∧
      (Phc2SysParser.MetricsUnaltered msg ↔ ∀ p ∈ Phc2SysParser.parts msg, p.Fits) ∧
      (PPSParser.MetricsUnaltered msg ↔ ∀ ν ∈ PPSParser.part msg, InInt64 ν.value) ∧
      (Ptp4lParser.PortEventUnaltered msg ↔ ∀ p ∈ Ptp4lParser.portEventParts msg, p.Fits) ∧
      (Ptp4lParser.ForeignMasterUnaltered msg ↔ ∀ p ∈ Ptp4lParser.foreignMasterParts msg, p.Fits) := by
  refine ⟨?_, ?_, ?_, ?_, ?_⟩
  · exact unaltered_iff (Ptp4lParser.parseMetrics_eq msg) MetricsParts.are_iff
  · exact unaltered_iff (Phc2SysParser.parseMetrics_eq msg) MetricsParts.are_iff
  · exact unaltered_iff (PPSParser.parseMetrics_eq msg) strtol_eq_iff
  · exact unaltered_iff (Ptp4lParser.parsePortEvent_eq msg) fun p => lowInt_strtol_eq_iff p.port
  · refine unaltered_iff (Ptp4lParser.parseForeignMasterEvent_eq msg) fun p => ?_
    exact and_congr (lowInt_strtol_eq_iff p.port) (lowInt_strtol_eq_iff p.masterPort)

/-- Port number `2 ^ 32 + 1` is returned as port 1. -/
def wrappedLine : Str := "[0.1] port 4294967297 (eth0): LISTENING to MASTER on RS_MASTER".toList

theorem wrappedLine_altered : ¬ Ptp4lParser.PortEventUnaltered wrappedLine := by
  rintro ⟨hare, _⟩
  have hnumber : (Ptp4lParser.parsePortEvent wrappedLine).map PortEvent.portNumber = some 1 := by decide +kernel
  have hvalue : (Ptp4lParser.portEventParts wrappedLine).map (fun p => p.port.value) = some (2 ^ 32 + 1) := by
    decide +kernel
  obtain ⟨r, hr, hone⟩ := Option.map_eq_some_iff.1 hnumber
  obtain ⟨p, hp, hsame⟩ := hare r hr
  rw [hp, Option.map_some, Option.some.injEq, ← hsame, hone] at hvalue
  exact absurd hvalue (by decide)

end TimeAgent
