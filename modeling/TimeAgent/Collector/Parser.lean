/-
The records a log line is parsed into, and the parsers of ptp4l, phc2sys and ppswatch lines as
`collector.cpp` writes them: one `sscanf` format per sentence, tried in a fixed order, with the
destinations of a failed scan left as it stored them.
-/
import TimeAgent.Lib.Scanf

namespace TimeAgent

open CText CNum CScanf

/-! ## Records -/

/-- A record read from a source. -/
structure CollectorEvent where
  tsUsec : Nat
  unit : Str
  msg : Str
  deriving DecidableEq

structure Ptp4lStats where
  unit : Str := []
  timestampUs : Nat := 0
  offset : Int := 0
  freq : Int := 0
  pathDelay : Int := 0
  state : Int := 0
  deriving DecidableEq

structure Phc2SysStats where
  unit : Str := []
  timestampUs : Nat := 0
  offset : Int := 0
  freq : Int := 0
  pathDelay : Int := 0
  state : Int := 0
  deriving DecidableEq

structure PPSStats where
  unit : Str := []
  timestampUs : Nat := 0
  offset : Int := 0
  deriving DecidableEq

/-- A ptp4l port state transition. -/
structure PortEvent where
  unit : Str := []
  timestampUs : Nat := 0
  portNumber : Int := 0
  portName : Str := []
  adapterName : Str := []
  fromState : Str := []
  toState : Str := []
  trigger : Str := []
  deriving DecidableEq

/-- A ptp4l foreign master discovery. -/
structure ForeignMasterEvent where
  unit : Str := []
  timestampUs : Nat := 0
  portNumber : Int := 0
  portName : Str := []
  masterClockIdentity : Str := []
  masterPortNumber : Int := 0
  deriving DecidableEq

/-- A ptp4l best master selection. -/
structure BestMasterEvent where
  unit : Str := []
  timestampUs : Nat := 0
  masterClockIdentity : Str := []
  deriving DecidableEq

/-- `%lf` into the local `timestamp`, which nothing reads. -/
def timestamp {σ : Type} : Directive σ := .text .real (some fun _ s => s)

/-! ## ptp4l -/

namespace Ptp4lParser

def rmsFormat : Format Ptp4lStats :=
  lits "[" ++ [timestamp] ++ lits "] rms " ++ [skipLong] ++ lits " max " ++ [long fun v r => { r with offset := v }] ++
    lits " freq " ++ [long fun v r => { r with freq := v }] ++ lits " +/- " ++ [skipLong] ++
    lits " delay " ++ [long fun v r => { r with pathDelay := v }] ++ lits " +/- " ++ [skipLong]

def offsetFormat : Format Ptp4lStats :=
  lits "[" ++ [timestamp] ++ lits "] " ++ [skipWord] ++ lits " offset " ++ [long fun v r => { r with offset := v }] ++
    lits " s" ++ [int fun v r => { r with state := v }] ++ lits " freq " ++ [long fun v r => { r with freq := v }] ++
    lits " path delay " ++ [long fun v r => { r with pathDelay := v }]

def parseMetrics (msg : Str) : Option Ptp4lStats :=
  let (n, res) := sscanf rmsFormat (cstr msg) {}
  if n = 4 then some res
  else
    let (n, res) := sscanf offsetFormat (cstr msg) res
    if n = 5 then some res else none

/-- The destinations of `parsePortEvent`: `res.portNumber` and the four character arrays. -/
structure PortEventLocals where
  portNumber : Int := 0
  portName : Str := []
  fromState : Str := []
  toState : Str := []
  trigger : Str := []

def portEventFormat : Format PortEventLocals :=
  lits "[" ++ [timestamp] ++ lits "] port " ++ [int fun v r => { r with portNumber := v }] ++
    lits " (" ++ [setNot 127 ')' fun t r => { r with portName := t }] ++
    lits "): " ++ [word 63 fun t r => { r with fromState := t }] ++
    lits " to " ++ [word 63 fun t r => { r with toState := t }] ++
    lits " on " ++ [setNot 127 '\n' fun t r => { r with trigger := t }]

def parsePortEvent (msg : Str) : Option PortEvent :=
  if !contains msg "port ".toList || !contains msg " to ".toList then none
  else
    let (n, loc) := sscanf portEventFormat (cstr msg) {}
    if n = 6 then
      some { portNumber := loc.portNumber, portName := loc.portName, fromState := loc.fromState,
             toState := loc.toState, trigger := loc.trigger }
    else none

/-- The destinations of `parseForeignMasterEvent`. -/
structure ForeignMasterLocals where
  portNumber : Int := 0
  portName : Str := []
  masterClockIdentity : Str := []
  masterPortNumber : Int := 0

def foreignMasterFormat : Format ForeignMasterLocals :=
  lits "[" ++ [timestamp] ++ lits "] port " ++ [int fun v r => { r with portNumber := v }] ++
    lits " (" ++ [setNot 127 ')' fun t r => { r with portName := t }] ++
    lits "): new foreign master " ++ [setNot 63 '-' fun t r => { r with masterClockIdentity := t }] ++
    lits "-" ++ [int fun v r => { r with masterPortNumber := v }]

def parseForeignMasterEvent (msg : Str) : Option ForeignMasterEvent :=
  if !contains msg "new foreign master".toList then none
  else
    let (n, loc) := sscanf foreignMasterFormat (cstr msg) {}
    if n = 5 then
      some { portNumber := loc.portNumber, portName := loc.portName,
             masterClockIdentity := loc.masterClockIdentity, masterPortNumber := loc.masterPortNumber }
    else none

/-- Both formats store into the one array `masterClockIdentity`. -/
def bestMasterFormat : Format Str :=
  lits "[" ++ [timestamp] ++ lits "] selected best master clock " ++ [word 63 fun t _ => t]

def localClockFormat : Format Str :=
  lits "[" ++ [timestamp] ++ lits "] selected local clock " ++ [word 63 fun t _ => t] ++ lits " as best master"

def parseBestMasterEvent (msg : Str) : Option BestMasterEvent :=
  if !contains msg "selected".toList then none
  else
    let (n, masterClockIdentity) := sscanf bestMasterFormat (cstr msg) []
    if n = 2 then some { masterClockIdentity }
    else
      let (n, masterClockIdentity) := sscanf localClockFormat (cstr msg) masterClockIdentity
      if n = 2 then some { masterClockIdentity } else none

end Ptp4lParser

/-! ## phc2sys and ppswatch -/

namespace Phc2SysParser

def rmsFormat : Format Phc2SysStats :=
  lits "[" ++ [timestamp] ++ lits "] " ++ [skipWord] ++ lits " rms " ++ [skipLong] ++
    lits " max " ++ [long fun v r => { r with offset := v }] ++ lits " freq " ++ [long fun v r => { r with freq := v }] ++
    lits " +/- " ++ [skipLong] ++ lits " delay " ++ [long fun v r => { r with pathDelay := v }] ++
    lits " +/- " ++ [skipLong]

def offsetFormat : Format Phc2SysStats :=
  lits "[" ++ [timestamp] ++ lits "] " ++ [skipWord] ++ lits " " ++ [skipWord] ++
    lits " offset " ++ [long fun v r => { r with offset := v }] ++ lits " s" ++ [int fun v r => { r with state := v }] ++
    lits " freq " ++ [long fun v r => { r with freq := v }] ++ lits " delay " ++ [long fun v r => { r with pathDelay := v }]

def parseMetrics (msg : Str) : Option Phc2SysStats :=
  let (n, res) := sscanf rmsFormat (cstr msg) {}
  if n = 4 then some res
  else
    let (n, res) := sscanf offsetFormat (cstr msg) res
    if n = 5 then some res else none

def isWaiting (msg : Str) : Bool := contains msg "Waiting for ptp4l".toList

end Phc2SysParser

namespace PPSParser

/-- The timestamp and the sequence number go to locals nothing reads. -/
def format : Format PPSStats :=
  lits "timestamp: " ++ [long fun _ r => r] ++ lits ", sequence: " ++ [long fun _ r => r] ++
    lits ", offset: " ++ [long fun v r => { r with offset := v }]

def parseMetrics (msg : Str) : Option PPSStats :=
  let (n, res) := sscanf format (cstr msg) {}
  if n = 3 then some res else none

end PPSParser

example : Ptp4lParser.parseMetrics "[31964.600] rms   32 max   40 freq +12543 +/-   5 delay  9042 +/-  16".toList =
    some { offset := 40, freq := 12543, pathDelay := 9042 } := by decide

end TimeAgent
