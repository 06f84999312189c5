/-
The records the metric collectors return, and the two pointer scans of `system_metrics.cpp` over a
buffer filled by `pread`.
-/
import TimeAgent.Lib.Numeral
import Mathlib.Data.Rat.Defs

namespace TimeAgent

open CText CNum

/-! ## Records -/

/-- One hwmon temperature zone reading. -/
structure TemperatureMetric where
  sensor : Str
  label : Str
  temperature : Int
  deriving DecidableEq

structure TemperatureStats where
  zonesReadings : List TemperatureMetric := []
  deriving DecidableEq

/-- The counters of one network interface. -/
structure NetworkStats where
  rxPackets : UInt64 := 0
  txPackets : UInt64 := 0
  rxDropped : UInt64 := 0
  txDropped : UInt64 := 0
  rxErrors : UInt64 := 0
  txErrors : UInt64 := 0
  collisions : UInt64 := 0
  deriving DecidableEq

/-- The quotient in `usagePercent` is taken exactly. -/
structure CpuStats where
  usagePercent : Rat := 0
  contextSwitches : UInt64 := 0
  interrupts : UInt64 := 0
  softirqs : UInt64 := 0
  deriving DecidableEq

structure MemoryStats where
  memAvailableKb : UInt64 := 0
  memFreeKb : UInt64 := 0
  swapTotalKb : UInt64 := 0
  swapFreeKb : UInt64 := 0
  buffersKb : UInt64 := 0
  deriving DecidableEq

/-- All metric groups of one snapshot. -/
structure SystemStats where
  timestampUs : Nat := 0
  temperatureStats : Option TemperatureStats := none
  networkStats : Option NetworkStats := none
  cpuStats : Option CpuStats := none
  memoryStats : Option MemoryStats := none
  deriving DecidableEq

/-! ## Reading into a buffer -/

/-- `pread(fd, buf, count, 0)` on a file with the given content; `none` is a failed read. -/
def pread (content : Option Str) (count : Nat) : Option Str := content.map (List.take count)

/-- A read overwrites the front of the buffer and leaves the bytes behind it. -/
def overwrite (buf data : Str) : Str := data ++ buf.drop data.length

/-- The bytes in `[p, last)`. -/
def slice (buf : Str) (p last : Nat) : Str := (buf.take last).drop p

/-- The loop of `findLinePrefix` from position `p`, the start of a line. -/
def findLinePrefixFrom (buf : Str) (len : Nat) (needle : Str) (p : Nat) : Option Nat :=
  if p < len then
    let remaining := len - p
    if needle.length ≤ remaining ∧ slice buf p (p + needle.length) = needle then some (p + needle.length)
    else
      match (slice buf p (p + remaining)).idxOf? '\n' with
      | none => none
      | some nl => findLinePrefixFrom buf len needle (p + nl + 1)
  else none
termination_by len - p

/-- The position behind `needle` on the first line of the buffer's first `len` bytes that starts with it. -/
def findLinePrefix (buf : Str) (len : Nat) (needle : Str) : Option Nat := findLinePrefixFrom buf len needle 0

/-- Skips spaces and parses one number: the new position, and the number if there is one. -/
def parseNext (buf : Str) (last p : Nat) : Nat × Option UInt64 :=
  let p := p + ((slice buf p last).takeWhile (· = ' ')).length
  match fromCharsU64 (slice buf p last) with
  | .ok (v, rest) => (p + ((slice buf p last).length - rest.length), some (UInt64.ofNat v))
  | .error _ => (p, none)

end TimeAgent
