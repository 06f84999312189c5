/-
`MemoryCollector`: five fields of /proc/meminfo, each behind its key at the start of a line.
-/
import TimeAgent.Metrics.Basic

namespace TimeAgent

open CText CNum

structure MemoryCollector where
  fd : Int
  buf : Str

namespace MemoryCollector

/-- The bytes of one read; `none` when `collect` returns early. -/
def read (c : MemoryCollector) (content : Option Str) : Option Str :=
  if c.fd = -1 then none
  else
    match pread content (4096 - 1) with
    | none => none
    | some data => if data.length = 0 then none else some data

/-- The number behind `key`, or the default 0. -/
def readField (buf : Str) (len : Nat) (key : String) : UInt64 :=
  match findLinePrefix buf len key.toList with
  | some p => (parseNext buf len p).2.getD 0
  | none => 0

def collect (c : MemoryCollector) (content : Option Str) : Option MemoryStats × MemoryCollector :=
  match c.read content with
  | none => (none, c)
  | some data =>
    let buf := overwrite c.buf data
    let len := data.length
    (some { memAvailableKb := readField buf len "MemAvailable:", memFreeKb := readField buf len "MemFree:",
            swapTotalKb := readField buf len "SwapTotal:", swapFreeKb := readField buf len "SwapFree:",
            buffersKb := readField buf len "Buffers:" },
      { c with buf })

end MemoryCollector

end TimeAgent
