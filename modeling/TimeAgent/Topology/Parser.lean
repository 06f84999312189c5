/-
The PTP topology snapshot: `PtpTopologyParser::parse` over the four pmc outputs with its text
helpers, and `PtpTopologyCollector`, which runs pmc once for each of them.
-/
import TimeAgent.Lib.Double
import Mathlib.Data.List.DropRight

namespace TimeAgent

open CText CNum CDouble

/-- State of one local ptp4l port reported by pmc. -/
structure PtpPortSnapshot where
  portNumber : Int := 0
  portIdentity : Str := []
  state : Str := []
  deriving DecidableEq

structure PtpTopologySnapshotData where
  timestampUs : Nat := 0
  localClockIdentity : Str := []
  parentClockIdentity : Str := []
  parentPortNumber : Int := 0
  grandmasterIdentity : Str := []
  stepsRemoved : Int := 0
  meanPathDelayNs : Int := 0
  childPortNumber : Int := 0
  ports : List PtpPortSnapshot := []
  deriving DecidableEq

namespace PtpTopologyParser

/-! ## Text helpers -/

/-- The characters `trim` removes. -/
def isBlank (c : Char) : Bool := c = ' ' || c = '\t' || c = '\r' || c = '\n'

def trim (value : Str) : Str := (value.dropWhile isBlank).rdropWhile isBlank

/-- `s` before and behind its last dash. -/
def splitLastDash (s : Str) : Option (Str × Str) :=
  match s.rdropWhile (· ≠ '-') with
  | [] => none
  | a => some (a.dropLast, s.rtakeWhile (· ≠ '-'))

/-- The variables `key` and `value` that the four loops share. -/
structure KeyValue where
  key : Str := []
  value : Str := []
  deriving DecidableEq

def parseKeyValue (line : Str) (kv : KeyValue) : Bool × KeyValue :=
  let trimmed := trim line
  if trimmed = [] ∨ "sending:".toList <+: trimmed then (false, kv)
  else
    let key := firstToken trimmed
    if key = [] then (false, kv)
    else
      let value := trim ((afterToken trimmed).takeWhile (· ≠ '\n'))
      (value ≠ [], { key, value })

def parsePortNumber (portIdentity : Str) : Option Int :=
  match splitLastDash portIdentity with
  | none => none
  | some (_, number) => if number = [] then none else (stoi number).toOption

def parseClockIdentity (portIdentity : Str) : Str :=
  let token := firstToken portIdentity
  match splitLastDash token with
  | none => token
  | some (clock, _) => clock

/-- `unspecified` is what `llround` returns where the C standard leaves its value open. -/
def parseNanoseconds (unspecified : Double → Int) (value : Str) : Option Int :=
  let token := firstToken value
  if token = [] then none
  else (stod token).toOption.map (llround unspecified)

/-! ## The four loops -/

/-- One `getline` loop over a data set: `f key value` runs on every line `parseKeyValue` accepts. -/
def forKeyValues {σ : Type} (f : Str → Str → σ → σ) (text : Str) (st : σ × KeyValue) : σ × KeyValue :=
  (getlines text).foldl (fun (s, kv) line =>
    let (ok, kv) := parseKeyValue line kv
    (if ok then f kv.key kv.value s else s, kv)) st

def onDefault (key value : Str) (snapshot : PtpTopologySnapshotData) : PtpTopologySnapshotData :=
  if key = "clockIdentity".toList then { snapshot with localClockIdentity := firstToken value } else snapshot

def onParent (key value : Str) (snapshot : PtpTopologySnapshotData) : PtpTopologySnapshotData :=
  if key = "parentPortIdentity".toList then
    let identity := firstToken value
    let snapshot := { snapshot with parentClockIdentity := parseClockIdentity identity }
    match parsePortNumber identity with
    | some port => { snapshot with parentPortNumber := port }
    | none => snapshot
  else if key = "grandmasterIdentity".toList then { snapshot with grandmasterIdentity := firstToken value }
  else snapshot

def onCurrent (unspecified : Double → Int) (key value : Str) (snapshot : PtpTopologySnapshotData) :
    PtpTopologySnapshotData :=
  if key = "stepsRemoved".toList then
    match parseNanoseconds unspecified value with
    | some steps => { snapshot with stepsRemoved := lowInt steps }
    | none => snapshot
  else if key = "meanPathDelay".toList then
    match parseNanoseconds unspecified value with
    | some delay => { snapshot with meanPathDelayNs := delay }
    | none => snapshot
  else snapshot

/-- `snapshot.ports` and the record `currentPort` that is still being filled. -/
structure PortLoop where
  ports : List PtpPortSnapshot := []
  currentPort : Option PtpPortSnapshot := none
  deriving DecidableEq

def PortLoop.flush (st : PortLoop) : List PtpPortSnapshot :=
  match st.currentPort with
  | none => st.ports
  | some port => st.ports ++ [port]

def onPort (key value : Str) (st : PortLoop) : PortLoop :=
  if key = "portIdentity".toList then
    let portIdentity := firstToken value
    { ports := st.flush,
      currentPort := some { portIdentity, portNumber := (parsePortNumber portIdentity).getD 0 } }
  else
    match st.currentPort with
    | some port =>
      if key = "portState".toList then { st with currentPort := some { port with state := firstToken value } } else st
    | none => st

/-- The number of the first port in state `SLAVE`. -/
def childPort (ports : List PtpPortSnapshot) : Int :=
  match ports.find? (fun port => port.state = "SLAVE".toList) with
  | some port => port.portNumber
  | none => 0

def parse (unspecified : Double → Int) (nowUs : Nat) (defaultDataSet parentDataSet currentDataSet portDataSet : Str) :
    Option PtpTopologySnapshotData :=
  let (snapshot, kv) := forKeyValues onDefault defaultDataSet ({ timestampUs := nowUs }, {})
  let (snapshot, kv) := forKeyValues onParent parentDataSet (snapshot, kv)
  let (snapshot, kv) := forKeyValues (onCurrent unspecified) currentDataSet (snapshot, kv)
  let (st, _) := forKeyValues onPort portDataSet ({}, kv)
  let snapshot := { snapshot with ports := st.flush, childPortNumber := childPort st.flush }
  if snapshot.localClockIdentity = [] then none else some snapshot

/-! ## A loop as a fold over the accepted lines -/

/-- The key and the value of a line that `parseKeyValue` accepts. -/
def lineEntry (line : Str) : Option (Str × Str) :=
  let (ok, kv) := parseKeyValue line {}
  if ok then some (kv.key, kv.value) else none

/-- The accepted lines of a data set. -/
def entries (text : Str) : List (Str × Str) := (getlines text).filterMap lineEntry

/-- What the shared variables held before a line is accepted is overwritten by it. -/
theorem parseKeyValue_eq (line : Str) (kv : KeyValue) :
    (parseKeyValue line kv).1 = (lineEntry line).isSome ∧
      ∀ e ∈ lineEntry line, (parseKeyValue line kv).2 = { key := e.1, value := e.2 } := by
  unfold lineEntry parseKeyValue
  dsimp only
  split
  · simp
  · split
    · simp
    · generalize trim ((afterToken (trim line)).takeWhile (· ≠ '\n')) = value
      by_cases h : value = [] <;> simp [h]

theorem forKeyValues_fst {σ : Type} (f : Str → Str → σ → σ) (text : Str) (s : σ) (kv : KeyValue) :
    (forKeyValues f text (s, kv)).1 = (entries text).foldl (fun s e => f e.1 e.2 s) s := by
  unfold forKeyValues entries
  generalize getlines text = lines
  induction lines generalizing s kv with
  | nil => rfl
  | cons line lines ih =>
    obtain ⟨hok, hkv⟩ := parseKeyValue_eq line kv
    rw [List.foldl_cons, List.filterMap_cons]
    cases he : lineEntry line with
    | none =>
      rw [he] at hok
      dsimp only
      rw [hok]
      exact ih s _
    | some e =>
      rw [he] at hok
      dsimp only
      rw [hok, hkv e he, List.foldl_cons]
      exact ih _ _

/-- The fields after the first three loops. -/
def dataSets (unspecified : Double → Int) (nowUs : Nat) (defaultDataSet parentDataSet currentDataSet : Str) :
    PtpTopologySnapshotData :=
  (entries currentDataSet).foldl (fun s e => onCurrent unspecified e.1 e.2 s)
    ((entries parentDataSet).foldl (fun s e => onParent e.1 e.2 s)
      ((entries defaultDataSet).foldl (fun s e => onDefault e.1 e.2 s) { timestampUs := nowUs }))

/-- The ports after the last loop. -/
def portDataSets (portDataSet : Str) : List PtpPortSnapshot :=
  ((entries portDataSet).foldl (fun st e => onPort e.1 e.2 st) {}).flush

theorem parse_eq (unspecified : Double → Int) (nowUs : Nat)
    (defaultDataSet parentDataSet currentDataSet portDataSet : Str) :
    parse unspecified nowUs defaultDataSet parentDataSet currentDataSet portDataSet =
      let snapshot := dataSets unspecified nowUs defaultDataSet parentDataSet currentDataSet
      if snapshot.localClockIdentity = [] then none
      else some { snapshot with ports := portDataSets portDataSet,
                                childPortNumber := childPort (portDataSets portDataSet) } := by
  unfold parse dataSets portDataSets
  simp only [forKeyValues_fst]

end PtpTopologyParser

/-! ## Running pmc -/

structure PtpTopologyConfig where
  on : Bool := false
  pmcPath : Str := "/usr/sbin/pmc".toList
  udsPath : Str := "/var/run/ptp4lro".toList
  configPath : Str := []
  domainNumber : Int := 0
  boundaryHops : Int := 0

/-- What running a program with arguments gives: its standard output and exit code, or `none`
when starting it or reading from it throws. -/
abbrev Exec := Str → List Str → Option (Str × Int)

namespace PtpTopologyCollector

def buildArgs (config : PtpTopologyConfig) (command : Str) : List Str :=
  ["-u".toList, "-b".toList, (Numeral.ofInt config.boundaryHops).text,
    "-d".toList, (Numeral.ofInt config.domainNumber).text] ++
  (if config.configPath = [] then [] else ["-f".toList, config.configPath]) ++
  (if config.udsPath = [] then [] else ["-s".toList, config.udsPath]) ++ [command]

def runCommand (exec : Exec) (config : PtpTopologyConfig) (command : Str) : Option Str :=
  match exec config.pmcPath (buildArgs config command) with
  | none => none
  | some (output, exitCode) => if exitCode ≠ 0 then none else some (unlines (getlines output))

def collect (exec : Exec) (unspecified : Double → Int) (nowUs : Nat) (config : PtpTopologyConfig) :
    Option PtpTopologySnapshotData :=
  match runCommand exec config "GET DEFAULT_DATA_SET".toList with
  | none => none
  | some defaultDataSet =>
    match runCommand exec config "GET PARENT_DATA_SET".toList with
    | none => none
    | some parentDataSet =>
      PtpTopologyParser.parse unspecified nowUs defaultDataSet parentDataSet
        ((runCommand exec config "GET CURRENT_DATA_SET".toList).getD [])
        ((runCommand exec config "GET PORT_DATA_SET".toList).getD [])

end PtpTopologyCollector

end TimeAgent
