/-
The converters of `adapter.cpp` over the accessors of `MetricsWrapper`, whatever they are as long as a
getter gives back what was set: the getters tell everything of a call but the name of the unit.
-/
import TimeAgent.Agent.Handlers
import TimeAgent.Lib.Accessors

namespace TimeAgent

open CText

/-! ## Timestamps -/

/-- `google::protobuf::Timestamp`. -/
structure Timestamp where
  seconds : Int
  nanos : Int
  deriving DecidableEq

/-- `timestamp_utils::from_us`; division and remainder go towards zero. -/
def fromUs (us : Int) : Timestamp where
  seconds := us.tdiv 1000000
  nanos := us.tmod 1000000 * 1000

/-- A `uint64_t` in the `int64_t` parameter of `from_us`. -/
def toInt64 (n : Nat) : Int := (n : Int).bmod (2 ^ 64)

/-- The microseconds of a timestamp as `uint64_t`. -/
def Timestamp.us (ts : Timestamp) : Nat := ((ts.seconds * 1000000 + ts.nanos.tdiv 1000) % 2 ^ 64).toNat

theorem fromUs_exact (us : Int) : (fromUs us).seconds * 1000000000 + (fromUs us).nanos = us * 1000 := by
  have h := Int.mul_tdiv_add_tmod us 1000000
  unfold fromUs
  dsimp only
  omega

theorem Timestamp.us_fromUs {n : Nat} (h : n < 2 ^ 64) : (fromUs (toInt64 n)).us = n := by
  have hwhole := Int.mul_tdiv_add_tmod (toInt64 n) 1000000
  have hmod : toInt64 n % 2 ^ 64 = n := by
    unfold toInt64
    rw [show (2 : Int) ^ 64 = ((2 ^ 64 : Nat) : Int) from rfl, Int.bmod_emod]
    omega
  unfold Timestamp.us fromUs
  dsimp only
  rw [Int.mul_tdiv_cancel _ (by omega), Int.mul_comm, hwhole, hmod, Int.toNat_natCast]

/-- By the seconds and then by the nanoseconds. -/
def Timestamp.Before (ts ts' : Timestamp) : Prop :=
  ts.seconds < ts'.seconds ∨ ts.seconds = ts'.seconds ∧ ts.nanos < ts'.nanos

/-- The nanoseconds count forward from the second, as the documentation of the type asks. -/
def Timestamp.Valid (ts : Timestamp) : Prop := 0 ≤ ts.nanos ∧ ts.nanos < 1000000000

theorem fromUs_before {us us' : Int} (h : us < us') : (fromUs us).Before (fromUs us') := by
  have hle : (fromUs us).seconds ≤ (fromUs us').seconds := Int.tdiv_le_tdiv (by omega) (by omega)
  have hexact := fromUs_exact us
  have hexact' := fromUs_exact us'
  unfold Timestamp.Before
  omega

theorem fromUs_valid {us : Int} (h : 0 ≤ us) : (fromUs us).Valid := by
  have hnonneg := Int.tmod_nonneg 1000000 h
  have hlt := Int.tmod_lt_of_pos us (show (0 : Int) < 1000000 by omega)
  unfold Timestamp.Valid fromUs
  dsimp only
  omega

theorem toInt64_of_lt {n : Nat} (h : n < 2 ^ 63) : toInt64 n = n := by
  unfold toInt64
  rw [Int.bmod_eq_of_le (by omega) (by omega)]

/-! ## The schema -/

inductive MessageType
  | ptp4l
  | phc2sys
  | system
  | pps
  | ptp4lPortEvent
  | ptpTopology
  deriving DecidableEq

instance : Inhabited MessageType := ⟨.ptp4l⟩

instance : Inhabited Timestamp := ⟨⟨0, 0⟩⟩

namespace MetricsWrapper

/-- The wrapper, and the messages in it by the member or the repeated member that they are in. -/
inductive Kind
  | wrapper
  | ptp4l
  | phc2sys
  | system
  | cpuStats
  | memoryStats
  | networkStats
  | temperatureStats
  | zonesReadings
  | pps
  | ptp4lPortEvent
  | ptpTopology
  | ports
  deriving DecidableEq

inductive WrapperField
  | type
  | nodeName
  | timestamp
  deriving DecidableEq

/-- The fields of the ptp4l and of the phc2sys message. -/
inductive ServoField
  | pathDelay
  | frequency
  | offsetNs
  | state
  deriving DecidableEq

inductive CpuField
  | usagePercent
  | contextSwitches
  | interrupts
  | softirqs
  deriving DecidableEq

inductive MemoryField
  | memAvailableKb
  | memFreeKb
  | swapTotalKb
  | swapFreeKb
  | buffersKb
  deriving DecidableEq

inductive NetworkField
  | rxPackets
  | txPackets
  | rxDropped
  | txDropped
  | rxErrors
  | txErrors
  | collisions
  deriving DecidableEq

inductive ZoneField
  | sensor
  | label
  | temperature
  deriving DecidableEq

inductive PpsField
  | offsetNs
  deriving DecidableEq

inductive PortEventField
  | port
  | interface
  | fromState
  | toState
  | adapterName
  | eventTrigger
  deriving DecidableEq

inductive TopologyField
  | localClockIdentity
  | parentClockIdentity
  | parentPort
  | grandmasterIdentity
  | stepsRemoved
  | meanPathDelayNs
  | childPort
  deriving DecidableEq

inductive PortField
  | port
  | portIdentity
  | state
  deriving DecidableEq

inductive WrapperMember
  | ptp4l
  | phc2sys
  | system
  | pps
  | ptp4lPortEvent
  | ptpTopology
  deriving DecidableEq

inductive SystemMember
  | cpuStats
  | memoryStats
  | networkStats
  | temperatureStats
  deriving DecidableEq

@[reducible] def Field : Kind → Type
  | .wrapper => WrapperField
  | .ptp4l => ServoField
  | .phc2sys => ServoField
  | .cpuStats => CpuField
  | .memoryStats => MemoryField
  | .networkStats => NetworkField
  | .zonesReadings => ZoneField
  | .pps => PpsField
  | .ptp4lPortEvent => PortEventField
  | .ptpTopology => TopologyField
  | .ports => PortField
  | .system => Empty
  | .temperatureStats => Empty

@[reducible] def Value : {k : Kind} → Field k → Type
  | .wrapper, .type => MessageType
  | .wrapper, .nodeName => Str
  | .wrapper, .timestamp => Timestamp
  | .cpuStats, .usagePercent => Rat
  | .cpuStats, _ => UInt64
  | .memoryStats, _ => UInt64
  | .networkStats, _ => UInt64
  | .zonesReadings, .sensor => Str
  | .zonesReadings, .label => Str
  | .ptp4lPortEvent, .interface => Str
  | .ptp4lPortEvent, .fromState => Str
  | .ptp4lPortEvent, .toState => Str
  | .ptp4lPortEvent, .adapterName => Str
  | .ptp4lPortEvent, .eventTrigger => Str
  | .ptpTopology, .localClockIdentity => Str
  | .ptpTopology, .parentClockIdentity => Str
  | .ptpTopology, .grandmasterIdentity => Str
  | .ports, .portIdentity => Str
  | .ports, .state => Str
  | _, _ => Int

@[reducible] def Member : Kind → Type
  | .wrapper => WrapperMember
  | .system => SystemMember
  | _ => Empty

@[reducible] def kindOf : {k : Kind} → Member k → Kind
  | .wrapper, .ptp4l => .ptp4l
  | .wrapper, .phc2sys => .phc2sys
  | .wrapper, .system => .system
  | .wrapper, .pps => .pps
  | .wrapper, .ptp4lPortEvent => .ptp4lPortEvent
  | .wrapper, .ptpTopology => .ptpTopology
  | .system, .cpuStats => .cpuStats
  | .system, .memoryStats => .memoryStats
  | .system, .networkStats => .networkStats
  | .system, .temperatureStats => .temperatureStats

@[reducible] def Repeated : Kind → Type
  | .temperatureStats => Unit
  | .ptpTopology => Unit
  | _ => Empty

@[reducible] def elementKind : {k : Kind} → Repeated k → Kind
  | .temperatureStats, _ => .zonesReadings
  | .ptpTopology, _ => .ports

/-- What `adapter.cpp` uses of `metrics.proto`. -/
@[reducible] def schema : Schema where
  Kind := Kind
  Field := Field
  Value := Value
  Member := Member
  kindOf := kindOf
  Alternative := fun {k} _ => k = .wrapper
  Repeated := Repeated
  elementKind := elementKind

instance : DecidableEq schema.Kind := inferInstanceAs (DecidableEq Kind)

instance (k : Kind) : DecidableEq (schema.Field k) := by cases k <;> infer_instance

instance (k : Kind) : DecidableEq (schema.Member k) := by cases k <;> infer_instance

instance (k : Kind) : DecidableEq (schema.Repeated k) := by cases k <;> infer_instance

instance (k : Kind) (f : schema.Field k) : Inhabited (schema.Value f) := by cases k <;> cases f <;> infer_instance

end MetricsWrapper

/-! ## Converters -/

namespace Converters

open MetricsWrapper

def ptp4lFields (internal : Ptp4lStats) : schema.Writes .ptp4l :=
  [⟨.pathDelay, internal.pathDelay⟩, ⟨.frequency, internal.freq⟩, ⟨.offsetNs, internal.offset⟩,
    ⟨.state, internal.state⟩]

def phc2sysFields (internal : Phc2SysStats) : schema.Writes .phc2sys :=
  [⟨.pathDelay, internal.pathDelay⟩, ⟨.frequency, internal.freq⟩, ⟨.offsetNs, internal.offset⟩,
    ⟨.state, internal.state⟩]

def cpuFields (cpuStats : CpuStats) : schema.Writes .cpuStats :=
  [⟨.usagePercent, cpuStats.usagePercent⟩, ⟨.contextSwitches, cpuStats.contextSwitches⟩,
    ⟨.interrupts, cpuStats.interrupts⟩, ⟨.softirqs, cpuStats.softirqs⟩]

def memoryFields (memoryStats : MemoryStats) : schema.Writes .memoryStats :=
  [⟨.memAvailableKb, memoryStats.memAvailableKb⟩, ⟨.memFreeKb, memoryStats.memFreeKb⟩,
    ⟨.swapTotalKb, memoryStats.swapTotalKb⟩, ⟨.swapFreeKb, memoryStats.swapFreeKb⟩,
    ⟨.buffersKb, memoryStats.buffersKb⟩]

def networkFields (networkStats : NetworkStats) : schema.Writes .networkStats :=
  [⟨.rxPackets, networkStats.rxPackets⟩, ⟨.txPackets, networkStats.txPackets⟩,
    ⟨.rxDropped, networkStats.rxDropped⟩, ⟨.txDropped, networkStats.txDropped⟩, ⟨.rxErrors, networkStats.rxErrors⟩,
    ⟨.txErrors, networkStats.txErrors⟩, ⟨.collisions, networkStats.collisions⟩]

def zoneFields (zone : TemperatureMetric) : schema.Writes .zonesReadings :=
  [⟨.sensor, zone.sensor⟩, ⟨.label, zone.label⟩, ⟨.temperature, zone.temperature⟩]

def ppsFields (internal : PPSStats) : schema.Writes .pps := [⟨.offsetNs, internal.offset⟩]

def portEventFields (internal : PortEvent) : schema.Writes .ptp4lPortEvent :=
  [⟨.port, internal.portNumber⟩, ⟨.interface, internal.portName⟩, ⟨.fromState, internal.fromState⟩,
    ⟨.toState, internal.toState⟩, ⟨.adapterName, internal.adapterName⟩, ⟨.eventTrigger, internal.trigger⟩]

def topologyFields (internal : PtpTopologySnapshotData) : schema.Writes .ptpTopology :=
  [⟨.localClockIdentity, internal.localClockIdentity⟩, ⟨.parentClockIdentity, internal.parentClockIdentity⟩,
    ⟨.parentPort, internal.parentPortNumber⟩, ⟨.grandmasterIdentity, internal.grandmasterIdentity⟩,
    ⟨.stepsRemoved, internal.stepsRemoved⟩, ⟨.meanPathDelayNs, internal.meanPathDelayNs⟩,
    ⟨.childPort, internal.childPortNumber⟩]

def portFields (port : PtpPortSnapshot) : schema.Writes .ports :=
  [⟨.port, port.portNumber⟩, ⟨.portIdentity, port.portIdentity⟩, ⟨.state, port.state⟩]

/-- What every converter sets in the wrapper. -/
def wrapperFields (type : MessageType) (node : Str) (timestampUs : Nat) : schema.Writes .wrapper :=
  [⟨.type, type⟩, ⟨.nodeName, node⟩, ⟨.timestamp, fromUs (toInt64 timestampUs)⟩]

variable (api : Accessors schema)

def toPtp4lMetrics (internal : Ptp4lStats) (node : Str) : api.Message .wrapper :=
  let metricsWrapper := api.setAll (api.new .wrapper) (wrapperFields .ptp4l node internal.timestampUs)
  api.mutable metricsWrapper .ptp4l fun metrics => api.setAll metrics (ptp4lFields internal)

def toPhc2sysMetrics (internal : Phc2SysStats) (node : Str) : api.Message .wrapper :=
  let metricsWrapper := api.setAll (api.new .wrapper) (wrapperFields .phc2sys node internal.timestampUs)
  api.mutable metricsWrapper .phc2sys fun metrics => api.setAll metrics (phc2sysFields internal)

/-- The groups of the snapshot that are there. -/
def systemGroups (internal : SystemStats) (metrics : api.Message .system) : api.Message .system :=
  let metrics := api.mutableFor metrics .cpuStats internal.cpuStats fun cpuStats cpu =>
    api.setAll cpu (cpuFields cpuStats)
  let metrics := api.mutableFor metrics .memoryStats internal.memoryStats fun memoryStats mem =>
    api.setAll mem (memoryFields memoryStats)
  let metrics := api.mutableFor metrics .networkStats internal.networkStats fun networkStats net =>
    api.setAll net (networkFields networkStats)
  api.mutableFor metrics .temperatureStats internal.temperatureStats fun temperatureStats temp =>
    api.addFor temp () temperatureStats.zonesReadings fun zone reading => api.setAll reading (zoneFields zone)

def toSystemMetrics (internal : SystemStats) (nodeName : Str) : api.Message .wrapper :=
  let metricsWrapper := api.setAll (api.new .wrapper) (wrapperFields .system nodeName internal.timestampUs)
  api.mutable metricsWrapper .system (systemGroups api internal)

def toPpsMetrics (internal : PPSStats) (node : Str) : api.Message .wrapper :=
  let metricsWrapper := api.setAll (api.new .wrapper) (wrapperFields .pps node internal.timestampUs)
  api.mutable metricsWrapper .pps fun metrics => api.setAll metrics (ppsFields internal)

def toPortEvent (internal : PortEvent) (node : Str) : api.Message .wrapper :=
  let metricsWrapper := api.setAll (api.new .wrapper) (wrapperFields .ptp4lPortEvent node internal.timestampUs)
  api.mutable metricsWrapper .ptp4lPortEvent fun event => api.setAll event (portEventFields internal)

def toPtpTopologySnapshot (internal : PtpTopologySnapshotData) (node : Str) : api.Message .wrapper :=
  let metricsWrapper := api.setAll (api.new .wrapper) (wrapperFields .ptpTopology node internal.timestampUs)
  api.mutable metricsWrapper .ptpTopology fun topology =>
    api.addFor (api.setAll topology (topologyFields internal)) () internal.ports fun port topologyPort =>
      api.setAll topologyPort (portFields port)

end Converters

/-- The message that `ZMQAdapter` sends for a call. -/
def AdapterCall.message (api : Accessors MetricsWrapper.schema) : AdapterCall → api.Message .wrapper
  | .sendPtpStatistics stats node => Converters.toPtp4lMetrics api stats node
  | .sendPhc2sysStatistics stats node => Converters.toPhc2sysMetrics api stats node
  | .sendPpsStatistics stats node => Converters.toPpsMetrics api stats node
  | .sendSysStatistics stats node => Converters.toSystemMetrics api stats node
  | .sendPtp4lPortEvent event node => Converters.toPortEvent api event node
  | .sendPtpTopologySnapshot snapshot node => Converters.toPtpTopologySnapshot api snapshot node

/-! ## Reading a message -/

namespace MetricsWrapper

variable (api : Accessors schema)

/-- The values of a message by its getters. -/
def readCpu (m : api.Message .cpuStats) : CpuStats where
  usagePercent := api.get m .usagePercent
  contextSwitches := api.get m .contextSwitches
  interrupts := api.get m .interrupts
  softirqs := api.get m .softirqs

def readMemory (m : api.Message .memoryStats) : MemoryStats where
  memAvailableKb := api.get m .memAvailableKb
  memFreeKb := api.get m .memFreeKb
  swapTotalKb := api.get m .swapTotalKb
  swapFreeKb := api.get m .swapFreeKb
  buffersKb := api.get m .buffersKb

def readNetwork (m : api.Message .networkStats) : NetworkStats where
  rxPackets := api.get m .rxPackets
  txPackets := api.get m .txPackets
  rxDropped := api.get m .rxDropped
  txDropped := api.get m .txDropped
  rxErrors := api.get m .rxErrors
  txErrors := api.get m .txErrors
  collisions := api.get m .collisions

def readZone (m : api.Message .zonesReadings) : TemperatureMetric where
  sensor := api.get m .sensor
  label := api.get m .label
  temperature := api.get m .temperature

def readTemperature (m : api.Message .temperatureStats) : TemperatureStats where
  zonesReadings := (api.elements m ()).map (readZone api)

def readPort (m : api.Message .ports) : PtpPortSnapshot where
  portNumber := api.get m .port
  portIdentity := api.get m .portIdentity
  state := api.get m .state

section

variable (timestampUs : Nat) (node : Str)

def readPtp4l (m : api.Message .ptp4l) : AdapterCall :=
  .sendPtpStatistics { timestampUs, offset := api.get m .offsetNs, freq := api.get m .frequency,
                       pathDelay := api.get m .pathDelay, state := api.get m .state } node

def readPhc2sys (m : api.Message .phc2sys) : AdapterCall :=
  .sendPhc2sysStatistics { timestampUs, offset := api.get m .offsetNs, freq := api.get m .frequency,
                           pathDelay := api.get m .pathDelay, state := api.get m .state } node

def readPps (m : api.Message .pps) : AdapterCall :=
  .sendPpsStatistics { timestampUs, offset := api.get m .offsetNs } node

def readSystem (m : api.Message .system) : AdapterCall :=
  .sendSysStatistics { timestampUs, cpuStats := (api.member m .cpuStats).map (readCpu api),
                       memoryStats := (api.member m .memoryStats).map (readMemory api),
                       networkStats := (api.member m .networkStats).map (readNetwork api),
                       temperatureStats := (api.member m .temperatureStats).map (readTemperature api) } node

def readPortEvent (m : api.Message .ptp4lPortEvent) : AdapterCall :=
  .sendPtp4lPortEvent { timestampUs, portNumber := api.get m .port, portName := api.get m .interface,
                        adapterName := api.get m .adapterName, fromState := api.get m .fromState,
                        toState := api.get m .toState, trigger := api.get m .eventTrigger } node

def readTopology (m : api.Message .ptpTopology) : AdapterCall :=
  .sendPtpTopologySnapshot { timestampUs, localClockIdentity := api.get m .localClockIdentity,
                             parentClockIdentity := api.get m .parentClockIdentity,
                             parentPortNumber := api.get m .parentPort,
                             grandmasterIdentity := api.get m .grandmasterIdentity,
                             stepsRemoved := api.get m .stepsRemoved, meanPathDelayNs := api.get m .meanPathDelayNs,
                             childPortNumber := api.get m .childPort,
                             ports := (api.elements m ()).map (readPort api) } node

end

variable (w : api.Message .wrapper)

/-- The call by a member of the wrapper, with what the wrapper says itself. -/
def readMember (x : schema.Member .wrapper) (read : Nat → Str → api.Message (schema.kindOf x) → AdapterCall) :
    Option AdapterCall :=
  (api.member w x).map (read (api.get w .timestamp).us (api.get w .nodeName))

/-- The type says which member to look at. -/
def readAs : MessageType → Option AdapterCall
  | .ptp4l => readMember api w .ptp4l (readPtp4l api)
  | .phc2sys => readMember api w .phc2sys (readPhc2sys api)
  | .pps => readMember api w .pps (readPps api)
  | .system => readMember api w .system (readSystem api)
  | .ptp4lPortEvent => readMember api w .ptp4lPortEvent (readPortEvent api)
  | .ptpTopology => readMember api w .ptpTopology (readTopology api)

/-- The call as the getters tell it. -/
def read : Option AdapterCall := readAs api w (api.get w .type)

end MetricsWrapper

namespace AdapterCall

def timestampUs : AdapterCall → Nat
  | .sendPtpStatistics stats _ => stats.timestampUs
  | .sendPhc2sysStatistics stats _ => stats.timestampUs
  | .sendPpsStatistics stats _ => stats.timestampUs
  | .sendSysStatistics stats _ => stats.timestampUs
  | .sendPtp4lPortEvent event _ => event.timestampUs
  | .sendPtpTopologySnapshot snapshot _ => snapshot.timestampUs

/-- The unit a record came from is in no message. -/
def withoutUnit : AdapterCall → AdapterCall
  | .sendPtpStatistics stats node => .sendPtpStatistics { stats with unit := [] } node
  | .sendPhc2sysStatistics stats node => .sendPhc2sysStatistics { stats with unit := [] } node
  | .sendPpsStatistics stats node => .sendPpsStatistics { stats with unit := [] } node
  | .sendSysStatistics stats node => .sendSysStatistics stats node
  | .sendPtp4lPortEvent event node => .sendPtp4lPortEvent { event with unit := [] } node
  | .sendPtpTopologySnapshot snapshot node => .sendPtpTopologySnapshot snapshot node

open Converters in
/-- The fields of the message can hold what the call writes to them. -/
def Fits (api : Accessors MetricsWrapper.schema) : AdapterCall → Prop
  | .sendPtpStatistics stats node =>
    api.Takes (wrapperFields .ptp4l node stats.timestampUs) ∧ api.Takes (ptp4lFields stats)
  | .sendPhc2sysStatistics stats node =>
    api.Takes (wrapperFields .phc2sys node stats.timestampUs) ∧ api.Takes (phc2sysFields stats)
  | .sendPpsStatistics stats node =>
    api.Takes (wrapperFields .pps node stats.timestampUs) ∧ api.Takes (ppsFields stats)
  | .sendSysStatistics stats node =>
    api.Takes (wrapperFields .system node stats.timestampUs) ∧
      (∀ cpu ∈ stats.cpuStats, api.Takes (cpuFields cpu)) ∧
      (∀ memory ∈ stats.memoryStats, api.Takes (memoryFields memory)) ∧
      (∀ network ∈ stats.networkStats, api.Takes (networkFields network)) ∧
      ∀ temperature ∈ stats.temperatureStats, ∀ zone ∈ temperature.zonesReadings, api.Takes (zoneFields zone)
  | .sendPtp4lPortEvent event node =>
    api.Takes (wrapperFields .ptp4lPortEvent node event.timestampUs) ∧ api.Takes (portEventFields event)
  | .sendPtpTopologySnapshot snapshot node =>
    api.Takes (wrapperFields .ptpTopology node snapshot.timestampUs) ∧ api.Takes (topologyFields snapshot) ∧
      ∀ port ∈ snapshot.ports, api.Takes (portFields port)

end AdapterCall

namespace MetricsWrapper

open Converters

/-! ## The groups of a snapshot -/

section

variable {api : Accessors schema}

theorem readCpu_of_shows {m : api.Message .cpuStats} {cpu : CpuStats} (h : api.Shows m (cpuFields cpu)) :
    readCpu api m = cpu := by
  obtain ⟨husage, hswitches, hinterrupts, hsoftirqs, -⟩ := h
  unfold readCpu
  rw [husage, hswitches, hinterrupts, hsoftirqs]

theorem readMemory_of_shows {m : api.Message .memoryStats} {memory : MemoryStats}
    (h : api.Shows m (memoryFields memory)) : readMemory api m = memory := by
  obtain ⟨havailable, hfree, htotal, hswap, hbuffers, -⟩ := h
  unfold readMemory
  rw [havailable, hfree, htotal, hswap, hbuffers]

theorem readNetwork_of_shows {m : api.Message .networkStats} {network : NetworkStats}
    (h : api.Shows m (networkFields network)) : readNetwork api m = network := by
  obtain ⟨hrx, htx, hrxDropped, htxDropped, hrxErrors, htxErrors, hcollisions, -⟩ := h
  unfold readNetwork
  rw [hrx, htx, hrxDropped, htxDropped, hrxErrors, htxErrors, hcollisions]

theorem readZone_of_shows {m : api.Message .zonesReadings} {zone : TemperatureMetric}
    (h : api.Shows m (zoneFields zone)) : readZone api m = zone := by
  obtain ⟨hsensor, hlabel, htemperature, -⟩ := h
  unfold readZone
  rw [hsensor, hlabel, htemperature]

theorem readPort_of_shows {m : api.Message .ports} {port : PtpPortSnapshot} (h : api.Shows m (portFields port)) :
    readPort api m = port := by
  obtain ⟨hport, hidentity, hstate, -⟩ := h
  unfold readPort
  rw [hport, hidentity, hstate]

/-- No two groups are alternatives. -/
theorem groups_apart (x y : schema.Member Kind.system) : ¬ (schema.Alternative x ∧ schema.Alternative y) :=
  fun hboth => absurd hboth.1 (by simp)

variable (h : api.Lawful)

include h

theorem member_cpuStats (stats : SystemStats) :
    api.member (systemGroups api stats (api.new .system)) .cpuStats =
      stats.cpuStats.map fun cpu => api.setAll (api.new .cpuStats) (cpuFields cpu) := by
  unfold systemGroups
  dsimp only
  rw [h.member_mutableFor_ne (by simp) (groups_apart _ _), h.member_mutableFor_ne (by simp) (groups_apart _ _),
    h.member_mutableFor_ne (by simp) (groups_apart _ _), h.member_mutableFor (h.member_new _)]

theorem member_memoryStats (stats : SystemStats) :
    api.member (systemGroups api stats (api.new .system)) .memoryStats =
      stats.memoryStats.map fun memory => api.setAll (api.new .memoryStats) (memoryFields memory) := by
  unfold systemGroups
  dsimp only
  rw [h.member_mutableFor_ne (by simp) (groups_apart _ _), h.member_mutableFor_ne (by simp) (groups_apart _ _),
    h.member_mutableFor]
  rw [h.member_mutableFor_ne (by simp) (groups_apart _ _), h.member_new]

theorem member_networkStats (stats : SystemStats) :
    api.member (systemGroups api stats (api.new .system)) .networkStats =
      stats.networkStats.map fun network => api.setAll (api.new .networkStats) (networkFields network) := by
  unfold systemGroups
  dsimp only
  rw [h.member_mutableFor_ne (by simp) (groups_apart _ _), h.member_mutableFor]
  rw [h.member_mutableFor_ne (by simp) (groups_apart _ _), h.member_mutableFor_ne (by simp) (groups_apart _ _),
    h.member_new]

theorem member_temperatureStats (stats : SystemStats) :
    api.member (systemGroups api stats (api.new .system)) .temperatureStats =
      stats.temperatureStats.map fun temperature => api.addFor (api.new .temperatureStats) () temperature.zonesReadings
        fun zone reading => api.setAll reading (zoneFields zone) := by
  unfold systemGroups
  dsimp only
  rw [h.member_mutableFor]
  rw [h.member_mutableFor_ne (by simp) (groups_apart _ _), h.member_mutableFor_ne (by simp) (groups_apart _ _),
    h.member_mutableFor_ne (by simp) (groups_apart _ _), h.member_new]

/-- The readings come back one by one, in their order. -/
theorem readTemperature_addFor {temperature : TemperatureStats}
    (htakes : ∀ zone ∈ temperature.zonesReadings, api.Takes (zoneFields zone)) :
    readTemperature api (api.addFor (api.new .temperatureStats) () temperature.zonesReadings
      fun zone reading => api.setAll reading (zoneFields zone)) = temperature := by
  unfold readTemperature
  rw [h.elements_addFor, h.elements_new, List.nil_append, List.map_map]
  refine congrArg TemperatureStats.mk ((List.map_congr_left fun zone hzone => ?_).trans (List.map_id _))
  exact readZone_of_shows (h.shows_setAll (htakes zone hzone) (of_decide_eq_true rfl) _)

/-! ## What the getters tell of a message -/

/-- A wrapper tells what every converter sets in it, and the member. -/
theorem read_wrapper {type : MessageType} {node : Str} {timestampUs : Nat}
    (htakes : api.Takes (wrapperFields type node timestampUs)) (ht : timestampUs < 2 ^ 64) (x : schema.Member .wrapper)
    (edit : api.Message (schema.kindOf x) → api.Message (schema.kindOf x)) :
    let w := api.mutable (api.setAll (api.new .wrapper) (wrapperFields type node timestampUs)) x edit
    api.get w .type = type ∧ api.get w .timestamp = fromUs (toInt64 timestampUs) ∧
      ∀ read, readMember api w x read = some (read timestampUs node (edit (api.new (schema.kindOf x)))) := by
  obtain ⟨htype, hnode, htimestamp, -⟩ := h.shows_setAll htakes (of_decide_eq_true rfl) (api.new .wrapper)
  have hnone := (h.member_setAll (api.new .wrapper) (wrapperFields type node timestampUs) x).trans (h.member_new x)
  dsimp only at htype hnode htimestamp ⊢
  refine ⟨(h.get_mutable _ _ _ _).trans htype, (h.get_mutable _ _ _ _).trans htimestamp, fun read => ?_⟩
  unfold readMember
  rw [h.member_mutable_of_none hnone, h.get_mutable, h.get_mutable, htimestamp, hnode, Timestamp.us_fromUs ht]
  rfl

theorem readPtp4l_setAll {stats : Ptp4lStats} {node : Str}
    (hfits : (AdapterCall.sendPtpStatistics stats node).Fits api) :
    readPtp4l api stats.timestampUs node (api.setAll (api.new .ptp4l) (ptp4lFields stats)) =
      .sendPtpStatistics { stats with unit := [] } node := by
  obtain ⟨hdelay, hfrequency, hoffset, hstate, -⟩ := h.shows_setAll hfits.2 (of_decide_eq_true rfl) (api.new .ptp4l)
  unfold readPtp4l
  rw [hdelay, hfrequency, hoffset, hstate]

theorem readPhc2sys_setAll {stats : Phc2SysStats} {node : Str}
    (hfits : (AdapterCall.sendPhc2sysStatistics stats node).Fits api) :
    readPhc2sys api stats.timestampUs node (api.setAll (api.new .phc2sys) (phc2sysFields stats)) =
      .sendPhc2sysStatistics { stats with unit := [] } node := by
  obtain ⟨hdelay, hfrequency, hoffset, hstate, -⟩ := h.shows_setAll hfits.2 (of_decide_eq_true rfl) (api.new .phc2sys)
  unfold readPhc2sys
  rw [hdelay, hfrequency, hoffset, hstate]

theorem readPps_setAll {stats : PPSStats} {node : Str} (hfits : (AdapterCall.sendPpsStatistics stats node).Fits api) :
    readPps api stats.timestampUs node (api.setAll (api.new .pps) (ppsFields stats)) =
      .sendPpsStatistics { stats with unit := [] } node := by
  obtain ⟨hoffset, -⟩ := h.shows_setAll hfits.2 (of_decide_eq_true rfl) (api.new .pps)
  unfold readPps
  rw [hoffset]

theorem readSystem_groups {stats : SystemStats} {node : Str}
    (hfits : (AdapterCall.sendSysStatistics stats node).Fits api) :
    readSystem api stats.timestampUs node (systemGroups api stats (api.new .system)) =
      .sendSysStatistics stats node := by
  obtain ⟨-, hcpu, hmemory, hnetwork, htemperature⟩ := hfits
  have hgroup : ∀ {α : Type} {value : Option α} {f : α → α}, (∀ a ∈ value, f a = a) → value.map f = value := by
    intro α value f hf
    rw [Option.map_congr hf, Option.map_id']
  have hcpus : (api.member (systemGroups api stats (api.new .system)) .cpuStats).map (readCpu api) =
      stats.cpuStats := by
    rw [member_cpuStats h, Option.map_map]
    exact hgroup fun cpu ha => readCpu_of_shows (h.shows_setAll (hcpu cpu ha) (of_decide_eq_true rfl) _)
  have hmemories : (api.member (systemGroups api stats (api.new .system)) .memoryStats).map (readMemory api) =
      stats.memoryStats := by
    rw [member_memoryStats h, Option.map_map]
    exact hgroup fun memory ha => readMemory_of_shows (h.shows_setAll (hmemory memory ha) (of_decide_eq_true rfl) _)
  have hnetworks : (api.member (systemGroups api stats (api.new .system)) .networkStats).map (readNetwork api) =
      stats.networkStats := by
    rw [member_networkStats h, Option.map_map]
    exact hgroup fun network ha => readNetwork_of_shows (h.shows_setAll (hnetwork network ha) (of_decide_eq_true rfl) _)
  have htemperatures : (api.member (systemGroups api stats (api.new .system)) .temperatureStats).map
      (readTemperature api) = stats.temperatureStats := by
    rw [member_temperatureStats h, Option.map_map]
    exact hgroup fun temperature ha => readTemperature_addFor h (htemperature temperature ha)
  unfold readSystem
  rw [hcpus, hmemories, hnetworks, htemperatures]

theorem readPortEvent_setAll {event : PortEvent} {node : Str}
    (hfits : (AdapterCall.sendPtp4lPortEvent event node).Fits api) :
    readPortEvent api event.timestampUs node (api.setAll (api.new .ptp4lPortEvent) (portEventFields event)) =
      .sendPtp4lPortEvent { event with unit := [] } node := by
  obtain ⟨hport, hinterface, hfrom, hto, hadapter, htrigger, -⟩ :=
    h.shows_setAll hfits.2 (of_decide_eq_true rfl) (api.new .ptp4lPortEvent)
  unfold readPortEvent
  rw [hport, hinterface, hfrom, hto, hadapter, htrigger]

theorem readTopology_addFor {snapshot : PtpTopologySnapshotData} {node : Str}
    (hfits : (AdapterCall.sendPtpTopologySnapshot snapshot node).Fits api) :
    readTopology api snapshot.timestampUs node
        (api.addFor (api.setAll (api.new .ptpTopology) (topologyFields snapshot)) () snapshot.ports
          fun port topologyPort => api.setAll topologyPort (portFields port)) =
      .sendPtpTopologySnapshot snapshot node := by
  obtain ⟨-, htakes, hports⟩ := hfits
  obtain ⟨hlocal, hparent, hparentPort, hgrandmaster, hsteps, hdelay, hchild, -⟩ :=
    h.shows_setAll htakes (of_decide_eq_true rfl) (api.new .ptpTopology)
  have hread : (api.elements (api.addFor (api.setAll (api.new .ptpTopology) (topologyFields snapshot)) () snapshot.ports
      fun port topologyPort => api.setAll topologyPort (portFields port)) ()).map (readPort api) = snapshot.ports := by
    rw [h.elements_addFor, h.elements_setAll, h.elements_new, List.nil_append, List.map_map]
    refine (List.map_congr_left fun port hport => ?_).trans (List.map_id _)
    exact readPort_of_shows (h.shows_setAll (hports port hport) (of_decide_eq_true rfl) _)
  unfold readTopology
  rw [hread]
  simp only [h.get_addFor]
  rw [hlocal, hparent, hparentPort, hgrandmaster, hsteps, hdelay, hchild]

/-- The getters give a call back, but for the unit. -/
theorem read_message {call : AdapterCall} (hfits : call.Fits api) (ht : call.timestampUs < 2 ^ 64) :
    read api (call.message api) = some call.withoutUnit ∧
      api.get (call.message api) .timestamp = fromUs (toInt64 call.timestampUs) := by
  cases call with
  | sendPtpStatistics stats node =>
    obtain ⟨htype, htimestamp, hread⟩ := read_wrapper h hfits.1 ht .ptp4l _
    exact ⟨(congrArg (readAs api _) htype).trans ((hread _).trans (congrArg some (readPtp4l_setAll h hfits))),
      htimestamp⟩
  | sendPhc2sysStatistics stats node =>
    obtain ⟨htype, htimestamp, hread⟩ := read_wrapper h hfits.1 ht .phc2sys _
    exact ⟨(congrArg (readAs api _) htype).trans ((hread _).trans (congrArg some (readPhc2sys_setAll h hfits))),
      htimestamp⟩
  | sendPpsStatistics stats node =>
    obtain ⟨htype, htimestamp, hread⟩ := read_wrapper h hfits.1 ht .pps _
    exact ⟨(congrArg (readAs api _) htype).trans ((hread _).trans (congrArg some (readPps_setAll h hfits))),
      htimestamp⟩
  | sendSysStatistics stats node =>
    obtain ⟨htype, htimestamp, hread⟩ := read_wrapper h hfits.1 ht .system _
    exact ⟨(congrArg (readAs api _) htype).trans ((hread _).trans (congrArg some (readSystem_groups h hfits))),
      htimestamp⟩
  | sendPtp4lPortEvent event node =>
    obtain ⟨htype, htimestamp, hread⟩ := read_wrapper h hfits.1 ht .ptp4lPortEvent _
    exact ⟨(congrArg (readAs api _) htype).trans ((hread _).trans (congrArg some (readPortEvent_setAll h hfits))),
      htimestamp⟩
  | sendPtpTopologySnapshot snapshot node =>
    obtain ⟨htype, htimestamp, hread⟩ := read_wrapper h hfits.1 ht .ptpTopology _
    exact ⟨(congrArg (readAs api _) htype).trans ((hread _).trans (congrArg some (readTopology_addFor h hfits))),
      htimestamp⟩

end

end MetricsWrapper

namespace AdapterCall

open MetricsWrapper

@[simp] theorem message_withoutUnit (api : Accessors schema) (call : AdapterCall) :
    call.withoutUnit.message api = call.message api := by
  cases call <;> rfl

/-- Whatever the accessors are, as long as they are lawful and the fields can hold the values: a message tells
all of its call but the unit; and in this range the order of the times is that of the timestamps, which are
valid. -/
theorem message_faithful {api : Accessors schema} (h : api.Lawful) {a b : AdapterCall} (hfa : a.Fits api)
    (hfb : b.Fits api) (ha : a.timestampUs < 2 ^ 64) (hb : b.timestampUs < 2 ^ 64) :
    MetricsWrapper.read api (a.message api) = some a.withoutUnit ∧
      (a.message api = b.message api ↔ a.withoutUnit = b.withoutUnit) ∧
      (b.timestampUs < 2 ^ 63 → (api.get (b.message api) .timestamp : Timestamp).Valid ∧
        (a.timestampUs < b.timestampUs →
          (api.get (a.message api) .timestamp : Timestamp).Before (api.get (b.message api) .timestamp))) := by
  obtain ⟨hread, htimestamp⟩ := read_message h hfa ha
  obtain ⟨hread', htimestamp'⟩ := read_message h hfb hb
  refine ⟨hread, ⟨fun heq => ?_, fun heq => ?_⟩, fun hrange => ⟨?_, fun hlt => ?_⟩⟩
  · rw [heq, hread'] at hread
    exact (Option.some.inj hread).symm
  · rw [← message_withoutUnit api a, heq, message_withoutUnit]
  · rw [htimestamp', toInt64_of_lt hrange]
    exact fromUs_valid (by omega)
  · rw [htimestamp, htimestamp', toInt64_of_lt hrange, toInt64_of_lt (by omega)]
    exact fromUs_before (by omega)

/-- A snapshot with two readings and a group that is absent, and a later record. -/
def twoZones : AdapterCall :=
  .sendSysStatistics
    { timestampUs := 5, cpuStats := none, memoryStats := some ⟨1, 2, 3, 4, 5⟩, networkStats := none,
      temperatureStats := some { zonesReadings := [⟨"nvme".toList, "Composite".toList, 41⟩,
        ⟨"coretemp".toList, [], -3⟩] } } "node".toList

def laterPps : AdapterCall := .sendPpsStatistics { unit := "ppswatch".toList, timestampUs := 6, offset := -7 } []

theorem message_faithful_tree :
    MetricsWrapper.read (.tree schema) (twoZones.message (.tree schema)) = some twoZones ∧
      ((Accessors.tree schema).get (twoZones.message (.tree schema)) .timestamp : Timestamp).Before
        ((Accessors.tree schema).get (laterPps.message (.tree schema)) .timestamp) := by
  have htakes : ∀ {k : Kind} (writes : schema.Writes k), (Accessors.tree schema).Takes writes :=
    fun _ _ _ => trivial
  have hfaithful := message_faithful (a := twoZones) (b := laterPps) (Accessors.tree_lawful schema)
    ⟨htakes _, fun _ _ => htakes _, fun _ _ => htakes _, fun _ _ => htakes _, fun _ _ _ _ => htakes _⟩
    ⟨htakes _, htakes _⟩ (by decide) (by decide)
  exact ⟨hfaithful.1, (hfaithful.2.2 (by decide)).2 (by decide)⟩

end AdapterCall

end TimeAgent
