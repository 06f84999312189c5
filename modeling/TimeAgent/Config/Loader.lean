/-
`ConfigLoader`: the sections of config.yaml, each read into its own part of the configuration. An
`int` without an initialiser is `none` until it is assigned. Which documents are accepted is a
matter of the types of their nodes, and what is loaded lies over the members' initial values.
-/
import TimeAgent.Lib.Yaml
import TimeAgent.Topology.Parser

namespace TimeAgent.Config

open CText CYaml

/-! ## Configuration -/

structure GlobalConfig where
  node : Str := []

/-- A service's collector; `on` has no initialiser, and every branch of the loader assigns it. -/
structure ServiceConfig where
  on : Bool
  name : Str := []
  source : Str := []
  dev : Str := []
  deriving DecidableEq

structure MonitoringConfig where
  pollTimeoutMs : Option Int := none
  sysMetricUpdateFreq : Option Int := none
  logLevel : Str := []

structure TemperatureCollectorConfig where
  sensors : List Str := []

structure ZMQConfig where
  endpoint : Str := []
  queueSize : Option Int := none
  timeoutAfterCloseMs : Option Int := none

structure AgentConfig where
  globalConfig : GlobalConfig := {}
  monitorConfig : MonitoringConfig := {}
  service : List ServiceConfig := []
  configTemperatureCollector : TemperatureCollectorConfig := {}
  configZMQ : ZMQConfig := {}
  configPtpTopology : PtpTopologyConfig := {}

/-! ## Loading -/

/-- `as<std::string>()`, `as<int>()` and `as<bool>()` of a node. -/
structure Conversions where
  string : Yaml → Except YamlError Str
  int : Yaml → Except YamlError Int
  bool : Yaml → Except YamlError Bool

section Load

variable (conv : Conversions)

/-- An `int` read into a member that may be indeterminate. -/
def Conversions.member (node : Yaml) : Except YamlError (Option Int) := do
  return some (← conv.int node)

def loadGlobal (config : GlobalConfig) (global : Yaml) : Except YamlError GlobalConfig := do
  let node ← setting conv.string global "node" config.node
  return { node }

def loadSettings (config : MonitoringConfig) (settings : Yaml) : Except YamlError MonitoringConfig := do
  let pollTimeoutMs ← setting conv.member settings "poll_timeout_ms" config.pollTimeoutMs
  let logLevel ← setting conv.string settings "log_level" config.logLevel
  let sysMetricUpdateFreq ← setting conv.member settings "sys_metric_update_freq" config.sysMetricUpdateFreq
  return { pollTimeoutMs, sysMetricUpdateFreq, logLevel }

def loadSensor (config : TemperatureCollectorConfig) (sensor : Option Yaml) :
    Except YamlError TemperatureCollectorConfig := do
  match ← getIn sensor "name" with
  | none => return config
  | some name => return { sensors := config.sensors.insert (← conv.string name) }

def loadTemperature (config : TemperatureCollectorConfig) (temperature : Yaml) :
    Except YamlError TemperatureCollectorConfig :=
  setting (fun sensors => sensors.elements.foldlM (loadSensor conv) config) temperature "sensors" config

def loadZmq (config : ZMQConfig) (zmq : Yaml) : Except YamlError ZMQConfig := do
  let endpoint ← setting conv.string zmq "endpoint" config.endpoint
  let queueSize ← setting conv.member zmq "queue_size" config.queueSize
  let timeoutAfterCloseMs ← setting conv.member zmq "timeout_after_close_ms" config.timeoutAfterCloseMs
  return { endpoint, queueSize, timeoutAfterCloseMs }

def loadPtpTopology (config : PtpTopologyConfig) (topology : Yaml) : Except YamlError PtpTopologyConfig := do
  let on ← setting conv.bool topology "on" config.on
  let pmcPath ← setting conv.string topology "pmc_path" config.pmcPath
  let udsPath ← setting conv.string topology "uds_path" config.udsPath
  let configPath ← setting conv.string topology "config_path" config.configPath
  let domainNumber ← setting conv.int topology "domain_number" config.domainNumber
  let boundaryHops ← setting conv.int topology "boundary_hops" config.boundaryHops
  return { on, pmcPath, udsPath, configPath, domainNumber, boundaryHops }

/-- The branches of ptp4l and phc2sys, which read no `dev`. -/
def loadDevless (name : String) (node : Yaml) : Except YamlError ServiceConfig := do
  let on := asOr conv.bool false (← node.get "on")
  let source ← asNode conv.string (← node.get "source")
  return { name := name.toList, on, source }

def loadPtp4l : Yaml → Except YamlError ServiceConfig := loadDevless conv "ptp4l"

def loadPhc2sys : Yaml → Except YamlError ServiceConfig := loadDevless conv "phc2sys"

def loadPpswatch (node : Yaml) : Except YamlError ServiceConfig := do
  let on := asOr conv.bool false (← node.get "on")
  let dev ← asNode conv.string (← node.get "dev")
  let source ← asNode conv.string (← node.get "source")
  return { name := "ppswatch".toList, on, dev, source }

/-- `if (services[name]) { ..; config.service.push_back(..); }`. -/
def pushService (load : Yaml → Except YamlError ServiceConfig) (services : Yaml) (name : String)
    (service : List ServiceConfig) : Except YamlError (List ServiceConfig) :=
  setting (fun node => do return service ++ [← load node]) services name service

def loadServices (service : List ServiceConfig) (services : Yaml) : Except YamlError (List ServiceConfig) := do
  let service ← pushService (loadPtp4l conv) services "ptp4l" service
  let service ← pushService (loadPhc2sys conv) services "phc2sys" service
  pushService (loadPpswatch conv) services "ppswatch" service

/-- The sections in their order. Looking a key up in `root` may turn it into a map, with nothing in
it that a later lookup finds. -/
def loadRoot (root : Yaml) : Except YamlError AgentConfig := do
  let config : AgentConfig := {}
  let globalConfig ← setting (loadGlobal conv config.globalConfig) root "global" config.globalConfig
  let monitorConfig ← setting (loadSettings conv config.monitorConfig) root "settings" config.monitorConfig
  let configTemperatureCollector ← setting (loadTemperature conv config.configTemperatureCollector) root "temperature"
    config.configTemperatureCollector
  let configZMQ ← setting (loadZmq conv config.configZMQ) root "zmq" config.configZMQ
  let configPtpTopology ← setting (loadPtpTopology conv config.configPtpTopology) root "ptp_topology"
    config.configPtpTopology
  let service ← setting (loadServices conv config.service) root "services" config.service
  return { globalConfig, monitorConfig, service, configTemperatureCollector, configZMQ, configPtpTopology }

/-- `ConfigLoader::load` of a path under which `YAML::LoadFile` gives `file`, `none` when it throws. -/
def load (file : Option Yaml) : Option AgentConfig :=
  match file with
  | none => none
  | some root => (loadRoot conv root).toOption

def defaultConfig : AgentConfig where
  monitorConfig := { pollTimeoutMs := some 1000, logLevel := "info".toList }

def loadOrDefault (file : Option Yaml) : AgentConfig := (load conv file).getD defaultConfig

end Load

/-- Plain decimal numbers, `true` and `false`, and the text of any scalar. -/
def Conversions.plain : Conversions where
  string
    | .scalar text => .ok text
    | _ => .error .badConversion
  int
    | .scalar text =>
      match CNum.fromCharsInt text with
      | .ok (value, []) => .ok value
      | _ => .error .badConversion
    | _ => .error .badConversion
  bool
    | .scalar text =>
      if text = "true".toList then .ok true
      else if text = "false".toList then .ok false
      else .error .badConversion
    | _ => .error .badConversion

/-! ## What each section reads -/

variable {conv : Conversions}

structure MonitoringRead (conv : Conversions) (old config : MonitoringConfig) (settings : Yaml) : Prop where
  subscriptable : settings.Subscriptable
  pollTimeoutMs : Reads conv.member (settings.find "poll_timeout_ms") old.pollTimeoutMs config.pollTimeoutMs
  logLevel : Reads conv.string (settings.find "log_level") old.logLevel config.logLevel
  sysMetricUpdateFreq :
    Reads conv.member (settings.find "sys_metric_update_freq") old.sysMetricUpdateFreq config.sysMetricUpdateFreq

structure ZmqRead (conv : Conversions) (old config : ZMQConfig) (zmq : Yaml) : Prop where
  subscriptable : zmq.Subscriptable
  endpoint : Reads conv.string (zmq.find "endpoint") old.endpoint config.endpoint
  queueSize : Reads conv.member (zmq.find "queue_size") old.queueSize config.queueSize
  timeoutAfterCloseMs :
    Reads conv.member (zmq.find "timeout_after_close_ms") old.timeoutAfterCloseMs config.timeoutAfterCloseMs

structure TopologyRead (conv : Conversions) (old config : PtpTopologyConfig) (topology : Yaml) : Prop where
  subscriptable : topology.Subscriptable
  on : Reads conv.bool (topology.find "on") old.on config.on
  pmcPath : Reads conv.string (topology.find "pmc_path") old.pmcPath config.pmcPath
  udsPath : Reads conv.string (topology.find "uds_path") old.udsPath config.udsPath
  configPath : Reads conv.string (topology.find "config_path") old.configPath config.configPath
  domainNumber : Reads conv.int (topology.find "domain_number") old.domainNumber config.domainNumber
  boundaryHops : Reads conv.int (topology.find "boundary_hops") old.boundaryHops config.boundaryHops

theorem loadGlobal_eq_ok {old config : GlobalConfig} {global : Yaml} :
    loadGlobal conv old global = .ok config ↔
      global.Subscriptable ∧ Reads conv.string (global.find "node") old.node config.node := by
  unfold loadGlobal
  simp only [bind_eq_ok, setting_eq_ok, pure_eq_ok]
  constructor
  · rintro ⟨node, hnode, rfl⟩
    exact hnode
  · intro h
    exact ⟨config.node, h, rfl⟩

theorem loadSettings_eq_ok {old config : MonitoringConfig} {settings : Yaml} :
    loadSettings conv old settings = .ok config ↔ MonitoringRead conv old config settings := by
  unfold loadSettings
  simp only [bind_eq_ok, setting_eq_ok, pure_eq_ok]
  constructor
  · rintro ⟨poll, ⟨hnode, hpoll⟩, level, ⟨_, hlevel⟩, freq, ⟨_, hfreq⟩, rfl⟩
    exact ⟨hnode, hpoll, hlevel, hfreq⟩
  · rintro ⟨hnode, hpoll, hlevel, hfreq⟩
    exact ⟨_, ⟨hnode, hpoll⟩, _, ⟨hnode, hlevel⟩, _, ⟨hnode, hfreq⟩, rfl⟩

theorem loadZmq_eq_ok {old config : ZMQConfig} {zmq : Yaml} :
    loadZmq conv old zmq = .ok config ↔ ZmqRead conv old config zmq := by
  unfold loadZmq
  simp only [bind_eq_ok, setting_eq_ok, pure_eq_ok]
  constructor
  · rintro ⟨endpoint, ⟨hnode, hendpoint⟩, queue, ⟨_, hqueue⟩, timeout, ⟨_, htimeout⟩, rfl⟩
    exact ⟨hnode, hendpoint, hqueue, htimeout⟩
  · rintro ⟨hnode, hendpoint, hqueue, htimeout⟩
    exact ⟨_, ⟨hnode, hendpoint⟩, _, ⟨hnode, hqueue⟩, _, ⟨hnode, htimeout⟩, rfl⟩

theorem loadPtpTopology_eq_ok {old config : PtpTopologyConfig} {topology : Yaml} :
    loadPtpTopology conv old topology = .ok config ↔ TopologyRead conv old config topology := by
  unfold loadPtpTopology
  simp only [bind_eq_ok, setting_eq_ok, pure_eq_ok]
  constructor
  · rintro ⟨on, ⟨hnode, hon⟩, pmc, ⟨_, hpmc⟩, uds, ⟨_, huds⟩, path, ⟨_, hpath⟩, domain, ⟨_, hdomain⟩, hops,
      ⟨_, hhops⟩, rfl⟩
    exact ⟨hnode, hon, hpmc, huds, hpath, hdomain, hhops⟩
  · rintro ⟨hnode, hon, hpmc, huds, hpath, hdomain, hhops⟩
    exact ⟨_, ⟨hnode, hon⟩, _, ⟨hnode, hpmc⟩, _, ⟨hnode, huds⟩, _, ⟨hnode, hpath⟩, _, ⟨hnode, hdomain⟩, _,
      ⟨hnode, hhops⟩, rfl⟩

/-! ## Services -/

/-- The entry of a service that is there, and none of one that is not. -/
def EntryRead (load : Yaml → Except YamlError ServiceConfig) (node : Option Yaml) (entry : Option ServiceConfig) :
    Prop :=
  match node with
  | none => entry = none
  | some found => ∃ e, entry = some e ∧ load found = .ok e

/-- What every branch reads. -/
structure ServiceRead (conv : Conversions) (name : String) (node : Yaml) (entry : ServiceConfig) : Prop where
  subscriptable : node.Subscriptable
  name : entry.name = name.toList
  on : entry.on = asOr conv.bool false (node.find "on")
  source : asNode conv.string (node.find "source") = .ok entry.source

theorem loadDevless_eq_ok {name : String} {node : Yaml} {entry : ServiceConfig} :
    loadDevless conv name node = .ok entry ↔ ServiceRead conv name node entry ∧ entry.dev = [] := by
  unfold loadDevless
  simp only [bind_eq_ok, get_eq_ok, pure_eq_ok]
  constructor
  · rintro ⟨on, ⟨hnode, rfl⟩, source, ⟨_, rfl⟩, text, hsource, rfl⟩
    exact ⟨⟨hnode, rfl, rfl, hsource⟩, rfl⟩
  · rintro ⟨⟨hnode, hname, hon, hsource⟩, hdev⟩
    refine ⟨_, ⟨hnode, rfl⟩, _, ⟨hnode, rfl⟩, entry.source, hsource, ?_⟩
    rw [← hname, ← hon, ← hdev]

theorem loadPpswatch_eq_ok {node : Yaml} {entry : ServiceConfig} :
    loadPpswatch conv node = .ok entry ↔
      ServiceRead conv "ppswatch" node entry ∧ asNode conv.string (node.find "dev") = .ok entry.dev := by
  unfold loadPpswatch
  simp only [bind_eq_ok, get_eq_ok, pure_eq_ok]
  constructor
  · rintro ⟨on, ⟨hnode, rfl⟩, dev, ⟨_, rfl⟩, device, hdev, source, ⟨_, rfl⟩, text, hsource, rfl⟩
    exact ⟨⟨hnode, rfl, rfl, hsource⟩, hdev⟩
  · rintro ⟨⟨hnode, hname, hon, hsource⟩, hdev⟩
    refine ⟨_, ⟨hnode, rfl⟩, _, ⟨hnode, rfl⟩, entry.dev, hdev, _, ⟨hnode, rfl⟩, entry.source, hsource, ?_⟩
    rw [← hname, ← hon]

theorem pushService_eq_ok {read : Yaml → Except YamlError ServiceConfig} {services : Yaml} {name : String}
    {old service : List ServiceConfig} :
    pushService read services name old = .ok service ↔
      services.Subscriptable ∧ ∃ entry, EntryRead read (services.find name) entry ∧ service = old ++ entry.toList := by
  unfold pushService
  rw [setting_eq_ok]
  refine and_congr_right fun _ => ?_
  cases services.find name with
  | none => simp [Reads, EntryRead]
  | some found =>
    simp only [Reads, EntryRead, bind_eq_ok, pure_eq_ok]
    constructor
    · rintro ⟨e, he, rfl⟩
      exact ⟨some e, ⟨e, rfl, he⟩, rfl⟩
    · rintro ⟨_, ⟨e, rfl, he⟩, rfl⟩
      exact ⟨e, he, rfl⟩

theorem loadServices_eq_ok {old service : List ServiceConfig} {services : Yaml} :
    loadServices conv old services = .ok service ↔
      services.Subscriptable ∧ ∃ ptp4l phc2sys ppswatch,
        EntryRead (loadPtp4l conv) (services.find "ptp4l") ptp4l ∧
        EntryRead (loadPhc2sys conv) (services.find "phc2sys") phc2sys ∧
        EntryRead (loadPpswatch conv) (services.find "ppswatch") ppswatch ∧
        service = old ++ ptp4l.toList ++ phc2sys.toList ++ ppswatch.toList := by
  unfold loadServices
  simp only [bind_eq_ok, pushService_eq_ok]
  constructor
  · rintro ⟨_, ⟨hnode, ptp4l, hptp4l, rfl⟩, _, ⟨_, phc2sys, hphc2sys, rfl⟩, _, ppswatch, hppswatch, rfl⟩
    exact ⟨hnode, ptp4l, phc2sys, ppswatch, hptp4l, hphc2sys, hppswatch, rfl⟩
  · rintro ⟨hnode, ptp4l, phc2sys, ppswatch, hptp4l, hphc2sys, hppswatch, rfl⟩
    exact ⟨_, ⟨hnode, ptp4l, hptp4l, rfl⟩, _, ⟨hnode, phc2sys, hphc2sys, rfl⟩, hnode, ppswatch, hppswatch, rfl⟩

/-! ## The document -/

/-- Every section of the document, read over the members' initial values. -/
structure RootRead (conv : Conversions) (root : Yaml) (config : AgentConfig) : Prop where
  subscriptable : root.Subscriptable
  globalConfig : Reads (loadGlobal conv {}) (root.find "global") {} config.globalConfig
  monitorConfig : Reads (loadSettings conv {}) (root.find "settings") {} config.monitorConfig
  temperature : Reads (loadTemperature conv {}) (root.find "temperature") {} config.configTemperatureCollector
  configZMQ : Reads (loadZmq conv {}) (root.find "zmq") {} config.configZMQ
  configPtpTopology : Reads (loadPtpTopology conv {}) (root.find "ptp_topology") {} config.configPtpTopology
  service : Reads (loadServices conv []) (root.find "services") [] config.service

theorem loadRoot_eq_ok {root : Yaml} {config : AgentConfig} :
    loadRoot conv root = .ok config ↔ RootRead conv root config := by
  unfold loadRoot
  simp only [bind_eq_ok, setting_eq_ok, pure_eq_ok]
  constructor
  · rintro ⟨global, ⟨hnode, hglobal⟩, monitor, ⟨_, hmonitor⟩, temperature, ⟨_, htemperature⟩, zmq, ⟨_, hzmq⟩, topology,
      ⟨_, htopology⟩, service, ⟨_, hservice⟩, rfl⟩
    exact ⟨hnode, hglobal, hmonitor, htemperature, hzmq, htopology, hservice⟩
  · rintro ⟨hnode, hglobal, hmonitor, htemperature, hzmq, htopology, hservice⟩
    exact ⟨_, ⟨hnode, hglobal⟩, _, ⟨hnode, hmonitor⟩, _, ⟨hnode, htemperature⟩, _, ⟨hnode, hzmq⟩, _,
      ⟨hnode, htopology⟩, _, ⟨hnode, hservice⟩, rfl⟩

theorem load_some_iff {root : Yaml} {config : AgentConfig} :
    load conv (some root) = some config ↔ RootRead conv root config := by
  rw [← loadRoot_eq_ok]
  unfold load
  dsimp only
  cases loadRoot conv root <;> simp [Except.toOption]

end TimeAgent.Config
