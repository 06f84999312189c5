/-
Loading as an overlay: which documents are accepted, and when what is loaded is the document over the
default configuration with every integer determined. Only the members with an initialiser have a
value of their own; the others are what the document says, or whatever was on the stack.
-/
import TimeAgent.Config.Loader

namespace TimeAgent.Config

open CText CYaml

variable {conv : Conversions}

/-! ## What is accepted -/

/-- An element of `sensors`: a node, with a name that is a string if it has one. -/
def SensorTyped (conv : Conversions) (sensor : Option Yaml) : Prop :=
  ∃ node ∈ sensor, node.Subscriptable ∧ Typed conv.string (node.find "name")

/-- Under a service: a source, which is a string. -/
def ServiceTyped (conv : Conversions) (node : Yaml) : Prop :=
  node.Subscriptable ∧ Given conv.string (node.find "source")

/-- The nodes the loader looks at have the types it wants. -/
structure WellTyped (conv : Conversions) (root : Yaml) : Prop where
  subscriptable : root.Subscriptable
  global : ∀ part ∈ root.find "global", part.Subscriptable ∧ Typed conv.string (part.find "node")
  settings : ∀ part ∈ root.find "settings", part.Subscriptable ∧
    Typed conv.int (part.find "poll_timeout_ms") ∧ Typed conv.string (part.find "log_level") ∧
    Typed conv.int (part.find "sys_metric_update_freq")
  temperature : ∀ part ∈ root.find "temperature", part.Subscriptable ∧
    ∀ sensors ∈ part.find "sensors", ∀ sensor ∈ sensors.elements, SensorTyped conv sensor
  zmq : ∀ part ∈ root.find "zmq", part.Subscriptable ∧ Typed conv.string (part.find "endpoint") ∧
    Typed conv.int (part.find "queue_size") ∧ Typed conv.int (part.find "timeout_after_close_ms")
  ptpTopology : ∀ part ∈ root.find "ptp_topology", part.Subscriptable ∧
    Typed conv.bool (part.find "on") ∧ Typed conv.string (part.find "pmc_path") ∧
    Typed conv.string (part.find "uds_path") ∧ Typed conv.string (part.find "config_path") ∧
    Typed conv.int (part.find "domain_number") ∧ Typed conv.int (part.find "boundary_hops")
  services : ∀ part ∈ root.find "services", part.Subscriptable ∧
    (∀ node ∈ part.find "ptp4l", ServiceTyped conv node) ∧
    (∀ node ∈ part.find "phc2sys", ServiceTyped conv node) ∧
    ∀ node ∈ part.find "ppswatch", ServiceTyped conv node ∧ Given conv.string (node.find "dev")

theorem typed_member {node : Option Yaml} : Typed conv.member node ↔ Typed conv.int node := by
  have hconv : ∀ found, (∃ x, conv.member found = .ok x) ↔ ∃ x, conv.int found = .ok x := by
    intro found
    unfold Conversions.member
    cases conv.int found <;> simp [bind, Except.bind, pure, Except.pure]
  unfold Typed
  simp only [hconv]

theorem exists_loadGlobal {old : GlobalConfig} {global : Yaml} :
    (∃ config, loadGlobal conv old global = .ok config) ↔
      global.Subscriptable ∧ Typed conv.string (global.find "node") := by
  simp only [loadGlobal_eq_ok]
  constructor
  · rintro ⟨config, hnode, hread⟩
    exact ⟨hnode, hread.typed⟩
  · rintro ⟨hnode, htyped⟩
    obtain ⟨node, hread⟩ := htyped.reads old.node
    exact ⟨⟨node⟩, hnode, hread⟩

theorem exists_loadSettings {old : MonitoringConfig} {settings : Yaml} :
    (∃ config, loadSettings conv old settings = .ok config) ↔
      settings.Subscriptable ∧ Typed conv.int (settings.find "poll_timeout_ms") ∧
        Typed conv.string (settings.find "log_level") ∧ Typed conv.int (settings.find "sys_metric_update_freq") := by
  simp only [loadSettings_eq_ok, ← typed_member]
  constructor
  · rintro ⟨config, hnode, hpoll, hlevel, hfreq⟩
    exact ⟨hnode, hpoll.typed, hlevel.typed, hfreq.typed⟩
  · rintro ⟨hnode, hpoll, hlevel, hfreq⟩
    obtain ⟨poll, hpoll⟩ := hpoll.reads old.pollTimeoutMs
    obtain ⟨level, hlevel⟩ := hlevel.reads old.logLevel
    obtain ⟨freq, hfreq⟩ := hfreq.reads old.sysMetricUpdateFreq
    exact ⟨⟨poll, freq, level⟩, hnode, hpoll, hlevel, hfreq⟩

theorem exists_loadZmq {old : ZMQConfig} {zmq : Yaml} :
    (∃ config, loadZmq conv old zmq = .ok config) ↔
      zmq.Subscriptable ∧ Typed conv.string (zmq.find "endpoint") ∧ Typed conv.int (zmq.find "queue_size") ∧
        Typed conv.int (zmq.find "timeout_after_close_ms") := by
  simp only [loadZmq_eq_ok, ← typed_member]
  constructor
  · rintro ⟨config, hnode, hendpoint, hqueue, htimeout⟩
    exact ⟨hnode, hendpoint.typed, hqueue.typed, htimeout.typed⟩
  · rintro ⟨hnode, hendpoint, hqueue, htimeout⟩
    obtain ⟨endpoint, hendpoint⟩ := hendpoint.reads old.endpoint
    obtain ⟨queue, hqueue⟩ := hqueue.reads old.queueSize
    obtain ⟨timeout, htimeout⟩ := htimeout.reads old.timeoutAfterCloseMs
    exact ⟨⟨endpoint, queue, timeout⟩, hnode, hendpoint, hqueue, htimeout⟩

theorem exists_loadPtpTopology {old : PtpTopologyConfig} {topology : Yaml} :
    (∃ config, loadPtpTopology conv old topology = .ok config) ↔
      topology.Subscriptable ∧ Typed conv.bool (topology.find "on") ∧ Typed conv.string (topology.find "pmc_path") ∧
        Typed conv.string (topology.find "uds_path") ∧ Typed conv.string (topology.find "config_path") ∧
        Typed conv.int (topology.find "domain_number") ∧ Typed conv.int (topology.find "boundary_hops") := by
  simp only [loadPtpTopology_eq_ok]
  constructor
  · rintro ⟨config, hnode, hon, hpmc, huds, hpath, hdomain, hhops⟩
    exact ⟨hnode, hon.typed, hpmc.typed, huds.typed,
      hpath.typed, hdomain.typed, hhops.typed⟩
  · rintro ⟨hnode, hon, hpmc, huds, hpath, hdomain, hhops⟩
    obtain ⟨on, hon⟩ := hon.reads old.on
    obtain ⟨pmc, hpmc⟩ := hpmc.reads old.pmcPath
    obtain ⟨uds, huds⟩ := huds.reads old.udsPath
    obtain ⟨path, hpath⟩ := hpath.reads old.configPath
    obtain ⟨domain, hdomain⟩ := hdomain.reads old.domainNumber
    obtain ⟨hops, hhops⟩ := hhops.reads old.boundaryHops
    exact ⟨⟨on, pmc, uds, path, domain, hops⟩, hnode, hon, hpmc, huds, hpath, hdomain, hhops⟩

/-- Whether a sensor is accepted does not depend on the sensors before it. -/
theorem exists_loadSensor (old : TemperatureCollectorConfig) {sensor : Option Yaml} :
    (∃ config, loadSensor conv old sensor = .ok config) ↔ SensorTyped conv sensor := by
  unfold loadSensor SensorTyped
  cases sensor with
  | none => simp [bind_eq_ok, getIn]
  | some node =>
    simp only [bind_eq_ok, getIn, get_eq_ok, Option.mem_def, Option.some.injEq, exists_eq_left']
    constructor
    · rintro ⟨config, _, ⟨hnode, rfl⟩, hname⟩
      refine ⟨hnode, ?_⟩
      rintro name hfind
      rw [hfind] at hname
      simp only [bind_eq_ok] at hname
      obtain ⟨text, htext, _⟩ := hname
      exact ⟨text, htext⟩
    · rintro ⟨hnode, htyped⟩
      cases hfind : node.find "name" with
      | none => exact ⟨old, none, ⟨hnode, rfl⟩, rfl⟩
      | some name =>
        obtain ⟨text, htext⟩ := htyped name hfind
        refine ⟨{ sensors := old.sensors.insert text }, some name, ⟨hnode, rfl⟩, ?_⟩
        simp only [bind_eq_ok, pure_eq_ok]
        exact ⟨text, htext, rfl⟩

theorem exists_loadSensors (old : TemperatureCollectorConfig) {sensors : List (Option Yaml)} :
    (∃ config, sensors.foldlM (loadSensor conv) old = .ok config) ↔ ∀ sensor ∈ sensors, SensorTyped conv sensor := by
  induction sensors generalizing old with
  | nil =>
    simp only [List.foldlM_nil, pure_eq_ok]
    exact iff_of_true ⟨old, rfl⟩ nofun
  | cons sensor sensors ih =>
    simp only [List.foldlM_cons, bind_eq_ok, List.forall_mem_cons]
    constructor
    · rintro ⟨config, next, hsensor, hrest⟩
      exact ⟨(exists_loadSensor old).1 ⟨next, hsensor⟩, (ih next).1 ⟨config, hrest⟩⟩
    · rintro ⟨hsensor, hrest⟩
      obtain ⟨next, hnext⟩ := (exists_loadSensor old).2 hsensor
      obtain ⟨config, hconfig⟩ := (ih next).2 hrest
      exact ⟨config, next, hnext, hconfig⟩

theorem exists_loadTemperature {old : TemperatureCollectorConfig} {temperature : Yaml} :
    (∃ config, loadTemperature conv old temperature = .ok config) ↔
      temperature.Subscriptable ∧
        ∀ sensors ∈ temperature.find "sensors", ∀ sensor ∈ sensors.elements, SensorTyped conv sensor := by
  unfold loadTemperature
  simp only [setting_eq_ok, exists_and_left, exists_reads, Typed, exists_loadSensors]

theorem exists_entryRead (read : Yaml → Except YamlError ServiceConfig) (node : Option Yaml) :
    (∃ entry, EntryRead read node entry) ↔ ∀ found ∈ node, ∃ e, read found = .ok e := by
  cases node with
  | none => simp [EntryRead]
  | some found =>
    simp only [EntryRead, Option.mem_def, Option.some.injEq, forall_eq']
    constructor
    · rintro ⟨_, e, _, he⟩
      exact ⟨e, he⟩
    · rintro ⟨e, he⟩
      exact ⟨some e, e, rfl, he⟩

theorem exists_asNode {α : Type} {read : Yaml → Except YamlError α} {node : Option Yaml} :
    (∃ value, asNode read node = .ok value) ↔ Given read node := by
  cases node <;> simp [asNode, Given]

theorem exists_loadDevless {name : String} {node : Yaml} :
    (∃ entry, loadDevless conv name node = .ok entry) ↔ ServiceTyped conv node := by
  simp only [loadDevless_eq_ok]
  constructor
  · rintro ⟨entry, ⟨hnode, _, _, hsource⟩, _⟩
    exact ⟨hnode, exists_asNode.1 ⟨_, hsource⟩⟩
  · rintro ⟨hnode, hgiven⟩
    obtain ⟨source, hsource⟩ := exists_asNode.2 hgiven
    exact ⟨⟨_, _, source, []⟩, ⟨hnode, rfl, rfl, hsource⟩, rfl⟩

theorem exists_loadPpswatch {node : Yaml} :
    (∃ entry, loadPpswatch conv node = .ok entry) ↔
      ServiceTyped conv node ∧ Given conv.string (node.find "dev") := by
  simp only [loadPpswatch_eq_ok]
  constructor
  · rintro ⟨entry, ⟨hnode, _, _, hsource⟩, hdev⟩
    exact ⟨⟨hnode, exists_asNode.1 ⟨_, hsource⟩⟩, exists_asNode.1 ⟨_, hdev⟩⟩
  · rintro ⟨⟨hnode, hgiven⟩, hdev⟩
    obtain ⟨source, hsource⟩ := exists_asNode.2 hgiven
    obtain ⟨dev, hdev⟩ := exists_asNode.2 hdev
    exact ⟨⟨_, _, source, dev⟩, ⟨hnode, rfl, rfl, hsource⟩, hdev⟩

theorem exists_loadServices {old : List ServiceConfig} {services : Yaml} :
    (∃ service, loadServices conv old services = .ok service) ↔
      services.Subscriptable ∧ (∀ node ∈ services.find "ptp4l", ServiceTyped conv node) ∧
        (∀ node ∈ services.find "phc2sys", ServiceTyped conv node) ∧
        ∀ node ∈ services.find "ppswatch", ServiceTyped conv node ∧ Given conv.string (node.find "dev") := by
  have hptp4l := exists_entryRead (loadPtp4l conv) (services.find "ptp4l")
  have hphc2sys := exists_entryRead (loadPhc2sys conv) (services.find "phc2sys")
  have hppswatch := exists_entryRead (loadPpswatch conv) (services.find "ppswatch")
  simp only [loadPtp4l, loadPhc2sys, exists_loadDevless, exists_loadPpswatch] at hptp4l hphc2sys hppswatch
  simp only [loadServices_eq_ok, ← hptp4l, ← hphc2sys, ← hppswatch]
  constructor
  · rintro ⟨service, hnode, e₁, e₂, e₃, h₁, h₂, h₃, _⟩
    exact ⟨hnode, ⟨e₁, h₁⟩, ⟨e₂, h₂⟩, ⟨e₃, h₃⟩⟩
  · rintro ⟨hnode, ⟨e₁, h₁⟩, ⟨e₂, h₂⟩, ⟨e₃, h₃⟩⟩
    exact ⟨_, hnode, e₁, e₂, e₃, h₁, h₂, h₃, rfl⟩

/-- A document is accepted exactly when it is well typed. -/
theorem exists_loadRoot {root : Yaml} : (∃ config, loadRoot conv root = .ok config) ↔ WellTyped conv root := by
  simp only [loadRoot_eq_ok]
  constructor
  · rintro ⟨config, hnode, h₁, h₂, h₃, h₄, h₅, h₆⟩
    refine ⟨hnode, ?_, ?_, ?_, ?_, ?_, ?_⟩
    · exact fun part hpart => exists_loadGlobal.1 (h₁.typed part hpart)
    · exact fun part hpart => exists_loadSettings.1 (h₂.typed part hpart)
    · exact fun part hpart => exists_loadTemperature.1 (h₃.typed part hpart)
    · exact fun part hpart => exists_loadZmq.1 (h₄.typed part hpart)
    · exact fun part hpart => exists_loadPtpTopology.1 (h₅.typed part hpart)
    · exact fun part hpart => exists_loadServices.1 (h₆.typed part hpart)
  · rintro ⟨hnode, h₁, h₂, h₃, h₄, h₅, h₆⟩
    have hglobal : Typed (loadGlobal conv {}) (root.find "global") :=
      fun part hpart => exists_loadGlobal.2 (h₁ part hpart)
    have hsettings : Typed (loadSettings conv {}) (root.find "settings") :=
      fun part hpart => exists_loadSettings.2 (h₂ part hpart)
    have htemperature : Typed (loadTemperature conv {}) (root.find "temperature") :=
      fun part hpart => exists_loadTemperature.2 (h₃ part hpart)
    have hzmq : Typed (loadZmq conv {}) (root.find "zmq") := fun part hpart => exists_loadZmq.2 (h₄ part hpart)
    have htopology : Typed (loadPtpTopology conv {}) (root.find "ptp_topology") :=
      fun part hpart => exists_loadPtpTopology.2 (h₅ part hpart)
    have hservices : Typed (loadServices conv []) (root.find "services") :=
      fun part hpart => exists_loadServices.2 (h₆ part hpart)
    -- the sections are read one after the other, each from its own default
    obtain ⟨global, hglobal⟩ := hglobal.reads {}
    obtain ⟨settings, hsettings⟩ := hsettings.reads {}
    obtain ⟨temperature, htemperature⟩ := htemperature.reads {}
    obtain ⟨zmq, hzmq⟩ := hzmq.reads {}
    obtain ⟨topology, htopology⟩ := htopology.reads {}
    obtain ⟨services, hservices⟩ := hservices.reads []
    exact ⟨⟨global, settings, services, temperature, zmq, topology⟩, hnode, hglobal, hsettings, htemperature, hzmq,
      htopology, hservices⟩

theorem exists_load {root : Yaml} : (∃ config, load conv (some root) = some config) ↔ WellTyped conv root := by
  simp only [load_some_iff, ← loadRoot_eq_ok, exists_loadRoot]

/-! ## The overlay -/

/-- Every scalar setting is the document's where its key is present, and that of `base` where it is
absent. -/
structure Overlays (conv : Conversions) (root : Yaml) (base config : AgentConfig) : Prop where
  pollTimeoutMs : Reads conv.member (root.find₂ "settings" "poll_timeout_ms") base.monitorConfig.pollTimeoutMs
    config.monitorConfig.pollTimeoutMs
  sysMetricUpdateFreq : Reads conv.member (root.find₂ "settings" "sys_metric_update_freq")
    base.monitorConfig.sysMetricUpdateFreq config.monitorConfig.sysMetricUpdateFreq
  logLevel : Reads conv.string (root.find₂ "settings" "log_level") base.monitorConfig.logLevel
    config.monitorConfig.logLevel
  endpoint : Reads conv.string (root.find₂ "zmq" "endpoint") base.configZMQ.endpoint config.configZMQ.endpoint
  queueSize : Reads conv.member (root.find₂ "zmq" "queue_size") base.configZMQ.queueSize config.configZMQ.queueSize
  timeoutAfterCloseMs : Reads conv.member (root.find₂ "zmq" "timeout_after_close_ms")
    base.configZMQ.timeoutAfterCloseMs config.configZMQ.timeoutAfterCloseMs
  on : Reads conv.bool (root.find₂ "ptp_topology" "on") base.configPtpTopology.on config.configPtpTopology.on
  pmcPath : Reads conv.string (root.find₂ "ptp_topology" "pmc_path") base.configPtpTopology.pmcPath
    config.configPtpTopology.pmcPath
  udsPath : Reads conv.string (root.find₂ "ptp_topology" "uds_path") base.configPtpTopology.udsPath
    config.configPtpTopology.udsPath
  configPath : Reads conv.string (root.find₂ "ptp_topology" "config_path") base.configPtpTopology.configPath
    config.configPtpTopology.configPath
  domainNumber : Reads conv.int (root.find₂ "ptp_topology" "domain_number") base.configPtpTopology.domainNumber
    config.configPtpTopology.domainNumber
  boundaryHops : Reads conv.int (root.find₂ "ptp_topology" "boundary_hops") base.configPtpTopology.boundaryHops
    config.configPtpTopology.boundaryHops

/-- No `int` is indeterminate. -/
structure AgentConfig.Determinate (config : AgentConfig) : Prop where
  pollTimeoutMs : config.monitorConfig.pollTimeoutMs ≠ none
  sysMetricUpdateFreq : config.monitorConfig.sysMetricUpdateFreq ≠ none
  queueSize : config.configZMQ.queueSize ≠ none
  timeoutAfterCloseMs : config.configZMQ.timeoutAfterCloseMs ≠ none

/-- What `Agent` sleeps for, and the high-water mark and the linger time of `ZMQAdapter`. -/
structure Used where
  pollTimeoutMs : Int
  sndhwm : Int
  linger : Int
  deriving DecidableEq

/-- An indeterminate member has the value that was on the stack. -/
def AgentConfig.used (stack : Used) (config : AgentConfig) : Used where
  pollTimeoutMs := config.monitorConfig.pollTimeoutMs.getD stack.pollTimeoutMs
  sndhwm := config.configZMQ.queueSize.getD stack.sndhwm
  linger := config.configZMQ.timeoutAfterCloseMs.getD stack.linger

theorem AgentConfig.Determinate.used_eq {config : AgentConfig} (h : config.Determinate) (stack stack' : Used) :
    config.used stack = config.used stack' := by
  obtain ⟨poll, hpoll⟩ := Option.ne_none_iff_exists'.1 h.pollTimeoutMs
  obtain ⟨queue, hqueue⟩ := Option.ne_none_iff_exists'.1 h.queueSize
  obtain ⟨timeout, htimeout⟩ := Option.ne_none_iff_exists'.1 h.timeoutAfterCloseMs
  unfold AgentConfig.used
  rw [hpoll, hqueue, htimeout]
  rfl

/-- Loading lays the document over the default configuration, and determines every integer. -/
structure LoadsOverlay (conv : Conversions) (file : Option Yaml) : Prop where
  overlays : ∀ root config, file = some root → load conv file = some config → Overlays conv root defaultConfig config
  determinate : ∀ config, load conv file = some config → config.Determinate
  orDefault : (loadOrDefault conv file).Determinate
  used : ∀ stack stack', (loadOrDefault conv file).used stack = (loadOrDefault conv file).used stack'

/-- The document has the keys of the members that no initialiser and no default serves. -/
structure GivesAll (root : Yaml) : Prop where
  pollTimeoutMs : (root.find₂ "settings" "poll_timeout_ms").isSome = true
  sysMetricUpdateFreq : (root.find₂ "settings" "sys_metric_update_freq").isSome = true
  logLevel : (root.find₂ "settings" "log_level").isSome = true
  queueSize : (root.find₂ "zmq" "queue_size").isSome = true
  timeoutAfterCloseMs : (root.find₂ "zmq" "timeout_after_close_ms").isSome = true

/-- What is loaded lies over the members' initial values. -/
theorem RootRead.overlays {root : Yaml} {config : AgentConfig} (h : RootRead conv root config) :
    Overlays conv root {} config where
  pollTimeoutMs := h.monitorConfig.field MonitoringConfig.pollTimeoutMs
    fun _ hload => (loadSettings_eq_ok.1 hload).pollTimeoutMs
  sysMetricUpdateFreq := h.monitorConfig.field MonitoringConfig.sysMetricUpdateFreq
    fun _ hload => (loadSettings_eq_ok.1 hload).sysMetricUpdateFreq
  logLevel := h.monitorConfig.field MonitoringConfig.logLevel fun _ hload => (loadSettings_eq_ok.1 hload).logLevel
  endpoint := h.configZMQ.field ZMQConfig.endpoint fun _ hload => (loadZmq_eq_ok.1 hload).endpoint
  queueSize := h.configZMQ.field ZMQConfig.queueSize fun _ hload => (loadZmq_eq_ok.1 hload).queueSize
  timeoutAfterCloseMs := h.configZMQ.field ZMQConfig.timeoutAfterCloseMs
    fun _ hload => (loadZmq_eq_ok.1 hload).timeoutAfterCloseMs
  on := h.configPtpTopology.field PtpTopologyConfig.on fun _ hload => (loadPtpTopology_eq_ok.1 hload).on
  pmcPath := h.configPtpTopology.field PtpTopologyConfig.pmcPath fun _ hload => (loadPtpTopology_eq_ok.1 hload).pmcPath
  udsPath := h.configPtpTopology.field PtpTopologyConfig.udsPath fun _ hload => (loadPtpTopology_eq_ok.1 hload).udsPath
  configPath := h.configPtpTopology.field PtpTopologyConfig.configPath
    fun _ hload => (loadPtpTopology_eq_ok.1 hload).configPath
  domainNumber := h.configPtpTopology.field PtpTopologyConfig.domainNumber
    fun _ hload => (loadPtpTopology_eq_ok.1 hload).domainNumber
  boundaryHops := h.configPtpTopology.field PtpTopologyConfig.boundaryHops
    fun _ hload => (loadPtpTopology_eq_ok.1 hload).boundaryHops

/-- A member that starts out indeterminate is determined by its key and nothing else. -/
theorem reads_member_iff {node : Option Yaml} {value : Option Int} (h : Reads conv.member node none value) :
    value ≠ none ↔ node.isSome = true := by
  cases node with
  | none =>
    rw [show value = none from h]
    simp
  | some found =>
    obtain ⟨n, _, hn⟩ := bind_eq_ok.1 (show conv.member found = .ok value from h)
    rw [← pure_eq_ok.1 hn]
    simp

/-- A value that the base does not have comes from the document. -/
theorem reads_isSome {α : Type} {read : Yaml → Except YamlError α} {node : Option Yaml} {old old' value : α}
    (h : Reads read node old value) (h' : Reads read node old' value) (hne : old ≠ old') : node.isSome = true := by
  cases node with
  | none => exact absurd (h.symm.trans h') hne
  | some found => rfl

/-- The document lies over the default configuration with all integers determined exactly when it has
the five keys. -/
theorem Overlays.default_iff {root : Yaml} {config : AgentConfig} (h : Overlays conv root {} config) :
    Overlays conv root defaultConfig config ∧ config.Determinate ↔ GivesAll root := by
  constructor
  · rintro ⟨hdefault, hpoll, hfreq, hqueue, htimeout⟩
    exact ⟨(reads_member_iff h.pollTimeoutMs).1 hpoll, (reads_member_iff h.sysMetricUpdateFreq).1 hfreq,
      reads_isSome h.logLevel hdefault.logLevel (by decide), (reads_member_iff h.queueSize).1 hqueue,
      (reads_member_iff h.timeoutAfterCloseMs).1 htimeout⟩
  · rintro ⟨hpoll, hfreq, hlevel, hqueue, htimeout⟩
    constructor
    · exact { h with
        pollTimeoutMs := h.pollTimeoutMs.of_isSome hpoll
        logLevel := h.logLevel.of_isSome hlevel }
    · exact ⟨(reads_member_iff h.pollTimeoutMs).2 hpoll, (reads_member_iff h.sysMetricUpdateFreq).2 hfreq,
        (reads_member_iff h.queueSize).2 hqueue, (reads_member_iff h.timeoutAfterCloseMs).2 htimeout⟩

/-- The default configuration has indeterminate members of its own. -/
theorem defaultConfig_not_determinate : ¬ defaultConfig.Determinate := by
  intro h
  exact h.queueSize rfl

/-- For whatever lies under the path: loading is the document over the default configuration, without
indeterminate integers, exactly when the document is there, is well typed and has the five keys. -/
theorem loadsOverlay_iff (conv : Conversions) (file : Option Yaml) :
    LoadsOverlay conv file ↔ ∃ root, file = some root ∧ WellTyped conv root ∧ GivesAll root := by
  constructor
  · rintro ⟨hoverlays, hdeterminate, horDefault, _⟩
    cases hload : load conv file with
    | none =>
      -- without a configuration the defaults are taken, which leave three integers open
      rw [loadOrDefault, hload] at horDefault
      exact absurd horDefault defaultConfig_not_determinate
    | some config =>
      cases file with
      | none => cases hload
      | some root =>
        have hread := load_some_iff.1 hload
        refine ⟨root, rfl, exists_load.1 ⟨config, hload⟩, ?_⟩
        exact hread.overlays.default_iff.1 ⟨hoverlays root config rfl hload, hdeterminate config hload⟩
  · rintro ⟨root, rfl, htyped, hgives⟩
    obtain ⟨config, hload⟩ := exists_load.2 htyped
    obtain ⟨hoverlays, hdeterminate⟩ := (load_some_iff.1 hload).overlays.default_iff.2 hgives
    have horDefault : loadOrDefault conv (some root) = config := by
      rw [loadOrDefault, hload]
      rfl
    refine ⟨?_, ?_, ?_, ?_⟩
    · rintro root' config' hroot hconfig
      cases hroot
      rw [hload] at hconfig
      cases hconfig
      exact hoverlays
    · intro config' hconfig
      rw [hload] at hconfig
      cases hconfig
      exact hdeterminate
    · rw [horDefault]
      exact hdeterminate
    · rw [horDefault]
      exact hdeterminate.used_eq

/-- A document with every setting of the agent and its socket but the poll timeout. -/
def unpolled : Yaml := .map [
  (.scalar "settings".toList, .map [
    (.scalar "log_level".toList, .scalar "debug".toList),
    (.scalar "sys_metric_update_freq".toList, .scalar "5".toList)]),
  (.scalar "zmq".toList, .map [
    (.scalar "endpoint".toList, .scalar "tcp://localhost:5555".toList),
    (.scalar "queue_size".toList, .scalar "100".toList),
    (.scalar "timeout_after_close_ms".toList, .scalar "1000".toList)])]

/-- It is accepted, and the agent sleeps for whatever was on the stack. -/
theorem unpolled_not_overlay : ¬ LoadsOverlay .plain (some unpolled) := by
  intro h
  have hpoll : (load .plain (some unpolled)).map (fun c => c.monitorConfig.pollTimeoutMs) = some none := by
    decide +kernel
  obtain ⟨config, hload, hnone⟩ := Option.map_eq_some_iff.1 hpoll
  exact (h.determinate config hload).pollTimeoutMs hnone

end TimeAgent.Config
