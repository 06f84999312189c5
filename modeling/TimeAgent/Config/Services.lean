/-
From the services of the document to the collectors `main` creates: one entry for each service, one
call of `makeCollector` for each enabled one, and the arguments the subprocesses are started with.
Only the branch of ppswatch reads the device.
-/
import TimeAgent.Config.Loader
import TimeAgent.Lib.Assoc

namespace TimeAgent.Config

open CText CYaml Assoc

/-! ## Creating collectors -/

/-- A collector by what its constructor is given. -/
inductive Collector
  | journal (unit : Str)
  | subprocess (cmd : Str) (args : List Str)
  deriving DecidableEq

/-- What the constructor of a collector throws, `none` when it returns. -/
abbrev Throws := Collector → Option Str

/-- `std::make_unique` of a collector. -/
def makeUnique (throws : Throws) (collector : Collector) : Except Str Collector :=
  match throws collector with
  | some text => .error text
  | none => .ok collector

def makeCollector (throws : Throws) (cfg : ServiceConfig) : Except Str Collector :=
  let unknown := .error ("Unknown service: ".toList ++ cfg.name)
  if cfg.name = "ptp4l".toList then
    if cfg.source = "subproccess".toList then
      makeUnique throws (.subprocess "ptp4l".toList
        ["/usr/bin/stdbuf".toList, "-oL".toList, "ptp4l".toList, "-i".toList, cfg.dev, "-s".toList, "-m".toList])
    else if cfg.source = "journal".toList then makeUnique throws (.journal "ptp4l".toList)
    else unknown
  else if cfg.name = "phc2sys".toList then
    if cfg.source = "subproccess".toList then
      makeUnique throws (.subprocess "phc2sys".toList
        ["/usr/bin/stdbuf".toList, "-oL".toList, "/usr/local/sbin/phc2sys".toList, "-a".toList, "-r".toList, "-r".toList,
          "-m".toList, "--free_running".toList, "1".toList, "-l 6".toList])
    else if cfg.source = "journal".toList then makeUnique throws (.journal "phc2sys".toList)
    else unknown
  else if cfg.name = "ppswatch".toList then
    if cfg.source = "subproccess".toList then
      makeUnique throws (.subprocess "ppswatch".toList
        ["/usr/bin/stdbuf".toList, "-oL".toList, "/usr/bin/ppswatch".toList, cfg.dev])
    else unknown
  else unknown

/-- The calls of `makeCollector`, and the map of the collectors it returned. -/
structure Started where
  calls : List ServiceConfig := []
  collectors : List (Str × Collector) := []

/-- The body of the loop in `main`, which goes on to the next service when a call throws. -/
def startService (throws : Throws) (started : Started) (cfg : ServiceConfig) : Started :=
  if cfg.on then
    match makeCollector throws cfg with
    | .ok collector =>
      { calls := started.calls ++ [cfg], collectors := assign started.collectors cfg.name collector }
    | .error _ => { started with calls := started.calls ++ [cfg] }
  else started

def startServices (throws : Throws) (service : List ServiceConfig) : Started :=
  service.foldl (startService throws) {}

/-- The write to the map that a service is worth. -/
def built (throws : Throws) (cfg : ServiceConfig) : Option (Str × Collector) :=
  if cfg.on then (makeCollector throws cfg).toOption.map fun collector => (cfg.name, collector) else none

theorem startService_eq (throws : Throws) (started : Started) (cfg : ServiceConfig) :
    startService throws started cfg =
      { calls := started.calls ++ if cfg.on then [cfg] else [],
        collectors := assignAll started.collectors (built throws cfg).toList } := by
  unfold startService built
  cases cfg.on with
  | false => simp [assignAll]
  | true => cases makeCollector throws cfg <;> simp [assignAll, Except.toOption]

theorem foldl_startService (throws : Throws) (service : List ServiceConfig) (started : Started) :
    service.foldl (startService throws) started =
      { calls := started.calls ++ service.filter (·.on),
        collectors := assignAll started.collectors (service.filterMap (built throws)) } := by
  induction service generalizing started with
  | nil => simp [assignAll]
  | cons cfg service ih =>
    rw [List.foldl_cons, ih, startService_eq]
    cases hon : cfg.on <;> cases hbuilt : built throws cfg <;> simp [hon, hbuilt, assignAll]

/-- Each enabled service is one call; the map keeps what the calls returned. -/
theorem startServices_eq (throws : Throws) (service : List ServiceConfig) :
    startServices throws service =
      { calls := service.filter (·.on), collectors := lastOnly (service.filterMap (built throws)) } := by
  rw [startServices, foldl_startService, assignAll_nil]
  rfl

/-- A subprocess of ptp4l or ppswatch is started with the device. -/
theorem dev_mem_args {throws : Throws} {cfg : ServiceConfig} {cmd : Str} {args : List Str}
    (h : makeCollector throws cfg = .ok (.subprocess cmd args))
    (hname : cfg.name ∈ ["ptp4l".toList, "ppswatch".toList]) : cfg.dev ∈ args := by
  have hmake : ∀ {c}, makeUnique throws c = .ok (.subprocess cmd args) → c = .subprocess cmd args := by
    intro c hc
    unfold makeUnique at hc
    cases hthrows : throws c <;> rw [hthrows] at hc <;> cases hc
    rfl
  rw [List.mem_cons, List.mem_singleton] at hname
  unfold makeCollector at h
  rcases hname with hname | hname
  -- the branch of ptp4l; the journal collector is no subprocess
  · rw [if_pos hname] at h
    split at h
    · cases hmake h
      simp
    · split at h
      · cases hmake h
      · cases h
  · rw [if_neg (by rw [hname]; decide), if_neg (by rw [hname]; decide), if_pos hname] at h
    split at h
    · cases hmake h
      simp
    · cases h

/-- With every constructor returning, a service of either that runs as a subprocess gets one. -/
theorem exists_makeCollector {throws : Throws} {cfg : ServiceConfig} (hthrows : ∀ collector, throws collector = none)
    (hsource : cfg.source = "subproccess".toList) (hname : cfg.name ∈ ["ptp4l".toList, "ppswatch".toList]) :
    ∃ args, makeCollector throws cfg = .ok (.subprocess cfg.name args) := by
  have hmake : ∀ c, makeUnique throws c = .ok c := by
    intro c
    unfold makeUnique
    rw [hthrows]
  rw [List.mem_cons, List.mem_singleton] at hname
  unfold makeCollector
  rcases hname with hname | hname
  · rw [if_pos hname, if_pos hsource, hmake, hname]
    exact ⟨_, rfl⟩
  · rw [if_neg (by rw [hname]; decide), if_neg (by rw [hname]; decide), if_pos hname, if_pos hsource, hmake, hname]
    exact ⟨_, rfl⟩

theorem built_eq_some {throws : Throws} {cfg : ServiceConfig} {name : Str} {collector : Collector} :
    built throws cfg = some (name, collector) ↔
      cfg.on = true ∧ cfg.name = name ∧ makeCollector throws cfg = .ok collector := by
  unfold built
  cases cfg.on <;> cases makeCollector throws cfg <;> simp [Except.toOption]

/-- Under the name of a single entry stands what the entry is worth. -/
theorem mem_collectors_iff {throws : Throws} {service : List ServiceConfig} {name : Str} {entry : ServiceConfig}
    (hone : service.filter (fun e => e.name = name) = [entry]) {collector : Collector} :
    (name, collector) ∈ (startServices throws service).collectors ↔ built throws entry = some (name, collector) := by
  have hentry : entry ∈ service ∧ entry.name = name := by
    have hmem : entry ∈ service.filter (fun e => e.name = name) := by
      rw [hone]
      exact List.mem_singleton_self entry
    simpa using hmem
  have hbuilt : ∀ {c}, (name, c) ∈ (startServices throws service).collectors → built throws entry = some (name, c) := by
    intro c hc
    rw [startServices_eq] at hc
    obtain ⟨cfg, hcfg, hb⟩ := List.mem_filterMap.1 (lastOnly_subset _ hc)
    have hmem : cfg ∈ service.filter (fun e => e.name = name) := by
      simpa using ⟨hcfg, (built_eq_some.1 hb).2.1⟩
    rw [hone, List.mem_singleton] at hmem
    rw [← hmem]
    exact hb
  constructor
  · exact hbuilt
  · intro hb
    -- the last write under the name stays, and there is only one
    have hwrite : (name, collector) ∈ service.filterMap (built throws) := List.mem_filterMap.2 ⟨entry, hentry.1, hb⟩
    obtain ⟨⟨name', c⟩, hc, hkey⟩ := exists_mem_lastOnly hwrite
    obtain rfl : name' = name := hkey
    have hmem : (name', c) ∈ (startServices throws service).collectors := by
      rw [startServices_eq]
      exact hc
    have heq := hbuilt hmem
    rw [hb] at heq
    cases heq
    exact hmem

/-! ## Entries -/

def serviceNames : List String := ["ptp4l", "phc2sys", "ppswatch"]

variable {conv : Conversions}

/-- The branch of a service. -/
def branch (conv : Conversions) (name : String) : Yaml → Except YamlError ServiceConfig :=
  if name = "ppswatch" then loadPpswatch conv else loadDevless conv name

/-- The loaded services are the entries of the three names, in their order. -/
theorem RootRead.entries {root : Yaml} {config : AgentConfig} (h : RootRead conv root config) :
    ∃ entries : List (String × Option ServiceConfig), entries.map Prod.fst = serviceNames ∧
      config.service = entries.flatMap (fun p => p.2.toList) ∧
      ∀ p ∈ entries, EntryRead (branch conv p.1) (root.find₂ "services" p.1) p.2 := by
  have hservice := h.service
  unfold Yaml.find₂
  cases hfind : root.find "services" with
  | none =>
    rw [hfind] at hservice
    refine ⟨serviceNames.map fun name => (name, none), rfl, hservice, ?_⟩
    intro p hp
    obtain ⟨name, _, rfl⟩ := List.mem_map.1 hp
    rfl
  | some services =>
    rw [hfind] at hservice
    obtain ⟨_, ptp4l, phc2sys, ppswatch, h₁, h₂, h₃, heq⟩ := loadServices_eq_ok.1 hservice
    refine ⟨[("ptp4l", ptp4l), ("phc2sys", phc2sys), ("ppswatch", ppswatch)], rfl, ?_, ?_⟩
    · rw [heq]
      simp
    · simp only [List.forall_mem_cons, List.not_mem_nil, false_imp_iff, implies_true, and_true]
      exact ⟨h₁, h₂, h₃⟩

/-- What a branch reads: everything but the device, and the device in the branch of ppswatch only. -/
theorem branch_eq_ok {name : String} {node : Yaml} {entry : ServiceConfig} (h : branch conv name node = .ok entry) :
    ServiceRead conv name node entry ∧
      (name = "ppswatch" → asNode conv.string (node.find "dev") = .ok entry.dev) ∧
      (name ≠ "ppswatch" → entry.dev = []) := by
  unfold branch at h
  split at h
  · rename_i hname
    subst hname
    obtain ⟨hread, hdev⟩ := loadPpswatch_eq_ok.1 h
    exact ⟨hread, fun _ => hdev, fun hne => absurd rfl hne⟩
  · rename_i hname
    obtain ⟨hread, hdev⟩ := loadDevless_eq_ok.1 h
    exact ⟨hread, fun heq => absurd heq hname, fun _ => hdev⟩

/-- Of entries under different names, the one under `key` is all that has its name. -/
theorem filter_named {entries : List (String × Option ServiceConfig)}
    (hnames : ∀ p ∈ entries, ∀ e ∈ p.2, e.name = p.1.toList) (hnodup : (entries.map Prod.fst).Nodup) {key : String}
    {entry : Option ServiceConfig} (h : (key, entry) ∈ entries) :
    (entries.flatMap fun p => p.2.toList).filter (fun e => e.name = key.toList) = entry.toList := by
  have hother : ∀ {l : List (String × Option ServiceConfig)}, (∀ p ∈ l, ∀ e ∈ p.2, e.name = p.1.toList) →
      key ∉ l.map Prod.fst → (l.flatMap fun p => p.2.toList).filter (fun e => e.name = key.toList) = [] := by
    intro l hl hkey
    rw [List.filter_eq_nil_iff]
    intro e he hename
    obtain ⟨p, hp, hep⟩ := List.mem_flatMap.1 he
    rw [hl p hp e (Option.mem_toList.1 hep), decide_eq_true_eq] at hename
    exact hkey (List.mem_map.2 ⟨p, hp, String.toList_inj.1 hename⟩)
  -- on the entries: the one under `key` is the head or among the rest, never both
  induction entries with
  | nil => cases h
  | cons p entries ih =>
    rw [List.forall_mem_cons] at hnames
    rw [List.map_cons, List.nodup_cons] at hnodup
    rw [List.flatMap_cons, List.filter_append]
    rcases List.mem_cons.1 h with heq | hmem
    · rw [← heq] at hnodup hnames
      rw [← heq, hother hnames.2 hnodup.1, List.append_nil, List.filter_eq_self]
      intro e he
      exact decide_eq_true (hnames.1 e (Option.mem_toList.1 he))
    · have hne : key ≠ p.1 := by
        rintro rfl
        exact hnodup.1 (List.mem_map.2 ⟨_, hmem, rfl⟩)
      have hhead : p.2.toList.filter (fun e => e.name = key.toList) = [] := by
        rw [List.filter_eq_nil_iff]
        intro e he hename
        rw [hnames.1 e (Option.mem_toList.1 he), decide_eq_true_eq, String.toList_inj] at hename
        exact hne hename.symm
      rw [hhead, List.nil_append]
      exact ih hnames.2 hnodup.2 hmem

/-! ## Services as they are written -/

/-- An entry has the values of its node; the device wherever the node has one. -/
structure AsWritten (conv : Conversions) (node : Yaml) (entry : ServiceConfig) : Prop where
  on : entry.on = asOr conv.bool false (node.find "on")
  source : asNode conv.string (node.find "source") = .ok entry.source
  dev : ∀ found ∈ node.find "dev", ∀ text, conv.string found = .ok text → entry.dev = text

/-- The services of the document are what is loaded and what is started. -/
structure ServicesAsWritten (conv : Conversions) (throws : Throws) (root : Yaml) (config : AgentConfig) : Prop where
  present : ∀ name ∈ serviceNames, ∀ node ∈ root.find₂ "services" name,
    ∃ entry, config.service.filter (fun e => e.name = name.toList) = [entry] ∧ AsWritten conv node entry
  absent : ∀ name ∈ serviceNames, root.find₂ "services" name = none → ∀ entry ∈ config.service, entry.name ≠ name.toList
  only : ∀ entry ∈ config.service, ∃ name ∈ serviceNames, entry.name = name.toList
  called : ∀ name ∈ serviceNames, ∀ node ∈ root.find₂ "services" name, asOr conv.bool false (node.find "on") = true →
    ∃ call, (startServices throws config.service).calls.filter (fun e => e.name = name.toList) = [call] ∧
      ∀ found ∈ node.find "dev", ∀ text, conv.string found = .ok text → call.dev = text
  argv : ∀ name ∈ ["ptp4l", "ppswatch"], ∀ node ∈ root.find₂ "services" name, ∀ args,
    (name.toList, .subprocess name.toList args) ∈ (startServices throws config.service).collectors →
    ∀ found ∈ node.find "dev", ∀ text, conv.string found = .ok text → text ∈ args
  spawned : ∀ name ∈ ["ptp4l", "ppswatch"], ∀ node ∈ root.find₂ "services" name,
    asOr conv.bool false (node.find "on") = true → asNode conv.string (node.find "source") = .ok "subproccess".toList →
    (∀ collector, throws collector = none) →
    ∃ args, (name.toList, .subprocess name.toList args) ∈ (startServices throws config.service).collectors

/-- The node of a service has no device, or one without a text. -/
def Devless (conv : Conversions) (root : Yaml) (name : String) : Prop :=
  ∀ node ∈ root.find₂ "services" name, ∀ found ∈ node.find "dev", ∀ text, conv.string found = .ok text → text = []

/-- The one entry of a service that is there. -/
theorem RootRead.entry {root : Yaml} {config : AgentConfig} (h : RootRead conv root config) {name : String}
    (hname : name ∈ serviceNames) :
    ∃ entry, config.service.filter (fun e => e.name = name.toList) = entry.toList ∧
      EntryRead (branch conv name) (root.find₂ "services" name) entry := by
  obtain ⟨entries, hkeys, hservice, hread⟩ := h.entries
  have hnodup : (entries.map Prod.fst).Nodup := by
    rw [hkeys]
    decide
  have hnames : ∀ p ∈ entries, ∀ e ∈ p.2, e.name = p.1.toList := by
    intro p hp e he
    have hentry := hread p hp
    unfold EntryRead at hentry
    split at hentry
    · rw [hentry] at he
      cases he
    · obtain ⟨e', heq, hbranch⟩ := hentry
      rw [heq] at he
      cases he
      exact (branch_eq_ok hbranch).1.name
  rw [← hkeys] at hname
  obtain ⟨⟨key, entry⟩, hmem, rfl⟩ := List.mem_map.1 hname
  refine ⟨entry, ?_, hread _ hmem⟩
  rw [hservice]
  exact filter_named hnames hnodup hmem

theorem RootRead.only {root : Yaml} {config : AgentConfig} (h : RootRead conv root config) {e : ServiceConfig}
    (he : e ∈ config.service) : ∃ name ∈ serviceNames, e.name = name.toList := by
  obtain ⟨entries, hkeys, hservice, hread⟩ := h.entries
  rw [hservice] at he
  obtain ⟨p, hp, hep⟩ := List.mem_flatMap.1 he
  have hentry := hread p hp
  rw [Option.mem_toList.1 hep] at hentry
  unfold EntryRead at hentry
  split at hentry
  · cases hentry
  · obtain ⟨e', heq, hbranch⟩ := hentry
    cases heq
    exact ⟨p.1, hkeys ▸ List.mem_map_of_mem hp, (branch_eq_ok hbranch).1.name⟩

/-- A service that is there has one entry, which its branch read. -/
theorem RootRead.entry_of_node {root : Yaml} {config : AgentConfig} (h : RootRead conv root config) {name : String}
    (hname : name ∈ serviceNames) {node : Yaml} (hnode : node ∈ root.find₂ "services" name) :
    ∃ entry, config.service.filter (fun e => e.name = name.toList) = [entry] ∧ branch conv name node = .ok entry := by
  obtain ⟨entry, hfilter, hread⟩ := h.entry hname
  rw [Option.mem_def.1 hnode] at hread
  obtain ⟨e, rfl, hbranch⟩ := hread
  exact ⟨e, hfilter, hbranch⟩

/-- An entry that is not as written comes from a branch that does not read the device. -/
theorem asWritten_of_devless {name : String} {node : Yaml} {entry : ServiceConfig}
    (hbranch : branch conv name node = .ok entry)
    (hdevless : name ≠ "ppswatch" → ∀ found ∈ node.find "dev", ∀ text, conv.string found = .ok text → text = []) :
    AsWritten conv node entry := by
  obtain ⟨hread, hdev, hnone⟩ := branch_eq_ok hbranch
  refine ⟨hread.on, hread.source, ?_⟩
  intro found hfound text htext
  by_cases hname : name = "ppswatch"
  · obtain ⟨found', hfound', htext'⟩ := asNode_eq_ok.1 (hdev hname)
    obtain rfl : found' = found := Option.some.inj (hfound'.symm.trans hfound)
    rw [htext'] at htext
    exact Except.ok.inj htext
  · rw [hnone hname, hdevless hname found hfound text htext]

/-- With no device at ptp4l and phc2sys, every service that is there has one entry, as written. -/
theorem RootRead.written {root : Yaml} {config : AgentConfig} (h : RootRead conv root config)
    (hdevless : ∀ name ∈ ["ptp4l", "phc2sys"], Devless conv root name) {name : String} (hname : name ∈ serviceNames)
    {node : Yaml} (hnode : node ∈ root.find₂ "services" name) :
    ∃ entry, config.service.filter (fun e => e.name = name.toList) = [entry] ∧ entry.name = name.toList ∧
      AsWritten conv node entry := by
  obtain ⟨entry, hfilter, hbranch⟩ := h.entry_of_node hname hnode
  refine ⟨entry, hfilter, (branch_eq_ok hbranch).1.name, asWritten_of_devless hbranch fun hne => ?_⟩
  refine hdevless name ?_ node hnode
  simp only [serviceNames, List.mem_cons, List.not_mem_nil, or_false] at hname ⊢
  tauto

/-- A service that is not there has no entry. -/
theorem RootRead.absent {root : Yaml} {config : AgentConfig} (h : RootRead conv root config) {name : String}
    (hname : name ∈ serviceNames) (habsent : root.find₂ "services" name = none) {e : ServiceConfig}
    (he : e ∈ config.service) : e.name ≠ name.toList := by
  intro heq
  obtain ⟨entry, hfilter, hread⟩ := h.entry hname
  rw [habsent] at hread
  obtain rfl : entry = none := hread
  have hmem : e ∈ config.service.filter (fun e => e.name = name.toList) := by
    simpa using ⟨he, heq⟩
  rw [hfilter] at hmem
  cases hmem

/-- An entry of ptp4l or phc2sys that is as written shows that its node names no device. -/
theorem RootRead.devless {root : Yaml} {config : AgentConfig} (h : RootRead conv root config) {name : String}
    (hname : name ∈ serviceNames) (hne : name ≠ "ppswatch")
    (hwritten : ∀ node ∈ root.find₂ "services" name, ∃ entry,
      config.service.filter (fun e => e.name = name.toList) = [entry] ∧ AsWritten conv node entry) :
    Devless conv root name := by
  intro node hnode found hfound text htext
  obtain ⟨entry, hfilter, hbranch⟩ := h.entry_of_node hname hnode
  obtain ⟨entry', hfilter', hentry⟩ := hwritten node hnode
  rw [hfilter] at hfilter'
  cases hfilter'
  rw [← hentry.dev found hfound text htext, (branch_eq_ok hbranch).2.2 hne]

/-- For every accepted document: the services are loaded and started as they are written exactly when
neither ptp4l nor phc2sys names a device. -/
theorem servicesAsWritten_iff {root : Yaml} {config : AgentConfig} (h : load conv (some root) = some config)
    (throws : Throws) :
    ServicesAsWritten conv throws root config ↔ ∀ name ∈ ["ptp4l", "phc2sys"], Devless conv root name := by
  have hroot := load_some_iff.1 h
  constructor
  · intro hwritten name hname
    have hmem : name ∈ serviceNames ∧ name ≠ "ppswatch" := by
      simp only [List.mem_cons, List.not_mem_nil, or_false] at hname
      rcases hname with rfl | rfl <;> decide
    exact hroot.devless hmem.1 hmem.2 (hwritten.present name hmem.1)
  · intro hdevless
    -- the services whose subprocess is given a device
    have hspawning : ∀ name ∈ ["ptp4l", "ppswatch"], name ∈ serviceNames := by decide
    have hnamed : ∀ name ∈ ["ptp4l", "ppswatch"], name.toList ∈ ["ptp4l".toList, "ppswatch".toList] :=
      fun name hname => List.mem_map_of_mem hname
    refine ⟨?_, fun name hname habsent e he => hroot.absent hname habsent he, fun entry he => hroot.only he, ?_, ?_, ?_⟩
    · intro name hname node hnode
      obtain ⟨entry, hfilter, _, hwritten⟩ := hroot.written hdevless hname hnode
      exact ⟨entry, hfilter, hwritten⟩
    · intro name hname node hnode hon
      obtain ⟨entry, hfilter, _, hwritten⟩ := hroot.written hdevless hname hnode
      refine ⟨entry, ?_, hwritten.dev⟩
      rw [startServices_eq, List.filter_comm, hfilter]
      exact List.filter_cons_of_pos (hwritten.on.trans hon)
    · intro name hname node hnode args hargs found hfound text htext
      obtain ⟨entry, hfilter, heq, hwritten⟩ := hroot.written hdevless (hspawning name hname) hnode
      obtain ⟨_, _, hmake⟩ := built_eq_some.1 ((mem_collectors_iff hfilter).1 hargs)
      rw [← hwritten.dev found hfound text htext]
      exact dev_mem_args hmake (heq ▸ hnamed name hname)
    · intro name hname node hnode hon hsource hthrows
      obtain ⟨entry, hfilter, heq, hwritten⟩ := hroot.written hdevless (hspawning name hname) hnode
      have hsub : entry.source = "subproccess".toList := Except.ok.inj (hwritten.source.symm.trans hsource)
      obtain ⟨args, hmake⟩ := exists_makeCollector hthrows hsub (heq ▸ hnamed name hname)
      rw [heq] at hmake
      exact ⟨args, (mem_collectors_iff hfilter).2 (built_eq_some.2 ⟨hwritten.on.trans hon, heq, hmake⟩)⟩

/-- ptp4l as a subprocess on a device. -/
def onDevice : Yaml := .map [
  (.scalar "services".toList, .map [
    (.scalar "ptp4l".toList, .map [
      (.scalar "on".toList, .scalar "true".toList),
      (.scalar "source".toList, .scalar "subproccess".toList),
      (.scalar "dev".toList, .scalar "eth0".toList)])])]

/-- It is accepted, and ptp4l is started with an empty device. -/
theorem onDevice_not_asWritten :
    ∃ config, load .plain (some onDevice) = some config ∧
      ¬ ServicesAsWritten .plain (fun _ => none) onDevice config := by
  have hservice : (load .plain (some onDevice)).map AgentConfig.service =
      some [{ on := true, name := "ptp4l".toList, source := "subproccess".toList }] := by decide +kernel
  obtain ⟨config, hload, hservice⟩ := Option.map_eq_some_iff.1 hservice
  refine ⟨config, hload, fun h => ?_⟩
  obtain ⟨entry, hentry, hwritten⟩ := h.present "ptp4l" (by decide) _ rfl
  have hdev := hwritten.dev (.scalar "eth0".toList) rfl "eth0".toList rfl
  rw [hservice] at hentry
  cases hentry
  cases hdev

/-- ptp4l from the journal, and ppswatch on a device. -/
def onPps : Yaml := .map [
  (.scalar "services".toList, .map [
    (.scalar "ptp4l".toList, .map [
      (.scalar "on".toList, .scalar "true".toList),
      (.scalar "source".toList, .scalar "journal".toList)]),
    (.scalar "ppswatch".toList, .map [
      (.scalar "on".toList, .scalar "true".toList),
      (.scalar "source".toList, .scalar "subproccess".toList),
      (.scalar "dev".toList, .scalar "/dev/pps0".toList)])])]

def onPpsConfig : AgentConfig where
  service := [
    { on := true, name := "ptp4l".toList, source := "journal".toList },
    { on := true, name := "ppswatch".toList, source := "subproccess".toList, dev := "/dev/pps0".toList }]

theorem servicesAsWritten_iff_pps :
    ServicesAsWritten .plain (fun _ => none) onPps onPpsConfig ↔
      ∀ name ∈ ["ptp4l", "phc2sys"], Devless .plain onPps name :=
  servicesAsWritten_iff rfl _

end TimeAgent.Config
