/-
`SysMetricsCollector`: the four collectors over one table of descriptors, from the constructor, whose
scan of the hwmon tree an exception can leave, through any calls of `setInterface` and `collect` to the
destructor. The groups of a snapshot do not depend on each other.
-/
import TimeAgent.Metrics.Baseline
import TimeAgent.Metrics.Bounds
import TimeAgent.Metrics.Calls
import TimeAgent.Metrics.Zones

namespace TimeAgent

open CText CNum Handles

/-! ## The scan of the zones -/

namespace TemperatureCollector

/-- The zones that the second scan of one directory registers, and the exception that leaves it. -/
def scannedZones (statThrows : Str → Bool) (sensor : Str) (dir : HwmonEntry) :
    List Str → List TempZone × Option NumError
  | [] => ([], none)
  | filename :: filenames =>
    match zone statThrows sensor dir filename with
    | .error .filesystem => ([], none)
    | .error (.number e) => ([], some e)
    | .ok z =>
      let (zones, thrown) := scannedZones statThrows sensor dir filenames
      (z.toList ++ zones, thrown)

def scannedSensors (statThrows : Str → Bool) : List (Str × HwmonEntry) → List TempZone × Option NumError
  | [] => ([], none)
  | (sensor, dir) :: rest =>
    match scannedZones statThrows sensor dir dir.yields with
    | (zones, some e) => (zones, some e)
    | (zones, none) =>
      let (more, thrown) := scannedSensors statThrows rest
      (zones ++ more, thrown)

/-- The zones whose descriptors the constructor opens, and the exception that leaves it. -/
def registered (sensors : List Str) (hwmon : Hwmon) (order : MapOrder) : List TempZone × Option NumError :=
  if hwmon.fails then ([], none)
  else scannedSensors hwmon.statThrows (order.order (Assoc.assignAll [] (matching sensors hwmon.entries)))

/-- The result of a scan that is left by an exception is lost. -/
def outcome (scanned : List TempZone × Option NumError) : Except NumError (List TempZone) :=
  match scanned with
  | (zones, none) => .ok zones
  | (_, some e) => .error e

theorem scanZones_eq (statThrows : Str → Bool) (sensor : Str) (dir : HwmonEntry) (filenames : List Str) :
    scanZones statThrows sensor dir filenames = outcome (scannedZones statThrows sensor dir filenames) := by
  induction filenames with
  | nil => rfl
  | cons filename filenames ih =>
    rw [scanZones, scannedZones, ih]
    cases zone statThrows sensor dir filename with
    | error e => cases e <;> rfl
    | ok z =>
      obtain ⟨zones, thrown⟩ := scannedZones statThrows sensor dir filenames
      cases thrown <;> rfl

theorem scanSensors_eq (statThrows : Str → Bool) (l : List (Str × HwmonEntry)) :
    scanSensors statThrows l = outcome (scannedSensors statThrows l) := by
  induction l with
  | nil => rfl
  | cons e l ih =>
    obtain ⟨sensor, dir⟩ := e
    rw [scanSensors, scannedSensors, scanZones_eq, ih]
    obtain ⟨zones, thrown⟩ := scannedZones statThrows sensor dir dir.yields
    cases thrown with
    | some e => rfl
    | none =>
      obtain ⟨more, thrown⟩ := scannedSensors statThrows l
      cases thrown <;> rfl

/-- The constructor returns what it registered, unless an exception leaves it. -/
theorem new_eq (sensors : List Str) (hwmon : Hwmon) (order : MapOrder) :
    new sensors hwmon order = (outcome (registered sensors hwmon order)).map fun tempZones => { tempZones } := by
  unfold new registered
  split
  · rfl
  · rw [scanSensors_eq]
    cases outcome (scannedSensors hwmon.statThrows
      (order.order (Assoc.assignAll [] (matching sensors hwmon.entries)))) <;> rfl

/-- The calls of `open` of the second scan, one for each zone that it registers. -/
def openZones : List TempZone → List Nat → Table Nat Str → Option (List (TempZone × Nat) × Table Nat Str)
  | [], [], files => some ([], files)
  | z :: zones, fd :: fds, files => do
    let files ← files.opens (cstr z.inputPath) (some fd)
    let (opened, files) ← openZones zones fds files
    return ((z, fd) :: opened, files)
  | _, _, _ => none

/-- The descriptors of the zones, each with the file it refers to. -/
def held (zones : List (TempZone × Nat)) : List (Nat × Str) := zones.map fun z => (z.2, cstr z.1.inputPath)

theorem openZones_cons {z : TempZone} {zones : List TempZone} {fd : Nat} {fds : List Nat} {files files' : Table Nat Str}
    {opened : List (TempZone × Nat)} :
    openZones (z :: zones) (fd :: fds) files = some (opened, files') ↔
      ∃ files₁ rest, files.opens (cstr z.inputPath) (some fd) = some files₁ ∧
        openZones zones fds files₁ = some (rest, files') ∧ opened = (z, fd) :: rest := by
  rw [openZones]
  constructor
  · intro h
    obtain ⟨files₁, hfirst, h⟩ := Option.bind_eq_some_iff.1 h
    obtain ⟨⟨rest, files₂⟩, hrest, h⟩ := Option.bind_eq_some_iff.1 h
    cases h
    exact ⟨files₁, rest, hfirst, hrest, rfl⟩
  · rintro ⟨files₁, rest, hfirst, hrest, rfl⟩
    dsimp only
    rw [hfirst, Option.bind_eq_bind, Option.bind_some, hrest]
    rfl

theorem openZones_holds {zones : List TempZone} {fds : List Nat} {files files' : Table Nat Str}
    {opened : List (TempZone × Nat)} {others : List (Nat × Str)} (h : files.Holds others)
    (hopen : openZones zones fds files = some (opened, files')) :
    files'.Holds (others ++ held opened) ∧ opened.map Prod.fst = zones := by
  induction zones generalizing fds files opened others with
  | nil =>
    cases fds with
    | nil =>
      cases hopen
      exact ⟨(List.append_nil others).symm ▸ h, rfl⟩
    | cons fd fds => cases hopen
  | cons z zones ih =>
    cases fds with
    | nil => cases hopen
    | cons fd fds =>
      obtain ⟨files₁, rest, hfirst, hrest, rfl⟩ := openZones_cons.1 hopen
      obtain ⟨hholds, hzones⟩ := ih (h.opens hfirst) hrest
      refine ⟨?_, by rw [List.map_cons, hzones]⟩
      rw [List.append_assoc] at hholds
      exact hholds

end TemperatureCollector

/-! ## The object -/

structure SystemPaths where
  hwmon : Str := "/sys/class/hwmon".toList
  procStat : Str := "/proc/stat".toList
  procMeminfo : Str := "/proc/meminfo".toList
  netStats : Str := "/sys/class/net".toList

/-- The answers to the calls of `open` in the constructors. -/
structure Opens where
  zones : List Nat
  procStat : Option Nat
  procMeminfo : Option Nat

/-- A descriptor as `open` returns it. -/
def fdOf (answer : Option Nat) : Int := (answer.map Int.ofNat).getD (-1)

/-- The table of the network collector is that of all descriptors of the object. -/
structure SysMetricsCollector where
  temperatureCollector : List (TempZone × Nat)
  networkCollector : NetworkCollector.Members
  cpuCollector : CpuCollector
  memoryCollector : MemoryCollector

namespace SysMetricsCollector

def files (s : SysMetricsCollector) : Table Nat Str := s.networkCollector.files

/-- The constructor, over buffers with whatever is in them: the object, or the exception and the
descriptors that it leaves behind. `none` is an answer the system cannot give. -/
def new (sensors : List Str) (paths : SystemPaths) (hwmon : Hwmon) (order : MapOrder) (opens : Opens)
    (cpuBuf memoryBuf : Str) : Option (Except (NumError × Table Nat Str) SysMetricsCollector) := do
  let (zones, thrown) := TemperatureCollector.registered sensors hwmon order
  let (temperatureCollector, files) ← TemperatureCollector.openZones zones opens.zones {}
  match thrown with
  | some e => return .error (e, files)
  | none =>
    let files ← files.opens (cstr paths.procStat) opens.procStat
    let files ← files.opens (cstr paths.procMeminfo) opens.procMeminfo
    return .ok { temperatureCollector, networkCollector := { files },
                 cpuCollector := .new (fdOf opens.procStat) cpuBuf,
                 memoryCollector := { fd := fdOf opens.procMeminfo, buf := memoryBuf } }

def setInterface (netStats : Str) (s : SysMetricsCollector) (interface : Str) (answers : List (Option Nat)) :
    Option SysMetricsCollector :=
  (s.networkCollector.setInterface netStats interface answers).map fun networkCollector => { s with networkCollector }

/-- What a `pread` on a descriptor finds. -/
def contentOf (s : SysMetricsCollector) (content : Nat → Option Str) (fd : Nat) : Option Str :=
  if (s.files.opened fd).isSome then content fd else none

def collectTemperature (s : SysMetricsCollector) (content : Nat → Option Str) : TemperatureStats where
  zonesReadings := s.temperatureCollector.filterMap fun z =>
    (TemperatureCollector.temperature { content := s.contentOf content z.2 }).map fun temp =>
      { sensor := z.1.sensor, label := z.1.label, temperature := temp }

/-- The snapshot, and the object behind it. -/
def collect (s : SysMetricsCollector) (nowUs : Nat) (content : Nat → Option Str) :
    Option (SystemStats × SysMetricsCollector) := do
  let tempMetrics := s.collectTemperature content
  let networkMetrics ← s.networkCollector.collect content
  let (cpuMetrics, cpuCollector) := s.cpuCollector.collect (s.contentOf content s.cpuCollector.fd.toNat)
  let (memoryMetrics, memoryCollector) := s.memoryCollector.collect (s.contentOf content s.memoryCollector.fd.toNat)
  return ({ timestampUs := nowUs, temperatureStats := some tempMetrics, networkStats := networkMetrics,
            cpuStats := cpuMetrics, memoryStats := memoryMetrics },
    { s with cpuCollector, memoryCollector })

/-- The destructor of a collector of one file. -/
def closeFd (files : Table Nat Str) (fd : Int) : Table Nat Str := if fd = -1 then files else files.close fd.toNat

/-- The destructors, the last member first. -/
def destroy (s : SysMetricsCollector) : Table Nat Str :=
  let files := closeFd (closeFd s.files s.memoryCollector.fd) s.cpuCollector.fd
  let files := (NetworkCollector.closeEntries s.networkCollector.metricEntries files).2
  files.closeAll (s.temperatureCollector.map Prod.snd)

inductive Call
  | setInterface (interface : Str) (answers : List (Option Nat))
  | collect (nowUs : Nat) (content : Nat → Option Str)

def call (netStats : Str) (s : SysMetricsCollector) : Call → Option SysMetricsCollector
  | .setInterface interface answers => s.setInterface netStats interface answers
  | .collect nowUs content => (s.collect nowUs content).map Prod.snd

/-- The call on the network collector. -/
def Call.network : Call → NetworkCollector.Members.Call
  | .setInterface interface answers => .setInterface interface answers
  | .collect _ content => .collect content

/-- What the calls find in the file of a descriptor. -/
def contentsAt (calls : List Call) (fd : Int) : List (Option Str) :=
  calls.filterMap fun
    | .setInterface _ _ => none
    | .collect _ content => some (content fd.toNat)

end SysMetricsCollector

/-! ## What the members hold -/

/-- `closeFds` closes what the entries hold, whatever else is open. -/
theorem NetworkCollector.closeEntries_others {entries : List MetricEntry} {files : Table Nat Str}
    {others : List (Nat × Str)} (h : files.Holds (held entries ++ others)) :
    (closeEntries entries files).2.Holds others := by
  induction entries generalizing files with
  | nil => exact h
  | cons entry entries ih =>
    rw [held_cons] at h
    rw [closeEntries]
    cases hfd : entry.fd with
    | none =>
      rw [hfd] at h
      exact ih h
    | some fd =>
      rw [hfd] at h
      exact ih h.close

/-- Over tables in which the same entries are open the loop of `collect` does the same. -/
theorem NetworkCollector.collectEntries_congr {files files' : Table Nat Str} (content : Nat → Option Str)
    {entries : List MetricEntry} (h : ∀ fd file, (fd, file) ∈ held entries →
      (files.opened fd).isSome = (files'.opened fd).isSome) (metrics : NetworkStats) :
    collectEntries files content entries metrics = collectEntries files' content entries metrics := by
  induction entries generalizing metrics with
  | nil => rfl
  | cons entry entries ih =>
    rw [held_cons] at h
    have hrest := ih fun fd file hmem => h fd file (List.mem_append_right _ hmem)
    rw [collectEntries, collectEntries]
    cases hfd : entry.fd with
    | none => rfl
    | some fd =>
      have hread : preadFd files content fd = preadFd files' content fd := by
        unfold preadFd
        rw [h fd (cstr entry.path) (List.mem_append_left _ (by simp [hfd]))]
      dsimp only
      rw [hread]
      cases preadFd files' content fd with
      | none => rfl
      | some data =>
        cases data with
        | nil => rfl
        | cons c data =>
          dsimp only
          cases entry.field with
          | none => rfl
          | some field =>
            cases fromCharsU64 (c :: data) with
            | error e => rfl
            | ok r => exact hrest _

namespace SysMetricsCollector

/-- What a member holds that opened one file, or failed to. -/
def fdHeld (fd : Int) (path : Str) : List (Nat × Str) := if fd = -1 then [] else [(fd.toNat, cstr path)]

/-- The descriptors of the members, the last member first, each with the file it refers to. -/
def owned (paths : SystemPaths) (s : SysMetricsCollector) : List (Nat × Str) :=
  fdHeld s.memoryCollector.fd paths.procMeminfo ++ (fdHeld s.cpuCollector.fd paths.procStat ++
    (NetworkCollector.held s.networkCollector.metricEntries ++ TemperatureCollector.held s.temperatureCollector))

theorem fdHeld_fdOf (answer : Option Nat) (path : Str) :
    fdHeld (fdOf answer) path = (answer.map fun fd => (fd, cstr path)).toList := by
  cases answer with
  | none => rfl
  | some fd =>
    have hne : fdOf (some fd) ≠ -1 := by
      show (fd : Int) ≠ -1
      omega
    unfold fdHeld
    rw [if_neg hne]
    rfl

theorem opened_of_fdHeld {files : Table Nat Str} {fd : Int} {path : Str} {before after : List (Nat × Str)}
    (h : files.Holds (before ++ (fdHeld fd path ++ after))) (hfd : fd ≠ -1) :
    files.opened fd.toNat = some (cstr path) := by
  rw [h.opened]
  unfold fdHeld
  rw [if_neg hfd]
  simp

theorem closeFd_holds {files : Table Nat Str} {fd : Int} {path : Str} {others : List (Nat × Str)}
    (h : files.Holds (fdHeld fd path ++ others)) : (closeFd files fd).Holds others := by
  unfold closeFd
  unfold fdHeld at h
  split at h
  · rename_i hfd
    rw [if_pos hfd]
    exact h
  · rename_i hfd
    rw [if_neg hfd]
    exact h.close

variable {paths : SystemPaths} {s : SysMetricsCollector}

/-- The destructors close everything, each descriptor once. -/
theorem destroy_holds (h : s.files.Holds (s.owned paths)) : s.destroy.Holds [] := by
  have hmemory := closeFd_holds h
  have hcpu := closeFd_holds hmemory
  have hnetwork := NetworkCollector.closeEntries_others hcpu
  rw [← List.append_nil (TemperatureCollector.held s.temperatureCollector)] at hnetwork
  have hzones := hnetwork.closeAll
  rw [TemperatureCollector.held, List.map_map] at hzones
  exact hzones

/-! ## What the calls keep -/

/-- A network collector of its own that was given the same calls. -/
def Alone (paths : SystemPaths) (calls : List Call) (s : SysMetricsCollector) (alone : NetworkCollector.Members) :
    Prop :=
  LTS.run (NetworkCollector.Members.call paths.netStats) {} (calls.map Call.network) = some alone ∧
    alone.interface = s.networkCollector.interface ∧ alone.metricEntries = s.networkCollector.metricEntries

structure Inv (paths : SystemPaths) (s₀ : SysMetricsCollector) (calls : List Call) (s : SysMetricsCollector) :
    Prop where
  holds : s.files.Holds (s.owned paths)
  temperature : s.temperatureCollector = s₀.temperatureCollector
  network : ∃ alone, s.Alone paths calls alone
  cpu : s.cpuCollector = s₀.cpuCollector.run (contentsAt calls s₀.cpuCollector.fd)
  memory : ∃ buf, s.memoryCollector = { s₀.memoryCollector with buf }

variable {s₀ s' : SysMetricsCollector} {calls : List Call}

/-- The network collector's descriptors in front of those of the others. -/
theorem owned_perm (paths : SystemPaths) (s : SysMetricsCollector) :
    (s.owned paths).Perm (NetworkCollector.held s.networkCollector.metricEntries ++
      (fdHeld s.memoryCollector.fd paths.procMeminfo ++ (fdHeld s.cpuCollector.fd paths.procStat ++
        TemperatureCollector.held s.temperatureCollector))) := by
  have hcpu := List.perm_append_comm_assoc (fdHeld s.cpuCollector.fd paths.procStat)
    (NetworkCollector.held s.networkCollector.metricEntries) (TemperatureCollector.held s.temperatureCollector)
  exact (hcpu.append_left _).trans (List.perm_append_comm_assoc ..)

theorem contentsAt_append (calls : List Call) (c : Call) (fd : Int) :
    contentsAt (calls ++ [c]) fd = contentsAt calls fd ++ contentsAt [c] fd := List.filterMap_append

/-- `setInterface` gives the network collector's descriptors for others, and takes none of the other
members'. -/
theorem Inv.setInterface (h : Inv paths s₀ calls s) {interface : Str} {answers : List (Option Nat)}
    (hcall : s.setInterface paths.netStats interface answers = some s') :
    Inv paths s₀ (calls ++ [.setInterface interface answers]) s' := by
  obtain ⟨net, hnet, rfl⟩ := Option.map_eq_some_iff.1 hcall
  obtain ⟨⟨entries, files⟩, hopen, hnet⟩ := Option.bind_eq_some_iff.1 hnet
  cases hnet
  have hclosed := NetworkCollector.closeEntries_others (h.holds.perm (owned_perm paths s))
  obtain ⟨hholds, hlength, hentries⟩ := NetworkCollector.openMetrics_holds hclosed hopen
  -- the same answers serve a collector that has the table to itself
  obtain ⟨alone, hrun, hname, hsame⟩ := h.network
  have hinv := NetworkCollector.Members.inv_of_run hrun
  have hpossible : NetworkCollector.Members.Call.Possible (.setInterface interface answers) := by
    have hsome := (NetworkCollector.openMetrics_isSome_iff _ _ hclosed).1 (Option.isSome_of_eq_some hopen)
    exact ⟨hsome.1, hsome.2.of_append_right⟩
  have hgiven : (alone.setInterface paths.netStats interface answers).isSome := (hinv.call_isSome_iff _).2 hpossible
  obtain ⟨alone', halone⟩ := Option.isSome_iff_exists.1 hgiven
  have hafter := hinv.setInterface halone
  refine ⟨?_, h.temperature, ⟨alone', ?_, hafter.asSet.1, ?_⟩, ?_, h.memory⟩
  · refine Table.Holds.perm ?_ (owned_perm paths _).symm
    exact hholds.perm List.perm_append_comm
  · rw [List.map_append]
    exact LTS.run_append.2 ⟨alone, hrun, LTS.run_cons.2 ⟨alone', halone, rfl⟩⟩
  · rw [hafter.asSet.2.2]
    exact hentries.symm
  · rw [contentsAt_append]
    show s.cpuCollector = s₀.cpuCollector.run (contentsAt calls s₀.cpuCollector.fd ++ [])
    rw [List.append_nil]
    exact h.cpu

theorem contentOf_eq (before : List (Nat × Str)) {after : List (Nat × Str)} {fd : Int} {path : Str}
    (h : s.files.Holds (before ++ (fdHeld fd path ++ after))) (hfd : fd ≠ -1) (content : Nat → Option Str) :
    s.contentOf content fd.toNat = content fd.toNat := by
  unfold contentOf
  rw [opened_of_fdHeld h hfd, Option.isSome_some, if_pos rfl]

theorem collectTemperature_eq (h : s.files.Holds (s.owned paths)) (content : Nat → Option Str) :
    s.collectTemperature content =
      TemperatureCollector.collect { tempZones := s.temperatureCollector.map fun z =>
        { z.1 with fd := { content := content z.2 } } } := by
  unfold collectTemperature TemperatureCollector.collect
  rw [List.filterMap_map]
  refine congrArg TemperatureStats.mk (List.filterMap_congr fun z hz => ?_)
  have hopen : s.files.opened z.2 = some (cstr z.1.inputPath) := by
    rw [h.opened]
    unfold owned TemperatureCollector.held
    simp only [List.mem_append]
    exact .inr (.inr (.inr (List.mem_map_of_mem (f := fun z => (z.2, cstr z.1.inputPath)) hz)))
  unfold contentOf
  rw [hopen, Option.isSome_some, if_pos rfl]
  rfl

theorem collectNetwork_eq (h : s.files.Holds (s.owned paths)) {alone : NetworkCollector.Members}
    (halone : s.Alone paths calls alone) (content : Nat → Option Str) :
    s.networkCollector.collect content = alone.collect content := by
  obtain ⟨hrun, hname, hentries⟩ := halone
  have hinv := NetworkCollector.Members.inv_of_run hrun
  unfold NetworkCollector.Members.collect
  rw [hname, hentries]
  split
  · rfl
  · refine NetworkCollector.collectEntries_congr content (fun fd file hmem => ?_) {}
    have hown : s.files.opened fd = some file := by
      rw [h.opened]
      unfold owned
      simp only [List.mem_append]
      exact .inr (.inr (.inl hmem))
    have halone : alone.files.opened fd = some file := by
      rw [hinv.holds.opened, hentries]
      exact hmem
    show (s.files.opened fd).isSome = _
    rw [hown, halone]

/-- A collector of one file reads through its own descriptor, or not at all. -/
theorem collectCpu_eq (h : s.files.Holds (s.owned paths)) (content : Nat → Option Str) :
    s.cpuCollector.collect (s.contentOf content s.cpuCollector.fd.toNat) =
      s.cpuCollector.collect (content s.cpuCollector.fd.toNat) := by
  by_cases hfd : s.cpuCollector.fd = -1
  · simp [CpuCollector.collect, CpuCollector.read, hfd]
  · rw [contentOf_eq _ h hfd]

theorem collectMemory_eq (h : s.files.Holds (s.owned paths)) (content : Nat → Option Str) :
    s.memoryCollector.collect (s.contentOf content s.memoryCollector.fd.toNat) =
      s.memoryCollector.collect (content s.memoryCollector.fd.toNat) := by
  by_cases hfd : s.memoryCollector.fd = -1
  · simp [MemoryCollector.collect, MemoryCollector.read, hfd]
  · rw [contentOf_eq [] h hfd]

/-- A call of `MemoryCollector` touches nothing but the buffer. -/
theorem collectMemory_buf (c : MemoryCollector) (content : Option Str) :
    ∃ buf, (c.collect content).2 = { c with buf } := by
  unfold MemoryCollector.collect
  cases c.read content with
  | none => exact ⟨c.buf, rfl⟩
  | some data => exact ⟨_, rfl⟩

/-- The groups that the four collectors give, each of them on its own. -/
def groups (s₀ : SysMetricsCollector) (calls : List Call) (networkStats : Option NetworkStats) (nowUs : Nat)
    (content : Nat → Option Str) : SystemStats where
  timestampUs := nowUs
  temperatureStats := some (TemperatureCollector.collect { tempZones := s₀.temperatureCollector.map fun z =>
    { z.1 with fd := { content := content z.2 } } })
  networkStats
  cpuStats := ((s₀.cpuCollector.run (contentsAt calls s₀.cpuCollector.fd)).collect
    (content s₀.cpuCollector.fd.toNat)).1
  memoryStats := (s₀.memoryCollector.collect (content s₀.memoryCollector.fd.toNat)).1

/-- `collect` gives the four groups, and the calls after it find what the collectors left. -/
theorem Inv.collect (h : Inv paths s₀ calls s) {alone : NetworkCollector.Members} (halone : s.Alone paths calls alone)
    (nowUs : Nat) (content : Nat → Option Str) :
    ∃ result s', alone.collect content = some result ∧
      s.collect nowUs content = some (groups s₀ calls result nowUs content, s') ∧
      Inv paths s₀ (calls ++ [.collect nowUs content]) s' := by
  have hinv := NetworkCollector.Members.inv_of_run halone.1
  obtain ⟨result, hresult⟩ := Option.isSome_iff_exists.1 (hinv.collect_isSome content)
  have hnet : s.networkCollector.collect content = some result := by
    rw [collectNetwork_eq h.holds halone, hresult]
  have hfd : s.cpuCollector.fd = s₀.cpuCollector.fd := by rw [h.cpu, CpuCollector.run_fd]
  obtain ⟨buf, hbuf⟩ := h.memory
  obtain ⟨buf', hbuf'⟩ := collectMemory_buf s.memoryCollector (content s.memoryCollector.fd.toNat)
  refine ⟨result, { s with cpuCollector := (s.cpuCollector.collect (content s.cpuCollector.fd.toNat)).2,
                           memoryCollector := { s.memoryCollector with buf := buf' } }, hresult, ?_, ?_⟩
  · unfold SysMetricsCollector.collect
    rw [collectTemperature_eq h.holds, hnet, collectCpu_eq h.holds, collectMemory_eq h.holds]
    have hmemory : (s.memoryCollector.collect (content s.memoryCollector.fd.toNat)).1 =
        (s₀.memoryCollector.collect (content s₀.memoryCollector.fd.toNat)).1 := by
      rw [hbuf]
      exact s₀.memoryCollector.collect_of_buf _ buf
    have hcpu : s.cpuCollector.collect (content s.cpuCollector.fd.toNat) =
        (s₀.cpuCollector.run (contentsAt calls s₀.cpuCollector.fd)).collect (content s₀.cpuCollector.fd.toNat) := by
      rw [hfd, h.cpu]
    dsimp only [Option.bind_eq_bind, Option.bind_some]
    rw [hbuf', hmemory, h.temperature, hcpu]
    rfl
  · refine ⟨?_, h.temperature, ⟨alone, ?_, halone.2.1, halone.2.2⟩, ?_, ⟨buf', ?_⟩⟩
    · have hsame := h.holds
      unfold owned at hsame ⊢
      dsimp only
      rw [CpuCollector.collect_fd]
      exact hsame
    · rw [List.map_append]
      refine LTS.run_append.2 ⟨alone, halone.1, LTS.run_cons.2 ⟨alone, ?_, rfl⟩⟩
      show (alone.collect content).map (fun _ => alone) = some alone
      rw [hresult, Option.map_some]
    · rw [contentsAt_append, hfd, h.cpu]
      unfold CpuCollector.run
      rw [List.foldl_append]
      rfl
    · rw [hbuf]

theorem Inv.call (h : Inv paths s₀ calls s) {c : Call} (hcall : s.call paths.netStats c = some s') :
    Inv paths s₀ (calls ++ [c]) s' := by
  cases c with
  | setInterface interface answers => exact h.setInterface hcall
  | collect nowUs content =>
    obtain ⟨alone, halone⟩ := h.network
    obtain ⟨result, s₁, _, hcollect, h₁⟩ := h.collect halone nowUs content
    obtain ⟨r, hr, rfl⟩ := Option.map_eq_some_iff.1 hcall
    rw [hcollect] at hr
    cases hr
    exact h₁

/-! ## The lifetime of the object -/

variable {sensors : List Str} {hwmon : Hwmon} {order : MapOrder} {opens : Opens} {cpuBuf memoryBuf : Str}

/-- The constructor returns with the descriptors of its members, or is left with those of the zones
that it had registered. -/
theorem new_cases {result : Except (NumError × Table Nat Str) SysMetricsCollector}
    (hnew : new sensors paths hwmon order opens cpuBuf memoryBuf = some result) :
    ∃ zones thrown opened files, TemperatureCollector.registered sensors hwmon order = (zones, thrown) ∧
      TemperatureCollector.openZones zones opens.zones {} = some (opened, files) ∧
      match thrown with
      | some e => result = .error (e, files)
      | none => ∃ s₀, result = .ok s₀ ∧ s₀.temperatureCollector = opened ∧
          s₀.cpuCollector = .new (fdOf opens.procStat) cpuBuf ∧
          s₀.memoryCollector = { fd := fdOf opens.procMeminfo, buf := memoryBuf } ∧ Inv paths s₀ [] s₀ := by
  unfold new at hnew
  rcases hzones : TemperatureCollector.registered sensors hwmon order with ⟨zones, thrown⟩
  rw [hzones] at hnew
  obtain ⟨⟨opened, files⟩, hopened, hnew⟩ := Option.bind_eq_some_iff.1 hnew
  refine ⟨zones, thrown, opened, files, rfl, hopened, ?_⟩
  cases thrown with
  | some e =>
    cases hnew
    rfl
  | none =>
    obtain ⟨files₁, hstat, hnew⟩ := Option.bind_eq_some_iff.1 hnew
    obtain ⟨files₂, hmeminfo, hnew⟩ := Option.bind_eq_some_iff.1 hnew
    cases hnew
    have hzonesHeld := (TemperatureCollector.openZones_holds Table.holds_empty hopened).1
    have hall := (hzonesHeld.opens hstat).opens hmeminfo
    refine ⟨_, rfl, rfl, rfl, rfl, ?_, rfl, ⟨{}, rfl, rfl, rfl⟩, rfl, ⟨memoryBuf, rfl⟩⟩
    unfold owned
    show files₂.Holds (fdHeld (fdOf opens.procMeminfo) paths.procMeminfo ++
      (fdHeld (fdOf opens.procStat) paths.procStat ++ ([] ++ TemperatureCollector.held opened)))
    rw [fdHeld_fdOf, fdHeld_fdOf, List.nil_append]
    rw [List.nil_append] at hall
    refine hall.perm (List.perm_append_comm.trans (List.Perm.append_left _ List.perm_append_comm))

theorem inv_of_run {s₀ s : SysMetricsCollector} {calls : List Call}
    (hnew : new sensors paths hwmon order opens cpuBuf memoryBuf = some (.ok s₀))
    (hrun : LTS.run (call paths.netStats) s₀ calls = some s) : Inv paths s₀ calls s := by
  obtain ⟨_, thrown, _, _, _, _, hresult⟩ := new_cases hnew
  cases thrown with
  | some e => cases hresult
  | none =>
    obtain ⟨_, hok, _, _, _, hinv⟩ := hresult
    cases hok
    have hall : Inv paths s₀ (calls.foldl (fun past c => past ++ [c]) []) s :=
      LTS.run_invariant_of_foldl (fun _ _ _ _ h hcall => h.call hcall) hrun hinv
    rw [List.foldl_append_eq_append, List.nil_append, ← List.flatMap_def, List.flatMap_singleton'] at hall
    exact hall

/-- Every descriptor has one owner. An exception that leaves the constructor leaves open the
descriptors of the zones registered in front of it. Of an object that was built the members hold what
is open after any calls, and the destructors close each of these once. -/
theorem descriptors_of_lifetime {result : Except (NumError × Table Nat Str) SysMetricsCollector}
    (hnew : new sensors paths hwmon order opens cpuBuf memoryBuf = some result) :
    (∀ e files, result = .error (e, files) →
      TemperatureCollector.new sensors hwmon order = .error e ∧
        (∃ opened, opened.map Prod.fst = (TemperatureCollector.registered sensors hwmon order).1 ∧
          files.Holds (TemperatureCollector.held opened)) ∧
        ((∀ fd, files.opened fd = none) ↔ (TemperatureCollector.registered sensors hwmon order).1 = [])) ∧
    ∀ s₀, result = .ok s₀ →
      TemperatureCollector.new sensors hwmon order = .ok { tempZones := s₀.temperatureCollector.map Prod.fst } ∧
        ∀ calls s, LTS.run (call paths.netStats) s₀ calls = some s →
          s.files.Holds (s.owned paths) ∧ (∀ fd, s.destroy.opened fd = none) ∧ s.destroy.stray = false := by
  obtain ⟨zones, thrown, opened, files, hzones, hopened, hresult⟩ := new_cases hnew
  obtain ⟨hholds, hsame⟩ := TemperatureCollector.openZones_holds Table.holds_empty hopened
  rw [List.nil_append] at hholds
  have hscan := TemperatureCollector.new_eq sensors hwmon order
  rw [hzones] at hscan ⊢
  cases thrown with
  | some e =>
    cases hresult
    refine ⟨fun e' files' h => ?_, fun s₀ h => by cases h⟩
    cases h
    refine ⟨hscan, ⟨opened, hsame, hholds⟩, ?_⟩
    rw [← hsame]
    cases opened with
    | nil => exact iff_of_true hholds.opened_of_nil rfl
    | cons z opened =>
      refine iff_of_false (fun hnone => ?_) (List.cons_ne_nil _ _)
      have hopen := (hholds.opened z.2 (cstr z.1.inputPath)).2 List.mem_cons_self
      rw [hnone] at hopen
      cases hopen
  | none =>
    obtain ⟨s₀, rfl, htemperature, _⟩ := hresult
    refine ⟨fun e files h => (by cases h), fun s h => ?_⟩
    cases h
    refine ⟨?_, fun calls s hrun => ?_⟩
    · rw [htemperature, hsame]
      exact hscan
    · have hinv := inv_of_run hnew hrun
      have hclosed := destroy_holds hinv.holds
      exact ⟨hinv.holds, hclosed.opened_of_nil, hclosed.clean⟩

/-- The label without a number throws behind the zone that has one. -/
theorem descriptors_of_lifetime_oddDrive :
    ∃ e files, new ["nvme".toList] {} { entries := [TemperatureCollector.oddDrive] } TemperatureCollector.yieldOrder
        { zones := [3], procStat := none, procMeminfo := none } [] [] = some (.error (e, files)) ∧
      files.stray = false ∧ ¬ ∀ fd, files.opened fd = none := by
  have hthrows : (new ["nvme".toList] {} { entries := [TemperatureCollector.oddDrive] } TemperatureCollector.yieldOrder
      { zones := [3], procStat := none, procMeminfo := none } [] []).map (fun r => r.toOption.isNone) = some true := by
    decide +kernel
  obtain ⟨r, hnew, hr⟩ := Option.map_eq_some_iff.1 hthrows
  cases r with
  | ok s => cases hr
  | error left =>
    obtain ⟨e, files⟩ := left
    obtain ⟨_, ⟨opened, _, hholds⟩, hnone⟩ := (descriptors_of_lifetime hnew).1 e files rfl
    refine ⟨e, files, hnew, hholds.clean, fun hall => ?_⟩
    have hzone : (TemperatureCollector.registered ["nvme".toList] { entries := [TemperatureCollector.oddDrive] }
        TemperatureCollector.yieldOrder).1 ≠ [] := by decide +kernel
    exact hzone (hnone.1 hall)

/-- The groups of a snapshot do not depend on each other: after any calls each is what its collector
alone gives, the network collector after its own calls, the cpu collector after its own reads. -/
theorem groups_of_run {s₀ s : SysMetricsCollector} {calls : List Call}
    (hnew : new sensors paths hwmon order opens cpuBuf memoryBuf = some (.ok s₀))
    (hrun : LTS.run (call paths.netStats) s₀ calls = some s) (nowUs : Nat) (content : Nat → Option Str) :
    ∃ alone result s', s.Alone paths calls alone ∧ alone.collect content = some result ∧
      s.collect nowUs content = some (groups s₀ calls result nowUs content, s') := by
  have hinv := inv_of_run hnew hrun
  obtain ⟨alone, halone⟩ := hinv.network
  obtain ⟨result, s', hresult, hcollect, _⟩ := hinv.collect halone nowUs content
  exact ⟨alone, result, s', halone, hresult, hcollect⟩

/-- The files of the seven metrics and of the collectors of one file. -/
def proc (fd : Nat) : Option Str :=
  if fd = 4 then some "cpu  4 0 0 2 0 0 0 0\n".toList
  else if fd = 5 then some "MemFree:  12 kB\n".toList
  else some "7\n".toList

def watchEth0 : List Call :=
  [.collect 1 proc, .setInterface "eth0".toList (List.ofFn fun i : Fin 7 => some (6 + i)), .collect 2 proc]

/-- One zone, and an interface that is set between two snapshots. -/
theorem groups_of_run_eth0 :
    ∃ s₀ s result s', new ["nvme".toList] {} { entries := [TemperatureCollector.drive "hwmon0" "40850\n"] }
        TemperatureCollector.yieldOrder { zones := [3], procStat := some 4, procMeminfo := some 5 } [] [] =
          some (.ok s₀) ∧
      LTS.run (call "/sys/class/net".toList) s₀ watchEth0 = some s ∧
      s.collect 3 proc = some (groups s₀ watchEth0 result 3 proc, s') := by
  have hbuilt : ((new ["nvme".toList] {} { entries := [TemperatureCollector.drive "hwmon0" "40850\n"] }
      TemperatureCollector.yieldOrder { zones := [3], procStat := some 4, procMeminfo := some 5 } [] []).map fun r =>
        (r.toOption.bind fun s₀ => LTS.run (call "/sys/class/net".toList) s₀ watchEth0).isSome) = some true := by
    decide +kernel
  obtain ⟨r, hnew, hr⟩ := Option.map_eq_some_iff.1 hbuilt
  obtain ⟨s, hs⟩ := Option.isSome_iff_exists.1 hr
  obtain ⟨s₀, hs₀, hrun⟩ := Option.bind_eq_some_iff.1 hs
  cases r with
  | error left => cases hs₀
  | ok s₁ =>
    cases hs₀
    obtain ⟨_, result, s', _, _, hcollect⟩ := groups_of_run hnew hrun 3 proc
    exact ⟨s₀, s, result, s', hnew, hrun, hcollect⟩

end SysMetricsCollector

end TimeAgent
