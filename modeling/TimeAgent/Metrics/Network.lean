/-
`NetworkCollector` under two threads: `setInterface` on the ptp4l reader thread and `collect` on the
system-metrics thread, in steps over the shared entries and the table of open descriptors. The two
calls share no lock: a snapshot is of one interface in every run in which no step of the one call
gets between the steps of the other.
-/
import TimeAgent.Lib.Transition
import TimeAgent.Metrics.Basic
import Mathlib.Data.List.Forall2
import Mathlib.Logic.Function.Basic

namespace TimeAgent

open CText CNum

/-! ## The metrics -/

/-- A member of `NetworkStats`. -/
inductive NetworkField
  | rxPackets
  | txPackets
  | rxDropped
  | txDropped
  | rxErrors
  | txErrors
  | collisions
  deriving DecidableEq

def NetworkStats.get (stats : NetworkStats) : NetworkField → UInt64
  | .rxPackets => stats.rxPackets
  | .txPackets => stats.txPackets
  | .rxDropped => stats.rxDropped
  | .txDropped => stats.txDropped
  | .rxErrors => stats.rxErrors
  | .txErrors => stats.txErrors
  | .collisions => stats.collisions

def NetworkStats.set (stats : NetworkStats) (v : UInt64) : NetworkField → NetworkStats
  | .rxPackets => { stats with rxPackets := v }
  | .txPackets => { stats with txPackets := v }
  | .rxDropped => { stats with rxDropped := v }
  | .txDropped => { stats with txDropped := v }
  | .rxErrors => { stats with rxErrors := v }
  | .txErrors => { stats with txErrors := v }
  | .collisions => { stats with collisions := v }

theorem NetworkStats.get_set (stats : NetworkStats) (v : UInt64) (f g : NetworkField) :
    (stats.set v f).get g = if g = f then v else stats.get g := by
  cases f <;> cases g <;> rfl

structure MetricDef where
  name : Str
  field : NetworkField

def kNetworkMetrics : List MetricDef :=
  [⟨"rx_packets".toList, .rxPackets⟩, ⟨"tx_packets".toList, .txPackets⟩, ⟨"rx_dropped".toList, .rxDropped⟩,
    ⟨"tx_dropped".toList, .txDropped⟩, ⟨"rx_errors".toList, .rxErrors⟩, ⟨"tx_errors".toList, .txErrors⟩,
    ⟨"collisions".toList, .collisions⟩]

/-! ## Threads -/

/-- `none` is the descriptor -1 and the null member pointer. -/
structure MetricEntry where
  path : Str := []
  fd : Option Nat := none
  field : Option NetworkField := none
  deriving DecidableEq

/-- Where a call of `setInterface` stands: in `closeFds` in front of an entry, or between its close
and its store of -1; at the store of `interface_`; or in the loop that opens the files. -/
inductive SetInterfacePc
  | idle
  | closing (interface : Str) (i : Nat)
  | clearing (interface : Str) (i : Nat)
  | storing (interface : Str)
  | naming (interface : Str) (i : Nat)
  | opening (interface : Str) (i : Nat)
  | assigning (interface : Str) (i : Nat) (fd : Option Nat)
  deriving DecidableEq

/-- What one `pread` gave, and the file behind the descriptor (`none`: no file of the collector). -/
structure Read where
  file : Option Str
  data : Str
  deriving DecidableEq

/-- Where a call of `collect` stands. `closed` says that `setInterface` has closed the descriptor
that `pread` is about to use. -/
inductive CollectPc
  | idle
  | testing
  | reading (i : Nat) (metrics : NetworkStats) (reads : List Read)
  | preading (i : Nat) (fd : Nat) (closed : Bool) (metrics : NetworkStats) (reads : List Read)
  | parsing (i : Nat) (read : Read) (metrics : NetworkStats) (reads : List Read)
  deriving DecidableEq

/-- `files` maps an open descriptor to the file it was opened for. The last two members record what
`collect` returned, with the reads it used, and whether a `pread` went to a closed descriptor. -/
structure NetworkCollector where
  interface : Str := []
  metricEntries : Nat → MetricEntry := fun _ => {}
  files : Nat → Option Str := fun _ => none
  setting : SetInterfacePc := .idle
  collecting : CollectPc := .idle
  returned : List (NetworkStats × List Read) := []
  stale : Bool := false

namespace NetworkCollector

def metricPath (netStatsBase interface : Str) (m : MetricDef) : Str :=
  netStatsBase ++ '/' :: interface ++ "/statistics".toList ++ '/' :: m.name

/-- A step of either thread; the arguments are what the caller or the system supplies. -/
inductive Step
  | setInterface (interface : Str)
  | setting
  | opens (fd : Option Nat)
  | collect
  | collecting
  | preads (content : Option Str)

/-- `closeFds` behind entry `i`. -/
def closeNext (interface : Str) (i : Nat) : SetInterfacePc :=
  if i + 1 < kNetworkMetrics.length then .closing interface (i + 1) else .storing interface

/-- The loop of `setInterface` behind entry `i`. -/
def openNext (interface : Str) (i : Nat) : SetInterfacePc :=
  if i + 1 < kNetworkMetrics.length then .naming interface (i + 1) else .idle

end NetworkCollector

/-- The `pread` that is under way gets to know that its descriptor is closed. -/
def CollectPc.close (fd : Nat) : CollectPc → CollectPc
  | .preading i fd' closed metrics reads => .preading i fd' (closed || fd' == fd) metrics reads
  | pc => pc

namespace NetworkCollector

/-- The steps of `setInterface` that need nothing from outside. -/
def settingStep (netStatsBase : Str) (s : NetworkCollector) : Option NetworkCollector :=
  match s.setting with
  | .closing interface i =>
    match (s.metricEntries i).fd with
    | none => some { s with setting := closeNext interface i }
    | some fd => some { s with files := Function.update s.files fd none, collecting := s.collecting.close fd,
                               setting := .clearing interface i }
  | .clearing interface i =>
    some { s with metricEntries := Function.update s.metricEntries i { s.metricEntries i with fd := none },
                  setting := closeNext interface i }
  | .storing interface => some { s with interface, setting := .naming interface 0 }
  | .naming interface i =>
    match kNetworkMetrics[i]? with
    | none => none
    | some m =>
      let entry := { s.metricEntries i with path := metricPath netStatsBase interface m, field := some m.field }
      some { s with metricEntries := Function.update s.metricEntries i entry, setting := .opening interface i }
  | .assigning interface i fd =>
    some { s with metricEntries := Function.update s.metricEntries i { s.metricEntries i with fd },
                  setting := openNext interface i }
  | _ => none

/-- `open` fails, or gives a descriptor that is not in use. -/
def opensStep (s : NetworkCollector) (fd : Option Nat) : Option NetworkCollector :=
  match s.setting, fd with
  | .opening interface i, none => some { s with setting := .assigning interface i none }
  | .opening interface i, some fd =>
    if s.files fd = none then
      some { s with files := Function.update s.files fd (some (s.metricEntries i).path),
                    setting := .assigning interface i (some fd) }
    else none
  | _, _ => none

/-- The steps of `collect` that need nothing from outside. -/
def collectingStep (s : NetworkCollector) : Option NetworkCollector :=
  match s.collecting with
  | .testing => some { s with collecting := if s.interface = [] then .idle else .reading 0 {} [] }
  | .reading i metrics reads =>
    match (s.metricEntries i).fd with
    | none => some { s with collecting := .idle }
    | some fd => some { s with collecting := .preading i fd (s.files fd).isNone metrics reads }
  | .parsing i read metrics reads =>
    match (s.metricEntries i).field, fromCharsU64 read.data with
    -- writing through a null member pointer is undefined
    | none, _ => none
    | some _, .error _ => some { s with collecting := .idle }
    | some field, .ok (v, _) =>
      let metrics := metrics.set (UInt64.ofNat v) field
      if i + 1 < kNetworkMetrics.length then
        some { s with collecting := .reading (i + 1) metrics (reads ++ [read]) }
      else some { s with collecting := .idle, returned := s.returned ++ [(metrics, reads ++ [read])] }
  | _ => none

/-- `content` is what the file holds now; a closed descriptor may have gone to anyone. -/
def preadsStep (s : NetworkCollector) (content : Option Str) : Option NetworkCollector :=
  match s.collecting with
  | .preading i fd closed metrics reads =>
    match pread content (32 - 1) with
    | none | some [] => some { s with collecting := .idle, stale := s.stale || closed }
    | some data =>
      some { s with collecting := .parsing i { file := s.files fd, data } metrics reads, stale := s.stale || closed }
  | _ => none

def step (netStatsBase : Str) (s : NetworkCollector) : Step → Option NetworkCollector
  | .setInterface interface => if s.setting = .idle then some { s with setting := .closing interface 0 } else none
  | .setting => settingStep netStatsBase s
  | .opens fd => opensStep s fd
  | .collect => if s.collecting = .idle then some { s with collecting := .testing } else none
  | .collecting => collectingStep s
  | .preads content => preadsStep s content

/-! ## One interface -/

/-- The read gave the value of the metric's field. -/
def Holds (metrics : NetworkStats) (m : MetricDef) (read : Read) : Prop :=
  ∃ v rest, fromCharsU64 read.data = .ok (v, rest) ∧ metrics.get m.field = UInt64.ofNat v

/-- All counters are read from files of one interface, each from the file of its own. -/
def OneInterface (netStatsBase : Str) (stats : NetworkStats) (reads : List Read) : Prop :=
  ∃ interface, List.Forall₂ (fun m read => read.file = some (metricPath netStatsBase interface m) ∧ Holds stats m read)
    kNetworkMetrics reads

def Safe (netStatsBase : Str) (s : NetworkCollector) : Prop :=
  (∀ r ∈ s.returned, OneInterface netStatsBase r.1 r.2) ∧ s.stale = false

end NetworkCollector

/-- The descriptor the next `pread` uses. -/
def CollectPc.held : CollectPc → Option Nat
  | .preading _ fd _ _ _ => some fd
  | _ => none

namespace NetworkCollector

/-- The files of the counters that `collect` has read or is reading. -/
def taken (s : NetworkCollector) : List (Option Str) :=
  match s.collecting with
  | .idle | .testing => []
  | .reading _ _ reads => reads.map Read.file
  | .preading _ fd _ _ reads => reads.map Read.file ++ [s.files fd]
  | .parsing _ read _ reads => reads.map Read.file ++ [read.file]

/-- The files of the first `n` counters of an interface. -/
def interfaceFiles (netStatsBase interface : Str) (n : Nat) : List (Option Str) :=
  (kNetworkMetrics.take n).map fun m => some (metricPath netStatsBase interface m)

/-- The steps that keep the two calls apart: no descriptor is closed while `collect` is about to
read from it, `collect` takes no descriptor that is closed but not yet -1, and no new descriptor is
stored in the entry that `collect` takes next unless the counters it has are of the same interface. -/
def apart (netStatsBase : Str) (s : NetworkCollector) : Step → Bool
  | .setting =>
    match s.setting with
    | .closing _ i => (s.metricEntries i).fd = none || (s.metricEntries i).fd ≠ s.collecting.held
    | .assigning interface i (some _) => i ≠ s.taken.length || s.taken = interfaceFiles netStatsBase interface i
    | _ => true
  | .collecting =>
    match s.collecting, s.setting with
    | .reading i _ _, .clearing _ j => i ≠ j
    | _, _ => true
  | _ => true

/-! ## The entries -/

/-- Entry `i` holds an open descriptor. -/
def Live (entries : Nat → MetricEntry) (pc : SetInterfacePc) (i fd : Nat) : Prop :=
  (entries i).fd = some fd ∧ ∀ interface, pc ≠ .clearing interface i

/-- What the place of `setInterface` says about the entries, whose open files are `owner`'s. -/
def Phase (netStatsBase : Str) (entries : Nat → MetricEntry) (files : Nat → Option Str) (owner : Str) :
    SetInterfacePc → Prop
  | .idle => True
  | .closing _ i | .clearing _ i => i < kNetworkMetrics.length ∧ ∀ j < i, (entries j).fd = none
  | .storing _ => ∀ j, (entries j).fd = none
  | .naming interface i => owner = interface ∧ ∀ j, i ≤ j → (entries j).fd = none
  | .opening interface i => owner = interface ∧ (∀ j, i ≤ j → (entries j).fd = none) ∧
      ∃ m, kNetworkMetrics[i]? = some m ∧ (entries i).path = metricPath netStatsBase interface m
  | .assigning interface i fd => owner = interface ∧ (∀ j, i ≤ j → (entries j).fd = none) ∧
      ∃ m, kNetworkMetrics[i]? = some m ∧
        ∀ d ∈ fd, files d = some (metricPath netStatsBase interface m) ∧ ∀ j, (entries j).fd ≠ some d

/-- The open descriptors are distinct and were opened for the files of one interface, `owner`. -/
structure EntriesInv (netStatsBase : Str) (entries : Nat → MetricEntry) (files : Nat → Option Str)
    (pc : SetInterfacePc) (owner : Str) : Prop where
  live : ∀ i fd, Live entries pc i fd →
    ∃ m, kNetworkMetrics[i]? = some m ∧ files fd = some (metricPath netStatsBase owner m)
  distinct : ∀ i j fd, Live entries pc i fd → Live entries pc j fd → i = j
  fields : ∀ i m field, kNetworkMetrics[i]? = some m → (entries i).field = some field → field = m.field
  bounded : ∀ i, kNetworkMetrics.length ≤ i → (entries i).fd = none
  phase : Phase netStatsBase entries files owner pc

/-- Once the entries up to `i` are -1, the loop of `closeFds` stands where `Phase` says. -/
theorem phase_closeNext (base : Str) {entries : Nat → MetricEntry} (files : Nat → Option Str) (owner interface : Str)
    {i : Nat} (hbounded : ∀ j, kNetworkMetrics.length ≤ j → (entries j).fd = none)
    (h : ∀ j ≤ i, (entries j).fd = none) : Phase base entries files owner (closeNext interface i) := by
  unfold closeNext
  split
  · rename_i hlt
    exact ⟨hlt, fun j hj => h j (by omega)⟩
  · rename_i hlt
    intro j
    rcases Nat.lt_or_ge i j with hj | hj
    · exact hbounded j (by omega)
    · exact h j hj

/-- What a step of `setInterface` does to the entries: they keep the invariant, and a descriptor is
live afterwards if it was before, for the same owner, or if it is the one just stored. -/
structure Sets (netStatsBase : Str) (s s' : NetworkCollector) (owner owner' : Str) : Prop where
  entries : EntriesInv netStatsBase s'.metricEntries s'.files s'.setting owner'
  live : ∀ i fd, Live s'.metricEntries s'.setting i fd →
    (owner' = owner ∧ Live s.metricEntries s.setting i fd) ∨ s.setting = .assigning owner' i (some fd)

/-- A step after which nothing is live that was not, and the live descriptors keep their files. -/
theorem Sets.of_live {base owner : Str} {s s' : NetworkCollector}
    (h : EntriesInv base s.metricEntries s.files s.setting owner)
    (hlive : ∀ i fd, Live s'.metricEntries s'.setting i fd → Live s.metricEntries s.setting i fd)
    (hfiles : ∀ i fd, Live s'.metricEntries s'.setting i fd → s'.files fd = s.files fd)
    (hfields : ∀ i m field, kNetworkMetrics[i]? = some m → (s'.metricEntries i).field = some field → field = m.field)
    (hbounded : ∀ i, kNetworkMetrics.length ≤ i → (s'.metricEntries i).fd = none)
    (hphase : Phase base s'.metricEntries s'.files owner s'.setting) : Sets base s s' owner owner := by
  refine ⟨⟨fun i fd hi => ?_, fun i j fd hi hj => h.distinct i j fd (hlive i fd hi) (hlive j fd hj), hfields, hbounded,
    hphase⟩, fun i fd hi => .inl ⟨rfl, hlive i fd hi⟩⟩
  rw [hfiles i fd hi]
  exact h.live i fd (hlive i fd hi)

theorem sets_closing {base owner interface : Str} {s : NetworkCollector} {i : Nat}
    (h : EntriesInv base s.metricEntries s.files s.setting owner) (hpc : s.setting = .closing interface i)
    (hfd : (s.metricEntries i).fd = none) : Sets base s { s with setting := closeNext interface i } owner owner := by
  have hphase := h.phase
  rw [hpc] at hphase
  refine .of_live h (fun j fd hj => ⟨hj.1, by rw [hpc]; simp⟩) (fun _ _ _ => rfl) h.fields h.bounded ?_
  apply phase_closeNext base s.files owner interface h.bounded
  intro j hj
  rcases Nat.lt_or_eq_of_le hj with hj | rfl
  · exact hphase.2 j hj
  · exact hfd

theorem sets_close {base owner interface : Str} {s : NetworkCollector} {i fd : Nat}
    (h : EntriesInv base s.metricEntries s.files s.setting owner) (hpc : s.setting = .closing interface i)
    (hfd : (s.metricEntries i).fd = some fd) :
    Sets base s { s with files := Function.update s.files fd none, collecting := s.collecting.close fd,
                         setting := .clearing interface i } owner owner := by
  have hphase := h.phase
  rw [hpc] at hphase
  have hlive : ∀ j d, Live s.metricEntries (.clearing interface i) j d → Live s.metricEntries s.setting j d :=
    fun j d hj => ⟨hj.1, by rw [hpc]; simp⟩
  have hi : Live s.metricEntries s.setting i fd := ⟨hfd, by rw [hpc]; simp⟩
  refine .of_live h hlive (fun j d hj => ?_) h.fields h.bounded hphase
  -- the closed descriptor is entry `i`'s alone
  have hne : d ≠ fd := by
    rintro rfl
    exact hj.2 interface (by rw [h.distinct j i d (hlive j d hj) hi])
  exact Function.update_of_ne hne ..

theorem sets_clear {base owner interface : Str} {s : NetworkCollector} {i : Nat}
    (h : EntriesInv base s.metricEntries s.files s.setting owner) (hpc : s.setting = .clearing interface i) :
    Sets base s { s with metricEntries := Function.update s.metricEntries i { s.metricEntries i with fd := none },
                         setting := closeNext interface i } owner owner := by
  have hphase := h.phase
  rw [hpc] at hphase
  have hfd : ∀ j, (Function.update s.metricEntries i { s.metricEntries i with fd := none } j).fd =
      if j = i then none else (s.metricEntries j).fd := by
    intro j
    by_cases hj : j = i
    · subst hj; simp
    · simp [hj]
  have hbounded : ∀ j, kNetworkMetrics.length ≤ j →
      (Function.update s.metricEntries i { s.metricEntries i with fd := none } j).fd = none := by
    intro j hj
    rw [hfd, h.bounded j hj, ite_self]
  refine .of_live h ?_ (fun _ _ _ => rfl) ?_ hbounded ?_
  · -- what is still open belongs to another entry than the cleared one
    rintro j d ⟨hj, _⟩
    rw [hfd] at hj
    split at hj
    · cases hj
    · rename_i hne
      refine ⟨hj, fun interface' heq => ?_⟩
      rw [hpc] at heq
      injection heq with _ heq
      exact hne heq.symm
  · intro j m field hm hfield
    refine h.fields j m field hm ?_
    rw [← hfield]
    by_cases hj : j = i
    · subst hj; simp
    · simp [hj]
  · apply phase_closeNext base s.files owner interface hbounded
    intro j hj
    rw [hfd]
    split
    · rfl
    · exact hphase.2 j (by omega)

theorem sets_store {base owner interface : Str} {s : NetworkCollector}
    (h : EntriesInv base s.metricEntries s.files s.setting owner) (hpc : s.setting = .storing interface) :
    Sets base s { s with interface, setting := .naming interface 0 } owner interface := by
  have hphase := h.phase
  rw [hpc] at hphase
  have hnone : ∀ (pc : SetInterfacePc) j d, ¬ Live s.metricEntries pc j d := by
    rintro pc j d ⟨hj, _⟩
    rw [hphase j] at hj
    cases hj
  exact ⟨⟨fun j d hj => absurd hj (hnone _ j d), fun j k d hj => absurd hj (hnone _ j d), h.fields, h.bounded,
    ⟨rfl, fun j _ => hphase j⟩⟩, fun j d hj => absurd hj (hnone _ j d)⟩

theorem sets_name {base owner interface : Str} {s : NetworkCollector} {i : Nat} {m : MetricDef}
    (h : EntriesInv base s.metricEntries s.files s.setting owner) (hpc : s.setting = .naming interface i)
    (hm : kNetworkMetrics[i]? = some m) :
    Sets base s { s with metricEntries := Function.update s.metricEntries i
                           { s.metricEntries i with path := metricPath base interface m, field := some m.field },
                         setting := .opening interface i } owner owner := by
  have hphase := h.phase
  rw [hpc] at hphase
  obtain ⟨howner, hnone⟩ := hphase
  have hfd : ∀ j, (Function.update s.metricEntries i
      { s.metricEntries i with path := metricPath base interface m, field := some m.field } j).fd =
      (s.metricEntries j).fd := by
    intro j
    by_cases hj : j = i
    · subst hj; simp
    · simp [hj]
  refine .of_live h ?_ (fun _ _ _ => rfl) ?_ (fun j hj => ?_) ⟨howner, fun j hj => ?_, m, hm, by simp⟩
  · rintro j d ⟨hj, _⟩
    rw [hfd] at hj
    exact ⟨hj, by rw [hpc]; simp⟩
  · intro j m' field hm' hfield
    by_cases hj : j = i
    · subst hj
      rw [hm] at hm'
      cases hm'
      simpa using hfield.symm
    · exact h.fields j m' field hm' (by simpa [hj] using hfield)
  · rw [hfd, h.bounded j hj]
  · rw [hfd, hnone j hj]

theorem sets_assign {base owner interface : Str} {s : NetworkCollector} {i : Nat} {fd : Option Nat}
    (h : EntriesInv base s.metricEntries s.files s.setting owner) (hpc : s.setting = .assigning interface i fd) :
    Sets base s { s with metricEntries := Function.update s.metricEntries i { s.metricEntries i with fd },
                         setting := openNext interface i } owner owner := by
  have hphase := h.phase
  rw [hpc] at hphase
  obtain ⟨howner, hnone, m, hm, hfile⟩ := hphase
  have hfd : ∀ j, (Function.update s.metricEntries i { s.metricEntries i with fd } j).fd =
      if j = i then fd else (s.metricEntries j).fd := by
    intro j
    by_cases hj : j = i
    · subst hj; simp
    · simp [hj]
  -- what is live afterwards was live before, or is the descriptor just assigned
  have hlive : ∀ j d,
      Live (Function.update s.metricEntries i { s.metricEntries i with fd }) (openNext interface i) j d →
      (j ≠ i ∧ Live s.metricEntries s.setting j d) ∨ (j = i ∧ fd = some d) := by
    rintro j d ⟨hj, _⟩
    rw [hfd] at hj
    split at hj
    · exact .inr ⟨‹_›, hj⟩
    · exact .inl ⟨‹_›, hj, by rw [hpc]; simp⟩
  have hlt : i < kNetworkMetrics.length := (List.getElem?_eq_some_iff.1 hm).1
  refine ⟨⟨?_, ?_, ?_, ?_, ?_⟩, ?_⟩
  · intro j d hj
    rcases hlive j d hj with ⟨_, hj⟩ | ⟨rfl, rfl⟩
    · exact h.live j d hj
    · exact ⟨m, hm, by rw [howner]; exact (hfile d rfl).1⟩
  · intro j k d hj hk
    rcases hlive j d hj with ⟨_, hj'⟩ | ⟨hji, hd⟩
    · rcases hlive k d hk with ⟨_, hk'⟩ | ⟨_, hd⟩
      · exact h.distinct j k d hj' hk'
      -- a new descriptor is none of the open ones
      · exact absurd hj'.1 ((hfile d hd).2 j)
    · rcases hlive k d hk with ⟨_, hk'⟩ | ⟨hki, _⟩
      · exact absurd hk'.1 ((hfile d hd).2 k)
      · rw [hji, hki]
  · intro j m' field hm' hfield
    refine h.fields j m' field hm' ?_
    rw [← hfield]
    by_cases hj : j = i
    · subst hj; simp
    · simp [hj]
  · intro j hj
    rw [hfd, if_neg (by omega), h.bounded j hj]
  · unfold openNext
    split
    · refine ⟨howner, fun j hj => ?_⟩
      rw [hfd, if_neg (by omega), hnone j (by omega)]
    · trivial
  · intro j d hj
    rcases hlive j d hj with ⟨_, hj⟩ | ⟨rfl, rfl⟩
    · exact .inl ⟨rfl, hj⟩
    · exact .inr (by rw [howner]; exact hpc)

theorem sets_settingStep {base owner : Str} {s s' : NetworkCollector}
    (h : EntriesInv base s.metricEntries s.files s.setting owner) (hs : settingStep base s = some s') :
    ∃ owner', Sets base s s' owner owner' := by
  unfold settingStep at hs
  split at hs
  · rename_i interface i hpc
    split at hs
    · cases hs; exact ⟨owner, sets_closing h hpc ‹_›⟩
    · cases hs; exact ⟨owner, sets_close h hpc ‹_›⟩
  · rename_i interface i hpc
    cases hs; exact ⟨owner, sets_clear h hpc⟩
  · rename_i interface hpc
    cases hs; exact ⟨interface, sets_store h hpc⟩
  · rename_i interface i hpc
    split at hs
    · cases hs
    · cases hs; exact ⟨owner, sets_name h hpc ‹_›⟩
  · rename_i interface i fd hpc
    cases hs; exact ⟨owner, sets_assign h hpc⟩
  · cases hs

theorem sets_opensStep {base owner : Str} {s s' : NetworkCollector} {fd : Option Nat}
    (h : EntriesInv base s.metricEntries s.files s.setting owner) (hs : opensStep s fd = some s') :
    Sets base s s' owner owner := by
  have hphase := h.phase
  unfold opensStep at hs
  split at hs
  · rename_i interface i hpc
    cases hs
    rw [hpc] at hphase
    obtain ⟨howner, hnone, m, hm, _⟩ := hphase
    exact .of_live h (fun j d hj => ⟨hj.1, by rw [hpc]; simp⟩) (fun _ _ _ => rfl) h.fields h.bounded
      ⟨howner, hnone, m, hm, fun d hd => by cases hd⟩
  · rename_i interface i d hpc
    split at hs
    · rename_i hfree
      cases hs
      rw [hpc] at hphase
      obtain ⟨howner, hnone, m, hm, hpath⟩ := hphase
      have hlive : ∀ j d', Live s.metricEntries (.assigning interface i (some d)) j d' →
          Live s.metricEntries s.setting j d' := fun j d' hj => ⟨hj.1, by rw [hpc]; simp⟩
      -- the new descriptor was not in the table, so no entry holds it
      have hnew : ∀ j d', Live s.metricEntries s.setting j d' → d' ≠ d := by
        rintro j d' hj rfl
        obtain ⟨_, _, hfile⟩ := h.live j d' hj
        rw [hfree] at hfile
        cases hfile
      refine .of_live h hlive (fun j d' hj => Function.update_of_ne (hnew j d' (hlive j d' hj)) ..) h.fields h.bounded
        ⟨howner, hnone, m, hm, fun d' hd' => ?_⟩
      cases hd'
      refine ⟨by rw [← hpath]; exact Function.update_self .., fun j hj => ?_⟩
      exact hnew j d ⟨hj, by rw [hpc]; simp⟩ rfl
    · cases hs
  · cases hs

/-! ## The reads -/

/-- The first `i` counters are read and parsed. -/
def Gathered (i : Nat) (metrics : NetworkStats) (reads : List Read) : Prop :=
  i < kNetworkMetrics.length ∧ List.Forall₂ (Holds metrics) (kNetworkMetrics.take i) reads

/-- What the place of `collect` says about its reads. -/
def Progress (files : Nat → Option Str) : CollectPc → Prop
  | .idle | .testing => True
  | .reading i metrics reads => Gathered i metrics reads
  | .preading i fd closed metrics reads => Gathered i metrics reads ∧ closed = false ∧ files fd ≠ none
  | .parsing i _ metrics reads => Gathered i metrics reads

theorem Gathered.length {i : Nat} {metrics : NetworkStats} {reads : List Read} (h : Gathered i metrics reads) :
    reads.length = i := by
  rw [← h.2.length_eq, List.length_take, Nat.min_eq_left h.1.le]

theorem interfaceFiles_succ (base interface : Str) {i : Nat} {m : MetricDef} (hm : kNetworkMetrics[i]? = some m) :
    interfaceFiles base interface (i + 1) =
      interfaceFiles base interface i ++ [some (metricPath base interface m)] := by
  unfold interfaceFiles
  rw [List.take_add_one, hm, List.map_append]
  rfl

theorem field_injective {i j : Nat} {m m' : MetricDef} (hm : kNetworkMetrics[i]? = some m)
    (hm' : kNetworkMetrics[j]? = some m') (h : m.field = m'.field) : i = j := by
  have hnodup : (kNetworkMetrics.map MetricDef.field).Nodup := by decide
  have hi : i < (kNetworkMetrics.map MetricDef.field).length := by
    rw [List.length_map]
    exact (List.getElem?_eq_some_iff.1 hm).1
  refine (List.getElem?_inj hi hnodup).1 ?_
  rw [List.getElem?_map, List.getElem?_map, hm, hm']
  exact congrArg some h

/-- One more counter: the others keep their values, since every metric has a field of its own. -/
theorem Gathered.parse {i v : Nat} {m : MetricDef} {metrics : NetworkStats} {reads : List Read} {read : Read}
    {rest : Str} (h : Gathered i metrics reads) (hm : kNetworkMetrics[i]? = some m)
    (hv : fromCharsU64 read.data = .ok (v, rest)) :
    List.Forall₂ (Holds (metrics.set (UInt64.ofNat v) m.field)) (kNetworkMetrics.take (i + 1)) (reads ++ [read]) := by
  rw [List.take_add_one, hm]
  refine List.rel_append ?_ (List.Forall₂.cons ⟨v, rest, hv, by rw [NetworkStats.get_set, if_pos rfl]⟩ .nil)
  obtain ⟨_, hreads⟩ := h
  rw [List.forall₂_iff_get] at hreads ⊢
  refine ⟨hreads.1, fun k hk hk' => ?_⟩
  obtain ⟨w, rest', hw, hget⟩ := hreads.2 k hk hk'
  refine ⟨w, rest', hw, ?_⟩
  rw [NetworkStats.get_set, if_neg, hget]
  intro heq
  have hki : k < i := by
    rw [List.length_take] at hk
    omega
  have hk? : kNetworkMetrics[k]? = some ((kNetworkMetrics.take i).get ⟨k, hk⟩) := by
    rw [List.get_eq_getElem, List.getElem_take, List.getElem?_eq_getElem]
  exact absurd (field_injective hk? hm heq) (by omega)

theorem forall₂_and_map {α β γ : Type*} {f : β → γ} {g : α → γ} {R : α → β → Prop} {as : List α} {bs : List β} :
    List.Forall₂ (fun a b => f b = g a ∧ R a b) as bs ↔ bs.map f = as.map g ∧ List.Forall₂ R as bs := by
  constructor
  · intro h
    induction h with
    | nil => exact ⟨rfl, .nil⟩
    | cons hab _ ih => exact ⟨by rw [List.map_cons, List.map_cons, hab.1, ih.1], .cons hab.2 ih.2⟩
  · rintro ⟨hmap, h⟩
    induction h with
    | nil => exact .nil
    | cons hab _ ih =>
      rw [List.map_cons, List.map_cons] at hmap
      injection hmap with hhead htail
      exact .cons ⟨hhead, hab⟩ (ih htail)

theorem oneInterface_iff {base : Str} {stats : NetworkStats} {reads : List Read} :
    OneInterface base stats reads ↔
      ∃ interface, reads.map Read.file = interfaceFiles base interface kNetworkMetrics.length ∧
        List.Forall₂ (Holds stats) kNetworkMetrics reads := by
  unfold OneInterface interfaceFiles
  rw [List.take_length]
  exact exists_congr fun interface => forall₂_and_map

/-! ## The invariant -/

structure Inv (netStatsBase : Str) (s : NetworkCollector) (owner : Str) : Prop where
  entries : EntriesInv netStatsBase s.metricEntries s.files s.setting owner
  progress : Progress s.files s.collecting
  one : ∃ interface, s.taken = interfaceFiles netStatsBase interface s.taken.length
  /-- The entry that `collect` takes next is of the interface of those it has. -/
  next : ∀ fd, Live s.metricEntries s.setting s.taken.length fd →
    s.taken = interfaceFiles netStatsBase owner s.taken.length
  safe : Safe netStatsBase s

theorem inv_init (base : Str) : Inv base {} [] where
  entries := ⟨fun _ _ h => (nomatch h.1), fun _ _ _ h => (nomatch h.1), fun _ _ _ _ h => (nomatch h), fun _ _ => rfl,
    trivial⟩
  progress := trivial
  one := ⟨[], rfl⟩
  next := fun _ _ => rfl
  safe := ⟨fun _ h => (nomatch h), rfl⟩

/-- A step of `setInterface` that leaves alone what `collect` has. -/
theorem Inv.sets {base owner owner' : Str} {s s' : NetworkCollector} (h : Inv base s owner)
    (hsets : Sets base s s' owner owner') (hprogress : Progress s'.files s'.collecting) (htaken : s'.taken = s.taken)
    (hsafe : Safe base s')
    (hassign : ∀ fd, s.setting = .assigning owner' s.taken.length (some fd) →
      s.taken = interfaceFiles base owner' s.taken.length) : Inv base s' owner' where
  entries := hsets.entries
  progress := hprogress
  one := by rw [htaken]; exact h.one
  next := by
    rw [htaken]
    intro fd hfd
    rcases hsets.live _ fd hfd with ⟨rfl, hlive⟩ | hpc
    · exact h.next fd hlive
    · exact hassign fd hpc
  safe := hsafe

theorem close_eq_self {pc : CollectPc} {fd : Nat} (h : pc.held ≠ some fd) : pc.close fd = pc := by
  cases pc with
  | preading i fd' closed metrics reads =>
    have hne : (fd' == fd) = false := by
      rw [beq_eq_false_iff_ne]
      rintro rfl
      exact h rfl
    show CollectPc.preading i fd' (closed || fd' == fd) metrics reads = _
    rw [hne, Bool.or_false]
  | _ => rfl

/-- A change of the table elsewhere than at the held descriptor. -/
theorem frame_held (files' : Nat → Option Str) {files : Nat → Option Str} {pc : CollectPc}
    (h : ∀ fd, pc.held = some fd → files' fd = files fd) (hprogress : Progress files pc) (s : NetworkCollector)
    (hs : s.files = files) (hpc : s.collecting = pc) :
    Progress files' pc ∧ taken { s with files := files' } = s.taken := by
  subst hs hpc
  unfold taken
  cases hpc : s.collecting with
  | preading i fd closed metrics reads =>
    rw [hpc] at hprogress h
    have hfd := h fd rfl
    exact ⟨⟨hprogress.1, hprogress.2.1, by rw [hfd]; exact hprogress.2.2⟩, by dsimp only; rw [hfd]⟩
  | _ => rw [hpc] at hprogress; exact ⟨hprogress, rfl⟩

/-! ## The steps of `setInterface` -/

theorem apart_assigning {base interface : Str} {s : NetworkCollector} {i fd : Nat}
    (h : apart base s .setting = true) (hpc : s.setting = .assigning interface i (some fd)) (hi : i = s.taken.length) :
    s.taken = interfaceFiles base interface i := by
  unfold apart at h
  rw [hpc] at h
  simpa [hi] using h

theorem apart_closing {base interface : Str} {s : NetworkCollector} {i fd : Nat} (h : apart base s .setting = true)
    (hpc : s.setting = .closing interface i) (hfd : (s.metricEntries i).fd = some fd) :
    s.collecting.held ≠ some fd := by
  unfold apart at h
  rw [hpc] at h
  dsimp only at h
  rw [hfd] at h
  have hne : some fd ≠ s.collecting.held := by simpa using h
  exact hne.symm

/-- What a step of `setInterface` does outside the entries: apart from `collect` it leaves alone the
descriptor about to be read. -/
theorem settingStep_collecting {base owner : Str} {s s' : NetworkCollector} (h : Inv base s owner)
    (hapart : apart base s .setting = true) (hs : settingStep base s = some s') :
    Progress s'.files s'.collecting ∧ s'.taken = s.taken ∧ s'.returned = s.returned ∧ s'.stale = s.stale := by
  unfold settingStep at hs
  split at hs
  · rename_i interface i hpc
    split at hs
    · cases hs; exact ⟨h.progress, rfl, rfl, rfl⟩
    · rename_i fd hfd
      cases hs
      have hheld := apart_closing hapart hpc hfd
      have hframe := frame_held (Function.update s.files fd none) (fun d hd => Function.update_of_ne (by
        rintro rfl
        exact hheld hd) _ _) h.progress s rfl rfl
      rw [close_eq_self hheld]
      exact ⟨hframe.1, hframe.2, rfl, rfl⟩
  · cases hs; exact ⟨h.progress, rfl, rfl, rfl⟩
  · cases hs; exact ⟨h.progress, rfl, rfl, rfl⟩
  · split at hs
    · cases hs
    · cases hs; exact ⟨h.progress, rfl, rfl, rfl⟩
  · cases hs; exact ⟨h.progress, rfl, rfl, rfl⟩
  · cases hs

theorem opensStep_collecting {base owner : Str} {s s' : NetworkCollector} {fd : Option Nat} (h : Inv base s owner)
    (hs : opensStep s fd = some s') :
    Progress s'.files s'.collecting ∧ s'.taken = s.taken ∧ s'.returned = s.returned ∧ s'.stale = s.stale := by
  unfold opensStep at hs
  split at hs
  · cases hs; exact ⟨h.progress, rfl, rfl, rfl⟩
  · rename_i interface i d hpc
    split at hs
    · rename_i hfree
      cases hs
      have hheld : ∀ d', s.collecting.held = some d' → d' ≠ d := by
        rintro d' hd' rfl
        have hprogress := h.progress
        cases hc : s.collecting with
        | preading i fd closed metrics reads =>
          rw [hc] at hprogress hd'
          cases hd'
          exact hprogress.2.2 hfree
        | _ => rw [hc] at hd'; cases hd'
      have hframe := frame_held (Function.update s.files d (some (s.metricEntries i).path))
        (fun d' hd' => Function.update_of_ne (hheld d' hd') _ _) h.progress s rfl rfl
      exact ⟨hframe.1, hframe.2, rfl, rfl⟩
    · cases hs
  · cases hs

/-! ## The steps of `collect` -/

/-- A step of `collect` leaves the entries alone. -/
theorem Inv.collects {base owner : Str} {s s' : NetworkCollector} (h : Inv base s owner)
    (hentries : s'.metricEntries = s.metricEntries) (hfiles : s'.files = s.files) (hsetting : s'.setting = s.setting)
    (hprogress : Progress s.files s'.collecting)
    (htaken : s'.taken = s.taken ∨ s'.taken = interfaceFiles base owner s'.taken.length) (hsafe : Safe base s') :
    Inv base s' owner where
  entries := by rw [hentries, hfiles, hsetting]; exact h.entries
  progress := by rw [hfiles]; exact hprogress
  one := by
    rcases htaken with htaken | htaken
    · rw [htaken]; exact h.one
    · exact ⟨owner, htaken⟩
  next := by
    rcases htaken with htaken | htaken
    · rw [htaken, hentries, hsetting]; exact h.next
    · exact fun _ _ => htaken
  safe := hsafe

/-- Taking an open descriptor: its file is of the same interface as the counters `collect` has. -/
theorem taken_reading {base owner : Str} {s : NetworkCollector} {i fd : Nat} {metrics : NetworkStats}
    {reads : List Read} (h : Inv base s owner) (hpc : s.collecting = .reading i metrics reads)
    (hlive : Live s.metricEntries s.setting i fd) :
    s.files fd ≠ none ∧ reads.map Read.file ++ [s.files fd] = interfaceFiles base owner (i + 1) := by
  have hgathered : Gathered i metrics reads := by
    have hprogress := h.progress
    rw [hpc] at hprogress
    exact hprogress
  have htaken : s.taken = reads.map Read.file := by unfold taken; rw [hpc]
  have hlength : s.taken.length = i := by rw [htaken, List.length_map, hgathered.length]
  have hnext := h.next
  rw [hlength, htaken] at hnext
  obtain ⟨m, hm, hfile⟩ := h.entries.live i fd hlive
  refine ⟨by rw [hfile]; simp, ?_⟩
  rw [hnext fd hlive, hfile, interfaceFiles_succ base owner hm]

theorem interfaceFiles_length (base interface : Str) {n : Nat} (h : n ≤ kNetworkMetrics.length) :
    (interfaceFiles base interface n).length = n := by
  unfold interfaceFiles
  rw [List.length_map, List.length_take, Nat.min_eq_left h]

/-- `collect` takes the descriptor of entry `i`. -/
theorem Inv.takes {base owner : Str} {s : NetworkCollector} {i fd : Nat} {metrics : NetworkStats} {reads : List Read}
    (h : Inv base s owner) (hapart : apart base s .collecting = true) (hpc : s.collecting = .reading i metrics reads)
    (hfd : (s.metricEntries i).fd = some fd) :
    Inv base { s with collecting := .preading i fd (s.files fd).isNone metrics reads } owner := by
  have hprogress := h.progress
  rw [hpc] at hprogress
  -- no `setInterface` is running, so the entry is not about to be closed
  have hlive : Live s.metricEntries s.setting i fd := by
    refine ⟨hfd, fun interface hset => ?_⟩
    unfold apart at hapart
    rw [hpc, hset] at hapart
    simp at hapart
  obtain ⟨hopen, htaken⟩ := taken_reading h hpc hlive
  refine h.collects rfl rfl rfl ⟨hprogress, ?_, hopen⟩ (.inr ?_) h.safe
  · rw [Option.isNone_eq_false_iff, Option.isSome_iff_ne_none]
    exact hopen
  · show reads.map Read.file ++ [s.files fd] = interfaceFiles base owner (reads.map Read.file ++ [s.files fd]).length
    rw [htaken, interfaceFiles_length base owner hprogress.1]

/-- `collect` stores the number of entry `i`, and returns the snapshot behind the last. -/
theorem Inv.stores {base owner : Str} {s : NetworkCollector} {i v : Nat} {m : MetricDef} {read : Read}
    {metrics : NetworkStats} {reads : List Read} {rest : Str} (h : Inv base s owner)
    (hpc : s.collecting = .parsing i read metrics reads) (hm : kNetworkMetrics[i]? = some m)
    (hv : fromCharsU64 read.data = .ok (v, rest)) :
    Inv base
      (if i + 1 < kNetworkMetrics.length then
        { s with collecting := .reading (i + 1) (metrics.set (UInt64.ofNat v) m.field) (reads ++ [read]) }
      else
        { s with collecting := .idle,
                 returned := s.returned ++ [(metrics.set (UInt64.ofNat v) m.field, reads ++ [read])] }) owner := by
  have hprogress := h.progress
  have hone := h.one
  rw [hpc] at hprogress
  have htaken : s.taken = (reads ++ [read]).map Read.file := by
    unfold taken
    rw [hpc, List.map_append]
    rfl
  have hgathered := Gathered.parse hprogress hm hv
  split
  · rename_i hlt
    exact h.collects rfl rfl rfl ⟨hlt, hgathered⟩ (.inl htaken.symm) h.safe
  -- the last metric: the snapshot is returned
  · rename_i hlast
    refine h.collects rfl rfl rfl trivial (.inr rfl) ⟨?_, h.safe.2⟩
    intro r hr
    rcases List.mem_append.1 hr with hr | hr
    · exact h.safe.1 r hr
    · cases List.mem_singleton.1 hr
      have hi : i + 1 = kNetworkMetrics.length := by have := hprogress.1; omega
      obtain ⟨interface, hone⟩ := hone
      rw [htaken, List.length_map, List.length_append, hprogress.length, List.length_singleton, hi] at hone
      rw [hi, List.take_length] at hgathered
      exact oneInterface_iff.2 ⟨interface, hone, hgathered⟩

theorem Inv.collectingStep {base owner : Str} {s s' : NetworkCollector} (h : Inv base s owner)
    (hapart : apart base s .collecting = true) (hs : collectingStep s = some s') : Inv base s' owner := by
  have hprogress := h.progress
  unfold NetworkCollector.collectingStep at hs
  split at hs
  · by_cases hempty : s.interface = []
    · rw [if_pos hempty] at hs
      cases hs
      exact h.collects rfl rfl rfl trivial (.inr rfl) h.safe
    · rw [if_neg hempty] at hs
      cases hs
      exact h.collects rfl rfl rfl ⟨by decide, .nil⟩ (.inr rfl) h.safe
  · rename_i i metrics reads hpc
    split at hs
    · cases hs
      exact h.collects rfl rfl rfl trivial (.inr rfl) h.safe
    · rename_i fd hfd
      cases hs
      exact h.takes hapart hpc hfd
  · rename_i i read metrics reads hpc
    rw [hpc] at hprogress
    split at hs
    · cases hs
    · cases hs
      exact h.collects rfl rfl rfl trivial (.inr rfl) h.safe
    · rename_i field v rest hfield hv
      obtain ⟨m, hm⟩ : ∃ m, kNetworkMetrics[i]? = some m := ⟨_, List.getElem?_eq_getElem hprogress.1⟩
      cases h.entries.fields i m field hm hfield
      have hstores := h.stores hpc hm hv
      dsimp only at hs
      split at hs
      · rename_i hlt
        cases hs
        rwa [if_pos hlt] at hstores
      · rename_i hlast
        cases hs
        rwa [if_neg hlast] at hstores
  · cases hs

theorem Inv.preadsStep {base owner : Str} {s s' : NetworkCollector} {content : Option Str} (h : Inv base s owner)
    (hs : preadsStep s content = some s') : Inv base s' owner := by
  have hprogress := h.progress
  unfold NetworkCollector.preadsStep at hs
  split at hs
  · rename_i i fd closed metrics reads hpc
    rw [hpc] at hprogress
    obtain ⟨hgathered, rfl, _⟩ := hprogress
    have hsafe : (s.stale || false) = false := by rw [Bool.or_false]; exact h.safe.2
    split at hs
    · cases hs; exact h.collects rfl rfl rfl trivial (.inr rfl) ⟨h.safe.1, hsafe⟩
    · cases hs; exact h.collects rfl rfl rfl trivial (.inr rfl) ⟨h.safe.1, hsafe⟩
    · cases hs
      refine h.collects rfl rfl rfl hgathered (.inl ?_) ⟨h.safe.1, hsafe⟩
      unfold taken
      rw [hpc]
  · cases hs

/-! ## Runs -/

theorem inv_step {base owner : Str} {s s' : NetworkCollector} {l : Step} (h : Inv base s owner)
    (hapart : apart base s l = true) (hs : step base s l = some s') : ∃ owner', Inv base s' owner' := by
  cases l with
  | setInterface interface =>
    unfold step at hs
    dsimp only at hs
    split at hs
    · rename_i hpc
      cases hs
      -- the closing loop starts: nothing has changed yet
      have hsets : Sets base s { s with setting := .closing interface 0 } owner owner :=
        .of_live h.entries (fun i fd hi => ⟨hi.1, by rw [hpc]; simp⟩) (fun _ _ _ => rfl) h.entries.fields
          h.entries.bounded ⟨by decide, fun j hj => absurd hj (by omega)⟩
      refine ⟨owner, h.sets hsets h.progress rfl h.safe ?_⟩
      intro fd hfd
      rw [hpc] at hfd
      cases hfd
    · cases hs
  | setting =>
    obtain ⟨owner', hsets⟩ := sets_settingStep h.entries hs
    obtain ⟨hprogress, htaken, hreturned, hstale⟩ := settingStep_collecting h hapart hs
    refine ⟨owner', h.sets hsets hprogress htaken ?_ fun fd hpc => apart_assigning hapart hpc rfl⟩
    exact ⟨by rw [hreturned]; exact h.safe.1, by rw [hstale]; exact h.safe.2⟩
  | opens fd =>
    obtain ⟨hprogress, htaken, hreturned, hstale⟩ := opensStep_collecting h hs
    refine ⟨owner, h.sets (sets_opensStep h.entries hs) hprogress htaken ?_ ?_⟩
    · exact ⟨by rw [hreturned]; exact h.safe.1, by rw [hstale]; exact h.safe.2⟩
    · intro d hpc
      unfold step opensStep at hs
      rw [hpc] at hs
      cases hs
  | collect =>
    unfold step at hs
    dsimp only at hs
    split at hs
    · cases hs; exact ⟨owner, h.collects rfl rfl rfl trivial (.inr rfl) h.safe⟩
    · cases hs
  | collecting => exact ⟨owner, h.collectingStep hapart hs⟩
  | preads content => exact ⟨owner, h.preadsStep hs⟩

/-- In every run whose steps keep the two calls apart, all snapshots are of one interface and no read
goes to a closed descriptor. -/
theorem safe_of_apart (netStatsBase : Str) {ls : List Step} {s : NetworkCollector}
    (h : LTS.run (LTS.restrict (fun s l => apart netStatsBase s l = true) (step netStatsBase)) {} ls = some s) :
    Safe netStatsBase s := by
  have hinv : ∃ owner, Inv netStatsBase s owner := by
    refine LTS.run_invariant (P := fun s => ∃ owner, Inv netStatsBase s owner) ?_ h ⟨[], inv_init netStatsBase⟩
    rintro t l t' ⟨owner, ht⟩ hl
    obtain ⟨hapart, hstep⟩ := LTS.restrict_eq_some.1 hl
    exact inv_step ht hapart hstep
  obtain ⟨owner, hinv⟩ := hinv
  exact hinv.safe

/-! ## Two runs -/

/-- The opens of one `setInterface`, with the descriptors they give. -/
def openSteps (fds : List Nat) : List Step := fds.flatMap fun fd => [.setting, .opens (some fd), .setting]

/-- The reads of `collect`, with what the files hold. -/
def readSteps (contents : List String) : List Step :=
  contents.flatMap fun content => [.collecting, .preads (some content.toList), .collecting]

theorem safe_of_apart_between :
    ∃ s, LTS.run (LTS.restrict (fun s l => apart "net".toList s l = true) (step "net".toList)) {}
        ([Step.setInterface "eth0".toList] ++ List.replicate 8 Step.setting ++ [Step.collect, Step.collecting] ++
          openSteps [3, 4, 5, 6, 7, 8, 9] ++ readSteps ["10", "11", "12", "13", "14", "15", "16"]) = some s ∧
      s.returned.length = 1 ∧ Safe "net".toList s := by
  have hsome : ((LTS.run (LTS.restrict (fun s l => apart "net".toList s l = true) (step "net".toList)) {}
        ([Step.setInterface "eth0".toList] ++ List.replicate 8 Step.setting ++ [Step.collect, Step.collecting] ++
          openSteps [3, 4, 5, 6, 7, 8, 9] ++ readSteps ["10", "11", "12", "13", "14", "15", "16"])).map
      fun s => s.returned.length) = some 1 := by
    decide +kernel
  obtain ⟨s, hs, hlength⟩ := Option.map_eq_some_iff.1 hsome
  exact ⟨s, hs, hlength, safe_of_apart "net".toList hs⟩

theorem metricPath_injective {base interface interface' : Str} {m : MetricDef}
    (h : metricPath base interface m = metricPath base interface' m) : interface = interface' := by
  unfold metricPath at h
  simpa using h

/-- A port event for `eth1` while a snapshot of `eth0` is taken: its first counter is that of `eth0`,
and all others are those of `eth1`. -/
theorem returned_mixed :
    ∃ ls s, LTS.run (step "net".toList) {} ls = some s ∧ ¬ Safe "net".toList s := by
  let ls : List Step :=
    [Step.setInterface "eth0".toList] ++ List.replicate 8 Step.setting ++ openSteps [3, 4, 5, 6, 7, 8, 9] ++
      [Step.collect, Step.collecting] ++ readSteps ["10"] ++
      [Step.setInterface "eth1".toList] ++ List.replicate 15 Step.setting ++ openSteps [3, 4, 5, 6, 7, 8, 9] ++
      readSteps ["21", "22", "23", "24", "25", "26"]
  have hfiles : ((LTS.run (step "net".toList) {} ls).map fun s => s.returned.map fun r => r.2.map Read.file) =
      some [interfaceFiles "net".toList "eth0".toList 1 ++ (interfaceFiles "net".toList "eth1".toList 7).drop 1] := by
    decide +kernel
  obtain ⟨s, hs, hreturned⟩ := Option.map_eq_some_iff.1 hfiles
  refine ⟨ls, s, hs, fun hsafe => ?_⟩
  obtain ⟨r, hr, hreads⟩ : ∃ r ∈ s.returned, r.2.map Read.file =
      interfaceFiles "net".toList "eth0".toList 1 ++ (interfaceFiles "net".toList "eth1".toList 7).drop 1 := by
    apply List.mem_map.1
    rw [hreturned]
    exact List.mem_singleton_self _
  obtain ⟨interface, hone, _⟩ := oneInterface_iff.1 (hsafe.1 r hr)
  rw [hreads] at hone
  injection hone with hfirst hone
  injection hone with hsecond _
  have heth0 : "eth0".toList = interface := metricPath_injective (Option.some.inj hfirst)
  have heth1 : "eth1".toList = interface := metricPath_injective (Option.some.inj hsecond)
  exact absurd (heth0.trans heth1.symm) (by decide)

end NetworkCollector

end TimeAgent
