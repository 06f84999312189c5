/-
`TemperatureCollector` over a hwmon tree: two nested directory scans through a map keyed by the
sensor name, and the readings of the zones they register. Whatever order the iterators yield, every
zone of every configured sensor is read once, unless a directory is overwritten in the map by a
later one of the same name or a number is too long for one read.
-/
import TimeAgent.Lib.Assoc
import TimeAgent.Metrics.Basic
import Mathlib.Data.List.Nodup

namespace TimeAgent

open CText CNum

/-! ## The hwmon tree -/

/-- A file: whether it can be opened, and what a read gives (`none` when reading fails). -/
structure File where
  opens : Bool := true
  content : Option Str
  deriving DecidableEq

/-- `std::getline` on an `ifstream` of the file. -/
def File.firstLine (f : File) : Option Str :=
  if f.opens then (f.content.bind getline).map Prod.fst else none

/-- An entry of the hwmon directory: its files, and the names its own iterator yields before it
ends or throws, which finish the scan of the entry alike. -/
structure HwmonEntry where
  path : Str
  isDirectory : Bool := true
  files : List (Str × File)
  yields : List Str
  deriving DecidableEq

def HwmonEntry.file (dir : HwmonEntry) (name : Str) : Option File := dir.files.lookup name

/-- What the iterator over the hwmon directory yields, in its order, whether it then throws, and the
paths for which `fs::exists` throws (their status is an error, as behind a loop of links). -/
structure Hwmon where
  entries : List HwmonEntry
  fails : Bool := false
  statThrows : Str → Bool := fun _ => false

/-- The order in which a pass over an `std::unordered_map` yields the entries. -/
structure MapOrder where
  order : List (Str × HwmonEntry) → List (Str × HwmonEntry)
  perm : ∀ l, (order l).Perm l

/-! ## The collector -/

/-- `fd` is the open file. -/
structure TempZone where
  sensor : Str
  label : Str
  inputPath : Str
  fd : File
  deriving DecidableEq

structure TemperatureCollector where
  tempZones : List TempZone
  deriving DecidableEq

namespace TemperatureCollector

/-- The name of a directory, from its file `name`. -/
def sensorName (dir : HwmonEntry) : Option Str :=
  if dir.isDirectory then (dir.file "name".toList).bind File.firstLine else none

/-- The writes to `sensorToPath` of the first scan. -/
def matching (sensors : List Str) (entries : List HwmonEntry) : List (Str × HwmonEntry) :=
  entries.filterMap fun dir =>
    match sensorName dir with
    | some name => if name ∈ sensors then some (name, dir) else none
    | none => none

def inputName (num : Int) : Str := "temp".toList ++ (Numeral.ofInt num).text ++ "_input".toList

def inputPath (dir : HwmonEntry) (num : Int) : Str := dir.path ++ '/' :: inputName num

/-- What leaves the body of the second scan: a `filesystem_error`, or a throw of `std::stoi`. -/
inductive ScanError
  | filesystem
  | number (e : NumError)
  deriving DecidableEq

/-- The body of the second scan: the zone of one file, if it names one. -/
def zone (statThrows : Str → Bool) (sensor : Str) (dir : HwmonEntry) (filename : Str) :
    Except ScanError (Option TempZone) :=
  if ¬ "temp".toList <+: filename ∨ contains filename "_label".toList = false then .ok none
  else
    match stoi (filename.drop 4) with
    | .error e => .error (.number e)
    | .ok num =>
      match (dir.file filename).bind File.firstLine with
      | none => .ok none
      | some label =>
        if statThrows (inputPath dir num) then .error .filesystem
        else
          match dir.file (inputName num) with
          | none => .ok none
          | some input =>
            if input.opens then .ok (some { sensor, label, inputPath := inputPath dir num, fd := input })
            else .ok none

/-- The second scan of one directory. A `filesystem_error` is caught behind the loop, with the zones
registered so far; a throw of `std::stoi` is none and leaves the constructor. -/
def scanZones (statThrows : Str → Bool) (sensor : Str) (dir : HwmonEntry) : List Str → Except NumError (List TempZone)
  | [] => .ok []
  | filename :: filenames =>
    match zone statThrows sensor dir filename with
    | .error .filesystem => .ok []
    | .error (.number e) => .error e
    | .ok z => do
      let zones ← scanZones statThrows sensor dir filenames
      return z.toList ++ zones

def scanSensors (statThrows : Str → Bool) : List (Str × HwmonEntry) → Except NumError (List TempZone)
  | [] => .ok []
  | (sensor, dir) :: rest => do
    let zones ← scanZones statThrows sensor dir dir.yields
    let more ← scanSensors statThrows rest
    return zones ++ more

def new (sensors : List Str) (hwmon : Hwmon) (order : MapOrder) : Except NumError TemperatureCollector :=
  if hwmon.fails then .ok { tempZones := [] }
  else do
    let tempZones ← scanSensors hwmon.statThrows
      (order.order (Assoc.assignAll [] (matching sensors hwmon.entries)))
    return { tempZones }

/-- `sizeof(buf) - 1`. -/
def cap : Nat := 16 - 1

/-- The number one read of at most 15 bytes gives. -/
def temperature (f : File) : Option Int :=
  match pread f.content cap with
  | none => none
  | some data =>
    if data.length = 0 then none
    else
      match fromCharsInt data with
      | .ok (temp, _) => some temp
      | .error _ => none

def collect (c : TemperatureCollector) : TemperatureStats where
  zonesReadings := c.tempZones.filterMap fun z =>
    (temperature z.fd).map fun temp => { sensor := z.sensor, label := z.label, temperature := temp }

end TemperatureCollector

/-! ## Canonical trees -/

/-- `tempN_label` and `tempN_input`. -/
def zoneFile (n : Nat) (suffix : String) : Str := "temp".toList ++ ((Numeral.ofNat n).text ++ suffix.toList)

/-- A directory whose iterator yields every file once, and whose zone labels are numbered. -/
structure HwmonEntry.Canonical (dir : HwmonEntry) : Prop where
  nodup : (dir.files.map Prod.fst).Nodup
  yieldsAll : dir.yields.Perm (dir.files.map Prod.fst)
  numbered : ∀ name ∈ dir.files.map Prod.fst, "temp".toList <+: name → contains name "_label".toList = true →
    ∃ n < 2 ^ 31, name = zoneFile n "_label"

/-- The number of a zone label. -/
def labelNumber (name : Str) : Option Nat :=
  let n := decVal ((name.drop 4).takeWhile Char.isDigit)
  if name = zoneFile n "_label" then some n else none

/-- The numbers of the zones of a directory. -/
def HwmonEntry.zones (dir : HwmonEntry) : List Nat := (dir.files.map Prod.fst).filterMap labelNumber

/-- The label of zone `n` and the text of its input, where the label has a first line and the input
opens and reads. -/
def HwmonEntry.zoneText (dir : HwmonEntry) (n : Nat) : Option (Str × Str) := do
  let label ← (dir.file (zoneFile n "_label")).bind File.firstLine
  let input ← dir.file (zoneFile n "_input")
  let text ← if input.opens then input.content else none
  return (label, text)

/-- The reading of zone `n`, for a way to take a number from the input. -/
def HwmonEntry.readingBy (dir : HwmonEntry) (number : Str → Option Int) (sensor : Str) (n : Nat) :
    Option TemperatureMetric :=
  (dir.zoneText n).bind fun z => (number z.2).map fun temperature => { sensor, label := z.1, temperature }

/-- The reading of zone `n`: the integer that its input starts with. -/
def HwmonEntry.reading (dir : HwmonEntry) : Str → Nat → Option TemperatureMetric := dir.readingBy intAt

/-- The readings a tree holds for the configured sensors. -/
def expected (sensors : List Str) (entries : List HwmonEntry) : List TemperatureMetric :=
  (TemperatureCollector.matching sensors entries).flatMap fun e => e.2.zones.filterMap (e.2.reading e.1)

/-! ## Zone files -/

theorem prefix_zoneFile (n : Nat) (suffix : String) : "temp".toList <+: zoneFile n suffix := List.prefix_append _ _

theorem contains_zoneFile (n : Nat) : contains (zoneFile n "_label") "_label".toList = true := by
  have := contains_append ("temp".toList ++ (Numeral.ofNat n).text) "_label".toList []
  simpa [zoneFile] using this

theorem drop_zoneFile (n : Nat) (suffix : String) :
    (zoneFile n suffix).drop 4 = (Numeral.ofNat n).text ++ suffix.toList := rfl

theorem inputName_ofNat (n : Nat) : TemperatureCollector.inputName n = zoneFile n "_input" := by
  unfold TemperatureCollector.inputName zoneFile
  have h : Numeral.ofInt n = Numeral.ofNat n := by
    unfold Numeral.ofInt Numeral.ofNat
    simp
  rw [h, List.append_assoc]

theorem labelNumber_zoneFile (n : Nat) : labelNumber (zoneFile n "_label") = some n := by
  have hdigits : ((zoneFile n "_label").drop 4).takeWhile Char.isDigit = (Numeral.ofNat n).digits := by
    rw [drop_zoneFile]
    exact takeWhile_run (Numeral.ofNat n).dec (by simp)
  have hval : decVal (Numeral.ofNat n).digits = n := Numeral.decVal_toDigits n
  unfold labelNumber
  rw [hdigits, hval]
  simp

theorem labelNumber_some {name : Str} {n : Nat} (h : labelNumber name = some n) : name = zoneFile n "_label" := by
  unfold labelNumber at h
  dsimp only at h
  split at h
  · rename_i heq
    cases h
    exact heq
  · cases h

theorem stoi_zoneFile {n : Nat} (h : n < 2 ^ 31) : stoi ((zoneFile n "_label").drop 4) = .ok (n : Int) := by
  have hr : InInt32 (Numeral.ofNat n).value := by
    rw [Numeral.value_ofNat]; unfold InInt32; omega
  rw [drop_zoneFile, stoi_text (Numeral.ofNat n) (by simp) hr, Numeral.value_ofNat]

/-! ## The scans of a canonical tree -/

namespace TemperatureCollector

/-- The zone registered for number `n`. -/
def zoneAt (sensor : Str) (dir : HwmonEntry) (n : Nat) : Option TempZone := do
  let label ← (dir.file (zoneFile n "_label")).bind File.firstLine
  let input ← dir.file (zoneFile n "_input")
  if input.opens then some { sensor, label, inputPath := inputPath dir n, fd := input } else none

theorem zone_label (sensor : Str) (dir : HwmonEntry) {n : Nat} (h : n < 2 ^ 31) :
    zone (fun _ => false) sensor dir (zoneFile n "_label") = .ok (zoneAt sensor dir n) := by
  have hpass : ¬ (¬ "temp".toList <+: zoneFile n "_label" ∨
      contains (zoneFile n "_label") "_label".toList = false) := by
    rw [contains_zoneFile n]
    exact fun h => h.elim (fun h => h (prefix_zoneFile n _)) (fun h => by cases h)
  unfold zone zoneAt
  rw [if_neg hpass, stoi_zoneFile h]
  dsimp only
  rw [inputName_ofNat]
  cases (dir.file (zoneFile n "_label")).bind File.firstLine with
  | none => rfl
  | some label =>
    cases dir.file (zoneFile n "_input") with
    | none => rfl
    | some input => cases hopen : input.opens <;> simp [hopen]

/-- Other files are passed over, and they are no labels. -/
theorem zone_other (statThrows : Str → Bool) (sensor : Str) (dir : HwmonEntry) {name : Str}
    (h : ¬ "temp".toList <+: name ∨ contains name "_label".toList = false) :
    zone statThrows sensor dir name = .ok none ∧ labelNumber name = none := by
  constructor
  · unfold zone
    rw [if_pos h]
  · cases hn : labelNumber name with
    | none => rfl
    | some n =>
      rw [labelNumber_some hn, contains_zoneFile n] at h
      exact (h.elim (fun h => h (prefix_zoneFile n _)) (fun h => by cases h)).elim

theorem scanZones_canonical (sensor : Str) (dir : HwmonEntry) {names : List Str}
    (h : ∀ name ∈ names, "temp".toList <+: name → contains name "_label".toList = true →
      ∃ n < 2 ^ 31, name = zoneFile n "_label") :
    scanZones (fun _ => false) sensor dir names =
      .ok ((names.filterMap labelNumber).filterMap (zoneAt sensor dir)) := by
  induction names with
  | nil => rfl
  | cons name names ih =>
    have htail := ih fun m hm => h m (List.mem_cons_of_mem _ hm)
    rw [scanZones, htail, List.filterMap_cons]
    by_cases hskip : ¬ "temp".toList <+: name ∨ contains name "_label".toList = false
    · obtain ⟨hzone, hlabel⟩ := zone_other (fun _ => false) sensor dir hskip
      rw [hzone, hlabel]
      rfl
    · rw [not_or, not_not, Bool.not_eq_false] at hskip
      obtain ⟨n, hn, rfl⟩ := h name List.mem_cons_self hskip.1 hskip.2
      rw [zone_label sensor dir hn, labelNumber_zoneFile]
      dsimp only
      rw [List.filterMap_cons]
      cases zoneAt sensor dir n <;> rfl

theorem scanSensors_canonical (l : List (Str × HwmonEntry)) (h : ∀ e ∈ l, e.2.Canonical) :
    scanSensors (fun _ => false) l =
      .ok (l.flatMap fun e => (e.2.yields.filterMap labelNumber).filterMap (zoneAt e.1 e.2)) := by
  induction l with
  | nil => rfl
  | cons e l ih =>
    obtain ⟨sensor, dir⟩ := e
    have hdir : dir.Canonical := h _ List.mem_cons_self
    have hnames : ∀ name ∈ dir.yields, "temp".toList <+: name → contains name "_label".toList = true →
        ∃ n < 2 ^ 31, name = zoneFile n "_label" :=
      fun name hn => hdir.numbered name (hdir.yieldsAll.mem_iff.1 hn)
    rw [scanSensors, scanZones_canonical sensor dir hnames, ih fun e he => h e (List.mem_cons_of_mem _ he)]
    rfl

/-- The reading of a registered zone. -/
def zoneReading (z : TempZone) : Option TemperatureMetric :=
  (temperature z.fd).map fun temp => { sensor := z.sensor, label := z.label, temperature := temp }

/-- One read of the input gives the integer that its first bytes start with. -/
theorem temperature_eq (f : File) : temperature f = f.content.bind fun text => intAt (text.take cap) := by
  unfold temperature pread
  cases f.content with
  | none => rfl
  | some text =>
    rw [Option.map_some, Option.bind_some]
    dsimp only
    split
    · rename_i hempty
      rw [List.length_eq_zero_iff.1 hempty]
      rfl
    · rw [← fromCharsInt_eq]
      cases fromCharsInt (text.take cap) <;> rfl

/-- The reading that the first bytes of the input give. -/
def frontReading (dir : HwmonEntry) : Str → Nat → Option TemperatureMetric :=
  dir.readingBy fun text => intAt (text.take cap)

theorem zoneAt_reading (sensor : Str) (dir : HwmonEntry) (n : Nat) :
    (zoneAt sensor dir n).bind zoneReading = frontReading dir sensor n := by
  unfold zoneAt frontReading HwmonEntry.readingBy HwmonEntry.zoneText
  cases (dir.file (zoneFile n "_label")).bind File.firstLine with
  | none => rfl
  | some label =>
    cases dir.file (zoneFile n "_input") with
    | none => rfl
    | some input =>
      have hread := temperature_eq input
      cases hopen : input.opens with
      | false => simp [hopen]
      | true => cases hcontent : input.content <;> simp [hopen, hcontent, zoneReading, hread]

/-- The map entry a directory writes. -/
theorem mem_matching_step {sensors : List Str} {dir : HwmonEntry} {e : Str × HwmonEntry} :
    (match sensorName dir with
      | some name => if name ∈ sensors then some (name, dir) else none
      | none => none) = some e ↔ sensorName dir = some e.1 ∧ e.1 ∈ sensors ∧ e.2 = dir := by
  obtain ⟨name, dir'⟩ := e
  cases sensorName dir with
  | none => simp
  | some name' =>
    dsimp only
    split
    · constructor
      · intro h; cases h; exact ⟨rfl, ‹_›, rfl⟩
      · rintro ⟨h1, _, h3⟩; cases h1; cases h3; rfl
    · constructor
      · intro h; cases h
      · rintro ⟨h1, h2, _⟩; cases h1; exact absurd h2 ‹_›

theorem canonical_of_mem_matching {sensors : List Str} {entries : List HwmonEntry}
    (h : ∀ dir ∈ entries, dir.Canonical) {e : Str × HwmonEntry} (he : e ∈ matching sensors entries) :
    e.2.Canonical := by
  obtain ⟨dir, hdir, hstep⟩ := List.mem_filterMap.1 he
  obtain ⟨_, _, rfl⟩ := mem_matching_step.1 hstep
  exact h _ hdir

/-- What `new` and `collect` make of a canonical tree: the readings of the directories that the
map keeps, in the order in which the map and the iterators yield them. -/
theorem collect_canonical (sensors : List Str) (order : MapOrder) {entries : List HwmonEntry}
    (h : ∀ dir ∈ entries, dir.Canonical) :
    ∃ c, new sensors { entries } order = .ok c ∧
      c.collect.zonesReadings = (order.order (Assoc.lastOnly (matching sensors entries))).flatMap fun e =>
        (e.2.yields.filterMap labelNumber).filterMap (frontReading e.2 e.1) := by
  have hkept : ∀ e ∈ order.order (Assoc.lastOnly (matching sensors entries)), e.2.Canonical := by
    intro e he
    exact canonical_of_mem_matching h (Assoc.lastOnly_subset _ ((order.perm _).mem_iff.1 he))
  unfold new
  rw [if_neg Bool.false_ne_true, Assoc.assignAll_nil, scanSensors_canonical _ hkept]
  refine ⟨_, rfl, ?_⟩
  unfold collect
  show (List.flatMap _ _).filterMap zoneReading = _
  rw [List.filterMap_flatMap]
  congr 1
  funext e
  rw [List.filterMap_filterMap]
  congr 1
  funext n
  exact zoneAt_reading e.1 e.2 n

/-- The directories' own order of yielding does not matter. -/
theorem yields_perm {dir : HwmonEntry} (h : dir.Canonical) (sensor : Str) :
    ((dir.yields.filterMap labelNumber).filterMap (frontReading dir sensor)).Perm
      (dir.zones.filterMap (frontReading dir sensor)) :=
  (h.yieldsAll.filterMap _).filterMap _

/-! ## When every zone is read -/

/-- No configured directory with a reading is followed, in the order of the first scan, by another
directory of its name. -/
def NoLaterNamesake (sensors : List Str) (entries : List HwmonEntry) : Prop :=
  entries.Pairwise fun dir later => ∀ name ∈ sensorName dir, name ∈ sensors → sensorName later = some name →
    dir.zones.filterMap (dir.reading name) = []

theorem noLaterNamesake_iff (sensors : List Str) (entries : List HwmonEntry) :
    NoLaterNamesake sensors entries ↔ (matching sensors entries).Pairwise fun e e' =>
      e'.1 = e.1 → e.2.zones.filterMap (e.2.reading e.1) = [] := by
  unfold NoLaterNamesake matching
  rw [List.pairwise_filterMap]
  refine List.Pairwise.iff fun dir later => ?_
  constructor
  · intro h e he e' he' hkey
    obtain ⟨hname, hmem, hdir⟩ := mem_matching_step.1 he
    obtain ⟨hname', _, _⟩ := mem_matching_step.1 he'
    rw [hdir]
    exact h e.1 hname hmem (by rw [hname', hkey])
  · intro h name hname hmem hlater
    exact h (name, dir) (mem_matching_step.2 ⟨hname, hmem, rfl⟩) (name, later)
      (mem_matching_step.2 ⟨hlater, hmem, rfl⟩) rfl

theorem noLaterNamesake_iff_overwritten (sensors : List Str) (entries : List HwmonEntry) :
    NoLaterNamesake sensors entries ↔
      (Assoc.overwritten (matching sensors entries)).flatMap (fun e => e.2.zones.filterMap (e.2.reading e.1)) = [] := by
  rw [noLaterNamesake_iff, Assoc.flatMap_overwritten_eq_nil_iff]

/-- One read is enough for the number in the input of zone `n`. -/
def ReadAtOnce (dir : HwmonEntry) (n : Nat) : Prop := ∀ z ∈ dir.zoneText n, FitsFront cap z.2

instance (dir : HwmonEntry) (n : Nat) : Decidable (ReadAtOnce dir n) :=
  inferInstanceAs (Decidable (∀ z ∈ dir.zoneText n, _))

/-- The directories of the configured sensors, of those of one name the last. -/
def lastOfName (sensors : List Str) (entries : List HwmonEntry) : List (Str × HwmonEntry) :=
  Assoc.lastOnly (matching sensors entries)

def AllReadAtOnce (sensors : List Str) (entries : List HwmonEntry) : Prop :=
  ∀ e ∈ lastOfName sensors entries, ∀ n ∈ e.2.zones, ReadAtOnce e.2 n

/-- The zones of these directories whose number is too long for one read. -/
def longZones (sensors : List Str) (entries : List HwmonEntry) : List ((Str × HwmonEntry) × Nat) :=
  (lastOfName sensors entries).flatMap fun e => (e.2.zones.filter fun n => ¬ ReadAtOnce e.2 n).map fun n => (e, n)

/-- The readings of the overwritten directories and of the numbers that are too long. -/
def unread (sensors : List Str) (entries : List HwmonEntry) : List TemperatureMetric :=
  (Assoc.overwritten (matching sensors entries)).flatMap (fun e => e.2.zones.filterMap (e.2.reading e.1)) ++
    (longZones sensors entries).filterMap fun z => z.1.2.reading z.1.1 z.2

/-- What the first bytes of the numbers that are too long read. -/
def misread (sensors : List Str) (entries : List HwmonEntry) : List TemperatureMetric :=
  (longZones sensors entries).filterMap fun z => frontReading z.1.2 z.1.1 z.2

theorem longZones_eq_nil_iff (sensors : List Str) (entries : List HwmonEntry) :
    longZones sensors entries = [] ↔ AllReadAtOnce sensors entries := by
  unfold longZones AllReadAtOnce
  simp only [List.flatMap_eq_nil_iff, List.map_eq_nil_iff, List.filter_eq_nil_iff, decide_eq_true_eq, not_not]

theorem frontReading_of_readAtOnce {dir : HwmonEntry} {n : Nat} (h : ReadAtOnce dir n) (sensor : Str) :
    frontReading dir sensor n = dir.reading sensor n := by
  unfold ReadAtOnce at h
  unfold frontReading HwmonEntry.reading HwmonEntry.readingBy
  cases hz : dir.zoneText n with
  | none => rfl
  | some z =>
    rw [Option.bind_some, Option.bind_some]
    dsimp only
    rw [intAt_of_fitsFront (by decide) (h z hz)]

/-- In the place of a number that is too long one nearer to 0 is read, if it has a reading at all. -/
theorem frontReading_of_not_readAtOnce {dir : HwmonEntry} {n : Nat} (h : ¬ ReadAtOnce dir n) (sensor : Str) :
    ∃ front, frontReading dir sensor n = some front ∧
      ∀ reading ∈ dir.reading sensor n, front.temperature.natAbs < reading.temperature.natAbs := by
  unfold ReadAtOnce at h
  simp only [not_forall] at h
  obtain ⟨z, hz, hlong⟩ := h
  obtain ⟨v, hv, hless⟩ := intAt_of_not_fitsFront (by decide) hlong
  unfold frontReading HwmonEntry.reading HwmonEntry.readingBy
  rw [hz, Option.bind_some, Option.bind_some]
  dsimp only
  rw [hv]
  refine ⟨_, rfl, fun reading hreading => ?_⟩
  obtain ⟨w, hw, rfl⟩ := Option.map_eq_some_iff.1 hreading
  exact hless w hw

/-- The zones one after the other, those that are read at once in front. -/
theorem filterMap_zones_perm (dir : HwmonEntry) (f : Nat → Option TemperatureMetric) :
    (dir.zones.filterMap f).Perm ((dir.zones.filter fun n => ReadAtOnce dir n).filterMap f ++
      (dir.zones.filter fun n => ¬ ReadAtOnce dir n).filterMap f) := by
  have hsplit := (List.filter_append_perm (fun n => decide (ReadAtOnce dir n)) dir.zones).filterMap f
  rw [List.filterMap_append] at hsplit
  simpa only [decide_not] using hsplit.symm

/-- All zones of the directories, those that are too long behind. -/
theorem flatMap_zones_perm (sensors : List Str) (entries : List HwmonEntry)
    (f : HwmonEntry → Str → Nat → Option TemperatureMetric) :
    ((lastOfName sensors entries).flatMap fun e => e.2.zones.filterMap (f e.2 e.1)).Perm
      (((lastOfName sensors entries).flatMap fun e =>
          (e.2.zones.filter fun n => ReadAtOnce e.2 n).filterMap (f e.2 e.1)) ++
        (longZones sensors entries).filterMap fun z => f z.1.2 z.1.1 z.2) := by
  have hlong : (longZones sensors entries).filterMap (fun z => f z.1.2 z.1.1 z.2) =
      (lastOfName sensors entries).flatMap fun e =>
        (e.2.zones.filter fun n => ¬ ReadAtOnce e.2 n).filterMap (f e.2 e.1) := by
    unfold longZones
    rw [List.filterMap_flatMap]
    congr 1
    funext e
    rw [List.filterMap_map]
    rfl
  rw [hlong]
  refine (List.Perm.flatMap_left _ fun e _ => filterMap_zones_perm e.2 (f e.2 e.1)).trans ?_
  exact (List.flatMap_append_perm _ _ _).symm

/-- The tree holds what is read where it is, and in the place of the misread readings the unread ones. -/
theorem perm_expected_iff (sensors : List Str) (entries : List HwmonEntry) :
    ((lastOfName sensors entries).flatMap fun e => e.2.zones.filterMap (frontReading e.2 e.1)).Perm
        (expected sensors entries) ↔
      (misread sensors entries).Perm (unread sensors entries) := by
  have hfront := flatMap_zones_perm sensors entries frontReading
  have htrue := flatMap_zones_perm sensors entries HwmonEntry.reading
  have hsame : ((lastOfName sensors entries).flatMap fun e =>
      (e.2.zones.filter fun n => ReadAtOnce e.2 n).filterMap (frontReading e.2 e.1)) =
      (lastOfName sensors entries).flatMap fun e =>
        (e.2.zones.filter fun n => ReadAtOnce e.2 n).filterMap (e.2.reading e.1) := by
    congr 1
    funext e
    refine List.filterMap_congr fun n hn => frontReading_of_readAtOnce ?_ e.1
    exact of_decide_eq_true (List.mem_filter.1 hn).2
  rw [hsame] at hfront
  have hexpected : (expected sensors entries).Perm
      (((lastOfName sensors entries).flatMap fun e =>
          (e.2.zones.filter fun n => ReadAtOnce e.2 n).filterMap (e.2.reading e.1)) ++ unread sensors entries) := by
    unfold expected unread
    refine ((Assoc.perm_lastOnly_append_overwritten _).flatMap_right _).trans ?_
    rw [List.flatMap_append]
    refine (htrue.append_right _).trans ?_
    rw [List.append_assoc]
    exact List.perm_append_comm.append_left _
  constructor
  · intro h
    exact (List.perm_append_left_iff _).1 (hfront.symm.trans (h.trans hexpected))
  · intro h
    exact hfront.trans ((h.append_left _).trans hexpected.symm)

/-- Readings that are each nearer to 0 than another, or there is none, are others. -/
theorem eq_nil_of_nearer {α β : Type} {f g : α → Option β} (size : β → Nat) {l : List α}
    (h : ∀ a ∈ l, ∃ b, g a = some b ∧ ∀ c ∈ f a, size b < size c) (hperm : (l.filterMap g).Perm (l.filterMap f)) :
    l = [] := by
  -- as many readings of each kind as there are would make their sizes differ
  have hsizes : (l.filterMap f).length ≤ (l.filterMap g).length ∧
      ((l.filterMap f).length = (l.filterMap g).length →
        ((l.filterMap g).map size).sum + l.length ≤ ((l.filterMap f).map size).sum) := by
    clear hperm
    induction l with
    | nil => exact ⟨Nat.le_refl _, fun _ => Nat.le_refl _⟩
    | cons a l ih =>
      obtain ⟨b, hb, hless⟩ := h a List.mem_cons_self
      obtain ⟨hle, hsum⟩ := ih fun a ha => h a (List.mem_cons_of_mem _ ha)
      rw [List.filterMap_cons, List.filterMap_cons, hb]
      cases hf : f a with
      | none =>
        simp only [List.length_cons]
        exact ⟨by omega, fun heq => by omega⟩
      | some c =>
        have hlt := hless c hf
        simp only [List.length_cons, List.map_cons, List.sum_cons]
        exact ⟨by omega, fun heq => by have := hsum (by omega); omega⟩
  have hle := hsizes.2 hperm.length_eq.symm
  rw [(hperm.map size).sum_nat] at hle
  exact List.length_eq_zero_iff.1 (by omega)

/-- What is lost is what is made up in its place only where nothing is, or where both happen. -/
theorem misread_perm_unread_iff (sensors : List Str) (entries : List HwmonEntry) :
    (misread sensors entries).Perm (unread sensors entries) ↔
      NoLaterNamesake sensors entries ∧ AllReadAtOnce sensors entries ∨
        ¬ NoLaterNamesake sensors entries ∧ ¬ AllReadAtOnce sensors entries ∧
          (misread sensors entries).Perm (unread sensors entries) := by
  by_cases hlast : NoLaterNamesake sensors entries <;> by_cases honce : AllReadAtOnce sensors entries
  · have hlong := (longZones_eq_nil_iff sensors entries).2 honce
    refine iff_of_true ?_ (.inl ⟨hlast, honce⟩)
    unfold misread unread
    rw [hlong, (noLaterNamesake_iff_overwritten sensors entries).1 hlast]
    exact List.Perm.nil
  · -- every misread number would have to be that of another zone
    refine iff_of_false (fun hmade => honce ?_) (by simp [hlast, honce])
    unfold misread unread at hmade
    rw [(noLaterNamesake_iff_overwritten sensors entries).1 hlast, List.nil_append] at hmade
    rw [← longZones_eq_nil_iff]
    refine eq_nil_of_nearer (fun reading => reading.temperature.natAbs) (fun z hz => ?_) hmade
    obtain ⟨e, _, hz⟩ := List.mem_flatMap.1 hz
    obtain ⟨n, hn, rfl⟩ := List.mem_map.1 hz
    exact frontReading_of_not_readAtOnce (of_decide_eq_true (List.mem_filter.1 hn).2) e.1
  · -- nothing is misread in the place of what is unread
    refine iff_of_false (fun hmade => hlast ?_) (by simp [hlast, honce])
    unfold misread unread at hmade
    rw [(longZones_eq_nil_iff sensors entries).2 honce] at hmade
    rw [noLaterNamesake_iff_overwritten]
    exact (List.append_eq_nil_iff.1 hmade.symm.eq_nil).1
  · simp [hlast, honce]

theorem collect_perm_iff_misread (sensors : List Str) (order : MapOrder) {entries : List HwmonEntry}
    (h : ∀ dir ∈ entries, dir.Canonical) :
    (∃ c, new sensors { entries } order = .ok c ∧ c.collect.zonesReadings.Perm (expected sensors entries)) ↔
      (misread sensors entries).Perm (unread sensors entries) := by
  obtain ⟨c, hnew, hreadings⟩ := collect_canonical sensors order h
  have hperm : c.collect.zonesReadings.Perm
      ((lastOfName sensors entries).flatMap fun e => e.2.zones.filterMap (frontReading e.2 e.1)) := by
    rw [hreadings]
    refine ((order.perm _).flatMap_right _).trans ?_
    exact List.Perm.flatMap_left _ fun e he =>
      yields_perm (canonical_of_mem_matching h (Assoc.lastOnly_subset _ he)) e.1
  rw [← perm_expected_iff, hnew]
  constructor
  · rintro ⟨_, hc, hexpected⟩
    cases hc
    exact hperm.symm.trans hexpected
  · intro hexpected
    exact ⟨c, rfl, hperm.trans hexpected⟩

/-- On every canonical tree and for every order of the iterators and of the map: the constructor
returns and `collect` reads every zone of every configured sensor once and nothing else, exactly when
no directory with a reading is overwritten by a later one of its name and one read is enough for every
number; or when neither is so and the unread readings happen to be the misread ones. -/
theorem collect_perm_iff (sensors : List Str) (order : MapOrder) {entries : List HwmonEntry}
    (h : ∀ dir ∈ entries, dir.Canonical) :
    (∃ c, new sensors { entries } order = .ok c ∧ c.collect.zonesReadings.Perm (expected sensors entries)) ↔
      NoLaterNamesake sensors entries ∧ AllReadAtOnce sensors entries ∨
        ¬ NoLaterNamesake sensors entries ∧ ¬ AllReadAtOnce sensors entries ∧
          (misread sensors entries).Perm (unread sensors entries) :=
  (collect_perm_iff_misread sensors order h).trans (misread_perm_unread_iff sensors entries)

/-- A drive with one zone. -/
def drive (path temp : String) : HwmonEntry where
  path := path.toList
  files := [("name".toList, { content := some "nvme\n".toList }),
    ("temp1_label".toList, { content := some "Composite\n".toList }),
    ("temp1_input".toList, { content := some temp.toList })]
  yields := ["temp1_input".toList, "name".toList, "temp1_label".toList]

theorem drive_canonical (path temp : String) : (drive path temp).Canonical := by
  have hnames : (drive path temp).files.map Prod.fst =
      ["name".toList, "temp1_label".toList, "temp1_input".toList] := rfl
  have hyields : (drive path temp).yields = ["temp1_input".toList, "name".toList, "temp1_label".toList] := rfl
  refine ⟨by rw [hnames]; decide, by rw [hnames, hyields]; decide, ?_⟩
  intro name hname _ hlabel
  have hcases : name = "name".toList ∨ name = "temp1_label".toList ∨ name = "temp1_input".toList := by
    simpa [drive] using hname
  rcases hcases with rfl | rfl | rfl
  · exact absurd hlabel (by decide)
  · exact ⟨1, by decide, by decide⟩
  · exact absurd hlabel (by decide)

def yieldOrder : MapOrder := ⟨id, List.Perm.refl⟩

/-- Of two drives of one name only the second is read. -/
theorem collect_two_drives :
    ¬ ∃ c, new ["nvme".toList] { entries := [drive "hwmon0" "40850\n", drive "hwmon1" "35850\n"] } yieldOrder = .ok c ∧
      c.collect.zonesReadings.Perm
        (expected ["nvme".toList] [drive "hwmon0" "40850\n", drive "hwmon1" "35850\n"]) := by
  rintro ⟨c, hnew, hperm⟩
  have hc : new ["nvme".toList] { entries := [drive "hwmon0" "40850\n", drive "hwmon1" "35850\n"] } yieldOrder =
      .ok { tempZones := [{ sensor := "nvme".toList, label := "Composite".toList,
                            inputPath := "hwmon1/temp1_input".toList,
                            fd := { content := some "35850\n".toList } }] } := by
    decide +kernel
  rw [hc] at hnew
  cases hnew
  exact absurd hperm.length_eq (by decide +kernel)

theorem collect_perm_iff_one_drive :
    (∃ c, new ["nvme".toList] { entries := [drive "hwmon0" "40850\n"] } yieldOrder = .ok c ∧
        c.collect.zonesReadings.Perm (expected ["nvme".toList] [drive "hwmon0" "40850\n"])) ↔
      NoLaterNamesake ["nvme".toList] [drive "hwmon0" "40850\n"] ∧
          AllReadAtOnce ["nvme".toList] [drive "hwmon0" "40850\n"] ∨
        ¬ NoLaterNamesake ["nvme".toList] [drive "hwmon0" "40850\n"] ∧
          ¬ AllReadAtOnce ["nvme".toList] [drive "hwmon0" "40850\n"] ∧
          (misread ["nvme".toList] [drive "hwmon0" "40850\n"]).Perm
            (unread ["nvme".toList] [drive "hwmon0" "40850\n"]) := by
  apply collect_perm_iff
  intro dir hdir
  cases List.mem_singleton.1 hdir
  exact drive_canonical _ _

end TemperatureCollector

end TimeAgent
