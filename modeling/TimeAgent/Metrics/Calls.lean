/-
`NetworkCollector` as one thread uses it: calls of `setInterface` and `collect` in any order and the
destructor behind them, over the table of the descriptors that the collector has opened. Between the
calls the open descriptors are those of its entries, and `collect` gives the numbers of the seven files.
-/
import TimeAgent.Lib.Handles
import TimeAgent.Metrics.Network
import Mathlib.Data.List.ReduceOption

namespace TimeAgent

open CText CNum Handles

namespace NetworkCollector

/-! ## The calls -/

/-- The members of a collector, and what its open descriptors refer to. -/
structure Members where
  interface : Str := []
  metricEntries : List MetricEntry := List.replicate kNetworkMetrics.length {}
  files : Table Nat Str := {}

/-- The loop of `closeFds`. -/
def closeEntries : List MetricEntry → Table Nat Str → List MetricEntry × Table Nat Str
  | [], files => ([], files)
  | entry :: entries, files =>
    match entry.fd with
    | none =>
      let (entries, files) := closeEntries entries files
      (entry :: entries, files)
    | some fd =>
      let (entries, files) := closeEntries entries (files.close fd)
      ({ entry with fd := none } :: entries, files)

/-- The loop of `setInterface`, which writes every member of each entry; `answers` are those of the
system to the calls of `open`, which reads the path up to its first NUL. -/
def openMetrics (netStatsBase interface : Str) :
    List MetricDef → List (Option Nat) → Table Nat Str → Option (List MetricEntry × Table Nat Str)
  | [], [], files => some ([], files)
  | m :: ms, fd :: answers, files => do
    let path := metricPath netStatsBase interface m
    let files ← files.opens (cstr path) fd
    let (entries, files) ← openMetrics netStatsBase interface ms answers files
    return ({ path, fd, field := some m.field } :: entries, files)
  | _, _, _ => none

/-- `pread` on a descriptor, where the files hold `content`; it fails on one that is not open. -/
def preadFd (files : Table Nat Str) (content : Nat → Option Str) (fd : Nat) : Option Str :=
  if (files.opened fd).isSome then pread (content fd) (32 - 1) else none

/-- The loop of `collect`; `none` is an undefined behaviour. -/
def collectEntries (files : Table Nat Str) (content : Nat → Option Str) :
    List MetricEntry → NetworkStats → Option (Option NetworkStats)
  | [], metrics => some (some metrics)
  | entry :: entries, metrics =>
    match entry.fd with
    | none => some none
    | some fd =>
      match preadFd files content fd with
      | none | some [] => some none
      | some data =>
        match entry.field, fromCharsU64 data with
        -- writing through a null member pointer
        | none, _ => none
        | some _, .error _ => some none
        | some field, .ok (v, _) => collectEntries files content entries (metrics.set (UInt64.ofNat v) field)

namespace Members

def closeFds (s : Members) : Members :=
  let (metricEntries, files) := closeEntries s.metricEntries s.files
  { s with metricEntries, files }

def setInterface (netStatsBase : Str) (s : Members) (interface : Str) (answers : List (Option Nat)) :
    Option Members := do
  let s := s.closeFds
  let (metricEntries, files) ← openMetrics netStatsBase interface kNetworkMetrics answers s.files
  return { interface, metricEntries, files }

def collect (s : Members) (content : Nat → Option Str) : Option (Option NetworkStats) :=
  if s.interface = [] then some none else collectEntries s.files content s.metricEntries {}

/-- The descriptors behind the destructor. -/
def destroy (s : Members) : Table Nat Str := s.closeFds.files

/-- A call, with what the system contributes. -/
inductive Call
  | setInterface (interface : Str) (answers : List (Option Nat))
  | collect (content : Nat → Option Str)

def call (netStatsBase : Str) (s : Members) : Call → Option Members
  | .setInterface interface answers => s.setInterface netStatsBase interface answers
  | .collect content => (s.collect content).map fun _ => s

/-- The last `setInterface` of the calls so far: its name, and the answers to its calls of `open`. -/
def record (last : Option (Str × List (Option Nat))) : Call → Option (Str × List (Option Nat))
  | .setInterface interface answers => some (interface, answers)
  | .collect _ => last

def lastSet (calls : List Call) : Option (Str × List (Option Nat)) := calls.foldl record none

end Members

/-! ## What the calls keep -/

/-- The entry of a metric, once its file was opened or not. -/
def entryOf (netStatsBase interface : Str) (m : MetricDef) (fd : Option Nat) : MetricEntry :=
  { path := metricPath netStatsBase interface m, fd, field := some m.field }

/-- The descriptors of the entries, each with the file it refers to. -/
def held (entries : List MetricEntry) : List (Nat × Str) :=
  entries.filterMap fun entry => entry.fd.map fun fd => (fd, cstr entry.path)

namespace Members

/-- The entries as the last `setInterface` left them. -/
def AsSet (netStatsBase : Str) (s : Members) : Option (Str × List (Option Nat)) → Prop
  | none => s.interface = [] ∧ s.metricEntries = List.replicate kNetworkMetrics.length {}
  | some (interface, answers) =>
    s.interface = interface ∧ answers.length = kNetworkMetrics.length ∧
      s.metricEntries = List.zipWith (entryOf netStatsBase interface) kNetworkMetrics answers

structure Inv (netStatsBase : Str) (last : Option (Str × List (Option Nat))) (s : Members) : Prop where
  holds : s.files.Holds (held s.metricEntries)
  asSet : s.AsSet netStatsBase last

end Members

@[simp] theorem held_cons (entry : MetricEntry) (entries : List MetricEntry) :
    held (entry :: entries) = (entry.fd.map fun fd => (fd, cstr entry.path)).toList ++ held entries := by
  unfold held
  rw [List.filterMap_cons]
  cases entry.fd <;> rfl

theorem held_fds (entries : List MetricEntry) :
    (held entries).map Prod.fst = entries.filterMap MetricEntry.fd := by
  unfold held
  rw [List.map_filterMap]
  congr 1
  funext entry
  rw [Option.map_map]
  exact Option.map_id' ..

theorem mem_held {entries : List MetricEntry} {fd : Nat} {file : Str} :
    (fd, file) ∈ held entries ↔ ∃ entry ∈ entries, entry.fd = some fd ∧ file = cstr entry.path := by
  unfold held
  rw [List.mem_filterMap]
  refine exists_congr fun entry => and_congr_right fun _ => ?_
  rw [Option.map_eq_some_iff]
  constructor
  · rintro ⟨d, hd, hpair⟩
    cases hpair
    exact ⟨hd, rfl⟩
  · rintro ⟨hfd, rfl⟩
    exact ⟨fd, hfd, rfl⟩

/-- `closeFds` closes what the entries hold, and nothing else. -/
theorem closeEntries_holds {entries : List MetricEntry} {files : Table Nat Str} (h : files.Holds (held entries)) :
    (closeEntries entries files).2.Holds [] := by
  induction entries generalizing files with
  | nil => exact h
  | cons entry entries ih =>
    rw [held_cons] at h
    rw [closeEntries]
    cases hfd : entry.fd with
    | none =>
      rw [hfd] at h
      exact ih h
    | some fd =>
      rw [hfd] at h
      exact ih h.close

/-- What one pass of the loop of `setInterface` does. -/
theorem openMetrics_cons {base interface : Str} {m : MetricDef} {ms : List MetricDef} {fd : Option Nat}
    {answers : List (Option Nat)} {files files' : Table Nat Str} {entries : List MetricEntry} :
    openMetrics base interface (m :: ms) (fd :: answers) files = some (entries, files') ↔
      ∃ files₁ rest, files.opens (cstr (metricPath base interface m)) fd = some files₁ ∧
        openMetrics base interface ms answers files₁ = some (rest, files') ∧
        entries = entryOf base interface m fd :: rest := by
  rw [openMetrics]
  constructor
  · intro h
    obtain ⟨files₁, hfirst, h⟩ := Option.bind_eq_some_iff.1 h
    obtain ⟨⟨rest, files₂⟩, hrest, h⟩ := Option.bind_eq_some_iff.1 h
    cases h
    exact ⟨files₁, rest, hfirst, hrest, rfl⟩
  · rintro ⟨files₁, rest, hfirst, hrest, rfl⟩
    dsimp only
    rw [hfirst, Option.bind_eq_bind, Option.bind_some, hrest]
    rfl

/-- What is opened is held by the new entries. -/
theorem openMetrics_holds {base interface : Str} {ms : List MetricDef} {answers : List (Option Nat)}
    {files files' : Table Nat Str} {entries : List MetricEntry} {others : List (Nat × Str)}
    (h : files.Holds others) (hopen : openMetrics base interface ms answers files = some (entries, files')) :
    files'.Holds (others ++ held entries) ∧ answers.length = ms.length ∧
      entries = List.zipWith (entryOf base interface) ms answers := by
  induction ms generalizing answers files entries others with
  | nil =>
    cases answers with
    | nil =>
      cases hopen
      exact ⟨(List.append_nil others).symm ▸ h, rfl, rfl⟩
    | cons fd answers => cases hopen
  | cons m ms ih =>
    cases answers with
    | nil => cases hopen
    | cons fd answers =>
      obtain ⟨files₁, rest, hfirst, hrest, rfl⟩ := openMetrics_cons.1 hopen
      obtain ⟨hholds, hlength, hentries⟩ := ih (h.opens hfirst) hrest
      refine ⟨?_, congrArg (· + 1) hlength, congrArg (entryOf base interface m fd :: ·) hentries⟩
      rw [held_cons, ← List.append_assoc]
      exact hholds

theorem openMetrics_cons_isSome {base interface : Str} {m : MetricDef} {ms : List MetricDef} {fd : Option Nat}
    {answers : List (Option Nat)} {files : Table Nat Str} :
    (openMetrics base interface (m :: ms) (fd :: answers) files).isSome ↔
      ∃ files', files.opens (cstr (metricPath base interface m)) fd = some files' ∧
        (openMetrics base interface ms answers files').isSome := by
  simp only [Option.isSome_iff_exists, Prod.exists, openMetrics_cons]
  constructor
  · rintro ⟨_, files', files₁, rest, hfirst, hrest, _⟩
    exact ⟨files₁, hfirst, rest, files', hrest⟩
  · rintro ⟨files₁, hfirst, rest, files', hrest⟩
    exact ⟨_, files', files₁, rest, hfirst, hrest, rfl⟩

/-- The loop opens whatever the system has to give: as many failures or new descriptors as there are
metrics, no two of them the same. -/
theorem openMetrics_isSome_iff (base interface : Str) {ms : List MetricDef} {answers : List (Option Nat)}
    {files : Table Nat Str} {others : List (Nat × Str)} (h : files.Holds others) :
    (openMetrics base interface ms answers files).isSome ↔
      answers.length = ms.length ∧ (others.map Prod.fst ++ answers.reduceOption).Nodup := by
  induction ms generalizing answers files others with
  | nil =>
    cases answers with
    | nil => exact iff_of_true rfl ⟨rfl, (List.append_nil (others.map Prod.fst)).symm ▸ h.nodup⟩
    | cons fd answers => exact iff_of_false nofun nofun
  | cons m ms ih =>
    cases answers with
    | nil => exact iff_of_false nofun nofun
    | cons fd answers =>
      rw [openMetrics_cons_isSome, List.length_cons, List.length_cons, Nat.add_right_cancel_iff]
      cases fd with
      | none =>
        rw [List.reduceOption_cons_of_none, ← ih h]
        exact ⟨fun ⟨_, hopen, hrest⟩ => Option.some.inj hopen ▸ hrest, fun hrest => ⟨files, rfl, hrest⟩⟩
      | some fd =>
        have hmove : (others ++ [(fd, cstr (metricPath base interface m))]).map Prod.fst ++ answers.reduceOption =
            others.map Prod.fst ++ fd :: answers.reduceOption := by
          rw [List.map_append, List.map_singleton, List.append_assoc, List.singleton_append]
        rw [List.reduceOption_cons_of_some, ← hmove]
        constructor
        · rintro ⟨files', hopen, hrest⟩
          obtain ⟨hnone, rfl⟩ := Table.opens_some.1 hopen
          exact (ih (h.add hnone)).1 hrest
        · rintro ⟨hlength, hnodup⟩
          have hnew : fd ∉ others.map Prod.fst := by
            rw [hmove] at hnodup
            exact fun hmem => List.disjoint_of_nodup_append hnodup hmem List.mem_cons_self
          have hnone := h.opened_eq_none_iff.2 hnew
          exact ⟨_, Table.opens_some.2 ⟨hnone, rfl⟩, (ih (h.add hnone)).2 ⟨hlength, hnodup⟩⟩

namespace Members

theorem closeFds_holds {s : Members} (h : s.files.Holds (held s.metricEntries)) : s.closeFds.files.Holds [] :=
  closeEntries_holds h

theorem inv_init (base : Str) : Inv base none {} where
  holds := Table.holds_empty
  asSet := ⟨rfl, rfl⟩

theorem Inv.setInterface {base : Str} {last : Option (Str × List (Option Nat))} {s s' : Members} (h : Inv base last s)
    {interface : Str} {answers : List (Option Nat)} (hcall : s.setInterface base interface answers = some s') :
    Inv base (some (interface, answers)) s' := by
  obtain ⟨⟨entries, files⟩, hopen, hcall⟩ := Option.bind_eq_some_iff.1 hcall
  cases hcall
  obtain ⟨hholds, hlength, hentries⟩ := openMetrics_holds (closeFds_holds h.holds) hopen
  exact ⟨hholds, rfl, hlength, hentries⟩

/-- A call keeps the invariant, with what it records. -/
theorem Inv.call {base : Str} {last : Option (Str × List (Option Nat))} {s s' : Members} {c : Call}
    (h : Inv base last s) (hcall : s.call base c = some s') : Inv base (record last c) s' := by
  cases c with
  | setInterface interface answers => exact h.setInterface hcall
  | collect content =>
    obtain ⟨result, _, rfl⟩ := Option.map_eq_some_iff.1 hcall
    exact h

theorem inv_of_run {base : Str} {calls : List Call} {s : Members}
    (hrun : LTS.run (Members.call base) {} calls = some s) : Inv base (lastSet calls) s :=
  LTS.run_invariant_of_foldl (fun _ _ _ _ h hcall => h.call hcall) hrun (inv_init base)

/-! ## The open descriptors -/

/-- The interface of the last `setInterface`. -/
def lastName (last : Option (Str × List (Option Nat))) : Str := (last.map Prod.fst).getD []

/-- The open descriptors are those of the seven entries, as the last `setInterface` got them, each of
one entry and for the file of the entry's metric, and none was closed that was not open. -/
structure Accounted (netStatsBase : Str) (last : Option (Str × List (Option Nat))) (s : Members) : Prop where
  seven : s.metricEntries.length = kNetworkMetrics.length
  answered : ∀ interface answers, last = some (interface, answers) → s.metricEntries.map MetricEntry.fd = answers
  opened : ∀ fd file, s.files.opened fd = some file ↔
    ∃ (i : Nat) (m : MetricDef) (entry : MetricEntry), kNetworkMetrics[i]? = some m ∧
      s.metricEntries[i]? = some entry ∧ entry.fd = some fd ∧ file = cstr (metricPath netStatsBase (lastName last) m)
  distinct : (s.metricEntries.filterMap MetricEntry.fd).Nodup
  clean : s.files.stray = false

theorem AsSet.length {base : Str} {s : Members} {last : Option (Str × List (Option Nat))} (h : s.AsSet base last) :
    s.metricEntries.length = kNetworkMetrics.length := by
  cases last with
  | none => rw [h.2, List.length_replicate]
  | some set =>
    obtain ⟨interface, answers⟩ := set
    obtain ⟨_, hlength, hentries⟩ := h
    rw [hentries, List.length_zipWith, hlength, Nat.min_self]

theorem AsSet.ne_nil {base : Str} {s : Members} {last : Option (Str × List (Option Nat))} (h : s.AsSet base last) :
    s.metricEntries ≠ [] :=
  List.ne_nil_of_length_pos (h.length ▸ by decide)

theorem AsSet.fds {base interface : Str} {answers : List (Option Nat)} {s : Members}
    (h : s.AsSet base (some (interface, answers))) : s.metricEntries.map MetricEntry.fd = answers := by
  obtain ⟨_, hlength, hentries⟩ := h
  rw [hentries, ← List.map_uncurry_zip_eq_zipWith, List.map_map]
  exact List.map_snd_zip hlength.le

/-- An entry that has a descriptor has the path of its metric. -/
theorem AsSet.path {base : Str} {s : Members} {last : Option (Str × List (Option Nat))} (h : s.AsSet base last)
    {i fd : Nat} {m : MetricDef} {entry : MetricEntry} (hm : kNetworkMetrics[i]? = some m)
    (hentry : s.metricEntries[i]? = some entry) (hfd : entry.fd = some fd) :
    entry.path = metricPath base (lastName last) m := by
  cases last with
  | none =>
    rw [h.2] at hentry
    cases List.eq_of_mem_replicate (List.mem_of_getElem? hentry)
    cases hfd
  | some set =>
    obtain ⟨interface, answers⟩ := set
    rw [h.2.2, List.getElem?_zipWith, hm] at hentry
    cases hanswer : answers[i]? with
    | none =>
      rw [hanswer] at hentry
      cases hentry
    | some answer =>
      rw [hanswer] at hentry
      cases hentry
      rfl

theorem Inv.accounted {base : Str} {last : Option (Str × List (Option Nat))} {s : Members} (h : Inv base last s) :
    Accounted base last s := by
  refine ⟨h.asSet.length, ?_, fun fd file => ?_, ?_, h.holds.clean⟩
  · rintro interface answers rfl
    exact h.asSet.fds
  · rw [h.holds.opened, mem_held]
    constructor
    · rintro ⟨entry, hmem, hfd, rfl⟩
      obtain ⟨i, hi⟩ := List.mem_iff_getElem?.1 hmem
      have hlt : i < kNetworkMetrics.length := h.asSet.length ▸ (List.getElem?_eq_some_iff.1 hi).1
      have hm : kNetworkMetrics[i]? = some kNetworkMetrics[i] := List.getElem?_eq_getElem hlt
      exact ⟨i, _, entry, hm, hi, hfd, congrArg cstr (h.asSet.path hm hi hfd)⟩
    · rintro ⟨i, m, entry, hm, hi, hfd, rfl⟩
      exact ⟨entry, List.mem_of_getElem? hi, hfd, (congrArg cstr (h.asSet.path hm hi hfd)).symm⟩
  · rw [← held_fds]
    exact h.holds.nodup

/-! ## What `collect` gives -/

/-- The file was opened, can be read, and starts with a decimal number below `2 ^ 64`. -/
def Readable (content : Nat → Option Str) (answer : Option Nat) : Prop :=
  ∃ fd data v, answer = some fd ∧ content fd = some data ∧ StartsWith data v ∧ v < 2 ^ 64

/-- The member of the metric is the number its own file starts with. -/
def Gives (content : Nat → Option Str) (stats : NetworkStats) (m : MetricDef) (answer : Option Nat) : Prop :=
  ∃ fd data, answer = some fd ∧ content fd = some data ∧ StartsWith data (stats.get m.field).toNat

/-- The digits at the front of each open file fit into one read. -/
def ShortRuns (s : Members) (content : Nat → Option Str) : Prop :=
  ∀ fd file data, s.files.opened fd = some file → content fd = some data →
    (data.takeWhile Char.isDigit).length ≤ 31

end Members

/-- The number that `collect` reads through a descriptor. -/
def numberOf (files : Table Nat Str) (content : Nat → Option Str) (fd : Nat) : Option Nat :=
  (preadFd files content fd).bind fun data => (fromCharsU64 data).toOption.map Prod.fst

theorem numberOf_eq_some_iff {files : Table Nat Str} {content : Nat → Option Str} {fd v : Nat} {file : Str}
    (hopen : files.opened fd = some file)
    (hshort : ∀ data, content fd = some data → (data.takeWhile Char.isDigit).length ≤ 31) :
    numberOf files content fd = some v ↔ ∃ data, content fd = some data ∧ StartsWith data v ∧ v < 2 ^ 64 := by
  have hread : preadFd files content fd = (content fd).map (List.take 31) := by
    unfold preadFd
    rw [hopen, Option.isSome_some, if_pos rfl]
    rfl
  unfold numberOf
  rw [hread]
  cases hcontent : content fd with
  | none => exact iff_of_false nofun fun ⟨_, hdata, _⟩ => nomatch hdata
  | some data =>
    have hnumber : ((fromCharsU64 (data.take 31)).toOption.map Prod.fst = some v) ↔
        ∃ rest, fromCharsU64 (data.take 31) = .ok (v, rest) := by
      cases fromCharsU64 (data.take 31) with
      | error e => exact iff_of_false nofun fun ⟨_, h⟩ => nomatch h
      | ok r =>
        obtain ⟨w, rest⟩ := r
        simp [Except.toOption]
    rw [Option.map_some, Option.bind_some, hnumber, fromCharsU64_ok_iff, startsWith_take (hshort data hcontent)]
    constructor
    · intro h
      exact ⟨data, rfl, h⟩
    · rintro ⟨_, hdata, h⟩
      cases hdata
      exact h

/-- One pass of the loop of `collect` over an entry that `setInterface` wrote. -/
theorem collectEntries_cons (files : Table Nat Str) (content : Nat → Option Str) (base interface : Str) (m : MetricDef)
    (answer : Option Nat) (entries : List MetricEntry) (metrics : NetworkStats) :
    collectEntries files content (entryOf base interface m answer :: entries) metrics =
      match answer.bind (numberOf files content) with
      | none => some none
      | some v => collectEntries files content entries (metrics.set (UInt64.ofNat v) m.field) := by
  rw [collectEntries]
  unfold entryOf
  cases answer with
  | none => rfl
  | some fd =>
    unfold numberOf
    dsimp only [Option.bind_some]
    cases hread : preadFd files content fd with
    | none => rfl
    | some data =>
      cases data with
      | nil => rfl
      | cons c data =>
        dsimp only [Option.bind_some]
        cases fromCharsU64 (c :: data) with
        | error e => rfl
        | ok r => rfl

theorem collectEntries_isSome (files : Table Nat Str) (content : Nat → Option Str) (base interface : Str)
    (ms : List MetricDef) (answers : List (Option Nat)) (metrics : NetworkStats) :
    (collectEntries files content (List.zipWith (entryOf base interface) ms answers) metrics).isSome := by
  induction ms generalizing answers metrics with
  | nil => rfl
  | cons m ms ih =>
    cases answers with
    | nil => rfl
    | cons answer answers =>
      rw [List.zipWith_cons_cons, collectEntries_cons]
      cases answer.bind (numberOf files content) with
      | none => rfl
      | some v => exact ih answers _

/-- The loop returns all numbers, each in the member of its metric, or it meets a file without one. -/
theorem collectEntries_cases {files : Table Nat Str} {content : Nat → Option Str} (base interface : Str)
    (hshort : ∀ fd file data, files.opened fd = some file → content fd = some data →
      (data.takeWhile Char.isDigit).length ≤ 31)
    {ms : List MetricDef} (hms : (ms.map MetricDef.field).Nodup) {answers : List (Option Nat)}
    (hlength : answers.length = ms.length) (hopen : ∀ fd, some fd ∈ answers → (files.opened fd).isSome)
    (metrics : NetworkStats) :
    (∃ stats, collectEntries files content (List.zipWith (entryOf base interface) ms answers) metrics =
          some (some stats) ∧
        List.Forall₂ (Members.Gives content stats) ms answers ∧ (∀ answer ∈ answers, Members.Readable content answer) ∧
        ∀ field, field ∉ ms.map MetricDef.field → stats.get field = metrics.get field) ∨
      (collectEntries files content (List.zipWith (entryOf base interface) ms answers) metrics = some none ∧
        ∃ answer ∈ answers, ¬ Members.Readable content answer) := by
  induction ms generalizing answers metrics with
  | nil =>
    cases List.length_eq_zero_iff.1 hlength
    exact .inl ⟨metrics, rfl, .nil, nofun, fun _ _ => rfl⟩
  | cons m ms ih =>
    obtain ⟨answer, answers, rfl⟩ := List.exists_cons_of_length_eq_add_one hlength
    obtain ⟨hfield, hms⟩ := List.nodup_cons.1 hms
    rw [List.zipWith_cons_cons, collectEntries_cons]
    cases hnumber : answer.bind (numberOf files content) with
    | none =>
      refine .inr ⟨rfl, answer, List.mem_cons_self, ?_⟩
      rintro ⟨fd, data, v, rfl, hdata⟩
      obtain ⟨file, hfile⟩ := Option.isSome_iff_exists.1 (hopen fd List.mem_cons_self)
      have hsome := (numberOf_eq_some_iff hfile (hshort fd file · hfile)).2 ⟨data, hdata⟩
      rw [Option.bind_some, hsome] at hnumber
      cases hnumber
    | some v =>
      obtain ⟨fd, rfl, hv⟩ := Option.bind_eq_some_iff.1 hnumber
      obtain ⟨file, hfile⟩ := Option.isSome_iff_exists.1 (hopen fd List.mem_cons_self)
      obtain ⟨data, hdata, hstarts, hlt⟩ := (numberOf_eq_some_iff hfile (hshort fd file · hfile)).1 hv
      have hreadable : Members.Readable content (some fd) := ⟨fd, data, v, rfl, hdata, hstarts, hlt⟩
      dsimp only
      rcases ih hms (Nat.succ.inj hlength) (fun d hd => hopen d (List.mem_cons_of_mem _ hd))
          (metrics.set (UInt64.ofNat v) m.field)
        with ⟨stats, hcollect, hgives, hall, hframe⟩ | ⟨hcollect, bad, hmem, hbad⟩
      · -- the later passes leave this pass's member alone
        have hget : (stats.get m.field).toNat = v := by
          rw [hframe m.field hfield, NetworkStats.get_set, if_pos rfl, UInt64.toNat_ofNat_of_lt' hlt]
        refine .inl ⟨stats, hcollect, .cons ⟨fd, data, rfl, hdata, hget ▸ hstarts⟩ hgives,
          List.forall_mem_cons.2 ⟨hreadable, hall⟩, fun field hnot => ?_⟩
        rw [List.map_cons, List.mem_cons, not_or] at hnot
        rw [hframe field hnot.2, NetworkStats.get_set, if_neg hnot.1]
      · exact .inr ⟨hcollect, bad, List.mem_cons_of_mem _ hmem, hbad⟩

theorem mem_fields (field : NetworkField) : field ∈ kNetworkMetrics.map MetricDef.field := by
  cases field <;> decide

theorem fields_nodup : (kNetworkMetrics.map MetricDef.field).Nodup := by decide

theorem stats_ext {stats stats' : NetworkStats} (h : ∀ field, stats.get field = stats'.get field) : stats = stats' := by
  cases stats
  cases stats'
  simp only [NetworkStats.mk.injEq]
  exact ⟨h .rxPackets, h .txPackets, h .rxDropped, h .txDropped, h .rxErrors, h .txErrors, h .collisions⟩

namespace Members

/-- The file starts with the member of the metric, printed in decimal. -/
def Printed (content : Nat → Option Str) (stats : NetworkStats) (m : MetricDef) (answer : Option Nat) : Prop :=
  ∃ fd rest, answer = some fd ∧ content fd = some (Nat.toDigits 10 (stats.get m.field).toNat ++ rest) ∧
    Stops Char.isDigit rest

variable {content : Nat → Option Str} {stats stats' : NetworkStats} {m : MetricDef} {answer : Option Nat}

theorem Gives.readable (h : Gives content stats m answer) : Readable content answer := by
  obtain ⟨fd, data, hanswer, hdata, hstarts⟩ := h
  exact ⟨fd, data, _, hanswer, hdata, hstarts, UInt64.toNat_lt _⟩

theorem Gives.unique (h : Gives content stats m answer) (h' : Gives content stats' m answer) :
    stats.get m.field = stats'.get m.field := by
  obtain ⟨fd, data, rfl, hdata, hstarts⟩ := h
  obtain ⟨fd', data', hfd, hdata', hstarts'⟩ := h'
  cases hfd
  rw [hdata] at hdata'
  cases hdata'
  have hvalue := (startsWith_iff.1 hstarts).2
  have hvalue' := (startsWith_iff.1 hstarts').2
  exact UInt64.toNat_inj.1 (hvalue.symm.trans hvalue')

theorem Printed.gives (h : Printed content stats m answer) : Gives content stats m answer := by
  obtain ⟨fd, rest, hanswer, hdata, hrest⟩ := h
  exact ⟨fd, _, hanswer, hdata, startsWith_toDigits _ hrest⟩

/-- No `uint64_t` has more digits than fit into one read. -/
theorem Printed.short {fd : Nat} (h : Printed content stats m (some fd)) {data : Str} (hdata : content fd = some data) :
    (data.takeWhile Char.isDigit).length ≤ 31 := by
  obtain ⟨_, rest, hfd, hprinted, hrest⟩ := h
  cases hfd
  rw [hdata] at hprinted
  cases hprinted
  have hdigits : ∀ c ∈ Nat.toDigits 10 (stats.get m.field).toNat, c.isDigit = true :=
    fun _ hc => Nat.isDigit_of_mem_toDigits (by decide) (by decide) hc
  have hlt : (stats.get m.field).toNat < 2 ^ 64 := UInt64.toNat_lt _
  rw [takeWhile_run hdigits hrest, Nat.length_toDigits_le_iff (by decide) (by decide)]
  omega

/-- The members of all metrics are the whole of the record. -/
theorem gives_unique {answers : List (Option Nat)} (h : List.Forall₂ (Gives content stats) kNetworkMetrics answers)
    (h' : List.Forall₂ (Gives content stats') kNetworkMetrics answers) : stats = stats' := by
  have hboth : ∀ {ms : List MetricDef} {answers : List (Option Nat)}, List.Forall₂ (Gives content stats) ms answers →
      List.Forall₂ (Gives content stats') ms answers → ∀ m ∈ ms, stats.get m.field = stats'.get m.field := by
    intro ms answers h
    induction h with
    | nil => exact fun _ => nofun
    | cons hgives _ ih =>
      intro h'
      cases h' with
      | cons hgives' h' => exact List.forall_mem_cons.2 ⟨hgives.unique hgives', ih h'⟩
  refine stats_ext fun field => ?_
  obtain ⟨m, hm, rfl⟩ := List.mem_map.1 (mem_fields field)
  exact hboth h h' m hm

variable {base interface : Str} {answers : List (Option Nat)} {s : Members}

/-- What the system opened is open, in the entry of its metric. -/
theorem Inv.opened_iff (h : Inv base (some (interface, answers)) s) (fd : Nat) :
    (s.files.opened fd).isSome ↔ some fd ∈ answers := by
  obtain ⟨_, hlength, hentries⟩ := h.asSet
  rw [Option.isSome_iff_exists]
  constructor
  · rintro ⟨file, hfile⟩
    obtain ⟨entry, hmem, hfd, _⟩ := mem_held.1 ((h.holds.opened fd file).1 hfile)
    rw [hentries] at hmem
    obtain ⟨i, hi⟩ := List.mem_iff_getElem?.1 hmem
    obtain ⟨m, answer, _, hanswer, rfl⟩ := List.getElem?_zipWith_eq_some.1 hi
    exact List.mem_of_getElem? (hanswer.trans (congrArg some hfd))
  · intro hmem
    obtain ⟨i, hi⟩ := List.mem_iff_getElem?.1 hmem
    have hlt : i < kNetworkMetrics.length := hlength ▸ (List.getElem?_eq_some_iff.1 hi).1
    have hentry : s.metricEntries[i]? = some (entryOf base interface kNetworkMetrics[i] (some fd)) := by
      rw [hentries]
      exact List.getElem?_zipWith_eq_some.2 ⟨_, _, List.getElem?_eq_getElem hlt, hi, rfl⟩
    exact ⟨_, (h.holds.opened fd _).2 (mem_held.2 ⟨_, List.mem_of_getElem? hentry, rfl, rfl⟩)⟩

/-- A result, and when `collect` has one. -/
structure Reports (content : Nat → Option Str) (last : Option (Str × List (Option Nat)))
    (result : Option NetworkStats) : Prop where
  isSome_iff : result.isSome ↔ ∃ interface answers, last = some (interface, answers) ∧ interface ≠ [] ∧
    ∀ answer ∈ answers, Readable content answer
  gives : ∀ stats ∈ result, ∀ interface answers, last = some (interface, answers) →
    List.Forall₂ (Gives content stats) kNetworkMetrics answers

theorem reports_none {last : Option (Str × List (Option Nat))}
    (h : ∀ interface answers, last = some (interface, answers) → interface ≠ [] →
      ∃ answer ∈ answers, ¬ Readable content answer) : Reports content last none where
  isSome_iff := by
    refine iff_of_false nofun ?_
    rintro ⟨interface, answers, hlast, hne, hall⟩
    obtain ⟨answer, hmem, hnot⟩ := h interface answers hlast hne
    exact hnot (hall answer hmem)
  gives := nofun

theorem Inv.collect {last : Option (Str × List (Option Nat))} (h : Inv base last s) (hshort : s.ShortRuns content) :
    ∃ result, s.collect content = some result ∧ Reports content last result := by
  cases hlast : last with
  | none =>
    rw [hlast] at h
    exact ⟨none, if_pos h.asSet.1, reports_none nofun⟩
  | some set =>
    obtain ⟨interface, answers⟩ := set
    rw [hlast] at h
    obtain ⟨hname, hlength, hentries⟩ := h.asSet
    by_cases hempty : interface = []
    · refine ⟨none, if_pos (hname.trans hempty), reports_none fun _ _ hset hne => ?_⟩
      cases hset
      exact absurd hempty hne
    · have hcollect : s.collect content = collectEntries s.files content
          (List.zipWith (entryOf base interface) kNetworkMetrics answers) {} := by
        rw [← hentries]
        exact if_neg (hname ▸ hempty)
      rcases collectEntries_cases base interface hshort fields_nodup hlength (fun fd hfd => (h.opened_iff fd).2 hfd) {}
        with ⟨stats, hstats, hgives, hall, _⟩ | ⟨hnone, bad, hmem, hbad⟩
      · refine ⟨some stats, hcollect.trans hstats, iff_of_true rfl ⟨interface, answers, rfl, hempty, hall⟩, ?_⟩
        intro stats' hstats' interface' answers' hset
        cases hstats'
        cases hset
        exact hgives
      · refine ⟨none, hcollect.trans hnone, reports_none fun _ _ hset _ => ?_⟩
        cases hset
        exact ⟨bad, hmem, hbad⟩

/-- Numbers printed in decimal are read back. -/
theorem Inv.collect_printed (h : Inv base (some (interface, answers)) s) (hne : interface ≠ [])
    (hprinted : List.Forall₂ (Printed content stats) kNetworkMetrics answers) :
    s.collect content = some (some stats) := by
  have hgives : List.Forall₂ (Gives content stats) kNetworkMetrics answers := hprinted.imp fun _ _ => Printed.gives
  have hanswer : ∀ answer ∈ answers, ∃ m, Printed content stats m answer := by
    intro answer hmem
    obtain ⟨i, hi⟩ := List.mem_iff_getElem?.1 hmem
    obtain ⟨hlt, rfl⟩ := List.getElem?_eq_some_iff.1 hi
    exact ⟨_, hprinted.get (hprinted.length_eq ▸ hlt) hlt⟩
  have hshort : s.ShortRuns content := by
    intro fd file data hfile hdata
    obtain ⟨m, hm⟩ := hanswer (some fd) ((h.opened_iff fd).1 (Option.isSome_of_eq_some hfile))
    exact hm.short hdata
  obtain ⟨result, hcollect, hreports⟩ := h.collect hshort
  have hsome : result.isSome := by
    refine hreports.isSome_iff.2 ⟨interface, answers, rfl, hne, fun answer hmem => ?_⟩
    obtain ⟨m, hm⟩ := hanswer answer hmem
    exact hm.gives.readable
  obtain ⟨stats', rfl⟩ := Option.isSome_iff_exists.1 hsome
  rw [hcollect, gives_unique hgives (hreports.gives stats' rfl interface answers rfl)]

/-- What the system may contribute to a call. -/
def Call.Possible : Call → Prop
  | .setInterface _ answers => answers.length = kNetworkMetrics.length ∧ answers.reduceOption.Nodup
  | .collect _ => True

/-- `collect` never writes through a null member pointer, whatever the files hold. -/
theorem Inv.collect_isSome {last : Option (Str × List (Option Nat))} (h : Inv base last s)
    (content : Nat → Option Str) : (s.collect content).isSome := by
  unfold Members.collect
  split
  · rfl
  · rename_i hne
    cases last with
    | none => exact absurd h.asSet.1 hne
    | some set =>
      obtain ⟨interface, answers⟩ := set
      rw [h.asSet.2.2]
      exact collectEntries_isSome ..

/-- No call is stuck on an answer that the system can give. -/
theorem Inv.call_isSome_iff {last : Option (Str × List (Option Nat))} (h : Inv base last s) (c : Call) :
    (s.call base c).isSome ↔ c.Possible := by
  cases c with
  | collect content => exact iff_of_true (Option.isSome_map.trans (h.collect_isSome content)) trivial
  | setInterface interface answers =>
    refine Iff.trans ?_ (openMetrics_isSome_iff base interface (closeFds_holds h.holds))
    show (s.setInterface base interface answers).isSome ↔ _
    unfold Members.setInterface
    cases hopen : openMetrics base interface kNetworkMetrics answers s.closeFds.files <;> simp [hopen]

/-- Over every run of calls: the open descriptors are accounted for, none is left or closed twice by
the destructor, and `collect` gives exactly the numbers of the seven files of the last interface. -/
theorem calls_accounted (netStatsBase : Str) {calls : List Call} {s : Members}
    (hrun : LTS.run (call netStatsBase) {} calls = some s) :
    Accounted netStatsBase (lastSet calls) s ∧
    ((∀ fd, s.destroy.opened fd = none) ∧ s.destroy.stray = false) ∧
    (∀ content, s.ShortRuns content →
      ∃ result, s.collect content = some result ∧ Reports content (lastSet calls) result) ∧
    ∀ interface answers, lastSet calls = some (interface, answers) → interface ≠ [] →
      ∀ content stats, List.Forall₂ (Printed content stats) kNetworkMetrics answers →
        s.collect content = some (some stats) := by
  have hinv := inv_of_run hrun
  have hclosed := closeFds_holds hinv.holds
  refine ⟨hinv.accounted, ⟨hclosed.opened_of_nil, hclosed.clean⟩, fun content hshort => hinv.collect hshort, ?_⟩
  intro interface answers hlast hne content stats hprinted
  rw [hlast] at hinv
  exact hinv.collect_printed hne hprinted

/-- Two of the first interface's files do not open; the second takes over a descriptor of the first. -/
def partlyOpened : List Call :=
  [.setInterface "eth0".toList [some 3, none, some 4, some 5, none, some 6, some 7],
    .collect fun _ => some "1\n".toList,
    .setInterface "eth1".toList [some 7, some 8, some 3, some 9, some 10, some 11, some 12]]

theorem calls_accounted_partlyOpened :
    ∃ s, LTS.run (call "net".toList) {} partlyOpened = some s ∧ Accounted "net".toList (lastSet partlyOpened) s ∧
      s.files.stray = false ∧ ∀ fd, s.destroy.opened fd = none := by
  have hsome : ((LTS.run (call "net".toList) {} partlyOpened).map fun s => s.metricEntries.length) = some 7 := by
    decide +kernel
  obtain ⟨s, hs, _⟩ := Option.map_eq_some_iff.1 hsome
  obtain ⟨haccounted, ⟨hnone, _⟩, _⟩ := calls_accounted "net".toList hs
  exact ⟨s, hs, haccounted, haccounted.clean, hnone⟩

end Members

end NetworkCollector

end TimeAgent
