/-
The calls of one thread are runs of the steps of `Network`: what a call of `setInterface` or `collect`
does to the members and the descriptors, the steps do one after the other when no step of the other
thread comes between them.
-/
import TimeAgent.Metrics.Calls

namespace TimeAgent

open CText CNum Handles

namespace NetworkCollector

/-- The steps keep the path that a descriptor was opened with, the table of the calls the file. -/
def SameFiles (files : Table Nat Str) (paths : Nat → Option Str) : Prop :=
  ∀ fd, files.opened fd = (paths fd).map cstr

/-- What the steps of `setInterface` leave alone while `collect` is idle. -/
structure Beside (t t' : NetworkCollector) : Prop where
  collecting : t'.collecting = t.collecting
  returned : t'.returned = t.returned
  stale : t'.stale = t.stale

theorem Beside.trans {t t' t'' : NetworkCollector} (h : Beside t t') (h' : Beside t' t'') : Beside t t'' :=
  ⟨h'.collecting.trans h.collecting, h'.returned.trans h.returned, h'.stale.trans h.stale⟩

/-! ## `setInterface` -/

/-- `closeFds` at entry `i`. -/
theorem closing_entry (base : Str) {interface : Str} {i : Nat} {t : NetworkCollector} {files : Table Nat Str}
    (hpc : t.setting = .closing interface i) (hidle : t.collecting = .idle) (hfiles : SameFiles files t.files) :
    ∃ t', LTS.Reaches (step base) t t' ∧ t'.setting = closeNext interface i ∧
      SameFiles (match (t.metricEntries i).fd with | none => files | some fd => files.close fd) t'.files ∧
      (∀ j, j ≠ i → t'.metricEntries j = t.metricEntries j) ∧ Beside t t' := by
  cases hfd : (t.metricEntries i).fd with
  | none =>
    have hstep : step base t .setting = some { t with setting := closeNext interface i } := by
      unfold step settingStep
      rw [hpc]
      dsimp only
      rw [hfd]
    exact ⟨_, LTS.reaches_single hstep, rfl, hfiles, fun _ _ => rfl, ⟨rfl, rfl, rfl⟩⟩
  | some fd =>
    have hclose : step base t .setting =
        some { t with files := Function.update t.files fd none, collecting := t.collecting.close fd,
                      setting := .clearing interface i } := by
      unfold step settingStep
      rw [hpc]
      dsimp only
      rw [hfd]
    refine ⟨_, .head hclose (LTS.reaches_single (l := .setting) rfl), rfl, fun d => ?_, fun j hj => ?_, ⟨?_, rfl, rfl⟩⟩
    · dsimp only
      rw [Table.close_opened, Function.update_apply, hfiles d]
      split <;> rfl
    · exact Function.update_of_ne hj ..
    · rw [hidle]
      rfl

theorem closing_reaches (base : Str) {interface : Str} {entries : List MetricEntry} (hne : entries ≠ []) {i : Nat}
    {t : NetworkCollector} {files : Table Nat Str} (hlength : i + entries.length = kNetworkMetrics.length)
    (hentries : ∀ j entry, entries[j]? = some entry → t.metricEntries (i + j) = entry)
    (hpc : t.setting = .closing interface i) (hidle : t.collecting = .idle) (hfiles : SameFiles files t.files) :
    ∃ t', LTS.Reaches (step base) t t' ∧ t'.setting = .storing interface ∧
      SameFiles (closeEntries entries files).2 t'.files ∧
      (∀ j, kNetworkMetrics.length ≤ j → t'.metricEntries j = t.metricEntries j) ∧ Beside t t' := by
  induction entries generalizing i t files with
  | nil => exact absurd rfl hne
  | cons entry entries ih =>
    obtain ⟨t₁, hreach, hpc₁, hfiles₁, hothers, hbeside⟩ := closing_entry base hpc hidle hfiles
    have hentry : t.metricEntries i = entry := hentries 0 entry rfl
    have hclose : (closeEntries (entry :: entries) files).2 =
        (closeEntries entries (match entry.fd with | none => files | some fd => files.close fd)).2 := by
      rw [closeEntries]
      cases entry.fd <;> rfl
    rw [hentry] at hfiles₁
    rw [List.length_cons] at hlength
    rw [hclose]
    unfold closeNext at hpc₁
    cases entries with
    | nil =>
      rw [List.length_nil] at hlength
      rw [if_neg (by omega)] at hpc₁
      exact ⟨t₁, hreach, hpc₁, hfiles₁, fun j hj => hothers j (by omega), hbeside⟩
    | cons next entries =>
      rw [List.length_cons] at hlength
      rw [if_pos (by omega)] at hpc₁
      have hrest : ∀ j e, (next :: entries)[j]? = some e → t₁.metricEntries (i + 1 + j) = e := by
        intro j e he
        rw [hothers _ (by omega), Nat.add_assoc, Nat.add_comm 1 j]
        exact hentries (j + 1) e he
      obtain ⟨t₂, hreach₂, hpc₂, hfiles₂, hothers₂, hbeside₂⟩ :=
        ih (List.cons_ne_nil next entries) (by rw [List.length_cons]; omega) hrest hpc₁
          (hbeside.collecting.trans hidle) hfiles₁
      refine ⟨t₂, hreach.trans hreach₂, hpc₂, hfiles₂, fun j hj => ?_, hbeside.trans hbeside₂⟩
      rw [hothers₂ j hj, hothers j (by omega)]

/-- The loop of `setInterface` at entry `i`, with the answer to its `open`. -/
theorem naming_entry (base : Str) {interface : Str} {i : Nat} {m : MetricDef} {fd : Option Nat} {t : NetworkCollector}
    {files files' : Table Nat Str} (hpc : t.setting = .naming interface i) (hm : kNetworkMetrics[i]? = some m)
    (hfiles : SameFiles files t.files) (hopen : files.opens (cstr (metricPath base interface m)) fd = some files') :
    ∃ t', LTS.Reaches (step base) t t' ∧ t'.setting = openNext interface i ∧ t'.interface = t.interface ∧
      t'.metricEntries = Function.update t.metricEntries i (entryOf base interface m fd) ∧
      SameFiles files' t'.files ∧ Beside t t' := by
  have hname : step base t .setting =
      some { t with metricEntries := Function.update t.metricEntries i
                      { t.metricEntries i with path := metricPath base interface m, field := some m.field },
                    setting := .opening interface i } := by
    unfold step settingStep
    rw [hpc]
    dsimp only
    rw [hm]
  cases fd with
  | none =>
    cases hopen
    refine ⟨_, .head hname (.head (l := .opens none) rfl (LTS.reaches_single (l := .setting) rfl)), rfl, rfl, ?_,
      hfiles, ⟨rfl, rfl, rfl⟩⟩
    dsimp only
    rw [Function.update_self, Function.update_idem]
    rfl
  | some fd =>
    obtain ⟨hnone, rfl⟩ := Table.opens_some.1 hopen
    have hfree : t.files fd = none := by
      have hfile := hfiles fd
      rw [hnone] at hfile
      exact Option.map_eq_none_iff.1 hfile.symm
    refine ⟨_, .head hname (.head (l := .opens (some fd)) (if_pos hfree) (LTS.reaches_single (l := .setting) rfl)), rfl,
      rfl, ?_, fun d => ?_, ⟨rfl, rfl, rfl⟩⟩
    · dsimp only
      rw [Function.update_self, Function.update_idem]
      rfl
    · dsimp only
      rw [Table.add_opened, Function.update_apply, Function.update_self, hfiles d]
      split <;> rfl

/-- The array with the entries of a list stored from index `i` on. -/
def stored (array : Nat → MetricEntry) (i : Nat) (entries : List MetricEntry) (j : Nat) : MetricEntry :=
  if i ≤ j then entries[j - i]?.getD (array j) else array j

theorem stored_nil (array : Nat → MetricEntry) (i : Nat) : stored array i [] = array := by
  funext j
  unfold stored
  rw [List.getElem?_nil, Option.getD_none, ite_self]

theorem stored_cons (array : Nat → MetricEntry) (i : Nat) (entry : MetricEntry) (entries : List MetricEntry) :
    stored (Function.update array i entry) (i + 1) entries = stored array i (entry :: entries) := by
  funext j
  unfold stored
  rcases Nat.lt_trichotomy j i with hj | rfl | hj
  · rw [if_neg (by omega), if_neg (by omega), Function.update_of_ne (by omega)]
  · rw [if_neg (by omega), if_pos (Nat.le_refl j), Function.update_self, Nat.sub_self]
    rfl
  · rw [if_pos (by omega), if_pos (by omega), Function.update_of_ne (by omega),
      show j - i = (j - (i + 1)) + 1 by omega, List.getElem?_cons_succ]

theorem naming_reaches (base : Str) {interface : Str} {ms : List MetricDef} (hne : ms ≠ []) {i : Nat}
    {answers : List (Option Nat)} {t : NetworkCollector} {files files' : Table Nat Str} {entries : List MetricEntry}
    (hms : kNetworkMetrics.drop i = ms) (hpc : t.setting = .naming interface i) (hfiles : SameFiles files t.files)
    (hopen : openMetrics base interface ms answers files = some (entries, files')) :
    ∃ t', LTS.Reaches (step base) t t' ∧ t'.setting = .idle ∧ t'.interface = t.interface ∧
      t'.metricEntries = stored t.metricEntries i entries ∧ SameFiles files' t'.files ∧ Beside t t' := by
  induction ms generalizing i answers t files entries with
  | nil => exact absurd rfl hne
  | cons m ms ih =>
    cases answers with
    | nil => cases hopen
    | cons fd answers =>
      obtain ⟨files₁, rest, hfirst, hrest, rfl⟩ := openMetrics_cons.1 hopen
      have hm : kNetworkMetrics[i]? = some m := by
        rw [← List.head?_drop, hms, List.head?_cons]
      have hdrop : kNetworkMetrics.drop (i + 1) = ms := by
        rw [← List.tail_drop, hms, List.tail_cons]
      have hlength := congrArg List.length hms
      rw [List.length_drop, List.length_cons] at hlength
      obtain ⟨t₁, hreach, hpc₁, hname₁, hentries₁, hfiles₁, hbeside⟩ := naming_entry base hpc hm hfiles hfirst
      rw [← stored_cons, ← hentries₁]
      unfold openNext at hpc₁
      cases ms with
      | nil =>
        rw [List.length_nil] at hlength
        rw [if_neg (by omega)] at hpc₁
        cases answers with
        | cons => cases hrest
        | nil =>
          cases hrest
          exact ⟨t₁, hreach, hpc₁, hname₁, (stored_nil _ _).symm, hfiles₁, hbeside⟩
      | cons next ms =>
        rw [List.length_cons] at hlength
        rw [if_pos (by omega)] at hpc₁
        obtain ⟨t₂, hreach₂, hpc₂, hname₂, hentries₂, hfiles₂, hbeside₂⟩ :=
          ih (List.cons_ne_nil next ms) hdrop hpc₁ hfiles₁ hrest
        exact ⟨t₂, hreach.trans hreach₂, hpc₂, hname₂.trans hname₁, hentries₂, hfiles₂, hbeside.trans hbeside₂⟩

/-! ## `collect` -/

/-- The state behind a pass of the loop of `collect` that took a number. -/
def afterPass (t : NetworkCollector) (i : Nat) (metrics : NetworkStats) (reads : List Read) : NetworkCollector :=
  if i + 1 < kNetworkMetrics.length then { t with collecting := .reading (i + 1) metrics reads }
  else { t with collecting := .idle, returned := t.returned ++ [(metrics, reads)] }

/-- The place of `collect` behind the read of a pass. -/
def afterRead (i : Nat) (file : Option Str) (metrics : NetworkStats) (reads : List Read) : Option Str → CollectPc
  | none | some [] => .idle
  | some data => .parsing i { file, data } metrics reads

/-- The last step of a pass, over the bytes that were read. -/
theorem parsing_entry (base : Str) {content : Nat → Option Str} {entry : MetricEntry} {entries : List MetricEntry}
    {i : Nat} {t : NetworkCollector} {files : Table Nat Str} {metrics : NetworkStats} (reads : List Read) (read : Read)
    {result : Option NetworkStats} (hentry : t.metricEntries i = entry)
    (hcollect : (match entry.field, fromCharsU64 read.data with
      | none, _ => none
      | some _, .error _ => some none
      | some field, .ok (v, _) => collectEntries files content entries (metrics.set (UInt64.ofNat v) field)) =
        some result) :
    (result = none ∧ step base { t with collecting := .parsing i read metrics reads } .collecting =
        some { t with collecting := .idle }) ∨
      ∃ metrics', collectEntries files content entries metrics' = some result ∧
        step base { t with collecting := .parsing i read metrics reads } .collecting =
          some (afterPass t i metrics' (reads ++ [read])) := by
  unfold step collectingStep afterPass
  dsimp only
  rw [hentry]
  cases hfield : entry.field with
  | none =>
    rw [hfield] at hcollect
    cases hcollect
  | some field =>
    rw [hfield] at hcollect
    cases hnumber : fromCharsU64 read.data with
    | error e =>
      rw [hnumber] at hcollect
      cases hcollect
      exact .inl ⟨rfl, rfl⟩
    | ok r =>
      rw [hnumber] at hcollect
      refine .inr ⟨metrics.set (UInt64.ofNat r.1) field, hcollect, ?_⟩
      dsimp only
      split <;> rfl

/-- The first step of a pass, over an entry whose descriptor is open. -/
theorem step_reading (base : Str) {i fd : Nat} {t : NetworkCollector} {metrics : NetworkStats} {reads : List Read}
    (hfd : (t.metricEntries i).fd = some fd) (hopen : (t.files fd).isNone = false)
    (hpc : t.collecting = .reading i metrics reads) :
    step base t .collecting = some { t with collecting := .preading i fd false metrics reads } := by
  unfold step collectingStep
  rw [hpc]
  dsimp only
  rw [hfd]
  dsimp only
  rw [hopen]

theorem step_preads (base : Str) (i fd : Nat) (t : NetworkCollector) (metrics : NetworkStats) (reads : List Read)
    (content : Option Str) :
    step base { t with collecting := .preading i fd false metrics reads } (.preads content) =
      some { t with collecting := afterRead i (t.files fd) metrics reads (pread content (32 - 1)) } := by
  unfold step preadsStep
  dsimp only
  rw [Bool.or_false]
  cases pread content (32 - 1) with
  | none => rfl
  | some data => cases data <;> rfl

/-- One pass of the loop of `collect`, over an entry whose descriptor is open. -/
theorem reading_entry (base : Str) {content : Nat → Option Str} {entry : MetricEntry} {entries : List MetricEntry}
    {i : Nat} {t : NetworkCollector} {files : Table Nat Str} {metrics : NetworkStats} {reads : List Read}
    {result : Option NetworkStats} (hentry : t.metricEntries i = entry)
    (hopen : ∀ fd, entry.fd = some fd → (files.opened fd).isSome) (hfiles : SameFiles files t.files)
    (hpc : t.collecting = .reading i metrics reads)
    (hcollect : collectEntries files content (entry :: entries) metrics = some result) :
    (result = none ∧ LTS.Reaches (step base) t { t with collecting := .idle }) ∨
      ∃ metrics' reads', collectEntries files content entries metrics' = some result ∧
        LTS.Reaches (step base) t (afterPass t i metrics' reads') := by
  rw [collectEntries] at hcollect
  cases hfd : entry.fd with
  | none =>
    rw [hfd] at hcollect
    cases hcollect
    have hstep : step base t .collecting = some { t with collecting := .idle } := by
      unfold step collectingStep
      rw [hpc]
      dsimp only
      rw [hentry, hfd]
    exact .inl ⟨rfl, LTS.reaches_single hstep⟩
  | some fd =>
    have hsome := hopen fd hfd
    have hread : preadFd files content fd = pread (content fd) (32 - 1) := if_pos hsome
    have hstays : (t.files fd).isNone = false := by
      rw [hfiles fd, Option.isSome_map] at hsome
      rw [← Option.not_isSome, hsome, Bool.not_true]
    rw [hfd] at hcollect
    dsimp only at hcollect
    rw [hread] at hcollect
    have hfirst := step_reading base (hentry ▸ hfd) hstays hpc
    have hsecond := step_preads base i fd t metrics reads (content fd)
    cases hdata : pread (content fd) (32 - 1) with
    | none =>
      rw [hdata] at hcollect hsecond
      cases hcollect
      exact .inl ⟨rfl, .head hfirst (LTS.reaches_single hsecond)⟩
    | some data =>
      cases data with
      | nil =>
        rw [hdata] at hcollect hsecond
        cases hcollect
        exact .inl ⟨rfl, .head hfirst (LTS.reaches_single hsecond)⟩
      | cons c data =>
        rw [hdata] at hcollect hsecond
        rcases parsing_entry base reads { file := t.files fd, data := c :: data } hentry hcollect with
          ⟨hnone, hthird⟩ | ⟨metrics', hrest, hthird⟩
        · exact .inl ⟨hnone, .head hfirst (.head hsecond (LTS.reaches_single hthird))⟩
        · exact .inr ⟨metrics', _, hrest, .head hfirst (.head hsecond (LTS.reaches_single hthird))⟩

/-- The loop of `collect` from entry `i` on, over entries whose descriptors are open. -/
theorem reading_reaches (base : Str) {content : Nat → Option Str} {entries : List MetricEntry} (hne : entries ≠ [])
    {i : Nat} {t : NetworkCollector} {files : Table Nat Str} {metrics : NetworkStats} {reads : List Read}
    {result : Option NetworkStats} (hlength : i + entries.length = kNetworkMetrics.length)
    (hentries : ∀ j entry, entries[j]? = some entry → t.metricEntries (i + j) = entry)
    (hopen : ∀ entry ∈ entries, ∀ fd, entry.fd = some fd → (files.opened fd).isSome)
    (hfiles : SameFiles files t.files) (hpc : t.collecting = .reading i metrics reads)
    (hcollect : collectEntries files content entries metrics = some result) :
    ∃ reads', LTS.Reaches (step base) t
      { t with collecting := .idle, returned := t.returned ++ (result.map fun stats => (stats, reads')).toList } := by
  induction entries generalizing i t metrics reads with
  | nil => exact absurd rfl hne
  | cons entry entries ih =>
    rw [List.length_cons] at hlength
    rcases reading_entry base (hentries 0 entry rfl) (hopen entry List.mem_cons_self) hfiles hpc hcollect with
      ⟨rfl, hreach⟩ | ⟨metrics', reads', hrest, hreach⟩
    · refine ⟨[], ?_⟩
      rw [Option.map_none, Option.toList_none, List.append_nil]
      exact hreach
    · unfold afterPass at hreach
      cases entries with
      | nil =>
        rw [List.length_nil] at hlength
        rw [if_neg (by omega)] at hreach
        cases hrest
        exact ⟨reads', hreach⟩
      | cons next entries =>
        rw [List.length_cons] at hlength
        rw [if_pos (by omega)] at hreach
        have hnext : ∀ j e, (next :: entries)[j]? = some e → t.metricEntries (i + 1 + j) = e := by
          intro j e he
          rw [Nat.add_assoc, Nat.add_comm 1 j]
          exact hentries (j + 1) e he
        obtain ⟨reads'', hreach'⟩ := ih (t := { t with collecting := .reading (i + 1) metrics' reads' })
          (List.cons_ne_nil next entries) (by rw [List.length_cons]; omega) hnext
          (fun e he => hopen e (List.mem_cons_of_mem _ he)) hfiles rfl hrest
        exact ⟨reads'', hreach.trans hreach'⟩

/-! ## Calls and steps -/

/-- Between two calls, the state of the steps has the members and the descriptors of the calls. -/
structure Shows (s : Members) (t : NetworkCollector) : Prop where
  interface : t.interface = s.interface
  metricEntries : ∀ i, t.metricEntries i = s.metricEntries[i]?.getD {}
  files : SameFiles s.files t.files
  setting : t.setting = .idle
  collecting : t.collecting = .idle

theorem shows_init : Shows {} {} := by
  refine ⟨rfl, fun i => ?_, fun _ => rfl, rfl, rfl⟩
  show ({} : MetricEntry) = (List.replicate kNetworkMetrics.length {})[i]?.getD {}
  rw [List.getElem?_replicate]
  split <;> rfl

theorem Shows.entry {s : Members} {t : NetworkCollector} (h : Shows s t) (j : Nat) (entry : MetricEntry)
    (hj : s.metricEntries[j]? = some entry) : t.metricEntries (0 + j) = entry := by
  rw [h.metricEntries, Nat.zero_add, hj]
  rfl

theorem setInterface_reaches {base : Str} {last : Option (Str × List (Option Nat))} {s s' : Members}
    {t : NetworkCollector} (hinv : s.Inv base last) (h : Shows s t) {interface : Str} {answers : List (Option Nat)}
    (hcall : s.setInterface base interface answers = some s') :
    ∃ t', LTS.Reaches (step base) t t' ∧ Shows s' t' ∧ t'.returned = t.returned := by
  obtain ⟨⟨entries, files⟩, hopen, hcall⟩ := Option.bind_eq_some_iff.1 hcall
  cases hcall
  have hlength := hinv.asSet.length
  have hbegin : step base t (.setInterface interface) = some { t with setting := .closing interface 0 } :=
    if_pos h.setting
  obtain ⟨t₁, hclose, hpc₁, hfiles₁, hothers₁, hbeside₁⟩ :=
    closing_reaches (t := { t with setting := .closing interface 0 }) base hinv.asSet.ne_nil (by omega) h.entry rfl
      h.collecting h.files
  have hstore : step base t₁ .setting = some { t₁ with interface, setting := .naming interface 0 } := by
    unfold step settingStep
    rw [hpc₁]
  obtain ⟨t₂, hname, hpc₂, hname₂, hentries₂, hfiles₂, hbeside₂⟩ :=
    naming_reaches (t := { t₁ with interface, setting := .naming interface 0 }) base
      (show kNetworkMetrics ≠ [] from List.cons_ne_nil _ _) rfl rfl hfiles₁ hopen
  obtain ⟨_, hanswers, hentries⟩ := openMetrics_holds (Members.closeFds_holds hinv.holds) hopen
  refine ⟨t₂, .head hbegin (hclose.trans (.head hstore hname)), ⟨hname₂, fun j => ?_, hfiles₂, hpc₂, ?_⟩, ?_⟩
  · rw [hentries₂]
    unfold stored
    rw [if_pos (Nat.zero_le j), Nat.sub_zero]
    cases hj : entries[j]? with
    | some entry => rfl
    | none =>
      -- behind the seven entries nothing was written
      have hbehind := List.getElem?_eq_none_iff.1 hj
      rw [hentries, List.length_zipWith, hanswers, Nat.min_self] at hbehind
      have hkept : t₁.metricEntries j = {} := by
        rw [hothers₁ j hbehind]
        show t.metricEntries j = {}
        rw [h.metricEntries, List.getElem?_eq_none (hlength ▸ hbehind)]
        rfl
      exact hkept
  · exact hbeside₂.collecting.trans (hbeside₁.collecting.trans h.collecting)
  · exact hbeside₂.returned.trans hbeside₁.returned

theorem collect_reaches {base : Str} {last : Option (Str × List (Option Nat))} {s : Members} {t : NetworkCollector}
    (hinv : s.Inv base last) (h : Shows s t) {content : Nat → Option Str} {result : Option NetworkStats}
    (hcall : s.collect content = some result) :
    ∃ t', LTS.Reaches (step base) t t' ∧ Shows s t' ∧ t'.returned.map Prod.fst =
      t.returned.map Prod.fst ++ result.toList := by
  have hbegin : step base t .collect = some { t with collecting := .testing } := if_pos h.collecting
  unfold Members.collect at hcall
  by_cases hempty : s.interface = []
  · rw [if_pos hempty] at hcall
    cases hcall
    have htest : step base { t with collecting := .testing } .collecting = some { t with collecting := .idle } := by
      unfold step collectingStep
      dsimp only
      rw [if_pos (h.interface.trans hempty)]
    refine ⟨_, .head hbegin (LTS.reaches_single htest), ⟨h.interface, h.metricEntries, h.files, h.setting, rfl⟩, ?_⟩
    rw [Option.toList_none, List.append_nil]
  · rw [if_neg hempty] at hcall
    have hlength := hinv.asSet.length
    have htest : step base { t with collecting := .testing } .collecting =
        some { t with collecting := .reading 0 {} [] } := by
      unfold step collectingStep
      dsimp only
      rw [if_neg fun hnil => hempty (h.interface.symm.trans hnil)]
    have hopen : ∀ entry ∈ s.metricEntries, ∀ fd, entry.fd = some fd → (s.files.opened fd).isSome := by
      intro entry hmem fd hfd
      exact Option.isSome_of_eq_some ((hinv.holds.opened fd _).2 (mem_held.2 ⟨entry, hmem, hfd, rfl⟩))
    obtain ⟨reads, hreach⟩ := reading_reaches (t := { t with collecting := .reading 0 {} [] }) base
      hinv.asSet.ne_nil (by omega) h.entry hopen h.files rfl hcall
    refine ⟨_, .head hbegin (.head htest hreach), ⟨h.interface, h.metricEntries, h.files, h.setting, rfl⟩, ?_⟩
    dsimp only
    rw [List.map_append]
    cases result <;> rfl

namespace Members

/-- The snapshots that the calls return, one after the other. -/
def returns (netStatsBase : Str) (s : Members) : List Call → List NetworkStats
  | [] => []
  | .setInterface interface answers :: calls =>
    ((s.setInterface netStatsBase interface answers).map fun s => s.returns netStatsBase calls).getD []
  | .collect content :: calls => (s.collect content).join.toList ++ s.returns netStatsBase calls

theorem run_reaches (netStatsBase : Str) {calls : List Call} {s s' : Members} {t : NetworkCollector}
    {last : Option (Str × List (Option Nat))} (hinv : s.Inv netStatsBase last) (h : Shows s t)
    (hrun : LTS.run (call netStatsBase) s calls = some s') :
    ∃ t', LTS.Reaches (step netStatsBase) t t' ∧ Shows s' t' ∧
      t'.returned.map Prod.fst = t.returned.map Prod.fst ++ s.returns netStatsBase calls := by
  induction calls generalizing s t last with
  | nil =>
    cases hrun
    exact ⟨t, LTS.reaches_refl t, h, (List.append_nil _).symm⟩
  | cons c calls ih =>
    obtain ⟨s₁, hcall, hrest⟩ := LTS.run_cons.1 hrun
    have hinv₁ := hinv.call hcall
    cases c with
    | setInterface interface answers =>
      obtain ⟨t₁, hreach, hshows, hreturned⟩ := setInterface_reaches hinv h hcall
      obtain ⟨t', hreach', hshows', hreturned'⟩ := ih hinv₁ hshows hrest
      refine ⟨t', hreach.trans hreach', hshows', ?_⟩
      rw [hreturned', hreturned, returns]
      exact congrArg _ (congrArg (fun o => ((o.map fun s => returns netStatsBase s calls).getD [])) hcall.symm)
    | collect content =>
      obtain ⟨result, hresult, rfl⟩ := Option.map_eq_some_iff.1 hcall
      obtain ⟨t₁, hreach, hshows, hreturned⟩ := collect_reaches hinv h hresult
      obtain ⟨t', hreach', hshows', hreturned'⟩ := ih hinv₁ hshows hrest
      refine ⟨t', hreach.trans hreach', hshows', ?_⟩
      rw [hreturned', hreturned, returns, hresult, List.append_assoc]
      rfl

/-- Every run of calls is a run of the steps, to a state with the same members and descriptors and
with the snapshots that the calls returned. -/
theorem calls_are_steps (netStatsBase : Str) {calls : List Call} {s : Members}
    (hrun : LTS.run (call netStatsBase) {} calls = some s) :
    ∃ t, LTS.Reaches (step netStatsBase) {} t ∧ Shows s t ∧
      t.returned.map Prod.fst = returns netStatsBase {} calls :=
  run_reaches netStatsBase (inv_init netStatsBase) shows_init hrun

/-- Two interfaces, the second on the descriptors of the first, with a snapshot behind each. -/
def twoInterfaces : List Call :=
  [.collect fun _ => none, .setInterface "eth0".toList (List.ofFn fun i : Fin 7 => some (3 + i)),
    .collect fun _ => some "7\n".toList, .setInterface "eth1".toList (List.ofFn fun i : Fin 7 => some (3 + i)),
    .collect fun _ => some "8\n".toList]

theorem calls_are_steps_two :
    ∃ s t, LTS.run (call "/sys/class/net".toList) {} twoInterfaces = some s ∧
      LTS.Reaches (step "/sys/class/net".toList) {} t ∧ Shows s t ∧
      t.returned.map Prod.fst = [⟨7, 7, 7, 7, 7, 7, 7⟩, ⟨8, 8, 8, 8, 8, 8, 8⟩] := by
  have hsome : (LTS.run (call "/sys/class/net".toList) {} twoInterfaces).isSome = true := by decide +kernel
  obtain ⟨s, hs⟩ := Option.isSome_iff_exists.1 hsome
  obtain ⟨t, hreach, hshows, hreturned⟩ := calls_are_steps "/sys/class/net".toList hs
  have hreturns : returns "/sys/class/net".toList {} twoInterfaces =
      [⟨7, 7, 7, 7, 7, 7, 7⟩, ⟨8, 8, 8, 8, 8, 8, 8⟩] := by
    decide +kernel
  exact ⟨s, t, hs, hreach, hshows, hreturned.trans hreturns⟩

end Members

end NetworkCollector

end TimeAgent
