/-
`TemperatureCollector` on trees of any contents and with any filesystem errors: when its constructor
returns with every usable zone. A throw of `std::stoi` leaves it, an existence check that throws ends the
scan of its directory, and what the first scan has found is lost where a namesake comes later or the scan
fails.
-/
import TimeAgent.Metrics.Temperature

namespace TimeAgent

open CText CNum

namespace TemperatureCollector

/-! ## Usable zones -/

/-- The name of a zone's label. -/
def IsLabel (filename : Str) : Prop := "temp".toList <+: filename ∧ contains filename "_label".toList = true

instance (filename : Str) : Decidable (IsLabel filename) := inferInstanceAs (Decidable (_ ∧ _))

/-- The number of a label and its text, where it has both. -/
def labelled (dir : HwmonEntry) (filename : Str) : Option (Int × Str) :=
  if IsLabel filename then
    (stoi (filename.drop 4)).toOption.bind fun num =>
      ((dir.file filename).bind File.firstLine).map fun label => (num, label)
  else none

/-- The zone of a label whose own files can be used: the label has a number and a first line, and
the input can be looked up, is there and opens. -/
def usable (statThrows : Str → Bool) (sensor : Str) (dir : HwmonEntry) (filename : Str) : Option TempZone :=
  (labelled dir filename).bind fun (num, label) =>
    if statThrows (inputPath dir num) then none
    else
      (dir.file (inputName num)).bind fun input =>
        if input.opens then some { sensor, label, inputPath := inputPath dir num, fd := input } else none

/-- The usable zones of the directories of configured sensors, of all that the iterators yield. -/
def usableZones (sensors : List Str) (hwmon : Hwmon) : List TempZone :=
  (matching sensors hwmon.entries).flatMap fun e => e.2.yields.filterMap (usable hwmon.statThrows e.1 e.2)

/-- The constructor returns, and exactly the usable zones that the iterators yield are registered. -/
def RegistersUsable (sensors : List Str) (hwmon : Hwmon) (order : MapOrder) : Prop :=
  ∃ c, new sensors hwmon order = .ok c ∧ c.tempZones.Perm (usableZones sensors hwmon)

/-! ## One file -/

/-- A label without a number that `std::stoi` takes. -/
def Unnumbered (filename : Str) : Prop := IsLabel filename ∧ (stoi (filename.drop 4)).toOption = none

/-- A label whose input cannot be looked up. -/
def CheckThrows (statThrows : Str → Bool) (dir : HwmonEntry) (filename : Str) : Prop :=
  ∃ p ∈ labelled dir filename, statThrows (inputPath dir p.1) = true

variable {statThrows : Str → Bool} {sensor : Str} {dir : HwmonEntry}

/-- What one step of the second scan does: `std::stoi` throws, or the existence check throws, or the
file's zone is registered if it is usable. -/
theorem zone_cases (statThrows : Str → Bool) (sensor : Str) (dir : HwmonEntry) (filename : Str) :
    (Unnumbered filename ∧ ∃ e, zone statThrows sensor dir filename = .error (.number e)) ∨
      (¬ Unnumbered filename ∧ CheckThrows statThrows dir filename ∧ usable statThrows sensor dir filename = none ∧
        zone statThrows sensor dir filename = .error .filesystem) ∨
      (¬ Unnumbered filename ∧ ¬ CheckThrows statThrows dir filename ∧
        zone statThrows sensor dir filename = .ok (usable statThrows sensor dir filename)) := by
  unfold zone Unnumbered CheckThrows usable labelled
  by_cases hlabel : IsLabel filename
  · have hpass : ¬ (¬ "temp".toList <+: filename ∨ contains filename "_label".toList = false) := by
      rw [not_or, not_not, Bool.not_eq_false]
      exact hlabel
    rw [if_neg hpass, if_pos hlabel]
    -- the order of the body: number, label file, existence of the input, opening it
    cases hnum : stoi (filename.drop 4) with
    | error e =>
      refine Or.inl ⟨⟨hlabel, rfl⟩, e, rfl⟩
    | ok num =>
      have hnumbered : ¬ (IsLabel filename ∧ (.ok num : Except NumError Int).toOption = none) := nofun
      cases hline : (dir.file filename).bind File.firstLine with
      | none =>
        refine Or.inr (Or.inr ⟨hnumbered, ?_, rfl⟩)
        rintro ⟨p, hp, _⟩
        cases hp
      | some label =>
        by_cases hstat : statThrows (inputPath dir num) = true
        · refine Or.inr (Or.inl ⟨hnumbered, ⟨(num, label), rfl, hstat⟩, ?_, if_pos hstat⟩)
          exact if_pos hstat
        · refine Or.inr (Or.inr ⟨hnumbered, ?_, ?_⟩)
          · rintro ⟨p, hp, hthrows⟩
            cases hp
            exact hstat hthrows
          · dsimp only [Except.toOption, Option.map_some, Option.bind_some]
            rw [if_neg hstat, if_neg hstat]
            cases dir.file (inputName num) with
            | none => rfl
            | some input => cases hopen : input.opens <;> simp [hopen]
  · have hskip : ¬ "temp".toList <+: filename ∨ contains filename "_label".toList = false := by
      unfold IsLabel at hlabel
      rwa [not_and_or, Bool.not_eq_true] at hlabel
    rw [if_pos hskip, if_neg hlabel]
    refine Or.inr (Or.inr ⟨fun h => hlabel h.1, ?_, rfl⟩)
    rintro ⟨p, hp, _⟩
    cases hp

/-! ## One directory -/

/-- In the order of `names`: every label has a number, unless the scan has ended before it, and
nothing usable comes behind a label at which the scan ends. -/
structure Clean (statThrows : Str → Bool) (sensor : Str) (dir : HwmonEntry) (names : List Str) : Prop where
  numbered : ∀ before filename after, names = before ++ filename :: after → Unnumbered filename →
    ∃ earlier ∈ before, CheckThrows statThrows dir earlier
  nothingLost : names.Pairwise fun filename later =>
    CheckThrows statThrows dir filename → usable statThrows sensor dir later = none

theorem clean_nil : Clean statThrows sensor dir [] := by
  refine ⟨?_, List.Pairwise.nil⟩
  intro before filename after h
  cases before <;> cases h

theorem Clean.head {filename : Str} {names : List Str} (h : Clean statThrows sensor dir (filename :: names)) :
    ¬ Unnumbered filename := by
  intro hbad
  obtain ⟨_, hnil, _⟩ := h.numbered [] filename names rfl hbad
  cases hnil

/-- Where the scan goes on, the rest is clean as well. -/
theorem Clean.tail {filename : Str} {names : List Str} (h : Clean statThrows sensor dir (filename :: names))
    (hnot : ¬ CheckThrows statThrows dir filename) : Clean statThrows sensor dir names := by
  refine ⟨?_, (List.pairwise_cons.1 h.nothingLost).2⟩
  rintro before bad after rfl hbad
  obtain ⟨earlier, hmem, hthrows⟩ := h.numbered (filename :: before) bad after rfl hbad
  rcases List.mem_cons.1 hmem with rfl | hbefore
  · exact absurd hthrows hnot
  · exact ⟨earlier, hbefore, hthrows⟩

/-- A numbered label in front: an unnumbered one behind it needs a label that throws before it. -/
theorem Clean.cons {filename : Str} {names : List Str} (hhead : ¬ Unnumbered filename)
    (hnumbered : ∀ before bad after, names = before ++ bad :: after → Unnumbered bad →
      ∃ earlier ∈ filename :: before, CheckThrows statThrows dir earlier)
    (hlost : (filename :: names).Pairwise fun first later =>
      CheckThrows statThrows dir first → usable statThrows sensor dir later = none) :
    Clean statThrows sensor dir (filename :: names) := by
  refine ⟨?_, hlost⟩
  intro before bad after heq hbad
  cases before with
  | nil =>
    cases heq
    exact absurd hbad hhead
  | cons first before =>
    cases heq
    exact hnumbered before bad after rfl hbad

theorem clean_cons {filename : Str} {names : List Str} :
    Clean statThrows sensor dir (filename :: names) ↔
      ¬ Unnumbered filename ∧
        (CheckThrows statThrows dir filename → ∀ later ∈ names, usable statThrows sensor dir later = none) ∧
        (¬ CheckThrows statThrows dir filename → Clean statThrows sensor dir names) := by
  constructor
  · intro h
    have hlost := (List.pairwise_cons.1 h.nothingLost).1
    exact ⟨h.head, fun hthrows later hlater => hlost later hlater hthrows, fun hnot => h.tail hnot⟩
  · rintro ⟨hhead, hthrowing, hrest⟩
    by_cases hthrows : CheckThrows statThrows dir filename
    · -- the scan ends at the head, and nothing is lost behind it
      have hnone := hthrowing hthrows
      have hlost := List.pairwise_of_forall_mem_list fun first (_ : first ∈ names) later hlater
        (_ : CheckThrows statThrows dir first) => hnone later hlater
      exact Clean.cons hhead (fun _ _ _ _ _ => ⟨filename, List.mem_cons_self, hthrows⟩)
        (List.pairwise_cons.2 ⟨fun later hlater _ => hnone later hlater, hlost⟩)
    · obtain ⟨hnumbered, hlost⟩ := hrest hthrows
      refine Clean.cons hhead ?_ (List.pairwise_cons.2 ⟨fun later _ h => absurd h hthrows, hlost⟩)
      intro before bad after heq hbad
      obtain ⟨earlier, hmem, hearlier⟩ := hnumbered before bad after heq hbad
      exact ⟨earlier, List.mem_cons_of_mem _ hmem, hearlier⟩

/-- Whatever is registered is usable. -/
theorem scanZones_sublist {names : List Str} {zones : List TempZone}
    (h : scanZones statThrows sensor dir names = .ok zones) :
    zones.Sublist (names.filterMap (usable statThrows sensor dir)) := by
  induction names generalizing zones with
  | nil =>
    cases h
    exact List.Sublist.refl _
  | cons filename names ih =>
    rw [scanZones] at h
    rcases zone_cases statThrows sensor dir filename with ⟨_, e, hzone⟩ | ⟨_, _, _, hzone⟩ | ⟨_, _, hzone⟩
    · rw [hzone] at h
      cases h
    · rw [hzone] at h
      cases h
      exact List.nil_sublist _
    · rw [hzone] at h
      cases hrest : scanZones statThrows sensor dir names with
      | error e =>
        rw [hrest] at h
        cases h
      | ok rest =>
        rw [hrest] at h
        cases h
        rw [List.filterMap_cons]
        cases usable statThrows sensor dir filename with
        | none => exact ih hrest
        | some z => exact (ih hrest).cons_cons z

/-- A directory gives all its usable zones exactly when its names are clean in their order. -/
theorem scanZones_iff_clean {names : List Str} :
    scanZones statThrows sensor dir names = .ok (names.filterMap (usable statThrows sensor dir)) ↔
      Clean statThrows sensor dir names := by
  induction names with
  | nil => exact iff_of_true rfl clean_nil
  | cons filename names ih =>
    rw [scanZones, clean_cons, List.filterMap_cons]
    rcases zone_cases statThrows sensor dir filename with
      ⟨hbad, e, hzone⟩ | ⟨hgood, hthrows, hnone, hzone⟩ | ⟨hgood, hnot, hzone⟩
    · rw [hzone]
      exact iff_of_false (by simp) fun h => h.1 hbad
    -- the handler ends the scan with what it has, which must be all that is usable
    · rw [hzone, hnone]
      dsimp only
      rw [Except.ok.injEq, eq_comm, List.filterMap_eq_nil_iff]
      exact ⟨fun h => ⟨hgood, fun _ => h, fun hnot => absurd hthrows hnot⟩, fun h => h.2.1 hthrows⟩
    · have hrest : Clean statThrows sensor dir names ↔ ¬ Unnumbered filename ∧
          (CheckThrows statThrows dir filename → ∀ later ∈ names, usable statThrows sensor dir later = none) ∧
          (¬ CheckThrows statThrows dir filename → Clean statThrows sensor dir names) :=
        ⟨fun h => ⟨hgood, fun hthrows => absurd hthrows hnot, fun _ => h⟩, fun h => h.2.2 hnot⟩
      rw [hzone, ← hrest, ← ih]
      dsimp only
      cases scanZones statThrows sensor dir names with
      | error e => exact iff_of_false (by simp) (by simp)
      | ok zones =>
        cases usable statThrows sensor dir filename with
        | none => exact Iff.rfl
        | some z =>
          show Except.ok (z :: zones) = Except.ok (z :: _) ↔ _
          rw [Except.ok.injEq, Except.ok.injEq, List.cons_inj_right]

/-! ## All directories -/

theorem scanSensors_sublist {l : List (Str × HwmonEntry)} {zones : List TempZone}
    (h : scanSensors statThrows l = .ok zones) :
    zones.Sublist (l.flatMap fun e => e.2.yields.filterMap (usable statThrows e.1 e.2)) := by
  induction l generalizing zones with
  | nil =>
    cases h
    exact List.Sublist.refl _
  | cons e l ih =>
    rw [scanSensors] at h
    cases hzones : scanZones statThrows e.1 e.2 e.2.yields with
    | error err =>
      rw [hzones] at h
      cases h
    | ok first =>
      cases hrest : scanSensors statThrows l with
      | error err =>
        rw [hzones, hrest] at h
        cases h
      | ok rest =>
        rw [hzones, hrest] at h
        cases h
        rw [List.flatMap_cons]
        exact (scanZones_sublist hzones).append (ih hrest)

/-- The second scan gives every usable zone exactly when every directory does. -/
theorem scanSensors_iff {l : List (Str × HwmonEntry)} :
    scanSensors statThrows l = .ok (l.flatMap fun e => e.2.yields.filterMap (usable statThrows e.1 e.2)) ↔
      ∀ e ∈ l, Clean statThrows e.1 e.2 e.2.yields := by
  induction l with
  | nil => exact iff_of_true rfl nofun
  | cons e l ih =>
    rw [scanSensors, List.flatMap_cons, List.forall_mem_cons, ← ih, ← scanZones_iff_clean]
    constructor
    · intro h
      cases hzones : scanZones statThrows e.1 e.2 e.2.yields with
      | error err =>
        rw [hzones] at h
        cases h
      | ok first =>
        cases hrest : scanSensors statThrows l with
        | error err =>
          rw [hzones, hrest] at h
          cases h
        | ok rest =>
          rw [hzones, hrest] at h
          have hfirst := scanZones_sublist hzones
          have hothers := scanSensors_sublist hrest
          have happend := congrArg List.length (Except.ok.inj h)
          have hle := hfirst.length_le
          have hle' := hothers.length_le
          -- two sublists that make up the whole are the whole
          rw [List.length_append, List.length_append] at happend
          exact ⟨congrArg _ (hfirst.eq_of_length (by omega)), congrArg _ (hothers.eq_of_length (by omega))⟩
    · rintro ⟨hzones, hrest⟩
      rw [hzones, hrest]
      rfl

/-- Where the scan of the tree fails no configured directory that came before has a usable zone.
Otherwise none with a usable zone is followed by another of its name, and the last of each name is
clean. -/
structure Registrable (sensors : List Str) (hwmon : Hwmon) : Prop where
  failed : hwmon.fails = true → ∀ e ∈ matching sensors hwmon.entries,
    e.2.yields.filterMap (usable hwmon.statThrows e.1 e.2) = []
  namesakes : hwmon.fails = false → (matching sensors hwmon.entries).Pairwise fun e later =>
    later.1 = e.1 → e.2.yields.filterMap (usable hwmon.statThrows e.1 e.2) = []
  clean : hwmon.fails = false → ∀ e ∈ lastOfName sensors hwmon.entries, Clean hwmon.statThrows e.1 e.2 e.2.yields

/-- What the second scan registers are all usable zones exactly when each directory it visits is clean
and no overwritten one has a usable zone. -/
theorem scanSensors_perm_iff {sensors : List Str} {hwmon : Hwmon} {l : List (Str × HwmonEntry)} {zones : List TempZone}
    (hl : l.Perm (lastOfName sensors hwmon.entries)) (hscan : scanSensors hwmon.statThrows l = .ok zones) :
    zones.Perm (usableZones sensors hwmon) ↔
      (∀ e ∈ l, Clean hwmon.statThrows e.1 e.2 e.2.yields) ∧
        (Assoc.overwritten (matching sensors hwmon.entries)).flatMap
          (fun e => e.2.yields.filterMap (usable hwmon.statThrows e.1 e.2)) = [] := by
  have hsub := scanSensors_sublist hscan
  have hsplit := ((Assoc.perm_lastOnly_append_overwritten (matching sensors hwmon.entries)).flatMap_right
    fun e => e.2.yields.filterMap (usable hwmon.statThrows e.1 e.2))
  rw [List.flatMap_append] at hsplit
  have hall : (usableZones sensors hwmon).Perm
      ((l.flatMap fun e => e.2.yields.filterMap (usable hwmon.statThrows e.1 e.2)) ++
        (Assoc.overwritten (matching sensors hwmon.entries)).flatMap
          fun e => e.2.yields.filterMap (usable hwmon.statThrows e.1 e.2)) :=
    hsplit.trans ((hl.symm.flatMap_right _).append_right _)
  rw [← scanSensors_iff, hscan, Except.ok.injEq]
  constructor
  · intro hperm
    -- a part that is as long as the whole is the whole
    have hlength := (hperm.trans hall).length_eq
    have hle := hsub.length_le
    rw [List.length_append] at hlength
    exact ⟨hsub.eq_of_length (by omega), List.length_eq_zero_iff.1 (by omega)⟩
  · rintro ⟨hzones, hnone⟩
    rw [hnone, List.append_nil, ← hzones] at hall
    exact hall.symm

theorem registrable_of_fails {sensors : List Str} {hwmon : Hwmon} (hfails : hwmon.fails = true) :
    Registrable sensors hwmon ↔ usableZones sensors hwmon = [] := by
  unfold usableZones
  rw [List.flatMap_eq_nil_iff]
  constructor
  · exact fun h => h.failed hfails
  · intro h
    exact ⟨fun _ => h, fun hnot => absurd (hfails.symm.trans hnot) (by simp),
      fun hnot => absurd (hfails.symm.trans hnot) (by simp)⟩

theorem registrable_of_not_fails {sensors : List Str} {hwmon : Hwmon} (hfails : hwmon.fails = false) :
    Registrable sensors hwmon ↔
      (∀ e ∈ lastOfName sensors hwmon.entries, Clean hwmon.statThrows e.1 e.2 e.2.yields) ∧
        (Assoc.overwritten (matching sensors hwmon.entries)).flatMap
          (fun e => e.2.yields.filterMap (usable hwmon.statThrows e.1 e.2)) = [] := by
  rw [Assoc.flatMap_overwritten_eq_nil_iff]
  constructor
  · exact fun h => ⟨h.clean hfails, h.namesakes hfails⟩
  · rintro ⟨hclean, hlast⟩
    exact ⟨fun h => absurd (hfails.symm.trans h) (by simp), fun _ => hlast, fun _ => hclean⟩

/-- For every tree, sensor set, order and pattern of filesystem errors: the constructor returns with
exactly the usable zones of all configured directories that the iterators yield when the scan of the tree
does not fail behind one, no namesake overwrites one, and every directory that it keeps is clean. -/
theorem registersUsable_iff (sensors : List Str) (hwmon : Hwmon) (order : MapOrder) :
    RegistersUsable sensors hwmon order ↔ Registrable sensors hwmon := by
  unfold RegistersUsable new
  cases hfails : hwmon.fails with
  | true =>
    rw [registrable_of_fails hfails, if_pos rfl]
    constructor
    · rintro ⟨c, hc, hperm⟩
      cases hc
      exact hperm.nil_eq.symm
    · intro hnone
      refine ⟨_, rfl, ?_⟩
      rw [hnone]
  | false =>
    have hl : (order.order (Assoc.assignAll [] (matching sensors hwmon.entries))).Perm
        (lastOfName sensors hwmon.entries) := by
      rw [Assoc.assignAll_nil]
      exact order.perm _
    rw [registrable_of_not_fails hfails, if_neg Bool.false_ne_true]
    simp only [← hl.mem_iff]
    cases hscan : scanSensors hwmon.statThrows (order.order (Assoc.assignAll [] (matching sensors hwmon.entries))) with
    | error err =>
      refine iff_of_false ?_ fun h => ?_
      · rintro ⟨c, hc, _⟩
        cases hc
      · rw [scanSensors_iff.2 h.1] at hscan
        cases hscan
    | ok zones =>
      rw [← scanSensors_perm_iff hl hscan]
      constructor
      · rintro ⟨c, hc, hperm⟩
        cases hc
        exact hperm
      · intro hperm
        exact ⟨⟨zones⟩, rfl, hperm⟩

/-- A drive with a label that has no number, among files that are as they should be. -/
def oddDrive : HwmonEntry where
  path := "hwmon0".toList
  files := [("name".toList, { content := some "nvme\n".toList }),
    ("temp1_label".toList, { content := some "Composite\n".toList }),
    ("temp1_input".toList, { content := some "40850\n".toList }),
    ("temp_label".toList, { content := some "all\n".toList })]
  yields := ["name".toList, "temp1_label".toList, "temp1_input".toList, "temp_label".toList]

/-- The exception leaves the constructor, with the descriptor of zone 1 open. -/
theorem oddDrive_not_registered : ¬ RegistersUsable ["nvme".toList] { entries := [oddDrive] } yieldOrder := by
  rintro ⟨c, hnew, _⟩
  have hthrows : new ["nvme".toList] { entries := [oddDrive] } yieldOrder = .error .invalidArgument := by
    decide +kernel
  rw [hthrows] at hnew
  cases hnew

end TemperatureCollector

end TimeAgent
