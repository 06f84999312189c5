/-
Which ptp4l parser accepts which sentence. The handler tries four parsers with six formats in a
fixed order on the same text; every one of them before the right one rejects the line whatever
its fields hold, and the right one recovers every field.
-/
import TimeAgent.Collector.Sentence

namespace TimeAgent

open CText CNum CScanf

/-! ## Scans that reject -/

section Reject

variable {σ : Type} {t : String} {ds : Format σ} {s : σ} {rest : Str}

/-- Literal text behind the timestamp that does not match ends the scan after one conversion. -/
theorem scan_reject (ts : Stamp) (hr : Stops (fun c => c.isDigit || c.toLower = 'e' || c = '.') rest)
    (h : matchText t.toList rest = none) :
    sscanf (lits "[" ++ timestamp :: (lits t ++ ds)) ("[".toList ++ (ts.text ++ rest)) s = (1, s) := by
  rw [sscanf_lits_self rfl rfl, scan_timestamp _ hr, sscanf_lits_none h]
  rfl

/-- Text that a number cannot start with does not match a number. -/
theorem matchText_number {c : Char} (hc : isspace c = false) (hd : c.isDigit = false) (hp : c ≠ '+') (hm : c ≠ '-')
    (u : Str) (x : Padded) (rest : Str) : matchText (' ' :: c :: u) (' ' :: (x.text ++ rest)) = none := by
  have hsp : skipSpace (' ' :: (x.text ++ rest)) = x.num.text ++ rest := by
    rw [← x.skipSpace]
    exact skipSpace_append (a := [' ']) (by simp)
  rw [matchText_space isspace_space, hsp]
  have hhead : ∀ d ∈ (x.num.text ++ rest).head?, d ≠ c := by
    rintro d hdm rfl
    have hdig := x.num.dec
    have hne := x.num.ne
    unfold Numeral.text Sign.text at hdm
    cases hs : x.num.sign <;> rw [hs] at hdm
    · cases hds : x.num.digits with
      | nil => exact hne hds
      | cons e es =>
        rw [hds] at hdm hdig
        simp only [List.nil_append, List.cons_append, List.head?_cons, Option.mem_def, Option.some.injEq] at hdm
        have := hdig e (by simp)
        rw [hdm, hd] at this; cases this
    · simp only [List.cons_append, List.head?_cons, Option.mem_def, Option.some.injEq] at hdm; exact hp hdm.symm
    · simp only [List.cons_append, List.head?_cons, Option.mem_def, Option.some.injEq] at hdm; exact hm hdm.symm
  cases hx : x.num.text ++ rest with
  | nil => exact matchText_lit_nil hc u
  | cons d r =>
    rw [hx] at hhead
    rw [matchText_lit hc, if_neg (hhead d (by simp))]

end Reject

/-! ## The word behind the timestamp -/

/-- `[ts] w rest`: the front of every sentence but the summary line. -/
def headed (ts : Stamp) (w rest : Str) : Str := "[".toList ++ (ts.text ++ ("] ".toList ++ (w ++ ' ' :: rest)))

section Headed

variable {ts : Stamp} {w rest : Str}

theorem headed_rms (hw : IsToken w) (h : ¬ "rms".toList <+: w) (r : Ptp4lStats) :
    sscanf Ptp4lParser.rmsFormat (headed ts w rest) r = (1, r) := by
  have hm : matchText "] rms ".toList ("] ".toList ++ (w ++ ' ' :: rest)) = none := by
    have h1 : matchText "] ".toList ("] ".toList ++ (w ++ ' ' :: rest)) = some (w ++ ' ' :: rest) := by
      rw [matchText_self rfl]
      exact congrArg some (skipSpace_of_stops (hw.stops_append _))
    have h2 : matchText "rms".toList (w ++ ' ' :: rest) = none :=
      matchText_none_of_not_prefix (show IsToken "rms".toList by decide).2 (not_prefix_append (by decide) h)
    rw [show "] rms ".toList = "] ".toList ++ ("rms".toList ++ " ".toList) from rfl, matchText_append, h1,
      Option.bind_some, matchText_append, h2, Option.bind_none]
  unfold Ptp4lParser.rmsFormat headed
  simp only [List.append_assoc, List.cons_append, List.nil_append]
  exact scan_reject ts (by simp) hm

theorem headed_offset (hw : IsToken w) (h : matchText " offset ".toList (' ' :: rest) = none) (r : Ptp4lStats) :
    sscanf Ptp4lParser.offsetFormat (headed ts w rest) r = (1, r) := by
  unfold Ptp4lParser.offsetFormat headed
  simp only [List.append_assoc, List.cons_append, List.nil_append]
  rw [sscanf_lits_self rfl rfl, scan_timestamp _ (by simp), scan_skipWord rfl hw (by simp), sscanf_lits_none h]
  rfl

/-- Neither format of a port sentence accepts `selected`. -/
theorem headed_selected {σ : Type} (ds : Format σ) (s : σ) :
    sscanf (lits "[" ++ timestamp :: (lits "] port " ++ ds)) (headed ts "selected".toList rest) s = (1, s) :=
  scan_reject ts (by simp) rfl

theorem headed_parseMetrics_none (hw : IsToken w) (h : ¬ "rms".toList <+: w)
    (ho : matchText " offset ".toList (' ' :: rest) = none) (hn : '\x00' ∉ headed ts w rest) :
    Ptp4lParser.parseMetrics (headed ts w rest) = none := by
  unfold Ptp4lParser.parseMetrics
  simp only [cstr_eq hn, headed_rms hw h, headed_offset hw ho]
  rfl

theorem headed_parsePortEvent_none (hn : '\x00' ∉ headed ts "selected".toList rest) :
    Ptp4lParser.parsePortEvent (headed ts "selected".toList rest) = none := by
  unfold Ptp4lParser.parsePortEvent Ptp4lParser.portEventFormat
  split
  · rfl
  · simp only [cstr_eq hn, List.append_assoc, List.cons_append, List.nil_append, headed_selected]
    rfl

theorem headed_parseForeignMasterEvent_none (hn : '\x00' ∉ headed ts "selected".toList rest) :
    Ptp4lParser.parseForeignMasterEvent (headed ts "selected".toList rest) = none := by
  unfold Ptp4lParser.parseForeignMasterEvent Ptp4lParser.foreignMasterFormat
  split
  · rfl
  · simp only [cstr_eq hn, List.append_assoc, List.cons_append, List.nil_append, headed_selected]
    rfl

end Headed

theorem OffsetLine.text_eq (l : OffsetLine) : ∃ rest, l.text = headed l.ts l.w rest :=
  ⟨_, rfl⟩

theorem PortLine.text_eq (l : PortLine) : ∃ rest, l.text = headed l.ts "port".toList (l.port.text ++ rest) :=
  ⟨_, rfl⟩

theorem ForeignMasterLine.text_eq (l : ForeignMasterLine) :
    ∃ rest, l.text = headed l.ts "port".toList (l.port.text ++ rest) :=
  ⟨_, rfl⟩

theorem BestMasterLine.text_eq (l : BestMasterLine) :
    ∃ rest, l.text = headed l.ts "selected".toList ("best".toList ++ rest) :=
  ⟨_, rfl⟩

theorem LocalClockLine.text_eq (l : LocalClockLine) :
    ∃ rest, l.text = headed l.ts "selected".toList ("local".toList ++ rest) :=
  ⟨_, rfl⟩

/-! ## No NUL byte -/

theorem OffsetLine.no_nul (l : OffsetLine) : '\x00' ∉ l.text := by
  simp [OffsetLine.text, l.ts.no_nul, l.noNul, l.offset.no_nul, l.state.no_nul, l.freq.no_nul, l.delay.no_nul]

theorem RmsLine.no_nul (l : RmsLine) : '\x00' ∉ l.text := by
  simp [RmsLine.text, l.ts.no_nul, l.rms.no_nul, l.offset.no_nul, l.freq.no_nul, l.freqDev.no_nul, l.delay.no_nul,
    l.delayDev.no_nul]

theorem PortLine.no_nul (l : PortLine) : '\x00' ∉ l.text := by
  simp [PortLine.text, l.ts.no_nul, l.port.no_nul, l.name.noNul, l.fromState.noNul, l.toState.noNul, l.triggerNoNul]

theorem ForeignMasterLine.no_nul (l : ForeignMasterLine) : '\x00' ∉ l.text := by
  simp [ForeignMasterLine.text, l.ts.no_nul, l.port.no_nul, l.name.noNul, l.clockNoNul, l.masterPort.no_nul]

theorem BestMasterLine.no_nul (l : BestMasterLine) : '\x00' ∉ l.text := by
  simp [BestMasterLine.text, l.ts.no_nul, l.clock.noNul]

theorem LocalClockLine.no_nul (l : LocalClockLine) : '\x00' ∉ l.text := by
  simp [LocalClockLine.text, l.ts.no_nul, l.clock.noNul]

/-! ## Each sentence reaches its parser -/

theorem OffsetLine.parseMetrics (l : OffsetLine) :
    Ptp4lParser.parseMetrics l.text =
      some { offset := l.offset.value, state := l.state.value, freq := l.freq.value, pathDelay := l.delay.value } := by
  obtain ⟨rest, h⟩ := l.text_eq
  have hr : sscanf Ptp4lParser.rmsFormat l.text {} = (1, {}) := by rw [h]; exact headed_rms l.token l.notRms _
  unfold Ptp4lParser.parseMetrics
  simp only [cstr_eq l.no_nul, hr, l.scan]
  rfl

theorem RmsLine.parseMetrics (l : RmsLine) :
    Ptp4lParser.parseMetrics l.text =
      some { offset := l.offset.value, freq := l.freq.value, pathDelay := l.delay.value } := by
  unfold Ptp4lParser.parseMetrics
  simp only [cstr_eq l.no_nul, l.scan]
  rfl

theorem PortLine.parseMetrics (l : PortLine) : Ptp4lParser.parseMetrics l.text = none := by
  have hn := l.no_nul
  obtain ⟨rest, h⟩ := l.text_eq
  rw [h] at hn ⊢
  exact headed_parseMetrics_none (by decide) (by decide)
    (matchText_number rfl rfl (by decide) (by decide) _ l.port.toPadded _) hn

theorem PortLine.parsePortEvent (l : PortLine) :
    Ptp4lParser.parsePortEvent l.text =
      some { portNumber := l.port.value, portName := l.name.text, fromState := l.fromState.text,
             toState := l.toState.text, trigger := l.trigger } := by
  have hport : contains l.text "port ".toList = true := by
    have := contains_append ("[".toList ++ (l.ts.text ++ "] ".toList)) "port ".toList
      [l.port.text, " (".toList, l.name.text, "): ".toList, l.fromState.text, " to ".toList, l.toState.text,
        " on ".toList, l.trigger].flatten
    simpa [PortLine.text] using this
  have hto : contains l.text " to ".toList = true := by
    have := contains_append ["[".toList, l.ts.text, "] port ".toList, l.port.text, " (".toList, l.name.text,
        "): ".toList, l.fromState.text].flatten " to ".toList [l.toState.text, " on ".toList, l.trigger].flatten
    simpa [PortLine.text] using this
  unfold Ptp4lParser.parsePortEvent
  simp only [hport, hto, cstr_eq l.no_nul, l.scan]
  rfl

theorem ForeignMasterLine.parseMetrics (l : ForeignMasterLine) : Ptp4lParser.parseMetrics l.text = none := by
  have hn := l.no_nul
  obtain ⟨rest, h⟩ := l.text_eq
  rw [h] at hn ⊢
  exact headed_parseMetrics_none (by decide) (by decide)
    (matchText_number rfl rfl (by decide) (by decide) _ l.port.toPadded _) hn

/-- The scan for a state transition stops at `foreign`, where it wants `to`. -/
theorem ForeignMasterLine.portEvent_scan (l : ForeignMasterLine) :
    (sscanf Ptp4lParser.portEventFormat l.text {}).1 = 4 := by
  unfold Ptp4lParser.portEventFormat ForeignMasterLine.text
  simp only [List.append_assoc, List.cons_append, List.nil_append, List.flatten_cons, List.flatten_nil]
  rw [sscanf_lits_self rfl rfl, scan_timestamp _ (by simp), scan_int rfl _ _ (by simp),
    show ∀ x : Str, "): new foreign master ".toList ++ x =
      "): ".toList ++ ("new".toList ++ (" foreign master ".toList ++ x))
      from fun _ => rfl,
    scan_setNot rfl _ l.name.ne l.name.noParen l.name.le (by simp) (fun h => by cases h),
    scan_word rfl _ (by decide) (by decide) (by simp), sscanf_lits_none rfl]
  rfl

/-- Also when the name in parentheses contains ` to `, which passes the substring check. -/
theorem ForeignMasterLine.parsePortEvent (l : ForeignMasterLine) : Ptp4lParser.parsePortEvent l.text = none := by
  unfold Ptp4lParser.parsePortEvent
  split
  · rfl
  · simp only [cstr_eq l.no_nul, l.portEvent_scan]
    rfl

theorem ForeignMasterLine.parseForeignMasterEvent (l : ForeignMasterLine) :
    Ptp4lParser.parseForeignMasterEvent l.text =
      some { portNumber := l.port.value, portName := l.name.text, masterClockIdentity := l.clock,
             masterPortNumber := l.masterPort.value } := by
  have hc : contains l.text "new foreign master".toList = true := by
    have := contains_append ["[".toList, l.ts.text, "] port ".toList, l.port.text, " (".toList, l.name.text,
        "): ".toList].flatten "new foreign master".toList [" ".toList, l.clock, "-".toList, l.masterPort.text].flatten
    simpa [ForeignMasterLine.text] using this
  unfold Ptp4lParser.parseForeignMasterEvent
  simp only [hc, cstr_eq l.no_nul, l.scan]
  rfl

/-- Only the last parser accepts a line with `selected` behind the timestamp and a word that
starts no number behind that. -/
theorem headed_selected_none {ts : Stamp} {rest : Str} (ho : matchText " offset ".toList (' ' :: rest) = none)
    (hn : '\x00' ∉ headed ts "selected".toList rest) :
    Ptp4lParser.parseMetrics (headed ts "selected".toList rest) = none ∧
      Ptp4lParser.parsePortEvent (headed ts "selected".toList rest) = none ∧
      Ptp4lParser.parseForeignMasterEvent (headed ts "selected".toList rest) = none :=
  ⟨headed_parseMetrics_none (by decide) (by decide) ho hn, headed_parsePortEvent_none hn,
    headed_parseForeignMasterEvent_none hn⟩

theorem BestMasterLine.earlier_none (l : BestMasterLine) :
    Ptp4lParser.parseMetrics l.text = none ∧ Ptp4lParser.parsePortEvent l.text = none ∧
      Ptp4lParser.parseForeignMasterEvent l.text = none := by
  have hn := l.no_nul
  obtain ⟨rest, h⟩ := l.text_eq
  rw [h] at hn ⊢
  exact headed_selected_none rfl hn

theorem LocalClockLine.earlier_none (l : LocalClockLine) :
    Ptp4lParser.parseMetrics l.text = none ∧ Ptp4lParser.parsePortEvent l.text = none ∧
      Ptp4lParser.parseForeignMasterEvent l.text = none := by
  have hn := l.no_nul
  obtain ⟨rest, h⟩ := l.text_eq
  rw [h] at hn ⊢
  exact headed_selected_none rfl hn

theorem BestMasterLine.parseBestMasterEvent (l : BestMasterLine) :
    Ptp4lParser.parseBestMasterEvent l.text = some { masterClockIdentity := l.clock.text } := by
  have hc : contains l.text "selected".toList = true := by
    have := contains_append ("[".toList ++ (l.ts.text ++ "] ".toList)) "selected".toList
      [" best master clock ".toList, l.clock.text].flatten
    simpa [BestMasterLine.text] using this
  unfold Ptp4lParser.parseBestMasterEvent
  simp only [hc, cstr_eq l.no_nul, l.scan]
  rfl

theorem LocalClockLine.bestMaster_scan (l : LocalClockLine) (r : Str) :
    sscanf Ptp4lParser.bestMasterFormat l.text r = (1, r) := by
  unfold Ptp4lParser.bestMasterFormat LocalClockLine.text
  simp only [List.append_assoc, List.cons_append, List.nil_append, List.flatten_cons, List.flatten_nil]
  exact scan_reject l.ts (by simp) rfl

theorem LocalClockLine.parseBestMasterEvent (l : LocalClockLine) :
    Ptp4lParser.parseBestMasterEvent l.text = some { masterClockIdentity := l.clock.text } := by
  have hc : contains l.text "selected".toList = true := by
    have := contains_append ("[".toList ++ (l.ts.text ++ "] ".toList)) "selected".toList
      [" local clock ".toList, l.clock.text, " as best master".toList].flatten
    simpa [LocalClockLine.text] using this
  unfold Ptp4lParser.parseBestMasterEvent
  simp only [hc, cstr_eq l.no_nul, l.bestMaster_scan, l.scan]
  rfl

end TimeAgent
