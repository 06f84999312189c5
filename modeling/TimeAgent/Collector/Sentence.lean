/-
The sentences ptp4l prints, as data: a line is built from its fields, every field carries what
the format promises about it, and `text` is the line. The scans of `collector.cpp` are evaluated
on these texts for arbitrary field contents.
-/
import TimeAgent.Collector.Parser

namespace TimeAgent

open CText CNum CScanf

/-! ## Fields -/

/-- `digits.digits`. -/
structure Stamp where
  whole : Str
  frac : Str
  wholeNe : whole ≠ []
  wholeDec : ∀ c ∈ whole, c.isDigit = true
  fracNe : frac ≠ []
  fracDec : ∀ c ∈ frac, c.isDigit = true

def Stamp.text (t : Stamp) : Str := t.whole ++ '.' :: t.frac

/-- A number with extra spaces in front of it. -/
structure Padded where
  pad : Nat
  num : Numeral

def Padded.text (x : Padded) : Str := List.replicate x.pad ' ' ++ x.num.text

/-- A number in the range of an `int64_t`. -/
structure LongField extends Padded where
  inRange : InInt64 num.value

/-- A number in the range of an `int`. -/
structure IntField extends Padded where
  inRange : InInt32 num.value

def LongField.value (x : LongField) : Int := x.num.value
def IntField.value (x : IntField) : Int := x.num.value

theorem Padded.skipSpace (x : Padded) (rest : Str) : skipSpace (x.text ++ rest) = x.num.text ++ rest := by
  unfold Padded.text
  rw [List.append_assoc, skipSpace_append (fun c hc => by rw [List.eq_of_mem_replicate hc]; rfl)]
  exact skipSpace_of_stops (x.num.stops_isspace rest)

theorem Padded.no_nul (x : Padded) : '\x00' ∉ x.text := by
  unfold Padded.text Numeral.text
  simp only [List.mem_append, List.mem_replicate, not_or, not_and]
  refine ⟨fun _ h => absurd h (by decide), ?_, fun h => absurd (x.num.dec _ h) (by decide)⟩
  cases x.num.sign <;> decide

theorem Stamp.no_nul (t : Stamp) : '\x00' ∉ t.text := by
  unfold Stamp.text
  simp only [List.mem_append, List.mem_cons, not_or]
  exact ⟨fun h => absurd (t.wholeDec _ h) (by decide), by decide, fun h => absurd (t.fracDec _ h) (by decide)⟩

/-! ## Scanning a field behind its literal text -/

section Fields

variable {σ : Type} {t : String} {ds : Format σ} {s : σ} {rest : Str}

/-- One more stored conversion. -/
def stored (r : Nat × σ) : Nat × σ := (r.1 + 1, r.2)

theorem sscanf_lits_int (ht : singleSpaced t.toList = true) (st : Option (Numeral → σ → σ)) :
    sscanf (lits t ++ .int st :: ds) (t.toList ++ rest) s = sscanf (.int st :: ds) rest s := by
  rw [sscanf_lits, matchText_self ht]
  cases t.toList.getLast?.any isspace <;> simp

theorem sscanf_lits_word (ht : singleSpaced t.toList = true) (width : Option Nat) (st : Option (Str → σ → σ)) :
    sscanf (lits t ++ .text (.word width) st :: ds) (t.toList ++ rest) s =
      sscanf (.text (.word width) st :: ds) rest s := by
  rw [sscanf_lits, matchText_self ht]
  cases t.toList.getLast?.any isspace <;> simp

theorem scan_long (ht : singleSpaced t.toList = true) (x : LongField) (f : Int → σ → σ)
    (hr : Stops Char.isDigit rest) :
    sscanf (lits t ++ long f :: ds) (t.toList ++ (x.text ++ rest)) s = stored (sscanf ds rest (f x.value s)) := by
  rw [long, sscanf_lits_int ht, sscanf_int (x.skipSpace rest) hr, store_some, strtol_of_inInt64 x.inRange]
  rfl

theorem scan_int (ht : singleSpaced t.toList = true) (x : IntField) (f : Int → σ → σ)
    (hr : Stops Char.isDigit rest) :
    sscanf (lits t ++ int f :: ds) (t.toList ++ (x.text ++ rest)) s = stored (sscanf ds rest (f x.value s)) := by
  rw [int, sscanf_lits_int ht, sscanf_int (x.skipSpace rest) hr, store_some, strtol_of_inInt64 x.inRange.inInt64,
    lowInt_of_inInt32 x.inRange]
  rfl

theorem scan_skipLong (ht : singleSpaced t.toList = true) (x : Padded) (hr : Stops Char.isDigit rest) :
    sscanf (lits t ++ skipLong :: ds) (t.toList ++ (x.text ++ rest)) s = sscanf ds rest s := by
  rw [skipLong, sscanf_lits_int ht, sscanf_int (x.skipSpace rest) hr, store_none, counted_none]

theorem scan_timestamp (t : Stamp) (hr : Stops (fun c => c.isDigit || c.toLower = 'e' || c = '.') rest) :
    sscanf (timestamp :: ds) (t.text ++ rest) s = stored (sscanf ds rest s) := by
  have hsp : skipSpace (t.text ++ rest) = t.whole ++ '.' :: (t.frac ++ rest) := by
    unfold Stamp.text
    rw [List.append_assoc, List.cons_append]
    refine skipSpace_of_stops (Stops.append t.wholeNe ?_)
    cases hw : t.whole with
    | nil => simp
    | cons c w => simpa using isspace_digit (t.wholeDec c (by rw [hw]; simp))
  rw [timestamp, sscanf_text (take_real hsp t.wholeDec t.wholeNe t.fracDec t.fracNe hr)]
  rfl

theorem scan_word (ht : singleSpaced t.toList = true) {w : Str} {width : Nat} (f : Str → σ → σ) (hw : IsToken w)
    (hn : w.length ≤ width) (hs : Stops (fun c => !isspace c) rest) :
    sscanf (lits t ++ word width f :: ds) (t.toList ++ (w ++ rest)) s = stored (sscanf ds rest (f w s)) := by
  rw [word, sscanf_lits_word ht, sscanf_text (take_word (skipSpace_of_stops (hw.stops_append rest)) hw hs
    (fun n h => by cases h; exact hn))]
  rfl

theorem scan_skipWord (ht : singleSpaced t.toList = true) {w : Str} (hw : IsToken w)
    (hs : Stops (fun c => !isspace c) rest) :
    sscanf (lits t ++ skipWord :: ds) (t.toList ++ (w ++ rest)) s = sscanf ds rest s := by
  rw [skipWord, sscanf_lits_word ht, sscanf_text (take_word (skipSpace_of_stops (hw.stops_append rest)) hw hs
    (fun n h => by cases h))]
  rfl

/-- `%[^stop]` skips no whitespace, so its literal text either ends in none or the text starts
with none. -/
theorem scan_setNot (ht : singleSpaced t.toList = true) {w : Str} {width : Nat} {stop : Char} (f : Str → σ → σ)
    (hne : w ≠ []) (hw : stop ∉ w) (hn : w.length ≤ width) (hs : Stops (· != stop) rest)
    (hsp : t.toList.getLast?.any isspace = true → Stops isspace w) :
    sscanf (lits t ++ setNot width stop f :: ds) (t.toList ++ (w ++ rest)) s = stored (sscanf ds rest (f w s)) := by
  have hskip : (if t.toList.getLast?.any isspace then skipSpace (w ++ rest) else w ++ rest) = w ++ rest := by
    split
    · rename_i h; exact skipSpace_of_stops ((hsp h).append hne)
    · rfl
  rw [setNot, sscanf_lits, matchText_self ht, hskip]
  simp only
  rw [sscanf_text (take_set hne (fun c hc => by simp only [bne_iff_ne, ne_eq]; rintro rfl; exact hw hc) hs
    (fun n h => by cases h; exact hn))]
  rfl

end Fields

/-! ## Lines -/

/-- `[ts] w offset O sS freq F path delay D`. -/
structure OffsetLine where
  ts : Stamp
  w : Str
  token : IsToken w
  notRms : ¬ "rms".toList <+: w
  noNul : '\x00' ∉ w
  offset : LongField
  state : IntField
  freq : LongField
  delay : LongField

def OffsetLine.text (l : OffsetLine) : Str :=
  ["[".toList, l.ts.text, "] ".toList, l.w, " offset ".toList, l.offset.text, " s".toList, l.state.text,
    " freq ".toList, l.freq.text, " path delay ".toList, l.delay.text].flatten

/-- The summary line: `rms`, `max`, and the frequency and the delay with their deviations. -/
structure RmsLine where
  ts : Stamp
  rms : Padded
  offset : LongField
  freq : LongField
  freqDev : Padded
  delay : LongField
  delayDev : Padded

def RmsLine.text (l : RmsLine) : Str :=
  ["[".toList, l.ts.text, "] rms ".toList, l.rms.text, " max ".toList, l.offset.text, " freq ".toList, l.freq.text,
    " +/- ".toList, l.freqDev.text, " delay ".toList, l.delay.text, " +/- ".toList, l.delayDev.text].flatten

/-- A name in parentheses: what `%127[^)]` takes whole. -/
structure PortName where
  text : Str
  ne : text ≠ []
  le : text.length ≤ 127
  noParen : ')' ∉ text
  noNul : '\x00' ∉ text

/-- A token that fits `%63s`. -/
structure Word63 where
  text : Str
  token : IsToken text
  le : text.length ≤ 63
  noNul : '\x00' ∉ text

/-- `[ts] port N (name): from to to on trigger`. -/
structure PortLine where
  ts : Stamp
  port : IntField
  name : PortName
  fromState : Word63
  toState : Word63
  trigger : Str
  triggerNe : trigger ≠ []
  triggerLe : trigger.length ≤ 127
  triggerStops : Stops isspace trigger
  triggerNoNewline : '\n' ∉ trigger
  triggerNoNul : '\x00' ∉ trigger

def PortLine.text (l : PortLine) : Str :=
  ["[".toList, l.ts.text, "] port ".toList, l.port.text, " (".toList, l.name.text, "): ".toList, l.fromState.text,
    " to ".toList, l.toState.text, " on ".toList, l.trigger].flatten

/-- `[ts] port N (name): new foreign master ID-M`. -/
structure ForeignMasterLine where
  ts : Stamp
  port : IntField
  name : PortName
  clock : Str
  clockNe : clock ≠ []
  clockLe : clock.length ≤ 63
  clockStops : Stops isspace clock
  clockNoDash : '-' ∉ clock
  clockNoNul : '\x00' ∉ clock
  masterPort : IntField

def ForeignMasterLine.text (l : ForeignMasterLine) : Str :=
  ["[".toList, l.ts.text, "] port ".toList, l.port.text, " (".toList, l.name.text, "): new foreign master ".toList,
    l.clock, "-".toList, l.masterPort.text].flatten

/-- `[ts] selected best master clock ID`. -/
structure BestMasterLine where
  ts : Stamp
  clock : Word63

def BestMasterLine.text (l : BestMasterLine) : Str :=
  ["[".toList, l.ts.text, "] selected best master clock ".toList, l.clock.text].flatten

/-- `[ts] selected local clock ID as best master`. -/
structure LocalClockLine where
  ts : Stamp
  clock : Word63

def LocalClockLine.text (l : LocalClockLine) : Str :=
  ["[".toList, l.ts.text, "] selected local clock ".toList, l.clock.text, " as best master".toList].flatten

/-! ## Scans that accept -/

theorem OffsetLine.scan (l : OffsetLine) (r : Ptp4lStats) :
    sscanf Ptp4lParser.offsetFormat l.text r =
      (5, { r with offset := l.offset.value, state := l.state.value, freq := l.freq.value,
                   pathDelay := l.delay.value }) := by
  unfold Ptp4lParser.offsetFormat OffsetLine.text
  simp only [List.append_assoc, List.cons_append, List.nil_append, List.flatten_cons, List.flatten_nil]
  rw [sscanf_lits_self rfl rfl, scan_timestamp _ (by simp), scan_skipWord rfl l.token (by simp),
    scan_long rfl _ _ (by simp), scan_int rfl _ _ (by simp), scan_long rfl _ _ (by simp),
    scan_long rfl _ _ (by simp)]
  rfl

theorem RmsLine.scan (l : RmsLine) (r : Ptp4lStats) :
    sscanf Ptp4lParser.rmsFormat l.text r =
      (4, { r with offset := l.offset.value, freq := l.freq.value, pathDelay := l.delay.value }) := by
  unfold Ptp4lParser.rmsFormat RmsLine.text
  simp only [List.append_assoc, List.cons_append, List.nil_append, List.flatten_cons, List.flatten_nil]
  rw [sscanf_lits_self rfl rfl, scan_timestamp _ (by simp), scan_skipLong rfl _ (by simp),
    scan_long rfl _ _ (by simp), scan_long rfl _ _ (by simp), scan_skipLong rfl _ (by simp),
    scan_long rfl _ _ (by simp), scan_skipLong rfl _ (by simp)]
  rfl

theorem PortLine.scan (l : PortLine) :
    sscanf Ptp4lParser.portEventFormat l.text {} =
      (6, { portNumber := l.port.value, portName := l.name.text, fromState := l.fromState.text,
            toState := l.toState.text, trigger := l.trigger }) := by
  unfold Ptp4lParser.portEventFormat PortLine.text
  simp only [List.append_assoc, List.cons_append, List.nil_append, List.flatten_cons, List.flatten_nil]
  rw [sscanf_lits_self rfl rfl, scan_timestamp _ (by simp), scan_int rfl _ _ (by simp),
    scan_setNot rfl _ l.name.ne l.name.noParen l.name.le (by simp) (fun h => by cases h),
    scan_word rfl _ l.fromState.token l.fromState.le (by simp), scan_word rfl _ l.toState.token l.toState.le (by simp),
    scan_setNot rfl _ l.triggerNe l.triggerNoNewline l.triggerLe (by simp) (fun _ => l.triggerStops)]
  rfl

theorem ForeignMasterLine.scan (l : ForeignMasterLine) :
    sscanf Ptp4lParser.foreignMasterFormat l.text {} =
      (5, { portNumber := l.port.value, portName := l.name.text, masterClockIdentity := l.clock,
            masterPortNumber := l.masterPort.value }) := by
  unfold Ptp4lParser.foreignMasterFormat ForeignMasterLine.text
  simp only [List.append_assoc, List.cons_append, List.nil_append, List.flatten_cons, List.flatten_nil]
  rw [sscanf_lits_self rfl rfl, scan_timestamp _ (by simp), scan_int rfl _ _ (by simp),
    scan_setNot rfl _ l.name.ne l.name.noParen l.name.le (by simp) (fun h => by cases h),
    scan_setNot rfl _ l.clockNe l.clockNoDash l.clockLe (by simp) (fun _ => l.clockStops),
    scan_int rfl _ _ (by simp)]
  rfl

theorem BestMasterLine.scan (l : BestMasterLine) (r : Str) :
    sscanf Ptp4lParser.bestMasterFormat l.text r = (2, l.clock.text) := by
  unfold Ptp4lParser.bestMasterFormat BestMasterLine.text
  simp only [List.append_assoc, List.cons_append, List.nil_append, List.flatten_cons, List.flatten_nil]
  rw [sscanf_lits_self rfl rfl, scan_timestamp _ (by simp), scan_word rfl _ l.clock.token l.clock.le (by simp)]
  rfl

theorem LocalClockLine.scan (l : LocalClockLine) (r : Str) :
    sscanf Ptp4lParser.localClockFormat l.text r = (2, l.clock.text) := by
  unfold Ptp4lParser.localClockFormat LocalClockLine.text
  simp only [List.append_assoc, List.cons_append, List.nil_append, List.flatten_cons, List.flatten_nil]
  rw [sscanf_lits_self rfl rfl, scan_timestamp _ (by simp), scan_word rfl _ l.clock.token l.clock.le (by simp)]
  rw [show lits " as best master" = lits " as best master" ++ ([] : Format Str) by simp, sscanf_lits_self rfl rfl]
  rfl

end TimeAgent
