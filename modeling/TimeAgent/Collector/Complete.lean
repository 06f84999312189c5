/-
Formats that end behind their last stored field. The parsers compare the number of stored
conversions, so nothing behind the last of them is checked: a summary line passes without its
closing deviation, and a local clock without the words that make it the best master.
-/
import TimeAgent.Collector.Parts

namespace TimeAgent

open CText CNum CScanf

/-! ## Whole sentences -/

/-- The message matches the whole format. -/
def Matches {σ : Type} (fmt : Format σ) (msg : Str) : Prop := (reads fmt (cstr msg)).isSome = true

/-! ## The text behind the last store -/

/-- The text goes on with the plus-minus sign and an integer, blanks in front of each. -/
def ClosesDelay (rest : Str) : Prop :=
  ∃ (a b more : Str) (ν : Numeral), (∀ c ∈ a, isspace c = true) ∧ (∀ c ∈ b, isspace c = true) ∧
    rest = a ++ ("+/-".toList ++ (b ++ (ν.text ++ more)))

/-- The text goes on with `as best master`, blanks in front of each word. -/
def ClosesMaster (rest : Str) : Prop :=
  ∃ a b c more : Str, (∀ d ∈ a, isspace d = true) ∧ (∀ d ∈ b, isspace d = true) ∧ (∀ d ∈ c, isspace d = true) ∧
    rest = a ++ ("as".toList ++ (b ++ ("best".toList ++ (c ++ ("master".toList ++ more)))))

/-- A word of literal text behind a blank. -/
theorem matchText_word_iff {w : Str} (hw : IsToken w) (t inp out : Str) :
    matchText (' ' :: (w ++ t)) inp = some out ↔
      ∃ a more, (∀ c ∈ a, isspace c = true) ∧ inp = a ++ (w ++ more) ∧ matchText t more = some out := by
  rw [matchText_space isspace_space, matchText_append, Option.bind_eq_some_iff]
  constructor
  · rintro ⟨more, hmore, ht⟩
    rw [matchText_token_iff hw.2, skipSpace_eq_iff hw] at hmore
    obtain ⟨a, ha, heq⟩ := hmore
    exact ⟨a, more, ha, heq, ht⟩
  · rintro ⟨a, more, ha, heq, ht⟩
    refine ⟨more, ?_, ht⟩
    rw [matchText_token_iff hw.2, skipSpace_eq_iff hw]
    exact ⟨a, ha, heq⟩

theorem skipLong_iff {σ : Type} (inp : Str) :
    (reads [(skipLong : Directive σ)] inp).isSome = true ↔
      ∃ (b more : Str) (ν : Numeral), (∀ c ∈ b, isspace c = true) ∧ inp = b ++ (ν.text ++ more) := by
  have hreads : (reads [(skipLong : Directive σ)] inp).isSome = (scanNumeral (skipSpace inp)).isSome := by
    rw [skipLong, reads]
    cases scanNumeral (skipSpace inp) <;> rfl
  rw [hreads, scanNumeral_isSome_iff]
  constructor
  · rintro ⟨ν, more, hν⟩
    obtain ⟨b, hb, heq⟩ := (skipSpace_eq_iff ν.text_isToken _ _).1 hν
    exact ⟨b, more, ν, hb, heq⟩
  · rintro ⟨b, more, ν, hb, heq⟩
    exact ⟨ν, more, (skipSpace_eq_iff ν.text_isToken _ _).2 ⟨b, hb, heq⟩⟩

theorem deviation_iff {σ : Type} (rest : Str) :
    (reads (deviation : Format σ) rest).isSome = true ↔ ClosesDelay rest := by
  have hword := matchText_word_iff (w := "+/-".toList) (by decide) [' '] rest
  unfold deviation
  rw [reads_lits]
  constructor
  · intro h
    obtain ⟨r, hr⟩ := Option.isSome_iff_exists.1 h
    obtain ⟨out, hout, hnum⟩ := Option.bind_eq_some_iff.1 hr
    obtain ⟨a, more, ha, heq, hskip⟩ := (hword out).1 hout
    rw [matchText_space isspace_space] at hskip
    cases hskip
    -- the blank behind the sign and the conversion skip the same whitespace
    rw [skipLong, reads, skipSpace_idem] at hnum
    have hlong : (reads [(skipLong : Directive σ)] more).isSome = true := by
      rw [skipLong, reads, hnum]
      rfl
    obtain ⟨b, tail, ν, hb, htail⟩ := (skipLong_iff more).1 hlong
    exact ⟨a, b, tail, ν, ha, hb, by rw [heq, htail]⟩
  · rintro ⟨a, b, more, ν, ha, hb, rfl⟩
    have hout := (hword (skipSpace (b ++ (ν.text ++ more)))).2
      ⟨a, _, ha, rfl, matchText_space isspace_space _ _⟩
    have hlong := (@skipLong_iff σ (skipSpace (b ++ (ν.text ++ more)))).2
      ⟨[], more, ν, List.forall_mem_nil _, by
        rw [skipSpace_append hb, skipSpace_of_stops (ν.stops_isspace more), List.nil_append]⟩
    rw [show " +/- ".toList = ' ' :: ("+/-".toList ++ [' ']) from rfl, hout, Option.bind_some]
    exact hlong

theorem asBestMaster_iff {σ : Type} (rest : Str) :
    (reads (lits " as best master" : Format σ) rest).isSome = true ↔ ClosesMaster rest := by
  have hsome : (reads (lits " as best master" : Format σ) rest).isSome = true ↔
      ∃ out, matchText " as best master".toList rest = some out := by
    have hreads := reads_lits " as best master" ([] : Format σ) rest
    rw [List.append_nil] at hreads
    rw [hreads]
    cases matchText " as best master".toList rest <;> simp [reads]
  -- each word with what is left of the text behind it
  have has := matchText_word_iff (w := "as".toList) (by decide) " best master".toList
  have hbest := matchText_word_iff (w := "best".toList) (by decide) " master".toList
  have hmaster := matchText_word_iff (w := "master".toList) (by decide) []
  rw [hsome]
  constructor
  · rintro ⟨out, hout⟩
    obtain ⟨a, r1, ha, h1, hout⟩ := (has rest out).1 hout
    obtain ⟨b, r2, hb, h2, hout⟩ := (hbest r1 out).1 hout
    obtain ⟨c, r3, hc, h3, _⟩ := (hmaster r2 out).1 hout
    exact ⟨a, b, c, r3, ha, hb, hc, by rw [h1, h2, h3]⟩
  · rintro ⟨a, b, c, more, ha, hb, hc, rfl⟩
    have h3 := (hmaster _ more).2 ⟨c, more, hc, rfl, rfl⟩
    have h2 := (hbest _ more).2 ⟨b, _, hb, rfl, h3⟩
    exact ⟨more, (has _ more).2 ⟨a, _, ha, rfl, h2⟩⟩

/-! ## The local clock -/

/-- What follows the timestamp of a sentence. -/
def behindStamp (inp : Str) : Option Str :=
  (matchText "[".toList inp).bind fun r => (TextConv.real.take r).map Prod.snd

/-- Literal text behind the timestamp is matched where the timestamp ends. -/
theorem reads_behindStamp {σ : Type} {t : String} {ds : Format σ} {inp rest : Str} {items : List Item}
    (h : reads (lits "[" ++ timestamp :: (lits t ++ ds)) inp = some (items, rest)) :
    ∃ r out, behindStamp inp = some r ∧ matchText t.toList r = some out := by
  obtain ⟨r0, h0, h⟩ := reads_lits_some h
  obtain ⟨ts, r, is, hts, h, _⟩ := reads_text_some h
  obtain ⟨out, hout, _⟩ := reads_lits_some h
  refine ⟨r, out, ?_, hout⟩
  unfold behindStamp
  rw [h0, Option.bind_some, hts]
  rfl

theorem behindStamp_suffix {inp r : Str} (h : behindStamp inp = some r) : r <:+ inp := by
  obtain ⟨r0, h0, hr⟩ := Option.bind_eq_some_iff.1 h
  obtain ⟨⟨t, rest⟩, hts, rfl⟩ := Option.map_eq_some_iff.1 hr
  exact (take_real_suffix hts).trans (matchText_suffix h0)

/-- A sentence that selects something, by the word that says what. -/
theorem matchText_selected {r out : Str} (what : String)
    (h : matchText ("] selected ".toList ++ what.toList) r = some out) :
    ∃ more, "selected".toList <:+: r ∧ matchText "] selected ".toList r = some more ∧
      matchText what.toList more = some out := by
  rw [matchText_append, Option.bind_eq_some_iff] at h
  obtain ⟨more, hmore, hwhat⟩ := h
  refine ⟨more, ?_, hmore, hwhat⟩
  rw [show "] selected ".toList = "] ".toList ++ ("selected".toList ++ " ".toList) from rfl, matchText_append,
    Option.bind_eq_some_iff] at hmore
  obtain ⟨r1, hbracket, hmore⟩ := hmore
  rw [matchText_append, Option.bind_eq_some_iff] at hmore
  obtain ⟨r2, hselected, _⟩ := hmore
  rw [matchText_token_iff (show IsToken "selected".toList by decide).2] at hselected
  rw [hselected] at hbracket
  exact (List.prefix_append _ _).isInfix.trans (matchText_suffix hbracket).isInfix

/-- The two sentences that select something differ in their next letter. -/
theorem no_best_master {more out : Str} (hlocal : matchText "local clock ".toList more = some out) :
    matchText "best master clock ".toList more = none := by
  cases more with
  | nil => cases hlocal
  | cons c more =>
    rw [show "local clock ".toList = 'l' :: "ocal clock ".toList from rfl, matchText_lit rfl] at hlocal
    rw [show "best master clock ".toList = 'b' :: "est master clock ".toList from rfl, matchText_lit rfl]
    split at hlocal
    · rename_i hl
      rw [hl]
      rfl
    · cases hlocal

/-- What a message with a local clock sentence has: the word of the substring check, and no best
master sentence. -/
theorem Ptp4lParser.selected_of_localClock {msg : Str} (h : (reads localClockFront (cstr msg)).isSome = true) :
    contains msg "selected".toList = true ∧ reads bestMasterFormat (cstr msg) = none := by
  obtain ⟨⟨items, rest⟩, hreads⟩ := Option.isSome_iff_exists.1 h
  unfold localClockFront at hreads
  simp only [List.append_assoc, List.cons_append, List.nil_append] at hreads
  obtain ⟨r, out, hstamp, hout⟩ := reads_behindStamp hreads
  obtain ⟨more, hwithin, hmore, hlocal⟩ := matchText_selected "local clock " hout
  constructor
  · rw [contains_iff]
    exact (hwithin.trans (behindStamp_suffix hstamp).isInfix).trans (List.takeWhile_prefix _).isInfix
  · rw [Option.eq_none_iff_forall_ne_some]
    rintro ⟨items', rest'⟩ hreads'
    unfold bestMasterFormat at hreads'
    simp only [List.append_assoc, List.cons_append, List.nil_append] at hreads'
    obtain ⟨r', out', hstamp', hout'⟩ := reads_behindStamp hreads'
    -- both sentences go on where the one timestamp ends
    rw [hstamp] at hstamp'
    cases hstamp'
    obtain ⟨more', _, hmore', hmaster⟩ := matchText_selected "best master clock " hout'
    rw [hmore] at hmore'
    cases hmore'
    rw [no_best_master hlocal] at hmaster
    cases hmaster

theorem Ptp4lParser.replay_localClock {items : List Item} (h : items.map Item.isNum = kinds localClockFront)
    (s s' : Str) : replay localClockFront items s = replay localClockFront items s' := by
  obtain ⟨ts, is, rfl, h1⟩ := items_text h
  obtain ⟨clock, is, rfl, h2⟩ := items_text h1
  obtain rfl := items_nil h2
  rfl

/-- A local clock sentence is taken as soon as the identity is there. -/
theorem Ptp4lParser.parseBestMasterEvent_of_localClock {msg : Str} {items : List Item} {rest : Str}
    (h : reads localClockFront (cstr msg) = some (items, rest)) :
    parseBestMasterEvent msg = some { masterClockIdentity := replay localClockFront items [] } := by
  obtain ⟨hselected, hnone⟩ := selected_of_localClock (by rw [h]; rfl)
  have hcount := sscanf_count_iff bestMasterFormat [] rfl rfl (cstr msg) []
  rw [List.append_nil, hnone, show stores bestMasterFormat = 2 from rfl] at hcount
  have hnot : (sscanf bestMasterFormat (cstr msg) []).1 ≠ 2 := hcount.not.2 Bool.false_ne_true
  have htail : stores (lits " as best master" : Format Str) = 0 := rfl
  have hlocal : ∀ s, sscanf localClockFormat (cstr msg) s = (2, replay localClockFront items []) := by
    intro s
    rw [localClockFormat_eq, sscanf_of_reads _ htail h, replay_localClock (reads_kinds h) s []]
    rfl
  unfold parseBestMasterEvent
  rw [hselected]
  dsimp only
  rw [if_neg hnot, hlocal]
  rfl

/-! ## When a passed line is complete -/

/-- The summary line of a message closes behind the delay, if it gets that far. -/
def DelayCloses {σ : Type} (front : Format σ) (msg : Str) : Prop :=
  ∀ items rest, reads front (cstr msg) = some (items, rest) → ClosesDelay rest

def MasterCloses (msg : Str) : Prop :=
  ∀ items rest, reads Ptp4lParser.localClockFront (cstr msg) = some (items, rest) → ClosesMaster rest

/-- A format whose last store is matched is matched whole exactly when the text behind it closes. -/
theorem matches_iff_closes {σ : Type} {fmt front tail : Format σ} (hfmt : fmt = front ++ tail) (msg : Str)
    {closes : Str → Prop} (hcloses : ∀ rest, (reads tail rest).isSome = true ↔ closes rest) :
    ((reads front (cstr msg)).isSome = true → Matches fmt msg) ↔
      ∀ items rest, reads front (cstr msg) = some (items, rest) → closes rest := by
  unfold Matches
  rw [hfmt, reads_append_isSome]
  constructor
  · intro h items rest hreads
    obtain ⟨r, hr, htail⟩ := h (by rw [hreads]; rfl)
    rw [hreads] at hr
    cases hr
    exact (hcloses rest).1 htail
  · intro h hsome
    obtain ⟨⟨items, rest⟩, hreads⟩ := Option.isSome_iff_exists.1 hsome
    exact ⟨_, hreads, (hcloses rest).2 (h items rest hreads)⟩

/-- The record is what the stores of a format leave of the message. -/
def StoredBy {σ : Type} (front : Format σ) (init : σ) (msg : Str) (record : σ) : Prop :=
  ∃ items rest, reads front (cstr msg) = some (items, rest) ∧ record = replay front items init

/-- A parser that returns what a format stores, as soon as its last store is reached. -/
theorem whole_iff_closes {σ ρ : Type} {fmt front tail : Format σ} (hfmt : fmt = front ++ tail) (init : σ) (msg : Str)
    {parse : Str → Option ρ} (stored : ρ → σ)
    (hparse : ∀ {items rest}, reads front (cstr msg) = some (items, rest) →
      ∃ r, parse msg = some r ∧ stored r = replay front items init)
    {closes : Str → Prop} (hcloses : ∀ rest, (reads tail rest).isSome = true ↔ closes rest) :
    (∀ r, parse msg = some r → StoredBy front init msg (stored r) → Matches fmt msg) ↔
      ∀ items rest, reads front (cstr msg) = some (items, rest) → closes rest := by
  rw [← matches_iff_closes hfmt msg hcloses]
  constructor
  · intro h hsome
    obtain ⟨⟨items, rest⟩, hreads⟩ := Option.isSome_iff_exists.1 hsome
    obtain ⟨r, hr, hstored⟩ := hparse hreads
    exact h r hr ⟨items, rest, hreads, hstored⟩
  · rintro h r _ ⟨items, rest, hreads, _⟩
    exact h (by rw [hreads]; rfl)

/-- On every message: a record that a parser returns through a format comes from the whole sentence
exactly when the text behind the last stored field, where the message gets that far, closes the
sentence. -/
theorem complete_iff_closes (msg : Str) :
    ((∀ r, Ptp4lParser.parseMetrics msg = some r → StoredBy Ptp4lParser.rmsFront {} msg r →
        Matches Ptp4lParser.rmsFormat msg) ↔ DelayCloses Ptp4lParser.rmsFront msg) ∧
      ((∀ r, Phc2SysParser.parseMetrics msg = some r → StoredBy Phc2SysParser.rmsFront {} msg r →
        Matches Phc2SysParser.rmsFormat msg) ↔ DelayCloses Phc2SysParser.rmsFront msg) ∧
      ((∀ event, Ptp4lParser.parseBestMasterEvent msg = some event →
        StoredBy Ptp4lParser.localClockFront [] msg event.masterClockIdentity →
        Matches Ptp4lParser.localClockFormat msg) ↔ MasterCloses msg) := by
  refine ⟨?_, ?_, ?_⟩
  · refine whole_iff_closes Ptp4lParser.rmsFormat_eq {} msg id (fun hreads => ?_) deviation_iff
    exact ⟨_, (Ptp4lParser.parseMetrics_eq_scan msg).trans (Ptp4lParser.scans.scan_of_front msg hreads id), rfl⟩
  · refine whole_iff_closes Phc2SysParser.rmsFormat_eq {} msg id (fun hreads => ?_) deviation_iff
    exact ⟨_, (Phc2SysParser.parseMetrics_eq_scan msg).trans (Phc2SysParser.scans.scan_of_front msg hreads id), rfl⟩
  · refine whole_iff_closes Ptp4lParser.localClockFormat_eq [] msg BestMasterEvent.masterClockIdentity
      (fun hreads => ?_) asBestMaster_iff
    exact ⟨_, Ptp4lParser.parseBestMasterEvent_of_localClock hreads, rfl⟩

/-- A summary line cut off behind the delay. -/
def cutLine : Str := "[31964.600] rms 32 max 40 freq +12543 +/- 5 delay 9042".toList

/-- It is returned as a record, though the format asks for more. -/
theorem cutLine_incomplete :
    ¬ ∀ r, Ptp4lParser.parseMetrics cutLine = some r → StoredBy Ptp4lParser.rmsFront {} cutLine r →
      Matches Ptp4lParser.rmsFormat cutLine := by
  intro h
  have hfront : (reads Ptp4lParser.rmsFront (cstr cutLine)).isSome = true := by decide +kernel
  have hno : (reads Ptp4lParser.rmsFormat (cstr cutLine)).isSome = false := by decide +kernel
  obtain ⟨⟨items, rest⟩, hreads⟩ := Option.isSome_iff_exists.1 hfront
  have hparse := (Ptp4lParser.parseMetrics_eq_scan cutLine).trans (Ptp4lParser.scans.scan_of_front cutLine hreads id)
  have hmatch := h _ hparse ⟨items, rest, hreads, rfl⟩
  unfold Matches at hmatch
  rw [hno] at hmatch
  cases hmatch

end TimeAgent
