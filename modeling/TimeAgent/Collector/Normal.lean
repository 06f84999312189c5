/-
`parsePortEvent` as a normaliser: whatever message it accepts, the event it returns is one that its
own canonical line carries, and that line is parsed back to the same event.
-/
import TimeAgent.Collector.Dispatch
import TimeAgent.Collector.Parts

namespace TimeAgent

open CText CNum CScanf

/-! ## The canonical line -/

/-- `[0.0] port N (name): from to to on trigger`. -/
def PortEvent.print (r : PortEvent) : Str :=
  ["[0.0] port ".toList, (Numeral.ofInt r.portNumber).text, " (".toList, r.portName, "): ".toList, r.fromState,
    " to ".toList, r.toState, " on ".toList, r.trigger].flatten

/-- What the formats say about the fields of an event. -/
structure PortEvent.WellFormed (r : PortEvent) : Prop where
  nameLe : 1 ≤ r.portName.length ∧ r.portName.length ≤ 127
  nameNoParen : ')' ∉ r.portName
  fromLe : 1 ≤ r.fromState.length ∧ r.fromState.length ≤ 63
  fromNoSpace : ∀ c ∈ r.fromState, isspace c = false
  toLe : 1 ≤ r.toState.length ∧ r.toState.length ≤ 63
  toNoSpace : ∀ c ∈ r.toState, isspace c = false
  triggerLe : 1 ≤ r.trigger.length ∧ r.trigger.length ≤ 127
  triggerNoNewline : '\n' ∉ r.trigger
  triggerStops : Stops isspace r.trigger

/-! ## What an accepted message holds -/

/-- Literal text that ends in a blank leaves no whitespace in front. -/
theorem matchText_stops {t inp rest : Str} (h : matchText (t ++ [' ']) inp = some rest) : Stops isspace rest := by
  rw [matchText_append, Option.bind_eq_some_iff] at h
  obtain ⟨more, _, hmore⟩ := h
  cases hmore
  exact stops_dropWhile _ _

theorem mem_setNot {stop : Char} {t : Str} (h : ∀ c ∈ t, (c != stop) = true) : stop ∉ t := by
  intro hs
  simpa using h stop hs

theorem subset_of_suffix {t more inp s : Str} (hs : inp <:+ s) (h : inp = t ++ more) : t ⊆ s :=
  fun _ hc => hs.subset (h ▸ List.mem_append_left _ hc)

/-- The scan of a port event, step by step: what each conversion took, and where the scan went on. -/
theorem Ptp4lParser.portEvent_inv {inp rest : Str} {items : List Item}
    (h : reads portEventFormat inp = some (items, rest)) :
    ∃ ts port name fromState toState trigger,
      items = [.text ts, .num port, .text name, .text fromState, .text toState, .text trigger] ∧
        (name ≠ [] ∧ ')' ∉ name ∧ name.length ≤ 127) ∧ (IsToken fromState ∧ fromState.length ≤ 63) ∧
        (IsToken toState ∧ toState.length ≤ 63) ∧
        (trigger ≠ [] ∧ '\n' ∉ trigger ∧ trigger.length ≤ 127 ∧ Stops isspace trigger) ∧
        name ⊆ inp ∧ fromState ⊆ inp ∧ toState ⊆ inp ∧ trigger ⊆ inp := by
  unfold portEventFormat timestamp int setNot word at h
  simp only [List.append_assoc, List.cons_append, List.nil_append] at h
  obtain ⟨r1, m1, h1⟩ := reads_lits_some h
  obtain ⟨ts, r2, is1, m2, h2, rfl⟩ := reads_text_some h1
  obtain ⟨r3, m3, h3⟩ := reads_lits_some h2
  obtain ⟨port, r4, is2, m4, h4, rfl⟩ := reads_int_some h3
  obtain ⟨r5, m5, h5⟩ := reads_lits_some h4
  obtain ⟨name, r6, is3, m6, h6, rfl⟩ := reads_text_some h5
  obtain ⟨r7, m7, h7⟩ := reads_lits_some h6
  obtain ⟨fromState, r8, is4, m8, h8, rfl⟩ := reads_text_some h7
  obtain ⟨r9, m9, h9⟩ := reads_lits_some h8
  obtain ⟨toState, r10, is5, m10, h10, rfl⟩ := reads_text_some h9
  obtain ⟨r11, m11, h11⟩ := reads_lits_some h10
  obtain ⟨trigger, r12, is6, m12, h12, rfl⟩ := reads_text_some h11
  cases h12
  obtain ⟨hname, hnameSet, hnameLe, e6⟩ := take_set_some m6
  obtain ⟨hfrom, hfromLe, e8⟩ := take_word_some m8
  obtain ⟨hto, htoLe, e10⟩ := take_word_some m10
  obtain ⟨htrigger, htriggerSet, htriggerLe, e12⟩ := take_set_some m12
  -- the input in front of each text is a suffix of the message
  have s3 : r3 <:+ inp := ((matchText_suffix m3).trans (take_real_suffix m2)).trans (matchText_suffix m1)
  have s4 : r4 <:+ r3 := by
    obtain ⟨e4, _⟩ := scanNumeral_some m4
    exact (List.suffix_append port.text r4).trans (e4 ▸ List.dropWhile_suffix _)
  have s5 : r5 <:+ inp := ((matchText_suffix m5).trans s4).trans s3
  have s7 : r7 <:+ inp := ((matchText_suffix m7).trans (e6 ▸ List.suffix_append name r6)).trans s5
  have s8 : skipSpace r7 <:+ inp := (List.dropWhile_suffix _).trans s7
  have s9 : r9 <:+ inp := ((matchText_suffix m9).trans (e8 ▸ List.suffix_append fromState r8)).trans s8
  have s10 : skipSpace r9 <:+ inp := (List.dropWhile_suffix _).trans s9
  have s11 : r11 <:+ inp := ((matchText_suffix m11).trans (e10 ▸ List.suffix_append toState r10)).trans s10
  have hstops : Stops isspace r11 := matchText_stops (t := " on".toList) m11
  rw [e12] at hstops
  exact ⟨ts, port, name, fromState, toState, trigger, rfl, ⟨hname, mem_setNot hnameSet, hnameLe⟩, ⟨hfrom, hfromLe⟩,
    ⟨hto, htoLe⟩, ⟨htrigger, mem_setNot htriggerSet, htriggerLe, hstops.front⟩, subset_of_suffix s5 e6,
    subset_of_suffix s8 e8, subset_of_suffix s10 e10, subset_of_suffix s11 e12⟩

/-- The timestamp of the canonical line. -/
def zeroStamp : Stamp where
  whole := "0".toList
  frac := "0".toList
  wholeNe := by decide
  wholeDec := by simp
  fracNe := by decide
  fracDec := by simp

/-- An accepted message has a canonical line with its own texts. -/
theorem Ptp4lParser.exists_portLine {msg : Str} {r : PortEvent} (h : parsePortEvent msg = some r) :
    ∃ l : PortLine, l.text = r.print ∧ l.port.value = r.portNumber ∧ l.name.text = r.portName ∧
      l.fromState.text = r.fromState ∧ l.toState.text = r.toState ∧ l.trigger = r.trigger ∧
      r = { portNumber := r.portNumber, portName := r.portName, fromState := r.fromState, toState := r.toState,
            trigger := r.trigger } := by
  rw [parsePortEvent_eq] at h
  obtain ⟨p, hp, rfl⟩ := Option.map_eq_some_iff.1 h
  unfold portEventParts at hp
  split at hp
  · cases hp
  cases hreads : reads portEventFormat (cstr msg) with
  | none => rw [hreads] at hp; cases hp
  | some q =>
    obtain ⟨items, rest⟩ := q
    rw [hreads] at hp
    obtain ⟨ts, port, name, fromState, toState, trigger, rfl, ⟨hname, hparen, hnameLe⟩, ⟨hfrom, hfromLe⟩, ⟨hto, htoLe⟩,
      ⟨htrigger, hnewline, htriggerLe, hstops⟩, hsub1, hsub2, hsub3, hsub4⟩ := portEvent_inv hreads
    cases hp
    -- the texts come from in front of the terminator
    have hnul : '\x00' ∉ cstr msg := fun hm => by simpa using List.mem_takeWhile_imp hm
    refine ⟨⟨zeroStamp, ⟨⟨0, Numeral.ofInt (lowInt (strtol port))⟩, ?_⟩,
      ⟨name, hname, hnameLe, hparen, fun hm => hnul (hsub1 hm)⟩,
      ⟨fromState, hfrom, hfromLe, fun hm => hnul (hsub2 hm)⟩, ⟨toState, hto, htoLe, fun hm => hnul (hsub3 hm)⟩,
      trigger, htrigger, htriggerLe, hstops, hnewline, fun hm => hnul (hsub4 hm)⟩, rfl, ?_, rfl, rfl, rfl, rfl, rfl⟩
    · rw [Numeral.value_ofInt]
      exact lowInt_range _
    · exact Numeral.value_ofInt _

theorem length_pos_of_token {t : Str} (h : IsToken t) : 1 ≤ t.length := List.length_pos_iff.2 h.1

/-- Whatever message is accepted: the event is well formed, and its canonical line is parsed to the
same event. -/
theorem Ptp4lParser.parsePortEvent_print {msg : Str} {r : PortEvent} (h : parsePortEvent msg = some r) :
    r.WellFormed ∧ parsePortEvent r.print = some r := by
  obtain ⟨l, hprint, hport, hname, hfrom, hto, htrigger, hr⟩ := exists_portLine h
  constructor
  · refine ⟨?_, ?_, ?_, ?_, ?_, ?_, ?_, ?_, ?_⟩
    · rw [← hname]; exact ⟨List.length_pos_iff.2 l.name.ne, l.name.le⟩
    · rw [← hname]; exact l.name.noParen
    · rw [← hfrom]; exact ⟨length_pos_of_token l.fromState.token, l.fromState.le⟩
    · rw [← hfrom]; exact l.fromState.token.2
    · rw [← hto]; exact ⟨length_pos_of_token l.toState.token, l.toState.le⟩
    · rw [← hto]; exact l.toState.token.2
    · rw [← htrigger]; exact ⟨List.length_pos_iff.2 l.triggerNe, l.triggerLe⟩
    · rw [← htrigger]; exact l.triggerNoNewline
    · rw [← htrigger]; exact l.triggerStops
  · have hparse := l.parsePortEvent
    rw [hprint, hport, hname, hfrom, hto, htrigger] at hparse
    rw [hparse, ← hr]

/-- Glued words, blanks in the name and newlines between the words. -/
def gluedLine : Str := "[1e9]port   -7(eth0 a):LISTENING to \n\nMASTER onRS_MASTER port \nX".toList

def gluedEvent : PortEvent where
  portNumber := -7
  portName := "eth0 a".toList
  fromState := "LISTENING".toList
  toState := "MASTER".toList
  trigger := "RS_MASTER port ".toList

theorem Ptp4lParser.parsePortEvent_print_glued :
    gluedEvent.WellFormed ∧ parsePortEvent gluedEvent.print = some gluedEvent :=
  @parsePortEvent_print gluedLine gluedEvent (by decide +kernel)

end TimeAgent
