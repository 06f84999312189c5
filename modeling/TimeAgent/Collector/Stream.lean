/-
The two collectors as readers of their sources, and `Agent::readerLoop` over them: which records
of a source reach the handler when nobody asks it to stop.
-/
import TimeAgent.Collector.Parser

namespace TimeAgent

open CText

/-- What one `readEvent` does: it returns an event, it returns `std::nullopt`, or the source has
nothing to give yet and it does not return. -/
inductive ReadResult
  | event (e : CollectorEvent)
  | nullopt
  | waiting

/-! ## Subprocess -/

structure SubprocessCollector where
  unit : Str
  stream : Str

/-- `nowUs` is the clock when the call starts. -/
def SubprocessCollector.readEvent (nowUs : Nat) (c : SubprocessCollector) : ReadResult × SubprocessCollector :=
  match getline c.stream with
  | none => (.nullopt, c)
  | some (msg, stream) =>
    if msg = [] then (.nullopt, { c with stream })
    else (.event { tsUsec := nowUs, unit := c.unit, msg }, { c with stream })

/-! ## Journal -/

/-- A journal entry, with or without a `MESSAGE` field. -/
structure JournalEntry where
  realtimeUsec : Nat
  message : Option Str

/-- `sd_journal_get_data(journal, "MESSAGE", ..)`: the field with its name. -/
def JournalEntry.getData (entry : JournalEntry) : Option Str := entry.message.map ("MESSAGE=".toList ++ ·)

/-- What `sd_journal_next` finds: an entry, none yet (and what `sd_journal_wait` then returns), or
an error. -/
inductive JournalNext
  | entry (entry : JournalEntry)
  | noEntry (wait : Int)
  | failed

structure JournalCollector where
  unit : Str
  journal : List JournalNext
  stopRequested : Bool := false

/-- The loop of `readEvent` over what the journal still has to say. -/
def JournalCollector.next (unit : Str) (stopRequested : Bool) : List JournalNext → ReadResult × List JournalNext
  | [] => (.waiting, [])
  | .entry entry :: journal =>
    let msg := match entry.getData with
      | some data => data.drop "MESSAGE=".length
      | none => []
    (.event { tsUsec := entry.realtimeUsec, unit, msg }, journal)
  | .failed :: journal => (.nullopt, journal)
  | .noEntry wait :: journal =>
    if stopRequested then (.nullopt, journal)
    else if wait < 0 then (.nullopt, journal)
    else next unit stopRequested journal

def JournalCollector.readEvent (c : JournalCollector) : ReadResult × JournalCollector :=
  let (result, journal) := next c.unit c.stopRequested c.journal
  (result, { c with journal })

/-! ## The reader loop -/

/-- `readerLoop` between two turns: the collector, the events handed to the handler, and whether
the loop was left. -/
structure Reader (σ : Type) where
  collector : σ
  handed : List CollectorEvent := []
  left : Bool := false

section Reader

variable {σ : Type} (readEvent : Nat → σ → ReadResult × σ)

/-- One turn of the loop, with what `running_` and the clock are then. -/
def Reader.turn (running : Bool) (nowUs : Nat) (r : Reader σ) : Reader σ :=
  if r.left then r
  else if running then
    match readEvent nowUs r.collector with
    | (.event e, collector) => { r with collector, handed := r.handed ++ [e] }
    | (.nullopt, collector) => { r with collector, left := true }
    | (.waiting, collector) => { r with collector }
  else { r with left := true }

/-- The loop after one turn for each clock reading, with `running_` set all the time. -/
def readerLoop (clock : List Nat) (r : Reader σ) : Reader σ :=
  clock.foldl (fun r nowUs => r.turn readEvent true nowUs) r

/-- In the states of `inv`, `pending c` are the texts that `readEvent` still gives from `c`, up to
its first `nullopt`. -/
structure Yields (inv : σ → Prop) (pending : σ → List Str) : Prop where
  event : ∀ nowUs c e c', inv c → readEvent nowUs c = (.event e, c') → inv c' ∧ pending c = e.msg :: pending c'
  nullopt : ∀ nowUs c c', inv c → readEvent nowUs c = (.nullopt, c') → pending c = []
  waiting : ∀ nowUs c c', inv c → readEvent nowUs c = (.waiting, c') → inv c' ∧ pending c = [] ∧ pending c' = []

variable {readEvent} {inv : σ → Prop} {pending : σ → List Str}

theorem readerLoop_left (clock : List Nat) {r : Reader σ} (h : r.left = true) : readerLoop readEvent clock r = r := by
  induction clock with
  | nil => rfl
  | cons nowUs clock ih =>
    have hturn : r.turn readEvent true nowUs = r := by unfold Reader.turn; rw [if_pos h]
    unfold readerLoop at ih ⊢
    rw [List.foldl_cons, hturn, ih]

/-- After some turns the handler has received that many of the pending texts, in order. -/
theorem readerLoop_handed (hy : Yields readEvent inv pending) (clock : List Nat) (r : Reader σ)
    (hleft : r.left = false) (hinv : inv r.collector) :
    (readerLoop readEvent clock r).handed.map (·.msg) =
      r.handed.map (·.msg) ++ (pending r.collector).take clock.length := by
  induction clock generalizing r with
  | nil => simp [readerLoop]
  | cons nowUs clock ih =>
    have hcons : readerLoop readEvent (nowUs :: clock) r =
        readerLoop readEvent clock (r.turn readEvent true nowUs) := rfl
    rw [hcons]
    unfold Reader.turn
    rw [hleft]
    simp only [Bool.false_eq_true, if_false, if_true]
    -- the three ways a turn ends: a text less is pending, nothing is, or no text has come yet
    match hread : readEvent nowUs r.collector with
    | (.event e, c') =>
      obtain ⟨hinv', hpending⟩ := hy.event _ _ _ _ hinv hread
      dsimp only
      rw [ih { collector := c', handed := r.handed ++ [e] } rfl hinv', hpending]
      simp
    | (.nullopt, c') =>
      dsimp only
      rw [readerLoop_left clock rfl, hy.nullopt _ _ _ hinv hread]
      simp
    | (.waiting, c') =>
      obtain ⟨hinv', hpending, hpending'⟩ := hy.waiting _ _ _ hinv hread
      dsimp only
      rw [ih { collector := c', handed := r.handed } rfl hinv', hpending, hpending']
      simp

end Reader

/-! ## What each collector yields -/

/-- The lines in front of the first empty one. -/
def SubprocessCollector.pending (c : SubprocessCollector) : List Str := (getlines c.stream).takeWhile (· ≠ [])

theorem SubprocessCollector.yields :
    Yields SubprocessCollector.readEvent (fun _ => True) SubprocessCollector.pending := by
  constructor
  · intro nowUs c e c' _ h
    unfold readEvent at h
    unfold pending
    rw [getlines_eq_getline]
    cases hg : getline c.stream with
    | none => rw [hg] at h; cases h
    | some line =>
      rw [hg] at h
      dsimp only at h ⊢
      split at h
      · cases h
      · rename_i hne
        cases h
        simp [hne]
  · intro nowUs c c' _ h
    unfold readEvent at h
    unfold pending
    rw [getlines_eq_getline]
    cases hg : getline c.stream with
    | none => rfl
    | some line =>
      rw [hg] at h
      dsimp only at h ⊢
      split at h
      · rename_i he; simp [he]
      · cases h
  · intro nowUs c c' _ h
    unfold readEvent at h
    split at h
    · cases h
    · split at h <;> cases h

/-- No read of the journal fails. -/
def JournalNext.Ok : JournalNext → Prop
  | .entry _ => True
  | .noEntry wait => 0 ≤ wait
  | .failed => False

/-- The text of an entry, empty without a `MESSAGE`. -/
def JournalNext.text : JournalNext → Option Str
  | .entry e => some (e.message.getD [])
  | .noEntry _ => none
  | .failed => none

theorem JournalEntry.drop_getData (entry : JournalEntry) :
    (match entry.getData with
      | some data => data.drop "MESSAGE=".length
      | none => []) = entry.message.getD [] := by
  unfold getData
  cases entry.message with
  | none => rfl
  | some msg => exact List.drop_left

namespace JournalCollector

/-- Nobody asked the collector to stop and no read will fail. -/
def Live (c : JournalCollector) : Prop := c.stopRequested = false ∧ ∀ r ∈ c.journal, r.Ok

/-- The texts of the entries still to come. -/
def pending (c : JournalCollector) : List Str := c.journal.filterMap JournalNext.text

/-- One `readEvent` takes the journal's next entry, whatever stands in front of it. -/
theorem next_eq (unit : Str) (journal : List JournalNext) (ok : ∀ r ∈ journal, r.Ok) :
    (∃ e journal', next unit false journal = (.event e, journal') ∧ (∀ r ∈ journal', r.Ok) ∧
        journal.filterMap JournalNext.text = e.msg :: journal'.filterMap JournalNext.text) ∨
      (next unit false journal = (.waiting, []) ∧ journal.filterMap JournalNext.text = []) := by
  induction journal with
  | nil => exact Or.inr ⟨rfl, rfl⟩
  | cons r journal ih =>
    have ok' : ∀ r ∈ journal, r.Ok := fun r hr => ok r (List.mem_cons_of_mem _ hr)
    cases r with
    | entry entry =>
      refine Or.inl ⟨_, journal, rfl, ok', ?_⟩
      rw [entry.drop_getData]
      exact List.filterMap_cons_some rfl
    | noEntry wait =>
      have hwait : ¬ wait < 0 := by
        have : 0 ≤ wait := ok (.noEntry wait) List.mem_cons_self
        omega
      have hnext : next unit false (.noEntry wait :: journal) = next unit false journal := by
        rw [next, if_neg (by decide), if_neg hwait]
      rw [hnext, List.filterMap_cons_none rfl]
      exact ih ok'
    | failed => exact absurd (ok .failed List.mem_cons_self) (by simp [JournalNext.Ok])

theorem yields : Yields (fun _ => JournalCollector.readEvent) Live pending := by
  have hread : ∀ c : JournalCollector, Live c →
      (∃ e c', c.readEvent = (.event e, c') ∧ Live c' ∧ pending c = e.msg :: pending c') ∨
        (∃ c', c.readEvent = (.waiting, c') ∧ Live c' ∧ pending c = [] ∧ pending c' = []) := by
    rintro ⟨unit, journal, stop⟩ ⟨hstop, hok⟩
    dsimp only at hstop hok
    subst hstop
    unfold readEvent
    rcases next_eq unit journal hok with ⟨e, journal', hn, hok', htext⟩ | ⟨hn, htext⟩
    · exact Or.inl ⟨e, { unit, journal := journal' }, by simp only [hn], ⟨rfl, hok'⟩, htext⟩
    · exact Or.inr ⟨{ unit, journal := [] }, by simp only [hn], ⟨rfl, List.forall_mem_nil _⟩, htext, rfl⟩
  constructor
  · intro _ c e c' hinv h
    rcases hread c hinv with ⟨e', c'', h', hlive, hp⟩ | ⟨c'', h', hlive, hp⟩ <;> rw [h'] at h <;> cases h
    exact ⟨hlive, hp⟩
  · intro _ c c' hinv h
    rcases hread c hinv with ⟨e', c'', h', hlive, hp⟩ | ⟨c'', h', hlive, hp⟩ <;> rw [h'] at h <;> cases h
  · intro _ c c' hinv h
    rcases hread c hinv with ⟨e', c'', h', hlive, hp⟩ | ⟨c'', h', hlive, hp⟩ <;> rw [h'] at h <;> cases h
    exact ⟨hlive, hp⟩

end JournalCollector

/-! ## No record is lost -/

/-- A source of either kind: the bytes of a subprocess' output up to its end, or what successive
reads of a journal find. -/
inductive Source
  | subprocess (unit stdout : Str)
  | journal (unit : Str) (reads : List JournalNext)

namespace Source

/-- The texts of all records of the source. -/
def records : Source → List Str
  | .subprocess _ stdout => getlines stdout
  | .journal _ reads => reads.filterMap JournalNext.text

/-- No read of the source fails. -/
def NoError : Source → Prop
  | .subprocess _ _ => True
  | .journal _ reads => ∀ r ∈ reads, r.Ok

/-- The texts handed to the handler after one turn of the reader loop for each clock reading. -/
def handed (clock : List Nat) : Source → List Str
  | .subprocess unit stdout =>
    (readerLoop SubprocessCollector.readEvent clock { collector := { unit, stream := stdout } }).handed.map (·.msg)
  | .journal unit reads =>
    (readerLoop (fun _ => JournalCollector.readEvent) clock
      { collector := { unit, journal := reads } }).handed.map (·.msg)

/-- All records in order, each once; only records with an empty text may be left out. -/
def Complete (records handed : List Str) : Prop :=
  handed.Sublist records ∧ handed.filter (· ≠ []) = records.filter (· ≠ [])

/-- The reader hands over everything once it has made enough turns. -/
def Lossless (source : Source) : Prop :=
  ∃ turns, ∀ clock : List Nat, turns ≤ clock.length → Complete source.records (source.handed clock)

/-- In the output of a subprocess no line with text stands behind an empty line. -/
def NoTextBehindEmpty : Source → Prop
  | .subprocess _ stdout => (getlines stdout).Pairwise fun a b => a = [] → b = []
  | .journal _ _ => True

theorem handed_subprocess (unit stdout : Str) (clock : List Nat) :
    (subprocess unit stdout).handed clock = ((getlines stdout).takeWhile (· ≠ [])).take clock.length := by
  exact readerLoop_handed SubprocessCollector.yields clock { collector := { unit, stream := stdout } } rfl trivial

theorem handed_journal (unit : Str) {reads : List JournalNext} (h : ∀ r ∈ reads, r.Ok) (clock : List Nat) :
    (journal unit reads).handed clock = (reads.filterMap JournalNext.text).take clock.length := by
  exact readerLoop_handed JournalCollector.yields clock { collector := { unit, journal := reads } } rfl ⟨rfl, h⟩

/-- The lines in front of the first empty one are complete when only empty ones follow it. -/
theorem complete_takeWhile_iff (lines : List Str) :
    Complete lines (lines.takeWhile (· ≠ [])) ↔ lines.Pairwise fun a b => a = [] → b = [] := by
  have hsub : (lines.takeWhile (· ≠ [])).Sublist lines := (List.takeWhile_prefix _).sublist
  unfold Complete
  rw [and_iff_right hsub]
  induction lines with
  | nil => simp
  | cons line lines ih =>
    rw [List.pairwise_cons]
    by_cases h : line = []
    · subst h
      simp only [List.takeWhile_cons, ne_eq, not_true_eq_false, decide_false, Bool.false_eq_true, if_false,
        List.filter_nil, List.filter_cons, forall_const]
      rw [eq_comm, List.filter_eq_nil_iff]
      constructor
      · intro hall
        have hempty : ∀ b ∈ lines, b = [] := fun b hb => by simpa using hall b hb
        exact ⟨hempty, List.pairwise_of_forall_mem_list fun a _ b hb _ => hempty b hb⟩
      · intro hall b hb
        simpa using hall.1 b hb
    · have hne : decide (line ≠ []) = true := by simpa using h
      have hkeep : ∀ ls : List Str, (line :: ls).filter (· ≠ []) = line :: ls.filter (· ≠ []) :=
        fun ls => List.filter_cons_of_pos hne
      have htail := ih (List.takeWhile_prefix _).sublist
      rw [List.takeWhile_cons, if_pos hne, hkeep, hkeep, List.cons.injEq, and_iff_right rfl]
      refine htail.trans ?_
      simp [h]

theorem lossless_journal (unit : Str) {reads : List JournalNext} (h : ∀ r ∈ reads, r.Ok) :
    (journal unit reads).Lossless := by
  refine ⟨(reads.filterMap JournalNext.text).length, fun clock hle => ?_⟩
  rw [handed_journal unit h, List.take_of_length_le hle]
  exact ⟨List.Sublist.refl _, rfl⟩

theorem lossless_subprocess_iff (unit stdout : Str) :
    (subprocess unit stdout).Lossless ↔ (getlines stdout).Pairwise fun a b => a = [] → b = [] := by
  have hlen : ((getlines stdout).takeWhile (· ≠ [])).length ≤ (getlines stdout).length :=
    (List.takeWhile_prefix _).length_le
  rw [← complete_takeWhile_iff]
  constructor
  · rintro ⟨turns, hall⟩
    have hturns := hall (List.replicate (max turns (getlines stdout).length) 0) (by simp)
    rw [handed_subprocess, List.length_replicate, List.take_of_length_le (hlen.trans (le_max_right ..))] at hturns
    exact hturns
  · intro hcomplete
    refine ⟨(getlines stdout).length, fun clock hle => ?_⟩
    rw [handed_subprocess, List.take_of_length_le (hlen.trans hle)]
    exact hcomplete

/-- A source that no read error interrupts loses no record exactly when no line with text stands
behind an empty line; a journal never loses one. -/
theorem lossless_iff (source : Source) (h : source.NoError) : source.Lossless ↔ source.NoTextBehindEmpty := by
  cases source with
  | journal unit reads => exact iff_of_true (lossless_journal unit h) trivial
  | subprocess unit stdout => exact lossless_subprocess_iff unit stdout

/-- A journal with pauses and an entry without a message. -/
theorem lossless_iff_journal :
    (journal "ptp4l".toList [.noEntry 0, .entry ⟨5, none⟩, .noEntry 1, .entry ⟨6, some "x".toList⟩]).NoError ∧
      ((journal "ptp4l".toList [.noEntry 0, .entry ⟨5, none⟩, .noEntry 1, .entry ⟨6, some "x".toList⟩]).Lossless ↔
        NoTextBehindEmpty (journal "ptp4l".toList
          [.noEntry 0, .entry ⟨5, none⟩, .noEntry 1, .entry ⟨6, some "x".toList⟩])) :=
  have h : ∀ r ∈ [JournalNext.noEntry 0, .entry ⟨5, none⟩, .noEntry 1, .entry ⟨6, some "x".toList⟩], r.Ok := by
    simp [JournalNext.Ok]
  ⟨h, lossless_iff _ h⟩

/-- The line behind an empty line never reaches the handler. -/
theorem subprocess_not_lossless : ¬ (subprocess "ppswatch".toList "a\n\nb\n".toList).Lossless := by
  rw [lossless_subprocess_iff]
  decide

end Source

end TimeAgent
