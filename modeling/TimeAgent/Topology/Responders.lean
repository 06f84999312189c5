/-
Which responder a snapshot describes. With `boundary_hops` above 0 several clocks answer one pmc
request, each with a block of its own; the parser keeps the last line of each key and never looks
at the header of a block. The loops are followed with the line every field is taken from, and the
snapshot describes one clock exactly when the lines that come last agree.
-/
import TimeAgent.Topology.Print
import Mathlib.Data.List.Forall2

namespace TimeAgent

open CText CNum CDouble

namespace PtpTopologyParser

/-! ## Blocks -/

/-- One response: a header with the responder's identity, and the lines of its data set. -/
structure Block where
  indent : Str
  clock : Str
  port : Nat
  seq : Nat
  dataSet : Str
  lines : List Str
  indentBlanks : Blanks indent
  clockToken : IsToken clock
  dataSetNoNewline : '\n' ∉ dataSet
  linesNoNewline : ∀ line ∈ lines, '\n' ∉ line

def Block.header (b : Block) : Str :=
  b.indent ++ (identity b.clock b.port ++ (" seq ".toList ++ ((Numeral.ofNat b.seq).text ++
    (" RESPONSE MANAGEMENT ".toList ++ b.dataSet))))

/-- The lines of an output, each with the clock that answered it. -/
def answeredLines (blocks : List Block) : List (Str × Str) :=
  blocks.flatMap fun b => (b.header :: b.lines).map fun line => (line, b.clock)

/-- What pmc prints for the blocks. -/
def output (blocks : List Block) : Str := unlines ((answeredLines blocks).map Prod.fst)

/-- An accepted line with the clock that answered it and its place in the output. -/
structure Answer where
  key : Str
  value : Str
  responder : Str
  line : Nat
  deriving DecidableEq

def answers (blocks : List Block) : List Answer :=
  (answeredLines blocks).zipIdx.filterMap fun l =>
    (lineEntry l.1.1).map fun e => { key := e.1, value := e.2, responder := l.1.2, line := l.2 }

theorem Block.header_no_newline (b : Block) : '\n' ∉ b.header := by
  unfold Block.header
  simp only [List.mem_append, not_or]
  exact ⟨b.indentBlanks.no_newline, token_no_newline (token_identity b.clockToken _), by decide,
    token_no_newline (Numeral.text_isToken _), by decide, b.dataSetNoNewline⟩

/-- The parser sees the answers' keys and values, and nothing else of a block. -/
theorem entries_output (blocks : List Block) :
    entries (output blocks) = (answers blocks).map fun a => (a.key, a.value) := by
  have hn : ∀ line ∈ (answeredLines blocks).map Prod.fst, '\n' ∉ line := by
    intro line hl
    obtain ⟨answered, hanswered, rfl⟩ := List.mem_map.1 hl
    obtain ⟨b, _, hb⟩ := List.mem_flatMap.1 hanswered
    obtain ⟨line, hline, rfl⟩ := List.mem_map.1 hb
    rcases List.mem_cons.1 hline with rfl | hline
    · exact b.header_no_newline
    · exact b.linesNoNewline line hline
  unfold entries output answers
  rw [getlines_unlines hn, List.filterMap_map]
  generalize answeredLines blocks = lines
  generalize 0 = n
  induction lines generalizing n with
  | nil => rfl
  | cons l lines ih =>
    rw [List.zipIdx_cons, List.filterMap_cons, List.filterMap_cons]
    cases hl : lineEntry l.1 with
    | none => simpa [hl] using ih (n + 1)
    | some e => simpa [hl] using ih (n + 1)

/-! ## Following the fields -/

/-- The line each field of the snapshot is taken from; `none` while it has its default. -/
structure Origins where
  localClock : Option Answer := none
  parentClock : Option Answer := none
  parentPort : Option Answer := none
  grandmaster : Option Answer := none
  stepsRemoved : Option Answer := none
  meanPathDelay : Option Answer := none

/-- The lines a port is taken from. -/
structure PortOrigin where
  identity : Answer
  state : Option Answer := none

structure PortOrigins where
  ports : List PortOrigin := []
  currentPort : Option PortOrigin := none

def PortOrigins.flush (o : PortOrigins) : List PortOrigin := o.ports ++ o.currentPort.toList

def Origins.onDefault (o : Origins) (a : Answer) : Origins :=
  if a.key = "clockIdentity".toList then { o with localClock := some a } else o

def Origins.onParent (o : Origins) (a : Answer) : Origins :=
  if a.key = "parentPortIdentity".toList then
    let o := { o with parentClock := some a }
    if (parsePortNumber (firstToken a.value)).isSome then { o with parentPort := some a } else o
  else if a.key = "grandmasterIdentity".toList then { o with grandmaster := some a }
  else o

def Origins.onCurrent (unspecified : Double → Int) (o : Origins) (a : Answer) : Origins :=
  if a.key = "stepsRemoved".toList then
    if (parseNanoseconds unspecified a.value).isSome then { o with stepsRemoved := some a } else o
  else if a.key = "meanPathDelay".toList then
    if (parseNanoseconds unspecified a.value).isSome then { o with meanPathDelay := some a } else o
  else o

def PortOrigins.onPort (o : PortOrigins) (a : Answer) : PortOrigins :=
  if a.key = "portIdentity".toList then { ports := o.flush, currentPort := some { identity := a } }
  else
    match o.currentPort with
    | some port =>
      if a.key = "portState".toList then { o with currentPort := some { port with state := some a } } else o
    | none => o

/-- The origins of the fields after the first three loops. -/
def origins (unspecified : Double → Int) (defaults parents currents : List Block) : Origins :=
  (answers currents).foldl (Origins.onCurrent unspecified)
    ((answers parents).foldl Origins.onParent ((answers defaults).foldl Origins.onDefault {}))

/-- The origins of the ports. -/
def portOrigins (ports : List Block) : List PortOrigin := ((answers ports).foldl PortOrigins.onPort {}).flush

/-- The field has its default, or it is what `read` takes from the value of its origin. -/
def Taken {α : Type} (default : α) (read : Str → Option α) (origin : Option Answer) (field : α) : Prop :=
  match origin with
  | none => field = default
  | some a => read a.value = some field

/-- Every field is taken from its origin. -/
structure Sound (unspecified : Double → Int) (o : Origins) (s : PtpTopologySnapshotData) : Prop where
  localClock : Taken [] (fun v => some (firstToken v)) o.localClock s.localClockIdentity
  parentClock : Taken [] (fun v => some (parseClockIdentity (firstToken v))) o.parentClock s.parentClockIdentity
  parentPort : Taken 0 (fun v => parsePortNumber (firstToken v)) o.parentPort s.parentPortNumber
  grandmaster : Taken [] (fun v => some (firstToken v)) o.grandmaster s.grandmasterIdentity
  stepsRemoved : Taken 0 (fun v => (parseNanoseconds unspecified v).map lowInt) o.stepsRemoved s.stepsRemoved
  meanPathDelay : Taken 0 (parseNanoseconds unspecified) o.meanPathDelay s.meanPathDelayNs

structure PortSound (o : PortOrigin) (port : PtpPortSnapshot) : Prop where
  identity : port.portIdentity = firstToken o.identity.value
  number : port.portNumber = (parsePortNumber (firstToken o.identity.value)).getD 0
  state : Taken [] (fun v => some (firstToken v)) o.state port.state

section Sound

variable {unspecified : Double → Int} {o : Origins} {s : PtpTopologySnapshotData}

theorem Sound.onDefault (h : Sound unspecified o s) (a : Answer) :
    Sound unspecified (o.onDefault a) (PtpTopologyParser.onDefault a.key a.value s) := by
  unfold Origins.onDefault PtpTopologyParser.onDefault
  split
  · exact { h with localClock := rfl }
  · exact h

theorem Sound.onParent (h : Sound unspecified o s) (a : Answer) :
    Sound unspecified (o.onParent a) (PtpTopologyParser.onParent a.key a.value s) := by
  unfold Origins.onParent PtpTopologyParser.onParent
  split
  · cases hport : parsePortNumber (firstToken a.value) with
    | none => simpa [hport] using { h with parentClock := rfl }
    | some port => simpa [hport] using { h with parentClock := rfl, parentPort := hport }
  · split
    · exact { h with grandmaster := rfl }
    · exact h

theorem Sound.onCurrent (h : Sound unspecified o s) (a : Answer) :
    Sound unspecified (o.onCurrent unspecified a) (PtpTopologyParser.onCurrent unspecified a.key a.value s) := by
  unfold Origins.onCurrent PtpTopologyParser.onCurrent
  cases hns : parseNanoseconds unspecified a.value with
  | none =>
    simp only [Option.isSome_none, Bool.false_eq_true, if_false, ite_self]
    exact h
  | some ns =>
    simp only [Option.isSome_some, if_true]
    split
    · exact { h with stepsRemoved := by simp [Taken, hns] }
    · split
      · exact { h with meanPathDelay := hns }
      · exact h

/-- The ports play no part in it. -/
theorem Sound.with_ports (h : Sound unspecified o s) (ports : List PtpPortSnapshot) (childPortNumber : Int) :
    Sound unspecified o { s with ports, childPortNumber } :=
  ⟨h.localClock, h.parentClock, h.parentPort, h.grandmaster, h.stepsRemoved, h.meanPathDelay⟩

/-- A loop and the loop that follows it keep what every pair of steps keeps. -/
theorem foldl_sound {α β : Type} {R : α → β → Prop} {g : α → Answer → α} {f : Str → Str → β → β}
    (hstep : ∀ x y a, R x y → R (g x a) (f a.key a.value y)) (l : List Answer) {x : α} {y : β} (h : R x y) :
    R (l.foldl g x) ((l.map fun a => (a.key, a.value)).foldl (fun y e => f e.1 e.2 y) y) := by
  induction l generalizing x y with
  | nil => exact h
  | cons a l ih => exact ih (hstep x y a h)

theorem origins_sound (unspecified : Double → Int) (nowUs : Nat) (defaults parents currents : List Block) :
    Sound unspecified (origins unspecified defaults parents currents)
      (dataSets unspecified nowUs (output defaults) (output parents) (output currents)) := by
  unfold origins dataSets
  rw [entries_output, entries_output, entries_output]
  refine foldl_sound (fun _ _ a h => h.onCurrent a) _ ?_
  refine foldl_sound (fun _ _ a h => h.onParent a) _ ?_
  refine foldl_sound (fun _ _ a h => h.onDefault a) _ ?_
  exact ⟨rfl, rfl, rfl, rfl, rfl, rfl⟩

/-- The finished ports and the pending one are taken from their origins. -/
def PortsSound (o : PortOrigins) (st : PortLoop) : Prop :=
  List.Forall₂ PortSound o.ports st.ports ∧ Option.Rel PortSound o.currentPort st.currentPort

theorem PortsSound.flush {o : PortOrigins} {st : PortLoop} (h : PortsSound o st) :
    List.Forall₂ PortSound o.flush st.flush := by
  obtain ⟨ports, currentPort⟩ := o
  obtain ⟨ports', currentPort'⟩ := st
  obtain ⟨hports, hcurrent⟩ := h
  dsimp only at hports hcurrent
  unfold PortOrigins.flush PortLoop.flush
  cases hcurrent with
  | none => simpa using hports
  | some hcurrent => exact List.rel_append hports (.cons hcurrent .nil)

theorem PortsSound.onPort {o : PortOrigins} {st : PortLoop} (h : PortsSound o st) (a : Answer) :
    PortsSound (o.onPort a) (PtpTopologyParser.onPort a.key a.value st) := by
  have hflush := h.flush
  obtain ⟨ports, currentPort⟩ := o
  obtain ⟨ports', currentPort'⟩ := st
  obtain ⟨hports, hcurrent⟩ := h
  dsimp only at hports hcurrent
  unfold PortOrigins.onPort PtpTopologyParser.onPort
  split
  · exact ⟨hflush, .some ⟨rfl, rfl, rfl⟩⟩
  · cases hcurrent with
    | none => exact ⟨hports, .none⟩
    | some hport =>
      dsimp only
      split
      · exact ⟨hports, .some ⟨hport.identity, hport.number, rfl⟩⟩
      · exact ⟨hports, .some hport⟩

theorem portOrigins_sound (ports : List Block) :
    List.Forall₂ PortSound (portOrigins ports) (portDataSets (output ports)) := by
  unfold portOrigins portDataSets
  rw [entries_output]
  have hstart : PortsSound {} {} := ⟨.nil, .none⟩
  have hstep : ∀ o st a, PortsSound o st → PortsSound (o.onPort a) (PtpTopologyParser.onPort a.key a.value st) :=
    fun _ _ a h => h.onPort a
  exact (foldl_sound hstep (answers ports) hstart).flush

end Sound

/-! ## The lines that come last -/

def hasKey (key : String) (a : Answer) : Bool := a.key = key.toList

/-- The last answer of an output with a property. -/
def lastAnswer (blocks : List Block) (p : Answer → Bool) : Option Answer := ((answers blocks).filter p).getLast?

variable (unspecified : Double → Int)

/-- The answers with a number under `key`. -/
def hasNumber (key : String) (a : Answer) : Bool := hasKey key a && (parseNanoseconds unspecified a.value).isSome

/-- The parent answers whose port number is a number. -/
def hasParentPort (a : Answer) : Bool :=
  hasKey "parentPortIdentity" a && (parsePortNumber (firstToken a.value)).isSome

theorem hasKey_iff {key : String} {a : Answer} : hasKey key a = true ↔ a.key = key.toList := decide_eq_true_iff

theorem ite_key {α : Type} (key : String) (a : Answer) (x y : α) :
    (if a.key = key.toList then x else y) = if hasKey key a then x else y := by
  by_cases h : a.key = key.toList
  · rw [if_pos h, if_pos (hasKey_iff.2 h)]
  · rw [if_neg h, if_neg (fun h' => h (hasKey_iff.1 h'))]

theorem hasKey_ne {key key' : String} (hne : key.toList ≠ key'.toList) {a : Answer} (h : hasKey key a = true) :
    hasKey key' a = false := by
  rw [Bool.eq_false_iff]
  intro h'
  exact hne ((hasKey_iff.1 h).symm.trans (hasKey_iff.1 h'))

theorem Origins.onDefault_eq (o : Origins) (a : Answer) :
    o.onDefault a = { o with localClock := if hasKey "clockIdentity" a then some a else o.localClock } := by
  unfold Origins.onDefault
  rw [ite_key]
  cases hasKey "clockIdentity" a <;> rfl

theorem Origins.onParent_eq (o : Origins) (a : Answer) :
    o.onParent a =
      { o with parentClock := if hasKey "parentPortIdentity" a then some a else o.parentClock,
               parentPort := if hasParentPort a then some a else o.parentPort,
               grandmaster := if hasKey "grandmasterIdentity" a then some a else o.grandmaster } := by
  unfold Origins.onParent hasParentPort
  rw [ite_key, ite_key]
  cases h : hasKey "parentPortIdentity" a with
  | true =>
    have h' : hasKey "grandmasterIdentity" a = false := hasKey_ne (by decide) h
    rw [h']
    cases (parsePortNumber (firstToken a.value)).isSome <;> rfl
  | false => cases hasKey "grandmasterIdentity" a <;> rfl

theorem Origins.onCurrent_eq (o : Origins) (a : Answer) :
    o.onCurrent unspecified a =
      { o with stepsRemoved := if hasNumber unspecified "stepsRemoved" a then some a else o.stepsRemoved,
               meanPathDelay := if hasNumber unspecified "meanPathDelay" a then some a else o.meanPathDelay } := by
  unfold Origins.onCurrent hasNumber
  rw [ite_key, ite_key]
  cases h : hasKey "stepsRemoved" a with
  | true =>
    have h' : hasKey "meanPathDelay" a = false := hasKey_ne (by decide) h
    rw [h']
    cases (parseNanoseconds unspecified a.value).isSome <;> rfl
  | false =>
    cases hasKey "meanPathDelay" a <;> cases (parseNanoseconds unspecified a.value).isSome <;> rfl

/-- A field that every answer with `p` overwrites holds the last one. -/
theorem foldl_last (p : Answer → Bool) (l : List Answer) (o : Option Answer) :
    l.foldl (fun o a => if p a then some a else o) o = ((l.filter p).getLast?).or o := by
  induction l generalizing o with
  | nil => rfl
  | cons a l ih =>
    rw [List.foldl_cons, ih, List.filter_cons]
    split
    · rw [List.getLast?_cons]
      cases (l.filter p).getLast? <;> rfl
    · rfl

theorem origins_eq (defaults parents currents : List Block) :
    origins unspecified defaults parents currents =
      { localClock := lastAnswer defaults (hasKey "clockIdentity"),
        parentClock := lastAnswer parents (hasKey "parentPortIdentity"),
        parentPort := lastAnswer parents hasParentPort,
        grandmaster := lastAnswer parents (hasKey "grandmasterIdentity"),
        stepsRemoved := lastAnswer currents (hasNumber unspecified "stepsRemoved"),
        meanPathDelay := lastAnswer currents (hasNumber unspecified "meanPathDelay") } := by
  have hlast : ∀ (blocks : List Block) (p : Answer → Bool),
      lastAnswer blocks p = (answers blocks).foldl (fun o a => if p a then some a else o) none := by
    intro blocks p
    rw [foldl_last, Option.or_none]
    rfl
  have hdefault : ∀ (l : List Answer) (o : Origins), l.foldl Origins.onDefault o =
      { o with localClock := l.foldl (fun o a => if hasKey "clockIdentity" a then some a else o) o.localClock } := by
    intro l
    induction l with
    | nil => intro o; rfl
    | cons a l ih => intro o; rw [List.foldl_cons, ih, o.onDefault_eq]; rfl
  have hparent : ∀ (l : List Answer) (o : Origins), l.foldl Origins.onParent o =
      { o with parentClock := l.foldl (fun o a => if hasKey "parentPortIdentity" a then some a else o) o.parentClock,
               parentPort := l.foldl (fun o a => if hasParentPort a then some a else o) o.parentPort,
               grandmaster :=
                 l.foldl (fun o a => if hasKey "grandmasterIdentity" a then some a else o) o.grandmaster } := by
    intro l
    induction l with
    | nil => intro o; rfl
    | cons a l ih => intro o; rw [List.foldl_cons, ih, o.onParent_eq]; rfl
  have hcurrent : ∀ (l : List Answer) (o : Origins), l.foldl (Origins.onCurrent unspecified) o =
      { o with stepsRemoved :=
                 l.foldl (fun o a => if hasNumber unspecified "stepsRemoved" a then some a else o) o.stepsRemoved,
               meanPathDelay :=
                 l.foldl (fun o a => if hasNumber unspecified "meanPathDelay" a then some a else o)
                   o.meanPathDelay } := by
    intro l
    induction l with
    | nil => intro o; rfl
    | cons a l ih => intro o; rw [List.foldl_cons, ih, Origins.onCurrent_eq]; rfl
  unfold origins
  rw [hdefault, hparent, hcurrent]
  simp only [hlast]

/-! ## The lines of the ports -/

def PortOrigin.answers (o : PortOrigin) : List Answer := o.identity :: o.state.toList

def isPortKey (a : Answer) : Bool := hasKey "portIdentity" a || hasKey "portState" a

/-- Between the answers `pre` and `post` with a port key, `a` stays in the snapshot: an identity
always, a state when an identity stands in front of it and no other state follows next. -/
def Kept (started : Bool) (pre : List Answer) (a : Answer) (post : List Answer) : Prop :=
  hasKey "portIdentity" a = true ∨
    (started = true ∨ ∃ i ∈ pre, hasKey "portIdentity" i = true) ∧
      ∀ n ∈ post.head?, hasKey "portIdentity" n = true

/-- `P` holds of every answer that stays. -/
def AllKept (P : Answer → Prop) (started : Bool) (l : List Answer) : Prop :=
  ∀ pre a post, l = pre ++ a :: post → Kept started pre a post → P a

theorem allKept_cons (P : Answer → Prop) (started : Bool) (a : Answer) (l : List Answer) :
    AllKept P started (a :: l) ↔ (Kept started [] a l → P a) ∧ AllKept P (started || hasKey "portIdentity" a) l := by
  constructor
  · intro h
    refine ⟨fun hk => h [] a l rfl hk, fun pre b post hl hk => h (a :: pre) b post (by rw [hl]; rfl) ?_⟩
    rcases hk with hk | ⟨hstart, hnext⟩
    · exact Or.inl hk
    · refine Or.inr ⟨?_, hnext⟩
      rcases hstart with hstart | ⟨i, hi, hid⟩
      · rcases Bool.or_eq_true_iff.1 hstart with hstart | hid
        · exact Or.inl hstart
        · exact Or.inr ⟨a, List.mem_cons_self, hid⟩
      · exact Or.inr ⟨i, List.mem_cons_of_mem _ hi, hid⟩
  · rintro ⟨ha, hl⟩ pre b post heq hk
    cases pre with
    | nil => cases heq; exact ha hk
    | cons c pre =>
      rw [List.cons_append, List.cons.injEq] at heq
      obtain ⟨rfl, heq⟩ := heq
      refine hl pre b post heq ?_
      rcases hk with hk | ⟨hstart, hnext⟩
      · exact Or.inl hk
      · refine Or.inr ⟨?_, hnext⟩
        rcases hstart with hstart | ⟨i, hi, hid⟩
        · exact Or.inl (by rw [hstart]; rfl)
        · rcases List.mem_cons.1 hi with rfl | hi
          · exact Or.inl (by rw [hid, Bool.or_true])
          · exact Or.inr ⟨i, hi, hid⟩

theorem PortOrigin.forall_answers (P : Answer → Prop) (o : PortOrigin) :
    (∀ a ∈ o.answers, P a) ↔ P o.identity ∧ ∀ a ∈ o.state, P a := by
  unfold PortOrigin.answers
  rw [List.forall_mem_cons]
  simp only [Option.mem_toList, Option.mem_def]

theorem PortOrigins.forall_flush (Q : PortOrigin → Prop) (o : PortOrigins) :
    (∀ p ∈ o.flush, Q p) ↔ (∀ p ∈ o.ports, Q p) ∧ ∀ p ∈ o.currentPort, Q p := by
  unfold PortOrigins.flush
  rw [List.forall_mem_append]
  simp only [Option.mem_toList, Option.mem_def]

/-- A state in front of every identity is ignored. -/
theorem not_kept_of_state {a : Answer} (hid : hasKey "portIdentity" a = false) (l : List Answer) :
    ¬ Kept false [] a l := by
  rintro (h | ⟨h | ⟨i, hi, _⟩, _⟩)
  · rw [hid] at h; cases h
  · cases h
  · cases hi

/-- A state behind an identity stays if nothing but another identity follows it. -/
theorem kept_of_state {a : Answer} (hid : hasKey "portIdentity" a = false) (l : List Answer) :
    Kept true [] a l ↔ ∀ n ∈ l.head?, hasKey "portIdentity" n = true := by
  unfold Kept
  simp [hid]

/-- From any point of the last loop on: the ports are taken from answers with `P` exactly when
what stays of the finished ports, of the pending one and of the answers to come has `P`. -/
theorem portOrigins_all_iff (P : Answer → Prop) (l : List Answer) (hl : ∀ a ∈ l, isPortKey a = true)
    (o : PortOrigins) :
    (∀ p ∈ (l.foldl PortOrigins.onPort o).flush, ∀ a ∈ p.answers, P a) ↔
      (∀ p ∈ o.ports, ∀ a ∈ p.answers, P a) ∧
        (∀ p ∈ o.currentPort, P p.identity ∧
          ((∀ n ∈ l.head?, hasKey "portIdentity" n = true) → ∀ a ∈ p.state, P a)) ∧
        AllKept P o.currentPort.isSome l := by
  induction l generalizing o with
  | nil =>
    have hkept : AllKept P o.currentPort.isSome [] := fun pre a post h => by simp at h
    have hhead : ∀ n ∈ ([] : List Answer).head?, hasKey "portIdentity" n = true := fun n h => by cases h
    rw [List.foldl_nil, PortOrigins.forall_flush]
    simp only [PortOrigin.forall_answers, hkept, and_true]
    exact and_congr_right fun _ => ⟨fun h p hp => ⟨(h p hp).1, fun _ => (h p hp).2⟩,
      fun h p hp => ⟨(h p hp).1, (h p hp).2 hhead⟩⟩
  | cons a l ih =>
    have hl' : ∀ b ∈ l, isPortKey b = true := fun b hb => hl b (List.mem_cons_of_mem _ hb)
    have ha : isPortKey a = true := hl a List.mem_cons_self
    rw [List.foldl_cons, ih hl', allKept_cons]
    unfold PortOrigins.onPort
    rw [ite_key]
    cases hid : hasKey "portIdentity" a with
    | true =>
      -- the pending port is finished, and `a` starts the next one
      have hk : Kept o.currentPort.isSome [] a l := Or.inl hid
      have hhead : ∀ n ∈ (a :: l).head?, hasKey "portIdentity" n = true := by
        intro n hn
        cases hn; exact hid
      have hflush := o.forall_flush (fun p => ∀ a ∈ p.answers, P a)
      rw [if_pos rfl]
      dsimp only
      rw [hflush, Bool.or_true]
      simp only [PortOrigin.forall_answers, Option.mem_def, Option.some.injEq, forall_eq', Option.isSome_some,
        reduceCtorEq, false_imp_iff, implies_true, and_true]
      constructor
      · rintro ⟨⟨h1, h2⟩, h3, h4⟩
        exact ⟨h1, fun p hp => ⟨(h2 p hp).1, fun _ => (h2 p hp).2⟩, fun _ => h3, h4⟩
      · rintro ⟨h1, h2, h3, h4⟩
        exact ⟨⟨h1, fun p hp => ⟨(h2 p hp).1, (h2 p hp).2 hhead⟩⟩, h3 hk, h4⟩
    | false =>
      have hst : hasKey "portState" a = true := by
        unfold isPortKey at ha
        rwa [hid, Bool.false_or] at ha
      rw [if_neg (by decide), Bool.or_false]
      cases hc : o.currentPort with
      | none =>
        have hk := not_kept_of_state hid l
        dsimp only
        rw [hc]
        simp only [Option.isSome_none, hk, false_imp_iff, true_and, Option.mem_def, reduceCtorEq, implies_true]
      | some port =>
        -- `a` overwrites the state of the pending port
        have hk := kept_of_state hid l
        have hhead : ¬ ∀ n ∈ (a :: l).head?, hasKey "portIdentity" n = true := by
          intro h
          have := h a rfl
          rw [hid] at this; cases this
        dsimp only
        rw [ite_key, hst, if_pos rfl]
        simp only [Option.isSome_some, hk, Option.mem_def, Option.some.injEq, forall_eq'] at hhead ⊢
        tauto

/-- The ports are taken from answers with `P` exactly when every answer that stays has `P`. -/
theorem portOrigins_iff (P : Answer → Prop) (ports : List Block) :
    (∀ p ∈ portOrigins ports, ∀ a ∈ p.answers, P a) ↔ AllKept P false ((answers ports).filter isPortKey) := by
  have hskip : (answers ports).foldl PortOrigins.onPort {} =
      ((answers ports).filter isPortKey).foldl PortOrigins.onPort {} := by
    rw [List.foldl_filter]
    congr 1
    funext o a
    split
    · rfl
    · rename_i h
      unfold isPortKey at h
      rw [Bool.or_eq_true, not_or, Bool.not_eq_true, Bool.not_eq_true] at h
      unfold PortOrigins.onPort
      rw [ite_key, h.1, if_neg (by decide)]
      cases o.currentPort with
      | none => rfl
      | some port =>
        dsimp only
        rw [ite_key, h.2, if_neg (by decide)]
  unfold portOrigins
  rw [hskip, portOrigins_all_iff P _ (fun a ha => (List.mem_filter.1 ha).2)]
  simp

/-! ## One clock -/

def Origins.answers (o : Origins) : List Answer :=
  o.localClock.toList ++ o.parentClock.toList ++ o.parentPort.toList ++ o.grandmaster.toList ++
    o.stepsRemoved.toList ++ o.meanPathDelay.toList

/-- Everything in the snapshot is taken from lines that `localClockIdentity` itself answered, and
the parent clock and the parent port from one line. -/
def OneClock (snapshot : PtpTopologySnapshotData) (o : Origins) (ports : List PortOrigin) : Prop :=
  (∀ a ∈ o.answers ++ ports.flatMap PortOrigin.answers, a.responder = snapshot.localClockIdentity) ∧
    o.parentPort = o.parentClock

instance (snapshot : PtpTopologySnapshotData) (o : Origins) (ports : List PortOrigin) :
    Decidable (OneClock snapshot o ports) := inferInstanceAs (Decidable (_ ∧ _))

/-- The lines that come last in the four outputs were answered by `clock`: the last of each key
(of those with a number, where the parser skips the others), every port identity, and the last
state behind each of them; and the last parent's port number is a number. -/
structure LastFrom (clock : Str) (defaults parents currents ports : List Block) : Prop where
  clockIdentity : ∀ a ∈ lastAnswer defaults (hasKey "clockIdentity"), a.responder = clock
  parent : ∀ a ∈ lastAnswer parents (hasKey "parentPortIdentity"), a.responder = clock ∧
    (parsePortNumber (firstToken a.value)).isSome = true
  grandmaster : ∀ a ∈ lastAnswer parents (hasKey "grandmasterIdentity"), a.responder = clock
  stepsRemoved : ∀ a ∈ lastAnswer currents (hasNumber unspecified "stepsRemoved"), a.responder = clock
  meanPathDelay : ∀ a ∈ lastAnswer currents (hasNumber unspecified "meanPathDelay"), a.responder = clock
  ports : AllKept (fun a => a.responder = clock) false ((answers ports).filter isPortKey)

/-- The last answers agree on the clock that the last `clockIdentity` line names. -/
def LastAgree (defaults parents currents ports : List Block) : Prop :=
  ∀ self ∈ lastAnswer defaults (hasKey "clockIdentity"),
    LastFrom unspecified (firstToken self.value) defaults parents currents ports

theorem lastAnswer_and (blocks : List Block) (p q : Answer → Bool) :
    lastAnswer blocks (fun a => p a && q a) = lastAnswer blocks p ↔ ∀ a ∈ lastAnswer blocks p, q a = true := by
  have hfilter : (answers blocks).filter (fun a => p a && q a) = ((answers blocks).filter p).filter q := by
    rw [List.filter_filter]
    congr 1
    funext a
    exact Bool.and_comm _ _
  unfold lastAnswer
  rw [hfilter]
  generalize (answers blocks).filter p = l
  rcases List.eq_nil_or_concat l with rfl | ⟨init, last, rfl⟩
  · simp
  · rw [List.concat_eq_append, List.filter_append, List.getLast?_concat]
    cases hq : q last with
    | true => simp [hq]
    | false =>
      simp only [hq, List.filter_cons_of_neg, Bool.false_eq_true, not_false_eq_true, List.filter_nil, List.append_nil,
        Option.mem_def, Option.some.injEq, forall_eq', iff_false]
      intro h
      have := (List.mem_filter.1 (List.mem_of_getLast? h)).2
      rw [hq] at this; cases this

/-- A snapshot describes one clock exactly when the lines that come last agree. -/
theorem oneClock_iff_lastAgree {snapshot : PtpTopologySnapshotData} {defaults parents currents ports : List Block}
    (hsound : Sound unspecified (origins unspecified defaults parents currents) snapshot)
    (hne : snapshot.localClockIdentity ≠ []) :
    OneClock snapshot (origins unspecified defaults parents currents) (portOrigins ports) ↔
      LastAgree unspecified defaults parents currents ports := by
  have hclock := hsound.localClock
  rw [origins_eq] at hclock
  dsimp only at hclock
  unfold OneClock LastAgree
  rw [origins_eq, List.forall_mem_append]
  have hports : (∀ a ∈ (portOrigins ports).flatMap PortOrigin.answers, a.responder = snapshot.localClockIdentity) ↔
      AllKept (fun a => a.responder = snapshot.localClockIdentity) false ((answers ports).filter isPortKey) := by
    rw [← portOrigins_iff, List.forall_mem_flatMap]
  cases hself : lastAnswer defaults (hasKey "clockIdentity") with
  | none =>
    rw [hself] at hclock
    exact absurd hclock hne
  | some self =>
    rw [hself] at hclock
    have hvalue : firstToken self.value = snapshot.localClockIdentity := Option.some.inj hclock
    have hparent : lastAnswer parents hasParentPort = lastAnswer parents (hasKey "parentPortIdentity") ↔
        ∀ a ∈ lastAnswer parents (hasKey "parentPortIdentity"),
          (parsePortNumber (firstToken a.value)).isSome = true :=
      lastAnswer_and parents (hasKey "parentPortIdentity") fun a => (parsePortNumber (firstToken a.value)).isSome
    rw [hports]
    unfold Origins.answers
    simp only [List.forall_mem_append, Option.mem_toList, Option.mem_def, Option.some.injEq, forall_eq', hvalue]
    constructor
    · rintro ⟨⟨⟨⟨⟨⟨⟨hown, hclk⟩, _⟩, hgm⟩, hsteps⟩, hdelay⟩, hstay⟩, heq⟩
      refine ⟨fun a ha => ?_, fun a ha => ⟨hclk a ha, hparent.1 heq a ha⟩, hgm, hsteps, hdelay, hstay⟩
      rw [hself] at ha
      cases ha
      exact hown
    · intro hlast
      have heq := hparent.2 fun a ha => (hlast.parent a ha).2
      refine ⟨⟨⟨⟨⟨⟨⟨hlast.clockIdentity self hself, fun a ha => (hlast.parent a ha).1⟩, fun a ha => ?_⟩,
        hlast.grandmaster⟩, hlast.stepsRemoved⟩, hlast.meanPathDelay⟩, hlast.ports⟩, heq⟩
      exact (hlast.parent a (heq ▸ ha)).1

/-- Every field of a returned snapshot is taken from its origin, the child port is that of the
ports, and all origins lie with one clock exactly when the lines that come last agree. -/
theorem parse_oneClock_iff (nowUs : Nat) (defaults parents currents ports : List Block)
    {snapshot : PtpTopologySnapshotData}
    (h : parse unspecified nowUs (output defaults) (output parents) (output currents) (output ports) =
      some snapshot) :
    Sound unspecified (origins unspecified defaults parents currents) snapshot ∧
      List.Forall₂ PortSound (portOrigins ports) snapshot.ports ∧
      snapshot.childPortNumber = childPort snapshot.ports ∧
      (OneClock snapshot (origins unspecified defaults parents currents) (portOrigins ports) ↔
        LastAgree unspecified defaults parents currents ports) := by
  have hsound := origins_sound unspecified nowUs defaults parents currents
  rw [parse_eq] at h
  dsimp only at h
  split at h
  · cases h
  · rename_i hne
    cases h
    have hsound' := hsound.with_ports (portDataSets (output ports)) (childPort (portDataSets (output ports)))
    exact ⟨hsound', portOrigins_sound ports, rfl, oneClock_iff_lastAgree unspecified hsound' hne⟩

/-- A block without leading blanks, sequence number 0. -/
def plainBlock (clock dataSet : String) (lines : List String) (hc : IsToken clock.toList)
    (hd : '\n' ∉ dataSet.toList) (hl : ∀ line ∈ lines.map String.toList, '\n' ∉ line) : Block where
  indent := []
  clock := clock.toList
  port := 0
  seq := 0
  dataSet := dataSet.toList
  lines := lines.map String.toList
  indentBlanks := by decide
  clockToken := hc
  dataSetNoNewline := hd
  linesNoNewline := hl

/-- Clocks `a` and `b` answer the first request in this order and the second in the other. -/
def defaultsAB : List Block :=
  [plainBlock "a" "DEFAULT_DATA_SET" ["clockIdentity a"] (by decide) (by decide) (by decide),
    plainBlock "b" "DEFAULT_DATA_SET" ["clockIdentity b"] (by decide) (by decide) (by decide)]

def parentsBA : List Block :=
  [plainBlock "b" "PARENT_DATA_SET" ["parentPortIdentity p-1"] (by decide) (by decide) (by decide),
    plainBlock "a" "PARENT_DATA_SET" ["parentPortIdentity q-2"] (by decide) (by decide) (by decide)]

/-- The snapshot says that `q` is the parent of `b`, which neither clock reported. -/
theorem parse_not_oneClock :
    parse (fun _ => 0) 0 (output defaultsAB) (output parentsBA) (output []) (output []) =
        some { localClockIdentity := "b".toList, parentClockIdentity := "q".toList, parentPortNumber := 2 } ∧
      ¬ OneClock { localClockIdentity := "b".toList, parentClockIdentity := "q".toList, parentPortNumber := 2 }
        (origins (fun _ => 0) defaultsAB parentsBA []) (portOrigins []) := by
  decide +kernel

/-- With the second answers in the order of the first `p` is the parent that `b` reported. -/
theorem parse_oneClock_iff_agreeing :
    OneClock { localClockIdentity := "b".toList, parentClockIdentity := "p".toList, parentPortNumber := 1 }
        (origins (fun _ => 0) defaultsAB parentsBA.reverse []) (portOrigins []) ∧
      LastAgree (fun _ => 0) defaultsAB parentsBA.reverse [] [] := by
  have hparse : parse (fun _ => 0) 0 (output defaultsAB) (output parentsBA.reverse) (output []) (output []) =
      some { localClockIdentity := "b".toList, parentClockIdentity := "p".toList, parentPortNumber := 1 } := by
    decide +kernel
  have hone : OneClock { localClockIdentity := "b".toList, parentClockIdentity := "p".toList, parentPortNumber := 1 }
      (origins (fun _ => 0) defaultsAB parentsBA.reverse []) (portOrigins []) := by
    decide +kernel
  exact ⟨hone, (parse_oneClock_iff (fun _ => 0) 0 defaultsAB parentsBA.reverse [] [] hparse).2.2.2.1 hone⟩

end PtpTopologyParser

end TimeAgent
