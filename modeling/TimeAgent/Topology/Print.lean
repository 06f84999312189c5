/-
Data sets as pmc prints them, one key and value a line between any other lines, and the round
trip: the topology parser gives back what was printed.
-/
import TimeAgent.Topology.Parser
import Mathlib.Data.List.Permutation

namespace TimeAgent

open CText CNum CDouble

namespace PtpTopologyParser

/-! ## Lines -/

/-- Spaces and tabs. -/
def Blanks (s : Str) : Prop := ∀ c ∈ s, c = ' ' ∨ c = '\t'

instance (s : Str) : Decidable (Blanks s) := List.decidableBAll _ s

/-- The lines that carry `value` under `key`: blanks around both, and an optional carriage return. -/
inductive FieldLine (key value : Str) : Str → Prop
  | mk {before between after cr : Str} : Blanks before → Blanks between → between ≠ [] → Blanks after →
      cr = [] ∨ cr = ['\r'] → FieldLine key value (before ++ (key ++ (between ++ value)) ++ (after ++ cr))

/-- The lines between the fields, for a loop that recognises `keys`. -/
inductive Noise (keys : List Str) : Str → Prop
  | blank {line : Str} : (∀ c ∈ line, isspace c = true) → Noise keys line
  | sending {before rest : Str} : Blanks before → Noise keys (before ++ ("sending:".toList ++ rest))
  | keyOnly {before key after : Str} : Blanks before → IsToken key → (∀ c ∈ after, isBlank c = true) →
      Noise keys (before ++ key ++ after)
  | other {line : Str} : firstToken line ∉ keys → Noise keys line

/-- `Prints keys fields lines`: the lines carry the fields in order, with any lines of noise
between them. -/
inductive Prints (keys : List Str) : List (Str × Str) → List Str → Prop
  | nil : Prints keys [] []
  | noise {fields : List (Str × Str)} {line : Str} {lines : List Str} :
      Noise keys line → '\n' ∉ line → Prints keys fields lines → Prints keys fields (line :: lines)
  | field {key value : Str} {fields : List (Str × Str)} {line : Str} {lines : List Str} :
      FieldLine key value line → Prints keys fields lines → Prints keys ((key, value) :: fields) (line :: lines)

/-- A text of such lines; its last newline may be missing. -/
def DataSet (keys : List Str) (fields : List (Str × Str)) (text : Str) : Prop :=
  ∃ lines, Prints keys fields lines ∧ (text = unlines lines ∨ text ++ ['\n'] = unlines lines)

/-! ## Trimming -/

theorem isspace_of_isBlank {c : Char} (h : isBlank c = true) : isspace c = true := by
  unfold isBlank at h
  unfold isspace
  simp only [Bool.or_eq_true, decide_eq_true_eq] at h ⊢
  tauto

theorem Blanks.isBlank {s : Str} (h : Blanks s) : ∀ c ∈ s, isBlank c = true := by
  intro c hc
  rcases h c hc with rfl | rfl <;> rfl

theorem Blanks.no_newline {s : Str} (h : Blanks s) : '\n' ∉ s := by
  intro hc
  rcases h _ hc with h | h <;> cases h

theorem Blanks.isspace {s : Str} (h : Blanks s) : ∀ c ∈ s, isspace c = true :=
  fun c hc => isspace_of_isBlank (h.isBlank c hc)

theorem token_not_blank {w : Str} (h : IsToken w) : ∀ c ∈ w, isBlank c = false := by
  intro c hc
  have := h.2 c hc
  by_contra hb
  rw [isspace_of_isBlank (by simpa using hb)] at this
  cases this

theorem token_no_newline {w : Str} (h : IsToken w) : '\n' ∉ w := by
  intro hc
  have := h.2 _ hc
  cases this

theorem rdropWhile_run {p : Char → Bool} {core after : Str} (ha : ∀ c ∈ after, p c = true)
    (hc : Stops p core.reverse) : (core ++ after).rdropWhile p = core := by
  unfold List.rdropWhile
  rw [List.reverse_append, dropWhile_run (fun c hm => ha c (List.mem_reverse.1 hm)) hc, List.reverse_reverse]

/-- `trim` takes the blanks off a text that starts and ends with something else. -/
theorem trim_core {before core after : Str} (hb : ∀ c ∈ before, isBlank c = true)
    (ha : ∀ c ∈ after, isBlank c = true) (hne : core ≠ []) (hfirst : Stops isBlank core)
    (hlast : Stops isBlank core.reverse) : trim (before ++ core ++ after) = core := by
  unfold trim
  rw [List.append_assoc, dropWhile_run hb (hfirst.append hne), rdropWhile_run ha hlast]

theorem token_stops_blank {w : Str} (h : IsToken w) : Stops isBlank w := by
  intro c hc
  exact token_not_blank h c (List.mem_of_mem_head? hc)

theorem token_stops_blank_reverse {w : Str} (h : IsToken w) : Stops isBlank w.reverse := by
  intro c hc
  exact token_not_blank h c (List.mem_reverse.1 (List.mem_of_mem_head? hc))

theorem firstToken_append_space (a : Str) {b : Str} (hb : ∀ c ∈ b, isspace c = true) :
    firstToken (a ++ b) = firstToken a := by
  unfold firstToken skipSpace
  rw [List.dropWhile_append]
  split
  · rename_i h
    rw [List.isEmpty_iff.1 h, dropWhile_all hb]
  · have hstop : Stops (fun c => !isspace c) b := by
      intro c hc
      simp [hb c (List.mem_of_mem_head? hc)]
    rw [List.takeWhile_append]
    split
    · rename_i h
      rw [hstop.takeWhile, List.append_nil]
      exact ((List.takeWhile_prefix _).eq_of_length h).symm
    · rfl

theorem firstToken_trim (line : Str) : firstToken (trim line) = firstToken line := by
  unfold trim
  have hfront : firstToken (line.dropWhile isBlank) = firstToken line := by
    have hrun : ∀ c ∈ line.takeWhile isBlank, isspace c = true :=
      fun c hc => isspace_of_isBlank (List.mem_takeWhile_imp hc)
    nth_rewrite 2 [← List.takeWhile_append_dropWhile (p := isBlank) (l := line)]
    unfold firstToken
    rw [skipSpace_append hrun]
  rw [← hfront]
  generalize line.dropWhile isBlank = rest
  nth_rewrite 2 [← List.rdropWhile_append_rtakeWhile (p := isBlank) (l := rest)]
  exact (firstToken_append_space _ fun c hc => isspace_of_isBlank (List.mem_rtakeWhile_imp hc)).symm

/-! ## What a line is read as -/

theorem lineEntry_none_of_trim {line : Str} (h : trim line = [] ∨ "sending:".toList <+: trim line) :
    lineEntry line = none := by
  unfold lineEntry parseKeyValue
  dsimp only
  rw [if_pos h]
  rfl

/-- A field line is read as its key and value. -/
theorem lineEntry_field {key value line : Str} (hk : IsToken key) (hs : ¬ "sending:".toList <+: key)
    (hv : IsToken value) (h : FieldLine key value line) : lineEntry line = some (key, value) := by
  obtain ⟨hbefore, hbetween, hne, hafter, hcr⟩ := h
  rename_i before between after cr
  have hstop : Stops (fun c => !isspace c) (between ++ value) := by
    refine Stops.append hne fun c hc => ?_
    simp [hbetween.isspace c (List.mem_of_mem_head? hc)]
  have htail : ∀ c ∈ after ++ cr, isBlank c = true := by
    intro c hc
    rcases List.mem_append.1 hc with hc | hc
    · exact hafter.isBlank c hc
    · rcases hcr with rfl | rfl
      · cases hc
      · cases List.mem_singleton.1 hc; rfl
  have htrim : trim (before ++ (key ++ (between ++ value)) ++ (after ++ cr)) = key ++ (between ++ value) := by
    refine trim_core hbefore.isBlank htail (List.append_ne_nil_of_left_ne_nil hk.1 _)
      ((token_stops_blank hk).append hk.1) ?_
    rw [List.reverse_append, List.reverse_append, List.append_assoc]
    exact (token_stops_blank_reverse hv).append (List.reverse_ne_nil_iff.2 hv.1)
  have hfirst : firstToken (key ++ (between ++ value)) = key :=
    firstToken_eq (List.forall_mem_nil _) hk hstop
  have hrest : afterToken (key ++ (between ++ value)) = between ++ value :=
    afterToken_eq (List.forall_mem_nil _) hk hstop
  have hline : (between ++ value).takeWhile (· ≠ '\n') = between ++ value := by
    refine takeWhile_all fun c hc => ?_
    rcases List.mem_append.1 hc with hc | hc
    · simpa using fun e : c = '\n' => hbetween.no_newline (e ▸ hc)
    · simpa using fun e : c = '\n' => token_no_newline hv (e ▸ hc)
  have hvalue : trim (between ++ value) = value := by
    have := trim_core hbetween.isBlank (List.forall_mem_nil _) hv.1 (token_stops_blank hv)
      (token_stops_blank_reverse hv)
    rwa [List.append_nil] at this
  have hnot : ¬ (key ++ (between ++ value) = [] ∨ "sending:".toList <+: key ++ (between ++ value)) := by
    rintro (h | h)
    · exact List.append_ne_nil_of_left_ne_nil hk.1 _ h
    · cases hb : between with
      | nil => exact hne hb
      | cons c between' =>
        rw [hb] at h
        refine not_prefix_append ?_ hs h
        rcases hbetween c (by rw [hb]; simp) with rfl | rfl <;> decide
  unfold lineEntry parseKeyValue
  simp only [htrim]
  rw [if_neg hnot]
  simp only [hfirst, hrest, hline, hvalue]
  rw [if_neg hk.1]
  simp [hv.1]

/-- Noise is read as nothing, or as a key the loop does not recognise. -/
theorem lineEntry_noise {keys : List Str} {line : Str} (h : Noise keys line) : ∀ e ∈ lineEntry line, e.1 ∉ keys := by
  cases h with
  | blank hall =>
    have hfirst : firstToken (trim line) = [] := by
      rw [firstToken_trim]
      unfold firstToken skipSpace
      rw [dropWhile_all hall, List.takeWhile_nil]
    intro e he
    unfold lineEntry parseKeyValue at he
    dsimp only at he
    rw [hfirst] at he
    split at he <;> cases he
  | @sending before rest hbefore =>
    have hpre : "sending:".toList <+: trim (before ++ ("sending:".toList ++ rest)) := by
      unfold trim
      rw [dropWhile_run hbefore.isBlank (by simp [isBlank])]
      unfold List.rdropWhile
      rw [List.reverse_append, List.dropWhile_append, ← List.reverse_suffix, List.reverse_reverse]
      split
      · exact List.suffix_refl _
      · exact List.suffix_append _ _
    rw [lineEntry_none_of_trim (Or.inr hpre)]
    simp
  | @keyOnly before key after hbefore hkey hafter =>
    have htrim : trim (before ++ key ++ after) = key :=
      trim_core hbefore.isBlank hafter hkey.1 (token_stops_blank hkey) (token_stops_blank_reverse hkey)
    have hrest : afterToken key = [] := by
      have := afterToken_eq (List.forall_mem_nil _) hkey (stops_nil _)
      simpa using this
    intro e he
    unfold lineEntry parseKeyValue at he
    simp only [htrim] at he
    split at he
    · cases he
    · rw [firstToken_token hkey, if_neg hkey.1, hrest] at he
      cases he
  | other hkey =>
    intro e he
    have hfst : e.1 = firstToken line := by
      unfold lineEntry parseKeyValue at he
      dsimp only at he
      rw [firstToken_trim] at he
      split at he
      · cases he
      · split at he
        · cases he
        · split at he
          · cases he; rfl
          · cases he
    rw [hfst]; exact hkey

/-! ## What a data set is read as -/

/-- A field the loops can take: the key is a token, not `sending:`, and the value is a token. -/
structure Printable (e : Str × Str) : Prop where
  key : IsToken e.1
  notSending : ¬ "sending:".toList <+: e.1
  value : IsToken e.2

theorem printable {key value : Str} (hk : IsToken key ∧ ¬ "sending:".toList <+: key) (hv : IsToken value) :
    Printable (key, value) := ⟨hk.1, hk.2, hv⟩

theorem FieldLine.no_newline {key value line : Str} (hk : IsToken key) (hv : IsToken value)
    (h : FieldLine key value line) : '\n' ∉ line := by
  obtain ⟨hbefore, hbetween, _, hafter, hcr⟩ := h
  simp only [List.mem_append, not_or]
  refine ⟨⟨hbefore.no_newline, token_no_newline hk, hbetween.no_newline, token_no_newline hv⟩, hafter.no_newline, ?_⟩
  rcases hcr with rfl | rfl <;> decide

section Fold

variable {keys : List Str} {fields : List (Str × Str)} {σ : Type} {f : Str × Str → σ → σ}

theorem Prints.no_newline {lines : List Str} (h : Prints keys fields lines) (hf : ∀ e ∈ fields, Printable e) :
    ∀ line ∈ lines, '\n' ∉ line := by
  induction h with
  | nil => simp
  | noise _ hline _ ih =>
    intro line hl
    rcases List.mem_cons.1 hl with rfl | hl
    · exact hline
    · exact ih hf line hl
  | field hline _ ih =>
    have hp := hf _ List.mem_cons_self
    intro line hl
    rcases List.mem_cons.1 hl with rfl | hl
    · exact hline.no_newline hp.key hp.value
    · exact ih (fun e he => hf e (List.mem_cons_of_mem _ he)) line hl

/-- A loop that ignores unknown keys sees the fields only. -/
theorem Prints.foldl {lines : List Str} (h : Prints keys fields lines) (hf : ∀ e ∈ fields, Printable e)
    (hskip : ∀ e s, e.1 ∉ keys → f e s = s) (s : σ) :
    (lines.filterMap lineEntry).foldl (fun s e => f e s) s = fields.foldl (fun s e => f e s) s := by
  induction h generalizing s with
  | nil => rfl
  | @noise fields line lines hnoise _ _ ih =>
    rw [List.filterMap_cons]
    cases he : lineEntry line with
    | none => exact ih hf s
    | some e =>
      dsimp only
      rw [List.foldl_cons, hskip e s (lineEntry_noise hnoise e he)]
      exact ih hf s
  | field hline _ ih =>
    have hp := hf _ List.mem_cons_self
    rw [List.filterMap_cons, lineEntry_field hp.key hp.notSending hp.value hline]
    exact ih (fun e he => hf e (List.mem_cons_of_mem _ he)) _

/-- Without its last newline a text has the same lines, but for an empty last one. -/
theorem entries_no_newline {text : Str} {lines : List Str} (hn : ∀ line ∈ lines, '\n' ∉ line)
    (h : text = unlines lines ∨ text ++ ['\n'] = unlines lines) : entries text = lines.filterMap lineEntry := by
  unfold entries
  rcases h with rfl | h
  · rw [getlines_unlines hn]
  · rcases List.eq_nil_or_concat lines with rfl | ⟨init, last, rfl⟩
    · simp at h
    · have hinit : ∀ line ∈ init, '\n' ∉ line := fun line hl => hn line (by simp [hl])
      have htext : text = unlines init ++ last := by
        have hun : unlines (init.concat last) = (unlines init ++ last) ++ ['\n'] := by simp [unlines]
        rw [hun] at h
        exact List.append_cancel_right h
      rw [htext, getlines_unlines_append hinit, List.concat_eq_append, List.filterMap_append, List.filterMap_append]
      congr 1
      by_cases hlast : last = []
      · rw [hlast]; rfl
      · rw [getlines_last (hn last (by simp)) hlast]

theorem DataSet.foldl {text : Str} (h : DataSet keys fields text) (hf : ∀ e ∈ fields, Printable e)
    (hskip : ∀ e s, e.1 ∉ keys → f e s = s) (s : σ) :
    (entries text).foldl (fun s e => f e s) s = fields.foldl (fun s e => f e s) s := by
  obtain ⟨lines, hprints, htext⟩ := h
  rw [entries_no_newline (hprints.no_newline hf) htext]
  exact hprints.foldl hf hskip s

end Fold

/-! ## Port identities -/

/-- `clock-number`. -/
def identity (clock : Str) (number : Nat) : Str := clock ++ '-' :: (Numeral.ofNat number).text

theorem token_identity {clock : Str} (h : IsToken clock) (number : Nat) : IsToken (identity clock number) := by
  refine ⟨List.append_ne_nil_of_left_ne_nil h.1 _, fun c hc => ?_⟩
  rcases List.mem_append.1 hc with hc | hc
  · exact h.2 c hc
  · rcases List.mem_cons.1 hc with rfl | hc
    · rfl
    · exact isspace_digit ((Numeral.ofNat number).dec c hc)

/-- The split is at the last dash, also when the clock contains dashes. -/
theorem splitLastDash_identity (clock : Str) (number : Nat) :
    splitLastDash (identity clock number) = some (clock, (Numeral.ofNat number).text) := by
  have hdigits : ∀ c ∈ (Numeral.ofNat number).text, decide (c ≠ '-') = true := by
    intro c hc
    have := (Numeral.ofNat number).dec c hc
    simp only [ne_eq, decide_not, Bool.not_eq_eq_eq_not, Bool.not_true, decide_eq_false_iff_not]
    rintro rfl
    cases this
  have hdash : identity clock number = (clock ++ ['-']) ++ (Numeral.ofNat number).text := by
    simp [identity]
  have hstop : Stops (fun c => decide (c ≠ '-')) (clock ++ ['-']).reverse := by simp
  have hdrop : (identity clock number).rdropWhile (fun c => decide (c ≠ '-')) = clock ++ ['-'] := by
    rw [hdash]; exact rdropWhile_run hdigits hstop
  have htake : (identity clock number).rtakeWhile (fun c => decide (c ≠ '-')) = (Numeral.ofNat number).text := by
    unfold List.rtakeWhile
    rw [hdash, List.reverse_append, takeWhile_run (fun c hc => hdigits c (List.mem_reverse.1 hc)) hstop,
      List.reverse_reverse]
  unfold splitLastDash
  rw [hdrop, htake]
  cases clock with
  | nil => rfl
  | cons c clock =>
    have hlast : ((c :: clock) ++ ['-']).dropLast = c :: clock := List.dropLast_concat
    simpa using hlast

theorem parsePortNumber_identity (clock : Str) {number : Nat} (h : number < 2 ^ 31) :
    parsePortNumber (identity clock number) = some (number : Int) := by
  have hr : InInt32 (Numeral.ofNat number).value := by
    rw [Numeral.value_ofNat]; unfold InInt32; omega
  have hstoi := stoi_text (Numeral.ofNat number) (stops_nil _) hr
  rw [List.append_nil, Numeral.value_ofNat] at hstoi
  unfold parsePortNumber
  rw [splitLastDash_identity]
  dsimp only
  rw [if_neg (Numeral.text_isToken _).1, hstoi]
  rfl

theorem parseClockIdentity_identity {clock : Str} (h : IsToken clock) (number : Nat) :
    parseClockIdentity (identity clock number) = clock := by
  unfold parseClockIdentity
  simp only [firstToken_token (token_identity h number), splitLastDash_identity]

/-! ## Numbers -/

theorem token_ofInt (z : Int) {tail : Str} (ht : tail = [] ∨ tail = ".0".toList) :
    IsToken ((Numeral.ofInt z).text ++ tail) := by
  have htail : ∀ c ∈ tail, isspace c = false := by
    rcases ht with rfl | rfl
    · simp
    · exact (show IsToken ".0".toList by decide).2
  refine ⟨List.append_ne_nil_of_left_ne_nil (Numeral.text_isToken _).1 _, fun c hc => ?_⟩
  rcases List.mem_append.1 hc with hc | hc
  · exact (Numeral.text_isToken _).2 c hc
  · exact htail c hc

theorem parseNanoseconds_ofInt (unspecified : Double → Int) {z : Int} (hz : z.natAbs < 2 ^ 53) {tail : Str}
    (ht : tail = [] ∨ tail = ".0".toList) :
    parseNanoseconds unspecified ((Numeral.ofInt z).text ++ tail) = some z := by
  have htoken := token_ofInt z ht
  have hrange : InInt64 z := by unfold InInt64; omega
  unfold parseNanoseconds
  rw [firstToken_token htoken]
  dsimp only
  rw [if_neg htoken.1, stod_ofInt hz ht]
  exact congrArg some (llround_int unspecified hrange)

/-! ## The round trip -/

/-- A local port as it is printed. -/
structure LocalPort where
  clock : Str
  number : Nat
  state : Str
  clockToken : IsToken clock
  numberLt : number < 2 ^ 31
  stateToken : IsToken state

/-- The two lines of a port. -/
def LocalPort.fields (p : LocalPort) : List (Str × Str) :=
  [("portIdentity".toList, identity p.clock p.number), ("portState".toList, p.state)]

def LocalPort.snapshot (p : LocalPort) : PtpPortSnapshot :=
  { portNumber := p.number, portIdentity := identity p.clock p.number, state := p.state }

def defaultKeys : List Str := ["clockIdentity".toList]
def parentKeys : List Str := ["parentPortIdentity".toList, "grandmasterIdentity".toList]
def currentKeys : List Str := ["stepsRemoved".toList, "meanPathDelay".toList]
def portKeys : List Str := ["portIdentity".toList, "portState".toList]

theorem onDefault_skip (e : Str × Str) (s : PtpTopologySnapshotData) (h : e.1 ∉ defaultKeys) :
    onDefault e.1 e.2 s = s := by
  simp only [defaultKeys, List.mem_singleton] at h
  unfold onDefault
  rw [if_neg h]

theorem onParent_skip (e : Str × Str) (s : PtpTopologySnapshotData) (h : e.1 ∉ parentKeys) :
    onParent e.1 e.2 s = s := by
  simp only [parentKeys, List.mem_cons, List.not_mem_nil, or_false, not_or] at h
  unfold onParent
  rw [if_neg h.1, if_neg h.2]

theorem onCurrent_skip (unspecified : Double → Int) (e : Str × Str) (s : PtpTopologySnapshotData)
    (h : e.1 ∉ currentKeys) : onCurrent unspecified e.1 e.2 s = s := by
  simp only [currentKeys, List.mem_cons, List.not_mem_nil, or_false, not_or] at h
  unfold onCurrent
  rw [if_neg h.1, if_neg h.2]

theorem onPort_skip (e : Str × Str) (st : PortLoop) (h : e.1 ∉ portKeys) : onPort e.1 e.2 st = st := by
  simp only [portKeys, List.mem_cons, List.not_mem_nil, or_false, not_or] at h
  unfold onPort
  rw [if_neg h.1]
  cases st.currentPort with
  | none => rfl
  | some port => exact if_neg h.2

/-- The two lines of a port flush the port in front of it and leave this one pending. -/
theorem LocalPort.fold (p : LocalPort) (st : PortLoop) :
    p.fields.foldl (fun st e => onPort e.1 e.2 st) st = { ports := st.flush, currentPort := some p.snapshot } := by
  have hid : firstToken (identity p.clock p.number) = identity p.clock p.number :=
    firstToken_token (token_identity p.clockToken _)
  have h1 : onPort "portIdentity".toList (identity p.clock p.number) st =
      { ports := st.flush,
        currentPort := some { portNumber := p.number, portIdentity := identity p.clock p.number } } := by
    unfold onPort
    rw [if_pos rfl]
    dsimp only
    rw [hid, parsePortNumber_identity p.clock p.numberLt]
    rfl
  have h2 : ∀ port ports, onPort "portState".toList p.state { ports, currentPort := some port } =
      { ports, currentPort := some { port with state := p.state } } := by
    intro port ports
    have hkey : ¬ "portState".toList = "portIdentity".toList := by decide
    unfold onPort
    rw [if_neg hkey]
    dsimp only
    rw [if_pos rfl, firstToken_token p.stateToken]
  unfold LocalPort.fields
  rw [List.foldl_cons, List.foldl_cons, List.foldl_nil, h1, h2]
  rfl

/-- The pending record is flushed by the next port and by the end of the text. -/
theorem flush_ports (ports : List LocalPort) (st : PortLoop) :
    ((ports.flatMap LocalPort.fields).foldl (fun st e => onPort e.1 e.2 st) st).flush =
      st.flush ++ ports.map LocalPort.snapshot := by
  induction ports generalizing st with
  | nil => simp
  | cons p ports ih =>
    rw [List.flatMap_cons, List.foldl_append, p.fold, ih]
    simp [PortLoop.flush]

theorem printable_port (ports : List LocalPort) : ∀ e ∈ ports.flatMap LocalPort.fields, Printable e := by
  intro e he
  obtain ⟨p, _, he⟩ := List.mem_flatMap.1 he
  unfold LocalPort.fields at he
  rcases List.mem_cons.1 he with rfl | he
  · exact printable (by decide) (token_identity p.clockToken _)
  · cases List.mem_singleton.1 he
    exact printable (by decide) p.stateToken

/-- What the printed data sets say. -/
structure Topology where
  clock : Str
  parentClock : Str
  parentPort : Nat
  grandmaster : Str
  stepsRemoved : Nat
  meanPathDelay : Int
  ports : List LocalPort
  clockToken : IsToken clock
  parentClockToken : IsToken parentClock
  parentPortLt : parentPort < 2 ^ 31
  grandmasterToken : IsToken grandmaster
  stepsRemovedLt : stepsRemoved < 2 ^ 31
  meanPathDelayLt : meanPathDelay.natAbs < 2 ^ 53

/-- The four texts print `t`: each field once, in any order where a data set has two, the ports
one after the other, and any noise. `tail` is an optional `.0` behind the delay. -/
structure Printed (t : Topology) (defaultDataSet parentDataSet currentDataSet portDataSet : Str) : Prop where
  default : DataSet defaultKeys [("clockIdentity".toList, t.clock)] defaultDataSet
  parent : ∃ fields, DataSet parentKeys fields parentDataSet ∧
    fields.Perm [("parentPortIdentity".toList, identity t.parentClock t.parentPort),
      ("grandmasterIdentity".toList, t.grandmaster)]
  current : ∃ fields tail, DataSet currentKeys fields currentDataSet ∧ (tail = [] ∨ tail = ".0".toList) ∧
    fields.Perm [("stepsRemoved".toList, (Numeral.ofInt t.stepsRemoved).text),
      ("meanPathDelay".toList, (Numeral.ofInt t.meanPathDelay).text ++ tail)]
  port : DataSet portKeys (t.ports.flatMap LocalPort.fields) portDataSet

/-- The snapshot of a printed topology. -/
def Topology.snapshot (t : Topology) (nowUs : Nat) : PtpTopologySnapshotData where
  timestampUs := nowUs
  localClockIdentity := t.clock
  parentClockIdentity := t.parentClock
  parentPortNumber := t.parentPort
  grandmasterIdentity := t.grandmaster
  stepsRemoved := t.stepsRemoved
  meanPathDelayNs := t.meanPathDelay
  childPortNumber := ((t.ports.find? (·.state = "SLAVE".toList)).map fun p => (p.number : Int)).getD 0
  ports := t.ports.map LocalPort.snapshot

section RoundTrip

variable {t : Topology} {defaultDataSet parentDataSet currentDataSet portDataSet : Str}

theorem Printed.fold_default (h : Printed t defaultDataSet parentDataSet currentDataSet portDataSet)
    (s : PtpTopologySnapshotData) :
    (entries defaultDataSet).foldl (fun s e => onDefault e.1 e.2 s) s = { s with localClockIdentity := t.clock } := by
  have hf : ∀ e ∈ [("clockIdentity".toList, t.clock)], Printable e := by
    intro e he
    cases List.mem_singleton.1 he
    exact printable (by decide) t.clockToken
  have hfold := h.default.foldl (f := fun e s => onDefault e.1 e.2 s) hf onDefault_skip s
  have hset : onDefault "clockIdentity".toList t.clock s = { s with localClockIdentity := t.clock } := by
    unfold onDefault
    rw [if_pos rfl, firstToken_token t.clockToken]
  exact hfold.trans hset

theorem onParent_identity (s : PtpTopologySnapshotData) :
    onParent "parentPortIdentity".toList (identity t.parentClock t.parentPort) s =
      { s with parentClockIdentity := t.parentClock, parentPortNumber := t.parentPort } := by
  unfold onParent
  rw [if_pos rfl]
  dsimp only
  rw [firstToken_token (token_identity t.parentClockToken _), parseClockIdentity_identity t.parentClockToken,
    parsePortNumber_identity t.parentClock t.parentPortLt]

theorem onParent_grandmaster (s : PtpTopologySnapshotData) :
    onParent "grandmasterIdentity".toList t.grandmaster s = { s with grandmasterIdentity := t.grandmaster } := by
  have hkey : ¬ "grandmasterIdentity".toList = "parentPortIdentity".toList := by decide
  unfold onParent
  rw [if_neg hkey, if_pos rfl, firstToken_token t.grandmasterToken]

theorem Printed.fold_parent (h : Printed t defaultDataSet parentDataSet currentDataSet portDataSet)
    (s : PtpTopologySnapshotData) :
    (entries parentDataSet).foldl (fun s e => onParent e.1 e.2 s) s =
      { s with parentClockIdentity := t.parentClock, parentPortNumber := t.parentPort,
               grandmasterIdentity := t.grandmaster } := by
  obtain ⟨fields, hdata, hperm⟩ := h.parent
  have hf : ∀ e ∈ fields, Printable e := by
    intro e he
    rcases List.mem_cons.1 (hperm.mem_iff.1 he) with rfl | he
    · exact printable (by decide) (token_identity t.parentClockToken _)
    · cases List.mem_singleton.1 he
      exact printable (by decide) t.grandmasterToken
  have hfold := hdata.foldl (f := fun e s => onParent e.1 e.2 s) hf onParent_skip s
  rw [hfold]
  rcases List.perm_pair.1 hperm with rfl | rfl <;>
    rw [List.foldl_cons, List.foldl_cons, List.foldl_nil, onParent_identity, onParent_grandmaster]

theorem onCurrent_steps (unspecified : Double → Int) (s : PtpTopologySnapshotData) :
    onCurrent unspecified "stepsRemoved".toList (Numeral.ofInt t.stepsRemoved).text s =
      { s with stepsRemoved := t.stepsRemoved } := by
  have hlt := t.stepsRemovedLt
  have hparse := parseNanoseconds_ofInt unspecified (z := (t.stepsRemoved : Int)) (by omega) (Or.inl rfl)
  rw [List.append_nil] at hparse
  have hlow : lowInt (t.stepsRemoved : Int) = t.stepsRemoved := lowInt_of_inInt32 (by unfold InInt32; omega)
  unfold onCurrent
  rw [if_pos rfl, hparse]
  dsimp only
  rw [hlow]

theorem onCurrent_delay (unspecified : Double → Int) {tail : Str} (ht : tail = [] ∨ tail = ".0".toList)
    (s : PtpTopologySnapshotData) :
    onCurrent unspecified "meanPathDelay".toList ((Numeral.ofInt t.meanPathDelay).text ++ tail) s =
      { s with meanPathDelayNs := t.meanPathDelay } := by
  have hkey : ¬ "meanPathDelay".toList = "stepsRemoved".toList := by decide
  unfold onCurrent
  rw [if_neg hkey, if_pos rfl, parseNanoseconds_ofInt unspecified t.meanPathDelayLt ht]

theorem Printed.fold_current (h : Printed t defaultDataSet parentDataSet currentDataSet portDataSet)
    (unspecified : Double → Int) (s : PtpTopologySnapshotData) :
    (entries currentDataSet).foldl (fun s e => onCurrent unspecified e.1 e.2 s) s =
      { s with stepsRemoved := t.stepsRemoved, meanPathDelayNs := t.meanPathDelay } := by
  obtain ⟨fields, tail, hdata, ht, hperm⟩ := h.current
  have hf : ∀ e ∈ fields, Printable e := by
    intro e he
    rcases List.mem_cons.1 (hperm.mem_iff.1 he) with rfl | he
    · exact printable (by decide) (Numeral.text_isToken _)
    · cases List.mem_singleton.1 he
      exact printable (by decide) (token_ofInt _ ht)
  have hfold := hdata.foldl (f := fun e s => onCurrent unspecified e.1 e.2 s) hf (onCurrent_skip unspecified) s
  rw [hfold]
  rcases List.perm_pair.1 hperm with rfl | rfl <;>
    rw [List.foldl_cons, List.foldl_cons, List.foldl_nil, onCurrent_steps, onCurrent_delay unspecified ht]

theorem Printed.ports (h : Printed t defaultDataSet parentDataSet currentDataSet portDataSet) :
    portDataSets portDataSet = t.ports.map LocalPort.snapshot := by
  have hfold := h.port.foldl (f := fun e st => onPort e.1 e.2 st) (printable_port t.ports) onPort_skip {}
  unfold portDataSets
  rw [hfold, flush_ports]
  rfl

theorem childPort_snapshots (ports : List LocalPort) :
    childPort (ports.map LocalPort.snapshot) =
      ((ports.find? (·.state = "SLAVE".toList)).map fun p => (p.number : Int)).getD 0 := by
  unfold childPort
  rw [List.find?_map]
  have hcomp : ((fun port : PtpPortSnapshot => decide (port.state = "SLAVE".toList)) ∘ LocalPort.snapshot) =
      fun p => decide (p.state = "SLAVE".toList) := rfl
  rw [hcomp]
  cases ports.find? (fun p => decide (p.state = "SLAVE".toList)) <;> rfl

/-- Parsing undoes printing. -/
theorem parse_printed (unspecified : Double → Int) (nowUs : Nat)
    (h : Printed t defaultDataSet parentDataSet currentDataSet portDataSet) :
    parse unspecified nowUs defaultDataSet parentDataSet currentDataSet portDataSet = some (t.snapshot nowUs) := by
  have hdata : dataSets unspecified nowUs defaultDataSet parentDataSet currentDataSet =
      { timestampUs := nowUs, localClockIdentity := t.clock, parentClockIdentity := t.parentClock,
        parentPortNumber := t.parentPort, grandmasterIdentity := t.grandmaster, stepsRemoved := t.stepsRemoved,
        meanPathDelayNs := t.meanPathDelay } := by
    unfold dataSets
    rw [h.fold_default, h.fold_parent, h.fold_current unspecified]
  rw [parse_eq, hdata, h.ports, childPort_snapshots]
  dsimp only
  rw [if_neg t.clockToken.1]
  rfl

end RoundTrip

/-- Two ports below a parent whose identity contains a dash. -/
def twoPorts : Topology where
  clock := "a1".toList
  parentClock := "b-2".toList
  parentPort := 3
  grandmaster := "c".toList
  stepsRemoved := 1
  meanPathDelay := -7
  ports := [⟨"a1".toList, 1, "MASTER".toList, by decide, by decide, by decide⟩,
    ⟨"a1".toList, 2, "SLAVE".toList, by decide, by decide, by decide⟩]
  clockToken := by decide
  parentClockToken := by decide
  parentPortLt := by decide
  grandmasterToken := by decide
  stepsRemovedLt := by decide
  meanPathDelayLt := by decide

theorem FieldLine.of_blanks {key value : Str} (before between after cr : Str)
    (h : Blanks before ∧ Blanks between ∧ between ≠ [] ∧ Blanks after ∧ (cr = [] ∨ cr = ['\r'])) :
    FieldLine key value (before ++ (key ++ (between ++ value)) ++ (after ++ cr)) := by
  obtain ⟨hbefore, hbetween, hne, hafter, hcr⟩ := h
  exact .mk hbefore hbetween hne hafter hcr

theorem parse_printed_twoPorts :
    parse (fun _ => 0) 5 "sending: GET\n\tclockIdentity a1\n".toList
        "grandmasterIdentity c\r\n\nparentPortIdentity \tb-2-3 ".toList
        "stepsRemoved 1\noffsetFromMaster -4.0\nmeanPathDelay -7.0\n".toList
        "portIdentity a1-1\nportState MASTER\nportState\nportIdentity a1-2\nportState SLAVE".toList =
      some (twoPorts.snapshot 5) := by
  refine parse_printed (fun _ => 0) 5 ⟨?_, ⟨_, ?_, List.Perm.swap _ _ _⟩,
    ⟨_, ".0".toList, ?_, Or.inr rfl, List.Perm.refl _⟩, ?_⟩
  · refine ⟨["sending: GET".toList, "\tclockIdentity a1".toList], ?_, Or.inl (by decide)⟩
    exact .noise (@Noise.sending _ [] " GET".toList (by decide)) (by decide)
      (.field (.of_blanks "\t".toList " ".toList [] [] (by decide)) .nil)
  · refine ⟨["grandmasterIdentity c\r".toList, [], "parentPortIdentity \tb-2-3 ".toList], ?_, Or.inr (by decide)⟩
    exact .field (.of_blanks [] " ".toList [] "\r".toList (by decide))
      (.noise (.blank (by simp)) (by decide)
        (.field (.of_blanks [] " \t".toList " ".toList [] (by decide)) .nil))
  · refine ⟨["stepsRemoved 1".toList, "offsetFromMaster -4.0".toList, "meanPathDelay -7.0".toList], ?_,
      Or.inl (by decide)⟩
    exact .field (.of_blanks [] " ".toList [] [] (by decide))
      (.noise (.other (by decide)) (by decide)
        (.field (.of_blanks [] " ".toList [] [] (by decide)) .nil))
  · refine ⟨["portIdentity a1-1".toList, "portState MASTER".toList, "portState".toList, "portIdentity a1-2".toList,
      "portState SLAVE".toList], ?_, Or.inr (by decide)⟩
    exact .field (.of_blanks [] " ".toList [] [] (by decide))
      (.field (.of_blanks [] " ".toList [] [] (by decide))
        (.noise (@Noise.keyOnly _ [] "portState".toList [] (by decide) (by decide) (by simp)) (by decide)
          (.field (.of_blanks [] " ".toList [] [] (by decide))
            (.field (.of_blanks [] " ".toList [] [] (by decide)) .nil))))

end PtpTopologyParser

end TimeAgent
