/-
What a scan means for its input: how far a format has matched is read off the number of stored
conversions only up to the last conversion that stores, and from there on the destinations hold
what the conversions took. Text behind the last store is matched or not without a trace.
-/
import TimeAgent.Lib.Scanf

namespace CScanf

open CText CNum

variable {σ : Type}

/-! ## Whole formats -/

/-- What a storing conversion took. -/
inductive Item
  | num (ν : Numeral)
  | text (t : Str)

/-- The items of a scan, one more if the conversion stores. -/
def note {α : Type} (st : Option α) (item : Item) (r : List Item × Str) : List Item × Str :=
  if st.isSome then (item :: r.1, r.2) else r

@[simp] theorem note_snd {α : Type} (st : Option α) (item : Item) (r : List Item × Str) : (note st item r).2 = r.2 := by
  unfold note
  split <;> rfl

/-- What the storing conversions take from an input that matches the whole format, and what follows
in the input; `none` when some directive does not match. -/
def reads : Format σ → Str → Option (List Item × Str)
  | [], inp => some ([], inp)
  | .space :: ds, inp => reads ds (skipSpace inp)
  | .lit _ :: _, [] => none
  | .lit c :: ds, d :: inp => if d = c then reads ds inp else none
  | .int st :: ds, inp =>
    match scanNumeral (skipSpace inp) with
    | none => none
    | some (ν, rest) => (reads ds rest).map (note st (.num ν))
  | .text k st :: ds, inp =>
    match k.take inp with
    | none => none
    | some (t, rest) => (reads ds rest).map (note st (.text t))

/-- The stores of a format, made with the items it took. -/
def replay : Format σ → List Item → σ → σ
  | [], _, s => s
  | .int (some f) :: ds, .num ν :: items, s => replay ds items (f ν s)
  | .text _ (some f) :: ds, .text t :: items, s => replay ds items (f t s)
  | _ :: ds, items, s => replay ds items s

def Directive.stores : Directive σ → Bool
  | .int st => st.isSome
  | .text _ st => st.isSome
  | _ => false

/-- How many conversions of a format store. -/
def stores : Format σ → Nat
  | [] => 0
  | d :: ds => d.stores.toNat + stores ds

/-- The last directive of the format stores. -/
def storesLast (ds : Format σ) : Bool := ds.getLast?.any Directive.stores

theorem stores_pos {ds : Format σ} (h : storesLast ds = true) : 0 < stores ds := by
  induction ds with
  | nil => cases h
  | cons d ds ih =>
    cases ds with
    | nil =>
      have hd : d.stores = true := h
      simp [stores, hd]
    | cons e ds =>
      have := ih h
      rw [stores]
      omega

/-! ## The count -/

theorem replay_int_note (st : Option (Numeral → σ → σ)) (ds : Format σ) (ν : Numeral) (r : List Item × Str) (s : σ) :
    replay (.int st :: ds) (note st (.num ν) r).1 s = replay ds r.1 (store st ν s) := by
  cases st with
  | none => simp [note, replay, store]
  | some f => rfl

theorem replay_text_note (k : TextConv) (st : Option (Str → σ → σ)) (ds : Format σ) (t : Str) (r : List Item × Str)
    (s : σ) : replay (.text k st :: ds) (note st (.text t) r).1 s = replay ds r.1 (store st t s) := by
  cases st with
  | none => simp [note, replay, store]
  | some f => rfl

/-- Behind a front that matches, the scan goes on with the front's stores made. -/
theorem sscanf_append_of_reads {ds : Format σ} {inp rest : Str} {items : List Item}
    (h : reads ds inp = some (items, rest)) (es : Format σ) (s : σ) :
    sscanf (ds ++ es) inp s =
      (stores ds + (sscanf es rest (replay ds items s)).1, (sscanf es rest (replay ds items s)).2) := by
  induction ds generalizing inp items s with
  | nil =>
    cases h
    simp [stores, replay]
  | cons d ds ih =>
    cases d with
    | space =>
      rw [List.cons_append, sscanf, ih h]
      simp [stores, Directive.stores, replay]
    | lit c =>
      cases inp with
      | nil => cases h
      | cons b inp =>
        rw [reads] at h
        split at h
        · rename_i hb
          rw [List.cons_append, sscanf, if_pos hb, ih h]
          simp [stores, Directive.stores, replay]
        · cases h
    | int st =>
      rw [reads] at h
      split at h
      · cases h
      · rename_i ν more hν
        obtain ⟨⟨is, rest'⟩, hr, hnote⟩ := Option.map_eq_some_iff.1 h
        obtain rfl : rest' = rest := (note_snd _ _ _).symm.trans (congrArg Prod.snd hnote)
        have hitems : (note st (.num ν) (is, rest')).1 = items := congrArg Prod.fst hnote
        rw [List.cons_append, sscanf, hν]
        dsimp only
        rw [ih hr, ← hitems, replay_int_note, counted, stores, Directive.stores, Nat.add_comm, Nat.add_assoc]
    | text k st =>
      rw [reads] at h
      split at h
      · cases h
      · rename_i t more ht
        obtain ⟨⟨is, rest'⟩, hr, hnote⟩ := Option.map_eq_some_iff.1 h
        obtain rfl : rest' = rest := (note_snd _ _ _).symm.trans (congrArg Prod.snd hnote)
        have hitems : (note st (.text t) (is, rest')).1 = items := congrArg Prod.fst hnote
        rw [List.cons_append, sscanf, ht]
        dsimp only
        rw [ih hr, ← hitems, replay_text_note, counted, stores, Directive.stores, Nat.add_comm, Nat.add_assoc]

theorem storesLast_tail {d e : Directive σ} {ds : Format σ} (h : storesLast (d :: e :: ds) = true) :
    storesLast (e :: ds) = true := by
  unfold storesLast at h ⊢
  rwa [List.getLast?_cons_cons] at h

/-- A front that does not match stores too little, when its last directive stores. -/
theorem sscanf_append_lt {ds : Format σ} (hlast : storesLast ds = true) {inp : Str} (h : reads ds inp = none)
    (es : Format σ) (s : σ) : (sscanf (ds ++ es) inp s).1 < stores ds := by
  induction ds generalizing inp s with
  | nil => cases h
  | cons d ds ih =>
    have hpos := stores_pos hlast
    -- what is left of the format stores last as well, unless nothing is left
    have htail : ∀ {more : Str}, reads ds more = none → ∀ s : σ, (sscanf (ds ++ es) more s).1 < stores ds := by
      intro more hmore s
      cases ds with
      | nil => cases hmore
      | cons e ds => exact ih (storesLast_tail hlast) hmore s
    cases d with
    | space => simpa [sscanf, stores, Directive.stores] using htail h s
    | lit c =>
      cases inp with
      | nil => exact hpos
      | cons b inp =>
        rw [reads] at h
        rw [List.cons_append, sscanf]
        split at h
        · rename_i hb
          rw [if_pos hb]
          simpa [stores, Directive.stores] using htail h s
        · rename_i hb
          rw [if_neg hb]
          exact hpos
    | int st =>
      rw [reads] at h
      rw [List.cons_append, sscanf]
      cases hν : scanNumeral (skipSpace inp) with
      | none => exact hpos
      | some r =>
        obtain ⟨ν, more⟩ := r
        rw [hν] at h
        have hmore := htail (Option.map_eq_none_iff.1 h) (store st ν s)
        cases st <;> simp [stores, Directive.stores] at hmore ⊢ <;> omega
    | text k st =>
      rw [reads] at h
      rw [List.cons_append, sscanf]
      cases ht : k.take inp with
      | none => exact hpos
      | some r =>
        obtain ⟨t, more⟩ := r
        rw [ht] at h
        have hmore := htail (Option.map_eq_none_iff.1 h) (store st t s)
        cases st <;> simp [stores, Directive.stores] at hmore ⊢ <;> omega

/-- Text without stores leaves no trace of whether it matched. -/
theorem sscanf_of_no_stores {ds : Format σ} (h : stores ds = 0) (inp : Str) (s : σ) : sscanf ds inp s = (0, s) := by
  induction ds generalizing inp s with
  | nil => rfl
  | cons d ds ih =>
    rw [stores, Nat.add_eq_zero_iff] at h
    obtain ⟨hd, hds⟩ := h
    cases d with
    | space => exact ih hds _ _
    | lit c =>
      cases inp with
      | nil => rfl
      | cons b inp =>
        rw [sscanf]
        split
        · exact ih hds _ _
        · rfl
    | int st =>
      cases st with
      | none =>
        rw [sscanf]
        split
        · rfl
        · exact ih hds _ _
      | some f => cases hd
    | text k st =>
      cases st with
      | none =>
        rw [sscanf]
        split
        · rfl
        · exact ih hds _ _
      | some f => cases hd

/-- The count is full exactly when the format has matched up to its last store. -/
theorem sscanf_count_iff (ds es : Format σ) (hlast : storesLast ds = true) (hes : stores es = 0) (inp : Str) (s : σ) :
    (sscanf (ds ++ es) inp s).1 = stores ds ↔ (reads ds inp).isSome = true := by
  cases h : reads ds inp with
  | none =>
    have := sscanf_append_lt hlast h es s
    refine iff_of_false (by omega) (by simp)
  | some r =>
    obtain ⟨items, rest⟩ := r
    rw [sscanf_append_of_reads h, sscanf_of_no_stores hes]
    exact iff_of_true rfl rfl

theorem sscanf_of_reads {ds : Format σ} (es : Format σ) (hes : stores es = 0) {inp rest : Str} {items : List Item}
    (h : reads ds inp = some (items, rest)) (s : σ) : sscanf (ds ++ es) inp s = (stores ds, replay ds items s) := by
  rw [sscanf_append_of_reads h, sscanf_of_no_stores hes]
  rfl

/-- A scan that is taken when its count is full. -/
theorem sscanf_taken (ds : Format σ) {n : Nat} (hlast : storesLast ds = true) (hn : stores ds = n) (inp : Str) (s : σ) :
    (if (sscanf ds inp s).1 = n then some (sscanf ds inp s).2 else none) =
      (reads ds inp).map fun r => replay ds r.1 s := by
  have hcount := sscanf_count_iff ds [] hlast rfl inp s
  rw [List.append_nil, hn] at hcount
  cases h : reads ds inp with
  | none =>
    rw [h] at hcount
    exact if_neg fun hc => by cases hcount.1 hc
  | some r =>
    obtain ⟨items, rest⟩ := r
    have hscan := sscanf_of_reads [] rfl h s
    rw [List.append_nil] at hscan
    rw [hscan, if_pos hn]
    rfl

theorem sscanf_taken_map {α : Type} (ds : Format σ) {n : Nat} (hlast : storesLast ds = true) (hn : stores ds = n)
    (inp : Str) (s : σ) (f : σ → α) :
    (if (sscanf ds inp s).1 = n then some (f (sscanf ds inp s).2) else none) =
      (reads ds inp).map fun r => f (replay ds r.1 s) := by
  have h := congrArg (Option.map f) (sscanf_taken ds hlast hn inp s)
  rw [Option.map_map, apply_ite (Option.map f)] at h
  exact h

/-- Two formats tried in turn, the second on a record `s'`, such as the one the first has left. -/
theorem sscanf_taken_or (front tail ds : Format σ) {n m : Nat} (hfront : storesLast front = true)
    (hn : stores front = n) (htail : stores tail = 0) (hds : storesLast ds = true) (hm : stores ds = m) (inp : Str)
    (s s' : σ) :
    (if (sscanf (front ++ tail) inp s).1 = n then some (sscanf (front ++ tail) inp s).2
      else if (sscanf ds inp s').1 = m then some (sscanf ds inp s').2 else none) =
      match reads front inp with
      | some (items, _) => some (replay front items s)
      | none => (reads ds inp).map fun r => replay ds r.1 s' := by
  have hcount := sscanf_count_iff front tail hfront htail inp s
  rw [hn] at hcount
  rw [sscanf_taken ds hds hm]
  cases h : reads front inp with
  | none =>
    rw [h] at hcount
    exact if_neg fun hc => by cases hcount.1 hc
  | some r =>
    obtain ⟨items, rest⟩ := r
    rw [sscanf_of_reads tail htail h, if_pos hn]

/-! ## Reading a format piece by piece -/

theorem exists_note {α : Type} (st : Option α) (item : Item) (o : Option (List Item × Str)) (p : Str → Prop) :
    (∃ r, o = some r ∧ p r.2) ↔ ∃ r, o.map (note st item) = some r ∧ p r.2 := by
  constructor
  · rintro ⟨r, rfl, hp⟩
    exact ⟨note st item r, rfl, by rwa [note_snd]⟩
  · rintro ⟨r, hr, hp⟩
    obtain ⟨q, hq, rfl⟩ := Option.map_eq_some_iff.1 hr
    rw [note_snd] at hp
    exact ⟨q, hq, hp⟩

/-- A format matches when its front does and the rest matches what follows. -/
theorem reads_append_isSome (ds es : Format σ) (inp : Str) :
    (reads (ds ++ es) inp).isSome = true ↔
      ∃ r, reads ds inp = some r ∧ (reads es r.2).isSome = true := by
  induction ds generalizing inp with
  | nil => simp [reads]
  | cons d ds ih =>
    cases d with
    | space => exact ih _
    | lit c =>
      cases inp with
      | nil => simp [reads]
      | cons b inp =>
        rw [List.cons_append, reads, reads]
        split
        · exact ih _
        · simp
    | int st =>
      rw [List.cons_append, reads, reads]
      cases scanNumeral (skipSpace inp) with
      | none => simp
      | some p =>
        dsimp only
        rw [Option.isSome_map, ih]
        exact exists_note st _ _ fun rest => (reads es rest).isSome = true
    | text k st =>
      rw [List.cons_append, reads, reads]
      cases k.take inp with
      | none => simp
      | some p =>
        dsimp only
        rw [Option.isSome_map, ih]
        exact exists_note st _ _ fun rest => (reads es rest).isSome = true

theorem reads_lits (t : String) (ds : Format σ) (inp : Str) :
    reads (lits t ++ ds) inp = (matchText t.toList inp).bind (reads ds) := by
  unfold lits
  generalize t.toList = t
  induction t generalizing inp with
  | nil => rfl
  | cons c t ih =>
    cases hc : isspace c with
    | true =>
      rw [matchText_space hc]
      simp only [List.map_cons, hc, if_true, List.cons_append, reads, ih]
    | false =>
      simp only [List.map_cons, hc, Bool.false_eq_true, if_false, List.cons_append]
      cases inp with
      | nil => rw [matchText_lit_nil hc]; rfl
      | cons d inp =>
        rw [matchText_lit hc]
        by_cases hd : d = c
        · simp only [reads, hd, if_true, ih]
        · simp only [reads, hd, if_false, Option.bind_none]

theorem reads_lits_some {t : String} {ds : Format σ} {inp rest : Str} {items : List Item}
    (h : reads (lits t ++ ds) inp = some (items, rest)) :
    ∃ more, matchText t.toList inp = some more ∧ reads ds more = some (items, rest) := by
  rw [reads_lits] at h
  exact Option.bind_eq_some_iff.1 h

theorem reads_int_some {f : Numeral → σ → σ} {ds : Format σ} {inp rest : Str} {items : List Item}
    (h : reads (.int (some f) :: ds) inp = some (items, rest)) :
    ∃ ν more is, scanNumeral (skipSpace inp) = some (ν, more) ∧ reads ds more = some (is, rest) ∧
      items = .num ν :: is := by
  rw [reads] at h
  split at h
  · cases h
  · rename_i ν more hν
    obtain ⟨⟨is, rest'⟩, hr, hnote⟩ := Option.map_eq_some_iff.1 h
    cases hnote
    exact ⟨ν, more, is, hν, hr, rfl⟩

theorem reads_skipInt_some {ds : Format σ} {inp rest : Str} {items : List Item}
    (h : reads (.int none :: ds) inp = some (items, rest)) :
    ∃ ν more, scanNumeral (skipSpace inp) = some (ν, more) ∧ reads ds more = some (items, rest) := by
  rw [reads] at h
  split at h
  · cases h
  · rename_i ν more hν
    obtain ⟨⟨is, rest'⟩, hr, hnote⟩ := Option.map_eq_some_iff.1 h
    cases hnote
    exact ⟨ν, more, hν, hr⟩

theorem reads_text_some {k : TextConv} {f : Str → σ → σ} {ds : Format σ} {inp rest : Str} {items : List Item}
    (h : reads (.text k (some f) :: ds) inp = some (items, rest)) :
    ∃ t more is, k.take inp = some (t, more) ∧ reads ds more = some (is, rest) ∧ items = .text t :: is := by
  rw [reads] at h
  split at h
  · cases h
  · rename_i t more ht
    obtain ⟨⟨is, rest'⟩, hr, hnote⟩ := Option.map_eq_some_iff.1 h
    cases hnote
    exact ⟨t, more, is, ht, hr, rfl⟩

theorem reads_skipText_some {k : TextConv} {ds : Format σ} {inp rest : Str} {items : List Item}
    (h : reads (.text k none :: ds) inp = some (items, rest)) :
    ∃ t more, k.take inp = some (t, more) ∧ reads ds more = some (items, rest) := by
  rw [reads] at h
  split at h
  · cases h
  · rename_i t more ht
    obtain ⟨⟨is, rest'⟩, hr, hnote⟩ := Option.map_eq_some_iff.1 h
    cases hnote
    exact ⟨t, more, ht, hr⟩

/-! ## What the pieces are -/

/-- Literal text is matched at the front of the input. -/
theorem matchText_suffix {t inp rest : Str} (h : matchText t inp = some rest) : rest <:+ inp := by
  induction t generalizing inp with
  | nil =>
    cases h
    exact List.suffix_refl _
  | cons c t ih =>
    cases hc : isspace c with
    | true =>
      rw [matchText_space hc] at h
      exact (ih h).trans (List.dropWhile_suffix _)
    | false =>
      cases inp with
      | nil => rw [matchText_lit_nil hc] at h; cases h
      | cons d inp =>
        rw [matchText_lit hc] at h
        split at h
        · exact (ih h).trans (List.suffix_cons _ _)
        · cases h

theorem takeRun_front (width : Option Nat) (p : Char → Bool) (s : Str) : takeRun width p s <+: s := by
  cases width with
  | none => exact List.takeWhile_prefix _
  | some n => exact (List.takeWhile_prefix _).trans (List.take_prefix _ _)

theorem takeRun_spec {width : Option Nat} {p : Char → Bool} {s : Str} {c : Char} (h : c ∈ takeRun width p s) :
    p c = true := by
  cases width with
  | none => exact List.mem_takeWhile_imp h
  | some n => exact List.mem_takeWhile_imp h

theorem takeRun_length (n : Nat) (p : Char → Bool) (s : Str) : (takeRun (some n) p s).length ≤ n := by
  have hle := (List.takeWhile_prefix (l := s.take n) p).length_le
  refine hle.trans ?_
  rw [List.length_take]
  omega

/-- A `%s` takes a token of at most its width. -/
theorem take_word_some {n : Nat} {inp t rest : Str} (h : (TextConv.word (some n)).take inp = some (t, rest)) :
    IsToken t ∧ t.length ≤ n ∧ skipSpace inp = t ++ rest := by
  unfold TextConv.take at h
  dsimp only at h
  split at h
  · cases h
  · rename_i hne
    cases h
    refine ⟨⟨hne, fun c hc => by simpa using takeRun_spec hc⟩, takeRun_length _ _ _, ?_⟩
    exact (List.prefix_iff_eq_append.1 (takeRun_front _ _ _)).symm

/-- A `%[..]` takes a non-empty run of its set of at most its width. -/
theorem take_set_some {n : Nat} {mem : Char → Bool} {inp t rest : Str}
    (h : (TextConv.set (some n) mem).take inp = some (t, rest)) :
    t ≠ [] ∧ (∀ c ∈ t, mem c = true) ∧ t.length ≤ n ∧ inp = t ++ rest := by
  unfold TextConv.take at h
  dsimp only at h
  split at h
  · cases h
  · rename_i hne
    cases h
    refine ⟨hne, fun c hc => takeRun_spec hc, takeRun_length _ _ _, ?_⟩
    exact (List.prefix_iff_eq_append.1 (takeRun_front _ _ _)).symm

theorem dropNoCase_suffix {w s rest : Str} (h : dropNoCase w s = some rest) : rest <:+ s := by
  induction w generalizing s with
  | nil =>
    cases h
    exact List.suffix_refl _
  | cons d w ih =>
    cases s with
    | nil => cases h
    | cons c s =>
      rw [dropNoCase] at h
      split at h
      · exact (ih h).trans (List.suffix_cons _ _)
      · cases h

theorem realRun_suffix (st : RealState) (s : Str) : (realRun st s).2 <:+ s := by
  induction s generalizing st with
  | nil => exact List.suffix_refl _
  | cons c s ih =>
    rw [realRun]
    split
    · exact List.suffix_refl _
    · exact (ih _).trans (List.suffix_cons _ _)

theorem afterReal_suffix {s rest : Str} (h : afterReal s = some rest) : rest <:+ s := by
  have hsign : (splitSign s).2 <:+ s := ⟨(splitSign s).1.text, (splitSign_eq s).symm⟩
  refine List.IsSuffix.trans ?_ hsign
  unfold afterReal at h
  split at h
  · cases h
  · rename_i c r hs
    rw [hs]
    split at h
    · exact dropNoCase_suffix h
    · split at h
      · split at h
        · cases h
        · rename_i hinf
          split at h
          · exact (dropNoCase_suffix h).trans (dropNoCase_suffix hinf)
          · cases h
            exact dropNoCase_suffix hinf
      · split at h
        · dsimp only at h
          split at h
          · cases h
          · cases h
            exact ((realRun_suffix _ _).trans (List.tail_suffix r)).trans (List.suffix_cons _ _)
        · dsimp only at h
          split at h
          · cases h
            exact realRun_suffix _ _
          · cases h

/-- A `%lf` takes the front of the input. -/
theorem take_real_suffix {inp t rest : Str} (h : TextConv.real.take inp = some (t, rest)) : rest <:+ inp := by
  unfold TextConv.take at h
  obtain ⟨rest', hrest, heq⟩ := Option.map_eq_some_iff.1 h
  cases heq
  exact (afterReal_suffix hrest).trans (List.dropWhile_suffix _)

/-- Literal text without whitespace matches itself and nothing else. -/
theorem matchText_token_iff {w : Str} (hw : ∀ c ∈ w, isspace c = false) (inp rest : Str) :
    matchText w inp = some rest ↔ inp = w ++ rest := by
  induction w generalizing inp with
  | nil => simp [matchText]
  | cons c w ih =>
    have hc := hw c List.mem_cons_self
    cases inp with
    | nil => simp [matchText_lit_nil hc]
    | cons d inp =>
      rw [matchText_lit hc, List.cons_append, List.cons.injEq]
      split
      · rename_i hd
        rw [ih fun e he => hw e (List.mem_cons_of_mem _ he), and_iff_right hd]
      · rename_i hd
        exact iff_of_false (Option.some_ne_none rest).symm fun h => hd h.1

/-- A token behind whitespace. -/
theorem skipSpace_eq_iff {w : Str} (hw : IsToken w) (inp rest : Str) :
    skipSpace inp = w ++ rest ↔ ∃ a, (∀ c ∈ a, isspace c = true) ∧ inp = a ++ (w ++ rest) := by
  constructor
  · intro h
    refine ⟨inp.takeWhile isspace, fun c hc => List.mem_takeWhile_imp hc, ?_⟩
    rw [← h]
    exact List.takeWhile_append_dropWhile.symm
  · rintro ⟨a, ha, rfl⟩
    rw [skipSpace_append ha, skipSpace_of_stops (hw.stops_append rest)]

/-! ## The shape of what is taken -/

def Item.isNum : Item → Bool
  | .num _ => true
  | .text _ => false

/-- Which stores of a format take a number and which a text, in order. -/
def kinds : Format σ → List Bool
  | [] => []
  | .int (some _) :: ds => true :: kinds ds
  | .text _ (some _) :: ds => false :: kinds ds
  | _ :: ds => kinds ds

theorem reads_kinds {ds : Format σ} {inp rest : Str} {items : List Item} (h : reads ds inp = some (items, rest)) :
    items.map Item.isNum = kinds ds := by
  induction ds generalizing inp items with
  | nil =>
    cases h
    rfl
  | cons d ds ih =>
    cases d with
    | space => exact ih h
    | lit c =>
      cases inp with
      | nil => cases h
      | cons b inp =>
        rw [reads] at h
        split at h
        · exact ih h
        · cases h
    | int st =>
      cases st with
      | none =>
        obtain ⟨ν, more, _, hr⟩ := reads_skipInt_some h
        exact ih hr
      | some f =>
        obtain ⟨ν, more, is, _, hr, rfl⟩ := reads_int_some h
        rw [List.map_cons, ih hr]
        rfl
    | text k st =>
      cases st with
      | none =>
        obtain ⟨t, more, _, hr⟩ := reads_skipText_some h
        exact ih hr
      | some f =>
        obtain ⟨t, more, is, _, hr, rfl⟩ := reads_text_some h
        rw [List.map_cons, ih hr]
        rfl

theorem items_num {items : List Item} {bs : List Bool} (h : items.map Item.isNum = true :: bs) :
    ∃ ν is, items = .num ν :: is ∧ is.map Item.isNum = bs := by
  match items, h with
  | .num ν :: is, h => exact ⟨ν, is, rfl, (List.cons.inj h).2⟩

theorem items_text {items : List Item} {bs : List Bool} (h : items.map Item.isNum = false :: bs) :
    ∃ t is, items = .text t :: is ∧ is.map Item.isNum = bs := by
  match items, h with
  | .text t :: is, h => exact ⟨t, is, rfl, (List.cons.inj h).2⟩

theorem items_nil {items : List Item} (h : items.map Item.isNum = []) : items = [] := List.map_eq_nil_iff.1 h

/-! ## What a scan leaves alone -/

/-- The stores of a format leave `g` of the destinations as it is. -/
def Keeps {α : Type} (g : σ → α) : Format σ → Prop
  | [] => True
  | .int (some f) :: ds => (∀ ν s, g (f ν s) = g s) ∧ Keeps g ds
  | .text _ (some f) :: ds => (∀ t s, g (f t s) = g s) ∧ Keeps g ds
  | _ :: ds => Keeps g ds

theorem keeps_lits {α : Type} {g : σ → α} (t : String) (ds : Format σ) : Keeps g (lits t ++ ds) ↔ Keeps g ds := by
  unfold lits
  induction t.toList with
  | nil => rfl
  | cons c t ih =>
    rw [List.map_cons, List.cons_append]
    split <;> exact ih

/-- A scan that fails midway leaves it alone as well. -/
theorem sscanf_keeps {α : Type} {g : σ → α} {ds : Format σ} (h : Keeps g ds) (inp : Str) (s : σ) :
    g (sscanf ds inp s).2 = g s := by
  induction ds generalizing inp s with
  | nil => rfl
  | cons d ds ih =>
    cases d with
    | space => exact ih h _ _
    | lit c =>
      cases inp with
      | nil => rfl
      | cons b inp =>
        rw [sscanf]
        split
        · exact ih h _ _
        · rfl
    | int st =>
      rw [sscanf]
      cases scanNumeral (skipSpace inp) with
      | none => rfl
      | some p =>
        cases st with
        | none => exact ih h _ _
        | some f => exact (ih h.2 _ _).trans (h.1 _ _)
    | text k st =>
      rw [sscanf]
      cases k.take inp with
      | none => rfl
      | some p =>
        cases st with
        | none => exact ih h _ _
        | some f => exact (ih h.2 _ _).trans (h.1 _ _)

end CScanf
