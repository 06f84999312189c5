/-
The two numbers of the current data set. Both pass through a double and `llround`; what `llround`
leaves open, and what the narrowing to `int` cuts off, is kept as if it had been read.
-/
import TimeAgent.Topology.Parser

namespace TimeAgent

open CText CNum CDouble

namespace PtpTopologyParser

/-- The value of a key that a data set holds once. -/
def Once (key : String) (value dataSet : Str) : Prop :=
  (entries dataSet).filter (fun e => e.1 = key.toList) = [(key.toList, value)]

/-- The value rounded half away from zero where that lies in the range of a field, and the field's
default elsewhere. -/
def roundedIn (range : Int → Prop) [DecidablePred range] : Double → Int
  | .finite q => if range (roundHalfAway q) then roundHalfAway q else 0
  | _ => 0

/-! ## The fields -/

theorem onCurrent_stepsRemoved (unspecified : Double → Int) (e : Str × Str) (s : PtpTopologySnapshotData) :
    (onCurrent unspecified e.1 e.2 s).stepsRemoved =
      if e.1 = "stepsRemoved".toList then ((parseNanoseconds unspecified e.2).map lowInt).getD s.stepsRemoved
      else s.stepsRemoved := by
  unfold onCurrent
  by_cases hsteps : e.1 = "stepsRemoved".toList
  · rw [if_pos hsteps, if_pos hsteps]
    cases parseNanoseconds unspecified e.2 <;> rfl
  · rw [if_neg hsteps, if_neg hsteps]
    split
    · cases parseNanoseconds unspecified e.2 <;> rfl
    · rfl

theorem onCurrent_meanPathDelayNs (unspecified : Double → Int) (e : Str × Str) (s : PtpTopologySnapshotData) :
    (onCurrent unspecified e.1 e.2 s).meanPathDelayNs =
      if e.1 = "meanPathDelay".toList then (parseNanoseconds unspecified e.2).getD s.meanPathDelayNs
      else s.meanPathDelayNs := by
  unfold onCurrent
  by_cases hsteps : e.1 = "stepsRemoved".toList
  · have hdelay : ¬ e.1 = "meanPathDelay".toList := by
      rw [hsteps]
      decide
    rw [if_pos hsteps, if_neg hdelay]
    cases parseNanoseconds unspecified e.2 <;> rfl
  · rw [if_neg hsteps]
    split
    · cases parseNanoseconds unspecified e.2 <;> rfl
    · rfl

/-- A field that only lines with `key` write is what the one line with `key` makes of it. -/
theorem foldl_once {σ : Type} {step : σ → Str × Str → σ} {get : σ → Int} (put : Str → Int → Int) {key : String}
    (hstep : ∀ s e, get (step s e) = if e.1 = key.toList then put e.2 (get s) else get s) {value dataSet : Str}
    (honce : Once key value dataSet) (s : σ) : get ((entries dataSet).foldl step s) = put value (get s) := by
  have hhom : get ((entries dataSet).foldl step s) =
      (entries dataSet).foldl (fun x e => if e.1 = key.toList then put e.2 x else x) (get s) :=
    (List.foldl_hom get fun s e => (hstep s e).symm).symm
  have hfilter := @List.foldl_filter _ _ (fun e : Str × Str => e.1 = key.toList) (fun x e => put e.2 x)
    (entries dataSet) (get s)
  simp only [decide_eq_true_eq] at hfilter
  rw [hhom, ← hfilter, honce]
  rfl

/-- A token that denotes a value is rounded by `llround`. -/
theorem parseNanoseconds_of_denotes (unspecified : Double → Int) {value : Str} {d : Double}
    (hd : Denotes (firstToken value) d) : parseNanoseconds unspecified value = some (llround unspecified d) := by
  have hstod := stod_of_denotes hd
  have hne : firstToken value ≠ [] := by
    intro hnil
    rw [hnil] at hstod
    cases hstod
  unfold parseNanoseconds
  dsimp only
  rw [if_neg hne, hstod]
  rfl

section

variable {unspecified : Double → Int} {nowUs : Nat} {defaultDataSet parentDataSet currentDataSet portDataSet : Str}
  {snapshot : PtpTopologySnapshotData} {value : Str} {d : Double}

theorem dataSets_of_parse
    (h : parse unspecified nowUs defaultDataSet parentDataSet currentDataSet portDataSet = some snapshot) :
    snapshot.stepsRemoved = (dataSets unspecified nowUs defaultDataSet parentDataSet currentDataSet).stepsRemoved ∧
      snapshot.meanPathDelayNs =
        (dataSets unspecified nowUs defaultDataSet parentDataSet currentDataSet).meanPathDelayNs := by
  rw [parse_eq] at h
  dsimp only at h
  split at h
  · cases h
  · cases h
    exact ⟨rfl, rfl⟩

theorem meanPathDelayNs_eq
    (h : parse unspecified nowUs defaultDataSet parentDataSet currentDataSet portDataSet = some snapshot)
    (honce : Once "meanPathDelay" value currentDataSet) (hd : Denotes (firstToken value) d) :
    snapshot.meanPathDelayNs = llround unspecified d := by
  rw [(dataSets_of_parse h).2, dataSets,
    foldl_once (fun value x => (parseNanoseconds unspecified value).getD x)
      (fun s e => onCurrent_meanPathDelayNs unspecified e s) honce, parseNanoseconds_of_denotes unspecified hd]
  rfl

theorem stepsRemoved_eq
    (h : parse unspecified nowUs defaultDataSet parentDataSet currentDataSet portDataSet = some snapshot)
    (honce : Once "stepsRemoved" value currentDataSet) (hd : Denotes (firstToken value) d) :
    snapshot.stepsRemoved = lowInt (llround unspecified d) := by
  rw [(dataSets_of_parse h).1, dataSets,
    foldl_once (fun value x => ((parseNanoseconds unspecified value).map lowInt).getD x)
      (fun s e => onCurrent_stepsRemoved unspecified e s) honce, parseNanoseconds_of_denotes unspecified hd]
  rfl

end

/-! ## When the numbers are rounded or rejected -/

/-- The rounded value is a `long long`, or `llround` happens to give the default for it. -/
def DelayFits (unspecified : Double → Int) : Double → Prop
  | .finite q => InInt64 (roundHalfAway q) ∨ unspecified (.finite q) = 0
  | d => unspecified d = 0

/-- The rounded value is an `int`, or the narrowing happens to leave the default of it. -/
def StepsFit (unspecified : Double → Int) : Double → Prop
  | .finite q =>
    if InInt64 (roundHalfAway q) then InInt32 (roundHalfAway q) ∨ 2 ^ 32 ∣ roundHalfAway q
    else 2 ^ 32 ∣ unspecified (.finite q)
  | d => 2 ^ 32 ∣ unspecified d

theorem llround_iff (unspecified : Double → Int) (d : Double) :
    llround unspecified d = roundedIn InInt64 d ↔ DelayFits unspecified d := by
  cases d with
  | finite q =>
    unfold llround roundedIn DelayFits
    dsimp only
    by_cases hin : InInt64 (roundHalfAway q)
    · rw [if_pos hin, if_pos hin]
      exact iff_of_true rfl (.inl hin)
    · rw [if_neg hin, if_neg hin, or_iff_right hin]
  | inf neg => exact Iff.rfl
  | nan => exact Iff.rfl

theorem lowInt_llround_iff (unspecified : Double → Int) (d : Double) :
    lowInt (llround unspecified d) = roundedIn InInt32 d ↔ StepsFit unspecified d := by
  cases d with
  | finite q =>
    unfold llround roundedIn StepsFit
    dsimp only
    by_cases hin : InInt64 (roundHalfAway q)
    · rw [if_pos hin, if_pos hin]
      by_cases hint : InInt32 (roundHalfAway q)
      · rw [if_pos hint, lowInt_eq_iff]
        exact iff_of_true hint (.inl hint)
      · rw [if_neg hint, lowInt_eq_zero_iff, or_iff_right hint]
    · -- what is no `long long` is no `int` either
      rw [if_neg hin, if_neg hin, if_neg fun hint => hin hint.inInt64, lowInt_eq_zero_iff]
  | inf neg => exact lowInt_eq_zero_iff _
  | nan => exact lowInt_eq_zero_iff _

/-- For every token that a double can hold, under a key that occurs once: each of the two fields is
rounded or keeps its default exactly when the value fits. -/
theorem rounded_iff_fits (unspecified : Double → Int) (nowUs : Nat)
    {defaultDataSet parentDataSet currentDataSet portDataSet : Str} {snapshot : PtpTopologySnapshotData}
    (h : parse unspecified nowUs defaultDataSet parentDataSet currentDataSet portDataSet = some snapshot)
    {value : Str} {d : Double} (hd : Denotes (firstToken value) d) :
    (Once "meanPathDelay" value currentDataSet →
        (snapshot.meanPathDelayNs = roundedIn InInt64 d ↔ DelayFits unspecified d)) ∧
      (Once "stepsRemoved" value currentDataSet →
        (snapshot.stepsRemoved = roundedIn InInt32 d ↔ StepsFit unspecified d)) := by
  constructor
  · intro honce
    rw [meanPathDelayNs_eq h honce hd]
    exact llround_iff unspecified d
  · intro honce
    rw [stepsRemoved_eq h honce hd]
    exact lowInt_llround_iff unspecified d

theorem rounded_iff_fits_delay :
    (83 : Int) = roundedIn InInt64 (.finite 83) ↔ DelayFits (fun _ => 0) (.finite 83) := by
  have hparse : parse (fun _ => 0) 0 "clockIdentity a\n".toList [] "meanPathDelay    83.0\n".toList [] =
      some { localClockIdentity := "a".toList, meanPathDelayNs := 83 } := by decide +kernel
  have hd : Denotes (firstToken "83.0".toList) (.finite 83) := by
    have htext : firstToken "83.0".toList = (Numeral.ofInt 83).text ++ ".0".toList := by decide +kernel
    have hof := denotes_ofInt (z := 83) (by decide) (Or.inr rfl)
    rw [htext]
    exact_mod_cast hof
  exact (rounded_iff_fits (fun _ => 0) 0 hparse hd).1 (by unfold Once; decide +kernel)

/-- One more than the low 32 bits can count. -/
def manySteps : Str := "stepsRemoved 4294967297\n".toList

theorem manySteps_wrapped :
    ∃ snapshot, parse (fun _ => 0) 0 "clockIdentity a\n".toList [] manySteps [] = some snapshot ∧
      Once "stepsRemoved" "4294967297".toList manySteps ∧
      Denotes (firstToken "4294967297".toList) (.finite 4294967297) ∧
      snapshot.stepsRemoved ≠ roundedIn InInt32 (.finite 4294967297) := by
  have honce : Once "stepsRemoved" "4294967297".toList manySteps := by
    unfold Once
    decide +kernel
  have hd : Denotes (firstToken "4294967297".toList) (.finite 4294967297) := by
    have htext : firstToken "4294967297".toList = (Numeral.ofInt 4294967297).text ++ [] := by decide +kernel
    have hof := denotes_ofInt (z := 4294967297) (by decide) (Or.inl rfl)
    rw [htext]
    exact_mod_cast hof
  have hlocal : (dataSets (fun _ => 0) 0 "clockIdentity a\n".toList [] manySteps).localClockIdentity = "a".toList := by
    decide +kernel
  have hparse := parse_eq (fun _ => 0) 0 "clockIdentity a\n".toList [] manySteps []
  dsimp only at hparse
  rw [hlocal, if_neg (by decide)] at hparse
  refine ⟨_, hparse, honce, hd, ?_⟩
  have hround : roundHalfAway 4294967297 = 4294967297 := roundHalfAway_int 4294967297
  rw [stepsRemoved_eq hparse honce hd, Ne, lowInt_llround_iff]
  unfold StepsFit
  dsimp only
  rw [hround]
  decide

end PtpTopologyParser

end TimeAgent
