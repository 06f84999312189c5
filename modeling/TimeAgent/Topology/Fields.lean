/-
The snapshot field by field: each one is what the last line of its key says in its own data set, and
its default where no line does. A snapshot needs the first two commands and a local clock; the other
two commands only fill in their own fields.
-/
import TimeAgent.Topology.Parser

namespace TimeAgent

open CText CNum CDouble

/-! ## Last values -/

/-- The last value found, where the first element counts only if nothing is found behind it. -/
theorem getLast_filterMap_cons {ε α : Type*} (f : ε → Option α) (e : ε) (l : List ε) (d : α) :
    (((e :: l).filterMap f).getLast?).getD d = ((l.filterMap f).getLast?).getD ((f e).getD d) := by
  rw [List.filterMap_cons]
  cases f e with
  | none => rfl
  | some a => cases l.filterMap f <;> simp [List.getLast?_cons]

namespace PtpTopologyParser

/-- What the line says under the key, if it is one of the key. -/
def valueOf {α : Type} (key : String) (read : Str → Option α) (e : Str × Str) : Option α :=
  if e.1 = key.toList then read e.2 else none

/-- What the last line of the key says that `read` accepts. -/
def lastValue {α : Type} (key : String) (read : Str → Option α) (text : Str) : Option α :=
  ((entries text).filterMap (valueOf key read)).getLast?

def tokenOf (value : Str) : Option Str := some (firstToken value)

def parentClockOf (value : Str) : Option Str := some (parseClockIdentity (firstToken value))

def parentPortOf (value : Str) : Option Int := parsePortNumber (firstToken value)

def stepsOf (unspecified : Double → Int) (value : Str) : Option Int := (parseNanoseconds unspecified value).map lowInt

/-- The snapshot whose fields are the last values of the four data sets. -/
def lastValues (unspecified : Double → Int) (nowUs : Nat)
    (defaultDataSet parentDataSet currentDataSet portDataSet : Str) : PtpTopologySnapshotData where
  timestampUs := nowUs
  localClockIdentity := (lastValue "clockIdentity" tokenOf defaultDataSet).getD []
  parentClockIdentity := (lastValue "parentPortIdentity" parentClockOf parentDataSet).getD []
  parentPortNumber := (lastValue "parentPortIdentity" parentPortOf parentDataSet).getD 0
  grandmasterIdentity := (lastValue "grandmasterIdentity" tokenOf parentDataSet).getD []
  stepsRemoved := (lastValue "stepsRemoved" (stepsOf unspecified) currentDataSet).getD 0
  meanPathDelayNs := (lastValue "meanPathDelay" (parseNanoseconds unspecified) currentDataSet).getD 0
  childPortNumber := childPort (portDataSets portDataSet)
  ports := portDataSets portDataSet

/-! ## The loops, field by field -/

theorem onDefault_fields (e : Str × Str) (s : PtpTopologySnapshotData) :
    onDefault e.1 e.2 s =
      { s with localClockIdentity := (valueOf "clockIdentity" tokenOf e).getD s.localClockIdentity } := by
  unfold onDefault valueOf tokenOf
  split <;> rfl

theorem onParent_fields (e : Str × Str) (s : PtpTopologySnapshotData) :
    onParent e.1 e.2 s =
      { s with parentClockIdentity := (valueOf "parentPortIdentity" parentClockOf e).getD s.parentClockIdentity,
               parentPortNumber := (valueOf "parentPortIdentity" parentPortOf e).getD s.parentPortNumber,
               grandmasterIdentity := (valueOf "grandmasterIdentity" tokenOf e).getD s.grandmasterIdentity } := by
  unfold onParent valueOf tokenOf parentClockOf parentPortOf
  by_cases hport : e.1 = "parentPortIdentity".toList
  · have hne : e.1 ≠ "grandmasterIdentity".toList := by rw [hport]; decide
    rw [if_pos hport, if_pos hport, if_pos hport, if_neg hne]
    dsimp only
    cases parsePortNumber (firstToken e.2) <;> rfl
  · rw [if_neg hport, if_neg hport, if_neg hport]
    split <;> rfl

theorem onCurrent_fields (unspecified : Double → Int) (e : Str × Str) (s : PtpTopologySnapshotData) :
    onCurrent unspecified e.1 e.2 s =
      { s with stepsRemoved := (valueOf "stepsRemoved" (stepsOf unspecified) e).getD s.stepsRemoved,
               meanPathDelayNs :=
                 (valueOf "meanPathDelay" (parseNanoseconds unspecified) e).getD s.meanPathDelayNs } := by
  unfold onCurrent valueOf stepsOf
  by_cases hsteps : e.1 = "stepsRemoved".toList
  · have hne : e.1 ≠ "meanPathDelay".toList := by rw [hsteps]; decide
    rw [if_pos hsteps, if_pos hsteps, if_neg hne]
    cases parseNanoseconds unspecified e.2 <;> rfl
  · rw [if_neg hsteps, if_neg hsteps]
    split
    · cases parseNanoseconds unspecified e.2 <;> rfl
    · rfl

theorem fold_default (text : Str) (s : PtpTopologySnapshotData) :
    (entries text).foldl (fun s e => onDefault e.1 e.2 s) s =
      { s with localClockIdentity := (lastValue "clockIdentity" tokenOf text).getD s.localClockIdentity } := by
  unfold lastValue
  generalize entries text = es
  induction es generalizing s with
  | nil => rfl
  | cons e es ih =>
    rw [List.foldl_cons, ih, onDefault_fields]
    simp only [getLast_filterMap_cons]

theorem fold_parent (text : Str) (s : PtpTopologySnapshotData) :
    (entries text).foldl (fun s e => onParent e.1 e.2 s) s =
      { s with parentClockIdentity := (lastValue "parentPortIdentity" parentClockOf text).getD s.parentClockIdentity,
               parentPortNumber := (lastValue "parentPortIdentity" parentPortOf text).getD s.parentPortNumber,
               grandmasterIdentity := (lastValue "grandmasterIdentity" tokenOf text).getD s.grandmasterIdentity } := by
  unfold lastValue
  generalize entries text = es
  induction es generalizing s with
  | nil => rfl
  | cons e es ih =>
    rw [List.foldl_cons, ih, onParent_fields]
    simp only [getLast_filterMap_cons]

theorem fold_current (unspecified : Double → Int) (text : Str) (s : PtpTopologySnapshotData) :
    (entries text).foldl (fun s e => onCurrent unspecified e.1 e.2 s) s =
      { s with stepsRemoved := (lastValue "stepsRemoved" (stepsOf unspecified) text).getD s.stepsRemoved,
               meanPathDelayNs :=
                 (lastValue "meanPathDelay" (parseNanoseconds unspecified) text).getD s.meanPathDelayNs } := by
  unfold lastValue
  generalize entries text = es
  induction es generalizing s with
  | nil => rfl
  | cons e es ih =>
    rw [List.foldl_cons, ih, onCurrent_fields]
    simp only [getLast_filterMap_cons]

/-- No loop touches a field of another data set. -/
theorem parse_lastValues (unspecified : Double → Int) (nowUs : Nat)
    (defaultDataSet parentDataSet currentDataSet portDataSet : Str) :
    parse unspecified nowUs defaultDataSet parentDataSet currentDataSet portDataSet =
      let snapshot := lastValues unspecified nowUs defaultDataSet parentDataSet currentDataSet portDataSet
      if snapshot.localClockIdentity = [] then none else some snapshot := by
  rw [parse_eq]
  unfold dataSets
  rw [fold_default, fold_parent, fold_current]
  rfl

end PtpTopologyParser

/-! ## The commands -/

namespace PtpTopologyCollector

open PtpTopologyParser

/-- Reading the output line by line and writing the lines again changes no line. -/
theorem entries_unlines_getlines (output : Str) : entries (unlines (getlines output)) = entries output := by
  unfold entries
  rw [getlines_unlines (getlines_no_newline output)]

/-- What a command prints, if it can be run and exits with 0. -/
def printed (exec : Exec) (config : PtpTopologyConfig) (command : String) : Option Str :=
  match exec config.pmcPath (buildArgs config command.toList) with
  | some (output, exitCode) => if exitCode = 0 then some output else none
  | none => none

theorem runCommand_eq (exec : Exec) (config : PtpTopologyConfig) (command : String) :
    runCommand exec config command.toList =
      (printed exec config command).map fun output => unlines (getlines output) := by
  unfold runCommand printed
  cases exec config.pmcPath (buildArgs config command.toList) with
  | none => rfl
  | some result =>
    obtain ⟨output, exitCode⟩ := result
    by_cases hexit : exitCode = 0 <;> simp [hexit]

theorem lastValues_congr (unspecified : Double → Int) (nowUs : Nat) {d d' p p' c c' q q' : Str}
    (hd : entries d = entries d') (hp : entries p = entries p') (hc : entries c = entries c')
    (hq : entries q = entries q') :
    lastValues unspecified nowUs d p c q = lastValues unspecified nowUs d' p' c' q' := by
  unfold lastValues lastValue portDataSets
  rw [hd, hp, hc, hq]

/-- Whatever pmc answers: there is a snapshot exactly if the first two commands succeed and the last
line of the first that names a clock names one; and then each field is what the last line of its key
says in the output of its own command, a command that failed having printed nothing. -/
theorem collect_eq_some_iff (exec : Exec) (unspecified : Double → Int) (nowUs : Nat) (config : PtpTopologyConfig)
    (snapshot : PtpTopologySnapshotData) :
    collect exec unspecified nowUs config = some snapshot ↔
      ∃ defaultDataSet parentDataSet, printed exec config "GET DEFAULT_DATA_SET" = some defaultDataSet ∧
        printed exec config "GET PARENT_DATA_SET" = some parentDataSet ∧
        (lastValue "clockIdentity" tokenOf defaultDataSet).getD [] ≠ [] ∧
        snapshot = lastValues unspecified nowUs defaultDataSet parentDataSet
          ((printed exec config "GET CURRENT_DATA_SET").getD [])
          ((printed exec config "GET PORT_DATA_SET").getD []) := by
  have hprinted : ∀ output : Option Str,
      entries ((output.map fun output => unlines (getlines output)).getD []) = entries (output.getD []) := by
    intro output
    cases output with
    | none => rfl
    | some output => exact entries_unlines_getlines output
  unfold collect
  rw [runCommand_eq, runCommand_eq, runCommand_eq, runCommand_eq]
  cases printed exec config "GET DEFAULT_DATA_SET" with
  | none => simp
  | some d =>
    cases printed exec config "GET PARENT_DATA_SET" with
    | none => simp
    | some p =>
      dsimp only [Option.map_some]
      rw [parse_lastValues, lastValues_congr unspecified nowUs (entries_unlines_getlines d) (entries_unlines_getlines p)
        (hprinted _) (hprinted _)]
      dsimp only
      show (if (lastValue "clockIdentity" tokenOf d).getD [] = [] then none else some _) = some snapshot ↔ _
      by_cases hclock : (lastValue "clockIdentity" tokenOf d).getD [] = []
      · rw [if_pos hclock]
        simp [hclock]
      · rw [if_neg hclock]
        constructor
        · intro h
          exact ⟨d, p, rfl, rfl, hclock, (Option.some.inj h).symm⟩
        · rintro ⟨_, _, hd, hp, _, rfl⟩
          cases hd
          cases hp
          rfl

end PtpTopologyCollector

end TimeAgent
