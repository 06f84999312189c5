/-
Labelled steps as partial functions: runs over a list of labels, the invariant rules, the states
that runs reach, and steps restricted to those that meet a condition.
-/
import Mathlib.Data.Option.Basic

namespace LTS

variable {S L : Type*} {step : S → L → Option S}

/-! ## Runs -/

/-- The state after the labels, if each of them is enabled where it stands. -/
def run (step : S → L → Option S) : S → List L → Option S
  | s, [] => some s
  | s, l :: ls => (step s l).bind fun s' => run step s' ls

@[simp] theorem run_nil (s : S) : run step s [] = some s := rfl

theorem run_cons {s t : S} {l : L} {ls : List L} :
    run step s (l :: ls) = some t ↔ ∃ s', step s l = some s' ∧ run step s' ls = some t :=
  Option.bind_eq_some_iff

/-- What a step keeps of a state and of what is recorded of the labels so far, a run keeps. -/
theorem run_invariant_of_foldl {G : Type*} {record : G → L → G} {P : G → S → Prop}
    (hstep : ∀ g s l s', P g s → step s l = some s' → P (record g l) s') {g : G} {s t : S} {ls : List L}
    (hr : run step s ls = some t) (hs : P g s) : P (ls.foldl record g) t := by
  induction ls generalizing g s with
  | nil => cases hr; exact hs
  | cons l ls ih =>
    obtain ⟨s', hl, hr⟩ := run_cons.1 hr
    exact ih hr (hstep g s l s' hs hl)

/-- What a step keeps whose label meets `Q`, a run of such labels keeps. -/
theorem run_invariant_of_forall {Q : L → Prop} {P : S → Prop}
    (hstep : ∀ s l s', Q l → P s → step s l = some s' → P s') {s t : S} {ls : List L} (hQ : ∀ l ∈ ls, Q l)
    (hr : run step s ls = some t) (hs : P s) : P t := by
  induction ls generalizing s with
  | nil => cases hr; exact hs
  | cons l ls ih =>
    obtain ⟨s', hl, hr⟩ := run_cons.1 hr
    exact ih (fun m hm => hQ m (List.mem_cons_of_mem _ hm)) hr (hstep s l s' (hQ l List.mem_cons_self) hs hl)

/-- What a step keeps, a run keeps. -/
theorem run_invariant {P : S → Prop} (hstep : ∀ s l s', P s → step s l = some s' → P s') {s t : S} {ls : List L}
    (hr : run step s ls = some t) (hs : P s) : P t :=
  run_invariant_of_forall (Q := fun _ => True) (fun s l s' _ => hstep s l s') (fun _ _ => trivial) hr hs

/-- Some labels lead from the one state to the other. -/
def Reaches (step : S → L → Option S) (s t : S) : Prop := ∃ ls, run step s ls = some t

theorem reaches_refl (s : S) : Reaches step s s := ⟨[], rfl⟩

theorem Reaches.head {s s' t : S} {l : L} (hl : step s l = some s') (h : Reaches step s' t) : Reaches step s t := by
  obtain ⟨ls, hr⟩ := h
  exact ⟨l :: ls, run_cons.2 ⟨s', hl, hr⟩⟩

theorem reaches_single {s t : S} {l : L} (hl : step s l = some t) : Reaches step s t := .head hl (reaches_refl t)

theorem Reaches.trans {s t u : S} (h : Reaches step s t) (h' : Reaches step t u) : Reaches step s u := by
  obtain ⟨ls, hr⟩ := h
  induction ls generalizing s with
  | nil => cases hr; exact h'
  | cons l ls ih =>
    obtain ⟨s', hl, hr⟩ := run_cons.1 hr
    exact .head hl (ih hr)

/-- Where some step always lowers a measure, a goal is reached, by the steps that lower it. -/
theorem reaches_of_measure {Q : L → Prop} {P goal : S → Prop} (measure : S → Nat)
    (hstep : ∀ s, P s → ¬ goal s → ∃ l s', Q l ∧ step s l = some s' ∧ P s' ∧ measure s' < measure s) {s : S}
    (h : P s) : ∃ ls t, (∀ l ∈ ls, Q l) ∧ run step s ls = some t ∧ goal t := by
  induction hn : measure s using Nat.strongRecOn generalizing s with
  | ind n ih =>
    by_cases hgoal : goal s
    · exact ⟨[], s, by simp, rfl, hgoal⟩
    · obtain ⟨l, s', hl, hs, h', hlt⟩ := hstep s h hgoal
      obtain ⟨ls, t, hls, hr, ht⟩ := ih (measure s') (hn ▸ hlt) h' rfl
      exact ⟨l :: ls, t, List.forall_mem_cons.2 ⟨hl, hls⟩, run_cons.2 ⟨s', hs, hr⟩, ht⟩

/-! ## Simulation -/

theorem run_append {s u : S} {ls ls' : List L} :
    run step s (ls ++ ls') = some u ↔ ∃ t, run step s ls = some t ∧ run step t ls' = some u := by
  induction ls generalizing s with
  | nil => simp
  | cons l ls ih =>
    rw [List.cons_append, run_cons]
    constructor
    · rintro ⟨s', hl, hr⟩
      obtain ⟨t, hr, hr'⟩ := ih.1 hr
      exact ⟨t, run_cons.2 ⟨s', hl, hr⟩, hr'⟩
    · rintro ⟨t, hr, hr'⟩
      obtain ⟨s', hl, hr⟩ := run_cons.1 hr
      exact ⟨s', hl, ih.2 ⟨t, hr, hr'⟩⟩

/-- Where each step of one system is some steps of another between related states, each run is one. -/
theorem run_simulates {S' L' : Type*} {step' : S' → L' → Option S'} {R : S → S' → Prop} {label : L → List L'}
    (hstep : ∀ s l s₁ t, R s t → step s l = some s₁ → ∃ t₁, run step' t (label l) = some t₁ ∧ R s₁ t₁)
    {s s₁ : S} {t : S'} {ls : List L} (hr : run step s ls = some s₁) (h : R s t) :
    ∃ t₁, run step' t (ls.flatMap label) = some t₁ ∧ R s₁ t₁ := by
  induction ls generalizing s t with
  | nil =>
    cases hr
    exact ⟨t, rfl, h⟩
  | cons l ls ih =>
    obtain ⟨s', hl, hr⟩ := run_cons.1 hr
    obtain ⟨t', ht', h'⟩ := hstep s l s' t h hl
    obtain ⟨t₁, ht₁, h₁⟩ := ih hr h'
    exact ⟨t₁, run_append.2 ⟨t', ht', ht₁⟩, h₁⟩

/-! ## Restricted steps -/

/-- The steps that meet a condition on the state before them. -/
def restrict (C : S → L → Prop) [∀ s l, Decidable (C s l)] (step : S → L → Option S) (s : S) (l : L) : Option S :=
  if C s l then step s l else none

variable {C : S → L → Prop} [∀ s l, Decidable (C s l)]

theorem restrict_eq_some {s s' : S} {l : L} : restrict C step s l = some s' ↔ C s l ∧ step s l = some s' := by
  unfold restrict
  split
  · rename_i h
    exact ⟨fun hs => ⟨h, hs⟩, fun hs => hs.2⟩
  · rename_i h
    exact ⟨(nomatch ·), fun hs => absurd hs.1 h⟩

end LTS
