/-
A map as an association list that is only written to: each key keeps its last value. What a pass
over such a map yields, against what a pass over all the writes would have yielded.
-/
import Mathlib.Data.List.Perm.Basic
import Mathlib.Tactic.Common

namespace Assoc

variable {κ α β : Type} [DecidableEq κ]

/-- `m[key] = value`. -/
def assign (m : List (κ × α)) (key : κ) (value : α) : List (κ × α) := m.filter (·.1 ≠ key) ++ [(key, value)]

/-- The writes of `l`, one after the other. -/
def assignAll (m l : List (κ × α)) : List (κ × α) := l.foldl (fun m e => assign m e.1 e.2) m

/-- The last write of each key. -/
def lastOnly : List (κ × α) → List (κ × α)
  | [] => []
  | e :: l => if e.1 ∈ l.map Prod.fst then lastOnly l else e :: lastOnly l

theorem assignAll_eq (m l : List (κ × α)) :
    assignAll m l = m.filter (fun e => e.1 ∉ l.map Prod.fst) ++ lastOnly l := by
  induction l generalizing m with
  | nil => simp [assignAll, lastOnly]
  | cons e l ih =>
    have hstep : assignAll m (e :: l) = assignAll (assign m e.1 e.2) l := rfl
    have hfilter : (m.filter (·.1 ≠ e.1)).filter (fun f => f.1 ∉ l.map Prod.fst) =
        m.filter (fun f => f.1 ∉ (e :: l).map Prod.fst) := by
      rw [List.filter_filter]
      congr 1
      funext f
      simp only [List.map_cons, List.mem_cons, not_or, Bool.decide_and, ne_eq]
      exact Bool.and_comm _ _
    rw [hstep, ih, assign, List.filter_append, hfilter, lastOnly, List.append_assoc]
    congr 1
    by_cases h : e.1 ∈ l.map Prod.fst <;> simp [h]

/-- Writing into an empty map keeps the last write of each key. -/
theorem assignAll_nil (l : List (κ × α)) : assignAll [] l = lastOnly l := by
  rw [assignAll_eq]
  simp

theorem lastOnly_subset (l : List (κ × α)) : lastOnly l ⊆ l := by
  induction l with
  | nil => exact List.Subset.refl _
  | cons e l ih =>
    rw [lastOnly]
    split
    · exact fun x hx => List.mem_cons_of_mem _ (ih hx)
    · exact List.cons_subset_cons e ih

/-- No key is twice in the map. -/
theorem lastOnly_nodup (l : List (κ × α)) : ((lastOnly l).map Prod.fst).Nodup := by
  induction l with
  | nil => exact List.nodup_nil
  | cons e l ih =>
    rw [lastOnly]
    split
    · exact ih
    · rename_i hlater
      rw [List.map_cons, List.nodup_cons]
      exact ⟨fun hmem => hlater (List.map_subset _ (lastOnly_subset l) hmem), ih⟩

/-- Every key that is written to is in the map. -/
theorem exists_mem_lastOnly {l : List (κ × α)} {e : κ × α} (h : e ∈ l) : ∃ e' ∈ lastOnly l, e'.1 = e.1 := by
  induction l generalizing e with
  | nil => cases h
  | cons a l ih =>
    rw [lastOnly]
    rcases List.mem_cons.1 h with rfl | hmem
    · split
      · rename_i hlater
        obtain ⟨b, hb, hkey⟩ := List.mem_map.1 hlater
        obtain ⟨e', he', hkey'⟩ := ih hb
        exact ⟨e', he', hkey'.trans hkey⟩
      · exact ⟨e, List.mem_cons_self, rfl⟩
    · obtain ⟨e', he', hkey⟩ := ih hmem
      split
      · exact ⟨e', he', hkey⟩
      · exact ⟨e', List.mem_cons_of_mem _ he', hkey⟩

/-! ## What is overwritten -/

/-- The writes that a later one of their key overwrites. -/
def overwritten : List (κ × α) → List (κ × α)
  | [] => []
  | e :: l => if e.1 ∈ l.map Prod.fst then e :: overwritten l else overwritten l

/-- A write is kept or it is overwritten. -/
theorem perm_lastOnly_append_overwritten (l : List (κ × α)) : l.Perm (lastOnly l ++ overwritten l) := by
  induction l with
  | nil => exact List.Perm.nil
  | cons e l ih =>
    rw [lastOnly, overwritten]
    split
    · exact (ih.cons e).trans List.perm_middle.symm
    · exact ih.cons e

/-- The overwritten writes yield nothing exactly when no write that yields something is followed by
another of its key. -/
theorem flatMap_overwritten_eq_nil_iff (f : κ × α → List β) (l : List (κ × α)) :
    (overwritten l).flatMap f = [] ↔ l.Pairwise fun e e' => e'.1 = e.1 → f e = [] := by
  induction l with
  | nil => exact iff_of_true rfl List.Pairwise.nil
  | cons e l ih =>
    have hhead : (∀ e' ∈ l, e'.1 = e.1 → f e = []) ↔ (e.1 ∈ l.map Prod.fst → f e = []) := by
      constructor
      · intro h hmem
        obtain ⟨e', he', hkey⟩ := List.mem_map.1 hmem
        exact h e' he' hkey
      · intro h e' he' hkey
        exact h (List.mem_map.2 ⟨e', he', hkey⟩)
    rw [List.pairwise_cons, hhead, ← ih, overwritten]
    split
    · rename_i hlater
      rw [List.flatMap_cons, List.append_eq_nil_iff]
      exact and_congr_left fun _ => ⟨fun h _ => h, fun h => h hlater⟩
    · rename_i hlast
      exact (and_iff_right fun hlater => absurd hlater hlast).symm

end Assoc
