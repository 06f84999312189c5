/-
A table of open handles and the list of those that a user of it holds. A close of a handle that is not
open leaves a mark in the table; a user whose list is kept in step with the table never makes one, and
has closed every handle once it has closed its list.
-/
import Mathlib.Data.List.Nodup
import Mathlib.Logic.Function.Basic

namespace Handles

variable {H R : Type*}

/-- `opened` maps an open handle to what it was opened for; `stray` says that a handle was closed
that was not open. -/
structure Table (H R : Type*) where
  opened : H → Option R := fun _ => none
  stray : Bool := false

namespace Table

section

variable [DecidableEq H]

/-- A handle for `r` more. -/
def add (t : Table H R) (h : H) (r : R) : Table H R := { t with opened := Function.update t.opened h (some r) }

/-- The answer to a request for `r` is a failure, or a handle that is not in use. -/
def opens (t : Table H R) (r : R) : Option H → Option (Table H R)
  | none => some t
  | some h => if (t.opened h).isNone then some (t.add h r) else none

def close (t : Table H R) (h : H) : Table H R where
  opened := Function.update t.opened h none
  stray := t.stray || (t.opened h).isNone

end

/-- The open handles are those of the list, each with what it was opened for, and none was closed
that was not open. -/
structure Holds (t : Table H R) (held : List (H × R)) : Prop where
  nodup : (held.map Prod.fst).Nodup
  opened : ∀ h r, t.opened h = some r ↔ (h, r) ∈ held
  clean : t.stray = false

theorem holds_empty : ({} : Table H R).Holds [] where
  nodup := List.nodup_nil
  opened := fun _ _ => ⟨nofun, nofun⟩
  clean := rfl

variable {t t' : Table H R} {held : List (H × R)} {h : H} {r : R}

theorem Holds.opened_eq_none_iff (ht : t.Holds held) : t.opened h = none ↔ h ∉ held.map Prod.fst := by
  constructor
  · intro hnone hmem
    obtain ⟨⟨h', r⟩, hr, rfl⟩ := List.mem_map.1 hmem
    have hopen := (ht.opened h' r).2 hr
    rw [hnone] at hopen
    cases hopen
  · intro hnot
    refine Option.eq_none_iff_forall_ne_some.2 fun r hr => hnot ?_
    exact List.mem_map_of_mem ((ht.opened h r).1 hr)

theorem Holds.opened_of_nil (ht : t.Holds []) (h : H) : t.opened h = none :=
  ht.opened_eq_none_iff.2 List.not_mem_nil

/-- The order in which the user keeps its handles does not matter. -/
theorem Holds.perm {held' : List (H × R)} (ht : t.Holds held) (h : held.Perm held') : t.Holds held' where
  nodup := (h.map Prod.fst).nodup_iff.1 ht.nodup
  opened := fun d r => (ht.opened d r).trans h.mem_iff
  clean := ht.clean

variable [DecidableEq H]

@[simp] theorem add_opened (t : Table H R) (h h' : H) (r : R) :
    (t.add h r).opened h' = if h' = h then some r else t.opened h' := Function.update_apply ..

@[simp] theorem close_opened (t : Table H R) (h h' : H) :
    (t.close h).opened h' = if h' = h then none else t.opened h' := Function.update_apply ..

theorem opens_some : t.opens r (some h) = some t' ↔ t.opened h = none ∧ t.add h r = t' := by
  by_cases hnone : t.opened h = none
  · simp [opens, hnone]
  · simp [opens, hnone]

theorem Holds.add (ht : t.Holds held) (hnone : t.opened h = none) : (t.add h r).Holds (held ++ [(h, r)]) := by
  have hnot := ht.opened_eq_none_iff.1 hnone
  refine ⟨?_, fun h' r' => ?_, ht.clean⟩
  · rw [List.map_append, List.map_singleton, List.nodup_append_comm, List.singleton_append]
    exact List.nodup_cons.2 ⟨hnot, ht.nodup⟩
  · rw [add_opened, List.mem_append, List.mem_singleton, Prod.mk.injEq]
    by_cases hh : h' = h
    · subst hh
      rw [if_pos rfl]
      constructor
      · intro hr
        exact .inr ⟨rfl, (Option.some.inj hr).symm⟩
      · rintro (hmem | ⟨_, rfl⟩)
        · exact absurd (List.mem_map_of_mem hmem) hnot
        · rfl
    · rw [if_neg hh, ht.opened]
      exact ⟨.inl, fun hor => hor.resolve_right fun h => hh h.1⟩

/-- What was opened joins the list. -/
theorem Holds.opens (ht : t.Holds held) {answer : Option H} (hopen : t.opens r answer = some t') :
    t'.Holds (held ++ (answer.map fun h => (h, r)).toList) := by
  cases answer with
  | none =>
    cases hopen
    rw [Option.map_none, Option.toList_none, List.append_nil]
    exact ht
  | some h =>
    obtain ⟨hnone, rfl⟩ := opens_some.1 hopen
    exact ht.add hnone

/-- A request is answered, when the handle of the answer is not one of the list. -/
theorem Holds.exists_opens (ht : t.Holds held) {answer : Option H} (h : ∀ h ∈ answer, h ∉ held.map Prod.fst) (r : R) :
    ∃ t', t.opens r answer = some t' ∧ t'.Holds (held ++ (answer.map fun h => (h, r)).toList) := by
  cases answer with
  | none => exact ⟨t, rfl, ht.opens rfl⟩
  | some d =>
    have hopen : t.opens r (some d) = some (t.add d r) := opens_some.2 ⟨ht.opened_eq_none_iff.2 (h d rfl), rfl⟩
    exact ⟨t.add d r, hopen, ht.opens hopen⟩

/-- A handle of the list leaves it when it is closed, and that close is not stray. -/
theorem Holds.close (ht : t.Holds ((h, r) :: held)) : (t.close h).Holds held := by
  have hopen : t.opened h = some r := (ht.opened h r).2 List.mem_cons_self
  obtain ⟨hnot, hnodup⟩ := List.nodup_cons.1 ht.nodup
  refine ⟨hnodup, fun h' r' => ?_, ?_⟩
  · rw [close_opened]
    by_cases hh : h' = h
    · subst hh
      rw [if_pos rfl]
      exact ⟨nofun, fun hmem => absurd (List.mem_map_of_mem hmem) hnot⟩
    · rw [if_neg hh, ht.opened, List.mem_cons, Prod.mk.injEq]
      exact ⟨fun hor => hor.resolve_left fun h => hh h.1, .inr⟩
  · unfold Table.close
    dsimp only
    rw [ht.clean, hopen]
    rfl

/-- Some of the handles, closed one after the other. -/
def closeAll (t : Table H R) (handles : List H) : Table H R := handles.foldl close t

theorem Holds.closeAll {others : List (H × R)} (ht : t.Holds (held ++ others)) :
    (t.closeAll (held.map Prod.fst)).Holds others := by
  induction held generalizing t with
  | nil => exact ht
  | cons e held ih => exact ih (Holds.close (h := e.1) (r := e.2) ht)

/-- What a request opened, closed again. -/
theorem Holds.closeAll_answer {answer : Option H} (ht : t.Holds (held ++ (answer.map fun h => (h, r)).toList)) :
    (t.closeAll answer.toList).Holds held := by
  have hclose := (ht.perm List.perm_append_comm).closeAll
  cases answer with
  | none => exact hclose
  | some h => exact hclose

end Table

end Handles
