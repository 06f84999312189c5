/-
Messages through the accessors that are generated from a schema: what the accessors do, and what setters
and loops over them leave to be read.
-/
import Mathlib.Logic.Function.Basic
import Mathlib.Data.List.Nodup
import Mathlib.Data.Sigma.Basic

/-- The kinds of message, and of each kind the plain fields, the members, which are messages that may be
absent, and the repeated members. -/
structure Schema where
  Kind : Type
  Field : Kind → Type
  Value : {k : Kind} → Field k → Type
  Member : Kind → Type
  kindOf : {k : Kind} → Member k → Kind
  /-- The members that may be alternatives of one `oneof`. -/
  Alternative : {k : Kind} → Member k → Prop
  Repeated : Kind → Type
  elementKind : {k : Kind} → Repeated k → Kind

/-- What a run of setters writes. -/
abbrev Schema.Writes (S : Schema) (k : S.Kind) := List ((f : S.Field k) × S.Value f)

structure Accessors (S : Schema) where
  Message : S.Kind → Type
  new : (k : S.Kind) → Message k
  get : {k : S.Kind} → Message k → (f : S.Field k) → S.Value f
  set : {k : S.Kind} → Message k → (f : S.Field k) → S.Value f → Message k
  /-- `has_x()` and `x()`. -/
  member : {k : S.Kind} → Message k → (x : S.Member k) → Option (Message (S.kindOf x))
  /-- `mutable_x()`, and what is done through the pointer. -/
  mutable : {k : S.Kind} → Message k → (x : S.Member k) →
    (Message (S.kindOf x) → Message (S.kindOf x)) → Message k
  elements : {k : S.Kind} → Message k → (x : S.Repeated k) → List (Message (S.elementKind x))
  /-- `add_x()`, and what is done through the pointer. -/
  add : {k : S.Kind} → Message k → (x : S.Repeated k) →
    (Message (S.elementKind x) → Message (S.elementKind x)) → Message k
  /-- The field can hold the value. -/
  Fits : {k : S.Kind} → (f : S.Field k) → S.Value f → Prop

namespace Accessors

variable {S : Schema}

/-- A field that holds the value gives it back, and what an accessor is not about stays as it is; only
between alternatives nothing is asked. -/
structure Lawful (api : Accessors S) : Prop where
  get_set : ∀ {k : S.Kind} (m : api.Message k) (f : S.Field k) (v : S.Value f), api.Fits f v →
    api.get (api.set m f v) f = v
  get_set_ne : ∀ {k : S.Kind} (m : api.Message k) {f g : S.Field k} (v : S.Value f), g ≠ f →
    api.get (api.set m f v) g = api.get m g
  get_mutable : ∀ {k : S.Kind} (m : api.Message k) (x : S.Member k) edit (f : S.Field k),
    api.get (api.mutable m x edit) f = api.get m f
  get_add : ∀ {k : S.Kind} (m : api.Message k) (x : S.Repeated k) edit (f : S.Field k),
    api.get (api.add m x edit) f = api.get m f
  member_new : ∀ {k : S.Kind} (x : S.Member k), api.member (api.new k) x = none
  member_set : ∀ {k : S.Kind} (m : api.Message k) (f : S.Field k) (v : S.Value f) (x : S.Member k),
    api.member (api.set m f v) x = api.member m x
  member_mutable : ∀ {k : S.Kind} (m : api.Message k) (x : S.Member k) edit,
    api.member (api.mutable m x edit) x = some (edit ((api.member m x).getD (api.new (S.kindOf x))))
  member_mutable_ne : ∀ {k : S.Kind} (m : api.Message k) {x y : S.Member k} edit, y ≠ x →
    ¬ (S.Alternative x ∧ S.Alternative y) → api.member (api.mutable m x edit) y = api.member m y
  elements_new : ∀ {k : S.Kind} (x : S.Repeated k), api.elements (api.new k) x = []
  elements_set : ∀ {k : S.Kind} (m : api.Message k) (f : S.Field k) (v : S.Value f) (x : S.Repeated k),
    api.elements (api.set m f v) x = api.elements m x
  elements_add : ∀ {k : S.Kind} (m : api.Message k) (x : S.Repeated k) edit,
    api.elements (api.add m x edit) x = api.elements m x ++ [edit (api.new (S.elementKind x))]

/-! ## Runs of setters -/

section

variable (api : Accessors S) {k : S.Kind}

def setAll (m : api.Message k) (writes : S.Writes k) : api.Message k :=
  writes.foldl (fun m w => api.set m w.1 w.2) m

/-- Every field can hold what is written to it. -/
def Takes (writes : S.Writes k) : Prop := ∀ w ∈ writes, api.Fits w.1 w.2

/-- The fields hold what was written. -/
def Shows (m : api.Message k) : S.Writes k → Prop
  | [] => True
  | w :: writes => api.get m w.1 = w.2 ∧ Shows m writes

/-- The member, where there is a value for it. -/
def mutableFor {α : Type} (m : api.Message k) (x : S.Member k) (value : Option α)
    (edit : α → api.Message (S.kindOf x) → api.Message (S.kindOf x)) : api.Message k :=
  match value with
  | none => m
  | some a => api.mutable m x (edit a)

/-- An element for each item. -/
def addFor {α : Type} (m : api.Message k) (x : S.Repeated k) (items : List α)
    (edit : α → api.Message (S.elementKind x) → api.Message (S.elementKind x)) : api.Message k :=
  items.foldl (fun m a => api.add m x (edit a)) m

end

namespace Lawful

variable {api : Accessors S} {k : S.Kind} (h : api.Lawful)

include h

theorem get_setAll_of_notMem {writes : S.Writes k} {f : S.Field k} (hf : f ∉ writes.map Sigma.fst)
    (m : api.Message k) : api.get (api.setAll m writes) f = api.get m f := by
  induction writes generalizing m with
  | nil => rfl
  | cons w writes ih =>
    rw [List.map_cons, List.mem_cons, not_or] at hf
    show api.get (api.setAll (api.set m w.1 w.2) writes) f = _
    rw [ih hf.2, h.get_set_ne m w.2 hf.1]

/-- A field that was written once holds the value. -/
theorem shows_setAll {writes : S.Writes k} (htakes : api.Takes writes) (hnodup : (writes.map Sigma.fst).Nodup)
    (m : api.Message k) : api.Shows (api.setAll m writes) writes := by
  induction writes generalizing m with
  | nil => exact trivial
  | cons w writes ih =>
    rw [List.map_cons, List.nodup_cons] at hnodup
    refine ⟨?_, ih (fun w hw => htakes w (List.mem_cons_of_mem _ hw)) hnodup.2 _⟩
    show api.get (api.setAll (api.set m w.1 w.2) writes) w.1 = w.2
    rw [h.get_setAll_of_notMem hnodup.1, h.get_set _ _ _ (htakes _ List.mem_cons_self)]

theorem member_setAll (m : api.Message k) (writes : S.Writes k) (x : S.Member k) :
    api.member (api.setAll m writes) x = api.member m x := by
  induction writes generalizing m with
  | nil => rfl
  | cons w writes ih => exact (ih _).trans (h.member_set m w.1 w.2 x)

theorem elements_setAll (m : api.Message k) (writes : S.Writes k) (x : S.Repeated k) :
    api.elements (api.setAll m writes) x = api.elements m x := by
  induction writes generalizing m with
  | nil => rfl
  | cons w writes ih => exact (ih _).trans (h.elements_set m w.1 w.2 x)

/-! ## Members and loops -/

theorem member_mutable_of_none {m : api.Message k} {x : S.Member k} (hm : api.member m x = none)
    (edit : api.Message (S.kindOf x) → api.Message (S.kindOf x)) :
    api.member (api.mutable m x edit) x = some (edit (api.new (S.kindOf x))) := by
  rw [h.member_mutable, hm, Option.getD_none]

section

variable {α : Type} {m : api.Message k} {x : S.Member k}

theorem member_mutableFor (hm : api.member m x = none) (value : Option α)
    (edit : α → api.Message (S.kindOf x) → api.Message (S.kindOf x)) :
    api.member (api.mutableFor m x value edit) x = value.map fun a => edit a (api.new (S.kindOf x)) := by
  cases value with
  | none => exact hm
  | some a => exact h.member_mutable_of_none hm (edit a)

theorem member_mutableFor_ne {y : S.Member k} (hne : y ≠ x) (hapart : ¬ (S.Alternative x ∧ S.Alternative y))
    (value : Option α) (edit : α → api.Message (S.kindOf x) → api.Message (S.kindOf x)) :
    api.member (api.mutableFor m x value edit) y = api.member m y := by
  cases value with
  | none => rfl
  | some a => exact h.member_mutable_ne m (edit a) hne hapart

end

section

variable {α : Type} (m : api.Message k) (x : S.Repeated k) (items : List α)
  (edit : α → api.Message (S.elementKind x) → api.Message (S.elementKind x))

theorem elements_addFor :
    api.elements (api.addFor m x items edit) x =
      api.elements m x ++ items.map fun a => edit a (api.new (S.elementKind x)) := by
  induction items generalizing m with
  | nil => exact (List.append_nil _).symm
  | cons a items ih =>
    refine (ih _).trans ?_
    rw [h.elements_add, List.map_cons, List.append_assoc, List.singleton_append]

theorem get_addFor (f : S.Field k) : api.get (api.addFor m x items edit) f = api.get m f := by
  induction items generalizing m with
  | nil => rfl
  | cons a items ih => exact (ih _).trans (h.get_add m x (edit a) f)

end

end Lawful

/-! ## Trees -/

/-- A message as what its fields hold, the members it has and its elements, by the kind of message. -/
inductive Tree (S : Schema) : Type
  | node (fields : (f : (k : S.Kind) × S.Field k) → S.Value f.2)
      (members : ((k : S.Kind) × S.Member k) → Option (Tree S))
      (elements : ((k : S.Kind) × S.Repeated k) → List (Tree S)) : Tree S

variable (S) [DecidableEq S.Kind] [∀ k, DecidableEq (S.Field k)] [∀ k, DecidableEq (S.Member k)]
  [∀ k, DecidableEq (S.Repeated k)] [∀ k, ∀ f : S.Field k, Inhabited (S.Value f)]

/-- No member, no element. -/
def Tree.empty : Tree S := .node (fun f => (default : S.Value f.2)) (fun _ => none) fun _ => []

/-- The accessors of messages that are trees; every value fits. -/
def tree : Accessors S where
  Message := fun _ => Tree S
  new := fun _ => Tree.empty S
  get := fun | .node fields _ _, f => fields ⟨_, f⟩
  set := fun | .node fields members elements, f, v => .node (Function.update fields ⟨_, f⟩ v) members elements
  member := fun | .node _ members _, x => members ⟨_, x⟩
  mutable := fun
    | .node fields members elements, x, edit =>
      .node fields (Function.update members ⟨_, x⟩ (some (edit ((members ⟨_, x⟩).getD (Tree.empty S))))) elements
  elements := fun | .node _ _ elements, x => elements ⟨_, x⟩
  add := fun
    | .node fields members elements, x, edit =>
      .node fields members (Function.update elements ⟨_, x⟩ (elements ⟨_, x⟩ ++ [edit (Tree.empty S)]))
  Fits := fun _ _ => True

theorem tree_lawful : (tree S).Lawful where
  get_set := by
    rintro k ⟨fields, members, elements⟩ f v -
    exact Function.update_self (⟨k, f⟩ : (k : S.Kind) × S.Field k) v fields
  get_set_ne := by
    rintro k ⟨fields, members, elements⟩ f g v hne
    exact Function.update_of_ne (fun heq => hne (eq_of_heq (Sigma.mk.inj heq).2)) v fields
  get_mutable := by
    rintro k ⟨fields, members, elements⟩ x edit f
    rfl
  get_add := by
    rintro k ⟨fields, members, elements⟩ x edit f
    rfl
  member_new := fun _ => rfl
  member_set := by
    rintro k ⟨fields, members, elements⟩ f v x
    rfl
  member_mutable := by
    rintro k ⟨fields, members, elements⟩ x edit
    exact Function.update_self _ _ members
  member_mutable_ne := by
    rintro k ⟨fields, members, elements⟩ x y edit hne -
    exact Function.update_of_ne (fun heq => hne (eq_of_heq (Sigma.mk.inj heq).2)) _ members
  elements_new := fun _ => rfl
  elements_set := by
    rintro k ⟨fields, members, elements⟩ f v x
    rfl
  elements_add := by
    rintro k ⟨fields, members, elements⟩ x edit
    exact Function.update_self _ _ elements

end Accessors
