/-
Documents as trees, and what a reader of a tree can do with a node: look up a key, convert it, loop
over it. The errors are the exceptions that leave those operations. A setting is read in one way
everywhere: when its key is there, its node is converted, and when it is not, the old value stays.
-/
import TimeAgent.Lib.Text
import Mathlib.Tactic.Common

namespace CYaml

open CText

/-! ## Trees -/

inductive Yaml
  | null
  | scalar (text : Str)
  | sequence (items : List Yaml)
  | map (entries : List (Yaml × Yaml))

/-- The exceptions of lookups and conversions. -/
inductive YamlError
  | badSubscript
  | invalidNode
  | badConversion
  deriving DecidableEq

namespace Yaml

/-- Only a scalar key is equal to a string. -/
def isKey (key : Str) : Yaml → Bool
  | scalar text => text = key
  | _ => false

/-- The node under a key; the first one, when there are several. -/
def find (node : Yaml) (key : String) : Option Yaml :=
  match node with
  | map entries => (entries.find? fun e => isKey key.toList e.1).map Prod.snd
  | _ => none

/-- A key of a key. -/
def find₂ (node : Yaml) (key₁ key₂ : String) : Option Yaml := (node.find key₁).bind (find · key₂)

/-- Every node but a scalar can be looked into. -/
def Subscriptable : Yaml → Prop
  | scalar _ => False
  | _ => True

/-- `node[key]`: the node, or `none` for an undefined one. -/
def get (node : Yaml) (key : String) : Except YamlError (Option Yaml) :=
  match node with
  | scalar _ => .error .badSubscript
  | _ => .ok (node.find key)

/-- The nodes a loop over `node` visits. The entries of a map are pairs, and no nodes themselves. -/
def elements : Yaml → List (Option Yaml)
  | sequence items => items.map some
  | map entries => entries.map fun _ => none
  | _ => []

end Yaml

section Reading

variable {α : Type}

/-- `node[key]` of a node that may be undefined. -/
def getIn (node : Option Yaml) (key : String) : Except YamlError (Option Yaml) :=
  match node with
  | none => .error .invalidNode
  | some node => node.get key

/-- `as<T>()`. -/
def asNode (conv : Yaml → Except YamlError α) : Option Yaml → Except YamlError α
  | none => .error .invalidNode
  | some node => conv node

/-- `as<T>(fallback)`. -/
def asOr (conv : Yaml → Except YamlError α) (fallback : α) : Option Yaml → α
  | none => fallback
  | some node => (conv node).toOption.getD fallback

/-- `if (node[key]) { value = node[key].as<T>(); }`. -/
def setting (conv : Yaml → Except YamlError α) (node : Yaml) (key : String) (value : α) : Except YamlError α := do
  match ← node.get key with
  | none => return value
  | some found => conv found

/-! ## What is read -/

/-- `value` is the converted node where there is one, and `old` where there is none. -/
def Reads (conv : Yaml → Except YamlError α) (node : Option Yaml) (old value : α) : Prop :=
  match node with
  | none => value = old
  | some found => conv found = .ok value

/-- A node that is there can be converted. -/
def Typed (conv : Yaml → Except YamlError α) (node : Option Yaml) : Prop := ∀ found ∈ node, ∃ x, conv found = .ok x

/-- A node is there and can be converted. -/
def Given (conv : Yaml → Except YamlError α) (node : Option Yaml) : Prop := ∃ found ∈ node, ∃ x, conv found = .ok x

theorem bind_eq_ok {ε β γ : Type} {x : Except ε β} {f : β → Except ε γ} {c : γ} :
    (x >>= f) = .ok c ↔ ∃ b, x = .ok b ∧ f b = .ok c := by
  cases x <;> simp [bind, Except.bind]

theorem pure_eq_ok {ε β : Type} {b c : β} : (pure b : Except ε β) = .ok c ↔ b = c := by
  simp [pure, Except.pure]

theorem get_eq_ok {node : Yaml} {key : String} {found : Option Yaml} :
    node.get key = .ok found ↔ node.Subscriptable ∧ node.find key = found := by
  cases node <;> simp [Yaml.get, Yaml.Subscriptable]

theorem setting_eq_ok {conv : Yaml → Except YamlError α} {node : Yaml} {key : String} {old value : α} :
    setting conv node key old = .ok value ↔ node.Subscriptable ∧ Reads conv (node.find key) old value := by
  unfold setting
  rw [bind_eq_ok]
  constructor
  · rintro ⟨found, hget, hvalue⟩
    obtain ⟨hnode, rfl⟩ := get_eq_ok.1 hget
    refine ⟨hnode, ?_⟩
    cases hfind : node.find key with
    | none =>
      rw [hfind] at hvalue
      exact (pure_eq_ok.1 hvalue).symm
    | some found =>
      rw [hfind] at hvalue
      exact hvalue
  · rintro ⟨hnode, hreads⟩
    refine ⟨node.find key, get_eq_ok.2 ⟨hnode, rfl⟩, ?_⟩
    cases hfind : node.find key with
    | none =>
      rw [hfind] at hreads
      exact pure_eq_ok.2 hreads.symm
    | some found =>
      rw [hfind] at hreads
      exact hreads

theorem asNode_eq_ok {conv : Yaml → Except YamlError α} {node : Option Yaml} {value : α} :
    asNode conv node = .ok value ↔ ∃ found ∈ node, conv found = .ok value := by
  cases node <;> simp [asNode]

theorem exists_reads {conv : Yaml → Except YamlError α} {node : Option Yaml} {old : α} :
    (∃ value, Reads conv node old value) ↔ Typed conv node := by
  cases node <;> simp [Reads, Typed]

theorem Reads.typed {conv : Yaml → Except YamlError α} {node : Option Yaml} {old value : α}
    (h : Reads conv node old value) : Typed conv node := exists_reads.1 ⟨value, h⟩

theorem Typed.reads {conv : Yaml → Except YamlError α} {node : Option Yaml} (h : Typed conv node) (old : α) :
    ∃ value, Reads conv node old value := exists_reads.2 h

/-- A setting whose key is there does not depend on the old value. -/
theorem Reads.of_isSome {conv : Yaml → Except YamlError α} {node : Option Yaml} {old old' value : α}
    (h : Reads conv node old value) (hsome : node.isSome = true) : Reads conv node old' value := by
  cases node with
  | none => cases hsome
  | some found => exact h

/-- A setting below a section that is read as a whole. -/
theorem Reads.field {β : Type} {load : Yaml → Except YamlError β} {conv : Yaml → Except YamlError α} {root : Yaml}
    {key₁ key₂ : String} {old value : β} (π : β → α) (h : Reads load (root.find key₁) old value)
    (hload : ∀ found, load found = .ok value → Reads conv (found.find key₂) (π old) (π value)) :
    Reads conv (root.find₂ key₁ key₂) (π old) (π value) := by
  unfold Yaml.find₂
  cases hfind : root.find key₁ with
  | none =>
    rw [hfind] at h
    exact congrArg π h
  | some found =>
    rw [hfind] at h
    exact hload found h

end Reading

end CYaml
