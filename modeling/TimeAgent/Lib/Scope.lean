/-
Programs over a state that may throw, scopes whose destructor runs on every way out of them, and the
rules by which such a program is shown to return and to leave the state as it should.
-/
import Mathlib.Data.Option.Basic
import Mathlib.Control.Monad.Basic

namespace Scope

variable {S ε α β : Type}

/-- `none` is not an outcome of the program: the machine does not answer a request that way. -/
abbrev Prog (S ε α : Type) := ExceptT ε (StateT S Option) α

namespace Prog

/-- A request to the machine, which changes the state. -/
def request (update : S → Option S) : Prog S ε Unit := fun s => (update s).map fun s => (.ok (), s)

/-- The body of a scope, and the destructor that runs when it is left, by an exception or not. -/
def destroying (destroy : S → S) (body : Prog S ε α) : Prog S ε α := fun s =>
  (body s).map fun (r, s) => (r, destroy s)

/-- From a state of `P` the program returns a value with a state of `Q`, or throws with a state of `E`. -/
def Spec (P : S → Prop) (p : Prog S ε α) (Q : α → S → Prop) (E : ε → S → Prop) : Prop :=
  ∀ s, P s → (∃ a s', p s = some (.ok a, s') ∧ Q a s') ∨ ∃ e s', p s = some (.error e, s') ∧ E e s'

variable {P : S → Prop} {Q : α → S → Prop} {E : ε → S → Prop} {p : Prog S ε α}

theorem spec_pure {a : α} (h : ∀ s, P s → Q a s) : Spec P (pure a) Q E := by
  intro s hs
  exact .inl ⟨a, s, rfl, h s hs⟩

theorem spec_throw {e : ε} (h : ∀ s, P s → E e s) : Spec P (throw e) Q E := by
  intro s hs
  exact .inr ⟨e, s, rfl, h s hs⟩

theorem spec_request {update : S → Option S} {J : Unit → S → Prop} (h : ∀ s, P s → ∃ s', update s = some s' ∧ J () s') :
    Spec P (request update) J E := by
  intro s hs
  obtain ⟨s', hupdate, hs'⟩ := h s hs
  refine .inl ⟨(), s', ?_, hs'⟩
  unfold request
  rw [hupdate, Option.map_some]

theorem Spec.bind {J : α → S → Prop} {f : α → Prog S ε β} {Q : β → S → Prop} (hp : Spec P p J E)
    (hf : ∀ a, Spec (J a) (f a) Q E) : Spec P (p >>= f) Q E := by
  intro s hs
  obtain ⟨a, s₁, hrun, hs₁⟩ | ⟨e, s₁, hrun, hs₁⟩ := hp s hs
  · have hbind : (p >>= f) s = f a s₁ := by
      change (p s).bind _ = _
      rw [hrun]
      rfl
    obtain ⟨b, s₂, hrun₂, hs₂⟩ | ⟨e, s₂, hrun₂, hs₂⟩ := hf a s₁ hs₁
    · exact .inl ⟨b, s₂, hbind.trans hrun₂, hs₂⟩
    · exact .inr ⟨e, s₂, hbind.trans hrun₂, hs₂⟩
  · refine .inr ⟨e, s₁, ?_, hs₁⟩
    change (p s).bind _ = _
    rw [hrun]
    rfl

/-- The destructor is right if it restores what is wanted from each way out of the body. -/
theorem Spec.destroying {J : α → S → Prop} {F : ε → S → Prop} {destroy : S → S} (hp : Spec P p J F)
    (hok : ∀ a s, J a s → Q a (destroy s)) (herror : ∀ e s, F e s → E e (destroy s)) :
    Spec P (destroying destroy p) Q E := by
  intro s hs
  obtain ⟨a, s₁, hrun, hs₁⟩ | ⟨e, s₁, hrun, hs₁⟩ := hp s hs
  · refine .inl ⟨a, destroy s₁, ?_, hok a s₁ hs₁⟩
    unfold Prog.destroying
    rw [hrun, Option.map_some]
  · refine .inr ⟨e, destroy s₁, ?_, herror e s₁ hs₁⟩
    unfold Prog.destroying
    rw [hrun, Option.map_some]

/-- A handler that returns leaves no exception. -/
theorem Spec.handled {handler : ε → Prog S ε α} {F : ε → S → Prop} (hp : Spec P p Q F)
    (hhandler : ∀ e, Spec (F e) (handler e) Q E) : Spec P (tryCatch p handler) Q E := by
  intro s hs
  obtain ⟨a, s₁, hrun, hs₁⟩ | ⟨e, s₁, hrun, hs₁⟩ := hp s hs
  · refine .inl ⟨a, s₁, ?_, hs₁⟩
    change (p s).bind _ = _
    rw [hrun]
    rfl
  · have hcatch : tryCatch p handler s = handler e s₁ := by
      change (p s).bind _ = _
      rw [hrun]
      rfl
    obtain ⟨a, s₂, hrun₂, hs₂⟩ | ⟨e, s₂, hrun₂, hs₂⟩ := hhandler e s₁ hs₁
    · exact .inl ⟨a, s₂, hcatch.trans hrun₂, hs₂⟩
    · exact .inr ⟨e, s₂, hcatch.trans hrun₂, hs₂⟩

/-! ## Programs that restore what they find -/

/-- What the program finds holds again when it returns a value of `X` and when it throws one of `Y`. -/
def Restores (P : S → Prop) (p : Prog S ε α) (X : α → Prop) (Y : ε → Prop) : Prop :=
  Spec P p (fun a s => X a ∧ P s) (fun e s => Y e ∧ P s)

variable {X : α → Prop} {Y : ε → Prop}

theorem restores_pure {a : α} (h : X a) : Restores P (pure a) X Y := spec_pure fun _ hs => ⟨h, hs⟩

theorem restores_throw {e : ε} (h : Y e) : Restores P (throw e) X Y := spec_throw fun _ hs => ⟨h, hs⟩

theorem Restores.imp {Z : α → Prop} {W : ε → Prop} (hp : Restores P p X Y) (hX : ∀ a, X a → Z a)
    (hY : ∀ e, Y e → W e) : Restores P p Z W := by
  intro s hs
  obtain ⟨a, s', hrun, ha, hs'⟩ | ⟨e, s', hrun, he, hs'⟩ := hp s hs
  · exact .inl ⟨a, s', hrun, hX a ha, hs'⟩
  · exact .inr ⟨e, s', hrun, hY e he, hs'⟩

theorem Restores.bind {f : α → Prog S ε β} {Z : β → Prop} (hp : Restores P p X Y)
    (hf : ∀ a, X a → Restores P (f a) Z Y) : Restores P (p >>= f) Z Y :=
  Spec.bind hp fun a s hs => hf a hs.1 s hs.2

/-- What is taken on the way into a scope and given back by its destructor is restored if the body
restores what it finds. -/
theorem Restores.scope {R : S → Prop} {acquire : S → Option S} {destroy : S → S}
    (hacquire : ∀ s, P s → ∃ s', acquire s = some s' ∧ R s') (hp : Restores R p X Y)
    (hdestroy : ∀ s, R s → P (destroy s)) : Restores P (request acquire >>= fun _ => destroying destroy p) X Y :=
  (spec_request (J := fun _ => R) hacquire).bind fun _ =>
    Spec.destroying hp (fun _ s hs => ⟨hs.1, hdestroy s hs.2⟩) fun _ s hs => ⟨hs.1, hdestroy s hs.2⟩

/-- A handler for every exception. -/
theorem Restores.handled {handler : ε → Prog S ε α} {Z : ε → Prop} (hp : Restores P p X Z)
    (hhandler : ∀ e, Z e → Restores P (handler e) X Y) : Restores P (tryCatch p handler) X Y :=
  Spec.handled hp fun e s hs => hhandler e hs.1 s hs.2

/-- A program that throws nowhere returns. -/
theorem Restores.returns {s : S} (h : Restores P p X fun _ => False) (hs : P s) :
    ∃ a s', p s = some (.ok a, s') ∧ X a ∧ P s' := by
  obtain hret | ⟨_, _, _, hfalse, _⟩ := h s hs
  · exact hret
  · exact hfalse.elim

/-- One call after the other, each of which restores what it finds. -/
theorem restores_mapM {l : List α} {f : α → Prog S ε β} {g : α → β} (h : ∀ a ∈ l, Restores P (f a) (· = g a) Y) :
    Restores P (l.mapM f) (· = l.map g) Y := by
  induction l with
  | nil =>
    rw [List.mapM_nil]
    exact restores_pure rfl
  | cons a l ih =>
    rw [List.mapM_cons]
    refine (h a List.mem_cons_self).bind fun b hb => ?_
    refine (ih fun a ha => h a (List.mem_cons_of_mem _ ha)).bind fun bs hbs => restores_pure ?_
    rw [hb, hbs, List.map_cons]

end Prog

end Scope
