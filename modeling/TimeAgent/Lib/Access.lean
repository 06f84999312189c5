/-
Computations on a buffer with the positions they touch: the bytes they look at, the pointers they
hand out, and loops that have to come to an end. A computation returns a value within the first `n`
bytes when it ends with that value, looks at no byte from `n` on and points at most one behind them.
-/
import Mathlib.Data.List.Basic

namespace CMem

/-! ## Accesses -/

inductive Access
  | byte (p : Nat)
  | pointer (p : Nat)
  deriving DecidableEq

/-- A byte is one of the first `n`; a pointer may also be the one behind them. -/
def Access.Within (n : Nat) : Access → Prop
  | .byte p => p < n
  | .pointer p => p ≤ n

/-- The value of a computation, `none` when it ran out of fuel, and its accesses in order. -/
structure Run (α : Type) where
  value : Option α
  accesses : List Access

instance : Monad Run where
  pure a := { value := some a, accesses := [] }
  bind x f :=
    match x.value with
    | none => { value := none, accesses := x.accesses }
    | some a => { value := (f a).value, accesses := x.accesses ++ (f a).accesses }

/-- The computation ends with `a`, and every access is within the first `n` bytes. -/
structure Run.Returns {α : Type} (n : Nat) (x : Run α) (a : α) : Prop where
  value : x.value = some a
  within : ∀ e ∈ x.accesses, e.Within n

variable {α β σ : Type} {n : Nat}

theorem returns_pure (n : Nat) (a : α) : (pure a : Run α).Returns n a := ⟨rfl, nofun⟩

theorem Run.Returns.bind {x : Run α} {f : α → Run β} {a : α} {b : β} (hx : x.Returns n a) (hf : (f a).Returns n b) :
    (x >>= f).Returns n b := by
  have hbind : x >>= f = { value := (f a).value, accesses := x.accesses ++ (f a).accesses } := by
    show (match x.value with
      | none => { value := none, accesses := x.accesses }
      | some a => { value := (f a).value, accesses := x.accesses ++ (f a).accesses } : Run β) = _
    rw [hx.value]
  rw [hbind]
  refine ⟨hf.value, fun e he => ?_⟩
  rcases List.mem_append.1 he with he | he
  · exact hx.within e he
  · exact hf.within e he

/-! ## Reading -/

variable {γ : Type}

/-- `*p`. -/
def byteAt (buf : List γ) (p : Nat) : Run (Option γ) := { value := some buf[p]?, accesses := [.byte p] }

/-- The bytes in `[first, last)`, all of them looked at. -/
def bytes (buf : List γ) (first last : Nat) : Run (List γ) :=
  { value := some ((buf.take last).drop first), accesses := (List.range' first (last - first)).map .byte }

/-- A pointer that is handed out. -/
def point (p : Nat) : Run Unit := { value := some (), accesses := [.pointer p] }

theorem returns_byteAt (buf : List γ) {p : Nat} (h : p < n) : (byteAt buf p).Returns n buf[p]? := by
  refine ⟨rfl, fun e he => ?_⟩
  cases List.mem_singleton.1 he
  exact h

theorem returns_bytes (buf : List γ) {first last : Nat} (h : last ≤ n) :
    (bytes buf first last).Returns n ((buf.take last).drop first) := by
  refine ⟨rfl, fun e he => ?_⟩
  obtain ⟨p, hp, rfl⟩ := List.mem_map.1 he
  obtain ⟨hle, hlt⟩ := List.mem_range'_1.1 hp
  show p < n
  omega

theorem returns_point {p : Nat} (h : p ≤ n) : (point p).Returns n () := by
  refine ⟨rfl, fun e he => ?_⟩
  cases List.mem_singleton.1 he
  exact h

variable [DecidableEq γ]

/-- `memcmp(p, s, n) == 0`, over the length of `s`. -/
def memcmp (buf : List γ) (p : Nat) (s : List γ) : Run Bool := do
  let t ← bytes buf p (p + s.length)
  return t = s

/-- `memchr(p, c, k)`. -/
def memchr (buf : List γ) (p : Nat) (c : γ) (k : Nat) : Run (Option Nat) := do
  let t ← bytes buf p (p + k)
  return (t.idxOf? c).map (p + ·)

theorem returns_memcmp (buf : List γ) {p : Nat} {s : List γ} (h : p + s.length ≤ n) :
    (memcmp buf p s).Returns n ((buf.take (p + s.length)).drop p = s) :=
  (returns_bytes buf h).bind (returns_pure n _)

theorem returns_memchr (buf : List γ) {p k : Nat} (c : γ) (h : p + k ≤ n) :
    (memchr buf p c k).Returns n ((((buf.take (p + k)).drop p).idxOf? c).map (p + ·)) :=
  (returns_bytes buf h).bind (returns_pure n _)

/-! ## Loops -/

/-- One pass of a loop leaves it with a result, or goes on in a new state. -/
inductive Pass (σ α : Type)
  | leave (a : α)
  | again (s : σ)

/-- A loop, for at most `fuel` passes. -/
def loop (body : σ → Run (Pass σ α)) : Nat → σ → Run α
  | 0, _ => { value := none, accesses := [] }
  | fuel + 1, s => do
    match ← body s with
    | .leave a => return a
    | .again s => loop body fuel s

/-- A loop returns `f` of its state when every pass leaves with it, or goes on to a state with the
same `f` and a smaller measure; the measure bounds the passes. -/
theorem returns_loop {body : σ → Run (Pass σ α)} (measure : σ → Nat) (f : σ → α)
    (hbody : ∀ s, (body s).Returns n (.leave (f s)) ∨
      ∃ s', (body s).Returns n (.again s') ∧ measure s' < measure s ∧ f s' = f s)
    {fuel : Nat} {s : σ} (hfuel : measure s < fuel) : (loop body fuel s).Returns n (f s) := by
  induction fuel generalizing s with
  | zero => omega
  | succ fuel ih =>
    rw [loop]
    rcases hbody s with hleave | ⟨s', hagain, hlt, hf⟩
    · exact hleave.bind (returns_pure n _)
    · exact hagain.bind (hf ▸ ih (by omega))

end CMem
