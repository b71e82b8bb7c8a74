import Mathlib

/-!
# Programs over named calls

A **program** is a tree of calls to its environment: every call has a name `op`, an answer of type
`Res op` or an exception of type `ε`, and a continuation. A call is the unit of interleaving and
the unit of failure.

* `Prog`, its monad, `perform`, `tryCatch`, `attempt`; the monad laws;
* `run`: the sequential meaning over a state `σ`, with `run_bind`, `run_tryCatch`, `run_attempt`;
* `Calls`: every call that a program can make satisfies a predicate, with `calls_bind`,
  `calls_tryCatch`, `calls_attempt`; **`run_keeps`**: what its calls keep, a run keeps;
* `Returns`: every end of a program satisfies a predicate, with `returns_bind`.
-/

namespace Conc

/-- A program: it returns, raises, or makes a call and continues with the answer. -/
inductive Prog (Op : Type) (Res : Op → Type) (ε α : Type) : Type where
  | ret (a : α)
  | raise (e : ε)
  | call (op : Op) (next : Except ε (Res op) → Prog Op Res ε α)

namespace Prog

variable {Op : Type} {Res : Op → Type} {ε α β γ : Type}

/-- Sequencing; an exception skips what follows. -/
def bind (p : Prog Op Res ε α) (f : α → Prog Op Res ε β) : Prog Op Res ε β :=
  match p with
  | ret a => f a
  | raise e => raise e
  | call op next => call op fun r => (next r).bind f

/-- `try p except e: h e`. -/
def tryCatch (p : Prog Op Res ε α) (h : ε → Prog Op Res ε α) : Prog Op Res ε α :=
  match p with
  | ret a => ret a
  | raise e => h e
  | call op next => call op fun r => (next r).tryCatch h

/-- `try p`, with its end, normal or not, as a value. -/
def attempt (p : Prog Op Res ε α) : Prog Op Res ε (Except ε α) :=
  match p with
  | ret a => ret (.ok a)
  | raise e => ret (.error e)
  | call op next => call op fun r => (next r).attempt

instance : Monad (Prog Op Res ε) where
  pure := ret
  bind := bind

/-- One call; its exception propagates. -/
def perform (op : Op) : Prog Op Res ε (Res op) :=
  call op fun
    | .ok a => ret a
    | .error e => raise e

theorem pure_eq (a : α) : (pure a : Prog Op Res ε α) = ret a := rfl

theorem bind_eq (p : Prog Op Res ε α) (f : α → Prog Op Res ε β) : p >>= f = p.bind f := rfl

@[simp] theorem ret_bind (a : α) (f : α → Prog Op Res ε β) : (ret a).bind f = f a := rfl

@[simp] theorem raise_bind (e : ε) (f : α → Prog Op Res ε β) : (raise e).bind f = raise e := rfl

@[simp] theorem call_bind (op : Op) (next : Except ε (Res op) → Prog Op Res ε α)
    (f : α → Prog Op Res ε β) : (call op next).bind f = call op fun r => (next r).bind f := rfl

theorem bind_ret (p : Prog Op Res ε α) : p.bind ret = p := by
  induction p with
  | ret a => rfl
  | raise e => rfl
  | call op next ih => exact congrArg (call op) (funext ih)

theorem bind_assoc (p : Prog Op Res ε α) (f : α → Prog Op Res ε β) (g : β → Prog Op Res ε γ) :
    (p.bind f).bind g = p.bind fun a => (f a).bind g := by
  induction p with
  | ret a => rfl
  | raise e => rfl
  | call op next ih => exact congrArg (call op) (funext ih)

instance : LawfulMonad (Prog Op Res ε) :=
  LawfulMonad.mk' (Prog Op Res ε) (fun p => bind_ret p) (fun _ _ => rfl) bind_assoc

/-! ## Sequential runs -/

section Run

variable {σ : Type} (sem : (op : Op) → σ → Except ε (Res op) × σ)

/-- **The sequential meaning**: every call is answered by `sem`. -/
def run : Prog Op Res ε α → σ → Except ε α × σ
  | ret a, s => (.ok a, s)
  | raise e, s => (.error e, s)
  | call op next, s => (next (sem op s).1).run (sem op s).2

@[simp] theorem run_ret (a : α) (s : σ) : (ret a : Prog Op Res ε α).run sem s = (.ok a, s) := rfl

@[simp] theorem run_pure (a : α) (s : σ) :
    (pure a : Prog Op Res ε α).run sem s = (.ok a, s) := rfl

@[simp] theorem run_raise (e : ε) (s : σ) :
    (raise e : Prog Op Res ε α).run sem s = (.error e, s) := rfl

theorem run_bind (p : Prog Op Res ε α) (f : α → Prog Op Res ε β) (s : σ) :
    (p.bind f).run sem s = match p.run sem s with
      | (.ok a, s') => (f a).run sem s'
      | (.error e, s') => (.error e, s') := by
  induction p generalizing s with
  | ret a => rfl
  | raise e => rfl
  | call op next ih => exact ih _ _

theorem run_tryCatch (p : Prog Op Res ε α) (h : ε → Prog Op Res ε α) (s : σ) :
    (p.tryCatch h).run sem s = match p.run sem s with
      | (.ok a, s') => (.ok a, s')
      | (.error e, s') => (h e).run sem s' := by
  induction p generalizing s with
  | ret a => rfl
  | raise e => rfl
  | call op next ih => exact ih _ _

theorem run_attempt (p : Prog Op Res ε α) (s : σ) :
    p.attempt.run sem s = (.ok (p.run sem s).1, (p.run sem s).2) := by
  induction p generalizing s with
  | ret a => rfl
  | raise e => rfl
  | call op next ih => exact ih _ _

theorem run_perform (op : Op) (s : σ) :
    (perform op : Prog Op Res ε (Res op)).run sem s = sem op s := by
  simp only [perform, run]
  rcases sem op s with ⟨_ | _, _⟩ <;> rfl

theorem run_bind_ok {p : Prog Op Res ε α} {f : α → Prog Op Res ε β} {s s' : σ} {a : α}
    (h : p.run sem s = (.ok a, s')) : (p.bind f).run sem s = (f a).run sem s' := by
  rw [run_bind, h]

theorem run_bind_error {p : Prog Op Res ε α} {f : α → Prog Op Res ε β} {s s' : σ} {e : ε}
    (h : p.run sem s = (.error e, s')) : (p.bind f).run sem s = (.error e, s') := by
  rw [run_bind, h]

theorem run_bind_of_ok {Q : Except ε β × σ → Prop} {p : Prog Op Res ε α}
    {f : α → Prog Op Res ε β} {s s' : σ} {a : α} (h : p.run sem s = (.ok a, s'))
    (hQ : Q ((f a).run sem s')) : Q ((p.bind f).run sem s) := by
  rwa [run_bind_ok sem h]

theorem run_bind_of_error {Q : Except ε β × σ → Prop} {p : Prog Op Res ε α}
    {f : α → Prog Op Res ε β} {s s' : σ} {e : ε} (h : p.run sem s = (.error e, s'))
    (hQ : Q (.error e, s')) : Q ((p.bind f).run sem s) := by
  rwa [run_bind_error sem h]

theorem run_tryCatch_ok {p : Prog Op Res ε α} {h : ε → Prog Op Res ε α} {s s' : σ} {a : α}
    (hp : p.run sem s = (.ok a, s')) : (p.tryCatch h).run sem s = (.ok a, s') := by
  rw [run_tryCatch, hp]

theorem run_tryCatch_error {p : Prog Op Res ε α} {h : ε → Prog Op Res ε α} {s s' : σ} {e : ε}
    (hp : p.run sem s = (.error e, s')) : (p.tryCatch h).run sem s = (h e).run sem s' := by
  rw [run_tryCatch, hp]

end Run

/-! ## The calls of a program -/

/-- Every call that the program can make, whatever the answers, satisfies `φ`. -/
def Calls (φ : Op → Prop) : Prog Op Res ε α → Prop
  | ret _ => True
  | raise _ => True
  | call op next => φ op ∧ ∀ r, (next r).Calls φ

variable {φ : Op → Prop}

theorem calls_pure (a : α) : (pure a : Prog Op Res ε α).Calls φ := trivial

theorem calls_perform {op : Op} (h : φ op) : (perform op : Prog Op Res ε (Res op)).Calls φ :=
  ⟨h, fun r => by cases r <;> trivial⟩

theorem calls_bind {p : Prog Op Res ε α} {f : α → Prog Op Res ε β} (hp : p.Calls φ)
    (hf : ∀ a, (f a).Calls φ) : (p.bind f).Calls φ := by
  induction p with
  | ret a => exact hf a
  | raise e => trivial
  | call op next ih => exact ⟨hp.1, fun r => ih r (hp.2 r)⟩

theorem calls_tryCatch {p : Prog Op Res ε α} {h : ε → Prog Op Res ε α} (hp : p.Calls φ)
    (hh : ∀ e, (h e).Calls φ) : (p.tryCatch h).Calls φ := by
  induction p with
  | ret a => trivial
  | raise e => exact hh e
  | call op next ih => exact ⟨hp.1, fun r => ih r (hp.2 r)⟩

theorem calls_attempt {p : Prog Op Res ε α} (hp : p.Calls φ) : p.attempt.Calls φ := by
  induction p with
  | ret a => trivial
  | raise e => trivial
  | call op next ih => exact ⟨hp.1, fun r => ih r (hp.2 r)⟩

theorem calls_true (p : Prog Op Res ε α) : p.Calls fun _ => True := by
  induction p with
  | ret a => trivial
  | raise e => trivial
  | call op next ih => exact ⟨trivial, ih⟩

theorem calls_mono {ψ : Op → Prop} (h : ∀ op, φ op → ψ op) {p : Prog Op Res ε α}
    (hp : p.Calls φ) : p.Calls ψ := by
  induction p with
  | ret a => trivial
  | raise e => trivial
  | call op next ih => exact ⟨h op hp.1, fun r => ih r (hp.2 r)⟩

/-! ## The ends of a program -/

/-- Every end of the program, whatever the answers, satisfies `Q`. -/
def Returns (Q : Except ε α → Prop) : Prog Op Res ε α → Prop
  | ret a => Q (.ok a)
  | raise e => Q (.error e)
  | call _ next => ∀ r, (next r).Returns Q

theorem returns_bind {Q : Except ε α → Prop} {R : Except ε β → Prop} {p : Prog Op Res ε α}
    {f : α → Prog Op Res ε β} (hp : p.Returns Q) (hf : ∀ a, Q (.ok a) → (f a).Returns R)
    (he : ∀ e, Q (.error e) → R (.error e)) : (p.bind f).Returns R := by
  induction p with
  | ret a => exact hf a hp
  | raise e => exact he e hp
  | call op next ih => exact fun r => ih r (hp r)

theorem returns_mono {Q R : Except ε α → Prop} (h : ∀ r, Q r → R r) {p : Prog Op Res ε α}
    (hp : p.Returns Q) : p.Returns R := by
  induction p with
  | ret a => exact h _ hp
  | raise e => exact h _ hp
  | call op next ih => exact fun r => ih r (hp r)

theorem returns_of_forall {Q : Except ε α → Prop} (h : ∀ r, Q r) (p : Prog Op Res ε α) :
    p.Returns Q := by
  induction p with
  | ret a => exact h _
  | raise e => exact h _
  | call op next ih => exact fun r => ih r

/-- What every call of a program keeps, a run of it keeps. -/
theorem run_keeps {σ : Type} {sem : (op : Op) → σ → Except ε (Res op) × σ} {I : σ → Prop}
    (h : ∀ op s, φ op → I s → I (sem op s).2) {p : Prog Op Res ε α} (hp : p.Calls φ) {s : σ}
    (hs : I s) : I (p.run sem s).2 := by
  induction p generalizing s with
  | ret a => exact hs
  | raise e => exact hs
  | call op next ih => exact ih _ (hp.2 _) (h op s hp.1 hs)

end Prog

end Conc
