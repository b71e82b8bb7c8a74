import TryTrust.Conc.Flow

/-!
# Runs alone

The run of one program with no other between its calls, where an environment of its own decides each
call.

* `streamed`: a state, and how many calls were made; **`Alone`**: how the run ends;
* `onEnd`: the end of a program that may raise; the rules `alone_bind`, `alone_mono`, `alone_call`,
  `alone_step`, `alone_calls`, `alone_run`; `alone_constant`: one environment for all calls.
-/

namespace Conc

section Alone

variable {E Op : Type} {Res : Op → Type} {ε α β σ : Type}

/-- The meaning of calls, each under the next environment. -/
def streamed (sem : E → (op : Op) → σ → Except ε (Res op) × σ) (envs : ℕ → E) (op : Op)
    (t : σ × ℕ) : Except ε (Res op) × (σ × ℕ) :=
  ((sem (envs t.2) op t.1).1, ((sem (envs t.2) op t.1).2, t.2 + 1))

/-- **How a run alone ends**, from the state `s` after `n` calls. -/
abbrev Alone (sem : E → (op : Op) → σ → Except ε (Res op) × σ) (envs : ℕ → E)
    (Q : Except ε α → σ → Prop) (p : Prog Op Res ε α) (s : σ) (n : ℕ) : Prop :=
  Ends (streamed sem envs) (fun r t => Q r t.1) p (s, n)

/-- An end: `φ` of what is returned, or `I` when the program raises. -/
def onEnd (I : σ → Prop) (φ : α → σ → Prop) : Except ε α → σ → Prop
  | .ok a, s => φ a s
  | .error _, s => I s

variable {sem : E → (op : Op) → σ → Except ε (Res op) × σ} {envs : ℕ → E} {I : σ → Prop}
  {φ φ' : α → σ → Prop} {ψ : β → σ → Prop} {s : σ} {n : ℕ}

theorem alone_bind {p : Prog Op Res ε α} {f : α → Prog Op Res ε β}
    (hp : Alone sem envs (onEnd I φ) p s n)
    (hf : ∀ a s' n', φ a s' → Alone sem envs (onEnd I ψ) (f a) s' n') :
    Alone sem envs (onEnd I ψ) (p.bind f) s n :=
  flow_bind hp (fun a t h => hf a t.1 t.2 h) fun _ _ h => h

theorem alone_mono {p : Prog Op Res ε α} (hp : Alone sem envs (onEnd I φ) p s n)
    (h : ∀ a s', φ a s' → φ' a s') : Alone sem envs (onEnd I φ') p s n :=
  flow_mono (fun r t hr => by
    cases r with
    | ok a => exact h a t.1 hr
    | error x => exact hr) hp

/-- One call. -/
theorem alone_call {op : Op} {Q : Except ε (Res op) → σ → Prop}
    (h : Q (sem (envs n) op s).1 (sem (envs n) op s).2) :
    Alone sem envs Q (Prog.perform op) s n :=
  flow_perform trivial h

/-- A call that answers `a` or raises, and leaves the state as it is. -/
theorem alone_step {Q : Except ε α → σ → Prop} {op : Op} {f : Res op → Prog Op Res ε α}
    {a : Res op} (hsem : (sem (envs n) op s).2 = s ∧ ∀ b, (sem (envs n) op s).1 = .ok b → b = a)
    (hfail : ∀ x, Q (.error x) s) (hok : Alone sem envs Q (f a) s (n + 1)) :
    Alone sem envs Q ((Prog.perform op).bind f) s n := by
  refine flow_bind (P := fun r t => t = (s, n + 1) ∧ ∀ b, r = .ok b → b = a)
    (flow_perform trivial ?_) (fun b t h => ?_) fun x t h => ?_
  · simp only [streamed]
    exact ⟨by rw [hsem.1], hsem.2⟩
  · obtain ⟨rfl, hb⟩ := h
    rw [hb b rfl]
    exact hok
  · obtain ⟨rfl, -⟩ := h
    exact hfail x

/-- What the calls of a program keep, it keeps. -/
theorem alone_calls {χ : Op → Prop} (h : ∀ e op s, χ op → I s → I (sem e op s).2)
    {p : Prog Op Res ε α} (hp : p.Calls χ) (hs : I s) : Alone sem envs (fun _ => I) p s n :=
  ends_calls (I := fun t : σ × ℕ => I t.1) (fun op _ hop hI => h _ op _ hop hI) hp hs

/-- The end of the run itself. -/
theorem alone_run {Q : Except ε α → σ → Prop} {p : Prog Op Res ε α}
    (h : Alone sem envs Q p s n) :
    Q (p.run (streamed sem envs) (s, n)).1 (p.run (streamed sem envs) (s, n)).2.1 :=
  flow_run h

/-- One environment for all calls. -/
theorem alone_constant {e : E} {Q : Except ε α → σ → Prop} {p : Prog Op Res ε α}
    (h : Alone sem (fun _ => e) Q p s n) : Ends (sem e) Q p s := by
  induction p generalizing s n with
  | ret a => exact h
  | raise x => exact h
  | call op next ih => exact ⟨trivial, ih _ h.2⟩

end Alone

end Conc
