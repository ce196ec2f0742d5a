import Mathlib.Data.List.Infix

/-!
# Transducers

A machine that makes an output of every input and may fail. Its run over a
list of inputs is cut where one likes: what it made of the beginning is the
beginning of what it makes of the whole.
-/

variable {σ α β : Type*}

namespace Transducer

variable (step : α → σ → Option (β × σ))

/-- Inputs one after the other. -/
def run : List α → σ → Option (List β × σ)
  | [], s => some ([], s)
  | a :: as, s => do
    let (b, s) ← step a s
    let (bs, s) ← run as s
    some (b :: bs, s)

@[simp] theorem run_nil (s : σ) : run step [] s = some ([], s) := rfl

variable {step}

/-- One input in front of a run. -/
theorem run_cons {a : α} {as : List α} {s t u : σ} {b : β} {bs : List β}
    (hstep : step a s = some (b, t)) (hrun : run step as t = some (bs, u)) :
    run step (a :: as) s = some (b :: bs, u) := by
  rw [run, hstep]
  show (run step as t).bind _ = _
  rw [hrun]
  rfl

/-- What a run over some first input is made of. -/
theorem of_run_cons {a : α} {as : List α} {s u : σ} {out : List β}
    (h : run step (a :: as) s = some (out, u)) :
    ∃ b t bs, step a s = some (b, t) ∧ run step as t = some (bs, u)
      ∧ out = b :: bs := by
  rw [run] at h
  cases hstep : step a s with
  | none => simp [hstep] at h
  | some first =>
    cases hrun : run step as first.2 with
    | none => simp [hstep, hrun] at h
    | some rest =>
      obtain ⟨b, t⟩ := first
      obtain ⟨bs, v⟩ := rest
      simp only [hstep, hrun, Option.bind_eq_bind, Option.bind_some,
        Option.some.injEq, Prod.mk.injEq] at h
      obtain ⟨hout, rfl⟩ := h
      exact ⟨b, t, bs, rfl, hrun, hout.symm⟩

/-- **Two runs, one behind the other**, are a run. -/
theorem run_append {as bs : List α} {s t u : σ} {xs ys : List β}
    (hfirst : run step as s = some (xs, t))
    (hsecond : run step bs t = some (ys, u)) :
    run step (as ++ bs) s = some (xs ++ ys, u) := by
  induction as generalizing s xs with
  | nil =>
    obtain ⟨rfl, rfl⟩ := Prod.mk.inj (Option.some.inj hfirst)
    exact hsecond
  | cons a as ih =>
    obtain ⟨b, s', rest, hstep, hrun, rfl⟩ := of_run_cons hfirst
    exact run_cons hstep (ih hrun)

/-- **A run cut in two.** -/
theorem of_run_append {as bs : List α} {s u : σ} {out : List β}
    (h : run step (as ++ bs) s = some (out, u)) :
    ∃ xs t ys, run step as s = some (xs, t) ∧ run step bs t = some (ys, u)
      ∧ out = xs ++ ys := by
  induction as generalizing s out with
  | nil => exact ⟨[], s, out, rfl, h, rfl⟩
  | cons a as ih =>
    obtain ⟨b, s', rest, hstep, hrun, rfl⟩ := of_run_cons h
    obtain ⟨xs, t, ys, hfirst, hsecond, rfl⟩ := ih hrun
    exact ⟨b :: xs, t, ys, run_cons hstep hfirst, hsecond, rfl⟩

/-- **More input, more output**: of two runs from one state, the one over a
beginning of the input makes a beginning of the output. -/
theorem run_prefix {as bs : List α} {s t u : σ} {xs ys : List β}
    (has : run step as s = some (xs, t)) (hbs : run step bs s = some (ys, u))
    (h : as <+: bs) : xs <+: ys := by
  obtain ⟨rest, rfl⟩ := h
  obtain ⟨xs', t', ys', hfirst, -, rfl⟩ := of_run_append hbs
  obtain ⟨rfl, rfl⟩ := Prod.mk.inj (Option.some.inj (has.symm.trans hfirst))
  exact List.prefix_append ..

end Transducer
