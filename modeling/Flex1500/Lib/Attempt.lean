import Mathlib.Data.List.Basic

/-!
# Sequences of fallible steps

A start sequence tries one step after the other and gives up at the first
that fails. An **attempt** is one such step on a state `σ`: it says whether
it succeeded and what state it leaves, failed or not.

What a sequence does is read off its steps. `Attempt.all_invariant` carries
a fact from step to step. `Attempt.all_log` is for steps that write to a
log: a sequence writes what its steps write, up to the step that failed.
From it `Attempt.before_of_mem` says what must have succeeded before
something could be written at all, which is how an interlock is read off a
sequence.
-/

variable {σ ε : Type*}

/-- A fallible step. -/
abbrev Attempt (σ : Type*) := σ → Bool × σ

namespace Attempt

/-- One step after the other, up to the first that fails. -/
def all : List (Attempt σ) → Attempt σ
  | [], s => (true, s)
  | a :: as, s => if (a s).1 = true then all as (a s).2 else (false, (a s).2)

/-- What every step keeps, the sequence keeps, however far it gets. -/
theorem all_invariant (I : σ → Prop) {as : List (Attempt σ)} {s : σ}
    (h : ∀ a ∈ as, ∀ s, I s → I (a s).2) (hs : I s) : I (all as s).2 := by
  induction as generalizing s with
  | nil => exact hs
  | cons a as ih =>
    have ha := h a (List.mem_cons_self ..) s hs
    unfold all
    split
    · exact ih (fun b hb => h b (List.mem_cons_of_mem _ hb)) ha
    · exact ha

/-- A sequence in two parts: the second is tried where the first
succeeds. -/
theorem all_append (as bs : List (Attempt σ)) (s : σ) :
    all (as ++ bs) s
      = if (all as s).1 = true then all bs (all as s).2
        else (false, (all as s).2) := by
  induction as generalizing s with
  | nil => simp [all]
  | cons a as ih =>
    rw [List.cons_append, all, all]
    split
    · exact ih _
    · simp

/-- What one step gives and every later one keeps, a sequence that succeeds
has given. -/
theorem all_gives (I : σ → Prop) {before after : List (Attempt σ)}
    {a : Attempt σ} {s : σ} (ha : ∀ s, (a s).1 = true → I (a s).2)
    (h : ∀ b ∈ after, ∀ s, I s → I (b s).2)
    (hok : (all (before ++ a :: after) s).1 = true) :
    I (all (before ++ a :: after) s).2 := by
  rw [all_append] at hok ⊢
  split at hok
  swap
  · simp at hok
  rw [if_pos ‹_›]
  rw [all] at hok ⊢
  split at hok
  swap
  · simp at hok
  rw [if_pos ‹_›]
  exact all_invariant I h (ha _ ‹_›)

/-- What every step keeps, the last one where it fails, a sequence that fails
has kept. -/
theorem all_fails (I : σ → Prop) {as : List (Attempt σ)} {last : Attempt σ}
    {s : σ} (h : ∀ a ∈ as, ∀ s, I s → I (a s).2)
    (hl : ∀ s, I s → (last s).1 = false → I (last s).2) (hs : I s)
    (hfail : (all (as ++ [last]) s).1 = false) :
    I (all (as ++ [last]) s).2 := by
  have hpre := all_invariant I h hs
  rw [all_append] at hfail ⊢
  split
  · rw [if_pos ‹_›] at hfail
    simp only [all] at hfail ⊢
    by_cases hlast : (last (all as s).2).1 = true
    · simp [hlast] at hfail
    · rw [if_neg hlast]
      exact hl _ hpre (by simpa using hlast)
  · exact hpre

/-- A step writes `ev true` to the log where it succeeds and `ev false`
where it fails. -/
def Logs (log : σ → List ε) (a : Attempt σ) (ev : Bool → List ε) : Prop :=
  ∀ s, log (a s).2 = log s ++ ev (a s).1

/-- Steps beside what they write. -/
abbrev Logged (σ ε : Type*) := List (Attempt σ × (Bool → List ε))

/-- **The log of a sequence**: everything its steps write on success, or
what those before the failure wrote and what the failed one did. -/
theorem all_log {log : σ → List ε} (steps : Logged σ ε)
    (h : ∀ step ∈ steps, Logs log step.1 step.2) (s : σ) :
    ((all (steps.map Prod.fst) s).1 = true
        ∧ log (all (steps.map Prod.fst) s).2
          = log s ++ steps.flatMap (·.2 true))
    ∨ ∃ done step rest, steps = done ++ step :: rest
        ∧ (all (steps.map Prod.fst) s).1 = false
        ∧ log (all (steps.map Prod.fst) s).2
          = log s ++ (done.flatMap (·.2 true) ++ step.2 false) := by
  induction steps generalizing s with
  | nil => exact Or.inl ⟨rfl, by simp [all]⟩
  | cons step steps ih =>
    have hstep := h step (List.mem_cons_self ..) s
    rw [List.map_cons, all]
    by_cases hr : (step.1 s).1 = true
    swap
    · rw [if_neg hr]
      refine Or.inr ⟨[], step, steps, rfl, rfl, ?_⟩
      rw [hstep, show (step.1 s).1 = false by simpa using hr]
      rfl
    · rw [if_pos hr]
      rw [hr] at hstep
      rcases ih (fun t ht => h t (List.mem_cons_of_mem _ ht)) (step.1 s).2 with
        ⟨hok, hlog⟩ | ⟨done, failed, rest, rfl, hfail, hlog⟩
      · exact Or.inl ⟨hok, by rw [hlog, hstep, List.flatMap_cons,
          List.append_assoc]⟩
      · refine Or.inr ⟨step :: done, failed, rest, rfl, hfail, ?_⟩
        rw [hlog, hstep, List.flatMap_cons]
        simp only [List.append_assoc]

/-- What a sequence writes, where each step writes something of the state it
finds. -/
def writes : List (Attempt σ × (σ → List ε)) → σ → List ε
  | [], _ => []
  | a :: as, s => a.2 s ++ if (a.1 s).1 = true then writes as (a.1 s).2 else []

section Relates

variable (R : σ → List ε → σ → Prop) (hnil : ∀ s, R s [] s)
  (happend : ∀ {s t u es fs}, R s es t → R t fs u → R s (es ++ fs) u)

include hnil happend

/-- A relation of two states and what was written between them, which holds
of two stretches put together, holds of a sequence where it does of its first
step and of the rest. -/
theorem writes_cons {step : Attempt σ × (σ → List ε)}
    {steps : List (Attempt σ × (σ → List ε))} {s : σ}
    (hstep : R s (step.2 s) (step.1 s).2)
    (hrest : R (step.1 s).2 (writes steps (step.1 s).2)
      (all (steps.map Prod.fst) (step.1 s).2).2) :
    R s (writes (step :: steps) s)
      (all ((step :: steps).map Prod.fst) s).2 := by
  rw [List.map_cons, all, writes]
  split
  · exact happend hstep hrest
  · exact happend hstep (hnil _)

/-- **Stretches of a sequence**: it holds of the sequence, however far that
gets, where it does of each step. -/
theorem writes_relates {steps : List (Attempt σ × (σ → List ε))}
    (h : ∀ step ∈ steps, ∀ s, R s (step.2 s) (step.1 s).2) (s : σ) :
    R s (writes steps s) (all (steps.map Prod.fst) s).2 := by
  induction steps generalizing s with
  | nil => exact hnil s
  | cons step steps ih =>
    exact writes_cons R hnil happend (h step (List.mem_cons_self ..) s)
      (ih (fun t ht => h t (List.mem_cons_of_mem _ ht)) _)

end Relates

/-- A split of two lists put together splits one of them. -/
theorem split_append {as bs cs ds : List ε} {x : ε}
    (h : as ++ bs = cs ++ x :: ds) :
    (∃ mid, as = cs ++ x :: mid ∧ ds = mid ++ bs)
      ∨ ∃ mid, cs = as ++ mid ∧ bs = mid ++ x :: ds := by
  rcases List.append_eq_append_iff.mp h with ⟨mid, hc, hb⟩ | ⟨mid, ha, hd⟩
  · exact Or.inr ⟨mid, hc, hb⟩
  · cases mid with
    | nil => exact Or.inr ⟨[], by simpa using ha.symm, by simpa using hd.symm⟩
    | cons y mid =>
      obtain ⟨rfl, hds⟩ := by simpa using hd
      exact Or.inl ⟨mid, ha, hds⟩

/-- A list is split at the one element of a kind in one way only. -/
theorem split_unique {P : ε → Prop} {as bs cs ds : List ε} {x y : ε}
    (h : as ++ x :: bs = cs ++ y :: ds) (hx : P x) (hc : ∀ z ∈ cs, ¬ P z)
    (hd : ∀ z ∈ ds, ¬ P z) : as = cs := by
  rcases split_append h.symm with ⟨mid, hcs, -⟩ | ⟨mid, has, hds⟩
  · exact absurd hx (hc x (by simp [hcs]))
  · cases mid with
    | nil => simpa using has
    | cons z mid =>
      obtain ⟨-, hds⟩ := by simpa using hds
      exact absurd hx (hd x (by simp [hds]))

/-- **Interlocks**: where something that only one step writes is in the
log, the steps before that one have all succeeded, and what it wrote
follows what they wrote and comes before anything later steps did. -/
theorem before_of_mem {log : σ → List ε} {before after : Logged σ ε}
    {step : Attempt σ × (Bool → List ε)}
    (h : ∀ t ∈ before ++ step :: after, Logs log t.1 t.2) {x : ε}
    (hb : ∀ t ∈ before, ∀ b, x ∉ t.2 b) {s : σ} {es : List ε}
    (hlog : log (all ((before ++ step :: after).map Prod.fst) s).2
      = log s ++ es) (hx : x ∈ es) :
    ∃ b rest, es = before.flatMap (·.2 true) ++ step.2 b ++ rest
      ∧ ∀ y ∈ rest, ∃ t ∈ after, ∃ b, y ∈ t.2 b := by
  have hlater : ∀ done : Logged σ ε, (∀ t ∈ done, t ∈ after) →
      ∀ y ∈ done.flatMap (·.2 true), ∃ t ∈ after, ∃ b, y ∈ t.2 b := by
    intro done hdone y hy
    obtain ⟨t, ht, hyt⟩ := List.mem_flatMap.mp hy
    exact ⟨t, hdone t ht, true, hyt⟩
  rcases all_log (before ++ step :: after) h s with
    ⟨_, hl⟩ | ⟨done, failed, rest, hsplit, _, hl⟩
  · have hes := List.append_cancel_left (hlog.symm.trans hl)
    exact ⟨true, after.flatMap (·.2 true), by simp [hes],
      hlater after fun _ => id⟩
  · have hes := List.append_cancel_left (hlog.symm.trans hl)
    -- where the sequence stopped: within the steps before, or not
    rcases List.append_eq_append_iff.mp hsplit with
      ⟨mid, hdone, hrest⟩ | ⟨mid, hbefore, hrest⟩
    · cases mid with
      | nil =>
        obtain ⟨rfl, -⟩ := by simpa using hrest
        exact ⟨false, [], by simp [hes, hdone], by simp⟩
      | cons m mid =>
        obtain ⟨rfl, hafter⟩ := by simpa using hrest
        refine ⟨true, mid.flatMap (·.2 true) ++ failed.2 false, by
          simp [hes, hdone], fun y hy => ?_⟩
        rcases List.mem_append.mp hy with hy | hy
        · exact hlater mid (fun t ht => hafter ▸ List.mem_append_left _ ht) y hy
        · exact ⟨failed, by simp [hafter], false, hy⟩
    · cases mid with
      | nil =>
        obtain ⟨rfl, -⟩ := by simpa using hrest
        exact ⟨false, [], by simp_all, by simp⟩
      | cons m mid =>
        obtain ⟨rfl, -⟩ := by simpa using hrest
        exfalso
        rw [hes, List.mem_append, List.mem_flatMap] at hx
        rcases hx with ⟨t, ht, hxt⟩ | hx
        · exact hb t (by simp [hbefore, ht]) true hxt
        · exact hb failed (by simp [hbefore]) false hx

end Attempt
