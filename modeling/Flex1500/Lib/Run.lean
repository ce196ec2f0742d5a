import Mathlib.Data.List.Basic

/-!
# Runs of a step function

A system that is told what happens next, one event after the other. What
holds in every state of a run is proved of one step, and where a step keeps
it exactly when the event is a good one, the run keeps it exactly when every
event is.
-/

variable {σ α ε : Type*}

namespace Run

variable (step : σ → α → σ)

/-- The state after events. -/
def after (s : σ) (events : List α) : σ :=
  events.foldl step s

/-- **In every state** of a run, the first and the last among them. -/
def Always (I : σ → Prop) : σ → List α → Prop
  | s, [] => I s
  | s, a :: as => I s ∧ Always I (step s a) as

/-- **Every event** of a run, in the state it meets. -/
def Each (G : σ → α → Prop) : σ → List α → Prop
  | _, [] => True
  | s, a :: as => G s a ∧ Each G (step s a) as

/-- **What a run writes**, where each event writes something of the state it
meets. -/
def writes (write : σ → α → List ε) : σ → List α → List ε
  | _, [] => []
  | s, a :: as => write s a ++ writes write (step s a) as

instance Each.decidable (G : σ → α → Prop) [∀ s a, Decidable (G s a)] :
    ∀ (s : σ) (as : List α), Decidable (Each step G s as)
  | _, [] => .isTrue trivial
  | s, a :: as =>
    have := Each.decidable G (step s a) as
    inferInstanceAs (Decidable (_ ∧ _))

variable {step} {I : σ → Prop} {G : σ → α → Prop} {s : σ}

@[simp] theorem after_nil (s : σ) : after step s [] = s := rfl

@[simp] theorem after_cons (s : σ) (a : α) (as : List α) :
    after step s (a :: as) = after step (step s a) as := rfl

theorem after_append (s : σ) (as bs : List α) :
    after step s (as ++ bs) = after step (after step s as) bs :=
  List.foldl_append ..

@[simp] theorem each_nil : Each step G s [] := trivial

@[simp] theorem each_cons {a : α} {as : List α} :
    Each step G s (a :: as) ↔ G s a ∧ Each step G (step s a) as := Iff.rfl

/-- The events of two runs, one after the other. -/
theorem each_append {as bs : List α} :
    Each step G s (as ++ bs)
      ↔ Each step G s as ∧ Each step G (after step s as) bs := by
  induction as generalizing s with
  | nil => exact ⟨fun h => ⟨trivial, h⟩, fun h => h.2⟩
  | cons a as ih => rw [List.cons_append, each_cons, each_cons, ih, and_assoc,
      after_cons]

/-- Events that are good in any state. -/
theorem each_of_forall {as : List α} (h : ∀ a ∈ as, ∀ s, G s a) :
    Each step G s as := by
  induction as generalizing s with
  | nil => exact trivial
  | cons a as ih =>
    exact ⟨h a (List.mem_cons_self ..) s,
      ih fun b hb => h b (List.mem_cons_of_mem _ hb)⟩

/-- **Stretches of a run**: a relation of two states and what was written
between them, which holds of each event and of two stretches put together,
holds of a run. -/
theorem writes_relates {write : σ → α → List ε} (R : σ → List ε → σ → Prop)
    (hnil : ∀ s, R s [] s)
    (happend : ∀ {s t u es fs}, R s es t → R t fs u → R s (es ++ fs) u)
    (hstep : ∀ s a, I s → I (step s a) ∧ R s (write s a) (step s a))
    (hs : I s) (as : List α) :
    R s (writes step write s as) (after step s as) := by
  induction as generalizing s with
  | nil => exact hnil s
  | cons a as ih =>
    obtain ⟨hnext, hwrite⟩ := hstep s a hs
    exact happend hwrite (ih hnext)

/-- **The invariant rule** for good events. -/
theorem always_of_each (hstep : ∀ s a, I s → G s a → I (step s a)) (hs : I s)
    {as : List α} (heach : Each step G s as) : Always step I s as := by
  induction as generalizing s with
  | nil => exact hs
  | cons a as ih => exact ⟨hs, ih (hstep s a hs heach.1) heach.2⟩

/-- The rule where every event is good. -/
theorem always (hstep : ∀ s a, I s → I (step s a)) (hs : I s) (as : List α) :
    Always step I s as := by
  induction as generalizing s with
  | nil => exact hs
  | cons a as ih => exact ⟨hs, ih (hstep s a hs)⟩

/-- What always holds holds at the end. -/
theorem Always.after {as : List α} (h : Always step I s as) :
    I (after step s as) := by
  induction as generalizing s with
  | nil => exact h
  | cons a as ih => exact ih h.2

/-- **The exact rule for a law**: where an invariant has the law and good
events keep the invariant, and only good events keep the law, a run obeys the
law in every state exactly when every event of it is good. -/
theorem always_law_iff_each {J : σ → Prop} (hlaw : ∀ s, I s → J s)
    (hkeeps : ∀ s a, I s → G s a → I (step s a))
    (hneeds : ∀ s a, I s → J (step s a) → G s a) (hs : I s) (as : List α) :
    Always step J s as ↔ Each step G s as := by
  constructor
  · intro h
    induction as generalizing s with
    | nil => exact trivial
    | cons a as ih =>
      have hnext : J (step s a) := by
        cases as with
        | nil => exact h.2
        | cons b bs => exact h.2.1
      have hgood := hneeds s a hs hnext
      exact ⟨hgood, ih (hkeeps s a hs hgood) h.2⟩
  · intro h
    induction as generalizing s with
    | nil => exact hlaw s hs
    | cons a as ih => exact ⟨hlaw s hs, ih (hkeeps s a hs h.1) h.2⟩

/-- **The exact rule**: where a step keeps what holds exactly when the event
is good, a run does exactly when every event of it is. -/
theorem always_iff_each (hstep : ∀ s a, I s → (I (step s a) ↔ G s a))
    (hs : I s) (as : List α) : Always step I s as ↔ Each step G s as :=
  always_law_iff_each (fun _ h => h) (fun s a hs => (hstep s a hs).mpr)
    (fun s a hs => (hstep s a hs).mp) hs as

/-- Every event of a run is every event, after what came before it. -/
theorem each_iff {as : List α} :
    Each step G s as
      ↔ ∀ before a rest, as = before ++ a :: rest →
        G (Run.after step s before) a := by
  constructor
  · rintro h before a rest rfl
    exact (each_append.mp h).2.1
  · intro h
    induction as generalizing s with
    | nil => exact trivial
    | cons a as ih =>
      exact ⟨h [] a as rfl, ih fun before b rest he =>
        h (a :: before) b rest (congrArg (a :: ·) he)⟩

/-- Every state of a run is the one after each beginning of it. -/
theorem Always.before {before rest : List α}
    (h : Always step I s (before ++ rest)) : I (Run.after step s before) := by
  induction before generalizing s with
  | nil =>
    cases rest with
    | nil => exact h
    | cons a rest => exact h.1
  | cons a before ih => exact ih h.2

end Run
