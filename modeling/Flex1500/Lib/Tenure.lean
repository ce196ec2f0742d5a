import Mathlib.Data.List.ReduceOption
import Mathlib.Data.List.Nodup
import Mathlib.Data.List.Range
import Mathlib.Data.Nat.ModEq
import Flex1500.Lib.Path

/-!
# Tokens that are issued once

Whoever is handed a token holds it until it is taken back, and presents it to
be let in. The register knows the token in force, if there is one, and a
counter it draws the next from. As long as the counter does not come round, a
token is drawn once, and so a token that is no longer in force never is
again.

A **tenure** is such a register, seen in the states of a system. Its steps
draw a token or none; what is in force after a step was in force before, or
is the token just drawn. The order of the steps and what else they do is no
matter.
-/

variable {σ κ α : Type*}

/-- A register of tokens: the counter, the token in force, and how a counter
is drawn from. -/
structure Tenure (σ κ α : Type*) where
  next : σ → κ
  live : σ → Option α
  draw : κ → α × κ

namespace Tenure

variable {T : Tenure σ κ α} {s t u : σ} {as cs : List (Option α)}

/-- **A step of the register**, labelled with the token drawn. -/
inductive Step (T : Tenure σ κ α) : Option α → σ → σ → Prop where
  | keep {s t : σ} (hnext : T.next t = T.next s)
      (hlive : ∀ a ∈ T.live t, a ∈ T.live s) : Step T none s t
  | draw {s t : σ} (hnext : T.next t = (T.draw (T.next s)).2)
      (hlive : ∀ a ∈ T.live t,
        a ∈ T.live s ∨ a = (T.draw (T.next s)).1) :
      Step T (some (T.draw (T.next s)).1) s t

/-- A step may be followed by one that draws nothing. -/
theorem Step.trans_keep {a : Option α} (h : T.Step a s t)
    (hnext : T.next u = T.next t) (hlive : ∀ b ∈ T.live u, b ∈ T.live t) :
    T.Step a s u := by
  cases h with
  | keep hn hl => exact .keep (hnext.trans hn) fun b hb => hl b (hlive b hb)
  | draw hn hl => exact .draw (hnext.trans hn) fun b hb => hl b (hlive b hb)

/-- The first tokens drawn from a counter. -/
def draws (draw : κ → α × κ) : ℕ → κ → List α
  | 0, _ => []
  | n + 1, c => (draw c).1 :: draws draw n (draw c).2

/-- **A path draws from its counter**, one token after the other. -/
theorem reduceOption_eq_draws (p : LabelledPath T.Step as s t) :
    as.reduceOption = draws T.draw as.reduceOption.length (T.next s) := by
  induction p with
  | nil => rfl
  | cons h _ ih =>
    cases h with
    | keep hnext _ =>
      rw [List.reduceOption_cons_of_none, ← hnext]
      exact ih
    | draw hnext _ =>
      rw [List.reduceOption_cons_of_some, List.length_cons, draws, ← hnext]
      exact congrArg _ ih

/-- What is in force at the end of a path was in force at its beginning, or
was drawn on the way. -/
theorem mem_live (p : LabelledPath T.Step as s t) {a : α}
    (ha : a ∈ T.live t) : a ∈ T.live s ∨ a ∈ as.reduceOption := by
  induction p with
  | nil => exact Or.inl ha
  | cons h _ ih =>
    obtain hlive | hdrawn := ih ha
    · cases h with
      | keep _ hl => exact Or.inl (hl a hlive)
      | draw _ hl =>
        rw [List.reduceOption_cons_of_some]
        obtain h | rfl := hl a hlive
        · exact Or.inl h
        · exact Or.inr (List.mem_cons_self ..)
    · refine Or.inr (List.reduceOption_mem_iff.mpr ?_)
      exact List.mem_cons_of_mem _ (List.reduceOption_mem_iff.mp hdrawn)

/-- **Once gone, gone for good.** A token that was in force and is so no
longer is not in force ever after, as long as no token is drawn again. -/
theorem not_live_again (hvacant : T.live s = none) {v : σ}
    (p : LabelledPath T.Step as s t) (r : LabelledPath T.Step cs u v)
    (honce : as.reduceOption.Disjoint cs.reduceOption) {a : α}
    (ha : a ∈ T.live t) (hgone : a ∉ T.live u) : a ∉ T.live v := by
  intro hagain
  obtain hs | has := mem_live p ha
  · rw [hvacant] at hs
    exact absurd hs (Option.not_mem_none a)
  obtain hu | hcs := mem_live r hagain
  · exact hgone hu
  · -- drawn before it was in force, and once more after it was gone
    exact honce has hcs

/-! ## Counters that come round -/

/-- The ranks drawn from a counter that comes round after `m` of them. -/
theorem map_draws {draw : κ → α × κ} {rank : α → ℕ} {m : ℕ}
    (hnext : ∀ c, rank (draw (draw c).2).1 = rank (draw c).1 % m + 1)
    (hpos : ∀ c, 1 ≤ rank (draw c).1) (n : ℕ) (c : κ)
    (hle : rank (draw c).1 ≤ m) :
    (draws draw n c).map rank
      = (List.range n).map fun i => (rank (draw c).1 - 1 + i) % m + 1 := by
  induction n generalizing c with
  | zero => rfl
  | succ n ih =>
    have hr := hpos c
    have hm : 0 < m := by omega
    rw [draws, List.map_cons, List.range_succ_eq_map, List.map_cons,
      List.map_map, ih _ (by rw [hnext]; exact Nat.mod_lt _ hm), hnext]
    congr 1
    · rw [Nat.add_zero, Nat.mod_eq_of_lt (by omega)]
      omega
    · refine List.map_congr_left fun i _ => ?_
      simp only [Function.comp_apply, Nat.add_sub_cancel]
      rw [Nat.mod_add_mod]
      congr 2
      omega

/-- **A round draws no token twice.** -/
theorem nodup_draws {draw : κ → α × κ} {rank : α → ℕ} {m : ℕ}
    (hnext : ∀ c, rank (draw (draw c).2).1 = rank (draw c).1 % m + 1)
    (hpos : ∀ c, 1 ≤ rank (draw c).1) (hle : ∀ c, rank (draw c).1 ≤ m)
    {n : ℕ} (hn : n ≤ m) (c : κ) : (draws draw n c).Nodup := by
  refine List.Nodup.of_map rank ?_
  rw [map_draws hnext hpos n c (hle c)]
  refine List.Nodup.map_on (fun i hi j hj hij => ?_) List.nodup_range
  have hi := List.mem_range.mp hi
  have hj := List.mem_range.mp hj
  have hmod : Nat.ModEq m (rank (draw c).1 - 1 + i) (rank (draw c).1 - 1 + j) :=
    Nat.succ_injective hij
  exact (Nat.ModEq.add_left_cancel' _ hmod).eq_of_lt_of_lt (by omega)
    (by omega)

end Tenure
