import Mathlib.Logic.Function.Basic
import Mathlib.Data.List.Nodup
import Flex1500.Lib.Run

/-!
# Asynchronous requests

A program hands requests to a library, which calls back when they are done.
It allocates a request, submits it, may ask for it to be cancelled, and frees
it in the end. From a submission that was accepted to its callback the
request is **outstanding**, and belongs to the library.

What happened is a list of `RequestEvent`s, and which requests are
outstanding or exist is read off it, whatever the program believes: that is a
`RequestView`. The program for its part keeps a `RequestTable`: which
requests it holds, which it has marked as submitted, and how many of each
group it counts. The two are `Booked` where they agree.

The library is `Lawful` if it calls back outstanding requests only. The
program is `Sound` if it frees no outstanding request, cancels no missing one
and counts right. Between the two stands the wait for the last callbacks of a
group: it may have to be given up, and is `Drained` if nothing of the group
was outstanding by then. `RequestTable.Keeps` says of a stretch of events
that it was sound exactly if it was drained, and keeps what is booked if it
was; stretches compose.
-/

variable {ρ κ : Type*}

/-- How many requests of each group are counted, and how many are marked. -/
structure RequestBooks (κ : Type*) where
  active : κ → ℕ
  marked : κ → ℕ

/-- The books agree. -/
def RequestBooks.Balanced (books : RequestBooks κ) : Prop :=
  ∀ k, books.active k = books.marked k

/-- What happens to requests: they are allocated, submitted, called back, to
be cancelled and freed; the wait for a group is given up; and the books are
recorded. -/
inductive RequestEvent (ρ κ : Type*) where
  | allocate (r : ρ) (granted : Bool)
  | submit (r : ρ) (accepted : Bool)
  | callback (r : ρ)
  | cancel (r : ρ)
  | abandon (k : κ)
  | free (r : ρ)
  | record (books : RequestBooks κ)

/-- Requests in groups, each group a list of its requests. -/
class RequestGroups (ρ : Type*) (κ : outParam Type*) where
  group : ρ → κ
  members : κ → List ρ
  nodup_members : ∀ k, (members k).Nodup
  mem_members : ∀ {k r}, r ∈ members k ↔ group r = k

/-- What is the case of the requests. -/
structure RequestView (ρ : Type*) where
  outstanding : ρ → Bool := fun _ => false
  present : ρ → Bool := fun _ => false

namespace RequestView

variable [DecidableEq ρ]

/-- What one event changes. -/
def step (v : RequestView ρ) : RequestEvent ρ κ → RequestView ρ
  | .allocate r granted =>
    { v with present := Function.update v.present r granted }
  | .submit r true =>
    { v with outstanding := Function.update v.outstanding r true }
  | .callback r =>
    { v with outstanding := Function.update v.outstanding r false }
  | .free r => { v with present := Function.update v.present r false }
  | .submit _ false | .cancel _ | .abandon _ | .record _ => v

/-- **What the library promises**: it calls back a request that is
outstanding, hence once for each submission. -/
def Lawful (v : RequestView ρ) : RequestEvent ρ κ → Prop
  | .callback r => v.outstanding r = true
  | _ => True

/-- **What the program promises.** -/
def Sound (v : RequestView ρ) : RequestEvent ρ κ → Prop
  | .free r => v.outstanding r = false
  | .cancel r => v.present r = true
  | .record books => books.Balanced
  | _ => True

/-- **A wait given up in time**: nothing of the group was outstanding. -/
def Drained [RequestGroups ρ κ] (v : RequestView ρ) :
    RequestEvent ρ κ → Prop
  | .abandon k => ∀ r ∈ RequestGroups.members k, v.outstanding r = false
  | _ => True

instance decidableLawful (v : RequestView ρ) :
    ∀ e : RequestEvent ρ κ, Decidable (v.Lawful e)
  | .callback r => inferInstanceAs (Decidable (v.outstanding r = true))
  | .allocate .. | .submit .. | .cancel _ | .abandon _ | .free _ | .record _ =>
    .isTrue trivial

instance decidableSound [∀ books : RequestBooks κ, Decidable books.Balanced]
    (v : RequestView ρ) : ∀ e : RequestEvent ρ κ, Decidable (v.Sound e)
  | .free r => inferInstanceAs (Decidable (v.outstanding r = false))
  | .cancel r => inferInstanceAs (Decidable (v.present r = true))
  | .record books => inferInstanceAs (Decidable books.Balanced)
  | .allocate .. | .submit .. | .callback _ | .abandon _ => .isTrue trivial

instance decidableDrained [RequestGroups ρ κ] (v : RequestView ρ) :
    ∀ e : RequestEvent ρ κ, Decidable (v.Drained e)
  | .abandon k => inferInstanceAs
    (Decidable (∀ r ∈ RequestGroups.members k, v.outstanding r = false))
  | .allocate .. | .submit .. | .callback _ | .cancel _ | .free _ | .record _ =>
    .isTrue trivial

end RequestView

/-- What a program keeps of its requests. -/
@[ext] structure RequestTable (ρ κ : Type*) where
  held : ρ → Bool
  marked : ρ → Bool
  active : κ → ℕ

namespace RequestTable

open RequestView RequestGroups

variable [RequestGroups ρ κ]

/-- The books of a table. -/
def books (T : RequestTable ρ κ) : RequestBooks κ where
  active := T.active
  marked k := (members k).countP T.marked

section Changes

variable [DecidableEq ρ] [DecidableEq κ]

/-- The table with a request held. -/
def allocated (r : ρ) (T : RequestTable ρ κ) : RequestTable ρ κ :=
  { T with held := Function.update T.held r true }

/-- The table with a request marked and counted. -/
def submitted (r : ρ) (T : RequestTable ρ κ) : RequestTable ρ κ :=
  { T with
    marked := Function.update T.marked r true
    active := Function.update T.active (group r) (T.active (group r) + 1) }

/-- The table with a request no longer marked or counted. -/
def completed (r : ρ) (T : RequestTable ρ κ) : RequestTable ρ κ :=
  { T with
    marked := Function.update T.marked r false
    active := Function.update T.active (group r) (T.active (group r) - 1) }

/-- The table with nothing of a group in it. -/
def cleared (k : κ) (T : RequestTable ρ κ) : RequestTable ρ κ where
  held r := T.held r && decide (group r ≠ k)
  marked r := T.marked r && decide (group r ≠ k)
  active := Function.update T.active k 0

end Changes

/-! ## Counting marks -/

section Counting

variable [DecidableEq ρ]

omit [RequestGroups ρ κ] in
/-- A mark on something else is not counted. -/
theorem countP_update_of_notMem {l : List ρ} {r : ρ} (h : r ∉ l)
    (f : ρ → Bool) (b : Bool) :
    l.countP (Function.update f r b) = l.countP f :=
  List.countP_congr fun x hx => by
    rw [Function.update_of_ne (ne_of_mem_of_not_mem hx h)]

omit [RequestGroups ρ κ] in
/-- One more mark is one more counted. -/
theorem countP_update_true {l : List ρ} {r : ρ} (hl : l.Nodup) (hr : r ∈ l)
    {f : ρ → Bool} (hf : f r = false) :
    l.countP (Function.update f r true) = l.countP f + 1 := by
  induction l with
  | nil => exact absurd hr List.not_mem_nil
  | cons x l ih =>
    obtain ⟨hx, hl⟩ := List.nodup_cons.mp hl
    rw [List.countP_cons, List.countP_cons]
    obtain rfl | hr := List.mem_cons.mp hr
    · rw [countP_update_of_notMem hx, Function.update_self, hf]
      rfl
    · rw [ih hl hr, Function.update_of_ne (ne_of_mem_of_not_mem hr hx).symm,
        Nat.add_right_comm]

omit [RequestGroups ρ κ] in
/-- One mark less is one less counted. -/
theorem countP_update_false {l : List ρ} {r : ρ} (hl : l.Nodup) (hr : r ∈ l)
    {f : ρ → Bool} (hf : f r = true) :
    l.countP (Function.update f r false) = l.countP f - 1 := by
  have h := countP_update_true (f := Function.update f r false) hl hr
    (Function.update_self ..)
  rw [Function.update_idem, ← hf, Function.update_eq_self] at h
  rw [h, Nat.add_sub_cancel]

end Counting

variable {T T' T'' : RequestTable ρ κ} {r : ρ} {k : κ}

section Balance

variable [DecidableEq ρ] [DecidableEq κ]

/-- Marking and counting a request keeps the books. -/
theorem balanced_submitted (h : T.books.Balanced) (hr : T.marked r = false) :
    (T.submitted r).books.Balanced := by
  intro k
  show Function.update T.active (group r) (T.active (group r) + 1) k
    = (members k).countP (Function.update T.marked r true)
  obtain rfl | hk := eq_or_ne (group r) k
  · rw [Function.update_self, countP_update_true (nodup_members _)
      (mem_members.mpr rfl) hr]
    exact congrArg (· + 1) (h (group r))
  · rw [Function.update_of_ne hk.symm,
      countP_update_of_notMem (mt mem_members.mp hk)]
    exact h k

/-- So does taking both back. -/
theorem balanced_completed (h : T.books.Balanced) (hr : T.marked r = true) :
    (T.completed r).books.Balanced := by
  intro k
  show Function.update T.active (group r) (T.active (group r) - 1) k
    = (members k).countP (Function.update T.marked r false)
  obtain rfl | hk := eq_or_ne (group r) k
  · rw [Function.update_self, countP_update_false (nodup_members _)
      (mem_members.mpr rfl) hr]
    exact congrArg (· - 1) (h (group r))
  · rw [Function.update_of_ne hk.symm,
      countP_update_of_notMem (mt mem_members.mp hk)]
    exact h k

omit [DecidableEq ρ] [DecidableEq κ] in
/-- Nothing counted is nothing marked. -/
theorem active_eq_zero_iff (h : T.books.Balanced) :
    T.active k = 0 ↔ ∀ r ∈ members k, T.marked r = false := by
  rw [show T.active k = (members k).countP T.marked from h k,
    List.countP_eq_zero]
  simp only [Bool.not_eq_true]

omit [DecidableEq ρ] in
/-- A group is cleared of marks and of its count at once. -/
theorem balanced_cleared (h : T.books.Balanced) :
    (T.cleared k).books.Balanced := by
  intro j
  show Function.update T.active k 0 j = (members j).countP (T.cleared k).marked
  obtain rfl | hj := eq_or_ne j k
  · rw [Function.update_self, eq_comm, List.countP_eq_zero]
    intro r hr
    simp [cleared, mem_members.mp hr]
  · rw [Function.update_of_ne hj]
    refine (h j).trans (List.countP_congr fun r hr => ?_)
    simp [cleared, mem_members.mp hr, hj]

end Balance

/-! ## What is booked -/

/-- **The table is right**: marked is what is outstanding, that exists and is
held, and the books agree. -/
structure Booked (v : RequestView ρ) (T : RequestTable ρ κ) : Prop where
  outstanding : v.outstanding = T.marked
  present : ∀ r, T.marked r = true → v.present r = true
  held : ∀ r, T.marked r = true → T.held r = true
  balanced : T.books.Balanced

namespace Booked

variable {v : RequestView ρ}

theorem unmarked (h : Booked v T) (hr : T.held r = false) :
    T.marked r = false :=
  Bool.eq_false_iff.mpr fun hm => by simp [h.held r hm] at hr

variable [DecidableEq ρ]

/-- A request that is not marked may be allocated. -/
theorem allocate (h : Booked v T) (hr : T.marked r = false) (granted : Bool) :
    Booked (v.step (.allocate r granted : RequestEvent ρ κ)) T where
  outstanding := h.outstanding
  present x hx := by
    have hne : x ≠ r := fun he =>
      Bool.false_ne_true (hr.symm.trans ((congrArg T.marked he).symm.trans hx))
    exact (Function.update_of_ne hne ..).trans (h.present x hx)
  held := h.held
  balanced := h.balanced

/-- To hold one more request is no matter. -/
theorem hold (h : Booked v T) (r : ρ) : Booked v (T.allocated r) where
  outstanding := h.outstanding
  present := h.present
  held x hx := by
    obtain rfl | hne := eq_or_ne x r
    · exact Function.update_self ..
    · exact (Function.update_of_ne hne ..).trans (h.held x hx)
  balanced := h.balanced

variable [DecidableEq κ]

/-- A submission that was accepted is booked by a mark. -/
theorem submit (h : Booked v T) (hr : T.marked r = false)
    (hheld : T.held r = true) (hpresent : v.present r = true) :
    Booked (v.step (.submit r true : RequestEvent ρ κ)) (T.submitted r) where
  outstanding := by
    show Function.update v.outstanding r true = Function.update T.marked r true
    rw [h.outstanding]
  present x hx := by
    obtain rfl | hne := eq_or_ne x r
    · exact hpresent
    · exact h.present x ((Function.update_of_ne hne ..).symm.trans hx)
  held x hx := by
    obtain rfl | hne := eq_or_ne x r
    · exact hheld
    · exact h.held x ((Function.update_of_ne hne ..).symm.trans hx)
  balanced := balanced_submitted h.balanced hr

/-- A callback is booked by taking the mark back. -/
theorem callback (h : Booked v T) (hr : T.marked r = true) :
    Booked (v.step (.callback r : RequestEvent ρ κ)) (T.completed r) where
  outstanding := by
    show Function.update v.outstanding r false
      = Function.update T.marked r false
    rw [h.outstanding]
  present x hx := by
    obtain rfl | hne := eq_or_ne x r
    · exact h.present x hr
    · exact h.present x ((Function.update_of_ne hne ..).symm.trans hx)
  held x hx := by
    obtain rfl | hne := eq_or_ne x r
    · exact h.held x hr
    · exact h.held x ((Function.update_of_ne hne ..).symm.trans hx)
  balanced := balanced_completed h.balanced hr

omit [DecidableEq κ] in
/-- What is not marked may be freed. -/
theorem free (h : Booked v T) {l : List ρ}
    (hl : ∀ r ∈ l, T.marked r = false) :
    Booked (Run.after step v (l.map (.free : ρ → RequestEvent ρ κ))) T := by
  induction l generalizing v with
  | nil => exact h
  | cons r l ih =>
    refine ih ⟨h.outstanding, fun x hx => ?_, h.held, h.balanced⟩ fun x hx =>
      hl x (List.mem_cons_of_mem _ hx)
    have hne : x ≠ r := fun he =>
      Bool.false_ne_true ((hl r (List.mem_cons_self ..)).symm.trans
        ((congrArg T.marked he).symm.trans hx))
    exact (Function.update_of_ne hne ..).trans (h.present x hx)

omit [DecidableEq ρ] [DecidableEq κ] in
/-- Where nothing is marked, any table with nothing in it is right. -/
theorem empty (h : Booked v T) (hmarked : ∀ r, T.marked r = false)
    (hmarked' : ∀ r, T'.marked r = false) (hactive : ∀ k, T'.active k = 0) :
    Booked v T' where
  outstanding := by
    rw [h.outstanding]
    funext r
    exact (hmarked r).trans (hmarked' r).symm
  present r hr := absurd (hmarked' r) (by rw [hr]; exact Bool.noConfusion)
  held r hr := absurd (hmarked' r) (by rw [hr]; exact Bool.noConfusion)
  balanced k := (hactive k).trans (List.countP_eq_zero.mpr fun r _ => by
    rw [hmarked' r]
    exact Bool.false_ne_true).symm

omit [DecidableEq ρ] in
/-- A group without marks may be cleared. -/
theorem clear (h : Booked v T) (hk : ∀ r ∈ members k, T.marked r = false) :
    Booked v (T.cleared k) where
  outstanding := by
    rw [h.outstanding]
    funext r
    show T.marked r = (T.marked r && decide (group r ≠ k))
    by_cases hr : group r = k
    · rw [hk r (mem_members.mpr hr), Bool.false_and]
    · rw [decide_eq_true hr, Bool.and_true]
  present r hr := h.present r (Bool.and_eq_true_iff.mp hr).1
  held r hr :=
    have hr := Bool.and_eq_true_iff.mp hr
    Bool.and_eq_true_iff.mpr ⟨h.held r hr.1, hr.2⟩
  balanced := balanced_cleared h.balanced

end Booked

variable [DecidableEq ρ]

omit [RequestGroups ρ κ] in
/-- Freeing is sound where nothing freed is outstanding. -/
theorem each_sound_free {v : RequestView ρ} {l : List ρ} :
    Run.Each step Sound v (l.map (.free : ρ → RequestEvent ρ κ))
      ↔ ∀ r ∈ l, v.outstanding r = false := by
  induction l generalizing v with
  | nil => exact ⟨fun _ _ h => absurd h List.not_mem_nil, fun _ => trivial⟩
  | cons r l ih =>
    rw [List.map_cons, Run.each_cons, ih, List.forall_mem_cons]
    exact Iff.rfl

/-! ## Stretches -/

/-- **A stretch that keeps the books**: with a lawful library it is sound,
gives up no wait too early, and leaves the table right. -/
def Keeps (T : RequestTable ρ κ) (es : List (RequestEvent ρ κ))
    (T' : RequestTable ρ κ) : Prop :=
  ∀ v : RequestView ρ, Booked v T → Run.Each step Lawful v es →
    Run.Each step Sound v es ∧ Run.Each step Drained v es
      ∧ Booked (Run.after step v es) T'

/-- **A wait for a group**: it is sound and leaves the table right, and it is
given up in time exactly if no mark is left. -/
def Drains (k : κ) (T : RequestTable ρ κ) (es : List (RequestEvent ρ κ))
    (T' : RequestTable ρ κ) : Prop :=
  ∀ v : RequestView ρ, Booked v T → Run.Each step Lawful v es →
    Run.Each step Sound v es ∧ Booked (Run.after step v es) T'
      ∧ (Run.Each step Drained v es ↔ ∀ r ∈ members k, T'.marked r = false)

/-- **A stretch that settles**: it is sound exactly if no wait in it was given
up too early, and leaves the table right then. -/
def Settles (T : RequestTable ρ κ) (es : List (RequestEvent ρ κ))
    (T' : RequestTable ρ κ) : Prop :=
  ∀ v : RequestView ρ, Booked v T → Run.Each step Lawful v es →
    (Run.Each step Sound v es ↔ Run.Each step Drained v es)
      ∧ (Run.Each step Drained v es → Booked (Run.after step v es) T')

variable {es fs : List (RequestEvent ρ κ)}

theorem Keeps.settles (h : Keeps T es T') : Settles T es T' := by
  intro v hv hlawful
  obtain ⟨hsound, hdrained, hbooked⟩ := h v hv hlawful
  exact ⟨⟨fun _ => hdrained, fun _ => hsound⟩, fun _ => hbooked⟩

theorem keeps_nil (T : RequestTable ρ κ) : Keeps T [] T :=
  fun _ hv _ => ⟨trivial, trivial, hv⟩

theorem Keeps.append (h : Keeps T es T') (h' : Keeps T' fs T'') :
    Keeps T (es ++ fs) T'' := by
  intro v hv hlawful
  rw [Run.each_append] at hlawful
  obtain ⟨hsound, hdrained, hbooked⟩ := h v hv hlawful.1
  obtain ⟨hsound', hdrained', hbooked'⟩ := h' _ hbooked hlawful.2
  rw [Run.each_append, Run.each_append, Run.after_append]
  exact ⟨⟨hsound, hsound'⟩, ⟨hdrained, hdrained'⟩, hbooked'⟩

theorem Settles.append (h : Settles T es T') (h' : Settles T' fs T'') :
    Settles T (es ++ fs) T'' := by
  intro v hv hlawful
  rw [Run.each_append] at hlawful
  obtain ⟨hiff, hbooked⟩ := h v hv hlawful.1
  have hlater (hdrained : Run.Each step Drained v es) :=
    h' _ (hbooked hdrained) hlawful.2
  rw [Run.each_append, Run.each_append, Run.after_append]
  refine ⟨⟨fun hs => ?_, fun hd => ?_⟩, fun hd => (hlater hd.1).2 hd.2⟩
  · exact ⟨hiff.mp hs.1, (hlater (hiff.mp hs.1)).1.mp hs.2⟩
  · exact ⟨hiff.mpr hd.1, (hlater hd.1).1.mpr hd.2⟩

/-- What is done before a wait does not matter to it. -/
theorem Keeps.drains (h : Keeps T es T') (h' : Drains k T' fs T'') :
    Drains k T (es ++ fs) T'' := by
  intro v hv hlawful
  rw [Run.each_append] at hlawful
  obtain ⟨hsound, hdrained, hbooked⟩ := h v hv hlawful.1
  obtain ⟨hsound', hbooked', hiff⟩ := h' _ hbooked hlawful.2
  rw [Run.each_append, Run.each_append, Run.after_append]
  exact ⟨⟨hsound, hsound'⟩, hbooked', ⟨fun hd => hiff.mp hd.2,
    fun hm => ⟨hdrained, hiff.mpr hm⟩⟩⟩

/-- A wait that is over as it begins. -/
theorem drains_nil
    (h : ∀ v, Booked v T → ∀ r ∈ members k, T.marked r = false) :
    Drains k T [] T :=
  fun v hv _ => ⟨trivial, hv, ⟨fun _ => h v hv, fun _ => trivial⟩⟩

/-- A wait that is given up. -/
theorem drains_abandon (k : κ) (T : RequestTable ρ κ) :
    Drains k T [.abandon k] T := by
  intro v hv _
  refine ⟨⟨trivial, trivial⟩, hv, ?_⟩
  show (∀ r ∈ members k, v.outstanding r = false) ∧ True ↔ _
  rw [hv.outstanding, and_true]

/-- Cancelling what is marked changes nothing. -/
theorem keeps_cancel {l : List ρ} (hl : ∀ r ∈ l, T.marked r = true) :
    Keeps T (l.map .cancel) T := by
  intro v hv hlawful
  induction l with
  | nil => exact ⟨trivial, trivial, hv⟩
  | cons r l ih =>
    obtain ⟨hsound, hdrained, hbooked⟩ :=
      ih (fun x hx => hl x (List.mem_cons_of_mem _ hx)) hlawful.2
    exact ⟨⟨hv.present r (hl r (List.mem_cons_self ..)), hsound⟩,
      ⟨trivial, hdrained⟩, hbooked⟩

/-- The books of a table that is right agree. -/
theorem keeps_record (T : RequestTable ρ κ) : Keeps T [.record T.books] T :=
  fun _ hv _ => ⟨⟨hv.balanced, trivial⟩, ⟨trivial, trivial⟩, hv⟩

/-- A request for which there was no memory. -/
theorem keeps_refused (hr : T.held r = false) :
    Keeps T [.allocate r false] T :=
  fun _ hv _ => ⟨⟨trivial, trivial⟩, ⟨trivial, trivial⟩,
    hv.allocate (hv.unmarked hr) false⟩

/-- It may be held all the same. -/
theorem Keeps.hold (h : Keeps T es T') (r : ρ) :
    Keeps T es (T'.allocated r) := by
  intro v hv hlawful
  obtain ⟨hsound, hdrained, hbooked⟩ := h v hv hlawful
  exact ⟨hsound, hdrained, hbooked.hold r⟩

/-- A request is allocated and submitted. -/
theorem keeps_allocate_submit [DecidableEq κ] (hr : T.held r = false)
    (accepted : Bool) :
    Keeps T [.allocate r true, .submit r accepted]
      (if accepted then (T.allocated r).submitted r else T.allocated r) := by
  intro v hv _
  have hallocated := (hv.allocate (hv.unmarked hr) true).hold r
  refine ⟨⟨trivial, trivial, trivial⟩, ⟨trivial, trivial, trivial⟩, ?_⟩
  cases accepted with
  | false => exact hallocated
  | true =>
    exact hallocated.submit (hv.unmarked hr) (Function.update_self ..)
      (Function.update_self ..)

/-- A callback. -/
theorem keeps_callback [DecidableEq κ] (r : ρ) :
    Keeps T [.callback r] (T.completed r) := by
  intro v hv hlawful
  have hr : T.marked r = true := hv.outstanding ▸ hlawful.1
  exact ⟨⟨trivial, trivial⟩, ⟨trivial, trivial⟩, hv.callback hr⟩

/-- A callback that submits the request again. -/
theorem keeps_resubmit [DecidableEq κ] (r : ρ) (accepted : Bool) :
    Keeps T [.callback r, .submit r accepted]
      (if accepted then (T.completed r).submitted r else T.completed r) := by
  intro v hv hlawful
  have hr : T.marked r = true := hv.outstanding ▸ hlawful.1
  refine ⟨⟨trivial, trivial, trivial⟩, ⟨trivial, trivial, trivial⟩, ?_⟩
  cases accepted with
  | false => exact hv.callback hr
  | true =>
    exact (hv.callback hr).submit (Function.update_self ..) (hv.held r hr)
      (hv.present r hr)

/-- **A group is freed after the wait for it.** That settles, however the wait
ended: freed is what was held, and held is what may still be outstanding. -/
theorem Drains.release (h : Drains k T es T') {l : List ρ}
    (hl : ∀ r ∈ l, r ∈ members k)
    (hheld : ∀ r ∈ members k, T'.held r = true → r ∈ l)
    (hnext : ∀ v, Booked v T' → (∀ r ∈ members k, T'.marked r = false) →
      Booked v T'') :
    Settles T (es ++ l.map .free ++ [.record T''.books]) T'' := by
  intro v hv hlawful
  rw [Run.each_append, Run.each_append] at hlawful
  obtain ⟨hsound, hbooked, hiff⟩ := h v hv hlawful.1.1
  have hfree : Run.Each step Sound (Run.after step v es)
        (l.map (.free : ρ → RequestEvent ρ κ))
      ↔ ∀ r ∈ members k, T'.marked r = false := by
    rw [each_sound_free, hbooked.outstanding]
    refine ⟨fun hm r hr => ?_, fun hm r hr => hm r (hl r hr)⟩
    by_contra hmarked
    rw [Bool.not_eq_false] at hmarked
    exact Bool.false_ne_true
      ((hm r (hheld r hr (hbooked.held r hmarked))).symm.trans hmarked)
  have hdone (hm : ∀ r ∈ members k, T'.marked r = false) :
      Booked (Run.after step (Run.after step v es)
        (l.map (.free : ρ → RequestEvent ρ κ))) T'' :=
    hnext _ (hbooked.free fun r hr => hm r (hl r hr)) hm
  have hdrain (w : RequestView ρ) :
      Run.Each step Drained w (l.map (.free : ρ → RequestEvent ρ κ)) :=
    Run.each_of_forall fun e he w => by
      obtain ⟨r, -, rfl⟩ := List.mem_map.mp he
      trivial
  simp only [Run.each_append, Run.after_append]
  refine ⟨⟨fun hs => ?_, fun hd => ?_⟩, fun hd => hdone (hiff.mp hd.1.1)⟩
  · exact ⟨⟨hiff.mpr (hfree.mp hs.1.2), hdrain _⟩, trivial, trivial⟩
  · have hm := hiff.mp hd.1.1
    exact ⟨⟨hsound, hfree.mpr hm⟩, (hdone hm).balanced, trivial⟩

end RequestTable
