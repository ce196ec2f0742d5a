import Mathlib.Data.List.Basic

/-!
# Exclusive holders and their traces

A resource is granted to one holder at a time. Granting it runs a *start*
and taking it back runs a *stop*, each of which may fail; whoever keeps the
resource honest wants to know which sequences of starts and stops can be
observed at all.

`Phase.next` is the discipline as an automaton. A start that succeeds opens
a use, which only a stop of the same holder closes. A start that fails must
be followed at once by a stop of the same holder, and leaves the resource
faulted; so does a stop that fails. A faulted resource accepts nothing: it
has to be built anew.

Two consequences of acceptance are what the callers want.
`Phase.exists_blocks` reads an accepted trace as a sequence of complete
uses and aborted starts, followed by at most one open use, and
`Phase.not_isStart_of_failed` says that no start follows a failure. The
outcomes of a start and of a stop are arbitrary types with a test for
success, since what a caller records there is its own business.
-/

namespace Exclusive

variable {α ρ σ : Type}

/-- A start or a stop of the resource, with the holder it was for and what
came back. -/
inductive Event (α ρ σ : Type) where
  | start (holder : α) (outcome : ρ)
  | stop (holder : α) (outcome : σ)
  deriving DecidableEq

/-- Whether the event is a start. -/
def Event.isStart : Event α ρ σ → Bool
  | .start _ _ => true
  | .stop _ _ => false

/-- The holder the event is for. -/
def Event.holder : Event α ρ σ → α
  | .start a _ => a
  | .stop a _ => a

/-- Where the resource stands between two events. -/
inductive Phase (α : Type) where
  | idle
  | held (holder : α)
  | aborting (holder : α)
  | faulted
  deriving DecidableEq

variable (okStart : ρ → Bool) (okStop : σ → Bool)

/-- Whether the event reports a failure. -/
def Event.failed : Event α ρ σ → Bool
  | .start _ r => !okStart r
  | .stop _ s => !okStop s

namespace Phase

variable [DecidableEq α]

/-- **The discipline.** What an event makes of a phase, if it is allowed
there at all. -/
def next : Phase α → Event α ρ σ → Option (Phase α)
  | .idle, .start a r => some (if okStart r then .held a else .aborting a)
  | .held a, .stop b s =>
    if a = b then some (if okStop s then .idle else .faulted) else none
  | .aborting a, .stop b _ => if a = b then some .faulted else none
  | .idle, .stop _ _ => none
  | .held _, .start _ _ => none
  | .aborting _, .start _ _ => none
  | .faulted, _ => none

/-- What a whole trace makes of a phase. -/
def run : Phase α → List (Event α ρ σ) → Option (Phase α)
  | p, [] => some p
  | p, e :: es => (p.next okStart okStop e).bind (fun q => q.run es)

@[simp] theorem run_nil (p : Phase α) :
    p.run okStart okStop ([] : List (Event α ρ σ)) = some p := rfl

@[simp] theorem run_cons (p : Phase α) (e : Event α ρ σ)
    (es : List (Event α ρ σ)) :
    p.run okStart okStop (e :: es)
      = (p.next okStart okStop e).bind (fun q => q.run okStart okStop es) :=
  rfl

/-- A trace in two parts is run in two parts. -/
theorem run_append (p : Phase α) (es fs : List (Event α ρ σ)) :
    p.run okStart okStop (es ++ fs)
      = (p.run okStart okStop es).bind
        (fun q => q.run okStart okStop fs) := by
  induction es generalizing p with
  | nil => rfl
  | cons e es ih =>
    rw [List.cons_append, run_cons, run_cons]
    cases p.next okStart okStop e with
    | none => rfl
    | some q => exact ih q

/-- Running on from where a trace ended. -/
theorem run_append_of_eq {p q : Phase α} {es fs : List (Event α ρ σ)}
    (h : p.run okStart okStop es = some q) :
    p.run okStart okStop (es ++ fs) = q.run okStart okStop fs := by
  rw [run_append, h, Option.bind_some]

end Phase

/-! ## Blocks -/

/-- A closed stretch of a trace: a use that was opened and closed, or a
start that failed and was cleaned up after. -/
inductive Block (α ρ σ : Type) where
  | use (holder : α) (opened : ρ) (closed : σ)
  | abort (holder : α) (refused : ρ) (cleaned : σ)

/-- The two events of a block, for one holder. -/
def Block.events : Block α ρ σ → List (Event α ρ σ)
  | .use a r s => [.start a r, .stop a s]
  | .abort a r s => [.start a r, .stop a s]

/-- A block tells the truth about its start: a use opened, an abort did
not. -/
def Block.Sound : Block α ρ σ → Prop
  | .use _ r _ => okStart r = true
  | .abort _ r _ => okStart r = false

/-- The events of a phase still open: the start whose stop has not come. -/
def Phase.Open (p : Phase α) (es : List (Event α ρ σ)) : Prop :=
  match p with
  | .idle => es = []
  | .held a => ∃ r, okStart r = true ∧ es = [.start a r]
  | .aborting a => ∃ r, okStart r = false ∧ es = [.start a r]
  | .faulted => es = []

namespace Phase

variable [DecidableEq α]

/-- A trace run from an open phase, with the events that opened it put back
in front, is blocks followed by what is open at the end. -/
theorem exists_blocks_of_open {p q : Phase α} {es opened : List (Event α ρ σ)}
    (ho : p.Open okStart opened) (h : p.run okStart okStop es = some q) :
    ∃ (blocks : List (Block α ρ σ)) (rest : List (Event α ρ σ)),
      (∀ b ∈ blocks, b.Sound okStart) ∧ q.Open okStart rest
        ∧ opened ++ es = blocks.flatMap Block.events ++ rest := by
  induction es generalizing p opened with
  | nil =>
    obtain rfl := Option.some.inj h
    exact ⟨[], opened, by simp, ho, by simp⟩
  | cons e es ih =>
    rw [run_cons] at h
    -- the phase decides which events can come first
    match p, e, ho, h with
    | .idle, .start a r, ho, h =>
      have hopen : (if okStart r then held a else aborting a).Open okStart
          ([.start a r] : List (Event α ρ σ)) := by
        cases hr : okStart r with
        | true => exact ⟨r, hr, rfl⟩
        | false => exact ⟨r, hr, rfl⟩
      obtain ⟨blocks, rest, hs, hq, heq⟩ := ih hopen h
      refine ⟨blocks, rest, hs, hq, ?_⟩
      rw [show opened = [] from ho]
      exact heq
    | .held a, .stop b s, ho, h =>
      obtain ⟨r, hr, rfl⟩ := ho
      by_cases hab : a = b
      · subst hab
        simp only [next] at h
        have hopen : (if okStop s then idle else faulted : Phase α).Open okStart
            ([] : List (Event α ρ σ)) := by
          cases okStop s <;> rfl
        obtain ⟨blocks, rest, hs, hq, heq⟩ := ih hopen h
        refine ⟨.use a r s :: blocks, rest, ?_, hq, ?_⟩
        · intro b hb
          rcases List.mem_cons.mp hb with rfl | hb
          · exact hr
          · exact hs b hb
        · rw [List.nil_append] at heq
          rw [heq]
          rfl
      · simp [next, hab] at h
    | .aborting a, .stop b s, ho, h =>
      obtain ⟨r, hr, rfl⟩ := ho
      by_cases hab : a = b
      · subst hab
        simp only [next] at h
        obtain ⟨blocks, rest, hs, hq, heq⟩ := ih (p := .faulted) rfl h
        refine ⟨.abort a r s :: blocks, rest, ?_, hq, ?_⟩
        · intro b hb
          rcases List.mem_cons.mp hb with rfl | hb
          · exact hr
          · exact hs b hb
        · rw [List.nil_append] at heq
          rw [heq]
          rfl
      · simp [next, hab] at h
    | .idle, .stop _ _, _, h => simp [next] at h
    | .held _, .start _ _, _, h => simp [next] at h
    | .aborting _, .start _ _, _, h => simp [next] at h
    | .faulted, _, _, h => simp [next] at h

/-- **An accepted trace is a sequence of blocks**, followed by what is open
where it ends. -/
theorem exists_blocks {q : Phase α} {es : List (Event α ρ σ)}
    (h : (idle : Phase α).run okStart okStop es = some q) :
    ∃ (blocks : List (Block α ρ σ)) (rest : List (Event α ρ σ)),
      (∀ b ∈ blocks, b.Sound okStart) ∧ q.Open okStart rest
        ∧ es = blocks.flatMap Block.events ++ rest := by
  have hopen : (idle : Phase α).Open okStart ([] : List (Event α ρ σ)) := rfl
  exact exists_blocks_of_open okStart okStop hopen h

/-! ## After a failure -/

/-- A failing event leaves the phase aborting or faulted. -/
theorem next_of_failed {p q : Phase α} {e : Event α ρ σ}
    (hf : e.failed okStart okStop = true)
    (h : p.next okStart okStop e = some q) :
    (∃ a, q = .aborting a) ∨ q = .faulted := by
  match p, e, hf, h with
  | .idle, .start a r, hf, h =>
    have hr : okStart r = false := by simpa [Event.failed] using hf
    simp only [next, hr] at h
    exact Or.inl ⟨a, (Option.some.inj h).symm⟩
  | .held a, .stop b s, hf, h =>
    have hs : okStop s = false := by simpa [Event.failed] using hf
    by_cases hab : a = b
    · simp only [next, if_pos hab, hs] at h
      exact Or.inr (Option.some.inj h).symm
    · simp [next, hab] at h
  | .aborting a, .stop b s, _, h =>
    by_cases hab : a = b
    · simp only [next, if_pos hab] at h
      exact Or.inr (Option.some.inj h).symm
    · simp [next, hab] at h
  | .idle, .stop _ _, _, h => simp [next] at h
  | .held _, .start _ _, _, h => simp [next] at h
  | .aborting _, .start _ _, _, h => simp [next] at h
  | .faulted, _, _, h => simp [next] at h

/-- From an aborting or faulted phase no start is accepted. -/
theorem not_isStart_of_stuck {p q : Phase α} {es : List (Event α ρ σ)}
    (hp : (∃ a, p = .aborting a) ∨ p = .faulted)
    (h : p.run okStart okStop es = some q) :
    ∀ e ∈ es, e.isStart = false := by
  induction es generalizing p with
  | nil => simp
  | cons e es ih =>
    rw [run_cons] at h
    match p, e, hp, h with
    | .aborting a, .stop b s, _, h =>
      by_cases hab : a = b
      · simp only [next, if_pos hab, Option.bind_some] at h
        intro e he
        rcases List.mem_cons.mp he with rfl | he
        · rfl
        · exact ih (p := .faulted) (Or.inr rfl) h e he
      · simp [next, hab] at h
    | .aborting _, .start _ _, _, h => simp [next] at h
    | .faulted, _, _, h => simp [next] at h
    | .idle, _, hp, _ => simp at hp
    | .held _, _, hp, _ => simp at hp

/-- **No start follows a failure** in an accepted trace. -/
theorem not_isStart_of_failed {p q : Phase α} {pre post : List (Event α ρ σ)}
    {e : Event α ρ σ} (hf : e.failed okStart okStop = true)
    (h : p.run okStart okStop (pre ++ e :: post) = some q) :
    ∀ e' ∈ post, e'.isStart = false := by
  rw [run_append] at h
  obtain ⟨r, -, h⟩ := Option.bind_eq_some_iff.mp h
  rw [run_cons] at h
  obtain ⟨r', hr', h⟩ := Option.bind_eq_some_iff.mp h
  exact not_isStart_of_stuck okStart okStop
    (next_of_failed okStart okStop hf hr') h

/-- **A failed start is cleaned up at once**, in any stretch of the trace
that does not end on the failed start itself. -/
theorem stop_of_failed_start {p q : Phase α} {pre post : List (Event α ρ σ)}
    {a : α} {r : ρ} (hr : okStart r = false) (hq : ∀ b, q ≠ .aborting b)
    (h : p.run okStart okStop (pre ++ .start a r :: post) = some q) :
    ∃ s, post = [.stop a s] := by
  rw [run_append] at h
  obtain ⟨p', -, h⟩ := Option.bind_eq_some_iff.mp h
  match p', h with
  | .idle, h =>
    simp only [run_cons, next, hr] at h
    match post, h with
    | [], h => exact absurd (Option.some.inj h).symm (hq a)
    | .stop b s :: [], h =>
      by_cases hab : a = b
      · exact ⟨s, by rw [hab]⟩
      · simp [next, hab] at h
    | .stop b s :: e :: post, h =>
      by_cases hab : a = b <;> simp [next, hab] at h
    | .start b s :: post, h => simp [next] at h
  | .held _, h => simp [next] at h
  | .aborting _, h => simp [next] at h
  | .faulted, h => simp [next] at h

end Phase

end Exclusive
