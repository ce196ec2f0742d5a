import Mathlib.Data.List.Basic
import Flex1500.Lib.Path
import Flex1500.Lib.Ring

/-!
# The audio ring of the companion

`audio_ring.cpp` passes samples from one thread to another without a lock.
The producer writes slots behind the write index and the consumer reads slots
from the read index on, each on a copy of the other's index that it loaded at
the beginning of its call and that grows old while it works.

The two threads take turns in any order. A step is one load or store of an
index, one addition to a counter, or one access to a slot; what is computed
between two of these nobody else can see. A slot that is not there cannot be
accessed, so a step that would leave the array is not possible.

The samples ever accepted are numbered, and the proof counts where the code
takes remainders: indices are numbers modulo the size of the array, which
tells them apart because no two in use are a whole turn from each other.
-/

variable {α : Type*}

/-! ## The two threads -/

/-- Where the producer is in `AudioRing::push`. -/
inductive AudioRingPush (α : Type*) where
  | idle
  /-- In front of the load of the read index. -/
  | loadRead (samples : List α)
  /-- In front of the load of the write index. -/
  | loadWrite (samples : List α) (read : ℕ)
  /-- At the head of the loop, with the samples left. -/
  | loop (rest : List α) (read write : ℕ)
  /-- In front of the addition to the dropped samples. -/
  | count (left : ℕ)
  deriving DecidableEq, Repr

/-- Where the consumer is in `AudioRing::pop` or `AudioRing::clear`. -/
inductive AudioRingPop where
  | idle
  /-- In front of the load of the read index. -/
  | loadRead (count : ℕ)
  /-- In front of the load of the write index. -/
  | loadWrite (count read : ℕ)
  /-- At the head of the loop, with so many samples left to produce. -/
  | loop (left read write : ℕ)
  /-- In front of the addition to the underruns. -/
  | count (left : ℕ)
  /-- In front of the load in `clear`. -/
  | clearLoad
  /-- In front of the store in `clear`. -/
  | clearStore (write : ℕ)
  deriving DecidableEq, Repr

/-- What the consumer has done to the samples: one read out of its slot, or
all dropped that were published when `clear` looked. -/
inductive AudioRingEvent (α : Type*) where
  | popped (sample : α)
  | cleared (upTo : ℕ)
  deriving DecidableEq, Repr

/-- The ring (`AudioRing`), with both threads.

The last five fields are not in the code, and no step depends on them: the
samples accepted so far, how many of them the write index was stored behind,
how many samples all pushes brought, how many had been published when `clear`
last looked, and what the consumer did. -/
structure AudioRing (α : Type*) where
  samples : List α
  read : ℕ := 0
  write : ℕ := 0
  dropped : UInt64 := 0
  underruns : UInt64 := 0
  producer : AudioRingPush α := .idle
  consumer : AudioRingPop := .idle
  accepted : List α := []
  published : ℕ := 0
  brought : ℕ := 0
  seen : ℕ := 0
  log : List (AudioRingEvent α) := []

namespace AudioRing

/-- The constructor: one slot more than the capacity. -/
def create (capacity : ℕ) (zero : α) : AudioRing α where
  samples := List.replicate (capacity + 1) zero

/-- The next step of a push. -/
def produce (ring : AudioRing α) : Option (AudioRing α) :=
  match ring.producer with
  | .idle => none
  | .loadRead samples =>
    some { ring with producer := .loadWrite samples ring.read }
  | .loadWrite samples read =>
    some { ring with producer := .loop samples read ring.write }
  | .loop [] _ write =>
    some { ring with
      write := write, producer := .count 0, published := ring.accepted.length }
  | .loop (sample :: rest) read write =>
    let next := (write + 1) % ring.samples.length
    if next = read then
      some { ring with
        write := write
        producer := .count (sample :: rest).length
        published := ring.accepted.length }
    else do
      let slots ← Ring.put write sample ring.samples
      some { ring with
        samples := slots
        producer := .loop rest read next
        accepted := ring.accepted ++ [sample] }
  | .count left =>
    some { ring with
      dropped := ring.dropped + UInt64.ofNat left, producer := .idle }

/-- The next step of a pop or of a clear. -/
def consume (ring : AudioRing α) : Option (AudioRing α) :=
  match ring.consumer with
  | .idle => none
  | .loadRead count =>
    some { ring with consumer := .loadWrite count ring.read }
  | .loadWrite count read =>
    some { ring with consumer := .loop count read ring.write }
  | .loop left read write =>
    if 0 < left ∧ read ≠ write then do
      let sample ← ring.samples[read]?
      some { ring with
        consumer := .loop (left - 1) ((read + 1) % ring.samples.length) write
        log := ring.log ++ [.popped sample] }
    else
      some { ring with
        read := read
        consumer := if 0 < left then .count left else .idle }
  | .count left =>
    some { ring with
      underruns := ring.underruns + UInt64.ofNat left, consumer := .idle }
  | .clearLoad =>
    some { ring with
      consumer := .clearStore ring.write, seen := ring.published }
  | .clearStore write =>
    some { ring with
      read := write, consumer := .idle, log := ring.log ++ [.cleared ring.seen] }

/-- What happens next: a call, or a step of one of the threads. -/
inductive Move (α : Type*) where
  | push (samples : List α)
  | produce
  | pop (count : ℕ)
  | clear
  | consume

/-- The steps of the two threads, in any order. -/
inductive Step : Move α → AudioRing α → AudioRing α → Prop where
  | push {ring : AudioRing α} (samples : List α)
      (h : ring.producer = .idle) : Step (.push samples) ring
        { ring with
          producer := .loadRead samples
          brought := ring.brought + samples.length }
  | produce {ring next : AudioRing α} (h : ring.produce = some next) :
      Step .produce ring next
  | pop {ring : AudioRing α} (count : ℕ) (h : ring.consumer = .idle) :
      Step (.pop count) ring { ring with consumer := .loadRead count }
  | clear {ring : AudioRing α} (h : ring.consumer = .idle) :
      Step .clear ring { ring with consumer := .clearLoad }
  | consume {ring next : AudioRing α} (h : ring.consume = some next) :
      Step .consume ring next

/-! ## What the consumer got -/

/-- **The samples in their order, with the cleared stretches missing**: what
the consumer did to the samples accepted, from the first of them up to one. -/
inductive Replays (accepted : List α) : List (AudioRingEvent α) → ℕ → Prop where
  | nil : Replays accepted [] 0
  /-- The next sample. -/
  | popped {log : List (AudioRingEvent α)} {k : ℕ} {sample : α}
      (h : Replays accepted log k) (hnext : accepted[k]? = some sample) :
      Replays accepted (log ++ [.popped sample]) (k + 1)
  /-- A stretch, up to what was published. -/
  | cleared {log : List (AudioRingEvent α)} {k upTo : ℕ}
      (h : Replays accepted log k) (hle : k ≤ upTo)
      (hbelow : upTo ≤ accepted.length) :
      Replays accepted (log ++ [.cleared upTo]) upTo

/-- Samples accepted later do not change what was got. -/
theorem Replays.append {accepted : List α} {log : List (AudioRingEvent α)}
    {k : ℕ} (h : Replays accepted log k) (more : List α) :
    Replays (accepted ++ more) log k := by
  induction h with
  | nil => exact .nil
  | popped _ hnext ih =>
    refine ih.popped ?_
    obtain ⟨hlt, hsample⟩ := List.getElem?_eq_some_iff.mp hnext
    rw [List.getElem?_append_left hlt, hnext]
  | cleared _ hle hbelow ih =>
    refine ih.cleared hle (hbelow.trans ?_)
    rw [List.length_append]
    exact Nat.le_add_right _ _

/-! ## The invariant -/

/-- What the producer knows, `n` being the number of slots: its copy of the
read index is that of a sample at or before the first one still there, and no
turn before the next one. -/
def ProducerKnows (n released published accepted : ℕ) :
    AudioRingPush α → Prop
  | .idle | .loadRead _ | .count _ => published = accepted
  | .loadWrite _ read =>
    published = accepted ∧ ∃ r ≤ released, read = r % n ∧ accepted < r + n
  | .loop _ read write =>
    write = accepted % n ∧ ∃ r ≤ released, read = r % n ∧ accepted < r + n

/-- What the consumer knows: its copy of the write index is that of a sample
already published, or the next. -/
def ConsumerKnows (n released taken published seen : ℕ) : AudioRingPop → Prop
  | .idle | .loadRead _ | .count _ | .clearLoad => taken = released
  | .loadWrite _ read => taken = released ∧ read = taken % n
  | .loop _ read write =>
    read = taken % n ∧ ∃ w, write = w % n ∧ taken ≤ w ∧ w ≤ published
  | .clearStore write =>
    taken = released ∧ write = seen % n ∧ taken ≤ seen ∧ seen ≤ published

/-- The samples of a push that were neither accepted nor counted yet. -/
def outstanding : AudioRingPush α → ℕ
  | .idle => 0
  | .loadRead samples | .loadWrite samples _ => samples.length
  | .loop rest _ _ => rest.length
  | .count left => left

/-- **The ring is sound**: the read index is that of the sample up to which
slots were released, and the consumer has taken some beyond it; the slots of
all accepted samples behind it hold them. -/
structure Sound (capacity : ℕ) (ring : AudioRing α) (released taken : ℕ) :
    Prop where
  length : ring.samples.length = capacity + 1
  read : ring.read = released % (capacity + 1)
  write : ring.write = ring.published % (capacity + 1)
  released_le : released ≤ taken
  taken_le : taken ≤ ring.published
  published_le : ring.published ≤ ring.accepted.length
  room : ring.accepted.length ≤ released + capacity
  slots : ∀ k, released ≤ k → (h : k < ring.accepted.length) →
    ring.samples[k % (capacity + 1)]? = some ring.accepted[k]
  replays : Replays ring.accepted ring.log taken
  producer : ProducerKnows (capacity + 1) released ring.published
    ring.accepted.length ring.producer
  consumer : ConsumerKnows (capacity + 1) released taken ring.published
    ring.seen ring.consumer
  counted : ∃ refused, ring.dropped = UInt64.ofNat refused
    ∧ ring.brought
      = ring.accepted.length + refused + outstanding ring.producer

/-- Numbers less than a turn apart are told apart by their remainders. -/
theorem mod_ne {n a b : ℕ} (hlt : a < b) (hb : b < a + n) : a % n ≠ b % n := by
  have hne := Ring.place_ne (n := n) a (show 0 < b - a by omega) (by omega)
  rwa [Nat.add_zero, Nat.add_sub_cancel' hlt.le] at hne

variable {capacity : ℕ} {ring later : AudioRing α} {released taken : ℕ}

/-- A new ring is sound. -/
theorem sound_create (capacity : ℕ) (zero : α) :
    (create capacity zero).Sound capacity 0 0 where
  length := List.length_replicate
  read := (Nat.zero_mod _).symm
  write := (Nat.zero_mod _).symm
  released_le := le_rfl
  taken_le := le_rfl
  published_le := le_rfl
  room := Nat.zero_le _
  slots k _ h := absurd h (Nat.not_lt_zero k)
  replays := .nil
  producer := rfl
  consumer := rfl
  counted := ⟨0, rfl, rfl⟩

/-- The producer goes on knowing when slots are released. -/
theorem ProducerKnows.mono {n released released' published accepted : ℕ}
    {p : AudioRingPush α} (h : ProducerKnows n released published accepted p)
    (hle : released ≤ released') :
    ProducerKnows n released' published accepted p := by
  cases p with
  | idle | loadRead | count => exact h
  | loadWrite =>
    obtain ⟨hsame, r, hr, hread⟩ := h
    exact ⟨hsame, r, hr.trans hle, hread⟩
  | loop =>
    obtain ⟨hwrite, r, hr, hread⟩ := h
    exact ⟨hwrite, r, hr.trans hle, hread⟩

/-- The consumer goes on knowing when samples are published. -/
theorem ConsumerKnows.mono {n released taken published published' seen : ℕ}
    {c : AudioRingPop} (h : ConsumerKnows n released taken published seen c)
    (hle : published ≤ published') :
    ConsumerKnows n released taken published' seen c := by
  cases c with
  | idle | loadRead | count | clearLoad | loadWrite => exact h
  | loop =>
    obtain ⟨hread, w, hw, htaken, hpublished⟩ := h
    exact ⟨hread, w, hw, htaken, hpublished.trans hle⟩
  | clearStore =>
    obtain ⟨hsame, hwrite, htaken, hpublished⟩ := h
    exact ⟨hsame, hwrite, htaken, hpublished.trans hle⟩

/-! ## Every step keeps it -/

/-- **A slot written** is none of a sample still there. -/
theorem Sound.store (h : ring.Sound capacity released taken)
    {sample : α} {rest : List α} {read write : ℕ}
    (hproducer : ring.producer = .loop (sample :: rest) read write)
    (hnext : (write + 1) % ring.samples.length ≠ read) :
    ∃ next, ring.produce = some next ∧ next.Sound capacity released taken := by
  have hknows := h.producer
  rw [hproducer] at hknows
  obtain ⟨hwrite, r, hr, hread, hturn⟩ := hknows
  have hlength := h.length
  have hroom : ring.accepted.length + 1 < r + (capacity + 1) := by
    -- the loop stops in front of the copy of the read index
    refine lt_of_le_of_ne hturn fun hfull => hnext ?_
    rw [hwrite, hread, hlength, Nat.mod_add_mod, hfull, Nat.add_mod_right]
  have hlt : write < ring.samples.length := by
    rw [hwrite, hlength]
    exact Nat.mod_lt _ (Nat.succ_pos capacity)
  refine ⟨{ ring with
    samples := ring.samples.set write sample
    producer := .loop rest read ((write + 1) % ring.samples.length)
    accepted := ring.accepted ++ [sample] }, ?_, ?_⟩
  · unfold produce
    rw [hproducer]
    dsimp only
    rw [if_neg hnext, Ring.put_eq _ hlt]
    rfl
  have hone : (ring.accepted ++ [sample]).length = ring.accepted.length + 1 :=
    List.length_append
  have hreleased := h.released_le
  have htaken := h.taken_le
  have hpublished := h.published_le
  obtain ⟨refused, hdropped, hbrought⟩ := h.counted
  rw [hproducer] at hbrought
  exact
    { h with
      length := List.length_set.trans hlength
      published_le := by
        show ring.published ≤ (ring.accepted ++ [sample]).length
        omega
      room := by
        show (ring.accepted ++ [sample]).length ≤ _
        omega
      slots := by
        intro k hk hlast
        show (ring.samples.set write sample)[k % (capacity + 1)]?
          = some (ring.accepted ++ [sample])[k]
        change k < (ring.accepted ++ [sample]).length at hlast
        rw [hone] at hlast
        by_cases hnew : k = ring.accepted.length
        · subst hnew
          rw [← hwrite, List.getElem?_set_self hlt,
            List.getElem_append_right le_rfl]
          exact congrArg some (List.getElem_singleton _).symm
        · have hold : k < ring.accepted.length := by omega
          rw [List.getElem?_set_ne, h.slots k hk hold,
            List.getElem_append_left hold]
          rw [hwrite]
          exact (mod_ne hold (by omega)).symm
      replays := h.replays.append [sample]
      producer := by
        refine ⟨?_, r, hr, hread, ?_⟩
        · show _ = (ring.accepted ++ [sample]).length % _
          rw [hone, hwrite, hlength, Nat.mod_add_mod]
        · show (ring.accepted ++ [sample]).length < _
          omega
      counted := by
        refine ⟨refused, hdropped, ?_⟩
        show ring.brought
          = (ring.accepted ++ [sample]).length + refused + rest.length
        rw [hone, hbrought]
        show _ + refused + (rest.length + 1) = _
        omega }

/-- The write index stored, and what is left to be counted. -/
theorem Sound.publish (h : ring.Sound capacity released taken)
    {rest : List α} {read write : ℕ}
    (hproducer : ring.producer = .loop rest read write) :
    Sound capacity { ring with
      write := write
      producer := .count rest.length
      published := ring.accepted.length } released taken := by
  have hknows := h.producer
  rw [hproducer] at hknows
  obtain ⟨refused, hdropped, hbrought⟩ := h.counted
  rw [hproducer] at hbrought
  exact
    { h with
      write := hknows.1
      taken_le := h.taken_le.trans h.published_le
      published_le := le_rfl
      producer := rfl
      consumer := h.consumer.mono h.published_le
      counted := ⟨refused, hdropped, hbrought⟩ }

/-- **A step of a push** is possible, and keeps the ring sound. -/
theorem Sound.produce (h : ring.Sound capacity released taken)
    (hbusy : ring.producer ≠ .idle) :
    ∃ next, ring.produce = some next ∧ next.Sound capacity released taken := by
  have hknows := h.producer
  have hroom := h.room
  obtain ⟨refused, hdropped, hbrought⟩ := h.counted
  cases hproducer : ring.producer with
  | idle => exact absurd hproducer hbusy
  | loadRead samples =>
    rw [hproducer] at hknows hbrought
    refine ⟨_, by rw [AudioRing.produce, hproducer], ?_⟩
    exact
      { h with
        producer := ⟨hknows, released, le_rfl, h.read,
          Nat.lt_add_one_of_le hroom⟩
        counted := ⟨refused, hdropped, hbrought⟩ }
  | loadWrite samples read =>
    rw [hproducer] at hknows hbrought
    refine ⟨_, by rw [AudioRing.produce, hproducer], ?_⟩
    exact
      { h with
        producer := ⟨hknows.1 ▸ h.write, hknows.2⟩
        counted := ⟨refused, hdropped, hbrought⟩ }
  | loop rest read write =>
    cases rest with
    | nil =>
      refine ⟨_, by rw [AudioRing.produce, hproducer], ?_⟩
      exact h.publish hproducer
    | cons sample rest =>
      by_cases hnext : (write + 1) % ring.samples.length = read
      · refine ⟨_, by
          rw [AudioRing.produce, hproducer]
          exact if_pos hnext, ?_⟩
        exact h.publish hproducer
      · exact h.store hproducer hnext
  | count left =>
    rw [hproducer] at hknows hbrought
    refine ⟨_, by rw [AudioRing.produce, hproducer], ?_⟩
    exact
      { h with
        producer := hknows
        counted := ⟨refused + left, by
          rw [hdropped, ← UInt64.ofNat_add], by
          rw [hbrought, ← Nat.add_assoc]
          rfl⟩ }

/-- **A slot read** holds the next sample: it was written, and published. -/
theorem Sound.load (h : ring.Sound capacity released taken)
    {left read write : ℕ} (hconsumer : ring.consumer = .loop left read write)
    (hmore : read ≠ write) :
    taken < ring.published ∧ ∃ sample, ring.accepted[taken]? = some sample
      ∧ ring.samples[read]? = some sample := by
  have hknows := h.consumer
  rw [hconsumer] at hknows
  obtain ⟨hread, w, hwrite, htaken, hpublished⟩ := hknows
  have hne : taken ≠ w := fun heq => hmore (by rw [hread, hwrite, heq])
  have hlt : taken < ring.accepted.length :=
    (lt_of_le_of_ne htaken hne).trans_le (hpublished.trans h.published_le)
  refine ⟨(lt_of_le_of_ne htaken hne).trans_le hpublished,
    ring.accepted[taken], List.getElem?_eq_getElem hlt, ?_⟩
  rw [hread]
  exact h.slots taken h.released_le hlt

/-- The loop of a pop ends with nothing left to produce, or at its copy of the
write index. -/
theorem Sound.release (h : ring.Sound capacity released taken)
    {left read write : ℕ} (hconsumer : ring.consumer = .loop left read write)
    {c : AudioRingPop} (hidle : c = .idle ∨ ∃ n, c = .count n) :
    Sound capacity { ring with read := read, consumer := c } taken taken := by
  have hknows := h.consumer
  rw [hconsumer] at hknows
  exact
    { h with
      read := hknows.1
      released_le := le_rfl
      room := h.room.trans (Nat.add_le_add_right h.released_le _)
      slots := fun k hk => h.slots k (h.released_le.trans hk)
      producer := h.producer.mono h.released_le
      consumer := by
        obtain rfl | ⟨n, rfl⟩ := hidle
        · exact rfl
        · exact rfl }

/-- **A step of a pop or a clear** is possible, and keeps the ring sound. -/
theorem Sound.consume (h : ring.Sound capacity released taken)
    (hbusy : ring.consumer ≠ .idle) :
    ∃ next released' taken', ring.consume = some next
      ∧ next.Sound capacity released' taken' := by
  have hknows := h.consumer
  cases hconsumer : ring.consumer with
  | idle => exact absurd hconsumer hbusy
  | loadRead count =>
    rw [hconsumer] at hknows
    refine ⟨_, released, taken, by rw [AudioRing.consume, hconsumer], ?_⟩
    have hread : ring.read = taken % (capacity + 1) := by
      rw [h.read, show taken = released from hknows]
    exact { h with consumer := ⟨hknows, hread⟩ }
  | loadWrite count read =>
    rw [hconsumer] at hknows
    refine ⟨_, released, taken, by rw [AudioRing.consume, hconsumer], ?_⟩
    exact
      { h with
        consumer := ⟨hknows.2, ring.published, h.write, h.taken_le, le_rfl⟩ }
  | loop left read write =>
    rw [hconsumer] at hknows
    obtain ⟨hread, w, hwrite, htaken, hpublished⟩ := hknows
    -- another sample is taken, or the read index is published
    by_cases hmore : 0 < left ∧ read ≠ write
    · obtain ⟨hlt, sample, haccepted, hsample⟩ := h.load hconsumer hmore.2
      refine ⟨{ ring with
        consumer :=
          .loop (left - 1) ((read + 1) % ring.samples.length) write
        log := ring.log ++ [.popped sample] }, released, taken + 1, ?_, ?_⟩
      · rw [AudioRing.consume, hconsumer]
        dsimp only
        rw [if_pos hmore, hsample]
        rfl
      have hne : taken ≠ w := fun heq => hmore.2 (by rw [hread, hwrite, heq])
      exact
        { h with
          released_le := h.released_le.trans (Nat.le_succ _)
          taken_le := hlt
          replays := h.replays.popped haccepted
          consumer := ⟨by rw [hread, h.length, Nat.mod_add_mod], w, hwrite,
            lt_of_le_of_ne htaken hne, hpublished⟩ }
    · refine ⟨_, taken, taken, by
        rw [AudioRing.consume, hconsumer]
        exact if_neg hmore, ?_⟩
      refine h.release hconsumer ?_
      split
      · exact Or.inr ⟨left, rfl⟩
      · exact Or.inl rfl
  | count left =>
    rw [hconsumer] at hknows
    refine ⟨_, released, taken, by rw [AudioRing.consume, hconsumer], ?_⟩
    exact { h with consumer := hknows }
  | clearLoad =>
    rw [hconsumer] at hknows
    refine ⟨_, released, taken, by rw [AudioRing.consume, hconsumer], ?_⟩
    exact { h with consumer := ⟨hknows, h.write, h.taken_le, le_rfl⟩ }
  -- what was published up to the load is given up at once
  | clearStore write =>
    rw [hconsumer] at hknows
    obtain ⟨hsame, hwrite, htaken, hpublished⟩ := hknows
    have hle : released ≤ ring.seen := h.released_le.trans htaken
    refine ⟨_, ring.seen, ring.seen, by
      rw [AudioRing.consume, hconsumer], ?_⟩
    exact
      { h with
        read := hwrite
        released_le := le_rfl
        taken_le := hpublished
        room := h.room.trans (Nat.add_le_add_right hle _)
        slots := fun k hk => h.slots k (hle.trans hk)
        replays := h.replays.cleared htaken (hpublished.trans h.published_le)
        producer := h.producer.mono hle
        consumer := rfl }

/-- **Every step** keeps the ring sound. -/
theorem Sound.step {move : Move α} (hstep : Step move ring later)
    (h : ∃ released taken, ring.Sound capacity released taken) :
    ∃ released taken, later.Sound capacity released taken := by
  obtain ⟨released, taken, h⟩ := h
  cases hstep with
  | push samples hidle =>
    have hknows := h.producer
    obtain ⟨refused, hdropped, hbrought⟩ := h.counted
    rw [hidle] at hknows hbrought
    refine ⟨released, taken, ?_⟩
    exact
      { h with
        producer := hknows
        counted := ⟨refused, hdropped, congrArg (· + _) hbrought⟩ }
  | produce hnext =>
    have hbusy : ring.producer ≠ .idle := by
      intro hidle
      rw [AudioRing.produce, hidle] at hnext
      exact absurd hnext.symm (Option.some_ne_none _)
    obtain ⟨next', hnext', hsound⟩ := h.produce hbusy
    obtain rfl := Option.some.inj (hnext'.symm.trans hnext)
    exact ⟨released, taken, hsound⟩
  | pop count hidle =>
    have hknows := h.consumer
    rw [hidle] at hknows
    exact ⟨released, taken, { h with consumer := hknows }⟩
  | clear hidle =>
    have hknows := h.consumer
    rw [hidle] at hknows
    exact ⟨released, taken, { h with consumer := hknows }⟩
  | consume hnext =>
    have hbusy : ring.consumer ≠ .idle := by
      intro hidle
      rw [AudioRing.consume, hidle] at hnext
      exact absurd hnext.symm (Option.some_ne_none _)
    obtain ⟨next', released', taken', hnext', hsound⟩ := h.consume hbusy
    obtain rfl := Option.some.inj (hnext'.symm.trans hnext)
    exact ⟨released', taken', hsound⟩

/-! ## The queue -/

/-- **A queue between two threads**: what the consumer got, what is still
there, and what was refused. Slots up to `released` are the producer's again,
and the consumer has taken samples up to `taken`. -/
structure Queues (capacity : ℕ) (ring : AudioRing α) (released taken : ℕ) :
    Prop where
  /-- The consumer got the accepted samples in their order, but for what was
  cleared, and none that was not published. -/
  inOrder : Replays ring.accepted ring.log taken
  published : taken ≤ ring.published ∧ ring.published ≤ ring.accepted.length
  /-- No more is ever queued than the capacity. -/
  read : ring.read = released % (capacity + 1) ∧ released ≤ taken
  queued : ring.accepted.length ≤ released + capacity
  /-- The slots of the samples not taken hold them. -/
  unread : ∀ k, taken ≤ k → (h : k < ring.accepted.length) →
    ring.samples[k % (capacity + 1)]? = some ring.accepted[k]
  /-- No such slot is the one a push may write next. -/
  spared : ∀ rest read write, ring.producer = .loop rest read write →
    ∀ k, taken ≤ k → k < ring.accepted.length → k % (capacity + 1) ≠ write
  /-- The slot a pop reads next is that of a published sample. -/
  written : ∀ left read write, ring.consumer = .loop left read write →
    read ≠ write → taken < ring.published ∧ read = taken % (capacity + 1)
  /-- Between pushes all that was refused is counted. -/
  refused : ring.producer = .idle → ∃ refused,
    ring.brought = ring.accepted.length + refused
      ∧ ring.dropped = UInt64.ofNat refused
  /-- No step of a call leaves the array. -/
  produces : ring.producer ≠ .idle → ring.produce.isSome = true
  consumes : ring.consumer ≠ .idle → ring.consume.isSome = true

/-- A sound ring is a queue. -/
theorem Sound.queues (h : ring.Sound capacity released taken) :
    ring.Queues capacity released taken where
  inOrder := h.replays
  published := ⟨h.taken_le, h.published_le⟩
  read := ⟨h.read, h.released_le⟩
  queued := h.room
  unread k hk := h.slots k (h.released_le.trans hk)
  spared rest read write hproducer k hk hlt := by
    have hknows := h.producer
    rw [hproducer] at hknows
    have hreleased := h.released_le
    have hroom := h.room
    rw [hknows.1]
    exact mod_ne hlt (by omega)
  written left read write hconsumer hmore := by
    have hknows := h.consumer
    rw [hconsumer] at hknows
    exact ⟨(h.load hconsumer hmore).1, hknows.1⟩
  refused hidle := by
    obtain ⟨refused, hdropped, hbrought⟩ := h.counted
    rw [hidle] at hbrought
    exact ⟨refused, hbrought, hdropped⟩
  produces hbusy := by
    obtain ⟨later, hlater, -⟩ := h.produce hbusy
    exact Option.isSome_of_mem hlater
  consumes hbusy := by
    obtain ⟨later, -, -, hlater, -⟩ := h.consume hbusy
    exact Option.isSome_of_mem hlater

/-- **The ring is a queue of one producer and one consumer**: whatever they
call and in whatever order their steps come, it is one in every state they
reach. -/
theorem queues_of_path {zero : α} {moves : List (Move α)}
    (h : LabelledPath Step moves (create capacity zero) ring) :
    ∃ released taken, ring.Queues capacity released taken := by
  have hsound := h.invariant
    (fun ring => ∃ released taken, ring.Sound capacity released taken)
    (fun _ _ _ _ hstep hsound => Sound.step hstep hsound)
    ⟨0, 0, sound_create capacity zero⟩
  obtain ⟨released, taken, hsound⟩ := hsound
  exact ⟨released, taken, hsound.queues⟩

/-- Three samples for two slots, one read while the third is refused, and the
other cleared. -/
theorem queues_of_path_three : ∃ ring : AudioRing ℕ,
    LabelledPath Step
        [.push [5, 6, 7], .produce, .produce, .produce, .produce, .produce,
          .pop 1, .consume, .consume, .produce, .consume, .consume, .clear,
          .consume, .consume] (create 2 0) ring
      ∧ ring.log = [.popped 5, .cleared 2]
      ∧ ∃ released taken, ring.Queues 2 released taken := by
  have hpath : LabelledPath Step
      [.push [5, 6, 7], .produce, .produce, .produce, .produce, .produce,
        .pop 1, .consume, .consume, .produce, .consume, .consume, .clear,
        .consume, .consume] (create 2 0) _ :=
    .cons (.push _ rfl) <| .cons (.produce rfl) <| .cons (.produce rfl) <|
      .cons (.produce rfl) <| .cons (.produce rfl) <| .cons (.produce rfl) <|
      .cons (.pop 1 rfl) <| .cons (.consume rfl) <| .cons (.consume rfl) <|
      .cons (.produce rfl) <| .cons (.consume rfl) <| .cons (.consume rfl) <|
      .cons (.clear rfl) <| .cons (.consume rfl) <| .cons (.consume rfl) <|
      .nil _
  exact ⟨_, hpath, rfl, queues_of_path hpath⟩

end AudioRing
