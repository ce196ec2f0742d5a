import Mathlib.Data.List.Infix
import Flex1500.Lib.Framing

/-!
# Reading frames from a stream

A reader buffers what arrives until it has a frame, and takes the frame out
of its buffer. What arrives comes in pieces of any size, so that a frame may
be spread over several of them, and a call may be given up half way and made
again.

`Reader.Decodes` says what one call does where the bytes are those of some
frames; `Reader.Decodes.recovers` says of any number of calls that they return
those frames, whatever the pieces are. A decoder is verified by the former
alone.
-/

variable {α β ε φ σ : Type*}

/-- What a call for more bytes answers. -/
inductive Arrival (α : Type*) where
  /-- Some bytes, or the end of the stream where there are none. -/
  | data (bytes : List α)
  /-- The call was interrupted. -/
  | again
  /-- Nothing came in time. -/
  | timeout
  /-- The call failed. -/
  | failed
  deriving DecidableEq, Repr

/-- The bytes of some arrivals. -/
def Arrival.bytes : List (Arrival α) → List α
  | [] => []
  | .data bytes :: arrivals => bytes ++ Arrival.bytes arrivals
  | _ :: arrivals => Arrival.bytes arrivals

/-- Arrivals of a stream that goes on. -/
def Arrival.Lasts : Arrival α → Prop
  | .data bytes => bytes ≠ []
  | .failed => False
  | _ => True

/-- Whether nothing came in time. -/
def Arrival.isTimeout : Arrival α → Bool
  | .timeout => true
  | _ => false

/-! ## Filling a buffer -/

/-- How the filling of a buffer ended. -/
inductive Filled where
  | enough | waiting | timedOut | failed
  deriving DecidableEq, Repr

namespace Arrival

/-- A buffer is filled until it holds so many bytes. It waits where nothing
more is known to arrive. -/
def fill (required : ℕ) :
    List (Arrival α) → List α → Filled × List α × List (Arrival α)
  | [], buffer =>
    if required ≤ buffer.length then (.enough, buffer, [])
    else (.waiting, buffer, [])
  | arrival :: arrivals, buffer =>
    if required ≤ buffer.length then (.enough, buffer, arrival :: arrivals)
    else
      match arrival with
      | .data [] => (.failed, buffer, arrivals)
      | .data bytes => fill required arrivals (buffer ++ bytes)
      | .again => fill required arrivals buffer
      | .timeout => (.timedOut, buffer, arrivals)
      | .failed => (.failed, buffer, arrivals)

variable {required : ℕ} {arrivals : List (Arrival α)} {buffer : List α}

/-- What is to know of a buffer that was filled. -/
structure Fills (required : ℕ) (arrivals : List (Arrival α)) (buffer : List α)
    (filled : Filled × List α × List (Arrival α)) : Prop where
  bytes : filled.2.1 ++ Arrival.bytes filled.2.2
    = buffer ++ Arrival.bytes arrivals
  rest : filled.2.2 <:+ arrivals
  enough : filled.1 = .enough → required ≤ filled.2.1.length
  waiting : filled.1 = .waiting →
    filled.2.2 = [] ∧ filled.2.1.length < required
  failed : (∀ arrival ∈ arrivals, arrival.Lasts) → filled.1 ≠ .failed
  timedOut : filled.1 = .timedOut → .timeout :: filled.2.2 <:+ arrivals

/-- **Filling a buffer** loses nothing that arrives. -/
theorem fills_fill (required : ℕ) (arrivals : List (Arrival α))
    (buffer : List α) :
    Fills required arrivals buffer (fill required arrivals buffer) := by
  induction arrivals generalizing buffer with
  | nil =>
    unfold fill
    split
    · rename_i h
      exact ⟨rfl, List.suffix_rfl, fun _ => h, by simp, by simp, by simp⟩
    · rename_i h
      exact ⟨rfl, List.suffix_rfl, by simp, fun _ => ⟨rfl, not_le.mp h⟩,
        by simp, by simp⟩
  | cons arrival arrivals ih =>
    unfold fill
    split
    · rename_i h
      exact ⟨rfl, List.suffix_rfl, fun _ => h, by simp, by simp, by simp⟩
    have hlasts (h : ∀ other ∈ arrival :: arrivals, other.Lasts) :
        ∀ other ∈ arrivals, other.Lasts :=
      fun other hother => h other (List.mem_cons_of_mem _ hother)
    have hmore (buffer' : List α)
        (hbytes : buffer' ++ Arrival.bytes arrivals
          = buffer ++ Arrival.bytes (arrival :: arrivals)) :
        Fills required (arrival :: arrivals) buffer
          (fill required arrivals buffer') := by
      have h := ih buffer'
      exact ⟨h.bytes.trans hbytes, h.rest.trans (List.suffix_cons _ _),
        h.enough, h.waiting, fun hall => h.failed (hlasts hall),
        fun hout => (h.timedOut hout).trans (List.suffix_cons _ _)⟩
    split
    · exact ⟨rfl, List.suffix_cons _ _, by simp, by simp,
        fun h => absurd rfl (h _ (List.mem_cons_self ..)), by simp⟩
    · exact hmore _ (List.append_assoc _ _ _)
    · exact hmore _ rfl
    · exact ⟨rfl, List.suffix_cons _ _, by simp, by simp, by simp,
        fun _ => List.suffix_rfl⟩
    · exact ⟨rfl, List.suffix_cons _ _, by simp, by simp,
        fun h => (h _ (List.mem_cons_self ..)).elim, by simp⟩

end Arrival

/-! ## Readers -/

/-- What a call for a frame ends with. -/
inductive Outcome (ε β : Type*) where
  | done (value : β)
  | waiting
  | timedOut
  | error (reason : ε)
  deriving DecidableEq, Repr

/-- The value of a call that was successful. -/
def Outcome.value? : Outcome ε β → Option β
  | .done value => some value
  | _ => none

/-- A reader: what it has buffered, and its call. -/
structure Reader (α ε β σ : Type*) where
  buffer : σ → List α
  call : List (Arrival α) → σ → Outcome ε β × σ × List (Arrival α)

namespace Reader

/-- A number of calls, one after the other. -/
def calls (reader : Reader α ε β σ) :
    ℕ → List (Arrival α) → σ → List (Outcome ε β) × σ × List (Arrival α)
  | 0, arrivals, s => ([], s, arrivals)
  | n + 1, arrivals, s =>
    let called := reader.call arrivals s
    let rest := calls reader n called.2.2 called.2.1
    (called.1 :: rest.1, rest.2)

/-- The bytes a reader has and will get. -/
def bytes (reader : Reader α ε β σ) (s : σ) (arrivals : List (Arrival α)) :
    List α :=
  reader.buffer s ++ Arrival.bytes arrivals

/-- **What a call does**: it takes the first frame out of the bytes and
returns its value, or leaves the bytes as they are and says why. -/
inductive Takes (reader : Reader α ε β σ) (encode : φ → List α) (value : φ → β)
    (Expects : σ → List φ → Prop) (arrivals : List (Arrival α)) (s : σ) :
    List φ → Outcome ε β × σ × List (Arrival α) → Prop where
  | done {frame : φ} {frames : List φ} {s' : σ} {arrivals' : List (Arrival α)}
      (bytes : reader.bytes s arrivals
        = encode frame ++ reader.bytes s' arrivals')
      (expects : Expects s' frames) (rest : arrivals' <:+ arrivals) :
      Takes reader encode value Expects arrivals s (frame :: frames)
        (.done (value frame), s', arrivals')
  | timedOut {frames : List φ} {s' : σ} {arrivals' : List (Arrival α)}
      (bytes : reader.bytes s arrivals = reader.bytes s' arrivals')
      (expects : Expects s' frames)
      (rest : .timeout :: arrivals' <:+ arrivals) :
      Takes reader encode value Expects arrivals s frames
        (.timedOut, s', arrivals')
  | waiting {frames : List φ} {s' : σ}
      (bytes : reader.bytes s arrivals = reader.buffer s')
      (expects : Expects s' frames)
      (short : ∀ frame ∈ frames.head?,
        (reader.buffer s').length < (encode frame).length) :
      Takes reader encode value Expects arrivals s frames (.waiting, s', [])

/-- **A decoder**: it does so on all arrivals that are good, wherever the
bytes are those of frames that it expects. -/
def Decodes (reader : Reader α ε β σ) (encode : φ → List α) (value : φ → β)
    (Good : Arrival α → Prop) (Expects : σ → List φ → Prop) : Prop :=
  ∀ arrivals s frames, (∀ arrival ∈ arrivals, Good arrival) →
    Expects s frames → reader.bytes s arrivals <+: frames.flatMap encode →
    Takes reader encode value Expects arrivals s frames (reader.call arrivals s)

/-- What a number of calls returned, of the frames there are, where nothing
came in time for so many of them at most. -/
structure Recovers (reader : Reader α ε β σ) (encode : φ → List α)
    (value : φ → β) (bytes : List α) (frames : List φ) (timeouts : ℕ)
    (called : List (Outcome ε β) × σ × List (Arrival α)) (k : ℕ) : Prop where
  /-- No call fails. -/
  sound : ∀ reason, Outcome.error reason ∉ called.1
  /-- Those that succeed return the first frames, in order. -/
  values : called.1.filterMap Outcome.value?
    = ((Framing.whole encode frames bytes.length).take k).map value
  le : k ≤ (Framing.whole encode frames bytes.length).length
  /-- Exactly the bytes of these frames were taken. -/
  consumed : bytes
    = ((Framing.whole encode frames bytes.length).take k).flatMap encode
      ++ reader.bytes called.2.1 called.2.2
  /-- Enough calls return all frames there are. -/
  all : k + timeouts < called.1.length →
    k = (Framing.whole encode frames bytes.length).length

/-- **Decoders recover frames**: any number of calls, on any arrivals whose
bytes begin the encodings of some frames, return these frames in order as
far as they have arrived entirely, and take exactly their bytes. -/
theorem Decodes.recovers {reader : Reader α ε β σ} {encode : φ → List α}
    {value : φ → β} {Good : Arrival α → Prop} {Expects : σ → List φ → Prop}
    (h : reader.Decodes encode value Good Expects) (n : ℕ)
    {arrivals : List (Arrival α)} {s : σ} {frames : List φ}
    (hgood : ∀ arrival ∈ arrivals, Good arrival) (hexpects : Expects s frames)
    (hbytes : reader.bytes s arrivals <+: frames.flatMap encode) :
    ∃ k, Recovers reader encode value (reader.bytes s arrivals) frames
      (arrivals.countP (·.isTimeout)) (reader.calls n arrivals s) k := by
  induction n generalizing arrivals s frames with
  | zero =>
    exact ⟨0, ⟨by simp [calls], by simp [calls], Nat.zero_le _,
      by simp [calls], by simp [calls]⟩⟩
  | succ n ih =>
    have hcall := h arrivals s frames hgood hexpects hbytes
    unfold calls
    dsimp only
    generalize reader.call arrivals s = called at hcall ⊢
    cases hcall with
    | @done frame frames s' arrivals' hall hexpects' hrest =>
      -- the frame that was returned is the first, the rest is as before
      have hpre : reader.bytes s' arrivals' <+: frames.flatMap encode := by
        rw [hall, List.flatMap_cons] at hbytes
        exact (List.prefix_append_right_inj _).mp hbytes
      obtain ⟨k, hk⟩ := ih (fun arrival hmem =>
        hgood arrival (hrest.subset hmem)) hexpects' hpre
      have hwhole : Framing.whole encode (frame :: frames)
          (reader.bytes s arrivals).length
          = frame :: Framing.whole encode frames
            (reader.bytes s' arrivals').length := by
        rw [Framing.whole, hall, List.length_append,
          if_pos (Nat.le_add_right _ _), Nat.add_sub_cancel_left]
      refine ⟨k + 1, ⟨?_, ?_, ?_, ?_, ?_⟩⟩
      · simpa using hk.sound
      · rw [hwhole, List.take_succ_cons, List.map_cons, ← hk.values]
        rfl
      · rw [hwhole, List.length_cons]
        exact Nat.succ_le_succ hk.le
      · rw [hwhole, List.take_succ_cons, List.flatMap_cons, List.append_assoc,
          ← hk.consumed, hall]
      · intro hmany
        have hle := hrest.sublist.countP_le (p := (·.isTimeout))
        rw [hwhole, List.length_cons]
        rw [List.length_cons] at hmany
        dsimp only at hmany
        exact congrArg (· + 1) (hk.all (by omega))
    | @timedOut _ s' arrivals' hall hexpects' hrest =>
      rw [hall] at hbytes ⊢
      have hle := hrest.sublist.countP_le (p := (·.isTimeout))
      rw [List.countP_cons_of_pos rfl] at hle
      obtain ⟨k, hk⟩ := ih (fun arrival hmem =>
        hgood arrival (hrest.subset (List.mem_cons_of_mem _ hmem))) hexpects'
        hbytes
      refine ⟨k, ⟨by simpa using hk.sound, hk.values, hk.le, hk.consumed,
        fun hmany => hk.all ?_⟩⟩
      rw [List.length_cons] at hmany
      dsimp only at hmany
      omega
    | @waiting _ s' hall hexpects' hshort =>
      have hall' : reader.bytes s arrivals = reader.bytes s' [] := by
        rw [hall, bytes, Arrival.bytes, List.append_nil]
      rw [hall'] at hbytes ⊢
      obtain ⟨k, hk⟩ := ih (by simp) hexpects' hbytes
      -- nothing arrives any more, and no frame is there as a whole
      have hnone : Framing.whole encode frames (reader.bytes s' []).length
          = [] := by
        cases frames with
        | nil => rfl
        | cons frame frames =>
          have := hshort frame rfl
          rw [Framing.whole, if_neg (by
            rw [bytes, Arrival.bytes, List.append_nil]
            omega)]
      refine ⟨k, ⟨by simpa using hk.sound, hk.values, hk.le, hk.consumed,
        fun _ => ?_⟩⟩
      have := hk.le
      rw [hnone] at this ⊢
      exact Nat.le_zero.mp this

end Reader
