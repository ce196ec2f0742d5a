import Mathlib.Algebra.Order.Floor.Ring
import Mathlib.Data.Rat.Floor
import Mathlib.Tactic.FieldSimp
import Flex1500.IqDecoders
import Flex1500.Lib.Window

/-!
# Resampling a stream

The `rtl_tcp` resampler reads the samples around each output position: those
of the current block from the block, the others from the last 64 of the
samples before it. The history is put together anew after every block, in
one way for long blocks and in another for short ones, and the position is
carried over as a numerator.

The result does not depend on where the stream is cut into blocks. Every
sample that is looked up is that of the stream at its index, and the bytes
put out and the errors carried over are those of `RtlFloats.resampled`,
which has never heard of blocks.

Positions are exact here, rational numbers counted from the beginning of the
stream. What is computed from the samples is a parameter.
-/

/-! ## The kernel -/

/-- `RESAMPLER_RADIUS`. -/
def resamplerRadius : ℕ := 8

/-- `RESAMPLER_PHASES`. -/
def resamplerPhases : ℤ := 1024

/-- The number of samples an output is made of. -/
def resamplerTaps : ℕ := resamplerRadius * 2 + 1

/-- `lrint`, to the nearest integer, and to the even one of two. -/
def lrint (x : ℚ) : ℤ :=
  if x - ⌊x⌋ < 1 / 2 then ⌊x⌋
  else if 1 / 2 < x - ⌊x⌋ then ⌊x⌋ + 1
  else if ⌊x⌋ % 2 = 0 then ⌊x⌋ else ⌊x⌋ + 1

/-- `source_sample`: a sample by its index in the stream. -/
def sourceSample (current history : List UInt32) (blockStart : ℕ)
    (index : ℤ) : UInt32 :=
  if 0 ≤ index ∧ (blockStart : ℤ) ≤ index then
    let offset := (index - blockStart).toNat
    if offset < current.length then current.getD offset 0 else 0
  else if index < 0 ∨ (history.length : ℤ) < blockStart - index then 0
  else history.getD ((history.length : ℤ) - (blockStart - index)).toNat 0

/-- The center of the kernel at a position, and the row of its weights. -/
def kernelCenter (position : ℚ) : ℤ × ℤ :=
  let phase := lrint ((position - ⌊position⌋) * resamplerPhases)
  if phase = resamplerPhases then (⌊position⌋ + 1, 0) else (⌊position⌋, phase)

/-- The index of the sample under a tap. -/
def tapIndex (position : ℚ) (tap : ℕ) : ℤ :=
  (kernelCenter position).1 + (tap - resamplerRadius)

/-- What the resampler does with floats: the weights, a product added to a
total, the total as a float, and a value as a byte with the error carried
over. -/
structure RtlFloats (D : Type*) where
  weight : (phase tap : ℕ) → UInt32
  zero : D
  accumulate : D → (weight sample : UInt32) → D
  narrow : D → UInt32
  encode : (value error : UInt32) → UInt8 × UInt32

namespace RtlFloats

variable {D : Type*} (floats : RtlFloats D)

/-- `interpolate`, with the samples as they are looked up. -/
def interpolate (sample : ℤ → UInt32) (position : ℚ) : UInt32 :=
  floats.narrow ((List.range resamplerTaps).foldl
    (fun total tap =>
      floats.accumulate total
        (floats.weight (kernelCenter position).2.toNat tap)
        (sample (tapIndex position tap)))
    floats.zero)

/-- The position of an output (`delayed`) behind the start of a block. -/
def delayed (blockStart phaseNumerator outputRate : ℕ) : ℚ :=
  (blockStart : ℚ) + (phaseNumerator : ℚ) / outputRate - (resamplerRadius + 1)

/-- The kernel of a resampler, which counts its samples. -/
def kernel : RtlKernel where
  interpolate current history blockStart phaseNumerator outputRate :=
    floats.interpolate (sourceSample current history blockStart.toNat)
      (delayed blockStart.toNat phaseNumerator outputRate)
  encode := floats.encode

/-- The kernel of one block, which starts at an index of the stream. -/
def blockKernel (blockStart : ℕ) : RtlKernel where
  interpolate current history _ phaseNumerator outputRate :=
    floats.interpolate (sourceSample current history blockStart)
      (delayed blockStart phaseNumerator outputRate)
  encode := floats.encode

/-- **A stream in frames**, resampled frame by frame. The blocks start where
they start in the stream, however long that is. -/
def resampleFrom : ℕ → List IqFrame → RtlTcpResampler →
    List UInt8 × RtlTcpResampler
  | _, [], r => ([], r)
  | start, frame :: frames, r =>
    let one := r.resampleIq (floats.blockKernel start) frame.encode
      rtlPendingSize
    let rest := resampleFrom (start + frame.samples.length) frames one.2
    (one.1 ++ rest.1, rest.2)

/-! ## The stream in one piece -/

/-- So many outputs from one on, of a stream: the bytes, and the errors
carried over. -/
def outputs (rate : ℕ) (sampleI sampleQ : ℤ → UInt32) :
    ℕ → ℕ → UInt32 × UInt32 → List UInt8 × (UInt32 × UInt32)
  | 0, _, errors => ([], errors)
  | k + 1, m, errors =>
    let position : ℚ :=
      (m * rtlTcpInputRate : ℕ) / (rate : ℚ) - (resamplerRadius + 1)
    let i := floats.encode (floats.interpolate sampleI position) errors.1
    let q := floats.encode (floats.interpolate sampleQ position) errors.2
    let rest := outputs rate sampleI sampleQ k (m + 1) (i.2, q.2)
    (i.1 :: q.1 :: rest.1, rest.2)

end RtlFloats

/-- The number of outputs that fall into so many samples. -/
def outputsDue (rate samples : ℕ) : ℕ :=
  (samples * rate + (rtlTcpInputRate - 1)) / rtlTcpInputRate

/-- The I samples of a stream. -/
def streamI (samples : List IqSample) : List UInt32 :=
  samples.map (·.i)

/-- The Q samples, negated. -/
def streamQ (samples : List IqSample) : List UInt32 :=
  samples.map (negateF32 ·.q)

@[simp] theorem length_streamI (samples : List IqSample) :
    (streamI samples).length = samples.length :=
  List.length_map _

@[simp] theorem length_streamQ (samples : List IqSample) :
    (streamQ samples).length = samples.length :=
  List.length_map _

theorem streamI_append (samples more : List IqSample) :
    streamI (samples ++ more) = streamI samples ++ streamI more :=
  List.map_append

theorem streamQ_append (samples more : List IqSample) :
    streamQ (samples ++ more) = streamQ samples ++ streamQ more :=
  List.map_append

/-- **The stream resampled**: the bytes of all its outputs, and the
resampler behind them. -/
def RtlFloats.resampled {D : Type*} (floats : RtlFloats D) (rate : ℕ)
    (samples : List IqSample) : List UInt8 × RtlTcpResampler :=
  let out := floats.outputs rate (Window.get 0 (streamI samples))
    (Window.get 0 (streamQ samples)) (outputsDue rate samples.length) 0 (0, 0)
  (out.1,
    { outputRate := rate
      phaseNumerator := outputsDue rate samples.length * rtlTcpInputRate
        - samples.length * rate
      inputSamples := UInt64.ofNat samples.length
      historyI := Window.last rtlTcpResamplerHistory (streamI samples)
      historyQ := Window.last rtlTcpResamplerHistory (streamQ samples)
      errorI := out.2.1
      errorQ := out.2.2 })

/-! ## Lookups -/

/-- The center is the floor of the position, or one more. -/
theorem kernelCenter_bounds (position : ℚ) :
    ⌊position⌋ ≤ (kernelCenter position).1 ∧
      (kernelCenter position).1 ≤ ⌊position⌋ + 1 := by
  unfold kernelCenter
  dsimp only
  split
  · exact ⟨Int.le_add_one le_rfl, le_rfl⟩
  · exact ⟨le_rfl, Int.le_add_one le_rfl⟩

/-- Where the taps of a position are. -/
theorem tapIndex_bounds (position : ℚ) {tap : ℕ} (h : tap < resamplerTaps) :
    ⌊position⌋ - 8 ≤ tapIndex position tap ∧
      tapIndex position tap ≤ ⌊position⌋ + 9 := by
  obtain ⟨hlow, hhigh⟩ := kernelCenter_bounds position
  have htaps : resamplerTaps = 17 := rfl
  have hradius : resamplerRadius = 8 := rfl
  unfold tapIndex
  omega

/-- The interpolation reads the samples under its taps only. -/
theorem RtlFloats.interpolate_congr {D : Type*} (floats : RtlFloats D)
    {sample sample' : ℤ → UInt32} {position : ℚ}
    (h : ∀ tap < resamplerTaps,
      sample (tapIndex position tap) = sample' (tapIndex position tap)) :
    floats.interpolate sample position = floats.interpolate sample' position := by
  unfold interpolate
  congr 1
  refine List.foldl_ext _ _ _ fun total tap htap => ?_
  rw [h tap (List.mem_range.mp htap)]

/-- The positions of a block, so far behind its samples. -/
theorem floor_delayed (start : ℕ) {phase rate count : ℕ} (hrate : 0 < rate)
    (hphase : phase < count * rate) :
    (start : ℤ) - 9 ≤ ⌊RtlFloats.delayed start phase rate⌋ ∧
      ⌊RtlFloats.delayed start phase rate⌋ ≤ (start : ℤ) + count - 10 := by
  have hpos : (0 : ℚ) < rate := Nat.cast_pos.mpr hrate
  have hquotient : (phase : ℚ) / rate < count := by
    rw [div_lt_iff₀ hpos]
    exact_mod_cast hphase
  have hnonneg : (0 : ℚ) ≤ (phase : ℚ) / rate := by positivity
  have hradius : (resamplerRadius : ℚ) = 8 := rfl
  unfold RtlFloats.delayed
  rw [hradius]
  constructor
  · rw [Int.le_floor]
    push_cast
    linarith
  · rw [← Int.lt_add_one_iff, Int.floor_lt]
    push_cast
    linarith

/-- **Every lookup of a block** is of one of its samples, or of the seventeen
before it. -/
theorem tapIndex_delayed (start : ℕ) {phase rate count tap : ℕ} (hrate : 0 < rate)
    (hphase : phase < count * rate) (htap : tap < resamplerTaps) :
    (start : ℤ) - 17 ≤ tapIndex (RtlFloats.delayed start phase rate) tap ∧
      tapIndex (RtlFloats.delayed start phase rate) tap < start + count := by
  obtain ⟨hlow, hhigh⟩ := tapIndex_bounds
    (RtlFloats.delayed start phase rate) htap
  obtain ⟨hlow', hhigh'⟩ := floor_delayed start hrate hphase
  omega

/-- **A lookup finds the sample of the stream**, in the block or in what was
kept of the samples before it. -/
theorem sourceSample_eq (before current after : List UInt32) {index : ℤ}
    (hlow : (before.length : ℤ) - rtlTcpResamplerHistory ≤ index)
    (hhigh : index < before.length + current.length) :
    sourceSample current (Window.last rtlTcpResamplerHistory before)
        before.length index
      = Window.get 0 (before ++ (current ++ after)) index := by
  unfold sourceSample
  split
  · next hcurrent =>
    rw [Window.get_append_right _ _ _ hcurrent.2,
      Window.get_append _ _ (by omega), Window.get_of_nonneg _ (by omega)]
    exact if_pos (by omega)
  · next hbefore =>
    by_cases hneg : index < 0
    · rw [if_pos (Or.inl hneg)]
      exact (if_pos hneg).symm
    rw [if_neg, Window.get_last 0 (by omega) hlow,
      Window.get_append _ _ (by omega)]
    rw [Window.length_last]
    omega

/-- What is kept for the next block is kept of the stream. -/
theorem RtlTcpResampler.keep_last (before current : List UInt32) :
    RtlTcpResampler.keep (Window.last rtlTcpResamplerHistory before) current
      = Window.last rtlTcpResamplerHistory (before ++ current) := by
  rw [← Window.last_last_append, Window.last_append]
  generalize Window.last rtlTcpResamplerHistory before = history
  have hold : history.length
      - min (rtlTcpResamplerHistory
          - min current.length rtlTcpResamplerHistory) history.length
      = history.length - (rtlTcpResamplerHistory - current.length) := by
    omega
  have hnew : current.length - min current.length rtlTcpResamplerHistory
      = current.length - rtlTcpResamplerHistory := by
    omega
  unfold keep
  dsimp only
  rw [hold, hnew]
  rfl

/-! ## One block -/

namespace RtlFloats

variable {D : Type*} (floats : RtlFloats D) {rate : ℕ}
  {sampleI sampleQ : ℤ → UInt32}

/-- A position of the stream, counted in the block it falls into. -/
theorem delayed_eq {start phase m : ℕ} (hrate : 0 < rate)
    (hphase : start * rate + phase = m * rtlTcpInputRate) :
    delayed start phase rate =
      (m * rtlTcpInputRate : ℕ) / (rate : ℚ) - (resamplerRadius + 1) := by
  have hne : (rate : ℚ) ≠ 0 := Nat.cast_ne_zero.mpr hrate.ne'
  rw [← hphase, delayed]
  push_cast
  rw [add_div, mul_div_cancel_right₀ _ hne]

/-- Outputs go on where others end. -/
theorem outputs_add (rate : ℕ) (sampleI sampleQ : ℤ → UInt32) (k l m : ℕ)
    (errors : UInt32 × UInt32) :
    floats.outputs rate sampleI sampleQ (k + l) m errors =
      ((floats.outputs rate sampleI sampleQ k m errors).1
          ++ (floats.outputs rate sampleI sampleQ l (m + k)
            (floats.outputs rate sampleI sampleQ k m errors).2).1,
        (floats.outputs rate sampleI sampleQ l (m + k)
          (floats.outputs rate sampleI sampleQ k m errors).2).2) := by
  induction k generalizing m errors with
  | zero =>
    rw [Nat.zero_add]
    rfl
  | succ k ih =>
    rw [Nat.succ_add, outputs, ih, Nat.add_right_comm m 1 k]
    rfl

/-- Outputs read the samples under their taps only. -/
theorem outputs_congr {sampleI' sampleQ' : ℤ → UInt32} (k m : ℕ)
    (errors : UInt32 × UInt32)
    (h : ∀ j, m ≤ j → j < m + k → ∀ tap < resamplerTaps,
      sampleI (tapIndex ((j * rtlTcpInputRate : ℕ) / (rate : ℚ)
          - (resamplerRadius + 1)) tap)
        = sampleI' (tapIndex ((j * rtlTcpInputRate : ℕ) / (rate : ℚ)
          - (resamplerRadius + 1)) tap)
      ∧ sampleQ (tapIndex ((j * rtlTcpInputRate : ℕ) / (rate : ℚ)
          - (resamplerRadius + 1)) tap)
        = sampleQ' (tapIndex ((j * rtlTcpInputRate : ℕ) / (rate : ℚ)
          - (resamplerRadius + 1)) tap)) :
    floats.outputs rate sampleI sampleQ k m errors =
      floats.outputs rate sampleI' sampleQ' k m errors := by
  induction k generalizing m errors with
  | zero => rfl
  | succ k ih =>
    have hfirst := h m le_rfl (by omega)
    have hI := floats.interpolate_congr fun tap htap => (hfirst tap htap).1
    have hQ := floats.interpolate_congr fun tap htap => (hfirst tap htap).2
    unfold outputs
    dsimp only
    rw [hI, hQ, ih (m + 1) _ fun j hlow hhigh => h j (by omega) (by omega)]

/-- The outputs of a resampler that has put out so many. -/
def outputsOf (sampleI sampleQ : ℤ → UInt32) (k m : ℕ) (r : RtlTcpResampler) :
    List UInt8 × (UInt32 × UInt32) :=
  floats.outputs r.outputRate sampleI sampleQ k m (r.errorI, r.errorQ)

/-- The resampler behind them, in the same block. -/
def advanced (sampleI sampleQ : ℤ → UInt32) (k m : ℕ) (r : RtlTcpResampler) :
    RtlTcpResampler :=
  { r with
    phaseNumerator := r.phaseNumerator + k * rtlTcpInputRate
    errorI := (floats.outputsOf sampleI sampleQ k m r).2.1
    errorQ := (floats.outputsOf sampleI sampleQ k m r).2.2 }

theorem advanced_zero (m : ℕ) (r : RtlTcpResampler) :
    floats.advanced sampleI sampleQ 0 m r = r := by
  unfold advanced
  rw [Nat.zero_mul, Nat.add_zero]
  rfl

/-- The rate stays. -/
theorem outputRate_advanced (k m : ℕ) (r : RtlTcpResampler) :
    (floats.advanced sampleI sampleQ k m r).outputRate = r.outputRate := by
  unfold advanced
  -- with a number in place of the product, the resamplers differ at sight
  generalize k * rtlTcpInputRate = ahead
  rfl

/-- One output, and more behind it. -/
theorem advanced_succ (sampleI sampleQ : ℤ → UInt32) (k m : ℕ)
    (r : RtlTcpResampler) :
    (floats.outputsOf sampleI sampleQ (k + 1) m r).1
        = (floats.outputsOf sampleI sampleQ 1 m r).1
          ++ (floats.outputsOf sampleI sampleQ k (m + 1)
            (floats.advanced sampleI sampleQ 1 m r)).1
      ∧ floats.advanced sampleI sampleQ k (m + 1)
          (floats.advanced sampleI sampleQ 1 m r)
        = floats.advanced sampleI sampleQ (k + 1) m r := by
  have hadd := floats.outputs_add r.outputRate sampleI sampleQ 1 k m
    (r.errorI, r.errorQ)
  rw [Nat.add_comm 1 k] at hadd
  constructor
  · exact congrArg Prod.fst hadd
  · unfold advanced outputsOf
    rw [hadd]
    dsimp only
    rw [Nat.add_assoc, ← Nat.add_mul, Nat.add_comm 1 k]

/-- **One pair put out** is the output of the stream, where the lookups find
the samples of the stream. -/
theorem emit_outputs {start m blockSpan : ℕ} {currentI currentQ : List UInt32}
    {r : RtlTcpResampler} (hrate : 0 < r.outputRate)
    (hphase : start * r.outputRate + r.phaseNumerator = m * rtlTcpInputRate)
    (hI : ∀ phase < blockSpan,
      floats.interpolate (sourceSample currentI r.historyI start)
          (delayed start phase r.outputRate)
        = floats.interpolate sampleI (delayed start phase r.outputRate))
    (hQ : ∀ phase < blockSpan,
      floats.interpolate (sourceSample currentQ r.historyQ start)
          (delayed start phase r.outputRate)
        = floats.interpolate sampleQ (delayed start phase r.outputRate))
    (hend : r.phaseNumerator < blockSpan) :
    r.emit (floats.blockKernel start) currentI currentQ
      = ((floats.outputsOf sampleI sampleQ 1 m r).1,
        floats.advanced sampleI sampleQ 1 m r) := by
  have hi : (floats.blockKernel start).interpolate currentI r.historyI
      r.inputSamples r.phaseNumerator r.outputRate = _ := hI _ hend
  have hq : (floats.blockKernel start).interpolate currentQ r.historyQ
      r.inputSamples r.phaseNumerator r.outputRate = _ := hQ _ hend
  unfold RtlTcpResampler.emit advanced
  rw [hi, hq, delayed_eq hrate hphase, Nat.one_mul]
  rfl

/-- **The loop of a block** puts out outputs of the stream, one after the
other. -/
theorem produce_outputs {start m blockSpan capacity turns : ℕ}
    {currentI currentQ : List UInt32} {output bytes : List UInt8}
    {r : RtlTcpResampler} (hrate : 0 < r.outputRate)
    (hphase : start * r.outputRate + r.phaseNumerator = m * rtlTcpInputRate)
    (hI : ∀ phase < blockSpan,
      floats.interpolate (sourceSample currentI r.historyI start)
          (delayed start phase r.outputRate)
        = floats.interpolate sampleI (delayed start phase r.outputRate))
    (hQ : ∀ phase < blockSpan,
      floats.interpolate (sourceSample currentQ r.historyQ start)
          (delayed start phase r.outputRate)
        = floats.interpolate sampleQ (delayed start phase r.outputRate))
    (hbytes : (r.produce (floats.blockKernel start) currentI currentQ blockSpan
      capacity turns output).1 = some bytes) :
    ∃ k, bytes = output ++ (floats.outputsOf sampleI sampleQ k m r).1
      ∧ (r.produce (floats.blockKernel start) currentI currentQ blockSpan
          capacity turns output).2
        = floats.advanced sampleI sampleQ k m r := by
  induction turns generalizing output r m with
  | zero =>
    obtain rfl : output = bytes := Option.some.inj hbytes
    exact ⟨0, (List.append_nil _).symm, (floats.advanced_zero m r).symm⟩
  | succ turns ih =>
    unfold RtlTcpResampler.produce at hbytes ⊢
    by_cases hend : blockSpan ≤ r.phaseNumerator
    · rw [if_pos hend] at hbytes ⊢
      obtain rfl : output = bytes := Option.some.inj hbytes
      exact ⟨0, (List.append_nil _).symm, (floats.advanced_zero m r).symm⟩
    rw [if_neg hend] at hbytes ⊢
    by_cases hroom : capacity < output.length + 2
    · rw [if_pos hroom] at hbytes
      exact absurd hbytes.symm (Option.some_ne_none _)
    rw [if_neg hroom] at hbytes ⊢
    dsimp only at hbytes ⊢
    rw [floats.emit_outputs hrate hphase hI hQ (Nat.not_le.mp hend)]
      at hbytes ⊢
    have hnext : start * r.outputRate
        + (floats.advanced sampleI sampleQ 1 m r).phaseNumerator
          = (m + 1) * rtlTcpInputRate := by
      show _ + (_ + 1 * rtlTcpInputRate) = _
      rw [← Nat.add_assoc, hphase, Nat.add_mul]
    obtain ⟨k, hput, hstate⟩ := ih
      (r := floats.advanced sampleI sampleQ 1 m r) hrate hnext hI hQ hbytes
    obtain ⟨hbytes', hadvanced⟩ := floats.advanced_succ sampleI sampleQ k m r
    refine ⟨k + 1, ?_, hstate.trans hadvanced⟩
    rw [hput, hbytes', List.append_assoc]

end RtlFloats

/-- The phase of an output before the last is in the span. -/
theorem phase_lt {j m span period : ℕ} (hj : j < m)
    (h : m * period < span + period) : j * period < span := by
  have hle := Nat.mul_le_mul_right period (show j + 1 ≤ m from hj)
  rw [Nat.add_one_mul] at hle
  omega

/-- The phase behind a block, counted from the beginning of the stream and
from the end of the block. -/
theorem phase_behind {start count m k rate phase period : ℕ}
    (hphase : start * rate + phase = m * period)
    (hend : count * rate ≤ phase + k * period)
    (hahead : phase + k * period < count * rate + period) :
    (start + count) * rate ≤ (m + k) * period
      ∧ (m + k) * period < (start + count) * rate + period
      ∧ phase + k * period - count * rate
        = (m + k) * period - (start + count) * rate := by
  rw [Nat.add_mul, Nat.add_mul, ← hphase]
  omega

/-- The outputs due reach the end of the samples, and no further than one
input period beyond. -/
theorem outputsDue_bounds (rate samples : ℕ) :
    samples * rate ≤ outputsDue rate samples * rtlTcpInputRate ∧
      outputsDue rate samples * rtlTcpInputRate
        < samples * rate + rtlTcpInputRate := by
  have hinput : rtlTcpInputRate = 48000 := rfl
  unfold outputsDue
  rw [hinput]
  generalize samples * rate = span
  omega

/-- No other number of outputs does. -/
theorem outputsDue_unique {rate samples k : ℕ}
    (hlow : samples * rate ≤ k * rtlTcpInputRate)
    (hhigh : k * rtlTcpInputRate < samples * rate + rtlTcpInputRate) :
    k = outputsDue rate samples := by
  obtain ⟨hlow', hhigh'⟩ := outputsDue_bounds rate samples
  have hinput : rtlTcpInputRate = 48000 := rfl
  rw [hinput] at hlow hhigh hlow' hhigh'
  generalize samples * rate = span at *
  omega

namespace RtlFloats

variable {D : Type*} (floats : RtlFloats D) {rate : ℕ}

/-- **More samples change no output** that was due before them. -/
theorem outputs_of_append (before more : List IqSample) (hrate : 0 < rate)
    (errors : UInt32 × UInt32) :
    floats.outputs rate (Window.get 0 (streamI (before ++ more)))
        (Window.get 0 (streamQ (before ++ more)))
        (outputsDue rate before.length) 0 errors
      = floats.outputs rate (Window.get 0 (streamI before))
        (Window.get 0 (streamQ before)) (outputsDue rate before.length) 0
        errors := by
  refine floats.outputs_congr _ _ _ fun j _ hj tap htap => ?_
  obtain ⟨-, hhigh⟩ := outputsDue_bounds rate before.length
  have hphase := phase_lt (hj.trans_eq (Nat.zero_add _)) hhigh
  obtain ⟨-, hindex⟩ := tapIndex_delayed 0 hrate hphase htap
  rw [delayed_eq hrate (by rw [Nat.zero_mul, Nat.zero_add]), Nat.cast_zero,
    zero_add] at hindex
  rw [streamI_append, streamQ_append]
  exact ⟨Window.get_append 0 _ (hindex.trans_eq
      (congrArg Nat.cast (length_streamI before).symm)),
    Window.get_append 0 _ (hindex.trans_eq
      (congrArg Nat.cast (length_streamQ before).symm))⟩

/-- **The lookups of a block** find the samples of the stream. -/
theorem interpolate_block {start : ℕ} (before current : List UInt32)
    (hstart : before.length = start) (hrate : 0 < rate) {phase : ℕ}
    (hphase : phase < current.length * rate) :
    floats.interpolate
        (sourceSample current (Window.last rtlTcpResamplerHistory before) start)
        (delayed start phase rate)
      = floats.interpolate (Window.get 0 (before ++ current))
        (delayed start phase rate) := by
  refine floats.interpolate_congr fun tap htap => ?_
  obtain ⟨hlow, hhigh⟩ := tapIndex_delayed start hrate hphase htap
  have hhistory : rtlTcpResamplerHistory = 64 := rfl
  rw [← hstart] at hlow hhigh ⊢
  have hfound := sourceSample_eq before current [] (by omega) hhigh
  rw [List.append_nil] at hfound
  exact hfound

/-- **A frame resampled** behind others: the next outputs of the stream, up
to the end of the frame. -/
theorem resampleIq_outputs {start m : ℕ} {beforeI beforeQ : List UInt32}
    {r : RtlTcpResampler} {frame : IqFrame} (hsteady : r.Steady)
    (hfits : frame.Fits publisherMaxSamples)
    (hphase : start * r.outputRate + r.phaseNumerator = m * rtlTcpInputRate)
    (hI : beforeI.length = start) (hQ : beforeQ.length = start)
    (hhistoryI : r.historyI = Window.last rtlTcpResamplerHistory beforeI)
    (hhistoryQ : r.historyQ = Window.last rtlTcpResamplerHistory beforeQ) :
    ∃ k, m + k = outputsDue r.outputRate (start + frame.samples.length)
      ∧ r.resampleIq (floats.blockKernel start) frame.encode rtlPendingSize
        = ((floats.outputsOf
              (Window.get 0 (beforeI ++ streamI frame.samples))
              (Window.get 0 (beforeQ ++ streamQ frame.samples)) k m r).1,
          { outputRate := r.outputRate
            phaseNumerator := (m + k) * rtlTcpInputRate
              - (start + frame.samples.length) * r.outputRate
            inputSamples :=
              r.inputSamples + UInt64.ofNat frame.samples.length
            historyI := Window.last rtlTcpResamplerHistory
              (beforeI ++ streamI frame.samples)
            historyQ := Window.last rtlTcpResamplerHistory
              (beforeQ ++ streamQ frame.samples)
            errorI := (floats.outputsOf
              (Window.get 0 (beforeI ++ streamI frame.samples))
              (Window.get 0 (beforeQ ++ streamQ frame.samples)) k m r).2.1
            errorQ := (floats.outputsOf
              (Window.get 0 (beforeI ++ streamI frame.samples))
              (Window.get 0 (beforeQ ++ streamQ frame.samples)) k m r).2.2 }) := by
  have hrate : 0 < r.outputRate := Nat.lt_of_lt_of_le (by decide) hsteady.low
  obtain ⟨bytes, hbytes, -, -, hend, hahead⟩ :=
    hsteady.block (floats.blockKernel start) hfits.pos hfits.le
  have hfoundI (phase : ℕ) (hlt : phase < frame.samples.length * r.outputRate) :
      floats.interpolate (sourceSample (streamI frame.samples) r.historyI start)
          (delayed start phase r.outputRate)
        = floats.interpolate (Window.get 0 (beforeI ++ streamI frame.samples))
          (delayed start phase r.outputRate) := by
    rw [hhistoryI]
    exact floats.interpolate_block beforeI _ hI hrate
      ((length_streamI _).symm ▸ hlt)
  have hfoundQ (phase : ℕ) (hlt : phase < frame.samples.length * r.outputRate) :
      floats.interpolate (sourceSample (streamQ frame.samples) r.historyQ start)
          (delayed start phase r.outputRate)
        = floats.interpolate (Window.get 0 (beforeQ ++ streamQ frame.samples))
          (delayed start phase r.outputRate) := by
    rw [hhistoryQ]
    exact floats.interpolate_block beforeQ _ hQ hrate
      ((length_streamQ _).symm ▸ hlt)
  obtain ⟨k, hput, hstate⟩ :=
    floats.produce_outputs hrate hphase hfoundI hfoundQ hbytes
  have hblock : (r.block (floats.blockKernel start) frame.samples).2 = _ :=
    hstate
  rw [hblock] at hend hahead
  have hphase' : (floats.advanced
      (Window.get 0 (beforeI ++ streamI frame.samples))
      (Window.get 0 (beforeQ ++ streamQ frame.samples)) k m r).phaseNumerator
        = r.phaseNumerator + k * rtlTcpInputRate := rfl
  rw [hphase'] at hend hahead
  obtain ⟨hreached, hnear, hleft⟩ := phase_behind hphase hend hahead
  refine ⟨k, outputsDue_unique hreached hnear, ?_⟩
  rw [RtlTcpResampler.resampleIq_of_block hsteady.low hfits hbytes, hblock,
    hhistoryI, hhistoryQ, RtlTcpResampler.keep_last,
    RtlTcpResampler.keep_last, hput, List.nil_append, hphase', hleft]
  dsimp only
  rw [outputRate_advanced]
  rfl

/-- The stream resampled, with what is put out at the end of its samples. -/
theorem resampled_eq (rate : ℕ) (samples : List IqSample) :
    ∃ out, floats.outputs rate (Window.get 0 (streamI samples))
        (Window.get 0 (streamQ samples)) (outputsDue rate samples.length) 0
        (0, 0) = out ∧
      floats.resampled rate samples = (out.1,
        { outputRate := rate
          phaseNumerator := outputsDue rate samples.length * rtlTcpInputRate
            - samples.length * rate
          inputSamples := UInt64.ofNat samples.length
          historyI := Window.last rtlTcpResamplerHistory (streamI samples)
          historyQ := Window.last rtlTcpResamplerHistory (streamQ samples)
          errorI := out.2.1
          errorQ := out.2.2 }) :=
  ⟨_, rfl, rfl⟩

/-- **One frame further**: a frame resampled behind others leads to what the
stream resampled in one piece leads to. -/
theorem resampled_append (hlow : rtlTcpInputRate ≤ rate)
    (hhigh : rate ≤ rtlTcpMaxRate) (before : List IqSample) {frame : IqFrame}
    (hfits : frame.Fits publisherMaxSamples) :
    (floats.resampled rate (before ++ frame.samples)).1
        = (floats.resampled rate before).1
          ++ ((floats.resampled rate before).2.resampleIq
            (floats.blockKernel before.length) frame.encode rtlPendingSize).1
      ∧ (floats.resampled rate (before ++ frame.samples)).2
        = ((floats.resampled rate before).2.resampleIq
          (floats.blockKernel before.length) frame.encode rtlPendingSize).2 := by
  have hrate : 0 < rate := Nat.lt_of_lt_of_le (by decide) hlow
  obtain ⟨hdue, hdue'⟩ := outputsDue_bounds rate before.length
  obtain ⟨out, hout, hbefore⟩ := floats.resampled_eq rate before
  obtain ⟨all, hall, hafter⟩ := floats.resampled_eq rate (before ++ frame.samples)
  rw [← floats.outputs_of_append before frame.samples hrate] at hout
  rw [hbefore, hafter]
  rw [List.length_append, streamI_append, streamQ_append] at hall ⊢
  rw [streamI_append, streamQ_append] at hout
  obtain ⟨r, hr⟩ : ∃ r, r = RtlTcpResampler.mk rate
      (outputsDue rate before.length * rtlTcpInputRate - before.length * rate)
      (UInt64.ofNat before.length)
      (Window.last rtlTcpResamplerHistory (streamI before))
      (Window.last rtlTcpResamplerHistory (streamQ before))
      out.2.1 out.2.2 := ⟨_, rfl⟩
  have hrate' : r.outputRate = rate := by rw [hr]
  have hphase : r.phaseNumerator
    = outputsDue rate before.length * rtlTcpInputRate - before.length * rate :=
    by rw [hr]
  have hcount : r.inputSamples = UInt64.ofNat before.length := by rw [hr]
  have herrors : (r.errorI, r.errorQ) = out.2 := by rw [hr]
  obtain ⟨k, hk, hresampled⟩ := floats.resampleIq_outputs
    ⟨hrate' ▸ hlow, hrate' ▸ hhigh,
      hphase ▸ Nat.sub_lt_left_of_lt_add hdue hdue'⟩ hfits
    (by rw [hrate', hphase]; exact Nat.add_sub_cancel' hdue)
    (length_streamI before) (length_streamQ before)
    (by rw [hr]) (by rw [hr])
  rw [hrate'] at hk
  rw [← hr, hresampled, outputsOf, hrate', hcount, herrors, ← hk,
    UInt64.ofNat_add]
  rw [← hk, outputs_add, hout, Nat.zero_add] at hall
  obtain ⟨more, hmore⟩ : ∃ more, more = floats.outputs rate
    (Window.get 0 (streamI before ++ streamI frame.samples))
    (Window.get 0 (streamQ before ++ streamQ frame.samples)) k
    (outputsDue rate before.length) out.2 := ⟨_, rfl⟩
  rw [← hmore] at hall ⊢
  rw [← hall]
  exact ⟨rfl, rfl⟩

/-- A stream of no samples leaves the resampler as it was reset. -/
theorem resampled_nil : floats.resampled rate [] = ([], .reset rate) := by
  have hnone : outputsDue rate 0 = 0 := by
    rw [outputsDue, Nat.zero_mul]
    rfl
  unfold resampled
  rw [List.length_nil, hnone, Nat.zero_mul, Nat.zero_mul]
  rfl

end RtlFloats

/-! ## Any number of blocks -/

/-- **A lookup in a block** of a stream: it does not run past the block, what
was kept reaches back to it, and it finds the sample of the stream at its
index. -/
structure RtlTcpResampler.Finds (r : RtlTcpResampler) (stream : List IqSample)
    (start : ℕ) (frame : IqFrame) (index : ℤ) : Prop where
  inside : index < start + frame.samples.length
  keptI : 0 ≤ index → (start : ℤ) - index ≤ r.historyI.length
  keptQ : 0 ≤ index → (start : ℤ) - index ≤ r.historyQ.length
  foundI : 0 ≤ index → (streamI stream)[index.toNat]?
    = some (sourceSample (streamI frame.samples) r.historyI start index)
  foundQ : 0 ≤ index → (streamQ stream)[index.toNat]?
    = some (sourceSample (streamQ frame.samples) r.historyQ start index)

/-- What is found in a list that goes on behind the block. -/
theorem found_sourceSample (before current after : List UInt32) {index : ℤ}
    (hnonneg : 0 ≤ index)
    (hlow : (before.length : ℤ) - rtlTcpResamplerHistory ≤ index)
    (hhigh : index < before.length + current.length) :
    (before ++ (current ++ after))[index.toNat]?
      = some (sourceSample current
        (Window.last rtlTcpResamplerHistory before) before.length index) := by
  rw [sourceSample_eq before current after hlow hhigh]
  refine Window.getElem?_eq_get 0 hnonneg (hhigh.trans_le ?_)
  rw [List.length_append, List.length_append]
  omega

namespace RtlFloats

variable {D : Type*} (floats : RtlFloats D) {rate : ℕ}

/-- The first frame, and those behind it. -/
theorem resampleFrom_cons (start : ℕ) (frame : IqFrame) (frames : List IqFrame)
    (r : RtlTcpResampler) :
    (floats.resampleFrom start (frame :: frames) r).1
        = (r.resampleIq (floats.blockKernel start) frame.encode
            rtlPendingSize).1
          ++ (floats.resampleFrom (start + frame.samples.length) frames
            (r.resampleIq (floats.blockKernel start) frame.encode
              rtlPendingSize).2).1
      ∧ (floats.resampleFrom start (frame :: frames) r).2
        = (floats.resampleFrom (start + frame.samples.length) frames
          (r.resampleIq (floats.blockKernel start) frame.encode
            rtlPendingSize).2).2 :=
  ⟨rfl, rfl⟩

/-- **A stream resampled frame by frame**, from somewhere in it on. -/
theorem resampled_frames (hlow : rtlTcpInputRate ≤ rate)
    (hhigh : rate ≤ rtlTcpMaxRate) (before : List IqSample)
    {frames : List IqFrame}
    (hfits : ∀ frame ∈ frames, frame.Fits publisherMaxSamples) :
    floats.resampled rate (before ++ frames.flatMap IqFrame.samples)
      = ((floats.resampled rate before).1
          ++ (floats.resampleFrom before.length frames
            (floats.resampled rate before).2).1,
        (floats.resampleFrom before.length frames
          (floats.resampled rate before).2).2) := by
  induction frames generalizing before with
  | nil =>
    obtain ⟨stream, hstream⟩ : ∃ s, s = floats.resampled rate before := ⟨_, rfl⟩
    rw [List.flatMap_nil, List.append_nil, resampleFrom, ← hstream,
      List.append_nil]
  | cons frame frames ih =>
    obtain ⟨hbytes, hstate⟩ := floats.resampled_append hlow hhigh before
      (hfits frame List.mem_cons_self)
    obtain ⟨hbytes', hstate'⟩ := floats.resampleFrom_cons before.length frame
      frames (floats.resampled rate before).2
    rw [List.flatMap_cons, ← List.append_assoc,
      ih _ fun f hf => hfits f (List.mem_cons_of_mem _ hf), List.length_append,
      hbytes, hstate, hbytes', hstate', List.append_assoc]

/-- Frames resampled one by one are the stream of their samples
resampled. -/
theorem resampleFrom_reset (hlow : rtlTcpInputRate ≤ rate)
    (hhigh : rate ≤ rtlTcpMaxRate) {frames : List IqFrame}
    (hfits : ∀ frame ∈ frames, frame.Fits publisherMaxSamples) :
    floats.resampleFrom 0 frames (.reset rate)
      = floats.resampled rate (frames.flatMap IqFrame.samples) := by
  have hall := floats.resampled_frames hlow hhigh [] hfits
  rw [floats.resampled_nil, List.nil_append, List.nil_append] at hall
  exact hall.symm

/-- Every lookup of every block finds the sample of the stream. -/
theorem finds_resampleFrom (hlow : rtlTcpInputRate ≤ rate)
    (hhigh : rate ≤ rtlTcpMaxRate) {before after : List IqFrame}
    (hfits : ∀ frame ∈ before, frame.Fits publisherMaxSamples)
    (frame : IqFrame) {phase tap : ℕ}
    (hphase : phase < frame.samples.length * rate) (htap : tap < resamplerTaps) :
    (floats.resampleFrom 0 before (.reset rate)).2.Finds
      ((before ++ frame :: after).flatMap IqFrame.samples)
      (before.flatMap IqFrame.samples).length frame
      (tapIndex (delayed (before.flatMap IqFrame.samples).length phase rate)
        tap) := by
  have hrate : 0 < rate := Nat.lt_of_lt_of_le (by decide) hlow
  have hhistory : rtlTcpResamplerHistory = 64 := rfl
  rw [floats.resampleFrom_reset hlow hhigh hfits, List.flatMap_append,
    List.flatMap_cons]
  generalize before.flatMap IqFrame.samples = samples
  obtain ⟨hreach, hend⟩ := tapIndex_delayed samples.length hrate hphase htap
  obtain ⟨out, -, hbefore⟩ := floats.resampled_eq rate samples
  rw [hbefore]
  constructor
  · exact hend
  · intro hnonneg
    rw [Window.length_last, length_streamI]
    omega
  · intro hnonneg
    rw [Window.length_last, length_streamQ]
    omega
  · intro hnonneg
    have hfound := found_sourceSample (streamI samples)
      (streamI frame.samples) (streamI (after.flatMap IqFrame.samples)) hnonneg
    rw [length_streamI, length_streamI] at hfound
    rw [streamI_append, streamI_append]
    exact hfound (by omega) hend
  · intro hnonneg
    have hfound := found_sourceSample (streamQ samples)
      (streamQ frame.samples) (streamQ (after.flatMap IqFrame.samples)) hnonneg
    rw [length_streamQ, length_streamQ] at hfound
    rw [streamQ_append, streamQ_append]
    exact hfound (by omega) hend

/-! ## Counting samples -/

/-- A block resampled by a kernel that counts its samples is resampled by
that of the block. -/
theorem resampleIq_kernel (framed : List UInt8) (capacity : ℕ)
    (r : RtlTcpResampler) :
    r.resampleIq floats.kernel framed capacity
      = r.resampleIq (floats.blockKernel r.inputSamples.toNat) framed
        capacity := by
  have hproduce (currentI currentQ : List UInt32) (blockSpan turns : ℕ)
      (output : List UInt8) (s : RtlTcpResampler)
      (hcount : s.inputSamples = r.inputSamples) :
      s.produce floats.kernel currentI currentQ blockSpan capacity turns output
        = s.produce (floats.blockKernel r.inputSamples.toNat) currentI currentQ
          blockSpan capacity turns output := by
    induction turns generalizing output s with
    | zero => rfl
    | succ turns ih =>
      have hemit : s.emit floats.kernel currentI currentQ
          = s.emit (floats.blockKernel r.inputSamples.toNat) currentI
            currentQ := by
        rw [← hcount]
        rfl
      rw [RtlTcpResampler.produce, RtlTcpResampler.produce, hemit]
      have hnext := ih (output ++ (s.emit
          (floats.blockKernel r.inputSamples.toNat) currentI currentQ).1)
        (s.emit (floats.blockKernel r.inputSamples.toNat) currentI currentQ).2
        hcount
      dsimp only
      rw [hnext]
  unfold RtlTcpResampler.resampleIq
  split
  · rfl
  · dsimp only
    rw [hproduce _ _ _ _ _ _ rfl]

/-- What a resampler counts, as long as it does not wrap around. -/
theorem toNat_inputSamples (rate : ℕ) {samples : List IqSample}
    (hlt : samples.length < 2 ^ 64) :
    (floats.resampled rate samples).2.inputSamples.toNat = samples.length :=
  UInt64.toNat_ofNat_of_lt hlt

/-- **The count is the place in the stream**, as long as it does not wrap
around. -/
theorem resampleAll_kernel (hlow : rtlTcpInputRate ≤ rate)
    (hhigh : rate ≤ rtlTcpMaxRate) {frames : List IqFrame}
    (hfits : ∀ frame ∈ frames, frame.Fits publisherMaxSamples)
    (hlt : (frames.flatMap IqFrame.samples).length < 2 ^ 64) :
    (RtlTcpResampler.resampleAll floats.kernel (frames.map IqFrame.encode)
        (.reset rate)).1.flatten
        = (floats.resampled rate (frames.flatMap IqFrame.samples)).1
      ∧ (RtlTcpResampler.resampleAll floats.kernel (frames.map IqFrame.encode)
          (.reset rate)).2
        = (floats.resampled rate (frames.flatMap IqFrame.samples)).2 := by
  induction frames using List.reverseRecOn with
  | nil =>
    rw [List.flatMap_nil, floats.resampled_nil]
    exact ⟨rfl, rfl⟩
  | append_singleton frames frame ih =>
    rw [List.flatMap_append, List.flatMap_singleton] at hlt ⊢
    rw [List.length_append] at hlt
    have hbefore := Nat.lt_of_le_of_lt (Nat.le_add_right _ _) hlt
    obtain ⟨hbytes, hstate⟩ :=
      ih (fun f hf => hfits f (List.mem_append_left _ hf)) hbefore
    obtain ⟨hbytes', hstate'⟩ := floats.resampled_append hlow hhigh
      (frames.flatMap IqFrame.samples) (hfits frame (by simp))
    rw [List.map_append, List.map_singleton, RtlTcpResampler.resampleAll_append,
      List.flatten_append, List.flatten_singleton, hbytes, hstate, hbytes',
      hstate', resampleIq_kernel, floats.toNat_inputSamples rate hbefore]
    exact ⟨rfl, rfl⟩

end RtlFloats

/-! ## Any cutting -/

namespace RtlFloats

variable {D : Type*} (floats : RtlFloats D) {rate : ℕ}

/-- **A stream is resampled however it is cut**: at every rate a client may
set, two cuttings of one stream into frames of 1 to 256 samples give the same
bytes, and the same resampler behind them; every lookup in every block finds
the sample of the stream; and what the resampler makes of the frames when it
counts its samples is just this, as long as the count does not wrap
around. -/
theorem cutting_independent (hlow : rtlTcpInputRate ≤ rate)
    (hhigh : rate ≤ rtlTcpMaxRate) {frames frames' : List IqFrame}
    (hfits : ∀ frame ∈ frames, frame.Fits publisherMaxSamples)
    (hfits' : ∀ frame ∈ frames', frame.Fits publisherMaxSamples)
    (hsame : frames.flatMap IqFrame.samples = frames'.flatMap IqFrame.samples) :
    floats.resampleFrom 0 frames (.reset rate)
        = floats.resampleFrom 0 frames' (.reset rate)
      ∧ (∀ before frame after, frames = before ++ frame :: after →
        ∀ phase < frame.samples.length * rate, ∀ tap < resamplerTaps,
          (floats.resampleFrom 0 before (.reset rate)).2.Finds
            (frames.flatMap IqFrame.samples)
            (before.flatMap IqFrame.samples).length frame
            (tapIndex
              (delayed (before.flatMap IqFrame.samples).length phase rate)
              tap))
      ∧ ((frames.flatMap IqFrame.samples).length < 2 ^ 64 →
        (RtlTcpResampler.resampleAll floats.kernel (frames.map IqFrame.encode)
            (.reset rate)).1.flatten
          = (floats.resampleFrom 0 frames (.reset rate)).1
        ∧ (RtlTcpResampler.resampleAll floats.kernel (frames.map IqFrame.encode)
            (.reset rate)).2
          = (floats.resampleFrom 0 frames (.reset rate)).2) := by
  refine ⟨?_, ?_, fun hlt => ?_⟩
  · rw [floats.resampleFrom_reset hlow hhigh hfits, hsame,
      floats.resampleFrom_reset hlow hhigh hfits']
  · rintro before frame after rfl phase hphase tap htap
    exact floats.finds_resampleFrom hlow hhigh
      (fun f hf => hfits f (List.mem_append_left _ hf)) frame hphase htap
  · rw [floats.resampleFrom_reset hlow hhigh hfits]
    exact floats.resampleAll_kernel hlow hhigh hfits hlt

/-- Whole numbers in place of floats. -/
def whole : RtlFloats ℕ where
  weight phase tap := UInt32.ofNat (phase + tap)
  zero := 0
  accumulate total weight sample := total + weight.toNat * sample.toNat
  narrow := UInt32.ofNat
  encode value error := ((value + error).toUInt8, error + 1)

/-- Two samples in one frame, and in two. -/
theorem cutting_independent_pair :
    whole.resampleFrom 0 [{ sequence := 0, samples := [⟨1, 2⟩, ⟨3, 4⟩] }]
        (.reset 250000)
      = whole.resampleFrom 0
        [{ sequence := 0, samples := [⟨1, 2⟩] },
          { sequence := 1, samples := [⟨3, 4⟩] }] (.reset 250000) := by
  have hone : ∀ frame ∈ [IqFrame.mk 0 [⟨1, 2⟩, ⟨3, 4⟩]],
      frame.Fits publisherMaxSamples := by
    intro frame hframe
    obtain rfl := List.mem_singleton.mp hframe
    exact ⟨by decide, by decide⟩
  have htwo : ∀ frame ∈ [IqFrame.mk 0 [⟨1, 2⟩], IqFrame.mk 1 [⟨3, 4⟩]],
      frame.Fits publisherMaxSamples := by
    intro frame hframe
    obtain rfl | rfl := List.mem_pair.mp hframe
    · exact ⟨by decide, by decide⟩
    · exact ⟨by decide, by decide⟩
  exact (whole.cutting_independent (show rtlTcpInputRate ≤ 250000 from Nat.le_of_ble_eq_true rfl)
    (by decide) hone htwo rfl).1

end RtlFloats

/-! ## How many outputs -/

namespace RtlTcpResampler

variable {r : RtlTcpResampler} {frame : IqFrame}

/-- **A frame taken by a resampler in step**: pairs are put out, one at
least, and take the phase to the end of the frame and beyond. -/
structure Takes (kernel : RtlKernel) (r : RtlTcpResampler) (frame : IqFrame) :
    Prop where
  /-- The return for want of room is not taken. -/
  fits : (r.block kernel frame.samples).1
    = some (r.resampleIq kernel frame.encode rtlPendingSize).1
  even : Even (r.resampleIq kernel frame.encode rtlPendingSize).1.length
  some_pair : 2 ≤ (r.resampleIq kernel frame.encode rtlPendingSize).1.length
  phase : (r.resampleIq kernel frame.encode rtlPendingSize).1.length * 24000
      + r.phaseNumerator
    = frame.samples.length * r.outputRate
      + (r.resampleIq kernel frame.encode rtlPendingSize).2.phaseNumerator

/-- A resampler in step takes every frame. -/
theorem Steady.takes (kernel : RtlKernel) (h : r.Steady)
    (hfits : frame.Fits publisherMaxSamples) : Takes kernel r frame := by
  obtain ⟨bytes, hbytes, hdone, hend⟩ :=
    h.inPhase kernel hfits.pos hfits.le
  have hall := resampleIq_of_block h.low hfits hbytes
  have hlong : 1 * rtlTcpInputRate ≤ frame.samples.length * r.outputRate :=
    Nat.mul_le_mul hfits.pos h.low
  have hphase := h.phase
  have hcount := hdone.phase
  obtain ⟨half, hhalf⟩ := hdone.even
  constructor
  · rw [hall, hbytes]
  · rw [hall]
    exact hdone.even
  · rw [hall]
    show 2 ≤ bytes.length
    omega
  · rw [hall]
    show bytes.length * 24000 + r.phaseNumerator = _ + (_ - _)
    omega

/-- The bytes of all frames, and how far they take the phase. -/
theorem resampleAll_phase (kernel : RtlKernel) {rate : ℕ} (hlow : rtlTcpInputRate ≤ rate)
    (hhigh : rate ≤ rtlTcpMaxRate) {frames : List IqFrame}
    (hfits : ∀ frame ∈ frames, frame.Fits publisherMaxSamples) :
    let all := resampleAll kernel (frames.map IqFrame.encode) (.reset rate)
    Even all.1.flatten.length ∧ all.2.outputRate = rate
      ∧ all.1.flatten.length * 24000
        = (frames.flatMap IqFrame.samples).length * rate
          + all.2.phaseNumerator := by
  induction frames using List.reverseRecOn with
  | nil => exact ⟨⟨0, rfl⟩, rfl, (Nat.zero_mul _).trans (Nat.zero_mul _).symm⟩
  | append_singleton frames frame ih =>
    have hbefore (f : IqFrame) (hf : f ∈ frames) : f.Fits publisherMaxSamples :=
      hfits f (List.mem_append_left _ hf)
    have hsteady : (resampleAll kernel (frames.map IqFrame.encode)
        (.reset rate)).2.Steady :=
      (steady_reset hlow hhigh).resampleAll hbefore
    obtain ⟨heven, hrate, hphase⟩ := ih hbefore
    have htakes := hsteady.takes kernel (hfits frame (by simp))
    have hcount := htakes.phase
    rw [List.map_append, List.map_singleton, resampleAll_append]
    dsimp only
    rw [List.flatten_append, List.flatten_singleton, List.length_append,
      List.flatMap_append, List.flatMap_singleton, List.length_append]
    refine ⟨heven.add htakes.even,
      (resampleIq_pairs _ _ _ _).2.trans hrate, ?_⟩
    rw [hrate] at hcount
    rw [Nat.add_mul, hphase, Nat.add_mul, Nat.add_assoc, Nat.add_assoc,
      ← hcount]
    exact congrArg (_ + ·) (Nat.add_comm _ _)

end RtlTcpResampler

/-- A number of periods that ends less than one beyond a length. -/
theorem ceil_div_eq {length count phase : ℕ} (period : ℕ)
    (h : count * period = length + phase) (hlt : phase < period) :
    ⌈(length : ℚ) / period⌉₊ = count := by
  have hpos : (0 : ℚ) < period := Nat.cast_pos.mpr (Nat.zero_lt_of_lt hlt)
  refine le_antisymm (Nat.ceil_le.mpr ?_) ?_
  · rw [div_le_iff₀ hpos]
    exact_mod_cast h ▸ Nat.le_add_right length phase
  · cases count with
    | zero => exact Nat.zero_le _
    | succ count =>
      rw [Nat.add_one_mul] at h
      refine Nat.succ_le_of_lt (Nat.lt_ceil.mpr ?_)
      rw [lt_div_iff₀ hpos]
      exact_mod_cast (show count * period < length by omega)

/-- **How many outputs there are**: at every rate a client may set, frames of
1 to 256 samples give pairs as many as the samples' time at that rate, rounded
up; between the frames the phase stays below one input period; and every frame
gives one pair at least, and never runs out of room. -/
theorem RtlTcpResampler.count_outputs (kernel : RtlKernel) {rate : ℕ}
    (hlow : 48000 ≤ rate) (hhigh : rate ≤ 3072000) {frames : List IqFrame}
    (hfits : ∀ frame ∈ frames, frame.Fits publisherMaxSamples) :
    (resampleAll kernel (frames.map IqFrame.encode)
        (.reset rate)).1.flatten.length
      = 2 * ⌈(((frames.flatMap IqFrame.samples).length * rate : ℕ) : ℚ)
        / 48000⌉₊
      ∧ (resampleAll kernel (frames.map IqFrame.encode)
        (.reset rate)).2.phaseNumerator < 48000
      ∧ ∀ before frame after, frames = before ++ frame :: after →
        (resampleAll kernel (before.map IqFrame.encode)
            (.reset rate)).2.phaseNumerator < 48000
        ∧ Takes kernel (resampleAll kernel (before.map IqFrame.encode)
          (.reset rate)).2 frame := by
  have hsteady {before : List IqFrame} (hbefore : ∀ f ∈ before,
      f.Fits publisherMaxSamples) : (resampleAll kernel
        (before.map IqFrame.encode) (.reset rate)).2.Steady :=
    (steady_reset hlow hhigh).resampleAll hbefore
  refine ⟨?_, (hsteady hfits).phase, ?_⟩
  · obtain ⟨⟨half, hhalf⟩, -, hphase⟩ :=
      resampleAll_phase kernel hlow hhigh hfits
    rw [hhalf, ← two_mul, Nat.mul_comm 2 half, Nat.mul_assoc] at hphase
    rw [hhalf, ← two_mul, ← ceil_div_eq (2 * 24000) hphase (hsteady hfits).phase]
    rfl
  · rintro before frame after rfl
    have hbefore := hsteady fun f hf => hfits f (List.mem_append_left _ hf)
    exact ⟨hbefore.phase, hbefore.takes kernel (hfits frame (by simp))⟩

/-- A frame of one sample and one of two, at 250 kHz. -/
theorem RtlTcpResampler.count_outputs_two :
    (resampleAll .silent ([IqFrame.mk 0 [⟨1, 2⟩],
        IqFrame.mk 1 [⟨3, 4⟩, ⟨5, 6⟩]].map IqFrame.encode)
      (.reset 250000)).1.flatten.length
      = 2 * ⌈((3 * 250000 : ℕ) : ℚ) / 48000⌉₊ := by
  have hfits : ∀ frame ∈ [IqFrame.mk 0 [⟨1, 2⟩],
      IqFrame.mk 1 [⟨3, 4⟩, ⟨5, 6⟩]], frame.Fits publisherMaxSamples := by
    intro frame hframe
    obtain rfl | rfl := List.mem_pair.mp hframe
    · exact ⟨by decide, by decide⟩
    · exact ⟨by decide, by decide⟩
  exact (count_outputs .silent (show 48000 ≤ 250000 by omega) (by decide)
    hfits).1
