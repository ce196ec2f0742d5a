import Mathlib.Data.List.GetD
import Flex1500.Lib.CFloat
import Flex1500.Lib.DelayLine
import Flex1500.TxAudioStream

/-!
# The transmit filters

`tx_dsp.c` makes a complex signal of the microphone: a high pass, a band pass
over the last 129 values, and then either a carrier of the amplitude of what
came out, or a Hilbert transform over the last 129 filtered values, with the
filtered value from the middle of them as the other component.

Both filters read a delay line backwards that is written in a circle. What
they compute is the convolution of what went in, which `run_convolves` says of
every sample of every input; and since reading or writing a cell that is not
there fails, it also says that no index ever leaves its array.

Nothing is known of the arithmetic but the order in which the code uses it.
-/

/-- `FLEX1500_TX_FIR_TAPS`. -/
def txFirTaps : ℕ := 129

/-- `FLEX1500_TX_MIN_LOW_CUT_HZ`. -/
def txMinLowCutHz : UInt32 := 50

/-- `FLEX1500_TX_MAX_HIGH_CUT_HZ`. -/
def txMaxHighCutHz : UInt32 := 12000

/-- `FLEX1500_TX_MIN_PASSBAND_HZ`. -/
def txMinPassbandHz : UInt32 := 100

/-- `FLEX1500_TX_AM_IF_HZ`. -/
def txAmIfHz : ℤ := 11025

/-- A complex sample (`flex1500_iq_sample`), as floats. -/
structure TxIq (F : Type*) where
  i : F
  q : F

/-- The filters and their delay lines (`flex1500_tx_dsp`). -/
structure TxDsp (F : Type*) where
  bandpass : List F
  hilbert : List F
  audioHistory : List F
  filteredHistory : List F
  audioIndex : ℕ := 0
  filteredIndex : ℕ := 0
  previousInput : F
  previousHighpass : F
  carrierPhase : F
  lowCutHz : UInt32
  highCutHz : UInt32
  mode : TxMode

namespace TxDsp

variable {F : Type*} (ops : CFloat F)

/-! ## The coefficients -/

/-- `PI_F`. -/
def pi : F :=
  ops.lit 3.14159265358979323846

/-- `SAMPLE_RATE`. -/
def sampleRate : F :=
  ops.lit 48000

/-- `lowpass_coefficient`. -/
def lowpassCoefficient (cutoff : F) (offset : ℤ) : F :=
  if offset = 0 then ops.div (ops.mul (ops.lit 2) cutoff) (sampleRate ops)
  else
    ops.div
      (ops.sin (ops.div
        (ops.mul (ops.mul (ops.mul (ops.lit 2) (pi ops)) cutoff)
          (ops.ofInt offset))
        (sampleRate ops)))
      (ops.mul (pi ops) (ops.ofInt offset))

/-- How far a tap is from the middle one. -/
def tapOffset (tap : ℕ) : ℤ :=
  tap - ((txFirTaps - 1) / 2 : ℕ)

/-- The window of the coefficients. -/
def window (tap : ℕ) : F :=
  ops.sub (ops.lit 0.54) (ops.mul (ops.lit 0.46)
    (ops.cos (ops.div (ops.mul (ops.mul (ops.lit 2) (pi ops)) (ops.ofInt tap))
      (ops.ofInt (txFirTaps - 1 : ℕ)))))

/-- A coefficient of the band pass. -/
def bandpassTap (lowCutHz highCutHz : UInt32) (tap : ℕ) : F :=
  ops.mul
    (ops.sub (lowpassCoefficient ops (ops.ofInt highCutHz.toNat) (tapOffset tap))
      (lowpassCoefficient ops (ops.ofInt lowCutHz.toNat) (tapOffset tap)))
    (window ops tap)

/-- A coefficient of the Hilbert transform. -/
def hilbertTap (tap : ℕ) : F :=
  if tapOffset tap ≠ 0 ∧ tapOffset tap % 2 ≠ 0 then
    ops.div (ops.mul (ops.lit 2) (window ops tap))
      (ops.mul (pi ops) (ops.ofInt (tapOffset tap)))
  else ops.zero

/-- `flex1500_tx_dsp_init_passband`. The sum of the low cut and the least
width is one of 32 bits. -/
def init (mode : TxMode) (lowCutHz highCutHz : UInt32) : Option (TxDsp F) :=
  if lowCutHz < txMinLowCutHz ∨ txMaxHighCutHz < highCutHz
      ∨ highCutHz < lowCutHz + txMinPassbandHz then none
  else
    some
      { bandpass :=
          (List.range txFirTaps).map (bandpassTap ops lowCutHz highCutHz)
        hilbert := (List.range txFirTaps).map (hilbertTap ops)
        audioHistory := List.replicate txFirTaps ops.zero
        filteredHistory := List.replicate txFirTaps ops.zero
        previousInput := ops.zero
        previousHighpass := ops.zero
        carrierPhase := ops.zero
        lowCutHz := lowCutHz
        highCutHz := highCutHz
        mode := mode }

/-! ## One sample -/

/-- The loop of `fir`, for so many taps from one on. -/
def firFrom (coefficients history : List F) : ℕ → ℕ → ℕ → F → Option F
  | 0, _, _, output => some output
  | count + 1, tap, position, output => do
    let coefficient ← coefficients[tap]?
    let sample ← history[position]?
    firFrom coefficients history count (tap + 1)
      (if position = 0 then txFirTaps - 1 else position - 1)
      (ops.add output (ops.mul coefficient sample))

/-- `fir`. -/
def fir (coefficients history : List F) (newest : ℕ) : Option F :=
  firFrom ops coefficients history txFirTaps 0 newest ops.zero

/-- `AM_MODULATION_INDEX`. -/
def amModulationIndex : F :=
  ops.lit 0.8

/-- The carrier of an AM sample, and its phase then. -/
def carrier (inPhase carrierPhase : F) : TxIq F × F :=
  let bounded := ops.fmax (ops.lit (-1)) (ops.fmin (ops.lit 1) inPhase)
  let carrier := ops.div (ops.lit 1)
    (ops.add (ops.lit 1) (amModulationIndex ops))
  let envelope := ops.mul carrier
    (ops.add (ops.lit 1) (ops.mul (amModulationIndex ops) bounded))
  let turn := ops.mul (ops.lit 2) (pi ops)
  let phase := ops.add carrierPhase
    (ops.div (ops.mul turn (ops.ofInt txAmIfHz)) (sampleRate ops))
  (⟨ops.mul envelope (ops.cos carrierPhase),
      ops.mul (ops.neg envelope) (ops.sin carrierPhase)⟩,
    if ops.le turn phase then ops.sub phase turn else phase)

/-- What `flex1500_tx_dsp_process` computes of a sample: its local variables,
and what it returns. -/
structure Step (F : Type*) where
  filtered : F
  inPhase : F
  /-- Before the sign is changed; there is none in AM. -/
  quadrature : Option F
  output : TxIq F

/-- `flex1500_tx_dsp_process`. -/
def process (microphone : F) (dsp : TxDsp F) : Option (Step F × TxDsp F) := do
  let highpass := ops.add (ops.sub microphone dsp.previousInput)
    (ops.mul (ops.lit 0.995) dsp.previousHighpass)
  let audioHistory ← Ring.put dsp.audioIndex highpass dsp.audioHistory
  let filtered ← fir ops dsp.bandpass audioHistory dsp.audioIndex
  let filteredHistory ←
    Ring.put dsp.filteredIndex filtered dsp.filteredHistory
  let delayed := (dsp.filteredIndex + txFirTaps - (txFirTaps - 1) / 2)
    % txFirTaps
  let inPhase ← filteredHistory[delayed]?
  let next :=
    { dsp with
      previousInput := microphone
      previousHighpass := highpass
      audioHistory := audioHistory
      audioIndex := (dsp.audioIndex + 1) % txFirTaps
      filteredHistory := filteredHistory
      filteredIndex := (dsp.filteredIndex + 1) % txFirTaps }
  if dsp.mode = .am then
    let modulated := carrier ops inPhase dsp.carrierPhase
    some (⟨filtered, inPhase, none, modulated.1⟩,
      { next with carrierPhase := modulated.2 })
  else
    let quadrature ← fir ops dsp.hilbert filteredHistory dsp.filteredIndex
    some (⟨filtered, inPhase, some quadrature,
        ⟨inPhase, if dsp.mode = .usb then ops.neg quadrature else quadrature⟩⟩,
      next)

/-- Samples one after the other. -/
def run : List F → TxDsp F → Option (List (Step F) × TxDsp F)
  | [], dsp => some ([], dsp)
  | microphone :: rest, dsp => do
    let (step, dsp) ← process ops microphone dsp
    let (steps, dsp) ← run rest dsp
    some (step :: steps, dsp)

/-! ## What the filters are for -/

/-- The input after the high pass, with silence before its beginning. -/
def highpassed (input : ℕ → F) : ℕ → F
  | 0 =>
    ops.add (ops.sub (input 0) ops.zero) (ops.mul (ops.lit 0.995) ops.zero)
  | n + 1 =>
    ops.add (ops.sub (input (n + 1)) (input n))
      (ops.mul (ops.lit 0.995) (highpassed input n))

/-- **The convolution** of a signal with 129 coefficients: the sum, from the
newest value to the oldest, with zero before the beginning. -/
def convolved (coefficient x : ℕ → F) (n : ℕ) : F :=
  (List.range txFirTaps).foldl
    (fun output k =>
      ops.add output
        (ops.mul (coefficient k) (DelayLine.past ops.zero x n k)))
    ops.zero

/-- The filtered signal. -/
def filteredSignal (lowCutHz highCutHz : UInt32) (input : ℕ → F) : ℕ → F :=
  convolved ops (bandpassTap ops lowCutHz highCutHz) (highpassed ops input)

/-- The value before a time, zero at the beginning. -/
def latest (zero : F) (x : ℕ → F) : ℕ → F
  | 0 => zero
  | n + 1 => x n

/-- The high pass goes on from the value before. -/
theorem highpassed_eq (input : ℕ → F) (n : ℕ) :
    highpassed ops input n
      = ops.add (ops.sub (input n) (latest ops.zero input n))
        (ops.mul (ops.lit 0.995)
          (latest ops.zero (highpassed ops input) n)) := by
  cases n with
  | zero => rfl
  | succ n => rfl

/-! ## One step -/

variable {coefficients history : List F} {coefficient x : ℕ → F}
  {newest time : ℕ}

/-- The loop of `fir` adds up what is left of the convolution. -/
theorem firFrom_eq
    (hcoefficients : ∀ k < txFirTaps, coefficients[k]? = some (coefficient k))
    (hhistory : DelayLine.Keeps ops.zero x txFirTaps history
      ((newest + 1) % txFirTaps) (time + 1))
    (hnewest : newest < txFirTaps) (count tap : ℕ) (output : F)
    (htaps : tap + count = txFirTaps) :
    firFrom ops coefficients history count tap
        ((newest + txFirTaps - tap) % txFirTaps) output
      = some ((List.range' tap count).foldl
        (fun output k =>
          ops.add output
            (ops.mul (coefficient k) (DelayLine.past ops.zero x time k)))
        output) := by
  induction count generalizing tap output with
  | zero => rfl
  | succ count ih =>
    have htap : tap < txFirTaps := by omega
    rw [firFrom, hcoefficients tap htap, hhistory.read htap, List.range'_succ,
      List.foldl_cons, ← ih (tap + 1) _ (by omega),
      ← DelayLine.before_place hnewest htap]
    rfl

/-- **`fir` computes the convolution** of what its delay line keeps. -/
theorem fir_eq
    (hcoefficients : ∀ k < txFirTaps, coefficients[k]? = some (coefficient k))
    (hhistory : DelayLine.Keeps ops.zero x txFirTaps history
      ((newest + 1) % txFirTaps) (time + 1))
    (hnewest : newest < txFirTaps) :
    fir ops coefficients history newest
      = some (convolved ops coefficient x time) := by
  have hall := firFrom_eq ops hcoefficients hhistory hnewest txFirTaps 0
    ops.zero (Nat.zero_add _)
  rw [Nat.sub_zero, Nat.add_mod_right, Nat.mod_eq_of_lt hnewest,
    ← List.range_eq_range'] at hall
  exact hall

/-- A coefficient that was computed is there. -/
theorem getElem?_taps (coefficient : ℕ → F) (k : ℕ) (hk : k < txFirTaps) :
    ((List.range txFirTaps).map coefficient)[k]? = some (coefficient k) := by
  rw [List.getElem?_map, List.getElem?_range hk]
  rfl

variable (mode : TxMode) (lowCutHz highCutHz : UInt32) (input : ℕ → F)

/-- **The filters keep track** of a signal: their delay lines hold the latest
values of the high-passed and of the filtered one. -/
structure Tracks (n : ℕ) (dsp : TxDsp F) : Prop where
  bandpass : dsp.bandpass
    = (List.range txFirTaps).map (bandpassTap ops lowCutHz highCutHz)
  hilbert : dsp.hilbert = (List.range txFirTaps).map (hilbertTap ops)
  mode : dsp.mode = mode
  previousInput : dsp.previousInput = latest ops.zero input n
  previousHighpass : dsp.previousHighpass
    = latest ops.zero (highpassed ops input) n
  audio : DelayLine.Keeps ops.zero (highpassed ops input) txFirTaps
    dsp.audioHistory dsp.audioIndex n
  filtered : DelayLine.Keeps ops.zero
    (filteredSignal ops lowCutHz highCutHz input) txFirTaps
    dsp.filteredHistory dsp.filteredIndex n

/-- **What a step is to compute**: the filtered value, the one 64 steps back,
and in the sideband modes the Hilbert transform, whose sign the upper sideband
changes. -/
structure Computes (n : ℕ) (step : Step F) : Prop where
  filtered : step.filtered = filteredSignal ops lowCutHz highCutHz input n
  inPhase : step.inPhase = DelayLine.past ops.zero
    (filteredSignal ops lowCutHz highCutHz input) n 64
  quadrature : mode ≠ .am → step.quadrature = some (convolved ops
    (hilbertTap ops) (filteredSignal ops lowCutHz highCutHz input) n)
  output : mode ≠ .am → ∃ q, step.quadrature = some q
    ∧ step.output = ⟨step.inPhase, if mode = .usb then ops.neg q else q⟩

/-- New filters keep track of any signal. -/
theorem tracks_init {dsp : TxDsp F}
    (h : init ops mode lowCutHz highCutHz = some dsp) :
    Tracks ops mode lowCutHz highCutHz input 0 dsp := by
  unfold init at h
  split at h
  · exact absurd h.symm (Option.some_ne_none _)
  obtain rfl := Option.some.inj h
  have hpos : 0 < txFirTaps := by decide
  exact ⟨rfl, rfl, rfl, rfl, rfl, .init hpos, .init hpos⟩

/-- The filters one sample further, but for the phase of the carrier. -/
def advanced (microphone highpass filtered : F) (dsp : TxDsp F) : TxDsp F :=
  { dsp with
    previousInput := microphone
    previousHighpass := highpass
    audioHistory := dsp.audioHistory.set dsp.audioIndex highpass
    audioIndex := (dsp.audioIndex + 1) % txFirTaps
    filteredHistory := dsp.filteredHistory.set dsp.filteredIndex filtered
    filteredIndex := (dsp.filteredIndex + 1) % txFirTaps }

variable {mode lowCutHz highCutHz input} {n : ℕ} {dsp : TxDsp F}

/-- What filters that keep track make of a sample. -/
theorem Tracks.process_eq (h : Tracks ops mode lowCutHz highCutHz input n dsp)
    {filtered inPhase quadrature : F} {next : TxDsp F}
    (hfiltered : filtered = filteredSignal ops lowCutHz highCutHz input n)
    (hinPhase : inPhase = DelayLine.past ops.zero
      (filteredSignal ops lowCutHz highCutHz input) n 64)
    (hquadrature : quadrature = convolved ops (hilbertTap ops)
      (filteredSignal ops lowCutHz highCutHz input) n)
    (hnext : next = dsp.advanced (input n) (highpassed ops input n) filtered) :
    process ops (input n) dsp
      = if dsp.mode = .am then
          some (⟨filtered, inPhase, none,
              (carrier ops inPhase dsp.carrierPhase).1⟩,
            { next with
              carrierPhase := (carrier ops inPhase dsp.carrierPhase).2 })
        else
          some (⟨filtered, inPhase, some quadrature, ⟨inPhase,
              if dsp.mode = .usb then ops.neg quadrature else quadrature⟩⟩,
            next) := by
  have hlines := h.filtered.write
  rw [← hfiltered] at hlines
  have hput : Ring.put dsp.audioIndex (highpassed ops input n) dsp.audioHistory
      = some _ := Ring.put_eq _ h.audio.holds.start_lt
  have hput' : Ring.put dsp.filteredIndex filtered dsp.filteredHistory
      = some _ := Ring.put_eq _ h.filtered.holds.start_lt
  have hfir : fir ops dsp.bandpass
      (dsp.audioHistory.set dsp.audioIndex (highpassed ops input n))
      dsp.audioIndex = some filtered := by
    rw [h.bandpass, hfiltered]
    exact fir_eq ops (getElem?_taps _) h.audio.write h.audio.index_lt
  have hfir' : fir ops dsp.hilbert
      (dsp.filteredHistory.set dsp.filteredIndex filtered) dsp.filteredIndex
        = some quadrature := by
    rw [h.hilbert, hquadrature]
    exact fir_eq ops (getElem?_taps _) hlines h.filtered.index_lt
  have hdelayed := hlines.read (show (txFirTaps - 1) / 2 < txFirTaps by decide)
  rw [show DelayLine.past ops.zero _ n ((txFirTaps - 1) / 2) = inPhase from
    hinPhase.symm] at hdelayed
  rw [process]
  dsimp only
  rw [h.previousInput, h.previousHighpass, ← highpassed_eq, hput]
  dsimp only [Option.bind_eq_bind, Option.bind_some]
  rw [hfir]
  dsimp only [Option.bind_some]
  rw [hput']
  dsimp only [Option.bind_some]
  rw [hdelayed, hnext]
  dsimp only [Option.bind_some]
  rw [hfir']
  rfl

/-- **One sample** is taken by filters that keep track, and computed as it is
to be. -/
theorem Tracks.process (h : Tracks ops mode lowCutHz highCutHz input n dsp) :
    ∃ step dsp', process ops (input n) dsp = some (step, dsp')
      ∧ Computes ops mode lowCutHz highCutHz input n step
      ∧ Tracks ops mode lowCutHz highCutHz input (n + 1) dsp' := by
  have hprocess := h.process_eq ops rfl rfl rfl rfl
  by_cases ham : dsp.mode = .am
  · have hmode : mode = .am := h.mode.symm.trans ham
    rw [if_pos ham] at hprocess
    exact ⟨_, _, hprocess, ⟨rfl, rfl, absurd hmode, absurd hmode⟩,
      ⟨h.bandpass, h.hilbert, h.mode, rfl, rfl, h.audio.write,
        h.filtered.write⟩⟩
  · rw [if_neg ham, h.mode] at hprocess
    exact ⟨_, _, hprocess, ⟨rfl, rfl, fun _ => rfl, fun _ => ⟨_, rfl, rfl⟩⟩,
      ⟨h.bandpass, h.hilbert, h.mode, rfl, rfl, h.audio.write,
        h.filtered.write⟩⟩

/-! ## All steps -/

/-- Samples one after the other, from any of the signal on. -/
theorem Tracks.run {samples : List F}
    (h : Tracks ops mode lowCutHz highCutHz input n dsp)
    (hsamples : ∀ k, (hk : k < samples.length) → samples[k] = input (n + k)) :
    ∃ steps dsp', run ops samples dsp = some (steps, dsp')
      ∧ steps.length = samples.length
      ∧ ∀ k, (hk : k < steps.length) →
        Computes ops mode lowCutHz highCutHz input (n + k) steps[k] := by
  induction samples generalizing n dsp with
  | nil => exact ⟨[], dsp, rfl, rfl, fun k hk => absurd hk (Nat.not_lt_zero k)⟩
  | cons microphone rest ih =>
    have hfirst : microphone = input n := hsamples 0 (Nat.zero_lt_succ _)
    obtain ⟨step, dsp', hprocess, hcomputes, hnext⟩ := h.process ops
    obtain ⟨steps, dsp'', hrun, hlength, hrest⟩ := ih hnext fun k hk => by
      rw [Nat.add_assoc, Nat.add_comm 1 k]
      exact hsamples (k + 1) (Nat.succ_lt_succ hk)
    refine ⟨step :: steps, dsp'', ?_, congrArg (· + 1) hlength, ?_⟩
    · rw [TxDsp.run, hfirst, hprocess]
      show (TxDsp.run ops rest dsp').bind _ = _
      rw [hrun]
      rfl
    · intro k hk
      cases k with
      | zero => exact hcomputes
      | succ k =>
        rw [← Nat.add_assoc, Nat.add_right_comm]
        exact hrest k (Nat.lt_of_succ_lt_succ hk)

/-- **The filters compute convolutions**: whatever the passband and whatever
the input, no index leaves its array, and of every sample the filtered value
is the convolution of the high-passed input, the in-phase component the
filtered value 64 steps before, and the quadrature component, before the sign
is changed, the Hilbert transform of the filtered values. -/
theorem run_convolves (h : init ops mode lowCutHz highCutHz = some dsp)
    (samples : List F) :
    ∃ steps dsp', run ops samples dsp = some (steps, dsp')
      ∧ steps.length = samples.length
      ∧ ∀ n, (hn : n < steps.length) →
        Computes ops mode lowCutHz highCutHz (samples.getD · ops.zero) n
          steps[n] := by
  have htracks := tracks_init ops mode lowCutHz highCutHz
    (samples.getD · ops.zero) h
  obtain ⟨steps, dsp', hrun, hlength, hall⟩ := htracks.run ops fun k hk => by
    rw [Nat.zero_add]
    exact (List.getD_eq_getElem _ _ hk).symm
  refine ⟨steps, dsp', hrun, hlength, fun n hn => ?_⟩
  have hone := hall n hn
  rwa [Nat.zero_add] at hone

/-- Two samples in the upper sideband, counted with rational numbers. -/
theorem run_convolves_two : ∃ dsp steps dsp',
    init CFloat.rational .usb 300 3000 = some dsp
      ∧ run CFloat.rational [1, 1 / 2] dsp = some (steps, dsp')
      ∧ steps.length = 2 := by
  have hinit : init CFloat.rational .usb 300 3000 = some _ :=
    if_neg (by decide)
  obtain ⟨steps, dsp', hrun, hlength, -⟩ :=
    run_convolves CFloat.rational hinit [1, 1 / 2]
  exact ⟨_, steps, dsp', hinit, hrun, hlength⟩

end TxDsp
