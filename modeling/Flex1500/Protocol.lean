import Mathlib.Algebra.Ring.Nat
import Mathlib.Data.List.Basic

/-!
# The radio's protocol

What `protocol.c` knows about the radio: the filters its frequencies need,
the frequencies each emission is allowed on, the word a frequency is tuned
with, and the commands the daemon sends. Frequencies are in hertz.

A command carries an index byte, which the radio echoes and nothing in the
daemon reads, so a command is its opcode and parameters here.
-/

/-- `FLEX1500_MIN_RX_FREQUENCY_HZ`. -/
def minRxFrequencyHz : ℕ := 100000

/-- `FLEX1500_MAX_RX_FREQUENCY_HZ`. -/
def maxRxFrequencyHz : ℕ := 54000000

/-- The filter of the first band whose upper bound lies above the
frequency, in the tables of `protocol.c`. -/
def bandFilter (bands : List (ℕ × ℕ)) (frequencyHz : ℕ) : ℕ :=
  match bands.find? fun band => frequencyHz < band.1 with
  | some band => band.2
  | none => 1

/-- Whether a frequency is in the radio's range at all. -/
def inRange (frequencyHz : ℕ) : Prop :=
  minRxFrequencyHz ≤ frequencyHz ∧ frequencyHz ≤ maxRxFrequencyHz

instance (frequencyHz : ℕ) : Decidable (inRange frequencyHz) :=
  inferInstanceAs (Decidable (_ ∧ _))

/-- The receive bands and their filters. -/
def rxBands : List (ℕ × ℕ) :=
  [(480000, 0), (880000, 11), (1600000, 10), (2300000, 9), (3500000, 8),
    (5200000, 7), (7700000, 6), (11400000, 5), (17000000, 4), (25300000, 3),
    (37600000, 2), (56000000, 1)]

/-- `flex1500_rx_filter_for_frequency`. -/
def rxFilterForFrequency (frequencyHz : ℕ) : Option ℕ :=
  if inRange frequencyHz then some (bandFilter rxBands frequencyHz) else none

/-- The bands of the power amplifier and their filters. -/
def paBands : List (ℕ × ℕ) :=
  [(2500000, 7), (5000000, 6), (8800000, 5), (17500000, 4), (24000000, 3),
    (35000000, 2)]

/-- `flex1500_pa_filter_for_frequency`. -/
def paFilterForFrequency (frequencyHz : ℕ) : Option ℕ :=
  if inRange frequencyHz then some (bandFilter paBands frequencyHz) else none

/-! ## Where an emission is allowed -/

/-- The allocations every policy shares (`voice_allocations`). -/
def voiceAllocations : List (ℕ × ℕ) :=
  [(1800000, 2000000), (3500000, 4000000), (7000000, 7300000),
    (14000000, 14350000), (18068000, 18168000), (21000000, 21450000),
    (24890000, 24990000), (28000000, 29700000), (50000000, 54000000)]

/-- The single carriers of the 60 m band. -/
def sixtyMeterCarriers : List ℕ := [5330500, 5346500, 5371500, 5403500]

/-- Whether a frequency lies in an allocation, `margin` from its edges. -/
def allocated (margin frequencyHz : ℕ) : Bool :=
  voiceAllocations.any fun band =>
    band.1 + margin ≤ frequencyHz && frequencyHz ≤ band.2 - margin

/-- `flex1500_physical_mic_frequency_allowed`. -/
def physicalMicFrequencyAllowed (frequencyHz : ℕ) (upperSideband : Bool) :
    Bool :=
  allocated 0 frequencyHz ||
    (upperSideband &&
      ((5351500 ≤ frequencyHz && frequencyHz ≤ 5363500) ||
        sixtyMeterCarriers.contains frequencyHz))

/-- `flex1500_tune_frequency_allowed`. -/
def tuneFrequencyAllowed (frequencyHz : ℕ) : Bool :=
  physicalMicFrequencyAllowed frequencyHz true

/-- `flex1500_am_frequency_allowed`. -/
def amFrequencyAllowed (frequencyHz : ℕ) : Bool :=
  allocated 3000 frequencyHz

/-- `flex1500_network_iq_frequency_allowed`. -/
def networkIqFrequencyAllowed (frequencyHz : ℕ) : Bool :=
  allocated 24000 frequencyHz

/-- `flex1500_default_ssb_upper_sideband`. -/
def defaultSsbUpperSideband (frequencyHz : ℕ) : Option Bool :=
  let upper := 10000000 ≤ frequencyHz
    || (5330000 ≤ frequencyHz && frequencyHz ≤ 5405000)
  if physicalMicFrequencyAllowed frequencyHz upper then some upper else none

/-! ## The tuning word

The word is computed in binary64 and cut to an integer. The product and the
quotient each round once, to the nearest of 53 significant bits. -/

/-- `n / d` to the nearest integer, ties to even. -/
def roundHalfEven (n d : ℕ) : ℕ :=
  let q := n / d
  if 2 * (n % d) < d then q
  else if d < 2 * (n % d) then q + 1
  else q + q % 2

/-- An integer rounded to 53 significant bits. -/
def roundDouble (n : ℕ) : ℕ :=
  let shift := n.log2 + 1 - 53
  roundHalfEven n (2 ^ shift) * 2 ^ shift

/-- The integer part of `n / d` once the quotient is rounded to 53
significant bits, for a quotient of at least one. -/
def truncatedQuotient (n d : ℕ) : ℕ :=
  let shift := 52 - (n / d).log2
  roundHalfEven (n * 2 ^ shift) d / 2 ^ shift

/-- `flex1500_rx_frequency_to_tuning_word`. -/
def rxFrequencyToTuningWord (frequencyHz : ℕ) : Option ℕ :=
  if inRange frequencyHz then
    some (truncatedQuotient (roundDouble ((2 ^ 32 - 1) * 2 * frequencyHz))
      384000000)
  else none

/-- `flex1500_usb_tune_frequency_to_tuning_word`. -/
def usbTuneFrequencyToTuningWord (carrierHz toneHz : ℕ) : Option ℕ :=
  if inRange carrierHz ∧ toneHz < carrierHz then
    rxFrequencyToTuningWord (carrierHz - toneHz)
  else none

/-- A frequency the radio can be tuned to. -/
abbrev Frequency := {frequencyHz : ℕ // inRange frequencyHz}

/-! ## Commands -/

/-- The commands the daemon builds, under the names of their opcodes. A
transition mute is the `I2C_WRITE_2_VALUE` that mutes or unmutes the audio
codec. -/
inductive RadioCommand where
  | initializeRadio
  | setTrxPreamp (gain : ℕ)
  | setRx1Filter (filter : ℕ)
  | setPaFilter (filter : ℕ)
  | transitionMute (muted : Bool)
  | setTr (transmit : Bool)
  | setTxAnt
  | setAmpTx1 (enabled : Bool)
  | setRx1FreqTw (word : ℕ)
  deriving DecidableEq, Repr

/-- `flex1500_build_rx_tune_request`. -/
def buildRxTuneRequest (frequencyHz : ℕ) : Option RadioCommand :=
  (rxFrequencyToTuningWord frequencyHz).map .setRx1FreqTw

/-- A frequency of the radio's range always has a tuning request. -/
theorem buildRxTuneRequest_isSome (frequency : Frequency) :
    (buildRxTuneRequest frequency.1).isSome = true := by
  simp [buildRxTuneRequest, rxFrequencyToTuningWord, frequency.2]

/-- The tuning request of a frequency of the radio's range. -/
def Frequency.rxTuneRequest (frequency : Frequency) : RadioCommand :=
  (buildRxTuneRequest frequency.1).get (buildRxTuneRequest_isSome frequency)

/-- `flex1500_build_rx_filter_request`. -/
def buildRxFilterRequest (filter : ℕ) : Option RadioCommand :=
  if 11 < filter then none else some (.setRx1Filter filter)

/-- `flex1500_build_rx_gain_request`. -/
def buildRxGainRequest (gain : ℕ) : Option RadioCommand :=
  if 4 < gain then none else some (.setTrxPreamp gain)

/-- `flex1500_build_pa_filter_request`. -/
def buildPaFilterRequest (filter : ℕ) : Option RadioCommand :=
  if 7 < filter then none else some (.setPaFilter filter)

/-- The receive filter of a frequency, with its request. -/
def rxFilterRequestForFrequency (frequencyHz : ℕ) :
    Option (ℕ × RadioCommand) :=
  (rxFilterForFrequency frequencyHz).bind fun filter =>
    (buildRxFilterRequest filter).map (filter, ·)

/-- The PA filter of a frequency, with its request. -/
def paFilterRequestForFrequency (frequencyHz : ℕ) :
    Option (ℕ × RadioCommand) :=
  (paFilterForFrequency frequencyHz).bind fun filter =>
    (buildPaFilterRequest filter).map (filter, ·)

/-! ## The switches -/

/-- The switches a status packet reports (`flex1500_physical_inputs`). -/
structure PhysicalInputs where
  rawStatus : UInt8
  micPtt : Bool
  flexwirePtt : Bool
  dash : Bool
  dot : Bool
  deriving DecidableEq, Repr

/-- `flex1500_decode_physical_inputs`: the switches pull their bit of the
first byte down. -/
def decodePhysicalInputs (packet : List UInt8) : Option PhysicalInputs :=
  match packet with
  | [] => none
  | status :: _ =>
    some
      { rawStatus := status
        micPtt := status &&& 0x01 == 0
        flexwirePtt := status &&& 0x08 == 0
        dash := status &&& 0x10 == 0
        dot := status &&& 0x20 == 0 }

/-- `flex1500_physical_inputs_equal`, which leaves the raw byte out. -/
def PhysicalInputs.equal (left right : PhysicalInputs) : Bool :=
  left.micPtt == right.micPtt && left.flexwirePtt == right.flexwirePtt
    && left.dash == right.dash && left.dot == right.dot

/-- Equal inputs agree on the microphone. -/
theorem PhysicalInputs.micPtt_of_equal {left right : PhysicalInputs}
    (h : left.equal right = true) : left.micPtt = right.micPtt := by
  simp only [equal, Bool.and_eq_true, beq_iff_eq] at h
  exact h.1.1.1

/-- **Filters fit their command**: every filter a frequency maps to can be
sent. -/
theorem buildPaFilterRequest_of_paFilter {frequencyHz filter : ℕ}
    (h : paFilterForFrequency frequencyHz = some filter) :
    buildPaFilterRequest filter = some (.setPaFilter filter) := by
  unfold paFilterForFrequency at h
  split at h
  swap
  · simp at h
  have hle : ∀ band ∈ paBands, band.2 ≤ 7 := by decide
  obtain rfl : bandFilter paBands frequencyHz = filter := by simpa using h
  unfold buildPaFilterRequest
  rw [if_neg]
  unfold bandFilter
  split
  · rename_i band hband
    exact Nat.not_lt.mpr (hle band (List.mem_of_find?_eq_some hband))
  · decide
