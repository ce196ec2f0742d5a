import Flex1500.DaemonTx

/-!
# Where an emission ends up

A policy of `protocol.c` looks at one frequency, and what is transmitted
occupies a span around it. Raw samples, AM and the tune carrier are accepted
only where their whole span lies in one allocation: the margins of their
policies are those of the spans.

A single sideband has no margin. It is accepted on every frequency of an
allocation, and so a dial near the edge puts the sideband outside. In the
60 m band the policy does leave room for it.

The SoapySDR driver has a table of its own. It is the raw samples' policy,
written out.
-/

/-- The allocations of the 60 m band: the segment, and the channels from
their carriers on. -/
def sixtyMeterAllocations : List (ℕ × ℕ) :=
  (5351500, 5366500) :: sixtyMeterCarriers.map fun carrier =>
    (carrier, carrier + 3000)

namespace Emission

/-- The allocations an emission may lie in. -/
def allocations : Emission → List (ℕ × ℕ)
  | .tune | .voice .usb => voiceAllocations ++ sixtyMeterAllocations
  | _ => voiceAllocations

/-- **The span an emission occupies** on a frequency. -/
def occupied (frequencyHz : ℕ) : Emission → ℤ × ℤ
  | .tune => (frequencyHz, frequencyHz)
  | .voice .am => (frequencyHz - 3000, frequencyHz + 3000)
  | .voice .usb => (frequencyHz + 300, frequencyHz + 3000)
  | .voice .lsb => (frequencyHz - 3000, frequencyHz - 300)
  | .rawIq _ => (frequencyHz - 24000, frequencyHz + 24000)

/-- **Contained**: the whole span lies in one allocation. -/
def Contained (frequencyHz : ℕ) (emission : Emission) : Prop :=
  ∃ band ∈ emission.allocations,
    (band.1 : ℤ) ≤ (emission.occupied frequencyHz).1
      ∧ (emission.occupied frequencyHz).2 ≤ band.2

/-- **Off the edge**: a sideband does not point over the edge of an
allocation less than 3 kHz away. -/
def OffEdge (frequencyHz : ℕ) : Emission → Prop
  | .voice .usb => ∀ band ∈ voiceAllocations,
      ¬ (frequencyHz ≤ band.2 ∧ band.2 < frequencyHz + 3000)
  | .voice .lsb => ∀ band ∈ voiceAllocations,
      ¬ (band.1 ≤ frequencyHz ∧ frequencyHz < band.1 + 3000)
  | _ => True

end Emission

/-! ## The policies -/

variable {frequencyHz : ℕ}

/-- What it is to lie in an allocation. -/
theorem allocated_iff {margin : ℕ} : allocated margin frequencyHz = true
    ↔ ∃ band ∈ voiceAllocations,
      band.1 + margin ≤ frequencyHz ∧ frequencyHz ≤ band.2 - margin := by
  simp [allocated]

/-- Every allocation is wider than the widest emission. -/
theorem wide_of_mem {band : ℕ × ℕ} (h : band ∈ voiceAllocations) :
    band.1 + 48000 ≤ band.2 := by
  have hall : ∀ band ∈ voiceAllocations, band.1 + 48000 ≤ band.2 := by decide
  exact hall band h

/-- The policy of an upper sideband, which the carrier shares. -/
theorem physicalMic_upper_iff :
    physicalMicFrequencyAllowed frequencyHz true = true
      ↔ (∃ band ∈ voiceAllocations,
          band.1 ≤ frequencyHz ∧ frequencyHz ≤ band.2)
        ∨ (5351500 ≤ frequencyHz ∧ frequencyHz ≤ 5363500)
        ∨ frequencyHz ∈ sixtyMeterCarriers := by
  simp [physicalMicFrequencyAllowed, allocated]

/-- The policy of a lower sideband. -/
theorem physicalMic_lower_iff :
    physicalMicFrequencyAllowed frequencyHz false = true
      ↔ ∃ band ∈ voiceAllocations,
          band.1 ≤ frequencyHz ∧ frequencyHz ≤ band.2 := by
  simp [physicalMicFrequencyAllowed, allocated]

/-- An allocation of the 60 m band, by the carrier of its channel. -/
theorem mem_sixtyMeter_of_carrier (h : frequencyHz ∈ sixtyMeterCarriers) :
    (frequencyHz, frequencyHz + 3000) ∈ sixtyMeterAllocations :=
  List.mem_cons_of_mem _ (List.mem_map.mpr ⟨frequencyHz, h, rfl⟩)

namespace Emission

/-- **A span with a margin of its own** is contained. -/
theorem contained_of_allocated (margin : ℕ) {emission : Emission}
    (hmargin : margin ≤ 24000)
    (hoccupied : emission.occupied frequencyHz
      = ((frequencyHz : ℤ) - margin, (frequencyHz : ℤ) + margin))
    (hbands : emission.allocations = voiceAllocations)
    (hallowed : allocated margin frequencyHz = true) :
    emission.Contained frequencyHz := by
  obtain ⟨band, hband, hlow, hhigh⟩ := allocated_iff.mp hallowed
  have hwide := wide_of_mem hband
  refine ⟨band, hbands ▸ hband, ?_⟩
  rw [hoccupied]
  dsimp only
  omega

/-- The carrier is contained wherever it is accepted. -/
theorem contained_tune
    (hallowed : tuneFrequencyAllowed frequencyHz = true) :
    Emission.tune.Contained frequencyHz := by
  unfold tuneFrequencyAllowed at hallowed
  obtain ⟨band, hband, hlow, hhigh⟩ | ⟨hlow, hhigh⟩ | hcarrier :=
    physicalMic_upper_iff.mp hallowed
  · refine ⟨band, List.mem_append_left _ hband, ?_⟩
    dsimp only [occupied]
    omega
  · refine ⟨(5351500, 5366500),
      List.mem_append_right _ List.mem_cons_self, ?_⟩
    dsimp only [occupied]
    omega
  · refine ⟨_, List.mem_append_right _ (mem_sixtyMeter_of_carrier hcarrier),
      ?_⟩
    dsimp only [occupied]
    omega

/-- No allocation goes on right behind the end of another. -/
theorem separate_of_mem : ∀ band ∈ voiceAllocations,
    ∀ other ∈ voiceAllocations ++ sixtyMeterAllocations,
      ¬ (other.1 ≤ band.2 + 3000 ∧ band.2 < other.2) := by
  decide

/-- Nor does one end right in front of another. -/
theorem separate_of_mem_voice : ∀ band ∈ voiceAllocations,
    ∀ other ∈ voiceAllocations,
      ¬ (other.1 < band.1 ∧ band.1 ≤ other.2 + 3000) := by
  decide

/-- **An upper sideband** is contained exactly off the edge. -/
theorem contained_usb
    (hallowed : physicalMicFrequencyAllowed frequencyHz true = true) :
    (Emission.voice .usb).Contained frequencyHz
      ↔ (Emission.voice .usb).OffEdge frequencyHz := by
  constructor
  · rintro ⟨other, hother, hlow, hhigh⟩ band hband ⟨hbelow, habove⟩
    dsimp only [occupied] at hlow hhigh
    exact separate_of_mem band hband other hother ⟨by omega, by omega⟩
  · intro hoff
    obtain ⟨band, hband, hlow, hhigh⟩ | ⟨hlow, hhigh⟩ | hcarrier :=
      physicalMic_upper_iff.mp hallowed
    · have hroom := hoff band hband
      refine ⟨band, List.mem_append_left _ hband, ?_⟩
      dsimp only [occupied]
      omega
    · refine ⟨(5351500, 5366500),
        List.mem_append_right _ List.mem_cons_self, ?_⟩
      dsimp only [occupied]
      omega
    · refine ⟨_, List.mem_append_right _ (mem_sixtyMeter_of_carrier hcarrier),
        ?_⟩
      dsimp only [occupied]
      omega

/-- So is a lower one. -/
theorem contained_lsb
    (hallowed : physicalMicFrequencyAllowed frequencyHz false = true) :
    (Emission.voice .lsb).Contained frequencyHz
      ↔ (Emission.voice .lsb).OffEdge frequencyHz := by
  constructor
  · rintro ⟨other, hother, hlow, hhigh⟩ band hband ⟨hbelow, habove⟩
    dsimp only [occupied] at hlow hhigh
    exact separate_of_mem_voice band hband other hother ⟨by omega, by omega⟩
  · intro hoff
    obtain ⟨band, hband, hlow, hhigh⟩ := physicalMic_lower_iff.mp hallowed
    have hroom := hoff band hband
    refine ⟨band, hband, ?_⟩
    dsimp only [occupied]
    omega

end Emission

/-! ## The driver's table -/

/-- The transmit ranges the SoapySDR driver advertises
(`TX_FREQUENCY_RANGES`). -/
def txFrequencyRanges : List (ℕ × ℕ) :=
  [(1824000, 1976000), (3524000, 3976000), (7024000, 7276000),
    (14024000, 14326000), (18092000, 18144000), (21024000, 21426000),
    (24914000, 24966000), (28024000, 29676000), (50024000, 53976000)]

/-- `txFrequencyAllowed`, on a whole number of hertz. -/
def txFrequencyAllowed (frequencyHz : ℕ) : Bool :=
  txFrequencyRanges.any fun range =>
    range.1 ≤ frequencyHz && frequencyHz ≤ range.2

/-- **The driver's ranges are the allocations** with the margin of raw
samples. -/
theorem txFrequencyRanges_eq :
    txFrequencyRanges
      = voiceAllocations.map fun band => (band.1 + 24000, band.2 - 24000) := by
  decide

/-! ## The law -/

/-- **Whether an emission is contained** at a frequency, and what the driver
advertises there. -/
structure EmissionLaw (emission : Emission) (frequencyHz : ℕ) : Prop where
  /-- An emission that is accepted is contained exactly off the edge. -/
  contained : emission.allowed frequencyHz = true →
    (emission.Contained frequencyHz ↔ emission.OffEdge frequencyHz)
  /-- The default sideband is one its policy accepts. -/
  byDefault : ∀ upper, defaultSsbUpperSideband frequencyHz = some upper →
    (Emission.voice (if upper then .usb else .lsb)).allowed frequencyHz = true
  /-- The driver advertises what the daemon accepts. -/
  advertised : txFrequencyAllowed frequencyHz = true
    ↔ networkIqFrequencyAllowed frequencyHz = true

/-- **Emissions stay in their allocation**, but for a sideband at its
edge. -/
theorem emissionLaw (emission : Emission) (frequencyHz : ℕ) :
    EmissionLaw emission frequencyHz where
  contained hallowed := by
    cases emission with
    | tune => exact iff_of_true (Emission.contained_tune hallowed) trivial
    | voice mode =>
      cases mode with
      | usb => exact Emission.contained_usb hallowed
      | lsb => exact Emission.contained_lsb hallowed
      | am =>
        exact iff_of_true (Emission.contained_of_allocated 3000
          (by decide) rfl rfl hallowed) trivial
    | rawIq translated =>
      exact iff_of_true (Emission.contained_of_allocated 24000
        (by decide) rfl rfl hallowed) trivial
  byDefault upper h := by
    unfold defaultSsbUpperSideband at h
    extract_lets upper' at h
    split at h
    · rename_i hallowed
      obtain rfl := Option.some.inj h
      clear_value upper'
      cases upper' with
      | true => exact hallowed
      | false => exact hallowed
    · exact absurd h (by simp)
  advertised := by
    rw [txFrequencyAllowed, txFrequencyRanges_eq, networkIqFrequencyAllowed,
      allocated, List.any_map]
    rfl

/-- **A sideband out of its band**: at the upper edge of the 20 m band an
upper sideband is accepted, and lies outside. -/
theorem sideband_outside :
    (Emission.voice .usb).allowed 14350000 = true
      ∧ ¬ (Emission.voice .usb).Contained 14350000 := by
  refine ⟨by decide, ?_⟩
  rintro ⟨band, hband, hlow, hhigh⟩
  have hnone : ∀ band ∈ voiceAllocations ++ sixtyMeterAllocations,
      ¬ (band.1 ≤ 14350300 ∧ 14353000 ≤ band.2) := by decide
  dsimp only [Emission.occupied] at hlow hhigh
  exact hnone band hband ⟨by omega, by omega⟩
