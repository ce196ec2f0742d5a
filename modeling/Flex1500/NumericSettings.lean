import Mathlib.Algebra.Group.Int.Defs
import Flex1500.Lib.CNumber
import Flex1500.ApiOutcome

/-!
# The numbers of the settings

Six settings are numbers a client puts into a path. The claim of their
grammar is that the text up to the next blank is digits and nothing else,
with a minus in front for the squelch alone, and that the number they stand
for is the one that is stored.

Three ways of reading are in use. The frequency and the bandwidth count
their digits and stop at the first number that is too large. The squelch
counts in an `int32_t` and never stops. The settings of the transmitter ask
`strtoul`, which skips white space, takes a sign, and counts down from zero
behind a minus.
-/

open CText HttpRequest Api

variable {ρ : Type}

/-- The settings a number is put into. -/
inductive NumericSetting where
  | frequency | bandwidth | squelch | timeout | drive | micGain
  deriving DecidableEq, Repr

namespace NumericSetting

/-! ## What a request asks for -/

/-- The path of a setting. -/
def path : NumericSetting → CText
  | .frequency => frequencyPrefix
  | .bandwidth => bandwidthPrefix
  | .squelch => squelchPrefix
  | .timeout => txTimeoutPath
  | .drive => txDrivePath
  | .micGain => txMicGainPath

/-- The least value of a setting. -/
def least : NumericSetting → ℤ
  | .frequency => minRxFrequencyHz
  | .bandwidth => 100
  | .squelch => -120
  | .timeout => txTimeoutMinSeconds
  | .drive => txMinDrivePercent
  | .micGain => 0

/-- The greatest value of a setting. -/
def greatest : NumericSetting → ℤ
  | .frequency => maxRxFrequencyHz
  | .bandwidth => 20000
  | .squelch => 0
  | .timeout => txTimeoutMaxSeconds
  | .drive => txMaxDrivePercent
  | .micGain => 70

/-- **In range**: the values a setting may have. -/
def InRange (s : NumericSetting) (value : ℤ) : Prop :=
  s.least ≤ value ∧ value ≤ s.greatest

instance (s : NumericSetting) (value : ℤ) : Decidable (s.InRange value) :=
  inferInstanceAs (Decidable (_ ∧ _))

/-- The number a word stands for, exactly, where it has the grammar of the
setting. -/
def numberOf (s : NumericSetting) (word : CText) : Option ℤ :=
  if s = .squelch ∧ peek word = 45 then
    (plainValue (word.drop 1)).map fun value : ℕ => -(value : ℤ)
  else (plainValue word).map Int.ofNat

/-- **What a request asks for**: the number between the path and the next
blank, where it has the grammar and is in range. -/
def wanted (s : NumericSetting) (request : CText) : Option ℤ :=
  (((afterPrefix s.path request).bind upToBlank).bind s.numberOf).filter
    fun value => s.InRange value

/-- **What the code reads**: the number its parser and its range check let
through. -/
def taken (s : NumericSetting) (request : CText) : Option ℤ :=
  match s with
  | .frequency => ((parseRxFrequency request).filter
      fun value => (rxFilterForFrequency value).isSome).map Int.ofNat
  | .bandwidth => (parseRxBandwidth request).map Int.ofNat
  | .squelch => (parseRxSquelch request).map Int32.toInt
  | .timeout => ((parseUintSetting txTimeoutPath request).filter
      fun value => txTimeoutMinSeconds ≤ value
        && value ≤ txTimeoutMaxSeconds).map Int.ofNat
  | .drive => ((parseUintSetting txDrivePath request).filter
      fun value => txMinDrivePercent ≤ value
        && value ≤ txMaxDrivePercent).map Int.ofNat
  | .micGain => ((parseUintSetting txMicGainPath request).filter
      fun value => 0 ≤ value && value ≤ 70).map Int.ofNat

/-! ## What an answer does -/

/-- **The setting is put** to a value, and nothing else changes. The
frequency is put by the radio's callback, and the answer says so. -/
def Puts (s : NumericSetting) (ops : RadioOps ρ) (value : ℤ)
    (p : TxPlane (ApiWorld ρ)) (r : ApiReply × TxPlane (ApiWorld ρ)) : Prop :=
  match s with
  | .frequency => ∃ tuneRx, ops.tuneRx = some tuneRx
      ∧ r.1.tuned = some (value.toNat,
        (tuneRx value.toNat p.world.radio).1.2)
      ∧ r.2 = p.withRadio (tuneRx value.toNat p.world.radio).2
  | .bandwidth => r.2
      = p.withApi fun api => { api with rxBandwidthHz := value.toNat }
  | .squelch => ∃ db : Int32, db.toInt = value
      ∧ r.2 = p.withApi fun api => { api with rxSquelchDb := db }
  | .timeout => r.2 = { p with
      tx := { p.tx with maximumKeyMs := UInt64.ofNat value.toNat * 1000 } }
  | .drive => r.2
      = p.withApi fun api => { api with txDrivePercent := value.toNat }
  | .micGain => r.2
      = p.withApi fun api => { api with txMicrophoneGainDb := value.toNat }

/-- **Nothing is put**: the state is as it was, and no tune is reported. -/
structure Leaves (p : TxPlane (ApiWorld ρ))
    (r : ApiReply × TxPlane (ApiWorld ρ)) : Prop where
  state : r.2 = p
  tuned : r.1.tuned = none

/-- The route is enabled. -/
def Enabled (s : NumericSetting) (ops : RadioOps ρ)
    (p : TxPlane (ApiWorld ρ)) : Prop :=
  match s with
  | .frequency => p.world.api.rxTuningEnabled = true ∧ ops.tuneRx.isSome
  | .bandwidth | .squelch => p.world.api.iqStreamActive = true
  | .timeout | .drive | .micGain => txSettingsAttached p = true

/-- **A request a route may serve**: it has the setting's path, the route is
enabled, the client is authorised, nobody transmits, and the radio does what
it is told. -/
structure Ready (s : NumericSetting) (ops : RadioOps ρ) (request : CText)
    (p : TxPlane (ApiWorld ρ)) : Prop where
  onPath : hasPrefix s.path request = true
  enabled : s.Enabled ops p
  authorised : s ≠ .squelch →
    p.world.api.stationRequestAuthorized p.world.station request = true
  idle : p.tx.owner = .none
  succeeds : s = .frequency → ∀ tuneRx ∈ ops.tuneRx, ∀ frequencyHz radio,
    (tuneRx frequencyHz radio).1.1 = 0

/-- The number the squelch counts: the digits behind its minus, or without
one. -/
def squelchDigits (text : CText) : CText :=
  (if peek text == 45 then text.drop 1 else text).takeWhile isDigit

/-- **No step of the count overflows**: behind every digit the number so far
fits an `int32_t`. -/
def Fits (s : NumericSetting) (request : CText) : Prop :=
  s = .squelch → ∀ text, afterPrefix s.path request = some text →
    ∀ front, front <+: squelchDigits text → decimal front < 2 ^ 31

/-- **The grammar is kept**: the setting is put to what the request asks
for, and to nothing else, and no step of the count overflows. -/
structure Kept (s : NumericSetting) (ops : RadioOps ρ) (request : CText)
    (p : TxPlane (ApiWorld ρ)) (r : ApiReply × TxPlane (ApiWorld ρ)) :
    Prop where
  puts : ∀ value, s.wanted request = some value → s.Puts ops value p r
  leaves : s.wanted request = none → Leaves p r
  fits : s.Fits request

/-! ## When it is kept -/

/-- **A loose number**: white space or a sign stands in front of the digits,
` HTTP/` behind them, and the number is in range, where one behind a minus
is counted down from zero. -/
def Loose (s : NumericSetting) (text : CText) : Prop :=
  ∃ blanks sign digits rest, Numeral text blanks sign digits rest
    ∧ (blanks ≠ [] ∨ sign ≠ []) ∧ hasPrefix httpMark rest = true
    ∧ decimal digits < 2 ^ 64
    ∧ s.InRange (if sign = [45] then
        ((2 ^ 64 - decimal digits) % 2 ^ 64 : ℕ) else decimal digits)

/-- **A number that is followed up**: ` HTTP/` stands behind a plain number
in range that a blank ends. -/
def FollowedUp (s : NumericSetting) (text : CText) : Prop :=
  ∀ value : ℕ, (upToBlank text).bind plainValue = some value →
    s.InRange value → hasPrefix httpMark (text.dropWhile isDigit) = true

/-- **Where the grammar is kept.** -/
def Regular (s : NumericSetting) (request : CText) : Prop :=
  ∀ text, afterPrefix s.path request = some text →
    match s with
    | .frequency | .bandwidth => True
    | .squelch => decimal (squelchDigits text) < 2 ^ 31
    | .timeout | .drive | .micGain => ¬ s.Loose text ∧ s.FollowedUp text

/-! ## Reading the text -/

variable {s : NumericSetting} {request text : CText} {value : ℤ}

/-- What is asked for, by the text behind the path. -/
theorem wanted_of_text (htext : afterPrefix s.path request = some text) :
    s.wanted request = ((upToBlank text).bind s.numberOf).filter
      fun value => s.InRange value := by
  rw [wanted, htext, Option.bind_some]

/-- Without the path nothing is asked for. -/
theorem wanted_off (hoff : afterPrefix s.path request = none) :
    s.wanted request = none := by
  rw [wanted, hoff]
  rfl

/-- A word of any setting but the squelch is a plain number. -/
theorem numberOf_plain (hs : s ≠ .squelch) (word : Option CText) :
    word.bind s.numberOf = (word.bind plainValue).map Int.ofNat := by
  cases word with
  | none => rfl
  | some word =>
    rw [Option.bind_some, Option.bind_some, numberOf,
      if_neg fun h => hs h.1]

/-- The word of the squelch is a plain number, behind its minus where it has
one. -/
theorem numberOf_squelch (text : CText) :
    (upToBlank text).bind squelch.numberOf
      = if peek text = 45 then
          ((upToBlank (text.drop 1)).bind plainValue).map
            fun value : ℕ => -(value : ℤ)
        else ((upToBlank text).bind plainValue).map Int.ofNat := by
  cases text with
  | nil => rfl
  | cons c cs =>
    by_cases hminus : c = 45
    · rw [if_pos (show peek (c :: cs) = 45 from hminus), upToBlank_cons,
        if_neg (by rw [hminus]; decide)]
      show _ = ((upToBlank cs).bind plainValue).map _
      cases upToBlank cs with
      | none => rfl
      | some word =>
        rw [Option.map_some, Option.bind_some, Option.bind_some, numberOf,
          if_pos ⟨rfl, hminus⟩]
        rfl
    · rw [if_neg (show ¬ peek (c :: cs) = 45 from hminus)]
      have hword {word : CText} (hword : upToBlank (c :: cs) = some word) :
          peek word ≠ 45 := by
        rw [upToBlank_cons] at hword
        split at hword
        · rw [← Option.some.inj hword]
          decide
        · obtain ⟨front, -, rfl⟩ := Option.map_eq_some_iff.mp hword
          exact hminus
      cases hup : upToBlank (c :: cs) with
      | none => rfl
      | some word =>
        rw [Option.bind_some, Option.bind_some, numberOf,
          if_neg fun h => hword hup h.2]

/-- **Counting stops in time**: the path's number is the plain number up to
a blank, where that fits. -/
theorem pathNumber_eq (text : CText) :
    pathNumber text = ((upToBlank text).bind plainValue).filter
      fun value => decide (value < 2 ^ 32) := by
  rw [pathNumber]
  cases hplain : (upToBlank text).bind plainValue with
  | none =>
    rw [if_pos]
    · rfl
    by_contra hno
    obtain ⟨hne, hrest⟩ := not_or.mp hno
    have hsome := plain_upToBlank_eq_some_iff.mpr
      ⟨isDigit_peek_iff.mpr (by simpa using hne),
        not_not.mp (not_or.mp hrest).2, rfl⟩
    rw [hplain] at hsome
    exact absurd hsome (Option.some_ne_none _).symm
  | some value =>
    obtain ⟨hdigit, hblank, rfl⟩ := plain_upToBlank_eq_some_iff.mp hplain
    have hne := isDigit_peek_iff.mp hdigit
    by_cases hfits : decimal (text.takeWhile isDigit) < 2 ^ 32
    · rw [if_neg (by simpa [hne, hblank] using hfits),
        Option.filter_some_pos (by simpa using hfits)]
    · rw [if_pos (Or.inr (Or.inl (Nat.le_of_not_lt hfits))),
        Option.filter_some_neg (by simpa using hfits)]

/-- What is asked for of any setting but the squelch. -/
theorem wanted_eq_some_iff (hs : s ≠ .squelch) :
    s.wanted request = some value ↔ ∃ text, ∃ number : ℕ,
      afterPrefix s.path request = some text
        ∧ (upToBlank text).bind plainValue = some number
        ∧ s.InRange number ∧ value = number := by
  constructor
  · intro h
    cases htext : afterPrefix s.path request with
    | none =>
      rw [wanted_off htext] at h
      exact absurd h (Option.some_ne_none _).symm
    | some text =>
      rw [wanted_of_text htext, numberOf_plain hs,
        Option.filter_eq_some_iff] at h
      obtain ⟨hmap, hrange⟩ := h
      obtain ⟨number, hplain, rfl⟩ := Option.map_eq_some_iff.mp hmap
      exact ⟨text, number, rfl, hplain, of_decide_eq_true hrange, rfl⟩
  · rintro ⟨text, number, htext, hplain, hrange, rfl⟩
    rw [wanted_of_text htext, numberOf_plain hs, Option.filter_eq_some_iff,
      hplain]
    exact ⟨rfl, decide_eq_true hrange⟩

/-- A number of a path that is in the range of its setting. -/
theorem pathNumber_inRange (hgreatest : s.greatest < 2 ^ 32) {number : ℕ} :
    (pathNumber text = some number ∧ s.InRange number)
      ↔ (upToBlank text).bind plainValue = some number
        ∧ s.InRange number := by
  rw [pathNumber_eq, Option.filter_eq_some_iff]
  refine and_congr_left fun hrange => and_iff_left (decide_eq_true ?_)
  have hle := hrange.2
  omega

/-- **The frequency** reads what is asked for. -/
theorem taken_frequency (request : CText) :
    frequency.taken request = frequency.wanted request := by
  have hbound : frequency.greatest < 2 ^ 32 := by decide
  refine Option.ext fun value => ?_
  rw [wanted_eq_some_iff (by decide), taken, Option.map_eq_some_iff]
  constructor
  · rintro ⟨number, hfilter, rfl⟩
    obtain ⟨hparsed, hfound⟩ := Option.filter_eq_some_iff.mp hfilter
    obtain ⟨text, htext, hnumber⟩ := Option.bind_eq_some_iff.mp hparsed
    have hrange : frequency.InRange number := by
      unfold rxFilterForFrequency at hfound
      split at hfound
      · rename_i hrange
        exact ⟨Int.ofNat_le.mpr hrange.1, Int.ofNat_le.mpr hrange.2⟩
      · exact absurd hfound Bool.false_ne_true
    obtain ⟨hplain, -⟩ :=
      (pathNumber_inRange hbound).mp ⟨hnumber, hrange⟩
    exact ⟨text, number, htext, hplain, hrange, rfl⟩
  · rintro ⟨text, number, htext, hplain, hrange, rfl⟩
    obtain ⟨hnumber, -⟩ :=
      (pathNumber_inRange hbound).mpr ⟨hplain, hrange⟩
    refine ⟨number, Option.filter_eq_some_iff.mpr
      ⟨Option.bind_eq_some_iff.mpr ⟨text, htext, hnumber⟩, ?_⟩, rfl⟩
    rw [rxFilterForFrequency, if_pos ⟨Int.ofNat_le.mp hrange.1,
      Int.ofNat_le.mp hrange.2⟩]
    rfl

/-- **The bandwidth** does too. -/
theorem taken_bandwidth (request : CText) :
    bandwidth.taken request = bandwidth.wanted request := by
  have hbound : bandwidth.greatest < 2 ^ 32 := by decide
  refine Option.ext fun value => ?_
  rw [wanted_eq_some_iff (by decide), taken, Option.map_eq_some_iff]
  constructor
  · rintro ⟨number, hparsed, rfl⟩
    obtain ⟨text, htext, hbind⟩ := Option.bind_eq_some_iff.mp hparsed
    obtain ⟨found, hnumber, hif⟩ := Option.bind_eq_some_iff.mp hbind
    split at hif
    · rename_i hbounds
      cases Option.some.inj hif
      have hrange : bandwidth.InRange number :=
        ⟨Int.ofNat_le.mpr hbounds.1, Int.ofNat_le.mpr hbounds.2⟩
      obtain ⟨hplain, -⟩ :=
        (pathNumber_inRange hbound).mp ⟨hnumber, hrange⟩
      exact ⟨text, number, htext, hplain, hrange, rfl⟩
    · exact absurd hif (Option.some_ne_none _).symm
  · rintro ⟨text, number, htext, hplain, hrange, rfl⟩
    obtain ⟨hnumber, -⟩ :=
      (pathNumber_inRange hbound).mpr ⟨hplain, hrange⟩
    refine ⟨number, Option.bind_eq_some_iff.mpr ⟨text, htext,
      Option.bind_eq_some_iff.mpr ⟨number, hnumber, ?_⟩⟩, rfl⟩
    exact if_pos ⟨Int.ofNat_le.mp hrange.1, Int.ofNat_le.mp hrange.2⟩

/-- The count of the squelch, where it may wrap. -/
theorem squelch_count (digits : CText) (n : ℕ) :
    digits.foldl (fun n c => n * 10 + Int32.ofNat (digit c)) (Int32.ofNat n)
      = Int32.ofNat (digits.foldl
        (fun value c => value * 10 + digit c) n) := by
  induction digits generalizing n with
  | nil => rfl
  | cons c cs ih =>
    have hstep : Int32.ofNat n * 10 + Int32.ofNat (digit c)
        = Int32.ofNat (n * 10 + digit c) := by
      rw [Int32.ofNat_add, Int32.ofNat_mul]
      rfl
    rw [List.foldl_cons, List.foldl_cons, hstep]
    exact ih (n * 10 + digit c)

/-- What the squelch reads behind its minus, or without one. -/
theorem squelch_text (f : Int32 → Int32) (g : ℕ → ℤ)
    (hfg : ∀ n < 2 ^ 31, (f (Int32.ofNat n)).toInt = g n)
    (hfits : decimal (text.takeWhile isDigit) < 2 ^ 31) :
    (if (text.takeWhile isDigit).isEmpty ∨ peek (text.dropWhile isDigit) ≠ 32
        ∨ f (Int32.ofNat (decimal (text.takeWhile isDigit))) < -120
        ∨ 0 < f (Int32.ofNat (decimal (text.takeWhile isDigit))) then none
      else some (f (Int32.ofNat (decimal
        (text.takeWhile isDigit))))).map Int32.toInt
      = (((upToBlank text).bind plainValue).map g).filter
        fun value => squelch.InRange value := by
  have hvalue := hfg _ hfits
  cases hplain : (upToBlank text).bind plainValue with
  | none =>
    rw [if_pos]
    · rfl
    by_contra hno
    obtain ⟨hne, hrest⟩ := not_or.mp hno
    have hsome := plain_upToBlank_eq_some_iff.mpr
      ⟨isDigit_peek_iff.mpr (by simpa using hne),
        not_not.mp (not_or.mp hrest).1, rfl⟩
    rw [hplain] at hsome
    exact absurd hsome (Option.some_ne_none _).symm
  | some number =>
    obtain ⟨hdigit, hblank, rfl⟩ := plain_upToBlank_eq_some_iff.mp hplain
    have hne := isDigit_peek_iff.mp hdigit
    rw [Option.map_some, Option.filter_some]
    by_cases hrange :
        squelch.InRange (g (decimal (text.takeWhile isDigit)))
    · obtain ⟨hleast, hgreatest⟩ := hrange
      rw [if_neg, if_pos (decide_eq_true ⟨hleast, hgreatest⟩), Option.map_some,
        hvalue]
      rintro (h | h | h | h)
      · exact hne (by simpa using h)
      · exact h hblank
      · exact absurd (Int32.lt_iff_toInt_lt.mp h) (by
          rw [hvalue]
          exact Int.not_lt.mpr hleast)
      · exact absurd (Int32.lt_iff_toInt_lt.mp h) (by
          rw [hvalue]
          exact Int.not_lt.mpr hgreatest)
    · rw [if_pos, if_neg (by simpa using hrange)]
      · rfl
      refine Or.inr (Or.inr ?_)
      rw [Int32.lt_iff_toInt_lt, Int32.lt_iff_toInt_lt, hvalue]
      by_contra hno
      obtain ⟨hlow, hhigh⟩ := not_or.mp hno
      exact hrange ⟨Int.not_lt.mp hlow, Int.not_lt.mp hhigh⟩

/-- **The squelch** reads what is asked for, where its count fits. -/
theorem taken_squelch (hregular : squelch.Regular request) :
    squelch.taken request = squelch.wanted request := by
  cases htext : afterPrefix squelch.path request with
  | none =>
    have htext' : afterPrefix squelchPrefix request = none := htext
    rw [wanted_off htext, taken, parseRxSquelch, htext']
    rfl
  | some text =>
    have hfits : decimal (squelchDigits text) < 2 ^ 31 := hregular text htext
    have hcount (digits : CText) : digits.foldl
        (fun n c => n * 10 + Int32.ofNat (digit c)) 0
          = Int32.ofNat (decimal digits) := squelch_count digits 0
    have htext' : afterPrefix squelchPrefix request = some text := htext
    rw [wanted_of_text htext, numberOf_squelch, taken, parseRxSquelch, htext']
    dsimp only [Option.bind_eq_bind, Option.bind_some]
    rw [hcount]
    unfold squelchDigits at hfits
    by_cases hminus : peek text = 45
    · simp only [hminus, beq_self_eq_true, if_true] at hfits ⊢
      refine squelch_text (fun n => -n) (fun n : ℕ => -(n : ℤ)) ?_ hfits
      intro n hn
      rw [Int32.toInt_neg, Int32.toInt_ofNat_of_lt hn]
      exact Int.bmod_eq_of_le (by omega) (by omega)
    · have hsign : (peek text == 45) = false := by simpa using hminus
      simp only [hminus, hsign, Bool.false_eq_true, if_false] at hfits ⊢
      exact squelch_text id Int.ofNat
        (fun n hn => Int32.toInt_ofNat_of_lt hn) hfits

/-! ## The settings of the transmitter -/

/-- The settings that `strtoul` reads. -/
def OfTransmitter (s : NumericSetting) : Prop :=
  s = .timeout ∨ s = .drive ∨ s = .micGain

/-- The number in a text, as those routes read it. -/
def uintText (text : CText) : Option ℕ := do
  let (value, rest) ← strtoull text
  if 2 ^ 32 ≤ value.toNat ∨ !hasPrefix httpMark rest then none
  else some value.toNat

/-- What those settings read. -/
theorem taken_eq_some_iff (hs : s.OfTransmitter) :
    s.taken request = some value ↔ ∃ text, ∃ number : ℕ,
      afterPrefix s.path request = some text
        ∧ uintText text = some number
        ∧ s.InRange number ∧ value = number := by
  have hrange (path : CText) (minimum maximum : ℕ) :
      ((parseUintSetting path request).filter fun number =>
          minimum ≤ number && number ≤ maximum).map Int.ofNat = some value
        ↔ ∃ text, ∃ number : ℕ, afterPrefix path request = some text
          ∧ uintText text = some number
          ∧ ((minimum : ℤ) ≤ number ∧ (number : ℤ) ≤ maximum)
          ∧ value = number := by
    rw [Option.map_eq_some_iff]
    constructor
    · rintro ⟨number, hfilter, rfl⟩
      obtain ⟨hparsed, hbounds⟩ := Option.filter_eq_some_iff.mp hfilter
      obtain ⟨text, htext, hnumber⟩ := Option.bind_eq_some_iff.mp hparsed
      have hbounds : minimum ≤ number ∧ number ≤ maximum := by
        simpa using hbounds
      exact ⟨text, number, htext, hnumber, ⟨Int.ofNat_le.mpr hbounds.1,
        Int.ofNat_le.mpr hbounds.2⟩, rfl⟩
    · rintro ⟨text, number, htext, hnumber, hbounds, rfl⟩
      refine ⟨number, Option.filter_eq_some_iff.mpr
        ⟨Option.bind_eq_some_iff.mpr ⟨text, htext, hnumber⟩, ?_⟩, rfl⟩
      simpa using hbounds
  obtain rfl | rfl | rfl := hs
  · exact hrange txTimeoutPath txTimeoutMinSeconds txTimeoutMaxSeconds
  · exact hrange txDrivePath txMinDrivePercent txMaxDrivePercent
  · exact hrange txMicGainPath 0 70

/-- The greatest of those settings fits a word. -/
theorem greatest_of_transmitter (hs : s.OfTransmitter) :
    0 ≤ s.least ∧ s.greatest < 2 ^ 32 := by
  obtain rfl | rfl | rfl := hs
  · decide
  · decide
  · decide

/-- **A text those routes read** is a numeral with ` HTTP/` behind it. -/
theorem uintText_eq_some_iff {number : ℕ} : uintText text = some number
    ↔ ∃ blanks sign digits rest, Numeral text blanks sign digits rest
      ∧ hasPrefix httpMark rest = true ∧ number < 2 ^ 32
      ∧ number = (numeralValue sign digits).toNat := by
  refine Option.bind_eq_some_iff.trans ?_
  constructor
  · rintro ⟨⟨found, rest⟩, hread, hif⟩
    obtain ⟨blanks, sign, digits, hnumeral, rfl⟩ :=
      strtoull_eq_some_iff.mp hread
    dsimp only at hif
    split at hif
    · exact absurd hif (Option.some_ne_none _).symm
    · rename_i hno
      obtain ⟨hlarge, hmark⟩ := not_or.mp hno
      exact ⟨blanks, sign, digits, rest, hnumeral, by simpa using hmark,
        Option.some.inj hif ▸ Nat.lt_of_not_le hlarge,
        (Option.some.inj hif).symm⟩
  · rintro ⟨blanks, sign, digits, rest, hnumeral, hmark, hfits, rfl⟩
    refine ⟨(numeralValue sign digits, rest),
      strtoull_eq_some_iff.mpr ⟨blanks, sign, digits, hnumeral, rfl⟩, ?_⟩
    exact if_neg (by simpa [hmark] using hfits)

/-- A text that a digit begins is read up to ` HTTP/`. -/
theorem uintText_of_digit (hdigit : isDigit (peek text) = true) {number : ℕ} :
    uintText text = some number
      ↔ hasPrefix httpMark (text.dropWhile isDigit) = true
        ∧ number = decimal (text.takeWhile isDigit) ∧ number < 2 ^ 32 := by
  have hread : uintText text = if 2 ^ 32
        ≤ (numeralValue [] (text.takeWhile isDigit)).toNat
      ∨ !hasPrefix httpMark (text.dropWhile isDigit) then none
    else some (numeralValue [] (text.takeWhile isDigit)).toNat := by
    rw [uintText, strtoull_of_digit hdigit]
    rfl
  rw [hread]
  by_cases hlarge : 2 ^ 64 ≤ decimal (text.takeWhile isDigit)
  · rw [toNat_numeralValue_of_le hlarge, if_pos (Or.inl (by decide))]
    exact ⟨fun h => absurd h (Option.some_ne_none _).symm, fun h => by omega⟩
  · have hvalue : (numeralValue [] (text.takeWhile isDigit)).toNat
        = decimal (text.takeWhile isDigit) :=
      toNat_numeralValue (Nat.lt_of_not_le hlarge)
    rw [hvalue]
    constructor
    · intro hif
      split at hif
      · exact absurd hif (Option.some_ne_none _).symm
      · rename_i hno
        obtain ⟨hsmall, hmark⟩ := not_or.mp hno
        cases Option.some.inj hif
        exact ⟨by simpa using hmark, rfl, Nat.lt_of_not_le hsmall⟩
    · rintro ⟨hmark, rfl, hsmall⟩
      exact if_neg (by simpa [hmark] using hsmall)

/-- A blank begins what ends the path. -/
theorem peek_of_httpMark {rest : CText}
    (hmark : hasPrefix httpMark rest = true) : peek rest = 32 := by
  obtain ⟨tail, rfl⟩ := hasPrefix_iff.mp hmark
  rfl

/-- A numeral with nothing in front of its digits begins with one. -/
theorem blanks_or_sign {blanks sign digits rest : CText}
    (h : Numeral text blanks sign digits rest)
    (hother : isDigit (peek text) = false) : blanks ≠ [] ∨ sign ≠ [] := by
  by_contra hno
  obtain ⟨hblanks, hsign⟩ := not_or.mp hno
  have htext := h.text
  rw [not_not.mp hblanks, not_not.mp hsign] at htext
  cases hdigits : digits with
  | nil => exact h.nonempty hdigits
  | cons c cs =>
    rw [hdigits] at htext
    rw [htext] at hother
    have hc := h.run c (hdigits ▸ List.mem_cons_self ..)
    exact absurd (hc.symm.trans hother) (by decide)

/-- And with something in front of them it does not. -/
theorem not_digit_of_loose {blanks sign digits rest : CText}
    (h : Numeral text blanks sign digits rest)
    (hloose : blanks ≠ [] ∨ sign ≠ []) : isDigit (peek text) = false := by
  rw [h.text]
  cases hblanks : blanks with
  | nil =>
    obtain hsign | rfl | rfl := h.signed
    · exact (hloose.elim (fun h => h hblanks) fun h => h hsign).elim
    · rfl
    · rfl
  | cons c cs =>
    have hspace := h.spaces c (hblanks ▸ List.mem_cons_self ..)
    rw [Bool.eq_false_iff]
    intro hdigit
    have hdigit : isDigit c = true := hdigit
    rw [(of_isDigit hdigit).1] at hspace
    exact Bool.false_ne_true hspace

/-- A number of those settings is not negative, and fits a word. -/
theorem lt_of_inRange (hs : s.OfTransmitter) {number : ℕ}
    (hrange : s.InRange number) : number < 2 ^ 32 := by
  have hgreatest := (greatest_of_transmitter hs).2
  have hle := hrange.2
  omega

theorem ne_squelch (hs : s.OfTransmitter) : s ≠ .squelch := by
  obtain rfl | rfl | rfl := hs
  · decide
  · decide
  · decide

/-- **The settings of the transmitter** read what is asked for, where no
number is loose and each is followed up. -/
theorem taken_transmitter (hs : s.OfTransmitter)
    (hregular : ∀ text, afterPrefix s.path request = some text →
      ¬ s.Loose text ∧ s.FollowedUp text) :
    s.taken request = s.wanted request := by
  refine Option.ext fun value => ?_
  rw [taken_eq_some_iff hs, wanted_eq_some_iff (ne_squelch hs)]
  constructor
  · rintro ⟨text, number, htext, hread, hrange, rfl⟩
    refine ⟨text, number, htext, ?_, hrange, rfl⟩
    cases hdigit : isDigit (peek text) with
    | true =>
      obtain ⟨hmark, rfl, -⟩ := (uintText_of_digit hdigit).mp hread
      exact plain_upToBlank_eq_some_iff.mpr
        ⟨hdigit, peek_of_httpMark hmark, rfl⟩
    | false =>
      obtain ⟨blanks, sign, digits, rest, hnumeral, hmark, hsmall, rfl⟩ :=
        uintText_eq_some_iff.mp hread
      refine absurd ⟨blanks, sign, digits, rest, hnumeral,
        blanks_or_sign hnumeral hdigit, hmark, ?_⟩ (hregular text htext).1
      by_cases hlarge : 2 ^ 64 ≤ decimal digits
      · rw [toNat_numeralValue_of_le hlarge] at hsmall
        omega
      · have hlarge := Nat.lt_of_not_le hlarge
        rw [toNat_numeralValue hlarge] at hrange
        refine ⟨hlarge, ?_⟩
        by_cases hsign : sign = [45]
        · rw [if_pos hsign] at hrange ⊢
          exact hrange
        · rw [if_neg hsign] at hrange ⊢
          exact hrange
  · rintro ⟨text, number, htext, hplain, hrange, rfl⟩
    obtain ⟨hdigit, hblank, hnumber⟩ :=
      plain_upToBlank_eq_some_iff.mp hplain
    refine ⟨text, number, htext, (uintText_of_digit hdigit).mpr
      ⟨(hregular text htext).2 number hplain hrange, hnumber.symm,
        lt_of_inRange hs hrange⟩, hrange, rfl⟩

/-- **A loose number is taken**, and was not asked for. -/
theorem taken_of_loose (hs : s.OfTransmitter)
    (htext : afterPrefix s.path request = some text) (hloose : s.Loose text) :
    ∃ value, s.taken request = some value ∧ s.wanted request = none := by
  obtain ⟨blanks, sign, digits, rest, hnumeral, hfront, hmark, hfits,
    hrange⟩ := hloose
  have hnumber : s.InRange (numeralValue sign digits).toNat := by
    rw [toNat_numeralValue hfits]
    by_cases hsign : sign = [45]
    · rw [if_pos hsign] at hrange ⊢
      exact hrange
    · rw [if_neg hsign] at hrange ⊢
      exact hrange
  refine ⟨_, (taken_eq_some_iff hs).mpr ⟨text, _, htext,
    uintText_eq_some_iff.mpr ⟨blanks, sign, digits, rest, hnumeral, hmark,
      lt_of_inRange hs hnumber, rfl⟩, hnumber, rfl⟩, ?_⟩
  rw [Option.eq_none_iff_forall_ne_some]
  intro value hwanted
  obtain ⟨text', number, htext', hplain, -⟩ :=
    (wanted_eq_some_iff (ne_squelch hs)).mp hwanted
  cases htext.symm.trans htext'
  have hdigit := (plain_upToBlank_eq_some_iff.mp hplain).1
  rw [not_digit_of_loose hnumeral hfront] at hdigit
  exact Bool.false_ne_true hdigit

/-- **A number that is not followed up** is asked for, and not taken. -/
theorem wanted_of_not_followedUp (hs : s.OfTransmitter)
    (htext : afterPrefix s.path request = some text)
    (hno : ¬ s.FollowedUp text) :
    ∃ value, s.wanted request = some value ∧ s.taken request = none := by
  obtain ⟨number, hno⟩ := not_forall.mp hno
  obtain ⟨hplain, hno⟩ := Classical.not_imp.mp hno
  obtain ⟨hrange, hmark⟩ := Classical.not_imp.mp hno
  refine ⟨number, (wanted_eq_some_iff (ne_squelch hs)).mpr
    ⟨text, number, htext, hplain, hrange, rfl⟩, ?_⟩
  rw [Option.eq_none_iff_forall_ne_some]
  intro value htaken
  obtain ⟨text', found, htext', hread, -⟩ := (taken_eq_some_iff hs).mp htaken
  cases htext.symm.trans htext'
  have hdigit := (plain_upToBlank_eq_some_iff.mp hplain).1
  exact hmark ((uintText_of_digit hdigit).mp hread).1

/-! ## What the routes do -/

section Routes

variable (cb : TxCallbacks (TxContext (ApiWorld ρ))) {ops : RadioOps ρ}
variable (radio : RadioInfo) (capacity : ℕ) (pages : ApiPages)
variable {p : TxPlane (ApiWorld ρ)}

/-- The route of a setting. -/
def route (s : NumericSetting) (ops : RadioOps ρ) (request : CText)
    (capacity : ℕ) (pages : ApiPages) (p : TxPlane (ApiWorld ρ)) :
    ApiReply × TxPlane (ApiWorld ρ) :=
  match s with
  | .frequency | .bandwidth | .squelch =>
    radioRoute ops request capacity pages p
  | .timeout => timeoutRoute request capacity p
  | .drive => driveRoute request capacity p
  | .micGain => micGainRoute request capacity p

/-- A request has one setting's path at most. -/
theorem off_path (h : hasPrefix s.path request = true) {s' : NumericSetting}
    (hs : s' ≠ s) : hasPrefix s'.path request = false := by
  cases s <;> cases s' <;> first
    | exact absurd rfl hs
    | exact hasPrefix_eq_false h (by decide) (by decide)

/-- And no path of another kind. -/
theorem off_other (h : hasPrefix s.path request = true) :
    ownerRouted request = false ∧ txGeneralPath request = false
      ∧ hasPrefix txCompressorPath request = false
      ∧ hasPrefix tunePath request = false
      ∧ hasPrefix modePrefix request = false
      ∧ hasPrefix gainPrefix request = false := by
  have hoff (q : CText) (hq : ∀ s : NumericSetting,
      s.path.isPrefixOf q = false ∧ q.isPrefixOf s.path = false) :
      hasPrefix q request = false :=
    hasPrefix_eq_false h (hq s).1 (hq s).2
  refine ⟨?_, ?_, hoff _ ?_, hoff _ ?_, hoff _ ?_, hoff _ ?_⟩
  · simp only [ownerRouted, Bool.or_eq_false_iff]
    refine ⟨⟨hoff _ ?_, hoff _ ?_⟩, hoff _ ?_⟩ <;>
      exact fun s => by cases s <;> decide
  · simp only [txGeneralPath, Bool.or_eq_false_iff]
    refine ⟨⟨⟨hoff _ ?_, hoff _ ?_⟩, hoff _ ?_⟩, hoff _ ?_⟩ <;>
      exact fun s => by cases s <;> decide
  · exact fun s => by cases s <;> decide
  · exact fun s => by cases s <;> decide
  · exact fun s => by cases s <;> decide
  · exact fun s => by cases s <;> decide

/-- The dispatcher leaves a setting to its route. -/
theorem dispatch_of_ready (h : s.Ready ops request p) :
    dispatch cb ops request radio capacity pages p
      = s.route ops request capacity pages p := by
  obtain ⟨howner, hgeneral, hcompressor, htune, hmode, hgain⟩ :=
    off_other h.onPath
  rw [ownerRouted] at howner
  have hauthorised : (stationControlled request
      && !p.world.api.stationRequestAuthorized p.world.station request)
        = false := by
    by_cases hs : s = .squelch
    · have hoff (s' : NumericSetting) (hs' : s' ≠ .squelch) :
          hasPrefix s'.path request = false :=
        off_path (hs ▸ h.onPath) hs'
      have hfrequency : hasPrefix frequencyPrefix request = false :=
        hoff .frequency (by decide)
      have hbandwidth : hasPrefix bandwidthPrefix request = false :=
        hoff .bandwidth (by decide)
      have htimeout : hasPrefix txTimeoutPath request = false :=
        hoff .timeout (by decide)
      have hdrive : hasPrefix txDrivePath request = false :=
        hoff .drive (by decide)
      have hmicGain : hasPrefix txMicGainPath request = false :=
        hoff .micGain (by decide)
      simp [stationControlled, hgeneral, htune, hfrequency, hmode, hgain,
        hbandwidth, hdrive, hmicGain, htimeout, hcompressor]
    · rw [h.authorised hs, Bool.not_true, Bool.and_false]
  rw [dispatch, howner, if_neg Bool.false_ne_true, hauthorised,
    if_neg Bool.false_ne_true, hgeneral, if_neg Bool.false_ne_true,
    hcompressor, if_neg Bool.false_ne_true]
  have hpath (s' : NumericSetting) : hasPrefix s'.path request
      = decide (s' = s) := by
    by_cases hs : s' = s
    · rw [hs, h.onPath, decide_eq_true rfl]
    · rw [off_path h.onPath hs, decide_eq_false hs]
  have hdrive : hasPrefix txDrivePath request = decide (.drive = s) :=
    hpath .drive
  have hmicGain : hasPrefix txMicGainPath request = decide (.micGain = s) :=
    hpath .micGain
  have htimeout : hasPrefix txTimeoutPath request = decide (.timeout = s) :=
    hpath .timeout
  rw [hdrive, hmicGain, htimeout, htune]
  cases s <;> rfl

/-- A parser is silent off its path. -/
theorem parse_off (h : hasPrefix s.path request = true) :
    (s ≠ .frequency → parseRxFrequency request = none)
      ∧ (s ≠ .bandwidth → parseRxBandwidth request = none)
      ∧ (s ≠ .squelch → parseRxSquelch request = none)
      ∧ parseRxMode request = none ∧ parseRxGain request = none := by
  have hnone {α : Type} {parse : Option α} {front : CText}
      (hparse : ∀ value, parse = some value →
        hasPrefix front request = true)
      (hoff : hasPrefix front request = false) : parse = none := by
    rw [Option.eq_none_iff_forall_ne_some]
    intro value hvalue
    rw [hparse value hvalue] at hoff
    exact Bool.false_ne_true hoff.symm
  obtain ⟨-, -, -, -, hmode, hgain⟩ := off_other h
  refine ⟨fun hs => ?_, fun hs => ?_, fun hs => ?_, ?_, ?_⟩
  · exact hnone (fun _ => hasPrefix_of_parseRxFrequency) (off_path h hs.symm)
  · exact hnone (fun _ => hasPrefix_of_parseRxBandwidth) (off_path h hs.symm)
  · refine hnone (fun _ hparsed => ?_) (off_path h hs.symm)
    obtain ⟨text, htext, -⟩ := Option.bind_eq_some_iff.mp hparsed
    exact hasPrefix_of_afterPrefix htext
  · exact hnone (fun _ => hasPrefix_of_parseRxMode) hmode
  · exact hnone (fun _ => hasPrefix_of_parseRxGain) hgain

/-- A receive setting that was not read is not found. -/
theorem leaves_lastRoutes (h : hasPrefix s.path request = true)
    (hreceive : receivePath request = true) :
    Leaves p (lastRoutes ops request capacity pages p) := by
  obtain ⟨-, -, -, -, hgain⟩ := parse_off h
  rw [lastRoutes, hgain, if_pos hreceive]
  exact ⟨rfl, rfl⟩

/-- **What the receiver's settings do.** -/
theorem answers_radioRoute (h : s.Ready ops request p)
    (hs : s = .frequency ∨ s = .bandwidth ∨ s = .squelch) :
    (∀ value, s.taken request = some value →
        s.Puts ops value p (radioRoute ops request capacity pages p))
      ∧ (s.taken request = none →
        Leaves p (radioRoute ops request capacity pages p)) := by
  obtain ⟨hfrequency, hbandwidth, hsquelch, hmode, -⟩ := parse_off h.onPath
  have hinactive : p.world.api.transmitterActive p.tx = false := by
    rw [ApiController.transmitterActive, h.idle]
    exact Bool.and_false _
  have hreceive : receivePath request = true := by
    have hpath := h.onPath
    obtain rfl | rfl | rfl := hs
    · have hpath : hasPrefix frequencyPrefix request = true := hpath
      simp [receivePath, hpath]
    · have hpath : hasPrefix bandwidthPrefix request = true := hpath
      simp [receivePath, hpath]
    · have hpath : hasPrefix squelchPrefix request = true := hpath
      simp [receivePath, hpath]
  -- nobody transmits, so the guard in front of the settings is passed
  rw [radioRoute, hinactive, Bool.and_false, if_neg Bool.false_ne_true]
  obtain rfl | rfl | rfl := hs
  · obtain ⟨htuning, hops⟩ := h.enabled
    obtain ⟨tuneRx, htuneRx⟩ := Option.isSome_iff_exists.mp hops
    -- where no frequency is read the other routes are asked, in vain
    have hlast : Leaves p (streamRoutes ops request capacity pages p) := by
      rw [streamRoutes, hmode, hbandwidth (by decide), hsquelch (by decide)]
      dsimp only
      rw [ite_self]
      exact leaves_lastRoutes capacity pages h.onPath hreceive
    rw [htuneRx, htuning, taken]
    cases parseRxFrequency request with
    | none =>
      exact ⟨fun _ hnone => (Option.some_ne_none _ hnone.symm).elim,
        fun _ => hlast⟩
    | some frequencyHz =>
      dsimp only
      rw [frequencyRoute, Option.filter_some]
      cases hfilter : rxFilterForFrequency frequencyHz with
      | none =>
        exact ⟨fun _ hnone => (Option.some_ne_none _ hnone.symm).elim,
          fun _ => ⟨rfl, rfl⟩⟩
      | some filter =>
        refine ⟨fun value htaken => ?_,
          fun hnone => (Option.some_ne_none _ hnone).elim⟩
        cases Option.some.inj htaken
        refine ⟨tuneRx, htuneRx, ?_, rfl⟩
        show (if (tuneRx frequencyHz p.world.radio).1.1 = 0 then _ else _ :
          ApiReply).tuned = _
        rw [if_pos (h.succeeds rfl tuneRx htuneRx _ _)]
        rfl
  · have hactive : p.world.api.iqStreamActive = true := h.enabled
    rw [hfrequency (by decide), taken]
    dsimp only
    rw [streamRoutes, hactive, if_pos rfl, hmode, hsquelch (by decide)]
    cases parseRxBandwidth request with
    | none =>
      exact ⟨fun _ hnone => (Option.some_ne_none _ hnone.symm).elim,
        fun _ => leaves_lastRoutes capacity pages h.onPath hreceive⟩
    | some hz =>
      refine ⟨fun value htaken => ?_,
        fun hnone => (Option.some_ne_none _ hnone).elim⟩
      cases Option.some.inj htaken
      rfl
  · have hactive : p.world.api.iqStreamActive = true := h.enabled
    rw [hfrequency (by decide), taken]
    dsimp only
    rw [streamRoutes, hactive, if_pos rfl, hmode, hbandwidth (by decide)]
    cases parseRxSquelch request with
    | none =>
      exact ⟨fun _ hnone => (Option.some_ne_none _ hnone.symm).elim,
        fun _ => leaves_lastRoutes capacity pages h.onPath hreceive⟩
    | some db =>
      refine ⟨fun value htaken => ?_,
        fun hnone => (Option.some_ne_none _ hnone).elim⟩
      exact ⟨db, Option.some.inj htaken, rfl⟩

/-- The two settings the dispatcher keeps itself. -/
theorem answers_settingRoute {path : CText} {minimum maximum : ℕ}
    {name : String} {store : ℕ → ApiController → ApiController}
    (hattached : txSettingsAttached p = true) (hidle : p.tx.owner = .none) :
    (∀ value, ((parseUintSetting path request).filter fun value =>
        minimum ≤ value && value ≤ maximum) = some value →
        (settingRoute request capacity path minimum maximum name store p).2
          = p.withApi (store value))
      ∧ (((parseUintSetting path request).filter fun value =>
          minimum ≤ value && value ≤ maximum) = none →
        Leaves p (settingRoute request capacity path minimum maximum name
          store p)) := by
  have hinactive : p.world.api.transmitterActive p.tx = false := by
    rw [ApiController.transmitterActive, hidle]
    exact Bool.and_false _
  rw [settingRoute]
  refine ⟨fun value hvalue => ?_, fun hnone => ?_⟩
  · rw [hvalue]
    dsimp only
    rw [hattached, hinactive]
    rfl
  · rw [hnone]
    exact ⟨rfl, rfl⟩

/-- **What the timeout's route does.** -/
theorem answers_timeoutRoute (h : timeout.Ready ops request p) :
    (∀ value, timeout.taken request = some value →
        timeout.Puts ops value p (timeoutRoute request capacity p))
      ∧ (timeout.taken request = none →
        Leaves p (timeoutRoute request capacity p)) := by
  have hattached : txSettingsAttached p = true := h.enabled
  rw [timeoutRoute, taken]
  cases hread : (parseUintSetting txTimeoutPath request).filter
      fun value => txTimeoutMinSeconds ≤ value
        && value ≤ txTimeoutMaxSeconds with
  | none =>
    exact ⟨fun _ hnone => (Option.some_ne_none _ hnone.symm).elim,
      fun _ => ⟨rfl, rfl⟩⟩
  | some seconds =>
    refine ⟨fun value htaken => ?_,
      fun hnone => (Option.some_ne_none _ hnone).elim⟩
    cases Option.some.inj htaken
    have hbounds : txTimeoutMinSeconds ≤ seconds
        ∧ seconds ≤ txTimeoutMaxSeconds := by
      simpa using (Option.filter_eq_some_iff.mp hread).2
    have hset : TxControl.setTimeoutSeconds seconds p.tx
        = (true, { p.tx with
          maximumKeyMs := UInt64.ofNat seconds * 1000 }) := by
      refine if_neg ?_
      rintro (hno | hno | hno)
      · exact hno h.idle
      · exact absurd hno (Nat.not_lt.mpr hbounds.1)
      · exact absurd hno (Nat.not_lt.mpr hbounds.2)
    dsimp only
    rw [hattached, if_neg (by decide), if_neg (not_not.mpr h.idle), hset]
    rfl

/-- **What the code does** with a number it reads, and without one. -/
theorem answers_dispatch (h : s.Ready ops request p) :
    (∀ value, s.taken request = some value → s.Puts ops value p
        (dispatch cb ops request radio capacity pages p))
      ∧ (s.taken request = none →
        Leaves p (dispatch cb ops request radio capacity pages p)) := by
  rw [dispatch_of_ready cb radio capacity pages h]
  cases s with
  | frequency => exact answers_radioRoute capacity pages h (Or.inl rfl)
  | bandwidth =>
    exact answers_radioRoute capacity pages h (Or.inr (Or.inl rfl))
  | squelch =>
    exact answers_radioRoute capacity pages h (Or.inr (Or.inr rfl))
  | timeout => exact answers_timeoutRoute capacity h
  | drive =>
    obtain ⟨hputs, hleaves⟩ :=
      answers_settingRoute capacity h.enabled h.idle
    refine ⟨fun value htaken => ?_, fun hnone => ?_⟩
    · obtain ⟨number, hnumber, rfl⟩ := Option.map_eq_some_iff.mp htaken
      exact hputs number hnumber
    · exact hleaves (Option.map_eq_none_iff.mp hnone)
  | micGain =>
    obtain ⟨hputs, hleaves⟩ :=
      answers_settingRoute capacity h.enabled h.idle
    refine ⟨fun value htaken => ?_, fun hnone => ?_⟩
    · obtain ⟨number, hnumber, rfl⟩ := Option.map_eq_some_iff.mp htaken
      exact hputs number hnumber
    · exact hleaves (Option.map_eq_none_iff.mp hnone)

end Routes

/-! ## The law -/

/-- A count fits at every step where it fits at the end. -/
theorem fits_iff (request : CText) : squelch.Fits request
    ↔ ∀ text, afterPrefix squelch.path request = some text →
      decimal (squelchDigits text) < 2 ^ 31 := by
  constructor
  · exact fun hfits text htext =>
      hfits rfl text htext _ (List.prefix_refl _)
  · rintro hfits - text htext front ⟨rest, hrest⟩
    refine lt_of_le_of_lt ?_ (hfits text htext)
    rw [← hrest]
    exact decimal_le_append front rest

/-- Where the grammar is kept the code reads what is asked for. -/
theorem taken_of_regular (hregular : s.Regular request) :
    s.taken request = s.wanted request := by
  cases s with
  | frequency => exact taken_frequency request
  | bandwidth => exact taken_bandwidth request
  | squelch => exact taken_squelch hregular
  | timeout => exact taken_transmitter (Or.inl rfl) hregular
  | drive => exact taken_transmitter (Or.inr (Or.inl rfl)) hregular
  | micGain => exact taken_transmitter (Or.inr (Or.inr rfl)) hregular

/-- A state in which no setting of the transmitter has a value it may be
put to. -/
def unset (radio : ρ) : TxPlane (ApiWorld ρ) where
  tx := { TxControl.init true 1 with maximumKeyMs := 1 }
  tune := .init true
  network := .init true
  world :=
    { api := { ApiController.init true true true with
        txDrivePercent := 0, txMicrophoneGainDb := 71, tuneAttached := true }
      station := .init
      radio := radio }

/-- Any request with a path may be served there, but for a frequency. -/
theorem ready_unset (ops : RadioOps ρ) (radio : ρ) (hs : s ≠ .frequency)
    (hpath : hasPrefix s.path request = true) :
    s.Ready ops request (unset radio) where
  onPath := hpath
  enabled := by
    cases s with
    | frequency => exact absurd rfl hs
    | _ => rfl
  authorised _ := rfl
  idle := rfl
  succeeds h := absurd h hs

/-- There a value in range cannot be put and nothing be changed. -/
theorem not_leaves_unset (hs : s.OfTransmitter) (hrange : s.InRange value)
    {ops : RadioOps ρ} {radio : ρ} {r : ApiReply × TxPlane (ApiWorld ρ)}
    (hputs : s.Puts ops value (unset radio) r) :
    ¬ Leaves (unset radio) r := by
  rintro ⟨hstate, -⟩
  obtain ⟨hleast, hgreatest⟩ := hrange
  obtain rfl | rfl | rfl := hs
  · have hputs : r.2 = { unset radio with tx := { (unset radio).tx with
        maximumKeyMs := UInt64.ofNat value.toNat * 1000 } } := hputs
    rw [hstate] at hputs
    have hkey : (1 : UInt64) = UInt64.ofNat value.toNat * 1000 :=
      congrArg (fun p => p.tx.maximumKeyMs) hputs
    have hkey := congrArg UInt64.toNat hkey
    rw [UInt64.toNat_mul, UInt64.toNat_ofNat'] at hkey
    have hkey : 1 = value.toNat % 2 ^ 64 * 1000 % 2 ^ 64 := hkey
    have hsmall : timeout.greatest < 2 ^ 32 := by decide
    omega
  · have hputs : r.2 = (unset radio).withApi fun api =>
        { api with txDrivePercent := value.toNat } := hputs
    rw [hstate] at hputs
    have hdrive : 0 = value.toNat :=
      congrArg (fun p => p.world.api.txDrivePercent) hputs
    have hleast : (txMinDrivePercent : ℤ) ≤ value := hleast
    have hpositive : 0 < txMinDrivePercent := by decide
    omega
  · have hputs : r.2 = (unset radio).withApi fun api =>
        { api with txMicrophoneGainDb := value.toNat } := hputs
    rw [hstate] at hputs
    have hgain : 71 = value.toNat :=
      congrArg (fun p => p.world.api.txMicrophoneGainDb) hputs
    have hgreatest : value ≤ 70 := hgreatest
    omega

section Law

variable (cb : TxCallbacks (TxContext (ApiWorld ρ))) (ops : RadioOps ρ)
variable (radio : RadioInfo) (capacity : ℕ) (pages : ApiPages)

/-- A regular request is served by the grammar. -/
theorem kept_of_regular (hregular : s.Regular request)
    {p : TxPlane (ApiWorld ρ)} (h : s.Ready ops request p) :
    s.Kept ops request p
      (dispatch cb ops request radio capacity pages p) := by
  obtain ⟨hputs, hleaves⟩ := answers_dispatch cb radio capacity pages h
  rw [taken_of_regular hregular] at hputs hleaves
  refine ⟨hputs, hleaves, ?_⟩
  by_cases hs : s = .squelch
  · subst hs
    exact (fits_iff request).mpr hregular
  · exact fun h => absurd h hs

/-- What is served by the grammar where no setting has a value is regular:
a setting of the transmitter would change there, or be left, as it may
not. -/
theorem regular_of_kept (hs : s.OfTransmitter) (w : ρ)
    (hkept : hasPrefix s.path request = true →
      s.Kept ops request (unset w)
        (dispatch cb ops request radio capacity pages (unset w))) :
    ∀ text, afterPrefix s.path request = some text →
      ¬ s.Loose text ∧ s.FollowedUp text := by
  intro text htext
  have hpath := hasPrefix_of_afterPrefix htext
  have hfrequency : s ≠ .frequency := by
    obtain rfl | rfl | rfl := hs <;> decide
  obtain ⟨hputs, hleaves⟩ := answers_dispatch cb radio capacity pages
    (ready_unset ops w hfrequency hpath)
  refine ⟨fun hloose => ?_, ?_⟩
  · obtain ⟨value, htaken, hwanted⟩ := taken_of_loose hs htext hloose
    obtain ⟨_, number, _, _, hrange, rfl⟩ := (taken_eq_some_iff hs).mp htaken
    exact not_leaves_unset hs hrange (hputs _ htaken)
      ((hkept hpath).leaves hwanted)
  · by_contra hno
    obtain ⟨value, hwanted, htaken⟩ := wanted_of_not_followedUp hs htext hno
    obtain ⟨_, number, _, _, hrange, rfl⟩ :=
      (wanted_eq_some_iff (ne_squelch hs)).mp hwanted
    exact not_leaves_unset hs hrange ((hkept hpath).puts _ hwanted)
      (hleaves htaken)

/-- **The grammar of the settings.** A setting's route keeps the grammar, in
every state that may serve it, exactly where the request is regular: the
frequency and the bandwidth always, the squelch where its digits stand for
less than `2 ^ 31`, and the settings of the transmitter where no number is
loose and every plain one is followed up. -/
theorem kept_iff (s : NumericSetting) (request : CText) (w : ρ) :
    (∀ p : TxPlane (ApiWorld ρ), s.Ready ops request p →
        s.Kept ops request p
          (dispatch cb ops request radio capacity pages p))
      ↔ s.Regular request := by
  refine ⟨fun hkept => ?_,
    fun hregular p => kept_of_regular cb ops radio capacity pages hregular⟩
  have hunset (hs : s ≠ .frequency) (hpath : hasPrefix s.path request = true) :
      s.Kept ops request (unset w)
        (dispatch cb ops request radio capacity pages (unset w)) :=
    hkept _ (ready_unset ops w hs hpath)
  cases s with
  | frequency => exact fun _ _ => trivial
  | bandwidth => exact fun _ _ => trivial
  | squelch =>
    intro text htext
    have hfits := (hunset (by decide) (hasPrefix_of_afterPrefix htext)).fits
    exact (fits_iff request).mp hfits text htext
  | timeout =>
    exact regular_of_kept cb ops radio capacity pages (Or.inl rfl) w
      (hunset (by decide))
  | drive =>
    exact regular_of_kept cb ops radio capacity pages (Or.inr (Or.inl rfl)) w
      (hunset (by decide))
  | micGain =>
    exact regular_of_kept cb ops radio capacity pages (Or.inr (Or.inr rfl)) w
      (hunset (by decide))

/-- A daemon that is up, with the settings it begins with, whose station is
held under lease 7. -/
def heldAtBoot : TxPlane (ApiWorld Unit) where
  tx := TxControl.armPhysicalPtt
    (.init true (UInt64.ofNat txTimeoutDefaultSeconds * 1000))
  tune := .init true
  network := .init true
  world :=
    { api := { ApiController.init true true true with
        stationAttached := true, tuneAttached := true, networkAttached := true }
      station := { held := true, modeAware := true, lease := 7 }
      radio := () }

/-- **Numbers that wrap**: a squelch of 4294967291 is stored as -5 in place of
-120, and a drive of minus 18446744073709551566, from whoever has the station,
as 50 in place of what the daemon begins with. -/
theorem wrapped_into_range :
    let p := heldAtBoot
    let serves (request : CText) :=
      dispatch { start := none, stop := none } noOps request
        { frequencyHz := none } 4096 { status := none, radio := none } p
    let quiet := ofString
      "PUT /v1/radio/squelch/4294967291 HTTP/1.1\r\n\r\n"
    let driven := ofString
      ("PUT /v1/radio/tx-drive/-18446744073709551566 HTTP/1.1\r\n"
        ++ "X-Flex1500-Control-Lease: 7\r\n\r\n")
    (squelch.Ready noOps quiet p
        ∧ squelch.wanted quiet = none
        ∧ p.world.api.rxSquelchDb = -120
        ∧ (serves quiet).2.world.api.rxSquelchDb = -5
        ∧ ¬ squelch.Kept noOps quiet p (serves quiet))
      ∧ drive.Ready noOps driven p
      ∧ drive.wanted driven = none
      ∧ p.world.api.txDrivePercent = txDefaultDrivePercent
      ∧ (serves driven).2.world.api.txDrivePercent = 50
      ∧ ¬ drive.Kept noOps driven p (serves driven) := by
  intro p serves quiet driven
  have hready (s : NumericSetting) (request : CText)
      (hpath : hasPrefix s.path request = true) (henabled : s.Enabled noOps p)
      (hauthorised : p.world.api.stationRequestAuthorized p.world.station
        request = true ∨ s = .squelch) (hs : s ≠ .frequency) :
      s.Ready noOps request p :=
    ⟨hpath, henabled, hauthorised.resolve_right, rfl, fun h => absurd h hs⟩
  have hquiet : squelch.wanted quiet = none
      ∧ (serves quiet).2.world.api.rxSquelchDb = -5 := by decide +kernel
  have hdriven : drive.wanted driven = none
      ∧ (serves driven).2.world.api.txDrivePercent = 50 := by decide +kernel
  refine ⟨⟨hready _ _ (by decide +kernel) rfl (Or.inr rfl) (by decide), hquiet.1,
      rfl, hquiet.2, fun hkept => ?_⟩,
    hready _ _ (by decide +kernel) rfl (Or.inl (by decide +kernel)) (by decide),
    hdriven.1, rfl, hdriven.2, fun hkept => ?_⟩
  · have hsame := congrArg (·.world.api.rxSquelchDb) (hkept.leaves hquiet.1).state
    exact absurd (hquiet.2.symm.trans hsame) (by decide)
  · have hsame :=
      congrArg (·.world.api.txDrivePercent) (hkept.leaves hdriven.1).state
    exact absurd (hdriven.2.symm.trans hsame) (by decide)

end Law

end NumericSetting
