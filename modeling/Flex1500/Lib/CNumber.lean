import Mathlib.Data.FinEnum
import Mathlib.Data.List.TakeWhile
import Flex1500.Lib.CText

/-!
# Numbers in a text

What a text has to look like for `strtoull` to find a number in it, and what
number that is: white space, a sign or none, and a run of digits. Beside it
stands the plain number, which is digits and nothing else, up to a blank.
-/

namespace CText

variable {s t rest run word : CText} {c : UInt8} {n : ℕ}

/-! ## Runs -/

/-- A run ends where what follows it is of another kind. -/
theorem takeWhile_run {p : UInt8 → Bool} (hrun : ∀ c ∈ run, p c = true)
    (hstop : p (peek rest) = false) : (run ++ rest).takeWhile p = run := by
  rw [List.takeWhile_append_of_pos hrun]
  cases rest with
  | nil => exact List.append_nil run
  | cons c cs =>
    have hstop : p c = false := hstop
    rw [List.takeWhile_cons_of_neg (by simp [hstop]), List.append_nil]

/-- What follows a run is left when the run is dropped. -/
theorem dropWhile_run {p : UInt8 → Bool} (hrun : ∀ c ∈ run, p c = true)
    (hstop : p (peek rest) = false) : (run ++ rest).dropWhile p = rest := by
  rw [List.dropWhile_append_of_pos hrun]
  cases rest with
  | nil => rfl
  | cons c cs =>
    have hstop : p c = false := hstop
    rw [List.dropWhile_cons_of_neg (by simp [hstop])]

/-- Behind a run something of another kind stands. -/
theorem peek_dropWhile {p : UInt8 → Bool} (hzero : p 0 = false)
    (s : CText) : p (peek (s.dropWhile p)) = false := by
  induction s with
  | nil => exact hzero
  | cons c cs ih =>
    cases hc : p c with
    | true =>
      rw [List.dropWhile_cons_of_pos hc]
      exact ih
    | false =>
      rw [List.dropWhile_cons_of_neg (by simp [hc])]
      exact hc

/-- A run of digits begins with one. -/
theorem isDigit_peek_iff :
    isDigit (peek s) = true ↔ s.takeWhile isDigit ≠ [] := by
  cases s with
  | nil => simp [peek, isDigit]
  | cons c cs =>
    by_cases hc : isDigit c = true
    · rw [List.takeWhile_cons_of_pos hc]
      exact ⟨fun _ => List.cons_ne_nil c _, fun _ => hc⟩
    · rw [List.takeWhile_cons_of_neg hc]
      exact ⟨fun h => absurd h hc, fun h => absurd rfl h⟩

/-- The front of a run of digits stands for no more than the run. -/
theorem decimal_le_append (s t : CText) : decimal s ≤ decimal (s ++ t) := by
  have hgrows (n : ℕ) :
      n ≤ t.foldl (fun value c => value * 10 + digit c) n := by
    induction t generalizing n with
    | nil => exact le_rfl
    | cons c cs ih => exact le_trans (by omega) (ih (n * 10 + digit c))
  rw [decimal, decimal, List.foldl_append]
  exact hgrows _

/-- A digit is neither white space nor a sign. -/
theorem of_isDigit {c : UInt8} (hc : isDigit c = true) :
    isSpace c = false ∧ c ≠ 32 ∧ c ≠ 43 ∧ c ≠ 45 := by
  have hc : 48 ≤ c ∧ c ≤ 57 := by simpa [isDigit] using hc
  have hlow : 48 ≤ c.toNat := hc.1
  have hne (d : UInt8) (hd : d.toNat < 48) : c ≠ d := by
    rintro rfl
    omega
  refine ⟨?_, hne 32 (by decide), hne 43 (by decide), hne 45 (by decide)⟩
  have hhigh : ¬ c ≤ 13 := fun h => by
    have h : c.toNat ≤ 13 := h
    omega
  simp [isSpace, hne 32 (by decide), hhigh]

/-! ## A number as `strtoull` reads it -/

/-- **A numeral** at the start of a text: white space, a sign or none,
digits, and what follows them. -/
structure Numeral (s blanks sign digits rest : CText) : Prop where
  text : s = blanks ++ (sign ++ (digits ++ rest))
  spaces : ∀ c ∈ blanks, isSpace c = true
  signed : sign = [] ∨ sign = [43] ∨ sign = [45]
  run : ∀ c ∈ digits, isDigit c = true
  nonempty : digits ≠ []
  stop : isDigit (peek rest) = false

/-- What a numeral stands for: a number too large is cut to the largest,
and a minus counts down from zero. -/
def numeralValue (sign digits : CText) : UInt64 :=
  if 2 ^ 64 ≤ decimal digits then 0xFFFFFFFFFFFFFFFF
  else if sign = [45] then 0 - UInt64.ofNat (decimal digits)
  else UInt64.ofNat (decimal digits)

/-- A number that is not too large, behind its sign. -/
theorem toNat_numeralValue {sign digits : CText}
    (hfits : decimal digits < 2 ^ 64) :
    (numeralValue sign digits).toNat
      = if sign = [45] then (2 ^ 64 - decimal digits) % 2 ^ 64
        else decimal digits := by
  have hdigits : (UInt64.ofNat (decimal digits)).toNat = decimal digits :=
    UInt64.toNat_ofNat_of_lt hfits
  rw [numeralValue, if_neg (Nat.not_le.mpr hfits)]
  split
  · rw [UInt64.toNat_sub, hdigits]
    rfl
  · exact hdigits

/-- A number that is too large is the largest. -/
theorem toNat_numeralValue_of_le {sign digits : CText}
    (hlarge : 2 ^ 64 ≤ decimal digits) :
    (numeralValue sign digits).toNat = 2 ^ 64 - 1 := by
  rw [numeralValue, if_pos hlarge]
  rfl

/-- Where there is a sign it is skipped. -/
theorem skipSign_of_numeral {sign digits : CText}
    (hsign : sign = [] ∨ sign = [43] ∨ sign = [45])
    (hdigit : isDigit (peek digits) = true) :
    skipSign (sign ++ digits) = (decide (sign = [45]), digits) := by
  obtain rfl | rfl | rfl := hsign
  · cases digits with
    | nil => exact absurd hdigit (by decide)
    | cons c cs =>
      obtain ⟨-, -, hplus, hminus⟩ := of_isDigit hdigit
      rw [List.nil_append]
      unfold skipSign
      split
      · rename_i heq
        exact absurd (List.cons.inj heq).1 hminus
      · rename_i heq
        exact absurd (List.cons.inj heq).1 hplus
      · rfl
  · rfl
  · rfl

/-- What is skipped is a sign, or nothing. -/
theorem eq_of_skipSign (s : CText) : ∃ sign,
    (sign = [] ∨ sign = [43] ∨ sign = [45])
      ∧ s = sign ++ (skipSign s).2
      ∧ (skipSign s).1 = decide (sign = [45]) := by
  unfold skipSign
  split
  · exact ⟨[45], Or.inr (Or.inr rfl), rfl, rfl⟩
  · exact ⟨[43], Or.inr (Or.inl rfl), rfl, rfl⟩
  · exact ⟨[], Or.inl rfl, rfl, rfl⟩

/-- **`strtoull` reads a numeral**, and only that. -/
theorem strtoull_eq_some_iff {value : UInt64} :
    strtoull s = some (value, rest)
      ↔ ∃ blanks sign digits, Numeral s blanks sign digits rest
        ∧ value = numeralValue sign digits := by
  constructor
  · intro h
    obtain ⟨sign, hsign, htext, hminus⟩ := eq_of_skipSign (skipSpace s)
    rw [strtoull] at h
    dsimp only at h
    rw [hminus] at h
    split at h
    · exact absurd h (Option.some_ne_none _).symm
    rename_i hdigits
    obtain ⟨hvalue, hrest⟩ := Prod.mk.inj (Option.some.inj h)
    refine ⟨s.takeWhile isSpace, sign,
      (skipSign (skipSpace s)).2.takeWhile isDigit, ?_, ?_⟩
    · refine ⟨?_, fun c => List.mem_takeWhile_imp, hsign,
        fun c => List.mem_takeWhile_imp, by simpa using hdigits, ?_⟩
      · rw [← hrest, List.takeWhile_append_dropWhile, ← htext, skipSpace,
          List.takeWhile_append_dropWhile]
      · rw [← hrest]
        exact peek_dropWhile (by decide) _
    · rw [← hvalue, numeralValue]
      simp only [decide_eq_true_eq]
  · rintro ⟨blanks, sign, digits, h, rfl⟩
    have hdigit : isDigit (peek (digits ++ rest)) = true := by
      cases hd : digits with
      | nil => exact absurd hd h.nonempty
      | cons c cs => exact h.run c (hd ▸ List.mem_cons_self ..)
    have hspace : isSpace (peek (sign ++ (digits ++ rest))) = false := by
      obtain rfl | rfl | rfl := h.signed
      · exact (of_isDigit hdigit).1
      · rfl
      · rfl
    have hskip : skipSpace s = sign ++ (digits ++ rest) := by
      rw [skipSpace, h.text, dropWhile_run h.spaces hspace]
    rw [strtoull, hskip, skipSign_of_numeral h.signed hdigit]
    dsimp only
    rw [takeWhile_run h.run h.stop, dropWhile_run h.run h.stop,
      if_neg (by simpa using h.nonempty), numeralValue]
    simp only [decide_eq_true_eq]

/-- A text that a digit begins is read as it stands. -/
theorem strtoull_of_digit (hdigit : isDigit (peek s) = true) :
    strtoull s = some (numeralValue [] (s.takeWhile isDigit),
      s.dropWhile isDigit) := by
  refine strtoull_eq_some_iff.mpr ⟨[], [], _, ⟨?_, ?_, Or.inl rfl,
    fun c => List.mem_takeWhile_imp, ?_, peek_dropWhile (by decide) s⟩, rfl⟩
  · rw [List.nil_append, List.nil_append, List.takeWhile_append_dropWhile]
  · exact fun c hc => absurd hc List.not_mem_nil
  · exact isDigit_peek_iff.mp hdigit

/-! ## A plain number -/

/-- The text up to the next blank, where there is one. -/
def upToBlank (s : CText) : Option CText :=
  if 32 ∈ s then some (s.takeWhile (· ≠ 32)) else none

/-- **A plain number**: digits and nothing else. -/
def plainValue (s : CText) : Option ℕ :=
  if s ≠ [] ∧ ∀ c ∈ s, isDigit c = true then some (decimal s) else none

/-- The word behind a byte that is no blank goes on. -/
theorem upToBlank_cons (c : UInt8) (cs : CText) : upToBlank (c :: cs)
    = if c = 32 then some [] else (upToBlank cs).map (c :: ·) := by
  unfold upToBlank
  by_cases hc : c = 32
  · rw [hc, if_pos (List.mem_cons_self ..), if_pos rfl,
      List.takeWhile_cons_of_neg (by simp)]
  · rw [if_neg hc, List.takeWhile_cons_of_pos (by simp [hc])]
    by_cases hcs : 32 ∈ cs
    · rw [if_pos (List.mem_cons_of_mem c hcs), if_pos hcs, Option.map_some]
    · rw [if_neg hcs, if_neg fun h =>
        (List.mem_cons.mp h).elim (fun h => hc h.symm) hcs, Option.map_none]

/-- A word of digits up to a blank is a run of digits that a blank ends. -/
theorem digits_upToBlank_iff : (upToBlank s = some word
      ∧ ∀ c ∈ word, isDigit c = true)
    ↔ s.takeWhile isDigit = word ∧ peek (s.dropWhile isDigit) = 32 := by
  induction s generalizing word with
  | nil =>
    exact ⟨fun h => absurd h.1 (by simp [upToBlank]),
      fun h => absurd h.2 (by decide)⟩
  | cons c cs ih =>
    rw [upToBlank_cons]
    by_cases hc : isDigit c = true
    · rw [if_neg (of_isDigit hc).2.1, List.takeWhile_cons_of_pos hc,
        List.dropWhile_cons_of_pos hc]
      constructor
      · rintro ⟨hmap, hdigits⟩
        obtain ⟨front, hfront, rfl⟩ := Option.map_eq_some_iff.mp hmap
        obtain ⟨htake, hpeek⟩ := ih.mp ⟨hfront, fun d hd =>
          hdigits d (List.mem_cons_of_mem c hd)⟩
        exact ⟨congrArg (c :: ·) htake, hpeek⟩
      · rintro ⟨rfl, hpeek⟩
        obtain ⟨hfront, hdigits⟩ := ih.mpr ⟨rfl, hpeek⟩
        refine ⟨by rw [hfront]; rfl, fun d hd => ?_⟩
        exact (List.mem_cons.mp hd).elim (fun h => h ▸ hc) (hdigits d)
    · rw [List.takeWhile_cons_of_neg hc, List.dropWhile_cons_of_neg hc]
      constructor
      · rintro ⟨hmap, hdigits⟩
        split at hmap
        · rename_i hblank
          exact ⟨Option.some.inj hmap, hblank⟩
        · obtain ⟨front, -, rfl⟩ := Option.map_eq_some_iff.mp hmap
          exact absurd (hdigits c (List.mem_cons_self ..)) hc
      · rintro ⟨rfl, hblank⟩
        have hblank : c = 32 := hblank
        rw [if_pos hblank]
        exact ⟨rfl, fun d hd => absurd hd List.not_mem_nil⟩

/-- **The digits up to a blank** are the run of digits that a blank ends. -/
theorem plain_upToBlank_eq_some_iff {value : ℕ} :
    (upToBlank s).bind plainValue = some value
      ↔ isDigit (peek s) = true ∧ peek (s.dropWhile isDigit) = 32
        ∧ decimal (s.takeWhile isDigit) = value := by
  rw [Option.bind_eq_some_iff, isDigit_peek_iff]
  constructor
  · rintro ⟨word, hup, hplain⟩
    unfold plainValue at hplain
    split at hplain
    · rename_i hdigits
      obtain ⟨hrun, hblank⟩ := digits_upToBlank_iff.mp ⟨hup, hdigits.2⟩
      rw [hrun]
      exact ⟨hdigits.1, hblank, Option.some.inj hplain⟩
    · exact absurd hplain (Option.some_ne_none _).symm
  · rintro ⟨hne, hblank, rfl⟩
    obtain ⟨hup, hdigits⟩ := digits_upToBlank_iff.mpr ⟨rfl, hblank⟩
    exact ⟨_, hup, if_pos ⟨hne, hdigits⟩⟩

/-! ## A number as it is printed -/

/-- A digit's byte stands for the digit. -/
theorem byte_of_isDigit {c : Char} (hc : c.isDigit = true) :
    isDigit (UInt8.ofNat c.toNat) = true
      ∧ digit (UInt8.ofNat c.toNat) = c.toNat - '0'.toNat := by
  have hrange : 48 ≤ c.toNat ∧ c.toNat ≤ 57 := by
    simpa [Char.isDigit, UInt32.le_iff_toNat_le] using hc
  have hbyte : (UInt8.ofNat c.toNat).toNat = c.toNat :=
    UInt8.toNat_ofNat_of_lt (Nat.lt_of_le_of_lt hrange.2 (by decide))
  constructor
  · simp [isDigit, UInt8.le_iff_toNat_le, hbyte, hrange]
  · rw [digit, hbyte]
    rfl

/-- A printed number is a run of digits. -/
theorem isDigit_of_mem_toString (h : c ∈ ofString (toString n)) :
    isDigit c = true := by
  rw [ofString, Nat.toString_eq_repr, Nat.toList_repr] at h
  obtain ⟨d, hd, rfl⟩ := List.mem_map.mp h
  exact (byte_of_isDigit
    (Nat.isDigit_of_mem_toDigits (by decide) (by decide) hd)).1

theorem toString_ne_nil (n : ℕ) : ofString (toString n) ≠ [] := by
  simp [ofString]

/-- **A printed number** stands for the number. -/
theorem decimal_toString (n : ℕ) : decimal (ofString (toString n)) = n := by
  have hdigits (chars : List Char) (value : ℕ)
      (hchars : ∀ c ∈ chars, c.isDigit = true) :
      (chars.map fun c => UInt8.ofNat c.toNat).foldl
        (fun value c => value * 10 + digit c) value
        = Nat.ofDigitChars 10 chars value := by
    induction chars generalizing value with
    | nil => rfl
    | cons c cs ih =>
      rw [List.map_cons, List.foldl_cons, Nat.ofDigitChars_cons,
        (byte_of_isDigit (hchars c (List.mem_cons_self ..))).2, mul_comm,
        ih _ fun d hd => hchars d (List.mem_cons_of_mem c hd)]
  rw [decimal, ofString, Nat.toString_eq_repr, Nat.toList_repr,
    hdigits _ _ fun c => Nat.isDigit_of_mem_toDigits (by decide) (by decide),
    Nat.ofDigitChars_ten_toDigits]

/-- **A printed number is read back.** -/
theorem strtoull_toString (hn : n < 2 ^ 64) :
    strtoull (ofString (toString n)) = some (UInt64.ofNat n, []) := by
  refine strtoull_eq_some_iff.mpr ⟨[], [], ofString (toString n), ⟨?_, ?_,
    Or.inl rfl, fun c => isDigit_of_mem_toString, toString_ne_nil n, rfl⟩, ?_⟩
  · rw [List.nil_append, List.nil_append, List.append_nil]
  · exact fun c hc => absurd hc List.not_mem_nil
  · rw [numeralValue, decimal_toString, if_neg (Nat.not_le.mpr hn),
      if_neg (by decide)]

end CText
