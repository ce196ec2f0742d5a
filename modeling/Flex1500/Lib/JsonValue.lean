import Flex1500.Lib.CNumber

/-!
# JSON values and what `scanf` makes of them

A quoted word and an integer as JSON writes them, and the conversions of
`scanf` that read such a value without a parser: a set of letters behind a
quote, and an unsigned number. The conversions stop where they like. Said
here is when what they stored is the whole value.
-/

namespace CText

variable {s word blanks digits rest : CText} {value : ℕ}

/-- White space between the tokens of JSON. -/
def isJsonBlank (c : UInt8) : Bool :=
  c == 32 || c == 9 || c == 10 || c == 13

/-- What may stand behind a number in JSON. -/
def isJsonDelimiter (c : UInt8) : Bool :=
  isJsonBlank c || c == 44 || c == 93 || c == 125

/-- **A quoted word** is the value a text begins with. -/
def JsonWord (s word : CText) : Prop :=
  ∃ blanks rest, s = blanks ++ 34 :: (word ++ 34 :: rest)
    ∧ ∀ c ∈ blanks, isJsonBlank c = true

/-- **An integer** is the value a text begins with: digits with no zero in
front, neither a fraction nor an exponent behind them. -/
def JsonInteger (s : CText) (value : ℕ) : Prop :=
  ∃ blanks digits rest, s = blanks ++ (digits ++ rest)
    ∧ (∀ c ∈ blanks, isJsonBlank c = true)
    ∧ digits ≠ [] ∧ (∀ c ∈ digits, isDigit c = true)
    ∧ (digits.length = 1 ∨ peek digits ≠ 48)
    ∧ (rest = [] ∨ isJsonDelimiter (peek rest) = true)
    ∧ decimal digits = value

/-! ## Blanks -/

/-- What JSON skips, `scanf` skips too. -/
theorem isSpace_of_isJsonBlank {c : UInt8} (h : isJsonBlank c = true) :
    isSpace c = true := by
  have h : ((c = 32 ∨ c = 9) ∨ c = 10) ∨ c = 13 := by
    simpa [isJsonBlank] using h
  obtain ((rfl | rfl) | rfl) | rfl := h <;> rfl

/-- A text that begins with none is not moved. -/
theorem skipSpace_of_peek (h : isSpace (peek s) = false) : skipSpace s = s :=
  dropWhile_run (fun _ hc => absurd hc List.not_mem_nil) h

theorem peek_skipSpace (s : CText) : isSpace (peek (skipSpace s)) = false :=
  peek_dropWhile (by decide) s

/-- JSON's blanks are what is skipped in front of another byte. -/
theorem skipSpace_blanks (hblanks : ∀ c ∈ blanks, isJsonBlank c = true)
    (hrest : isSpace (peek rest) = false) :
    (blanks ++ rest).takeWhile isSpace = blanks
      ∧ skipSpace (blanks ++ rest) = rest :=
  ⟨takeWhile_run (fun c hc => isSpace_of_isJsonBlank (hblanks c hc)) hrest,
    dropWhile_run (fun c hc => isSpace_of_isJsonBlank (hblanks c hc)) hrest⟩

/-! ## Words -/

/-- What a set of a width below `width` stored is the whole run. -/
theorem takeWhile_of_scanSet {width : ℕ} {member : UInt8 → Bool}
    (hscan : scanSet width member s = some word)
    (hshort : word.length < width) : s.takeWhile member = word := by
  unfold scanSet at hscan
  dsimp only at hscan
  split at hscan
  · exact absurd hscan (Option.some_ne_none _).symm
  rw [← List.take_takeWhile] at hscan
  have htake := Option.some.inj hscan
  have hlength := congrArg List.length htake
  rw [List.length_take] at hlength
  rw [List.take_of_length_le (by omega)] at htake
  exact htake

/-- **A closed word**: the blanks in front of the quote are JSON's, and the
letters end at a quote. -/
structure ClosedWord (member : UInt8 → Bool) (s : CText) : Prop where
  blanks : ∀ c ∈ s.takeWhile isSpace, isJsonBlank c = true
  quote : peek (((skipSpace s).drop 1).dropWhile member) = 34

/-- **A word that was scanned** is the whole value where it is closed. -/
theorem jsonWord_iff {width : ℕ} {member : UInt8 → Bool}
    (hmember : member 34 = false) (hopen : peek (skipSpace s) = 34)
    (hscan : scanSet width member ((skipSpace s).drop 1) = some word)
    (hshort : word.length < width) :
    JsonWord s word ↔ ClosedWord member s := by
  have hrun := takeWhile_of_scanSet hscan hshort
  constructor
  · rintro ⟨blanks, rest, rfl, hblanks⟩
    obtain ⟨hfront, hskip⟩ := skipSpace_blanks hblanks
      (show isSpace (peek (34 :: (word ++ 34 :: rest))) = false from rfl)
    refine ⟨fun c hc => hblanks c (by rwa [hfront] at hc), ?_⟩
    rw [hskip] at hrun ⊢
    have hword : ∀ c ∈ word, member c = true := fun c hc => by
      rw [← hrun] at hc
      exact List.mem_takeWhile_imp hc
    show peek ((word ++ 34 :: rest).dropWhile member) = 34
    rw [dropWhile_run hword (show member (peek (34 :: rest)) = false
      from hmember)]
    rfl
  · rintro ⟨hblanks, hquote⟩
    refine ⟨s.takeWhile isSpace,
      (((skipSpace s).drop 1).dropWhile member).drop 1, ?_, hblanks⟩
    have hsplit (t : CText) (ht : peek t = 34) : t = 34 :: t.drop 1 := by
      cases t with
      | nil => exact absurd ht (by decide)
      | cons c cs => exact congrArg (· :: cs) ht
    rw [← hsplit _ hquote, ← hrun, List.takeWhile_append_dropWhile,
      ← hsplit _ hopen]
    exact (List.takeWhile_append_dropWhile ..).symm

/-! ## Numbers -/

/-- **A whole number**: the blanks in front of it are JSON's, there is no
sign and no zero in front, it fits 32 bits, and it ends where a JSON number
may. -/
structure WholeNumber (s : CText) : Prop where
  blanks : ∀ c ∈ s.takeWhile isSpace, isJsonBlank c = true
  digit : isDigit (peek (skipSpace s)) = true
  nonzero : peek (skipSpace s) ≠ 48
  fits : decimal ((skipSpace s).takeWhile isDigit) < 2 ^ 32
  ends : (skipSpace s).dropWhile isDigit = []
    ∨ isJsonDelimiter (peek ((skipSpace s).dropWhile isDigit)) = true

/-- Skipping twice is skipping once. -/
theorem strtoull_skipSpace (s : CText) : strtoull (skipSpace s) = strtoull s := by
  rw [strtoull, strtoull, skipSpace_of_peek (peek_skipSpace s)]

/-- What JSON ends a number with is no digit. -/
theorem not_isDigit_of_delimiter
    (h : rest = [] ∨ isJsonDelimiter (peek rest) = true) :
    isDigit (peek rest) = false := by
  obtain rfl | h := h
  · rfl
  rw [Bool.eq_false_iff]
  intro hdigit
  obtain ⟨hspace, -, -, -⟩ := of_isDigit hdigit
  have hbounds : 48 ≤ peek rest ∧ peek rest ≤ 57 := by
    simpa [isDigit] using hdigit
  have h : ((isJsonBlank (peek rest) = true ∨ peek rest = 44)
      ∨ peek rest = 93) ∨ peek rest = 125 := by
    simpa [isJsonDelimiter] using h
  obtain ((hblank | heq) | heq) | heq := h
  · rw [isSpace_of_isJsonBlank hblank] at hspace
    exact Bool.false_ne_true hspace.symm
  · rw [heq] at hbounds
    exact absurd hbounds.1 (by decide)
  · rw [heq] at hbounds
    exact absurd hbounds.2 (by decide)
  · rw [heq] at hbounds
    exact absurd hbounds.2 (by decide)

/-- **A number that was scanned** is the whole value where it is whole. -/
theorem jsonInteger_iff (hscan : scanUnsigned s = some value)
    (hpositive : 0 < value) : JsonInteger s value ↔ WholeNumber s := by
  obtain ⟨⟨found, rest⟩, hread, hvalue⟩ := Option.map_eq_some_iff.mp hscan
  have hlt : value < 2 ^ 32 := by
    rw [← hvalue]
    exact Nat.mod_lt _ (by decide)
  constructor
  · rintro ⟨blanks, digits, tail, rfl, hblanks, hne, hdigits, hzero, hends,
      hdecimal⟩
    have hhead : isDigit (peek (digits ++ tail)) = true := by
      cases hd : digits with
      | nil => exact absurd hd hne
      | cons c cs => exact hdigits c (hd ▸ List.mem_cons_self ..)
    have hpeek : peek (digits ++ tail) = peek digits := by
      cases hd : digits with
      | nil => exact absurd hd hne
      | cons c cs => rfl
    obtain ⟨hfront, hskip⟩ := skipSpace_blanks hblanks (of_isDigit hhead).1
    have hstop := not_isDigit_of_delimiter hends
    refine ⟨fun c hc => hblanks c (by rwa [hfront] at hc), ?_, ?_, ?_, ?_⟩
    · rw [hskip]
      exact hhead
    · rw [hskip, hpeek]
      intro heq
      obtain hlength | hnot := hzero
      · obtain ⟨c, rfl⟩ := List.length_eq_one_iff.mp hlength
        have heq : c = 48 := heq
        rw [heq] at hdecimal
        have hdecimal : 0 = value := hdecimal
        omega
      · exact hnot heq
    · rw [hskip, takeWhile_run hdigits hstop, hdecimal]
      exact hlt
    · rw [hskip, dropWhile_run hdigits hstop]
      exact hends
  · rintro ⟨hblanks, hdigit, hnonzero, hfits, hends⟩
    have hne := isDigit_peek_iff.mp hdigit
    refine ⟨s.takeWhile isSpace, (skipSpace s).takeWhile isDigit,
      (skipSpace s).dropWhile isDigit, ?_, hblanks, hne,
      fun c => List.mem_takeWhile_imp, Or.inr ?_, hends, ?_⟩
    · rw [List.takeWhile_append_dropWhile]
      exact (List.takeWhile_append_dropWhile ..).symm
    · cases hs : skipSpace s with
      | nil =>
        rw [hs] at hdigit
        exact absurd hdigit (by decide)
      | cons c cs =>
        rw [hs] at hdigit hnonzero
        have hc : isDigit c = true := hdigit
        rw [List.takeWhile_cons_of_pos hc]
        exact hnonzero
    · rw [← strtoull_skipSpace, strtoull_of_digit hdigit] at hread
      have hfound := congrArg Prod.fst (Option.some.inj hread)
      have hsmall : decimal ((skipSpace s).takeWhile isDigit) < 2 ^ 64 := by
        omega
      rw [← hvalue, ← hfound]
      dsimp only
      rw [toNat_numeralValue hsmall, if_neg (by decide),
        Nat.mod_eq_of_lt hfits]

end CText
