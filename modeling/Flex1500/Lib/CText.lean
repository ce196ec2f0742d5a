import Mathlib.Algebra.Ring.Nat
import Mathlib.Data.List.Basic

/-!
# C strings

A C string is read from a pointer up to the first zero byte, so it is the
list of the bytes in front of that zero, and a pointer into it is one of
its suffixes. The functions here are those of the C library that work on
such a pointer, under their names, and they return the suffix the pointer
has moved to.

Reading at the end of a string gives the zero byte that ends it, which is
why `peek` is total.
-/

/-- A C string: the bytes in front of its zero. -/
abbrev CText := List UInt8

namespace CText

/-- The bytes of an ASCII string. -/
def ofString (s : String) : CText :=
  s.toList.map fun c => UInt8.ofNat c.toNat

/-- The string a buffer holds: what is in front of its first zero. -/
def ofBuffer (bytes : List UInt8) : CText :=
  bytes.takeWhile (· ≠ 0)

/-- What the pointer points at. -/
def peek (s : CText) : UInt8 :=
  s.headD 0

/-- `strncmp(s, p, strlen(p)) == 0`. -/
def hasPrefix (p s : CText) : Bool :=
  p.isPrefixOf s

/-- `tolower`, in the C locale. -/
def toLower (c : UInt8) : UInt8 :=
  if 65 ≤ c ∧ c ≤ 90 then c + 32 else c

/-- `strncasecmp(s, p, strlen(p)) == 0`. -/
def hasPrefixIgnoringCase (p s : CText) : Bool :=
  (p.map toLower).isPrefixOf (s.map toLower)

/-- `strstr`: the suffix at the first occurrence. -/
def strstr (needle : CText) : CText → Option CText
  | [] => if needle.isEmpty then some [] else none
  | c :: cs =>
    if needle.isPrefixOf (c :: cs) then some (c :: cs) else strstr needle cs

/-- `isspace`, in the C locale. -/
def isSpace (c : UInt8) : Bool :=
  c == 32 || (9 ≤ c && c ≤ 13)

/-- Decimal digits. -/
def isDigit (c : UInt8) : Bool :=
  48 ≤ c && c ≤ 57

/-- The value of a decimal digit. -/
def digit (c : UInt8) : ℕ :=
  c.toNat - 48

/-- The value of a run of decimal digits. -/
def decimal (digits : CText) : ℕ :=
  digits.foldl (fun value c => value * 10 + digit c) 0

/-- The pointer past white space. -/
def skipSpace (s : CText) : CText :=
  s.dropWhile isSpace

/-- Past a sign, and whether it was a minus. -/
def skipSign (s : CText) : Bool × CText :=
  match s with
  | 45 :: cs => (true, cs)
  | 43 :: cs => (false, cs)
  | _ => (false, s)

/-- **`strtoull(s, &end, 10)`**, which `strtoul` agrees with where a `long`
has 64 bits: the value and the end, or nothing where no digit is found and
`end` stays at `s`. A value too large is `ULLONG_MAX`, whatever its sign,
and a negative one wraps. -/
def strtoull (s : CText) : Option (UInt64 × CText) :=
  let (negative, t) := skipSign (skipSpace s)
  let digits := t.takeWhile isDigit
  if digits.isEmpty then none
  else
    let value := decimal digits
    some
      (if 2 ^ 64 ≤ value then 0xFFFFFFFFFFFFFFFF
        else if negative then 0 - UInt64.ofNat value else UInt64.ofNat value,
      t.dropWhile isDigit)

/-- The value `strtoull(s, NULL, 10)` returns, zero where there is none. -/
def strtoullValue (s : CText) : UInt64 :=
  ((strtoull s).map Prod.fst).getD 0

/-- A `%u` of `scanf`: `strtoul`, cut to 32 bits. -/
def scanUnsigned (s : CText) : Option ℕ :=
  (strtoull s).map fun r => r.1.toNat % 2 ^ 32

/-- Literal text in a `scanf` format: the pointer past it. -/
def scanLiteral (literal s : CText) : Option CText :=
  if hasPrefix literal s then some (s.drop literal.length) else none

/-- A `%<width>[...]` of `scanf`: the bytes it stores. -/
def scanSet (width : ℕ) (member : UInt8 → Bool) (s : CText) : Option CText :=
  let found := (s.take width).takeWhile member
  if found.isEmpty then none else some found

/-- Lower-case letters, the set `[a-z]`. -/
def isLower (c : UInt8) : Bool :=
  97 ≤ c && c ≤ 122

/-- Reading a prefix: what follows it. -/
def afterPrefix (p s : CText) : Option CText :=
  scanLiteral p s

theorem hasPrefix_of_afterPrefix {p s t : CText}
    (h : afterPrefix p s = some t) : hasPrefix p s = true := by
  unfold afterPrefix scanLiteral at h
  split at h
  · assumption
  · simp at h

theorem hasPrefix_iff {p s : CText} : hasPrefix p s = true ↔ p <+: s :=
  List.isPrefixOf_iff_prefix

/-- **A text has one of two prefixes at most**, unless one of them is a
prefix of the other. -/
theorem hasPrefix_eq_false {p q s : CText} (h : hasPrefix p s = true)
    (hpq : p.isPrefixOf q = false) (hqp : q.isPrefixOf p = false) :
    hasPrefix q s = false := by
  by_contra hq
  have hq : q <+: s := hasPrefix_iff.mp (by simpa using hq)
  rcases List.prefix_or_prefix_of_prefix (hasPrefix_iff.mp h) hq with hp | hp
  · simp [List.isPrefixOf_iff_prefix.mpr hp] at hpq
  · simp [List.isPrefixOf_iff_prefix.mpr hp] at hqp

end CText
