import Mathlib.Data.List.DropRight
import Flex1500.Lib.CText

/-!
# Reading a file line by line

`fgets` hands a file out in pieces. A piece ends behind a newline, where the
buffer is full, or where the file ends, and only `feof` tells the last two
apart. The piece is a C string, so a zero byte in the file hides what follows
it in its piece.
-/

/-- A file open for reading: its bytes, and whether reading on behind them
fails rather than finding the end. -/
structure CFile where
  bytes : List UInt8
  fails : Bool := false
  deriving DecidableEq, Repr

/-- What a call of `fgets` stores, and what `feof` says behind it. -/
structure CLine where
  bytes : List UInt8
  atEnd : Bool
  deriving DecidableEq, Repr

/-- The string a call of `fgets` left in the buffer. -/
def CLine.text (line : CLine) : CText :=
  CText.ofBuffer line.bytes

namespace CFile

/-- The calls of `fgets` on the bytes left of a file, with room for so many
in front of the closing zero, and some of them stored already. A call that
has nothing to store, or that fails, returns no line. -/
def linesFrom (room : ℕ) (fails : Bool) (stored : List UInt8) :
    List UInt8 → List CLine
  | [] => if stored.isEmpty || fails then [] else [⟨stored, true⟩]
  | c :: cs =>
    let stored := stored ++ [c]
    if c = 10 ∨ room ≤ stored.length then
      ⟨stored, false⟩ :: linesFrom room fails [] cs
    else linesFrom room fails stored cs

/-- What the calls `fgets(line, size, file)` return until one returns
nothing. -/
def lines (size : ℕ) (file : CFile) : List CLine :=
  linesFrom (size - 1) file.fails [] file.bytes

variable {room : ℕ} {fails : Bool} {stored line rest : List UInt8}

/-- **A line that fits** is handed out whole. -/
theorem linesFrom_line (hline : 10 ∉ line)
    (hfits : stored.length + line.length < room) :
    linesFrom room fails stored (line ++ 10 :: rest)
      = ⟨stored ++ line ++ [10], false⟩ :: linesFrom room fails [] rest := by
  induction line generalizing stored with
  | nil =>
    rw [List.nil_append, linesFrom, if_pos (Or.inl rfl), List.append_nil]
  | cons c cs ih =>
    have hc : c ≠ 10 := fun h => hline (h ▸ List.mem_cons_self ..)
    rw [List.length_cons] at hfits
    have hroom : ¬ room ≤ (stored ++ [c]).length := by
      rw [List.length_append, List.length_singleton]
      omega
    rw [List.cons_append, linesFrom, if_neg (not_or.mpr ⟨hc, hroom⟩),
      ih (fun h => hline (List.mem_cons_of_mem c h))
        (by rw [List.length_append, List.length_singleton]; omega),
      List.append_assoc stored, List.singleton_append]

/-- **A text of whole lines** is handed out line by line. -/
theorem linesFrom_flatMap {texts : List (List UInt8)}
    (htexts : ∀ text ∈ texts, 10 ∉ text ∧ text.length < room) :
    linesFrom room fails [] (texts.flatMap (· ++ [10]))
      = texts.map fun text => ⟨text ++ [10], false⟩ := by
  induction texts with
  | nil => rfl
  | cons text texts ih =>
    obtain ⟨hnewline, hfits⟩ := htexts text (List.mem_cons_self ..)
    rw [List.flatMap_cons, List.append_assoc, List.singleton_append,
      linesFrom_line hnewline (by simpa using hfits), List.nil_append,
      ih fun text h => htexts text (List.mem_cons_of_mem _ h), List.map_cons]

end CFile

namespace CText

variable {s t : CText} {c : UInt8}

/-- A buffer without a zero is a string as it stands. -/
theorem ofBuffer_of_zero (h : 0 ∉ s) : ofBuffer s = s :=
  List.takeWhile_eq_self_iff.mpr fun _ hc => decide_eq_true fun hzero =>
    h (hzero ▸ hc)

/-- The text without the white space around it, as a `trim` written by hand
leaves it. -/
def trim (s : CText) : CText :=
  (s.dropWhile isSpace).rdropWhile isSpace

/-- White space at the end is trimmed. -/
theorem trim_concat (hc : isSpace c = true) : trim (s ++ [c]) = trim s := by
  unfold trim
  rw [List.dropWhile_append]
  split
  · rename_i hempty
    rw [List.isEmpty_iff.mp hempty, List.dropWhile_cons_of_pos hc,
      List.dropWhile_nil]
  · rw [List.rdropWhile_concat_pos _ _ _ hc]

/-- **A text is its own trim** if it neither begins nor ends with white
space. -/
theorem trim_eq_self_iff : trim s = s ↔ ∀ hs : s ≠ [],
    isSpace (s.head hs) = false ∧ isSpace (s.getLast hs) = false := by
  have hhead : s.dropWhile isSpace = s
      ↔ ∀ hs : s ≠ [], isSpace (s.head hs) = false := by
    cases s with
    | nil => simp
    | cons c cs =>
      rw [List.dropWhile_eq_self_iff]
      simp
  have hlast : s.rdropWhile isSpace = s
      ↔ ∀ hs : s ≠ [], isSpace (s.getLast hs) = false := by
    rw [List.rdropWhile_eq_self_iff]
    simp only [Bool.not_eq_true]
  rw [forall_and, ← hhead, ← hlast]
  constructor
  · intro h
    have hfront : trim s <+: s.dropWhile isSpace :=
      List.rdropWhile_prefix _ _
    have hdrop : s.dropWhile isSpace = s := by
      rw [h] at hfront
      exact (List.dropWhile_suffix isSpace).eq_of_length_le hfront.length_le
    rw [trim, hdrop] at h
    exact ⟨hdrop, h⟩
  · rintro ⟨hdrop, hrdrop⟩
    rw [trim, hdrop, hrdrop]

/-- A trimmed text is its own trim. -/
theorem trim_trim (s : CText) : trim (trim s) = trim s := by
  refine trim_eq_self_iff.mpr fun hs => ⟨?_, ?_⟩
  · have hfront : trim s <+: s.dropWhile isSpace :=
      List.rdropWhile_prefix _ _
    rw [hfront.head hs]
    exact List.head_dropWhile_not isSpace _
  · exact Bool.not_eq_true _ ▸ List.rdropWhile_last_not isSpace _ hs

/-- Trimming takes nothing in. -/
theorem mem_of_mem_trim (h : c ∈ trim s) : c ∈ s :=
  (List.dropWhile_sublist _).subset
    ((List.rdropWhile_prefix _ _).subset h)

/-- **A word in front of a trimmed text** is trimmed together with it. -/
theorem trim_append (hs : trim s = s) (ht : trim t = t) (hne : s ≠ [])
    (hne' : t ≠ []) : trim (s ++ t) = s ++ t := by
  refine trim_eq_self_iff.mpr fun hst => ?_
  rw [List.head_append_of_ne_nil hne, List.getLast_append_of_ne_nil _ hne']
  exact ⟨(trim_eq_self_iff.mp hs hne).1, (trim_eq_self_iff.mp ht hne').2⟩

end CText

namespace CLine

variable {line : CLine}

/-- A newline stands at the end of what was stored, if anywhere. -/
def OneLine (line : CLine) : Prop :=
  ∃ front, 10 ∉ front ∧ (line.bytes = front ∨ line.bytes = front ++ [10])

/-- **The trimmed text of a line** holds no newline. -/
theorem OneLine.newline (h : line.OneLine) : 10 ∉ CText.trim line.text := by
  obtain ⟨front, hfront, hbytes | hbytes⟩ := h
  · intro hmem
    have hmem : 10 ∈ front.takeWhile (· ≠ 0) := by
      rw [← hbytes]
      exact CText.mem_of_mem_trim hmem
    exact hfront ((List.takeWhile_prefix _).subset hmem)
  · have htext : CText.trim line.text = CText.trim (CText.ofBuffer front) := by
      rw [text, CText.ofBuffer, CText.ofBuffer, hbytes, List.takeWhile_append]
      split
      · rename_i hall
        rw [List.takeWhile_cons_of_pos (by decide), List.takeWhile_nil,
          CText.trim_concat (by decide),
          (List.takeWhile_prefix _).eq_of_length hall]
      · rfl
    intro hmem
    rw [htext] at hmem
    exact hfront ((List.takeWhile_prefix _).subset
      (CText.mem_of_mem_trim hmem))

/-- A string has no zero in it. -/
theorem zero_not_mem_text (line : CLine) : 0 ∉ line.text := by
  intro hmem
  simpa using List.mem_takeWhile_imp hmem

end CLine

namespace CFile

/-- **What `fgets` stores** is one line, or a part of it. -/
theorem oneLine_of_mem {room : ℕ} {fails : Bool} {stored bytes : List UInt8}
    {line : CLine} (hstored : 10 ∉ stored)
    (hline : line ∈ linesFrom room fails stored bytes) : line.OneLine := by
  induction bytes generalizing stored with
  | nil =>
    unfold linesFrom at hline
    split at hline
    · exact absurd hline List.not_mem_nil
    · obtain rfl := List.mem_singleton.mp hline
      exact ⟨stored, hstored, Or.inl rfl⟩
  | cons c cs ih =>
    have hnext (hc : c ≠ 10) : 10 ∉ stored ++ [c] := by
      rw [List.mem_append, List.mem_singleton, not_or]
      exact ⟨hstored, fun h => hc h.symm⟩
    unfold linesFrom at hline
    dsimp only at hline
    by_cases hc : c = 10
    · rw [if_pos (Or.inl hc), List.mem_cons] at hline
      obtain rfl | hrest := hline
      · exact ⟨stored, hstored, Or.inr (hc ▸ rfl)⟩
      · exact ih List.not_mem_nil hrest
    · split at hline
      · rw [List.mem_cons] at hline
        obtain rfl | hrest := hline
        · exact ⟨stored ++ [c], hnext hc, Or.inl rfl⟩
        · exact ih List.not_mem_nil hrest
      · exact ih (hnext hc) hline

/-- **A file of whole lines**: where every piece ends with a newline or with
the file, the pieces are the lines of the file, but for the nothing behind
its last newline. -/
theorem map_linesFrom {β : Type*} {room : ℕ} {stored bytes : List UInt8}
    (f : List UInt8 → β) (hf : ∀ line, f (line ++ [10]) = f line)
    (hzero : 0 ∉ stored ++ bytes) (hstored : 10 ∉ stored)
    (hwhole : ∀ line ∈ linesFrom room false stored bytes,
      10 ∈ line.text ∨ line.atEnd = true) :
    ∃ rest, (rest = [] ∨ rest = [f []])
      ∧ ((stored ++ bytes).splitOn 10).map f
        = (linesFrom room false stored bytes).map (f ·.text) ++ rest := by
  induction bytes generalizing stored with
  | nil =>
    rw [List.append_nil] at hzero ⊢
    rw [List.splitOn_eq_singleton hstored, List.map_singleton, linesFrom]
    by_cases hempty : stored = []
    · exact ⟨[f []], Or.inr rfl, by simp [hempty]⟩
    · refine ⟨[], Or.inl rfl, ?_⟩
      rw [if_neg (by simp [hempty]), List.map_singleton, List.append_nil,
        CLine.text, CText.ofBuffer_of_zero hzero]
  | cons c cs ih =>
    have hfront : 0 ∉ stored ++ [c] := fun h => hzero (by
      rw [List.append_cons]
      exact List.mem_append_left _ h)
    unfold linesFrom at hwhole ⊢
    dsimp only at hwhole ⊢
    by_cases hc : c = 10
    · subst hc
      rw [if_pos (Or.inl rfl)] at hwhole ⊢
      have hrest : 0 ∉ [] ++ cs := fun h =>
        hzero (List.mem_append_right _ (List.mem_cons_of_mem _ h))
      obtain ⟨rest, hrest, hmap⟩ := ih hrest List.not_mem_nil fun line hline =>
          hwhole line (List.mem_cons_of_mem _ hline)
      refine ⟨rest, hrest, ?_⟩
      rw [List.splitOn_append_cons_self_of_not_mem hstored, List.map_cons,
        List.map_cons, List.cons_append, ← hmap, CLine.text,
        CText.ofBuffer_of_zero hfront, hf, List.nil_append]
    · have hnext : 10 ∉ stored ++ [c] := by
        rw [List.mem_append, List.mem_singleton, not_or]
        exact ⟨hstored, fun h => hc h.symm⟩
      rw [List.append_cons] at hzero ⊢
      split at hwhole
      · -- the buffer is full in front of the newline
        have hlong := hwhole _ (List.mem_cons_self ..)
        rw [CLine.text, CText.ofBuffer_of_zero hfront] at hlong
        exact absurd hlong (by simp [hnext])
      · rename_i hroom
        rw [if_neg hroom]
        exact ih hzero hnext hwhole

end CFile
