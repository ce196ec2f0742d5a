import Flex1500.HttpRequest
import Flex1500.Lib.CFile
import Flex1500.Lib.CNumber
import Flex1500.Lib.CSearch

/-!
# A header, line by line

What the questions of the daemon about the text of a request come to where
the text is a header of closed lines with a body behind it. Each of the walks
over the text takes one line a step, so each is described by what it makes of
the first line.
-/

open CText

namespace HttpRequest

/-- **A line of a header**: it is not empty, and no byte of it ends a line or
the text. -/
structure HeaderLine (line : CText) : Prop where
  nonempty : line ≠ []
  plain : ∀ c ∈ line, c ≠ 0 ∧ c ≠ 10 ∧ c ≠ 13

/-- The text of a header: its lines, and the blank one. -/
def headerText (lines : List CText) : CText :=
  lines.flatMap (· ++ crlf) ++ crlf

variable {lines : List CText} {line name rest body s t q x : CText}

@[simp] theorem headerText_nil : headerText [] = crlf := rfl

@[simp] theorem headerText_cons (line : CText) (lines : List CText) :
    headerText (line :: lines) = line ++ (crlf ++ headerText lines) := by
  simp [headerText]

theorem headerText_cons_append (line : CText) (lines : List CText)
    (body : CText) : headerText (line :: lines) ++ body
      = line ++ (crlf ++ (headerText lines ++ body)) := by
  simp [headerText]

theorem length_headerText_cons (line : CText) (lines : List CText) :
    (headerText (line :: lines)).length
      = line.length + 2 + (headerText lines).length := by
  rw [headerText_cons, List.length_append, List.length_append]
  simp only [crlf, List.length_cons, List.length_nil]
  omega

theorem length_le_headerText (lines : List CText) :
    lines.length < (headerText lines).length := by
  induction lines with
  | nil => decide
  | cons line lines ih =>
    rw [length_headerText_cons, List.length_cons]
    omega

theorem HeaderLine.not_mem (h : HeaderLine line) :
    0 ∉ line ∧ 10 ∉ line ∧ 13 ∉ line :=
  ⟨fun hc => (h.plain _ hc).1 rfl, fun hc => (h.plain _ hc).2.1 rfl,
    fun hc => (h.plain _ hc).2.2 rfl⟩

/-- The bytes of a line that is known. -/
theorem headerLine_of_all (hne : line.isEmpty = false)
    (h : line.all (fun c => c != 0 && c != 10 && c != 13) = true) :
    HeaderLine line := by
  refine ⟨by simpa using hne, fun c hc => ?_⟩
  have := List.all_eq_true.mp h c hc
  simpa [and_assoc] using this

/-- Lines put together. -/
theorem HeaderLine.append (h : HeaderLine line)
    (ht : ∀ c ∈ t, c ≠ 0 ∧ c ≠ 10 ∧ c ≠ 13) : HeaderLine (line ++ t) :=
  ⟨List.append_ne_nil_of_left_ne_nil h.nonempty _, fun c hc =>
    (List.mem_append.mp hc).elim (h.plain c) (ht c)⟩

/-! ## Where a line ends -/

/-- The end of a line is found behind the line. -/
theorem strstr_crlf (hline : 13 ∉ line) (rest : CText) :
    strstr crlf (line ++ (crlf ++ rest)) = some (crlf ++ rest) := by
  induction line with
  | nil => rfl
  | cons c cs ih =>
    have hc : c ≠ 13 := fun h => hline (h ▸ List.mem_cons_self ..)
    rw [List.cons_append, strstr, if_neg, ih fun h =>
      hline (List.mem_cons_of_mem _ h)]
    simp [crlf, List.isPrefixOf, Ne.symm hc]

/-- What begins with a line does not begin with an end. -/
theorem isPrefixOf_crlf (h : HeaderLine line) (rest : CText) :
    crlf.isPrefixOf (line ++ rest) = false := by
  obtain ⟨c, cs, rfl⟩ := List.exists_cons_of_ne_nil h.nonempty
  have hc : (13 : UInt8) ≠ c := ((h.plain c (List.mem_cons_self ..)).2.2).symm
  simp [crlf, List.isPrefixOf, hc]

/-- The blank line is found behind the last line. -/
theorem strstr_blankLine (hne : lines ≠ [])
    (hlines : ∀ line ∈ lines, HeaderLine line) (body : CText) :
    strstr blankLine (headerText lines ++ body) = some (blankLine ++ body) := by
  have hskip {line rest : CText} (hline : 13 ∉ line)
      (hrest : crlf.isPrefixOf rest = false) :
      strstr blankLine (line ++ (crlf ++ rest)) = strstr blankLine rest := by
    induction line with
    | nil =>
      have hfirst : ¬ blankLine.isPrefixOf (13 :: 10 :: rest) = true := by
        simpa [blankLine, crlf, List.isPrefixOf, ← List.isPrefixOf_iff_prefix]
          using hrest
      have hsecond : ¬ blankLine.isPrefixOf (10 :: rest) = true := by
        simp [blankLine, List.isPrefixOf]
      rw [List.nil_append, crlf, List.cons_append, List.cons_append,
        List.nil_append, strstr, if_neg hfirst, strstr, if_neg hsecond]
    | cons c cs ih =>
      have hc : (13 : UInt8) ≠ c := fun h => hline (h ▸ List.mem_cons_self ..)
      rw [List.cons_append, strstr, if_neg (by simp [blankLine, List.isPrefixOf, hc]),
        ih fun h => hline (List.mem_cons_of_mem _ h)]
  have hend {line : CText} (hline : 13 ∉ line) :
      strstr blankLine (line ++ (blankLine ++ body)) = some (blankLine ++ body) := by
    induction line with
    | nil => rfl
    | cons c cs ih =>
      have hc : (13 : UInt8) ≠ c := fun h => hline (h ▸ List.mem_cons_self ..)
      rw [List.cons_append, strstr, if_neg (by simp [blankLine, List.isPrefixOf, hc]),
        ih fun h => hline (List.mem_cons_of_mem _ h)]
  induction lines with
  | nil => exact absurd rfl hne
  | cons line lines ih =>
    have hline := (hlines line (List.mem_cons_self ..)).not_mem.2.2
    cases lines with
    | nil => simpa [crlf, blankLine] using hend hline
    | cons next lines =>
      have hnext := hlines next (by simp)
      rw [headerText_cons_append, hskip hline]
      · exact ih (List.cons_ne_nil _ _) fun l hl =>
          hlines l (List.mem_cons_of_mem _ hl)
      · rw [headerText_cons_append]
        exact isPrefixOf_crlf hnext _

/-- The body is what follows the header. -/
theorem body_headerText (hne : lines ≠ [])
    (hlines : ∀ line ∈ lines, HeaderLine line) (content : CText) :
    HttpRequest.body (headerText lines ++ content) = some content := by
  rw [HttpRequest.body, strstr_blankLine hne hlines]
  rfl

/-! ## Fields -/

/-- Whether a line is a field of that name. -/
def named (name line : CText) : Bool :=
  hasPrefixIgnoringCase name line && peek (line.drop name.length) == 58

theorem toLower_ne {c : UInt8} (hc : c ≠ 13) : toLower c ≠ toLower 13 := by
  have h13 : toLower 13 = 13 := rfl
  rw [h13, toLower]
  split
  · rename_i hupper
    intro h
    have hlow : 65 ≤ c.toNat := hupper.1
    have hhigh : c.toNat ≤ 90 := hupper.2
    have hsum : (c + 32).toNat = 13 := congrArg UInt8.toNat h
    rw [UInt8.toNat_add] at hsum
    have : (32 : UInt8).toNat = 32 := rfl
    omega
  · exact hc

/-- What follows a line is no matter to its name. -/
theorem named_append (hname : 13 ∉ name) (line rest : CText) :
    named name (line ++ (crlf ++ rest)) = named name line := by
  induction name generalizing line with
  | nil =>
    cases line with
    | nil => rfl
    | cons c cs => rfl
  | cons n ns ih =>
    have hn : n ≠ 13 := fun h => hname (h ▸ List.mem_cons_self ..)
    cases line with
    | nil =>
      have hlower := toLower_ne hn
      simp [named, hasPrefixIgnoringCase, crlf, List.isPrefixOf, hlower]
    | cons c cs =>
      have h := ih (fun h => hname (List.mem_cons_of_mem _ h)) cs
      simp only [named, hasPrefixIgnoringCase] at h
      simp only [named, hasPrefixIgnoringCase, List.cons_append, List.map_cons,
        List.isPrefixOf_cons_cons, List.length_cons, List.drop_succ_cons,
        Bool.and_assoc, h]

/-- Two texts of which neither is the front of the other, in whatever
case. -/
def apart (p q : CText) : Bool :=
  !(p.map toLower).isPrefixOf (q.map toLower)
    && !(q.map toLower).isPrefixOf (p.map toLower)

theorem hasPrefixIgnoringCase_self (q rest : CText) :
    hasPrefixIgnoringCase q (q ++ rest) = true := by
  rw [hasPrefixIgnoringCase, List.map_append]
  exact List.isPrefixOf_iff_prefix.mpr (List.prefix_append ..)

/-- What begins with one of them does not begin with the other. -/
theorem hasPrefixIgnoringCase_of_apart (h : apart name q = true)
    (rest : CText) : hasPrefixIgnoringCase name (q ++ rest) = false := by
  simp only [apart, Bool.and_eq_true, Bool.not_eq_true'] at h
  have hself : hasPrefix (q.map toLower) ((q ++ rest).map toLower) = true :=
    hasPrefixIgnoringCase_self q rest
  exact hasPrefix_eq_false hself h.2 h.1

/-- A line that begins otherwise is no such field. -/
theorem named_of_apart (h : apart name q = true) (rest : CText) :
    named name (q ++ rest) = false := by
  simp [named, hasPrefixIgnoringCase_of_apart h rest]

/-- **One line of the walk for a field.** -/
theorem headerFrom_line (hline : HeaderLine line) (hname : 13 ∉ name)
    (fuel : ℕ) (rest : CText) :
    headerFrom name (fuel + 1) (line ++ (crlf ++ rest))
      = if named name line then
          some (((line ++ (crlf ++ rest)).drop (name.length + 1)).dropWhile
            fun c => c == 32 || c == 9)
        else headerFrom name fuel rest := by
  have hfound := strstr_crlf hline.not_mem.2.2 rest
  have hlength : (crlf ++ rest).length ≠ (line ++ (crlf ++ rest)).length := by
    have := List.length_pos_of_ne_nil hline.nonempty
    simp only [List.length_append]
    omega
  obtain ⟨c, cs, hcons⟩ := List.exists_cons_of_ne_nil
    (List.append_ne_nil_of_left_ne_nil hline.nonempty (crlf ++ rest))
  have hnamed := named_append hname line rest
  rw [hcons] at hfound hlength hnamed ⊢
  rw [headerFrom.eq_def]
  simp only [hfound, if_neg hlength]
  rw [← hnamed]
  rfl

/-- **A field is looked up** among the lines: the walk finds the first of
that name, and gives the rest of the text from its value on. -/
theorem headerFrom_of_lines {before after : List CText} {value : CText}
    (hname : 13 ∉ name)
    (hbefore : ∀ l ∈ before, HeaderLine l ∧ named name l = false)
    (hline : HeaderLine (name ++ (58 :: 32 :: value)))
    (hvalue : (peek value == 32 || peek value == 9) = false)
    (hne : value ≠ []) {fuel : ℕ} (hfuel : before.length < fuel) :
    headerFrom name fuel
        (headerText (before ++ (name ++ (58 :: 32 :: value)) :: after) ++ body)
      = some (value ++ (crlf ++ (headerText after ++ body))) := by
  induction before generalizing fuel with
  | nil =>
    obtain ⟨fuel, rfl⟩ := Nat.exists_eq_add_one_of_ne_zero
      (Nat.ne_of_gt hfuel)
    have hnamed : named name (name ++ (58 :: 32 :: value)) = true := by
      rw [named, hasPrefixIgnoringCase_self, List.drop_left]
      rfl
    rw [List.nil_append, headerText_cons_append, headerFrom_line hline hname,
      if_pos hnamed]
    obtain ⟨c, cs, rfl⟩ := List.exists_cons_of_ne_nil hne
    have hc : ¬ (c == 32 || c == 9) = true := by
      rw [Bool.not_eq_true]
      exact hvalue
    have hdrop (rest : CText) :
        (name ++ (58 :: 32 :: c :: cs) ++ rest).drop (name.length + 1)
          = 32 :: c :: (cs ++ rest) := by
      rw [← List.drop_drop, List.append_assoc, List.drop_left]
      rfl
    rw [hdrop, List.dropWhile_cons_of_pos rfl, List.dropWhile_cons, if_neg hc]
    rfl
  | cons line before ih =>
    obtain ⟨fuel, rfl⟩ := Nat.exists_eq_add_one_of_ne_zero
      (Nat.ne_of_gt (Nat.lt_of_le_of_lt (Nat.zero_le _) hfuel))
    obtain ⟨hfirst, hother⟩ := hbefore line (List.mem_cons_self ..)
    rw [List.cons_append, headerText_cons_append,
      headerFrom_line hfirst hname, if_neg (by simp [hother])]
    exact ih (fun l hl => hbefore l (List.mem_cons_of_mem _ hl))
      (by simpa using hfuel)

/-- **A field that is not there** is not found. -/
theorem headerFrom_of_absent (hname : 13 ∉ name)
    (hlines : ∀ l ∈ lines, HeaderLine l ∧ named name l = false) (fuel : ℕ) :
    headerFrom name fuel (headerText lines ++ body) = none := by
  induction lines generalizing fuel with
  | nil =>
    cases fuel with
    | zero => rfl
    | succ fuel => simp [headerFrom, crlf, strstr, List.isPrefixOf]
  | cons line lines ih =>
    obtain ⟨hline, hother⟩ := hlines line (List.mem_cons_self ..)
    cases fuel with
    | zero => rfl
    | succ fuel =>
      rw [headerText_cons_append, headerFrom_line hline hname,
        if_neg (by simp [hother])]
      exact ih (fun l hl => hlines l (List.mem_cons_of_mem _ hl)) fuel

/-! ## When it is complete -/

/-- The end of a header is looked for behind a line, unless the blank one
follows it. -/
theorem headerLength_line (hline : HeaderLine line) (index : ℕ)
    (hrest : peek rest ≠ 10) :
    headerLength index (line ++ (crlf ++ rest))
      = if crlf.isPrefixOf rest then some (index + line.length + 4)
        else headerLength (index + line.length + 2) rest := by
  have hplain := hline.not_mem
  clear hline
  induction line generalizing index with
  | nil =>
    have hfirst : headerEnd index (13 :: 10 :: rest)
        = if crlf.isPrefixOf rest then index + 4 else 0 := by
      simp [headerEnd, blankLine, crlf, List.isPrefixOf]
    have hsecond : headerEnd (index + 1) (10 :: rest) = 0 := by
      cases rest with
      | nil => simp [headerEnd, blankLine, List.isPrefixOf]
      | cons c cs =>
        have hc : (10 : UInt8) ≠ c := Ne.symm hrest
        simp [headerEnd, blankLine, List.isPrefixOf, hc]
    show headerLength index (13 :: 10 :: rest) = _
    rw [headerLength, hfirst]
    split
    · rw [if_neg (by omega)]
      rfl
    · rw [if_pos rfl, headerLength, hsecond, if_pos rfl]
      rfl
  | cons c cs ih =>
    obtain ⟨hzero, hten, hthirteen⟩ := hplain
    simp only [List.mem_cons, not_or] at hzero hten hthirteen
    have hnone : headerEnd index (c :: (cs ++ (crlf ++ rest))) = 0 := by
      simp [headerEnd, blankLine, List.isPrefixOf, hten.1, hthirteen.1]
    rw [List.cons_append, headerLength, if_pos hnone,
      ih (index + 1) ⟨hzero.2, hten.2, hthirteen.2⟩, List.length_cons]
    congr 2
    · omega
    · congr 1
      omega

/-- **Where a header ends.** -/
theorem headerLength_headerText (hne : lines ≠ [])
    (hlines : ∀ line ∈ lines, HeaderLine line) (index : ℕ) (body : CText) :
    headerLength index (headerText lines ++ body)
      = some (index + (headerText lines).length) := by
  induction lines generalizing index with
  | nil => exact absurd rfl hne
  | cons line lines ih =>
    have hline := hlines line (List.mem_cons_self ..)
    rw [headerText_cons_append, length_headerText_cons]
    cases lines with
    | nil =>
      rw [headerLength_line hline index (by simp [crlf, peek]), if_pos]
      · rfl
      · simp [crlf, List.isPrefixOf]
    | cons next lines =>
      have hnext := hlines next (by simp)
      rw [headerLength_line hline index, if_neg, ih (List.cons_ne_nil _ _)
        fun l hl => hlines l (List.mem_cons_of_mem _ hl)]
      · congr 1
        omega
      · rw [headerText_cons_append, isPrefixOf_crlf hnext]
        exact Bool.false_ne_true
      · obtain ⟨c, cs, rfl⟩ := List.exists_cons_of_ne_nil hnext.nonempty
        exact (hnext.plain c (List.mem_cons_self ..)).2.1

/-- An end that is there is an end of any longer text. -/
theorem headerEnd_of_front {index : ℕ} (hs : headerEnd index s = 0)
    (h : t <+: s) : headerEnd index t = 0 := by
  unfold headerEnd at hs ⊢
  have hmono {p : CText} (hp : p.isPrefixOf t = true) : p.isPrefixOf s = true :=
    List.isPrefixOf_iff_prefix.mpr ((List.isPrefixOf_iff_prefix.mp hp).trans h)
  split at hs
  · omega
  · rename_i hblank
    split at hs
    · omega
    · rename_i hfeed
      rw [if_neg fun hp => hblank (hmono hp), if_neg fun hp => hfeed (hmono hp)]

theorem headerLength_take_blankLine (index : ℕ) {k : ℕ} (hk : k < 4) :
    headerLength index (blankLine.take k) = none := by
  match k with
  | 0 | 1 | 2 | 3 => rfl

theorem headerLength_take_feed (index : ℕ) {k : ℕ} (hk : k < 2) :
    headerLength index (([10, 10] : CText).take k) = none := by
  match k with
  | 0 | 1 => rfl

/-- **A header that is cut has no end.** -/
theorem headerLength_of_short {index n : ℕ}
    (hs : headerLength index s = some n) (h : t <+: s)
    (hshort : index + t.length < n) : headerLength index t = none := by
  induction s generalizing index t with
  | nil => exact absurd hs (by simp [headerLength])
  | cons c cs ih =>
    cases t with
    | nil => rfl
    | cons d ds =>
      obtain ⟨rfl, hds⟩ := List.cons_prefix_cons.mp h
      rw [headerLength] at hs
      split at hs
      · rename_i hzero
        rw [headerLength, if_pos (headerEnd_of_front hzero h)]
        exact ih hs hds (by simp only [List.length_cons] at hshort; omega)
      · -- the end begins here, and is cut
        rename_i hend
        obtain rfl := Option.some.inj hs
        have hcut {p : CText} (hp : p.isPrefixOf (d :: cs) = true)
            (hlt : (d :: ds).length < p.length) :
            d :: ds = p.take (d :: ds).length :=
          List.prefix_iff_eq_take.mp (List.prefix_of_prefix_length_le h
            (List.isPrefixOf_iff_prefix.mp hp) (Nat.le_of_lt hlt))
        unfold headerEnd at hend hshort
        split at hshort
        · rename_i hblank
          have hlt : (d :: ds).length < 4 := by omega
          rw [hcut hblank hlt]
          exact headerLength_take_blankLine index hlt
        · rename_i hblank
          rw [if_neg hblank] at hend
          split at hshort
          · rename_i hfeed
            have hlt : (d :: ds).length < 2 := by omega
            rw [hcut hfeed hlt]
            exact headerLength_take_feed index hlt
          · rename_i hfeed
            exact absurd (if_neg hfeed) hend

/-- The name of the field that gives the length. -/
def lengthName : CText := ofString "Content-Length:"

/-- A line that is not that field, whatever follows it. -/
def Lengthless (line : CText) : Prop :=
  ∀ rest : CText, hasPrefixIgnoringCase lengthName (line ++ rest) = false

theorem lengthless_of_apart (h : apart lengthName q = true) (rest : CText) :
    Lengthless (q ++ rest) := by
  intro more
  rw [List.append_assoc]
  exact hasPrefixIgnoringCase_of_apart h _

/-- **One line of the search for the length.** -/
theorem contentLengthField_line (hline : HeaderLine line) {header offset : ℕ}
    (hroom : offset + line.length < header) (fuel : ℕ) (rest : CText) :
    contentLengthField header (fuel + 1) offset (line ++ (crlf ++ rest))
      = if hasPrefixIgnoringCase lengthName (line ++ (crlf ++ rest)) then
          some (line ++ (crlf ++ rest))
        else contentLengthField header fuel (offset + line.length + 2) rest := by
  have hlength : (line ++ (crlf ++ rest)).length - (crlf ++ rest).length
      = line.length := by
    simp only [List.length_append]
    omega
  rw [contentLengthField, if_neg (by omega),
    strstr_crlf hline.not_mem.2.2 rest]
  dsimp only
  rw [hlength, if_neg (by omega)]
  rfl

/-- No line gives a length: the search ends with the header. -/
theorem contentLengthField_of_absent
    (hlines : ∀ l ∈ lines, HeaderLine l ∧ Lengthless l) (body : CText)
    (offset fuel : ℕ) :
    contentLengthField (offset + (headerText lines).length) fuel offset
      (headerText lines ++ body) = none := by
  induction lines generalizing fuel offset with
  | nil =>
    cases fuel with
    | zero => rfl
    | succ fuel =>
      have hother : hasPrefixIgnoringCase lengthName (crlf ++ body) = false := by
        simp [crlf, lengthName, hasPrefixIgnoringCase, ofString,
          List.isPrefixOf, toLower]
      have hend : contentLengthField (offset + 2) fuel (offset + 2) body
          = none := by
        cases fuel with
        | zero => rfl
        | succ fuel => rw [contentLengthField, if_pos le_rfl]
      have hfound := strstr_crlf (List.not_mem_nil (a := (13 : UInt8))) body
      rw [List.nil_append] at hfound
      rw [headerText_nil, contentLengthField, if_neg (by simp [crlf]), hfound]
      dsimp only
      rw [Nat.sub_self, if_neg (by simp [crlf]), show hasPrefixIgnoringCase
        (ofString "Content-Length:") (crlf ++ body) = false from hother]
      exact hend
  | cons line lines ih =>
    obtain ⟨hline, hother⟩ := hlines line (List.mem_cons_self ..)
    cases fuel with
    | zero => rfl
    | succ fuel =>
      rw [headerText_cons_append, contentLengthField_line hline, if_neg]
      · rw [length_headerText_cons, show offset + (line.length + 2
          + (headerText lines).length)
          = offset + line.length + 2 + (headerText lines).length by omega]
        exact ih (fun l hl => hlines l (List.mem_cons_of_mem _ hl)) _ fuel
      · rw [Bool.not_eq_true]
        exact hother _
      · rw [length_headerText_cons]
        omega

/-- **The length is looked up** among the lines. -/
theorem contentLengthField_of_lines {before : List CText} {value : CText}
    (hbefore : ∀ l ∈ before, HeaderLine l ∧ Lengthless l)
    (hline : HeaderLine (lengthName ++ value)) (after : List CText)
    (body : CText) (offset : ℕ) {fuel : ℕ} (hfuel : before.length < fuel) :
    contentLengthField
        (offset + (headerText (before ++ (lengthName ++ value) :: after)).length)
        fuel offset
        (headerText (before ++ (lengthName ++ value) :: after) ++ body)
      = some (lengthName ++ value ++ (crlf ++ (headerText after ++ body))) := by
  induction before generalizing offset fuel with
  | nil =>
    obtain ⟨fuel, rfl⟩ := Nat.exists_eq_add_one_of_ne_zero
      (Nat.ne_of_gt hfuel)
    rw [List.nil_append, headerText_cons_append, contentLengthField_line hline,
      if_pos]
    · rw [List.append_assoc]
      exact hasPrefixIgnoringCase_self _ _
    · rw [length_headerText_cons]
      have := length_le_headerText after
      omega
  | cons line before ih =>
    obtain ⟨fuel, rfl⟩ := Nat.exists_eq_add_one_of_ne_zero
      (Nat.ne_of_gt (Nat.lt_of_le_of_lt (Nat.zero_le _) hfuel))
    obtain ⟨hfirst, hother⟩ := hbefore line (List.mem_cons_self ..)
    rw [List.cons_append, headerText_cons_append,
      contentLengthField_line hfirst, if_neg]
    · have h := ih (fun l hl => hbefore l (List.mem_cons_of_mem _ hl))
        (offset + line.length + 2) (by simpa using hfuel)
      rw [← h, length_headerText_cons]
      congr 1
      omega
    · rw [hother]
      exact Bool.false_ne_true
    · rw [length_headerText_cons]
      have := length_le_headerText (before ++ (lengthName ++ value) :: after)
      omega

theorem zero_not_mem_headerText (hlines : ∀ l ∈ lines, HeaderLine l) :
    0 ∉ headerText lines := by
  induction lines with
  | nil => decide
  | cons line lines ih =>
    rw [headerText_cons]
    simp only [List.mem_append, not_or]
    exact ⟨(hlines line (List.mem_cons_self ..)).not_mem.1, by decide,
      ih fun l hl => hlines l (List.mem_cons_of_mem _ hl)⟩

/-- **A request without a body** is complete with its header. -/
theorem complete_of_lengthless (hne : lines ≠ [])
    (hlines : ∀ l ∈ lines, HeaderLine l ∧ Lengthless l) (hbody : 0 ∉ body) :
    complete (headerText lines ++ body) = true := by
  have hzero : 0 ∉ headerText lines ++ body := by
    simp only [List.mem_append, not_or]
    exact ⟨zero_not_mem_headerText fun l hl => (hlines l hl).1, hbody⟩
  have habsent := contentLengthField_of_absent hlines body 0
    ((headerText lines ++ body).length + 1)
  rw [complete, headerLength_headerText hne (fun l hl => (hlines l hl).1),
    ofBuffer_of_zero hzero]
  dsimp only
  rw [habsent]

/-- A field with a number. -/
theorem headerLine_number (hname : HeaderLine name) (n : ℕ) :
    HeaderLine (name ++ 32 :: ofString (toString n)) := by
  refine hname.append fun c hc => ?_
  obtain rfl | hc := List.mem_cons.mp hc
  · decide
  · have hdigit := isDigit_of_mem_toString hc
    refine ⟨?_, ?_, ?_⟩
    all_goals
      rintro rfl
      exact absurd hdigit (by decide)

/-- A number is read up to what is no digit. -/
theorem strtoull_number {n : ℕ} (hn : n < 2 ^ 64) (rest : CText)
    (hrest : isDigit (peek rest) = false) :
    strtoull (ofString (toString n) ++ rest) = some (UInt64.ofNat n, rest) := by
  refine strtoull_eq_some_iff.mpr ⟨[], [], ofString (toString n), ⟨by simp,
    by simp, Or.inl rfl, fun c => isDigit_of_mem_toString, toString_ne_nil n,
    hrest⟩, ?_⟩
  rw [numeralValue, decimal_toString, if_neg (Nat.not_le.mpr hn),
    if_neg (by decide)]

/-- The lines of a header with a length. -/
def sizedLines (before : List CText) (n : ℕ) (after : List CText) :
    List CText :=
  before ++ (lengthName ++ 32 :: ofString (toString n)) :: after

theorem headerLine_length (n : ℕ) :
    HeaderLine (lengthName ++ 32 :: ofString (toString n)) :=
  headerLine_number (headerLine_of_all (by decide) (by decide)) n

theorem headerLine_of_sized {before after : List CText} {n : ℕ}
    (hbefore : ∀ l ∈ before, HeaderLine l) (hafter : ∀ l ∈ after, HeaderLine l) :
    ∀ l ∈ sizedLines before n after, HeaderLine l := by
  intro l hl
  obtain hl | hl := List.mem_append.mp hl
  · exact hbefore l hl
  · obtain rfl | hl := List.mem_cons.mp hl
    · exact headerLine_length n
    · exact hafter l hl

theorem sizedLines_ne_nil (before after : List CText) (n : ℕ) :
    sizedLines before n after ≠ [] := by
  simp [sizedLines]

/-- **A request with a length** is complete as soon as so many bytes follow
its header. -/
theorem complete_of_length {before after : List CText} {n : ℕ}
    (hbefore : ∀ l ∈ before, HeaderLine l ∧ Lengthless l)
    (hafter : ∀ l ∈ after, HeaderLine l) (hn : n ≤ 65536) (hbody : 0 ∉ body) :
    complete (headerText (sizedLines before n after) ++ body)
      = decide (n ≤ body.length) := by
  have hlines := headerLine_of_sized (n := n) (fun l hl => (hbefore l hl).1)
    hafter
  have hfield (fuel : ℕ) (hfuel : before.length < fuel) :=
    contentLengthField_of_lines hbefore (headerLine_length n) after body 0 hfuel
  have hcount : before.length < (sizedLines before n after).length := by
    simp [sizedLines]
  have hne := sizedLines_ne_nil before after n
  rw [← sizedLines] at hfield
  revert hlines hfield hcount hne
  generalize sizedLines before n after = lines
  intro hlines hfield hcount hne
  have hfuel := length_le_headerText lines
  have hzero : 0 ∉ headerText lines ++ body := by
    simp only [List.mem_append, not_or]
    exact ⟨zero_not_mem_headerText hlines, hbody⟩
  have hvalue := strtoull_number (n := n) (by omega)
    (crlf ++ (headerText after ++ body)) rfl
  have hskip : (((lengthName ++ 32 :: ofString (toString n))
      ++ (crlf ++ (headerText after ++ body))).drop 15).dropWhile (· == 32)
      = ofString (toString n) ++ (crlf ++ (headerText after ++ body)) := by
    rw [List.append_assoc, List.drop_left' (by decide), List.cons_append,
      List.dropWhile_cons_of_pos rfl]
    obtain ⟨c, cs, hcons⟩ := List.exists_cons_of_ne_nil (toString_ne_nil n)
    have hc := (of_isDigit (isDigit_of_mem_toString
      (hcons ▸ List.mem_cons_self .. : c ∈ ofString (toString n)))).2.1
    rw [hcons, List.cons_append, List.dropWhile_cons, if_neg (by simpa using hc)]
  rw [complete, headerLength_headerText hne hlines, ofBuffer_of_zero hzero]
  dsimp only
  have hfound := hfield ((headerText lines ++ body).length + 1)
    (by rw [List.length_append]; omega)
  rw [Nat.zero_add] at hfound
  rw [Nat.zero_add, hfound]
  dsimp only
  rw [hskip, hvalue]
  dsimp only
  have htoNat : (UInt64.ofNat n).toNat = n :=
    UInt64.toNat_ofNat_of_lt (Nat.lt_of_le_of_lt hn (by decide))
  rw [if_neg, htoNat, List.length_append]
  · simp
  · intro hlarge
    have hlarge : 65536 < (UInt64.ofNat n).toNat := hlarge
    omega

/-- **A request in full**: its lines are those of a header, and what follows
the blank one is as long as the header says, or nothing. -/
inductive Whole : CText → Prop
  | bare (lines : List CText) (hne : lines ≠ [])
      (hlines : ∀ l ∈ lines, HeaderLine l ∧ Lengthless l) :
      Whole (headerText lines)
  | sized (before after : List CText) (content : CText)
      (hbefore : ∀ l ∈ before, HeaderLine l ∧ Lengthless l)
      (hafter : ∀ l ∈ after, HeaderLine l)
      (hsize : content.length ≤ 65536) (hzero : 0 ∉ content) :
      Whole (headerText (sizedLines before content.length after) ++ content)

/-- A header that is cut is not complete. -/
theorem complete_of_short (hne : lines ≠ [])
    (hlines : ∀ line ∈ lines, HeaderLine line) (h : t <+: headerText lines ++ body)
    (hshort : t.length < (headerText lines).length) : complete t = false := by
  have hnone := headerLength_of_short
    (headerLength_headerText hne hlines 0 body) h (by omega)
  rw [complete, hnone]

/-- **A request is complete when it is whole**, and at no byte before. -/
theorem Whole.complete_iff (hs : Whole s) (h : t <+: s) :
    complete t = true ↔ t = s := by
  cases hs with
  | bare lines hne hlines =>
    constructor
    · intro hcomplete
      by_contra hcut
      have hshort : t.length < (headerText lines).length :=
        Nat.lt_of_le_of_ne h.length_le fun hlen => hcut (h.eq_of_length hlen)
      rw [← List.append_nil (headerText lines)] at h
      rw [complete_of_short hne (fun l hl => (hlines l hl).1) h hshort]
        at hcomplete
      exact Bool.false_ne_true hcomplete
    · rintro rfl
      have hbare := complete_of_lengthless hne hlines (List.not_mem_nil (a := 0))
      rwa [List.append_nil] at hbare
  | sized before after content hbefore hafter hsize hzero =>
    have hlines := headerLine_of_sized (n := content.length)
      (fun l hl => (hbefore l hl).1) hafter
    by_cases hshort : t.length
        < (headerText (sizedLines before content.length after)).length
    · rw [complete_of_short (sizedLines_ne_nil _ _ _) hlines h hshort]
      refine ⟨fun hno => absurd hno Bool.false_ne_true, ?_⟩
      rintro rfl
      rw [List.length_append] at hshort
      omega
    · obtain ⟨u, rfl⟩ := List.prefix_of_prefix_length_le
        (List.prefix_append _ content) h (Nat.le_of_not_lt hshort)
      have hu : u <+: content := (List.prefix_append_right_inj _).mp h
      rw [complete_of_length hbefore hafter hsize fun h0 => hzero (hu.subset h0),
        decide_eq_true_iff, List.append_cancel_left_eq]
      exact ⟨fun hlen => hu.eq_of_length_le hlen, fun he => he ▸ le_rfl⟩

end HttpRequest
