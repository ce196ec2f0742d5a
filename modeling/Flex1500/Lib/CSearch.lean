import Flex1500.Lib.CText

/-!
# Searching a text

Where `strstr` finds its needle: at the first place where it stands.
-/

namespace CText

/-- **The first occurrence** of a byte: the text from there on. -/
theorem strstr_byte {c : UInt8} {s : CText} (hs : c ∉ s) (rest : CText) :
    strstr [c] (s ++ c :: rest) = some (c :: rest) := by
  induction s with
  | nil => simp [strstr, List.isPrefixOf]
  | cons d ds ih =>
    have hd : c ≠ d := fun h => hs (h ▸ List.mem_cons_self ..)
    rw [List.cons_append, strstr, if_neg (by simp [List.isPrefixOf, hd])]
    exact ih fun h => hs (List.mem_cons_of_mem _ h)

/-- The bytes of a text put together. -/
theorem ofString_append (a b : String) :
    ofString (a ++ b) = ofString a ++ ofString b := by
  rw [ofString, ofString, ofString, String.toList_append, List.map_append]

end CText
