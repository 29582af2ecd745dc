import HobitQueue.Lib.CanonicalForm
import HobitQueue.Workflow.Runs

/-!
# The canonical text of workflow documents

Hashes, size limits and the comparisons of stored references are taken of one text of a JSON
value. The text is a canonical form, so a comparison of texts is a comparison of values up to
the order of their members.

## Main results

* `canonicalJsonString_eq_iff` — the canonical text is a canonical form.
* `canonicalJsonString_injective` — values in key order have different texts.
-/

namespace HobitQueue

/-- The canonical text of a parsed value. -/
def canonicalJsonString (value : Json.Value) : String := value.val.canonicalString

/-- **The canonical text is a canonical form**: two parsed values have the same text if and
only if they are equal up to the order of object members at every depth. -/
theorem canonicalJsonString_eq_iff (a b : Json.Value) :
    canonicalJsonString a = canonicalJsonString b ↔ Json.Reordered a.val b.val :=
  Json.canonicalString_eq_iff a b

/-- A value that is its own ordered value. -/
def InKeyOrder (value : Json.Value) : Prop := value.val.ordered = value.val

/-- **Values in key order are told apart by their texts**, so a column that holds a canonical
text holds the value. -/
theorem canonicalJsonString_injective {a b : Json.Value} (ha : InKeyOrder a) (hb : InKeyOrder b)
    (h : canonicalJsonString a = canonicalJsonString b) : a = b := by
  have hordered := Json.ordered_eq_of_canonicalString_eq a.2 b.2 h
  rw [ha, hb] at hordered
  exact Subtype.ext hordered

end HobitQueue
