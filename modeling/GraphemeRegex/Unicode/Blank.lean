import GraphemeRegex.Unicode.RangeTable

/-! # Blank — white space and control scalars

Two small properties of Unicode 17.0 that leave no mark on paper, as sorted ranges.
-/

namespace GraphemeRegex.Unicode

/-- The scalars of the property White_Space. -/
def whiteSpace : RangeTable := ⟨#[
  (0x9, 0xD), (0x20, 0x20), (0x85, 0x85), (0xA0, 0xA0), (0x1680, 0x1680), (0x2000, 0x200A),
  (0x2028, 0x2029), (0x202F, 0x202F), (0x205F, 0x205F), (0x3000, 0x3000)]⟩

/-- The scalars of the general category Cc. -/
def control : RangeTable := ⟨#[
  (0x0, 0x1F), (0x7F, 0x9F)]⟩

end GraphemeRegex.Unicode
