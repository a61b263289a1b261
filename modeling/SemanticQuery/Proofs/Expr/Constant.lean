import SemanticQuery.Expr.Build
import SemanticQuery.Proofs.Datum.Encoding
import SemanticQuery.Proofs.Expr.Equality
import SemanticQuery.Proofs.Text.LowerCase

/-!
# Equality of constants

Constants are compared by their spellings. A spelling determines the value, whether it is the
encoding of the value or was chosen by the author of the query, so equal constants hold the same
datum. The converse holds for encodings only: `1.5M` and `1.50M` spell one number but are not equal.

Without regard to case it is still the spellings of two texts that are compared, but this comes to
the same as comparing the texts: lower-casing passes through the quotes, and quoted forms differ
when what they quote differs.
-/

set_option autoImplicit false

namespace SemanticQuery

/-- A spelling determines the value. -/
theorem Constant.value_eq_of_encoded_eq {c d : Constant} (h : c.encoded = d.encoded) :
    c.value = d.value := by
  rcases c.faithful with hc | hc <;> rcases d.faithful with hd | hd
  case inl.inl =>
    rw [hc, hd] at h
    exact Datum.encode_injective h
  case inl.inr =>
    rw [← h, hc] at hd
    exact (Datum.eq_of_decode_encode hd).symm
  case inr.inl =>
    rw [h, hd] at hc
    exact Datum.eq_of_decode_encode hc
  case inr.inr =>
    rw [h, hd] at hc
    exact (Option.some.inj hc).symm

/-- A spelling determines the constant. -/
theorem Constant.eq_of_encoded_eq {c d : Constant} (h : c.encoded = d.encoded) : c = d := by
  have hvalue := value_eq_of_encoded_eq h
  cases c
  cases d
  cases h
  cases hvalue
  rfl

namespace Expr

/-- Every constant is made from its datum, or from its datum and a spelling of it. -/
theorem constant_eq_ofDatum_or_spelled (c : Constant) :
    .constant c = ofDatum c.value ∨ spelled c.value c.encoded = .ok (.constant c) := by
  obtain ⟨value, encoded, hencoded | hdecoded⟩ := c
  case inl =>
    subst hencoded
    exact .inl rfl
  case inr =>
    right
    simp only [spelled, Constant.spelled?, dif_pos hdecoded]

/-- When case counts, constants are equal if their types and their spellings are. -/
theorem equals_constant_iff (c d : Constant) :
    equals false (.constant c) (.constant d) = true ↔ c.type = d.type ∧ c.encoded = d.encoded := by
  simp only [equals, Constant.equals, Bool.false_and, Bool.false_eq_true, if_false,
    Bool.and_eq_true, beq_iff_eq]

/-- **Comparing constants is comparing data.** Equal constants have one type and hold the same
datum, however they are spelled. Constants that are spelled by their encodings are equal exactly
when they hold the same datum. -/
theorem equals_constant_compares_data :
    (∀ c d : Constant, equals false (.constant c) (.constant d) = true →
      c.type = d.type ∧ c.value.same d.value = true) ∧
    (∀ x y : Datum, equals false (ofDatum x) (ofDatum y) = true ↔ x.same y = true) := by
  constructor
  · intro c d h
    obtain ⟨htype, hencoded⟩ := (equals_constant_iff c d).1 h
    exact ⟨htype, beq_iff_eq.2 (Constant.value_eq_of_encoded_eq hencoded)⟩
  · intro x y
    rw [ofDatum, ofDatum, equals_constant_iff, Datum.same, beq_iff_eq]
    constructor
    · rintro ⟨-, hencoded⟩
      exact Datum.encode_injective hencoded
    · rintro rfl
      exact ⟨rfl, rfl⟩

/-- The number 1.5. -/
def oneAndAHalf : Datum :=
  .decimal (Number.Binary64.ofNumeral false ⟨15, -1⟩)

/-- The number 1.5 with its encoding as a chosen spelling. -/
def spelledOneAndAHalf : Constant :=
  ⟨oneAndAHalf, "1.5M", .inr (by decide +kernel)⟩

/-- One and a half, with the spelling that it gets and with another one. -/
theorem equals_constant_compares_data_of_oneAndAHalf :
    equals false (.constant (Constant.ofDatum oneAndAHalf)) (.constant spelledOneAndAHalf) = true ∧
      (Constant.ofDatum oneAndAHalf).type = spelledOneAndAHalf.type ∧
        (Constant.ofDatum oneAndAHalf).value.same spelledOneAndAHalf.value = true := by
  have hequal :
      equals false (.constant (Constant.ofDatum oneAndAHalf)) (.constant spelledOneAndAHalf) =
        true := by
    decide +kernel
  exact ⟨hequal, equals_constant_compares_data.1 _ _ hequal⟩

end Expr

/-! ## Texts without regard to case -/

/-- Lower-casing the encoding of a text gives the encoding of the lower-cased text. -/
theorem Datum.lowerText_encode_text (s : String) :
    Text.lowerText (Datum.text s).encode = (Datum.text (Text.lowerText s)).encode := by
  simp only [Text.lowerText, encode, encodeChars, String.toList_ofList, Text.lowerCase_write]

namespace Expr

/-- **Texts are compared without regard to case by their lower-case forms.** Two text constants are
equal without regard to case exactly when the texts have the same lower-case form, although the
comparison lower-cases the texts with their quotes and with their apostrophes doubled. -/
theorem equals_texts_ignoring_case (a b : String) :
    equals true (ofDatum (.text a)) (ofDatum (.text b)) = true ↔
      Text.lowerText a = Text.lowerText b := by
  have hspellings : equals true (ofDatum (.text a)) (ofDatum (.text b)) = true ↔
      Text.lowerText (Datum.text a).encode = Text.lowerText (Datum.text b).encode := beq_iff_eq
  rw [hspellings, Datum.lowerText_encode_text, Datum.lowerText_encode_text]
  constructor
  · intro h
    exact Datum.text.inj (Datum.encode_injective h)
  · intro h
    rw [h]

end Expr

end SemanticQuery
