import SemanticQuery.Proofs.Datum.Encoding

/-!
# Texts with lone apostrophes

The decoding of a text asks for an apostrophe at each end and reads pairs of apostrophes in between
as one. It does not ask that the apostrophes in between come in pairs. So every encoding of a text
is decoded as that text, and so is the encoding with its last inner apostrophe left undoubled. The
encodings are told from all else that is decoded as a text by their runs of apostrophes, which are
even.
-/

set_option autoImplicit false

namespace SemanticQuery

open SemanticQuery.Text

namespace Datum

/-- A number is not decoded as a text. -/
theorem decodeNumber_ne_text (cs : List Char) (t : String) : decodeNumber cs ≠ some (text t) := by
  intro h
  unfold decodeNumber at h
  split at h
  case h_4 => cases h
  all_goals
    obtain ⟨_, _, hvalue⟩ := Option.map_eq_some_iff.1 h
    cases hvalue

/-- Only what is read as a quoted text is decoded as a text. -/
theorem read_of_decodeChars {cs : List Char} {t : String} (h : decodeChars cs = some (text t)) :
    Quoted.read cs = some t.toList := by
  unfold decodeChars at h
  -- The words come first.
  split at h
  · cases h
  split at h
  · cases h
  split at h
  · cases h
  -- Then a date, and only then a text or a number.
  split at h
  case h_1 =>
    obtain ⟨_, _, hvalue⟩ := Option.map_eq_some_iff.1 h
    cases hvalue
  case h_2 =>
    split at h
    case h_1 body hread =>
      rw [hread, ← text.inj (Option.some.inj h), String.toList_ofList]
    case h_2 => exact absurd h (decodeNumber_ne_text cs t)

/-- What is decoded as a text is enclosed by apostrophes and becomes the text when the doubled ones
within are read as one. -/
theorem decode_eq_text_iff (encoded t : String) :
    decode encoded = some (text t) ↔
      ∃ body, encoded.toList = '\'' :: body ++ ['\''] ∧ Quoted.undouble body = t.toList := by
  rw [← Quoted.read_eq_some_iff]
  constructor
  · exact read_of_decodeChars
  · intro hread
    rw [decode, decodeChars_of_read hread, String.ofList_toList]

/-- The encoding of a text encloses it by apostrophes and doubles those within. -/
theorem eq_encode_text_iff (encoded t : String) :
    encoded = (text t).encode ↔ encoded.toList = '\'' :: Quoted.double t.toList ++ ['\''] := by
  rw [encode, String.ext_iff, String.toList_ofList]
  rfl

/-- What a text encloses between its first character and its last one. -/
def enclosed (encoded : String) : List Char :=
  encoded.toList.tail.dropLast

/-- What stands between two apostrophes is enclosed by them. -/
theorem enclosed_eq {encoded : String} {body : List Char}
    (h : encoded.toList = '\'' :: body ++ ['\'']) : enclosed encoded = body := by
  rw [enclosed, h, List.cons_append, List.tail_cons, List.dropLast_concat]

/-- Of what is decoded as a text, the encoding is told by its even runs. -/
theorem eq_encode_iff_evenRuns (encoded t : String) :
    encoded = (text t).encode ↔
      decode encoded = some (text t) ∧ Quoted.EvenRuns (enclosed encoded) := by
  rw [eq_encode_text_iff, decode_eq_text_iff]
  constructor
  · intro hencoded
    rw [enclosed_eq hencoded]
    obtain ⟨hread, heven⟩ := (Quoted.eq_double_iff t.toList).1 rfl
    exact ⟨⟨_, hencoded, hread⟩, heven⟩
  · rintro ⟨⟨body, hencoded, hread⟩, heven⟩
    rw [enclosed_eq hencoded] at heven
    rw [hencoded, (Quoted.eq_double_iff t.toList).2 ⟨hread, heven⟩]

/-- A text has something else than its encoding decoded as it when it has an apostrophe. -/
theorem exists_other_encoding_iff (t : String) :
    (∃ other, other ≠ (text t).encode ∧ decode other = some (text t)) ↔ '\'' ∈ t.toList := by
  rw [← Quoted.exists_other_body_iff]
  constructor
  · rintro ⟨other, hother, hdecoded⟩
    obtain ⟨body, hbody, hread⟩ := (decode_eq_text_iff other t).1 hdecoded
    refine ⟨body, ?_, hread⟩
    rintro rfl
    exact hother ((eq_encode_text_iff other t).2 hbody)
  · rintro ⟨body, hother, hread⟩
    have hbody : (String.ofList ('\'' :: body ++ ['\''])).toList = '\'' :: body ++ ['\''] :=
      String.toList_ofList
    refine ⟨_, ?_, (decode_eq_text_iff _ t).2 ⟨body, hbody, hread⟩⟩
    intro hencoded
    rw [eq_encode_text_iff, hbody] at hencoded
    exact hother (List.cons.inj (List.append_cancel_right hencoded)).2

/-- **What is decoded as a text is its encoding unless an apostrophe stands alone.** All that stands
between two apostrophes is decoded as a text, pairs of apostrophes as one. It is the encoding of the
text exactly when every run of apostrophes inside is even. An odd run is decoded as well, so of each
text with an apostrophe, and of no other, the encoding is not the only one that is decoded as it. -/
theorem decode_text_from_even_runs (encoded t : String) :
    (decode encoded = some (text t) ↔
      ∃ body, encoded.toList = '\'' :: body ++ ['\''] ∧ Quoted.undouble body = t.toList) ∧
    (encoded = (text t).encode ↔
      decode encoded = some (text t) ∧ Quoted.EvenRuns (enclosed encoded)) ∧
    ((∃ other, other ≠ (text t).encode ∧ decode other = some (text t)) ↔ '\'' ∈ t.toList) := by
  have hdecode := decode_eq_text_iff encoded t
  have hencode := eq_encode_iff_evenRuns encoded t
  have hother := exists_other_encoding_iff t
  exact ⟨hdecode, hencode, hother⟩

/-- The lone apostrophe in the middle is decoded, though in an encoding it would be doubled. -/
theorem lone_apostrophe_is_decoded :
    ¬ Quoted.EvenRuns (enclosed "'a'b'") ∧ decode "'a'b'" = some (text "a'b") ∧
      "'a'b'" ≠ (text "a'b").encode ∧ decode (text "a'b").encode = some (text "a'b") := by
  decide +kernel

end Datum

end SemanticQuery
