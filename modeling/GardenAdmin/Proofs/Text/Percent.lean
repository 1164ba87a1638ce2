import GardenAdmin.Proofs.Text.Bytes
import Mathlib.Data.String.Basic

/-!
# Encoded segments read back

An encoded segment stands for the bytes of its text (`Text.decodeSegment?_encodeSegment`), so two
texts never share one (`Text.encodeSegment_inj`) and only the empty text has the empty segment. No
character of a segment ends it or the path it stands in (`Text.isPlain_of_mem_encodeSegment`).
-/

namespace GardenAdmin.Text

theorem utf8_inj {s t : String} : utf8 s = utf8 t ↔ s = t := by
  constructor
  · intro same
    rcases lt_trichotomy s t with lt | eq | gt
    · exact absurd (utf8_lt lt) (same ▸ List.lt_irrefl _)
    · exact eq
    · exact absurd (utf8_lt gt) (same ▸ List.lt_irrefl _)
  · rintro rfl
    rfl

theorem upperHexValue?_upperHexDigit {n : Nat} (digit : n < 16) :
    upperHexValue? (upperHexDigit n) = some n := by
  decide +revert

/-- A byte that stands for itself is a character of its own, and none that has a meaning in a URL. -/
theorem isUnreserved_plain (n : Fin 256) (plain : isUnreserved (UInt8.ofNat n)) :
    Char.ofNat n ∉ ['%', '/', '?', '#'] ∧
      String.utf8EncodeChar (Char.ofNat n) = [UInt8.ofNat n] := by
  decide +revert +kernel

theorem decodeSegment?_cons {c : Char} (plain : c ≠ '%') (cs : List Char) :
    decodeSegment? (c :: cs) = (String.utf8EncodeChar c ++ ·) <$> decodeSegment? cs := by
  rw [decodeSegment?, if_neg plain]
  rintro _ _ _ rfl
  exact absurd rfl plain

theorem decodeSegment?_percent {h l : Char} {high low : Nat} (hh : upperHexValue? h = some high)
    (hl : upperHexValue? l = some low) (cs : List Char) :
    decodeSegment? ('%' :: h :: l :: cs) =
      (UInt8.ofNat (16 * high + low) :: ·) <$> decodeSegment? cs := by
  rw [decodeSegment?, hh, hl]
  cases decodeSegment? cs <;> rfl

/-- Whatever follows them, the characters of a byte stand for it. -/
theorem decodeSegment?_encodeByte (b : UInt8) (cs : List Char) :
    decodeSegment? (encodeByte b ++ cs) = (b :: ·) <$> decodeSegment? cs := by
  have bound := b.toNat_lt
  unfold encodeByte
  split
  next plain =>
    obtain ⟨ne, bytes⟩ := isUnreserved_plain ⟨b.toNat, bound⟩ (by simpa using plain)
    rw [List.singleton_append, decodeSegment?_cons (List.ne_of_not_mem_cons ne), bytes,
      UInt8.ofNat_toNat]
    rfl
  next =>
    have whole : 16 * (b.toNat / 16) + b.toNat % 16 = b.toNat := by omega
    rw [List.cons_append, List.cons_append, List.cons_append, List.nil_append,
      decodeSegment?_percent (upperHexValue?_upperHexDigit (by omega))
        (upperHexValue?_upperHexDigit (by omega)), whole, UInt8.ofNat_toNat]

theorem decodeSegment?_flatMap_encodeByte (bs : List UInt8) :
    decodeSegment? (bs.flatMap encodeByte) = some bs := by
  induction bs with
  | nil => rfl
  | cons b bs ih => rw [List.flatMap_cons, decodeSegment?_encodeByte, ih, Option.map_eq_map,
      Option.map_some]

theorem decodeSegment?_encodeSegment (s : String) :
    decodeSegment? (encodeSegment s).toList = some (utf8 s) := by
  rw [encodeSegment, String.toList_ofList, decodeSegment?_flatMap_encodeByte]

theorem encodeSegment_inj {s t : String} : encodeSegment s = encodeSegment t ↔ s = t := by
  constructor
  · intro same
    have decoded := decodeSegment?_encodeSegment s
    rw [same, decodeSegment?_encodeSegment] at decoded
    exact (utf8_inj.1 (Option.some.inj decoded)).symm
  · rintro rfl
    rfl

theorem encodeSegment_eq_empty_iff {s : String} : encodeSegment s = "" ↔ s = "" :=
  encodeSegment_inj (t := "")

/-- A segment of a path that stands for the text. An empty segment stands for none. -/
structure IsSegmentOf (segment text : String) : Prop where
  ne_empty : segment ≠ ""
  decodes : decodeSegment? segment.toList = some (utf8 text)

theorem isSegmentOf_encodeSegment_iff {s t : String} :
    IsSegmentOf (encodeSegment s) t ↔ s = t ∧ t ≠ "" := by
  constructor
  · intro segment
    obtain rfl : s = t := utf8_inj.1 (Option.some.inj
      ((decodeSegment?_encodeSegment s).symm.trans segment.decodes))
    exact ⟨rfl, fun e => segment.ne_empty (encodeSegment_eq_empty_iff.2 e)⟩
  · rintro ⟨rfl, ne⟩
    exact ⟨fun e => ne (encodeSegment_eq_empty_iff.1 e), decodeSegment?_encodeSegment s⟩

theorem upperHexDigit_not_mem {n : Nat} (digit : n < 16) :
    upperHexDigit n ∉ ['/', '?', '#'] := by
  decide +revert

theorem not_mem_of_mem_encodeByte {b : UInt8} {c : Char} (mem : c ∈ encodeByte b) :
    c ∉ ['/', '?', '#'] := by
  have bound := b.toNat_lt
  unfold encodeByte at mem
  split at mem
  next plain =>
    obtain rfl := List.mem_singleton.1 mem
    obtain ⟨ne, -⟩ := isUnreserved_plain ⟨b.toNat, bound⟩ (by simpa using plain)
    exact List.not_mem_of_not_mem_cons ne
  next =>
    simp only [List.mem_cons, List.not_mem_nil, or_false] at mem
    rcases mem with rfl | rfl | rfl
    · decide
    · exact upperHexDigit_not_mem (by omega)
    · exact upperHexDigit_not_mem (by omega)

theorem isPlain_of_mem_encodeSegment {s : String} {c : Char}
    (mem : c ∈ (encodeSegment s).toList) : c ≠ '/' ∧ c ≠ '?' ∧ c ≠ '#' := by
  rw [encodeSegment, String.toList_ofList] at mem
  obtain ⟨b, -, mem⟩ := List.mem_flatMap.1 mem
  simpa using not_mem_of_mem_encodeByte mem

end GardenAdmin.Text
