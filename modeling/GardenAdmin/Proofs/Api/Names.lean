import GardenAdmin.Proofs.Api.Target
import GardenAdmin.Proofs.Text.Query

/-!
# Names in URLs

A garden is addressed by its name, which may be any text. The URL ends in the name as one encoded
segment (`Text.IsEncoded`), from which every decoder reads the name back, and which brings nothing
along that a URL is taken apart at (`Client.name_of_gardenUrl`).
-/

namespace GardenAdmin

namespace Text

/-- The characters that stand for themselves in a URL. -/
def IsUnreservedChar (c : Char) : Prop := c.isAlphanum ∨ c ∈ ['-', '.', '_', '~']

instance (c : Char) : Decidable (IsUnreservedChar c) :=
  inferInstanceAs (Decidable (_ ∨ _))

def IsUpperHexDigit (c : Char) : Prop := c.isDigit ∨ c ∈ ['A', 'B', 'C', 'D', 'E', 'F']

instance (c : Char) : Decidable (IsUpperHexDigit c) :=
  inferInstanceAs (Decidable (_ ∨ _))

/-- Unreserved characters and escapes, each a percent sign with two upper-case hexadecimal digits.
-/
inductive IsEncoded : List Char → Prop where
  | nil : IsEncoded []
  | plain {c : Char} {cs : List Char} (unreserved : IsUnreservedChar c) (more : IsEncoded cs) :
      IsEncoded (c :: cs)
  | escape {h l : Char} {cs : List Char} (high : IsUpperHexDigit h) (low : IsUpperHexDigit l)
      (more : IsEncoded cs) : IsEncoded ('%' :: h :: l :: cs)

variable {cs ds : List Char}

theorem IsEncoded.append (h : IsEncoded cs) (k : IsEncoded ds) : IsEncoded (cs ++ ds) := by
  induction h with
  | nil => exact k
  | plain unreserved _ ih => exact .plain unreserved ih
  | escape high low _ ih => exact .escape high low ih

theorem isUpperHexDigit_upperHexDigit {n : Nat} (digit : n < 16) :
    IsUpperHexDigit (upperHexDigit n) := by
  decide +revert

theorem isUnreservedChar_of_isUnreserved (n : Fin 256) (plain : isUnreserved (UInt8.ofNat n)) :
    IsUnreservedChar (Char.ofNat n) := by
  decide +revert +kernel

theorem isEncoded_encodeByte (b : UInt8) : IsEncoded (encodeByte b) := by
  have bound := b.toNat_lt
  unfold encodeByte
  split
  next plain =>
    exact .plain (isUnreservedChar_of_isUnreserved ⟨b.toNat, bound⟩ (by simpa using plain)) .nil
  next =>
    exact .escape (isUpperHexDigit_upperHexDigit (by omega))
      (isUpperHexDigit_upperHexDigit (by omega)) .nil

theorem isEncoded_encodeSegment (s : String) : IsEncoded (encodeSegment s).toList := by
  rw [encodeSegment, String.toList_ofList]
  induction utf8 s with
  | nil => exact .nil
  | cons b bs ih => exact (isEncoded_encodeByte b).append ih

open Json in
theorem hexDigit?_of_upperHexValue? {c : Char} {n : Nat} (value : upperHexValue? c = some n) :
    hexDigit? c = some n := by
  unfold upperHexValue? at value
  unfold hexDigit?
  split at value
  next digit => rwa [if_pos digit]
  next notDigit =>
    rw [if_neg notDigit]
    split at value
    next letter =>
      have notLower : ¬('a' ≤ c ∧ c ≤ 'f') := fun lower =>
        absurd (Char.le_trans lower.1 letter.2) (by decide)
      rwa [if_neg notLower, if_pos letter]
    next => cases value

/-- A lenient decoder reads what the strict one accepts as that does. -/
theorem percentDecode_of_decodeSegment? {bs : List UInt8} (decoded : decodeSegment? cs = some bs) :
    percentDecode cs = bs := by
  fun_induction decodeSegment? cs generalizing bs with
  | case1 =>
    cases decoded
    rfl
  | case2 h l cs ih =>
    simp only [Option.bind_eq_bind, Option.bind_eq_some_iff] at decoded
    obtain ⟨high, hh, low, hl, rest, more, read⟩ := decoded
    cases read
    rw [percentDecode, hexDigit?_of_upperHexValue? hh, hexDigit?_of_upperHexValue? hl]
    exact congrArg _ (ih more)
  | case3 => cases decoded
  | case4 c cs other plain ih =>
    obtain ⟨rest, more, rfl⟩ := Option.map_eq_some_iff.1 decoded
    rw [percentDecode, ih more]
    exact other

end Text

namespace Client

/-- The URL of a garden is the one of all gardens with one more segment, which stands for the name
and for no other. What a URL is taken apart at is only in the part that all gardens share. -/
theorem name_of_gardenUrl (c : Client) (s : String) :
    c.gardenUrl s = c.gardensUrl ++ Text.encodeSegment s ∧
    Text.IsEncoded (Text.encodeSegment s).toList ∧
    Text.decodeSegment? (Text.encodeSegment s).toList = some (Text.utf8 s) ∧
    Text.percentDecode (Text.encodeSegment s).toList = Text.utf8 s ∧
    (∀ t, Text.encodeSegment s = Text.encodeSegment t ↔ s = t) ∧
    (∀ t, c.gardenUrl s = c.gardenUrl t ↔ s = t) ∧
    (c.gardenUrl s).toList.filter endsAuthority = c.gardensUrl.toList.filter endsAuthority := by
  have decoded := Text.decodeSegment?_encodeSegment s
  refine ⟨c.gardenUrl_eq_append s, Text.isEncoded_encodeSegment s, decoded,
    Text.percentDecode_of_decodeSegment? decoded, fun _ => Text.encodeSegment_inj,
    fun _ => gardenUrl_inj, ?_⟩
  have none : (Text.encodeSegment s).toList.filter endsAuthority = [] := by
    rw [List.filter_eq_nil_iff]
    intro d mem
    obtain ⟨slash, query, fragment⟩ := Text.isPlain_of_mem_encodeSegment mem
    simp [endsAuthority, slash, query, fragment]
  rw [gardenUrl_eq_append, String.toList_append, List.filter_append, none, List.append_nil]

end Client

end GardenAdmin
