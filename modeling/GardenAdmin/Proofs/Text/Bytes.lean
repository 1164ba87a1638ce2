import GardenAdmin.Text.Percent
import Mathlib.Data.List.Lex

/-!
# The order of texts is the order of their bytes

Texts are compared character by character. UTF-8 keeps that order: of two characters the smaller
one has the smaller bytes (`Text.utf8EncodeChar_lt`), so of two texts the smaller one has
(`Text.utf8_lt`).
-/

namespace GardenAdmin.Text

theorem ofNat_cons_lt {m n : Nat} {as bs : List UInt8} (hm : m < 256) (hn : n < 256) :
    UInt8.ofNat m :: as < UInt8.ofNat n :: bs ↔ m < n ∨ m = n ∧ as < bs := by
  rw [List.cons_lt_cons_iff, UInt8.lt_iff_toNat_lt, ← UInt8.toNat_inj,
    UInt8.toNat_ofNat_of_lt' hm, UInt8.toNat_ofNat_of_lt' hn]

theorem utf8EncodeChar_lt {c d : Char} (h : c < d) (as bs : List UInt8) :
    String.utf8EncodeChar c ++ as < String.utf8EncodeChar d ++ bs := by
  have lt : c.val.toNat < d.val.toNat := h
  have bound : d.val.toNat < 0x110000 := by
    have := d.valid
    simp only [UInt32.isValidChar, Nat.isValidChar] at this
    omega
  unfold String.utf8EncodeChar
  generalize c.val.toNat = m at *
  generalize d.val.toNat = n at *
  -- the bytes are the digits of the code point to the base 64
  have digits {k : Nat} (hk : k < 0x110000) : k / 64 / 64 = k / 4096 ∧
      k / 4096 / 64 = k / 262144 ∧ k / 262144 % 8 = k / 262144 := by omega
  have hm := digits (Nat.lt_trans lt bound)
  have hn := digits bound
  dsimp only
  split_ifs
  all_goals first
    | omega
    | simp (disch := omega) only [List.cons_append, ofNat_cons_lt]
      omega

theorem flatMap_utf8EncodeChar_lt {cs ds : List Char} (h : cs < ds) :
    cs.flatMap String.utf8EncodeChar < ds.flatMap String.utf8EncodeChar := by
  induction h with
  | @nil d ds =>
    obtain ⟨b, bs, e⟩ := List.exists_cons_of_ne_nil (String.utf8EncodeChar_ne_nil (c := d))
    rw [List.flatMap_cons, e]
    exact List.nil_lt_cons ..
  | rel lt => exact utf8EncodeChar_lt lt ..
  | cons _ ih => exact List.append_left_lt ih

theorem utf8_lt {s t : String} (h : s < t) : utf8 s < utf8 t := flatMap_utf8EncodeChar_lt h

end GardenAdmin.Text
