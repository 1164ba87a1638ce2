import Mathlib.Algebra.Group.Int.Defs
import Mathlib.Algebra.Group.Nat.Defs
import GardenAdmin.Proofs.Text.Trim
import GardenAdmin.Text.Integer

/-!
# What reads as an integer

A 64-bit integer is read of just the texts that write one in the range: an optional sign and one or
more digits (`Text.int64?_eq_some_iff`), or only an optional plus sign before them if the integer has
none (`Text.nat64?_eq_some_iff`). The blanks around such a text are what is trimmed away
(`WritesInteger.trim_ofList`).
-/

namespace GardenAdmin.Text

/-- One or more ASCII digits with that value. -/
structure WritesNat (cs : List Char) (n : Nat) : Prop where
  ne_nil : cs ≠ []
  digits : ∀ c ∈ cs, c.isDigit
  value : Nat.ofDigitChars 10 cs 0 = n

/-- A natural number, with a sign before it or without. -/
inductive WritesInteger : List Char → Int → Prop
  | bare {cs : List Char} {n : Nat} (digits : WritesNat cs n) : WritesInteger cs n
  | plus {cs : List Char} {n : Nat} (digits : WritesNat cs n) : WritesInteger ('+' :: cs) n
  | minus {cs : List Char} {n : Nat} (digits : WritesNat cs n) : WritesInteger ('-' :: cs) (-n)

/-- A natural number, with a plus sign before it or without. -/
inductive WritesUnsigned : List Char → Nat → Prop
  | bare {cs : List Char} {n : Nat} (digits : WritesNat cs n) : WritesUnsigned cs n
  | plus {cs : List Char} {n : Nat} (digits : WritesNat cs n) : WritesUnsigned ('+' :: cs) n

variable {c : Char} {cs front back : List Char} {acc n : Nat} {p : Int} {s : String}

/-! ## Digits -/

theorem digit?_eq_some_iff {d : Nat} : digit? c = some d ↔ c.isDigit ∧ c.toNat - '0'.toNat = d := by
  rw [digit?, Option.ite_none_right_eq_some, Option.some.injEq]
  simp [Char.isDigit, Char.le_def]

theorem digitsFrom?_eq_some_iff :
    digitsFrom? acc cs = some n ↔ (∀ c ∈ cs, c.isDigit) ∧ Nat.ofDigitChars 10 cs acc = n := by
  -- Every digit makes another number the one read so far, so the claim is about all of them.
  induction cs generalizing acc with
  | nil => simp [digitsFrom?]
  | cons c cs ih =>
    have first : digitsFrom? acc (c :: cs) =
        (digit? c).bind fun d => digitsFrom? (10 * acc + d) cs := rfl
    rw [first, Option.bind_eq_some_iff, Nat.ofDigitChars_cons]
    simp only [digit?_eq_some_iff, ih, List.forall_mem_cons]
    constructor
    · rintro ⟨_, ⟨digit, rfl⟩, digits, value⟩
      exact ⟨⟨digit, digits⟩, value⟩
    · rintro ⟨⟨digit, digits⟩, value⟩
      exact ⟨_, ⟨digit, rfl⟩, digits, value⟩

theorem digits?_eq_some_iff : digits? cs = some n ↔ WritesNat cs n := by
  cases cs with
  | nil => exact ⟨nofun, fun writes => absurd rfl writes.ne_nil⟩
  | cons c cs =>
    rw [digits?, digitsFrom?_eq_some_iff]
    · exact ⟨fun ⟨digits, value⟩ => ⟨List.cons_ne_nil c cs, digits, value⟩,
        fun writes => ⟨writes.digits, writes.value⟩⟩
    · exact nofun

/-! ## Integers -/

theorem int64Range?_eq_some_iff {m : Int} :
    int64Range? m = some p ↔ m = p ∧ -2 ^ 63 ≤ p ∧ p < 2 ^ 63 := by
  have bounds : minInt64 = -2 ^ 63 ∧ maxInt64 = 2 ^ 63 - 1 := ⟨rfl, rfl⟩
  rw [int64Range?, Option.ite_none_right_eq_some, Option.some.injEq, bounds.1, bounds.2]
  omega

/-- A number begins with a digit, so its first character is no sign. -/
theorem WritesNat.ne_sign (writes : WritesNat (c :: cs) n) : c ≠ '+' ∧ c ≠ '-' := by
  have digit := writes.digits c (.head _)
  constructor <;> rintro rfl <;> cases digit

/-- Just the integers of 64 bits are read. -/
theorem int64?_eq_some_iff :
    int64? s = some p ↔ WritesInteger s.toList p ∧ -2 ^ 63 ≤ p ∧ p < 2 ^ 63 := by
  -- The sign only decides what is made of the number that the digits after it write.
  have digits {ds : List Char} {value : Nat → Int} :
      (digits? ds >>= fun n => int64Range? (value n)) = some p ↔
        (∃ n, WritesNat ds n ∧ value n = p) ∧ -2 ^ 63 ≤ p ∧ p < 2 ^ 63 := by
    rw [Option.bind_eq_bind, Option.bind_eq_some_iff]
    simp only [digits?_eq_some_iff, int64Range?_eq_some_iff]
    grind
  unfold int64?
  split
  next ds signed =>
    rw [digits, signed]
    refine and_congr_left' ⟨fun ⟨n, writes, e⟩ => e ▸ .plus writes, fun writes => ?_⟩
    cases writes with
    | bare writes => exact absurd rfl writes.ne_sign.1
    | plus writes => exact ⟨_, writes, rfl⟩
  next ds signed =>
    rw [digits, signed]
    refine and_congr_left' ⟨fun ⟨n, writes, e⟩ => e ▸ .minus writes, fun writes => ?_⟩
    cases writes with
    | bare writes => exact absurd rfl writes.ne_sign.2
    | minus writes => exact ⟨_, writes, rfl⟩
  next plus minus =>
    rw [digits]
    refine and_congr_left' ⟨fun ⟨n, writes, e⟩ => e ▸ .bare writes, fun writes => ?_⟩
    generalize s.toList = cs at writes plus minus
    cases writes with
    | bare writes => exact ⟨_, writes, rfl⟩
    | plus writes => exact absurd rfl (plus _)
    | minus writes => exact absurd rfl (minus _)

theorem nat64?_inRange_eq_some_iff {m : Nat} : nat64?.inRange m = some n ↔ m = n ∧ n < 2 ^ 64 := by
  have bound : maxNat64 = 2 ^ 64 - 1 := rfl
  rw [nat64?.inRange, Option.ite_none_right_eq_some, Option.some.injEq, bound]
  omega

/-- Just the natural numbers of 64 bits are read. -/
theorem nat64?_eq_some_iff : nat64? s = some n ↔ WritesUnsigned s.toList n ∧ n < 2 ^ 64 := by
  have digits {ds : List Char} :
      (digits? ds >>= nat64?.inRange) = some n ↔ WritesNat ds n ∧ n < 2 ^ 64 := by
    rw [Option.bind_eq_bind, Option.bind_eq_some_iff]
    simp only [digits?_eq_some_iff, nat64?_inRange_eq_some_iff]
    grind
  unfold nat64?
  split
  next ds signed =>
    rw [digits, signed]
    refine and_congr_left' ⟨.plus, fun writes => ?_⟩
    cases writes with
    | bare writes => exact absurd rfl writes.ne_sign.1
    | plus writes => exact writes
  next plus =>
    rw [digits]
    refine and_congr_left' ⟨.bare, fun writes => ?_⟩
    generalize s.toList = cs at writes plus
    cases writes with
    | bare writes => exact writes
    | plus writes => exact absurd rfl (plus _)

/-! ## Blanks around an integer -/

theorem isBlank_of_isDigit (digit : c.isDigit) : isBlank c = false := by
  have bounds : 48 ≤ c.toNat ∧ c.toNat ≤ 57 := by
    simpa [Char.isDigit, UInt32.le_iff_toNat_le] using digit
  simp only [isBlank, Bool.or_eq_false_iff, Bool.and_eq_false_iff, decide_eq_false_iff_not,
    beq_eq_false_iff_ne]
  omega

/-- There is no blank within an integer. -/
theorem WritesInteger.visible (writes : WritesInteger cs p) :
    cs ≠ [] ∧ ∀ c ∈ cs, isBlank c = false := by
  have digits {ds : List Char} {n : Nat} (writes : WritesNat ds n) : ∀ c ∈ ds, isBlank c = false :=
    fun c mem => isBlank_of_isDigit (writes.digits c mem)
  cases writes with
  | bare writes => exact ⟨writes.ne_nil, digits writes⟩
  | plus writes => exact ⟨List.cons_ne_nil _ _, List.forall_mem_cons.2 ⟨rfl, digits writes⟩⟩
  | minus writes => exact ⟨List.cons_ne_nil _ _, List.forall_mem_cons.2 ⟨rfl, digits writes⟩⟩

theorem WritesInteger.trim_ofList (writes : WritesInteger cs p)
    (blankFront : ∀ c ∈ front, isBlank c) (blankBack : ∀ c ∈ back, isBlank c) :
    trim (.ofList (front ++ cs ++ back)) = .ofList cs := by
  obtain ⟨ne, visible⟩ := writes.visible
  refine trim_ofList_of_blanks ne blankFront blankBack (fun c first => ?_) fun c last => ?_
  · exact visible c (List.mem_of_head? first)
  · exact visible c (List.mem_of_getLast? last)

end GardenAdmin.Text
