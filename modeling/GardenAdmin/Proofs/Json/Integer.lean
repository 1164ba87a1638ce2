import GardenAdmin.Proofs.Json.Printed
import GardenAdmin.Proofs.Text.Decimal

/-!
# Literals that are integers

A number literal stands for an integer exactly if it is written as one, without fraction and
exponent, and fits 64 bits, signed or unsigned (`number?_eq_int_iff_writesLiteral`). Minus zero is
no integer.
-/

namespace GardenAdmin.Json

open GardenAdmin.Text (WritesNat digit?_eq_some_iff minInt64 maxNat64)

/-- A natural number, or with a minus sign one that is not zero. -/
inductive WritesLiteral : List Char → Int → Prop
  | natural {cs : List Char} {n : Nat} (digits : WritesNat cs n) : WritesLiteral cs n
  | negative {cs : List Char} {n : Nat} (digits : WritesNat cs n) (pos : 0 < n) :
    WritesLiteral ('-' :: cs) (-n)

variable {cs r : List Char} {ds : List Nat} {l : Literal} {n : Nat} {p : Int}

/-! ## Digits -/

/-- The value of a digit. -/
def digitValue (c : Char) : Nat := c.toNat - '0'.toNat

theorem digitsValue_map (cs : List Char) :
    digitsValue (cs.map digitValue) = Nat.ofDigitChars 10 cs 0 := by
  rw [digitsValue, List.foldl_map]
  rfl

/-- All of the characters are read exactly if they are digits. -/
theorem readDigits_eq_nil_iff :
    readDigits cs = (ds, []) ↔ (∀ c ∈ cs, c.isDigit) ∧ cs.map digitValue = ds := by
  induction cs generalizing ds with
  | nil => simp [readDigits]
  | cons c cs ih =>
    rw [readDigits, List.forall_mem_cons, List.map_cons]
    cases digit : GardenAdmin.Text.digit? c with
    | none =>
      constructor
      · rintro ⟨⟩
      · rintro ⟨⟨isDigit, -⟩, -⟩
        rw [digit?_eq_some_iff.2 ⟨isDigit, rfl⟩] at digit
        cases digit
    | some d =>
      obtain ⟨isDigit, value⟩ := digit?_eq_some_iff.1 digit
      -- Nothing is left after `c` just when nothing is left of `cs`, whichever digits that has.
      have tail : readDigits cs = ((readDigits cs).1, []) ↔ (∀ c ∈ cs, c.isDigit) ∧
          cs.map digitValue = (readDigits cs).1 := ih
      constructor
      · rintro e
        obtain ⟨rfl, rest⟩ := Prod.mk.inj e
        obtain ⟨digits, values⟩ := tail.1 (Prod.ext rfl rest)
        exact ⟨⟨isDigit, digits⟩, List.cons_eq_cons.2 ⟨value, values⟩⟩
      · rintro ⟨⟨-, digits⟩, rfl⟩
        rw [ih.2 ⟨digits, rfl⟩, ← value]
        rfl

theorem readDigits1_eq_some_iff :
    readDigits1 cs = some (ds, r) ↔ readDigits cs = (ds, r) ∧ ds ≠ [] := by
  rw [readDigits1]
  obtain ⟨_ | ⟨d, ds'⟩, rest⟩ := readDigits cs
  · constructor
    · rintro ⟨⟩
    · rintro ⟨e, ne⟩
      exact absurd (Prod.mk.inj e).1.symm ne
  · simp only [Option.some.injEq, Prod.mk.injEq]
    exact ⟨fun e => ⟨e, e.1 ▸ List.cons_ne_nil d ds'⟩, And.left⟩

theorem readDigits_of_readWhole (read : readWhole cs = some (ds, r)) :
    readDigits cs = (ds, r) ∧ ds ≠ [] := by
  obtain ⟨⟨ds', r'⟩, digits, read⟩ := Option.bind_eq_some_iff.1 read
  dsimp only at read
  split at read <;> cases read
  exact readDigits1_eq_some_iff.1 digits

/-- If the whole part of a literal takes all characters, they are a number, and the other way
around. -/
theorem writesNat_iff_of_readWhole (read : readWhole cs = some (ds, r)) :
    WritesNat cs n ↔ r = [] ∧ digitsValue ds = n := by
  obtain ⟨digits, some⟩ := readDigits_of_readWhole read
  constructor
  · intro writes
    rw [readDigits_eq_nil_iff.2 ⟨writes.digits, rfl⟩] at digits
    cases digits
    exact ⟨rfl, (digitsValue_map cs).trans writes.value⟩
  · rintro ⟨rfl, rfl⟩
    obtain ⟨all, rfl⟩ := readDigits_eq_nil_iff.1 digits
    exact ⟨by simpa using some, all, (digitsValue_map cs).symm⟩

/-! ## Literals -/

theorem readFraction_none (read : readFraction cs = some (none, r)) : r = cs := by
  unfold readFraction at read
  split at read
  next =>
    obtain ⟨_, -, e⟩ := Option.bind_eq_some_iff.1 read
    cases e
  next =>
    cases read
    rfl

theorem readExponent_none (read : readExponent cs = some (none, r)) : r = cs := by
  unfold readExponent at read
  split at read
  case h_1 | h_2 =>
    obtain ⟨_, -, e⟩ := Option.bind_eq_some_iff.1 read
    cases e
  next =>
    cases read
    rfl

/-- A literal is integral exactly if it has nothing but digits after its sign. -/
theorem integral_iff (read : readLiteral cs = some (l, [])) : l.negative = (splitSign cs).1 ∧
    ∀ n, l.integral ∧ digitsValue l.whole = n ↔ WritesNat (splitSign cs).2 n := by
  rw [readLiteral_eq] at read
  obtain ⟨⟨whole, cs₁⟩, first, read⟩ := Option.bind_eq_some_iff.1 read
  obtain ⟨⟨fraction, cs₂⟩, second, read⟩ := Option.bind_eq_some_iff.1 read
  obtain ⟨⟨power, cs₃⟩, third, read⟩ := Option.bind_eq_some_iff.1 read
  cases read
  refine ⟨rfl, fun n => ?_⟩
  rw [writesNat_iff_of_readWhole first, and_congr_left_iff]
  -- What follows the whole part is the fraction and the exponent, so if both are missing it is empty.
  rintro -
  constructor
  · intro integral
    obtain ⟨rfl, rfl⟩ : fraction = none ∧ power = none := by simpa using integral
    obtain rfl := readExponent_none third
    exact (readFraction_none second).symm
  · rintro rfl
    cases second
    cases third
    rfl

theorem writesLiteral_iff : WritesLiteral cs p ↔ ∃ n, WritesNat (splitSign cs).2 n ∧
    ((splitSign cs).1 → n ≠ 0) ∧ (if (splitSign cs).1 then -(n : Int) else n) = p := by
  constructor
  · intro writes
    cases writes with
    | @natural _ n digits =>
      obtain ⟨c, cs', rfl⟩ := List.exists_cons_of_ne_nil digits.ne_nil
      rw [splitSign_of_ne digits.ne_sign.2]
      exact ⟨n, digits, nofun, rfl⟩
    | @negative ds n digits pos => exact ⟨n, digits, fun _ => Nat.ne_of_gt pos, rfl⟩
  · rintro ⟨n, digits, proper, rfl⟩
    unfold splitSign at digits proper ⊢
    split at digits
    next => exact .negative digits (Nat.pos_of_ne_zero (proper rfl))
    next => exact .natural digits

/-- Just the literals of integers that fit stand for one. -/
theorem number?_eq_int_iff_writesLiteral (read : readLiteral cs = some (l, [])) :
    l.number? = some (.int p) ↔ WritesLiteral cs p ∧ InRange p := by
  obtain ⟨sign, writes⟩ := integral_iff read
  rw [Literal.number?_eq_int_iff, writesLiteral_iff, sign]
  constructor
  · rintro ⟨integral, proper, value, range⟩
    exact ⟨⟨_, (writes _).1 ⟨integral, rfl⟩, proper, value⟩, range⟩
  · rintro ⟨⟨n, digits, proper, value⟩, range⟩
    obtain ⟨integral, rfl⟩ := (writes n).2 digits
    exact ⟨integral, proper, value, range⟩

/-- The literal that a document of a number was read from, without the blanks before it. -/
theorem Spells.exists_literal {m : Option Number} (spells : Spells cs (.number m)) :
    ∃ l, readLiteral (skipSpace cs) = some (l, []) ∧ m = l.number? := by
  have read := spells (2 * cs.length) [] Stops.nil (Nat.le_refl _)
  rw [List.append_nil] at read
  obtain ⟨l, r, literal, stands, rest⟩ := exists_readLiteral read
  cases rest
  exact ⟨l, literal, stands⟩

end GardenAdmin.Json
