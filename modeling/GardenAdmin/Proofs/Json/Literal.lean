import GardenAdmin.Json.Reader

/-!
# Number literals in a longer text

What is read of a number literal does not depend on what follows it, as long as that cannot belong
to the literal (`readLiteral_append`). An integer is read back from its digits (`readLiteral_int`).
-/

namespace GardenAdmin.Json

open GardenAdmin.Text (digit? maxNat64 minInt64)

/-! ## What follows a literal -/

/-- What follows a value: nothing, a blank, or what goes on with or closes the array or object around
it. -/
def Stops (rest : List Char) : Prop :=
  ∀ c, rest.head? = some c → isSpace c ∨ c = ',' ∨ c = ']' ∨ c = '\x7d'

/-- The same was read from a longer text. -/
def onward {α : Type} (rest : List Char) (p : α × List Char) : α × List Char := (p.1, p.2 ++ rest)

section

variable {rest : List Char}

theorem Stops.nil : Stops [] := nofun

theorem isSpace_iff {c : Char} : isSpace c ↔ c = ' ' ∨ c = '\t' ∨ c = '\n' ∨ c = '\r' := by
  simp [isSpace, or_assoc]

theorem Stops.cases {c : Char} (stops : Stops (c :: rest)) :
    (c = ' ' ∨ c = '\t' ∨ c = '\n' ∨ c = '\r') ∨ c = ',' ∨ c = ']' ∨ c = '\x7d' := by
  rw [← isSpace_iff]
  exact stops c rfl

theorem digit?_of_stops {c : Char} (stops : Stops (c :: rest)) : digit? c = none := by
  rcases stops.cases with (rfl | rfl | rfl | rfl) | rfl | rfl | rfl <;> rfl

theorem readDigits_of_stops (stops : Stops rest) : readDigits rest = ([], rest) := by
  cases rest with
  | nil => rfl
  | cons c rest => rw [readDigits, digit?_of_stops stops]

theorem readDigits_append (stops : Stops rest) (cs : List Char) :
    readDigits (cs ++ rest) = onward rest (readDigits cs) := by
  induction cs with
  | nil => exact readDigits_of_stops stops
  | cons c cs ih =>
    rw [List.cons_append, readDigits, readDigits]
    cases digit? c with
    | none => rfl
    | some d =>
      rw [ih]
      rfl

theorem readDigits1_append (stops : Stops rest) (cs : List Char) :
    readDigits1 (cs ++ rest) = (readDigits1 cs).map (onward rest) := by
  rw [readDigits1, readDigits1, readDigits_append stops]
  obtain ⟨_ | ⟨d, ds⟩, r⟩ := readDigits cs <;> rfl

theorem readWhole_append (stops : Stops rest) (cs : List Char) :
    readWhole (cs ++ rest) = (readWhole cs).map (onward rest) := by
  rw [readWhole, readWhole, readDigits1_append stops]
  cases readDigits1 cs with
  | none => rfl
  | some p =>
    obtain ⟨ds, r⟩ := p
    simp only [Option.map_some, onward, Option.bind_eq_bind, Option.bind_some]
    split <;> rfl

theorem readFraction_of_ne {c : Char} (ne : c ≠ '.') (cs : List Char) :
    readFraction (c :: cs) = some (none, c :: cs) := by
  rw [readFraction]
  rintro _ ⟨⟩
  exact ne rfl

theorem readFraction_of_stops (stops : Stops rest) : readFraction rest = some (none, rest) := by
  cases rest with
  | nil => rfl
  | cons c rest => rcases stops.cases with (rfl | rfl | rfl | rfl) | rfl | rfl | rfl <;> rfl

theorem readFraction_append (stops : Stops rest) (cs : List Char) :
    readFraction (cs ++ rest) = (readFraction cs).map (onward rest) := by
  cases cs with
  | nil => exact readFraction_of_stops stops
  | cons c cs =>
    by_cases point : c = '.'
    · subst point
      rw [List.cons_append, readFraction, readFraction, readDigits1_append stops]
      cases readDigits1 cs <;> rfl
    · rw [List.cons_append, readFraction_of_ne point, readFraction_of_ne point]
      rfl

theorem readPower_of_stops (stops : Stops rest) : readPower rest = none := by
  cases rest with
  | nil => rfl
  | cons c rest => rcases stops.cases with (rfl | rfl | rfl | rfl) | rfl | rfl | rfl <;> rfl

theorem readPower_of_ne {c : Char} (plus : c ≠ '+') (minus : c ≠ '-') (cs : List Char) :
    readPower (c :: cs) =
      (readDigits1 (c :: cs)).map fun p => ((digitsValue p.1 : Int), p.2) := by
  rw [readPower]
  · cases readDigits1 (c :: cs) <;> rfl
  · rintro _ ⟨⟩
    exact plus rfl
  · rintro _ ⟨⟩
    exact minus rfl

theorem readPower_append (stops : Stops rest) (cs : List Char) :
    readPower (cs ++ rest) = (readPower cs).map (onward rest) := by
  cases cs with
  | nil => exact readPower_of_stops stops
  | cons c cs =>
    by_cases plus : c = '+'
    · subst plus
      rw [List.cons_append, readPower, readPower, readDigits1_append stops]
      cases readDigits1 cs <;> rfl
    by_cases minus : c = '-'
    · subst minus
      rw [List.cons_append, readPower, readPower, readDigits1_append stops]
      cases readDigits1 cs <;> rfl
    rw [List.cons_append, readPower_of_ne plus minus, readPower_of_ne plus minus,
      ← List.cons_append, readDigits1_append stops]
    cases readDigits1 (c :: cs) <;> rfl

theorem readExponent_of_ne {c : Char} (lower : c ≠ 'e') (upper : c ≠ 'E') (cs : List Char) :
    readExponent (c :: cs) = some (none, c :: cs) := by
  rw [readExponent]
  · rintro _ ⟨⟩
    exact lower rfl
  · rintro _ ⟨⟩
    exact upper rfl

theorem readExponent_of_stops (stops : Stops rest) : readExponent rest = some (none, rest) := by
  cases rest with
  | nil => rfl
  | cons c rest => rcases stops.cases with (rfl | rfl | rfl | rfl) | rfl | rfl | rfl <;> rfl

theorem readExponent_append (stops : Stops rest) (cs : List Char) :
    readExponent (cs ++ rest) = (readExponent cs).map (onward rest) := by
  cases cs with
  | nil => exact readExponent_of_stops stops
  | cons c cs =>
    by_cases lower : c = 'e'
    · subst lower
      rw [List.cons_append, readExponent, readExponent, readPower_append stops]
      cases readPower cs <;> rfl
    by_cases upper : c = 'E'
    · subst upper
      rw [List.cons_append, readExponent, readExponent, readPower_append stops]
      cases readPower cs <;> rfl
    rw [List.cons_append, readExponent_of_ne lower upper, readExponent_of_ne lower upper]
    rfl

/-- The sign of a literal, and what comes after it. -/
def splitSign : List Char → Bool × List Char
  | '-' :: cs => (true, cs)
  | cs => (false, cs)

theorem splitSign_of_ne {c : Char} (ne : c ≠ '-') (cs : List Char) :
    splitSign (c :: cs) = (false, c :: cs) := by
  rw [splitSign]
  rintro _ ⟨⟩
  exact ne rfl

theorem splitSign_append (stops : Stops rest) (cs : List Char) :
    splitSign (cs ++ rest) = onward rest (splitSign cs) := by
  cases cs with
  | nil =>
    cases rest with
    | nil => rfl
    | cons c rest => rcases stops.cases with (rfl | rfl | rfl | rfl) | rfl | rfl | rfl <;> rfl
  | cons c cs =>
    by_cases minus : c = '-'
    · subst minus
      rfl
    · rw [List.cons_append, splitSign_of_ne minus, splitSign_of_ne minus]
      rfl

theorem readLiteral_eq (cs : List Char) : readLiteral cs =
    (readWhole (splitSign cs).2).bind fun (whole, cs') =>
      (readFraction cs').bind fun (fraction, cs') =>
        (readExponent cs').bind fun (power, cs') =>
          some (⟨(splitSign cs).1, whole, fraction.getD [], power.getD 0,
            fraction.isNone && power.isNone⟩, cs') :=
  rfl

/-- What comes after a literal that it cannot take in is left over. -/
theorem readLiteral_append (stops : Stops rest) (cs : List Char) :
    readLiteral (cs ++ rest) = (readLiteral cs).map (onward rest) := by
  rw [readLiteral_eq, readLiteral_eq, splitSign_append stops]
  simp only [onward, readWhole_append stops]
  cases readWhole (splitSign cs).2 with
  | none => rfl
  | some p =>
    obtain ⟨whole, cs'⟩ := p
    simp only [Option.map_some, Option.bind_some, onward, readFraction_append stops]
    cases readFraction cs' with
    | none => rfl
    | some p =>
      obtain ⟨fraction, cs'⟩ := p
      simp only [Option.map_some, Option.bind_some, onward, readExponent_append stops]
      cases readExponent cs' <;> rfl

end

/-! ## What is left over -/

section

variable {cs r : List Char}

theorem readDigits_suffix (cs : List Char) : (readDigits cs).2 <:+ cs := by
  induction cs with
  | nil => exact List.suffix_rfl
  | cons c cs ih =>
    rw [readDigits]
    cases digit? c with
    | none => exact List.suffix_rfl
    | some d => exact ih.trans (List.suffix_cons c cs)

theorem readDigits1_suffix {ds : List Nat} (read : readDigits1 cs = some (ds, r)) : r <:+ cs := by
  have suffix := readDigits_suffix cs
  rw [readDigits1] at read
  split at read
  next => cases read
  next digits =>
    cases read
    rwa [digits] at suffix

theorem readWhole_suffix {ds : List Nat} (read : readWhole cs = some (ds, r)) : r <:+ cs := by
  obtain ⟨⟨ds', r'⟩, digits, read⟩ := Option.bind_eq_some_iff.1 read
  dsimp only at read
  split at read <;> cases read
  exact readDigits1_suffix digits

theorem readFraction_suffix {ds : Option (List Nat)} (read : readFraction cs = some (ds, r)) :
    r <:+ cs := by
  unfold readFraction at read
  split at read
  next cs =>
    obtain ⟨⟨ds', r'⟩, digits, read⟩ := Option.bind_eq_some_iff.1 read
    cases read
    exact (readDigits1_suffix digits).trans (List.suffix_cons '.' cs)
  next =>
    cases read
    exact List.suffix_rfl

theorem readPower_suffix {n : Int} (read : readPower cs = some (n, r)) : r <:+ cs := by
  unfold readPower at read
  split at read
  all_goals
    obtain ⟨⟨ds', r'⟩, digits, read⟩ := Option.bind_eq_some_iff.1 read
    cases read
  · exact (readDigits1_suffix digits).trans (List.suffix_cons ..)
  · exact (readDigits1_suffix digits).trans (List.suffix_cons ..)
  · exact readDigits1_suffix digits

theorem readExponent_suffix {n : Option Int} (read : readExponent cs = some (n, r)) :
    r <:+ cs := by
  unfold readExponent at read
  split at read
  case h_1 | h_2 =>
    obtain ⟨⟨n', r'⟩, power, read⟩ := Option.bind_eq_some_iff.1 read
    cases read
    exact (readPower_suffix power).trans (List.suffix_cons ..)
  next =>
    cases read
    exact List.suffix_rfl

theorem splitSign_suffix (cs : List Char) : (splitSign cs).2 <:+ cs := by
  unfold splitSign
  split
  · exact List.suffix_cons ..
  · exact List.suffix_rfl

theorem readLiteral_suffix {l : Literal} (read : readLiteral cs = some (l, r)) : r <:+ cs := by
  rw [readLiteral_eq] at read
  obtain ⟨⟨whole, cs₁⟩, first, read⟩ := Option.bind_eq_some_iff.1 read
  obtain ⟨⟨fraction, cs₂⟩, second, read⟩ := Option.bind_eq_some_iff.1 read
  obtain ⟨⟨power, cs₃⟩, third, read⟩ := Option.bind_eq_some_iff.1 read
  cases read
  exact (readExponent_suffix third).trans <| (readFraction_suffix second).trans <|
    (readWhole_suffix first).trans (splitSign_suffix cs)

end

/-! ## Integers -/

theorem digit?_digitChar {d : Nat} (small : d < 10) : digit? d.digitChar = some d := by
  decide +revert

theorem readDigits_concat {cs : List Char} {ds : List Nat} {d : Nat} (small : d < 10)
    (read : readDigits cs = (ds, [])) : readDigits (cs ++ [d.digitChar]) = (ds ++ [d], []) := by
  induction cs generalizing ds with
  | nil =>
    cases read
    rw [List.nil_append, readDigits, digit?_digitChar small]
    rfl
  | cons c cs ih =>
    rw [readDigits] at read
    rw [List.cons_append, readDigits]
    cases digit : digit? c with
    | none =>
      rw [digit] at read
      cases read
    | some d' =>
      rw [digit] at read
      cases tail : readDigits cs with
      | mk ds' rest =>
        rw [tail] at read
        cases read
        rw [ih tail]
        rfl

/-- The digits of a number as they are read. Only zero begins with a zero. -/
structure IsDecimal (n : Nat) (ds : List Nat) : Prop where
  read : readDigits (Nat.toDigits 10 n) = (ds, [])
  value : digitsValue ds = n
  head : ∃ d ds', ds = d :: ds' ∧ (d = 0 → ds' = [] ∧ n = 0)

theorem exists_isDecimal (n : Nat) : ∃ ds, IsDecimal n ds := by
  induction n using Nat.base_induction 10 (by decide) with
  | single d small =>
    refine ⟨[d], ?_, by simp [digitsValue], d, [], rfl, fun zero => ⟨rfl, zero⟩⟩
    rw [Nat.toDigits_of_lt_base small]
    exact readDigits_concat small (show readDigits [] = ([], []) from rfl)
  | digit n d small pos ih =>
    obtain ⟨ds, read, value, first, more, rfl, leads⟩ := ih
    refine ⟨first :: more ++ [d], ?_, ?_, first, more ++ [d], rfl, ?_⟩
    · rw [← Nat.toDigits_append_toDigits (by decide) pos small, Nat.toDigits_of_lt_base small]
      exact readDigits_concat small read
    · rw [digitsValue, List.foldl_append, ← digitsValue, value]
      rfl
    · intro zero
      have := (leads zero).2
      omega

theorem IsDecimal.readWhole {n : Nat} {ds : List Nat} (h : IsDecimal n ds) :
    readWhole (Nat.toDigits 10 n) = some (ds, []) := by
  obtain ⟨d, ds', rfl, leads⟩ := h.head
  have read : readDigits1 (Nat.toDigits 10 n) = some (d :: ds', []) := by
    rw [readDigits1, h.read]
  rw [Json.readWhole, read]
  cases d with
  | zero =>
    obtain ⟨rfl, -⟩ := leads rfl
    rfl
  | succ d => rfl

namespace Literal

theorem le_foldl (ds : List Nat) (n : Nat) : n ≤ ds.foldl (fun n d => 10 * n + d) n := by
  induction ds generalizing n with
  | nil => exact Nat.le_refl n
  | cons d ds ih => exact Nat.le_trans (by omega) (ih (10 * n + d))

theorem fit_of_le {acc : Nat} {ds : List Nat}
    (fits : ds.foldl (fun n d => 10 * n + d) acc ≤ maxNat64) :
    fit acc ds = (ds.foldl (fun n d => 10 * n + d) acc, 0) := by
  induction ds generalizing acc with
  | nil => rfl
  | cons d ds ih =>
    have first : 10 * acc + d ≤ maxNat64 := Nat.le_trans (le_foldl ds _) fits
    rw [fit, if_pos first, ih fits]
    rfl

theorem fit_of_dropped {acc : Nat} {ds : List Nat} (all : (fit acc ds).2 = 0) :
    (fit acc ds).1 = ds.foldl (fun n d => 10 * n + d) acc := by
  induction ds generalizing acc with
  | nil => rfl
  | cons d ds ih =>
    rw [fit] at all ⊢
    split at all
    next first => rw [if_pos first, ih all, List.foldl_cons]
    next => cases all

theorem fit_le {acc : Nat} (fits : acc ≤ maxNat64) (ds : List Nat) :
    (fit acc ds).1 ≤ maxNat64 := by
  induction ds generalizing acc with
  | nil => exact fits
  | cons d ds ih =>
    rw [fit]
    split
    next first => exact ih first
    next => exact fits

end Literal

/-- The integers that a literal can stand for. -/
def InRange (n : Int) : Prop := minInt64 ≤ n ∧ n ≤ maxNat64

theorem render_natCast (m : Nat) : (Number.int m).render = Nat.toDigits 10 m := by
  rw [Number.render, Int.toString_eq_repr, Int.repr_eq_if]
  simp

theorem render_negSucc (m : Nat) :
    (Number.int (.negSucc m)).render = '-' :: Nat.toDigits 10 (m + 1) := by
  rw [Number.render, Int.toString_eq_repr, Int.repr_eq_if]
  simp

/-- A literal stands for an integer if it is integral, in the range and not minus zero. -/
theorem Literal.number?_eq_int_iff {l : Literal} {p : Int} :
    l.number? = some (.int p) ↔ l.integral ∧ (l.negative → digitsValue l.whole ≠ 0) ∧
      (if l.negative then -(digitsValue l.whole : Int) else digitsValue l.whole) = p ∧
      InRange p := by
  have bounds : minInt64 = -9223372036854775808 ∧ maxNat64 = 18446744073709551615 := ⟨rfl, rfl⟩
  constructor
  · intro stands
    have fits := fit_le (Nat.zero_le maxNat64) l.whole
    have value (all : (fit 0 l.whole).2 = 0) : (fit 0 l.whole).1 = digitsValue l.whole :=
      fit_of_dropped all
    unfold number? at stands
    obtain ⟨v, dropped⟩ := fit 0 l.whole
    simp only at stands fits value
    split at stands
    next isInt =>
      cases stands
      simp only [Bool.and_eq_true, Bool.or_eq_true, Bool.not_eq_true', decide_eq_true_eq,
        bne_iff_ne, beq_iff_eq] at isInt
      obtain ⟨⟨integral, all⟩, signed⟩ := isInt
      rw [value all] at signed ⊢
      refine ⟨integral, fun negative => ?_, rfl, ?_⟩
      · exact (signed.resolve_left (by rw [negative]; decide)).1
      · unfold InRange
        split
        next negative =>
          have low := signed.resolve_left (by rw [negative]; decide)
          omega
        next => omega
    next =>
      obtain ⟨x, -, e⟩ := Option.map_eq_some_iff.1 stands
      cases e
  · rintro ⟨integral, proper, rfl, range⟩
    have fits : digitsValue l.whole ≤ maxNat64 := by
      unfold InRange at range
      split at range <;> omega
    have fit : fit 0 l.whole = (digitsValue l.whole, 0) := fit_of_le fits
    cases negative : l.negative with
    | false => simp [number?, fit, integral, negative]
    | true =>
      rw [if_pos negative] at range
      have low : minInt64 ≤ -(digitsValue l.whole : Int) := range.1
      simp [number?, fit, integral, negative, proper negative, low]

theorem number?_of_isDecimal {n : Nat} {ds : List Nat} (decimal : IsDecimal n ds)
    {negative : Bool} (range : InRange (if negative then -(n : Int) else n))
    (proper : negative → n ≠ 0) :
    (⟨negative, ds, [], 0, true⟩ : Literal).number? =
      some (.int (if negative then -(n : Int) else n)) := by
  refine Literal.number?_eq_int_iff.2 ⟨rfl, ?_, ?_, range⟩
  · rwa [decimal.value]
  · rw [decimal.value]

theorem readLiteral_int {n : Int} (range : InRange n) :
    ∃ l, readLiteral (Number.int n).render = some (l, []) ∧ l.number? = some (.int n) := by
  cases n with
  | ofNat m =>
    obtain ⟨ds, decimal⟩ := exists_isDecimal m
    refine ⟨⟨false, ds, [], 0, true⟩, ?_, number?_of_isDecimal decimal range nofun⟩
    obtain ⟨c, cs, more⟩ := List.exists_cons_of_ne_nil (Nat.toDigits_ne_nil (n := m) (b := 10))
    have unsigned : splitSign (Nat.toDigits 10 m) = (false, Nat.toDigits 10 m) := by
      rw [more]
      refine splitSign_of_ne ?_ cs
      rintro rfl
      have := Nat.isDigit_of_mem_toDigits (b := 10) (by decide) (by decide)
        (more ▸ List.mem_cons_self)
      cases this
    have rendered := render_natCast m
    rw [Int.ofNat_eq_natCast, rendered, readLiteral_eq, unsigned, decimal.readWhole]
    rfl
  | negSucc m =>
    obtain ⟨ds, decimal⟩ := exists_isDecimal (m + 1)
    refine ⟨⟨true, ds, [], 0, true⟩, ?_,
      number?_of_isDecimal decimal range fun _ => Nat.succ_ne_zero m⟩
    rw [render_negSucc, readLiteral_eq, splitSign, decimal.readWhole]
    rfl

/-- An integer that a literal stands for is within the range. -/
theorem Literal.inRange_of_number? {l : Literal} {n : Int} (stands : l.number? = some (.int n)) :
    InRange n :=
  (number?_eq_int_iff.1 stands).2.2.2

end GardenAdmin.Json
