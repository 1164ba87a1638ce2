import GardenAdmin.Json.Printer
import GardenAdmin.Proofs.Json.Spelled

/-!
# Printed values read back

A value `Prints` if its compact text spells the document that writes it. Values without parts do
(`Value.prints_string`, `Value.prints_int`), and arrays and objects do if their parts do
(`Value.prints_array`, `Value.prints_object`).
-/

namespace GardenAdmin.Json

/-! ## Strings -/

theorem unit?_lowerHexDigit {n : Nat} (small : n < 0x20) :
    unit? '0' '0' (lowerHexDigit (n / 16)) (lowerHexDigit (n % 16)) = some n := by
  decide +revert

/-- A control character is never half of a surrogate pair. -/
theorem joinPieces_unit {n : Nat} (small : n < 0x20) (ps : List Piece) :
    joinPieces (.unit n :: ps) = (Char.ofNat n :: ·) <$> joinPieces ps := by
  have high : isHighSurrogate n = false := by
    simp only [isHighSurrogate, Bool.and_eq_false_iff, decide_eq_false_iff_not]
    omega
  have low : isLowSurrogate n = false := by
    simp only [isLowSurrogate, Bool.and_eq_false_iff, decide_eq_false_iff_not]
    omega
  cases ps with
  | nil => simp [joinPieces, high, low]
  | cons p ps => cases p <;> simp [joinPieces, high, low]

theorem readPieces_plain {c : Char} (quote : c ≠ '"') (backslash : c ≠ '\\')
    (printable : ¬c.toNat < 0x20) (cs : List Char) :
    readPieces (c :: cs) = (readPieces cs).map fun q => (.char c :: q.1, q.2) := by
  rw [readPieces]
  · rw [if_neg (by simp [printable, backslash])]
    cases readPieces cs <;> rfl
  · exact quote
  · exact fun _ _ _ _ _ e => absurd e backslash
  · exact fun _ _ e => absurd e backslash

theorem readPieces_escape {e c : Char} (short : e ≠ 'u') (escaped : escaped? e = some c)
    (cs : List Char) :
    readPieces ('\\' :: e :: cs) = (readPieces cs).map fun q => (.char c :: q.1, q.2) := by
  rw [readPieces]
  · rw [escaped]
    cases readPieces cs <;> rfl
  · exact fun _ _ _ _ _ e => absurd e short

theorem readPieces_control {n : Nat} (small : n < 0x20) (cs : List Char) :
    readPieces
        ('\\' :: 'u' :: '0' :: '0' :: lowerHexDigit (n / 16) :: lowerHexDigit (n % 16) :: cs) =
      (readPieces cs).map fun q => (.unit n :: q.1, q.2) := by
  rw [readPieces, unit?_lowerHexDigit small]
  cases readPieces cs <;> rfl

/-- An escaped character is read as one piece. -/
theorem exists_piece (c : Char) : ∃ p,
    (∀ cs, readPieces (escapeChar c ++ cs) = (readPieces cs).map fun q => (p :: q.1, q.2)) ∧
    ∀ ps, joinPieces (p :: ps) = (c :: ·) <$> joinPieces ps := by
  unfold escapeChar
  split
  case h_8 quote backslash _ _ _ _ _ =>
    split
    next control =>
      refine ⟨.unit c.toNat, readPieces_control control, fun ps => ?_⟩
      rw [joinPieces_unit control, Char.ofNat_toNat]
    next printable =>
      exact ⟨.char c, readPieces_plain quote backslash printable, fun ps => rfl⟩
  all_goals exact ⟨.char _, readPieces_escape (by decide) rfl, fun ps => rfl⟩

theorem exists_pieces (cs rest : List Char) : ∃ ps,
    readPieces (cs.flatMap escapeChar ++ '"' :: rest) = some (ps, rest) ∧
    joinPieces ps = some cs := by
  induction cs with
  | nil => exact ⟨[], rfl, rfl⟩
  | cons c cs ih =>
    obtain ⟨ps, read, join⟩ := ih
    obtain ⟨p, readFirst, joinFirst⟩ := exists_piece c
    refine ⟨p :: ps, ?_, ?_⟩
    · rw [List.flatMap_cons, List.append_assoc, readFirst, read]
      rfl
    · rw [joinFirst, join]
      rfl

theorem spellsString_escape (s : String) :
    SpellsString (s.toList.flatMap escapeChar ++ ['"']) (some s) := by
  intro rest
  obtain ⟨ps, read, join⟩ := exists_pieces s.toList rest
  rw [List.append_assoc, List.singleton_append, readString, read]
  simp [join]

/-! ## Values -/

namespace Value

/-- The compact text reads as the document that writes the value. -/
def Prints (v : Value) : Prop := Spells v.compactChars v.toDoc

theorem prints_null : Prints .null := spells_null

theorem prints_bool (b : Bool) : Prints (.bool b) := by
  cases b with
  | false => exact spells_false
  | true => exact spells_true

theorem prints_string (s : String) : Prints (.string s) := spells_string (spellsString_escape s)

theorem prints_number {n : Number} {l : Literal} (read : readLiteral n.render = some (l, []))
    (stands : l.number? = some n) : Prints (.number n) := by
  rw [Prints, compactChars, toDoc, ← stands]
  exact spells_literal read

theorem prints_int {n : Int} (range : InRange n) : Prints (.number (.int n)) := by
  obtain ⟨l, read, stands⟩ := readLiteral_int range
  exact prints_number read stands

/-! ## Arrays and objects -/

theorem spellsItems_compact {x : Value} {xs : List Value} (prints : ∀ y ∈ x :: xs, y.Prints) :
    SpellsItems (x.compactChars ++ compactItems xs) (toDocs (x :: xs)) := by
  induction xs generalizing x with
  | nil => exact spellsItems_last (prints x (.head _)) blanks_nil
  | cons y ys ih =>
    exact spellsItems_more (prints x (.head _)) blanks_nil (ih fun z mem => prints z (.tail _ mem))

theorem prints_array {xs : List Value} (prints : ∀ x ∈ xs, x.Prints) : Prints (.array xs) := by
  cases xs with
  | nil => exact spells_array_nil blanks_nil
  | cons x xs => exact spells_array (spellsItems_compact prints)

theorem spellsMembers_compact {k : String} {x : Value} {ms : List (String × Value)}
    (prints : ∀ m ∈ (k, x) :: ms, m.2.Prints) :
    SpellsMembers (stringLiteral k ++ ':' :: x.compactChars ++ compactMembers ms)
      (toDocMembers ((k, x) :: ms)) := by
  induction ms generalizing k x with
  | nil =>
    have value := spellsMemberValue_colon blanks_nil (prints _ (.head _))
    have last := spellsMembers_last blanks_nil (spellsString_escape k) value blanks_nil
    simpa only [compactMembers, toDocMembers, stringLiteral, List.append_assoc, List.cons_append,
      List.nil_append] using last
  | cons m ms ih =>
    have value := spellsMemberValue_colon blanks_nil (prints _ (.head _))
    have more := spellsMembers_more blanks_nil (spellsString_escape k) value blanks_nil
      (ih fun m mem => prints m (.tail _ mem))
    simpa only [compactMembers, toDocMembers, stringLiteral, List.append_assoc, List.cons_append,
      List.nil_append] using more

theorem prints_object {ms : List (String × Value)} (prints : ∀ m ∈ ms, m.2.Prints) :
    Prints (.object ms) := by
  cases ms with
  | nil => exact spells_object_nil blanks_nil
  | cons m ms => exact spells_object (spellsMembers_compact prints)

/-! ## Texts -/

theorem read_compact {v : Value} (prints : v.Prints) :
    JsonText.read v.compact = ⟨v.toDoc, true⟩ :=
  prints.read_ofList

end Value

/-! ## Doubles -/

/-- The text of the double parses as the double. -/
def Double.ReadsBack (x : Double) : Prop :=
  Value.parse? (Value.number (.double x)).compact = some (.number (.double x))

instance (x : Double) : Decidable x.ReadsBack := inferInstanceAs (Decidable (_ = _))

theorem isSpace_of_isDigit {c : Char} (digit : c.isDigit) : isSpace c = false := by
  have ne {d : Char} (other : d.isDigit = false) : c ≠ d := by
    rintro rfl
    exact Bool.noConfusion (other.symm.trans digit)
  simp [isSpace, ne (d := ' ') rfl, ne (d := '\t') rfl, ne (d := '\n') rfl, ne (d := '\r') rfl]

theorem isSpace_of_mem_toDigits {n : Nat} {c : Char} (mem : c ∈ Nat.toDigits 10 n) :
    isSpace c = false :=
  isSpace_of_isDigit (Nat.isDigit_of_mem_toDigits (by decide) (by decide) mem)

theorem isSpace_of_mem_significant {n : Nat} {c : Char} (mem : c ∈ significant n) :
    isSpace c = false := by
  rw [significant, List.mem_reverse] at mem
  exact isSpace_of_mem_toDigits (List.mem_reverse.1 ((List.dropWhile_sublist _).subset mem))

theorem isSpace_of_mem_layout {ds : List Char} (plain : ∀ c ∈ ds, isSpace c = false) {top : Int}
    {c : Char} (mem : c ∈ layout ds top) : isSpace c = false := by
  have taken {n : Nat} (mem : c ∈ ds.take n) := plain c (List.mem_of_mem_take mem)
  have dropped {n : Nat} (mem : c ∈ ds.drop n) := plain c (List.mem_of_mem_drop mem)
  have zeros {n : Nat} (mem : c ∈ List.replicate n '0') : isSpace c = false := by
    rw [(List.mem_replicate.1 mem).2]
    rfl
  unfold layout at mem
  split at mem
  next =>
    split at mem
    next => grind [isSpace]
    next => grind [isSpace]
  next => grind [isSpace, isSpace_of_mem_toDigits]

theorem isSpace_of_mem_render {x : Double} {c : Char} (mem : c ∈ x.render) : isSpace c = false := by
  have sign (mem : c ∈ if x.negative then ['-'] else []) : isSpace c = false := by
    split at mem
    · rw [List.mem_singleton.1 mem]
      rfl
    · cases mem
  rw [Double.render] at mem
  dsimp only at mem
  generalize (if x.negative then ['-'] else []) = front at sign mem
  split at mem
  next =>
    rcases List.mem_append.1 mem with mem | mem
    · exact sign mem
    · grind [isSpace]
  next =>
    rcases List.mem_append.1 mem with mem | mem
    · exact sign mem
    · exact isSpace_of_mem_layout (fun c => isSpace_of_mem_significant) mem

/-- Only a literal is read as a number. -/
theorem exists_readLiteral {fuel : Nat} {cs : List Char} {m : Option Number}
    {rest : Option (List Char)} (read : readValue fuel cs = (.number m, rest)) :
    ∃ l r, readLiteral (skipSpace cs) = some (l, r) ∧ m = l.number? ∧ rest = some r := by
  cases fuel with
  | zero => cases congrArg Prod.fst read
  | succ fuel =>
    rw [readValue] at read
    split at read
    case h_1 | h_2 | h_3 => cases congrArg Prod.fst read
    case h_4 | h_5 | h_6 => split at read <;> cases congrArg Prod.fst read
    case h_7 =>
      split at read
      next l r literal =>
        cases read
        exact ⟨l, r, literal, rfl, rfl⟩
      next => cases congrArg Prod.fst read

theorem eq_number_of_value? {room : Nat} {d : Doc} {n : Number}
    (denotes : d.value? room = some (.number n)) : d = .number (some n) := by
  cases d with
  | null | bool | broken => cases denotes
  | string s =>
    obtain ⟨_, _, e⟩ := Option.map_eq_some_iff.1 denotes
    cases e
  | number m =>
    obtain ⟨_, rfl, e⟩ := Option.map_eq_some_iff.1 denotes
    cases e
    rfl
  | array | object =>
    rw [Doc.value?] at denotes
    split at denotes
    next => cases denotes
    next =>
      obtain ⟨_, _, e⟩ := Option.map_eq_some_iff.1 denotes
      cases e

theorem skipSpace_of_forall {cs : List Char} (plain : ∀ c ∈ cs, isSpace c = false) :
    skipSpace cs = cs := by
  cases cs with
  | nil => rfl
  | cons c cs => exact skipSpace_cons (plain c (.head _)) cs

namespace Value

theorem prints_double {x : Double} (back : x.ReadsBack) : Prints (.number (.double x)) := by
  have parsed : Value.parse? (Value.number (.double x)).compact = some (.number (.double x)) := back
  rw [Value.parse?, JsonText.read, compact, String.toList_ofList, compactChars] at parsed
  cases read : readValue (fuelFor (Number.double x).render) (Number.double x).render with
  | mk doc rest =>
    rw [read] at parsed
    dsimp only at parsed
    split at parsed
    next whole =>
      obtain rfl := eq_number_of_value? parsed
      obtain ⟨l, r, literal, stands, rfl⟩ := exists_readLiteral read
      have plain : ∀ c ∈ (Number.double x).render, isSpace c = false :=
        fun c => isSpace_of_mem_render
      rw [skipSpace_of_forall plain] at literal
      have left := skipSpace_of_forall fun c mem =>
        plain c ((readLiteral_suffix literal).subset mem)
      rw [Option.any_some, left, List.isEmpty_iff] at whole
      rw [whole] at literal
      exact prints_number literal stands.symm
    next => cases parsed

-- A double is read in two roundings, so one of many digits can come back as its neighbour.
example : ¬Double.ReadsBack ⟨false, ⟨8326049860549192, -13⟩⟩ := by decide +kernel

end Value

end GardenAdmin.Json
