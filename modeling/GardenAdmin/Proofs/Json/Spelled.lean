import GardenAdmin.Proofs.Json.Literal

/-!
# Texts that spell documents

A text `Spells` a document if it reads as that document wherever it stands. The text of an array or
an object is put together from the texts of its parts (`spells_array`, `spells_object`), with any
blanks between them.
-/

namespace GardenAdmin.Json

/-- The text reads as the document, and what follows is left over. -/
def Spells (cs : List Char) (d : Doc) : Prop :=
  ∀ fuel rest, Stops rest → 2 * cs.length ≤ fuel → readValue fuel (cs ++ rest) = (d, some rest)

/-- The text reads as these items and their closing bracket. -/
def SpellsItems (cs : List Char) (xs : List Doc) : Prop :=
  ∀ fuel rest, 2 * cs.length ≤ fuel → readItems fuel (cs ++ rest) = (xs, some rest)

/-- The text reads as a colon and the document. -/
def SpellsMemberValue (cs : List Char) (d : Doc) : Prop :=
  ∀ fuel rest, Stops rest → 2 * cs.length ≤ fuel →
    readMemberValue fuel (cs ++ rest) = (d, some rest)

/-- The text reads as these members and their closing brace. -/
def SpellsMembers (cs : List Char) (ms : List (Option String × Doc)) : Prop :=
  ∀ fuel rest, 2 * cs.length ≤ fuel → readMembers fuel (cs ++ rest) = (ms, some rest)

/-- The text, after an opening quote, reads as the string. -/
def SpellsString (cs : List Char) (s : Option String) : Prop :=
  ∀ rest, readString (cs ++ rest) = some (s, rest)

theorem Spells.read_ofList {cs : List Char} {d : Doc} (spells : Spells cs d) :
    JsonText.read (.ofList cs) = ⟨d, true⟩ := by
  have read := spells (fuelFor cs) [] Stops.nil (Nat.le_add_right ..)
  rw [List.append_nil] at read
  rw [JsonText.read, String.toList_ofList, read]
  rfl

example : JsonText.read "[null]" = ⟨.array [.null], true⟩ := by cbv

/-! ## Blanks -/

def Blanks (cs : List Char) : Prop := ∀ c ∈ cs, isSpace c

section

variable {bs cs rest : List Char} {c : Char}

theorem blanks_nil : Blanks [] := List.forall_mem_nil _

theorem skipSpace_cons (visible : isSpace c = false) (cs : List Char) :
    skipSpace (c :: cs) = c :: cs :=
  List.dropWhile_cons_of_neg (by simp [visible])

theorem skipSpace_append (blank : Blanks bs) (cs : List Char) :
    skipSpace (bs ++ cs) = skipSpace cs :=
  List.dropWhile_append_of_pos blank

/-- The first character that is not a blank. -/
theorem skipSpace_blanks (blank : Blanks bs) (visible : isSpace c = false) (cs : List Char) :
    skipSpace (bs ++ c :: cs) = c :: cs := by
  rw [skipSpace_append blank, skipSpace_cons visible]

theorem exists_blanks {next : List Char} (skip : skipSpace cs = next) :
    ∃ bs, Blanks bs ∧ cs = bs ++ next := by
  subst skip
  exact ⟨cs.takeWhile isSpace, List.all_eq_true.1 List.all_takeWhile,
    List.takeWhile_append_dropWhile.symm⟩

theorem stops_comma (cs : List Char) : Stops (',' :: cs) := by
  rintro _ ⟨⟩
  exact .inr (.inl rfl)

theorem stops_bracket (cs : List Char) : Stops (']' :: cs) := by
  rintro _ ⟨⟩
  exact .inr (.inr (.inl rfl))

theorem stops_brace (cs : List Char) : Stops ('\x7d' :: cs) := by
  rintro _ ⟨⟩
  exact .inr (.inr (.inr rfl))

theorem Stops.append (stops : Stops rest) (blank : Blanks bs) : Stops (bs ++ rest) := by
  cases bs with
  | nil => exact stops
  | cons b bs =>
    rintro _ ⟨⟩
    exact .inl (blank b (.head _))

end

/-! ## Values -/

section

variable {bs bs' cs cs' key : List Char} {d x : Doc} {s : Option String} {fuel n : Nat}

theorem exists_succ (pos : 0 < n) (enough : n ≤ fuel) : ∃ fuel', fuel = fuel' + 1 :=
  ⟨fuel - 1, by omega⟩

/-- Blanks before it do not change what a value reads as. -/
theorem readValue_congr (same : skipSpace cs = skipSpace cs') (fuel : Nat) :
    readValue fuel cs = readValue fuel cs' := by
  cases fuel with
  | zero => rfl
  | succ fuel => rw [readValue, readValue, same]

theorem Spells.of_blanks (spells : Spells cs d) (blank : Blanks bs) : Spells (bs ++ cs) d := by
  intro fuel rest stops enough
  rw [List.length_append] at enough
  rw [List.append_assoc, readValue_congr (skipSpace_append blank (cs ++ rest))]
  exact spells fuel rest stops (by omega)

theorem spells_null : Spells ['n', 'u', 'l', 'l'] .null := by
  intro fuel rest _ enough
  obtain ⟨fuel, rfl⟩ := exists_succ (by decide) enough
  rfl

theorem spells_true : Spells ['t', 'r', 'u', 'e'] (.bool true) := by
  intro fuel rest _ enough
  obtain ⟨fuel, rfl⟩ := exists_succ (by decide) enough
  rfl

theorem spells_false : Spells ['f', 'a', 'l', 's', 'e'] (.bool false) := by
  intro fuel rest _ enough
  obtain ⟨fuel, rfl⟩ := exists_succ (by decide) enough
  rfl

/-- A literal begins with its sign or its first digit. -/
theorem exists_first_of_readLiteral {l : Literal} {r : List Char}
    (read : readLiteral cs = some (l, r)) :
    ∃ c cs', cs = c :: cs' ∧ (c = '-' ∨ (GardenAdmin.Text.digit? c).isSome) := by
  cases cs with
  | nil => cases read
  | cons c cs =>
    refine ⟨c, cs, rfl, ?_⟩
    by_cases minus : c = '-'
    · exact .inl minus
    · right
      rw [readLiteral_eq, splitSign_of_ne minus, readWhole, readDigits1, readDigits] at read
      cases digit : GardenAdmin.Text.digit? c with
      | some d => rfl
      | none =>
        rw [digit] at read
        cases read

theorem readValue_of_readLiteral {l : Literal} {rest : List Char}
    (read : readLiteral cs = some (l, rest)) (fuel : Nat) :
    readValue (fuel + 1) cs = (.number l.number?, some rest) := by
  obtain ⟨c, cs, rfl, first⟩ := exists_first_of_readLiteral read
  have ne {d : Char} (other : d ≠ '-' ∧ GardenAdmin.Text.digit? d = none) : c ≠ d := by
    rintro rfl
    exact first.elim other.1 (by simp [other.2])
  have skip : skipSpace (c :: cs) = c :: cs := by
    refine skipSpace_cons ?_ cs
    simp [isSpace, ne (d := ' ') (by decide), ne (d := '\t') (by decide),
      ne (d := '\n') (by decide), ne (d := '\r') (by decide)]
  rw [readValue, skip]
  split
  case h_7 => rw [read]
  all_goals
    rename_i e
    cases e
    exact absurd rfl (ne (by decide))

theorem spells_literal {l : Literal} (read : readLiteral cs = some (l, [])) :
    Spells cs (.number l.number?) := by
  intro fuel rest stops enough
  obtain ⟨c, cs', e, -⟩ := exists_first_of_readLiteral read
  obtain ⟨fuel, rfl⟩ := exists_succ (by rw [e]; simp) enough
  refine readValue_of_readLiteral ?_ fuel
  rw [readLiteral_append stops, read]
  rfl

theorem spells_string (spells : SpellsString cs s) : Spells ('"' :: cs) (.string s) := by
  intro fuel rest _ enough
  obtain ⟨fuel, rfl⟩ := exists_succ (by simp) enough
  rw [List.cons_append, readValue, skipSpace_cons (c := '"') rfl]
  simp only [spells rest]

/-! ## Arrays -/

theorem spells_array_nil (blank : Blanks bs) : Spells ('[' :: (bs ++ [']'])) (.array []) := by
  intro fuel rest _ enough
  obtain ⟨fuel, rfl⟩ := exists_succ (by simp) enough
  have close : skipSpace (bs ++ [']'] ++ rest) = ']' :: rest := by
    rw [List.append_assoc]
    exact skipSpace_blanks blank rfl rest
  rw [List.cons_append, readValue, skipSpace_cons (c := '[') rfl]
  simp only [close]

/-- No item begins with a closing bracket. -/
theorem skipSpace_ne_bracket {xs : List Doc} (spells : SpellsItems cs xs) (rest cs' : List Char) :
    skipSpace (cs ++ rest) ≠ ']' :: cs' := by
  intro bracket
  have read := spells (2 * cs.length + 2) rest (Nat.le_add_right ..)
  rw [readItems, readValue, bracket] at read
  cases congrArg Prod.snd read

theorem spells_array {xs : List Doc} (spells : SpellsItems cs xs) :
    Spells ('[' :: cs) (.array xs) := by
  intro fuel rest _ enough
  rw [List.length_cons] at enough
  obtain ⟨fuel, rfl⟩ := exists_succ (by omega) enough
  rw [List.cons_append, readValue]
  simp only [skipSpace_cons (c := '[') rfl]
  split
  next bracket => exact absurd bracket (skipSpace_ne_bracket spells rest _)
  next => rw [spells fuel rest (by omega)]

theorem spellsItems_last (spells : Spells cs x) (blank : Blanks bs) :
    SpellsItems (cs ++ (bs ++ [']'])) [x] := by
  intro fuel rest enough
  simp only [List.length_append, List.length_singleton] at enough
  obtain ⟨fuel, rfl⟩ := exists_succ (by omega) enough
  have first := spells fuel (bs ++ ']' :: rest) ((stops_bracket rest).append blank) (by omega)
  simp only [List.append_assoc, List.singleton_append]
  rw [readItems, first]
  simp only [Option.map_some, skipSpace_blanks blank (c := ']') rfl]

theorem spellsItems_more {xs : List Doc} (spells : Spells cs x) (blank : Blanks bs)
    (more : SpellsItems cs' xs) : SpellsItems (cs ++ (bs ++ ',' :: cs')) (x :: xs) := by
  intro fuel rest enough
  simp only [List.length_append, List.length_cons] at enough
  obtain ⟨fuel, rfl⟩ := exists_succ (by omega) enough
  have first := spells fuel (bs ++ ',' :: (cs' ++ rest)) ((stops_comma _).append blank) (by omega)
  simp only [List.append_assoc, List.cons_append]
  rw [readItems, first]
  simp only [Option.map_some, skipSpace_blanks blank (c := ',') rfl, more fuel rest (by omega)]

/-! ## Objects -/

theorem spells_object_nil (blank : Blanks bs) :
    Spells ('\x7b' :: (bs ++ ['\x7d'])) (.object []) := by
  intro fuel rest _ enough
  obtain ⟨fuel, rfl⟩ := exists_succ (by simp) enough
  have close : skipSpace (bs ++ ['\x7d'] ++ rest) = '\x7d' :: rest := by
    rw [List.append_assoc]
    exact skipSpace_blanks blank rfl rest
  rw [List.cons_append, readValue, skipSpace_cons (c := '\x7b') rfl]
  simp only [close]

/-- No member begins with a closing brace. -/
theorem skipSpace_ne_brace {ms : List (Option String × Doc)} (spells : SpellsMembers cs ms)
    (rest cs' : List Char) : skipSpace (cs ++ rest) ≠ '\x7d' :: cs' := by
  intro brace
  have read := spells (2 * cs.length + 1) rest (Nat.le_add_right ..)
  rw [readMembers, brace] at read
  cases congrArg Prod.snd read

theorem spells_object {ms : List (Option String × Doc)} (spells : SpellsMembers cs ms) :
    Spells ('\x7b' :: cs) (.object ms) := by
  intro fuel rest _ enough
  rw [List.length_cons] at enough
  obtain ⟨fuel, rfl⟩ := exists_succ (by omega) enough
  rw [List.cons_append, readValue]
  simp only [skipSpace_cons (c := '\x7b') rfl]
  split
  next brace => exact absurd brace (skipSpace_ne_brace spells rest _)
  next => rw [spells fuel rest (by omega)]

theorem spellsMemberValue_colon (blank : Blanks bs) (spells : Spells cs d) :
    SpellsMemberValue (bs ++ ':' :: cs) d := by
  intro fuel rest stops enough
  simp only [List.length_append, List.length_cons] at enough
  obtain ⟨fuel, rfl⟩ := exists_succ (by omega) enough
  rw [List.append_assoc, readMemberValue, List.cons_append, skipSpace_blanks blank (c := ':') rfl]
  exact spells fuel rest stops (by omega)

theorem spellsMembers_last (before : Blanks bs) (name : SpellsString key s)
    (value : SpellsMemberValue cs x) (blank : Blanks bs') :
    SpellsMembers (bs ++ '"' :: (key ++ (cs ++ (bs' ++ ['\x7d'])))) [(s, x)] := by
  intro fuel rest enough
  simp only [List.length_append, List.length_cons] at enough
  obtain ⟨fuel, rfl⟩ := exists_succ (by omega) enough
  have first := value fuel (bs' ++ '\x7d' :: rest) ((stops_brace rest).append blank) (by omega)
  simp only [List.append_assoc, List.cons_append, List.nil_append]
  rw [readMembers, skipSpace_blanks before (c := '"') rfl]
  simp only [name _, first, Option.map_some, skipSpace_blanks blank (c := '\x7d') rfl]

theorem spellsMembers_more {ms : List (Option String × Doc)} (before : Blanks bs)
    (name : SpellsString key s) (value : SpellsMemberValue cs x) (blank : Blanks bs')
    (more : SpellsMembers cs' ms) :
    SpellsMembers (bs ++ '"' :: (key ++ (cs ++ (bs' ++ ',' :: cs')))) ((s, x) :: ms) := by
  intro fuel rest enough
  simp only [List.length_append, List.length_cons] at enough
  obtain ⟨fuel, rfl⟩ := exists_succ (by omega) enough
  have first := value fuel (bs' ++ ',' :: (cs' ++ rest)) ((stops_comma _).append blank) (by omega)
  simp only [List.append_assoc, List.cons_append]
  rw [readMembers, skipSpace_blanks before (c := '"') rfl]
  simp only [name _, first, Option.map_some, skipSpace_blanks blank (c := ',') rfl,
    more fuel rest (by omega)]

end

end GardenAdmin.Json
