import GardenAdmin.Proofs.Json.Canonical

/-!
# The text of a part

What is read as an item or as the value of a member is a piece of the text that reads as that part by
itself (`exists_text_of_mem_parts`). A value that a text denotes has a text of its own that writes it
(`exists_text_of_value?`); this holds for any double, since its literal can be kept.
-/

namespace GardenAdmin.Json

/-! ## Strings and literals -/

theorem exists_of_readPieces {cs rest : List Char} {ps : List Piece}
    (read : readPieces cs = some (ps, rest)) :
    ∃ own, cs = own ++ rest ∧ ∀ more, readPieces (own ++ more) = some (ps, more) := by
  induction cs using readPieces.induct generalizing ps with
  | case1 => cases read
  | case2 cs =>
    cases read
    exact ⟨['"'], rfl, fun more => rfl⟩
  | case3 a b c d cs ih =>
    rw [readPieces] at read
    obtain ⟨n, code, read⟩ := Option.bind_eq_some_iff.1 read
    obtain ⟨⟨qs, rest⟩, later, e⟩ := Option.bind_eq_some_iff.1 read
    cases e
    obtain ⟨own, rfl, again⟩ := ih later
    refine ⟨'\\' :: 'u' :: a :: b :: c :: d :: own, rfl, fun more => ?_⟩
    simp only [List.cons_append, readPieces, code, again]
    rfl
  | case4 e cs other ih =>
    rw [readPieces] at read
    · obtain ⟨c, code, read⟩ := Option.bind_eq_some_iff.1 read
      obtain ⟨⟨qs, rest⟩, later, e⟩ := Option.bind_eq_some_iff.1 read
      cases e
      obtain ⟨own, rfl, again⟩ := ih later
      have short : e ≠ 'u' := by
        rintro rfl
        cases code
      refine ⟨'\\' :: e :: own, rfl, fun more => ?_⟩
      rw [List.cons_append, List.cons_append, readPieces_escape short code, again]
      rfl
    · exact other
  | case5 c cs quote unit escape control =>
    rw [readPieces, if_pos control] at read
    · cases read
    · exact quote
    · exact unit
    · exact escape
  | case6 c cs quote unit escape printable ih =>
    rw [readPieces, if_neg printable] at read
    · obtain ⟨⟨qs, rest⟩, later, e⟩ := Option.bind_eq_some_iff.1 read
      cases e
      obtain ⟨own, rfl, again⟩ := ih later
      obtain ⟨visible, backslash⟩ : ¬c.toNat < 0x20 ∧ c ≠ '\\' := by simpa using printable
      refine ⟨c :: own, rfl, fun more => ?_⟩
      rw [List.cons_append, readPieces_plain quote backslash visible, again]
      rfl
    · exact quote
    · exact unit
    · exact escape

theorem exists_of_readString {cs rest : List Char} {s : Option String}
    (read : readString cs = some (s, rest)) : ∃ own, cs = own ++ rest ∧ SpellsString own s := by
  obtain ⟨⟨ps, rest⟩, pieces, e⟩ := Option.bind_eq_some_iff.1 read
  cases e
  obtain ⟨own, rfl, again⟩ := exists_of_readPieces pieces
  refine ⟨own, rfl, fun more => ?_⟩
  rw [readString, again]
  rfl

theorem exists_of_readLiteral {cs rest : List Char} {l : Literal} (stops : Stops rest)
    (read : readLiteral cs = some (l, rest)) :
    ∃ own, cs = own ++ rest ∧ readLiteral own = some (l, []) := by
  obtain ⟨own, rfl⟩ := readLiteral_suffix read
  rw [readLiteral_append stops] at read
  obtain ⟨⟨l', left⟩, alone, e⟩ := Option.map_eq_some_iff.1 read
  obtain ⟨rfl, rest'⟩ := Prod.mk.inj e
  obtain rfl : left = [] := List.append_left_eq_self.1 rest'
  exact ⟨own, rfl, alone⟩

/-! ## Values -/

/-- The items of an array and the values of the members of an object. -/
def Doc.parts : Doc → List Doc
  | .array xs => xs
  | .object ms => ms.map Prod.snd
  | .null | .bool _ | .number _ | .string _ | .broken => []

/-- Each of the documents is spelled by a piece of the text. -/
def Holds (cs : List Char) (ds : List Doc) : Prop :=
  ∀ d ∈ ds, ∃ piece, piece <:+: cs ∧ Spells piece d

theorem holds_nil {cs : List Char} : Holds cs [] := List.forall_mem_nil _

theorem Holds.mono {cs cs' : List Char} {ds : List Doc} (h : Holds cs ds) (inside : cs <:+: cs') :
    Holds cs' ds := by
  intro d mem
  obtain ⟨piece, here, spells⟩ := h d mem
  exact ⟨piece, here.trans inside, spells⟩

theorem Spells.holds {cs : List Char} {d : Doc} (spells : Spells cs d) : Holds cs [d] :=
  List.forall_mem_singleton.2 ⟨cs, List.infix_rfl, spells⟩

theorem Holds.cons {cs : List Char} {d : Doc} {ds : List Doc} (first : Holds cs [d])
    (others : Holds cs ds) : Holds cs (d :: ds) :=
  List.forall_mem_cons.2 ⟨first d (.head _), others⟩

/-- What each reader takes off the front spells what it reads, by induction on the fuel that they
share. -/
structure TakesText (fuel : Nat) : Prop where
  value : ∀ {cs d rest}, Stops rest → readValue fuel cs = (d, some rest) →
    ∃ own, cs = own ++ rest ∧ Spells own d ∧ Holds own d.parts
  items : ∀ {cs xs rest}, readItems fuel cs = (xs, some rest) →
    ∃ own, cs = own ++ rest ∧ SpellsItems own xs ∧ Holds own xs
  memberValue : ∀ {cs d rest}, Stops rest → readMemberValue fuel cs = (d, some rest) →
    ∃ own, cs = own ++ rest ∧ SpellsMemberValue own d ∧ Holds own [d]
  members : ∀ {cs ms rest}, readMembers fuel cs = (ms, some rest) →
    ∃ own, cs = own ++ rest ∧ SpellsMembers own ms ∧ Holds own (ms.map Prod.snd)

namespace TakesText

variable {fuel : Nat} {cs own rest : List Char} {d : Doc} {xs : List Doc}
  {ms : List (Option String × Doc)}

theorem exists_blanks_of_map {r : Option (List Char)} {next : List Char}
    (skip : r.map skipSpace = some next) : ∃ bs, Blanks bs ∧ r = some (bs ++ next) := by
  obtain ⟨cs, rfl, skipped⟩ := Option.map_eq_some_iff.1 skip
  obtain ⟨bs, blank, rfl⟩ := exists_blanks skipped
  exact ⟨bs, blank, rfl⟩

theorem zero : TakesText 0 where
  value _ read := by cases congrArg Prod.snd read
  items read := by cases congrArg Prod.snd read
  memberValue _ read := by cases congrArg Prod.snd read
  members read := by cases congrArg Prod.snd read

/-- The blanks in front belong to the text of the value. -/
theorem of_skipSpace (text : skipSpace cs = own ++ rest) (spells : Spells own d)
    (parts : Holds own d.parts) :
    ∃ own, cs = own ++ rest ∧ Spells own d ∧ Holds own d.parts := by
  obtain ⟨bs, blank, rfl⟩ := exists_blanks text
  exact ⟨bs ++ own, (List.append_assoc ..).symm, spells.of_blanks blank,
    parts.mono (List.suffix_append bs own).isInfix⟩

theorem readValue_succ (ih : TakesText fuel) (stops : Stops rest)
    (read : readValue (fuel + 1) cs = (d, some rest)) :
    ∃ own, cs = own ++ rest ∧ Spells own d ∧ Holds own d.parts := by
  rw [readValue] at read
  split at read
  next text =>
    cases read
    exact of_skipSpace text spells_null holds_nil
  next text =>
    cases read
    exact of_skipSpace text spells_true holds_nil
  next text =>
    cases read
    exact of_skipSpace text spells_false holds_nil
  next text =>
    split at read
    next s r string =>
      cases read
      obtain ⟨own, rfl, spells⟩ := exists_of_readString string
      exact of_skipSpace text (spells_string spells) holds_nil
    next => cases read
  next tail text =>
    split at read
    next r bracket =>
      cases read
      obtain ⟨bs, blank, rfl⟩ := exists_blanks bracket
      exact of_skipSpace (by simpa using text) (spells_array_nil blank) holds_nil
    next =>
      cases items : readItems fuel tail with
      | mk xs r =>
        rw [items] at read
        cases read
        obtain ⟨own, rfl, spells, parts⟩ := ih.items items
        exact of_skipSpace text (spells_array spells) (parts.mono (List.suffix_cons _ own).isInfix)
  next tail text =>
    split at read
    next r brace =>
      cases read
      obtain ⟨bs, blank, rfl⟩ := exists_blanks brace
      exact of_skipSpace (by simpa using text) (spells_object_nil blank) holds_nil
    next =>
      cases members : readMembers fuel tail with
      | mk ms r =>
        rw [members] at read
        cases read
        obtain ⟨own, rfl, spells, parts⟩ := ih.members members
        exact of_skipSpace text (spells_object spells) (parts.mono (List.suffix_cons _ own).isInfix)
  next =>
    split at read
    next l r literal =>
      cases read
      obtain ⟨own, text, alone⟩ := exists_of_readLiteral stops literal
      exact of_skipSpace text (spells_literal alone) holds_nil
    next => cases read

theorem readItems_succ (ih : TakesText fuel) (read : readItems (fuel + 1) cs = (xs, some rest)) :
    ∃ own, cs = own ++ rest ∧ SpellsItems own xs ∧ Holds own xs := by
  rw [readItems] at read
  cases value : readValue fuel cs with
  | mk x r =>
    rw [value] at read
    dsimp only at read
    split at read
    next tail comma =>
      obtain ⟨bs, blank, rfl⟩ := exists_blanks_of_map comma
      obtain ⟨own, rfl, spells, -⟩ := ih.value ((stops_comma tail).append blank) value
      cases items : readItems fuel tail with
      | mk xs r =>
        rw [items] at read
        cases read
        obtain ⟨own', rfl, more, parts⟩ := ih.items items
        have first : own <:+: own ++ (bs ++ ',' :: own') := (List.prefix_append ..).isInfix
        have later : own' <:+: own ++ (bs ++ ',' :: own') := ⟨own ++ (bs ++ [',']), [], by simp⟩
        refine ⟨_, ?_, spellsItems_more spells blank more,
          (spells.holds.mono first).cons (parts.mono later)⟩
        simp
    next tail bracket =>
      obtain ⟨bs, blank, rfl⟩ := exists_blanks_of_map bracket
      obtain ⟨own, rfl, spells, -⟩ := ih.value ((stops_bracket tail).append blank) value
      cases read
      refine ⟨_, ?_, spellsItems_last spells blank,
        spells.holds.mono (List.prefix_append ..).isInfix⟩
      simp
    next => cases read

theorem readMemberValue_succ (ih : TakesText fuel) (stops : Stops rest)
    (read : readMemberValue (fuel + 1) cs = (d, some rest)) :
    ∃ own, cs = own ++ rest ∧ SpellsMemberValue own d ∧ Holds own [d] := by
  rw [readMemberValue] at read
  split at read
  next tail colon =>
    obtain ⟨own, rfl, spells, -⟩ := ih.value stops read
    obtain ⟨bs, blank, rfl⟩ := exists_blanks colon
    have inside : own <:+: bs ++ ':' :: own := ⟨bs ++ [':'], [], by simp⟩
    refine ⟨_, ?_, spellsMemberValue_colon blank spells, spells.holds.mono inside⟩
    simp
  next => cases read

theorem readMembers_succ (ih : TakesText fuel)
    (read : readMembers (fuel + 1) cs = (ms, some rest)) :
    ∃ own, cs = own ++ rest ∧ SpellsMembers own ms ∧ Holds own (ms.map Prod.snd) := by
  rw [readMembers] at read
  split at read
  next tail quote =>
    obtain ⟨before, blanks, rfl⟩ := exists_blanks quote
    split at read
    next k tail' name =>
      obtain ⟨key, rfl, named⟩ := exists_of_readString name
      cases value : readMemberValue fuel tail' with
      | mk x r =>
        rw [value] at read
        dsimp only at read
        split at read
        next tail comma =>
          obtain ⟨bs, blank, rfl⟩ := exists_blanks_of_map comma
          obtain ⟨own, rfl, spells, first⟩ := ih.memberValue ((stops_comma tail).append blank) value
          cases members : readMembers fuel tail with
          | mk ms r =>
            rw [members] at read
            cases read
            obtain ⟨own', rfl, more, parts⟩ := ih.members members
            have here : own <:+: before ++ '"' :: (key ++ (own ++ (bs ++ ',' :: own'))) :=
              ⟨before ++ '"' :: key, bs ++ ',' :: own', by simp⟩
            have later : own' <:+: before ++ '"' :: (key ++ (own ++ (bs ++ ',' :: own'))) :=
              ⟨before ++ '"' :: (key ++ (own ++ (bs ++ [',']))), [], by simp⟩
            refine ⟨_, ?_, spellsMembers_more blanks named spells blank more,
              (first.mono here).cons (parts.mono later)⟩
            simp
        next tail brace =>
          obtain ⟨bs, blank, rfl⟩ := exists_blanks_of_map brace
          obtain ⟨own, rfl, spells, first⟩ := ih.memberValue ((stops_brace tail).append blank) value
          cases read
          have here : own <:+: before ++ '"' :: (key ++ (own ++ (bs ++ ['\x7d']))) :=
            ⟨before ++ '"' :: key, bs ++ ['\x7d'], by simp⟩
          refine ⟨_, ?_, spellsMembers_last blanks named spells blank, first.mono here⟩
          simp
        next => cases read
    next => cases read
  next => cases read

theorem all (fuel : Nat) : TakesText fuel := by
  induction fuel with
  | zero => exact zero
  | succ fuel ih =>
    exact ⟨ih.readValue_succ, ih.readItems_succ, ih.readMemberValue_succ, ih.readMembers_succ⟩

end TakesText

/-! ## Texts -/

theorem Spells.holds_parts {cs : List Char} {d : Doc} (spells : Spells cs d) : Holds cs d.parts := by
  have read := spells (2 * cs.length) [] Stops.nil (Nat.le_refl _)
  obtain ⟨own, text, -, parts⟩ := (TakesText.all _).value Stops.nil read
  rw [List.append_cancel_right text]
  exact parts

theorem exists_spells_of_read {s : String} (whole : (JsonText.read s).isWhole) :
    ∃ own, own <+: s.toList ∧ Spells own (JsonText.read s).doc := by
  rw [JsonText.read] at whole ⊢
  cases read : readValue (fuelFor s.toList) s.toList with
  | mk doc rest =>
    rw [read] at whole
    obtain ⟨r, rfl, ends⟩ := (Option.any_eq_true ..).1 whole
    obtain ⟨bs, blank, rfl⟩ := exists_blanks (List.isEmpty_iff.1 ends)
    obtain ⟨own, text, spells, -⟩ := (TakesText.all _).value (Stops.nil.append blank) read
    exact ⟨own, ⟨_, text.symm⟩, spells⟩

/-- Each part of a text is a text by itself. -/
theorem exists_text_of_mem_parts {s : String} (whole : (JsonText.read s).isWhole) {d : Doc}
    (mem : d ∈ (JsonText.read s).doc.parts) :
    ∃ t : String, t.toList <:+: s.toList ∧ JsonText.read t = ⟨d, true⟩ := by
  obtain ⟨own, front, spells⟩ := exists_spells_of_read whole
  obtain ⟨piece, inside, spells⟩ := spells.holds_parts d mem
  refine ⟨.ofList piece, ?_, spells.read_ofList⟩
  rw [String.toList_ofList]
  exact inside.trans front.isInfix

/-! ## Texts of values -/

namespace Value

theorem exists_spellsItems {x : Value} {xs : List Value}
    (each : ∀ y ∈ x :: xs, ∃ cs, Spells cs y.toDoc) : ∃ cs, SpellsItems cs (toDocs (x :: xs)) := by
  obtain ⟨cs, spells⟩ := each x (.head _)
  induction xs generalizing x cs with
  | nil => exact ⟨_, spellsItems_last spells blanks_nil⟩
  | cons y ys ih =>
    obtain ⟨cs', spells'⟩ := each y (.tail _ (.head _))
    obtain ⟨more, others⟩ := ih (fun z mem => each z (.tail _ mem)) cs' spells'
    exact ⟨_, spellsItems_more spells blanks_nil others⟩

theorem exists_spells_array {xs : List Value} (each : ∀ x ∈ xs, ∃ cs, Spells cs x.toDoc) :
    ∃ cs, Spells cs (Value.array xs).toDoc := by
  cases xs with
  | nil => exact ⟨_, spells_array_nil blanks_nil⟩
  | cons x xs =>
    obtain ⟨cs, items⟩ := exists_spellsItems each
    exact ⟨_, spells_array items⟩

theorem exists_spellsMembers {m : String × Value} {ms : List (String × Value)}
    (each : ∀ n ∈ m :: ms, ∃ cs, Spells cs n.2.toDoc) :
    ∃ cs, SpellsMembers cs (toDocMembers (m :: ms)) := by
  obtain ⟨cs, spells⟩ := each m (.head _)
  have value := spellsMemberValue_colon blanks_nil spells
  induction ms generalizing m cs with
  | nil => exact ⟨_, spellsMembers_last blanks_nil (spellsString_escape m.1) value blanks_nil⟩
  | cons n ms ih =>
    obtain ⟨cs', spells'⟩ := each n (.tail _ (.head _))
    obtain ⟨more, others⟩ := ih (fun k mem => each k (.tail _ mem)) cs' spells'
      (spellsMemberValue_colon blanks_nil spells')
    exact ⟨_, spellsMembers_more blanks_nil (spellsString_escape m.1) value blanks_nil others⟩

theorem exists_spells_object {ms : List (String × Value)}
    (each : ∀ m ∈ ms, ∃ cs, Spells cs m.2.toDoc) : ∃ cs, Spells cs (Value.object ms).toDoc := by
  cases ms with
  | nil => exact ⟨_, spells_object_nil blanks_nil⟩
  | cons m ms =>
    obtain ⟨cs, members⟩ := exists_spellsMembers each
    exact ⟨_, spells_object members⟩

end Value

theorem exists_spells_of_value? {room : Nat} {d : Doc} (proper : d.Proper) {cs : List Char}
    (spells : Spells cs d) {v : Value} (denotes : d.value? room = some v) :
    ∃ cs, Spells cs v.toDoc := by
  induction proper generalizing room v cs with
  | null | bool =>
    cases denotes
    exact ⟨cs, spells⟩
  | number =>
    obtain ⟨n, rfl, rfl⟩ := Option.map_eq_some_iff.1 denotes
    exact ⟨cs, spells⟩
  | string =>
    obtain ⟨s, rfl, rfl⟩ := Option.map_eq_some_iff.1 denotes
    exact ⟨cs, spells⟩
  | array _ ih =>
    cases room with
    | zero => cases denotes
    | succ room =>
      obtain ⟨vs, items, rfl⟩ := Option.map_eq_some_iff.1 denotes
      refine Value.exists_spells_array (forall_of_items? (fun x mem v value => ?_) items)
      obtain ⟨piece, -, spells⟩ := spells.holds_parts x mem
      exact ih x mem spells value
  | object _ ih =>
    cases room with
    | zero => cases denotes
    | succ room =>
      obtain ⟨out, members, rfl⟩ := Option.map_eq_some_iff.1 denotes
      have none : (([] : List (String × Value)).map Prod.fst).Nodup := List.nodup_nil
      refine Value.exists_spells_object (forall_of_members? (fun m mem k v _ value => ?_) none
        (List.forall_mem_nil _) members).2
      obtain ⟨piece, -, spells⟩ := spells.holds_parts m.2 (List.mem_map_of_mem mem)
      exact ih m mem spells value
  | broken => cases denotes

/-- The value that a text denotes is written by a text. -/
theorem exists_text_of_value? {room : Nat} {t : String} (whole : (JsonText.read t).isWhole)
    {v : Value} (denotes : (JsonText.read t).doc.value? room = some v) :
    ∃ t', JsonText.read t' = ⟨v.toDoc, true⟩ := by
  obtain ⟨own, -, spells⟩ := exists_spells_of_read whole
  obtain ⟨cs, spells⟩ := exists_spells_of_value? (proper_read t) spells denotes
  exact ⟨.ofList cs, spells.read_ofList⟩

end GardenAdmin.Json
