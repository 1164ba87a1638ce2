import GardenAdmin.Json.Reader
import GardenAdmin.Text.Percent
import Mathlib.Data.List.TakeWhile

/-!
# Query parameters

A server takes the query of a URL apart at every `&` and decodes what stands behind the name of a
parameter (`Text.parameter?`). A text that was put there as it is comes back only as far as it has
neither `&` nor `#`, and unchanged exactly if it has no escape either
(`Text.percentDecode_takeWhile_eq_iff`).
-/

namespace GardenAdmin.Text

open Json

/-- The bytes that characters are encoded with. -/
abbrev encoded (cs : List Char) : List UInt8 := cs.flatMap String.utf8EncodeChar

/-- The bytes that a percent-encoded text stands for. A `%` without its two digits stands for
itself. -/
def percentDecode : List Char → List UInt8
  | '%' :: h :: l :: cs =>
    match hexDigit? h, hexDigit? l with
    | some high, some low => UInt8.ofNat (16 * high + low) :: percentDecode cs
    | _, _ => String.utf8EncodeChar '%' ++ percentDecode (h :: l :: cs)
  | c :: cs => String.utf8EncodeChar c ++ percentDecode cs
  | [] => []

/-- Somewhere a `%` has its two digits. -/
def HasEscape (cs : List Char) : Prop :=
  ∃ h l, (hexDigit? h).isSome ∧ (hexDigit? l).isSome ∧ ['%', h, l] <:+: cs

/-- What follows the first `?` of a URL, up to a `#`. -/
def query? (url : String) : Option (List Char) :=
  match url.toList.dropWhile (· ≠ '?') with
  | [] => none
  | _ :: rest => some (rest.takeWhile (· ≠ '#'))

/-- The value of a parameter of that name. -/
def value? (name : String) (parameter : List Char) : Option (List UInt8) :=
  if parameter.takeWhile (· ≠ '=') = name.toList then
    some (percentDecode ((parameter.dropWhile (· ≠ '=')).drop 1))
  else none

/-- The value of the first parameter of that name in a URL. -/
def parameter? (name url : String) : Option (List UInt8) := do
  ((← query? url).splitOn '&').findSome? (value? name)

/-! ## Decoding -/

/-- An escape stands in front or behind the first character. -/
theorem hasEscape_cons_iff {c : Char} {cs : List Char} : HasEscape (c :: cs) ↔
    (∃ h l, (hexDigit? h).isSome ∧ (hexDigit? l).isSome ∧ ['%', h, l] <+: c :: cs) ∨
      HasEscape cs := by
  unfold HasEscape
  simp only [List.infix_cons_iff, and_or_left, exists_or]

theorem length_encoded_cons (c : Char) (cs : List Char) : (encoded (c :: cs)).length =
    (String.utf8EncodeChar c).length + (encoded cs).length := List.length_append

theorem lt_length_encoded_cons (c : Char) (cs : List Char) :
    (encoded cs).length < (encoded (c :: cs)).length := by
  have := List.length_pos_iff.2 (String.utf8EncodeChar_ne_nil (c := c))
  rw [length_encoded_cons]
  omega

theorem length_percentDecode_le (cs : List Char) :
    (percentDecode cs).length ≤ (encoded cs).length := by
  fun_induction percentDecode cs with
  | case1 h l cs high low hl hh ih =>
    have first := lt_length_encoded_cons '%' (h :: l :: cs)
    have second := lt_length_encoded_cons h (l :: cs)
    have third := lt_length_encoded_cons l cs
    rw [List.length_cons]
    omega
  | case2 h l cs none ih =>
    rw [List.length_append, length_encoded_cons]
    exact Nat.add_le_add_left ih _
  | case3 c cs other ih =>
    rw [List.length_append, length_encoded_cons]
    exact Nat.add_le_add_left ih _
  | case4 => exact Nat.le_refl 0

/-- An escape is decoded to less than it is encoded with, so only a text without one is decoded to
its own bytes. -/
theorem percentDecode_eq_iff {cs : List Char} : percentDecode cs = encoded cs ↔ ¬HasEscape cs := by
  fun_induction percentDecode cs with
  | case1 h l cs high low hl hh ih =>
    constructor
    · intro same
      have first := lt_length_encoded_cons '%' (h :: l :: cs)
      have second := lt_length_encoded_cons h (l :: cs)
      have third := lt_length_encoded_cons l cs
      have shorter := length_percentDecode_le cs
      rw [← same, List.length_cons] at first
      omega
    · intro none
      refine absurd (hasEscape_cons_iff.2 (.inl ⟨h, l, ?_, ?_, cs, rfl⟩)) none
      · rw [hh]; rfl
      · rw [hl]; rfl
  | case2 h l cs none ih =>
    have noneHere : ¬∃ h' l', (hexDigit? h').isSome ∧ (hexDigit? l').isSome ∧
        ['%', h', l'] <+: '%' :: h :: l :: cs := by
      rintro ⟨h', l', high, low, rest, eq⟩
      cases eq
      obtain ⟨_, hh⟩ := Option.isSome_iff_exists.1 high
      obtain ⟨_, hl⟩ := Option.isSome_iff_exists.1 low
      exact none _ _ hh hl
    rw [hasEscape_cons_iff, or_iff_right noneHere, ← ih]
    exact List.append_right_inj _
  | case3 c cs other ih =>
    have noneHere : ¬∃ h l, (hexDigit? h).isSome ∧ (hexDigit? l).isSome ∧
        ['%', h, l] <+: c :: cs := by
      rintro ⟨h, l, -, -, rest, eq⟩
      cases eq
      exact other h l rest rfl rfl
    rw [hasEscape_cons_iff, or_iff_right noneHere, ← ih]
    exact List.append_right_inj _
  | case4 =>
    refine iff_of_true rfl ?_
    rintro ⟨h, l, -, -, part⟩
    cases List.infix_nil.1 part

/-- What comes before the first of some characters is decoded to all of the text exactly if none of
them and no escape is in it. -/
theorem percentDecode_takeWhile_eq_iff {p : Char → Bool} {cs : List Char} :
    percentDecode (cs.takeWhile p) = encoded cs ↔ (∀ c ∈ cs, p c) ∧ ¬HasEscape cs := by
  constructor
  · intro same
    have parts : encoded cs = encoded (cs.takeWhile p) ++ encoded (cs.dropWhile p) := by
      rw [← List.flatMap_append, List.takeWhile_append_dropWhile]
    have nothing : cs.dropWhile p = [] := by
      cases rest : cs.dropWhile p with
      | nil => rfl
      | cons c rest' =>
        have shorter := length_percentDecode_le (cs.takeWhile p)
        have more := lt_length_encoded_cons c rest'
        rw [same, parts, rest, List.length_append] at shorter
        omega
    have whole : cs.takeWhile p = cs := by
      rw [← List.append_nil (cs.takeWhile p), ← nothing, List.takeWhile_append_dropWhile]
    rw [whole] at same
    exact ⟨List.takeWhile_eq_self_iff.1 whole, percentDecode_eq_iff.1 same⟩
  · rintro ⟨all, none⟩
    rw [List.takeWhile_eq_self_iff.2 all]
    exact percentDecode_eq_iff.2 none

/-! ## Parameters -/

theorem forall_ne_of_not_mem {c : Char} {cs : List Char} (apart : c ∉ cs) :
    ∀ d ∈ cs, decide (d ≠ c) = true := fun _ mem => decide_eq_true fun e => apart (e ▸ mem)

/-- A text up to the first character of a kind. -/
theorem takeWhile_ne_append {c : Char} {front : List Char} (apart : c ∉ front) (rest : List Char) :
    (front ++ rest).takeWhile (· ≠ c) = front ++ rest.takeWhile (· ≠ c) :=
  List.takeWhile_append_of_pos (forall_ne_of_not_mem apart)

theorem dropWhile_ne_append_cons {c : Char} {front : List Char} (apart : c ∉ front)
    (rest : List Char) : (front ++ c :: rest).dropWhile (· ≠ c) = c :: rest := by
  rw [List.dropWhile_append_of_pos (forall_ne_of_not_mem apart),
    List.dropWhile_cons_of_neg (by simp)]

theorem exists_splitOn_eq (c : Char) (cs : List Char) :
    ∃ more, cs.splitOn c = cs.takeWhile (· ≠ c) :: more := by
  by_cases mem : c ∈ cs
  · obtain ⟨first, rest, rfl, apart⟩ := List.eq_append_cons_of_mem mem
    refine ⟨rest.splitOn c, ?_⟩
    rw [List.splitOn_append_cons_self_of_not_mem apart, takeWhile_ne_append apart,
      List.takeWhile_cons_of_neg (by simp), List.append_nil]
  · exact ⟨[], by rw [List.splitOn_eq_singleton mem,
      List.takeWhile_eq_self_iff.2 (forall_ne_of_not_mem mem)]⟩

theorem query?_append {front : List Char} (noQuery : '?' ∉ front) (rest : List Char) :
    query? (.ofList (front ++ '?' :: rest)) = some (rest.takeWhile (· ≠ '#')) := by
  rw [query?, String.toList_ofList, dropWhile_ne_append_cons noQuery]

theorem value?_append {name : String} (plain : '=' ∉ name.toList) (cs : List Char) :
    value? name (name.toList ++ '=' :: cs) = some (percentDecode cs) := by
  rw [value?, takeWhile_ne_append plain, dropWhile_ne_append_cons plain,
    List.takeWhile_cons_of_neg (by simp), List.append_nil, if_pos rfl]
  rfl

/-- A text behind the name of the first parameter is read up to the first `&` or `#`. -/
theorem parameter?_append {front : List Char} {name : String} (noQuery : '?' ∉ front)
    (plain : ∀ c ∈ name.toList, c ≠ '#' ∧ c ≠ '&' ∧ c ≠ '=') (cs : List Char) :
    parameter? name (.ofList (front ++ '?' :: (name.toList ++ '=' :: cs))) =
      some (percentDecode (cs.takeWhile fun c => c ≠ '&' ∧ c ≠ '#')) := by
  have upTo (d : Char) (other : '=' ≠ d) (apart : d ∉ name.toList) (cs : List Char) :
      (name.toList ++ '=' :: cs).takeWhile (· ≠ d) =
        name.toList ++ '=' :: cs.takeWhile (· ≠ d) := by
    rw [takeWhile_ne_append apart, List.takeWhile_cons_of_pos (by simpa using other)]
  have query := query?_append noQuery (name.toList ++ '=' :: cs)
  rw [upTo '#' (by decide) fun mem => (plain _ mem).1 rfl] at query
  obtain ⟨more, parts⟩ := exists_splitOn_eq '&' (name.toList ++ '=' :: cs.takeWhile (· ≠ '#'))
  rw [upTo '&' (by decide) fun mem => (plain _ mem).2.1 rfl, List.takeWhile_takeWhile] at parts
  simp only [decide_eq_true_eq] at parts
  have value := value?_append (fun mem => (plain _ mem).2.2 rfl)
    (cs.takeWhile fun c => c ≠ '&' ∧ c ≠ '#')
  simp only [parameter?, query, Option.bind_eq_bind, Option.bind_some, parts, List.findSome?_cons,
    value]

end GardenAdmin.Text
