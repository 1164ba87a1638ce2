import GardenAdmin.Text.Blank

/-!
# Trimmed texts

A text without the blanks at its ends neither begins nor ends with a blank, and nothing but blanks is
taken away (`Text.trims_trim`).
-/

namespace GardenAdmin.Text

/-- The text `t` is `s` without the blanks at both ends. -/
structure Trims (s t : String) : Prop where
  parts : ∃ front back, s.toList = front ++ t.toList ++ back ∧
    (∀ c ∈ front, isBlank c) ∧ ∀ c ∈ back, isBlank c
  first : ∀ c, t.toList.head? = some c → isBlank c = false
  last : ∀ c, t.toList.getLast? = some c → isBlank c = false

variable {cs : List Char} {c : Char}

theorem trimEnd_append (cs : List Char) :
    trimEnd cs ++ (cs.reverse.takeWhile isBlank).reverse = cs := by
  rw [trimEnd, trimStart, ← List.reverse_append, List.takeWhile_append_dropWhile,
    List.reverse_reverse]

theorem isBlank_getLast_trimEnd (last : (trimEnd cs).getLast? = some c) : isBlank c = false := by
  rw [trimEnd, List.getLast?_reverse] at last
  exact isBlank_head_trimStart last

theorem head?_of_trimEnd (first : (trimEnd cs).head? = some c) : cs.head? = some c := by
  rw [← trimEnd_append cs, List.head?_append, first]
  rfl

theorem trims_trim (s : String) : Trims s (trim s) := by
  have left : (trim s).toList = trimEnd (trimStart s.toList) := String.toList_ofList
  refine ⟨⟨s.toList.takeWhile isBlank, ((trimStart s.toList).reverse.takeWhile isBlank).reverse,
    ?_, ?_, ?_⟩, fun c first => ?_, fun c last => ?_⟩
  · rw [left, List.append_assoc, trimEnd_append]
    exact List.takeWhile_append_dropWhile.symm
  · exact List.all_eq_true.1 List.all_takeWhile
  · exact fun c mem => List.all_eq_true.1 List.all_takeWhile c (List.mem_reverse.1 mem)
  · rw [left] at first
    exact isBlank_head_trimStart (head?_of_trimEnd first)
  · rw [left] at last
    exact isBlank_getLast_trimEnd last

theorem trimStart_append {front : List Char} (blank : ∀ c ∈ front, isBlank c) (cs : List Char) :
    trimStart (front ++ cs) = trimStart cs :=
  List.dropWhile_append_of_pos blank

/-- Nothing is left exactly of a text of blanks. -/
theorem trim_eq_empty_iff {s : String} : trim s = "" ↔ ∀ c ∈ s.toList, isBlank c := by
  constructor
  · intro empty c mem
    obtain ⟨front, back, parts, blankFront, blankBack⟩ := (trims_trim s).parts
    rw [empty, String.toList_empty, List.append_nil] at parts
    rw [parts] at mem
    exact (List.mem_append.1 mem).elim (blankFront c) (blankBack c)
  · intro blank
    have gone : trimStart s.toList = [] := by
      rw [← List.append_nil s.toList, trimStart_append blank]
      rfl
    rw [trim, gone]
    rfl

/-- All the blanks at the ends are taken away. -/
theorem trim_ofList_of_blanks {front back : List Char} (ne : cs ≠ [])
    (blankFront : ∀ c ∈ front, isBlank c) (blankBack : ∀ c ∈ back, isBlank c)
    (first : ∀ c, cs.head? = some c → isBlank c = false)
    (last : ∀ c, cs.getLast? = some c → isBlank c = false) :
    trim (.ofList (front ++ cs ++ back)) = .ofList cs := by
  have start : trimStart (cs ++ back) = cs ++ back := by
    refine trimStart_eq_self fun c head => first c ?_
    rwa [List.head?_append, Option.or_of_isSome (List.isSome_head?.2 ne)] at head
  have ending : trimStart (back.reverse ++ cs.reverse) = cs.reverse := by
    rw [trimStart_append fun c mem => blankBack c (List.mem_reverse.1 mem)]
    refine trimStart_eq_self fun c head => last c ?_
    rwa [List.head?_reverse] at head
  rw [trim, String.toList_ofList, List.append_assoc, trimStart_append blankFront, start, trimEnd,
    List.reverse_append, ending, List.reverse_reverse]

end GardenAdmin.Text
