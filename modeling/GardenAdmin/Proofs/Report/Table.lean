import GardenAdmin.Report
import Mathlib.Algebra.BigOperators.Group.List.Basic
import Mathlib.Algebra.GroupWithZero.Nat
import Mathlib.Algebra.Order.BigOperators.Group.List
import Mathlib.Algebra.Order.Group.Nat

/-!
# Where the cells of the table stand

The table has a line for each garden between its heading and the count (`Report.lines_table`). A
cell stands behind the padded cells of the columns before it (`Report.Column.front`). Padding only
sets a least width, so a cell stands under its heading exactly if no cell before it is wider than
its column (`Report.Column.start_eq_iff`). Names are cut to their column and the types fit into
theirs, but a status is printed as it is: an identifier behind a status of more than 12 code points
is out of line.
-/

namespace GardenAdmin

namespace Text

theorem toList_blanks (n : Nat) : ("".pushn ' ' n).toList = List.replicate n ' ' := by
  rw [String.pushn_eq_repeat_push]
  induction n with
  | zero => rfl
  | succ n ih => rw [Nat.repeat, String.toList_push, ih, List.replicate_succ']

theorem length_pad (width : Nat) (s : String) : (pad width s).length = max s.length width := by
  rw [pad, String.length_append, String.length_pushn]
  have : "".length = 0 := rfl
  omega

theorem mem_pad {width : Nat} {s : String} {c : Char} (mem : c ∈ (pad width s).toList) :
    c ∈ s.toList ∨ c = ' ' := by
  rw [pad, String.toList_append, toList_blanks] at mem
  exact (List.mem_append.1 mem).imp_right List.eq_of_mem_replicate

theorem length_truncate_le {s : String} {limit : Nat} (pos : 0 < limit) :
    (truncate s limit).length ≤ limit := by
  unfold truncate
  split
  next short => exact short
  next =>
    rw [String.length_ofList, List.length_append, List.length_take, List.length_singleton]
    omega

theorem mem_truncate {s : String} {limit : Nat} {c : Char} (mem : c ∈ (truncate s limit).toList) :
    c ∈ s.toList ∨ c = '…' := by
  unfold truncate at mem
  split at mem
  next => exact .inl mem
  next =>
    rw [String.toList_ofList] at mem
    exact (List.mem_append.1 mem).imp List.mem_of_mem_take List.mem_singleton.1

end Text

namespace Report

/-! ## Columns -/

inductive Column where
  | name
  | type
  | status
  | id
  deriving DecidableEq, Repr

namespace Column

def width : Column → Nat
  | name => nameWidth
  | type => typeWidth
  | status => statusWidth
  | id => idWidth

/-- From the left. -/
def all : List Column := [name, type, status, id]

def title : Column → String
  | name => "NAME"
  | type => "TYPE"
  | status => "STATUS"
  | id => "ID"

/-- The cell of a garden. -/
def cell (g : Garden) : Column → String
  | name => Text.truncate g.name nameWidth
  | type => typeName g
  | status => orDash g.status
  | id => orDash g.id

variable {cells : Column → String} {k : Column}

/-- The cells of some columns, each with the blanks behind it. -/
def spread (cells : Column → String) (columns : List Column) : String :=
  String.join (columns.map fun j => Text.pad j.width (cells j) ++ " ")

/-- What is written in front of the cell. -/
def front (cells : Column → String) (k : Column) : String := spread cells (all.takeWhile (· ≠ k))

/-- The offset of the cell in its line, in code points. -/
def start (cells : Column → String) (k : Column) : Nat := (front cells k).length

theorem spread_cons (cells : Column → String) (k : Column) (columns : List Column) :
    spread cells (k :: columns) = Text.pad k.width (cells k) ++ " " ++ spread cells columns :=
  String.join_cons

/-- In a row, each cell stands behind its front. -/
theorem exists_row_eq (cells : Column → String) (k : Column) : ∃ back,
    row (cells name) (cells type) (cells status) (cells id) = front cells k ++ cells k ++ back := by
  have padded (w : Nat) (s rest : String) :
      Text.pad w s ++ rest = s ++ ("".pushn ' ' (w - s.length) ++ rest) := String.append_assoc ..
  have nothing : spread cells [] = "" := rfl
  unfold row
  simp only [String.append_assoc]
  cases k with
  | name =>
    rw [padded nameWidth]
    exact ⟨_, rfl⟩
  | type =>
    rw [padded typeWidth, show front cells type = spread cells [name] from rfl, spread_cons,
      nothing]
    simp only [String.append_assoc, String.empty_append]
    exact ⟨_, rfl⟩
  | status =>
    rw [padded statusWidth, show front cells status = spread cells [name, type] from rfl,
      spread_cons, spread_cons, nothing]
    simp only [String.append_assoc, String.empty_append]
    exact ⟨_, rfl⟩
  | id =>
    rw [show front cells id = spread cells [name, type, status] from rfl, spread_cons, spread_cons,
      spread_cons, nothing]
    simp only [String.append_assoc, String.empty_append]
    exact ⟨_, rfl⟩

theorem length_spread (cells : Column → String) (columns : List Column) :
    (spread cells columns).length =
      (columns.map fun j => max (cells j).length j.width + 1).sum := by
  induction columns with
  | nil => rfl
  | cons j columns ih =>
    rw [spread_cons, String.length_append, String.length_append, Text.length_pad, ih]
    rfl

/-- Cells come as early as they can exactly if none before them is wider than its column. -/
theorem start_eq_iff {titles : Column → String} (short : ∀ j, (titles j).length ≤ j.width) :
    start cells k = start titles k ↔
      ∀ j ∈ all.takeWhile (· ≠ k), (cells j).length ≤ j.width := by
  have least (columns : List Column) :
      (columns.map fun j => j.width + 1).sum ≤
        (columns.map fun j => max (cells j).length j.width + 1).sum :=
    List.sum_le_sum fun j _ => by omega
  have titled (columns : List Column) :
      (columns.map fun j => max (titles j).length j.width + 1).sum =
        (columns.map fun j => j.width + 1).sum :=
    congrArg List.sum (List.map_congr_left fun j _ => by have := short j; omega)
  unfold start front
  rw [length_spread, length_spread, titled]
  induction all.takeWhile (· ≠ k) with
  | nil => simp
  | cons j columns ih =>
    have rest := least columns
    rw [List.map_cons, List.map_cons, List.sum_cons, List.sum_cons, List.forall_mem_cons]
    constructor
    · intro same
      exact ⟨by omega, ih.1 (by omega)⟩
    · rintro ⟨fits, more⟩
      have := ih.2 more
      omega

theorem length_title_le (k : Column) : (title k).length ≤ k.width := by
  cases k <;> decide

theorem length_typeName_le (g : Garden) : (typeName g).length ≤ typeWidth := by
  unfold typeName
  cases g.connectionType with
  | none => decide
  | some t => cases t <;> decide

/-- The cells of a garden stand under their headings, but for an identifier behind a status that is
wider than its column. -/
theorem start_cell_eq_iff (g : Garden) (k : Column) : start (cell g) k = start title k ↔
    (k = id → (orDash g.status).length ≤ statusWidth) := by
  have named : (cell g name).length ≤ width name := Text.length_truncate_le (by decide)
  have typed : (cell g type).length ≤ width type := length_typeName_le g
  rw [start_eq_iff length_title_le]
  cases k with
  | name => simp [all]
  | type => simpa [all] using named
  | status => simpa [all] using ⟨named, typed⟩
  | id =>
    have before : all.takeWhile (· ≠ id) = [name, type, status] := rfl
    rw [before]
    simp only [List.forall_mem_cons, List.not_mem_nil, false_implies, implies_true, and_true,
      forall_const, named, typed, true_and]
    exact Iff.rfl

end Column

/-! ## Lines -/

/-- Where no line holds a line feed, the text is taken apart into its lines at the line feeds. -/
theorem splitOn_unlines {lines : List String} (plain : ∀ line ∈ lines, '\n' ∉ line.toList) :
    (unlines lines).toList.splitOn '\n' = lines.map (·.toList) ++ [[]] := by
  unfold unlines
  rw [String.toList_join]
  induction lines with
  | nil => rfl
  | cons line lines ih =>
    rw [List.forall_mem_cons] at plain
    rw [List.map_cons, List.flatMap_cons, String.toList_append, List.append_assoc]
    rw [show "\n".toList ++ (lines.map (· ++ "\n")).flatMap String.toList =
      '\n' :: (lines.map (· ++ "\n")).flatMap String.toList from rfl,
      List.splitOn_append_cons_self_of_not_mem plain.1, ih plain.2]
    rfl

/-- No text that the table prints of the garden holds a line feed. -/
structure OneLine (g : Garden) : Prop where
  name : '\n' ∉ g.name.toList
  status : ∀ s ∈ g.status, '\n' ∉ s.toList
  id : ∀ s ∈ g.id, '\n' ∉ s.toList

theorem not_mem_orDash {s : Option String} (plain : ∀ t ∈ s, '\n' ∉ t.toList) :
    '\n' ∉ (orDash s).toList := by
  cases s with
  | none => decide
  | some t => exact plain t rfl

theorem OneLine.not_mem_cell {g : Garden} (plain : OneLine g) (k : Column) :
    '\n' ∉ (k.cell g).toList := by
  cases k with
  | name =>
    intro mem
    rcases Text.mem_truncate mem with mem | e
    · exact plain.name mem
    · exact absurd e (by decide)
  | type =>
    show '\n' ∉ (typeName g).toList
    unfold typeName
    cases g.connectionType with
    | none => decide
    | some t => cases t <;> decide
  | status => exact not_mem_orDash plain.status
  | id => exact not_mem_orDash plain.id

theorem not_mem_row {cells : Column → String} (plain : ∀ k, '\n' ∉ (cells k).toList) :
    '\n' ∉ (row (cells .name) (cells .type) (cells .status) (cells .id)).toList := by
  have padded (w : Nat) (k : Column) : '\n' ∉ (Text.pad w (cells k)).toList := by
    intro mem
    rcases Text.mem_pad mem with mem | e
    · exact plain k mem
    · exact absurd e (by decide)
  have blank : '\n' ∉ " ".toList := by decide
  simp only [row, String.toList_append, List.mem_append, padded, blank, or_self, not_false_eq_true]

/-- The line below the rows. -/
def countLine (gs : List Garden) : String := s!"{gs.length} garden(s)"

theorem not_mem_countLine (gs : List Garden) : '\n' ∉ (countLine gs).toList := by
  have line : countLine gs = .ofList (Nat.toDigits 10 gs.length) ++ " garden(s)" := rfl
  rw [line, String.toList_append, String.toList_ofList, List.mem_append, not_or]
  refine ⟨fun mem => ?_, by decide⟩
  exact absurd (Nat.isDigit_of_mem_toDigits (by decide) (by decide) mem) (by decide)

/-- The table has its heading, a row for each garden in their order, an empty line and the count. In
a row as in the heading, each cell stands behind its front. Those of a garden stand at the offsets
of their headings, except for the identifier behind a status of more than 12 code points. -/
theorem lines_table {gs : List Garden} (given : gs ≠ []) (plain : ∀ g ∈ gs, OneLine g) :
    (table gs).toList.splitOn '\n' =
      (heading :: gs.map gardenRow ++ ["", countLine gs, ""]).map (·.toList) ∧
    ∀ k : Column,
      (∃ back, heading = k.front Column.title ++ k.title ++ back) ∧
      ∀ g ∈ gs,
        (∃ back, gardenRow g = k.front (Column.cell g) ++ k.cell g ++ back) ∧
        (k.start (Column.cell g) = k.start Column.title ↔
          (k = .id → (orDash g.status).length ≤ statusWidth)) := by
  refine ⟨?lines, fun k => ⟨k.exists_row_eq Column.title, fun g _ => ⟨?row, ?start⟩⟩⟩
  case row => exact k.exists_row_eq (Column.cell g)
  case start => exact Column.start_cell_eq_iff g k
  case lines =>
    have lines : tableLines gs = heading :: gs.map gardenRow ++ ["", countLine gs] :=
      if_neg (by simpa using given)
    rw [table, lines, splitOn_unlines]
    · simp
    · intro line mem
      simp only [List.cons_append, List.mem_cons, List.mem_append, List.mem_map, List.not_mem_nil,
        or_false] at mem
      rcases mem with rfl | ⟨g, mem, rfl⟩ | rfl | rfl
      · decide
      · exact @not_mem_row (Column.cell g) (plain g mem).not_mem_cell
      · decide
      · exact not_mem_countLine gs

/-- The name of one garden is cut, and the status of the other is wider than its column. -/
theorem lines_table_pair :
    let cut : Garden := { id := some "1", name := "a name of more than 24 code points" }
    let wide : Garden :=
      { id := some "g-2", name := "child", status := some "NOT_CONFIGURED",
        connectionType := some .http }
    OneLine cut ∧ OneLine wide ∧
    (table [cut, wide]).toList.splitOn '\n' =
      [heading, gardenRow cut, gardenRow wide, "", "2 garden(s)", ""].map (·.toList) ∧
    (∀ g ∈ [cut, wide], Column.start (Column.cell g) .status = Column.start Column.title .status) ∧
    Column.start (Column.cell cut) .id = Column.start Column.title .id ∧
    Column.start (Column.cell wide) .id ≠ Column.start Column.title .id := by
  intro cut wide
  have one : OneLine cut := ⟨by decide, nofun, by decide⟩
  have other : OneLine wide := ⟨by decide, by decide, by decide⟩
  have count : countLine [cut, wide] = "2 garden(s)" := by decide +kernel
  obtain ⟨lines, aligned⟩ := @lines_table [cut, wide] (by simp) (by simp [one, other])
  rw [count] at lines
  refine ⟨one, other, lines, fun g hg => ((aligned .status).2 g hg).2.2 nofun, ?_, fun same => ?_⟩
  · exact (((aligned .id).2 cut (.head _)).2).2 fun _ => by decide
  · exact absurd ((((aligned .id).2 wide (.tail _ (.head _))).2).1 same rfl) (by decide)

/-- Behind a status of 14 code points, the identifier stands two code points to the right of its
heading. -/
theorem exists_row_out_of_line :
    ∃ g : Garden, OneLine g ∧
      "ID".toList <+: heading.toList.drop 47 ∧ Column.start Column.title .id = 47 ∧
      ¬(orDash g.id).toList <+: (gardenRow g).toList.drop 47 ∧
      (orDash g.id).toList <+: (gardenRow g).toList.drop 49 ∧
      Column.start (Column.cell g) .id = 49 :=
  ⟨{ id := some "g-1", name := "child", status := some "NOT_CONFIGURED",
      connectionType := some .http },
    ⟨by decide, by decide, by decide⟩, by decide +kernel⟩

end Report

end GardenAdmin
