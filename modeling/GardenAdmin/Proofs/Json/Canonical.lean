import GardenAdmin.Proofs.Json.Printed
import Mathlib.Data.List.Nodup

/-!
# Values that come from a text

A value that a text denotes names no member twice, holds no integer that a literal cannot stand for
and is not too deep (`canonical_of_value?`). The document that writes such a value denotes it
(`Value.Canonical.value?_toDoc`), and its text reads as that document if its doubles read back
(`Value.Canonical.prints`).
-/

namespace GardenAdmin.Json

/-! ## Documents that were read -/

/-- Every integer is one that a literal stands for. -/
inductive Doc.Proper : Doc → Prop
  | null : Proper .null
  | bool (b : Bool) : Proper (.bool b)
  | number {m : Option Number} (range : ∀ n, m = some (.int n) → InRange n) : Proper (.number m)
  | string (s : Option String) : Proper (.string s)
  | array {xs : List Doc} (items : ∀ x ∈ xs, Proper x) : Proper (.array xs)
  | object {ms : List (Option String × Doc)} (members : ∀ m ∈ ms, Proper m.2) : Proper (.object ms)
  | broken : Proper .broken

theorem proper_of_mem_brokenItems : ∀ x ∈ brokenItems, x.Proper := by
  intro x mem
  cases List.mem_singleton.1 mem
  exact .broken

theorem proper_of_mem_brokenMembers : ∀ m ∈ brokenMembers, m.2.Proper := by
  intro m mem
  cases List.mem_singleton.1 mem
  exact .broken

/-- What each reader reads is proper, by induction on the fuel that they share. -/
structure ReadsProper (fuel : Nat) : Prop where
  value : ∀ cs, (readValue fuel cs).1.Proper
  items : ∀ cs, ∀ x ∈ (readItems fuel cs).1, x.Proper
  memberValue : ∀ cs, (readMemberValue fuel cs).1.Proper
  members : ∀ cs, ∀ m ∈ (readMembers fuel cs).1, m.2.Proper

namespace ReadsProper

variable {fuel : Nat}

theorem zero : ReadsProper 0 where
  value _ := .broken
  items _ := proper_of_mem_brokenItems
  memberValue _ := .broken
  members _ := proper_of_mem_brokenMembers

theorem readValue_succ (ih : ReadsProper fuel) (cs : List Char) :
    (readValue (fuel + 1) cs).1.Proper := by
  rw [readValue]
  split
  case h_1 => exact .null
  case h_2 | h_3 => exact .bool _
  case h_4 =>
    split
    · exact .string _
    · exact .broken
  case h_5 cs _ =>
    split
    · exact .array (List.forall_mem_nil _)
    · exact .array (ih.items cs)
  case h_6 cs _ =>
    split
    · exact .object (List.forall_mem_nil _)
    · exact .object (ih.members cs)
  case h_7 =>
    split
    · exact .number fun n stands => Literal.inRange_of_number? stands
    · exact .broken

theorem readItems_succ (ih : ReadsProper fuel) (cs : List Char) :
    ∀ x ∈ (readItems (fuel + 1) cs).1, x.Proper := by
  rw [readItems]
  have first := ih.value cs
  generalize readValue fuel cs = p at first
  obtain ⟨x, rest⟩ := p
  dsimp only
  split
  next cs _ => exact List.forall_mem_cons.2 ⟨first, ih.items cs⟩
  next => exact List.forall_mem_singleton.2 first
  next => exact List.forall_mem_cons.2 ⟨first, proper_of_mem_brokenItems⟩

theorem readMemberValue_succ (ih : ReadsProper fuel) (cs : List Char) :
    (readMemberValue (fuel + 1) cs).1.Proper := by
  rw [readMemberValue]
  split
  next cs _ => exact ih.value cs
  next => exact .broken

theorem readMembers_succ (ih : ReadsProper fuel) (cs : List Char) :
    ∀ m ∈ (readMembers (fuel + 1) cs).1, m.2.Proper := by
  rw [readMembers]
  split
  next cs _ =>
    split
    next k cs _ =>
      have first := ih.memberValue cs
      generalize readMemberValue fuel cs = p at first
      obtain ⟨x, rest⟩ := p
      dsimp only
      split
      next cs _ => exact List.forall_mem_cons.2 ⟨first, ih.members cs⟩
      next => exact List.forall_mem_singleton.2 first
      next => exact List.forall_mem_cons.2 ⟨first, proper_of_mem_brokenMembers⟩
    next => exact proper_of_mem_brokenMembers
  next => exact proper_of_mem_brokenMembers

theorem all (fuel : Nat) : ReadsProper fuel := by
  induction fuel with
  | zero => exact zero
  | succ fuel ih =>
    exact ⟨ih.readValue_succ, ih.readItems_succ, ih.readMemberValue_succ, ih.readMembers_succ⟩

end ReadsProper

theorem proper_read (text : String) : (JsonText.read text).doc.Proper :=
  (ReadsProper.all (fuelFor text.toList)).value text.toList

/-! ## Members of an object -/

namespace Value

theorem toDocMembers_append (ms ns : List (String × Value)) :
    toDocMembers (ms ++ ns) = toDocMembers ms ++ toDocMembers ns := by
  induction ms with
  | nil => rfl
  | cons m ms ih => rw [List.cons_append, toDocMembers, toDocMembers, ih, List.cons_append]

variable {k : String} {v : Value} {ms : List (String × Value)}

theorem insertMember_of_not_mem (new : k ∉ ms.map Prod.fst) :
    insertMember k v ms = ms ++ [(k, v)] := by
  induction ms with
  | nil => rfl
  | cons m ms ih =>
    obtain ⟨first, others⟩ := not_or.1 (mt List.mem_cons.2 new)
    rw [insertMember, if_neg (Ne.symm first), ih others, List.cons_append]

theorem map_fst_insertMember_of_mem (old : k ∈ ms.map Prod.fst) :
    (insertMember k v ms).map Prod.fst = ms.map Prod.fst := by
  induction ms with
  | nil => cases old
  | cons m ms ih =>
    rw [insertMember]
    split
    next same => rw [List.map_cons, List.map_cons, same]
    next other =>
      have old := (List.mem_cons.1 old).resolve_left (Ne.symm other)
      rw [List.map_cons, List.map_cons, ih old]

theorem not_mem_of_nodup {before : List (String × Value)} {m : String × Value}
    (distinct : ((before ++ m :: ms).map Prod.fst).Nodup) : m.1 ∉ before.map Prod.fst := by
  rw [List.map_append, List.map_cons] at distinct
  exact fun old => (List.nodup_append.1 distinct).2.2 m.1 old m.1 (.head _) rfl

theorem nodup_insertMember (distinct : (ms.map Prod.fst).Nodup) :
    ((insertMember k v ms).map Prod.fst).Nodup := by
  by_cases old : k ∈ ms.map Prod.fst
  · rwa [map_fst_insertMember_of_mem old]
  · rw [insertMember_of_not_mem old, List.map_append]
    exact List.Nodup.append distinct (List.nodup_singleton k) (List.disjoint_singleton.2 old)

theorem mem_insertMember {m : String × Value} (mem : m ∈ insertMember k v ms) :
    m = (k, v) ∨ m ∈ ms := by
  induction ms with
  | nil => exact .inl (List.mem_singleton.1 mem)
  | cons m' ms ih =>
    rw [insertMember] at mem
    split at mem
    next => exact (List.mem_cons.1 mem).imp id (List.mem_cons_of_mem _)
    next =>
      rcases List.mem_cons.1 mem with rfl | mem
      · exact .inr (.head _)
      · exact (ih mem).imp id (List.mem_cons_of_mem _)

end Value

/-! ## Values that a text denotes -/

/-- No name is given twice, no integer is beyond what a literal can stand for, and at most `room`
arrays and objects are open at once. -/
inductive Value.Canonical : Nat → Value → Prop
  | null (room : Nat) : Canonical room .null
  | bool (room : Nat) (b : Bool) : Canonical room (.bool b)
  | number (room : Nat) {m : Number} (range : ∀ n, m = .int n → InRange n) :
    Canonical room (.number m)
  | string (room : Nat) (s : String) : Canonical room (.string s)
  | array {room : Nat} {xs : List Value} (items : ∀ x ∈ xs, Canonical room x) :
    Canonical (room + 1) (.array xs)
  | object {room : Nat} {ms : List (String × Value)} (distinct : (ms.map Prod.fst).Nodup)
    (members : ∀ m ∈ ms, Canonical room m.2) : Canonical (room + 1) (.object ms)

section

variable {room : Nat}

theorem forall_of_items? {P : Value → Prop} {xs : List Doc} {vs : List Value}
    (each : ∀ x ∈ xs, ∀ v, x.value? room = some v → P v)
    (denote : Doc.items? room xs = some vs) : ∀ v ∈ vs, P v := by
  induction xs generalizing vs with
  | nil =>
    cases denote
    exact List.forall_mem_nil _
  | cons x xs ih =>
    obtain ⟨v, first, denote⟩ := Option.bind_eq_some_iff.1 denote
    obtain ⟨vs', others, e⟩ := Option.bind_eq_some_iff.1 denote
    cases e
    exact List.forall_mem_cons.2
      ⟨each x (.head _) v first, ih (fun y mem => each y (.tail _ mem)) others⟩

theorem forall_of_members? {P : String × Value → Prop} {ms : List (Option String × Doc)}
    {before out : List (String × Value)}
    (each : ∀ m ∈ ms, ∀ k v, m.1 = some k → m.2.value? room = some v → P (k, v))
    (distinct : (before.map Prod.fst).Nodup) (all : ∀ m ∈ before, P m)
    (denote : Doc.members? room before ms = some out) :
    (out.map Prod.fst).Nodup ∧ ∀ m ∈ out, P m := by
  induction ms generalizing before with
  | nil =>
    cases denote
    exact ⟨distinct, all⟩
  | cons m ms ih =>
    obtain ⟨k, name, denote⟩ := Option.bind_eq_some_iff.1 denote
    obtain ⟨v, first, denote⟩ := Option.bind_eq_some_iff.1 denote
    refine ih (fun m' mem => each m' (.tail _ mem)) (Value.nodup_insertMember distinct) ?_ denote
    intro m' mem
    rcases Value.mem_insertMember mem with rfl | mem
    · exact each m (.head _) k v name first
    · exact all m' mem

theorem canonical_of_value? {d : Doc} (proper : d.Proper) {v : Value}
    (denotes : d.value? room = some v) : v.Canonical room := by
  induction proper generalizing room v with
  | null =>
    cases denotes
    exact .null room
  | bool b =>
    cases denotes
    exact .bool room b
  | number range =>
    obtain ⟨m, rfl, rfl⟩ := Option.map_eq_some_iff.1 denotes
    exact .number room fun n e => range n (congrArg some e)
  | string s =>
    obtain ⟨s, -, rfl⟩ := Option.map_eq_some_iff.1 denotes
    exact .string room s
  | array _ ih =>
    cases room with
    | zero => cases denotes
    | succ room =>
      obtain ⟨vs, items, rfl⟩ := Option.map_eq_some_iff.1 denotes
      exact .array (forall_of_items? (fun x mem v => ih x mem) items)
  | object _ ih =>
    cases room with
    | zero => cases denotes
    | succ room =>
      obtain ⟨out, members, rfl⟩ := Option.map_eq_some_iff.1 denotes
      have none : (([] : List (String × Value)).map Prod.fst).Nodup := List.nodup_nil
      obtain ⟨distinct, all⟩ := forall_of_members? (P := fun m => m.2.Canonical room)
        (fun m mem _ v _ => ih m mem) none (List.forall_mem_nil _) members
      exact .object distinct all
  | broken => cases denotes

theorem items?_toDocs {xs : List Value} (each : ∀ x ∈ xs, x.toDoc.value? room = some x) :
    Doc.items? room (Value.toDocs xs) = some xs := by
  induction xs with
  | nil => rfl
  | cons x xs ih =>
    rw [Value.toDocs, Doc.items?, each x (.head _), ih fun y mem => each y (.tail _ mem)]
    rfl

theorem members?_toDocMembers {before ms : List (String × Value)}
    (distinct : ((before ++ ms).map Prod.fst).Nodup)
    (each : ∀ m ∈ ms, m.2.toDoc.value? room = some m.2) :
    Doc.members? room before (Value.toDocMembers ms) = some (before ++ ms) := by
  induction ms generalizing before with
  | nil => exact congrArg some (List.append_nil before).symm
  | cons m ms ih =>
    have new := Value.not_mem_of_nodup distinct
    rw [Value.toDocMembers, Doc.members?, each m (.head _)]
    simp only [Option.bind_eq_bind, Option.bind_some]
    rw [Value.insertMember_of_not_mem new, ih (by simpa using distinct)
      fun m' mem => each m' (.tail _ mem), List.append_assoc, List.singleton_append]

theorem Value.Canonical.value?_toDoc {v : Value} (h : v.Canonical room) :
    v.toDoc.value? room = some v := by
  induction h with
  | null | bool | number | string => rfl
  | array _ ih =>
    rw [toDoc, Doc.value?, if_neg (Nat.succ_ne_zero _), Nat.add_sub_cancel, items?_toDocs ih]
    rfl
  | object distinct _ ih =>
    rw [toDoc, Doc.value?, if_neg (Nat.succ_ne_zero _), Nat.add_sub_cancel,
      @members?_toDocMembers _ [] _ distinct ih]
    rfl

end

/-! ## The doubles of a value -/

namespace Value

mutual

/-- The doubles in a value, from its front to its back. -/
def doubles : Value → List Double
  | .number (.double x) => [x]
  | .array xs => doublesOfItems xs
  | .object ms => doublesOfMembers ms
  | .null | .bool _ | .number (.int _) | .string _ => []
termination_by structural v => v

def doublesOfItems : List Value → List Double
  | [] => []
  | x :: xs => doubles x ++ doublesOfItems xs
termination_by structural xs => xs

def doublesOfMembers : List (String × Value) → List Double
  | [] => []
  | (_, x) :: ms => doubles x ++ doublesOfMembers ms
termination_by structural ms => ms

end

theorem mem_doublesOfItems {x : Value} {xs : List Value} (mem : x ∈ xs) {d : Double}
    (inside : d ∈ x.doubles) : d ∈ doublesOfItems xs := by
  induction mem with
  | head => exact List.mem_append_left _ inside
  | tail _ _ ih => exact List.mem_append_right _ ih

theorem mem_doublesOfMembers {m : String × Value} {ms : List (String × Value)} (mem : m ∈ ms)
    {d : Double} (inside : d ∈ m.2.doubles) : d ∈ doublesOfMembers ms := by
  induction mem with
  | head => exact List.mem_append_left _ inside
  | tail _ _ ih => exact List.mem_append_right _ ih

theorem Canonical.prints {room : Nat} {v : Value} (h : v.Canonical room)
    (back : ∀ d ∈ v.doubles, d.ReadsBack) : v.Prints := by
  induction h with
  | null => exact prints_null
  | bool _ b => exact prints_bool b
  | @number _ m range =>
    cases m with
    | int n => exact prints_int (range n rfl)
    | double d => exact prints_double (back d (.head _))
  | string _ s => exact prints_string s
  | array _ ih =>
    exact prints_array fun x mem => ih x mem fun d inside => back d (mem_doublesOfItems mem inside)
  | object _ _ ih =>
    exact prints_object fun m mem =>
      ih m mem fun d inside => back d (mem_doublesOfMembers mem inside)

/-! ## Values whose text denotes them -/

/-- The compact text denotes the value, if at most `room` arrays and objects may be open in it. -/
structure Parses (room : Nat) (v : Value) : Prop where
  canonical : v.Canonical room
  prints : v.Prints

theorem Parses.parse?_compact {v : Value} (h : v.Parses maxDepth) : parse? v.compact = some v := by
  rw [parse?, read_compact h.prints]
  exact h.canonical.value?_toDoc

theorem parses_string (room : Nat) (s : String) : Parses room (.string s) :=
  ⟨.string room s, prints_string s⟩

theorem parses_array {room : Nat} {xs : List Value} (items : ∀ x ∈ xs, x.Parses room) :
    Parses (room + 1) (.array xs) :=
  ⟨.array fun x mem => (items x mem).canonical, prints_array fun x mem => (items x mem).prints⟩

theorem parses_object {room : Nat} {ms : List (String × Value)} (distinct : (ms.map Prod.fst).Nodup)
    (members : ∀ m ∈ ms, m.2.Parses room) : Parses (room + 1) (.object ms) :=
  ⟨.object distinct fun m mem => (members m mem).canonical,
    prints_object fun m mem => (members m mem).prints⟩

end Value

end GardenAdmin.Json
