import GardenAdmin.Proofs.Api.Client
import GardenAdmin.Proofs.Text.Percent
import Mathlib.Data.List.Induction
import Mathlib.Data.List.TakeWhile

/-!
# Where the URL of a garden leads

A client sends the request for a garden to the path of all gardens and one more segment, unless the
garden is called `.` or `..`: these segments name a place (`isHere_encodeSegment_iff`,
`isAbove_encodeSegment_iff`) and are resolved before the request is sent.
-/

namespace GardenAdmin

/-! ## Segments that name a place -/

theorem eq_of_toLower {c d : Char} (lower : c.toLower = d) : c = d ∨ 97 ≤ d.toNat ∧
    c.toNat + 32 = d.toNat := by
  unfold Char.toLower at lower
  split at lower
  next upper =>
    right
    have low : 65 ≤ c.val.toNat := upper.1
    have high : c.val.toNat ≤ 90 := upper.2
    have value : (c.val + 32).toNat = d.toNat := by rw [← lower]; rfl
    rw [UInt32.toNat_add] at value
    have : (32 : UInt32).toNat = 32 := rfl
    simp only [Char.toNat] at *
    omega
  next => exact .inl lower

theorem toList_toLower (s : String) : s.toLower.toList = s.toList.map Char.toLower :=
  String.toList_map

section

open Text

variable {cs ds : List Char} {bs : List UInt8} {m : String}

/-- A dot in either spelling stands for its byte. -/
theorem exists_rest_of_dot {dot : List Char} (spelled : dot = ['.'] ∨ dot = ['%', '2', 'e'])
    (lower : cs.map Char.toLower = dot ++ ds) (decoded : decodeSegment? cs = some bs) :
    ∃ cs' bs', cs'.map Char.toLower = ds ∧ decodeSegment? cs' = some bs' ∧ bs = 0x2E :: bs' := by
  have same {c d : Char} (lower : c.toLower = d) (small : d.toNat < 97) : c = d :=
    (eq_of_toLower lower).resolve_right fun h => absurd h.1 (by omega)
  rcases spelled with rfl | rfl
  · obtain ⟨c, cs, rfl, hc, rest⟩ := List.map_eq_cons_iff.1 lower
    obtain rfl := same hc (by decide)
    rw [decodeSegment?_cons (by decide)] at decoded
    obtain ⟨bs', tail, rfl⟩ := Option.map_eq_some_iff.1 decoded
    exact ⟨cs, bs', rest, tail, rfl⟩
  · obtain ⟨c, cs, rfl, hc, lower⟩ := List.map_eq_cons_iff.1 lower
    obtain ⟨h, cs, rfl, hh, lower⟩ := List.map_eq_cons_iff.1 lower
    obtain ⟨l, cs, rfl, hl, rest⟩ := List.map_eq_cons_iff.1 lower
    obtain rfl := same hc (by decide)
    obtain rfl := same hh (by decide)
    rcases eq_of_toLower hl with rfl | ⟨-, upper⟩
    · cases decoded
    · obtain rfl : l = 'E' := Char.toNat_inj.1 (by
        have : 'e'.toNat = 101 := rfl
        have : 'E'.toNat = 69 := rfl
        omega)
      rw [decodeSegment?_percent (show upperHexValue? '2' = some 2 from rfl)
        (show upperHexValue? 'E' = some 14 from rfl)] at decoded
      obtain ⟨bs', tail, rfl⟩ := Option.map_eq_some_iff.1 decoded
      exact ⟨cs, bs', rest, tail, rfl⟩

theorem isHere_encodeSegment_iff : isHere (encodeSegment m) ↔ m = "." := by
  constructor
  · intro here
    rcases Bool.or_eq_true_iff.1 here with plain | lower
    · exact encodeSegment_inj.1 (beq_iff_eq.1 plain)
    · have lower : (encodeSegment m).toList.map Char.toLower = ['%', '2', 'e'] ++ [] := by
        rw [← toList_toLower, beq_iff_eq.1 lower]
        rfl
      obtain ⟨cs, bs, rest, decoded, eq⟩ := exists_rest_of_dot (.inr rfl) lower
        (decodeSegment?_encodeSegment m)
      obtain rfl := List.map_eq_nil_iff.1 rest
      cases decoded
      exact (utf8_inj (t := ".")).1 eq
  · rintro rfl
    decide

theorem isAbove_encodeSegment_iff : isAbove (encodeSegment m) ↔ m = ".." := by
  constructor
  · intro above
    obtain ⟨first, second, hf, hs, lower⟩ : ∃ first second : List Char,
        (first = ['.'] ∨ first = ['%', '2', 'e']) ∧ (second = ['.'] ∨ second = ['%', '2', 'e']) ∧
        (encodeSegment m).toLower.toList = first ++ second := by
      have mem := List.contains_iff_mem.1 above
      simp only [List.mem_cons, List.not_mem_nil, or_false] at mem
      rcases mem with e | e | e | e <;> rw [e]
      · exact ⟨['.'], ['.'], .inl rfl, .inl rfl, rfl⟩
      · exact ⟨['.'], ['%', '2', 'e'], .inl rfl, .inr rfl, rfl⟩
      · exact ⟨['%', '2', 'e'], ['.'], .inr rfl, .inl rfl, rfl⟩
      · exact ⟨['%', '2', 'e'], ['%', '2', 'e'], .inr rfl, .inr rfl, rfl⟩
    rw [toList_toLower] at lower
    obtain ⟨cs, bs, lower, decoded, eq⟩ := exists_rest_of_dot hf lower
      (decodeSegment?_encodeSegment m)
    rw [← List.append_nil second] at lower
    obtain ⟨cs', bs', rest, decoded', rfl⟩ := exists_rest_of_dot hs lower decoded
    obtain rfl := List.map_eq_nil_iff.1 rest
    cases decoded'
    exact (utf8_inj (t := "..")).1 eq
  · rintro rfl
    decide +kernel

end

/-! ## Resolving a path -/

section

variable {before : List String} {s : String}

/-- The places on the way after one more segment. -/
def enter (before : List String) (s : String) : List String :=
  if isHere s then before else if isAbove s then before.tail else s :: before

theorem resolve_append_singleton (before pre : List String) (s : String) :
    resolve before (pre ++ [s]) = resolve (pre.foldl enter before) [s] := by
  induction pre generalizing before with
  | nil => rfl
  | cons p pre ih =>
    rw [List.foldl_cons, ← ih, List.cons_append]
    obtain ⟨q, rest, more⟩ := List.exists_cons_of_ne_nil (List.append_ne_nil_of_right_ne_nil pre
      (List.cons_ne_nil s []))
    rw [more, resolve.eq_3 _ _ _ (List.cons_ne_nil q rest), enter]
    split_ifs <;> rfl

theorem intercalate_concat (l : List String) (s : String) :
    "/".intercalate (l ++ [s]) = "/".intercalate (l ++ [""]) ++ s := by
  cases l with
  | nil => simp
  | cons p l =>
    rw [String.intercalate_append_of_ne_nil (List.cons_ne_nil p l) (List.cons_ne_nil s []),
      String.intercalate_append_of_ne_nil (List.cons_ne_nil p l) (List.cons_ne_nil "" [])]
    simp

theorem resolve_of_here (here : isHere s) : resolve before [s] = ("" :: before).reverse :=
  if_pos here

theorem resolve_of_above (here : isHere s = false) (above : isAbove s) :
    resolve before [s] = ("" :: before.tail).reverse := by
  rw [resolve, here, above, if_neg Bool.false_ne_true, if_pos rfl]

theorem resolve_of_not (here : isHere s = false) (above : isAbove s = false) :
    resolve before [s] = (s :: before).reverse := by
  rw [resolve, here, above, if_neg Bool.false_ne_true, if_neg Bool.false_ne_true]

theorem resolve_empty : resolve before [""] = ("" :: before).reverse :=
  resolve_of_not (by decide +kernel) (by decide +kernel)

/-- A segment that names no place comes after all others. -/
theorem intercalate_resolve (here : isHere s = false) (above : isAbove s = false) :
    "/".intercalate (resolve before [s]) = "/".intercalate (resolve before [""]) ++ s := by
  rw [resolve_empty, resolve_of_not here above, List.reverse_cons, List.reverse_cons,
    intercalate_concat]

/-- The way to the place above is no longer. -/
theorem length_resolve_of_above (before : List String) (here : isHere s = false)
    (above : isAbove s) :
    ("/".intercalate (resolve before [s])).length ≤
      ("/".intercalate (resolve before [""])).length := by
  rw [resolve_empty, resolve_of_above here above]
  cases before with
  | nil => exact Nat.le_refl _
  | cons p before =>
    have longer : "/".intercalate ((before.reverse ++ [p]) ++ [""]) =
        "/".intercalate (before.reverse ++ [""]) ++ p ++ "/" := by
      rw [String.intercalate_append_of_ne_nil (List.concat_ne_nil p _) (List.cons_ne_nil "" []),
        intercalate_concat _ p, String.intercalate_singleton, String.append_empty]
    rw [List.tail_cons, List.reverse_cons, List.reverse_cons, List.reverse_cons, longer]
    simp only [String.length_append]
    omega

end

/-! ## Resolving the segment of a garden -/

section

variable {before : List String} {m n : String}

open Text

/-- The segments `.` and `..` lead to no place beyond. -/
theorem intercalate_resolve_ne_append (place : m = "." ∨ m = "..") {s : String} (ne : s ≠ "") :
    "/".intercalate (resolve before [encodeSegment m]) ≠
      "/".intercalate (resolve before [""]) ++ s := by
  intro e
  rcases place with here | above
  · rw [resolve_of_here (isHere_encodeSegment_iff.2 here), ← resolve_empty] at e
    exact ne (String.append_eq_left_iff.1 e.symm)
  · have notHere : isHere (encodeSegment m) = false := by
      rw [Bool.eq_false_iff, ne_eq, isHere_encodeSegment_iff, above]
      decide
    have shorter := length_resolve_of_above before notHere
      (isAbove_encodeSegment_iff.2 above)
    rw [e, String.length_append] at shorter
    exact ne (String.length_eq_zero_iff.1 (by omega))

theorem exists_isSegmentOf_resolve_iff :
    (∃ s, IsSegmentOf s n ∧ "/".intercalate (resolve before [encodeSegment m]) =
      "/".intercalate (resolve before [""]) ++ s) ↔ m = n ∧ n ∉ ["", ".", ".."] := by
  by_cases place : m = "." ∨ m = ".."
  · constructor
    · rintro ⟨s, segment, e⟩
      exact absurd e (intercalate_resolve_ne_append place segment.ne_empty)
    · rintro ⟨rfl, ne⟩
      rcases place with rfl | rfl <;> exact absurd (by decide) ne
  · obtain ⟨notHere, notAbove⟩ := not_or.1 place
    rw [intercalate_resolve (Bool.eq_false_iff.2 (mt isHere_encodeSegment_iff.1 notHere))
      (Bool.eq_false_iff.2 (mt isAbove_encodeSegment_iff.1 notAbove))]
    simp only [String.append_right_inj]
    constructor
    · rintro ⟨s, segment, rfl⟩
      obtain ⟨rfl, ne⟩ := isSegmentOf_encodeSegment_iff.1 segment
      exact ⟨rfl, by simp [ne, notHere, notAbove]⟩
    · rintro ⟨rfl, ne⟩
      simp only [List.mem_cons, not_or] at ne
      exact ⟨_, isSegmentOf_encodeSegment_iff.2 ⟨rfl, ne.1⟩, rfl⟩

end

/-! ## Paths that end in a slash -/

section

variable {path s : String}

theorem segments_append (start : List Char) (single : '/' ∉ s.toList) :
    segments (.ofList (start ++ '/' :: s.toList)) = segments (.ofList start) ++ [s] := by
  rw [segments, segments, String.toList_ofList, String.toList_ofList,
    List.splitOn_append_cons_self, List.splitOn_eq_singleton single, List.map_append,
    List.map_singleton, String.ofList_toList]

/-- What comes after the last slash of a path is resolved at the place that the path leads to. -/
theorem exists_resolvePath (first : path.toList.head? = some '/')
    (last : path.toList.getLast? = some '/') :
    ∃ before, ∀ s : String, '/' ∉ s.toList →
      resolvePath (path ++ s) = "/" ++ "/".intercalate (resolve before [s]) := by
  obtain ⟨start, eq⟩ := List.head?_eq_some_iff.1 first
  have rest (s : String) :
      (after? "/" (path ++ s)).getD (path ++ s) = .ofList (start ++ s.toList) := by
    rw [after?, String.toList_append, eq]
    rfl
  cases start using List.reverseRec with
  | nil =>
    refine ⟨[], fun s single => ?_⟩
    rw [resolvePath, rest, List.nil_append, String.ofList_toList, segments,
      List.splitOn_eq_singleton single, List.map_singleton, String.ofList_toList]
  | append_singleton start c _ =>
    obtain rfl : c = '/' := by
      rw [eq, ← List.cons_append, List.getLast?_concat] at last
      exact Option.some.inj last
    refine ⟨(segments (.ofList start)).foldl enter [], fun s single => ?_⟩
    rw [resolvePath, rest, List.append_assoc, List.singleton_append, segments_append start single,
      resolve_append_singleton]

end

/-! ## URLs without query and fragment -/

/-- There is neither a query nor a fragment. -/
def IsPlain (cs : List Char) : Prop := ∀ c ∈ cs, c ≠ '?' ∧ c ≠ '#'

-- Named, so that the characters of the list are tried and not all there are.
instance (cs : List Char) : Decidable (IsPlain cs) :=
  List.decidableBAll (fun c => c ≠ '?' ∧ c ≠ '#') cs

section

variable {p : Char → Bool} {cs ds : List Char}

theorem breakAt_of_forall (none : ∀ c ∈ cs, p c = false) :
    breakAt p (.ofList cs) = (.ofList cs, "") := by
  have all : ∀ c ∈ cs, !p c := fun c mem => by rw [none c mem]; rfl
  rw [breakAt, String.toList_ofList, List.takeWhile_eq_self_iff.2 all,
    List.dropWhile_eq_nil_iff.2 all, String.ofList_nil]

theorem breakAt_append_cons {c : Char} (none : ∀ c ∈ cs, p c = false) (first : p c) :
    breakAt p (.ofList (cs ++ c :: ds)) = (.ofList cs, .ofList (c :: ds)) := by
  have all : ∀ c ∈ cs, !p c := fun c mem => by rw [none c mem]; rfl
  rw [breakAt, String.toList_ofList, List.takeWhile_append_of_pos all,
    List.dropWhile_append_of_pos all, List.takeWhile_cons_of_neg (by simp [first]),
    List.dropWhile_cons_of_neg (by simp [first]), List.append_nil]

end

section

variable {schemes : List String}

theorem suffix_of_afterScheme? {url rest : String} (found : afterScheme? schemes url = some rest) :
    rest.toList <:+ url.toList := by
  obtain ⟨scheme, -, found⟩ := List.exists_of_findSome?_eq_some found
  rw [after?_eq_some_iff.1 found, String.toList_append]
  exact List.suffix_append ..

variable {url : String} {authority cs : List Char}

/-- In a plain URL all that follows the authority is the path. -/
theorem pathAndQuery?_of_isPlain
    (found : afterScheme? schemes url = some (.ofList (authority ++ '/' :: cs)))
    (whole : '/' ∉ authority) (plain : IsPlain (authority ++ '/' :: cs)) :
    pathAndQuery? schemes url =
      if authority = [] then none else some (.ofList ('/' :: cs), "") := by
  have inAuthority : ∀ c ∈ authority, endsAuthority c = false := fun c mem => by
    obtain ⟨noQuery, noFragment⟩ := plain c (List.mem_append_left _ mem)
    have noPath : c ≠ '/' := fun e => whole (e ▸ mem)
    simp [endsAuthority, noQuery, noFragment, noPath]
  have inPath : ∀ c ∈ '/' :: cs, c ≠ '?' ∧ c ≠ '#' := fun c mem =>
    plain c (List.mem_append_right _ mem)
  have noFragment : breakAt (· == '#') (.ofList ('/' :: cs)) = (.ofList ('/' :: cs), "") :=
    breakAt_of_forall fun c mem => beq_false_of_ne (inPath c mem).2
  have noQuery : breakAt (· == '?') (.ofList ('/' :: cs)) = (.ofList ('/' :: cs), "") :=
    breakAt_of_forall fun c mem => beq_false_of_ne (inPath c mem).1
  have split : breakAt endsAuthority (.ofList (authority ++ '/' :: cs)) =
      (.ofList authority, .ofList ('/' :: cs)) := breakAt_append_cons inAuthority rfl
  unfold endsAuthority at split
  unfold pathAndQuery?
  rw [found]
  simp only [Option.bind_eq_bind, Option.bind_some, split, noFragment, noQuery,
    String.ofList_eq_empty_iff]
  rfl

end

/-- After its scheme, the URL is the name of a server and a path that ends in a slash. -/
structure LeadsTo (url : String) (authority path : List Char) : Prop where
  found : afterScheme? ["http", "https"] url = some (.ofList (authority ++ '/' :: path))
  whole : '/' ∉ authority
  named : authority ≠ []
  last : ('/' :: path).getLast? = some '/'
  plain : IsPlain (authority ++ '/' :: path)

section

variable {start : List Char}

theorem exists_leadsTo (long : 8 < start.length) (plain : IsPlain start)
    (last : start.getLast? = some '/') (leads : (httpTarget? (.ofList start)).isSome) :
    ∃ authority path, LeadsTo (.ofList start) authority path := by
  unfold httpTarget? at leads
  rw [Option.isSome_map, isSome_pathAndQuery?, Option.any_eq_true] at leads
  obtain ⟨rest, found, hosted⟩ := leads
  have inStart : rest.toList <:+ start := by
    have := suffix_of_afterScheme? found
    rwa [String.toList_ofList] at this
  have more := ne_nil_of_afterScheme? (length_scheme_lt long) found
  have lastOfRest : rest.toList.getLast? = some '/' := by
    obtain ⟨front, rfl⟩ := inStart
    rwa [List.getLast?_append_of_ne_nil front more] at last
  obtain ⟨authority, path, split, whole⟩ :=
    List.eq_append_cons_of_mem (List.mem_of_getLast? lastOfRest)
  refine ⟨authority, path, ?found, whole, ?named, ?last, ?plain⟩
  case found => rw [found, ← split, String.ofList_toList]
  case named =>
    rintro rfl
    have hostless : breakAt endsAuthority (.ofList ([] ++ '/' :: path)) =
        (.ofList [], .ofList ('/' :: path)) := breakAt_append_cons (List.forall_mem_nil _) rfl
    rw [← split, String.ofList_toList] at hostless
    exact of_decide_eq_true hosted (congrArg Prod.fst hostless)
  case last =>
    rw [← lastOfRest, split, List.getLast?_append_of_ne_nil authority (List.cons_ne_nil '/' path)]
  case plain => exact split ▸ fun c mem => plain c (inStart.subset mem)

/-- A URL without query and fragment that ends in a slash goes on with one more segment. -/
theorem exists_httpTarget? (long : 8 < start.length) (plain : IsPlain start)
    (last : start.getLast? = some '/') (leads : (httpTarget? (.ofList start)).isSome) :
    ∃ before, ∀ s : String, IsPlain s.toList → '/' ∉ s.toList →
      httpTarget? (.ofList (start ++ s.toList)) =
        some ("/" ++ "/".intercalate (resolve before [s])) := by
  obtain ⟨authority, path, parts⟩ := exists_leadsTo long plain last leads
  have chars : (String.ofList ('/' :: path)).toList = '/' :: path := String.toList_ofList
  obtain ⟨before, resolved⟩ := exists_resolvePath (congrArg List.head? chars)
    ((congrArg List.getLast? chars).trans parts.last)
  refine ⟨before, fun s plainSegment single => ?_⟩
  have found : afterScheme? ["http", "https"] (.ofList (start ++ s.toList)) =
      some (.ofList (authority ++ '/' :: (path ++ s.toList))) := by
    rw [afterScheme?_append (length_scheme_lt long), parts.found, Option.map_some,
      String.toList_ofList, List.append_assoc, List.cons_append]
  have plainAll : IsPlain (authority ++ '/' :: (path ++ s.toList)) := by
    rw [← List.cons_append, ← List.append_assoc]
    exact fun c mem => (List.mem_append.1 mem).elim (parts.plain c) (plainSegment c)
  have continued : String.ofList ('/' :: (path ++ s.toList)) = .ofList ('/' :: path) ++ s := by
    rw [← List.cons_append, String.ofList_append, String.ofList_toList]
  rw [httpTarget?, pathAndQuery?_of_isPlain found parts.whole plainAll, if_neg parts.named,
    Option.map_some, ← resolved s single, continued]
  exact congrArg some (String.append_empty)

end

/-! ## The gardens of a client -/

namespace Client

variable {c : Client} {m n s : String}

theorem gardenUrl_eq_append (c : Client) (name : String) :
    c.gardenUrl name = c.gardensUrl ++ Text.encodeSegment name := by
  unfold gardenUrl gardensUrl apiUrl
  simp only [String.append_assoc]

theorem gardenUrl_inj : c.gardenUrl m = c.gardenUrl n ↔ m = n := by
  rw [gardenUrl_eq_append, gardenUrl_eq_append, String.append_right_inj, Text.encodeSegment_inj]

theorem gardenUrl_eq_gardensUrl_iff : c.gardenUrl m = c.gardensUrl ↔ m = "" := by
  have unnamed : c.gardensUrl = c.gardenUrl "" :=
    (gardenUrl_eq_append c "").trans String.append_empty |>.symm
  rw [unnamed, gardenUrl_inj]

/-- The URL is the one of all gardens with a segment that stands for the name. -/
def Addresses (c : Client) (name url : String) : Prop :=
  ∃ s, Text.IsSegmentOf s name ∧ url = c.gardensUrl ++ s

/-- What is sent to the URL goes to where all gardens are and a segment that stands for the name. -/
def Reaches (c : Client) (name url : String) : Prop :=
  ∃ s, Text.IsSegmentOf s name ∧ httpTarget? url = (httpTarget? c.gardensUrl).map (· ++ s)

theorem addresses_gardenUrl_iff : c.Addresses n (c.gardenUrl m) ↔ m = n ∧ n ≠ "" := by
  unfold Addresses
  rw [gardenUrl_eq_append, ← Text.isSegmentOf_encodeSegment_iff]
  constructor
  · rintro ⟨s, segment, e⟩
    rwa [(String.append_right_inj _).1 e]
  · exact fun segment => ⟨_, segment, rfl⟩

/-- The address of the client has neither a query nor a fragment. -/
def IsPlain (c : Client) : Prop := GardenAdmin.IsPlain c.baseUrl.toList

instance (c : Client) : Decidable c.IsPlain :=
  inferInstanceAs (Decidable (GardenAdmin.IsPlain c.baseUrl.toList))

theorem exists_httpTarget?_gardenUrl (plain : c.IsPlain)
    (leads : (httpTarget? c.gardensUrl).isSome) :
    ∃ before, ∀ m, httpTarget? (c.gardenUrl m) =
      some ("/" ++ "/".intercalate (resolve before [Text.encodeSegment m])) := by
  have start : c.gardensUrl = .ofList (c.baseUrl ++ "/api/v1/gardens/").toList := by
    rw [String.ofList_toList]
    unfold gardensUrl apiUrl
    rw [String.append_assoc]
    rfl
  have path : "/api/v1/gardens/".toList = "/api/v1/gardens".toList ++ ['/'] := by decide
  have long : "/api/v1/gardens/".toList.length = 16 := by decide
  have plainPath : GardenAdmin.IsPlain "/api/v1/gardens/".toList := by decide
  rw [start] at leads
  rw [String.toList_append] at leads
  obtain ⟨before, resolved⟩ := exists_httpTarget? (by rw [List.length_append]; omega)
    (fun ch mem => (List.mem_append.1 mem).elim (plain ch) (plainPath ch))
    (by rw [path, ← List.append_assoc, List.getLast?_concat]) leads
  refine ⟨before, fun m => ?_⟩
  rw [gardenUrl_eq, String.toList_append]
  exact resolved _ (fun ch mem => (Text.isPlain_of_mem_encodeSegment mem).2)
    fun mem => (Text.isPlain_of_mem_encodeSegment mem).1 rfl

/-- The requests for a garden go to its own segment of the path of all gardens, unless no segment can
stand for it. -/
theorem reaches_gardenUrl_iff (plain : c.IsPlain) (leads : (httpTarget? c.gardensUrl).isSome) :
    c.Reaches n (c.gardenUrl m) ↔ m = n ∧ n ∉ ["", ".", ".."] := by
  obtain ⟨before, target⟩ := exists_httpTarget?_gardenUrl plain leads
  have all : httpTarget? c.gardensUrl = some ("/" ++ "/".intercalate (resolve before [""])) := by
    rw [← gardenUrl_eq_gardensUrl_iff.2 rfl]
    exact target ""
  simp only [Reaches, target, all, Option.map_some, Option.some.injEq, String.append_assoc,
    String.append_right_inj]
  exact exists_isSegmentOf_resolve_iff

end Client

end GardenAdmin
