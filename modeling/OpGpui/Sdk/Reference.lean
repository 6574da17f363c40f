import OpGpui.Library.Collect
import OpGpui.Sdk.Types

/-!
# What a reference text denotes

`SecretReference.parse` runs a scan; `Denotes` is the grammar the scan is for. A
text denotes the segments and the query it is joined from, provided the segments
are legal and the query is neither empty nor contains `#`. `denotes_iff` shows
that a text denotes at most one reading and that the scan finds it.

A reference built by joining legal segments in front of a text reads those
segments back whatever the text is (`denotes_cons`). So the reading of
`SecretReference.forField` is decided by the text after the item segment alone.
-/

namespace Sdk

/-- The text joined from path segments and an optional query. -/
def joined (segments : List String) (query : Option String) : List Char :=
  ['/'].intercalate (segments.map String.toList) ++
    query.elim [] fun text => '?' :: text.toList

/-- The grammar of the text after the scheme. -/
structure Denotes (text : String) (segments : List String) (query : Option String) : Prop where
  some_segment : segments ≠ []
  valid : ∀ segment ∈ segments, ValidSegment segment
  query_text : ∀ text ∈ query, text ≠ "" ∧ '#' ∉ text.toList
  text_eq : text.toList = joined segments query

/-- The reading the scan finds: the pieces of the path, and the query. -/
def reading (text : String) : List String × Option String :=
  (Rust.split (divide text).1 '/', (divide text).2)

theorem ofList_eq_iff {s : String} {cs : List Char} : String.ofList cs = s ↔ cs = s.toList := by
  constructor
  · rintro rfl
    simp
  · rintro rfl
    simp

/-- The division of a text whose path has no question mark. -/
theorem divide_eq_iff {text path : String} {query : Option String} :
    divide text = (path, query) ↔
      '?' ∉ path.toList ∧ text.toList = path.toList ++ query.elim [] fun q => '?' :: q.toList := by
  simp only [divide, Rust.splitOnce]
  cases found : Delimited.splitOnce '?' text.toList with
  | none =>
      have fresh := Delimited.splitOnce_eq_none_iff.mp found
      simp only [Option.map_none, Prod.mk.injEq]
      constructor
      · rintro ⟨rfl, rfl⟩
        simpa using fresh
      · rintro ⟨_, eq⟩
        cases query with
        | none => exact ⟨String.toList_inj.mp (by simpa using eq), rfl⟩
        | some q =>
            rw [eq] at fresh
            simp at fresh
  | some parts =>
      obtain ⟨front, back⟩ := parts
      obtain ⟨fresh, whole⟩ := Delimited.splitOnce_eq_some_iff.mp found
      simp only [Option.map_some, Prod.mk.injEq, ofList_eq_iff]
      constructor
      · rintro ⟨rfl, rfl⟩
        simpa [whole] using fresh
      · rintro ⟨unmarked, eq⟩
        cases query with
        | none =>
            simp only [Option.elim_none, List.append_nil] at eq
            rw [← eq, whole] at unmarked
            simp at unmarked
        | some q =>
            have again : Delimited.splitOnce '?' text.toList = some (path.toList, q.toList) :=
              Delimited.splitOnce_eq_some_iff.mpr ⟨unmarked, eq⟩
            rw [found] at again
            obtain ⟨rfl, rfl⟩ := Prod.mk.inj (Option.some.inj again)
            exact ⟨rfl, congrArg some (by simp)⟩

/-- The division of a text puts it back together. -/
theorem divide_spec (text : String) :
    '?' ∉ (divide text).1.toList ∧
      text.toList = (divide text).1.toList ++ (divide text).2.elim [] fun q => '?' :: q.toList :=
  divide_eq_iff.mp rfl

theorem split_eq_iff {path : String} {segments : List String} :
    Rust.split path '/' = segments ↔
      segments ≠ [] ∧ (∀ segment ∈ segments, '/' ∉ segment.toList) ∧
        path.toList = ['/'].intercalate (segments.map String.toList) := by
  have lists : Rust.split path '/' = segments ↔
      path.toList.splitOn '/' = segments.map String.toList := by
    simp only [Rust.split]
    constructor
    · rintro rfl
      simp [List.map_map, Function.comp_def]
    · intro h
      simp [h, List.map_map, Function.comp_def]
  rw [lists, Delimited.splitOn_eq_iff]
  simp

/-- The scan decides the grammar, and no text has a second reading. -/
theorem denotes_iff {text : String} {segments : List String} {query : Option String} :
    Denotes text segments query ↔
      reading text = (segments, query) ∧ '#' ∉ text.toList ∧ query ≠ some "" ∧
        ∀ segment ∈ segments, ValidSegment segment := by
  constructor
  · rintro ⟨some, valid, queryText, eq⟩
    have clear (c : Char) (path : c ≠ '/') (h : ∀ s ∈ segments, c ∉ s.toList) :
        c ∉ ['/'].intercalate (segments.map String.toList) := by
      rw [Delimited.mem_intercalate]
      simpa [path] using h
    have mark := clear '?' (by decide) fun s member => (validSegment_iff.mp (valid s member)).2.2.1
    have hash := clear '#' (by decide) fun s member => (validSegment_iff.mp (valid s member)).2.2.2
    have divided : divide text =
        (String.ofList (['/'].intercalate (segments.map String.toList)), query) :=
      divide_eq_iff.mpr ⟨by simpa using mark, by simpa [joined] using eq⟩
    refine ⟨?_, ?_, ?_, valid⟩
    · simp only [reading, divided, Prod.mk.injEq, and_true]
      exact split_eq_iff.mpr
        ⟨some, fun s member => (validSegment_iff.mp (valid s member)).2.1, by simp⟩
    · rw [eq, joined, List.mem_append, not_or]
      refine ⟨hash, ?_⟩
      cases query with
      | none => simp
      | some q => simpa using (queryText q rfl).2
    · rintro rfl
      exact (queryText "" rfl).1 rfl
  · rintro ⟨read, hash, query_ne, valid⟩
    obtain ⟨segmentsEq, queryEq⟩ := Prod.mk.inj read
    obtain ⟨_, whole⟩ := divide_spec text
    obtain ⟨some, _, path⟩ := split_eq_iff.mp segmentsEq
    rw [queryEq] at whole
    refine ⟨some, valid, ?_, by rw [joined, ← path, ← whole]⟩
    rintro q rfl
    refine ⟨fun empty => query_ne (by rw [empty]), fun member => hash ?_⟩
    rw [whole]
    simp [member]

/-- A legal segment in front is read off and leaves the rest of the reading alone. -/
theorem reading_cons {segment rest : String} (valid : ValidSegment segment) :
    reading (segment ++ "/" ++ rest) = (segment :: (reading rest).1, (reading rest).2) := by
  obtain ⟨_, slash, mark, _⟩ := validSegment_iff.mp valid
  obtain ⟨unmarked, whole⟩ := divide_spec rest
  have divided : divide (segment ++ "/" ++ rest) =
      (segment ++ "/" ++ (divide rest).1, (divide rest).2) := by
    refine divide_eq_iff.mpr ⟨by simp [mark, unmarked], ?_⟩
    simp only [String.toList_append, whole, List.append_assoc]
  simp only [reading, divided, Prod.mk.injEq, and_true]
  obtain ⟨some, fresh, path⟩ :=
    split_eq_iff.mp (rfl : Rust.split (divide rest).1 '/' = Rust.split (divide rest).1 '/')
  refine split_eq_iff.mpr ⟨by simp, ?_, ?_⟩
  · intro s member
    obtain rfl | later := List.mem_cons.mp member
    · exact slash
    · exact fresh s later
  · obtain ⟨first, others, pieces⟩ := List.exists_cons_of_ne_nil some
    rw [pieces] at path ⊢
    simp [path, List.intercalate_cons_cons]

theorem denotes_cons {segment rest : String} {segments : List String} {query : Option String}
    (valid : ValidSegment segment) :
    Denotes (segment ++ "/" ++ rest) segments query ↔
      ∃ others, segments = segment :: others ∧ Denotes rest others query := by
  obtain ⟨_, _, _, hash⟩ := validSegment_iff.mp valid
  have clear : '#' ∉ (segment ++ "/" ++ rest).toList ↔ '#' ∉ rest.toList := by
    simp [hash]
  simp only [denotes_iff, reading_cons valid, clear, Prod.mk.injEq]
  constructor
  · rintro ⟨⟨rfl, rfl⟩, rest⟩
    exact ⟨_, rfl, ⟨rfl, rest.1, rest.2.1, fun s member => rest.2.2 s (.tail _ member)⟩⟩
  · rintro ⟨others, rfl, ⟨read, fresh, query_ne, legal⟩⟩
    obtain ⟨rfl, rfl⟩ := Prod.mk.inj read
    refine ⟨⟨rfl, rfl⟩, fresh, query_ne, ?_⟩
    intro s member
    obtain rfl | later := List.mem_cons.mp member
    · exact valid
    · exact legal s later

theorem stripPrefix_eq_some_iff {value start rest : String} :
    Rust.stripPrefix value start = some rest ↔ value = start ++ rest := by
  simp only [Rust.stripPrefix]
  simp only [Option.map_eq_some_iff, List.dropPrefix?_eq_some_iff, beq_iff_eq,
    ofList_eq_iff]
  constructor
  · rintro ⟨_, whole, rfl⟩
    exact String.toList_inj.mp (by simpa using whole)
  · rintro rfl
    exact ⟨rest.toList, by simp, rfl⟩

/-- `parse` accepts exactly the scheme followed by a text that denotes three or
four segments. -/
theorem checkReference_eq_ok_iff {value : String} :
    checkReference value = .ok () ↔ ∃ text segments query, value = "op://" ++ text ∧
      (segments.length = 3 ∨ segments.length = 4) ∧ Denotes text segments query := by
  simp only [checkReference]
  cases stripped : Rust.stripPrefix value "op://" with
  | none =>
      simp only [reduceCtorEq, false_iff]
      rintro ⟨text, segments, query, rfl, _⟩
      simp [stripPrefix_eq_some_iff.mpr rfl] at stripped
  | some text =>
      obtain rfl := stripPrefix_eq_some_iff.mp stripped
      simp only [Rust.containsChar, List.contains_iff_mem]
      constructor
      · intro h
        split at h
        · contradiction
        split at h
        · contradiction
        split at h
        · rename_i hash query_ne count
          exact ⟨text, _, _, rfl, count, denotes_iff.mpr
            ⟨rfl, hash, query_ne, Collect.forM_eq_ok_iff.mp h⟩⟩
        · contradiction
      · rintro ⟨text', segments, query, eq, count, denotes⟩
        obtain rfl : text = text' := by simpa using eq
        obtain ⟨read, hash, query_ne, valid⟩ := denotes_iff.mp denotes
        obtain ⟨rfl, rfl⟩ := Prod.mk.inj read
        rw [if_neg hash, if_neg query_ne, if_pos count]
        exact Collect.forM_eq_ok_iff.mpr valid

namespace SecretReference

/-- The text after the scheme. -/
def pathAndQuery (reference : SecretReference) : String :=
  (Rust.stripPrefix reference.asStr "op://").getD ""

/-- The pieces of the path between slashes. -/
def segments (reference : SecretReference) : List String := (reading reference.pathAndQuery).1

/-- The query part, if there is one. -/
def query (reference : SecretReference) : Option String := (reading reference.pathAndQuery).2

theorem pathAndQuery_eq {reference : SecretReference} {text : String}
    (eq : reference.asStr = "op://" ++ text) : reference.pathAndQuery = text := by
  rw [pathAndQuery, eq, stripPrefix_eq_some_iff.mpr rfl, Option.getD_some]

/-- Every reference denotes its segments and its query, and has three or four segments. -/
theorem denotes (reference : SecretReference) :
    Denotes reference.pathAndQuery reference.segments reference.query ∧
      (reference.segments.length = 3 ∨ reference.segments.length = 4) := by
  obtain ⟨text, segments, query, eq, count, denotes⟩ :=
    checkReference_eq_ok_iff.mp reference.accepted
  obtain rfl := pathAndQuery_eq eq
  have read := (denotes_iff.mp denotes).1
  rw [SecretReference.segments, SecretReference.query, read]
  exact ⟨denotes, count⟩

theorem asStr_eq (reference : SecretReference) :
    reference.asStr = "op://" ++ reference.pathAndQuery := by
  obtain ⟨text, _, _, eq, _⟩ := checkReference_eq_ok_iff.mp reference.accepted
  rw [pathAndQuery_eq eq, eq]

end SecretReference

end Sdk
