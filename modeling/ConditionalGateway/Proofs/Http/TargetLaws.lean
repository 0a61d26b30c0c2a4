import ConditionalGateway.Http.Header
import ConditionalGateway.Proofs.ExceptLaws
import ConditionalGateway.Proofs.Http.PathQueryLaws
import ConditionalGateway.Proofs.Text.Encoding

/-!
# Targets and their paths

A target takes a new path if it has one at all, and if the new one, glued to the
query that there is, can be read as a path with a query (`Target.takes_iff`). A
path and a query that were read once can be glued to other texts: whether the
whole is legible depends on the text in front alone, but for a quotation mark,
which a path may have and a query may not (`legible_append_iff`). A path of its
own can always be the value of a header (`HeaderValue.ofString?_pathChars`).
-/

namespace ConditionalGateway.Http

open Text (byteLength)

-- ---------------------------------------------------------------------------
-- Paths
-- ---------------------------------------------------------------------------

section
variable {path : String}

def Rooted (path : String) : Prop := path.toList.head? = some '/'

theorem Rooted.append (h : Rooted path) (more : String) : Rooted (path ++ more) := by
  unfold Rooted at h ⊢
  rw [String.toList_append, List.head?_append, h]
  rfl

theorem PathQuery.ofChars_path (h : PathQuery.ofChars cs = .ok pq) :
    pq.path = String.ofList ((beforeFragment cs).takeWhile (· ≠ '?')) := by
  unfold PathQuery.ofChars at h
  simp only at h
  split at h
  · cases h
  · split at h <;> split at h <;> cases h <;> rfl

theorem PathQuery.ofString_rooted (h : PathQuery.ofString path = .ok pq) (hp : Rooted path) :
    Rooted pq.path := by
  unfold Rooted at hp ⊢
  rw [ofChars_path h, String.toList_ofList, List.head?_takeWhile, beforeFragment,
    List.head?_takeWhile, hp]
  rfl

theorem Rooted.ne_empty (h : Rooted path) : path ≠ "" := by
  rintro rfl
  cases h

theorem PathQuery.shownPath_eq {pq : PathQuery} (h : pq.path ≠ "") : pq.shownPath = pq.path :=
  if_neg (by simpa [String.isEmpty_iff] using h)

theorem PathQuery.shownPath_pos (pq : PathQuery) : 0 < pq.shownPath.utf8ByteSize := by
  unfold shownPath
  split
  · decide
  · rename_i h
    simpa [String.isEmpty_iff_utf8ByteSize_eq_zero, Nat.pos_iff_ne_zero] using h

-- ---------------------------------------------------------------------------
-- Targets with other paths
-- ---------------------------------------------------------------------------

/-- The text that is read for a new path: the path with the query that there is. -/
def Target.pathText (t : Target) (path : String) : String :=
  match t.query? with
  | none => path
  | some q => path ++ "?" ++ q

def Target.withPathQuery? : Target → PathQuery → Option Target
  | .origin _, pq => some (.origin pq)
  | .absolute s a _, pq => some (.absolute s a pq)
  | .authority _, _ => none

theorem Target.withPath?_eq_some {t t' : Target} : t.withPath? path = some t' ↔
    ∃ pq, PathQuery.ofString (t.pathText path) = .ok pq ∧ t.withPathQuery? pq = some t' := by
  unfold Target.withPath? Target.pathText
  cases t.query?
  all_goals
    simp only
    generalize PathQuery.ofString _ = parsed
    cases parsed <;> cases t <;> simp [withPathQuery?]

theorem Rooted.pathText (h : Rooted path) (t : Target) : Rooted (t.pathText path) := by
  unfold Target.pathText
  split
  · exact h
  · rw [String.append_assoc]
    exact h.append _

theorem Target.withPathQuery?_eq_some {t t' : Target} (h : t.withPathQuery? pq = some t') :
    t'.path = pq.shownPath ∧ t'.query? = pq.query ∧ t'.scheme? = t.scheme? ∧
      t'.authority? = t.authority? := by
  cases t <;> cases h <;> exact ⟨rfl, rfl, rfl, rfl⟩

theorem Target.withPath?_frame {t t' : Target} (h : t.withPath? path = some t') :
    t'.scheme? = t.scheme? ∧ t'.authority? = t.authority? ∧ (Rooted path → Rooted t'.path) := by
  obtain ⟨pq, hpq, ht⟩ := Target.withPath?_eq_some.mp h
  obtain ⟨hpath, -, hs, ha⟩ := Target.withPathQuery?_eq_some ht
  refine ⟨hs, ha, fun hp => ?_⟩
  have hroot := PathQuery.ofString_rooted hpq (hp.pathText t)
  rwa [hpath, PathQuery.shownPath_eq hroot.ne_empty]

theorem Target.withPath?_path_pos {t t' : Target} (h : t.withPath? path = some t') :
    0 < t.path.utf8ByteSize := by
  obtain ⟨_, -, h⟩ := Target.withPath?_eq_some.mp h
  cases t with
  | origin pq => exact pq.shownPath_pos
  | absolute _ _ pq => exact pq.shownPath_pos
  | authority => cases h

end

def queryChars : Option String → List Char
  | none => []
  | some q => '?' :: q.toList

theorem queryPart_queryChars (h : ∀ q ∈ query, '#' ∉ q.toList) :
    (queryPart (queryChars query)).map .ofList = query := by
  cases query with
  | none => rfl
  | some q =>
    have hq : '#' ∉ '?' :: q.toList := by simpa using h q rfl
    simp [queryChars, queryPart, beforeFragment_self hq]

@[simp] theorem pathPart_queryChars (query : Option String) : pathPart (queryChars query) = [] := by
  cases query <;> simp [queryChars, pathPart, beforeFragment]

theorem pathPart_append_queryPart (cs : List Char) :
    pathPart cs ++ queryChars ((queryPart cs).map .ofList) = beforeFragment cs := by
  have hsplit := List.takeWhile_append_dropWhile (p := (· ≠ '?')) (l := beforeFragment cs)
  have hhead := List.head?_dropWhile_not (· ≠ '?') (beforeFragment cs)
  unfold pathPart queryPart
  split
  · rename_i hd
    rw [hd] at hsplit
    simpa [queryChars] using hsplit
  · rename_i c q hd
    rw [hd] at hsplit hhead
    obtain rfl : c = '?' := by simpa using hhead
    simpa [queryChars] using hsplit

theorem Target.pathText_toList (t : Target) (path : String) :
    (t.pathText path).toList = path.toList ++ queryChars t.query? := by
  unfold Target.pathText
  cases t.query? <;> simp [queryChars]

theorem Target.byteLength_pathText (t : Target) (path : String) : (t.pathText path).utf8ByteSize =
    byteLength path.toList + byteLength (queryChars t.query?) := by
  rw [← Text.byteLength_toList, pathText_toList, Text.byteLength_append]

-- ---------------------------------------------------------------------------
-- Targets that were read
-- ---------------------------------------------------------------------------

/-- The path and the query were read from some text. -/
def PathQuery.IsRead (pq : PathQuery) : Prop := ∃ cs, PathQuery.ofChars cs = .ok pq

def Target.IsRead : Target → Prop
  | .origin pq => pq.IsRead
  | .absolute _ _ pq => pq.IsRead
  | .authority _ => True

theorem PathQuery.IsRead.path {pq : PathQuery} (h : pq.IsRead) : Unmarked pq.shownPath.toList := by
  obtain ⟨cs, h⟩ := h
  obtain ⟨-, -, rfl⟩ := PathQuery.ofChars_ok_iff.mp h
  unfold shownPath
  split
  · exact ⟨by decide, by decide⟩
  · rw [String.toList_ofList]
    exact unmarked_pathPart cs

theorem PathQuery.IsRead.query {pq : PathQuery} (h : pq.IsRead) :
    ∀ q ∈ pq.query, '#' ∉ q.toList := by
  obtain ⟨cs, h⟩ := h
  obtain ⟨-, -, rfl⟩ := PathQuery.ofChars_ok_iff.mp h
  rintro _ hq
  obtain ⟨q, hpart, rfl⟩ := Option.map_eq_some_iff.mp (Option.mem_def.mp hq)
  rw [String.toList_ofList]
  exact notMem_queryPart hpart

theorem Target.IsRead.path {t : Target} (h : t.IsRead) : Unmarked t.path.toList := by
  cases t with
  | origin => exact PathQuery.IsRead.path h
  | absolute => exact PathQuery.IsRead.path h
  | authority => exact ⟨nofun, nofun⟩

theorem Target.IsRead.query {t : Target} (h : t.IsRead) : ∀ q ∈ t.query?, '#' ∉ q.toList := by
  cases t with
  | origin => exact PathQuery.IsRead.query h
  | absolute => exact PathQuery.IsRead.query h
  | authority => nofun

-- ---------------------------------------------------------------------------
-- Texts that are glued together
-- ---------------------------------------------------------------------------

theorem isQueryChar_iff (h : isPathChar c = true) : isQueryChar c = true ↔ c ≠ '"' := by
  simp only [isPathChar, isQueryChar, Bool.and_eq_true, decide_eq_true_eq] at h ⊢
  exact ⟨fun hc => hc.2, fun hc => ⟨h.1, hc⟩⟩

structure PathChars (cs : List Char) : Prop where
  unmarked : Unmarked cs
  legible : ∀ c ∈ cs, isPathChar c = true

def QueryChars (query : Option String) : Prop :=
  ∀ q ∈ query, '#' ∉ q.toList ∧ ∀ c ∈ q.toList, isQueryChar c = true

theorem PathChars.append (h : PathChars cs) (h' : PathChars cs') : PathChars (cs ++ cs') := by
  obtain ⟨⟨hq, hf⟩, hc⟩ := h
  obtain ⟨⟨hq', hf'⟩, hc'⟩ := h'
  exact ⟨⟨by simp [hq, hq'], by simp [hf, hf']⟩, List.forall_mem_append.mpr ⟨hc, hc'⟩⟩

theorem PathChars.of_append (h : PathChars (cs ++ cs')) : PathChars cs ∧ PathChars cs' := by
  obtain ⟨⟨hq, hf⟩, hc⟩ := h
  obtain ⟨hc, hc'⟩ := List.forall_mem_append.mp hc
  simp only [List.mem_append, not_or] at hq hf
  exact ⟨⟨⟨hq.1, hf.1⟩, hc⟩, ⟨⟨hq.2, hf.2⟩, hc'⟩⟩

theorem pathChars_nil : PathChars [] := ⟨⟨nofun, nofun⟩, nofun⟩

theorem pathChars_root : PathChars ['/'] :=
  ⟨⟨by decide, by decide⟩, List.forall_mem_singleton.mpr (by decide)⟩

theorem QueryChars.notMem (h : QueryChars query) : '#' ∉ queryChars query := by
  cases query with
  | none => exact List.not_mem_nil
  | some q => simpa [queryChars] using (h q rfl).1

theorem QueryChars.legible (h : QueryChars query) : Legible (queryChars query) := by
  have hpart := queryPart_queryChars fun q hq => (h q hq).1
  refine ⟨by simp, fun cs hcs c hc => ?_⟩
  rw [hcs, Option.map_some] at hpart
  refine (h _ hpart.symm).2 c ?_
  rwa [String.toList_ofList]

/-- A text ends in a query, which goes on in whatever is put behind it. -/
def EndsInQuery (cs : List Char) : Prop := '?' ∈ cs ∧ '#' ∉ cs

/-- A path with a query can be glued to any legible text, unless the text ends in a query and the
path has a quotation mark. -/
theorem legible_append_iff (hm : PathChars more) (hq : QueryChars query) :
    Legible (cs ++ (more ++ queryChars query)) ↔
      Legible cs ∧ (EndsInQuery cs → '"' ∉ more) := by
  by_cases hf : '#' ∈ cs
  · exact ⟨fun h => ⟨h.cut, fun he => absurd hf he.2⟩, fun h => h.1.fragment hf _⟩
  cases hpart : queryPart cs with
  | none =>
    have hu := unmarked_of_queryPart hpart hf
    have hcs : Legible cs ↔ ∀ c ∈ cs, isPathChar c = true := by
      rw [← List.append_nil cs, legible_unmarked_append hu, List.append_nil]
      exact and_iff_left ⟨by simp [pathPart, beforeFragment], by simp [queryPart, beforeFragment]⟩
    rw [legible_unmarked_append hu, legible_unmarked_append hm.unmarked, hcs]
    exact and_congr_right fun _ => iff_of_true ⟨hm.legible, hq.legible⟩ fun he => absurd he.1 hu.1
  | some q =>
    have hmark : '?' ∈ cs := by
      by_contra hmark
      have hnone := queryPart_unmarked ⟨hmark, hf⟩ []
      rw [List.append_nil, hpart] at hnone
      cases hnone
    have hall : '#' ∉ cs ++ (more ++ queryChars query) := by
      simp [hf, hm.unmarked.2, hq.notMem]
    have hquery : ∀ c ∈ queryChars query, isQueryChar c = true := by
      cases query with
      | none => simp [queryChars]
      | some q => exact List.forall_mem_cons.mpr ⟨by decide, (hq q rfl).2⟩
    rw [legible_query_append hpart hall, List.forall_mem_append, and_iff_left hquery]
    refine and_congr_right fun _ => ⟨fun h _ hquote => ?_, fun h c hc => ?_⟩
    · exact (isQueryChar_iff (hm.legible _ hquote)).mp (h _ hquote) rfl
    · refine (isQueryChar_iff (hm.legible c hc)).mpr ?_
      rintro rfl
      exact h ⟨hmark, hf⟩ hc

theorem legible_append_query_iff (hq : QueryChars query) :
    Legible (cs ++ queryChars query) ↔ Legible cs := by
  simpa using legible_append_iff pathChars_nil hq

theorem PathChars.read (h : PathChars cs) (hq : QueryChars query) :
    Legible (cs ++ queryChars query) ∧ pathPart (cs ++ queryChars query) = cs ∧
      (queryPart (cs ++ queryChars query)).map .ofList = query := by
  refine ⟨(legible_unmarked_append h.unmarked).mpr ⟨h.legible, hq.legible⟩, ?_, ?_⟩
  · rw [pathPart_unmarked h.unmarked, pathPart_queryChars, List.append_nil]
  · rw [queryPart_unmarked h.unmarked, queryPart_queryChars fun q hm => (hq q hm).1]

theorem PathQuery.IsRead.pathChars {pq : PathQuery} (h : pq.IsRead) :
    PathChars pq.shownPath.toList := by
  refine ⟨h.path, ?_⟩
  obtain ⟨cs, h⟩ := h
  obtain ⟨-, hl, rfl⟩ := PathQuery.ofChars_ok_iff.mp h
  unfold shownPath
  split
  · exact pathChars_root.legible
  · rw [String.toList_ofList]
    exact hl.1

theorem PathQuery.IsRead.queryChars {pq : PathQuery} (h : pq.IsRead) : QueryChars pq.query := by
  intro q hq
  refine ⟨h.query q hq, ?_⟩
  obtain ⟨cs, h⟩ := h
  obtain ⟨-, hl, rfl⟩ := PathQuery.ofChars_ok_iff.mp h
  obtain ⟨q, hpart, rfl⟩ := Option.map_eq_some_iff.mp (Option.mem_def.mp hq)
  rw [String.toList_ofList]
  exact hl.2 q hpart

theorem Target.IsRead.pathChars {t : Target} (h : t.IsRead) : PathChars t.path.toList := by
  cases t with
  | origin => exact PathQuery.IsRead.pathChars h
  | absolute => exact PathQuery.IsRead.pathChars h
  | authority => exact ⟨h.path, nofun⟩

theorem Target.IsRead.queryChars {t : Target} (h : t.IsRead) : QueryChars t.query? := by
  cases t with
  | origin => exact PathQuery.IsRead.queryChars h
  | absolute => exact PathQuery.IsRead.queryChars h
  | authority => nofun

-- ---------------------------------------------------------------------------
-- Which paths a target takes
-- ---------------------------------------------------------------------------

section
variable {path : String}

/-- A target can be given a path: it is no bare authority, and the path with the query is legible
and not too long. -/
structure Target.Takes (t : Target) (path : String) : Prop where
  form : t.scheme? = none → t.authority? = none
  fits : (t.pathText path).utf8ByteSize ≤ maxTargetLength
  legible : Legible (t.pathText path).toList

theorem Target.withPath?_of_takes {t : Target} (h : t.Takes path) :
    ∃ t', t.withPath? path = some t' ∧
      t'.path = (PathQuery.mk (.ofList (pathPart (t.pathText path).toList)) none).shownPath ∧
      t'.query? = (queryPart (t.pathText path).toList).map .ofList := by
  obtain ⟨hform, hfits, hlegible⟩ := h
  have hpq := PathQuery.ofChars_ok_iff.mpr ⟨Text.byteLength_toList _ ▸ hfits, hlegible, rfl⟩
  cases t with
  | origin => exact ⟨_, Target.withPath?_eq_some.mpr ⟨_, hpq, rfl⟩, rfl, rfl⟩
  | absolute => exact ⟨_, Target.withPath?_eq_some.mpr ⟨_, hpq, rfl⟩, rfl, rfl⟩
  | authority => cases hform rfl

theorem Target.takes_iff {t : Target} : t.Takes path ↔ ∃ t', t.withPath? path = some t' := by
  constructor
  · intro h
    obtain ⟨t', ht, -⟩ := Target.withPath?_of_takes h
    exact ⟨t', ht⟩
  · rintro ⟨t', ht⟩
    obtain ⟨pq, hpq, ht⟩ := Target.withPath?_eq_some.mp ht
    obtain ⟨hlen, hlegible, -⟩ := PathQuery.ofChars_ok_iff.mp hpq
    refine ⟨?_, Text.byteLength_toList _ ▸ hlen, hlegible⟩
    cases t with
    | origin => exact fun _ => rfl
    | absolute => exact fun h => nomatch h
    | authority => cases ht

theorem Target.path_ne_empty {t : Target} (h : t.scheme? = none → t.authority? = none) :
    t.path ≠ "" := by
  cases t with
  | origin pq => exact String.utf8ByteSize_eq_zero_iff.not.mp pq.shownPath_pos.ne'
  | absolute _ _ pq => exact String.utf8ByteSize_eq_zero_iff.not.mp pq.shownPath_pos.ne'
  | authority => cases h rfl

theorem Target.pathPart_ne_nil (t : Target) (h : path.toList.head? = some c) (hq : c ≠ '?')
    (hf : c ≠ '#') : pathPart (t.pathText path).toList ≠ [] := by
  obtain ⟨cs, hcs⟩ := List.head?_eq_some_iff.mp h
  simp [Target.pathText_toList, hcs, pathPart, beforeFragment, hq, hf]

theorem Rooted.form {t : Target} (h : Rooted t.path) : t.scheme? = none → t.authority? = none := by
  cases t with
  | origin => exact fun _ => rfl
  | absolute => exact fun hs => nomatch hs
  | authority => cases h

theorem Target.withPath?_pathChars {t : Target} (ht : t.IsRead)
    (hform : t.scheme? = none → t.authority? = none)
    (hfits : (t.pathText path).utf8ByteSize ≤ maxTargetLength) (hp : PathChars path.toList)
    (hne : path ≠ "") :
    ∃ t', t.withPath? path = some t' ∧ t'.path = path ∧ t'.query? = t.query? := by
  obtain ⟨hlegible, hpath, hquery⟩ := hp.read ht.queryChars
  have htakes : t.Takes path := ⟨hform, hfits, t.pathText_toList path ▸ hlegible⟩
  obtain ⟨t', ht', hpath', hquery'⟩ := Target.withPath?_of_takes htakes
  rw [Target.pathText_toList, hpath, String.ofList_toList] at hpath'
  rw [Target.pathText_toList, hquery] at hquery'
  exact ⟨t', ht', hpath'.trans (PathQuery.shownPath_eq hne), hquery'⟩

end

-- ---------------------------------------------------------------------------
-- Paths in headers
-- ---------------------------------------------------------------------------

theorem HeaderValue.ofString?_pathChars {s : String} (h : PathChars s.toList) :
    HeaderValue.ofString? s = some (.ofText s) := by
  refine if_pos (List.all_eq_true.mpr fun b hb => ?_)
  obtain ⟨c, hc, hb⟩ := List.mem_flatMap.mp hb
  have hbyte := Text.toNat_mem_encodeChar hb
  have hlegible := h.legible c hc
  simp only [isPathChar, Bool.and_eq_true, decide_eq_true_eq] at hlegible
  obtain ⟨⟨⟨⟨hlow, hdelete⟩, -⟩, -⟩, -⟩ := hlegible
  have hle : 32 ≤ b := UInt8.le_iff_toNat_le.mpr (show 32 ≤ b.toNat by omega)
  have hne : b ≠ 127 := by
    rintro rfl
    have h127 : (127 : UInt8).toNat = 127 := rfl
    omega
  simp [isValueByte, hle, hne]

end ConditionalGateway.Http
