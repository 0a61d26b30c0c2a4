import ConditionalGateway.Proofs.Http.TargetLaws
import ConditionalGateway.Proofs.Pipeline.Frame

/-!
# Which links for paths keep the query

A link for paths glues its new path to the query of a request and reads both
again. The path and the query of a request hold no mark that ends a path or a
query (`Target.IsRead`), so only a text of the configuration can come between
them: one with a question mark or a number sign takes the place of the query
(`Displaces`), unless it is too long for anything to be read behind it.

`keepsQuery_iff`: a link for paths keeps the query of every request, and changes
nothing of it outside its frame, exactly if its descriptor displaces no query.
-/

namespace ConditionalGateway.Http

open Text (byteLength)

-- ---------------------------------------------------------------------------
-- Displaced queries
-- ---------------------------------------------------------------------------

/-- A text displaces the query of the targets it is written into: it is read with a query of its
own, or with a fragment that cuts the other one off, and at least `room` bytes more can be read
behind it. -/
def Displaces (text : String) (room : Nat) : Prop :=
  ∃ pq, PathQuery.ofString text = .ok pq ∧
    (pq.query ≠ none ∧ text.utf8ByteSize + room ≤ maxTargetLength ∨
      '#' ∈ text.toList ∧ text.utf8ByteSize + room + 1 ≤ maxTargetLength)

theorem displaces_iff : Displaces text room ↔ Legible text.toList ∧
    (queryPart text.toList ≠ none ∧ text.utf8ByteSize + room ≤ maxTargetLength ∨
      '#' ∈ text.toList ∧ text.utf8ByteSize + room + 1 ≤ maxTargetLength) := by
  simp only [Displaces, PathQuery.ofString, PathQuery.ofChars_ok_iff, Text.byteLength_toList]
  constructor
  · rintro ⟨_, ⟨-, hl, rfl⟩, h⟩
    exact ⟨hl, by simpa using h⟩
  · rintro ⟨hl, h⟩
    exact ⟨_, ⟨by omega, hl, rfl⟩, by simpa using h⟩

theorem Target.withPath?_query {t t' : Target} (ht : t.IsRead) (hd : ¬ Displaces text room)
    (hm : Unmarked more.toList) (hroom : room ≤ more.utf8ByteSize)
    (h : t.withPath? (text ++ more) = some t') : t'.query? = t.query? := by
  obtain ⟨pq, hpq, ht'⟩ := Target.withPath?_eq_some.mp h
  have hq : t'.query? = pq.query := by
    cases t <;> cases ht' <;> rfl
  rw [PathQuery.ofString, pathText_toList, String.toList_append, List.append_assoc,
    PathQuery.ofChars_ok_iff] at hpq
  obtain ⟨hlen, hlegible, rfl⟩ := hpq
  rw [hq]
  simp only [Text.byteLength_append, Text.byteLength_toList] at hlen
  have hd' := fun h => hd (displaces_iff.mpr ⟨hlegible.cut, h⟩)
  have hnone : queryPart text.toList = none := by
    by_contra hne
    exact hd' (.inl ⟨hne, by omega⟩)
  by_cases hf : '#' ∈ text.toList
  · -- then nothing is read as a query, and there was none to lose
    cases hquery : t.query? with
    | none => rw [queryPart_fragment hf, hnone]; rfl
    | some q =>
      refine (hd' (.inr ⟨hf, ?_⟩)).elim
      simp only [hquery, queryChars, Text.byteLength_cons] at hlen
      have := Char.utf8Size_pos '?'
      omega
  · rw [queryPart_unmarked (unmarked_of_queryPart hnone hf), queryPart_unmarked hm,
      queryPart_queryChars ht.query]

theorem Target.withPath?_root {path : String} (hcs : path.toList ++ queryChars query = cs)
    (hlen : byteLength cs ≤ maxTargetLength) (hlegible : Legible cs) :
    ∃ t', (Target.origin ⟨"/", query⟩).withPath? path = some t' ∧
      t'.query? = (queryPart cs).map .ofList := by
  refine ⟨.origin ⟨.ofList (pathPart cs), (queryPart cs).map .ofList⟩,
    Target.withPath?_eq_some.mpr ⟨_, ?_, rfl⟩, rfl⟩
  rw [PathQuery.ofString, Target.pathText_toList]
  exact PathQuery.ofChars_ok_iff.mpr ⟨hcs ▸ hlen, hcs ▸ hlegible, hcs ▸ rfl⟩

/-- A query is lost where a text is written that displaces it: a target without a query gets one, or
one with an empty query has none afterwards. -/
theorem Displaces.withPath? (h : Displaces text room) (more : String)
    (hroom : more.utf8ByteSize ≤ room) (hc : ∀ c ∈ more.toList, isQueryChar c = true) :
    ∃ query t', PathQuery.IsRead ⟨"/", query⟩ ∧
      (Target.origin ⟨"/", query⟩).withPath? (text ++ more) = some t' ∧ t'.query? ≠ query := by
  obtain ⟨hlegible, h⟩ := displaces_iff.mp h
  cases hq : queryPart text.toList with
  | some q =>
    have hcs : (text ++ more).toList ++ queryChars none = text.toList ++ more.toList := by
      simp [queryChars]
    have hlen : byteLength (text.toList ++ more.toList) ≤ maxTargetLength := by
      simp only [Text.byteLength_append, Text.byteLength_toList]
      omega
    obtain ⟨tail, -, -, hq'⟩ := queryPart_append hq more.toList
    obtain ⟨t', ht, hquery⟩ := Target.withPath?_root hcs hlen (hlegible.query hq hc)
    exact ⟨none, t', ⟨['/'], by decide⟩, ht, by simp [hquery, hq']⟩
  | none =>
    obtain ⟨hf, hbound⟩ := h.resolve_left fun h => h.1 hq
    have hcs : (text ++ more).toList ++ queryChars (some "") =
        text.toList ++ (more.toList ++ ['?']) := by simp [queryChars]
    have hlen : byteLength (text.toList ++ (more.toList ++ ['?'])) ≤ maxTargetLength := by
      have hmark : byteLength ['?'] = 1 := by decide
      simp only [Text.byteLength_append, Text.byteLength_toList, hmark]
      omega
    obtain ⟨t', ht, hquery⟩ := Target.withPath?_root hcs hlen (hlegible.fragment hf _)
    refine ⟨some "", t', ⟨['/', '?'], by decide⟩, ht, ?_⟩
    simp [hquery, queryPart_fragment hf, hq]

end ConditionalGateway.Http

namespace ConditionalGateway.Pipeline

open Http RateLimit

-- ---------------------------------------------------------------------------
-- Edits of the path
-- ---------------------------------------------------------------------------

variable {r r' : Request} {path : String}

theorem setPath?_query (hr : r.target.IsRead) (hd : ¬ Displaces text room)
    (hm : Unmarked more.toList) (hroom : 0 < r.target.path.utf8ByteSize → room ≤ more.utf8ByteSize)
    (h : setPath? r (text ++ more) = some r') : r'.target.query? = r.target.query? := by
  obtain ⟨target, ht, rfl⟩ := Option.map_eq_some_iff.mp h
  exact Target.withPath?_query hr hd hm (hroom (Target.withPath?_path_pos ht)) ht

theorem stripFirst?_unmarked (h : stripFirst? prefixes path = some (pre, rest))
    (hp : Unmarked path.toList) : Unmarked rest.toList := by
  unfold stripFirst? at h
  obtain ⟨_, _, hfound⟩ := List.exists_of_findSome?_eq_some h
  obtain ⟨behind, hdrop, heq⟩ := Option.map_eq_some_iff.mp hfound
  cases heq
  unfold dropPrefix? at hdrop
  split at hdrop
  · cases hdrop
    have hb : Unmarked (path.toList.drop pre.toList.length) :=
      ⟨fun h => hp.1 (List.mem_of_mem_drop h), fun h => hp.2 (List.mem_of_mem_drop h)⟩
    split
    · simpa using hb
    · simpa [Unmarked] using hb
  · cases hdrop

theorem stripRequest_query (hr : r.target.IsRead) :
    (stripRequest prefixes r).target.query? = r.target.query? := by
  unfold stripRequest
  split
  · rfl
  · rename_i pre rest hrest
    split
    · rfl
    · rename_i hset
      have hd : ¬ Displaces "" 0 := by simp [displaces_iff, queryPart, beforeFragment]
      rw [setHeader_target]
      refine setPath?_query hr hd (stripFirst?_unmarked hrest hr.path) (fun _ => Nat.zero_le _) ?_
      rwa [String.empty_append]

theorem addRequest_query (hr : r.target.IsRead) (hd : ¬ Displaces pre 1) :
    (addRequest pre r).target.query? = r.target.query? := by
  unfold addRequest
  cases hset : setPath? r (pre ++ r.target.path) with
  | none => rfl
  | some r' =>
    exact setPath?_query hr hd hr.path id hset

theorem replaceRequest_query (hr : r.target.IsRead) (hd : ¬ Displaces path 0) :
    (replaceRequest path r).target.query? = r.target.query? := by
  unfold replaceRequest
  split
  · rfl
  · rename_i hset
    rw [setHeader_target]
    rw [← String.append_empty (s := path)] at hset
    exact setPath?_query hr hd (by simp [Unmarked]) (fun _ => Nat.zero_le _) hset

def rootRequest (query : Option String) : Request :=
  { (default : Request) with target := .origin ⟨"/", query⟩ }

theorem addRequest_displaces (hd : Displaces pre 1) : ∃ r : Request, r.target.IsRead ∧
    (addRequest pre r).target.query? ≠ r.target.query? := by
  obtain ⟨query, t', hread, ht, hne⟩ := hd.withPath? "/" (by decide) (by simp; decide)
  refine ⟨rootRequest query, hread, ?_⟩
  have hpath : (rootRequest query).target.path = "/" := rfl
  rw [addRequest, setPath?, hpath, rootRequest, ht]
  exact hne

theorem replaceRequest_displaces (hd : Displaces path 0) : ∃ r : Request, r.target.IsRead ∧
    (replaceRequest path r).target.query? ≠ r.target.query? := by
  obtain ⟨query, t', hread, ht, hne⟩ := hd.withPath? "" (by decide) (by simp)
  refine ⟨rootRequest query, hread, ?_⟩
  rw [String.append_empty] at ht
  have hset : setPath? (rootRequest query) path = some { rootRequest query with target := t' } := by
    rw [setPath?, rootRequest, ht]
    rfl
  rwa [replaceRequest, hset, setHeader_target]

-- ---------------------------------------------------------------------------
-- Links
-- ---------------------------------------------------------------------------

/-- What a descriptor puts in front of a path, or in its place, displaces queries. A path that is
put behind a prefix has one byte at least. -/
def Descriptor.Displaces : Descriptor → Prop
  | .addPrefix pre => Http.Displaces (dropSlashes pre) 1
  | .replacePath path => Http.Displaces path 0
  | _ => False

variable {Q : Type} [Amount Q]

variable (Q) in
/-- A link hands every request on with the query it came with, and within the link's frame. -/
def Builtin.KeepsQuery (l : Builtin) : Prop :=
  ∀ (r : Request) (w : World Q), r.target.IsRead →
    ∃ r', l.receive r w = (.pass r' unedited, w) ∧ Frame l.Edits r r' ∧
      r'.target.query? = r.target.query?

theorem Builtin.keepsQuery_of_edit {l : Builtin} {edit : Request → Request}
    (hm : Descriptor.Makes d l)
    (hl : ∀ r (w : World Q), l.receive r w = (.pass (edit r) unedited, w)) :
    l.KeepsQuery Q ↔
      ∀ r : Request, r.target.IsRead → (edit r).target.query? = r.target.query? := by
  constructor
  · intro h r hr
    obtain ⟨r', hpass, -, hquery⟩ := h r {} hr
    cases (hl r {}).symm.trans hpass
    exact hquery
  · intro h r w hr
    exact ⟨_, hl r w, Builtin.receive_frame hm (hl r w), h r hr⟩

/-- A link for paths keeps the query of every request if and only if its descriptor displaces none.
A prefix that is stripped never does. -/
theorem keepsQuery_iff {l : Builtin} (hm : Descriptor.Makes d l)
    (hk : d.kind = .stripPrefix ∨ d.kind = .addPrefix ∨ d.kind = .replacePath) :
    l.KeepsQuery Q ↔ ¬ d.Displaces := by
  cases hm with
  | headers => simp [Descriptor.kind] at hk
  | rateLimit => simp [Descriptor.kind] at hk
  | stripPrefix hc =>
    have hmade := Descriptor.Makes.stripPrefix hc
    obtain rfl := checkStrip_ok hc
    rw [Builtin.keepsQuery_of_edit hmade fun r w => rfl]
    exact iff_of_true (fun r hr => stripRequest_query hr) id
  | addPrefix hc =>
    have hmade := Descriptor.Makes.addPrefix hc
    obtain ⟨rfl, -⟩ := checkAdd_ok hc
    rw [Builtin.keepsQuery_of_edit hmade fun r w => rfl]
    refine ⟨fun h hd => ?_, fun hd r hr => addRequest_query hr hd⟩
    obtain ⟨r, hr, hne⟩ := addRequest_displaces hd
    exact hne (h r hr)
  | replacePath hc =>
    have hmade := Descriptor.Makes.replacePath hc
    obtain ⟨rfl, -⟩ := checkReplace_ok hc
    rw [Builtin.keepsQuery_of_edit hmade fun r w => rfl]
    refine ⟨fun h hd => ?_, fun hd r hr => replaceRequest_query hr hd⟩
    obtain ⟨r, hr, hne⟩ := replaceRequest_displaces hd
    exact hne (h r hr)

theorem keepsQuery_iff_slash : Descriptor.Makes (.addPrefix "/api/") (.addPrefix "/api") ∧
    (Builtin.addPrefix "/api").KeepsQuery Float := by
  have hm : Descriptor.Makes (.addPrefix "/api/") (.addPrefix "/api") := .addPrefix (by cbv)
  have hd : ¬ (Descriptor.addPrefix "/api/").Displaces := by
    have htext : dropSlashes "/api/" = "/api" := by decide
    rw [Descriptor.Displaces, htext, displaces_iff]
    rintro ⟨-, ⟨hquery, -⟩ | ⟨hfragment, -⟩⟩
    · exact hquery (by decide)
    · revert hfragment
      decide
  exact ⟨hm, (keepsQuery_iff hm (.inr (.inl rfl))).mpr hd⟩

def ordersRequest : Request :=
  { rootRequest none with target := .origin ⟨"/orders", some "page=2"⟩ }

theorem replaced_without_query :
    Descriptor.Makes (.replacePath "/maintenance#x") (.replacePath "/maintenance#x") ∧
      ordersRequest.target.IsRead ∧ ordersRequest.target.query? = some "page=2" ∧
      ∃ r' : Request, (Builtin.replacePath "/maintenance#x").receive ordersRequest
          ({} : World Float) = (.pass r' unedited, {}) ∧
        r'.target = .origin ⟨"/maintenance", none⟩ := by
  refine ⟨.replacePath (by cbv), ⟨"/orders?page=2".toList, by cbv⟩, rfl, _, rfl, ?_⟩
  cbv

end ConditionalGateway.Pipeline
