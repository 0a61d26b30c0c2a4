import ConditionalGateway.Proofs.Http.TargetLaws

/-!
# Well-formed targets

A target is well formed if it was read, and if the path that it shows can be
read again with its query. So is every target that a text spells
(`Target.ofString_wellFormed`), and it stays so whatever path it is given that is
not empty (`Target.withPath?_wellFormed`).
-/

namespace ConditionalGateway.Http

open Text (byteLength)

-- ---------------------------------------------------------------------------
-- What a text is read as
-- ---------------------------------------------------------------------------

theorem PathQuery.byteLength_le (h : PathQuery.ofChars cs = .ok pq) :
    byteLength pq.path.toList + byteLength (queryChars pq.query) ≤ byteLength cs := by
  obtain ⟨-, -, rfl⟩ := PathQuery.ofChars_ok_iff.mp h
  have hcs : cs = beforeFragment cs ++ cs.dropWhile (· ≠ '#') :=
    List.takeWhile_append_dropWhile.symm
  have hread := congrArg byteLength (pathPart_append_queryPart cs)
  have hall := congrArg byteLength hcs
  rw [Text.byteLength_append] at hread hall
  simp only [String.toList_ofList]
  omega

theorem PathQuery.byteLength_shownPath (pq : PathQuery) :
    byteLength pq.shownPath.toList ≤ byteLength pq.path.toList + 1 := by
  unfold shownPath
  split
  · exact Nat.le_add_left 1 _
  · exact Nat.le_succ _

theorem splitAuthority_ok (h : splitAuthority cs = .ok (host, rest)) : cs = host ++ rest := by
  obtain ⟨s, -, h⟩ := bind_eq_ok.mp h
  split at h
  · cases h
  · cases h
    exact List.takeWhile_append_dropWhile.symm

theorem dropPrefixAnyCase?_suffix (h : dropPrefixAnyCase? pre cs = some rest) : rest <:+ cs := by
  unfold dropPrefixAnyCase? at h
  simp only at h
  split at h
  · cases h
    exact List.drop_suffix _ _
  · cases h

theorem splitScheme_suffix (h : splitScheme cs = .ok (some (scheme, rest))) : rest <:+ cs := by
  unfold splitScheme at h
  split at h
  · rename_i hd
    cases h
    exact dropPrefixAnyCase?_suffix hd
  · rename_i hd
    cases h
    exact dropPrefixAnyCase?_suffix hd
  · simp only at h
    split at h
    · rename_i hd
      have hsuffix : ':' :: '/' :: '/' :: rest <:+ cs := by
        split at h
        · cases h
        · split at h
          · cases h
          · cases h
            exact hd ▸ List.dropWhile_suffix _
      exact List.IsSuffix.trans ⟨[':', '/', '/'], rfl⟩ hsuffix
    · cases h

/-- What a text is read as: an authority, a path with a query, or an address whose path and query
are shorter than the text. -/
theorem Target.ofString_cases {t : Target} (h : Target.ofString text = .ok t) :
    text.utf8ByteSize ≤ maxTargetLength ∧
      ((∃ a, t = .authority a) ∨
        (∃ cs pq, t = .origin pq ∧ PathQuery.ofChars cs = .ok pq ∧ pq.path ≠ "" ∧
          byteLength cs ≤ text.utf8ByteSize) ∨
        ∃ s a cs pq, t = .absolute s a pq ∧ PathQuery.ofChars cs = .ok pq ∧
          byteLength cs < text.utf8ByteSize) := by
  unfold ofString at h
  simp only at h
  split at h
  · cases h
  rename_i hlen
  refine ⟨Nat.le_of_not_lt hlen, ?_⟩
  split at h
  · cases h
  · rename_i htext
    cases h
    refine .inr (.inl ⟨['*'], _, rfl, by decide, by decide, ?_⟩)
    rw [← Text.byteLength_toList, htext]
  · rename_i htext
    obtain ⟨pq, hpq, h⟩ := bind_eq_ok.mp h
    cases h
    refine .inr (.inl ⟨_, pq, rfl, hpq, ?_, (Text.byteLength_toList text).le⟩)
    have hroot : Rooted text := by rw [Rooted, htext]; rfl
    exact (PathQuery.ofString_rooted hpq hroot).ne_empty
  · obtain ⟨_, -, h⟩ := bind_eq_ok.mp h
    cases h
    exact .inl ⟨_, rfl⟩
  · obtain ⟨parts, hscheme, h⟩ := bind_eq_ok.mp h
    split at h
    · obtain ⟨⟨_, rest⟩, -, h⟩ := bind_eq_ok.mp h
      simp only at h
      split at h
      · cases h
        exact .inl ⟨_, rfl⟩
      · cases h
    · obtain ⟨⟨host, rest⟩, hauthority, h⟩ := bind_eq_ok.mp h
      simp only at h
      split at h
      · cases h
      · rename_i hhost
        obtain ⟨pq, hpq, h⟩ := bind_eq_ok.mp h
        cases h
        refine .inr (.inr ⟨_, _, rest, pq, rfl, hpq, ?_⟩)
        -- the authority has one character at least
        obtain ⟨front, hfront⟩ := splitScheme_suffix hscheme
        have htext := congrArg byteLength hfront
        rw [splitAuthority_ok hauthority, Text.byteLength_toList] at htext
        obtain ⟨c, host, rfl⟩ := List.exists_cons_of_ne_nil (by simpa using hhost)
        have hc := c.utf8Size_pos
        simp only [Text.byteLength_append, Text.byteLength_cons] at htext
        omega

theorem Target.ofString_isRead {t : Target} (h : Target.ofString text = .ok t) : t.IsRead := by
  obtain ⟨-, ⟨_, rfl⟩ | ⟨cs, _, rfl, hpq, -⟩ | ⟨_, _, cs, _, rfl, hpq, -⟩⟩ := ofString_cases h
  · trivial
  · exact ⟨cs, hpq⟩
  · exact ⟨cs, hpq⟩

-- ---------------------------------------------------------------------------
-- Well-formed targets
-- ---------------------------------------------------------------------------

/-- A target that was read, and that can be given the path it shows. An empty path is shown as the
root, which takes one byte more. -/
structure Target.WellFormed (t : Target) : Prop where
  read : t.IsRead
  fits : (t.pathText t.path).utf8ByteSize ≤ maxTargetLength

theorem Target.ofString_wellFormed {t : Target} (h : Target.ofString text = .ok t) :
    t.WellFormed := by
  refine ⟨ofString_isRead h, ?_⟩
  rw [byteLength_pathText]
  obtain ⟨hlen, ⟨_, rfl⟩ | ⟨cs, pq, rfl, hpq, hne, hcs⟩ | ⟨s, a, cs, pq, rfl, hpq, hcs⟩⟩ :=
    ofString_cases h
  · exact Nat.zero_le _
  · have hread := PathQuery.byteLength_le hpq
    simp only [path, query?, PathQuery.shownPath_eq hne]
    omega
  · have hread := PathQuery.byteLength_le hpq
    have hshown := pq.byteLength_shownPath
    simp only [path, query?]
    omega

theorem Target.withPath?_wellFormed {t t' : Target} {path : String} (h : t.withPath? path = some t')
    (hne : pathPart (t.pathText path).toList ≠ []) : t'.WellFormed := by
  obtain ⟨pq, hpq, ht⟩ := Target.withPath?_eq_some.mp h
  obtain ⟨hpath, hquery, -⟩ := Target.withPathQuery?_eq_some ht
  have hread := PathQuery.byteLength_le hpq
  obtain ⟨hlen, -, heq⟩ := PathQuery.ofChars_ok_iff.mp hpq
  have hshown : pq.shownPath = pq.path := by
    refine PathQuery.shownPath_eq ?_
    rw [heq]
    exact String.ofList_eq_empty_iff.not.mpr hne
  constructor
  · cases t with
    | origin => cases ht; exact ⟨_, hpq⟩
    | absolute => cases ht; exact ⟨_, hpq⟩
    | authority => cases ht
  · rw [byteLength_pathText, hpath, hquery, hshown]
    omega

end ConditionalGateway.Http
