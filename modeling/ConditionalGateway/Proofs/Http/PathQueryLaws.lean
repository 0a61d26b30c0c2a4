import ConditionalGateway.Http.Target
import ConditionalGateway.Proofs.Text.ByteLength
import Mathlib

/-!
# How a text falls into a path and a query

The first question mark of a text starts its query, and the first number sign
ends what is read of it. So a path without these marks, put in front of a query,
is read as that path with that query (`pathPart_unmarked`, `queryPart_unmarked`).
A mark further to the front takes its place: a query goes on in all that is put
behind it (`queryPart_append`), and behind a fragment nothing is looked at
(`queryPart_fragment`).
-/

namespace ConditionalGateway.Http

open Text (byteLength)

/-- A text without the characters that end a path. -/
def Unmarked (cs : List Char) : Prop := '?' ∉ cs ∧ '#' ∉ cs

def pathPart (cs : List Char) : List Char := (beforeFragment cs).takeWhile (· ≠ '?')

def queryPart (cs : List Char) : Option (List Char) :=
  match (beforeFragment cs).dropWhile (· ≠ '?') with
  | [] => none
  | _ :: q => some q

/-- No character stands where it may not. -/
def Legible (cs : List Char) : Prop :=
  (∀ c ∈ pathPart cs, isPathChar c = true) ∧ ∀ q ∈ queryPart cs, ∀ c ∈ q, isQueryChar c = true

theorem PathQuery.ofChars_eq (cs : List Char) : ofChars cs =
    if maxTargetLength < byteLength cs then .error .tooLong
    else if !(pathPart cs).all isPathChar || !((queryPart cs).getD []).all isQueryChar then
      .error .invalidChar
    else .ok ⟨.ofList (pathPart cs), (queryPart cs).map .ofList⟩ := rfl

theorem PathQuery.ofChars_ok_iff : ofChars cs = .ok pq ↔
    byteLength cs ≤ maxTargetLength ∧ Legible cs ∧
      pq = ⟨.ofList (pathPart cs), (queryPart cs).map .ofList⟩ := by
  rw [ofChars_eq]
  by_cases hl : maxTargetLength < byteLength cs
  · simp [hl]
  have hc : (!(pathPart cs).all isPathChar || !((queryPart cs).getD []).all isQueryChar) = true ↔
      ¬ Legible cs := by
    cases hq : queryPart cs <;> simp [Legible, hq, -not_and, not_and_or]
  by_cases hlegible : Legible cs
  · rw [if_neg hl, if_neg (by simpa [hc] using hlegible)]
    simp [hlegible, not_lt.mp hl, eq_comm]
  · rw [if_neg hl, if_pos (hc.mpr hlegible)]
    simp [hlegible]

theorem notMem_beforeFragment (cs : List Char) : '#' ∉ beforeFragment cs := fun h => by
  simpa using List.mem_takeWhile_imp h

theorem unmarked_pathPart (cs : List Char) : Unmarked (pathPart cs) := by
  refine ⟨fun h => ?_, fun h => notMem_beforeFragment cs (List.takeWhile_subset _ h)⟩
  simpa using List.mem_takeWhile_imp h

theorem notMem_queryPart (h : queryPart cs = some q) : '#' ∉ q := by
  unfold queryPart at h
  split at h
  · cases h
  · rename_i hd
    cases h
    intro hq
    exact notMem_beforeFragment cs (List.dropWhile_subset _ (hd ▸ List.mem_cons_of_mem _ hq))

-- ---------------------------------------------------------------------------
-- Text put behind a text
-- ---------------------------------------------------------------------------

variable {cs : List Char}

theorem beforeFragment_append (h : '#' ∉ cs) (more : List Char) :
    beforeFragment (cs ++ more) = cs ++ beforeFragment more :=
  List.takeWhile_append_of_pos fun c hc => by
    simpa using fun hm : c = '#' => h (hm ▸ hc)

theorem beforeFragment_fragment (h : '#' ∈ cs) (more : List Char) :
    beforeFragment (cs ++ more) = beforeFragment cs := by
  induction cs with
  | nil => cases h
  | cons c cs ih =>
    by_cases hc : c = '#'
    · simp [beforeFragment, hc]
    · simpa [beforeFragment, hc] using ih (by simpa [Ne.symm hc] using h)

theorem queryPart_fragment (h : '#' ∈ cs) (more : List Char) :
    queryPart (cs ++ more) = queryPart cs := by
  rw [queryPart, beforeFragment_fragment h, queryPart]

theorem Legible.fragment (hl : Legible cs) (h : '#' ∈ cs) (more : List Char) :
    Legible (cs ++ more) := by
  rwa [Legible, queryPart_fragment h, pathPart, beforeFragment_fragment h]

theorem queryPart_unmarked (h : Unmarked cs) (more : List Char) :
    queryPart (cs ++ more) = queryPart more := by
  rw [queryPart, beforeFragment_append h.2, List.dropWhile_append_of_pos, queryPart]
  intro c hc
  simpa using fun hm : c = '?' => h.1 (hm ▸ hc)

theorem pathPart_unmarked (h : Unmarked cs) (more : List Char) :
    pathPart (cs ++ more) = cs ++ pathPart more := by
  rw [pathPart, beforeFragment_append h.2, List.takeWhile_append_of_pos, pathPart]
  intro c hc
  simpa using fun hm : c = '?' => h.1 (hm ▸ hc)

theorem beforeFragment_self (h : '#' ∉ cs) : beforeFragment cs = cs :=
  List.takeWhile_eq_self_iff.mpr fun c hc => by
    simpa using fun hm : c = '#' => h (hm ▸ hc)

theorem unmarked_of_queryPart (h : queryPart cs = none) (hf : '#' ∉ cs) : Unmarked cs := by
  refine ⟨fun hm => ?_, hf⟩
  unfold queryPart at h
  split at h
  · rename_i hd
    rw [beforeFragment_self hf, List.dropWhile_eq_nil_iff] at hd
    simpa using hd '?' hm
  · cases h

theorem queryPart_of_beforeFragment (h : queryPart cs = some q)
    (hb : beforeFragment cs' = beforeFragment cs ++ tail) :
    pathPart cs' = pathPart cs ∧ queryPart cs' = some (q ++ tail) := by
  unfold queryPart at h
  split at h
  · cases h
  · rename_i c _ hd
    cases h
    have hsplit := List.takeWhile_append_dropWhile (p := (· ≠ '?')) (l := beforeFragment cs)
    rw [hd] at hsplit
    have hlen := congrArg List.length hsplit
    rw [List.length_append, List.length_cons] at hlen
    rw [pathPart, queryPart, hb, List.takeWhile_append, if_neg (by omega), List.dropWhile_append,
      hd, pathPart]
    exact ⟨rfl, rfl⟩

theorem queryPart_append (h : queryPart cs = some q) (more : List Char) : ∃ tail, tail <+: more ∧
    pathPart (cs ++ more) = pathPart cs ∧ queryPart (cs ++ more) = some (q ++ tail) := by
  obtain ⟨tail, ht, hb⟩ : ∃ tail, tail <+: more ∧
      beforeFragment (cs ++ more) = beforeFragment cs ++ tail := by
    by_cases hf : '#' ∈ cs
    · exact ⟨[], List.nil_prefix, by rw [beforeFragment_fragment hf, List.append_nil]⟩
    · refine ⟨beforeFragment more, List.takeWhile_prefix _, ?_⟩
      rw [beforeFragment_append hf, beforeFragment_self hf]
  exact ⟨tail, ht, queryPart_of_beforeFragment h hb⟩

theorem Legible.query (hl : Legible cs) (h : queryPart cs = some q)
    (hc : ∀ c ∈ more, isQueryChar c = true) : Legible (cs ++ more) := by
  obtain ⟨tail, ht, hp, hq⟩ := queryPart_append h more
  refine ⟨hp ▸ hl.1, fun q' hq' c hcq => ?_⟩
  obtain rfl := Option.some.inj (hq.symm.trans hq')
  obtain hcq | hcq := List.mem_append.mp hcq
  · exact hl.2 q h c hcq
  · exact hc c (ht.subset hcq)

theorem Legible.cut (h : Legible (cs ++ more)) : Legible cs := by
  cases hq : queryPart cs with
  | some q =>
    obtain ⟨tail, -, hp, hq'⟩ := queryPart_append hq more
    obtain ⟨hpath, hquery⟩ := h
    rw [hp] at hpath
    refine ⟨hpath, fun q' hq'' c hc => ?_⟩
    obtain rfl := Option.some.inj (hq.symm.trans hq'')
    exact hquery _ hq' c (List.mem_append_left _ hc)
  | none =>
    by_cases hf : '#' ∈ cs
    · rwa [Legible, queryPart_fragment hf, pathPart, beforeFragment_fragment hf] at h
    · have hu := unmarked_of_queryPart hq hf
      refine ⟨fun c hc => h.1 c ?_, by simp [hq]⟩
      rw [pathPart_unmarked hu]
      rw [← List.append_nil cs, pathPart_unmarked hu] at hc
      exact List.mem_append_left _ (by simpa [pathPart, beforeFragment] using hc)

/-- Behind a path without marks, what is put there is read as if it stood alone. -/
theorem legible_unmarked_append (h : Unmarked cs) :
    Legible (cs ++ more) ↔ (∀ c ∈ cs, isPathChar c = true) ∧ Legible more := by
  rw [Legible, pathPart_unmarked h, queryPart_unmarked h, Legible, List.forall_mem_append,
    and_assoc]

/-- Behind a query, everything up to a fragment belongs to it. -/
theorem legible_query_append (h : queryPart cs = some q) (hf : '#' ∉ cs ++ more) :
    Legible (cs ++ more) ↔ Legible cs ∧ ∀ c ∈ more, isQueryChar c = true := by
  have hcs : '#' ∉ cs := fun hm => hf (List.mem_append_left _ hm)
  have hb : beforeFragment (cs ++ more) = beforeFragment cs ++ more := by
    rw [beforeFragment_self hf, beforeFragment_self hcs]
  obtain ⟨hpath, hquery⟩ := queryPart_of_beforeFragment h hb
  simp [Legible, hpath, hquery, h, or_imp, forall_and, and_assoc]

end ConditionalGateway.Http
