import ConditionalGateway.Proofs.Predicate.Indexing

/-!
# Asking whether a field is empty

`isEmpty_outcome`: a field that is not there is empty, like an empty text and an
empty list, and asking for it does not fail. Asking fails only for a field that
is there and cannot be made out (`Garbled`): a header that is no text where text
is read, or a content length that is no number. `isEmpty_garbled` shows one.
-/

namespace ConditionalGateway.Predicate

open Http

-- ---------------------------------------------------------------------------
-- What can be under a field
-- ---------------------------------------------------------------------------

/-- A field is there, but what it has is not of its kind. -/
inductive Garbled (r : Request) : Field → EvaluationError → Prop
  | host : r.target.authority? = none → r.headers.get? hostName = some v → v.text? = none →
      Garbled r .host (.invalidEncoding .host)
  | length : r.headers.get? contentLengthName = some v → v.text? = none →
      Garbled r .contentLength (.invalidEncoding .contentLength)
  | number : r.headers.get? contentLengthName = some v → v.text? = some s →
      Decimal.readNat? Field.maxContentLength (Unicode.trim s.toList) = none →
      Garbled r .contentLength (.typeMismatch .contentLength .number s)
  | header (index : Option Nat) : v ∈ r.headers.getAll name → v.text? = none →
      Garbled r (.header name index) (.invalidEncoding (.header name index))

/-- A field is not there: it is missing, or there are too few of its kind for the index. -/
inductive Absent (r : Request) : Field → Prop
  | host : r.target.authority? = none → r.headers.get? hostName = none → Absent r .host
  | contentLength : r.headers.get? contentLengthName = none → Absent r .contentLength
  | header : (r.headers.getAll name).length ≤ i → Absent r (.header name (some i))
  | query : (Form.valuesOf (r.target.query?.getD "") key).length ≤ i →
      Absent r (.query key (some i))

/-- There is nothing under a field. -/
def Vacant (r : Request) (f : Field) : Prop :=
  Absent r f ∨ f.read r = .ok (.text "") ∨ f.read r = .ok (.list [])

-- ---------------------------------------------------------------------------
-- Reading
-- ---------------------------------------------------------------------------

theorem Garbled.read (h : Garbled r f err) : f.read r = .error err := by
  cases h with
  | host ha hv ht => simp [Field.read, ha, hv, Field.textOf, ht, Except.map]
  | length hv ht => simp [Field.read, hv, Field.textOf, ht, bind, Except.bind]
  | number hv hs hn => simp [Field.read, hv, Field.textOf, hs, hn, bind, Except.bind]
  | header index hv ht =>
    rw [Field.read_header, Field.texts?, mapM_text?_eq_none.mpr ⟨_, hv, ht⟩]

inductive EvaluationError.IsAbsence : EvaluationError → Prop
  | missing (f : Field) : IsAbsence (.missingField f)
  | outOfRange (f : Field) (i n : Nat) : IsAbsence (.indexOutOfRange f i n)

theorem Field.select_short {texts : List String} (f : Field) (hi : texts.length ≤ i) :
    ∃ err, f.select texts (some i) = .error err ∧ err.IsAbsence := by
  by_cases hne : texts = []
  · exact ⟨_, hne ▸ select_nil, .missing f⟩
  · exact ⟨_, select_outOfRange hne hi, .outOfRange f i _⟩

theorem Field.select_error {f : Field} {texts : List String}
    (h : f.select texts (some i) = .error err) : texts.length ≤ i ∧ err.IsAbsence := by
  by_cases hi : i < texts.length
  · rw [select_getElem hi] at h
    cases h
  · rw [Nat.not_lt] at hi
    obtain ⟨err', hs, ha⟩ := f.select_short hi
    cases h.symm.trans hs
    exact ⟨hi, ha⟩

theorem length_mapM_text? {values : List HeaderValue} {texts : List String}
    (h : values.mapM HeaderValue.text? = some texts) : texts.length = values.length := by
  induction values generalizing texts with
  | nil =>
    cases h
    rfl
  | cons v values ih =>
    rw [List.mapM_cons] at h
    obtain ⟨s, -, h⟩ := Option.bind_eq_some_iff.mp h
    obtain ⟨ss, hss, h⟩ := Option.bind_eq_some_iff.mp h
    cases h
    rw [List.length_cons, List.length_cons, ih hss]

theorem Field.read_fails {f : Field} (h : f.read r = .error err) :
    Garbled r f err ∨ Absent r f ∧ err.IsAbsence := by
  cases f with
  | host =>
    simp only [read] at h
    split at h
    · cases h
    · rename_i ha
      split at h
      · rename_i v hv
        obtain ht | ⟨s, hs⟩ := Option.eq_none_or_eq_some v.text?
        · simp only [textOf, ht, Except.map] at h
          cases h
          exact .inl (.host ha hv ht)
        · simp [textOf, hs, Except.map] at h
      · rename_i hv
        cases h
        exact .inr ⟨.host ha hv, .missing _⟩
  | contentLength =>
    simp only [read] at h
    split at h
    · rename_i hv
      cases h
      exact .inr ⟨.contentLength hv, .missing _⟩
    · rename_i v hv
      obtain ht | ⟨s, hs⟩ := Option.eq_none_or_eq_some v.text?
      · simp only [textOf, ht, bind, Except.bind] at h
        cases h
        exact .inl (.length hv ht)
      · simp only [textOf, hs, bind, Except.bind] at h
        split at h
        · cases h
        · rename_i hn
          cases h
          exact .inl (.number hv hs hn)
  | header name index =>
    rw [read_header] at h
    split at h
    · rename_i texts htexts
      cases index with
      | none => cases h
      | some i =>
        obtain ⟨hi, ha⟩ := select_error h
        exact .inr ⟨.header (length_mapM_text? htexts ▸ hi), ha⟩
    · rename_i htexts
      obtain ⟨v, hv, ht⟩ := mapM_text?_eq_none.mp htexts
      cases h
      exact .inl (.header index hv ht)
  | query key index =>
    cases index with
    | none => cases h
    | some i =>
      obtain ⟨hi, ha⟩ := select_error h
      exact .inr ⟨.query hi, ha⟩
  | _ => cases h

theorem Absent.read (h : Absent r f) : ∃ err, f.read r = .error err := by
  cases h with
  | host ha hv => exact ⟨.missingField .host, by simp [Field.read, ha, hv]⟩
  | contentLength hv => exact ⟨.missingField .contentLength, by simp [Field.read, hv]⟩
  | header hi =>
    rw [Field.read_header]
    split
    · rename_i texts htexts
      obtain ⟨err, hs, -⟩ := Field.select_short (.header _ (some _)) (length_mapM_text? htexts ▸ hi)
      exact ⟨err, hs⟩
    · exact ⟨_, rfl⟩
  | query hi =>
    obtain ⟨err, hs, -⟩ := Field.select_short (.query _ (some _)) hi
    exact ⟨err, hs⟩

-- ---------------------------------------------------------------------------
-- Asking
-- ---------------------------------------------------------------------------

theorem EvaluationError.IsAbsence.emptyValue {err : EvaluationError} (h : err.IsAbsence) :
    emptyValue (.error err) = .ok true := by
  cases h <;> rfl

theorem Garbled.emptyValue (h : Garbled r f err) : emptyValue (f.read r) = .error err := by
  rw [h.read]
  cases h <;> rfl

theorem emptyValue_read (hg : ∀ err, ¬ Garbled r f err) :
    ∃ b, emptyValue (f.read r) = .ok b ∧ (b = true ↔ Vacant r f) := by
  unfold Vacant
  cases hr : f.read r with
  | error err =>
    obtain h | ⟨ha, he⟩ := Field.read_fails hr
    · exact absurd h (hg err)
    · exact ⟨true, he.emptyValue, by simp [ha]⟩
  | ok v =>
    have hthere : ¬ Absent r f := by
      intro ha
      obtain ⟨err, he⟩ := ha.read
      cases hr.symm.trans he
    cases v with
    | text s => exact ⟨s.isEmpty, rfl, by simp [hthere]⟩
    | number x => exact ⟨false, rfl, by simp [hthere]⟩
    | list vs => exact ⟨vs.isEmpty, rfl, by simp [hthere]⟩

/-- Asking whether a field is empty fails only for a field that is garbled, and tells then what is
wrong with it. Else there is an answer, and a field is empty if there is nothing under it; asking
the other way round gives the opposite. -/
theorem isEmpty_outcome (f : Field) (r : Request) :
    (∀ negated err, (Expr.isEmpty f negated).eval r = .error err ↔ Garbled r f err) ∧
    (∀ b, (Expr.isEmpty f false).eval r = .ok b ↔
      (∀ err, ¬ Garbled r f err) ∧ (b = true ↔ Vacant r f)) ∧
    ∀ b, (Expr.isEmpty f true).eval r = .ok b ↔ (Expr.isEmpty f false).eval r = .ok !b := by
  simp only [Expr.eval, bind, Except.bind, pure, Except.pure]
  by_cases hg : ∃ err, Garbled r f err
  · obtain ⟨err, hg⟩ := hg
    have hunique : ∀ err', err = err' ↔ Garbled r f err' := fun err' =>
      ⟨fun he => he ▸ hg, fun hg' => Except.error.inj (hg.read.symm.trans hg'.read)⟩
    have hnot : ¬ ∀ err, ¬ Garbled r f err := fun h => h err hg
    simp [hg.emptyValue, hunique, hnot]
  · rw [not_exists] at hg
    obtain ⟨b, hb, hv⟩ := emptyValue_read hg
    simp only [hb, hg, ← hv]
    refine ⟨by simp, fun b' => ?_, fun b' => ?_⟩
    · cases b <;> cases b' <;> simp
    · cases b <;> cases b' <;> simp

def wordyRequest : Request :=
  { (default : Request) with headers := [(contentLengthName, .ofText "ten")] }

theorem isEmpty_garbled : ∃ p,
    compile "ContentLength is empty" = .ok p ∧ p.root = .isEmpty .contentLength false ∧
      p.evaluate wordyRequest = .error (.typeMismatch .contentLength .number "ten") ∧
      ¬ ∃ b, (Expr.isEmpty .contentLength false).eval wordyRequest = .ok b := by
  refine ⟨⟨"ContentLength is empty", .isEmpty .contentLength false⟩, by cbv, rfl, by cbv, ?_⟩
  rintro ⟨b, hb⟩
  have he : (Expr.isEmpty .contentLength false).eval wordyRequest =
      .error (.typeMismatch .contentLength .number "ten") := by cbv
  cases he.symm.trans hb

end ConditionalGateway.Predicate
