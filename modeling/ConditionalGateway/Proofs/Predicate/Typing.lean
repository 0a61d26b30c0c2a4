import ConditionalGateway.Proofs.Predicate.Parsing
import ConditionalGateway.Predicate.Basic

/-!
# Compiled predicates are well typed

`compile_sound`: evaluating a compiled predicate never comes to an arm of the
evaluator for operands of the wrong kind, and what can go wrong is what a
`Fault` says: a field that the predicate asks for is missing, out of range or no
text, or a text is not the boolean or the number that it is compared with.

A field reads a value of its kind (`Field.read_kind`), and the parser checks
operators against kinds (`Tree.Denotes.checked`).
-/

namespace ConditionalGateway.Predicate

open Http

-- ---------------------------------------------------------------------------
-- What evaluation comes to
-- ---------------------------------------------------------------------------

def Expr.fields : Expr → List Field
  | .const _ => []
  | .and a b => a.fields ++ b.fields
  | .or a b => a.fields ++ b.fields
  | .not a => a.fields
  | .compare f _ _ => [f]
  | .contains f _ _ => [f]
  | .matches f _ _ => [f]
  | .isEmpty f _ => [f]

/-- `Visits r e x`: to evaluate `e` on `r` is to evaluate its part `x` as well. -/
inductive Visits (r : Request) : Expr → Expr → Prop
  | here (e : Expr) : Visits r e e
  | andLeft : Visits r a x → Visits r (.and a b) x
  | andRight : a.eval r = .ok true → Visits r b x → Visits r (.and a b) x
  | orLeft : Visits r a x → Visits r (.or a b) x
  | orRight : a.eval r = .ok false → Visits r b x → Visits r (.or a b) x
  | not : Visits r a x → Visits r (.not a) x

/-- The arms of the evaluator for operands of the wrong kind. -/
inductive IllTyped (r : Request) : Expr → Prop
  | compareList : f.read r = .ok (.list vs) → IllTyped r (.compare f op l)
  | compareNumber : f.read r = .ok (.number x) → (∀ y, l ≠ .number y) →
      IllTyped r (.compare f op l)
  | containsNumber : f.read r = .ok (.number x) → IllTyped r (.contains f needle negated)
  | matchesList : f.read r = .ok (.list vs) → IllTyped r (.matches f p negated)
  | matchesNumber : f.read r = .ok (.number x) → IllTyped r (.matches f p negated)

def EvaluationError.field : EvaluationError → Field
  | .missingField f => f
  | .indexOutOfRange f _ _ => f
  | .typeMismatch f _ _ => f
  | .invalidEncoding f => f

/-- What can go wrong with a checked expression. -/
inductive Fault (r : Request) (e : Expr) : EvaluationError → Prop
  | missing : f ∈ e.fields → Fault r e (.missingField f)
  | outOfRange : f ∈ e.fields → Fault r e (.indexOutOfRange f i n)
  | encoding : f ∈ e.fields → Fault r e (.invalidEncoding f)
  | boolean : Visits r e (.compare f op (.bool b)) → op = .eq ∨ op = .ne → f.kind = .text →
      f.read r = .ok (.text s) → boolOfText? s = none → Fault r e (.typeMismatch f .boolean s)
  | number : Visits r e (.compare f op (.number y)) → f.kind = .text →
      f.read r = .ok (.text s) → Decimal.readFloat? (Unicode.trim s.toList) = none →
      Fault r e (.typeMismatch f .number s)
  | length : .contentLength ∈ e.fields → r.headers.get? contentLengthName = some v →
      v.text? = some s → Decimal.readNat? Field.maxContentLength (Unicode.trim s.toList) = none →
      Fault r e (.typeMismatch .contentLength .number s)

theorem Visits.fields_subset (h : Visits r e x) : x.fields ⊆ e.fields := by
  induction h with
  | here => exact List.Subset.refl _
  | andLeft _ ih => exact List.subset_append_of_subset_left _ ih
  | andRight _ _ ih => exact List.subset_append_of_subset_right _ ih
  | orLeft _ ih => exact List.subset_append_of_subset_left _ ih
  | orRight _ _ ih => exact List.subset_append_of_subset_right _ ih
  | not _ ih => exact ih

theorem Visits.trans (h : Visits r e x) (h' : Visits r x y) : Visits r e y := by
  induction h with
  | here => exact h'
  | andLeft _ ih => exact .andLeft (ih h')
  | andRight ha _ ih => exact .andRight ha (ih h')
  | orLeft _ ih => exact .orLeft (ih h')
  | orRight ha _ ih => exact .orRight ha (ih h')
  | not _ ih => exact .not (ih h')

theorem Fault.of_visits (hv : Visits r e x) (h : Fault r x err) : Fault r e err := by
  cases h with
  | missing hf => exact .missing (hv.fields_subset hf)
  | outOfRange hf => exact .outOfRange (hv.fields_subset hf)
  | encoding hf => exact .encoding (hv.fields_subset hf)
  | boolean hx ho hk hr hs => exact .boolean (hv.trans hx) ho hk hr hs
  | number hx hk hr hs => exact .number (hv.trans hx) hk hr hs
  | length hf hv' hs hn => exact .length (hv.fields_subset hf) hv' hs hn

theorem Fault.field_mem (h : Fault r e err) : err.field ∈ e.fields := by
  cases h with
  | missing hf => exact hf
  | outOfRange hf => exact hf
  | encoding hf => exact hf
  | boolean hx => exact hx.fields_subset (List.mem_singleton.mpr rfl)
  | number hx => exact hx.fields_subset (List.mem_singleton.mpr rfl)
  | length hf => exact hf

theorem EvaluationError.message_display (err : EvaluationError) :
    ∃ before after, err.message = before ++ err.field.display ++ after := by
  cases err with
  | missingField f => exact ⟨"field ", " is missing", rfl⟩
  | indexOutOfRange f i n =>
    exact ⟨"index " ++ toString i ++ " out of range for ", " (" ++ toString n ++ " values)", by
      simp [message, field, String.append_assoc]⟩
  | typeMismatch f expected found =>
    exact ⟨"", " value " ++ Text.quoted found ++ " is not a " ++ expected.display, by
      simp [message, field, String.append_assoc]⟩
  | invalidEncoding f => exact ⟨"", " has a value that is not valid text", by simp [message, field]⟩

-- ---------------------------------------------------------------------------
-- Fields
-- ---------------------------------------------------------------------------

def FieldValue.kind : FieldValue → FieldKind
  | .text _ => .text
  | .number _ => .number
  | .list _ => .list

inductive Unreadable (r : Request) : Field → EvaluationError → Prop
  | missing (f : Field) : Unreadable r f (.missingField f)
  | outOfRange (f : Field) (i n : Nat) : Unreadable r f (.indexOutOfRange f i n)
  | encoding (f : Field) : Unreadable r f (.invalidEncoding f)
  | length : r.headers.get? contentLengthName = some v → v.text? = some s →
      Decimal.readNat? Field.maxContentLength (Unicode.trim s.toList) = none →
      Unreadable r .contentLength (.typeMismatch .contentLength .number s)

def Field.Gives (r : Request) (f : Field) : Except EvaluationError FieldValue → Prop
  | .ok v => v.kind = f.kind
  | .error err => Unreadable r f err

theorem Field.textOf_error (h : textOf f v = .error err) : err = .invalidEncoding f := by
  unfold textOf at h
  split at h
  · cases h
  · exact (Except.error.inj h).symm

theorem Field.textOf_ok (h : textOf f v = .ok s) : v.text? = some s := by
  unfold textOf at h
  split at h
  · rename_i s' hs
    exact Except.ok.inj h ▸ hs
  · cases h

theorem Field.select_gives (f : Field) (values : List String) (index : Option Nat)
    (hk : f.kind = if index.isSome then .text else .list) : f.Gives r (f.select values index) := by
  cases index with
  | none => exact hk.symm
  | some i =>
    unfold select
    split
    · rename_i h
      cases h
    · rename_i j h
      split
      · exact .missing f
      · split
        · exact hk.symm
        · exact .outOfRange f _ _

theorem Field.read_gives (f : Field) (r : Request) : f.Gives r (f.read r) := by
  cases f with
  | method => rfl
  | path => rfl
  | rawQuery => rfl
  | proto => rfl
  | host =>
    unfold read
    simp only
    split
    · rfl
    · split
      · rename_i v hv
        cases ht : textOf .host v with
        | ok s => rfl
        | error e => exact textOf_error ht ▸ .encoding _
      · exact .missing _
  | contentLength =>
    unfold read
    simp only
    split
    · exact .missing _
    · rename_i v hv
      cases ht : textOf .contentLength v with
      | error e => exact textOf_error ht ▸ .encoding _
      | ok s =>
        simp only [bind, Except.bind]
        split
        · rfl
        · rename_i hn
          exact .length hv (textOf_ok ht) hn
  | header name index =>
    unfold read
    simp only
    cases hs : (r.headers.getAll name).mapM (textOf (.header name index)) with
    | error e =>
      obtain ⟨v, -, ht⟩ := mapM_eq_error hs
      exact textOf_error ht ▸ .encoding _
    | ok values => exact select_gives _ values index (by cases index <;> rfl)
  | query key index => exact select_gives _ _ index (by cases index <;> rfl)

theorem Field.read_kind {f : Field} (h : f.read r = .ok v) : v.kind = f.kind := by
  have hg := f.read_gives r
  rwa [h] at hg

theorem Field.read_error {f : Field} (h : f.read r = .error err) : Unreadable r f err := by
  have hg := f.read_gives r
  rwa [h] at hg

theorem Unreadable.fault (h : Unreadable r f err) (hf : f ∈ e.fields) : Fault r e err := by
  cases h with
  | missing => exact .missing hf
  | outOfRange => exact .outOfRange hf
  | encoding => exact .encoding hf
  | length hv hs hn => exact .length hf hv hs hn

-- ---------------------------------------------------------------------------
-- Checked expressions
-- ---------------------------------------------------------------------------

/-- Every operator goes with its operands. -/
inductive Expr.Checked : Expr → Prop
  | const (b : Bool) : Checked (.const b)
  | and : Checked a → Checked b → Checked (.and a b)
  | or : Checked a → Checked b → Checked (.or a b)
  | not : Checked a → Checked (.not a)
  | compare : ComparesWith f op l l' → Checked (.compare f op l')
  | contains : f.kind ≠ .number → Checked (.contains f needle negated)
  | matches : f.kind = .text → Checked (.matches f p negated)
  | isEmpty (f : Field) (negated : Bool) : Checked (.isEmpty f negated)

theorem Condition.Denotes.checked {c : Condition} (h : c.Denotes e) : e.Checked := by
  cases h with
  | compare _ hc => exact .compare hc
  | compareSwapped _ hc => exact .compare hc
  | contains _ hk => exact .contains hk
  | «matches» _ hk _ => exact .matches hk
  | isEmpty => exact .isEmpty _ _
  | member _ hk => exact .contains hk

theorem Tree.Denotes.checked {t : Tree} (h : t.Denotes e) : e.Checked := by
  induction h with
  | const b => exact .const b
  | condition h => exact h.checked
  | not _ ih => exact .not ih
  | group _ ih => exact ih
  | and _ _ iha ihb => exact .and iha ihb
  | or _ _ iha ihb => exact .or iha ihb

theorem Expr.Checked.of_visits (h : e.Checked) (hv : Visits r e x) : x.Checked := by
  induction hv with
  | here => exact h
  | andLeft _ ih => cases h with | and ha _ => exact ih ha
  | andRight _ _ ih => cases h with | and _ hb => exact ih hb
  | orLeft _ ih => cases h with | or ha _ => exact ih ha
  | orRight _ _ ih => cases h with | or _ hb => exact ih hb
  | not _ ih => cases h with | not ha => exact ih ha

theorem ComparesWith.kind_ne_list (h : ComparesWith f op l l') : f.kind ≠ .list := by
  cases h <;> simp [*]

theorem ComparesWith.number_of_kind (h : ComparesWith f op l l') (hk : f.kind = .number) :
    ∃ y, l' = .number y := by
  cases h with
  | textStr _ ht => simp [hk] at ht
  | textNumber x _ => exact ⟨x, rfl⟩
  | textBool _ ht _ => simp [hk] at ht
  | number x _ => exact ⟨x, rfl⟩
  | numeral _ _ => exact ⟨_, rfl⟩

theorem Expr.Checked.not_illTyped (h : x.Checked) : ¬ IllTyped r x := by
  intro hx
  cases hx with
  | compareList hr => cases h with | compare hc => exact hc.kind_ne_list (Field.read_kind hr).symm
  | compareNumber hr hl =>
    cases h with
    | compare hc =>
      obtain ⟨y, rfl⟩ := hc.number_of_kind (Field.read_kind hr).symm
      exact hl y rfl
  | containsNumber hr => cases h with | contains hk => exact hk (Field.read_kind hr).symm
  | matchesList hr =>
    cases h with | «matches» hk => exact absurd (Field.read_kind hr) (by simp [hk, FieldValue.kind])
  | matchesNumber hr =>
    cases h with | «matches» hk => exact absurd (Field.read_kind hr) (by simp [hk, FieldValue.kind])

-- ---------------------------------------------------------------------------
-- Faults
-- ---------------------------------------------------------------------------

theorem compare_fault (hc : ComparesWith f op l₀ l) (hr : f.read r = .ok v)
    (h : compareValue f op v l = .error err) : Fault r (.compare f op l) err := by
  have hk := Field.read_kind hr
  cases v with
  | list vs => exact absurd hk.symm hc.kind_ne_list
  | number x =>
    obtain ⟨y, rfl⟩ := hc.number_of_kind hk.symm
    cases h
  | text s =>
    cases l with
    | str t => cases h
    | number y =>
      simp only [compareValue] at h
      split at h
      · cases h
      · rename_i hn
        cases h
        exact .number (.here _) hk.symm hr hn
    | bool b =>
      simp only [compareValue] at h
      split at h
      · cases h
      · rename_i hn
        cases h
        cases hc with
        | textBool _ _ ho => exact .boolean (.here _) ho hk.symm hr hn

theorem contains_total (hk : f.kind ≠ .number) (hr : f.read r = .ok v) :
    containsValue f needle v ≠ .error err := by
  cases v with
  | text s => simp [containsValue]
  | list vs => simp [containsValue]
  | number x => exact absurd (Field.read_kind hr).symm hk

theorem matches_total (hk : f.kind = .text) (hr : f.read r = .ok v) :
    matchesValue f p v ≠ .error err := by
  have hv := (Field.read_kind hr).trans hk
  cases v with
  | text s => simp [matchesValue]
  | list vs => cases hv
  | number x => cases hv

theorem emptyValue_error (h : emptyValue x = .error err) : x = .error err := by
  cases x with
  | ok v => cases v <;> cases h
  | error e =>
    cases e with
    | missingField => cases h
    | indexOutOfRange => cases h
    | typeMismatch => exact congrArg Except.error (Except.error.inj h)
    | invalidEncoding => exact congrArg Except.error (Except.error.inj h)

theorem negated_error {x : Except EvaluationError Bool} {negated : Bool}
    (h : (do return (← x) != negated) = (.error err : Except EvaluationError Bool)) :
    x = .error err := by
  obtain h | ⟨b, -, h⟩ := bind_eq_error.mp h
  · exact h
  · cases h

theorem read_fault {k : FieldValue → Except EvaluationError Bool} (hf : f ∈ e.fields)
    (h : f.read r >>= k = .error err)
    (hk : ∀ v, f.read r = .ok v → k v = .error err → Fault r e err) : Fault r e err := by
  obtain h | ⟨v, hr, h⟩ := bind_eq_error.mp h
  · exact (Field.read_error h).fault hf
  · exact hk v hr h

theorem Expr.Checked.eval_fault (hc : e.Checked) (h : e.eval r = .error err) : Fault r e err := by
  -- the right operand is visited only where the left one leaves the answer open
  induction hc with
  | const => cases h
  | and _ _ iha ihb =>
    simp only [eval] at h
    split at h
    · rename_i ha
      exact .of_visits (.andLeft (.here _)) (iha (ha.trans h))
    · cases h
    · rename_i ha
      exact .of_visits (.andRight ha (.here _)) (ihb h)
  | or _ _ iha ihb =>
    simp only [eval] at h
    split at h
    · rename_i ha
      exact .of_visits (.orLeft (.here _)) (iha (ha.trans h))
    · cases h
    · rename_i ha
      exact .of_visits (.orRight ha (.here _)) (ihb h)
  | @not a _ iha =>
    simp only [eval] at h
    cases ha : a.eval r with
    | ok b => rw [ha] at h; cases h
    | error err' =>
      rw [ha] at h
      cases h
      exact .of_visits (.not (.here _)) (iha ha)
  | compare hc => exact read_fault (List.mem_singleton.mpr rfl) h fun v hr h => compare_fault hc hr h
  | contains hk =>
    refine read_fault (List.mem_singleton.mpr rfl) h fun v hr h => ?_
    exact absurd (negated_error h) (contains_total hk hr)
  | «matches» hk =>
    refine read_fault (List.mem_singleton.mpr rfl) h fun v hr h => ?_
    exact absurd (negated_error h) (matches_total hk hr)
  | isEmpty f negated =>
    have hr := Field.read_error (emptyValue_error (negated_error h))
    exact hr.fault (List.mem_singleton.mpr rfl)

-- ---------------------------------------------------------------------------
-- Compiled predicates
-- ---------------------------------------------------------------------------

theorem compile_checked {source : String} (h : compile source = .ok p) : p.root.Checked := by
  unfold compile at h
  split at h
  · cases h
  · obtain ⟨tokens, ht, h⟩ := bind_eq_ok.mp h
    obtain ⟨e, he, h⟩ := bind_eq_ok.mp h
    cases h
    obtain ⟨_, _, _, _, _, hd⟩ := parse_sound (tokenize_lexed ht) he
    exact hd.checked

/-- Evaluating a compiled predicate comes to no operands of the wrong kind, and what goes wrong is
a fault, about a field that the predicate asks for and that the message shows. -/
theorem compile_sound {source : String} (h : compile source = .ok p) (r : Request) :
    (∀ x, Visits r p.root x → ¬ IllTyped r x) ∧
      ∀ err, p.evaluate r = .error err → Fault r p.root err ∧ err.field ∈ p.root.fields ∧
        ∃ before after, err.message = before ++ err.field.display ++ after := by
  have hc := compile_checked h
  refine ⟨fun x hv => (hc.of_visits hv).not_illTyped, fun err he => ?_⟩
  have hf := hc.eval_fault he
  exact ⟨hf, hf.field_mem, err.message_display⟩

theorem compile_sound_boolean :
    ∃ p, compile "Path == \"/\" and Method == true" = .ok p ∧
      (∀ x, Visits ⟨"GET", .origin ⟨"/", none⟩, .http11, [], [], none⟩ p.root x →
        ¬ IllTyped ⟨"GET", .origin ⟨"/", none⟩, .http11, [], [], none⟩ x) ∧
      Fault ⟨"GET", .origin ⟨"/", none⟩, .http11, [], [], none⟩ p.root
        (.typeMismatch .method .boolean "GET") ∧ Field.method ∈ p.root.fields := by
  have h : compile "Path == \"/\" and Method == true" =
      .ok ⟨"Path == \"/\" and Method == true",
        .and (.compare .path .eq (.str "/")) (.compare .method .eq (.bool true))⟩ := by cbv
  obtain ⟨hn, hf⟩ := compile_sound h ⟨"GET", .origin ⟨"/", none⟩, .http11, [], [], none⟩
  obtain ⟨hf, hm, -⟩ := hf (.typeMismatch .method .boolean "GET") (by cbv)
  exact ⟨_, h, hn, hf, hm⟩

end ConditionalGateway.Predicate
