import ConditionalGateway.Predicate.Basic
import ConditionalGateway.Proofs.ExceptLaws
import Mathlib

/-!
# Lists and their members

A header and a query parameter can be read as the list of their values, or one
of these can be picked by an index. `nth_agrees`: an index picks a member of the
list that is read without it, and whatever keeps the list from being read keeps
every member from it. So containment asks for an index at which the values are
equal, and emptiness asks for the first one.

Both ways go through the texts of all values (`Field.texts?`), which are told
only if every value is text.
-/

namespace ConditionalGateway.Predicate

open Http

/-- The field that an index picks from a list; an index that is there is replaced. -/
def Field.nth : Field → Nat → Field
  | .header name _, i => .header name (some i)
  | .query key _, i => .query key (some i)
  | f, _ => f

theorem Field.list_cases {f : Field} (hf : f.kind = .list) :
    (∃ name, f = .header name none) ∨ ∃ key, f = .query key none := by
  cases f with
  | header name index =>
    cases index with
    | none => exact .inl ⟨name, rfl⟩
    | some i => cases hf
  | query key index =>
    cases index with
    | none => exact .inr ⟨key, rfl⟩
    | some i => cases hf
  | _ => cases hf

-- ---------------------------------------------------------------------------
-- Texts
-- ---------------------------------------------------------------------------

/-- The texts of all values of a header or a query parameter, if each of them is text. -/
def Field.texts? (r : Request) : Field → Option (List String)
  | .header name _ => (r.headers.getAll name).mapM HeaderValue.text?
  | .query key _ => some (Form.valuesOf (r.target.query?.getD "") key)
  | _ => none

theorem Field.mapM_textOf (f : Field) (values : List HeaderValue) :
    values.mapM f.textOf = match values.mapM HeaderValue.text? with
      | some texts => .ok texts
      | none => .error (.invalidEncoding f) := by
  induction values with
  | nil => rfl
  | cons v values ih =>
    rw [List.mapM_cons, List.mapM_cons, ih, textOf]
    cases v.text? with
    | none => rfl
    | some s => cases values.mapM HeaderValue.text? <;> rfl

theorem mapM_text?_eq_none {values : List HeaderValue} :
    values.mapM HeaderValue.text? = none ↔ ∃ v ∈ values, v.text? = none := by
  induction values with
  | nil => simp
  | cons v values ih =>
    simp only [List.mapM_cons, List.mem_cons, exists_eq_or_imp, ← ih]
    cases v.text? with
    | none => simp
    | some s => cases values.mapM HeaderValue.text? <;> simp

theorem Field.texts?_eq_none {f : Field} (hf : f.kind = .list) :
    f.texts? r = none ↔
      ∃ name, f = .header name none ∧ ∃ v ∈ r.headers.getAll name, v.text? = none := by
  obtain ⟨name, rfl⟩ | ⟨key, rfl⟩ := list_cases hf
  · rw [texts?, mapM_text?_eq_none]
    constructor
    · exact fun hv => ⟨name, rfl, hv⟩
    · rintro ⟨_, hname, hv⟩
      cases hname
      exact hv
  · simp [texts?]

theorem Field.read_header (name : HeaderName) (index : Option Nat) (r : Request) :
    (Field.header name index).read r = match (Field.header name index).texts? r with
      | some texts => select (.header name index) texts index
      | none => .error (.invalidEncoding (.header name index)) := by
  rw [read, mapM_textOf, texts?]
  cases (r.headers.getAll name).mapM HeaderValue.text? <;> rfl

theorem Field.read_list {f : Field} (hf : f.kind = .list) (r : Request) :
    f.read r = match f.texts? r with
      | some texts => .ok (.list texts)
      | none => .error (.invalidEncoding f) := by
  obtain ⟨name, rfl⟩ | ⟨key, rfl⟩ := list_cases hf
  · rw [read_header]
    cases texts? r (.header name none) <;> rfl
  · rfl

theorem Field.read_nth {f : Field} (hf : f.kind = .list) (r : Request) (i : Nat) :
    (f.nth i).read r = match f.texts? r with
      | some texts => (f.nth i).select texts (some i)
      | none => .error (.invalidEncoding (f.nth i)) := by
  obtain ⟨name, rfl⟩ | ⟨key, rfl⟩ := list_cases hf
  · exact read_header name (some i) r
  · rfl

-- ---------------------------------------------------------------------------
-- Picking a member
-- ---------------------------------------------------------------------------

section
variable {f : Field} {texts : List String}

theorem Field.select_getElem (h : i < texts.length) :
    f.select texts (some i) = .ok (.text texts[i]) := by
  have hne : texts ≠ [] := List.ne_nil_of_length_pos (Nat.zero_lt_of_lt h)
  simp [select, hne, h]

theorem Field.select_nil : f.select [] (some i) = .error (.missingField f) := rfl

theorem Field.select_outOfRange (hne : texts ≠ []) (h : texts.length ≤ i) :
    f.select texts (some i) = .error (.indexOutOfRange f i texts.length) := by
  simp [select, hne, List.getElem?_eq_none h]

theorem Field.select_eq_text :
    f.select texts (some i) = .ok (.text s) ↔ texts[i]? = some s := by
  by_cases hi : i < texts.length
  · simp [select_getElem hi, List.getElem?_eq_getElem hi]
  · rw [Nat.not_lt] at hi
    by_cases hne : texts = []
    · simp [hne, select_nil]
    · simp [select_outOfRange hne hi, List.getElem?_eq_none hi]

theorem Field.select_ne_encoding : f.select texts (some i) ≠ .error (.invalidEncoding g) := by
  by_cases hi : i < texts.length
  · simp [select_getElem hi]
  · rw [Nat.not_lt] at hi
    by_cases hne : texts = []
    · simp [hne, select_nil]
    · simp [select_outOfRange hne hi]

end

theorem textOrder_eq_iff (s t : String) : textOrder s t = .eq ↔ s = t := by
  unfold textOrder
  split
  · rename_i h
    exact ⟨nofun, fun he => absurd (he ▸ h) (String.lt_irrefl t)⟩
  · split <;> simp [*]

theorem eval_eq_text (f : Field) (s : String) (r : Request) :
    (Expr.compare f .eq (.str s)).eval r = .ok true ↔ f.read r = .ok (.text s) := by
  rw [Expr.eval]
  cases f.read r with
  | error e => simp [bind, Except.bind]
  | ok v =>
    cases v with
    | text t => simp [bind, Except.bind, compareValue, Comparison.holds, textOrder_eq_iff]
    | number x => simp [bind, Except.bind, compareValue]
    | list vs => simp [bind, Except.bind, compareValue]

theorem eval_contains {f : Field} (hf : f.kind = .list) (s : String) (r : Request) :
    (Expr.contains f s false).eval r = .ok true ↔ ∃ texts, f.texts? r = some texts ∧ s ∈ texts := by
  rw [Expr.eval, Field.read_list hf]
  cases f.texts? r <;> simp [bind, Except.bind, pure, Except.pure, containsValue]

theorem eval_isEmpty {f : Field} (hf : f.kind = .list) (r : Request) :
    (Expr.isEmpty f false).eval r = .ok true ↔ f.texts? r = some [] := by
  rw [Expr.eval, Field.read_list hf]
  cases f.texts? r <;> simp [bind, Except.bind, pure, Except.pure, emptyValue]

/-- An index picks a member of the list that is read without it, or tells that there is none; it
reads no text where the list is none. So containment is equality at some index, and emptiness is
that the first member is missing. -/
theorem nth_agrees {f : Field} (hf : f.kind = .list) (r : Request) :
    -- A list is read, unless a value of the header is no text.
    ((∃ vs, f.read r = .ok (.list vs)) ∨ f.read r = .error (.invalidEncoding f)) ∧
    (f.read r = .error (.invalidEncoding f) ↔
      ∃ name, f = .header name none ∧ ∃ v ∈ r.headers.getAll name, v.text? = none) ∧
    -- The members are those of the list.
    (∀ vs i, f.read r = .ok (.list vs) →
      (∀ h : i < vs.length, (f.nth i).read r = .ok (.text vs[i])) ∧
      (vs = [] → (f.nth i).read r = .error (.missingField (f.nth i))) ∧
      (vs ≠ [] → vs.length ≤ i →
        (f.nth i).read r = .error (.indexOutOfRange (f.nth i) i vs.length))) ∧
    (∀ i, (f.nth i).read r = .error (.invalidEncoding (f.nth i)) ↔
      f.read r = .error (.invalidEncoding f)) ∧
    -- The operators agree.
    (∀ v, (Expr.contains f v false).eval r = .ok true ↔
      ∃ i, (Expr.compare (f.nth i) .eq (.str v)).eval r = .ok true) ∧
    ((Expr.isEmpty f false).eval r = .ok true ↔
      (f.nth 0).read r = .error (.missingField (f.nth 0))) := by
  have hnone := Field.texts?_eq_none (r := r) hf
  simp only [eval_contains hf, eval_isEmpty hf, eval_eq_text, Field.read_nth hf,
    Field.read_list hf, ← hnone]
  cases f.texts? r with
  | none => simp
  | some texts =>
    refine ⟨.inl ⟨texts, rfl⟩, by simp, ?_, fun i => ?_, fun v => ?_, ?_⟩
    · rintro vs i ⟨⟩
      refine ⟨Field.select_getElem, ?_, Field.select_outOfRange⟩
      rintro rfl
      exact Field.select_nil
    · simp [Field.select_ne_encoding]
    · simp [Field.select_eq_text, List.mem_iff_getElem?]
    · cases texts <;> simp [Field.select]

def acceptingRequest : Request :=
  { (default : Request) with
    headers := [(⟨"accept"⟩, .ofText "a"), (hostName, .ofText "h"), (⟨"accept"⟩, .ofText "b"),
      (⟨"accept"⟩, .ofText "a")] }

theorem nth_agrees_accept : (Field.header ⟨"accept"⟩ none).kind = .list ∧
    (Field.header ⟨"accept"⟩ (some 1)).read acceptingRequest = .ok (.text "b") ∧
    (Field.header ⟨"accept"⟩ (some 3)).read acceptingRequest =
      .error (.indexOutOfRange (.header ⟨"accept"⟩ (some 3)) 3 3) ∧
    ∃ i, (Expr.compare (.header ⟨"accept"⟩ (some i)) .eq (.str "a")).eval acceptingRequest =
      .ok true := by
  have hf : (Field.header ⟨"accept"⟩ none).kind = .list := rfl
  have hlist : (Field.header ⟨"accept"⟩ none).read acceptingRequest =
      .ok (.list ["a", "b", "a"]) := by cbv
  obtain ⟨-, -, hmember, -, hcontains, -⟩ := nth_agrees hf acceptingRequest
  refine ⟨hf, (hmember _ 1 hlist).1 (by decide), (hmember _ 3 hlist).2.2 (by decide) (by decide), ?_⟩
  exact (hcontains "a").mp (by cbv)

end ConditionalGateway.Predicate
