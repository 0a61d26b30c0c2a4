import ConditionalGateway.Pipeline.Error

/-!
# Chains

A list of names is resolved against a table before anything is made: names are
read from left to right, and one that stands for a chain is replaced in place
by the members of that chain. Then the links are made from the last to the
first, each around the handler made before it, so that the first name is the
first to see a request.

`δ` is what a table holds, and `members` tells the names of a chain.
-/

namespace ConditionalGateway.Pipeline

def maxLinks : Nat := 1024

structure Expansion (δ : Type) where
  links : List (String × δ) := []
  /-- The names without a descriptor, each once. -/
  missing : List String := []
  deriving DecidableEq, Repr

namespace Expansion

variable {δ : Type}

def addLink (x : Expansion δ) (name : String) (d : δ) : Expansion δ :=
  { x with links := x.links ++ [(name, d)] }

def addMissing (x : Expansion δ) (name : String) : Expansion δ :=
  if name ∈ x.missing then x else { x with missing := x.missing ++ [name] }

end Expansion

def unopened {δ : Type} (table : List (String × δ)) (opened : List String) : List (String × δ) :=
  table.filter fun e => e.1 ∉ opened

theorem unopened_append_lt {δ : Type} {table : List (String × δ)} {opened : List String}
    {name : String} {d : δ} (found : table.lookup name = some d) (fresh : name ∉ opened) :
    (unopened table (opened ++ [name])).length < (unopened table opened).length := by
  have step : unopened table (opened ++ [name]) =
      (unopened table opened).filter fun e => e.1 ≠ name := by
    simp only [unopened, List.filter_filter]
    exact List.filter_congr fun e _ => by grind
  rw [step, List.length_filter_lt_length_iff_exists]
  have mem : (name, d) ∈ table := by
    obtain ⟨l, r, h, _⟩ := List.lookup_eq_some_iff.1 found
    simp [h]
  exact ⟨(name, d), by simp [unopened, mem, fresh], by simp⟩

variable {δ ε H σ : Type}

/-- Reads names behind what has been read. `opened` are the chains being expanded, outermost
first; each is a member of the one before it. -/
def expand (members : δ → Option (List String)) (table : List (String × δ))
    (opened : List String) (names : List String) (x : Expansion δ) :
    Except ResolutionError (Expansion δ) :=
  match names with
  | [] => .ok x
  | name :: rest =>
    match found : table.lookup name with
    | none => expand members table opened rest (x.addMissing name)
    | some d =>
      match members d with
      | none =>
        if x.links.length = maxLinks then .error (.tooLong maxLinks)
        else expand members table opened rest (x.addLink name d)
      | some inner =>
        if fresh : name ∈ opened then .error (.cycle (opened ++ [name]))
        else
          have := unopened_append_lt found fresh
          match expand members table (opened ++ [name]) inner x with
          | .error e => .error e
          | .ok x => expand members table opened rest x
termination_by ((unopened table opened).length, names.length)

def resolve (members : δ → Option (List String)) (table : List (String × δ))
    (names : List String) : Except ResolutionError (List (String × δ)) :=
  match expand members table [] names {} with
  | .error e => .error e
  | .ok x => if x.missing.isEmpty then .ok x.links else .error (.missing x.missing)

/-- A step of construction: it may fail, and what it did to the state stays done. -/
abbrev Build (σ ε α : Type) : Type := σ → Except ε α × σ

abbrev Factory (δ ε H σ : Type) : Type := String → δ → H → Build σ ε H

/-- Makes links from the last to the first, and stops at the first one that fails. -/
def makeLinks (factory : Factory δ ε H σ) :
    List (String × δ) → H → Build σ (ChainError ε) H
  | [], next, s => (.ok next, s)
  | (name, d) :: rest, next, s =>
    match makeLinks factory rest next s with
    | (.error e, s) => (.error e, s)
    | (.ok inner, s) =>
      match factory name d inner s with
      | (.error e, s) => (.error (.link name e), s)
      | (.ok h, s) => (.ok h, s)

def buildChain (members : δ → Option (List String)) (factory : Factory δ ε H σ)
    (table : List (String × δ)) (names : List String) (next : H) : Build σ (ChainError ε) H :=
  fun s =>
    match resolve members table names with
    | .error e => (.error (.unresolved e), s)
    | .ok links => makeLinks factory links next s

-- A table whose descriptors are seen in another way gives the same chains.

section

variable {δ' : Type}

def seenAs (f : δ → δ') (e : String × δ) : String × δ' := (e.1, f e.2)

def Expansion.seenAs (f : δ → δ') (x : Expansion δ) : Expansion δ' :=
  ⟨x.links.map (Pipeline.seenAs f), x.missing⟩

theorem lookup_map_seenAs (f : δ → δ') (table : List (String × δ)) (name : String) :
    (table.map (seenAs f)).lookup name = (table.lookup name).map f := by
  induction table with
  | nil => rfl
  | cons e table ih =>
    obtain ⟨n, d⟩ := e
    by_cases h : name = n
    · subst h; simp [seenAs]
    · simp [seenAs, List.lookup_cons, show (name == n) = false by simpa using h, ih]

theorem expand_map (f : δ → δ') (members' : δ' → Option (List String))
    (members : δ → Option (List String)) (same : ∀ d, members' (f d) = members d)
    (table : List (String × δ)) (opened names : List String) (x : Expansion δ) :
    expand members' (table.map (seenAs f)) opened names (x.seenAs f) =
      (expand members table opened names x).map (Expansion.seenAs f) := by
  fun_induction expand members table opened names x with
  | case1 => simp [expand, Except.map]
  | case2 opened x name rest found ih =>
    rw [expand]
    split
    · rename_i h
      rw [← ih]
      congr 1
      by_cases known : name ∈ x.missing <;> simp [Expansion.seenAs, Expansion.addMissing, known]
    · rename_i h
      simp [lookup_map_seenAs, found] at h
  | case3 opened x name rest d found plain full =>
    rw [expand]
    split
    · rename_i h
      simp [lookup_map_seenAs, found] at h
    · rename_i d' h
      obtain rfl : f d = d' := by simpa [lookup_map_seenAs, found] using h
      simp [same, plain, Expansion.seenAs, full, Except.map]
  | case4 opened x name rest d found plain room ih =>
    rw [expand]
    split
    · rename_i h
      simp [lookup_map_seenAs, found] at h
    · rename_i d' h
      obtain rfl : f d = d' := by simpa [lookup_map_seenAs, found] using h
      rw [← ih]
      simp [same, plain, Expansion.seenAs, room, Expansion.addLink, seenAs]
  | case5 opened x name rest d found inner chain cyclic =>
    rw [expand]
    split
    · rename_i h
      simp [lookup_map_seenAs, found] at h
    · rename_i d' h
      obtain rfl : f d = d' := by simpa [lookup_map_seenAs, found] using h
      simp [same, chain, cyclic, Except.map]
  | case6 opened x name rest d found inner chain fresh _ e failed ih =>
    rw [expand]
    split
    · rename_i h
      simp [lookup_map_seenAs, found] at h
    · rename_i d' h
      obtain rfl : f d = d' := by simpa [lookup_map_seenAs, found] using h
      simp [same, chain, fresh, ih, failed, Except.map]
  | case7 opened x name rest d found inner chain fresh _ y done ih ih2 =>
    rw [expand]
    split
    · rename_i h
      simp [lookup_map_seenAs, found] at h
    · rename_i d' h
      obtain rfl : f d = d' := by simpa [lookup_map_seenAs, found] using h
      simp [same, chain, fresh, ih, ih2, done, Except.map]

theorem resolve_map (f : δ → δ') (members' : δ' → Option (List String))
    (members : δ → Option (List String)) (same : ∀ d, members' (f d) = members d)
    (table : List (String × δ)) (names : List String) :
    resolve members' (table.map (seenAs f)) names =
      (resolve members table names).map (List.map (seenAs f)) := by
  have h := expand_map f members' members same table [] names {}
  simp only [Expansion.seenAs, List.map_nil] at h
  rw [resolve, resolve, h]
  cases expand members table [] names {} with
  | error e => rfl
  | ok x =>
    by_cases none : x.missing.isEmpty = true <;> simp [Except.map, Expansion.seenAs, none]

theorem makeLinks_map (f : δ → δ') (factory : Factory δ' ε H σ) (links : List (String × δ))
    (next : H) (s : σ) :
    makeLinks factory (links.map (seenAs f)) next s =
      makeLinks (fun name d => factory name (f d)) links next s := by
  induction links with
  | nil => rfl
  | cons e links ih =>
    obtain ⟨name, d⟩ := e
    simp only [List.map_cons, seenAs, makeLinks] at ih ⊢
    rw [ih]

theorem buildChain_map (f : δ → δ') (members' : δ' → Option (List String))
    (members : δ → Option (List String)) (same : ∀ d, members' (f d) = members d)
    (factory : Factory δ' ε H σ) (table : List (String × δ)) (names : List String) (next : H) :
    buildChain members' factory (table.map (seenAs f)) names next =
      buildChain members (fun name d => factory name (f d)) table names next := by
  funext s
  rw [buildChain, buildChain, resolve_map f members' members same]
  cases resolve members table names with
  | error e => rfl
  | ok links => exact makeLinks_map f factory links next s

end

end ConditionalGateway.Pipeline
