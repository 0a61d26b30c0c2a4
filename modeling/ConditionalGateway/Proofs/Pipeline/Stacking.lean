import ConditionalGateway.Proofs.Traced
import ConditionalGateway.Proofs.Pipeline.Outcome
import Mathlib.Data.List.Nodup

/-!
# Expanding names on a stack

The expansion of names as it runs: with one stack of the chains that are being expanded, and behind
what has been read. A chain is pushed before the call that reads its members, and popped when that
call comes back. Nothing but the number of calls that may run inside each other keeps it from going
on without end.

`expandOnto_bounded`: however the chains of a table refer to each other, there are never more calls
inside the first one than there are chains in the table, for the stack holds each of them once at
the most. A call that comes back leaves the stack as it was, and adds to what was read before.
-/

namespace ConditionalGateway.Pipeline

open Traced (Run)

variable {δ : Type}

/-- What an expansion works on: the chains being expanded, outermost first, and what has been
read. -/
structure Expanding (δ : Type) where
  opened : List String
  read : Expansion δ

/-- What is noted of an expansion. -/
inductive Note (δ : Type) where
  /-- It goes on with `s`. -/
  | works (s : Expanding δ)
  /-- A call that was made with `s` comes back with `t`. -/
  | returns (s t : Expanding δ)

abbrev Expander (δ α : Type) : Type := Traced (Expanding δ) (Note δ) ResolutionError α

namespace Expander

def workOn (s : Expanding δ) : Expander δ Unit := Traced.become (.works s) s

def called (w : Expander δ Unit) : Expander δ Unit := do
  let s ← Traced.state
  w
  let t ← Traced.state
  Traced.become (.returns s t) t

end Expander

open Expander

section
variable (members : δ → Option (List String)) (table : List (String × δ))

def expandName (inner : List String → Expander δ Unit) (name : String) : Expander δ Unit := do
  let s ← Traced.state
  match table.lookup name with
  | none => workOn { s with read := s.read.addMissing name }
  | some d =>
    match members d with
    | none =>
      if s.read.links.length = maxLinks then Traced.stop (.failed (.tooLong maxLinks))
      else workOn { s with read := s.read.addLink name d }
    | some ms =>
      if name ∈ s.opened then Traced.stop (.failed (.cycle (s.opened ++ [name])))
      else
        workOn { s with opened := s.opened ++ [name] }
        inner ms
        let t ← Traced.state
        workOn { t with opened := t.opened.dropLast }

def expandOnto : Nat → List String → Expander δ Unit
  | 0, _ => Traced.stop .unfinished
  | calls + 1, names => called (names.forM (expandName members table (expandOnto calls)))

def chainCount : Nat := (table.filter fun e => (members e.2).isSome).length

structure Expanding.Sound (names : List String) (s : Expanding δ) : Prop where
  distinct : s.opened.Nodup
  chains : ∀ n ∈ s.opened, ∃ ms, IsChainOf members table n ms
  starts : ∀ n, s.opened.head? = some n → n ∈ names
  nested : s.opened.IsChain (Within members table)
  room : s.read.links.length ≤ maxLinks
  once : s.read.missing.Nodup

/-- What has been read from `s` to `t` is added to what was read before, and the stack is the same
again. -/
structure Expanding.Extends (names : List String) (s t : Expanding δ) : Prop where
  sound : t.Sound members table names
  opened : t.opened = s.opened
  links : s.read.links <+: t.read.links
  missing : s.read.missing <+: t.read.missing

def Note.Sound (names : List String) : Note δ → Prop
  | .works s => s.Sound members table names
  | .returns s t => s.Extends members table names t

/-- A name is read for the chain that was opened last, or because it is one of the names that are
expanded. -/
def Inside (names opened : List String) (name : String) : Prop :=
  opened.getLast?.elim (name ∈ names) fun chain => Within members table chain name

/-- Names are read as in an expansion, where no more than so many calls may follow inside each
other. -/
def Reads (names : List String) (calls : Nat) (reader : List String → Expander δ Unit) : Prop :=
  ∀ s ms, s.Sound members table names → chainCount members table < s.opened.length + calls →
    (∀ name ∈ ms, Inside members table names s.opened name) →
    (reader ms s).Answers (Note.Sound members table names)
      (expand members table s.opened ms s.read)
      fun _ t _ y => t.read = y ∧ s.Extends members table names t

end

variable {members : δ → Option (List String)} {table : List (String × δ)} {names : List String}
  {s t u : Expanding δ} {inner reader : List String → Expander δ Unit}

-- ---------------------------------------------------------------------------
-- The stack
-- ---------------------------------------------------------------------------

theorem Expanding.Sound.length_le (h : s.Sound members table names) :
    s.opened.length ≤ chainCount members table := by
  have hsub : s.opened ⊆ (table.filter fun e => (members e.2).isSome).map Prod.fst := by
    intro n hn
    obtain ⟨ms, d, hl, hd⟩ := h.chains n hn
    obtain ⟨front, back, rfl, -⟩ := List.lookup_eq_some_iff.mp hl
    exact List.mem_map.mpr ⟨(n, d), List.mem_filter.mpr ⟨by simp, by simp [hd]⟩, rfl⟩
  have hlen := h.distinct.length_le_of_subset hsub
  rwa [List.length_map] at hlen

theorem Expanding.Sound.push (h : s.Sound members table names)
    (hc : IsChainOf members table name ms)
    (fresh : name ∉ s.opened) (hn : Inside members table names s.opened name) :
    Expanding.Sound members table names { s with opened := s.opened ++ [name] } where
  distinct := by
    rw [← List.concat_eq_append]
    exact h.distinct.concat fresh
  chains := by
    rw [List.forall_mem_append, List.forall_mem_singleton]
    exact ⟨h.chains, ms, hc⟩
  starts := by
    intro n hhead
    cases ho : s.opened with
    | nil =>
      rw [Inside, ho] at hn
      obtain rfl : name = n := by simpa [ho] using hhead
      exact hn
    | cons first rest =>
      obtain rfl : first = n := by simpa [ho] using hhead
      exact h.starts first (by rw [ho]; rfl)
  nested := by
    refine List.isChain_append.mpr ⟨h.nested, List.isChain_singleton _, ?_⟩
    intro chain hlast n hhead
    obtain rfl : name = n := by simpa using hhead
    rwa [Inside, hlast] at hn
  room := h.room
  once := h.once

theorem inside_push (hc : IsChainOf members table name ms) (hn : n ∈ ms) :
    Inside members table names (opened ++ [name]) n := by
  rw [Inside, List.getLast?_concat]
  exact ⟨ms, hc, hn⟩

-- ---------------------------------------------------------------------------
-- What is read
-- ---------------------------------------------------------------------------

theorem Expanding.Extends.refl (h : s.Sound members table names) :
    s.Extends members table names s :=
  ⟨h, rfl, List.prefix_rfl, List.prefix_rfl⟩

theorem Expanding.Extends.trans (h : s.Extends members table names t)
    (h' : t.Extends members table names u) : s.Extends members table names u :=
  ⟨h'.sound, h'.opened.trans h.opened, h.links.trans h'.links, h.missing.trans h'.missing⟩

theorem Expanding.Sound.addMissing (h : s.Sound members table names) (name : String) :
    s.Extends members table names { s with read := s.read.addMissing name } := by
  unfold Expansion.addMissing
  split
  · exact .refl h
  · rename_i fresh
    refine ⟨{ h with once := ?_ }, rfl, List.prefix_rfl, List.prefix_append _ _⟩
    rw [← List.concat_eq_append]
    exact h.once.concat fresh

theorem Expanding.Sound.addLink (h : s.Sound members table names)
    (room : s.read.links.length ≠ maxLinks) (name : String) (d : δ) :
    s.Extends members table names { s with read := s.read.addLink name d } := by
  refine ⟨{ h with room := ?_ }, rfl, List.prefix_append _ _, List.prefix_rfl⟩
  have hroom := h.room
  simp only [Expansion.addLink, List.length_append, List.length_singleton]
  omega

theorem Expanding.Extends.pop
    (h : Expanding.Extends members table names { s with opened := s.opened ++ [name] } t)
    (hs : s.Sound members table names) :
    s.Extends members table names { t with opened := t.opened.dropLast } := by
  have hpop : t.opened.dropLast = s.opened := by rw [h.opened, List.dropLast_concat]
  rw [hpop]
  exact ⟨{ hs with room := h.sound.room, once := h.sound.once }, rfl, h.links, h.missing⟩

-- ---------------------------------------------------------------------------
-- One name after the other
-- ---------------------------------------------------------------------------

def readName (members : δ → Option (List String)) (table : List (String × δ))
    (opened : List String) (name : String) (x : Expansion δ) :
    Except ResolutionError (Expansion δ) :=
  match table.lookup name with
  | none => .ok (x.addMissing name)
  | some d =>
    match members d with
    | none =>
      if x.links.length = maxLinks then .error (.tooLong maxLinks) else .ok (x.addLink name d)
    | some ms =>
      if name ∈ opened then .error (.cycle (opened ++ [name]))
      else expand members table (opened ++ [name]) ms x

theorem expand_cons (opened : List String) (name : String) (rest : List String) (x : Expansion δ) :
    expand members table opened (name :: rest) x =
      readName members table opened name x >>= expand members table opened rest := by
  rw [expand]
  split
  · rename_i hl
    simp only [readName, hl]
    rfl
  · rename_i d hl
    split
    · rename_i hd
      simp only [readName, hl, hd]
      split <;> rfl
    · rename_i ms hd
      simp only [readName, hl, hd]
      split
      · rfl
      · cases expand members table (opened ++ [name]) ms x <;> rfl

theorem workOn_answers (h : s.Extends members table names t) (s' : Expanding δ) :
    (workOn t s').Answers (Note.Sound members table names) (.ok t.read)
      fun _ u _ y => u.read = y ∧ s.Extends members table names u :=
  Run.Answers.become (s := s') (f := pure) h.sound (.pure ⟨rfl, h⟩)

theorem expandName_answers (hi : Reads members table names calls inner)
    (hs : s.Sound members table names)
    (hcalls : chainCount members table < s.opened.length + 1 + calls)
    (hn : Inside members table names s.opened name) :
    (expandName members table inner name s).Answers (Note.Sound members table names)
      (readName members table s.opened name s.read)
      fun _ t _ y => t.read = y ∧ s.Extends members table names t := by
  unfold expandName readName
  rw [Traced.state_bind]
  cases hl : table.lookup name with
  | none => exact workOn_answers (hs.addMissing name) s
  | some d =>
    dsimp only
    cases hd : members d with
    | none =>
      dsimp only
      by_cases full : s.read.links.length = maxLinks
      · rw [if_pos full, if_pos full]
        exact .failed _
      · rw [if_neg full, if_neg full]
        exact workOn_answers (hs.addLink full name d) s
    | some ms =>
      dsimp only
      by_cases cyclic : name ∈ s.opened
      · rw [if_pos cyclic, if_pos cyclic]
        exact .failed _
      · rw [if_neg cyclic, if_neg cyclic, ← bind_pure (expand members table _ ms s.read)]
        have hc : IsChainOf members table name ms := ⟨d, hl, hd⟩
        have hpush := hs.push hc cyclic hn
        have hinner := hi _ ms hpush (by simpa using hcalls) fun n => inside_push hc
        refine .become hpush (hinner.bind ?_)
        rintro _ t _ _ - ⟨rfl, ht⟩
        exact workOn_answers (ht.pop hs) t

theorem forM_reads (hi : Reads members table names calls inner) :
    Reads members table names (calls + 1) fun ms => ms.forM (expandName members table inner) := by
  intro s ms hs hcalls hn
  induction ms generalizing s with
  | nil =>
    rw [expand]
    exact .pure ⟨rfl, .refl hs⟩
  | cons name rest ih =>
    rw [List.forall_mem_cons] at hn
    rw [expand_cons]
    have hname := expandName_answers hi hs (by omega) hn.1
    refine hname.bind ?_
    rintro _ t _ _ - ⟨rfl, ht⟩
    have hrest := ih t ht.sound (by rwa [ht.opened]) (by rw [ht.opened]; exact hn.2)
    rw [ht.opened] at hrest
    refine ⟨hrest.trace, hrest.error, fun y hy => ?_⟩
    obtain ⟨_, u, hu, heq, htu⟩ := hrest.ok y hy
    exact ⟨_, u, hu, heq, ht.trans htu⟩

theorem called_reads (h : Reads members table names calls reader) :
    Reads members table names calls fun ms => called (reader ms) := by
  intro s ms hs hcalls hn
  show (called (reader ms) s).Answers _ _ _
  unfold called
  rw [Traced.state_bind, ← bind_pure (expand members table s.opened ms s.read)]
  refine (h s ms hs hcalls hn).bind ?_
  rintro _ t _ _ - ⟨rfl, ht⟩
  exact Run.Answers.become (s := t) (f := pure) ht (.pure ⟨rfl, ht⟩)

/-- While fewer calls are made inside each other than there are chains, there is one left. -/
theorem expandOnto_reads (calls : Nat) :
    Reads members table names calls (expandOnto members table calls) := by
  induction calls with
  | zero =>
    intro s ms hs hcalls
    have hlen := hs.length_le
    omega
  | succ calls ih => exact called_reads (forM_reads ih)

/-- Names are expanded by a call inside of which there are never more calls than there are chains
in the table, whatever the chains have for members. -/
theorem expandOnto_bounded (members : δ → Option (List String)) (table : List (String × δ))
    (names : List String) (spare : Nat) :
    let run := expandOnto members table (chainCount members table + 1 + spare) names ⟨[], {}⟩
    -- It ends, with the same error or with the same expansion and an empty stack.
    (∀ e, expand members table [] names {} = .error e → run.result = .error (.failed e)) ∧
    (∀ x, expand members table [] names {} = .ok x → run.result = .ok ((), ⟨[], x⟩)) ∧
    -- At all times different chains are on the stack, each a member of the one before it.
    (∀ s, .works s ∈ run.trace →
      s.opened.Nodup ∧ (∀ n ∈ s.opened, ∃ ms, IsChainOf members table n ms) ∧
      (∀ n, s.opened.head? = some n → n ∈ names) ∧ s.opened.IsChain (Within members table) ∧
      s.opened.length ≤ chainCount members table) ∧
    -- Each call that comes back leaves the stack as it was, and adds to what was read before.
    ∀ s t, .returns s t ∈ run.trace →
      t.opened = s.opened ∧ s.read.links <+: t.read.links ∧ s.read.missing <+: t.read.missing ∧
      t.read.links.length ≤ 1024 ∧ t.read.missing.Nodup := by
  intro run
  have hstart : Expanding.Sound members table names ⟨[], {}⟩ :=
    ⟨List.nodup_nil, nofun, nofun, List.isChain_nil, Nat.zero_le _, List.nodup_nil⟩
  have hrun : run.Answers _ _ _ :=
    expandOnto_reads _ ⟨[], {}⟩ names hstart (by simp only [List.length_nil]; omega)
      fun name hn => hn
  refine ⟨hrun.error, fun x hx => ?_, fun s hs => ?_, fun s t hst => ?_⟩
  · obtain ⟨_, ⟨opened, read⟩, hresult, rfl, hext⟩ := hrun.ok x hx
    obtain rfl : opened = [] := hext.opened
    exact hresult
  · have hsound : s.Sound members table names := hrun.trace _ hs
    exact ⟨hsound.distinct, hsound.chains, hsound.starts, hsound.nested, hsound.length_le⟩
  · have hext : s.Extends members table names t := hrun.trace _ hst
    exact ⟨hext.opened, hext.links, hext.missing, hext.sound.room, hext.sound.once⟩

-- Two chains that lead to each other: the call that finds the cycle is inside two others.
example : (expandOnto some [("x", ["y"]), ("y", ["x"])] 3 ["x"] ⟨[], {}⟩).result =
    .error (.failed (.cycle ["x", "y", "x"])) := by
  rfl
example : (expandOnto some [("x", ["y"]), ("y", ["x"])] 2 ["x"] ⟨[], {}⟩).result =
    .error .unfinished := by
  rfl

end ConditionalGateway.Pipeline
