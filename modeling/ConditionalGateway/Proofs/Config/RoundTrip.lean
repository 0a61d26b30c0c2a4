import ConditionalGateway.Config.Schema
import Mathlib

/-!
# Configurations that are written and read again

`reads_back`: a configuration is read back from the value that it is written as.

A number has to fit its field, and the names in a table have to be in order, as
they are when a table is read (`Fits`). Then each reader undoes its writer, and a
branch that lies in a branch is read back because it is a smaller one.
-/

namespace ConditionalGateway.Config

open Pipeline RateLimit

def Sorted (entries : List (String × α)) : Prop := (entries.map Prod.fst).Pairwise (· < ·)

/-- Descriptors whose numbers fit their fields, and whose tables are in order at every depth. -/
inductive Fits : Descriptor → Prop
  | headers : Sorted request → Sorted response → Fits (.headers request response)
  | stripPrefix (prefixes : List String) : Fits (.stripPrefix prefixes)
  | addPrefix (pre : String) : Fits (.addPrefix pre)
  | replacePath (path : String) : Fits (.replacePath path)
  | rateLimit : settings.average < limit32 → (∀ n ∈ settings.burst, n < limit32) →
      Fits (.rateLimit settings)
  | chain (members : List String) : Fits (.chain members)
  | branching : Sorted spec.middlewares → (∀ e ∈ spec.middlewares, Fits e.2) →
      Fits (.branching spec)

/-- Configurations whose numbers fit their fields, and whose tables are in order. -/
structure WellFormed (c : Config) : Prop where
  seconds : c.requestSeconds < limit64
  branches : ∀ b ∈ c.branches, Fits (.branching b.spec)

-- ---------------------------------------------------------------------------
-- Values
-- ---------------------------------------------------------------------------

theorem sortEntries_sorted {entries : List (String × α)} (h : Sorted entries) :
    sortEntries entries = entries := by
  refine List.mergeSort_of_pairwise ((List.pairwise_map.mp h).imp fun {a b} hab => ?_)
  have hn : ¬b.1 < a.1 := hab.asymm
  rw [entryLe, decide_eq_false hn, Bool.not_false]

theorem mapM_map_eq_some {read : β → Option α} {write : α → β} {xs : List α}
    (h : ∀ x ∈ xs, read (write x) = some x) : (xs.map write).mapM read = some xs := by
  induction xs with
  | nil => rfl
  | cons x xs ih =>
    obtain ⟨hx, hxs⟩ := List.forall_mem_cons.mp h
    simp [hx, ih hxs]

@[simp] theorem texts?_textsValue (texts : List String) : (textsValue texts).texts? = some texts :=
  mapM_map_eq_some fun _ _ => rfl

theorem readHeaderEdits_written (h : Sorted edits) :
    readHeaderEdits (headerEditsValue edits) = some edits := by
  have hm : (edits.map fun e => (e.1, Value.text e.2)).mapM
      (fun e => e.2.text?.map fun a => (e.1, a)) = some edits :=
    mapM_map_eq_some fun _ _ => rfl
  simp [readHeaderEdits, headerEditsValue, tableOf?, hm, sortEntries_sorted h]

theorem nat?_integer {n limit : Nat} (h : n < limit) : (Value.integer n).nat? limit = some n := by
  simp [Value.nat?, h]

theorem required_integer {n limit : Nat} (h : n < limit) :
    required (Value.nat? limit) (some (.integer n)) = some n := by
  rw [required, Option.bind_some, nat?_integer h]

/-- What is written is not null, so null is read as nothing and nothing else is. -/
theorem optional_optionValue {read : Value → Option α} {write : α → Value}
    (h : ∀ a ∈ o, read (write a) = some a) (hn : ∀ a, write a ≠ .null) :
    optional read (some (optionValue write o)) = some o := by
  cases o with
  | none => rfl
  | some a =>
    have hr : optional read (some (write a)) = (read (write a)).map some := by
      unfold optional
      split
      · contradiction
      · rename_i hw
        exact absurd (Option.some.inj hw) (hn a)
      · rename_i hw
        rw [Option.some.inj hw]
    simp [optionValue, hr, h a rfl]

@[simp] theorem kind_ofString?_display (k : Kind) : Kind.ofString? k.display = some k := by
  cases k <;> rfl

@[simp] theorem logFormat_ofString?_display (f : LogFormat) : LogFormat.ofString? f.display = some f := by
  cases f <;> rfl

-- ---------------------------------------------------------------------------
-- Branches
-- ---------------------------------------------------------------------------

theorem optional_chainEntry (chain : Option (List String)) (tail : List (String × Value))
    (ht : tail.lookup "chain" = none) :
    optional Value.texts? ((chainEntry chain ++ tail).lookup "chain") = some chain := by
  cases chain with
  | none => simp [chainEntry, ht, optional]
  | some names =>
    have hr : optional Value.texts? (some (textsValue names)) = some (some names) := by
      simp only [textsValue, optional]
      exact congrArg (Option.map some) (texts?_textsValue names)
    simpa [chainEntry] using hr

theorem readTableIn_chainEntry (chain : Option (List String)) (v : Value) :
    readTableIn (chainEntry chain ++ [("middlewares", v)]) = readTable v := by
  cases chain with
  | none => simp [chainEntry, readTableIn]
  | some names => simp [chainEntry, readTableIn]

theorem readDescriptors_written {table : Table}
    (h : ∀ e ∈ table, readDescriptor (.table [(e.2.kind.display, payloadValue e.2)]) = some e.2) :
    readDescriptors (tableEntries table) = some table := by
  induction table with
  | nil => simp only [tableEntries, readDescriptors]
  | cons e rest ih =>
    obtain ⟨name, d⟩ := e
    obtain ⟨hd, hrest⟩ := List.forall_mem_cons.mp h
    simp [tableEntries, readDescriptors, hd, ih hrest]

/-- Fields of other names that stand in front are passed over. -/
theorem lookup_append_of_ne {front back : List (String × Value)} (h : ∀ e ∈ front, e.1 ≠ name) :
    (front ++ back).lookup name = back.lookup name := by
  have hn : front.lookup name = none := by
    rw [List.lookup_eq_none_iff]
    intro e he
    rw [bne_iff_ne]
    exact (h e he).symm
  rw [List.lookup_append, hn, Option.none_or]

theorem readTableIn_append {front : List (String × Value)} (h : ∀ e ∈ front, e.1 ≠ "middlewares")
    (back : List (String × Value)) : readTableIn (front ++ back) = readTableIn back := by
  induction front with
  | nil => rfl
  | cons e front ih =>
    obtain ⟨name, v⟩ := e
    obtain ⟨hn, h⟩ := List.forall_mem_cons.mp h
    rw [List.cons_append, readTableIn, if_neg hn, ih h]

theorem readSpec_written {spec : BranchSpec Descriptor} (hs : Sorted spec.middlewares)
    (h : ∀ e ∈ spec.middlewares,
      readDescriptor (.table [(e.2.kind.display, payloadValue e.2)]) = some e.2)
    {front : List (String × Value)}
    (hf : ∀ e ∈ front, e.1 ≠ "condition" ∧ e.1 ≠ "chain" ∧ e.1 ≠ "middlewares") :
    readSpec (.table (front ++ specEntries spec)) = some spec := by
  obtain ⟨condition, chain, middlewares⟩ := spec
  have hcondition : required Value.text?
      ((front ++ specEntries ⟨condition, chain, middlewares⟩).lookup "condition") =
        some condition := by
    rw [lookup_append_of_ne fun e he => (hf e he).1, specEntries]
    rfl
  have hchain : optional Value.texts?
      ((front ++ specEntries ⟨condition, chain, middlewares⟩).lookup "chain") = some chain := by
    rw [lookup_append_of_ne fun e he => (hf e he).2.1, specEntries, List.append_assoc,
      lookup_append_of_ne (by simp)]
    exact optional_chainEntry chain _ (by simp)
  have htable : readTableIn (front ++ specEntries ⟨condition, chain, middlewares⟩) =
      some middlewares := by
    rw [readTableIn_append fun e he => (hf e he).2.2, specEntries, List.append_assoc,
      readTableIn_append (by simp), readTableIn_chainEntry]
    simp [readTable, readDescriptors_written h, sortEntries_sorted hs]
  simp [readSpec, hcondition, hchain, htable]

theorem readRateLimit_table {average burst sourceHeader : Value}
    (ha : required (Value.nat? limit32) (some average) = some settings.average)
    (hb : optional (Value.nat? limit32) (some burst) = some settings.burst)
    (hs : optional Value.text? (some sourceHeader) = some settings.sourceHeader) :
    readRateLimit (.table [("average", average), ("burst", burst),
      ("source_header", sourceHeader)]) = some (.rateLimit settings) := by
  simp [readRateLimit, Value.record?, List.lookup_cons, ha, hb, hs]

theorem readDescriptor_written (h : Fits d) :
    readDescriptor (.table [(d.kind.display, payloadValue d)]) = some d := by
  induction h with
  | headers hr hs =>
    simp [readDescriptor, Descriptor.kind, payloadValue, readHeaders, Value.record?,
      List.lookup_cons, defaulted, readHeaderEdits_written hr, readHeaderEdits_written hs]
  | stripPrefix prefixes =>
    simp [readDescriptor, Descriptor.kind, payloadValue, readStripPrefix, Value.record?, required]
  | addPrefix pre =>
    simp [readDescriptor, Descriptor.kind, payloadValue, readAddPrefix, Value.record?, required,
      Value.text?]
  | replacePath path =>
    simp [readDescriptor, Descriptor.kind, payloadValue, readReplacePath, Value.record?, required,
      Value.text?]
  | @rateLimit settings ha hb =>
    have hburst : optional (Value.nat? limit32)
        (some (optionValue (fun n : Nat => .integer n) settings.burst)) = some settings.burst :=
      optional_optionValue (fun n hn => nat?_integer (hb n hn)) fun _ => nofun
    have hheader : optional Value.text? (some (optionValue .text settings.sourceHeader)) =
        some settings.sourceHeader := optional_optionValue (fun _ _ => rfl) fun _ => nofun
    simp only [readDescriptor, kind_ofString?_display, Descriptor.kind, payloadValue]
    exact readRateLimit_table (required_integer ha) hburst hheader
  | chain members =>
    simp [readDescriptor, Descriptor.kind, payloadValue, readChain, Value.record?, required]
  | branching hs _ ih =>
    have hspec := readSpec_written hs ih (List.forall_mem_nil _)
    rw [List.nil_append] at hspec
    simp [readDescriptor, Descriptor.kind, payloadValue, hspec]

theorem readBranch_branchValue {b : Branch} (h : Fits (.branching b.spec)) :
    readBranch (branchValue b) = some b := by
  obtain ⟨name, spec⟩ := b
  cases h with
  | branching hs hd =>
    have hfront : ∀ e ∈ [("name", Value.text name)],
        e.1 ≠ "condition" ∧ e.1 ≠ "chain" ∧ e.1 ≠ "middlewares" := by
      simp
    have hspec := readSpec_written hs (fun e he => readDescriptor_written (hd e he)) hfront
    rw [List.singleton_append] at hspec
    simp [readBranch, branchValue, required, Value.text?, hspec]

-- ---------------------------------------------------------------------------
-- Configurations
-- ---------------------------------------------------------------------------

theorem readSection_table (name : String) (a : α) (read : Value → Option α) (v : Value) :
    readSection name a read (.table [(name, v)]) = read v := by
  simp [readSection, Value.record?, defaulted]

theorem readObservability_written (o : Observability) :
    readObservability (observabilityValue o) = some o := by
  simp [readObservability, observabilityValue, Value.record?, List.lookup_cons, defaulted,
    Value.text?, Value.bool?, readLogFormat]

theorem ofValue?_table {c : Config} {listener upstream timeouts observability branches : Value}
    (hl : readSection "bind_address" "0.0.0.0:8080" Value.text? listener = some c.bindAddress)
    (hu : readSection "url" "http://127.0.0.1:3000" Value.text? upstream = some c.originUrl)
    (ht : readSection "request_secs" 30 (Value.nat? limit64) timeouts = some c.requestSeconds)
    (ho : readObservability observability = some c.observability)
    (hb : readBranches branches = some c.branches) :
    ofValue? (.table [("listener", listener), ("upstream", upstream), ("timeouts", timeouts),
      ("observability", observability), ("branches", branches)]) = some c := by
  simp [ofValue?, Value.record?, List.lookup_cons, defaulted, hl, hu, ht, ho, hb]

/-- A configuration is read back from the value that it is written as. So is each of its branches:
its name and what it guards stand among the same fields and separate again, and a branch without an
order is not written like one with an order, be that an empty one. -/
theorem reads_back {c : Config} (h : c.WellFormed) :
    ofValue? c.toValue = some c ∧
      ∀ b ∈ c.branches, readBranch (branchValue b) = some b ∧
        ∀ chain, branchValue ⟨b.name, { b.spec with chain }⟩ = branchValue b →
          chain = b.spec.chain := by
  have hb : ∀ b ∈ c.branches, readBranch (branchValue b) = some b :=
    fun b hb => readBranch_branchValue (h.branches b hb)
  refine ⟨?_, fun b hm => ⟨hb b hm, fun chain he => ?_⟩⟩
  · exact ofValue?_table (readSection_table ..) (readSection_table ..)
      ((readSection_table ..).trans (nat?_integer h.seconds)) (readObservability_written _)
      (mapM_map_eq_some hb)
  · -- the order does not bear on whether a branch fits, so both branches are read back
    have hchain : Fits (.branching { b.spec with chain }) := by
      cases h.branches b hm with
      | branching hs hd => exact .branching hs hd
    have hread := readBranch_branchValue (b := ⟨b.name, { b.spec with chain }⟩) hchain
    rw [he, hb b hm] at hread
    exact congrArg (fun b : Branch => b.spec.chain) (Option.some.inj hread).symm

/-- A branch in a branch, with an empty order around one that is not given, and a descriptor of
each kind. -/
def nestedKinds : Config where
  requestSeconds := 18446744073709551615
  branches := [⟨"outer", "true", some [],
    [("edit", .headers [("X-A", ""), ("X-B", "1")] []),
      ("group", .chain ["edit", "edit"]),
      ("inner", .branching ⟨"Method == \"GET\"", none,
        [("add", .addPrefix "/a"),
          ("limit", .rateLimit ⟨4294967295, none, some "X-Client"⟩),
          ("limit2", .rateLimit ⟨0, some 0, none⟩),
          ("replace", .replacePath "/"),
          ("strip", .stripPrefix [])]⟩)]⟩]

instance (entries : List (String × α)) : Decidable (Sorted entries) :=
  inferInstanceAs (Decidable (List.Pairwise _ _))

theorem nestedKinds_wellFormed : nestedKinds.WellFormed := by
  refine ⟨by decide, fun b hb => ?_⟩
  obtain rfl := List.mem_singleton.mp hb
  refine .branching (by decide +kernel) (List.forall_mem_cons.mpr ⟨?edit,
    List.forall_mem_cons.mpr ⟨?group, List.forall_mem_singleton.mpr ?inner⟩⟩)
  case edit => exact .headers (by decide +kernel) (by decide +kernel)
  case group => exact .chain _
  case inner =>
    refine .branching (by decide +kernel) ?_
    simp only [List.forall_mem_cons]
    refine ⟨.addPrefix _, .rateLimit (by decide) nofun, .rateLimit (by decide) ?_,
      .replacePath _, .stripPrefix _, nofun⟩
    intro n hn
    obtain rfl := Option.mem_some.mp hn
    decide

theorem reads_back_nestedKinds :
    nestedKinds.WellFormed ∧ ofValue? nestedKinds.toValue = some nestedKinds :=
  ⟨nestedKinds_wellFormed, (reads_back nestedKinds_wellFormed).1⟩

end ConditionalGateway.Config
