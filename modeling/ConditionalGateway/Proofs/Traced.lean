/-!
# Computations that leave a trace

A computation on a state that notes on the way what it does. It may stop early: with an error, at a
step that it must never take, or because it was given too few turns.

`Traced.Run.Answers` says that a run comes to what is expected of it, and that all that it notes is
as it should be. Runs that are put together answer what is put together (`Answers.bind`).
-/

namespace ConditionalGateway

inductive Stop (ε : Type) where
  /-- It found an error. -/
  | failed (e : ε)
  /-- A counter was to go below zero. -/
  | underflow
  /-- It was given too few turns. -/
  | unfinished
  deriving DecidableEq

structure Traced.Run (σ τ ε α : Type) where
  result : Except (Stop ε) (α × σ)
  trace : List τ

/-- A computation on a state of type `σ` that notes things of type `τ`. -/
def Traced (σ τ ε α : Type) : Type := σ → Traced.Run σ τ ε α

namespace Traced

variable {σ τ ε α β γ δ : Type}

def Run.andThen (run : Run σ τ ε α) (f : α → Traced σ τ ε γ) : Run σ τ ε γ :=
  match run.result with
  | .error stop => ⟨.error stop, run.trace⟩
  | .ok (a, s) => ⟨(f a s).result, run.trace ++ (f a s).trace⟩

instance : Monad (Traced σ τ ε) where
  pure a := fun s => ⟨.ok (a, s), []⟩
  bind x f := fun s => (x s).andThen f

def stop (why : Stop ε) : Traced σ τ ε α := fun _ => ⟨.error why, []⟩

def state : Traced σ τ ε σ := fun s => ⟨.ok (s, s), []⟩

def become (note : τ) (s : σ) : Traced σ τ ε Unit := fun _ => ⟨.ok ((), s), [note]⟩

@[simp] theorem Run.andThen_ok (a : α) (s : σ) (t : List τ) (f : α → Traced σ τ ε γ) :
    (⟨.ok (a, s), t⟩ : Run σ τ ε α).andThen f = ⟨(f a s).result, t ++ (f a s).trace⟩ := rfl

@[simp] theorem Run.andThen_error (why : Stop ε) (t : List τ) (f : α → Traced σ τ ε γ) :
    (⟨.error why, t⟩ : Run σ τ ε α).andThen f = ⟨.error why, t⟩ := rfl

theorem bind_run (x : Traced σ τ ε α) (f : α → Traced σ τ ε γ) (s : σ) :
    (x >>= f) s = (x s).andThen f := rfl

theorem state_bind (f : σ → Traced σ τ ε γ) (s : σ) : (state >>= f) s = f s s := rfl

/-- A run comes to what is expected: to the same error, or to a value that fits the one expected,
with the state and the notes. All its notes are good. -/
structure Run.Answers (run : Run σ τ ε α) (good : τ → Prop) (expected : Except ε β)
    (fits : α → σ → List τ → β → Prop) : Prop where
  trace : ∀ note ∈ run.trace, good note
  error : ∀ e, expected = .error e → run.result = .error (.failed e)
  ok : ∀ b, expected = .ok b → ∃ a s, run.result = .ok (a, s) ∧ fits a s run.trace b

section
variable {good : τ → Prop} {fits : α → σ → List τ → β → Prop} {s : σ}

theorem Run.Answers.pure (h : fits a s [] b) :
    ((Pure.pure a : Traced σ τ ε α) s).Answers good (.ok b : Except ε β) fits where
  trace := nofun
  error := nofun
  ok := by
    rintro _ ⟨⟩
    exact ⟨a, s, rfl, h⟩

theorem Run.Answers.failed (e : ε) :
    ((stop (.failed e) : Traced σ τ ε α) s).Answers good (.error e : Except ε β) fits where
  trace := nofun
  error := by
    rintro _ ⟨⟩
    rfl
  ok := nofun

theorem Run.Answers.bind {x : Traced σ τ ε α} {f : α → Traced σ τ ε γ} {expected : Except ε β}
    {g : β → Except ε δ} {fits' : γ → σ → List τ → δ → Prop}
    (hx : (x s).Answers good expected fits)
    (hf : ∀ a s' trace b, expected = .ok b → fits a s' trace b →
      (f a s').Answers good (g b) fun c s'' more d => fits' c s'' (trace ++ more) d) :
    ((x >>= f) s).Answers good (expected >>= g) fits' := by
  rw [bind_run]
  cases expected with
  | error e =>
    have hr := hx.error e rfl
    refine ⟨?_, ?_, nofun⟩
    · simpa [andThen, hr] using hx.trace
    · rintro _ ⟨⟩
      simp [andThen, hr]
  | ok b =>
    obtain ⟨a, s', hr, hfit⟩ := hx.ok b rfl
    have hy := hf a s' _ b rfl hfit
    have hthen : (x s).andThen f = ⟨(f a s').result, (x s).trace ++ (f a s').trace⟩ := by
      simp [andThen, hr]
    rw [hthen]
    refine ⟨fun note hn => ?_, hy.error, hy.ok⟩
    obtain hn | hn := List.mem_append.mp hn
    · exact hx.trace note hn
    · exact hy.trace note hn

theorem Run.Answers.become {f : Unit → Traced σ τ ε γ} {expected : Except ε δ}
    {fits' : γ → σ → List τ → δ → Prop} (hn : good note)
    (h : (f () s').Answers good expected fun c s'' more d => fits' c s'' (note :: more) d) :
    ((Traced.become note s' >>= f) s).Answers good expected fits' where
  trace := List.forall_mem_cons.mpr ⟨hn, h.trace⟩
  error := h.error
  ok := h.ok

end

end Traced

end ConditionalGateway
