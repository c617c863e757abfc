/-! Work that leaves a trace. What was traced before a failure stays. -/
namespace ApiModel

structure Traced (τ ε α : Type) where
  trace : List τ
  result : Except ε α

namespace Traced

variable {τ ε α β : Type}

/-- The next step runs only behind a result, and its trace comes last. -/
def andThen (x : Traced τ ε α) (f : α → Traced τ ε β) : Traced τ ε β :=
  match x.result with
  | .ok a =>
    let y := f a
    ⟨x.trace ++ y.trace, y.result⟩
  | .error e => ⟨x.trace, .error e⟩

instance : Monad (Traced τ ε) where
  pure a := ⟨[], .ok a⟩
  bind := andThen

def emit (entry : τ) : Traced τ ε Unit := ⟨[entry], .ok ()⟩

def fail (e : ε) : Traced τ ε α := ⟨[], .error e⟩

def ofExcept (x : Except ε α) : Traced τ ε α := ⟨[], x⟩

def mapError {δ : Type} (f : ε → δ) (x : Traced τ ε α) : Traced τ δ α :=
  ⟨x.trace, x.result.mapError f⟩

@[simp] theorem trace_pure (a : α) : (pure a : Traced τ ε α).trace = [] := rfl

@[simp] theorem result_pure (a : α) : (pure a : Traced τ ε α).result = .ok a := rfl

theorem bind_of_ok {x : Traced τ ε α} {a : α} (h : x.result = .ok a) (f : α → Traced τ ε β) :
    x >>= f = ⟨x.trace ++ (f a).trace, (f a).result⟩ := by
  simp [bind, andThen, h]

theorem bind_of_error {x : Traced τ ε α} {e : ε} (h : x.result = .error e)
    (f : α → Traced τ ε β) : x >>= f = ⟨x.trace, .error e⟩ := by
  simp [bind, andThen, h]

theorem result_bind (x : Traced τ ε α) (f : α → Traced τ ε β) :
    (x >>= f).result = x.result >>= fun a => (f a).result := by
  cases h : x.result with
  | ok a =>
    rw [bind_of_ok h]
    rfl
  | error e =>
    rw [bind_of_error h]
    rfl

end Traced

end ApiModel
