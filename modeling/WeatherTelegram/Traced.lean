/-!
# `Traced` — results that may fail, with the effects on the way to them

Work is described as a value: what it came to, and the effects it had before, in order. A failure ends the
work and keeps the effects so far.

## Contents
- `Traced`: effects and outcome, with its monad.
- `Traced.outcome_bind`, `Traced.trace_bind_ok`, `Traced.trace_bind_error`: what going on means for both.
- `Traced.mapEffects`, `Traced.filterEffects`, `Traced.mapError`: the same work with effects renamed or
  left out, or with failures renamed.
-/

namespace WeatherTelegram

/-- A result that may fail, with the effects on the way to it. -/
structure Traced (ω ε α : Type) where
  trace : List ω
  outcome : Except ε α

namespace Traced

variable {ω ω' ε ε' α β : Type}

/-- A result without effects. -/
def ok (a : α) : Traced ω ε α := ⟨[], .ok a⟩

/-- A failure without effects. -/
def fail (e : ε) : Traced ω ε α := ⟨[], .error e⟩

/-- A result or failure without effects. -/
def ofExcept (r : Except ε α) : Traced ω ε α := ⟨[], r⟩

/-- One effect. -/
def emit (w : ω) : Traced ω ε Unit := ⟨[w], .ok ()⟩

/-- Goes on from a result; a failure ends the work. -/
protected def bind (x : Traced ω ε α) (f : α → Traced ω ε β) : Traced ω ε β :=
  match x.outcome with
  | .ok a => ⟨x.trace ++ (f a).trace, (f a).outcome⟩
  | .error e => ⟨x.trace, .error e⟩

instance : Monad (Traced ω ε) where
  pure := ok
  bind := Traced.bind

/-! ## Laws -/

@[simp] theorem outcome_pure (a : α) : (pure a : Traced ω ε α).outcome = .ok a := rfl

@[simp] theorem trace_pure (a : α) : (pure a : Traced ω ε α).trace = [] := rfl

@[simp] theorem outcome_bind (x : Traced ω ε α) (f : α → Traced ω ε β) :
    (x >>= f).outcome = x.outcome.bind fun a => (f a).outcome := by
  show (Traced.bind x f).outcome = _
  unfold Traced.bind
  cases x.outcome <;> rfl

theorem trace_bind_ok {x : Traced ω ε α} {a : α} (h : x.outcome = .ok a) (f : α → Traced ω ε β) :
    (x >>= f).trace = x.trace ++ (f a).trace := by
  show (Traced.bind x f).trace = _
  simp [Traced.bind, h]

theorem trace_bind_error {x : Traced ω ε α} {e : ε} (h : x.outcome = .error e)
    (f : α → Traced ω ε β) : (x >>= f).trace = x.trace := by
  show (Traced.bind x f).trace = _
  simp [Traced.bind, h]

/-! ## Renaming -/

/-- The same work with its effects renamed. -/
def mapEffects (f : ω → ω') (x : Traced ω ε α) : Traced ω' ε α := ⟨x.trace.map f, x.outcome⟩

/-- The same work without the effects outside a class. -/
def filterEffects (keep : ω → Bool) (x : Traced ω ε α) : Traced ω ε α :=
  ⟨x.trace.filter keep, x.outcome⟩

/-- The same work with its failures renamed. -/
def mapError (f : ε → ε') (x : Traced ω ε α) : Traced ω ε' α := ⟨x.trace, x.outcome.mapError f⟩

end Traced

end WeatherTelegram
