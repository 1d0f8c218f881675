import MetalLowering.Text.Basic

/-!
# Log entries and traced computations

Every step of a lowering can note what it does. A traced computation is its result together with
the entries noted on the way; the entries noted before a failure stay. `Traced.result` commutes
with sequencing (`Traced.result_bind`), so a statement about results need not mention the log.
-/

namespace MetalLowering

/-- How important a log entry is. -/
inductive Level
  | debug
  | info
  | warning
  | error
  deriving Repr, DecidableEq

/-- Levels in ascending order of importance. -/
def Level.rank : Level → Nat
  | .debug => 0
  | .info => 1
  | .warning => 2
  | .error => 3

/-- One message of the log. -/
structure Entry where
  /-- How important the message is. -/
  level : Level
  /-- What it says. -/
  message : Text
  deriving Repr, DecidableEq

/-- The entries of at least the given level. -/
def entriesFrom (level : Level) (log : List Entry) : List Entry :=
  log.filter fun e => level.rank ≤ e.level.rank

/-- A computation that can fail, with the entries noted on the way. -/
structure Traced (ε α : Type) where
  /-- The entries, oldest first. -/
  log : List Entry
  /-- The outcome. -/
  result : Except ε α

namespace Traced

variable {ε ε' α β : Type}

/-- A result without entries. -/
def ofExcept (r : Except ε α) : Traced ε α := ⟨[], r⟩

/-- Runs the second step on the result of the first, unless that failed. -/
def andThen (x : Traced ε α) (f : α → Traced ε β) : Traced ε β :=
  match x.result with
  | .error e => ⟨x.log, .error e⟩
  | .ok a => ⟨x.log ++ (f a).log, (f a).result⟩

instance : Monad (Traced ε) where
  pure a := ⟨[], .ok a⟩
  bind := andThen

/-- A single entry. -/
def note (level : Level) (message : Text) : Traced ε Unit := ⟨[⟨level, message⟩], .ok ()⟩

/-- Several entries. -/
def notes (entries : List Entry) : Traced ε Unit := ⟨entries, .ok ()⟩

/-- A failure. -/
def fail (e : ε) : Traced ε α := ⟨[], .error e⟩

/-- The same computation with its failure seen as another one. -/
def mapError (f : ε → ε') (x : Traced ε α) : Traced ε' α := ⟨x.log, x.result.mapError f⟩

@[simp] theorem result_pure (a : α) : (pure a : Traced ε α).result = .ok a := rfl

@[simp] theorem result_ofExcept (r : Except ε α) : (ofExcept r).result = r := rfl

@[simp] theorem result_bind (x : Traced ε α) (f : α → Traced ε β) :
    (x >>= f).result = x.result.bind fun a => (f a).result := by
  change (andThen x f).result = _
  unfold andThen
  cases x.result <;> rfl

end Traced

end MetalLowering
