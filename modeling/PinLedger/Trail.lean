/-
# Runs that leave a trail

What a run notes on its way is kept even if the run fails. A traced run is a result or a failure
together with its notes. It cannot look at its notes, so what it ends in does not depend on what
was noted before it.

Key definitions: `LogRecord`, `Traced`, `Traced.note`, `Traced.diagnose`.
Key theorems: `Traced.result_bind`, `Traced.trail_bind`.
-/
import PinLedger.Failure

namespace PinLedger

/-- How much a note matters. -/
inductive Level where
  | debug
  | warning
deriving DecidableEq, Repr, Inhabited

/-- The word for a level. -/
def Level.word : Level → String
  | .debug => "DEBUG"
  | .warning => "WARNING"

/-- A note. -/
structure LogRecord where
  level : Level
  message : String
deriving DecidableEq, Repr, Inhabited

/-- The notes of a run, first to last. -/
abbrev Trail := List LogRecord

/-- A run that may fail and leaves a trail either way. -/
@[ext]
structure Traced (α : Type) where
  /-- What the run ends in. -/
  result : Except Failure α
  /-- What it notes. -/
  trail : Trail

namespace Traced

variable {α β : Type}

/-- A run that goes on after a trail. -/
def after (trail : Trail) (r : Traced α) : Traced α := ⟨r.result, trail ++ r.trail⟩

instance : Monad Traced where
  pure a := ⟨.ok a, []⟩
  bind r f :=
    match r.result with
    | .ok a => (f a).after r.trail
    | .error e => ⟨.error e, r.trail⟩

instance : MonadExceptOf Failure Traced where
  throw e := ⟨.error e, []⟩
  tryCatch r f :=
    match r.result with
    | .ok _ => r
    | .error e => (f e).after r.trail

/-- What a run in two parts ends in. -/
theorem result_bind (r : Traced α) (f : α → Traced β) :
    (r >>= f).result = r.result >>= fun a => (f a).result := by
  rcases r with ⟨a | a, trail⟩ <;> rfl

/-- The notes of a run in two parts. -/
theorem trail_bind (r : Traced α) (f : α → Traced β) :
    (r >>= f).trail = r.trail ++ match r.result with
      | .ok a => (f a).trail
      | .error _ => [] := by
  rcases r with ⟨a | a, trail⟩
  · exact (List.append_nil trail).symm
  · rfl

@[simp] theorem result_pure (a : α) : (pure a : Traced α).result = .ok a := rfl

@[simp] theorem result_throw (e : Failure) : (throw e : Traced α).result = .error e := rfl

@[simp] theorem result_ofExcept (x : Except Failure α) : (ofExcept x : Traced α).result = x := by
  cases x <;> rfl

/-- A trail in front of the first part is a trail in front of both. -/
theorem after_bind (trail : Trail) (r : Traced α) (f : α → Traced β) :
    r.after trail >>= f = (r >>= f).after trail := by
  rcases r with ⟨a | a, notes⟩
  · rfl
  · simp [bind, after]

instance : LawfulMonad Traced := LawfulMonad.mk' Traced
  (by rintro α ⟨a | a, trail⟩ <;> simp [Functor.map, after])
  (by intro α β a f; simp [bind, pure, after])
  (by
    rintro α β γ ⟨a | a, trail⟩ f g
    · rfl
    · exact after_bind trail (f a) g)

/-- Adds notes. -/
def leave (trail : Trail) : Traced Unit := ⟨.ok (), trail⟩

/-- Adds a note. -/
def note (level : Level) (message : String) : Traced Unit := leave [⟨level, message⟩]

/-- Adds notes of the lowest level. -/
def notes (messages : List String) : Traced Unit := leave (messages.map fun m => ⟨.debug, m⟩)

@[simp] theorem result_leave (trail : Trail) : (leave trail).result = .ok () := rfl

@[simp] theorem result_note (level : Level) (message : String) :
    (note level message).result = .ok () := rfl

@[simp] theorem result_notes (messages : List String) : (notes messages).result = .ok () := rfl

/-- Ends a run with a diagnosis. -/
def diagnose (d : Diagnosis) : Traced α := throw (.diagnosed d)

@[simp] theorem result_diagnose (d : Diagnosis) :
    (diagnose d : Traced α).result = .error (.diagnosed d) := rfl

/-- Ends a run with a breakdown. -/
def breakDown (b : Breakdown) : Traced α := throw (.breakdown b)

@[simp] theorem result_breakDown (b : Breakdown) :
    (breakDown b : Traced α).result = .error (.breakdown b) := rfl

/-- A reading of a value as a traced run. -/
def ofChecked : Document.Checked α → Traced α
  | .ok a => pure a
  | .error faults => throw (.faults faults)

/-- A question to the file tree as a traced run. -/
def ofAnswer : Except OsFault α → Traced α
  | .ok a => pure a
  | .error fault => breakDown (.file fault.reason)

/-- What a question to the file tree ends in. -/
@[simp] theorem result_ofAnswer (x : Except OsFault α) :
    (ofAnswer x).result = x.mapError fun fault => .breakdown (.file fault.reason) := by
  cases x <;> rfl

end Traced

end PinLedger
