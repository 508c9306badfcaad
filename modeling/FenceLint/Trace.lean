import FenceLint.Failure
import FenceLint.Rules.Setting

/-!
# Traced computations

A run is a computation that may fail and leaves a trace of what it did on the way, in order.  What
happened before a failure stays in the trace.
-/

namespace FenceLint

/-- Something that a run did. -/
inductive Event where
  /-- The files to lint were found. -/
  | discovered (files : Nat)
  /-- The blocks of a file were extracted. -/
  | scanned (file : String) (blocks : Nat)
  /-- An engine was asked to lint a text under a configuration. -/
  | lint (content : String) (config : Config)
  /-- A setting was made. -/
  | setting (setting : Setting)
  /-- A text was given to the scanner of rules. -/
  | scan (content : String)
  /-- A message was logged. -/
  | log (level : Level) (message : String)
deriving Repr, Inhabited

/-- A computation with its trace. -/
structure Traced (α : Type) where
  /-- What happened, in order. -/
  trace : List Event
  /-- How it ended. -/
  result : Except Failure α

namespace Traced

/-- Ends at once with a value. -/
protected def pure {α : Type} (a : α) : Traced α := ⟨[], .ok a⟩

/-- Goes on with the value of a computation; the traces follow each other. -/
protected def bind {α β : Type} (x : Traced α) (f : α → Traced β) : Traced β :=
  match x.result with
  | .ok a => ⟨x.trace ++ (f a).trace, (f a).result⟩
  | .error e => ⟨x.trace, .error e⟩

instance : Monad Traced where
  pure := Traced.pure
  bind := Traced.bind

/-- Leaves an event in the trace. -/
def emit (e : Event) : Traced Unit := ⟨[e], .ok ()⟩

/-- Logs a message. -/
def log (level : Level) (message : String) : Traced Unit := emit (.log level message)

/-- Stops. -/
def fail {α : Type} (e : Failure) : Traced α := ⟨[], .error e⟩

/-- A computation without events. -/
def ofExcept {α : Type} (r : Except Failure α) : Traced α := ⟨[], r⟩

/-- A computation runs before its continuation, and its failure is final. -/
theorem bind_eq {α β : Type} (x : Traced α) (f : α → Traced β) :
    x >>= f = match x.result with
      | .ok a => ⟨x.trace ++ (f a).trace, (f a).result⟩
      | .error e => ⟨x.trace, .error e⟩ := rfl

/-- Doing nothing afterwards changes nothing. -/
theorem map_id {α : Type} (x : Traced α) : id <$> x = x := by
  obtain ⟨t, r⟩ := x
  cases r <;> simp [Functor.map, Traced.bind, Traced.pure]

/-- Traces follow each other in the same way however the steps are grouped. -/
theorem bind_assoc {α β γ : Type} (x : Traced α) (f : α → Traced β) (g : β → Traced γ) :
    x >>= f >>= g = x >>= fun a => f a >>= g := by
  obtain ⟨t, r⟩ := x
  cases r with
  | error e => simp [bind, Traced.bind]
  | ok a => cases h : (f a).result <;> simp [bind, Traced.bind, h, List.append_assoc]

instance : LawfulMonad Traced :=
  LawfulMonad.mk' Traced map_id (fun a f => by simp [bind, pure, Traced.bind, Traced.pure])
    bind_assoc

end Traced

end FenceLint
