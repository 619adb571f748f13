import Reshape.Error

/-!
# Traces

Compiling and mapping note what they do.  A `Traced` computation carries its notes beside its
result, and keeps those made before a failure.

* **`Event`** — what can be noted, with its wording.
* **`Traced`** — a result or an error, together with the events in their order.

The main statements are the equations of `events` and `result` for a computation that follows
another one.
-/

namespace Reshape

/-- How much a note matters. -/
inductive Level where
  | debug
  | trace
deriving DecidableEq, Repr

/-- The name of a level. -/
def Level.name : Level → String
  | .debug => "DEBUG"
  | .trace => "TRACE"

/-- What compiling and mapping note. -/
inductive Event where
  /-- A list of rules has been compiled. -/
  | compiled (count : Nat)
  /-- A declarative specification has been compiled as a whole. -/
  | loaded (count : Nat)
  /-- A copy rule found nothing at its path. -/
  | skippedCopy (path : String)
  /-- An alias rule found nothing at its path. -/
  | skippedAlias (path dest : String)
  /-- A transform rule found nothing at its path. -/
  | skippedTransform (path dest : String)
deriving DecidableEq, Repr

namespace Event

/-- The level of an event. -/
def level : Event → Level
  | compiled _ => .debug
  | loaded _ => .debug
  | _ => .trace

/-- The wording of an event. -/
def text : Event → String
  | compiled count => "Compiled " ++ Json.natText count ++ " mapping rules"
  | loaded count =>
    "Loaded declarative specification with " ++ Json.natText count ++ " rules"
  | skippedCopy path => "Skipping copy of '" ++ path ++ "': absent in source"
  | skippedAlias path dest =>
    "Skipping alias '" ++ path ++ "' -> '" ++ dest ++ "': absent in source"
  | skippedTransform path dest =>
    "Skipping transform '" ++ path ++ "' -> '" ++ dest ++ "': absent in source"

/-- An event as a line of a log. -/
def line (e : Event) : String := e.level.name ++ " " ++ e.text

end Event

/-- A result or an error, and the events noted on the way. -/
structure Traced (α : Type) where
  /-- The events, in their order. -/
  events : List Event
  /-- The result, or the error that ended the computation. -/
  result : Except Error α

namespace Traced

variable {α β : Type}

/-- A result with nothing to note. -/
def ok (a : α) : Traced α := ⟨[], .ok a⟩

/-- An error. -/
def fail (e : Error) : Traced α := ⟨[], .error e⟩

/-- Notes an event. -/
def note (e : Event) : Traced Unit := ⟨[e], .ok ()⟩

/-- A result or an error that was found without noting anything. -/
def lift (r : Except Error α) : Traced α := ⟨[], r⟩

/-- Goes on with a result; an error ends the computation. -/
def andThen (t : Traced α) (f : α → Traced β) : Traced β :=
  match t.result with
  | .ok a => ⟨t.events ++ (f a).events, (f a).result⟩
  | .error e => ⟨t.events, .error e⟩

instance : Monad Traced where
  pure := ok
  bind := andThen

@[simp] theorem pure_eq (a : α) : (pure a : Traced α) = ok a := rfl

@[simp] theorem bind_eq (t : Traced α) (f : α → Traced β) : (t >>= f) = t.andThen f := rfl

@[simp] theorem ok_events (a : α) : (ok a).events = [] := rfl

@[simp] theorem ok_result (a : α) : (ok a).result = .ok a := rfl

@[simp] theorem fail_events (e : Error) : (fail e : Traced α).events = [] := rfl

@[simp] theorem fail_result (e : Error) : (fail e : Traced α).result = .error e := rfl

@[simp] theorem lift_events (r : Except Error α) : (lift r).events = [] := rfl

@[simp] theorem lift_result (r : Except Error α) : (lift r).result = r := rfl

@[simp] theorem ok_andThen (a : α) (f : α → Traced β) : (ok a).andThen f = f a := by
  simp [andThen]

@[simp] theorem fail_andThen (e : Error) (f : α → Traced β) :
    (fail e : Traced α).andThen f = fail e := rfl

theorem andThen_ok (t : Traced α) : t.andThen ok = t := by
  rcases t with ⟨es, r⟩
  cases r <;> simp [andThen]

theorem andThen_assoc {γ : Type} (t : Traced α) (f : α → Traced β) (g : β → Traced γ) :
    (t.andThen f).andThen g = t.andThen fun a => (f a).andThen g := by
  rcases t with ⟨es, r⟩
  cases r with
  | error e => rfl
  | ok a =>
    simp only [andThen]
    cases (f a).result <;> simp

/-- The result of a computation that follows another one. -/
theorem result_andThen (t : Traced α) (f : α → Traced β) :
    (t.andThen f).result = t.result.bind fun a => (f a).result := by
  rcases t with ⟨es, r⟩
  cases r <;> rfl

/-- The events of a computation that follows another one. -/
theorem events_andThen (t : Traced α) (f : α → Traced β) :
    (t.andThen f).events =
      t.events ++ (match t.result with | .ok a => (f a).events | .error _ => []) := by
  rcases t with ⟨es, r⟩
  cases r <;> simp [andThen]

/-- Runs a computation on every item of a list, in order, up to the first error. -/
def forItems (f : α → Traced β) : List α → Traced (List β)
  | [] => ok []
  | a :: rest => (f a).andThen fun b => (forItems f rest).andThen fun bs => ok (b :: bs)

@[simp] theorem forItems_nil (f : α → Traced β) : forItems f [] = ok [] := rfl

end Traced

end Reshape
