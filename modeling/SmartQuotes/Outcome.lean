import SmartQuotes.Note
import SmartQuotes.ParseError

/-!
# Outcomes

Handling a document notes things along the way and ends with a value or with a failure. What was
noted before a failure is kept.
-/

namespace SmartQuotes

structure Outcome (α : Type) where
  notes : List Note
  result : Except Failure α

namespace Outcome

/-- Nothing is noted. -/
def value {α : Type} (a : α) : Outcome α := ⟨[], .ok a⟩

/-- Go on with the value, if there is one. -/
def bind {α β : Type} (x : Outcome α) (f : α → Outcome β) : Outcome β :=
  match x.result with
  | .error e => ⟨x.notes, .error e⟩
  | .ok a => ⟨x.notes ++ (f a).notes, (f a).result⟩

instance : Monad Outcome where
  pure := value
  bind := bind

/-- Note something. -/
def note (notes : List Note) : Outcome Unit := ⟨notes, .ok ()⟩

/-- A value or a failure, with nothing noted. -/
def ofExcept {α : Type} (x : Except Failure α) : Outcome α := ⟨[], x⟩

@[simp] theorem pure_eq {α : Type} (a : α) : (pure a : Outcome α) = ⟨[], .ok a⟩ := rfl

@[simp] theorem bind_ok {α β : Type} (notes : List Note) (a : α) (f : α → Outcome β) :
    (⟨notes, .ok a⟩ : Outcome α) >>= f = ⟨notes ++ (f a).notes, (f a).result⟩ := rfl

@[simp] theorem bind_error {α β : Type} (notes : List Note) (e : Failure) (f : α → Outcome β) :
    (⟨notes, .error e⟩ : Outcome α) >>= f = ⟨notes, .error e⟩ := rfl

/-! ## Lists -/

/-- What one outcome yields and then what another one yields. -/
def append {α : Type} (x y : Outcome (List α)) : Outcome (List α) := do return (← x) ++ (← y)

instance {α : Type} : Append (Outcome (List α)) := ⟨append⟩

/-- What several outcomes yield, one after the other. -/
def concat {α : Type} : List (Outcome (List α)) → Outcome (List α)
  | [] => value []
  | x :: rest => x ++ concat rest

end Outcome

end SmartQuotes
