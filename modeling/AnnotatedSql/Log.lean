import AnnotatedSql.Token

/-!
# Log records

Reading leaves a record of every line that becomes a token, and of every token that a reader could not take apart.
A `Logged` value carries the records that its computation left, in order.
-/

namespace AnnotatedSql

/-- Something that is worth a record. -/
inductive Event where
  | lexed (token : Token)
  /-- A comment does not open with a directive. -/
  | noDirective (token : Token)
  /-- A segment has no name. -/
  | noName (token : Token)
  /-- A segment does not open with a directive. -/
  | noResult (token : Token)
deriving DecidableEq, Repr

/-- How closely one has to look to see a record. -/
inductive Level where
  | trace
  | debug
deriving DecidableEq, Repr

namespace Event

def level : Event → Level
  | lexed _ => .trace
  | noDirective _ | noName _ | noResult _ => .debug

def message : Event → String
  | lexed token => "lexed " ++ token.toText
  | noDirective token => "no directive in " ++ token.toText
  | noName token => "no name in " ++ token.toText
  | noResult token => "no result directive in " ++ token.toText

end Event

/-- A value with the events that led to it. -/
structure Logged (α : Type) where
  value : α
  events : List Event := []
deriving DecidableEq, Repr

namespace Logged

/-- The next computation leaves its events behind those of the first. -/
protected def bind {α β : Type} (x : Logged α) (f : α → Logged β) : Logged β :=
  ⟨(f x.value).value, x.events ++ (f x.value).events⟩

protected def map {α β : Type} (f : α → β) (x : Logged α) : Logged β := ⟨f x.value, x.events⟩

instance : Monad Logged where
  pure value := { value }
  map := Logged.map
  bind := Logged.bind

def record (e : Event) : Logged Unit := ⟨(), [e]⟩

@[simp] theorem value_pure {α : Type} (a : α) : (pure a : Logged α).value = a := rfl

@[simp] theorem events_pure {α : Type} (a : α) : (pure a : Logged α).events = [] := rfl

@[simp] theorem value_map {α β : Type} (f : α → β) (x : Logged α) : (f <$> x).value = f x.value := rfl

@[simp] theorem events_map {α β : Type} (f : α → β) (x : Logged α) : (f <$> x).events = x.events := rfl

@[simp] theorem value_bind {α β : Type} (x : Logged α) (f : α → Logged β) :
    (x >>= f).value = (f x.value).value := rfl

@[simp] theorem events_bind {α β : Type} (x : Logged α) (f : α → Logged β) :
    (x >>= f).events = x.events ++ (f x.value).events := rfl

end Logged

/-- What was looked for in a token.  Nothing found in a payload that is there is recorded; a token without a payload
leaves no record. -/
def Token.reportMiss {α : Type} (token : Token) (miss : Token → Event) (found? : Option α) :
    Logged (Option α) where
  value := found?
  events := if found?.isNone && token.payload?.isSome then [miss token] else []

end AnnotatedSql
