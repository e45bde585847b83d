import GuestRunner.Journal.Logger

/-!
# What loggers hear

Usable loggers differ in how much of a list of events they hear and in how they write it down, and
in nothing else. A structured one hears all of it, a leveled one what reaches its threshold, and a
selective one all of it again, through the method it falls back to where another is missing.
-/

set_option autoImplicit false

namespace GuestRunner

def Event.word (e : Event) : String := (Severity.named.lookup e.severity).getD ""

namespace Logger

def heard (logger : Logger) (events : List Event) : List Record :=
  match logger with
  | .structured => events.map fun e => .structured e.word (.text e.name) e.fields
  | .leveled threshold =>
    (events.filter fun e => threshold ≤ e.severity).map fun e =>
      .leveled e.word e.name (("event", .text e.name) :: e.fields)
  | .selective methods attributes =>
    events.map fun e =>
      .called (if e.word ∈ methods ∧ e.word ∉ attributes then e.word else fallback) (.text e.name)
        e.fields

@[simp] theorem heard_nil (logger : Logger) : logger.heard [] = [] := by
  cases logger <;> rfl

theorem heard_append (logger : Logger) (first rest : List Event) :
    logger.heard (first ++ rest) = logger.heard first ++ logger.heard rest := by
  cases logger <;> simp [heard]

theorem heard_cons (logger : Logger) (e : Event) (rest : List Event) :
    logger.heard (e :: rest) = logger.heard [e] ++ logger.heard rest :=
  logger.heard_append [e] rest

end Logger

end GuestRunner
