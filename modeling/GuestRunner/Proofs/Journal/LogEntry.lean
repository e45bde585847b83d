import GuestRunner.Processor.Deadline

/-!
# Log entries

What a processor logs after its construction: that an invocation has started and how it has ended,
that a deadline has passed for whoever awaits an invocation, and that a closing has come to its end.
Each entry is reported as one event.
-/

set_option autoImplicit false

namespace GuestRunner

inductive LogEntry (κ : Type)
  | started (id : Nat) (content : Bytes)
  | ended (id : Nat) (elapsed : Binary64) (answer : Except Failure Result)
  | expired (k : κ) (deadline : Value)
  | closed (removed : Option String) (accepted : Nat)

def Event.field (e : Event) (name : String) : Value := (e.fields.lookup name).getD .null

def Failure.Concerns (f : Failure) (id : Nat) : Prop := f.id = .null ∨ f.id = Value.ofNat id

namespace LogEntry

variable {κ : Type}

def id? : LogEntry κ → Option Nat
  | .started id _ | .ended id _ _ => some id
  | _ => none

def isClosed : LogEntry κ → Bool
  | .closed .. => true
  | _ => false

def event (settings : Settings) : LogEntry κ → Event
  | .started id content =>
    .invocationStart (Value.ofNat id) (Value.ofNat content.length) (.text settings.capture.label) []
  | .ended _ _ (.ok r) => .invocationComplete r
  | .ended id elapsed (.error f) => Call.failedEvent elapsed id f
  | .expired _ deadline =>
    .invocationFailed (.timedOut deadline .null) (Deadline.inMilliseconds deadline) .null
  | .closed removed accepted => Closing.closedEvent removed accepted

def about (id : Nat) (log : List (LogEntry κ)) : List (LogEntry κ) :=
  log.filter fun x => x.id? = some id

def closings (log : List (LogEntry κ)) : Nat := log.countP isClosed

def deadlines [DecidableEq κ] (k : κ) (log : List (LogEntry κ)) : List Value :=
  log.filterMap fun
    | .expired j deadline => if j = k then some deadline else none
    | _ => none

@[simp] theorem about_nil (id : Nat) : about id ([] : List (LogEntry κ)) = [] := rfl

@[simp] theorem about_append (id : Nat) (log more : List (LogEntry κ)) :
    about id (log ++ more) = about id log ++ about id more :=
  List.filter_append ..

@[simp] theorem closings_nil : closings ([] : List (LogEntry κ)) = 0 := rfl

@[simp] theorem closings_append (log more : List (LogEntry κ)) :
    closings (log ++ more) = closings log + closings more :=
  List.countP_append

@[simp] theorem deadlines_nil [DecidableEq κ] (k : κ) : deadlines k [] = [] := rfl

@[simp] theorem deadlines_append [DecidableEq κ] (k : κ) (log more : List (LogEntry κ)) :
    deadlines k (log ++ more) = deadlines k log ++ deadlines k more :=
  List.filterMap_append

theorem about_own {x : LogEntry κ} {id : Nat} (h : x.id? = some id) : about id [x] = [x] := by
  simp [about, h]

theorem about_other {x : LogEntry κ} {id : Nat} (h : x.id? ≠ some id) : about id [x] = [] := by
  simp [about, h]

def Own (id : Nat) : Except Failure Result → Prop
  | .ok r => r.id = (id : Int)
  | .error f => f.Concerns id

def Complete (id : Nat) (trace : List (LogEntry κ)) : Prop :=
  ∃ content elapsed answer,
    trace = [.started id content, .ended id elapsed answer] ∧ Own id answer

theorem Complete.silent {id : Nat} {trace more : List (LogEntry κ)} (h : Complete id trace)
    (h' : Complete id (trace ++ more)) : more = [] := by
  obtain ⟨content, elapsed, answer, hs, -⟩ := h
  obtain ⟨content', elapsed', answer', hs', -⟩ := h'
  have hlength := congrArg List.length hs'
  rw [List.length_append, hs] at hlength
  exact List.eq_nil_of_length_eq_zero (by simpa using hlength)

end LogEntry

theorem Failure.Concerns.failedId {f : Failure} {id : Nat} (h : f.Concerns id) :
    Event.failedId f (Value.ofNat id) = Value.ofNat id := by
  unfold Event.failedId
  rcases h with h | h
  · rw [h]
    rfl
  · rw [h]
    split <;> rfl

namespace Event

end Event

end GuestRunner
