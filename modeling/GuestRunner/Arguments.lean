import GuestRunner.Failure

/-!
# Named arguments

An operation that callers reach by name declares which arguments it needs, which it can do without,
which have to be named and whether it takes others besides. Arguments without a name fill the places
in order. Then each named one must find its own place free, then none may be left over, and in the
end every place that is needed must be filled.
-/

set_option autoImplicit false

namespace GuestRunner

structure Signature where
  operation : String
  /-- What the operation itself is called on, which fills the first place. -/
  receiver : List String
  required : List String
  optional : List String
  namedOnly : List String
  takesOthers : Bool
  deriving Repr

namespace Signature

def places (s : Signature) : List String := s.receiver ++ s.required ++ s.optional

def declares (s : Signature) (name : String) : Bool :=
  s.places.contains name || s.namedOnly.contains name

def misplaced {α : Type} (s : Signature) (filled : List String) :
    List (String × α) → Option Refusal
  | [] => none
  | (name, _) :: rest =>
    if filled.contains name then some (.repeatedArgument s.operation name)
    else if s.declares name || s.takesOthers then misplaced s filled rest
    else some (.unexpectedArgument s.operation name)

def filledBy (s : Signature) (count : Nat) : List String :=
  s.places.take (s.receiver.length + count)

/-- Accepts arguments, or says why not; the second part are those that are not declared. -/
def accept {α : Type} (s : Signature) (unnamed : List α) (named : List (String × α)) :
    Except Refusal (List (String × α) × List (String × α)) :=
  let filled := s.filledBy unnamed.length
  match s.misplaced filled named with
  | some refusal => .error refusal
  | none =>
    if (s.required ++ s.optional).length < unnamed.length then
      .error (.tooManyArguments s.operation (s.receiver ++ s.required).length s.places.length
        (s.receiver.length + unnamed.length)
        (named.filter fun argument => s.namedOnly.contains argument.1).length)
    else
      match s.required.filter fun name =>
          !(filled.contains name || named.any (·.1 == name)) with
      | [] =>
        let (declared, others) := named.partition fun argument => s.declares argument.1
        .ok ((s.required ++ s.optional).zip unnamed ++ declared, others)
      | missing => .error (.missingArguments s.operation missing)

end Signature

def namedArguments {α : Type} : List (Value × α) → Except Refusal (List (String × α))
  | [] => .ok []
  | (.text name, a) :: rest => (namedArguments rest).map ((name, a) :: ·)
  | _ => .error .namelessArgument

end GuestRunner
