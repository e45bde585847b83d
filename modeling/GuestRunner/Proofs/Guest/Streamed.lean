import GuestRunner.Guest.Run

/-!
# What guests write to their streams

Most guests only add to the ends of their streams, chunk by chunk: behind whatever a stream has, or
at the position that the chunks so far have led to. What such a guest writes to a stream is the
chunks in a row. Some bytes of a stream may be lost on the way; what is left then accounts for the
rest.
-/

set_option autoImplicit false

namespace GuestRunner

namespace Act

def chunk (stream : Stream) : Act → Bytes
  | .write s content | .writeAt s _ content => if s = stream then content else []
  | _ => []

def IsWrite : Act → Prop
  | .write .. => True
  | _ => False

instance : DecidablePred IsWrite
  | .write .. => .isTrue trivial
  | .writeAt .. | .process .. | .closeProcessor | .wait | .removeStreams | .blockStream .. =>
    .isFalse id

end Act

namespace Run

def streamed (stream : Stream) (acts : List Act) : Bytes := acts.flatMap (Act.chunk stream)

theorem streamed_append (stream : Stream) (first second : List Act) :
    streamed stream (first ++ second) = streamed stream first ++ streamed stream second :=
  List.flatMap_append

theorem streamed_snoc (stream : Stream) (done : List Act) (act : Act) :
    streamed stream (done ++ [act]) = streamed stream done ++ act.chunk stream := by
  rw [streamed_append]
  simp [streamed]

def AddsTo (done : List Act) : Act → Prop
  | .write .. => True
  | .writeAt stream position _ => position = (streamed stream done).length
  | _ => False

def Appends : List Act → List Act → Prop
  | _, [] => True
  | done, act :: rest => AddsTo done act ∧ Appends (done ++ [act]) rest

def WritesOnly (acts : List Act) : Prop := ∀ act ∈ acts, act.IsWrite

instance (acts : List Act) : Decidable (WritesOnly acts) :=
  List.decidableBAll Act.IsWrite acts

/-- Some bytes are all that acts wrote to a stream but for what was lost before. Where something was
lost, positions are no longer where the guest takes them to be, and nothing is said. -/
def Accounts (acts : List Act) (lost : Bytes) (stream : Stream) (done : List Act)
    (content : Bytes) : Prop :=
  lost = [] ∨ WritesOnly acts → lost ++ content = streamed stream done

theorem Accounts.exact {acts done : List Act} {stream : Stream} {content : Bytes}
    (h : Accounts acts [] stream done content) : content = streamed stream done :=
  h (Or.inl rfl)

theorem accounts_nil (acts : List Act) (stream : Stream) : Accounts acts [] stream [] [] :=
  fun _ => rfl

theorem Accounts.snoc {acts done : List Act} {lost content : Bytes} {stream : Stream}
    (h : Accounts acts lost stream done content) (act : Act) :
    Accounts acts lost stream (done ++ [act]) (content ++ act.chunk stream) := by
  intro hl
  rw [streamed_snoc, ← h hl, List.append_assoc]

theorem Accounts.lose {acts done : List Act} {lost content : Bytes} {stream : Stream}
    (h : Accounts acts lost stream done content) :
    Accounts acts (lost ++ content) stream done [] := by
  intro hl
  rw [List.append_nil]
  apply h
  rcases hl with hl | hl
  · exact Or.inl (List.append_eq_nil_iff.mp hl).1
  · exact Or.inr hl

end Run

end GuestRunner
