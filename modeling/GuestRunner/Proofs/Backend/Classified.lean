import GuestRunner.Backend.Scripted
import GuestRunner.Proofs.Backend.Exchange
import GuestRunner.Proofs.Journal.Brevity

/-!
# Backends that classify their traps

The reason that a backend gives for a trap is read off what is said about the trap, whatever that
is, and its exit codes are numbers. So does every backend that drives an engine, and scripted guests
do where the exit codes of the script are numbers.
-/

set_option autoImplicit false

namespace GuestRunner

def Problem.Measured : Problem → Prop
  | .failure f => f.Measured
  | _ => True

theorem Failure.scratch_measured (cause : ScratchCause) : (Failure.scratch cause).Measured :=
  ⟨trivial, trivial, trivial, Or.inl rfl⟩

theorem Failure.closed_measured (text : String) : (Failure.closed text).Measured :=
  ⟨trivial, trivial, trivial, Or.inl rfl⟩

theorem Failure.instantiation_measured {id : Value} (h : id.Measured)
    (cause : InstantiationCause) : (Failure.instantiation cause id).Measured :=
  ⟨h, trivial, trivial, Or.inl rfl⟩

structure Outcome.Classified (o : Outcome) : Prop where
  exitCode : o.exitCode.Measured
  reason : o.trapped = true →
    o.trapReason = (TrapReason.classify o.trapMessage).map TrapReason.label

structure Run.Classified (run : Run) : Prop where
  outcome : ∀ o, run.ending = .ok o → o.Classified
  problem : ∀ problem, run.ending = .error problem → problem.Measured

def Backend.Classifies (b : Backend) : Prop :=
  ∀ closed module c v, c.id.Measured → (b.run closed module c v).Classified

theorem Outcome.Classified.reasoned {o : Outcome} (h : o.Classified) (ht : o.trapped = true) :
    Value.ofOption .text o.trapReason = .null ∨
      ∃ reason : TrapReason, Value.ofOption .text o.trapReason = .text reason.label := by
  rw [h.reason ht]
  cases TrapReason.classify o.trapMessage with
  | none => exact Or.inl rfl
  | some reason => exact Or.inr ⟨reason, rfl⟩

theorem Run.failing_classified {problem : Problem} (h : problem.Measured) :
    (Run.failing problem).Classified := by
  constructor
  · nofun
  · rintro _ ⟨⟩
    exact h

namespace Adaptor

variable {settings : Settings} {c : Context} {closed : Bool} {result : Except Failure Outcome}
  {deeds : List EngineDeed}

/-- Whatever the engine answers, its traps are classified. -/
theorem Orderly.classified (h : Orderly settings c closed result deeds) (hid : c.id.Measured)
    (acts : List Act) : Run.Classified ⟨acts, result.mapError Problem.failure⟩ := by
  cases result with
  | error f =>
    constructor
    · nofun
    · rintro _ ⟨⟩
      rcases (h.unentered f rfl).1 with ⟨cause, rfl⟩ | ⟨out, err, text, -, rfl⟩
      · exact Failure.instantiation_measured hid cause
      · exact Failure.scratch_measured _
  | ok o =>
    obtain ⟨hcoherent, ending, -, hexplained, -⟩ := h.entered o rfl
    constructor
    · rintro _ ⟨⟩
      refine ⟨?_, fun _ => hcoherent.classified⟩
      cases ending with
      | returned => rw [show o.exitCode = .int 0 from hexplained]; trivial
      | exited code => rw [show o.exitCode = .int code from hexplained]; trivial
      | stopped message =>
        have htrapped : o.trapped = true := by
          rw [hcoherent.message, show o.trapMessage = some message from hexplained]
          rfl
        rw [hcoherent.code.mp htrapped]
        trivial
    · nofun

end Adaptor

theorem Engine.backend_classifies (settings : Settings) : (Engine.backend settings).Classifies := by
  intro closed module c v hid
  simp only [Engine.backend]
  split
  · exact Run.failing_classified trivial
  · exact (Adaptor.run_orderly Engine.answers settings _ module c _).1.classified hid _

namespace Scripted

variable {c : Context} {ending : Except Refusal Outcome}

theorem follow_classified (h : ∀ o, ending = .ok o → o.Classified) (lines : List Line) :
    (follow c ending lines).Classified := by
  induction lines with
  | nil =>
    cases ending with
    | error refusal => exact Run.failing_classified trivial
    | ok o =>
      constructor
      · rintro _ ⟨⟩
        exact h o rfl
      · nofun
  | cons line rest ih =>
    unfold follow
    split
    · exact Run.failing_classified trivial
    · exact ⟨ih.outcome, ih.problem⟩

theorem Part.run_classified {p : Part} (h : p.exitCode.Measured) (hid : c.id.Measured) :
    (p.run c).Classified := by
  unfold Part.run
  split
  · exact Run.failing_classified (Failure.instantiation_measured hid _)
  · exact Run.failing_classified (Failure.scratch_measured _)
  · exact Run.failing_classified trivial
  · apply follow_classified
    intro o ho
    unfold Part.ending at ho
    split at ho
    · cases ho
      exact ⟨h, nofun⟩
    · rename_i said hs
      cases hm : Outcome.messageText said with
      | error refusal =>
        rw [hm] at ho
        cases ho
      | ok message =>
        rw [hm] at ho
        cases ho
        exact ⟨trivial, fun _ => rfl⟩

theorem backend_classifies {s : Script} (h : ∀ p ∈ s.parts, p.exitCode.Measured) :
    (backend s).Classifies := by
  intro closed module c v hid
  apply Part.run_classified _ hid
  unfold Script.part
  split
  · trivial
  · rw [List.getD_eq_getElem?_getD]
    cases hp : s.parts[((c.id.integer?.getD 1 - 1).emod s.parts.length).toNat]? with
    | none => trivial
    | some p => exact h p (List.mem_of_getElem? hp)

end Scripted

end GuestRunner
