import GuestRunner.Catalogue
import GuestRunner.Guest.TrapReason
import GuestRunner.Processor.Construction

/-!
# Brief events

What an event shows of a text that somebody else decides is cut at a fixed length: the text of an
error keeps its start, and a path that is too long keeps its start before a mark. All else is
numbers and words of the runner, so that a guest cannot make an event long.
-/

set_option autoImplicit false

namespace GuestRunner

def Value.Measured : Value → Prop
  | .null | .bool _ | .int _ | .float _ => True
  | _ => False

theorem Value.ofOption_measured (n : Option Int) : (Value.ofOption .int n).Measured := by
  cases n <;> trivial

structure Failure.Measured (f : Failure) : Prop where
  id : f.id.Measured
  exitCode : f.exitCode.Measured
  deadline : f.deadline.Measured
  trapReason : f.trapReason = .null ∨ ∃ reason : TrapReason, f.trapReason = .text reason.label

theorem Failure.typeName_published (f : Failure) : f.typeName ∈ Catalogue.failures := by
  cases f <;> simp [typeName, Catalogue.failures]

namespace Event

structure ErrorShown (message shown : String) : Prop where
  start : shown.toList <+: message.toList
  short : shown.length ≤ 200
  whole : message.length ≤ 200 → shown = message
  cut : 200 < message.length → shown.length = 200

structure PathShown (path shown : String) : Prop where
  short : shown.length ≤ 140
  whole : path.length ≤ 140 → shown = path
  cut : 140 < path.length → shown = String.ofList (path.toList.take 126) ++ "...[truncated]"

def textual : List (String × String) :=
  [("invocation.failed", "error"), ("scratch.created", "path"),
    ("processor.closed", "removed_path")]

structure Brief (raised : Failure → Prop) (paths : String → Prop) (e : Event) : Prop where
  told : ∀ entry ∈ textual, e.name = entry.1 → ∃ v, (entry.2, v) ∈ e.fields
  error : ∀ v, ("error", v) ∈ e.fields →
    ∃ f shown, raised f ∧ v = .text shown ∧ ErrorShown f.message shown
  path : ∀ v, ("path", v) ∈ e.fields →
    ∃ path shown, paths path ∧ v = .text shown ∧ PathShown path shown
  removed : ∀ v, ("removed_path", v) ∈ e.fields →
    v = .null ∨ ∃ path shown, paths path ∧ v = .text shown ∧ PathShown path shown

def worded : List String :=
  ["error", "path", "removed_path", "kind", "error_type", "capture", "trap_reason"]

/-- But for the text of an error and for paths, an event has numbers and words of the runner. -/
structure OwnWords (e : Event) : Prop where
  kind : ∀ v, ("kind", v) ∈ e.fields → v = .null ∨ ∃ kind : FailureKind, v = .text kind.label
  errorType : ∀ v, ("error_type", v) ∈ e.fields → ∃ name ∈ Catalogue.failures, v = .text name
  capture : ∀ v, ("capture", v) ∈ e.fields → ∃ kind : CaptureKind, v = .text kind.label
  trapReason : ∀ v, ("trap_reason", v) ∈ e.fields → ∃ reason : TrapReason, v = .text reason.label
  others : ∀ name v, (name, v) ∈ e.fields → name ∉ worded → v.Measured

theorem clipError_shown (message : String) : ErrorShown message (clipError message) where
  start := by
    rw [clipError, String.toList_ofList]
    exact List.take_prefix _ _
  short := clipError_length message
  whole h := by
    have hall : message.toList.take errorLimit = message.toList := List.take_of_length_le h
    rw [clipError, hall, String.ofList_toList]
  cut h := by
    rw [clipError, String.length_ofList, List.length_take]
    exact Nat.min_eq_left (Nat.le_of_lt h)

theorem clipPath_shown (path : String) : PathShown path (clipPath path) where
  short := clipPath_length path
  whole h := if_pos h
  cut h := if_neg (Nat.not_le.mpr h)

variable {name : String} {v w : Value} {f : Failure} {duration given : Value}

theorem mem_present {other : String} (h : (other, w) ∈ present name v) :
    other = name ∧ w = v ∧ v ≠ .null := by
  unfold present at h
  split at h
  · cases h
  · rename_i hv
    cases List.mem_singleton.mp h
    exact ⟨rfl, rfl, hv⟩

/-- All that the report of a failed invocation can have in its fields. -/
theorem mem_invocationFailed (h : (name, v) ∈ (invocationFailed f duration given).fields) :
    (name = "invocation_id" ∧ v = failedId f given) ∨
      (name = "kind" ∧
        v = Value.ofOption (fun kind => .text (FailureKind.label kind)) f.kind?) ∨
      (name = "error_type" ∧ v = .text f.typeName) ∨
      (name = "error" ∧ v = .text (clipError f.message)) ∨
      (name = "exit_code" ∧ v = f.exitCode) ∨
      (name = "trap_reason" ∧ v = f.trapReason ∧ f.trapReason ≠ .null) ∨
      (name = "timeout" ∧ v = f.deadline) ∨
      (name = "duration_ms" ∧ v = duration) := by
  simp only [invocationFailed, List.mem_append] at h
  rcases h with (((h | h) | h) | h) | h
  · simp only [failureFields, List.mem_cons, Prod.mk.injEq, List.not_mem_nil, or_false] at h
    rcases h with h | h | h | h <;> simp [h]
  all_goals
    obtain ⟨rfl, rfl, hv⟩ := mem_present h
    simp [hv]

variable {raised : Failure → Prop} {paths : String → Prop}

theorem moduleCompiled_brief (backend size digest duration : Value) :
    Brief raised paths (moduleCompiled backend size digest duration) := by
  constructor <;> simp [moduleCompiled, textual]

theorem scratchCreated_brief {path : String} (hp : paths path) (owned : Value) :
    Brief raised paths (scratchCreated (.text (clipPath path)) owned) := by
  constructor
  case path =>
    intro v hv
    have he : v = .text (clipPath path) := by simpa [scratchCreated] using hv
    exact ⟨path, _, hp, he, clipPath_shown path⟩
  all_goals simp [scratchCreated, textual]

theorem invocationStart_brief (id size capture : Value) :
    Brief raised paths (invocationStart id size capture []) := by
  constructor <;> simp [invocationStart, textual]

theorem invocationComplete_brief (r : Result) : Brief raised paths (invocationComplete r) := by
  constructor <;> simp [invocationComplete, textual]

theorem invocationFailed_brief (hf : raised f) (duration given : Value) :
    Brief raised paths (invocationFailed f duration given) := by
  constructor
  case told => simp [invocationFailed, failureFields, textual]
  case error =>
    intro v hv
    have he : v = .text (clipError f.message) := by simpa using mem_invocationFailed hv
    exact ⟨f, _, hf, he, clipError_shown f.message⟩
  all_goals
    intro v hv
    simpa using mem_invocationFailed hv

theorem closedEvent_brief {removed : Option String} (hp : ∀ path, removed = some path → paths path)
    (accepted : Nat) : Brief raised paths (Closing.closedEvent removed accepted) := by
  constructor
  case removed =>
    intro v hv
    have he : v = Value.ofOption (fun path => .text (clipPath path)) removed := by
      simpa [Closing.closedEvent, processorClosed] using hv
    cases removed with
    | none => exact Or.inl he
    | some path => exact Or.inr ⟨path, _, hp path rfl, he, clipPath_shown path⟩
  all_goals simp [Closing.closedEvent, processorClosed, textual]

theorem startEvent_ownWords (p : Processor) (id : Nat) (content : Bytes) :
    (Call.startEvent p id content).OwnWords := by
  constructor
  case capture =>
    intro v hv
    exact ⟨p.settings.capture, by simpa [Call.startEvent, invocationStart] using hv⟩
  case others =>
    simp only [Call.startEvent, invocationStart, List.append_nil, List.mem_cons, Prod.mk.injEq,
      List.not_mem_nil, or_false]
    rintro name v (⟨rfl, rfl⟩ | ⟨rfl, rfl⟩ | ⟨rfl, rfl⟩) hn
    · trivial
    · trivial
    · exact absurd (by decide) hn
  all_goals simp [Call.startEvent, invocationStart]

theorem invocationComplete_ownWords (r : Result) : (invocationComplete r).OwnWords := by
  constructor
  case others =>
    simp only [invocationComplete, List.mem_cons, Prod.mk.injEq, List.not_mem_nil, or_false]
    rintro name v (⟨rfl, rfl⟩ | ⟨rfl, rfl⟩ | ⟨rfl, rfl⟩ | ⟨rfl, rfl⟩ | ⟨rfl, rfl⟩ | ⟨rfl, rfl⟩) -
    case inr.inr.inr.inr.inl => exact Value.ofOption_measured r.fuelConsumed
    all_goals trivial
  all_goals simp [invocationComplete]

theorem closedEvent_ownWords (removed : Option String) (accepted : Nat) :
    (Closing.closedEvent removed accepted).OwnWords := by
  constructor
  case others =>
    simp only [Closing.closedEvent, processorClosed, List.mem_cons, Prod.mk.injEq,
      List.not_mem_nil, or_false]
    rintro name v (⟨rfl, rfl⟩ | ⟨rfl, rfl⟩) hn
    · exact absurd (by decide) hn
    · trivial
  all_goals simp [Closing.closedEvent, processorClosed]

theorem failedId_measured (hf : f.id.Measured) (hg : given.Measured) :
    (failedId f given).Measured := by
  unfold failedId
  split
  · exact hf
  · exact hg

theorem invocationFailed_ownWords (hf : f.Measured) (hd : duration.Measured) (hg : given.Measured) :
    (invocationFailed f duration given).OwnWords := by
  constructor
  case kind =>
    intro v hv
    have he : v = Value.ofOption (fun kind => .text (FailureKind.label kind)) f.kind? := by
      simpa using mem_invocationFailed hv
    cases hk : f.kind? with
    | none => exact Or.inl (by rw [he, hk]; rfl)
    | some kind => exact Or.inr ⟨kind, by rw [he, hk]; rfl⟩
  case errorType =>
    intro v hv
    have he : v = .text f.typeName := by simpa using mem_invocationFailed hv
    exact ⟨_, f.typeName_published, he⟩
  case capture =>
    intro v hv
    simpa using mem_invocationFailed hv
  case trapReason =>
    intro v hv
    obtain ⟨he, hn⟩ : v = f.trapReason ∧ f.trapReason ≠ .null := by
      simpa using mem_invocationFailed hv
    rw [he]
    exact hf.trapReason.resolve_left hn
  case others =>
    intro name v hv hn
    rcases mem_invocationFailed hv with ⟨rfl, rfl⟩ | ⟨rfl, rfl⟩ | ⟨rfl, rfl⟩ | ⟨rfl, rfl⟩ |
      ⟨rfl, rfl⟩ | ⟨rfl, rfl, -⟩ | ⟨rfl, rfl⟩ | ⟨rfl, rfl⟩
    · exact failedId_measured hf.id hg
    · exact absurd (by decide) hn
    · exact absurd (by decide) hn
    · exact absurd (by decide) hn
    · exact hf.exitCode
    · exact absurd (by decide) hn
    · exact hf.deadline
    · exact hd

end Event

end GuestRunner
