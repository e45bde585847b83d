import GuestRunner.Capture.Sink

/-!
# File errors of sinks

What the calls of a sink to its files fail with, whatever there is in the directory. A file that is
merely missing is no failure. The paths are such that the system takes them, so that every failure
has an error of the system behind it.
-/

set_option autoImplicit false

namespace GuestRunner

open Files Files.Volume

def Path.Clean (p : Path) : Prop := Char.ofNat 0 ∉ p.text.toList

theorem Path.mem_joined_snoc {c : Char} {parts : List String} {name : String}
    (h : c ∈ (joined (parts ++ [name])).toList) :
    c ∈ (joined parts).toList ∨ c = '/' ∨ c ∈ name.toList := by
  induction parts with
  | nil => exact Or.inr (Or.inr h)
  | cons part rest ih =>
    have hj : joined (part :: rest ++ [name]) = part ++ "/" ++ joined (rest ++ [name]) := by
      cases rest <;> rfl
    rw [hj] at h
    simp only [String.toList_append, List.mem_append] at h
    cases rest with
    | nil =>
      rcases h with (h | h) | h
      · exact Or.inl h
      · exact Or.inr (Or.inl (by simpa using h))
      · exact Or.inr (Or.inr h)
    | cons next rest =>
      simp only [joined, String.toList_append, List.mem_append] at ih ⊢
      rcases h with h | h
      · exact Or.inl (Or.inl h)
      · exact (ih h).imp_left Or.inr

theorem Path.Clean.child {p : Path} {name : String} (hp : p.Clean)
    (hn : Char.ofNat 0 ∉ name.toList) : (p.child name).Clean := by
  intro h
  unfold Path.Clean Path.text at hp
  rw [Path.text, if_neg (by simp [Path.child]), String.toList_append, List.mem_append] at h
  rcases h with h | h
  · cases hr : p.root <;> simp [Path.child, hr, Path.Root.text] at h
  · rcases Path.mem_joined_snoc h with h | h | h
    · split at hp
      · rename_i he
        rw [he.2] at h
        simp [Path.joined] at h
      · rw [String.toList_append, List.mem_append] at hp
        exact hp (Or.inr h)
    · exact absurd h (by decide)
    · exact hn h

namespace Files.Volume

variable {v : Volume} {p : Path} {e : OsError}

theorem unusable_clean (hp : p.Clean) (h : unusable? p.text = some e) : e ≠ .nulInPath := by
  unfold unusable? at h
  rw [if_neg (by simpa [Path.Clean] using hp)] at h
  split at h
  · cases h
    simp
  · cases h

theorem onTree_clean (hp : p.Clean) {act : Place → List String → Except Nat Tree}
    (h : (v.onTree p act).1 = .error e) : e ≠ .nulInPath := by
  unfold onTree at h
  split at h
  · rename_i hu
    cases h
    exact unusable_clean hp hu
  · split at h
    · cases h
    · cases h
      simp

theorem guarded_clean {α : Type} {call : Files.Call} {act : Volume → Except OsError α × Volume}
    (ha : ∀ v, (act v).1 = .error e → e ≠ .nulInPath) (h : (v.guarded call act).1 = .error e) :
    e ≠ .nulInPath := by
  unfold guarded at h
  split at h
  · cases h
    simp
  · exact ha _ h

theorem truncate_clean (hp : p.Clean) (h : (v.truncate p).1 = .error e) : e ≠ .nulInPath :=
  guarded_clean (fun _ h => onTree_clean hp h) h

theorem readStream_clean (hp : p.Clean) (h : (v.readStream p).1 = .error e) : e ≠ .nulInPath := by
  refine guarded_clean (fun v h => ?_) h
  simp only [read, readAs] at h
  split at h
  · rename_i hu
    cases h
    exact unusable_clean hp hu
  · split at h
    · cases h
    · cases h
      simp

end Files.Volume

theorem Problem.ofScratch_clean {e : OsError} (he : e ≠ .nulInPath)
    (cause : OsError → ScratchCause) : ofScratch cause e = .failure (.scratch (cause e)) := by
  cases e with
  | nulInPath => exact absurd rfl he
  | _ => rfl

namespace Sink

def Clean : Sink → Prop
  | .buffered .. => True
  | .files out err => ∀ stream, (pathOf out err stream).Clean

variable {sink sink' : Sink} {stream : Stream} {v v' : Volume}

theorem write_clean {chunk : Bytes} {done : Except OsError Unit} (hc : sink.Clean)
    (h : sink.write stream chunk v = (done, sink', v')) : sink'.Clean := by
  cases sink with
  | buffered out err => cases stream <;> cases h <;> trivial
  | files out err =>
    cases h
    exact hc

theorem writeAt_clean {position : Nat} {chunk : Bytes} {done : Except OsError Unit}
    (hc : sink.Clean)
    (h : sink.writeAt stream position chunk v = (done, sink', v')) : sink'.Clean := by
  cases sink with
  | buffered out err => exact write_clean hc h
  | files out err =>
    cases h
    exact hc

def fileError {α : Type} (sink : Sink) (stream : Stream) (op : Path → Except OsError α × Volume) :
    Option OsError :=
  match sink with
  | .buffered .. => none
  | .files out err =>
    match (op (pathOf out err stream)).1 with
    | .ok _ => none
    | .error e => if e.isMissing then none else some e

theorem fileError_ok {α : Type} {out err : Path} {op : Path → Except OsError α × Volume} {a : α}
    (h : op (pathOf out err stream) = (.ok a, v)) : (files out err).fileError stream op = none := by
  simp only [fileError, h]

theorem fileError_error {α : Type} {out err : Path} {op : Path → Except OsError α × Volume}
    {e : OsError} (h : op (pathOf out err stream) = (.error e, v)) :
    (files out err).fileError stream op = if e.isMissing then none else some e := by
  simp only [fileError, h]

theorem clear_fileError (hc : sink.Clean) {done : Except Problem Unit}
    (h : sink.clear stream v = (done, v')) :
    (sink.fileError stream v.truncate = none ∧ done = .ok ()) ∨
      ∃ e name, sink.fileError stream v.truncate = some e ∧
        done = .error (.failure (.scratch (.truncate name e))) := by
  cases sink with
  | buffered out err =>
    cases h
    exact Or.inl ⟨rfl, rfl⟩
  | files out err =>
    have hp := hc stream
    simp only [clear] at h
    cases ht : v.truncate (pathOf out err stream) with
    | mk r w =>
      rw [ht] at h
      cases r with
      | ok _ =>
        cases h
        exact Or.inl ⟨fileError_ok ht, rfl⟩
      | error e =>
        have he : e ≠ .nulInPath := truncate_clean (v := v) hp (by rw [ht])
        rw [fileError_error ht]
        simp only [Problem.ofScratch_clean he] at h
        cases hm : e.isMissing <;> simp only [hm] at h <;> cases h
        · exact Or.inr ⟨e, _, rfl, rfl⟩
        · exact Or.inl ⟨rfl, rfl⟩

theorem drain_fileError (hc : sink.Clean) {content : Except Problem Bytes}
    (h : sink.drain stream v = (content, v')) :
    (sink.fileError stream v.readStream = none ∧ ∃ bytes, content = .ok bytes) ∨
      ∃ e name, sink.fileError stream v.readStream = some e ∧
        content = .error (.failure (.scratch (.read name e))) := by
  cases sink with
  | buffered out err =>
    cases stream <;> cases h <;> exact Or.inl ⟨rfl, _, rfl⟩
  | files out err =>
    have hp := hc stream
    simp only [drain] at h
    cases ht : v.readStream (pathOf out err stream) with
    | mk r w =>
      rw [ht] at h
      cases r with
      | ok bytes =>
        cases h
        exact Or.inl ⟨fileError_ok ht, bytes, rfl⟩
      | error e =>
        have he : e ≠ .nulInPath := readStream_clean (v := v) hp (by rw [ht])
        rw [fileError_error ht]
        simp only [Problem.ofScratch_clean he] at h
        cases hm : e.isMissing <;> simp only [hm] at h <;> cases h
        · exact Or.inr ⟨e, _, rfl, rfl⟩
        · exact Or.inl ⟨rfl, [], rfl⟩

theorem discard_fileError (hc : sink.Clean) {done : Except OsError Unit}
    (h : sink.discard stream v = (done, sink', v')) :
    sink'.Clean ∧ ((sink.fileError stream v.unlink = none ∧ done = .ok ()) ∨
      ∃ e, sink.fileError stream v.unlink = some e ∧ done = .error e) := by
  cases sink with
  | buffered out err =>
    cases stream <;> cases h <;> exact ⟨trivial, Or.inl ⟨rfl, rfl⟩⟩
  | files out err =>
    simp only [discard] at h
    cases ht : v.unlink (pathOf out err stream) with
    | mk r w =>
      rw [ht] at h
      cases r with
      | ok _ =>
        cases h
        exact ⟨hc, Or.inl ⟨fileError_ok ht, rfl⟩⟩
      | error e =>
        rw [fileError_error ht]
        cases hm : e.isMissing <;> simp only [hm] at h <;> cases h
        · exact ⟨hc, Or.inr ⟨e, rfl, rfl⟩⟩
        · exact ⟨hc, Or.inl ⟨rfl, rfl⟩⟩

end Sink

end GuestRunner
