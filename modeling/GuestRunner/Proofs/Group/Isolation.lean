import GuestRunner.Proofs.Group.Invariant
import GuestRunner.Proofs.Processor.Answers

/-!
# Isolation

Invocations that are under way at the same time, of one processor or of several that share a
directory, do not disturb each other, and closing one processor does not disturb the others. Each
invocation drains what its own guest has written, and answers as if it were alone.
-/

set_option autoImplicit false

namespace GuestRunner

open Files Files.Volume Run

def Call.pending? : Call → Option (Except Problem Drained)
  | .releasing _ _ _ pending | .settling _ pending => some pending
  | _ => none

namespace Group

variable {ι κ ω : Type} {r : Membership ι κ ω} {payloads : κ → Value} {f₀ f : Group ι κ ω}

theorem Open.invariant (ho : Open payloads f₀) : Invariant r payloads f₀ f₀ where
  unchanged := {
    settings := fun _ => rfl
    backend := fun _ => rfl
    logger := fun i => (ho.reachable i).usable
    scratch := fun _ => rfl
    closed := fun i h => absurd (h.symm.trans (ho.opened i)) (by decide)
    elapsed := rfl
    sound := ho.sound
    quiet := ho.quiet }
  assignments := {
    ids := .start fun k => by rw [ho.trails k]; rfl
    slots := .start fun k => by rw [ho.trails k]; rfl
    early := fun k _ => by rw [ho.trails k]; rfl }
  course k := by
    refine ⟨fun _ => [], fun _ => rfl, ?_⟩
    rw [ho.calls k, ho.trails k]
    exact .admission _ rfl fun _ => rfl
  onlyOwn w := by
    rw [ho.closings w]
    trivial

theorem Reached.invariant [DecidableEq ι] [DecidableEq κ] [DecidableEq ω] [Fintype κ]
    (ho : Open payloads f₀) (hb : Plain f₀) (hroom : NamesFit f₀) (h : Reached r f₀ f) :
    Invariant r payloads f₀ f := by
  induction h with
  | start => exact ho.invariant
  | call f k h ih => exact ih.callStep ho hb hroom k
  | closing f w h ih => exact ih.closingStep ho w

/-- Whatever has been drained for an invocation on its course is what its run wrote. -/
theorem Invariant.pending (h : Invariant r payloads f₀ f) {k : κ}
    (hk : ∀ w, r.closer w ≠ r.caller k) {pending : Except Problem Drained}
    (hp : (f.calls k).pending? = some pending) :
    ∃ run, (f.trails k).run = some run ∧ pending = Call.allDrained run := by
  obtain ⟨lost, hlost, hc⟩ := h.course k
  cases hlost hk
  generalize f.calls k = c at hc hp
  cases hc with
  | releasing id sink stream run pending v hi hr hm hc =>
    cases hp
    exact ⟨run, hr, hc.exact (fun _ hx => hx) fun _ hx => hx⟩
  | barred id problem v hi hb =>
    obtain ⟨e, he⟩ := hb.fileFaults
    exact he.elim
  | settling id run pending v hi hr hc =>
    cases hp
    exact ⟨run, hr, hc.exact (fun _ hx => hx) fun _ hx => hx⟩
  | _ => cases hp

theorem Invariant.answer (h : Invariant r payloads f₀ f) {k : κ}
    (hk : ∀ w, r.closer w ≠ r.caller k) {result : Except Problem Result}
    (hp : f.calls k = .finished result) :
    ∃ id, (f.trails k).id = some id ∧
      ((∃ refusal, Payload.bytes (payloads k) = .error refusal ∧
          result = .error (.refusal refusal)) ∨
        ∃ run, (f.trails k).run = some run ∧
          result = Call.judge (f₀.processors (r.caller k)) f₀.site.elapsed id
            (Call.allDrained run)) := by
  obtain ⟨lost, hlost, hc⟩ := h.course k
  cases hlost hk
  rw [hp] at hc
  cases hc with
  | finished result v ha =>
    cases ha with
    | refused hcl hi =>
      obtain ⟨w, hw⟩ := hcl
      exact absurd hw (hk w)
    | unreadable id refusal hi hr => exact ⟨id, hi, Or.inl ⟨refusal, hr, rfl⟩⟩
    | barred id problem hi hb =>
      obtain ⟨e, he⟩ := hb.fileFaults
      exact he.elim
    | judged id run pending hi hr hcatch =>
      rw [hcatch.exact (fun _ hx => hx) fun _ hx => hx]
      exact ⟨id, hi, Or.inr ⟨run, hr, rfl⟩⟩

/-- Whatever the order of the steps, an invocation of a processor that nobody closes drains exactly
what its own guest has written and answers what that amounts to; and the numbers that a processor
has given are all different, and are the next ones after those it had given before. -/
theorem isolation [DecidableEq ι] [DecidableEq κ] [DecidableEq ω] [Fintype κ]
    (ho : Open payloads f₀) (hb : Plain f₀) (hroom : NamesFit f₀) (hf : Reached r f₀ f) :
    (∀ k, (∀ w, r.closer w ≠ r.caller k) →
      (∀ pending, (f.calls k).pending? = some pending →
        ∃ run, (f.trails k).run = some run ∧ pending = Call.allDrained run) ∧
      ∀ result, f.calls k = .finished result →
        ∃ id, (f.trails k).id = some id ∧
          ((∃ refusal, Payload.bytes (payloads k) = .error refusal ∧
              result = .error (.refusal refusal)) ∨
            ∃ run, (f.trails k).run = some run ∧
              result = Call.judge (f₀.processors (r.caller k)) f₀.site.elapsed id
                (Call.allDrained run))) ∧
    (∀ k k' n, r.caller k = r.caller k' → (f.trails k).id = some n → (f.trails k').id = some n →
      k = k') ∧
    ∀ i n, (∃ k, r.caller k = i ∧ (f.trails k).id = some n) ↔
      (f₀.processors i).accepted < n ∧ n ≤ (f.processors i).accepted := by
  have h : Invariant r payloads f₀ f := hf.invariant ho hb hroom
  refine ⟨fun k hk => ⟨fun pending hp => h.pending hk hp, fun result hp => h.answer hk hp⟩,
    h.assignments.ids.inj, fun i n => ⟨?_, fun hn => h.assignments.ids.all i n hn.1 hn.2⟩⟩
  rintro ⟨k, rfl, hn⟩
  exact h.assignments.ids.bound k n hn

end Group

namespace Sample

def attempt₂ : Attempt :=
  Processor.construct (.bytes .fixed [0]) none settings (.leveled 50) (fun _ => backend)
    attempt.site

def scratch₂ : Scratch := ⟨⟨.single, ["box"]⟩, false, "000000000002"⟩

def scratchOf (second : Bool) : Scratch := if second then scratch₂ else scratch

def processor₂ : Processor :=
  .fresh settings (.leveled 50) backend ⟨.null, .int 0, ""⟩ (.files scratch₂ 0) [.compile [0]]

def group : Group Bool Bool Unit where
  site := attempt₂.site
  processors second := if second then processor₂ else processor
  calls _ := .admission (.text "hi")
  trails _ := .start
  closings _ := .request

def membership : Membership Bool Bool Unit := ⟨id, fun _ => true⟩

def played : Group Bool Bool Unit :=
  group.play membership
    ((List.replicate 8 [.inl true, .inl false]).flatten ++ List.replicate 8 (.inr ()) ++
      List.replicate 8 (.inl false))

theorem scratchOf_group {i : Bool} {s : Scratch}
    (h : (group.processors i).capture.scratch? = some s) : s = scratchOf i := by
  cases i <;> exact (Option.some.inj h).symm

theorem group_open : Group.Open (fun _ => .text "hi") group := by
  constructor
  · intro i
    cases i with
    | false => exact .elsewhere _ _ scene_reachable
    | true =>
      exact .elsewhere _ _ (.made (.bytes .fixed [0]) none settings (.leveled 50)
        (fun _ => backend) attempt.site processor₂ rfl)
  · intro i
    cases i <;> rfl
  · exact fun _ => rfl
  · exact fun _ => rfl
  · exact fun _ => rfl
  · intro i s h
    rw [scratchOf_group h]
    cases i <;> rfl
  · intro i j s s' h h'
    rw [scratchOf_group h, scratchOf_group h']
    cases i <;> cases j <;> rfl
  · intro i j s s' hne h h'
    rw [scratchOf_group h, scratchOf_group h']
    cases i <;> cases j <;> first | exact absurd rfl hne | decide
  · intro i s h
    rw [scratchOf_group h]
    cases i <;> exact box_sound (by decide) rfl rfl
  · intro i s h call n x hx
    rw [show group.site.volume.schedule call = [] from rfl, List.take_nil] at hx
    cases hx

theorem group_plain : group.Plain := by
  intro i closed module context v
  cases i <;> exact ⟨trivial, trivial, trivial, trivial⟩

theorem group_namesFit : group.NamesFit := by
  have hfit : ∀ second : Bool, ∀ id ∈ List.range 3, ∀ slot ∈ List.range 3,
      Fits (scratchOf second).path ((scratchOf second).slotName (id : Nat) slot .stdout) ∧
      Fits (scratchOf second).path ((scratchOf second).slotName (id : Nat) slot .stderr) := by
    decide +kernel
  intro i s h id slot hid hslot stream
  have hb : id ≤ 2 ∧ slot ≤ 2 := by
    cases i <;> exact ⟨hid, hslot⟩
  have hf := hfit i id (List.mem_range.mpr (by omega)) slot (List.mem_range.mpr (by omega))
  rw [scratchOf_group h]
  cases stream with
  | stdout => exact hf.1
  | stderr => exact hf.2

end Sample

/-- The first processor's invocation comes to its end and is judged by its own run. -/
theorem isolation_sample :
    ∃ result id run, Sample.played.calls false = .finished result ∧
      (Sample.played.trails false).id = some id ∧ (Sample.played.trails false).run = some run ∧
      result = Call.judge Sample.processor Sample.attempt₂.site.elapsed id
        (Call.allDrained run) := by
  have hstop : (Sample.played.calls false).togo = 0 ∧
      (Sample.played.calls false).stage = Call.stepsBeforeRun := by decide +kernel
  obtain ⟨result, hend⟩ := Call.finished_of_togo hstop.2 hstop.1
  have hreached : Group.Reached Sample.membership Sample.group Sample.played :=
    Group.play_reached .start _
  have h := Group.isolation Sample.group_open Sample.group_plain Sample.group_namesFit hreached
  obtain ⟨id, hid, ⟨refusal, hr, -⟩ | ⟨run, hrun, hresult⟩⟩ := (h.1 false (by decide)).2 result hend
  · cases hr
  · exact ⟨result, id, run, hend, hid, hrun, hresult⟩

end GuestRunner
