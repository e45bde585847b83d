import GuestRunner.Proofs.Call.Payload
import GuestRunner.Proofs.Call.Logging
import GuestRunner.Proofs.Processor.Deeds
import GuestRunner.Proofs.Processor.Origin
import GuestRunner.Proofs.Processor.Answers

/-!
# Counting invocations

Every invocation that an open processor accepts takes the next number, and either reports its start
under it or has a payload that is refused. A payload is refused only after the number is taken, so
that such a number is counted by the processor and missing among the starts. The closing reports how
many numbers were taken. Guests may invoke the processor too, and close it.
-/

set_option autoImplicit false

namespace GuestRunner

namespace Event

def startName : String := "invocation.start"

def startId? (e : Event) : Option Value :=
  if e.name = startName then some (e.field "invocation_id") else none

def Passing (e : Event) : Prop := e.name ≠ startName ∧ e.name ≠ closingName

theorem invocationComplete_passing (r : Result) : (invocationComplete r).Passing := by
  constructor <;> simp [invocationComplete, startName, closingName]

theorem invocationFailed_passing (f : Failure) (duration given : Value) :
    (invocationFailed f duration given).Passing := by
  constructor <;> simp [invocationFailed, startName, closingName]

theorem startIds_passing {events : List Event} (h : ∀ e ∈ events, e.Passing) :
    events.filterMap startId? = [] := by
  apply List.filterMap_eq_nil_iff.mpr
  intro e he
  exact if_neg (h e he).1

end Event

def Backend.Asks (b : Backend) (payload : Value) : Prop :=
  ∃ closed module context volume stream,
    .process stream payload ∈ (b.run closed module context volume).acts

namespace Scene

/-- What was reported from one scene to another: which invocations have started, which numbers were
taken by payloads that were refused, and that a closing comes after the last number. The payloads
were `sent` by somebody. -/
structure Counted (sent : Value → Prop) (s : Scene) (events : List Event) (started : List Nat)
    (refused : List (Nat × Value)) (s' : Scene) : Prop where
  continued : Continued s s'
  journal : s'.site.journal = (s.reported events).site.journal
  starts : events.filterMap Event.startId? = started.map Value.ofNat
  ascending : started.Pairwise (· < ·)
  accepted : s.processor.accepted ≤ s'.processor.accepted
  numbers : (started ++ refused.map Prod.fst).Perm
    (List.range' (s.processor.accepted + 1) (s'.processor.accepted - s.processor.accepted))
  refusals : ∀ x ∈ refused, (∀ content, ¬ Payload.Denotes x.2 content) ∧ sent x.2
  shut : s.processor.closed = true →
    s'.processor.closed = true ∧ s'.processor.accepted = s.processor.accepted
  counts : ∀ e ∈ events, e.name = Event.closingName → s'.processor.closed = true ∧
    e.field "invocations" = Value.ofNat s'.processor.accepted

namespace Counted

variable {sent sent' : Value → Prop} {s s' s'' : Scene} {events more : List Event}
  {started later : List Nat} {refused others : List (Nat × Value)}

theorem mono (h : Counted sent s events started refused s') (hs : ∀ v, sent v → sent' v) :
    Counted sent' s events started refused s' where
  continued := h.continued
  journal := h.journal
  starts := h.starts
  ascending := h.ascending
  accepted := h.accepted
  numbers := h.numbers
  refusals x hx := ⟨(h.refusals x hx).1, hs _ (h.refusals x hx).2⟩
  shut := h.shut
  counts := h.counts

theorem between (h : Counted sent s events started refused s') {n : Nat} (hn : n ∈ started) :
    s.processor.accepted < n ∧ n ≤ s'.processor.accepted := by
  have hr := h.numbers.mem_iff.mp (List.mem_append_left _ hn)
  have hle := h.accepted
  rw [List.mem_range'_1] at hr
  omega

theorem numbers_between {low middle high : Nat} (h : low ≤ middle) (h' : middle ≤ high) :
    List.range' (low + 1) (middle - low) ++ List.range' (middle + 1) (high - middle) =
      List.range' (low + 1) (high - low) := by
  rw [show middle + 1 = low + 1 + (middle - low) by omega, List.range'_append_1]
  congr 1
  omega

theorem trans (h : Counted sent s events started refused s')
    (h' : Counted sent s' more later others s'') :
    Counted sent s (events ++ more) (started ++ later) (refused ++ others) s'' := by
  have hle := h.accepted
  have hle' := h'.accepted
  constructor
  · exact h.continued.trans h'.continued
  · rw [h'.journal]
    simp only [reported, h.journal, h.continued.logger, Logger.heard_append, List.append_assoc]
  · rw [List.filterMap_append, h.starts, h'.starts, List.map_append]
  · apply List.pairwise_append.mpr
    refine ⟨h.ascending, h'.ascending, fun m hm n hn => ?_⟩
    have hm' := h.between hm
    have hn' := h'.between hn
    omega
  · omega
  · rw [← numbers_between hle hle']
    refine .trans ?_ (h.numbers.append h'.numbers)
    -- The starts and the refusals of the first part come before those of the second.
    rw [List.map_append, List.append_assoc, List.append_assoc]
    apply List.Perm.append_left
    rw [← List.append_assoc, ← List.append_assoc]
    exact List.perm_append_comm.append_right _
  · intro x hx
    rcases List.mem_append.mp hx with hx | hx
    · exact h.refusals x hx
    · exact h'.refusals x hx
  · intro hc
    obtain ⟨hc', ha⟩ := h.shut hc
    obtain ⟨hc'', ha'⟩ := h'.shut hc'
    exact ⟨hc'', ha'.trans ha⟩
  · intro e he hname
    rcases List.mem_append.mp he with he | he
    · obtain ⟨hc, hn⟩ := h.counts e he hname
      obtain ⟨hc', ha⟩ := h'.shut hc
      exact ⟨hc', by rw [hn, ha]⟩
    · exact h'.counts e he hname

/-- Work that takes no number and closes nothing. -/
theorem quiet (hk : Continued s s') (he : ∀ e ∈ events, e.Passing)
    (hj : s'.site.journal = (s.reported events).site.journal)
    (ha : s'.processor.accepted = s.processor.accepted)
    (hc : s'.processor.closed = s.processor.closed) : Counted sent s events [] [] s' where
  continued := hk
  journal := hj
  starts := Event.startIds_passing he
  ascending := .nil
  accepted := Nat.le_of_eq ha.symm
  numbers := by
    rw [ha, Nat.sub_self]
    exact .refl _
  refusals := nofun
  shut h := ⟨hc.trans h, ha⟩
  counts e hm hname := absurd hname (he e hm).2

theorem silent (hk : Continued s s') (hj : s'.site.journal = s.site.journal)
    (ha : s'.processor.accepted = s.processor.accepted)
    (hc : s'.processor.closed = s.processor.closed) : Counted sent s [] [] [] s' :=
  quiet hk nofun (by simp [reported, hj]) ha hc

theorem then_silent (h : Counted sent s events started refused s') (hk : Continued s' s'')
    (hj : s''.site.journal = s'.site.journal) (ha : s''.processor.accepted = s'.processor.accepted)
    (hc : s''.processor.closed = s'.processor.closed) :
    Counted sent s events started refused s'' := by
  simpa using h.trans (.silent hk hj ha hc)

theorem refl (sent : Value → Prop) (s : Scene) : Counted sent s [] [] [] s :=
  silent (.refl s) rfl rfl rfl

end Counted

end Scene

open Scene

namespace Closing

inductive Heard (s : Scene) : Closing → Scene → Prop
  | waiting : Heard s .request s
  | busy (k : Closing) (s' : Scene) (hk : ¬ k.Idle) (hc : s'.processor.closed = true)
    (hj : s'.site.journal = s.site.journal) : Heard s k s'
  | broken (problem : Problem) (s' : Scene) (hc : s'.processor.closed = true)
    (hj : s'.site.journal = s.site.journal) : Heard s (.finished (.error problem)) s'
  | done (removed : Option String) (s' : Scene) (hc : s'.processor.closed = true)
    (hj : s'.site.journal =
      (s.reported [closedEvent removed s.processor.accepted]).site.journal) :
    Heard s (.finished (.ok ())) s'

variable {s s' : Scene} {k : Closing}

theorem Heard.step (h : Heard s k s') (ho : s.processor.closed = false)
    (hu : s.processor.logger.Usable) (hk : Continued s s')
    (ha : s'.processor.accepted = s.processor.accepted) :
    Heard s (k.step s').1 (k.step s').2 := by
  cases h with
  | waiting =>
    rw [request_first ho]
    exact .busy _ _ (by rintro (h | ⟨_, h⟩) <;> cases h) rfl rfl
  | broken problem s' hc hj => exact .broken problem s' hc hj
  | done removed s' hc hj => exact .done removed s' hc hj
  | busy k s' hi hc hj =>
    have hc' := k.step_closed hc
    cases k with
    | request => exact absurd (Or.inl rfl) hi
    | finished result => exact absurd (Or.inr ⟨result, rfl⟩) hi
    | detaching =>
      simp only [Closing.step] at hc' ⊢
      split <;> exact .busy _ _ (by rintro (h | ⟨_, h⟩) <;> cases h) hc hj
    | cleaning scratch c =>
      cases c <;> exact .busy _ _ (by rintro (h | ⟨_, h⟩) <;> cases h) hc hj
    | shutting removed => exact .busy _ _ (by rintro (h | ⟨_, h⟩) <;> cases h) hc hj
    | dropping removed =>
      cases removed with
      | ok path => exact .busy _ _ (by rintro (h | ⟨_, h⟩) <;> cases h) hc hj
      | error f => exact .broken _ _ hc hj
    | reporting removed =>
      have hu' : s'.processor.logger.Usable := hk.logger ▸ hu
      have hstep : Closing.step (.reporting removed) s' =
          (.finished (.ok ()), s'.reported [closedEvent removed s'.processor.accepted]) := by
        simp only [Closing.step, closedEvent, emit_plain hu' (Event.processorClosed_plain _ _)]
      rw [hstep]
      refine .done removed (s'.reported _) hc ?_
      show s'.site.journal ++ _ = _
      rw [hj, ha, hk.logger]
      rfl

end Closing

namespace Scene

variable {sent : Value → Prop} {s s' : Scene}

/-- A closing that succeeds on an open processor reports the numbers that were taken. -/
theorem close_counted (hu : s.processor.logger.Usable) :
    ∃ events, Counted sent s events [] [] s.close.2 ∧
      (s.processor.closed = false → s.close.2.processor.closed = true ∧
        (s.close.1 = .ok () →
          ∃ removed, events = [Closing.closedEvent removed s.processor.accepted])) := by
  by_cases hc : s.processor.closed = true
  · rw [close_shut hc]
    exact ⟨[], .refl sent s, by simp [hc]⟩
  have ho : s.processor.closed = false := by simpa using hc
  obtain ⟨result, s', hrun, hk, ha, hh⟩ := Closing.run_keeps (k := .request) (s := s)
    (Q := fun k s' => Continued s s' ∧ s'.processor.accepted = s.processor.accepted ∧ k.Heard s s')
    (fun k s' ⟨hk, ha, hh⟩ => ⟨hk.trans (k.step_continued s'), (k.step_frame s').2.1.trans ha,
      hh.step ho hu hk ha⟩)
    ⟨.refl s, rfl, .waiting⟩
  have hclose : s.close = (result, s') := by
    unfold close
    rw [hrun]
    rfl
  rw [hclose]
  obtain ⟨k, hfin⟩ : ∃ k, Closing.finished result = k := ⟨_, rfl⟩
  rw [hfin] at hh
  cases hh with
  | waiting => cases hfin
  | busy k s' hi hc' hj => exact absurd (Or.inr ⟨result, hfin.symm⟩) hi
  | broken problem s' hc' hj =>
    cases hfin
    refine ⟨[], ⟨hk, by simp [reported, hj], rfl, .nil, Nat.le_of_eq ha.symm, ?_, nofun,
      fun h => absurd h hc, nofun⟩, fun _ => ⟨hc', nofun⟩⟩
    rw [ha, Nat.sub_self]
    exact .refl _
  | done removed s' hc' hj =>
    refine ⟨_, ⟨hk, hj, rfl, .nil, Nat.le_of_eq ha.symm, ?_, nofun, fun h => absurd h hc, ?_⟩,
      fun _ => ⟨hc', fun _ => ⟨removed, rfl⟩⟩⟩
    · rw [ha, Nat.sub_self]
      exact .refl _
    · intro e he hname
      obtain rfl := List.mem_singleton.mp he
      refine ⟨hc', ?_⟩
      rw [ha]
      rfl

/-- Whoever takes a number and reports the start of an invocation. -/
theorem admitting_starts (ho : s.processor.closed = false) (content : Bytes) :
    Counted sent s [Call.startEvent s.processor s.nextId content] [s.nextId] []
      (s.admitting.reported [Call.startEvent s.processor s.nextId content]) where
  continued := ⟨rfl, rfl, rfl, rfl, id⟩
  journal := rfl
  starts := rfl
  ascending := List.pairwise_singleton _ _
  accepted := Nat.le_succ _
  numbers := by
    show ([s.nextId] : List Nat).Perm (List.range' _ (s.processor.accepted + 1 - _))
    rw [Nat.add_sub_cancel_left]
    exact .refl _
  refusals := nofun
  shut h := by
    rw [ho] at h
    cases h
  counts e he hname := by
    obtain rfl := List.mem_singleton.mp he
    exact absurd hname (show Event.startName ≠ Event.closingName by decide)

/-- Whoever takes a number for a payload that is refused. -/
theorem admitting_refuses (ho : s.processor.closed = false) {payload : Value} {r : Refusal}
    (hb : Payload.bytes payload = .error r) (hs : sent payload) :
    Counted sent s [] [] [(s.nextId, payload)] s.admitting where
  continued := ⟨rfl, rfl, rfl, rfl, id⟩
  journal := by simp [reported, admitting]
  starts := rfl
  ascending := .nil
  accepted := Nat.le_succ _
  numbers := by
    show ([s.nextId] : List Nat).Perm (List.range' _ (s.processor.accepted + 1 - _))
    rw [Nat.add_sub_cancel_left]
    exact .refl _
  refusals x hx := by
    obtain rfl := List.mem_singleton.mp hx
    exact ⟨Payload.bytes_error.mp ⟨r, hb⟩, hs⟩
  shut h := by
    rw [ho] at h
    cases h
  counts := nofun

end Scene

namespace Call

variable {again : Again} {b : Backend} {c c' : Call} {s s' : Scene}

def Again.Counts (b : Backend) (again : Again) : Prop :=
  ∀ payload s, s.processor.backend = b → s.processor.logger.Usable → s.alarm = .off →
    ∃ events started refused, Counted (fun v => v = payload ∨ b.Asks v) s events started refused
      (again payload s).2

def FromRuns (b : Backend) : Call → Prop
  | .running _ _ acts _ => ∀ stream payload, .process stream payload ∈ acts → b.Asks payload
  | _ => True

theorem settle_counted (sent : Value → Prop) (id : Nat) (pending : Except Problem Drained)
    (hu : s.processor.logger.Usable) :
    ∃ events, Counted sent s events [] [] (settle id pending s).2 := by
  have hreport : ∀ e : Event, e.Plain → e.Passing → Counted sent s [e] [] [] (s.emit e).2 := by
    intro e hp he
    rw [emit_plain hu hp]
    exact .quiet ⟨rfl, rfl, rfl, rfl, fun h => h⟩ (by simpa using he) rfl rfl rfl
  unfold settle
  dsimp only
  split
  · exact ⟨_, hreport _ (Event.invocationComplete_plain _) (Event.invocationComplete_passing _)⟩
  · exact ⟨_, hreport _ (failedEvent_plain _ _ _) (Event.invocationFailed_passing _ _ _)⟩
  · exact ⟨[], .refl sent s⟩

theorem perform_counted (ha : again.Counts b) (sink : Sink) (act : Act)
    (hact : ∀ stream payload, act = .process stream payload → b.Asks payload)
    (hb : s.processor.backend = b) (hu : s.processor.logger.Usable) (hc : s.alarm = .off) :
    ∃ events started refused,
      Counted b.Asks s events started refused (perform again sink act s).2 := by
  cases act with
  | process stream payload =>
    obtain ⟨events, started, refused, h⟩ := ha payload s hb hu hc
    have hasks := hact stream payload rfl
    refine ⟨events, started, refused, ?_⟩
    replace h : Counted b.Asks s events started refused (again payload s).2 :=
      h.mono fun v hv => hv.elim (fun he => he ▸ hasks) id
    simp only [perform]
    split <;> rename_i he <;> rw [he] at h
    · exact h.then_silent ⟨rfl, rfl, rfl, rfl, id⟩ rfl rfl rfl
    · exact h
  | closeProcessor =>
    obtain ⟨events, h, -⟩ := @close_counted b.Asks _ hu
    exact ⟨events, [], [], h⟩
  | wait =>
    refine ⟨[], [], [], ?_⟩
    simp only [perform, ring, hc]
    exact .refl _ s
  | _ => exact ⟨[], [], [], .silent ⟨rfl, rfl, rfl, rfl, id⟩ rfl rfl rfl⟩

/-- From the opening of its sink on, an invocation takes no more numbers itself. -/
theorem Move.counted (h : Move again c s c' s') (ha : again.Counts b) (hl : 3 ≤ c.stage)
    (hm : c.FromRuns b) (hb : s.processor.backend = b) (hu : s.processor.logger.Usable)
    (hc : s.alarm = .off) :
    (∃ events started refused, Counted b.Asks s events started refused s') ∧ c'.FromRuns b := by
  have hquiet : ∀ {s' : Scene}, Continued s s' → s'.site.journal = s.site.journal →
      s'.processor.accepted = s.processor.accepted → s'.processor.closed = s.processor.closed →
      ∃ events started refused, Counted b.Asks s events started refused s' :=
    fun hk hj ha hc => ⟨[], [], [], .silent hk hj ha hc⟩
  have hact : ∀ {id sink act rest ending}, c = .running id sink (act :: rest) ending →
      ∃ events started refused,
        Counted b.Asks s events started refused (perform again sink act s).2 := by
    rintro id sink act rest ending rfl
    refine perform_counted ha sink act (fun stream payload he => ?_) hb hu hc
    exact hm stream payload (he ▸ List.mem_cons_self)
  cases h with
  | acted id sink sink' act rest ending s s' h =>
    have hp := hact rfl
    rw [h] at hp
    exact ⟨hp, fun stream payload hx => hm stream payload (List.mem_cons_of_mem _ hx)⟩
  | stumbled id sink act rest ending s s' problem h =>
    obtain ⟨events, started, refused, hp⟩ := hact rfl
    rw [h] at hp
    exact ⟨⟨events, started, refused,
      hp.then_silent ⟨rfl, rfl, rfl, rfl, fun ho => ho⟩ rfl rfl rfl⟩,
      trivial⟩
  | settled id pending s s' result h =>
    obtain ⟨events, hs⟩ := settle_counted b.Asks id pending hu
    rw [h] at hs
    exact ⟨⟨events, [], [], hs⟩, trivial⟩
  | started job sink s =>
    refine ⟨hquiet ⟨rfl, rfl, rfl, rfl, id⟩ rfl rfl rfl, fun stream payload hx => ?_⟩
    subst hb
    exact ⟨_, _, _, _, stream, hx⟩
  | opened job s =>
    exact ⟨hquiet ⟨rfl, rfl, rfl, s.processor.capture.nextSink_scratch _, id⟩ rfl rfl rfl, trivial⟩
  | refused payload s h => simp [Call.stage] at hl
  | admitted payload s h => simp [Call.stage] at hl
  | fetched id payload s => simp [Call.stage] at hl
  | unreadable id module payload s refusal h => simp [Call.stage] at hl
  | announced id module payload s s' content h hs => simp [Call.stage] at hl
  | unannounced id module payload s s' content problem h hs => simp [Call.stage] at hl
  | _ => exact ⟨hquiet ⟨rfl, rfl, rfl, rfl, id⟩ rfl rfl rfl, trivial⟩

inductive Counting (b : Backend) (payload : Value) (s : Scene) : Call → Scene → Prop
  | waiting : Counting b payload s (.admission payload) s
  | fetching (ho : s.processor.closed = false) :
    Counting b payload s (.fetching s.nextId payload) s.admitting
  | intake (ho : s.processor.closed = false) (module : Option CompiledModule) :
    Counting b payload s (.intake s.nextId module payload) s.admitting
  | inside (events : List Event) (started : List Nat) (refused : List (Nat × Value)) (c : Call)
    (s' : Scene)
    (h : Counted (fun v => v = payload ∨ b.Asks v) s events started refused s')
    (hl : 3 ≤ c.stage) (hm : c.FromRuns b) : Counting b payload s c s'

variable {payload : Value}

theorem Counting.continued (h : Counting b payload s c s') : Continued s s' := by
  cases h with
  | waiting => exact .refl s
  | fetching ho => exact ⟨rfl, rfl, rfl, rfl, id⟩
  | intake ho module => exact ⟨rfl, rfl, rfl, rfl, id⟩
  | inside events started refused c s' h hl hm => exact h.continued

theorem Counting.step (h : Counting b payload s c s') (ha : again.Counts b)
    (hb : s.processor.backend = b) (hu : s.processor.logger.Usable) (hc : s.alarm = .off) :
    Counting b payload s (step again c s').1 (step again c s').2 := by
  have hk := h.continued
  have hmove := calm_move again c (hk.calm hc)
  have hstage := hmove.stage
  have hend : 3 ≤ stepsBeforeRun := by decide
  cases h with
  | waiting =>
    rw [step_calm again _ hc, advance]
    split
    · exact .inside [] [] [] _ s (.refl _ s) hend trivial
    · rename_i ho
      exact .fetching (by simpa using ho)
  | fetching ho =>
    rw [step_calm again _ (hk.calm hc)]
    exact .intake ho _
  | intake ho module =>
    rw [step_calm again _ (hk.calm hc)]
    cases hp : Payload.bytes payload with
    | error r =>
      simp only [advance, hp]
      exact .inside [] [] _ _ _ (admitting_refuses ho hp (Or.inl rfl)) hend trivial
    | ok content =>
      have he := emit_plain (s := s.admitting) hu
        (startEvent_plain s.admitting.processor s.nextId content)
      simp only [advance, hp, he]
      exact .inside _ _ [] _ _ (admitting_starts ho content) (Nat.le_refl 3) trivial
  | inside events started refused c s' h hl hm =>
    obtain ⟨⟨more, later, others, hnext⟩, hm'⟩ :=
      hmove.counted ha hl hm (hk.backend.trans hb) (hk.logger ▸ hu) (hk.calm hc)
    refine .inside _ _ _ _ _ (h.trans (hnext.mono fun v hv => Or.inr hv)) ?_ hm'
    omega

theorem run_counted (payload : Value) (ha : again.Counts b) (hb : s.processor.backend = b)
    (hu : s.processor.logger.Usable) (hc : s.alarm = .off) :
    ∃ events started refused, Counted (fun v => v = payload ∨ b.Asks v) s events started refused
      (run again (.admission payload) s).2 := by
  obtain ⟨result, s', hrun, h⟩ := run_keeps again (Q := Counting b payload s)
    (fun c s' h => h.step ha hb hu hc) (c := .admission payload) (s := s) .waiting
  obtain ⟨c, hfin⟩ : ∃ c, Call.finished result = c := ⟨_, rfl⟩
  rw [hrun]
  rw [hfin] at h
  cases h with
  | inside events started refused c s' h hl hm => exact ⟨events, started, refused, h⟩
  | _ => cases hfin

end Call

namespace Scene

variable {b : Backend} {s s' : Scene}

theorem invokeWithin_counted (b : Backend) (depth : Nat) :
    Call.Again.Counts b fun payload s => outputOnly (invokeWithin depth payload s) := by
  induction depth with
  | zero => exact fun payload s _ _ _ => ⟨[], [], [], .refl _ s⟩
  | succ depth ih => exact fun payload s hb hu hc => Call.run_counted payload ih hb hu hc

theorem invoke_counted (payload : Value) (hb : s.processor.backend = b)
    (hu : s.processor.logger.Usable) (hc : s.alarm = .off) :
    ∃ events started refused, Counted (fun v => v = payload ∨ b.Asks v) s events started refused
      (s.invoke payload).2 :=
  Call.run_counted payload (invokeWithin_counted b nestingLimit) hb hu hc

theorem serve_counted (request : Request) (hb : s.processor.backend = b)
    (hu : s.processor.logger.Usable) (hc : s.alarm = .off) :
    ∃ events started refused, Counted (fun v => request = .invoke v ∨ b.Asks v) s events started
      refused (s.serve request) := by
  cases request with
  | invoke payload =>
    obtain ⟨events, started, refused, h⟩ := invoke_counted payload hb hu hc
    exact ⟨events, started, refused, h.mono fun v hv => hv.imp (fun he => by rw [he]) id⟩
  | close =>
    obtain ⟨events, h, -⟩ := close_counted hu
    exact ⟨events, [], [], h⟩
  | elsewhere volume elapsed =>
    exact ⟨[], [], [], .silent ⟨rfl, rfl, rfl, rfl, id⟩ rfl rfl rfl⟩

theorem serveAll_counted (requests : List Request) (hb : s.processor.backend = b)
    (hu : s.processor.logger.Usable) (hc : s.alarm = .off) :
    ∃ events started refused, Counted (fun v => .invoke v ∈ requests ∨ b.Asks v) s events started
      refused (s.serveAll requests) := by
  induction requests generalizing s with
  | nil => exact ⟨[], [], [], .refl _ s⟩
  | cons request rest ih =>
    obtain ⟨events, started, refused, h⟩ := serve_counted request hb hu hc
    obtain ⟨more, later, others, h'⟩ :=
      ih (h.continued.backend.trans hb) (h.continued.logger ▸ hu) (h.continued.calm hc)
    refine ⟨_, _, _, (h.mono fun v hv => ?_).trans (h'.mono fun v hv => ?_)⟩
    · exact hv.imp (fun he => by rw [← he]; exact List.mem_cons_self) fun ha => ha
    · exact hv.imp (List.mem_cons_of_mem _) fun ha => ha

theorem Counted.complete {sent : Value → Prop} {events : List Event} {started : List Nat}
    {refused : List (Nat × Value)} (h : Counted sent s events started refused s')
    (hr : refused = []) :
    started = List.range' (s.processor.accepted + 1)
      (s'.processor.accepted - s.processor.accepted) := by
  have hp := h.numbers
  rw [hr, List.map_nil, List.append_nil] at hp
  apply hp.eq_of_pairwise _ h.ascending List.pairwise_lt_range'
  intro m n _ _ hmn hnm
  omega

/-- A payload that is refused takes a number before anybody looks at it. -/
theorem invoke_unreadable {payload : Value} {r : Refusal} (hc : s.alarm = .off)
    (ho : s.processor.closed = false) (hb : Payload.bytes payload = .error r) :
    s.invoke payload = (.error (.refusal r), s.admitting) := by
  obtain ⟨result, s', hrun, hq⟩ := Call.run_keeps again (c := .admission payload) (s := s)
    (Q := fun c s' => c = .admission payload ∧ s' = s ∨
      (c = .fetching s.nextId payload ∨ (∃ module, c = .intake s.nextId module payload) ∨
        c = .finished (.error (.refusal r))) ∧ s' = s.admitting)
    (fun c s' hq => by
      rcases hq with ⟨rfl, rfl⟩ | ⟨rfl | ⟨module, rfl⟩ | rfl, rfl⟩
      · rw [Call.step_calm again _ hc, Call.advance, if_neg (by simp [ho])]
        exact Or.inr ⟨Or.inl rfl, rfl⟩
      · rw [Call.step_calm again _ (s := s.admitting) hc]
        exact Or.inr ⟨Or.inr (Or.inl ⟨_, rfl⟩), rfl⟩
      · rw [Call.step_calm again _ (s := s.admitting) hc]
        simp [Call.advance, hb]
      · exact Or.inr ⟨Or.inr (Or.inr rfl), rfl⟩)
    (Or.inl ⟨rfl, rfl⟩)
  rcases hq with ⟨h, -⟩ | ⟨h | ⟨module, h⟩ | h, rfl⟩
  · cases h
  · cases h
  · cases h
  · unfold invoke
    rw [hrun, h]
    rfl

end Scene

/-- Somebody works with a new processor and closes it. Its invocations start in the order of their
numbers, and the closing reports how many numbers were taken. All of these have started but those
that were taken by payloads that are refused. -/
theorem invocations_counted {wasm : Value} {directory : Option String} {settings : Settings}
    {logger : Logger} {backend : Settings → Backend} {site : Site} {p : Processor}
    (hp : (Processor.construct wasm directory settings logger backend site).outcome = .ok p)
    (requests : List Request) {start last : Scene}
    (hs : start = .calm p (Processor.construct wasm directory settings logger backend site).site)
    (hl : last = start.serveAll requests) :
    (∃ (events : List Event) (started : List Nat) (refused : List (Nat × Value)),
      last.close.2.site.journal = start.site.journal ++ start.processor.logger.heard events ∧
      events.filterMap Event.startId? = started.map Value.ofNat ∧
      started.Pairwise (· < ·) ∧
      (started ++ refused.map Prod.fst).Perm (List.range' 1 last.close.2.processor.accepted) ∧
      (∀ x ∈ refused, (∀ content, ¬ Payload.Denotes x.2 content) ∧
        (.invoke x.2 ∈ requests ∨ p.backend.Asks x.2)) ∧
      ((∀ v, .invoke v ∈ requests ∨ p.backend.Asks v →
          ∃ content, Payload.Denotes v content) →
        started = List.range' 1 last.close.2.processor.accepted) ∧
      (∀ e ∈ events, e.name = Event.closingName →
        e.field "invocations" = Value.ofNat last.close.2.processor.accepted) ∧
      (last.processor.closed = false → last.close.1 = .ok () →
        ∃ e ∈ events, e.name = Event.closingName)) ∧
    (last.processor.closed = false → ∀ payload, (∀ content, ¬ Payload.Denotes payload content) →
      ∃ r, Payload.bytes payload = .error r ∧
        last.invoke payload = (.error (.refusal r), last.admitting)) := by
  obtain ⟨content, m, capture, -, origin⟩ := Processor.construct_origin hp
  have hzero : start.processor.accepted = 0 := by
    rw [hs, origin.made]
    rfl
  have hu : start.processor.logger.Usable := by
    rw [hs, origin.made]
    exact origin.usable
  have hb : start.processor.backend = p.backend := by rw [hs]; rfl
  have hcalm : start.alarm = .off := by rw [hs]; rfl
  obtain ⟨events, started, refused, h⟩ := serveAll_counted requests hb hu hcalm
  rw [← hl] at h
  obtain ⟨more, hclose, hdone⟩ := close_counted (h.continued.logger ▸ hu)
  have hall := h.trans hclose
  rw [List.append_nil, List.append_nil] at hall
  refine ⟨⟨events ++ more, started, refused, hall.journal, hall.starts, hall.ascending, ?_,
    hall.refusals, fun hread => ?_, fun e he hname => (hall.counts e he hname).2,
    fun ho hok => ?_⟩, fun ho payload hd => ?_⟩
  · have hn := hall.numbers
    rwa [hzero, Nat.sub_zero, Nat.zero_add] at hn
  · have hnone : refused = [] := by
      apply List.eq_nil_iff_forall_not_mem.mpr
      intro x hx
      obtain ⟨hd, hsent⟩ := hall.refusals x hx
      obtain ⟨content, hok⟩ := hread x.2 hsent
      exact hd content hok
    have hc := hall.complete hnone
    rwa [hzero, Nat.sub_zero, Nat.zero_add] at hc
  · obtain ⟨removed, rfl⟩ := (hdone ho).2 hok
    exact ⟨_, List.mem_append_right _ List.mem_cons_self, rfl⟩
  · obtain ⟨r, hr⟩ := Payload.bytes_error.mpr hd
    exact ⟨r, hr, invoke_unreadable (h.continued.calm hcalm) ho hr⟩

namespace Sample

def unfiltered : Scene :=
  .calm (.fresh .default .structured backend ⟨.null, .int 0, ""⟩ .buffered [.compile [0]])
    (Processor.construct (.bytes .fixed [0]) none .default .structured (fun _ => backend)
      ⟨volume, [], .zero⟩).site

theorem unfiltered_made : (Processor.construct (.bytes .fixed [0]) none .default .structured
    (fun _ => backend) ⟨volume, [], .zero⟩).outcome = .ok unfiltered.processor := rfl

def gist : Record → Value × Option Value × Option Value
  | .structured _ subject fields =>
    (subject, fields.lookup "invocation_id", fields.lookup "invocations")
  | _ => (.null, none, none)

def wishes : List Request := [.invoke (.text "hi"), .invoke (.engine .wasmtime)]

theorem backend_asks (v : Value) : ¬ backend.Asks v := by
  rintro ⟨closed, module, context, volume, stream, h⟩
  simp [backend] at h

end Sample

/-- Two payloads that can be read, of which one is a member of a closed choice, and then one that
cannot. -/
theorem invocations_counted_sample :
    (∃ events,
      (Sample.unfiltered.serveAll Sample.wishes).close.2.site.journal =
        Sample.unfiltered.site.journal ++ Sample.unfiltered.processor.logger.heard events ∧
      events.filterMap Event.startId? = [Value.ofNat 1, Value.ofNat 2] ∧
      ∃ e ∈ events, e.name = Event.closingName ∧ e.field "invocations" = Value.ofNat 2) ∧
    ((Sample.unfiltered.serveAll Sample.wishes).invoke .null).2 =
      (Sample.unfiltered.serveAll Sample.wishes).admitting := by
  obtain ⟨⟨events, started, refused, hj, hstarts, -, -, -, hall, hcounts, hclosed⟩, hrefused⟩ :=
    invocations_counted Sample.unfiltered_made Sample.wishes
      (show Sample.unfiltered = _ from rfl) rfl
  have hsent : ∀ v, Request.invoke v ∈ Sample.wishes ∨
      Sample.unfiltered.processor.backend.Asks v → ∃ content, Payload.Denotes v content := by
    rintro v (hv | hv)
    · simp only [Sample.wishes, List.mem_cons, Request.invoke.injEq, List.not_mem_nil,
        or_false] at hv
      rcases hv with rfl | rfl
      · exact ⟨_, .text "hi"⟩
      · exact ⟨_, .engine .wasmtime⟩
    · exact absurd hv (Sample.backend_asks v)
  obtain ⟨e, he, hname⟩ := hclosed rfl rfl
  refine ⟨⟨events, hj, ?_, e, he, hname, hcounts e he hname⟩, ?_⟩
  · rw [hstarts, hall hsent]
    rfl
  · obtain ⟨r, -, hr⟩ := hrefused rfl .null (by rintro content (_ | _))
    rw [hr]

/-- The first payload is refused and the second one is not: the only invocation that has started is
the second one, and two are counted. -/
theorem number_missing :
    (Sample.unfiltered.serveAll [.invoke .null, .invoke (.text "hi")]).close.2.site.journal.map
        Sample.gist =
      [(.text "module.compiled", none, none), (.text "invocation.start", some (.int 2), none),
        (.text "invocation.failed", some (.int 2), none),
        (.text "processor.closed", none, some (.int 2))] ∧
    (Sample.unfiltered.invoke .null).1 = .error (.refusal (.noBytes "NoneType")) ∧
    (Sample.unfiltered.invoke .null).2.processor.accepted = 1 :=
  ⟨rfl, rfl, rfl⟩

end GuestRunner
