import GuestRunner.Proofs.Capture.Resolved
import GuestRunner.Proofs.Guest.Streamed
import GuestRunner.Processor.Call

/-!
# The sink invariant

Invocations rely on a condition on their sinks under which the operations of a sink work and keep
the condition. That the files of the sink are resolved is one. Acts that only add to the ends of the
streams then account for what the streams hold.
-/

set_option autoImplicit false

namespace GuestRunner.Sink

open Files Files.Volume Run

/-- A condition on sinks that their operations keep. They touch the files at some places only, and
the only failures are that of a guest that writes, with an error that is excused. Where there are no
files, the calls to them need not work. -/
structure Invariant (files : Prop) (here : Place → Prop) (excused : OsError → Prop)
    (holds : Sink → Volume → Prop) : Prop where
  usesFiles : ∀ {sink : Sink} {v : Volume}, holds sink v → sink.filePaths ≠ none → files
  after : ∀ {sink : Sink} {v : Volume} (call : Files.Call), holds sink v → holds sink (v.after call)
  clear : ∀ {sink : Sink} {v : Volume} (stream : Stream), holds sink v → sink.Fresh →
    sink.CallFaultless v .truncate → ∃ v', sink.clear stream v = (.ok (), v') ∧
      TouchesOnly here [.truncate] v v' ∧ holds sink v' ∧ sink.held stream v' = [] ∧
      ∀ other, other ≠ stream → sink.held other v' = sink.held other v
  guestWrite : ∀ {sink : Sink} {act : Act} {done acts : List Act}
    {lost : Stream → Bytes} {s : Scene}
    (again : Call.Again), holds sink s.site.volume → AddsTo done act → act ∈ acts →
    (∀ stream, Accounts acts (lost stream) stream done (sink.held stream s.site.volume)) →
    (∃ sink' v', Call.perform again sink act s = (.ok sink', s.withVolume v') ∧
      TouchesOnly here [] s.site.volume v' ∧ holds sink' v' ∧
      ∀ stream, Accounts acts (lost stream) stream (done ++ [act]) (sink'.held stream v')) ∨
    ∃ e, excused e ∧ Call.perform again sink act s = (.error (.os e), s)
  drain : ∀ {sink : Sink} {v : Volume} (stream : Stream), holds sink v →
    sink.CallFaultless v .open →
    ∃ v', sink.drain stream v = (.ok (sink.held stream v), v') ∧ TouchesOnly here [.open] v v' ∧
      holds sink v' ∧ ∀ other, sink.held other v' = sink.held other v
  discard : ∀ {sink : Sink} {v : Volume} (stream : Stream), holds sink v →
    sink.CallFaultless v .unlink →
    ∃ sink' v', sink.discard stream v = (.ok (), sink', v') ∧ TouchesOnly here [.unlink] v v' ∧
      holds sink' v'

theorem Invariant.excuse {files : Prop} {here : Place → Prop} {excused excused' : OsError → Prop}
    {holds : Sink → Volume → Prop} (h : Invariant files here excused holds)
    (he : ∀ e, excused e → excused' e) : Invariant files here excused' holds where
  usesFiles := h.usesFiles
  after := h.after
  clear := h.clear
  guestWrite again hm ha hmem hk := by
    rcases h.guestWrite again hm ha hmem hk with hp | ⟨e, hx, hp⟩
    · exact Or.inl hp
    · exact Or.inr ⟨e, he e hx, hp⟩
  drain := h.drain
  discard := h.discard

variable {sink : Sink} {place : Stream → Place} {v v' : Volume}

theorem writeAt_change (hm : sink.Resolved place v) (stream : Stream) (position : Nat)
    (chunk : Bytes) :
    ∃ sink' v' content, sink.writeAt stream position chunk v = (.ok (), sink', v') ∧
      Change place stream [] content sink v sink' v' := by
  cases sink with
  | buffered out err =>
    obtain ⟨sink', v', h, hc⟩ := write_resolved hm stream chunk
    exact ⟨sink', v', _, h, hc⟩
  | files out err =>
    obtain ⟨hd, -, ht⟩ := (hm.2 stream).leadsToFile.refill (·.overlaid position chunk)
    exact ⟨_, _, _, Prod.ext hd rfl, hm.change ht rfl⟩

theorem Change.accounts {stream : Stream} {calls : List Files.Call} {content chunk : Bytes}
    {sink' : Sink} (hc : Change place stream calls content sink v sink' v') {act : Act}
    {done acts : List Act} {lost : Stream → Bytes}
    (hk : ∀ st, Accounts acts (lost st) st done (sink.held st v))
    (ha : ∀ st, act.chunk st = if stream = st then chunk else [])
    (he : lost stream = [] ∨ WritesOnly acts → content = sink.held stream v ++ chunk)
    (st : Stream) :
    Accounts acts (lost st) st (done ++ [act]) (sink'.held st v') := by
  intro hl
  have h := (hk st).snoc act hl
  by_cases hs : st = stream
  · subst hs
    rwa [ha, if_pos rfl, ← he hl, ← hc.held] at h
  · rwa [ha, if_neg (Ne.symm hs), List.append_nil, ← hc.others st hs] at h

theorem guestWrite_resolved (again : Call.Again) {act : Act} {done acts : List Act}
    {lost : Stream → Bytes} {s : Scene} (hm : sink.Resolved place s.site.volume)
    (ha : AddsTo done act) (hmem : act ∈ acts)
    (hk : ∀ stream, Accounts acts (lost stream) stream done (sink.held stream s.site.volume)) :
    ∃ sink' v' stream content, Call.perform again sink act s = (.ok sink', s.withVolume v') ∧
      Change place stream [] content sink s.site.volume sink' v' ∧
      ∀ stream, Accounts acts (lost stream) stream (done ++ [act]) (sink'.held stream v') := by
  cases act with
  | write stream chunk =>
    obtain ⟨sink', v', hw, hc⟩ := write_resolved hm stream chunk
    refine ⟨sink', v', stream, _, ?_, hc, hc.accounts hk (fun _ => rfl) fun _ => rfl⟩
    simp only [Call.perform, Call.write, Call.afterWriting, hw]
    rfl
  | writeAt stream position chunk =>
    have hl : ¬ WritesOnly acts := fun h => h _ hmem
    -- Only where nothing was lost is the position of the act the end of the stream.
    by_cases h0 : lost stream = []
    · have hp : position = (sink.held stream s.site.volume).length := by
        have h := hk stream (Or.inl h0)
        rw [h0, List.nil_append] at h
        rw [h]
        exact ha
      subst hp
      obtain ⟨sink', v', hw, hc⟩ := writeAt_resolved hm stream chunk
      refine ⟨sink', v', stream, _, ?_, hc, hc.accounts hk (fun _ => rfl) fun _ => rfl⟩
      simp only [Call.perform, Call.afterWriting, hw]
      rfl
    · obtain ⟨sink', v', content, hw, hc⟩ := writeAt_change hm stream position chunk
      have hn : ¬ (lost stream = [] ∨ WritesOnly acts) := fun h => h.elim h0 hl
      refine ⟨sink', v', stream, content, ?_, hc,
        hc.accounts hk (fun _ => rfl) fun h => absurd h hn⟩
      simp only [Call.perform, Call.afterWriting, hw]
      rfl
  | _ => exact ha.elim

def AtPlaces (place : Stream → Place) (p : Place) : Prop := ∃ stream, p = place stream

theorem Change.atPlaces {stream : Stream} {calls : List Files.Call} {content : Bytes}
    {sink' : Sink} (hc : Change place stream calls content sink v sink' v') :
    TouchesOnly (AtPlaces place) calls v v' :=
  hc.touches.mono fun _ h => ⟨stream, h⟩

/-- Resolved files are a sink invariant, also where something is known of the files. -/
theorem resolved_invariant (place : Stream → Place) {files : Prop}
    {known : Option (Path × Path) → Prop}
    (hf : ∀ filePaths, known filePaths → filePaths ≠ none → files) :
    Invariant files (AtPlaces place) (fun _ => False) fun sink v =>
      sink.Resolved place v ∧ known sink.filePaths where
  usesFiles hm := hf _ hm.2
  after call hm := ⟨hm.1.touches (after_touches (fun _ => False) _ call), hm.2⟩
  clear stream hm hf hs := by
    obtain ⟨v', h, hc⟩ := clear_resolved hm.1 hf stream hs
    exact ⟨v', h, hc.atPlaces, ⟨hc.resolved, hm.2⟩, hc.held, hc.others⟩
  guestWrite again hm ha hmem hk := by
    obtain ⟨sink', v', stream, content, h, hc, hk'⟩ := guestWrite_resolved again hm.1 ha hmem hk
    exact Or.inl ⟨sink', v', h, hc.atPlaces, ⟨hc.resolved, hc.filePaths ▸ hm.2⟩, hk'⟩
  drain stream hm hs := by
    obtain ⟨v', h, ht⟩ := drain_resolved hm.1 stream hs
    exact ⟨v', h, ht.mono fun _ hf => hf.elim, ⟨hm.1.touches ht, hm.2⟩,
      fun other => hm.1.held_touches ht id⟩
  discard stream hm hs := by
    obtain ⟨sink', v', h, hc⟩ := discard_resolved hm.1 stream hs
    exact ⟨sink', v', h, hc.atPlaces, ⟨hc.resolved, hc.filePaths ▸ hm.2⟩⟩

end GuestRunner.Sink

namespace GuestRunner.Call

/-- Whatever a guest does, its sink keeps its files. -/
theorem perform_filePaths {again : Again} {sink sink' : Sink} {act : Act} {s s' : Scene}
    (h : perform again sink act s = (.ok sink', s')) :
    sink'.filePaths = sink.filePaths := by
  have hwriting : ∀ {t : Scene} {r : Except OsError Unit × Sink × Files.Volume},
      afterWriting t r = (.ok sink', s') → r.2.1 = sink' := by
    intro t r hr
    obtain ⟨done, sink'', v⟩ := r
    simp only [afterWriting, Prod.mk.injEq] at hr
    cases done with
    | error e => cases hr.1
    | ok _ => exact Except.ok.inj hr.1
  have hwrite : ∀ stream chunk v, (sink.write stream chunk v).2.1.filePaths = sink.filePaths := by
    intro stream chunk v
    cases sink <;> cases stream <;> rfl
  cases act with
  | write stream chunk =>
    rw [← hwriting h]
    exact hwrite stream chunk _
  | writeAt stream position chunk =>
    rw [← hwriting h]
    cases sink with
    | buffered out err => exact hwrite stream chunk _
    | files out err => rfl
  | process stream payload =>
    simp only [perform] at h
    split at h
    · rw [← hwriting h]
      exact hwrite stream _ _
    · cases h
  | closeProcessor =>
    simp only [perform, Prod.mk.injEq] at h
    cases hd : s.close.1 <;> rw [hd] at h
    · cases h.1
    · exact congrArg Sink.filePaths (Except.ok.inj h.1).symm
  | wait =>
    cases h
    rfl
  | removeStreams =>
    simp only [perform, Prod.mk.injEq] at h
    cases hd : (removeStreams sink s.site.volume).1 <;> rw [hd] at h
    · cases h.1
    · exact congrArg Sink.filePaths (Except.ok.inj h.1).symm
  | blockStream stream =>
    simp only [perform, Prod.mk.injEq] at h
    cases hd : (blockStream sink stream s.site.volume).1 <;> rw [hd] at h
    · cases h.1
    · exact congrArg Sink.filePaths (Except.ok.inj h.1).symm

end GuestRunner.Call
