import GuestRunner.Proofs.Call.Course

/-!
# What others take away

While an invocation waits between two steps, others may take away what the streams of its sink hold.
It does not notice, and goes on. What was lost that way is counted, and it may go on under other
terms.
-/

set_option autoImplicit false

namespace GuestRunner.Call

open Files Files.Volume Run

variable {t : Terms} {trail : Trail} {lost : Stream → Bytes} {c : Call}

def awaits : Call → Stream → Option Sink
  | .running _ sink _ _, _ | .draining _ sink _, _ => some sink
  | .drainingError _ sink _ _, .stderr => some sink
  | _, _ => none

/-- What is lost of each stream once others have worked on the files: what it held, if it no longer
does and is still to be drained. -/
def lostOutput (c : Call) (v v' : Volume) (lost : Stream → Bytes) (stream : Stream) : Bytes :=
  match c.awaits stream with
  | some sink =>
    if sink.held stream v' = sink.held stream v then lost stream
    else lost stream ++ sink.held stream v
  | none => lost stream

theorem lostOutput_same {v v' : Volume} (h : ∀ stream sink, c.awaits stream = some sink →
    sink.held stream v' = sink.held stream v) : c.lostOutput v v' lost = lost := by
  funext stream
  unfold lostOutput
  split
  · rename_i sink hs
    rw [if_pos (h stream sink hs)]
  · rfl

theorem Course.awaited {v : Volume} {stream : Stream} {sink : Sink}
    (h : Course t trail lost c v) (hs : c.awaits stream = some sink) : t.holds sink v := by
  cases h with
  | running id sink done acts ending v hi hr hm ha hk =>
    cases hs
    exact hm
  | draining id sink acts outcome v hi hr hm hk =>
    cases hs
    exact hm
  | drainingError id sink acts outcome output v hi hr hm ho hk =>
    cases stream with
    | stdout => cases hs
    | stderr =>
      cases hs
      exact hm
  | _ => cases hs

structure Terms.Yields (t t' : Terms) : Prop where
  processor : t'.processor = t.processor
  elapsed : t'.elapsed = t.elapsed
  payload : t'.payload = t.payload
  closable : t.closable → t'.closable
  excused : ∀ e, t.excused e → t'.excused e
  fileFaults : ∀ e, t.fileFaults e → t'.fileFaults e

theorem Terms.Yields.refl (t : Terms) : t.Yields t :=
  ⟨rfl, rfl, rfl, id, fun _ h => h, fun _ h => h⟩

theorem Terms.FileFault.yield {t' : Terms} (hy : t.Yields t') {problem : Problem}
    (h : t.FileFault problem) : t'.FileFault problem := by
  cases h with
  | uncleared name e h => exact .uncleared name e (hy.fileFaults e h)
  | unread name e h => exact .unread name e (hy.fileFaults e h)
  | unremoved e h => exact .unremoved e (hy.fileFaults e h)

theorem AfterGuest.yield {t' : Terms} (hy : t.Yields t') {run : Run}
    {pending : Except Problem Drained} (h : AfterGuest t run lost pending) :
    AfterGuest t' run lost pending := by
  cases h with
  | broken problem h => exact .broken problem h
  | stumbled e h => exact .stumbled e (hy.excused e h)
  | slipped problem h => exact .slipped problem (h.yield hy)
  | drained outcome output stderr h ho he => exact .drained outcome output stderr h ho he

theorem Answer.yield {t' : Terms} (hy : t.Yields t') {result : Except Problem Result}
    (h : Answer t trail lost result) : Answer t' trail lost result := by
  cases h with
  | refused h hi => exact .refused (hy.closable h) hi
  | unreadable id refusal hi h => exact .unreadable id refusal hi (hy.payload ▸ h)
  | barred id problem hi h => exact .barred id problem hi (h.yield hy)
  | judged id run pending hi hr h =>
    have hj := Answer.judged (t := t') id run pending hi hr (h.yield hy)
    rwa [hy.processor, hy.elapsed] at hj

theorem accounts_lostOutput {v v' : Volume} {sink : Sink} {stream : Stream} {acts done : List Act}
    {before : Bytes} (h : Accounts acts before stream done (sink.held stream v))
    (hk : sink.held stream v' = sink.held stream v ∨ sink.held stream v' = []) :
    Accounts acts (if sink.held stream v' = sink.held stream v then before
      else before ++ sink.held stream v) stream done (sink.held stream v') := by
  split
  · rename_i he
    rwa [he]
  · rename_i he
    rw [hk.resolve_left he]
    exact h.lose

/-- Others may take away what the streams hold. The course goes on, and what they took is lost. -/
theorem Course.lostOutput {t' : Terms} {v v' : Volume} (hy : t.Yields t')
    (h : Course t trail lost c v)
    (hk : ∀ sink, t.holds sink v → t'.holds sink v' ∧ ∀ stream,
      sink.held stream v' = sink.held stream v ∨ sink.held stream v' = []) :
    Course t' trail (c.lostOutput v v' lost) c v' := by
  have hempty : ∀ sink stream, t.holds sink v → sink.held stream v = [] →
      sink.held stream v' = [] := by
    intro sink stream hm hh
    rcases (hk sink hm).2 stream with he | he
    · rw [he, hh]
    · exact he
  cases h with
  | admission v hi hl => exact hy.payload ▸ .admission v' hi hl
  | fetching id v hi hl => exact hy.payload ▸ .fetching id v' hi hl
  | intake id module v hi hl => exact hy.payload ▸ .intake id module v' hi hl
  | opening job v hi hl => exact .opening job v' hi hl
  | clearingOut job sink v hi hl hm hf =>
    exact .clearingOut job sink v' hi hl (hk sink hm).1 hf
  | clearingErr job sink v hi hl hm hf hh =>
    exact .clearingErr job sink v' hi hl (hk sink hm).1 hf (hempty sink .stdout hm hh)
  | starting job sink v hi hl hm hh =>
    exact .starting job sink v' hi hl (hk sink hm).1 fun stream => hempty sink stream hm (hh stream)
  | running id sink done acts ending v hi hr hm ha hh =>
    exact .running id sink done acts ending v' hi hr (hk sink hm).1 ha fun stream =>
      accounts_lostOutput (hh stream) ((hk sink hm).2 stream)
  | draining id sink acts outcome v hi hr hm hh =>
    exact .draining id sink acts outcome v' hi hr (hk sink hm).1 fun stream =>
      accounts_lostOutput (hh stream) ((hk sink hm).2 stream)
  | drainingError id sink acts outcome output v hi hr hm ho hh =>
    exact .drainingError id sink acts outcome output v' hi hr (hk sink hm).1 ho
      (accounts_lostOutput hh ((hk sink hm).2 .stderr))
  | releasing id sink stream run pending v hi hr hm hp =>
    exact .releasing id sink stream run pending v' hi hr (hk sink hm).1 (hp.yield hy)
  | barred id problem v hi h => exact .barred id problem v' hi (h.yield hy)
  | settling id run pending v hi hr hp => exact .settling id run pending v' hi hr (hp.yield hy)
  | finished result v h => exact .finished result v' (h.yield hy)

end GuestRunner.Call
