import GuestRunner.Proofs.Call.Frame
import GuestRunner.Proofs.Processor.Protocol
import GuestRunner.Proofs.Scratch.Creation

/-!
# The frame of a processor

From its construction to its closing a processor leaves the files alone. While it is open it keeps a
directory of its own, empty between two invocations, or nothing; once it is closed, the tree is the
one in which it was made.
-/

set_option autoImplicit false

namespace GuestRunner

open Files Files.Volume

structure Retained (scratch? : Option Scratch) (b after : Volume) : Prop where
  quiet : b.schedule = .quiet ∧ after.schedule = .quiet
  untaken : ∀ scratch, scratch? = some scratch →
    scratch.Untaken 0 b.tree ∧ scratch.Untaken 0 after.tree
  returns : ∀ scratch, scratch? = some scratch → scratch.Returns b after
  nothing : scratch? = none → after = b

variable {b after : Volume}

def Cleanup.Leaves (scratch : Scratch) (b after : Volume) : Cleanup → Volume → Prop
  | .look, v | .removeDirectory, v => scratch.owned = true ∧ v = b
  | .list, v => scratch.owned = false ∧ v = b
  | .removeFiles files _, v => files = [] ∧ v = after
  | .finished _, v => v = after

namespace Cleanup

variable {scratch : Scratch} {c : Cleanup} {v : Volume}

theorem start_leaves (scratch : Scratch) (b after : Volume) :
    (start scratch).Leaves scratch b after b := by
  cases ho : scratch.owned with
  | true =>
    rw [start, ho]
    exact ⟨ho, rfl⟩
  | false =>
    rw [start, ho]
    exact ⟨ho, rfl⟩

theorem Leaves.step (h : c.Leaves scratch b after v) (hr : scratch.Returns b after) :
    (c.step scratch v).1.Leaves scratch b after (c.step scratch v).2 := by
  cases c with
  | look =>
    obtain ⟨ho, rfl⟩ := h
    simp only [Cleanup.step, (hr.owned ho).1]
    exact ⟨ho, rfl⟩
  | removeDirectory =>
    obtain ⟨ho, rfl⟩ := h
    simp only [Cleanup.step, (hr.owned ho).2]
    rfl
  | list =>
    obtain ⟨ho, rfl⟩ := h
    simp only [Cleanup.step, (hr.given ho).1]
    exact ⟨rfl, (hr.given ho).2.symm⟩
  | removeFiles files removed =>
    obtain ⟨rfl, hv⟩ := h
    exact hv
  | finished result => exact h

theorem Leaves.either (h : c.Leaves scratch b after v) : v = b ∨ v = after := by
  cases c with
  | look => exact Or.inl h.2
  | removeDirectory => exact Or.inl h.2
  | list => exact Or.inl h.2
  | removeFiles files removed => exact Or.inr h.2
  | finished result => exact Or.inr h

end Cleanup

def Closing.Leaves (b after : Volume) : Closing → Scene → Prop
  | .request, s => s.site.volume = if s.processor.closed then after else b
  | .detaching, s => s.site.volume = b
  | .cleaning scratch c, s =>
    s.processor.capture.scratch? = some scratch ∧ c.Leaves scratch b after s.site.volume
  | _, s => s.site.volume = after

namespace Closing

variable {k : Closing} {s : Scene}

theorem Leaves.step (h : k.Leaves b after s) (he : Retained s.processor.capture.scratch? b after) :
    (k.step s).1.Leaves b after (k.step s).2 := by
  cases k with
  | request =>
    have hv : s.site.volume = if s.processor.closed then after else b := h
    by_cases hc : s.processor.closed = true
    · rw [if_pos hc] at hv
      rw [request_shut hc]
      exact hv
    · rw [if_neg hc] at hv
      rw [Closing.step, if_neg hc]
      exact hv
  | detaching =>
    cases hc : s.processor.capture with
    | buffered =>
      rw [hc] at he
      simp only [Closing.step, Scene.did, Processor.did, hc]
      exact Eq.trans h (he.nothing rfl).symm
    | files scratch n =>
      simp only [Closing.step, Scene.did, Processor.did, hc]
      refine ⟨rfl, ?_⟩
      rw [show s.site.volume = b from h]
      exact Cleanup.start_leaves scratch b after
  | cleaning scratch c =>
    obtain ⟨hs, hl⟩ := h
    have hstep := hl.step (he.returns scratch hs)
    cases c with
    | finished removed => exact hl
    | _ => exact ⟨hs, hstep⟩
  | dropping removed => cases removed <;> exact h
  | reporting removed => exact (s.emit_volume _).trans h
  | _ => exact h

theorem Leaves.either (h : k.Leaves b after s) : s.site.volume = b ∨ s.site.volume = after := by
  cases k with
  | request =>
    have hv : s.site.volume = if s.processor.closed then after else b := h
    split at hv
    · exact Or.inr hv
    · exact Or.inl hv
  | detaching => exact Or.inl h
  | cleaning scratch c => exact h.2.either
  | _ => exact Or.inr h

end Closing

namespace Scene

structure Idle (b after : Volume) (s : Scene) : Prop where
  calm : s.alarm = .off
  confined : s.processor.backend.Confined
  retained : Retained s.processor.capture.scratch? b after
  buffers : s.processor.settings.capture = .buffered → s.processor.capture.scratch? = none
  volume : s.site.volume = if s.processor.closed then after else b

variable {s s' : Scene}

namespace Idle

theorem either (h : s.Idle b after) : s.site.volume = b ∨ s.site.volume = after := by
  have hv := h.volume
  split at hv
  · exact Or.inr hv
  · exact Or.inl hv

theorem unobstructed (h : s.Idle b after) : s.Unobstructed s.site.volume where
  calm := h.calm
  quiet := by
    rcases h.either with hv | hv <;> rw [hv]
    · exact h.retained.quiet.1
    · exact h.retained.quiet.2
  confined := h.confined
  untaken scratch n hc := by
    have hu := h.retained.untaken scratch (by rw [hc]; rfl)
    rcases h.either with hv | hv <;> rw [hv]
    · exact hu.1.mono (Nat.zero_le n)
    · exact hu.2.mono (Nat.zero_le n)

theorem continued (h : s.Idle b after) (hk : Continued s s')
    (hv : s'.site.volume = if s'.processor.closed then after else b) : s'.Idle b after where
  calm := hk.calm h.calm
  confined := hk.backend ▸ h.confined
  retained := hk.scratch ▸ h.retained
  buffers := by
    rw [hk.settings, hk.scratch]
    exact h.buffers
  volume := hv

theorem invoke (h : s.Idle b after) (payload : Value) : (s.invoke payload).2.Idle b after := by
  obtain ⟨hg, hv⟩ := invoke_frames h.unobstructed payload
  exact h.continued hg.continued (by rw [hv, hg.closed, h.volume])

theorem leaves (h : s.Idle b after) (n : Nat) :
    (Closing.steps n (.request, s)).1.Leaves b after (Closing.steps n (.request, s)).2 := by
  have hk := Closing.steps_keep (k := .request) (s := s)
    (Q := fun k s' => Retained s'.processor.capture.scratch? b after ∧ k.Leaves b after s')
    (fun k s' ⟨he, hl⟩ => ⟨(k.step_continued s').scratch ▸ he, hl.step he⟩) n ⟨h.retained, h.volume⟩
  exact hk.2

theorem close (h : s.Idle b after) : s.close.2.Idle b after := by
  apply h.continued s.close_continued
  by_cases hc : s.processor.closed = true
  · rw [close_shut hc]
    exact h.volume
  · have hk := Closing.run_keeps (k := .request) (s := s)
      (Q := fun k s' => Retained s'.processor.capture.scratch? b after ∧ k.Leaves b after s' ∧
        (k = .request ∨ s'.processor.closed = true)) (fun k s' ⟨he, hl, hq⟩ => by
        refine ⟨(k.step_continued s').scratch ▸ he, hl.step he, Or.inr ?_⟩
        rcases hq with rfl | hq
        · cases hs : s'.processor.closed <;> simp [Closing.step, hs]
        · exact k.step_closed hq) ⟨h.retained, h.volume, Or.inl rfl⟩
    -- At its end a closing has set the flag, and so the volume must be the one that it leaves.
    obtain ⟨result, s', hr, -, hl, hq⟩ := hk
    have hclosed : s'.processor.closed = true := by
      rcases hq with hq | hq
      · cases hq
      · exact hq
    unfold Scene.close
    rw [hr]
    exact Eq.trans hl (if_pos hclosed).symm

end Idle

end Scene

def Request.Own : Request → Prop
  | .elsewhere .. => False
  | _ => True

theorem Scene.Idle.serveAll {s : Scene} {requests : List Request} (h : s.Idle b after)
    (ho : ∀ r ∈ requests, r.Own) : (s.serveAll requests).Idle b after := by
  induction requests generalizing s with
  | nil => exact h
  | cons request rest ih =>
    have hrest := fun r hr => ho r (List.mem_cons_of_mem request hr)
    have hown := ho request List.mem_cons_self
    cases request with
    | invoke payload => exact ih (h.invoke payload) hrest
    | close => exact ih h.close hrest
    | elsewhere volume elapsed => exact hown.elim

namespace Files.Tree

def MoreFiles (t t' : Tree) : Prop := ∀ q, t'.node? q = t.node? q ∨ t.node? q = none ∧ t'.Free q

theorem FilesAdded.moreFiles {t t' : Tree} {here : List Place} (h : FilesAdded t here t') :
    MoreFiles t t' := by
  intro q
  by_cases hq : q ∈ here
  · have hn : t.node? q = none := by
      rw [← h.rest, node_without t' here (h.ne_nil hq), if_pos hq]
    exact Or.inr ⟨hn, h.free q hq⟩
  · exact Or.inl (h.sameBut.node hq)

end Files.Tree

/-- What an open processor has in the files besides a tree: nothing, or one empty directory at a
place where nothing was. The settings decide. -/
inductive Keeps (t : Tree) (p : Processor) : Tree → Prop
  | buffers (hc : p.settings.capture = .buffered) : Keeps t p t
  | guest (hc : p.settings.capture = .file)
    (hd : p.settings.scratchDirectory.filter (· ≠ "") ≠ none) : Keeps t p t
  | owner (hc : p.settings.capture = .file)
    (hd : p.settings.scratchDirectory.filter (· ≠ "") = none) (kept : Tree) (path : Path)
    (q : Place)
    (hp : p.scratchDirectory = some path) (hl : kept.locate false [] path.parts = .ok q)
    (hq : t.node? q = none) (hk : kept.entries = t.entries ++ [(q, .directory)])
    (hn : kept.names q = []) : Keeps t p kept

/-- Between two invocations the files are as they are kept, or as they were when the processor is
closed. At every step of an invocation all of that is there, with files more at most, and with none
where output is captured in buffers. At every step of a closing there is the one or the other. -/
structure Scene.Framed (t kept : Tree) (s : Scene) : Prop where
  idle : s.site.volume.tree = if s.processor.closed then t else kept
  invoking : ∀ payload n, s.site.volume.tree.MoreFiles
    (Call.steps Scene.again n (.admission payload, s)).2.site.volume.tree
  buffers : s.processor.settings.capture = .buffered → ∀ payload n,
    (Call.steps Scene.again n (.admission payload, s)).2.site.volume.tree = t
  closing : ∀ n, (Closing.steps n (.request, s)).2.site.volume.tree = s.site.volume.tree ∨
    (Closing.steps n (.request, s)).2.site.volume.tree = t

theorem Scene.Idle.framed {s : Scene} (h : s.Idle b after) : s.Framed after.tree b.tree where
  idle := by
    rw [h.volume]
    split <;> rfl
  invoking payload n := by
    have hf := Call.steps_framed again_frames h.unobstructed payload n
    obtain ⟨here, hl, -⟩ := hf.holds.onlyAdded hf.unobstructed
    exact hl.filesAdded.moreFiles
  buffers hc payload n := by
    have hf := Call.steps_framed again_frames h.unobstructed payload n
    obtain ⟨here, hl, hnone⟩ := hf.holds.onlyAdded hf.unobstructed
    have hcap : (Call.steps Scene.again n (.admission payload, s)).2.processor.capture =
      .buffered := by
      have hs := hf.workedOn.continued.scratch.trans (h.buffers hc)
      revert hs
      cases (Call.steps Scene.again n (.admission payload, s)).2.processor.capture with
      | buffered => exact fun _ => rfl
      | files scratch n => nofun
    have hafter : after = b := h.retained.nothing (h.buffers hc)
    rw [hnone hcap] at hl
    rw [(onlyAdded_nil h.unobstructed.quiet).mp hl, h.volume, hafter, ite_self]
  closing n := by
    by_cases hc : s.processor.closed = true
    · exact Or.inl (by rw [Closing.steps_shut hc])
    · have hv : s.site.volume = b := by rw [h.volume, if_neg hc]
      rw [hv]
      exact (h.leaves n).either.imp (congrArg Volume.tree) (congrArg Volume.tree)

namespace Capture

variable {kind : CaptureKind} {directory : Option String} {v v' : Volume} {c : Capture}

theorem create_failed {problem : Problem} (hq : v.schedule = .quiet)
    (h : create kind directory v = (.error problem, v')) : v'.tree = v.tree := by
  cases kind with
  | buffered => cases h
  | file =>
    simp only [create] at h
    split at h
    · cases h
    · rename_i hs
      cases h
      exact (Scratch.create_made hq hs).2 _ rfl

/-- What a new capture keeps, and what it will leave. -/
theorem create_retained (hq : v.schedule = .quiet) (hc : v.tree.Connected)
    (ht : v.tree.Lacks v.drawToken.1) (h : create kind directory v = (.ok c, v')) :
    Retained c.scratch? v' { v' with tree := v.tree } := by
  cases kind with
  | buffered =>
    cases h
    exact ⟨⟨hq, hq⟩, nofun, nofun, fun _ => rfl⟩
  | file =>
    simp only [create] at h
    split at h
    · rename_i scratch w hs
      cases h
      obtain ⟨-, hm⟩ := (Scratch.create_made hq hs).1 scratch rfl
      obtain ⟨hu, hr⟩ := hm.keeps hc (hm.token ▸ ht) (Scratch.create_wellFormed hs).token
      refine ⟨⟨hm.quiet, hm.quiet⟩, ?_, ?_, by simp [scratch?]⟩
      · rintro _ ⟨⟩
        exact ⟨hu _ (Or.inr rfl), hu _ (Or.inl rfl)⟩
      · rintro _ ⟨⟩
        exact hr
    · cases h

end Capture

namespace Processor

variable {settings : Settings} {logger : Logger} {site : Site} {p : Processor}

theorem keeps_of_create {v : Volume} (hq : site.volume.schedule = .quiet)
    (hc : site.volume.tree.Connected)
    (h : Capture.create p.settings.capture p.settings.scratchDirectory site.volume =
      (.ok p.capture, v)) : Keeps site.volume.tree p v.tree := by
  cases hk : p.settings.capture with
  | buffered =>
    rw [hk] at h
    simp only [Capture.create, Prod.mk.injEq] at h
    rw [← h.2]
    exact .buffers hk
  | file =>
    rw [hk] at h
    simp only [Capture.create] at h
    split at h
    · rename_i scratch w hs
      simp only [Prod.mk.injEq, Except.ok.injEq] at h
      obtain ⟨hcap, rfl⟩ := h
      obtain ⟨ho, hm⟩ := (Scratch.create_made hq hs).1 scratch rfl
      cases hd : p.settings.scratchDirectory.filter (· ≠ "") with
      | some text =>
        rw [hd] at ho
        rw [hm.given ho]
        exact .guest hk (hd ▸ Option.some_ne_none text)
      | none =>
        rw [hd] at ho
        obtain ⟨q, hl, -, hn, hv⟩ := (hm.owned ho).located
        apply Keeps.owner hk hd w.tree scratch.path q
        · rw [scratchDirectory, ← hcap]
          rfl
        · exact hl false
        · exact hn
        · rw [hv, Tree.entries_put hn]
        · rw [hv, hc.names_put hn]
    · cases h

theorem attachCapture_failed {backend : Backend} {m : CompiledModule} {deeds : List Deed}
    {problem : Problem} (hu : logger.Usable) (hq : site.volume.schedule = .quiet)
    (h : (attachCapture settings logger backend m deeds site).outcome = .error problem) :
    (attachCapture settings logger backend m deeds site).site.volume.tree = site.volume.tree := by
  unfold attachCapture at h ⊢
  cases hc : Capture.create settings.capture settings.scratchDirectory site.volume with
  | mk created v =>
    rw [hc] at h
    cases created with
    | error problem => exact Capture.create_failed hq hc
    | ok capture =>
      -- A logger that has taken the report on the module takes that on the directory too.
      cases capture with
      | buffered => cases h
      | files scratch n =>
        have hr := Logger.record_plain hu (scratchEvent_plain scratch)
        simp only [reportScratch, fresh, Site.record, hr] at h
        cases h

/-- A construction that fails leaves nothing behind. -/
theorem construct_failed {wasm : Value} {directory : Option String} {backend : Settings → Backend}
    {problem : Problem} (hq : site.volume.schedule = .quiet)
    (h : (construct wasm directory settings logger backend site).outcome = .error problem) :
    (construct wasm directory settings logger backend site).site.volume.tree =
      site.volume.tree := by
  unfold construct at h ⊢
  dsimp only at h ⊢
  cases hm : moduleBytes wasm with
  | error f => rfl
  | ok content =>
    simp only [hm] at h ⊢
    unfold compileAndAttach at h ⊢
    dsimp only at h ⊢
    cases hc : (backend (withDirectory settings directory)).compile false content with
    | error problem => rfl
    | ok m =>
      simp only [hc] at h ⊢
      have hv := site.record_volume logger
        (compiledEvent (backend (withDirectory settings directory)) m site.elapsed)
      cases hr : site.record logger
        (compiledEvent (backend (withDirectory settings directory)) m site.elapsed) with
      | mk done site' =>
        rw [hr] at hv
        cases done with
        | error problem => exact congrArg Volume.tree hv
        | ok _ =>
          simp only [hr] at h ⊢
          have hu : logger.Usable := by
            unfold Site.record at hr
            split at hr <;> rename_i hrec
            · exact Logger.usable_of_record rfl hrec
            · cases hr
          exact (attachCapture_failed hu (hv ▸ hq) h).trans (congrArg Volume.tree hv)

end Processor

/-- A processor is made in a connected tree where no name has its token, no fault is to come, and
its guests keep to the files of their sinks. If it cannot be made, the files are as they were. Else
it keeps what its settings ask for, through any requests one after another, and in the end nothing.
-/
theorem filesystem_frame {wasm : Value} {directory : Option String} {settings : Settings}
    {logger : Logger} {backend : Settings → Backend} {site : Site}
    (hq : site.volume.schedule = .quiet) (hc : site.volume.tree.Connected)
    (ht : site.volume.tree.Lacks site.volume.drawToken.1)
    (ha : (backend (Processor.withDirectory settings directory)).Confined) :
    (∀ problem,
      (Processor.construct wasm directory settings logger backend site).outcome = .error problem →
      (Processor.construct wasm directory settings logger backend site).site.volume.tree =
        site.volume.tree) ∧
    ∀ p, (Processor.construct wasm directory settings logger backend site).outcome = .ok p →
      ∃ kept, Keeps site.volume.tree p kept ∧ ∀ requests : List Request, (∀ r ∈ requests, r.Own) →
        ((Scene.calm p (Processor.construct wasm directory settings logger backend
          site).site).serveAll requests).Framed site.volume.tree kept := by
  refine ⟨fun problem h => Processor.construct_failed hq h, fun p h => ?_⟩
  obtain ⟨content, m, capture, -, origin⟩ := Processor.construct_origin h
  obtain ⟨v, hcreate, hsite⟩ := origin.created
  have hset : p.settings = Processor.withDirectory settings directory := by rw [origin.made]; rfl
  have hcap : p.capture = capture := by rw [origin.made]; rfl
  have hback : p.backend = backend (Processor.withDirectory settings directory) := by
    rw [origin.made]
    rfl
  have hopen : p.closed = false := by rw [origin.made]; rfl
  have hbuffers : p.settings.capture = .buffered → p.capture.scratch? = none := by
    intro hb
    rw [← hset, hb] at hcreate
    cases hcreate
    rw [hcap]
    rfl
  -- The volume that the construction has left is kept, and a closing puts the first tree back.
  have hidle : (Scene.calm p (Processor.construct wasm directory settings logger backend
      site).site).Idle v { v with tree := site.volume.tree } := by
    constructor
    · rfl
    · exact hback ▸ ha
    · exact hcap ▸ Capture.create_retained hq hc ht hcreate
    · exact hbuffers
    · show (Processor.construct wasm directory settings logger backend site).site.volume =
        if p.closed then _ else _
      rw [hsite, hopen]
      rfl
  refine ⟨v.tree, ?_, fun requests ho => (hidle.serveAll ho).framed⟩
  rw [← hset, ← hcap] at hcreate
  exact Processor.keeps_of_create hq hc hcreate

namespace Sample

def ownSettings : Settings := { settings with scratchDirectory := none }

def ownScratch : Scratch := ⟨⟨.single, ["wasi_processor_00000001"]⟩, true, "000000000001"⟩

def ownProcessor : Processor :=
  .fresh ownSettings (.leveled 50) backend ⟨.null, .int 0, ""⟩ (.files ownScratch 0) [.compile [0]]

def ownAttempt : Attempt :=
  Processor.construct (.bytes .fixed [0]) none ownSettings (.leveled 50) (fun _ => backend)
    ⟨volume, [], .zero⟩

theorem backend_confined : backend.Confined := by
  intro closed module context v act hact
  simp only [backend, List.mem_cons, List.not_mem_nil, or_false] at hact
  rcases hact with rfl | rfl | rfl <;> trivial

theorem volume_connected : volume.tree.Connected := by
  unfold Tree.Connected
  decide

theorem volume_lacks : volume.tree.Lacks volume.drawToken.1 := by
  unfold Tree.Lacks
  decide +kernel

end Sample

/-- A directory of the own is kept empty after an invocation, and is gone after the closing. -/
theorem filesystem_frame_sample :
    ∃ kept q, kept.entries = Sample.volume.tree.entries ++ [(q, .directory)] ∧ kept.names q = [] ∧
      ((Scene.calm Sample.ownProcessor Sample.ownAttempt.site).serveAll
        [.invoke (.text "hi")]).site.volume.tree = kept ∧
      ((Scene.calm Sample.ownProcessor Sample.ownAttempt.site).serveAll
        [.invoke (.text "hi"), .close]).site.volume.tree = Sample.volume.tree := by
  have hmade : Sample.ownAttempt.outcome = .ok Sample.ownProcessor := rfl
  obtain ⟨kept, hkeeps, hframed⟩ := (filesystem_frame rfl Sample.volume_connected
    Sample.volume_lacks Sample.backend_confined).2 Sample.ownProcessor hmade
  have hinvoked := (hframed [.invoke (.text "hi")] (by simp [Request.Own])).idle
  have hclosed := (hframed [.invoke (.text "hi"), .close] (by simp [Request.Own])).idle
  cases hkeeps with
  | buffers hc => cases hc
  | guest hc hd => exact absurd rfl hd
  | owner hc hd kept path q hp hl hq hk hn =>
    exact ⟨kept, q, hk, hn, hinvoked.trans (if_neg (by decide +kernel)), hclosed.trans (if_pos rfl)⟩

end GuestRunner
