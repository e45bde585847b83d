import GuestRunner.Proofs.Processor.Reachable

/-!
# Where processors come from

A construction that succeeds has compiled the module once and set up the capture, and has reported
both. The processor that comes out is fresh: it is open and has accepted nothing. A construction
that fails leaves the journal behind, but no processor.
-/

set_option autoImplicit false

namespace GuestRunner

namespace Processor

variable {settings : Settings} {logger : Logger} {backend : Backend} {site : Site} {p : Processor}

def openingEvents (backend : Backend) (m : CompiledModule) (elapsed : Binary64)
    (capture : Capture) : List Event :=
  compiledEvent backend m elapsed :: (capture.scratch?.map scratchEvent).toList

structure Origin (settings : Settings) (logger : Logger) (backend : Backend) (site : Site)
    (content : Bytes) (m : CompiledModule) (capture : Capture) (p : Processor) (after : Site) :
    Prop where
  compiled : backend.compile false content = .ok m
  created : ∃ v, Capture.create settings.capture settings.scratchDirectory site.volume =
      (.ok capture, v) ∧
    after = { site with
      volume := v
      journal := site.journal ++
        logger.heard (openingEvents backend m site.elapsed capture) }
  usable : logger.Usable
  made : p = fresh settings logger backend m capture [.compile content]

theorem compiledEvent_plain (backend : Backend) (m : CompiledModule) (elapsed : Binary64) :
    (compiledEvent backend m elapsed).Plain :=
  Event.moduleCompiled_plain _ _ _ _

theorem scratchEvent_plain (scratch : Scratch) : (scratchEvent scratch).Plain :=
  Event.scratchCreated_plain _ _

theorem reportScratch_usable {p : Processor} (hu : p.logger.Usable) (site : Site) :
    p.reportScratch site = (.ok (), { site with
      journal := site.journal ++
        p.logger.heard (p.capture.scratch?.map scratchEvent).toList }) := by
  unfold reportScratch
  cases hc : p.capture with
  | buffered => simp [Capture.scratch?]
  | files scratch opened =>
    simp [Capture.scratch?, Site.record, Logger.record_plain hu (scratchEvent_plain scratch)]

theorem attachCapture_origin {content : Bytes} {m : CompiledModule}
    (hu : logger.Usable) (hc : backend.compile false content = .ok m) {start : Site}
    (hs : start = { site with
      journal := site.journal ++ logger.heard [compiledEvent backend m site.elapsed] })
    (h : (attachCapture settings logger backend m [.compile content] start).outcome = .ok p) :
    ∃ capture, Origin settings logger backend site content m capture p
      (attachCapture settings logger backend m [.compile content] start).site := by
  unfold attachCapture at h ⊢
  cases hcap : Capture.create settings.capture settings.scratchDirectory start.volume with
  | mk created v =>
    rw [hcap] at h
    cases created with
    | error problem => cases h
    | ok capture =>
      have hv : start.volume = site.volume := by rw [hs]
      rw [hv] at hcap
      have hr := reportScratch_usable
        (p := fresh settings logger backend m capture [.compile content]) hu
        { start with volume := v }
      simp only [hr] at h ⊢
      cases h
      refine ⟨capture, hc, ⟨v, hcap, ?_⟩, hu, rfl⟩
      have hfirst := logger.heard_cons (compiledEvent backend m site.elapsed)
        (capture.scratch?.map scratchEvent).toList
      rw [hs, openingEvents, hfirst, ← List.append_assoc]
      rfl

/-- What a construction that succeeds has done. -/
theorem construct_origin {wasm : Value} {directory : Option String} {backend : Settings → Backend}
    (h : (construct wasm directory settings logger backend site).outcome = .ok p) :
    ∃ content m capture, moduleBytes wasm = .ok content ∧
      Origin (withDirectory settings directory) logger (backend (withDirectory settings directory))
        site content m capture p (construct wasm directory settings logger backend site).site := by
  have hu : logger.Usable := by
    have hm := (construct_made h).1
    unfold construct at h
    dsimp only at h
    split at h
    · cases h
    · unfold compileAndAttach at h
      dsimp only at h
      split at h
      · cases h
      · split at h
        · cases h
        · rwa [(attachCapture_made h).1] at hm
  unfold construct at h ⊢
  dsimp only at h ⊢
  split at h <;> rename_i hw
  · cases h
  · rename_i content
    unfold compileAndAttach at h ⊢
    dsimp only at h ⊢
    split at h <;> rename_i hc
    · cases h
    · rename_i m
      have hr := Logger.record_plain hu
        (compiledEvent_plain (backend (withDirectory settings directory)) m site.elapsed)
      simp only [Site.record, hr] at h ⊢
      obtain ⟨capture, ho⟩ := attachCapture_origin hu hc rfl h
      exact ⟨content, m, capture, hw, by simpa only [hw, hc] using ho⟩

end Processor

end GuestRunner
