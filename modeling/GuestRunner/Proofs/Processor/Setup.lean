import GuestRunner.Proofs.Processor.Frame

/-!
# All or nothing

A construction ends with an open processor or leaves the files as they were, whatever the backend
and the system do. When the capture cannot be set up, the backend is closed once. When the module
cannot be compiled, that depends on the problem: the backend is closed for a module that is found
invalid, and for nothing else that may happen there.
-/

set_option autoImplicit false

namespace GuestRunner

open Files

def Problem.OfCompilation (problem : Problem) : Prop :=
  ∃ cause, problem = .failure (.compilation cause)

namespace Capture

variable {kind : CaptureKind} {directory : Option String} {v v' : Volume} {c : Capture}

theorem create_untouched {problem : Problem}
    (h : create kind directory v = (.error problem, v')) : v'.tree = v.tree := by
  cases kind with
  | buffered => cases h
  | file =>
    simp only [create] at h
    split at h
    · cases h
    · rename_i hs
      cases h
      exact Scratch.create_untouched hs

theorem create_new (hk : kind = .file) (hd : directory.filter (· ≠ "") = none)
    (h : create kind directory v = (.ok c, v')) :
    ∃ scratch, c.scratch? = some scratch ∧ scratch.owned = true ∧
      v.exists? scratch.path = false ∧ v'.exists? scratch.path = true := by
  subst hk
  simp only [create] at h
  split at h
  · rename_i scratch w hs
    cases h
    obtain ⟨ho, hp, ha⟩ := Scratch.create_new hd hs
    exact ⟨scratch, rfl, ho, ha.exists? hp⟩
  · cases h

end Capture

namespace Processor

variable {settings : Settings} {logger : Logger} {backend : Backend} {content : Bytes}
  {m : CompiledModule} {site : Site}

theorem attachCapture_closes (site : Site) {deeds : List Deed} {problem : Problem} {v : Volume}
    (h : Capture.create settings.capture settings.scratchDirectory site.volume =
      (.error problem, v)) :
    attachCapture settings logger backend m deeds site =
      ⟨.error problem, deeds ++ [.closeBackend], true, { site with volume := v }⟩ := by
  simp only [attachCapture, h]

theorem attachCapture_opens (settings : Settings) (backend : Backend) (m : CompiledModule)
    (deeds : List Deed) (site : Site) {capture : Capture} {v : Volume} (hu : logger.Usable)
    (h : Capture.create settings.capture settings.scratchDirectory site.volume =
      (.ok capture, v)) :
    ∃ journal, attachCapture settings logger backend m deeds site =
      ⟨.ok (fresh settings logger backend m capture deeds), deeds, true,
        { site with volume := v, journal }⟩ := by
  have hr := reportScratch_usable (p := fresh settings logger backend m capture deeds) hu
    { site with volume := v }
  exact ⟨_, by simp only [attachCapture, h, hr]; rfl⟩

/-- What fails in the compiler is passed on, and closes the backend if it is about the module. -/
theorem compile_failed (settings : Settings) (logger : Logger) (site : Site) {problem : Problem}
    (h : backend.compile false content = .error problem) :
    (compileAndAttach settings logger backend content site).outcome = .error problem ∧
    (compileAndAttach settings logger backend content site).reachedBackend = true ∧
    (compileAndAttach settings logger backend content site).site = site ∧
    (problem.OfCompilation →
      (compileAndAttach settings logger backend content site).backendClosings = 1) ∧
    (¬ problem.OfCompilation →
      (compileAndAttach settings logger backend content site).backendClosings = 0) := by
  simp only [compileAndAttach, h]
  refine ⟨trivial, trivial, trivial, ?_, fun hn => ?_⟩
  · rintro ⟨cause, rfl⟩
    rfl
  · split
    · rename_i cause
      exact absurd ⟨cause, rfl⟩ hn
    · rfl

theorem compile_equips (settings : Settings) (site : Site) (hu : logger.Usable)
    (h : backend.compile false content = .ok m) :
    ∃ journal, compileAndAttach settings logger backend content site =
      attachCapture settings logger backend m [.compile content] { site with journal } := by
  have hr := Logger.record_plain hu (compiledEvent_plain backend m site.elapsed)
  exact ⟨_, by simp only [compileAndAttach, h, Site.record, hr]; rfl⟩

end Processor

open Processor

/-- Any value for the module and the directory, any settings, any backend and any files, faults
included: what is no sequence of bytes reaches no backend; what goes wrong later is passed on and
leaves the files alone; and else there is an open processor, with its own directory if none is
named. Only a problem of the compiler that is not about the module leaves the backend open. -/
theorem construct_all_or_nothing (wasm given : Value) (settings : Settings) {logger : Logger}
    (hu : logger.Usable) (backend : Settings → Backend) (site : Site) {chosen : Settings}
    {a : Attempt} (hs : withDirectory settings (directoryGiven given) = chosen)
    (ha : construct wasm (directoryGiven given) settings logger backend site = a) :
    ((∀ kind content, wasm ≠ .bytes kind content) →
      a = .refused (.failure (.compilation (.notBytes wasm.typeName))) site) ∧
    ∀ kind content, wasm = .bytes kind content → a.reachedBackend = true ∧
      (∀ problem, (backend chosen).compile false content = .error problem →
        a.outcome = .error problem ∧ a.site = site ∧
        (problem.OfCompilation → a.backendClosings = 1) ∧
        (¬ problem.OfCompilation → a.backendClosings = 0)) ∧
      ∀ m, (backend chosen).compile false content = .ok m →
        (∀ problem v,
          Capture.create chosen.capture chosen.scratchDirectory site.volume = (.error problem, v) →
          a.outcome = .error problem ∧ a.site.volume.tree = site.volume.tree ∧
          a.backendClosings = 1) ∧
        ∀ capture v,
          Capture.create chosen.capture chosen.scratchDirectory site.volume = (.ok capture, v) →
          ∃ p, a.outcome = .ok p ∧ p.closed = false ∧ p.backendClosed = false ∧
            p.capture = capture ∧ a.site.volume = v ∧
            (chosen.capture = .file → chosen.scratchDirectory.filter (· ≠ "") = none →
              ∃ scratch, p.capture.scratch? = some scratch ∧ scratch.owned = true ∧
                site.volume.exists? scratch.path = false ∧
                a.site.volume.exists? scratch.path = true) := by
  subst ha
  unfold construct
  rw [hs]
  constructor
  · intro hw
    cases wasm with
    | bytes kind content => exact absurd rfl (hw kind content)
    | _ => rfl
  · rintro kind content rfl
    dsimp only [moduleBytes]
    cases hc : (backend chosen).compile false content with
    | error problem =>
      obtain ⟨ho, hr, hsite, hone, hzero⟩ :=
        compile_failed chosen logger site hc
      refine ⟨hr, ?_, by simp⟩
      rintro _ ⟨⟩
      exact ⟨ho, hsite, hone, hzero⟩
    | ok m =>
      obtain ⟨journal, he⟩ := compile_equips chosen site hu hc
      rw [he]
      cases hcap : Capture.create chosen.capture chosen.scratchDirectory site.volume with
      | mk created v =>
        cases created with
        | error problem =>
          rw [attachCapture_closes { site with journal } hcap]
          refine ⟨rfl, by simp, ?_⟩
          rintro _ ⟨⟩
          refine ⟨?_, by simp⟩
          rintro _ _ ⟨⟩
          exact ⟨rfl, Capture.create_untouched hcap, rfl⟩
        | ok capture =>
          obtain ⟨journal', hopen⟩ :=
            attachCapture_opens chosen (backend chosen) m [.compile content]
            { site with journal } hu hcap
          rw [hopen]
          refine ⟨rfl, by simp, ?_⟩
          rintro _ ⟨⟩
          refine ⟨by simp, ?_⟩
          rintro _ _ ⟨⟩
          exact ⟨_, rfl, rfl, rfl, rfl, rfl, fun hk hd => Capture.create_new hk hd hcap⟩

namespace Sample

def ownVolume : Volume := ownAttempt.site.volume

def scarce : Backend := { backend with compile := fun _ _ => .error (.os (.coded 12 none)) }

def unnamedAttempt : Attempt :=
  Processor.construct (.bytes .fixed [0]) (Processor.directoryGiven (.path (Path.ofText "")))
    ownSettings (.leveled 50) (fun _ => backend) ⟨volume, [], .zero⟩

end Sample

/-- A processor with its own directory, and a value that is no module. -/
theorem construct_all_or_nothing_sample :
    (∃ p scratch, Sample.ownAttempt.outcome = .ok p ∧ p.closed = false ∧
      p.backendClosed = false ∧ p.capture.scratch? = some scratch ∧
      Sample.volume.exists? scratch.path = false ∧
      Sample.ownVolume.exists? scratch.path = true) ∧
    Processor.construct (.text "asm") none Sample.settings .structured (fun _ => Sample.backend)
        ⟨Sample.volume, [], .zero⟩ =
      .refused (.failure (.compilation (.notBytes "str"))) ⟨Sample.volume, [], .zero⟩ := by
  constructor
  · have h := @construct_all_or_nothing (.bytes .fixed [0]) .null Sample.ownSettings (.leveled 50)
      trivial (fun _ => Sample.backend) ⟨Sample.volume, [], .zero⟩ Sample.ownSettings
      Sample.ownAttempt rfl rfl
    obtain ⟨-, -, hm⟩ := h.2 .fixed [0] rfl
    obtain ⟨p, ho, hopen, hback, -, -, hnew⟩ := (hm _ rfl).2 (.files Sample.ownScratch 0) _ rfl
    obtain ⟨scratch, hscratch, -, hbefore, hafter⟩ := hnew rfl rfl
    exact ⟨p, scratch, ho, hopen, hback, hscratch, hbefore, hafter⟩
  · exact (@construct_all_or_nothing (.text "asm") .null Sample.settings .structured trivial
      (fun _ => Sample.backend) ⟨Sample.volume, [], .zero⟩ _ _ rfl rfl).1 nofun

/-- What happens in the compiler beside invalid modules leaves a backend open that nobody can close
any more, and for an empty path there is no new directory but the current one. -/
theorem construct_leaks :
    (let a := Processor.construct (.bytes .fixed [0]) none Sample.settings (.leveled 50)
      (fun _ => Sample.scarce) ⟨Sample.volume, [], .zero⟩
    a.outcome = .error (.os (.coded 12 none)) ∧ a.reachedBackend = true ∧
      a.backendClosings = 0) ∧
    ∃ p scratch, Sample.unnamedAttempt.outcome = .ok p ∧ p.capture.scratch? = some scratch ∧
      scratch.owned = false ∧ scratch.path = ⟨.single, Sample.volume.home⟩ :=
  ⟨⟨rfl, rfl, rfl⟩, _, _, rfl, rfl, rfl, rfl⟩

end GuestRunner
