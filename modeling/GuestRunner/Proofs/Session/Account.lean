import GuestRunner.Proofs.Processor.Listeners
import GuestRunner.Proofs.Session.Relogging

/-!
# Accounts of sessions

A command comes to an outcome and to events. What it comes to is its account, which leaves open who
listens; a listener makes records of the events, or a count of them where only that is answered. So
two listeners to the same commands get the same outcomes and the same sessions, and their records
are those of one list of events.
-/

set_option autoImplicit false

namespace GuestRunner

inductive Account
  /-- An outcome, and the events that are reported with it. -/
  | told (outcome : Except Mishap Reply) (events : List Event)
  /-- Several invocations, of whose events there is only a count. -/
  | counted (results : List (Except Problem Result)) (events : List Event)

namespace Account

def events : Account → List Event
  | told _ events | counted _ events => events

def answer (logger : Logger) : Account → Answer
  | told outcome events => ⟨outcome, logger.heard events⟩
  | counted results events => ⟨.ok (.many results (Session.counts (logger.heard events))), []⟩

structure Gives (f : Logger → Session → Session.Step) (s : Session) (account : Account)
    (after : Session) : Prop where
  plain : ∀ e ∈ account.events, e.Plain
  given : ∀ (logger : Logger) (journal : List Record), logger.Usable →
    f logger (s.relogged logger journal) =
      ((account.answer logger).outcome,
        after.relogged logger (journal ++ (account.answer logger).records))

def Open (f : Logger → Session → Session.Step) : Prop :=
  ∀ s, ∃ account after, Gives f s account after

theorem Gives.silent {f : Logger → Session → Session.Step} {s after : Session}
    {outcome : Except Mishap Reply}
    (h : ∀ (logger : Logger) (journal : List Record),
      f logger (s.relogged logger journal) = (outcome, after.relogged logger journal)) :
    Gives f s (.told outcome []) after where
  plain := nofun
  given logger journal _ := by
    rw [h, answer, Logger.heard_nil, List.append_nil]

end Account

open Account

namespace Session

theorem onProcessor_open {act : Session → Processor → Bool → Step} (on : String)
    (ha : ∀ (p : Processor) (isScripted : Bool),
      Open fun logger s => act s (p.under logger) isScripted) :
    Open fun _ s => s.onProcessor on (act s) := by
  intro s
  cases hf : s.find on with
  | none =>
    refine ⟨.told (.error .noHandle) [], s, .silent fun logger journal => ?_⟩
    simp only [onProcessor, find_relogged, hf]
    rfl
  | some handle =>
    cases handle with
    | processor p isScripted =>
      obtain ⟨account, after, h⟩ := ha p isScripted s
      refine ⟨account, after, h.plain, fun logger journal hu => ?_⟩
      rw [← h.given logger journal hu]
      simp only [onProcessor, find_relogged, hf]
      rfl
    | _ =>
      refine ⟨.told (.error .noHandle) [], s, .silent fun logger journal => ?_⟩
      simp only [onProcessor, find_relogged, hf]
      rfl

theorem inScene_open {α : Type} {act : Scene → Except Problem α × Scene}
    (ha : Scene.LoggerFree act) (on : String) (f : α → Reply) :
    Open fun _ s => s.inScene on act f := by
  refine onProcessor_open on fun p isScripted s => ?_
  obtain ⟨result, scene, events, h⟩ := ha (.calm p s.site)
  refine ⟨.told (ofProblem result f) events,
    { s with site := scene.site }.keep on (.processor scene.processor isScripted), h.plain,
    fun logger journal hu => ?_⟩
  dsimp only
  rw [show Scene.calm (p.under logger) (s.relogged logger journal).site =
    (Scene.calm p s.site).relogged logger journal from rfl, h.told logger journal hu]
  exact keep_step _ { s with site := scene.site } on (.processor scene.processor isScripted)

theorem inTurn_loggerFree {one : Value → Scene → Except Problem Result × Scene}
    (hone : ∀ payload, Scene.LoggerFree (one payload)) (payloads : List Value)
    (results : List (Except Problem Result)) :
    Scene.LoggerFree fun s => payloads.foldl
      (fun r payload => (r.1 ++ [(one payload r.2).1], (one payload r.2).2)) (results, s) := by
  induction payloads generalizing results with
  | nil => exact .pure results
  | cons payload rest ih => exact (hone payload).bind fun result => ih (results ++ [result])

theorem invokeMany_open (on : String) (payloads : List Value) (underDeadline : Bool) :
    Open fun _ s => s.invokeMany on payloads underDeadline := by
  refine onProcessor_open on fun p isScripted s => ?_
  have hone : ∀ payload, Scene.LoggerFree fun scene : Scene =>
      if underDeadline then scene.invokeAsync payload .null none else scene.invoke payload := by
    intro payload
    cases underDeadline with
    | true => exact Scene.invokeAsync_loggerFree payload .null none
    | false => exact Scene.invoke_loggerFree payload
  obtain ⟨results, scene, events, h⟩ :=
    inTurn_loggerFree hone payloads [] (.calm p { s.site with journal := [] })
  refine ⟨.counted results events,
    { s with site := { scene.site with journal := s.site.journal } }.keep on
      (.processor scene.processor isScripted), h.plain, fun logger journal hu => ?_⟩
  have ht := h.told logger [] hu
  rw [List.nil_append] at ht
  dsimp only
  rw [show Scene.calm (p.under logger) { (s.relogged logger journal).site with journal := [] } =
    (Scene.calm p { s.site with journal := [] }).relogged logger [] from rfl]
  dsimp only at ht ⊢
  rw [ht]
  show _ = (_, Session.relogged _ logger (journal ++ []))
  rw [List.append_nil]
  exact keep_step _ { s with site := { scene.site with journal := s.site.journal } } on
    (.processor scene.processor isScripted)

theorem newProcessor_open (name : String) (setup : Setup) (choice : BackendChoice) :
    Open fun logger s => s.newProcessor name setup choice logger := by
  intro s
  obtain ⟨a, events, h⟩ := attempt_loggerFree setup (backendFor choice) s.site
  let reached : Session := { s with site := a.site, onEngine := !isScripted choice }
  have hr : ∀ (logger : Logger) (journal : List Record), logger.Usable →
      attempt setup logger (backendFor choice) (s.relogged logger journal).site =
        a.relogged logger (journal ++ logger.heard events) := h.told
  cases ho : a.outcome with
  | error problem =>
    refine ⟨.told (.error (.problem problem (if isScripted choice && a.reachedBackend
      then some a.backendClosings else none))) events, reached, h.plain,
      fun logger journal hu => ?_⟩
    simp only [newProcessor, hr logger journal hu, Attempt.relogged, ho]
    rfl
  | ok p =>
    let kept := reached.keep name (.processor p (isScripted choice))
    refine ⟨.told (told (kept.describe p (isScripted choice))) events, kept, h.plain,
      fun logger journal hu => ?_⟩
    simp only [newProcessor, hr logger journal hu, Attempt.relogged, ho]
    exact keep_step _ reached name (.processor p (isScripted choice))

/-- Every command has an account. -/
theorem perform_open (c : Command) : Open fun logger s => s.perform (c.under logger) := by
  by_cases hc : c.isQuiet = true
  · exact fun s => ⟨.told (s.perform c).1 [], (s.perform c).2, .silent fun _ _ => perform_quiet hc⟩
  · cases c with
    | newProcessor name setup choice logger => exact newProcessor_open name setup choice
    | close on => exact inScene_open Scene.close_loggerFree on _
    | invoke on payload => exact inScene_open (Scene.invoke_loggerFree payload) on _
    | process on payload => exact inScene_open (Scene.process_loggerFree payload) on _
    | processThenClose on payloads =>
      exact inScene_open (Scene.processThenClose_loggerFree payloads) on _
    | invokeAsync on payload timeout outputOnly =>
      cases outputOnly with
      | true => exact inScene_open (Scene.processAsync_loggerFree payload timeout none) on _
      | false => exact inScene_open (Scene.invokeAsync_loggerFree payload timeout none) on _
    | invokeMany on payloads underDeadline => exact invokeMany_open on payloads underDeadline
    | _ => exact absurd rfl hc

def converse : List Command → Session → List Answer × Session
  | [], s => ([], s)
  | c :: rest, s =>
    let (answer, s) := s.answer c
    let (answers, s) := converse rest s
    (answer :: answers, s)

theorem answer_given {c : Command} {s after : Session} {account : Account}
    (h : Gives (fun logger s => s.perform (c.under logger)) s account after) {logger : Logger}
    (hu : logger.Usable) :
    (s.relogged logger []).answer (c.under logger) =
      (account.answer logger, after.relogged logger []) := by
  have hg := h.given logger [] hu
  simp only [Session.answer, hg, List.nil_append]
  rfl

/-- A conversation comes to a list of accounts. -/
theorem converse_accounts (commands : List Command) (s : Session) :
    ∃ (accounts : List Account) (after : Session),
      (∀ account ∈ accounts, ∀ e ∈ account.events, e.Plain) ∧
      ∀ logger : Logger, logger.Usable →
        converse (commands.map (·.under logger)) (s.relogged logger []) =
          (accounts.map (·.answer logger), after.relogged logger []) := by
  induction commands generalizing s with
  | nil => exact ⟨[], s, nofun, fun _ _ => rfl⟩
  | cons c rest ih =>
    obtain ⟨account, s₁, h⟩ := perform_open c s
    obtain ⟨accounts, after, hp, hrest⟩ := ih s₁
    refine ⟨account :: accounts, after, List.forall_mem_cons.mpr ⟨h.plain, hp⟩,
      fun logger hu => ?_⟩
    simp only [List.map_cons, converse, answer_given h hu, hrest logger hu]

end Session

/-- Whoever listens to some commands, or to invocations and closings that overlap, everything goes
the same way and the same events are heard, none of which has a field that a logger keeps for
itself. -/
theorem listeners_agree :
    (∀ (home : String) (files : List (String × Files.Content)) (commands : List Command),
      ∃ (accounts : List Account) (after : Session),
        (∀ account ∈ accounts, ∀ e ∈ account.events, e.Plain) ∧
        ∀ logger : Logger, logger.Usable →
          Session.converse (commands.map (·.under logger)) (.start home files) =
            (accounts.map (·.answer logger), after.relogged logger [])) ∧
    ∀ {κ ω : Type} [DecidableEq κ] [DecidableEq ω] (t t' : Traffic κ ω),
      t.processor.logger.Usable → Traffic.Reaches Traffic.Anyhow t t' →
      ∃ events, Traffic.Reports (Traffic.Reaches Traffic.Anyhow) t t' events := by
  refine ⟨fun home files commands => ?_, fun _ _ hu h => Traffic.reaches_reports hu h⟩
  exact Session.converse_accounts commands (.start home files)

namespace Sample

def talk : List Command :=
  [.newProcessor "p" (.bytes (.bytes .fixed [0]) none [])
      (.scripted ⟨none, [{ Scripted.Part.idle with exitCode := .int 3 }]⟩) .structured,
    .invoke "p" (.text "hi"), .close "p"]

def laconic : Traffic Unit Unit :=
  .start (.fresh .default (.selective ["info"] ["debug"]) (Scripted.backend ⟨none, []⟩)
    ⟨.null, .int 0, ""⟩ .buffered []) ⟨(Session.start "home" []).site.volume, [], .zero⟩
    (fun _ => .text "hi") fun _ => .off

end Sample

/-- Of the events that a structured logger hears, one that passes warnings hears those, and one that
lacks most methods all. -/
theorem listeners_agree_sample :
    (∃ (accounts : List Account) (after : Session),
      (accounts.map fun account => (account.answer .structured).records.map Session.eventName) =
        [["module.compiled"], ["invocation.start", "invocation.failed"], ["processor.closed"]] ∧
      ∀ logger ∈ [.structured, .leveled Severity.warning, .selective ["info"] ["debug"]],
        logger.Usable ∧
        Session.converse (Sample.talk.map (·.under logger)) (.start "home" []) =
          (accounts.map (·.answer logger), after.relogged logger [])) ∧
    ∃ events, Traffic.Reports (Traffic.Reaches Traffic.Anyhow) Sample.laconic
      ((Sample.laconic.callStep ()).closingStep ()) events := by
  have hlaconic : (Logger.selective ["info"] ["debug"]).Usable := ⟨by decide, by decide⟩
  constructor
  · obtain ⟨accounts, after, -, h⟩ := listeners_agree.1 "home" [] Sample.talk
    refine ⟨accounts, after, ?_, ?_⟩
    · have hs := congrArg (fun r => r.1.map fun a => a.records.map Session.eventName)
        (h .structured trivial)
      simp only [List.map_map] at hs
      refine hs.symm.trans ?_
      decide +kernel
    · intro logger hl
      have hu : logger.Usable := by
        simp only [List.mem_cons, List.not_mem_nil, or_false] at hl
        rcases hl with rfl | rfl | rfl
        · trivial
        · trivial
        · exact hlaconic
      exact ⟨hu, h logger hu⟩
  · exact listeners_agree.2 _ _ hlaconic (((Traffic.Reaches.refl _).snoc (.call () trivial)).snoc
      (.closing ()))

end GuestRunner
