import GuestRunner.Backend.Engine

/-!
# Exchanges with an engine

A run leaves a log of what the engine was asked and what it answered. Whatever the answers are, the
log takes one of a few courses, and who asked for the run is told the truth about it: a failure only
where the guest was never entered, and otherwise how the one call ended. What was opened is closed
again, in the same order on every course.
-/

set_option autoImplicit false

namespace GuestRunner

structure Outcome.Coherent (o : Outcome) : Prop where
  code : o.trapped = true ↔ o.exitCode = .null
  reason : o.trapped = true ↔ o.trapReason.isSome
  message : o.trapped = true ↔ o.trapMessage.isSome
  classified : o.trapReason = (TrapReason.classify o.trapMessage).map TrapReason.label

def Outcome.Logs (o : Outcome) : CallEnding → Prop
  | .returned => o.exitCode = .int 0
  | .exited code => o.exitCode = .int code
  | .stopped message => o.trapMessage = some message

namespace EngineDeed

def prepares : EngineDeed → Bool
  | .preopen .. | .bind .. | .listen _ => true
  | _ => false

def turns : EngineDeed → Bool
  | .openStore | .closeStore | .closeGrants => true
  | _ => false

def ending? : EngineDeed → Option CallEnding
  | .call ending => some ending
  | _ => none

def reading? : EngineDeed → Option (Except String Nat)
  | .readFuel answer => some answer
  | _ => none

def complaint? (id : Value) : EngineDeed → Option Failure
  | .preopen _ _ (.error text) => some (.instantiation (.mount text) id)
  | .bind _ _ (.error text) => some (.scratch (.bind text))
  | .instantiate (.error text) => some (.instantiation (.engine text) id)
  | .findEntry false => some (.instantiation .noStart id)
  | _ => none

variable {deed : EngineDeed}

theorem ending_of_prepares (h : deed.prepares = true) : deed.ending? = none := by
  cases deed <;> simp_all [prepares, ending?]

theorem reading_of_prepares (h : deed.prepares = true) : deed.reading? = none := by
  cases deed <;> simp_all [prepares, reading?]

theorem turns_of_prepares (h : deed.prepares = true) : deed.turns = false := by
  cases deed <;> simp_all [prepares, turns]

end EngineDeed

namespace Adaptor

variable {σ : Type} {e : EngineAnswers σ} {module : Option CompiledModule}

/-! ## What the engine was asked and answered -/

def Answered (e : EngineAnswers σ) (module : Option CompiledModule) (s : σ) :
    EngineDeed → σ → Prop
  | .preopen host guest answer, t => e.preopen host guest s = (answer, t)
  | .bind stream path answer, t => e.bind stream path s = (answer, t)
  | .setFuel budget, t => e.setFuel budget s = t
  | .limitMemory bytes, t => e.limitMemory bytes s = t
  | .instantiate answer, t => e.instantiate module s = (answer, t)
  | .findEntry found, t => e.hasEntry s = found ∧ s = t
  | .call ending, t => e.call s = (ending, t)
  | .readFuel answer, t => e.fuelLeft s = (answer, t)
  | .openStore, t | .listen _, t | .attachGrants, t | .closeStore, t | .closeGrants, t => s = t

def Exchange (e : EngineAnswers σ) (module : Option CompiledModule) :
    List EngineDeed → σ → σ → Prop
  | [], s, t => s = t
  | deed :: rest, s, t => ∃ u, Answered e module s deed u ∧ Exchange e module rest u t

theorem exchange_append (first second : List EngineDeed) (s t : σ) :
    Exchange e module (first ++ second) s t ↔
      ∃ u, Exchange e module first s u ∧ Exchange e module second u t := by
  induction first generalizing s with
  | nil => simp [Exchange]
  | cons deed rest ih =>
    simp only [List.cons_append, Exchange, ih]
    constructor
    · rintro ⟨v, ha, u, hf, hs⟩
      exact ⟨u, ⟨v, ha, hf⟩, hs⟩
    · rintro ⟨u, ⟨v, ha, hf⟩, hs⟩
      exact ⟨v, ha, u, hf, hs⟩

structure Adds (e : EngineAnswers σ) (module : Option CompiledModule) (p : Progress σ)
    (deeds : List EngineDeed) (q : Progress σ) : Prop where
  log : q.deeds = p.deeds ++ deeds
  exchange : Exchange e module deeds p.state q.state

variable {p q r : Progress σ} {first second : List EngineDeed}

theorem Adds.refl (p : Progress σ) : Adds e module p [] p := ⟨(List.append_nil _).symm, rfl⟩

theorem Adds.reach {deed : EngineDeed} {s : σ} (h : Answered e module p.state deed s) :
    Adds e module p [deed] (p.reach deed s) := ⟨rfl, s, h, rfl⟩

theorem Adds.trans (hf : Adds e module p first q) (hs : Adds e module q second r) :
    Adds e module p (first ++ second) r where
  log := by rw [hs.log, hf.log, List.append_assoc]
  exchange := (exchange_append first second _ _).mpr ⟨q.state, hf.exchange, hs.exchange⟩

/-! ## The courses a run can take -/

inductive Granted (id : Value) :
    List (String × String) → Except Failure Unit → List EngineDeed → Prop
  | all : Granted id [] (.ok ()) []
  | next (host guest : String) {rest : List (String × String)} {result : Except Failure Unit}
    {deeds : List EngineDeed} (h : Granted id rest result deeds) :
    Granted id ((host, guest) :: rest) result (.preopen host guest (.ok ()) :: deeds)
  | refused (host guest text : String) (rest : List (String × String)) :
    Granted id ((host, guest) :: rest) (.error (.instantiation (.mount text) id))
      [.preopen host guest (.error text)]

inductive Bound : Sink → Except Failure Unit → List EngineDeed → Prop
  | listening (out err : Bytes) :
    Bound (.buffered out err) (.ok ()) [.listen .stdout, .listen .stderr]
  | both (out err : Path) :
    Bound (.files out err) (.ok ()) [.bind .stdout out (.ok ()), .bind .stderr err (.ok ())]
  | noOutput (out err : Path) (text : String) :
    Bound (.files out err) (.error (.scratch (.bind text))) [.bind .stdout out (.error text)]
  | noErrors (out err : Path) (text : String) :
    Bound (.files out err) (.error (.scratch (.bind text)))
      [.bind .stdout out (.ok ()), .bind .stderr err (.error text)]

inductive Provided (settings : Settings) (c : Context) :
    Except Failure Unit → List EngineDeed → Prop
  | ungranted {f : Failure} {deeds : List EngineDeed}
    (h : Granted c.id settings.mounts (.error f) deeds) : Provided settings c (.error f) deeds
  | granted {result : Except Failure Unit} {first second : List EngineDeed}
    (hg : Granted c.id settings.mounts (.ok ()) first) (hb : Bound c.sink result second) :
    Provided settings c result (first ++ second)

def limits (settings : Settings) : List EngineDeed :=
  (settings.fuelBudget.map EngineDeed.setFuel).toList ++
    (settings.memoryBytes.map EngineDeed.limitMemory).toList

def fuelUsed (budget : Nat) : Except String Nat → Value
  | .ok left => .int (budget - left)
  | .error _ => .null

inductive Metered : Option Nat → List (Except String Nat) → Value → Prop
  | unmetered : Metered none [] .null
  | metered (budget : Nat) (answer : Except String Nat) :
    Metered (some budget) [answer] (fuelUsed budget answer)

inductive Entered (budget : Option Nat) (id : Value) :
    Except Failure Outcome → List EngineDeed → Prop
  | noEntry : Entered budget id (.error (.instantiation .noStart id)) [.findEntry false]
  | called (ending : CallEnding) {readings : List (Except String Nat)} {consumed : Value}
    (h : Metered budget readings consumed) :
    Entered budget id (.ok { outcomeOf ending with fuelConsumed := consumed })
      ([.findEntry true, .call ending] ++ readings.map .readFuel)

inductive Executed (settings : Settings) (id : Value) :
    Except Failure Outcome → List EngineDeed → Prop
  | uninstantiated (text : String) :
    Executed settings id (.error (.instantiation (.engine text) id))
      (limits settings ++ [.instantiate (.error text)])
  | instantiated {result : Except Failure Outcome} {deeds : List EngineDeed}
    (h : Entered settings.fuelBudget id result deeds) :
    Executed settings id result (limits settings ++ [.instantiate (.ok ())] ++ deeds)

inductive Course (settings : Settings) (c : Context) :
    Bool → Except Failure Outcome → List EngineDeed → Prop
  | closed : Course settings c true (.error (.instantiation .engineClosed c.id)) []
  | unprovided {f : Failure} {deeds : List EngineDeed} (h : Provided settings c (.error f) deeds) :
    Course settings c false (.error f) ([.openStore] ++ deeds ++ [.closeStore])
  | provided {result : Except Failure Outcome} {first second : List EngineDeed}
    (hp : Provided settings c (.ok ()) first) (he : Executed settings c.id result second) :
    Course settings c false result
      ([.openStore] ++ first ++ [.attachGrants] ++ second ++ [.closeStore, .closeGrants])

section Courses

variable (e module)

theorem grant_course (id : Value) (mounts : List (String × String)) (p : Progress σ) :
    ∃ deeds, Granted id mounts (grant e id mounts p).1 deeds ∧
      Adds e module p deeds (grant e id mounts p).2 := by
  induction mounts generalizing p with
  | nil => exact ⟨[], .all, .refl p⟩
  | cons mount rest ih =>
    obtain ⟨host, guest⟩ := mount
    rw [grant]
    rcases ha : e.preopen host guest p.state with ⟨answer, s⟩
    have hstep : Adds e module p [.preopen host guest answer]
      (p.reach (.preopen host guest answer) s) := .reach ha
    cases answer with
    | error text => exact ⟨_, .refused host guest text rest, hstep⟩
    | ok _ =>
      obtain ⟨deeds, hg, hadds⟩ := ih (p.reach (.preopen host guest (.ok ())) s)
      exact ⟨_, .next host guest hg, hstep.trans hadds⟩

theorem bindOne_adds (stream : Stream) (path : Path) (p : Progress σ) :
    ∃ answer, (bindOne e stream path p).1 = answer.mapError (fun text => .scratch (.bind text)) ∧
      Adds e module p [.bind stream path answer] (bindOne e stream path p).2 :=
  ⟨(e.bind stream path p.state).1, rfl, .reach rfl⟩

theorem bindStreams_course (sink : Sink) (p : Progress σ) :
    ∃ deeds, Bound sink (bindStreams e sink p).1 deeds ∧
      Adds e module p deeds (bindStreams e sink p).2 := by
  cases sink with
  | buffered out err =>
    have hout : Adds e module p [.listen .stdout] (p.did (.listen .stdout)) := .reach rfl
    exact ⟨_, .listening out err, hout.trans (.reach rfl)⟩
  | files out err =>
    rw [bindStreams]
    obtain ⟨first, hr, hf⟩ := bindOne_adds e module .stdout out p
    rcases hout : bindOne e .stdout out p with ⟨done, q⟩
    rw [hout] at hr hf
    subst hr
    cases first with
    | error text => exact ⟨_, .noOutput out err text, hf⟩
    | ok _ =>
      obtain ⟨answer, hr, hs⟩ := bindOne_adds e module .stderr err q
      refine ⟨_, ?_, hf.trans hs⟩
      dsimp only [Except.mapError]
      rw [hr]
      cases answer with
      | ok _ => exact .both out err
      | error text => exact .noErrors out err text

theorem provide_course (settings : Settings) (c : Context) (p : Progress σ) :
    ∃ deeds, Provided settings c (provide e settings c p).1 deeds ∧
      Adds e module p deeds (provide e settings c p).2 := by
  obtain ⟨first, hg, hf⟩ := grant_course e module c.id settings.mounts p
  rw [provide]
  rcases hm : grant e c.id settings.mounts p with ⟨result, q⟩
  rw [hm] at hg hf
  cases result with
  | error f => exact ⟨first, .ungranted hg, hf⟩
  | ok _ =>
    obtain ⟨second, hb, hs⟩ := bindStreams_course e module c.sink q
    exact ⟨first ++ second, .granted hg hb, hf.trans hs⟩

theorem limits_adds (settings : Settings) (p : Progress σ) :
    Adds e module p (limits settings)
      (limitMemory e settings.memoryBytes (limitFuel e settings.fuelBudget p)) := by
  refine Adds.trans (q := limitFuel e settings.fuelBudget p) ?_ ?_
  · cases settings.fuelBudget with
    | none => exact .refl p
    | some budget => exact .reach rfl
  · cases settings.memoryBytes with
    | none => exact .refl _
    | some bytes => exact .reach rfl

theorem account_course (budget : Option Nat) (outcome : Outcome) (p : Progress σ)
    (h : outcome.fuelConsumed = .null) :
    ∃ readings consumed, Metered budget readings consumed ∧
      (account e budget outcome p).1 = { outcome with fuelConsumed := consumed } ∧
      Adds e module p (readings.map .readFuel) (account e budget outcome p).2 := by
  cases budget with
  | none => exact ⟨[], .null, .unmetered, by rw [account, ← h], .refl p⟩
  | some budget => exact ⟨_, _, .metered budget (e.fuelLeft p.state).1, rfl, .reach rfl⟩

theorem enter_course (budget : Option Nat) (id : Value) (p : Progress σ) :
    ∃ deeds, Entered budget id (enter e budget id p).1 deeds ∧
      Adds e module p deeds (enter e budget id p).2 := by
  have hfind : Adds e module p [.findEntry (e.hasEntry p.state)]
      (p.did (.findEntry (e.hasEntry p.state))) := .reach ⟨rfl, rfl⟩
  rw [enter]
  cases hfound : e.hasEntry p.state with
  | false =>
    rw [hfound] at hfind
    exact ⟨_, .noEntry, hfind⟩
  | true =>
    rw [hfound] at hfind
    generalize p.did (.findEntry true) = q at hfind ⊢
    generalize hc : e.call q.state = answer
    obtain ⟨ending, s⟩ := answer
    have hcall : Adds e module q [.call ending] (q.reach (.call ending) s) := .reach hc
    have hfuel : (outcomeOf ending).fuelConsumed = .null := by cases ending <;> rfl
    obtain ⟨readings, consumed, hm, ho, hread⟩ := account_course e module
      budget (outcomeOf ending) (q.reach (.call ending) s) hfuel
    refine ⟨_, ?_, (hfind.trans hcall).trans hread⟩
    dsimp only
    rw [ho]
    exact .called ending hm

theorem execute_course (settings : Settings) (id : Value) (p : Progress σ) :
    ∃ deeds, Executed settings id (execute e settings module id p).1 deeds ∧
      Adds e module p deeds (execute e settings module id p).2 := by
  have hl := limits_adds e module settings p
  rw [execute]
  generalize limitMemory e settings.memoryBytes (limitFuel e settings.fuelBudget p) = q at hl ⊢
  rcases ha : e.instantiate module q.state with ⟨answer, s⟩
  have hi : Adds e module q [.instantiate answer] (q.reach (.instantiate answer) s) := .reach ha
  cases answer with
  | error text => exact ⟨_, .uninstantiated text, hl.trans hi⟩
  | ok _ =>
    obtain ⟨deeds, he, hadds⟩ := enter_course e module settings.fuelBudget id
      (q.reach (.instantiate (.ok ())) s)
    exact ⟨_, .instantiated he, (hl.trans hi).trans hadds⟩

/-- Every run takes one of the courses, with the answers that the engine gives on it. -/
theorem run_course (settings : Settings) (closed : Bool) (c : Context) (s : σ) :
    Course settings c closed (run e settings closed module c s).1
        (run e settings closed module c s).2.deeds ∧
      Exchange e module (run e settings closed module c s).2.deeds s
        (run e settings closed module c s).2.state := by
  cases closed with
  | true => exact ⟨.closed, rfl⟩
  | false =>
    have hopen : Adds e module ⟨s, []⟩ [.openStore] ⟨s, [.openStore]⟩ := .reach (p := ⟨s, []⟩) rfl
    suffices h : ∃ deeds, Course settings c false (run e settings false module c s).1 deeds ∧
        Adds e module ⟨s, []⟩ deeds (run e settings false module c s).2 by
      obtain ⟨deeds, hcourse, hadds⟩ := h
      rw [hadds.log]
      exact ⟨hcourse, hadds.exchange⟩
    rw [run, if_neg nofun, inStore]
    obtain ⟨first, hp, hf⟩ := provide_course e module settings c ⟨s, [.openStore]⟩
    rcases hprovide : provide e settings c ⟨s, [.openStore]⟩ with ⟨done, q⟩
    rw [hprovide] at hp hf
    cases done with
    | error f => exact ⟨_, .unprovided hp, (hopen.trans hf).trans (.reach rfl)⟩
    | ok _ =>
      have hattach : Adds e module q [.attachGrants] (q.did .attachGrants) := .reach rfl
      obtain ⟨second, he, hs⟩ := execute_course e module settings c.id
        (q.did .attachGrants)
      have hclose : ∀ r : Progress σ, Adds e module r [.closeStore, .closeGrants]
          ((r.did .closeStore).did .closeGrants) := by
        intro r
        have hstore : Adds e module r [.closeStore] (r.did .closeStore) := .reach rfl
        exact hstore.trans (.reach rfl)
      exact ⟨_, .provided hp he, ((((hopen.trans hf).trans hattach).trans hs).trans (hclose _))⟩

end Courses

/-! ## What every course has in common -/

def failures {α : Type} : Except Failure α → List Failure
  | .ok _ => []
  | .error f => [f]

def Explained (c : Context) (f : Failure) : Prop :=
  (∃ cause, f = .instantiation cause c.id) ∨
    ∃ out err text, c.sink = .files out err ∧ f = .scratch (.bind text)

/-- The store is opened first and closed once, after everything that needs it. What it has taken
over is closed once after it, and streams are listened to only if the store takes them over. -/
def Released (deeds : List EngineDeed) : Prop :=
  ∃ work : List EngineDeed, (∀ deed ∈ work, deed.turns = false) ∧
    ((deeds = [.openStore] ++ work ++ [.closeStore, .closeGrants] ∧ .attachGrants ∈ work) ∨
      (deeds = [.openStore] ++ work ++ [.closeStore] ∧ .attachGrants ∉ work ∧
        ∀ stream, .listen stream ∉ work))

structure Orderly (settings : Settings) (c : Context) (closed : Bool)
    (result : Except Failure Outcome) (deeds : List EngineDeed) : Prop where
  unentered : ∀ f, result = .error f →
    Explained c f ∧ deeds.filterMap EngineDeed.ending? = []
  entered : ∀ o, result = .ok o →
    o.Coherent ∧ ∃ ending, deeds.filterMap EngineDeed.ending? = [ending] ∧ o.Logs ending ∧
      Metered settings.fuelBudget (deeds.filterMap EngineDeed.reading?) o.fuelConsumed
  /-- There is a failure exactly where the engine gives cause for it. -/
  blamed : if closed then result = .error (.instantiation .engineClosed c.id)
    else deeds.filterMap (EngineDeed.complaint? c.id) = failures result
  released : if closed then deeds = [] else Released deeds

variable {settings : Settings} {c : Context} {id : Value} {closed : Bool}
  {mounts : List (String × String)} {sink : Sink} {done : Except Failure Unit}
  {result : Except Failure Outcome} {deeds : List EngineDeed}

theorem Granted.preopens (h : Granted id mounts done deeds) :
    ∀ deed ∈ deeds, ∃ host guest answer, deed = .preopen host guest answer := by
  induction h with
  | all => nofun
  | next host guest _ ih =>
    intro deed hd
    rcases List.mem_cons.mp hd with rfl | hd
    · exact ⟨host, guest, _, rfl⟩
    · exact ih deed hd
  | refused host guest text rest =>
    intro deed hd
    exact ⟨host, guest, _, List.mem_singleton.mp hd⟩

theorem Granted.blamed (h : Granted id mounts done deeds) :
    deeds.filterMap (EngineDeed.complaint? id) = failures done := by
  induction h with
  | all => rfl
  | next host guest _ ih => exact ih
  | refused => rfl

theorem Granted.explained {f : Failure} (h : Granted c.id mounts (.error f) deeds) :
    Explained c f := by
  generalize hr : Except.error f = done at h
  induction h with
  | all => cases hr
  | next host guest _ ih => exact ih hr
  | refused host guest text rest =>
    cases hr
    exact Or.inl ⟨_, rfl⟩

theorem Bound.prepares (h : Bound sink done deeds) : ∀ deed ∈ deeds, deed.prepares = true := by
  cases h <;> simp [EngineDeed.prepares]

theorem Bound.blamed (h : Bound sink done deeds) :
    deeds.filterMap (EngineDeed.complaint? id) = failures done := by
  cases h <;> rfl

theorem Bound.listens {f : Failure} {stream : Stream} (h : Bound sink (.error f) deeds) :
    .listen stream ∉ deeds := by
  cases h <;> simp

theorem Bound.explained {f : Failure} (h : Bound c.sink (.error f) deeds) : Explained c f := by
  generalize hs : c.sink = sink at h
  cases h with
  | noOutput out err text => exact Or.inr ⟨out, err, text, hs, rfl⟩
  | noErrors out err text => exact Or.inr ⟨out, err, text, hs, rfl⟩

theorem Provided.prepares (h : Provided settings c done deeds) :
    ∀ deed ∈ deeds, deed.prepares = true := by
  cases h with
  | ungranted hg =>
    intro deed hd
    obtain ⟨host, guest, answer, rfl⟩ := hg.preopens deed hd
    rfl
  | granted hg hb =>
    intro deed hd
    rcases List.mem_append.mp hd with hd | hd
    · obtain ⟨host, guest, answer, rfl⟩ := hg.preopens deed hd
      rfl
    · exact hb.prepares deed hd

theorem Provided.blamed (h : Provided settings c done deeds) :
    deeds.filterMap (EngineDeed.complaint? c.id) = failures done := by
  cases h with
  | ungranted hg => exact hg.blamed
  | granted hg hb => rw [List.filterMap_append, hg.blamed, hb.blamed]; rfl

theorem Provided.explained {f : Failure} (h : Provided settings c (.error f) deeds) :
    Explained c f := by
  cases h with
  | ungranted hg => exact hg.explained
  | granted _ hb => exact hb.explained

theorem Provided.listens {f : Failure} {stream : Stream}
    (h : Provided settings c (.error f) deeds) : .listen stream ∉ deeds := by
  have hgranted : ∀ {done first}, Granted c.id settings.mounts done first →
      .listen stream ∉ first := by
    intro done first hg hmem
    obtain ⟨host, guest, answer, he⟩ := hg.preopens _ hmem
    cases he
  cases h with
  | ungranted hg => exact hgranted hg
  | granted hg hb => exact fun hd => (List.mem_append.mp hd).elim (hgranted hg) hb.listens

theorem limits_turns (settings : Settings) : ∀ deed ∈ limits settings, deed.turns = false := by
  rw [limits]
  cases settings.fuelBudget <;> cases settings.memoryBytes <;> simp [EngineDeed.turns]

theorem limits_silent (settings : Settings) (id : Value) :
    (limits settings).filterMap EngineDeed.ending? = [] ∧
      (limits settings).filterMap EngineDeed.reading? = [] ∧
      (limits settings).filterMap (EngineDeed.complaint? id) = [] := by
  rw [limits]
  cases settings.fuelBudget <;> cases settings.memoryBytes <;> exact ⟨rfl, rfl, rfl⟩

theorem outcomeOf_coherent (ending : CallEnding) (consumed : Value) :
    Outcome.Coherent { outcomeOf ending with fuelConsumed := consumed } := by
  cases ending <;> constructor <;>
    simp [outcomeOf, Outcome.exited, Outcome.ofTrap, TrapReason.classify]

theorem outcomeOf_logs (ending : CallEnding) (consumed : Value) :
    Outcome.Logs { outcomeOf ending with fuelConsumed := consumed } ending := by
  cases ending <;> rfl

theorem Entered.turns {budget : Option Nat} (h : Entered budget id result deeds) :
    ∀ deed ∈ deeds, deed.turns = false := by
  cases h with
  | noEntry => simp [EngineDeed.turns]
  | called ending hm => cases hm <;> simp [EngineDeed.turns]

theorem Entered.blamed {budget : Option Nat} (h : Entered budget id result deeds) :
    deeds.filterMap (EngineDeed.complaint? id) = failures result := by
  cases h with
  | noEntry => rfl
  | called ending hm => cases hm <;> rfl

theorem Entered.unentered {budget : Option Nat} {f : Failure}
    (h : Entered budget id (.error f) deeds) :
    (∃ cause, f = .instantiation cause id) ∧ deeds.filterMap EngineDeed.ending? = [] := by
  cases h
  exact ⟨⟨_, rfl⟩, rfl⟩

theorem Entered.entered {budget : Option Nat} {o : Outcome} (h : Entered budget id (.ok o) deeds) :
    o.Coherent ∧ ∃ ending, deeds.filterMap EngineDeed.ending? = [ending] ∧ o.Logs ending ∧
      Metered budget (deeds.filterMap EngineDeed.reading?) o.fuelConsumed := by
  cases h with
  | called ending hm =>
    refine ⟨outcomeOf_coherent ending _, ending, ?_, outcomeOf_logs ending _, ?_⟩
    · cases hm <;> rfl
    · cases hm
      · exact .unmetered
      · exact .metered _ _

theorem Executed.turns (h : Executed settings id result deeds) :
    ∀ deed ∈ deeds, deed.turns = false := by
  have hl := limits_turns settings
  cases h with
  | uninstantiated text => simpa [EngineDeed.turns, or_imp, forall_and] using hl
  | instantiated he => simpa [EngineDeed.turns, or_imp, forall_and] using ⟨hl, he.turns⟩

theorem Executed.blamed (h : Executed settings id result deeds) :
    deeds.filterMap (EngineDeed.complaint? id) = failures result := by
  obtain ⟨-, -, hl⟩ := limits_silent settings id
  cases h with
  | uninstantiated text => rw [List.filterMap_append, hl]; rfl
  | instantiated he => rw [List.filterMap_append, List.filterMap_append, hl, he.blamed]; rfl

theorem Executed.unentered {f : Failure} (h : Executed settings id (.error f) deeds) :
    (∃ cause, f = .instantiation cause id) ∧ deeds.filterMap EngineDeed.ending? = [] := by
  obtain ⟨hl, -, -⟩ := limits_silent settings id
  cases h with
  | uninstantiated text => exact ⟨⟨_, rfl⟩, by rw [List.filterMap_append, hl]; rfl⟩
  | instantiated he =>
    obtain ⟨hcause, hnone⟩ := he.unentered
    exact ⟨hcause, by rw [List.filterMap_append, List.filterMap_append, hl, hnone]; rfl⟩

theorem Executed.entered {o : Outcome} (h : Executed settings id (.ok o) deeds) :
    o.Coherent ∧ ∃ ending, deeds.filterMap EngineDeed.ending? = [ending] ∧ o.Logs ending ∧
      Metered settings.fuelBudget (deeds.filterMap EngineDeed.reading?) o.fuelConsumed := by
  obtain ⟨hl, hr, -⟩ := limits_silent settings id
  cases h with
  | instantiated he =>
    obtain ⟨hcoherent, ending, hcall, hexplained, hmetered⟩ := he.entered
    refine ⟨hcoherent, ending, ?_, hexplained, ?_⟩
    · rw [List.filterMap_append, List.filterMap_append, hl, hcall]; rfl
    · rw [List.filterMap_append, List.filterMap_append, hr]
      exact hmetered

theorem Provided.released {f : Failure} (h : Provided settings c (.error f) deeds) :
    Released ([.openStore] ++ deeds ++ [.closeStore]) := by
  refine ⟨deeds, fun deed hd => EngineDeed.turns_of_prepares (h.prepares deed hd),
    Or.inr ⟨rfl, fun hd => ?_, fun _ => h.listens⟩⟩
  have hattach := h.prepares _ hd
  cases hattach

theorem Executed.released {first second : List EngineDeed}
    (hp : Provided settings c (.ok ()) first) (he : Executed settings id result second) :
    Released ([.openStore] ++ first ++ [.attachGrants] ++ second ++
      [.closeStore, .closeGrants]) := by
  refine ⟨first ++ [.attachGrants] ++ second, ?_, Or.inl ⟨by simp, by simp⟩⟩
  intro deed hd
  simp only [List.mem_append, List.mem_singleton] at hd
  rcases hd with (hd | rfl) | hd
  · exact EngineDeed.turns_of_prepares (hp.prepares deed hd)
  · rfl
  · exact he.turns deed hd

theorem Provided.silent (h : Provided settings c done deeds) :
    deeds.filterMap EngineDeed.ending? = [] ∧ deeds.filterMap EngineDeed.reading? = [] :=
  ⟨List.filterMap_eq_nil_iff.mpr fun deed hd => EngineDeed.ending_of_prepares (h.prepares deed hd),
    List.filterMap_eq_nil_iff.mpr fun deed hd =>
      EngineDeed.reading_of_prepares (h.prepares deed hd)⟩

theorem filterMap_provided {α : Type} {g : EngineDeed → Option α} (hopen : g .openStore = none)
    (hattach : g .attachGrants = none) (hclose : g .closeStore = none)
    (hgrants : g .closeGrants = none) (first second : List EngineDeed) :
    ([EngineDeed.openStore] ++ first ++ [EngineDeed.attachGrants] ++ second ++
        [EngineDeed.closeStore, EngineDeed.closeGrants]).filterMap g =
      first.filterMap g ++ second.filterMap g := by
  simp [hopen, hattach, hclose, hgrants]

theorem Course.orderly (h : Course settings c closed result deeds) :
    Orderly settings c closed result deeds := by
  cases h with
  | closed => exact ⟨fun f hf => by cases hf; exact ⟨Or.inl ⟨_, rfl⟩, rfl⟩, nofun, rfl, rfl⟩
  | unprovided hp =>
    obtain ⟨hcall, -⟩ := hp.silent
    refine ⟨fun f hf => ?_, nofun, ?_, hp.released⟩
    · cases hf
      exact ⟨hp.explained, by rw [List.filterMap_append, List.filterMap_append, hcall]; rfl⟩
    · rw [if_neg nofun, List.filterMap_append, List.filterMap_append, hp.blamed]
      rfl
  | provided hp he =>
    obtain ⟨hcall, hread⟩ := hp.silent
    refine ⟨fun f hf => ?_, fun o ho => ?_, ?_, Executed.released hp he⟩
    · subst hf
      obtain ⟨hcause, hnone⟩ := he.unentered
      exact ⟨Or.inl hcause, by rw [filterMap_provided rfl rfl rfl rfl, hcall, hnone]; rfl⟩
    · subst ho
      obtain ⟨hcoherent, ending, hone, hexplained, hmetered⟩ := he.entered
      refine ⟨hcoherent, ending, ?_, hexplained, ?_⟩
      · rw [filterMap_provided rfl rfl rfl rfl, hcall, hone]
        rfl
      · rw [filterMap_provided rfl rfl rfl rfl, hread]
        exact hmetered
    · rw [if_neg nofun, filterMap_provided rfl rfl rfl rfl, hp.blamed, he.blamed]
      rfl

theorem coherent_of_run {s : σ} {o : Outcome}
    (h : run e settings closed module c s = (.ok o, p)) : o.Coherent := by
  have hcourse := (run_course e module settings closed c s).1
  rw [h] at hcourse
  exact (hcourse.orderly.entered o rfl).1

/-- Whatever the engine answers, a run takes one of the courses and is orderly on it. It fails where
the engine gives cause, and then the guest was never entered; otherwise the guest was entered once,
and the outcome says how that ended and how much fuel it used. What was opened is closed, and
nothing twice. -/
theorem run_orderly (e : EngineAnswers σ) (settings : Settings) (closed : Bool)
    (module : Option CompiledModule) (c : Context) (s : σ) :
    Orderly settings c closed (run e settings closed module c s).1
        (run e settings closed module c s).2.deeds ∧
      Course settings c closed (run e settings closed module c s).1
        (run e settings closed module c s).2.deeds ∧
      Exchange e module (run e settings closed module c s).2.deeds s
        (run e settings closed module c s).2.state := by
  obtain ⟨hcourse, hexchange⟩ := run_course e module settings closed c s
  exact ⟨hcourse.orderly, hcourse, hexchange⟩

end Adaptor

theorem Engine.backend_coherent {settings : Settings} {closed : Bool}
    {module : Option CompiledModule} {c : Context} {v : Files.Volume} {o : Outcome}
    (h : ((Engine.backend settings).run closed module c v).ending = .ok o) : o.Coherent := by
  simp only [Engine.backend] at h
  split at h
  · cases h
  · generalize hr : Adaptor.run Engine.answers settings _ module c _ = r at h
    obtain ⟨result, p⟩ := r
    cases result with
    | error f => cases h
    | ok found =>
      cases h
      exact Adaptor.coherent_of_run hr

end GuestRunner
