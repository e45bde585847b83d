import GuestRunner.Proofs.Call.Payload
import GuestRunner.Proofs.Capture.Resolved
import GuestRunner.Proofs.Processor.TeardownState

/-!
# What is asked of a backend and its sinks

Somebody works with a processor and asks for one thing after another. What the processor asks of its
backend and its sinks for this has a fixed form for each request. Guests may ask for things too
while they run, so the form is recursive.
-/

set_option autoImplicit false

namespace GuestRunner

inductive Request
  | invoke (payload : Value)
  | close
  /-- Others have worked on the files, and the stopwatch goes on. -/
  | elsewhere (volume : Files.Volume) (elapsed : Binary64)

def Scene.serve (s : Scene) : Request → Scene
  | .invoke payload => (s.invoke payload).2
  | .close => s.close.2
  | .elsewhere volume elapsed => { s with site := { s.site with volume, elapsed } }

def Scene.serveAll (s : Scene) (requests : List Request) : Scene := requests.foldl Scene.serve s

inductive Act.Causes : Act → Request → Prop
  | process (stream : Stream) (payload : Value) : Causes (.process stream payload) (.invoke payload)
  | close : Causes .closeProcessor .close
  | files (act : Act) (volume : Files.Volume) (elapsed : Binary64) :
    Causes act (.elsewhere volume elapsed)

structure ServingState where
  accepted : Nat
  capture : Capture
  closed : Bool
  volume : Files.Volume

def ServingState.on (a : ServingState) (volume : Files.Volume) : ServingState := { a with volume }

def Scene.servingState (s : Scene) : ServingState :=
  ⟨s.processor.accepted, s.processor.capture, s.processor.closed, s.site.volume⟩

namespace Deed

def isCompile : Deed → Bool
  | .compile _ => true
  | _ => false

def isOpenSink : Deed → Bool
  | .openSink _ => true
  | _ => false

def isRelease : Deed → Bool
  | .release _ => true
  | _ => false

def runId? : Deed → Option Value
  | .run _ context => some context.id
  | _ => none

def isRun (d : Deed) : Bool := d.runId?.isSome

end Deed

inductive Drains (sink : Sink) : List Deed → Prop
  | none : Drains sink []
  | output : Drains sink [.drain sink .stdout]
  | both : Drains sink [.drain sink .stdout, .drain sink .stderr]

inductive Capture.Opens : Capture → Nat → Sink → Capture → Prop
  | buffered (n : Nat) : Opens .buffered n (.buffered [] []) .buffered
  | files (scratch : Scratch) (slot n : Nat) :
    Opens (.files scratch slot) n
      (.files (scratch.streamPath (toString n ++ "-" ++ toString slot) .stdout)
        (scratch.streamPath (toString n ++ "-" ++ toString slot) .stderr))
      (.files scratch (slot + 1))

theorem Capture.opens_next (c : Capture) (n : Nat) :
    c.Opens n (c.nextSink (Value.ofNat n)).1 (c.nextSink (Value.ofNat n)).2 := by
  cases c with
  | buffered => exact .buffered n
  | files scratch slot => exact .files scratch slot n

/-- A value that is a text. One with lone surrogates has stand-ins for them. -/
inductive Value.IsText : Value → String → Prop
  | plain {s : String} (h : Text.Surrogate.isWithin s = false) : IsText (.text s) s
  | broken {s : String} (h : Text.Surrogate.isWithin s = true) : IsText (.brokenText s) s

theorem Value.ofText_isText (s : String) : (Value.ofText s).IsText s := by
  unfold Value.ofText
  cases h : Text.Surrogate.isWithin s with
  | true => exact .broken h
  | false => exact .plain h

theorem Context.texts_isText (environment : List (String × String)) :
    List.Forall₂ (fun entry pair => pair.1.IsText entry.1 ∧ pair.2.IsText entry.2) environment
      (Context.texts environment) := by
  refine List.forall₂_map_right_iff.mpr (List.forall₂_same.mpr fun entry _ => ?_)
  exact ⟨Value.ofText_isText _, Value.ofText_isText _⟩

structure Context.Fits (settings : Settings) (n : Nat) (content : Bytes) (sink : Sink)
    (context : Context) : Prop where
  id : context.id = Value.ofNat n
  arguments : context.arguments = [.text settings.programName, .text (Payload.text content)]
  environment : List.Forall₂ (fun entry pair => pair.1.IsText entry.1 ∧ pair.2.IsText entry.2)
    settings.environment context.environment
  sink : context.sink = sink

/-- What is asked of a backend and of sinks for some requests. An invocation whose payload denotes
bytes and whose sink can be prepared makes one run, with the compiled module, its own number, its
own payload and its own sink. While it runs, the guest may ask for more. After the run the sink is
drained, if at all, and released. -/
inductive DeedsOf (settings : Settings) (backend : Backend) (m : CompiledModule) :
    List Request → ServingState → List Deed → ServingState → Prop
  | rest (a : ServingState) : DeedsOf settings backend m [] a [] a
  | elsewhere (volume : Files.Volume) (elapsed : Binary64) {requests : List Request}
    {a b : ServingState}
    {deeds : List Deed} (h : DeedsOf settings backend m requests (a.on volume) deeds b) :
    DeedsOf settings backend m (.elsewhere volume elapsed :: requests) a deeds b
  | refused (payload : Value) {requests : List Request} {a b : ServingState} {deeds : List Deed}
    (hc : a.closed = true) (h : DeedsOf settings backend m requests a deeds b) :
    DeedsOf settings backend m (.invoke payload :: requests) a deeds b
  | unread (payload : Value) {requests : List Request} {n : Nat} {c : Capture} {v : Files.Volume}
    {b : ServingState} {deeds : List Deed} (hb : ∀ content, ¬ Payload.Denotes payload content)
    (h : DeedsOf settings backend m requests ⟨n + 1, c, false, v⟩ deeds b) :
    DeedsOf settings backend m (.invoke payload :: requests) ⟨n, c, false, v⟩ deeds b
  | unopened (payload : Value) {requests : List Request} {n : Nat} {c c' : Capture}
    {v v' : Files.Volume} {b : ServingState} {deeds : List Deed} {content : Bytes} {sink : Sink}
    {problem : Problem} (hb : Payload.Denotes payload content) (hs : c.Opens (n + 1) sink c')
    (hv : sink.prepare v = (.error problem, v'))
    (h : DeedsOf settings backend m requests ⟨n + 1, c', false, v'⟩ deeds b) :
    DeedsOf settings backend m (.invoke payload :: requests) ⟨n, c, false, v⟩ deeds b
  | ran (payload : Value) {requests inside : List Request} {n : Nat} {c c' : Capture}
    {v v' w : Files.Volume} {a b : ServingState} {within drains deeds : List Deed} {content : Bytes}
    {sink sink' : Sink} {context : Context} (hb : Payload.Denotes payload content)
    (hs : c.Opens (n + 1) sink c') (hv : sink.prepare v = (.ok (), v'))
    (hx : context.Fits settings (n + 1) content sink)
    (ha : ∃ closed, ∀ r ∈ inside,
      ∃ act ∈ (backend.run closed (some m) context v').acts, act.Causes r)
    (hi : DeedsOf settings backend m inside ⟨n + 1, c', false, v'⟩ within a)
    (hp : sink'.filePaths = sink.filePaths) (hd : Drains sink' drains)
    (h : DeedsOf settings backend m requests (a.on w) deeds b) :
    DeedsOf settings backend m (.invoke payload :: requests) ⟨n, c, false, v⟩
      (.openSink sink :: .run (some m) context :: (within ++ (drains ++ .release sink' :: deeds))) b
  | closed {requests : List Request} {n : Nat} {c : Capture} {v w : Files.Volume} {b : ServingState}
    {deeds : List Deed} (h : DeedsOf settings backend m requests ⟨n, c, true, w⟩ deeds b) :
    DeedsOf settings backend m (.close :: requests) ⟨n, c, false, v⟩
      (.closeCapture :: .closeBackend :: deeds) b
  | idle {requests : List Request} {a b : ServingState} {deeds : List Deed} (hc : a.closed = true)
    (h : DeedsOf settings backend m requests a deeds b) :
    DeedsOf settings backend m (.close :: requests) a deeds b

namespace Drains

variable {sink : Sink} {drains : List Deed}

theorem isDrain (h : Drains sink drains) {d : Deed} (hd : d ∈ drains) :
    ∃ stream, d = .drain sink stream := by
  cases h with
  | none => cases hd
  | output =>
    simp only [List.mem_cons, List.not_mem_nil, or_false] at hd
    exact ⟨_, hd⟩
  | both =>
    simp only [List.mem_cons, List.not_mem_nil, or_false] at hd
    rcases hd with rfl | rfl <;> exact ⟨_, rfl⟩

theorem counts (h : Drains sink drains) :
    drains.countP Deed.isRun = 0 ∧ drains.countP Deed.isOpenSink = 0 ∧
      drains.countP Deed.isRelease = 0 := by
  cases h <;> exact ⟨rfl, rfl, rfl⟩

theorem unclosed (h : Drains sink drains) : drains.Pairwise fun d d' =>
    d.isCloseCapture = true → d'.isRun = false ∧ d'.isOpenSink = false := by
  apply List.pairwise_of_forall_mem_list
  intro d hd d' _ hc
  obtain ⟨stream, rfl⟩ := h.isDrain hd
  cases hc

theorem runless (h : Drains sink drains) : drains.filterMap Deed.runId? = [] := by
  cases h <;> rfl

end Drains

namespace DeedsOf

variable {settings : Settings} {backend : Backend} {m : CompiledModule}
  {requests more : List Request} {a b c : ServingState} {deeds after : List Deed}

theorem append (h : DeedsOf settings backend m requests a deeds b)
    (h' : DeedsOf settings backend m more b after c) :
    DeedsOf settings backend m (requests ++ more) a (deeds ++ after) c := by
  induction h with
  | rest a => exact h'
  | elsewhere volume elapsed h ih => exact .elsewhere volume elapsed (ih h')
  | refused payload hc h ih => exact .refused payload hc (ih h')
  | unread payload hb h ih => exact .unread payload hb (ih h')
  | unopened payload hb hs hv h ih => exact .unopened payload hb hs hv (ih h')
  | ran payload hb hs hv hx ha hi hp hd h _ ih =>
    have hran := ran payload hb hs hv hx ha hi hp hd (ih h')
    simpa only [List.cons_append, List.append_assoc] using hran
  | closed h ih => exact .closed (ih h')
  | idle hc h ih => exact .idle hc (ih h')

theorem shut (h : DeedsOf settings backend m requests a deeds b) (hc : a.closed = true) :
    deeds = [] ∧ b.closed = true := by
  induction h with
  | rest a => exact ⟨rfl, hc⟩
  | elsewhere volume elapsed h ih => exact ih hc
  | refused payload _ h ih => exact ih hc
  | idle _ h ih => exact ih hc
  | _ => cases hc

/-- When the capture was closed, so is the processor. -/
theorem closes (h : DeedsOf settings backend m requests a deeds b) {d : Deed} (hd : d ∈ deeds)
    (hc : d.isCloseCapture = true) : b.closed = true := by
  induction h with
  | rest a => cases hd
  | elsewhere volume elapsed h ih => exact ih hd
  | refused payload _ h ih => exact ih hd
  | unread payload hb h ih => exact ih hd
  | unopened payload hb hs hv h ih => exact ih hd
  | ran payload hb hs hv hx ha hi hp hdr h ihi ih =>
    simp only [List.mem_cons, List.mem_append] at hd
    rcases hd with rfl | rfl | hd | hd | rfl | hd
    · cases hc
    · cases hc
    · exact (h.shut (ihi hd)).2
    · obtain ⟨stream, rfl⟩ := hdr.isDrain hd
      cases hc
    · cases hc
    · exact ih hd
  | closed h ih => exact (h.shut rfl).2
  | idle _ h ih => exact ih hd

theorem compiles (h : DeedsOf settings backend m requests a deeds b) :
    ∀ d ∈ deeds, d.isCompile = false := by
  induction h with
  | rest a => exact nofun
  | elsewhere volume elapsed h ih => exact ih
  | refused payload _ h ih => exact ih
  | unread payload hb h ih => exact ih
  | unopened payload hb hs hv h ih => exact ih
  | ran payload hb hs hv hx ha hi hp hdr h ihi ih =>
    intro d hd
    simp only [List.mem_cons, List.mem_append] at hd
    rcases hd with rfl | rfl | hd | hd | rfl | hd
    · rfl
    · rfl
    · exact ihi d hd
    · obtain ⟨stream, rfl⟩ := hdr.isDrain hd
      rfl
    · rfl
    · exact ih d hd
  | closed h ih =>
    intro d hd
    simp only [List.mem_cons] at hd
    rcases hd with rfl | rfl | hd
    · rfl
    · rfl
    · exact ih d hd
  | idle _ h ih => exact ih

/-- There is one run for each sink that was opened, and each of these sinks is released once. -/
theorem balanced (h : DeedsOf settings backend m requests a deeds b) :
    deeds.countP Deed.isRun = deeds.countP Deed.isOpenSink ∧
      deeds.countP Deed.isRelease = deeds.countP Deed.isOpenSink := by
  induction h with
  | rest a => exact ⟨rfl, rfl⟩
  | elsewhere volume elapsed h ih => exact ih
  | refused payload _ h ih => exact ih
  | unread payload hb h ih => exact ih
  | unopened payload hb hs hv h ih => exact ih
  | ran payload hb hs hv hx ha hi hp hdr h ihi ih =>
    obtain ⟨hrun, hopen, hrelease⟩ := hdr.counts
    simp only [List.countP_cons, List.countP_append, hrun, hopen, hrelease]
    simp only [Deed.isRun, Deed.runId?, Deed.isOpenSink, Deed.isRelease, Option.isSome,
      Bool.false_eq_true, if_true, if_false]
    omega
  | closed h ih => exact ih
  | idle _ h ih => exact ih

/-- A number, those of the invocations within and the later ones are in order. -/
theorem ascending_run {low mid high : Nat} {ids later : List Nat}
    (hs : ids.Pairwise (· < ·)) (hs' : later.Pairwise (· < ·))
    (hi : ∀ n ∈ ids, low + 1 < n ∧ n ≤ mid) (hi' : ∀ n ∈ later, mid < n ∧ n ≤ high)
    (hl : low + 1 ≤ mid) (hh : mid ≤ high) :
    ((low + 1) :: (ids ++ later)).Pairwise (· < ·) ∧
      ∀ n ∈ (low + 1) :: (ids ++ later), low < n ∧ n ≤ high := by
  constructor
  · apply List.pairwise_cons.mpr
    constructor
    · intro k hk
      rcases List.mem_append.mp hk with hk | hk
      · exact (hi k hk).1
      · have hlow := (hi' k hk).1
        omega
    · apply List.pairwise_append.mpr
      refine ⟨hs, hs', fun j hj k hk => ?_⟩
      have hj' := (hi j hj).2
      have hk' := (hi' k hk).1
      omega
  · intro k hk
    rcases List.mem_cons.mp hk with rfl | hk
    · omega
    · rcases List.mem_append.mp hk with hk | hk
      · have hk' := hi k hk
        omega
      · have hk' := hi' k hk
        omega

/-- The runs are made under numbers that were not given out before, each under its own and in their
order. -/
theorem numbers (h : DeedsOf settings backend m requests a deeds b) :
    a.accepted ≤ b.accepted ∧ ∃ ids : List Nat,
      deeds.filterMap Deed.runId? = ids.map Value.ofNat ∧ ids.Pairwise (· < ·) ∧
      ∀ n ∈ ids, a.accepted < n ∧ n ≤ b.accepted := by
  induction h with
  | rest a => exact ⟨Nat.le_refl _, [], rfl, .nil, nofun⟩
  | elsewhere volume elapsed h ih => exact ih
  | refused payload _ h ih => exact ih
  | unread payload hb h ih =>
    obtain ⟨hle, ids, hids, hsort, hin⟩ := ih
    exact ⟨Nat.le_of_succ_le hle, ids, hids, hsort, fun n hn =>
      ⟨Nat.lt_of_succ_lt (hin n hn).1, (hin n hn).2⟩⟩
  | unopened payload hb hs hv h ih =>
    obtain ⟨hle, ids, hids, hsort, hin⟩ := ih
    exact ⟨Nat.le_of_succ_le hle, ids, hids, hsort, fun n hn =>
      ⟨Nat.lt_of_succ_lt (hin n hn).1, (hin n hn).2⟩⟩
  | @ran payload requests inside n c c' v v' w a b within drains deeds content sink sink' context
      hb hs hv hx ha hi hp hdr h ihi ih =>
    obtain ⟨hle, ids, hids, hsort, hin⟩ := ihi
    obtain ⟨hle', ids', hids', hsort', hin'⟩ := ih
    dsimp only [ServingState.on] at hle hle' hin hin' ⊢
    refine ⟨by omega, (n + 1) :: (ids ++ ids'), ?_, ascending_run hsort hsort' hin hin' hle hle'⟩
    have hid : Deed.runId? (.run (some m) context) = some (Value.ofNat (n + 1)) := by
      rw [Deed.runId?, hx.id]
    simp only [List.filterMap_cons, List.filterMap_append, hid, hids, hids', hdr.runless,
      List.map_cons, List.map_append]
    rfl
  | closed h ih => exact ih
  | idle _ h ih => exact ih

/-- After the capture was closed there is no run and no new sink. -/
theorem last (h : DeedsOf settings backend m requests a deeds b) :
    deeds.Pairwise fun d d' =>
      d.isCloseCapture = true → d'.isRun = false ∧ d'.isOpenSink = false := by
  induction h with
  | rest a => exact .nil
  | elsewhere volume elapsed h ih => exact ih
  | refused payload _ h ih => exact ih
  | unread payload hb h ih => exact ih
  | unopened payload hb hs hv h ih => exact ih
  | ran payload hb hs hv hx ha hi hp hdr h ihi ih =>
    apply List.pairwise_cons.mpr
    refine ⟨fun _ _ hc => (by cases hc), ?_⟩
    apply List.pairwise_cons.mpr
    refine ⟨fun _ _ hc => (by cases hc), ?_⟩
    apply List.pairwise_append.mpr
    refine ⟨ihi, ?_, fun d hd d' hd' hc => ?_⟩
    · apply List.pairwise_append.mpr
      refine ⟨hdr.unclosed, ?_, fun d hd d' _ hc => ?_⟩
      · apply List.pairwise_cons.mpr
        exact ⟨fun _ _ hc => (by cases hc), ih⟩
      · obtain ⟨stream, rfl⟩ := hdr.isDrain hd
        cases hc
    · -- A guest that has closed the processor is the last one.
      obtain ⟨rfl, -⟩ := h.shut (hi.closes hd hc)
      rcases List.mem_append.mp hd' with hd' | hd'
      · obtain ⟨stream, rfl⟩ := hdr.isDrain hd'
        exact ⟨rfl, rfl⟩
      · obtain rfl := List.mem_singleton.mp hd'
        exact ⟨rfl, rfl⟩
  | closed h ih =>
    obtain ⟨rfl, -⟩ := h.shut rfl
    simp [Deed.isRun, Deed.runId?, Deed.isOpenSink]
  | idle _ h ih => exact ih

end DeedsOf

end GuestRunner
