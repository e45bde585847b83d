import GuestRunner.Proofs.Scratch.Removal
import Mathlib.Data.List.Nodup

/-!
# Whose files the files are

Instances that share a directory open sinks in turns. No two of the paths they compute are equal,
whatever the numbers of the invocations: within an instance the count of sinks tells them apart, and
the token does between instances. As soon as such a path leads to a file, the listing of the
instance that computed it shows the path, and no other listing does. A number with too many digits
to be written is refused before a path is computed or a sink counted.
-/

set_option autoImplicit false

namespace GuestRunner

open Files Files.Volume

def Sink.paths : Sink → List Path
  | .buffered .. => []
  | .files out err => [out, err]

namespace Capture

structure Opening (ι : Type) where
  owner : ι
  id : Int
  volume : Volume

structure Opened (ι : Type) where
  owner : ι
  /-- The sink whose paths were computed, if the number could be written. -/
  sink : Option Sink
  answer : Except Problem Sink

variable {ι : Type} [DecidableEq ι]

def Opened.paths (o : Opened ι) : List Path := o.sink.elim [] Sink.paths

def openEach (captures : ι → Capture) : List (Opening ι) → List (Opened ι)
  | [] => []
  | o :: rest =>
    let capture := captures o.owner
    let (answer, after, _) := capture.openSink (.int o.id) o.volume
    let sink :=
      match capture.refusal? (.int o.id) with
      | some _ => none
      | none => some (capture.nextSink (.int o.id)).1
    ⟨o.owner, sink, answer⟩ :: openEach (Function.update captures o.owner after) rest

end Capture

def Files.Volume.HasFile (v : Volume) (p : Path) : Prop :=
  ∃ place content, v.place? p = some place ∧ v.tree.node? place = some (.file content)

/-- A file that a path leads to has its name in the directory that the path goes through. -/
theorem Files.Volume.HasFile.listed {v : Volume} {dir : Path} {name : String}
    (h : v.HasFile (dir.child name)) (hn : Ordinary name) : name ∈ v.namesIn dir := by
  obtain ⟨place, content, hplace, hnode⟩ := h
  have hwalk : v.tree.locate true (v.start dir) (dir.parts ++ [name]) = .ok place := by
    unfold place? at hplace
    cases hl : v.tree.locate true (v.start (dir.child name)) (dir.child name).parts with
    | error code =>
      rw [hl] at hplace
      cases hplace
    | ok found =>
      rw [hl] at hplace
      cases hplace
      exact hl
  obtain ⟨d, hd, hdir, hentry⟩ := Tree.walk_before hn rfl rfl _ _ _ hwalk
  have hthere : v.tree.node? (d ++ [name]) ≠ none := by
    rcases hentry with rfl | ⟨target, hlink⟩
    · simp [hnode]
    · simp [hlink]
  rw [namesIn, Tree.locate, hd]
  dsimp only
  rw [if_pos (by simp [Tree.isDirectory, hdir])]
  exact Tree.mem_names.mpr hthere

namespace Scratch

variable {s s' : Scratch} {v : Volume} {id id' : Int} {slot slot' : Nat} {stream : Stream}
  {p : Path}

def slotSink (s : Scratch) (id : Int) (slot : Nat) : Sink :=
  .files (s.streamPath (Capture.runLabel (.int id) slot) .stdout)
    (s.streamPath (Capture.runLabel (.int id) slot) .stderr)

theorem mem_slotSink (ht : IsToken s.token) :
    p ∈ (s.slotSink id slot).paths ↔ ∃ stream, p = s.path.child (s.slotName id slot stream) := by
  rw [slotSink, Sink.paths, slotPath_child ht, slotPath_child ht]
  constructor
  · intro h
    rcases List.mem_pair.mp h with h | h
    · exact ⟨.stdout, h⟩
    · exact ⟨.stderr, h⟩
  · rintro ⟨_ | _, rfl⟩ <;> simp

theorem slotSink_nodup (ht : IsToken s.token) (id : Int) (slot : Nat) :
    (s.slotSink id slot).paths.Nodup := by
  rw [slotSink, Sink.paths, slotPath_child ht, slotPath_child ht, List.nodup_cons]
  refine ⟨fun hmem => ?_, List.nodup_singleton _⟩
  have hname := child_inj (List.mem_singleton.mp hmem)
  exact absurd (streamName_inj hname).2 (by decide)

/-- A path that two sinks in a directory have in common makes them one. -/
theorem slotSink_apart (ht : IsToken s.token) (ht' : IsToken s'.token) (hpath : s.path = s'.path)
    (h : p ∈ (s.slotSink id slot).paths) (h' : p ∈ (s'.slotSink id' slot').paths) :
    s.token = s'.token ∧ slot = slot' := by
  obtain ⟨stream, rfl⟩ := (mem_slotSink ht).mp h
  obtain ⟨stream', he⟩ := (mem_slotSink ht').mp h'
  rw [hpath] at he
  have hname := child_inj he
  have howns := owns_slotName s' id' slot' stream'
  rw [← hname] at howns
  have htoken := token_of_owns ht ht' (owns_slotName s id slot stream) howns
  refine ⟨htoken, ?_⟩
  have hsame : s.slotName id slot stream = s.slotName id' slot' stream' := by
    rw [hname, slotName, slotName, streamName, streamName, htoken]
  exact Capture.runLabel_inj (streamName_inj hsame).1

/-- A file is listed by the instances that own its name, as long as they can list at all. -/
theorem mem_files_iff {name : String} (hn : Ordinary name) (hf : v.HasFile (s.path.child name)) :
    s.path.child name ∈ (s.files v).1 ↔
      s.owns name = true ∧ ∃ names, (v.list s.path).1 = .ok names := by
  rcases v.faultless_or_fails .list with hs | ⟨e, hs⟩
  · rw [files_faultless s hs, Volume.list, guarded_faultless hs]
    have hlisted := hf.listed hn
    constructor
    · intro h
      obtain ⟨other, hother, he⟩ := List.mem_map.mp h
      rw [← child_inj he]
      exact ⟨(List.mem_filter.mp hother).2, _, rfl⟩
    · rintro ⟨howns, -⟩
      exact List.mem_map.mpr ⟨name, List.mem_filter.mpr ⟨hlisted, howns⟩, rfl⟩
  · rw [files_fails s hs, Volume.list, guarded_fails hs]
    simp

end Scratch

namespace Capture

variable {ι : Type} [DecidableEq ι] {captures : ι → Capture} {scratch : ι → Scratch}
  {start : ι → Nat}

theorem openSink_refused (s : Scratch) (slot : Nat) {id : Int} (v : Volume)
    (h : (Value.int id).isWritable = false) :
    (Capture.files s slot).refusal? (.int id) = some .unwritableInteger ∧
      (Capture.files s slot).openSink (.int id) v =
        (.error (.refusal .unwritableInteger), .files s slot, v) := by
  simp [openSink, refusal?, h]

theorem openSink_files (s : Scratch) (slot : Nat) {id : Int} (v : Volume)
    (h : (Value.int id).isWritable = true) :
    (Capture.files s slot).refusal? (.int id) = none ∧
      ∃ answer v', (Capture.files s slot).openSink (.int id) v =
          (answer, .files s (slot + 1), v') ∧
        (answer = .ok (s.slotSink id slot) ∨ ∃ problem, answer = .error problem) := by
  refine ⟨by simp [refusal?, h], ?_⟩
  simp only [openSink, refusal?, h, if_true, nextSink]
  split
  · exact ⟨_, _, rfl, Or.inl rfl⟩
  · exact ⟨_, _, rfl, Or.inr ⟨_, rfl⟩⟩

/-- What a call leaves behind, and the counts of the instances after it. -/
inductive Opening.Leaves (scratch : ι → Scratch) (start : ι → Nat) (o : Opening ι) :
    Opened ι → (ι → Nat) → Prop
  | refused (h : (Value.int o.id).isWritable = false) :
      Leaves scratch start o ⟨o.owner, none, .error (.refusal .unwritableInteger)⟩ start
  | computed (h : (Value.int o.id).isWritable = true) (answer : Except Problem Sink)
      (ha : answer = .ok ((scratch o.owner).slotSink o.id (start o.owner)) ∨
        ∃ problem, answer = .error problem) :
      Leaves scratch start o
        ⟨o.owner, some ((scratch o.owner).slotSink o.id (start o.owner)), answer⟩
        (Function.update start o.owner (start o.owner + 1))

theorem Opening.Leaves.grows {o : Opening ι} {opened : Opened ι} {after : ι → Nat}
    (h : o.Leaves scratch start opened after) (i : ι) : start i ≤ after i := by
  cases h with
  | refused h => exact Nat.le_refl _
  | computed h answer ha =>
    by_cases hi : i = o.owner
    · subst hi
      rw [Function.update_self]
      omega
    · exact Nat.le_of_eq (Function.update_of_ne hi _ _).symm

theorem openEach_cons (h : ∀ i, captures i = .files (scratch i) (start i)) (o : Opening ι)
    (rest : List (Opening ι)) : ∃ opened next after,
    openEach captures (o :: rest) = opened :: openEach next rest ∧
      o.Leaves scratch start opened after ∧ ∀ i, next i = .files (scratch i) (after i) := by
  cases hw : (Value.int o.id).isWritable with
  | false =>
    obtain ⟨href, hopen⟩ := openSink_refused (scratch o.owner) (start o.owner) o.volume hw
    refine ⟨_, captures, start, ?_, .refused hw, h⟩
    rw [openEach, h o.owner, hopen, href, ← h o.owner]
    dsimp only
    rw [Function.update_eq_self]
  | true =>
    obtain ⟨href, answer, v', hopen, hanswer⟩ :=
      openSink_files (scratch o.owner) (start o.owner) o.volume hw
    refine ⟨_, Function.update captures o.owner (.files (scratch o.owner) (start o.owner + 1)), _,
      ?_, .computed hw answer hanswer, fun i => ?_⟩
    · rw [openEach, h o.owner, hopen, href]
      rfl
    · by_cases hi : i = o.owner
      · subst hi
        rw [Function.update_self, Function.update_self]
      · rw [Function.update_of_ne hi, Function.update_of_ne hi, h i]

/-- Every sink that is computed has a count that its instance has not used before. -/
theorem openEach_slots (h : ∀ i, captures i = .files (scratch i) (start i))
    (calls : List (Opening ι)) : ∀ o ∈ openEach captures calls,
      (o.sink = none ∧ o.answer = .error (.refusal .unwritableInteger)) ∨
        ∃ id slot, start o.owner ≤ slot ∧ o.sink = some ((scratch o.owner).slotSink id slot) ∧
          (o.answer = .ok ((scratch o.owner).slotSink id slot) ∨
            ∃ problem, o.answer = .error problem) := by
  induction calls generalizing captures start with
  | nil => exact fun o ho => by cases ho
  | cons call rest ih =>
    obtain ⟨opened, next, after, hopened, hleaves, hnext⟩ := openEach_cons h call rest
    rw [hopened]
    intro o ho
    rcases List.mem_cons.mp ho with rfl | ho
    · cases hleaves with
      | refused hw => exact Or.inl ⟨rfl, rfl⟩
      | computed hw answer hanswer =>
        exact Or.inr ⟨call.id, start call.owner, Nat.le_refl _, rfl, hanswer⟩
    · refine (ih hnext o ho).imp_right ?_
      rintro ⟨id, slot, hslot, hsink⟩
      exact ⟨id, slot, Nat.le_trans (hleaves.grows o.owner) hslot, hsink⟩

theorem openEach_nodup (h : ∀ i, captures i = .files (scratch i) (start i))
    (htoken : ∀ i, Scratch.IsToken (scratch i).token)
    (hapart : ∀ i j, (scratch i).token = (scratch j).token → i = j)
    (hpath : ∀ i j, (scratch i).path = (scratch j).path) (calls : List (Opening ι)) :
    ((openEach captures calls).flatMap Opened.paths).Nodup := by
  induction calls generalizing captures start with
  | nil => exact List.nodup_nil
  | cons call rest ih =>
    obtain ⟨opened, next, after, hopened, hleaves, hnext⟩ := openEach_cons h call rest
    rw [hopened, List.flatMap_cons]
    cases hleaves with
    | refused hw => exact ih hnext
    | computed hw answer hanswer =>
      refine List.nodup_append'.mpr ⟨Scratch.slotSink_nodup (htoken _) _ _, ih hnext, ?_⟩
      intro p hp hlater
      obtain ⟨o, ho, hp'⟩ := List.mem_flatMap.mp hlater
      rcases openEach_slots hnext rest o ho with ⟨hnone, -⟩ | ⟨id, slot, hslot, hsink, -⟩
      · simp [Opened.paths, hnone] at hp'
      · rw [Opened.paths, hsink] at hp'
        obtain ⟨hsame, rfl⟩ := Scratch.slotSink_apart (htoken _) (htoken _) (hpath _ _) hp hp'
        rw [← hapart _ _ hsame, Function.update_self] at hslot
        omega

theorem openEach_owners (h : ∀ i, captures i = .files (scratch i) (start i))
    (calls : List (Opening ι)) :
    (openEach captures calls).map (fun o => (o.owner, o.sink.isSome)) =
      calls.map fun o => (o.owner, (Value.int o.id).isWritable) := by
  induction calls generalizing captures start with
  | nil => rfl
  | cons call rest ih =>
    obtain ⟨opened, next, after, hopened, hleaves, hnext⟩ := openEach_cons h call rest
    rw [hopened, List.map_cons, List.map_cons, ih hnext]
    cases hleaves with
    | refused hw => rw [hw, Option.isSome_none]
    | computed hw answer hanswer => rw [hw, Option.isSome_some]

/-- Instances with different tokens that share a directory compute no path twice, for whatever
invocations and whether a sink can be emptied or not. Every call computes two paths, unless its
number has too many digits to be written and the call is refused. Each path is a name in the
directory, and when it leads to a file, it is listed by the instance that computed it and by no
other, as long as the directory can be listed. -/
theorem paths_owned {dir : Path} (h : ∀ i, captures i = .files (scratch i) (start i))
    (htoken : ∀ i, Scratch.IsToken (scratch i).token)
    (hapart : ∀ i j, i ≠ j → (scratch i).token ≠ (scratch j).token)
    (hdir : ∀ i, (scratch i).path = dir) (calls : List (Opening ι)) :
    (openEach captures calls).map (fun o => (o.owner, o.sink.isSome)) =
        calls.map (fun o => (o.owner, (Value.int o.id).isWritable)) ∧
      ((openEach captures calls).flatMap Opened.paths).Nodup ∧
      ∀ o ∈ openEach captures calls,
        (o.sink = none → o.answer = .error (.refusal .unwritableInteger)) ∧
        ∀ sink, o.sink = some sink →
          sink.paths.length = 2 ∧ (o.answer = .ok sink ∨ ∃ problem, o.answer = .error problem) ∧
          ∀ p ∈ sink.paths,
            (∃ name, Ordinary name ∧ '/' ∉ name.toList ∧ p = dir.child name) ∧
            ∀ v : Volume, v.HasFile p → ∀ i,
              p ∈ ((scratch i).files v).1 ↔ i = o.owner ∧ ∃ names, (v.list dir).1 = .ok names := by
  have hinj : ∀ i j, (scratch i).token = (scratch j).token → i = j := fun i j he =>
    Decidable.byContradiction fun hij => hapart i j hij he
  refine ⟨openEach_owners h calls, openEach_nodup h htoken hinj (fun i j => ?_) calls, ?_⟩
  · rw [hdir i, hdir j]
  intro o ho
  rcases openEach_slots h calls o ho with ⟨hnone, hrefused⟩ | ⟨id, slot, -, hsink, hanswer⟩
  · refine ⟨fun _ => hrefused, fun sink hs => ?_⟩
    rw [hnone] at hs
    cases hs
  refine ⟨fun hnone => ?_, fun sink hs => ?_⟩
  · rw [hsink] at hnone
    cases hnone
  rw [hsink] at hs
  cases hs
  refine ⟨rfl, hanswer, fun p hp => ?_⟩
  obtain ⟨stream, rfl⟩ := (Scratch.mem_slotSink (htoken _)).mp hp
  have howns := Scratch.owns_slotName (scratch o.owner) id slot stream
  have hname := Scratch.ordinary_of_owns howns
  have hslash : '/' ∉ ((scratch o.owner).slotName id slot stream).toList :=
    Scratch.streamName_unreserved (htoken _) (Or.inl rfl)
      (runLabel_unreserved id slot (Or.inl rfl))
  rw [hdir o.owner]
  refine ⟨⟨_, hname, hslash, rfl⟩, fun v hfile i => ?_⟩
  rw [← hdir i] at hfile ⊢
  rw [Scratch.mem_files_iff hname hfile]
  refine and_congr_left fun _ => ⟨fun hi => ?_, fun hi => ?_⟩
  · exact hinj _ _ (Scratch.token_of_owns (htoken i) (htoken o.owner) hi howns)
  · rw [hi]
    exact howns

end Capture

namespace Sample

def neighbor (first : Bool) : Scratch :=
  ⟨⟨.single, ["box"]⟩, false, if first then "00000000000a" else "00000000000b"⟩

def boxWith (name : String) (n : Files.Node) : Volume where
  tree := ⟨[(["box"], .directory), (["box", name], n)]⟩
  home := []
  temporary := []
  schedule := .quiet
  namesTried := 0
  tokensDrawn := 0

def neighborFile : String := "tmp-00000000000a--1-1.stderr"

def neighborCalls : List (Capture.Opening Bool) :=
  [⟨true, -1, boxWith "tmp-00000000000a--1-0.stdout" .directory⟩,
    ⟨true, Int.ofNat (Nat.pow 10 4300), boxWith neighborFile (.file [])⟩,
    ⟨true, -1, boxWith neighborFile (.file [])⟩,
    ⟨false, 10000000000000000000000000, boxWith neighborFile (.file [])⟩]

def neighborCaptures (first : Bool) : Capture := .files (neighbor first) 0

end Sample

open Sample Capture in
/-- The call that cannot clear its file takes its name with it, the one with too long a number takes
none, and the file of the next is listed by its owner alone. -/
theorem Capture.paths_owned_sample :
    (openEach neighborCaptures neighborCalls).map
        (fun o => (o.owner, o.sink.isSome, o.answer.toBool)) =
      [(true, true, false), (true, false, false), (true, true, true), (false, true, true)] ∧
    ((openEach neighborCaptures neighborCalls).flatMap Opened.paths).Nodup ∧
      ∀ first, (neighbor true).path.child neighborFile ∈
          ((neighbor first).files (boxWith neighborFile (.file []))).1 ↔
        first = true ∧ ∃ names,
          ((boxWith neighborFile (.file [])).list (neighbor true).path).1 = .ok names := by
  have hfile : (boxWith neighborFile (.file [])).HasFile
    ((neighbor true).path.child neighborFile) :=
    ⟨["box", neighborFile], [], by decide +kernel, by decide +kernel⟩
  have hcaptures : ∀ first, neighborCaptures first = .files (neighbor first) 0 := fun _ => rfl
  obtain ⟨-, hnodup, hpaths⟩ := @paths_owned Bool _ neighborCaptures neighbor (fun _ => 0)
    (neighbor true).path hcaptures (by decide +kernel) (by decide +kernel) (fun _ => rfl)
    neighborCalls
  have hthird : (openEach neighborCaptures neighborCalls)[2]?.map (fun o => (o.owner, o.sink)) =
      some (true, some ((neighbor true).slotSink (-1) 1)) := by decide +kernel
  obtain ⟨o, ho, hfields⟩ := Option.map_eq_some_iff.mp hthird
  obtain ⟨howner, hsink⟩ := Prod.mk.inj hfields
  obtain ⟨-, -, hlisted⟩ := (hpaths o (List.mem_of_getElem? ho)).2 _ hsink
  refine ⟨by decide +kernel, hnodup, fun first => ?_⟩
  rw [(hlisted _ (by decide +kernel)).2 _ hfile first, howner]

end GuestRunner
