import GuestRunner.Proofs.Toml.Keys
import GuestRunner.Settings.Loading

/-!
# The fields of settings

Settings are made field by field. They are made if every field can be read, and else all defects of
all fields are told, each at a place under the name of its field. What a reader has accepted it
accepts again in the form in which settings give it back, and finds the same content in it.
-/

set_option autoImplicit false

namespace GuestRunner.Settings

namespace Reading

variable {α β γ : Type}

def defects : Except (List Defect) α → List Defect
  | .ok _ => []
  | .error found => found

theorem both_eq_ok {a : Except (List Defect) α} {b : Except (List Defect) β} {x : α} {y : β} :
    both a b = .ok (x, y) ↔ a = .ok x ∧ b = .ok y := by
  cases a <;> cases b <;> simp [both]

theorem both_defects (a : Except (List Defect) α) (b : Except (List Defect) β) :
    defects (both a b) = defects a ++ defects b := by
  cases a <;> cases b <;> simp [both, defects]

theorem bind_defects {r : Except (List Defect) α} {f : α → Except (List Defect) β}
    (hf : ∀ a, defects (f a) = []) : defects (r >>= f) = defects r := by
  cases r with
  | ok a => exact hf a
  | error found => rfl

def Under (place : List Locator) (r : Except (List Defect) α) : Prop :=
  ∀ found, r = .error found → found ≠ [] ∧ ∀ d ∈ found, place <+: d.place

theorem Under.ok {place : List Locator} {a : α} : Under place (.ok a) := nofun

theorem Under.single {place inner : List Locator} {complaint : Complaint} (h : place <+: inner) :
    Under place (.error [⟨inner, complaint⟩] : Except (List Defect) α) := by
  rintro _ ⟨⟩
  exact ⟨by simp, by simpa using h⟩

theorem Under.located {place inner : List Locator} {r : Except Complaint α} (h : place <+: inner) :
    Under place (located inner r) := by
  cases r with
  | ok a => exact .ok
  | error complaint => exact .single h

theorem Under.both {place : List Locator} {a : Except (List Defect) α}
    {b : Except (List Defect) β} (ha : Under place a) (hb : Under place b) :
    Under place (both a b) := by
  cases a with
  | ok a =>
    cases b with
    | ok b => exact .ok
    | error found =>
      rintro _ ⟨⟩
      exact hb _ rfl
  | error first =>
    cases b with
    | ok b =>
      rintro _ ⟨⟩
      exact ha _ rfl
    | error second =>
      rintro _ ⟨⟩
      obtain ⟨hn, hd⟩ := ha _ rfl
      refine ⟨by simp [hn], fun d h => ?_⟩
      rcases List.mem_append.mp h with h | h
      · exact hd d h
      · exact (hb _ rfl).2 d h

theorem Under.map {place : List Locator} {r : Except (List Defect) α} (f : α → β)
    (h : Under place r) : Under place (r.map f) := by
  cases r with
  | ok a => exact .ok
  | error found =>
    rintro _ ⟨⟩
    exact h _ rfl

theorem Under.all {place : List Locator} {results : List (Except (List Defect) α)}
    (h : ∀ r ∈ results, Under place r) : Under place (all results) := by
  induction results with
  | nil => exact .ok
  | cons r rest ih =>
    obtain ⟨hr, hrest⟩ := List.forall_mem_cons.mp h
    exact (hr.both (ih hrest)).map _

theorem bindings_under (field : String) (v : Value) : Under [.key field] (bindings field v) := by
  cases v with
  | table entries =>
    refine .map _ (.all fun r hr => ?_)
    obtain ⟨⟨key, value⟩, -, rfl⟩ := List.mem_map.mp hr
    exact .both (.located (by simp)) (.located (by simp))
  | _ => exact .single (List.prefix_refl _)

theorem mount_under {outer place : List Locator} (hp : outer <+: place) (v : Value) :
    Under outer (mount place v) := by
  have h : ∀ i : Locator, outer <+: place ++ [i] := fun i => hp.trans (List.prefix_append _ _)
  unfold mount
  split
  · rintro _ ⟨⟩
    exact ⟨by simp, by simp [h]⟩
  · exact .both (.located (h _)) (.single (h _))
  · exact .both (.located (h _)) (.located (h _))
  · exact .single hp
  · exact .single hp

theorem mountList_under (field : String) (v : Value) : Under [.key field] (mountList field v) := by
  unfold mountList
  split
  · refine .all fun r hr => ?_
    obtain ⟨i, hi, rfl⟩ := List.mem_mapIdx.mp hr
    exact mount_under (by simp) _
  · exact .single (List.prefix_refl _)

theorem all_map_ok {f : α → Except (List Defect) β} {g : α → β} {items : List α}
    (h : ∀ a ∈ items, f a = .ok (g a)) : all (items.map f) = .ok (items.map g) := by
  induction items with
  | nil => rfl
  | cons a rest ih =>
    obtain ⟨ha, hr⟩ := List.forall_mem_cons.mp h
    rw [List.map_cons, List.map_cons, all, ha, ih hr]
    rfl

end Reading

inductive Field
  | path
  | scratchDirectory
  | capture
  | engine
  | programName
  | environment
  | mounts
  | fuelBudget
  | memoryBytes
  | timeoutSeconds
  | failOnStderr
  deriving DecidableEq, Repr

namespace Field

def all : List Field :=
  [path, scratchDirectory, capture, engine, programName, environment, mounts, fuelBudget,
    memoryBytes, timeoutSeconds, failOnStderr]

def name : Field → String
  | path => "path"
  | scratchDirectory => "io_dir"
  | capture => "capture"
  | engine => "backend"
  | programName => "program_name"
  | environment => "env"
  | mounts => "readonly_mounts"
  | fuelBudget => "fuel_budget"
  | memoryBytes => "memory_bytes"
  | timeoutSeconds => "timeout_seconds"
  | failOnStderr => "fail_on_stderr"

abbrev Content : Field → Type
  | path | scratchDirectory => Option String
  | capture => CaptureKind
  | engine => EngineKind
  | programName => String
  | environment | mounts => List (String × String)
  | fuelBudget | memoryBytes => Option Nat
  | timeoutSeconds => Option Binary64
  | failOnStderr => Bool

def get : (f : Field) → Settings → f.Content
  | path => Settings.path
  | scratchDirectory => Settings.scratchDirectory
  | capture => Settings.capture
  | engine => Settings.engine
  | programName => Settings.programName
  | environment => Settings.environment
  | mounts => Settings.mounts
  | fuelBudget => Settings.fuelBudget
  | memoryBytes => Settings.memoryBytes
  | timeoutSeconds => Settings.timeoutSeconds
  | failOnStderr => Settings.failOnStderr

open Reading in
def read : (f : Field) → Value → Except (List Defect) f.Content
  | path => fun v => located [.key "path"] (optional text v)
  | scratchDirectory => fun v => located [.key "io_dir"] (optional text v)
  | capture => fun v => located [.key "capture"] (captureKind v)
  | engine => fun v => located [.key "backend"] (engineKind v)
  | programName => fun v => located [.key "program_name"] (usableName v)
  | environment => bindings "env"
  | mounts => mountList "readonly_mounts"
  | fuelBudget => fun v => located [.key "fuel_budget"] (optional positiveInteger v)
  | memoryBytes => fun v => located [.key "memory_bytes"] (optional positiveInteger v)
  | timeoutSeconds => fun v => located [.key "timeout_seconds"] (optional positiveNumber v)
  | failOnStderr => fun v => located [.key "fail_on_stderr"] (boolean v)

def write : (f : Field) → f.Content → Value
  | path | scratchDirectory => Value.ofOption .ofText
  | capture => .capture
  | engine => .engine
  | programName => .text
  | environment => textTable
  | mounts => fun pairs =>
    .list (pairs.map fun (host, guest) => .tuple [.ofText host, .ofText guest])
  | fuelBudget | memoryBytes => Value.ofOption Value.ofNat
  | timeoutSeconds => Value.ofOption .float
  | failOnStderr => .bool

def default (f : Field) : f.Content := f.get Settings.default

def told (given : Fields) (f : Field) : Except (List Defect) f.Content :=
  field given f.name f.default f.read

def defects (result : (f : Field) → Except (List Defect) f.Content) : List Defect :=
  all.flatMap fun f => Reading.defects (result f)

theorem read_under (f : Field) (v : Value) : Reading.Under [.key f.name] (f.read v) := by
  cases f with
  | environment => exact Reading.bindings_under _ v
  | mounts => exact Reading.mountList_under _ v
  | _ => exact .located (List.prefix_refl _)

end Field

theorem get_ext {s s' : Settings} (h : ∀ f : Field, f.get s = f.get s') : s = s' := by
  cases s
  cases s'
  rw [Settings.mk.injEq]
  exact ⟨h .path, h .scratchDirectory, h .capture, h .engine, h .programName, h .environment,
    h .mounts, h .fuelBudget, h .memoryBytes, h .timeoutSeconds, h .failOnStderr⟩

theorem Field.gather {ε : Type} {result : (f : Field) → Except ε f.Content}
    (h : ∀ f, ∃ x, result f = .ok x) : ∃ s : Settings, ∀ f, result f = .ok (f.get s) := by
  choose x hx using h
  refine ⟨⟨x .path, x .scratchDirectory, x .capture, x .engine, x .programName, x .environment,
    x .mounts, x .fuelBudget, x .memoryBytes, x .timeoutSeconds, x .failOnStderr⟩, fun f => ?_⟩
  rw [hx]
  cases f <;> rfl

theorem fields_lookup (s : Settings) (f : Field) :
    s.fields.lookup f.name = some (f.write (f.get s)) := by
  cases f <;> rfl

section

variable {given : Fields} {s : Settings}

open Reading Settings.Field in
theorem ofFields_told (given : Fields) : ofFields given =
    (both (told given .path) <| both (told given .scratchDirectory) <|
      both (told given .capture) <| both (told given .engine) <|
      both (told given .programName) <| both (told given .environment) <|
      both (told given .mounts) <| both (told given .fuelBudget) <|
      both (told given .memoryBytes) <| both (told given .timeoutSeconds)
        (told given .failOnStderr)) >>= fun (path, scratchDirectory, capture, engine, name,
          environment, mounts, fuel, memory, timeout, failOnStderr) =>
      .ok ⟨path, scratchDirectory, capture, engine, name, environment, mounts, fuel, memory,
        timeout, failOnStderr⟩ :=
  rfl

theorem ofFields_eq_ok : ofFields given = .ok s ↔ ∀ f : Field, f.told given = .ok (f.get s) := by
  rw [ofFields_told, bind_eq_ok]
  constructor
  · rintro ⟨⟨_, _, _, _, _, _, _, _, _, _, _⟩, h, ⟨⟩⟩ f
    simp only [Reading.both_eq_ok] at h
    cases f <;> simp only [h] <;> rfl
  · intro h
    simp only [h]
    exact ⟨_, rfl, rfl⟩

theorem ofFields_defects (given : Fields) :
    Reading.defects (ofFields given) = Field.defects (Field.told given) := by
  rw [ofFields_told, Reading.bind_defects fun _ => rfl]
  simp only [Reading.both_defects, Field.defects, Field.all, List.flatMap_cons, List.flatMap_nil,
    List.append_nil]

theorem ofFields_error {f : Field} {found : List Defect} (h : f.told given = .error found) :
    ofFields given = .error (Field.defects (Field.told given)) := by
  have hd := ofFields_defects given
  cases ho : ofFields given with
  | ok s =>
    have hf := ofFields_eq_ok.mp ho f
    rw [h] at hf
    cases hf
  | error all =>
    rw [ho] at hd
    rw [← hd]
    rfl

end

/-! ### What has been read is read again -/

namespace Reading

theorem located_eq_ok {α : Type} {place : List Locator} {r : Except Complaint α} {x : α} :
    located place r = .ok x ↔ r = .ok x := by
  cases r <;> simp [located, Except.mapError]

theorem optional_eq {α : Type} {read : Value → Except Complaint α} {v : Value} (hn : v ≠ .null) :
    optional read v = (read v).map some := by
  cases v with
  | null => exact absurd rfl hn
  | _ => rfl

theorem optional_again {α : Type} {read : Value → Except Complaint α} {write : α → Value}
    {v : Value} {x : Option α} (hn : ∀ a, write a ≠ .null)
    (hw : ∀ {v a}, read v = .ok a → read (write a) = .ok a) (h : optional read v = .ok x) :
    optional read (Value.ofOption write x) = .ok x := by
  cases x with
  | none => rfl
  | some a =>
    have hv : v ≠ .null := by
      rintro rfl
      cases h
    rw [optional_eq hv] at h
    obtain ⟨b, hb, he⟩ := map_eq_ok.mp h
    cases he
    rw [Value.ofOption, optional_eq (hn a), hw hb]
    rfl

theorem ofText_ne_null (s : String) : Value.ofText s ≠ .null := by
  unfold Value.ofText
  split <;> exact nofun

theorem text_ofText (s : String) : text (.ofText s) = .ok s := by
  unfold Value.ofText
  split <;> rfl

theorem captureKind_again (kind : CaptureKind) : captureKind (.capture kind) = .ok kind := by
  simp only [captureKind, carried, Value.text?, CaptureKind.ofLabel?_label]

theorem engineKind_again (kind : EngineKind) : engineKind (.engine kind) = .ok kind := by
  simp only [engineKind, carried, Value.text?, EngineKind.ofLabel?_label]

theorem usableName_again {v : Value} {s : String} (h : usableName v = .ok s) :
    usableName (.text s) = .ok s := by
  obtain ⟨t, -, ht⟩ := bind_eq_ok.mp h
  have hs : t = s := by
    split at ht
    · cases ht
    · split at ht <;> cases ht
      rfl
  subst hs
  exact bind_eq_ok.mpr ⟨t, rfl, ht⟩

theorem positiveInteger_again {v : Value} {n : Nat} (h : positiveInteger v = .ok n) :
    positiveInteger (Value.ofNat n) = .ok n := by
  obtain ⟨m, -, hm⟩ := bind_eq_ok.mp h
  split at hm
  · rename_i hpos
    cases hm
    refine bind_eq_ok.mpr ⟨m.toNat, rfl, ?_⟩
    rw [if_pos (by omega), Int.toNat_natCast]
  · cases hm

theorem positiveNumber_again {v : Value} {x : Binary64} (h : positiveNumber v = .ok x) :
    positiveNumber (.float x) = .ok x := by
  obtain ⟨y, -, hy⟩ := bind_eq_ok.mp h
  split at hy
  · rename_i hpos
    cases hy
    exact bind_eq_ok.mpr ⟨x, rfl, if_pos hpos⟩
  · cases hy

theorem bindings_nodup {field : String} {v : Value} {pairs : List (String × String)}
    (h : bindings field v = .ok pairs) : (pairs.map Prod.fst).Nodup := by
  unfold bindings at h
  split at h
  · obtain ⟨read, -, rfl⟩ := map_eq_ok.mp h
    exact Value.merge_nodup (by simp)
  · cases h

theorem bindings_textTable {pairs : List (String × String)} (hd : (pairs.map Prod.fst).Nodup)
    (field : String) : bindings field (textTable pairs) = .ok pairs := by
  refine map_eq_ok.mpr ⟨pairs, ?_, Value.merge_nil_left hd⟩
  have hp := @all_map_ok _ _ (fun pair => binding field (.ofText pair.1) (.ofText pair.2)) id pairs
    fun pair _ => by rw [binding, text_ofText, text_ofText]; rfl
  rw [List.map_id] at hp
  rw [List.map_map]
  exact hp

theorem bindings_again {field : String} {v : Value} {pairs : List (String × String)}
    (h : bindings field v = .ok pairs) : bindings field (textTable pairs) = .ok pairs :=
  bindings_textTable (bindings_nodup h) field

theorem mountList_again (field : String) (pairs : List (String × String)) :
    mountList field (Field.mounts.write pairs) = .ok pairs := by
  have hm : (pairs.map fun (host, guest) => Value.tuple [.ofText host, .ofText guest]).mapIdx
      (fun i item => mount [.key field, .index i] item) = pairs.map Except.ok := by
    apply List.ext_getElem (by simp)
    intro i _ _
    simp only [List.getElem_mapIdx, List.getElem_map, mount, items?, text_ofText]
    rfl
  have hp := @all_map_ok _ _ Except.ok id pairs fun _ _ => rfl
  rw [List.map_id] at hp
  simp only [mountList, Field.write, items?, hm, hp]

end Reading

theorem Field.read_again {f : Field} {v : Value} {x : f.Content} (h : f.read v = .ok x) :
    f.read (f.write x) = .ok x := by
  cases f with
  | path | scratchDirectory =>
    exact Reading.located_eq_ok.mpr
      (Reading.optional_again Reading.ofText_ne_null (fun _ => Reading.text_ofText _)
        (Reading.located_eq_ok.mp h))
  | capture => exact Reading.located_eq_ok.mpr (Reading.captureKind_again x)
  | engine => exact Reading.located_eq_ok.mpr (Reading.engineKind_again x)
  | programName =>
    exact Reading.located_eq_ok.mpr (Reading.usableName_again (Reading.located_eq_ok.mp h))
  | environment => exact Reading.bindings_again h
  | mounts => exact Reading.mountList_again _ x
  | fuelBudget | memoryBytes =>
    exact Reading.located_eq_ok.mpr
      (Reading.optional_again nofun Reading.positiveInteger_again (Reading.located_eq_ok.mp h))
  | timeoutSeconds =>
    exact Reading.located_eq_ok.mpr
      (Reading.optional_again nofun Reading.positiveNumber_again (Reading.located_eq_ok.mp h))
  | failOnStderr => rfl

theorem Field.default_again (f : Field) : f.read (f.write f.default) = .ok f.default := by
  cases f <;> rfl

theorem ofFields_again {given : Fields} {s : Settings} (h : ofFields given = .ok s) (f : Field) :
    f.read (f.write (f.get s)) = .ok (f.get s) := by
  have hf := ofFields_eq_ok.mp h f
  unfold Field.told field at hf
  split at hf
  · rw [← Except.ok.inj hf]
    exact f.default_again
  · exact f.read_again hf

end GuestRunner.Settings
