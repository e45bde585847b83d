import GuestRunner.Proofs.Settings.Layers

/-!
# Sound settings

A guest can be run with settings that name a program, ration it with positive numbers and have each
variable of the environment once. These are exactly the settings that are read back unchanged from
the form in which they give themselves, and all that the readers make are among them.
-/

set_option autoImplicit false

namespace GuestRunner.Settings

structure Sound (s : Settings) : Prop where
  named : s.programName ≠ ""
  terminated : '\x00' ∉ s.programName.toList
  environment : (s.environment.map Prod.fst).Nodup
  fuel : ∀ n ∈ s.fuelBudget, 0 < n
  memory : ∀ n ∈ s.memoryBytes, 0 < n
  timeout : ∀ x ∈ s.timeoutSeconds, x ≠ .nan ∧ x.isPositive = true

namespace Reading

theorem usableName_text (name : String) :
    usableName (.text name) = .ok name ↔ name ≠ "" ∧ '\x00' ∉ name.toList := by
  change (if name = "" then Except.error Complaint.emptyText
    else if name.toList.contains '\x00' then .error .nulInProgramName else .ok name) = _ ↔ _
  split_ifs with he hn
  · exact ⟨nofun, fun h => absurd he h.1⟩
  · exact ⟨nofun, fun h => absurd (List.contains_iff_mem.mp hn) h.2⟩
  · exact ⟨fun _ => ⟨he, fun h => hn (List.contains_iff_mem.mpr h)⟩, fun _ => rfl⟩

theorem optional_ofOption {α : Type} {read : Value → Except Complaint α} {write : α → Value}
    (hn : ∀ a, write a ≠ .null) (x : Option α) :
    optional read (Value.ofOption write x) = .ok x ↔ ∀ a ∈ x, read (write a) = .ok a := by
  cases x with
  | none => exact ⟨fun _ => nofun, fun _ => rfl⟩
  | some a =>
    rw [Value.ofOption, optional_eq (hn a), map_eq_ok]
    simp only [Option.some.injEq, exists_eq_right, Option.mem_some_iff, forall_eq']

theorem positiveInteger_ofNat (n : Nat) : positiveInteger (Value.ofNat n) = .ok n ↔ 0 < n := by
  change (if (0 : Int) < n then Except.ok (n : Int).toNat else .error Complaint.notPositive) = _ ↔ _
  rw [Int.toNat_natCast]
  split_ifs with h
  · exact ⟨fun _ => Int.natCast_pos.mp h, fun _ => rfl⟩
  · exact ⟨nofun, fun hn => absurd (Int.natCast_pos.mpr hn) h⟩

theorem positiveNumber_float (x : Binary64) :
    positiveNumber (.float x) = .ok x ↔ x ≠ .nan ∧ x.isPositive = true := by
  change (if x.isPositive then Except.ok x else .error Complaint.notPositive) = _ ↔ _
  split_ifs with h
  · refine ⟨fun _ => ⟨?_, h⟩, fun _ => rfl⟩
    rintro rfl
    cases h
  · exact ⟨nofun, fun hx => absurd hx.2 h⟩

end Reading

variable {s : Settings}

open Reading in
/-- Every field of settings is read back from its own form if and only if the settings are sound. -/
theorem sound_iff : s.Sound ↔ ∀ f : Field, f.read (f.write (f.get s)) = .ok (f.get s) := by
  constructor
  · intro h f
    cases f with
    | path | scratchDirectory =>
      exact located_eq_ok.mpr ((optional_ofOption ofText_ne_null _).mpr fun a _ => text_ofText a)
    | capture => exact located_eq_ok.mpr (captureKind_again _)
    | engine => exact located_eq_ok.mpr (engineKind_again _)
    | programName => exact located_eq_ok.mpr ((usableName_text _).mpr ⟨h.named, h.terminated⟩)
    | environment => exact bindings_textTable h.environment _
    | mounts => exact mountList_again _ _
    | fuelBudget =>
      exact located_eq_ok.mpr
        ((optional_ofOption nofun _).mpr fun n hn => (positiveInteger_ofNat n).mpr (h.fuel n hn))
    | memoryBytes =>
      exact located_eq_ok.mpr
        ((optional_ofOption nofun _).mpr fun n hn => (positiveInteger_ofNat n).mpr (h.memory n hn))
    | timeoutSeconds =>
      exact located_eq_ok.mpr
        ((optional_ofOption nofun _).mpr fun x hx => (positiveNumber_float x).mpr (h.timeout x hx))
    | failOnStderr => rfl
  · intro h
    have hname := (usableName_text _).mp (located_eq_ok.mp (h .programName))
    have hfuel := (optional_ofOption nofun _).mp (located_eq_ok.mp (h .fuelBudget))
    have hmemory := (optional_ofOption nofun _).mp (located_eq_ok.mp (h .memoryBytes))
    have htimeout := (optional_ofOption nofun _).mp (located_eq_ok.mp (h .timeoutSeconds))
    have henvironment : bindings "env" (textTable s.environment) = .ok s.environment :=
      h .environment
    exact ⟨hname.1, hname.2, bindings_nodup henvironment,
      fun n hn => (positiveInteger_ofNat n).mp (hfuel n hn),
      fun n hn => (positiveInteger_ofNat n).mp (hmemory n hn),
      fun x hx => (positiveNumber_float x).mp (htimeout x hx)⟩

theorem make_fields : make s.fields = .ok s ↔ s.Sound := by
  have hself : s.fields.lookup "self" = none := rfl
  simp only [make_eq_ok, hself, true_and, Field.told, field, fields_lookup, sound_iff]

theorem make_sound {given : Fields} (h : make given = .ok s) : s.Sound :=
  sound_iff.mpr (make_again h)

theorem ofEntries_sound {entries : List (Value × Value)} (h : ofEntries entries = .ok s) :
    s.Sound := by
  unfold ofEntries at h
  split at h
  · exact make_sound h
  · cases h

theorem ofValue_sound {v : Value} (h : ofValue v = .ok s) : s.Sound := by
  unfold ofValue at h
  split at h
  · exact ofEntries_sound h
  · exact make_sound h
  · cases h

theorem load_sound {v : Files.Volume} {text : String} (h : load v text = .ok s) : s.Sound := by
  unfold load at h
  split at h
  · exact make_sound h
  split at h
  · cases h
  split at h
  · cases h
  split at h
  · cases h
  · cases h
  · obtain ⟨given, hm⟩ := ofDocument_made h
    exact make_sound hm

end GuestRunner.Settings
