import GuestRunner.Proofs.Processor.Precedence
import GuestRunner.Proofs.Settings.Sound
import Mathlib

/-!
# What comes of the sources of settings

Settings come about from values, from files and with processors, which get them with names beside
them or with a directory of their own. However long the way, they are sound, and reading them again
changes nothing. A file that holds a document gives settings or the defects in it. Only a root or an
environment that is no table, or a root that names what the settings are made on, ends otherwise.
-/

set_option autoImplicit false

namespace GuestRunner

open Settings

namespace Settings

inductive Attained : Settings → Prop
  | made {given : Fields} {s : Settings} (h : make given = .ok s) : Attained s
  | validated {v : Value} {s : Settings} (h : ofValue v = .ok s) : Attained s
  | loaded {v : Files.Volume} {text : String} {s : Settings} (h : load v text = .ok s) : Attained s
  | configured {source : Processor.Source} {overrides : Fields} {logger : Logger}
    {backend : Settings → Backend} {site : Site} {p : Processor}
    (given : ∀ s, source = .given s → Attained s)
    (h : (Processor.ofSettings source overrides logger backend site).outcome = .ok p) :
    Attained p.settings
  | constructed {wasm : Value} {directory : Option String} {s : Settings} {logger : Logger}
    {backend : Settings → Backend} {site : Site} {p : Processor} (given : Attained s)
    (h : (Processor.construct wasm directory s logger backend site).outcome = .ok p) :
    Attained p.settings
  | opened {path : String} {directory : Option String} {s : Settings} {logger : Logger}
    {backend : Settings → Backend} {site : Site} {p : Processor} (given : Attained s)
    (h : (Processor.fromFile path directory s logger backend site).outcome = .ok p) :
    Attained p.settings

def Answered (result : Except Problem Settings) : Prop :=
  (∃ s, result = .ok s) ∨ ∃ problem, result = .error (.failure (.settings problem))

end Settings

namespace Processor

variable {settings s : Settings} {overrides : Fields} {logger : Logger}
  {backend : Settings → Backend} {site : Site} {p : Processor} {directory : Option String}

theorem withDirectory_sound (h : settings.Sound) (directory : Option String) :
    (withDirectory settings directory).Sound := by
  cases directory with
  | none => exact h
  | some path => exact ⟨h.named, h.terminated, h.environment, h.fuel, h.memory, h.timeout⟩

theorem construct_settings {wasm : Value}
    (h : (construct wasm directory settings logger backend site).outcome = .ok p) :
    p.settings = withDirectory settings directory := by
  obtain ⟨_, _, _, -, origin⟩ := construct_origin h
  rw [origin.made]
  rfl

theorem fromFile_constructed {path : String}
    (h : (fromFile path directory settings logger backend site).outcome = .ok p) :
    ∃ content, (construct (Value.bytesOf content) directory settings logger backend site).outcome =
      .ok p := by
  unfold fromFile at h
  split at h
  · cases h
  · exact ⟨_, h⟩

theorem overridden_sound (hs : s.Sound) (h : overridden s overrides = .ok settings) :
    settings.Sound := by
  unfold overridden at h
  split at h
  · cases h
    exact hs
  · exact make_sound h

theorem settingsOf_sound {source : Source} (hg : ∀ s, source = .given s → s.Sound)
    (h : settingsOf source site = .ok s) : s.Sound := by
  cases source with
  | default => exact make_sound h
  | file path => exact load_sound h
  | given s' =>
    cases h
    exact hg _ rfl

theorem ofSettings_sound {source : Source} (hg : ∀ s, source = .given s → s.Sound)
    (h : (ofSettings source overrides logger backend site).outcome = .ok p) :
    p.settings.Sound := by
  cases hs : settingsOf source site with
  | error problem =>
    rw [ofSettings_refused hs] at h
    cases h
  | ok s =>
    rw [ofSettings_loaded hs] at h
    exact overridden_sound (settingsOf_sound hg hs) (ofSettings_given_settings h)

end Processor

open Processor

/-- Settings that come about are sound, and give themselves in a form from which the same settings
are made again. -/
theorem attained_sound {s : Settings} (h : s.Attained) : s.Sound ∧ make s.fields = .ok s := by
  have hs : s.Sound := by
    induction h with
    | made h => exact make_sound h
    | validated h => exact ofValue_sound h
    | loaded h => exact load_sound h
    | configured _ h ih => exact ofSettings_sound ih h
    | constructed _ h ih => exact construct_settings h ▸ withDirectory_sound ih _
    | opened _ h ih =>
      obtain ⟨content, hc⟩ := fromFile_constructed h
      exact construct_settings hc ▸ withDirectory_sound ih _
  exact ⟨hs, make_fields.mpr hs⟩

namespace Sample

def lenient : Fields :=
  [("unknown", .null), ("fuel_budget", .text " 7 "),
    ("memory_bytes", .float (Binary64.ofInt 65536)), ("timeout_seconds", .bool true),
    ("program_name", .bytes .growable [97]),
    ("readonly_mounts", .tuple [.list [.text "/a", .text "/b"]]), ("path", .null)]

def lenientSettings : Settings :=
  { Settings.default with
    programName := "a", mounts := [("/a", "/b")], fuelBudget := some 7, memoryBytes := some 65536,
    timeoutSeconds := some (Binary64.ofInt 1) }

open Reading in
theorem lenient_made : make lenient = .ok lenientSettings := by
  have hname : usableName (.bytes .growable [97]) = .ok "a" := by decide +kernel
  have hfuel : optional positiveInteger (.text " 7 ") = .ok (some 7) := by decide +kernel
  have hmemory : optional positiveInteger (.float (Binary64.ofInt 65536)) = .ok (some 65536) := by
    decide +kernel
  refine make_eq_ok.mpr ⟨rfl, fun f => ?_⟩
  cases f with
  | programName => exact located_eq_ok.mpr hname
  | fuelBudget => exact (@located_eq_ok _ [.key "fuel_budget"] _ _).mpr hfuel
  | memoryBytes => exact (@located_eq_ok _ [.key "memory_bytes"] _ _).mpr hmemory
  | _ => rfl

end Sample

/-- Also with a directory of its own, which nothing reads, a processor has sound settings. -/
theorem attained_sound_lenient :
    ∃ p, ofValue (.table (Toml.lifted Sample.lenient)) = .ok Sample.lenientSettings ∧
      (construct (Value.bytesOf [0]) (some "") Sample.lenientSettings .structured
        (fun _ => Sample.backend) (Sample.configured "")).outcome = .ok p ∧
      p.settings = withDirectory Sample.lenientSettings (some "") ∧
      p.settings.Sound ∧ make p.settings.fields = .ok p.settings := by
  have hp : (construct (Value.bytesOf [0]) (some "") Sample.lenientSettings .structured
      (fun _ => Sample.backend) (Sample.configured "")).outcome = .ok _ := rfl
  have hv : ofValue (.table (Toml.lifted Sample.lenient)) = .ok Sample.lenientSettings :=
    Sample.lenient_made
  exact ⟨_, hv, hp, rfl, attained_sound (.constructed (.validated hv) hp)⟩

/-- Loading a file that holds a document is answered with settings or with the defects of all its
fields if and only if the document has a usable root. Else the reading ends at the obstacle. -/
theorem load_answered {v : Files.Volume} {text : String} {document : Toml.Entries}
    (ho : Opens v text document) :
    (Answered (load v text) ↔ ∃ root, Rooted document root ∧ Usable root) ∧
    (∀ root, Rooted document root → Usable root →
      (∃ s, load v text = .ok s ∧ ∀ f : Field, f.inFile (directoryOf v text) root = .ok (f.get s)) ∨
      ∃ (f : Field) (found : List Defect), f.inFile (directoryOf v text) root = .error found ∧
        load v text = .error (.failure (.settings (.defects
          (Field.defects (Field.inFile (directoryOf v text) root)))))) ∧
    ((∀ root, Rooted document root → ¬ Usable root) →
      load v text = .error (.refusal (obstacle document))) := by
  rw [ho.load]
  have hused : ∀ root, Rooted document root → Usable root →
      (∃ s, ofDocument (directoryOf v text) document = .ok s ∧
        ∀ f : Field, f.inFile (directoryOf v text) root = .ok (f.get s)) ∨
      ∃ (f : Field) (found : List Defect), f.inFile (directoryOf v text) root = .error found ∧
        ofDocument (directoryOf v text) document = .error (.failure (.settings (.defects
          (Field.defects (Field.inFile (directoryOf v text) root))))) := by
    intro root hr hu
    by_cases hf : ∀ f : Field, ∃ x, f.inFile (directoryOf v text) root = .ok x
    · exact .inl (ofDocument_ok ho.keyed hr hu hf)
    · push Not at hf
      obtain ⟨f, hf⟩ := hf
      cases hx : f.inFile (directoryOf v text) root with
      | ok x => exact absurd hx (hf x)
      | error found => exact .inr ⟨f, found, hx, ofDocument_error ho.keyed hr hu hx⟩
  refine ⟨⟨fun ha => ?_, ?_⟩, hused, ofDocument_obstacle ho.keyed⟩
  · by_contra hn
    push Not at hn
    rw [ofDocument_obstacle ho.keyed hn] at ha
    rcases ha with ⟨_, h⟩ | ⟨_, h⟩ <;> cases h
  · rintro ⟨root, hr, hu⟩
    rcases hused root hr hu with ⟨s, hs, -⟩ | ⟨_, _, -, he⟩
    · exact .inl ⟨s, hs⟩
    · exact .inr ⟨_, he⟩

/-- A budget that is none is a defect, and an environment that is no table is an obstacle. -/
theorem load_answered_sample :
    load (Sample.configured Sample.spent).volume "p.toml" =
      .error (.failure (.settings (.defects [⟨[.key "fuel_budget"], .notPositive⟩]))) ∧
    load (Sample.configured Sample.flat).volume "p.toml" = .error (.refusal (.noUnion "int")) := by
  constructor
  · have hu : Usable [(.text "fuel_budget", .int 0)] := ⟨rfl, nofun⟩
    rcases (load_answered Sample.spent_opens).2.1 _ (.whole rfl) hu with ⟨s, -, hs⟩ | ⟨_, _, -, he⟩
    · cases hs .fuelBudget
    · exact he
  · refine (load_answered Sample.flat_opens).2.2 fun root hr hu => ?_
    cases hr with
    | inner h => cases h
    | whole _ =>
      obtain ⟨entries, he⟩ := hu.environment (.int 5) rfl
      cases he

/-- Not every document is answered. -/
theorem environment_unanswered :
    ∃ document, Opens (Sample.configured Sample.flat).volume "p.toml" document ∧
      ¬ Answered (load (Sample.configured Sample.flat).volume "p.toml") := by
  refine ⟨_, Sample.flat_opens, ?_⟩
  have hl : load (Sample.configured Sample.flat).volume "p.toml" =
      .error (.refusal (.noUnion "int")) := Sample.flat_opens.load
  rw [hl]
  rintro (⟨_, h⟩ | ⟨_, h⟩) <;> cases h

end GuestRunner
