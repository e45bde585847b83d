import GuestRunner.Proofs.Processor.Answers
import GuestRunner.Proofs.Processor.Origin
import GuestRunner.Proofs.Settings.Layers
import Mathlib

/-!
# Which settings a processor gets

A processor that is made for the module that its settings name has the settings of all layers, field
by field. Settings that are given as such go through the same names as those of a file, and are
values that nothing changes. What is wrong in a file is told whatever stands beside it; but a root
or an environment that is no table is not told as a defect of settings, and neither is a key that
names what the settings are made on.
-/

set_option autoImplicit false

namespace GuestRunner

open Settings

namespace Processor

variable {settings s s' : Settings} {overrides : Fields} {logger : Logger}
  {backend : Settings → Backend} {site : Site} {p : Processor}

theorem overridden_eq_ok (hd : (overrides.map Prod.fst).Nodup)
    (hs : ∀ f : Field, f.read (f.write (f.get s)) = .ok (f.get s)) :
    overridden s overrides = .ok s' ↔
      overrides.lookup "self" = none ∧ ∀ f : Field, f.revised overrides s = .ok (f.get s') := by
  unfold overridden
  cases overrides with
  | nil =>
    simp only [List.isEmpty_nil, if_true, revised_nil, List.lookup_nil, true_and, Except.ok.injEq]
    exact ⟨fun h f => congrArg f.get h, get_ext⟩
  | cons entry rest =>
    rw [List.isEmpty_cons, if_neg nofun, make_eq_ok, self_merge hd]
    simp only [told_revised hd (hs _)]

theorem overridden_error (hd : (overrides.map Prod.fst).Nodup)
    (hs : ∀ f : Field, f.read (f.write (f.get s)) = .ok (f.get s))
    (hself : overrides.lookup "self" = none) {f : Field} {found : List Defect}
    (hf : f.revised overrides s = .error found) :
    overridden s overrides =
      .error (.failure (.settings (.defects (Field.defects (Field.revised overrides s))))) := by
  unfold overridden
  cases overrides with
  | nil => cases hf
  | cons entry rest =>
    rw [List.isEmpty_cons, if_neg nofun,
      make_error ((self_merge hd).trans hself) ((told_revised hd (hs f)).trans hf)]
    simp only [Field.defects, told_revised hd (hs _)]

theorem fromFile_settings {path : String}
    (h : (fromFile path none settings logger backend site).outcome = .ok p) :
    p.settings = settings := by
  unfold fromFile at h
  split at h
  · cases h
  · obtain ⟨_, m, capture, -, origin⟩ := construct_origin h
    rw [origin.made]
    rfl

theorem ofSettings_loaded {source : Source} (h : settingsOf source site = .ok s) :
    ofSettings source overrides logger backend site =
      ofSettings (.given s) overrides logger backend site := by
  simp only [ofSettings, h]
  rfl

theorem ofSettings_refused {source : Source} {problem : Problem}
    (h : settingsOf source site = .error problem) :
    ofSettings source overrides logger backend site = .refused problem site := by
  simp only [ofSettings, h]
  rfl

theorem ofSettings_given (s : Settings) :
    ofSettings (.given s) overrides logger backend site =
      (match overridden s overrides with
      | .error problem => .refused problem site
      | .ok s' =>
        match modulePath s' with
        | .error problem => .refused problem site
        | .ok path => fromFile path none s' logger backend site) := by
  have hs : settingsOf (.given s) site = .ok s := rfl
  simp only [ofSettings, hs, bind, Except.bind]
  cases overridden s overrides with
  | error problem => rfl
  | ok s' =>
    dsimp only
    cases modulePath s' <;> rfl

theorem ofSettings_given_settings
    (h : (ofSettings (.given s) overrides logger backend site).outcome = .ok p) :
    overridden s overrides = .ok p.settings := by
  rw [ofSettings_given] at h
  split at h
  · cases h
  · rename_i s' ho
    split at h
    · cases h
    · rw [ho, fromFile_settings h]

theorem settingsOf_file {text : String} {document : Toml.Entries}
    (ho : Opens site.volume text document) :
    settingsOf (.file text) site = ofDocument (directoryOf site.volume text) document :=
  ho.load

theorem ofSettings_file_settings {text : String} {document : Toml.Entries}
    (hd : (overrides.map Prod.fst).Nodup) (ho : Opens site.volume text document)
    (h : (ofSettings (.file text) overrides logger backend site).outcome = .ok p) :
    ∃ root, Rooted document root ∧ ∀ f : Field,
      f.layered (directoryOf site.volume text) root overrides = .ok (f.get p.settings) := by
  cases hs : settingsOf (.file text) site with
  | error problem =>
    rw [ofSettings_refused hs] at h
    cases h
  | ok s =>
    rw [ofSettings_loaded hs] at h
    rw [settingsOf_file ho] at hs
    obtain ⟨given, hm⟩ := ofDocument_made hs
    obtain ⟨root, hr, -, hf⟩ := (ofDocument_eq_ok ho.keyed).mp hs
    have hover := (overridden_eq_ok hd (make_again hm)).mp (ofSettings_given_settings h)
    exact ⟨root, hr, fun f => (layered_revised (hf f)).trans (hover.2 f)⟩

theorem modulePath_none (h : s.path.filter (· ≠ "") = none) :
    modulePath s = .error (.failure (.settings .noModulePath)) := by
  rw [modulePath, h]

theorem modulePath_some {path : String} (h : s.path.filter (· ≠ "") = some path) :
    modulePath s = .ok path := by
  rw [modulePath, h]

end Processor

open Processor

/-- Names beside a document or beside settings go over them, field by field, and a document goes
over the defaults. A defect in a document is reported whatever the names are, as long as the root of
the document is usable. -/
theorem configuration_layered {overrides : Fields} (hd : (overrides.map Prod.fst).Nodup)
    (logger : Logger) (backend : Settings → Backend) (site : Site) :
    (∀ text document made, Opens site.volume text document →
      ofSettings (.file text) overrides logger backend site = made →
      (∀ p, made.outcome = .ok p → ∃ root, Rooted document root ∧ ∀ f : Field,
        f.layered (directoryOf site.volume text) root overrides = .ok (f.get p.settings)) ∧
      ((∀ root, Rooted document root → ¬ Usable root) →
        ∃ refusal, made = .refused (.refusal refusal) site) ∧
      ∀ root, Rooted document root → Usable root →
        (∀ (f : Field) found, f.inFile (directoryOf site.volume text) root = .error found →
          (∀ d ∈ found, [.key f.name] <+: d.place) ∧
          made = .refused (.failure (.settings (.defects
            (Field.defects (Field.inFile (directoryOf site.volume text) root))))) site) ∧
        ((∀ f : Field, ∃ x, f.inFile (directoryOf site.volume text) root = .ok x) →
          ∃ given s, Settings.make given = .ok s ∧
            (∀ f : Field, f.inFile (directoryOf site.volume text) root = .ok (f.get s)) ∧
            made = ofSettings (.given s) overrides logger backend site)) ∧
    ∀ given s made, Settings.make given = .ok s →
      ofSettings (.given s) overrides logger backend site = made →
      (∀ p, made.outcome = .ok p → ∀ f : Field, f.revised overrides s = .ok (f.get p.settings) ∧
        (f.name ∉ overrides.map Prod.fst → f.get p.settings = f.get s)) ∧
      (overrides.lookup "self" = none →
        (∀ (f : Field) found, f.revised overrides s = .error found →
          (∀ d ∈ found, [.key f.name] <+: d.place) ∧
          made = .refused (.failure (.settings (.defects
            (Field.defects (Field.revised overrides s))))) site) ∧
        ∀ s', (∀ f : Field, f.revised overrides s = .ok (f.get s')) →
          (s'.path.filter (· ≠ "") = none →
            made = .refused (.failure (.settings .noModulePath)) site) ∧
          ∀ path, s'.path.filter (· ≠ "") = some path →
            made = fromFile path none s' logger backend site) := by
  constructor
  · rintro text document made ho rfl
    have hload := settingsOf_file ho
    refine ⟨fun p => ofSettings_file_settings hd ho, fun hn => ?_, fun root hr hu => ⟨?_, ?_⟩⟩
    · obtain ⟨refusal, href⟩ := ofDocument_refused ho.keyed hn
      exact ⟨refusal, ofSettings_refused (hload.trans href)⟩
    · intro f found hf
      exact ⟨(inFile_under _ root f found hf).2,
        ofSettings_refused (hload.trans (ofDocument_error ho.keyed hr hu hf))⟩
    · intro hf
      obtain ⟨s, hs, hget⟩ := ofDocument_ok ho.keyed hr hu hf
      obtain ⟨given, hm⟩ := ofDocument_made hs
      exact ⟨given, s, hm, hget, ofSettings_loaded (hload.trans hs)⟩
  · rintro given s made hm rfl
    have hs := make_again hm
    refine ⟨fun p h f => ?_, fun hself => ⟨fun f found hf => ?_, fun s' hf => ?_⟩⟩
    · have hover := ((overridden_eq_ok hd hs).mp (ofSettings_given_settings h)).2 f
      refine ⟨hover, fun hn => ?_⟩
      rw [revised_other hn] at hover
      exact (Except.ok.inj hover).symm
    · refine ⟨(revised_under overrides s f found hf).2, ?_⟩
      rw [ofSettings_given, overridden_error hd hs hself hf]
    · have ho := (overridden_eq_ok hd hs).mpr ⟨hself, hf⟩
      constructor
      · intro hp
        rw [ofSettings_given, ho]
        dsimp only
        rw [modulePath_none hp]
      · intro path hp
        rw [ofSettings_given, ho]
        dsimp only
        rw [modulePath_some hp]

namespace Sample

def configured (text : String) : Site where
  volume := { volume with
    tree := ⟨[(["p.toml"], .file (Text.Utf8.encode text)), (["m.wasm"], .file [0])]⟩ }
  journal := []
  elapsed := .zero

theorem configured_opens {text : String} {document : Toml.Entries}
    (hd : Text.Utf8.decode? (Text.Utf8.encode text) = some text)
    (hp : Toml.parse text = .ok document) :
    Opens (configured text).volume "p.toml" document :=
  ⟨rfl, _, text, rfl, hd, hp⟩

def layers : String := "path = \"m.wasm\"\nfuel_budget = 7\n[env]\nA = \"1\"\n"

def layersRoot : Toml.Entries :=
  [(.text "path", .text "m.wasm"), (.text "fuel_budget", .int 7),
    (.text "env", .table [(.text "A", .text "1")])]

def layersSettings : Settings :=
  { Settings.default with
    path := some "/m.wasm", environment := [("A", "1")], fuelBudget := some 9 }

def spent : String := "fuel_budget = 0\n"

def flat : String := "env = 5\n"

theorem layers_opens : Opens (configured layers).volume "p.toml" layersRoot :=
  configured_opens (by decide +kernel) (by cbv)

theorem spent_opens : Opens (configured spent).volume "p.toml" [(.text "fuel_budget", .int 0)] :=
  configured_opens (by decide +kernel) (by cbv)

theorem flat_opens : Opens (configured flat).volume "p.toml" [(.text "env", .int 5)] :=
  configured_opens (by decide +kernel) (by cbv)

end Sample

/-- A budget given beside a file goes over that of the file, and the rest of the file stays. A
budget of the file that is none is reported all the same. -/
theorem configuration_layered_sample :
    (∃ p, (ofSettings (.file "p.toml") [("fuel_budget", .int 9)] .structured
        (fun _ => Sample.backend) (Sample.configured Sample.layers)).outcome = .ok p ∧
      p.settings = Sample.layersSettings) ∧
    ofSettings (.file "p.toml") [("fuel_budget", .int 9)] .structured (fun _ => Sample.backend)
        (Sample.configured Sample.spent) =
      .refused (.failure (.settings (.defects [⟨[.key "fuel_budget"], .notPositive⟩])))
        (Sample.configured Sample.spent) := by
  have hd : (([("fuel_budget", .int 9)] : Fields).map Prod.fst).Nodup := by decide
  constructor
  · have h := @configuration_layered _ hd .structured (fun _ => Sample.backend)
      (Sample.configured Sample.layers)
    have hfile := h.1 "p.toml" Sample.layersRoot _ Sample.layers_opens rfl
    have hu : Usable Sample.layersRoot := ⟨rfl, by rintro _ ⟨⟩; exact ⟨_, rfl⟩⟩
    have hf : ∀ f : Field, ∃ x, f.inFile "/" Sample.layersRoot = .ok x := by
      intro f
      cases f <;> exact ⟨_, rfl⟩
    obtain ⟨given, s, hm, hget, hmade⟩ := (hfile.2.2 _ (.whole rfl) hu).2 hf
    have hover : ∀ f : Field,
        f.revised [("fuel_budget", .int 9)] s = .ok (f.get Sample.layersSettings) := by
      intro f
      rw [← layered_revised (hget f)]
      cases f <;> rfl
    have hpath := (((h.2 given s _ hm rfl).2 rfl).2 Sample.layersSettings hover).2 "/m.wasm" rfl
    rw [hmade, hpath]
    exact ⟨_, rfl, rfl⟩
  · have h := @configuration_layered _ hd .structured (fun _ => Sample.backend)
      (Sample.configured Sample.spent)
    have hu : Usable [(.text "fuel_budget", .int 0)] := ⟨rfl, nofun⟩
    exact (((h.1 "p.toml" _ _ Sample.spent_opens rfl).2.2 _ (.whole rfl) hu).1 .fuelBudget _ rfl).2

/-- An environment that is no table is no defect of the settings: it ends the reading before, also
where another environment is given beside the file. -/
theorem environment_mistaken :
    ∃ document root found, Opens (Sample.configured Sample.flat).volume "p.toml" document ∧
      Rooted document root ∧
      Field.environment.inFile (directoryOf (Sample.configured Sample.flat).volume "p.toml") root =
        .error found ∧
      ofSettings (.file "p.toml") [("env", .table [])] .structured (fun _ => Sample.backend)
          (Sample.configured Sample.flat) =
        .refused (.refusal (.noUnion "int")) (Sample.configured Sample.flat) :=
  ⟨[(.text "env", .int 5)], _, [⟨[.key "env"], .notTable⟩], Sample.flat_opens, .whole rfl, rfl,
    ofSettings_refused (Sample.flat_opens.load.trans rfl)⟩

end GuestRunner
