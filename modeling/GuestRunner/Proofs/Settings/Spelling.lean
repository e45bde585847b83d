import GuestRunner.Proofs.Files.Spelling
import GuestRunner.Proofs.Settings.Layers
import Mathlib

/-!
# Settings files by any spelling

A settings file is opened by its path as it is spelled, while the places in it are meant from the
directory that the text of the path simplifies to. Without links both are about the same file, so
that the spelling and the directory the program runs in are forgotten: what is loaded depends on the
place of the file and its content.
-/

set_option autoImplicit false

namespace GuestRunner.Settings

open Files Toml

/-- A text that the system finds a place by. The system is free to give exactly two slashes at the
beginning a meaning of their own, and they are kept in the text of a path. -/
structure Spells (v : Volume) (text : String) (place : Place) : Prop where
  usable : Volume.unusable? text = none
  single : (Path.ofText text).root ≠ .double
  leads : v.tree.locate true (v.start (Path.ofText text)) (Path.lookupParts text) = .ok place

def ofContent (base : String) (content : Bytes) : Except Problem Settings :=
  match Text.Utf8.decode? content with
  | none => .error (.refusal .undecodableDocument)
  | some source =>
    match parse source with
    | .error .malformed => .error (.refusal .malformedDocument)
    | .error (.integerTooLong digits) => .error (.refusal (.integerTooLong digits))
    | .ok document => ofDocument base document

def directoryAt (place : Place) : String := (Volume.absolute place.dropLast).text

section

variable {v : Volume} {text : String} {file : Place} {content : Bytes}

theorem Spells.normal (h : Spells v text file) (hl : v.tree.Linkless) (hh : ".." ∉ v.home) :
    ((Path.ofText text).under (Volume.absolute v.home)).normal = Volume.absolute file := by
  have hplace := Tree.walk_spelled hl _ _ _ (Volume.start_invariant hh (Path.ofText text)) h.leads
  rw [Volume.normal_under hh h.single, hplace, Path.lookupParts_kept]

theorem Spells.directory (h : Spells v text file) (hl : v.tree.Linkless) (hh : ".." ∉ v.home) :
    directoryOf v text = directoryAt file := by
  rw [directoryOf, h.normal hl hh]
  rfl

theorem Spells.nonempty (h : Spells v text file) (hf : v.tree.node? file = some (.file content)) :
    text ≠ "" := by
  rintro rfl
  -- The empty text leads to a directory.
  obtain ⟨hdir, nameStep, hleads, harr⟩ := Tree.descend_cons.mp h.leads
  cases hleads with
  | stay =>
    cases harr
    rw [hdir] at hf
    cases hf
  | up hup => exact absurd hup (by decide)
  | name hn => exact hn.ordinary.1 rfl
  | relative _ hn => exact hn.ordinary.1 rfl
  | absolute _ hn => exact hn.ordinary.1 rfl

theorem Spells.load (h : Spells v text file) (hl : v.tree.Linkless) (hh : ".." ∉ v.home)
    (hf : v.tree.node? file = some (.file content)) :
    load v text = ofContent (directoryAt file) content := by
  have hexists : v.existsText? text = true := by
    simp [Volume.existsText?, h.nonempty hf, h.usable, Tree.exists?, h.leads, hf]
  have hread : v.readText text = .ok content := by
    simp [Volume.readText, h.nonempty hf, Volume.readAs, h.usable, Tree.read, h.leads, hf, bind,
      Except.bind]
  rw [Settings.load, hexists, hread, h.directory hl hh]
  rfl

end

section

variable {base : String} {root : Entries}

theorem inFile_absent (f : Field) (h : Entries.find? f.name root = none) :
    f.inFile base root = .ok f.default := by
  rw [Field.inFile, h]

theorem inFile_given (f : Field) {v : Value} (h : Entries.find? f.name root = some v) :
    f.inFile base root = f.read (f.placed base v) := by
  rw [Field.inFile, h]
  exact map_added f _

end

inductive Placed (base : String) : Option Value → Option String → Prop
  | absent : Placed base none none
  | empty : Placed base (some (.text "")) (some "")
  | absolute {place : String} (h : Path.isAbsoluteText place = true) :
    Placed base (some (.text place)) (some place)
  | relative {place : String} (hn : place ≠ "") (h : Path.isAbsoluteText place = false) :
    Placed base (some (.text place)) (some (Path.joinText base place))

section

variable {base : String} {given : Option Value} {place : String}

theorem Placed.isAbsolute (hb : Path.isAbsoluteText base = true)
    (h : Placed base given (some place)) (hp : place ≠ "") : Path.isAbsoluteText place = true := by
  cases h with
  | empty => exact absurd rfl hp
  | absolute h => exact h
  | relative => exact joinText_absolute hb _

theorem directoryAt_absolute (file : Place) : Path.isAbsoluteText (directoryAt file) = true :=
  text_absolute rfl

theorem ofContent_eq_ok {content : Bytes} {s : Settings} : ofContent base content = .ok s ↔
    ∃ source document, Text.Utf8.decode? content = some source ∧ parse source = .ok document ∧
      ofDocument base document = .ok s := by
  constructor
  · intro h
    unfold ofContent at h
    split at h
    · cases h
    · rename_i source hsource
      split at h
      · cases h
      · cases h
      · rename_i document hdocument
        exact ⟨source, document, hsource, hdocument, h⟩
  · rintro ⟨source, document, hsource, hdocument, h⟩
    simpa only [ofContent, hsource, hdocument] using h

/-- A document says where something is by a text or not at all. -/
theorem placed_of_read {v : Value} {locators : List Locator} {x : Option String} (hk : Keyed v)
    (h : Reading.located locators (Reading.optional Reading.text (anchored base v)) = .ok x) :
    Placed base (some v) x := by
  rw [Reading.located_eq_ok] at h
  cases hk with
  | list => cases h
  | table => cases h
  | plain hplain =>
    cases v with
    | text place =>
      by_cases hrel : place ≠ "" ∧ !Path.isAbsoluteText place
      · rw [anchored, if_pos hrel] at h
        cases h
        exact .relative hrel.1 (by simpa using hrel.2)
      · rw [anchored, if_neg hrel] at h
        cases h
        by_cases hp : place = ""
        · subst hp
          exact .empty
        · exact .absolute (by simpa [hp] using hrel)
    | bool | int | float | moment => cases h
    | _ => cases hplain

theorem placed_of_root {root : Entries} {key : String} {locators : List Locator}
    {x : Option String} (hk : Keyed (.table root))
    (hn : Entries.find? key root = none → x = none)
    (hs : ∀ v, Entries.find? key root = some v →
      Reading.located locators (Reading.optional Reading.text (anchored base v)) = .ok x) :
    Placed base (Entries.find? key root) x := by
  cases hfind : Entries.find? key root with
  | none =>
    rw [hn hfind]
    exact .absent
  | some v => exact placed_of_read (hk.found hfind) (hs v hfind)

end

/-- However a settings file is spelled, it stands for the same settings or fails in the same way. A
place in the settings is the one that the file gives, from the directory of the file where it is
relative. So it is absolute unless it is empty. -/
theorem places_by_file {v : Volume} {file : Place} {content : Bytes} (hl : v.tree.Linkless)
    (hh : ".." ∉ v.home) (hf : v.tree.node? file = some (.file content)) :
    (∀ p q, Spells v p file → Spells v q file → load v p = load v q) ∧
    ∀ p s, Spells v p file → load v p = .ok s →
      ∃ source document root, Text.Utf8.decode? content = some source ∧
        parse source = .ok document ∧ Rooted document root ∧
        Placed (directoryAt file) (Entries.find? "path" root) s.path ∧
        Placed (directoryAt file) (Entries.find? "io_dir" root) s.scratchDirectory ∧
        ∀ place, s.path = some place ∨ s.scratchDirectory = some place → place ≠ "" →
          Path.isAbsoluteText place = true := by
  constructor
  · intro p q hp hq
    rw [hp.load hl hh hf, hq.load hl hh hf]
  · intro p s hp hs
    rw [hp.load hl hh hf] at hs
    obtain ⟨source, document, hsource, hdocument, hs⟩ := ofContent_eq_ok.mp hs
    have hkeyed := parse_keyed hdocument
    obtain ⟨root, hroot, -, hfields⟩ := (ofDocument_eq_ok hkeyed).mp hs
    have hpath : Placed (directoryAt file) (Entries.find? "path" root) s.path :=
      placed_of_root (hroot.keyed hkeyed)
        (fun hn => Except.ok.inj ((hfields .path).symm.trans (inFile_absent .path hn)))
        fun _ hv => (inFile_given .path hv).symm.trans (hfields .path)
    have hscratch : Placed (directoryAt file) (Entries.find? "io_dir" root) s.scratchDirectory :=
      placed_of_root (hroot.keyed hkeyed)
        (fun hn => Except.ok.inj
          ((hfields .scratchDirectory).symm.trans (inFile_absent .scratchDirectory hn)))
        fun _ hv => (inFile_given .scratchDirectory hv).symm.trans (hfields .scratchDirectory)
    refine ⟨source, document, root, hsource, hdocument, hroot, hpath, hscratch, ?_⟩
    rintro place (hplace | hplace)
    · exact (hplace ▸ hpath).isAbsolute (directoryAt_absolute file)
    · exact (hplace ▸ hscratch).isAbsolute (directoryAt_absolute file)

namespace Sample

def beside : String := "path = \"m.wasm\"\nio_dir = \"/srv\"\n"

def besideVolume : Volume where
  tree := ⟨[(["etc"], .directory), (["etc", "p.toml"], .file (Text.Utf8.encode beside))]⟩
  home := ["etc"]
  temporary := []
  schedule := .quiet
  namesTried := 0
  tokensDrawn := 0

theorem beside_linkless : besideVolume.tree.Linkless :=
  Tree.linkless_of_entries (by simp [besideVolume])

theorem beside_near : Spells besideVolume "p.toml" ["etc", "p.toml"] where
  usable := by decide +kernel
  single := by decide +kernel
  leads := rfl

theorem beside_far : Spells besideVolume "/etc/../etc/./p.toml" ["etc", "p.toml"] where
  usable := by decide +kernel
  single := by decide +kernel
  leads := rfl

def besideRoot : Entries := [(.text "path", .text "m.wasm"), (.text "io_dir", .text "/srv")]

def besideSettings : Settings :=
  { Settings.default with path := some "/etc/m.wasm", scratchDirectory := some "/srv" }

theorem beside_load : load besideVolume "p.toml" = .ok besideSettings := by
  rw [beside_near.load beside_linkless (by decide) rfl, ofContent_eq_ok]
  exact ⟨beside, besideRoot, by decide +kernel, by cbv, by rfl⟩

end Sample

/-- A module named beside the settings file is the one beside it, by a path with detours as well. -/
theorem places_by_file_sample :
    load Sample.besideVolume "/etc/../etc/./p.toml" = load Sample.besideVolume "p.toml" ∧
    load Sample.besideVolume "p.toml" = .ok Sample.besideSettings ∧
    Path.isAbsoluteText "/etc/m.wasm" = true := by
  have h := places_by_file Sample.beside_linkless (by decide)
    (show Sample.besideVolume.tree.node? ["etc", "p.toml"] = some (.file _) from rfl)
  obtain ⟨_, _, _, -, -, -, -, -, hplace⟩ := h.2 _ _ Sample.beside_near Sample.beside_load
  exact ⟨h.1 _ _ Sample.beside_far Sample.beside_near, Sample.beside_load,
    hplace _ (Or.inl rfl) (by decide)⟩

end GuestRunner.Settings
