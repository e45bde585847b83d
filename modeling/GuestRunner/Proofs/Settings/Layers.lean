import GuestRunner.Proofs.Settings.Fields

/-!
# Layers of settings

A field has the value of the outermost layer that gives it one: values given by name, then the root
of a document, then the default. The layers are put together in different ways. A document goes over
the defaults before anything is read, and its environment goes over theirs; names given beside
settings go over what the settings give back, and everything is read again. Whatever is wrong in a
document is told before the names beside it count.
-/

set_option autoImplicit false

namespace GuestRunner.Settings

open Toml

/-! ### Making settings -/

section

variable {given : Fields} {s : Settings} {f : Field} {found : List Defect}

theorem any_self : given.any (·.1 = "self") = false ↔ given.lookup "self" = none := by
  simp only [Value.lookup_eq_none, List.any_eq_false, decide_eq_true_eq, List.mem_map, not_exists,
    not_and]

theorem make_eq (h : given.lookup "self" = none) : make given =
    (match ofFields given with
    | .ok s => .ok s
    | .error found => .error (.failure (.settings (.defects found)))) := by
  rw [make, any_self.mpr h]
  rfl

theorem make_self (h : given.lookup "self" ≠ none) : make given =
    .error (.refusal (.repeatedArgument "ProcessorConfig.__init__" "self")) := by
  have hs : given.any (·.1 = "self") = true := by
    rw [← Bool.not_eq_false, any_self]
    exact h
  rw [make, hs]
  rfl

theorem make_eq_ok :
    make given = .ok s ↔ given.lookup "self" = none ∧
      ∀ f : Field, f.told given = .ok (f.get s) := by
  by_cases h : given.lookup "self" = none
  · rw [make_eq h, ← ofFields_eq_ok, and_iff_right h]
    cases ofFields given <;> simp
  · rw [make_self h]
    exact ⟨nofun, fun hn => absurd hn.1 h⟩

theorem make_error (h : given.lookup "self" = none) (hf : f.told given = .error found) :
    make given = .error (.failure (.settings (.defects (Field.defects (Field.told given))))) := by
  rw [make_eq h, ofFields_error hf]

theorem make_again (h : make given = .ok s) (f : Field) :
    f.read (f.write (f.get s)) = .ok (f.get s) :=
  ofFields_again (ofFields_eq_ok.mpr (make_eq_ok.mp h).2) f

end

/-! ### Names given beside settings -/

def Field.revised (overrides : Fields) (s : Settings) (f : Field) :
    Except (List Defect) f.Content :=
  match overrides.lookup f.name with
  | none => .ok (f.get s)
  | some v => f.read v

section

variable {overrides : Fields} {s : Settings} {f : Field}

theorem revised_nil (s : Settings) (f : Field) : f.revised [] s = .ok (f.get s) := rfl

theorem revised_under (overrides : Fields) (s : Settings) (f : Field) :
    Reading.Under [.key f.name] (f.revised overrides s) := by
  unfold Field.revised
  split
  · exact .ok
  · exact f.read_under _

theorem revised_other (h : f.name ∉ overrides.map Prod.fst) :
    f.revised overrides s = .ok (f.get s) := by
  rw [Field.revised, Value.lookup_eq_none.mpr h]

theorem told_revised (hd : (overrides.map Prod.fst).Nodup)
    (hs : f.read (f.write (f.get s)) = .ok (f.get s)) :
    f.told (Value.merge s.fields overrides) = f.revised overrides s := by
  unfold Field.told field Field.revised
  rw [Value.merge_lookup hd, fields_lookup]
  cases overrides.lookup f.name with
  | none => exact hs
  | some v => rfl

theorem self_merge (hd : (overrides.map Prod.fst).Nodup) :
    (Value.merge s.fields overrides).lookup "self" = overrides.lookup "self" := by
  have hf : s.fields.lookup "self" = none := rfl
  rw [Value.merge_lookup hd, hf, Option.or_none]

end

/-! ### Documents -/

/-- The table of a document that its settings are in. A table under the same name inside it is not
followed. -/
inductive Rooted (document : Entries) : Entries → Prop
  | inner {root : Entries} (h : Entries.find? "processor" document = some (.table root)) :
    Rooted document root
  | whole (h : Entries.find? "processor" document = none) : Rooted document document

structure Usable (root : Entries) : Prop where
  receiver : Entries.find? "self" root = none
  environment : ∀ v, Entries.find? "env" root = some v → ∃ entries, v = .table entries

def obstacle (document : Entries) : Refusal :=
  match Settings.root document with
  | .table root =>
    match Entries.find? "env" root with
    | none | some (.table _) => .repeatedArgument "ProcessorConfig.__init__" "self"
    | some v => .noUnion v.typeName
  | v => .noUnion v.typeName

def Field.placed (base : String) : Field → Value → Value
  | .path, v | .scratchDirectory, v => anchored base v
  | _, v => v

def Field.added : (f : Field) → f.Content → f.Content
  | .environment => Value.merge Settings.default.environment
  | .path | .scratchDirectory | .capture | .engine | .programName | .mounts | .fuelBudget
  | .memoryBytes | .timeoutSeconds | .failOnStderr => id

def Field.inFile (base : String) (root : Entries) (f : Field) : Except (List Defect) f.Content :=
  match Entries.find? f.name root with
  | none => .ok f.default
  | some v => (f.read (f.placed base v)).map f.added

theorem inFile_under (base : String) (root : Entries) (f : Field) :
    Reading.Under [.key f.name] (f.inFile base root) := by
  unfold Field.inFile
  split
  · exact .ok
  · exact (f.read_under _).map _

def Field.layered (base : String) (root : Entries) (overrides : Fields) (f : Field) :
    Except (List Defect) f.Content :=
  match overrides.lookup f.name with
  | none => f.inFile base root
  | some v => f.read v

theorem layered_revised {base : String} {root : Entries} {overrides : Fields} {s : Settings}
    {f : Field} (h : f.inFile base root = .ok (f.get s)) :
    f.layered base root overrides = f.revised overrides s := by
  unfold Field.layered Field.revised
  rw [h]

theorem overlay_eq_ok {v : Value} {entries : Entries} :
    overlay v = .ok entries ↔ v = .table entries := by
  cases v <;> simp [overlay]

theorem overlay_error {v : Value} (h : ∀ entries, v ≠ .table entries) :
    overlay v = .error (.refusal (.noUnion v.typeName)) := by
  cases v with
  | table entries => exact absurd rfl (h entries)
  | _ => rfl

theorem root_eq_table {document root : Entries} :
    Settings.root document = .table root ↔ Rooted document root := by
  unfold Settings.root
  constructor
  · intro h
    split at h
    · rename_i v hv
      exact .inner (h ▸ hv)
    · rename_i hv
      cases h
      exact .whole hv
  · rintro (h | h) <;> rw [h]

theorem named_lifted (fields : Fields) : named (lifted fields) = fields := by
  induction fields with
  | nil => rfl
  | cons field rest ih =>
    obtain ⟨name, v⟩ := field
    simp only [named, lifted, List.map_cons, List.filterMap_cons] at ih ⊢
    rw [ih]

theorem Rooted.keyed {document root : Entries} (h : Rooted document root)
    (hk : Keyed (.table document)) : Keyed (.table root) := by
  cases h with
  | inner h => exact hk.found h
  | whole h => exact hk

theorem Rooted.lifts {document root : Entries} (h : Rooted document root)
    (hk : Keyed (.table document)) :
    ∃ fields : Fields, root = lifted fields ∧ (fields.map Prod.fst).Nodup := by
  obtain ⟨fields, he, hd, -⟩ := (h.keyed hk).lifts
  exact ⟨fields, he, hd⟩

theorem placed_eq (base : String) (f : Field) (v : Value) :
    f.placed base v = if f.name = "path" ∨ f.name = "io_dir" then anchored base v else v := by
  cases f <;> rfl

theorem absolute_append {first : String} (h : Path.isAbsoluteText first = true) (rest : String) :
    Path.isAbsoluteText (first ++ rest) = true := by
  unfold Path.isAbsoluteText at h ⊢
  rw [String.toList_append]
  split at h
  · rename_i cs hf
    rw [hf]
    rfl
  · cases h

theorem text_absolute {p : Path} (h : p.isAbsolute = true) : Path.isAbsoluteText p.text = true := by
  obtain ⟨root, parts⟩ := p
  cases root with
  | relative => cases h
  | single => exact @absolute_append "/" rfl _
  | double => exact @absolute_append "//" rfl _

theorem joinText_absolute {base : String} (h : Path.isAbsoluteText base = true) (place : String) :
    Path.isAbsoluteText (Path.joinText base place) = true := by
  unfold Path.joinText
  split
  · assumption
  · split
    · exact absolute_append h _
    · exact absolute_append (absolute_append h _) _

theorem anchoredFields_lookup (base name : String) (given : Fields) :
    (anchoredFields base given).lookup name = (given.lookup name).map fun v =>
      if name = "path" ∨ name = "io_dir" then anchored base v else v := by
  induction given with
  | nil => rfl
  | cons entry rest ih =>
    obtain ⟨key, v⟩ := entry
    have hc : anchoredFields base ((key, v) :: rest) =
        (key, if key = "path" ∨ key = "io_dir" then anchored base v else v) ::
          anchoredFields base rest := by
      simp only [anchoredFields, List.map_cons]
      split <;> rfl
    rw [hc, Value.lookup_cons, Value.lookup_cons, ih]
    by_cases h : name = key
    · subst h
      simp only [if_true, Option.map_some]
    · simp only [h, if_false]

/-- The values that a document and the starting ones give together. -/
theorem base_lookup {fields : Fields} (hd : (fields.map Prod.fst).Nodup) {environment : Entries}
    (he : (fields.lookup "env").getD (.table []) = .table environment) (name : String) :
    (Value.insert "env" (.table environment) (Value.merge startingFields fields)).lookup name =
      (fields.lookup name).or (startingFields.lookup name) := by
  rw [Value.insert_lookup, Value.merge_lookup hd]
  split
  · rename_i hn
    subst hn
    cases hf : fields.lookup "env" with
    | none =>
      rw [hf] at he
      cases he
      rfl
    | some v =>
      rw [hf] at he
      cases he
      rfl
  · rfl

theorem starting_told (base : String) (f : Field) :
    field startingFields f.name f.default (fun v => f.read (f.placed base v)) = .ok f.default := by
  cases f <;> rfl

theorem read_added {f : Field} {v : Value} {x : f.Content} (h : f.read v = .ok x) :
    f.added x = x := by
  cases f with
  | environment => exact Value.merge_nil_left (Reading.bindings_nodup h)
  | _ => rfl

theorem map_added (f : Field) (v : Value) : (f.read v).map f.added = f.read v := by
  cases h : f.read v with
  | error found => rfl
  | ok x => rw [Except.map, read_added h]

theorem ofDocument_make {document : Entries} {fields : Fields} (base : String)
    (hr : Rooted document (lifted fields)) (hd : (fields.map Prod.fst).Nodup)
    (he : ∀ v, fields.lookup "env" = some v → ∃ entries, v = .table entries) :
    ∃ given, ofDocument base document = make given ∧
      given.lookup "self" = fields.lookup "self" ∧
      ∀ f : Field, f.told given = f.inFile base (lifted fields) := by
  obtain ⟨environment, hv⟩ : ∃ environment,
      (fields.lookup "env").getD (.table []) = .table environment := by
    cases hl : fields.lookup "env" with
    | none => exact ⟨[], rfl⟩
    | some v => exact he v hl
  -- The environment is put in once more, but it is the one that the merge has.
  refine ⟨anchoredFields base (Value.insert "env" (.table environment)
    (Value.merge startingFields fields)), ?_, ?_, fun f => ?_⟩
  · rw [ofDocument, overlay_eq_ok.mpr (root_eq_table.mpr hr)]
    change overlay (((named (lifted fields)).lookup "env").getD (.table [])) >>= (fun environment =>
      make (anchoredFields base (Value.insert "env" (.table environment)
        (Value.merge startingFields (named (lifted fields)))))) = _
    rw [named_lifted, overlay_eq_ok.mpr hv]
    rfl
  · rw [anchoredFields_lookup, base_lookup hd hv]
    cases fields.lookup "self" <;> rfl
  · unfold Field.told field Field.inFile
    rw [anchoredFields_lookup, base_lookup hd hv, find?_lifted]
    cases hf : fields.lookup f.name with
    | none =>
      -- What a document starts with is read as the default, where it starts with anything.
      have hs := starting_told base f
      unfold field at hs
      cases hv : startingFields.lookup f.name with
      | none => rfl
      | some v =>
        rw [hv] at hs
        simpa only [Option.none_or, Option.map_some, placed_eq] using hs
    | some v =>
      simp only [Option.some_or, Option.map_some, map_added, placed_eq]

section

variable {document root : Entries} {base : String} {s : Settings} {f : Field}
  {found : List Defect}

/-- A document that has been read stands for settings if and only if its root is usable and every
field can be read. -/
theorem ofDocument_eq_ok (hk : Keyed (.table document)) : ofDocument base document = .ok s ↔
    ∃ root, Rooted document root ∧ Usable root ∧
      ∀ f : Field, f.inFile base root = .ok (f.get s) := by
  constructor
  · intro h
    obtain ⟨root, ho, hrest⟩ := bind_eq_ok.mp h
    have hr := root_eq_table.mp (overlay_eq_ok.mp ho)
    obtain ⟨fields, rfl, hd⟩ := hr.lifts hk
    obtain ⟨environment, henv, -⟩ := bind_eq_ok.mp hrest
    rw [named_lifted, overlay_eq_ok] at henv
    have he : ∀ v, fields.lookup "env" = some v → ∃ entries, v = .table entries := by
      intro v hv
      rw [hv] at henv
      exact ⟨environment, henv⟩
    obtain ⟨given, hm, hs, ht⟩ := ofDocument_make base hr hd he
    rw [hm, make_eq_ok, hs] at h
    refine ⟨lifted fields, hr, ⟨?_, ?_⟩, fun f => (ht f).symm.trans (h.2 f)⟩
    · rw [find?_lifted, h.1]
    · simpa only [find?_lifted] using he
  · rintro ⟨root, hr, hu, hf⟩
    obtain ⟨fields, rfl, hd⟩ := hr.lifts hk
    obtain ⟨given, ho, hs, ht⟩ := ofDocument_make base hr hd
      (by simpa only [find?_lifted] using hu.environment)
    rw [ho, make_eq_ok, hs, ← find?_lifted]
    exact ⟨hu.receiver, fun f => (ht f).trans (hf f)⟩

/-- Without a usable root the reading ends before the fields. -/
theorem ofDocument_obstacle (hk : Keyed (.table document))
    (h : ∀ root, Rooted document root → ¬ Usable root) :
    ofDocument base document = .error (.refusal (obstacle document)) := by
  by_cases hroot : ∃ root, Settings.root document = .table root
  · obtain ⟨root, ho⟩ := hroot
    have hr := root_eq_table.mp ho
    obtain ⟨fields, rfl, hd⟩ := hr.lifts hk
    by_cases he : ∀ v, fields.lookup "env" = some v → ∃ entries, v = .table entries
    · obtain ⟨given, hm, hs, -⟩ := ofDocument_make base hr hd he
      have hself : fields.lookup "self" ≠ none := by
        intro hself
        exact h _ hr ⟨by rw [find?_lifted, hself], by simpa only [find?_lifted] using he⟩
      rw [hm, make_self (by rwa [hs]), obstacle, ho]
      dsimp only
      rw [find?_lifted]
      cases hv : fields.lookup "env" with
      | none => rfl
      | some v =>
        obtain ⟨entries, rfl⟩ := he v hv
        rfl
    · push Not at he
      obtain ⟨v, hv, hn⟩ := he
      rw [ofDocument, ho]
      change overlay (((named (lifted fields)).lookup "env").getD (.table [])) >>= _ = _
      rw [named_lifted, hv, Option.getD_some, overlay_error hn, obstacle, ho]
      dsimp only
      rw [find?_lifted, hv]
      cases v with
      | table entries => exact absurd rfl (hn entries)
      | _ => rfl
  · push Not at hroot
    rw [ofDocument, overlay_error hroot, obstacle]
    cases hv : Settings.root document with
    | table root => exact absurd hv (hroot root)
    | _ => rfl

theorem ofDocument_refused (hk : Keyed (.table document))
    (h : ∀ root, Rooted document root → ¬ Usable root) :
    ∃ refusal, ofDocument base document = .error (.refusal refusal) :=
  ⟨_, ofDocument_obstacle hk h⟩

theorem ofDocument_made (h : ofDocument base document = .ok s) : ∃ given, make given = .ok s := by
  obtain ⟨_, -, h⟩ := bind_eq_ok.mp h
  obtain ⟨_, -, h⟩ := bind_eq_ok.mp h
  exact ⟨_, h⟩

theorem ofDocument_ok (hk : Keyed (.table document)) (hr : Rooted document root)
    (hu : Usable root) (hf : ∀ f : Field, ∃ x, f.inFile base root = .ok x) :
    ∃ s, ofDocument base document = .ok s ∧ ∀ f : Field, f.inFile base root = .ok (f.get s) := by
  obtain ⟨s, hs⟩ := Field.gather hf
  exact ⟨s, (ofDocument_eq_ok hk).mpr ⟨root, hr, hu, hs⟩, hs⟩

theorem ofDocument_error (hk : Keyed (.table document)) (hr : Rooted document root)
    (hu : Usable root) (hf : f.inFile base root = .error found) :
    ofDocument base document =
      .error (.failure (.settings (.defects (Field.defects (Field.inFile base root))))) := by
  obtain ⟨fields, rfl, hd⟩ := hr.lifts hk
  obtain ⟨given, ho, hs, ht⟩ := ofDocument_make base hr hd
    (by simpa only [find?_lifted] using hu.environment)
  rw [ho, make_error (by rw [hs, ← find?_lifted, hu.receiver]) ((ht f).trans hf)]
  simp only [Field.defects, ht]

end

/-! ### Files -/

def Opens (v : Files.Volume) (text : String) (document : Entries) : Prop :=
  v.existsText? text = true ∧ ∃ content source, v.readText text = .ok content ∧
    Text.Utf8.decode? content = some source ∧ parse source = .ok document

section

variable {v : Files.Volume} {text : String} {document : Entries}

theorem Opens.keyed (h : Opens v text document) : Keyed (.table document) := by
  obtain ⟨-, content, source, -, -, hp⟩ := h
  exact parse_keyed hp

theorem Opens.load (h : Opens v text document) :
    load v text = ofDocument (directoryOf v text) document := by
  obtain ⟨he, content, source, hr, hd, hp⟩ := h
  simp only [Settings.load, he, hr, hd, hp]
  rfl

end

end GuestRunner.Settings
