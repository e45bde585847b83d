import GuestRunner.Files.Volume
import GuestRunner.Settings.Basic
import GuestRunner.Toml.Document

/-!
# Settings from a file

A settings file is a TOML document. Its `processor` table, if it has one, is the root, and the
fields of the root go over the defaults. A relative path in it is meant from the directory of the
file, and is joined to that directory without being simplified. A file that does not exist gives the
defaults.
-/

set_option autoImplicit false

namespace GuestRunner.Settings

def startingFields : Fields :=
  [("capture", .text CaptureKind.buffered.label),
    ("backend", .text EngineKind.wasmtime.label),
    ("program_name", .text defaultProgramName),
    ("env", .table []),
    ("readonly_mounts", .list []),
    ("fail_on_stderr", .bool true)]

def overlay (v : Value) : Except Problem (List (Value × Value)) :=
  match v with
  | .table entries => .ok entries
  | v => .error (.refusal (.noUnion v.typeName))

def named (entries : List (Value × Value)) : Fields :=
  entries.filterMap fun (key, value) =>
    match key with
    | .text name => some (name, value)
    | _ => none

def root (document : List (Value × Value)) : Value :=
  match Toml.Entries.find? "processor" document with
  | some v => v
  | none => .table document

def anchored (base : String) (v : Value) : Value :=
  match v with
  | .text s => if s ≠ "" ∧ !Path.isAbsoluteText s then .text (Path.joinText base s) else v
  | v => v

def anchoredFields (base : String) (given : Fields) : Fields :=
  given.map fun (name, v) =>
    if name = "path" ∨ name = "io_dir" then (name, anchored base v) else (name, v)

def ofDocument (base : String) (document : List (Value × Value)) : Except Problem Settings := do
  let entries ← overlay (root document)
  let given := named entries
  let environment ← overlay ((given.lookup "env").getD (.table []))
  let all := Value.insert "env" (.table environment) (Value.merge startingFields given)
  make (anchoredFields base all)

def directoryOf (v : Files.Volume) (text : String) : String :=
  ((Path.ofText text).under (Files.Volume.absolute v.home)).normal.parent.text

def defaultFile : String := "config/processor.toml"

def load (v : Files.Volume) (text : String) : Except Problem Settings :=
  if !v.existsText? text then make startingFields
  else
    match v.readText text with
    | .error e => .error (.os e)
    | .ok content =>
      match Text.Utf8.decode? content with
      | none => .error (.refusal .undecodableDocument)
      | some source =>
        match Toml.parse source with
        | .error .malformed => .error (.refusal .malformedDocument)
        | .error (.integerTooLong digits) => .error (.refusal (.integerTooLong digits))
        | .ok document => ofDocument (directoryOf v text) document

end GuestRunner.Settings
