import DocRunner.Settings.Layer
import DocRunner.Toml.Reader

/-!
# The settings file

The file is a TOML document of three sections. A section is a table with the settings of that section, or an
array with their values in order, of which further elements do not count. `Layer.ofDocument?` decodes a
document, entry by entry in order, and stops at the first that does not fit; `Layer.ofFile?` reads a text first.
-/

namespace DocRunner

/-- The settings that a file can give. -/
inductive Setting
  | builder
  | options
  | strictOptions
  | sourceDir
  | buildDir
  | liveServer
  | port
  | linkcheckScript
  deriving DecidableEq, Repr

/-- The sections of a settings file. -/
inductive Section
  | build
  | live
  | linkcheck
  deriving DecidableEq, Repr

/-- The key of a setting in its section. -/
def Setting.key : Setting → String
  | builder => "builder"
  | options => "options"
  | strictOptions => "strict-options"
  | sourceDir => "source-dir"
  | buildDir => "build-dir"
  | liveServer => "server"
  | port => "port"
  | linkcheckScript => "script"

namespace Section

/-- The sections in order. -/
def all : List Section := [build, live, linkcheck]

/-- The key of a section. -/
def key : Section → String
  | build => "build"
  | live => "live"
  | linkcheck => "linkcheck"

/-- What a message expects in the place of a section. -/
def typeName : Section → String
  | build => "struct BuildSection"
  | live => "struct LiveSection"
  | linkcheck => "struct LinkcheckSection"

/-- The settings of a section in order. -/
def settings : Section → List Setting
  | build => [.builder, .options, .strictOptions, .sourceDir, .buildDir]
  | live => [.liveServer, .port]
  | linkcheck => [.linkcheckScript]

end Section

namespace Layer

open Toml (Value)

/-- A value that has to be a text. -/
def textOf? (expected : String) : Value → Except Mismatch String
  | .string text => .ok text
  | v => .error (.wrongType v.shape expected)

/-- A value that has to be a port. -/
def portOf? : Value → Except Mismatch UInt16
  | .integer n =>
    match if 0 ≤ n then Text.toPort? n.toNat else none with
    | some port => .ok port
    | none => .error (.outOfRange n "u16")
  | v => .error (.wrongType v.shape "u16")

/-- Takes the value of a setting. -/
def give (l : Layer) (s : Setting) (v : Value) : Except Mismatch Layer :=
  match s with
  | .builder => (textOf? "a string" v).map fun x => { l with builder := some x }
  | .options => (textOf? "a string" v).map fun x => { l with options := some x }
  | .strictOptions => (textOf? "a string" v).map fun x => { l with strictOptions := some x }
  | .sourceDir => (textOf? "path string" v).map fun x => { l with sourceDir := some x }
  | .buildDir => (textOf? "path string" v).map fun x => { l with buildDir := some x }
  | .liveServer => (textOf? "a string" v).map fun x => { l with liveServer := some x }
  | .port => (portOf? v).map fun x => { l with port := some x }
  | .linkcheckScript => (textOf? "path string" v).map fun x => { l with linkcheckScript := some x }

/-- Takes the entries of a section that is a table. -/
def giveEntries (sec : Section) (l : Layer) : List (String × Value) → Except Mismatch Layer
  | [] => .ok l
  | (key, v) :: rest =>
    match sec.settings.find? (·.key = key) with
    | none => .error (.unknownField key (sec.settings.map Setting.key))
    | some s => (l.give s v).bind fun l => giveEntries sec l rest

/-- Takes the elements of a section that is an array. -/
def giveElements (l : Layer) : List Setting → List Value → Except Mismatch Layer
  | s :: settings, v :: values => (l.give s v).bind fun l => giveElements l settings values
  | _, _ => .ok l

/-- The only key of a date or time when it is taken for a table. -/
def datetimeKey : String := "$__toml_private_datetime"

/-- Takes a section. -/
def giveSection (l : Layer) (sec : Section) : Value → Except Mismatch Layer
  | .table entries => giveEntries sec l entries
  | .array elements => giveElements l sec.settings elements
  | .datetime _ => .error (.unknownField datetimeKey (sec.settings.map Setting.key))
  | v => .error (.wrongType v.shape sec.typeName)

/-- Takes the top level entries of a document. -/
def giveDocument (l : Layer) : List (String × Value) → Except Mismatch Layer
  | [] => .ok l
  | (key, v) :: rest =>
    match Section.all.find? (·.key = key) with
    | none => .error (.unknownField key (Section.all.map Section.key))
    | some sec => (l.giveSection sec v).bind fun l => giveDocument l rest

/-- What a document gives. -/
def ofDocument? (entries : List (String × Value)) : Except Mismatch Layer :=
  giveDocument {} entries

/-- What a text gives. -/
def ofFile? (text : String) : Except DocumentError Layer :=
  match Toml.read? text with
  | none => .error .malformed
  | some entries =>
    match ofDocument? entries with
    | .ok l => .ok l
    | .error m => .error (.mismatch m)

end Layer

end DocRunner
