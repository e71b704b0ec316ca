import ScopedIr.Toml.Parse
import ScopedIr.Builder.Basic
import ScopedIr.Text.Escaped

/-!
# Package configuration

A package file is a TOML document with a required `package` table (string fields `name`
and `version`, and an optional `license`, empty when absent) and an optional `profile`
table mapping profile names to profiles (boolean fields `release` and `debug_info`, false
when absent). Keys the schema does not name are ignored. A struct may also be written as
an array, whose items fill the fields in order; items past the last field are ignored and
a missing item takes the field's default, or fails when the field has none. A date or time
stands for a struct with none of the fields, so it reads as a profile with defaults.

Reading fails as a whole, with `ConfigError.parse`, on malformed TOML, a missing required
field or a value of the wrong type. A profile, once read, chooses the builder options.
-/

namespace ScopedIr

/-- The package a configuration describes. -/
structure Package where
  name : String
  version : String
  license : String
  deriving DecidableEq, Repr

/-- A compilation profile. -/
structure Profile where
  release : Bool
  debugInfo : Bool
  deriving DecidableEq, Repr

/-- A package configuration: the package and its profiles, sorted by name. -/
structure Config where
  package : Package
  profiles : List (String × Profile)
  deriving Repr

/-- Why a configuration could not be read or used. -/
inductive ConfigError where
  /-- The text is not a TOML document of the expected shape. -/
  | parse
  /-- No profile has this name. -/
  | missingProfile (name : String)
  deriving DecidableEq, Repr

/-- The error's family and variant. -/
def ConfigError.kindName : ConfigError → String
  | .parse => "ConfigError::Parse"
  | .missingProfile _ => "ConfigError::MissingProfile"

/-- The error's message; a parse error's text is not part of this library. -/
def ConfigError.message : ConfigError → String
  | .parse => "TOML parse error"
  | .missingProfile name => "profile " ++ Text.quote name ++ " is not defined"

namespace Toml

/-- A field of a struct written as the node `n`: looked up by `name` in a table, or taken
at `pos` from an array. A date or time reads as a table with one key of its own, so it has
none of the schema's fields. The outer `none` means `n` cannot stand for a struct; the
inner one means the field is absent. -/
def Node.field? (n : Node) (name : String) (pos : Nat) : Option (Option Node) :=
  match n with
  | .table _ es => some (lookup es name)
  | .array items => some items[pos]?
  | .tables elems => some (elems[pos]?.map (Node.table .header))
  | .datetime _ => some none
  | _ => none

/-- The string a node holds. -/
def Node.string? : Node → Option String
  | .string s => some s
  | _ => none

/-- The boolean a node holds. -/
def Node.bool? : Node → Option Bool
  | .boolean b => some b
  | _ => none

/-- A required field, read by `read`. -/
def Node.required {α} (n : Node) (name : String) (pos : Nat) (read : Node → Option α) :
    Option α := do
  let v ← (← n.field? name pos)
  read v

/-- A field with a default, read by `read` when present. -/
def Node.withDefault {α} (n : Node) (name : String) (pos : Nat) (read : Node → Option α)
    (d : α) : Option α := do
  match ← n.field? name pos with
  | some v => read v
  | none => some d

end Toml

open Toml

/-- The package a node describes. -/
def Package.ofNode? (n : Node) : Option Package := do
  let name ← n.required "name" 0 Node.string?
  let version ← n.required "version" 1 Node.string?
  let license ← n.withDefault "license" 2 Node.string? ""
  return { name, version, license }

/-- The profile a node describes. -/
def Profile.ofNode? (n : Node) : Option Profile := do
  let release ← n.withDefault "release" 0 Node.bool? false
  let debugInfo ← n.withDefault "debug_info" 1 Node.bool? false
  return { release, debugInfo }

/-- The profiles a `profile` table names, sorted by name. -/
def profilesOf? : Node → Option (List (String × Profile))
  | .table _ es => do
    let ps ← es.mapM fun (k, v) => (fun p => (k, p)) <$> Profile.ofNode? v
    return ps.mergeSort fun a b => decide (a.1 ≤ b.1)
  | _ => none

/-- The configuration a document's root table describes. -/
def Config.ofEntries? (root : Entries) : Option Config := do
  let package ← (lookup root "package").bind Package.ofNode?
  let profiles ← match lookup root "profile" with
    | some n => profilesOf? n
    | none => some []
  return { package, profiles }

/-- Reads a configuration from TOML text. -/
def Config.ofToml (source : String) : Except ConfigError Config :=
  match (Toml.parse source).bind Config.ofEntries? with
  | some c => .ok c
  | none => .error .parse

/-- The profile of this name. -/
def Config.profile? (c : Config) (name : String) : Option Profile :=
  (c.profiles.find? (·.1 == name)).map (·.2)

/-- The builder options for compiling `filename` under the named profile: debug
information exactly when the profile asks for it. -/
def Config.builderOptions (c : Config) (profile : String) (filename : Option String) :
    Except ConfigError BuilderOptions :=
  match c.profile? profile with
  | some p => .ok { filename, debug := p.debugInfo }
  | none => .error (.missingProfile profile)

theorem Config.builderOptions_debug (c : Config) (profile : String) (filename : Option String)
    (p : Profile) (h : c.profile? profile = some p) :
    c.builderOptions profile filename = .ok { filename, debug := p.debugInfo } := by
  simp [Config.builderOptions, h]

end ScopedIr
