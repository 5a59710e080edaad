import Launcher.Document.Basic
import Launcher.Number.Integer
import Launcher.Toml.Document
/-!
Catalog documents read from TOML. Each structure is a table, whose unknown keys do not count, or an
array of its fields in order, where only trailing fields that have a default may be missing. -/
namespace Launcher

namespace Toml

/-- Whether every number in the value is one that a reader can make something of; integers have at
most 128 bits. Without `wide`, integers must fit 64 bits. -/
def Value.isReadable (wide : Bool) : Value → Bool
  | .integer i =>
    if wide then -(Nat.pow 2 127 : Int) ≤ i && i < Nat.pow 2 128
    else -(Nat.pow 2 63 : Int) ≤ i && i < Nat.pow 2 64
  | .unreadable => false
  | .array _ items => itemsReadable items
  | .table _ entries => entriesReadable entries
  | _ => true
where
  itemsReadable : List Value → Bool
    | [] => true
    | v :: rest => v.isReadable wide && itemsReadable rest
  entriesReadable : List (String × Value) → Bool
    | [] => true
    | (_, v) :: rest => v.isReadable wide && entriesReadable rest

/-- The key under which a date shows when it is looked at as a table. -/
def datetimeKey : String := "$__toml_private_datetime"

def Value.entries? : Value → Option Entries
  | .table _ entries => some entries
  | .datetime s => some [(datetimeKey, .string s)]
  | _ => none

def Value.items? : Value → Option (List Value)
  | .array _ items => some items
  | _ => none

def Value.string? : Value → Option String
  | .string s => some s
  | _ => none

def Value.boolean? : Value → Option Bool
  | .boolean b => some b
  | _ => none

end Toml

namespace Document

open Toml (Entries)

/-- How strictly a value is read. A part of the catalog file is read in two steps, and so all of
its numbers must fit 64 bits and arrays must have no items too many. A file of its own is read in
one step. -/
inductive Reading where
  | buffered
  | direct
  deriving DecidableEq, Repr

/-- Whether a structure that was read from an array may leave items over. -/
def Reading.admits (r : Reading) (leftover : List Toml.Value) : Bool :=
  r = .direct || leftover.isEmpty

/-- Unknown keys do not count, but their numbers must be readable. -/
def knownOnly (known : List String) (entries : Entries) : Bool :=
  entries.all fun e => known.contains e.1 || e.2.isReadable true

/-- The decoded value of a key, or a default if the key is missing. -/
def member (decode : Toml.Value → Option α) (default : Option α) (key : String)
    (entries : Entries) : Option α :=
  match entries.lookup key with
  | some v => decode v
  | none => default

def optional (decode : Toml.Value → Option α) (v : Toml.Value) : Option (Option α) :=
  (decode v).map some

def listOf (decode : Toml.Value → Option α) (v : Toml.Value) : Option (List α) :=
  v.items?.bind fun items => items.mapM decode

def indexOf (decode : Toml.Value → Option α) (v : Toml.Value) : Option (Index α) := do
  let entries ← v.entries?
  let decoded ← entries.mapM fun e => (decode e.2).map fun a => (e.1, a)
  return .ofList decoded

/-- A default keeps the type it is written with; an integer too large for its type is a
floating-point number. -/
def defaultValue : Toml.Value → Option Value
  | .boolean b => some (.boolean b)
  | .integer i =>
    if Number.fits 64 i then some (.integer i)
    else if 0 ≤ i ∧ i < Nat.pow 2 64 then some (.real (.ofNat i.toNat))
    else none
  | .real x => some (.real x)
  | .string s => some (.text s)
  | _ => none

def parameter (r : Reading) (v : Toml.Value) : Option ParameterDocument :=
  match v.entries?, v.items? with
  | some entries, _ => do
    let name ← member (·.string?) none "name" entries
    let kind ← member (·.string?) (some "") "type" entries
    let subtype ← member (optional (·.string?)) (some none) "subtype" entries
    let default ← member (optional defaultValue) (some none) "default" entries
    let optional ← member (·.boolean?) (some false) "optional" entries
    if knownOnly ["name", "type", "subtype", "default", "optional"] entries then
      return { name, kind, subtype, default, optional }
    else none
  | none, some (name :: kind :: subtype :: default :: rest) => do
    let name ← name.string?
    let kind ← kind.string?
    let subtype ← subtype.string?
    let default ← defaultValue default
    let optional ← (rest.head?.map (·.boolean?)).getD (some false)
    if r.admits (rest.drop 1) then
      return { name, kind, subtype := some subtype, default := some default, optional }
    else none
  | _, _ => none

def mode (r : Reading) (v : Toml.Value) : Option ModeDocument :=
  match v.entries?, v.items? with
  | some entries, _ => do
    let parameters ← member (listOf (parameter r)) (some []) "parameters" entries
    let parameterMatch ← member (optional (·.string?)) (some none) "parameter-match" entries
    let omitted ← member (listOf (·.string?)) (some []) "omit" entries
    if knownOnly ["parameters", "parameter-match", "omit"] entries then
      return { parameters, parameterMatch, omitted }
    else none
  | none, some (parameters :: parameterMatch :: rest) => do
    let parameters ← listOf (parameter r) parameters
    let parameterMatch ← parameterMatch.string?
    let omitted ← (rest.head?.map (listOf (·.string?))).getD (some [])
    if r.admits (rest.drop 1) then
      return { parameters, parameterMatch := some parameterMatch, omitted }
    else none
  | _, _ => none

def program (r : Reading) (v : Toml.Value) : Option ProgramDocument :=
  match v.entries?, v.items? with
  | some entries, _ => do
    let id ← member (optional (·.string?)) (some none) "id" entries
    let binary ← member (optional (·.string?)) (some none) "binary" entries
    let defaultMode ← member (optional (·.string?)) (some none) "default-mode" entries
    let commonParameters ← member (listOf (parameter r)) (some []) "common-parameters" entries
    let modes ← member (indexOf (mode r)) (some .empty) "modes" entries
    if knownOnly ["id", "binary", "default-mode", "common-parameters", "modes"] entries then
      return { id, binary, defaultMode, commonParameters, modes }
    else none
  | none, some (id :: binary :: defaultMode :: rest) => do
    let id ← id.string?
    let binary ← binary.string?
    let defaultMode ← defaultMode.string?
    let commonParameters ← (rest.head?.map (listOf (parameter r))).getD (some [])
    let modes ← ((rest.drop 1).head?.map (indexOf (mode r))).getD (some .empty)
    if r.admits (rest.drop 2) then
      return { id := some id, binary := some binary, defaultMode := some defaultMode,
               commonParameters, modes }
    else none
  | _, _ => none

/-- A text names a file; anything else is the program itself. -/
def entry (v : Toml.Value) : Option ProgramEntry :=
  match v.string? with
  | some file => some (.external file)
  | none => if v.isReadable false then (program .buffered v).map .inline else none

def catalog (entries : Entries) : Option CatalogDocument := do
  let programs ← member (indexOf entry) (some .empty) "programs" entries
  if knownOnly ["programs"] entries then return { programs } else none

end Document

/-- The catalog document that a text describes. -/
def CatalogDocument.read? (text : String) : Option CatalogDocument :=
  (Toml.read? text).bind Document.catalog

/-- The program that a file of its own describes. -/
def ProgramDocument.read? (text : String) : Option ProgramDocument :=
  (Toml.read? text).bind fun entries => Document.program .direct (.table .header entries)

end Launcher
