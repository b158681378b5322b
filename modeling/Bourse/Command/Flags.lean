import Bourse.Text.Quote

/-!
# Command-line flags

A command takes named flags before any other argument. A flag is written `-name` or `--name`,
with its value after `=` or, for a flag that takes text, as the next argument; a switch is on
when named alone and otherwise takes a truth value after `=` (`1`, `t`, `true` and `0`, `f`,
`false`, in the usual spellings). Reading stops at the first argument that is not a flag (a
lone `-` included) and after `--`. The last value given for a flag wins.

Reading fails on a malformed flag (`---x`, `-=x`), an unknown one, a flag that takes text and
comes last without a value, and a switch with a value that is not a truth value. `-h` and
`-help`, unless defined, ask for the usage instead.

The usage lists the flags by name: each as `  -name` followed by ` string` for text, then its
description on the next line after four spaces and a tab, and its default when it is not empty
or off, quoted for text.
-/

namespace Bourse

/-- What a flag takes. -/
inductive FlagKind where
  /-- A text. -/
  | text
  /-- A switch, on or off. -/
  | switch
  deriving Repr, DecidableEq

/-- A flag a command defines. -/
structure FlagSpec where
  name : String
  /-- What it takes. -/
  kind : FlagKind
  /-- The value when it is not given, as text. -/
  default : String
  /-- What it is for. -/
  usage : String
  deriving Repr

/-- Why reading the flags stopped. -/
inductive FlagError where
  /-- The usage was asked for. -/
  | help
  /-- A flag could not be read. -/
  | failed (message : String)
  deriving Repr, DecidableEq

/-- The values of the flags, by name. -/
abbrev FlagValues := List (String × String)

/-- The value of a flag; empty when unknown. -/
def FlagValues.get (values : FlagValues) (name : String) : String := (values.lookup name).getD ""

/-- Sets a flag's value. -/
def FlagValues.set (values : FlagValues) (name value : String) : FlagValues :=
  (name, value) :: values.filter (·.1 != name)

/-- A truth value in one of its spellings. -/
def readTruth? (text : String) : Option Bool :=
  if ["1", "t", "T", "TRUE", "true", "True"].contains text then some true
  else if ["0", "f", "F", "FALSE", "false", "False"].contains text then some false
  else none

/-- The name of a flag argument and the value after its `=`, if any; the dashes are gone. -/
def splitFlag (name : List Char) : String × Option String :=
  match name with
  | [] => ("", none)
  | first :: rest =>
    match rest.findIdx? (· == '=') with
    | some i => (String.ofList (first :: rest.take i), some (String.ofList (rest.drop (i + 1))))
    | none => (String.ofList name, none)

/-- Reads flags from the arguments onto `values`. -/
def readFlags (specs : List FlagSpec) (values : FlagValues) : List String → Except FlagError FlagValues
  | [] => .ok values
  | argument :: rest =>
    let chars := argument.toList
    if chars.length < 2 || chars.head? != some '-' then .ok values
    else
      let doubled := chars[1]? == some '-'
      let name := chars.drop (if doubled then 2 else 1)
      if doubled && name.isEmpty then .ok values
      else if name.isEmpty || name.head? == some '-' || name.head? == some '=' then
        .error (.failed ("bad flag syntax: " ++ argument))
      else
        let (flag, given) := splitFlag name
        match specs.find? (·.name == flag) with
        | none =>
          if flag == "help" || flag == "h" then .error .help
          else .error (.failed ("flag provided but not defined: -" ++ flag))
        | some spec =>
          match spec.kind, given with
          | .switch, none => readFlags specs (values.set flag "true") rest
          | .switch, some text =>
            match readTruth? text with
            | some on => readFlags specs (values.set flag (toString on)) rest
            | none => .error (.failed ("invalid boolean value " ++ quoteText text ++ " for -" ++ flag ++
                ": parse error"))
          | .text, some text => readFlags specs (values.set flag text) rest
          | .text, none =>
            match rest with
            | text :: later => readFlags specs (values.set flag text) later
            | [] => .error (.failed ("flag needs an argument: -" ++ flag))

/-- Reads the flags of the arguments, starting from the defaults. -/
def parseFlags (specs : List FlagSpec) (args : List String) : Except FlagError FlagValues :=
  readFlags specs (specs.map fun s => (s.name, s.default)) args

/-- Whether a default is the empty value of its kind, and so not shown. -/
def FlagSpec.defaultShown (spec : FlagSpec) : Bool :=
  match spec.kind with
  | .text => !spec.default.isEmpty
  | .switch => spec.default != "false"

/-- The usage line of a flag. -/
def FlagSpec.usageLine (spec : FlagSpec) : String :=
  let head := "  -" ++ spec.name ++ (if spec.kind == .text then " string" else "")
  let gap := if head.utf8ByteSize ≤ 4 then "\t" else "\n    \t"
  let default := if !spec.defaultShown then ""
    else if spec.kind == .text then " (default " ++ quoteText spec.default ++ ")"
    else " (default " ++ spec.default ++ ")"
  head ++ gap ++ "\n    \t".intercalate (spec.usage.splitOn "\n") ++ default ++ "\n"

/-- The usage of a program with its flags, listed by name. -/
def usageText (program : String) (specs : List FlagSpec) : String :=
  "Usage of " ++ program ++ ":\n" ++
    String.join ((specs.mergeSort fun a b => decide (a.name ≤ b.name)).map FlagSpec.usageLine)

end Bourse
