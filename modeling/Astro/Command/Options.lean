import Astro.Text.Basic

/-!
# Command line options

Flags may stand anywhere among the arguments behind the command word. Everything
that does not start with two dashes is positional, and so are two dashes alone.
Of several settings paths the last one counts.
-/

namespace Astro

/-- What the flags of a command line ask for. The order of the flags does not matter. -/
structure Options where
  json : Bool
  context : Bool
  trace : Bool
  /-- The path of the settings file; empty when none is given. -/
  configPath : Text
deriving DecidableEq, Repr

namespace Options

/-- What is asked for without flags. Everything is switched off, and no file of settings is named.
-/
def none : Options := ⟨false, false, false, []⟩

/-- Why a command line cannot be understood. It is a flag that needs a path and has none, or one
that is not known. -/
inductive Invalid where
  | missingPath
  | unknownFlag (flag : Text)
deriving DecidableEq, Repr

/-- What is reported about a command line that cannot be understood. -/
def Invalid.text : Invalid → Text
  | .missingPath => Text.ofString "--config needs a path"
  | .unknownFlag flag => Text.ofString "unknown flag '" ++ flag ++ Text.ofString "'"

/-- The beginning of a flag that carries a settings path. -/
def configMark : Text := Text.ofString "--config="

/-- Read arguments on top of what was asked for so far. -/
def readFrom (options : Options) (positional : List Text) :
    List Text → Except Invalid (Options × List Text)
  | [] => .ok (options, positional)
  | argument :: rest =>
    if argument = Text.ofString "--json" then readFrom { options with json := true } positional rest
    else if argument = Text.ofString "--context" then
      readFrom { options with context := true } positional rest
    else if argument = Text.ofString "--trace" then
      readFrom { options with trace := true } positional rest
    else if argument = Text.ofString "--config" then
      match rest with
      | [] => .error .missingPath
      | path :: rest => readFrom { options with configPath := path } positional rest
    else if configMark.isPrefixOf argument then
      readFrom { options with configPath := argument.drop configMark.length } positional rest
    else if (Text.ofString "--").isPrefixOf argument ∧ 2 < argument.length then
      .error (.unknownFlag argument)
    else readFrom options (positional ++ [argument]) rest

/-- The options and the positional arguments of a command line. -/
def read (arguments : List Text) : Except Invalid (Options × List Text) :=
  readFrom none [] arguments

end Options

end Astro
