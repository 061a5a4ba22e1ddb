import HeaderBindings.Enumeration
import HeaderBindings.TypeMap
import HeaderBindings.Wrapper

/-!
Settings that configuration files may give. A setting that is not given leaves the default alone, so
settings from several places are merged one over the other, and the defaults come in last, when the
styles are made. Merging is associative, and a configuration without settings changes nothing.
-/

namespace HeaderBindings

structure PreprocessSettings where
  /-- The package whose compiler flags are asked for. -/
  package : Option String := none
  preprocessor : Option String := none
  packageConfig : Option String := none
  /-- Further flags; the empty list gives none. -/
  flags : List String := []
  deriving DecidableEq

structure StubSettings where
  stripPrefixes : Option (List String) := none
  receiver : Option String := none
  receiverType : Option String := none
  rawField : Option String := none
  space : Option String := none
  deriving DecidableEq

structure EnumSettings where
  /-- The namespace through which constants are referred to. -/
  space : Option String := none
  /-- Whether constants are referred to by their names alone. -/
  bare : Bool := false
  backingType : Option String := none
  indent : Option Nat := none
  deriving DecidableEq

/-- The settings of one place, or of several ones merged. -/
structure Config where
  preprocess : PreprocessSettings := {}
  stubs : StubSettings := {}
  enums : EnumSettings := {}
  /-- Names of base types besides the builtin ones. -/
  types : TypeMap := .identity
  deriving DecidableEq

/-- The settings of `upper` where it gives them, and those of `lower` elsewhere. -/
def PreprocessSettings.merge (lower upper : PreprocessSettings) : PreprocessSettings where
  package := upper.package.or lower.package
  preprocessor := upper.preprocessor.or lower.preprocessor
  packageConfig := upper.packageConfig.or lower.packageConfig
  flags := if upper.flags.isEmpty then lower.flags else upper.flags

def StubSettings.merge (lower upper : StubSettings) : StubSettings where
  stripPrefixes := upper.stripPrefixes.or lower.stripPrefixes
  receiver := upper.receiver.or lower.receiver
  receiverType := upper.receiverType.or lower.receiverType
  rawField := upper.rawField.or lower.rawField
  space := upper.space.or lower.space

/-- The settings of `upper` where it gives them, and those of `lower` elsewhere. References by name
alone cannot be taken back. -/
def EnumSettings.merge (lower upper : EnumSettings) : EnumSettings where
  space := upper.space.or lower.space
  bare := lower.bare || upper.bare
  backingType := upper.backingType.or lower.backingType
  indent := upper.indent.or lower.indent

namespace Config

/-- The settings of `upper` where it gives them, and those of `lower` elsewhere. The names of types
are collected. -/
def merge (lower upper : Config) : Config where
  preprocess := lower.preprocess.merge upper.preprocess
  stubs := lower.stubs.merge upper.stubs
  enums := lower.enums.merge upper.enums
  types := lower.types.withEntries upper.types.entries

def wrapperStyle (config : Config) : WrapperStyle :=
  let default : WrapperStyle := {}
  { stripPrefixes := config.stubs.stripPrefixes.getD default.stripPrefixes
    receiver := config.stubs.receiver.getD default.receiver
    receiverType := config.stubs.receiverType.getD default.receiverType
    rawField := config.stubs.rawField.getD default.rawField
    space := config.stubs.space.getD default.space
    types := default.types.withEntries config.types.entries }

def constantStyle (config : Config) : ConstantStyle :=
  if config.enums.bare then .bare
  else
    match config.enums.space with
    | some space => .qualified space
    | none => ({} : EnumStyle).constants

def enumStyle (config : Config) : EnumStyle :=
  let default : EnumStyle := {}
  { constants := config.constantStyle
    backingType := config.enums.backingType.getD default.backingType
    indent := config.enums.indent.getD default.indent }

end Config

end HeaderBindings
