import HeaderBindings.Enumeration
import HeaderBindings.Enumeration.Preset
import HeaderBindings.Log

/-!
Requests for an enumeration: where its constants come from, and the name and prefix that replace
those of a preset. A text brings neither a name nor a prefix, so both have to be given with it.
-/

namespace HeaderBindings

inductive ConstantSource where
  | preset (listed : Preset)
  | text (listing : String)
  deriving DecidableEq

structure EnumRequest where
  enumeration : Option String := none
  sharedPrefix : Option String := none
  source : ConstantSource
  style : EnumStyle := {}
  deriving DecidableEq

inductive EnumRequestError where
  | missingName
  | missingPrefix
  | rendering (error : EnumError)
  deriving DecidableEq

def EnumRequestError.message : EnumRequestError → String
  | missingName => "an enum name is required: pass `--name` or `--preset`"
  | missingPrefix => "a constant prefix is required: pass `--prefix` or `--preset`"
  | rendering error => error.message

namespace ConstantSource

/-- The name that the source suggests. -/
def enumeration? : ConstantSource → Option String
  | .preset listed => some listed.enumeration
  | .text _ => none

/-- The prefix that the source suggests. -/
def sharedPrefix? : ConstantSource → Option String
  | .preset listed => some listed.sharedPrefix
  | .text _ => none

def constants : ConstantSource → List String
  | .preset listed => listed.constants
  | .text listing => Enumeration.constantsOfText listing

end ConstantSource

namespace EnumRequest

def warnIfEmpty (enumeration : String) (constants : List String) : Attempt EnumRequestError Unit :=
  if constants.isEmpty then Attempt.report (.noConstants enumeration) else pure ()

def generate (request : EnumRequest) : Attempt EnumRequestError String := do
  let some enumeration := request.enumeration.or request.source.enumeration?
    | throw .missingName
  let some sharedPrefix := request.sharedPrefix.or request.source.sharedPrefix?
    | throw .missingPrefix
  let constants := request.source.constants
  warnIfEmpty enumeration constants
  Attempt.report (.rendering enumeration constants.length)
  match Enumeration.render request.style enumeration sharedPrefix constants with
  | .ok text => pure text
  | .error error => throw (.rendering error)

theorem value_warnIfEmpty (enumeration : String) (constants : List String) :
    (warnIfEmpty enumeration constants).outcome.value = .ok () := by
  rw [warnIfEmpty]
  split
  · rfl
  · rfl

/-- What is generated once the name and the prefix are known. -/
theorem value_generate {request : EnumRequest} {enumeration sharedPrefix : String}
    (henumeration : request.enumeration.or request.source.enumeration? = some enumeration)
    (hshared : request.sharedPrefix.or request.source.sharedPrefix? = some sharedPrefix) :
    request.generate.outcome.value
      = (Enumeration.render request.style enumeration sharedPrefix
          request.source.constants).mapError .rendering := by
  rw [generate, henumeration, hshared]
  simp only [Attempt.value_bind, value_warnIfEmpty]
  cases Enumeration.render request.style enumeration sharedPrefix request.source.constants with
  | error error => rfl
  | ok text => rfl

end EnumRequest

end HeaderBindings
