import DataShape.Library

/-!
# Registering a library

Model of the part of `extend` that looks at its configuration; what follows, `with_observable_lib`
and `set_default_validator`, is a step of a session.

* `requestedHandle` — the value that a configuration gives for a library, which `extend` looks for
  under the `LIBRARY_KEYS`.
* `requestedLibrary` — the library that it stands for, if it has an `is_observable`.

What can serve as a library is a parameter: `Library.ofValue?` for the libraries at hand.
-/

namespace DataShape

/-- Why a configuration is refused. -/
inductive RegistrationFault where
  | notAnObject
  | noKnownParameter
  | unusableLibrary
  deriving DecidableEq, Repr

/-- The message of a refusal. -/
def RegistrationFault.message : RegistrationFault → String
  | .notAnObject => "'config' has to be an object!"
  | .noKnownParameter => "superschema.extend called without any known parameters!"
  | .unusableLibrary => "Invalid 'knockout' parameter given!"

/-- The keys of a configuration under which a library may be given, in order of precedence. -/
def libraryKeys : List String := ["knockout", "ko"]

/-- The first value under one of the keys that is not null. -/
def firstGiven (entries : List (Value × Value)) : List String → Option Value
  | [] => none
  | key :: keys =>
    match Value.lookup key entries with
    | none | some .null => firstGiven entries keys
    | some v => some v

/-- What a configuration gives as its library. -/
def requestedHandle (config : Value) : Except RegistrationFault Value :=
  match config.entries? with
  | none => .error .notAnObject
  | some entries =>
    match firstGiven entries libraryKeys with
    | none => .error .noKnownParameter
    | some v => .ok v

/-- The library that a configuration asks for, after the value that stands for it. -/
def requestedLibrary (offers : Value → Option Library) (config : Value) :
    Except RegistrationFault (Value × Library) :=
  match requestedHandle config with
  | .error f => .error f
  | .ok v =>
    match offers v with
    | some library => .ok (v, library)
    | none => .error .unusableLibrary

end DataShape
