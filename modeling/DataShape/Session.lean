import DataShape.CommandLine

/-!
# Sessions

A process with a current validator, which registrations replace, and further validators and
libraries under names. Model of `Validator` with `with_observable_lib`, and of `default_validator`,
`set_default_validator`, `extend` and the `check` that uses the default validator.

* `Validator` — a type table with an identity.
* `Session` — the state; `Session.start` is the first one.
* `Action`, `Session.step` — what can be done, and the next state with the answer.
* `Session.run` — the answers to a list of actions.

What a configuration may give as a library is a parameter, `offers`.
-/

namespace DataShape

/-- A type table with an identity. -/
structure Validator where
  id : Nat
  types : TypeTable

/-- The state of a process. -/
structure Session where
  /-- The validator that is used when none is named. -/
  current : Validator
  validators : List (String × Validator)
  libraries : List (String × Library)
  /-- What libraries have been shown, by their identities, the oldest first. -/
  shown : List (Nat × Value)
  /-- The identity of the next validator. -/
  next : Nat

/-- What can be done in a session. -/
inductive Action where
  /-- Gives a library a name. -/
  | nameLibrary (name : String) (library : Library)
  /-- Registers the library of a configuration with the current validator. -/
  | extend (config : Value)
  /-- Makes a validator. -/
  | create (name : String) (types : TypeTable)
  /-- Makes a validator from another one and a named library. -/
  | withLibrary (name library : String) (base : Option String)
  /-- Makes a named validator the current one, and gives the former one a name. -/
  | swap (target : String) (keepAs : Option String)
  /-- Gives the current validator a name. -/
  | keep (name : String)
  /-- Asks whether two validators are one. -/
  | same (a : String) (b : Option String)
  | check (v pattern : Value) (name on : Option String)
  | verify (pattern : Value) (name on : Option String)
  /-- Asks for the names of the types. -/
  | names (on : Option String)
  /-- Asks what a named library has been shown. -/
  | seen (library : String)
  /-- Runs a command, with the packages that it uses. -/
  | command (tools : Tools) (read : Reader) (args : List String)

/-- The answer to an action. -/
inductive Answer where
  | done
  | failed (problem : Problem)
  | previousLibrary (name : Option String)
  | same (b : Bool)
  | names (names : List String)
  | seen (values : List Value)
  /-- The arguments of a command were not understood. -/
  | usage (exit : Nat)
  | verdict (invocation : Invocation) (v : Verdict)

/-- The answer that tells how a check or a verification ended. -/
def Answer.ofResult : Except Problem Unit → Answer
  | .ok () => .done
  | .error p => .failed p

namespace Session

variable (offers : Value → Option Library)

/-- A process that has just started. -/
def start : Session := ⟨⟨0, .standard⟩, [], [], [], 1⟩

/-- A named validator, or the current one. -/
def validator (s : Session) : Option String → Validator
  | none => s.current
  | some name => (s.validators.lookup name).getD s.current

/-- The name of the library of a validator. -/
def libraryName (s : Session) (v : Validator) : Option String :=
  v.types.library?.bind fun library =>
    (s.libraries.find? fun (_, l) => l.id == library.id).map Prod.fst

/-- Notes what the library of a table has been shown. -/
def note (T : TypeTable) (seen : List Value) (s : Session) : Session :=
  match T.library? with
  | some library => { s with shown := s.shown ++ seen.map fun v => (library.id, v) }
  | none => s

/-- What a library has been shown. -/
def shownTo (s : Session) (id : Nat) : List Value :=
  (s.shown.filter fun (i, _) => i == id).map Prod.snd

/-- Makes a validator current. -/
def replace (T : TypeTable) (s : Session) : Session :=
  { s with current := ⟨s.next, T⟩, next := s.next + 1 }

/-- Gives a library a name, which another library may lose by that. -/
def nameLibrary (name : String) (library : Library) (s : Session) : Session :=
  { s with libraries := (name, library) :: s.libraries.filter fun (n, _) => n != name }

/-- Adds a named validator. -/
def create (name : String) (T : TypeTable) (s : Session) : Session :=
  { s with validators := (name, ⟨s.next, T⟩) :: s.validators, next := s.next + 1 }

/-- Registers the library of a configuration. A refused configuration changes nothing. -/
def extend (config : Value) (s : Session) : Session × Answer × List LogEntry :=
  match requestedLibrary offers config with
  | .ok (handle, library) =>
    (s.replace (s.current.types.withLibrary library), .done, [.ofRegistration handle])
  | .error f => (s, .failed (.config f.message), [])

/-- Runs a check. It changes nothing but what the library has been shown. -/
def check (v pattern : Value) (name on : Option String) (s : Session) :
    Session × Answer × List LogEntry :=
  let T := (s.validator on).types
  let r := Engine.check T v pattern name
  (s.note T r.seen, .ofResult r.result, [.ofCheck name pattern])

/-- Runs a command with the current validator. -/
def command (tools : Tools) (read : Reader) (args : List String) (s : Session) :
    Session × Answer × List LogEntry :=
  match tools.arguments args with
  | .error exit => (s, .usage exit, [])
  | .ok i =>
    match i.command with
    | .types =>
      match i.command.run tools s.current.types read with
      | .ok v => (s, .verdict i v, [])
      | .error p => (s, .failed p, [])
    | .check data pattern name key =>
      let t := tryCheck tools.parsers s.current.types read data pattern name key
      (s.note s.current.types t.seen,
        match t.verdict tools.terminal with
        | .ok v => .verdict i v
        | .error p => .failed p,
        t.log)

/-- Carries out an action: the next state, the answer and what is logged. -/
def step (s : Session) : Action → Session × Answer × List LogEntry
  | .nameLibrary name library => (s.nameLibrary name library, .done, [])
  | .extend config => s.extend offers config
  | .create name T => (s.create name T, .done, [])
  | .withLibrary name library base =>
    match s.libraries.lookup library with
    | some l => (s.create name ((s.validator base).types.withLibrary l), .done, [])
    | none => (s, .failed (.misuse (.noPredicate library)), [])
  | .swap target keepAs =>
    let previous := s.current
    let kept := match keepAs with
      | some name => (name, previous) :: s.validators
      | none => s.validators
    ({ s with current := s.validator (some target), validators := kept },
      .previousLibrary (s.libraryName previous), [])
  | .keep name => ({ s with validators := (name, s.current) :: s.validators }, .done, [])
  | .same a b => (s, .same ((s.validator (some a)).id == (s.validator b).id), [])
  | .check v pattern name on => s.check v pattern name on
  | .verify pattern name on =>
    (s, .ofResult (Engine.verify (s.validator on).types pattern name).result, [])
  | .names on => (s, .names (s.validator on).types.names, [])
  | .seen library =>
    (s, .seen ((s.libraries.lookup library).elim [] fun l => s.shownTo l.id), [])
  | .command tools read args => s.command tools read args

/-- Carries out actions in order: the last state and the answers. -/
def run (s : Session) : List Action → Session × List Answer
  | [] => (s, [])
  | a :: rest =>
    let (t, answer, _) := s.step offers a
    let (u, answers) := run t rest
    (u, answer :: answers)

end Session

end DataShape
