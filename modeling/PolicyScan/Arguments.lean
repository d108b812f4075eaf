import PolicyScan.Violation

/-!
# Command-line arguments

Arguments are read on two levels: those up to the subcommand `test`, and those
after it.  Some options belong to both.  On each level an option or a flag may
be given once, apart from the flag for more messages, which is counted; what
both levels give, the second one decides.

A value is attached to its option or follows as the next argument, but then it
cannot look like an option.  It is checked only when the next option or flag
comes or the level ends, so that another mistake can be found before.
-/

namespace PolicyScan

/-- The arguments of a scan. -/
structure Arguments where
  path : String
  json : Bool := false
  threshold? : Option Severity := none
  directory? : Option String := none
  isolate : Bool := false
  noFail : Bool := false
  config? : Option String := none
  /-- How often more messages are asked for. -/
  verbose : Nat := 0
  quiet : Bool := false
deriving DecidableEq, Repr

/-- Why arguments start no scan. -/
inductive Usage where
  | help
  | version
  /-- There are no arguments. -/
  | nothingGiven
  | missingSubcommand
  | invalidSubcommand
  | missingPath
  | unknownArgument
  | invalidValue
  /-- A flag is given a value. -/
  | tooManyValues
  /-- An option or a flag is given again. -/
  | repeated
deriving DecidableEq, Repr

namespace Arguments

/-! ## Names -/

/-- What takes a value. -/
inductive Slot where
  | config
  | threshold
  | directory
  | path
deriving DecidableEq, Repr

/-- What takes no value. -/
inductive Flag where
  | verbose
  | quiet
  | json
  | isolate
  | noFail
  | help
  | version
deriving DecidableEq, Repr

/-- What a name stands for. -/
inductive Switch where
  | slot (slot : Slot)
  | flag (flag : Flag)
deriving DecidableEq, Repr

/-- Where arguments stand. -/
inductive Level where
  /-- Before the subcommand. -/
  | outer
  /-- After the subcommand. -/
  | inner
deriving DecidableEq, Repr

/-- The switch of a long name. -/
def Level.long? : Level → String → Option Switch
  | _, "config" => some (.slot .config)
  | _, "verbose" => some (.flag .verbose)
  | _, "quiet" => some (.flag .quiet)
  | _, "help" => some (.flag .help)
  | .outer, "version" => some (.flag .version)
  | .inner, "json" => some (.flag .json)
  | .inner, "severity-threshold" => some (.slot .threshold)
  | .inner, "cache-dir" => some (.slot .directory)
  | .inner, "isolate-failures" => some (.flag .isolate)
  | .inner, "no-fail" => some (.flag .noFail)
  | _, _ => none

/-- The switch of a letter. -/
def Level.short? : Level → Char → Option Switch
  | _, 'c' => some (.slot .config)
  | _, 'v' => some (.flag .verbose)
  | _, 'q' => some (.flag .quiet)
  | _, 'h' => some (.flag .help)
  | .outer, 'V' => some (.flag .version)
  | _, _ => none

/-! ## What is given -/

/-- What a level gives. -/
structure Given where
  path? : Option String := none
  json : Bool := false
  threshold? : Option Severity := none
  directory? : Option String := none
  isolate : Bool := false
  noFail : Bool := false
  config? : Option String := none
  verbose : Nat := 0
  quiet : Bool := false
deriving DecidableEq, Repr

namespace Given

/-- Put a text into an empty place; it must not be empty. -/
def text (old : Option String) (value : String) : Except Usage (Option String) :=
  if old.isSome then .error .repeated
  else if value = "" then .error .invalidValue
  else .ok (some value)

/-- Fill a slot. -/
def fill (g : Given) (slot : Slot) (value : String) : Except Usage Given :=
  match slot with
  | .config => (text g.config? value).map fun v => { g with config? := v }
  | .directory => (text g.directory? value).map fun v => { g with directory? := v }
  | .path => (text g.path? value).map fun v => { g with path? := v }
  | .threshold =>
    if g.threshold?.isSome then .error .repeated
    else match Severity.ofName? value with
      | some s => .ok { g with threshold? := some s }
      | none => .error .invalidValue

/-- Set a flag that is not set yet. -/
def once (old : Bool) (g : Given) : Except Usage Given :=
  if old then .error .repeated else .ok g

/-- The greatest count. -/
def countLimit : Nat := 255

/-- Set a flag. -/
def set (g : Given) : Flag → Except Usage Given
  | .verbose => .ok { g with verbose := min (g.verbose + 1) countLimit }
  | .quiet => once g.quiet { g with quiet := true }
  | .json => once g.json { g with json := true }
  | .isolate => once g.isolate { g with isolate := true }
  | .noFail => once g.noFail { g with noFail := true }
  | .help => .error .help
  | .version => .error .version

end Given

/-! ## One level -/

/-- A level while it is read. -/
structure Progress where
  given : Given := {}
  /-- A slot whose value is not checked yet, or has still to come. -/
  pending : Option (Slot × Option String) := none
  /-- Whether the path has been seen. -/
  pathSeen : Bool := false
deriving DecidableEq, Repr

namespace Progress

/-- Whether a slot waits for its value. -/
def waits (p : Progress) : Bool := p.pending.any fun (_, value) => value.isNone

/-- Check the pending value. -/
def settle (p : Progress) : Except Usage Progress :=
  match p.pending with
  | none => .ok p
  | some (_, none) => .error .invalidValue
  | some (slot, some value) =>
    (p.given.fill slot value).map fun g => { p with given := g, pending := none }

/-- Set a flag. -/
def set (p : Progress) (flag : Flag) : Except Usage Progress := do
  let p ← p.settle
  return { p with given := ← p.given.set flag }

/-- Fill a slot with an attached value. -/
def attach (p : Progress) (slot : Slot) (value : String) : Except Usage Progress := do
  let p ← p.settle
  return { p with given := ← p.given.fill slot value }

/-- Let a slot wait for its value, or for the check of it. -/
def await (p : Progress) (slot : Slot) (value : Option String) : Except Usage Progress := do
  let p ← p.settle
  return { p with pending := some (slot, value) }

end Progress

/-- The name and the attached value of a long option, from after its dashes. -/
def splitAtEquals (s : List Char) : String × Option String :=
  match s.span (· ≠ '=') with
  | (name, _ :: value) => (String.ofList name, some (String.ofList value))
  | (name, []) => (String.ofList name, none)

/-- Read a long option, from after its dashes. -/
def long (level : Level) (p : Progress) (s : List Char) : Except Usage Progress :=
  let (name, value) := splitAtEquals s
  match level.long? name, value with
  | none, _ => .error .unknownArgument
  | some (.flag flag), none => p.set flag
  | some (.flag _), some _ => .error .tooManyValues
  | some (.slot slot), some value => p.attach slot value
  | some (.slot slot), none => p.await slot none

/-- Read a row of letters; what follows the letter of a slot is its value. -/
def short (level : Level) : Progress → List Char → Except Usage Progress
  | p, [] => .ok p
  | p, c :: rest =>
    match level.short? c with
    | none => .error .unknownArgument
    | some (.flag flag) => (p.set flag).bind fun p => short level p rest
    | some (.slot slot) =>
      match rest with
      | [] => p.await slot none
      | '=' :: value => p.attach slot (String.ofList value)
      | value => p.attach slot (String.ofList value)

/-- Read an argument that is no option; `closed` says whether the options have
ended. -/
def positional (level : Level) (closed : Bool) (p : Progress) (arg : String) :
    Except Usage Progress :=
  match level with
  | .outer =>
    .error (if closed && (arg = "test" || arg = "help") then .unknownArgument
      else .invalidSubcommand)
  | .inner =>
    if p.pathSeen then .error .unknownArgument
    else (p.await .path (some arg)).map fun p => { p with pathSeen := true }

/-- The outcome of asking for help on subcommands. -/
def helpOn : List String → Usage
  | [] => .help
  | ["test"] => .help
  | ["help"] => .help
  | _ => .invalidSubcommand

/-- Read the arguments of a level, up to the subcommand; also what is left after
it. -/
def readLevel (level : Level) :
    Bool → Progress → List String → Except Usage (Progress × Option (List String))
  | _, p, [] => .ok (p, none)
  | true, p, arg :: rest => do readLevel level true (← positional level true p arg) rest
  | false, p, arg :: rest =>
    let free := level = .outer && !p.waits
    if free && arg = "test" then .ok (p, some rest)
    else if free && arg = "help" then .error (helpOn rest)
    else match arg.toList with
      | ['-', '-'] => readLevel level true p rest
      | '-' :: '-' :: name => do readLevel level false (← long level p name) rest
      | '-' :: c :: letters => do readLevel level false (← short level p (c :: letters)) rest
      | _ =>
        match p.pending with
        | some (slot, none) =>
          readLevel level false { p with pending := some (slot, some arg) } rest
        | _ => do readLevel level false (← positional level false p arg) rest

/-! ## Both levels -/

/-- Why arguments without a subcommand start no scan. -/
def withoutSubcommand (g : Given) : Usage := if g = {} then .nothingGiven else .missingSubcommand

/-- The arguments that two levels give. -/
def combine (outer inner : Given) (path : String) : Arguments where
  path := path
  json := inner.json
  threshold? := inner.threshold?
  directory? := inner.directory?
  isolate := inner.isolate
  noFail := inner.noFail
  config? := inner.config?.or outer.config?
  verbose := if inner.verbose = 0 then outer.verbose else inner.verbose
  quiet := inner.quiet || outer.quiet

/-- The arguments of a command line, without the program's name. -/
def ofList (args : List String) : Except Usage Arguments := do
  let (outer, inner?) ← readLevel .outer false {} args
  match inner? with
  | none => throw (withoutSubcommand (← outer.settle).given)
  | some args =>
    let (inner, _) ← readLevel .inner false {} args
    let inner ← inner.settle
    match inner.given.path? with
    | none => throw .missingPath
    | some path => return combine (← outer.settle).given inner.given path

end Arguments
end PolicyScan
