/-! # The command line

The options `--config` and `--format` may stand on either side of the command's name; the one behind
it wins. The commands are `highlight` with the path of a source, and `watch` with or without one.
-/
namespace LiveMarkup

inductive Job where
  | highlight (path : String)
  | watch (path : Option String)
deriving DecidableEq, Repr

structure Arguments where
  config : Option String
  format : Option String
  job : Job
deriving DecidableEq, Repr

/-- Why the program does not get to its job. -/
inductive ArgumentFault where
  /-- An option or argument has no value, or an empty one where that is no value. -/
  | noValue
  | unknownArgument
  | unknownCommand
  | missingArgument
  | missingCommand
  | repeated
  | valueForFlag
  | nothingGiven
  | helpAsked
  | versionAsked
deriving DecidableEq, Repr

inductive Slot where
  | config | format | path
deriving DecidableEq, Repr

def Slot.allowsEmpty : Slot → Bool
  | format => true
  | config | path => false

/-- The values found so far on one side of the command's name. The latest one is only taken when the
next argument shows that it is complete. -/
structure GivenValues where
  config : Option String := none
  format : Option String := none
  path : Option String := none
  latest : Option (Slot × Option String) := none

namespace GivenValues

def get? (f : GivenValues) : Slot → Option String
  | .config => f.config
  | .format => f.format
  | .path => f.path

/-- The values with another one in a slot, which may not be filled yet. -/
def fill (f : GivenValues) (slot : Slot) (value : String) : Except ArgumentFault GivenValues :=
  if (f.get? slot).isSome then .error .repeated
  else if value = "" ∧ !slot.allowsEmpty then .error .noValue
  else .ok (match slot with
    | .config => { f with config := some value }
    | .format => { f with format := some value }
    | .path => { f with path := some value })

def settle (f : GivenValues) : Except ArgumentFault GivenValues :=
  match f.latest with
  | none => .ok f
  | some (_, none) => .error .noValue
  | some (slot, some value) => { f with latest := none }.fill slot value

end GivenValues

/-- Where the command line is read: in front of the command's name, or behind it. -/
inductive Side where
  | front | behind
deriving DecidableEq, Repr

def commandNames : List String := ["highlight", "watch", "help"]

inductive SideEnd where
  | finished (found : GivenValues)
  | command (name : String) (found : GivenValues) (rest : List String)

/-- The value of a long option behind its equals sign, and its name in front of it. -/
def splitOption (text : List Char) : String × Option String :=
  let name := text.takeWhile (· ≠ '=')
  match text.drop name.length with
  | [] => (String.ofList name, none)
  | _ :: value => (String.ofList name, some (String.ofList value))

/-- What an argument that starts with two dashes does to the values; the flag says whether a value
has to follow. -/
def longOption (side : Side) (found : GivenValues) (text : List Char) :
    Except ArgumentFault (GivenValues × Bool) :=
  let (name, value) := splitOption text
  let give (slot : Slot) : Except ArgumentFault (GivenValues × Bool) := do
    let found ← found.settle
    match value with
    | some value => .ok (← found.fill slot value, false)
    | none => .ok ({ found with latest := some (slot, none) }, true)
  let flag (asked : ArgumentFault) : Except ArgumentFault (GivenValues × Bool) :=
    if value.isSome then .error .valueForFlag
    else do
      let _ ← found.settle
      .error asked
  if name = "config" then give .config
  else if name = "format" then give .format
  else if name = "help" then flag .helpAsked
  else if name = "version" ∧ side = .front then flag .versionAsked
  else .error .unknownArgument

/-- What an argument of one dash and letters leads to: always to an end. -/
def shortFlags (side : Side) (found : GivenValues) (text : List Char) : ArgumentFault :=
  let asked (fault : ArgumentFault) : ArgumentFault :=
    match found.settle with
    | .ok _ => fault
    | .error e => e
  if text.head? = some 'h' then asked .helpAsked
  else if text.head? = some 'V' ∧ side = .front then asked .versionAsked
  else .unknownArgument

def positional (side : Side) (found : GivenValues) (trailing : Bool) (argument : String) :
    Except ArgumentFault GivenValues :=
  match side with
  | .front =>
    if trailing ∧ argument ∈ commandNames then .error .unknownArgument else .error .unknownCommand
  | .behind =>
    match found.path, found.latest with
    | some _, _ | none, some (.path, _) => .error .unknownArgument
    | none, _ => do
      let found ← found.settle
      .ok { found with latest := some (.path, some argument) }

/-- Reads one side of the command line. A value is awaited behind an option that had none attached,
and behind a bare double dash there are no options any more. -/
def readSide (side : Side) : GivenValues → (awaiting trailing : Bool) → List String →
    Except ArgumentFault SideEnd
  | found, _, _, [] => .ok (.finished found)
  | found, awaiting, trailing, argument :: rest =>
    if trailing then do
      readSide side (← positional side found true argument) false true rest
    else if side = .front ∧ !awaiting ∧ argument ∈ commandNames then
      .ok (.command argument found rest)
    else match argument.toList with
      | ['-', '-'] => readSide side found awaiting true rest
      | '-' :: '-' :: text => do
        let (found, awaiting) ← longOption side found text
        readSide side found awaiting false rest
      | '-' :: c :: text => .error (shortFlags side found (c :: text))
      | _ =>
        if awaiting then
          let latest := found.latest.map fun l => (l.1, some argument)
          readSide side { found with latest } false false rest
        else do
          readSide side (← positional side found false argument) false false rest

def helpOn : List String → ArgumentFault
  | [] => .helpAsked
  | [name] => if name ∈ commandNames then .helpAsked else .unknownCommand
  | _ => .unknownCommand

def jobOf (name : String) (found : GivenValues) : Except ArgumentFault Job :=
  if name = "highlight" then
    match found.path with
    | some path => .ok (.highlight path)
    | none => .error .missingArgument
  else .ok (.watch found.path)

def Arguments.read (arguments : List String) : Except ArgumentFault Arguments := do
  match ← readSide .front {} false false arguments with
  | .finished found =>
    let found ← found.settle
    if found.config.isNone && found.format.isNone then .error .nothingGiven
    else .error .missingCommand
  | .command name front rest =>
    if name = "help" then .error (helpOn rest)
    else
      match ← readSide .behind {} false false rest with
      | .command .. => .error .unknownCommand
      | .finished behind =>
        let behind ← behind.settle
        let job ← jobOf name behind
        let front ← front.settle
        .ok { config := behind.config.or front.config, format := behind.format.or front.format, job }

end LiveMarkup
