import LiveMarkup.Shell.Reader
import LiveMarkup.Shell.State

/-! # Running scripts

Commands run one after the other on the state of the shell. A subshell, a side of a pipe and a
substitution run on a copy of it. An `exit` or a deadly signal ends the shell: nothing runs behind it.
-/
namespace LiveMarkup.Shell

/-- What is done to the streams of a command before it runs. -/
structure Connection where
  streams : Streams
  state : State
  opened : Bool := true

/-- Connects a stream. Files are not written to: nothing can see them. -/
def connect (t : FileTree) (substitute : Substitution) (c : Connection) (r : Redirect) :
    Connection :=
  if !c.opened then c
  else
    let link (sink : Sink) (c : Connection) : Connection :=
      if r.stream = 2 then { c with streams := { c.streams with errors := sink } }
      else if r.stream = 1 then { c with streams := { c.streams with output := sink } }
      else c
    match r.target with
    | .stream 1 => link c.streams.output c
    | .stream 2 => link c.streams.errors c
    | .stream _ => c
    | .write file =>
      let (name, state) := expandText substitute file c.state
      let sink := if name = "/dev/stderr".toList then Sink.errors
        else if name = "/dev/stdout".toList then Sink.output else Sink.nowhere
      link sink { c with state }
    | .read file =>
      let (name, state) := expandText substitute file c.state
      let name := String.ofList name
      if name = "/dev/null" then { c with state := { state with input := [] } }
      else if name = "/dev/stdin" then { c with state }
      else match t.readBytes name with
        | .ok input => { c with state := { state with input } }
        | .error _ =>
          { c with
            state := state.complain c.streams ("cannot open " ++ name ++ ": No such file") 2
            opened := false }

/-- The assignment that a word makes in front of a command: its name and the pieces of its value. -/
def assignment? : Word → Option (String × Word)
  | .literal text false :: rest =>
    let name := text.takeWhile isNameChar
    match text.drop name.length with
    | '=' :: value =>
      if name.isEmpty || (name.head?.map Char.isDigit).getD false then none
      else some (String.ofList name, .literal value true :: rest)
    | _ => none
  | _ => none

def assignAll (substitute : Substitution) (made : List (String × Word)) (s : State) : State :=
  made.foldl (fun s a =>
    let (value, s) := expandText substitute a.2 s
    s.assign a.1 (String.ofList value)) s

def signal? (text : String) : Option Nat :=
  match text.toNat? with
  | some n => some n
  | none =>
    let name := if text.startsWith "SIG" then String.ofList (text.toList.drop 3) else text
    (signalNames.find? fun s => s.2 = name).map (·.1)

def isDeadly (signal : Nat) : Bool := !([0, 17, 18, 19, 20, 21, 22, 23, 28].contains signal)

/-- Sends a signal to processes; only the shell itself can be reached. -/
def kill (s : State) (arguments : List String) : State :=
  let (signal, targets) := match arguments with
    | "-s" :: name :: rest => (signal? name, rest)
    | first :: rest =>
      if first.startsWith "-" then (signal? (String.ofList (first.toList.drop 1)), rest)
      else (some 15, arguments)
    | [] => (none, [])
  match signal with
  | none => { s with status := 2 }
  | some n =>
    if targets.contains shellNumber || targets.contains "0" then
      { s with status := 0, ended := if isDeadly n then some (.signalled n) else none }
    else { s with status := 1 }

/-- The first line of the input without its line feed, and what follows it. -/
def inputLine (input : List UInt8) : List UInt8 × List UInt8 :=
  let line := input.takeWhile (· ≠ 10)
  (line, input.drop (line.length + 1))

/-- Reads a line of input into values, the last of which takes what is left of it. -/
def readLine (s : State) (names : List String) : State :=
  let names := names.filter (· ≠ "-r")
  let (line, input) := inputLine s.input
  let found := s.input.contains 10
  let isGap (c : Char) : Bool := c = ' ' || c = '\t'
  let rec fill (s : State) (text : List Char) : List String → State
    | [] => s
    | [name] => s.assign name (String.ofList (text.reverse.dropWhile isGap).reverse)
    | name :: more =>
      let word := text.takeWhile fun c => !isGap c
      fill (s.assign name (String.ofList word)) ((text.drop word.length).dropWhile isGap) more
  let s := fill { s with input } ((decodeLossy line).dropWhile isGap) names
  { s with status := if found then 0 else 1 }

def exportAll (s : State) (arguments : List String) : State :=
  arguments.foldl (fun s a =>
    let name := a.toList.takeWhile (· ≠ '=')
    match a.toList.drop name.length with
    | _ :: value => s.assign (String.ofList name) (String.ofList value)
    | [] => s) s

def exit (s : State) (arguments : List String) : State :=
  let code := match arguments with
    | text :: _ => (text.toNat?.getD 2) % 256
    | [] => s.status
  { s with status := code, ended := some (.exited code) }

/-- The name of a program without the directory that programs are kept in. -/
def programName (program : String) : String :=
  let text := program.toList
  if "/usr/bin/".toList.isPrefixOf text then String.ofList (text.drop 9)
  else if "/bin/".toList.isPrefixOf text then String.ofList (text.drop 5)
  else program

/-- How a shell is to be started: the script, and the name and arguments it sees. -/
inductive Start where
  | command (text : List Char) (name : String) (arguments : List String)
  | unreadable (file : String)
  | nothing

def Start.ofArguments (t : FileTree) (shell : String) : List String → Start
  | [] => .nothing
  | first :: rest =>
    if first.startsWith "-" then
      if first.toList.contains 'c' then
        match rest with
        | text :: name :: more => .command text.toList name more
        | [text] => .command text.toList shell []
        | [] => .nothing
      else ofArguments t shell rest
    else match t.readText first with
      | .ok text => .command text.toList first rest
      | .error _ => .unreadable first

/-- Leaves out the line feeds at the end of some output, and the bytes that are no text. -/
def substituted (output : List UInt8) : List Char :=
  decodeLossy ((output.reverse.dropWhile (· = 10)).reverse.filter (· ≠ 0))

mutual

/-- Runs a command. The number bounds how deep commands are nested and how often loops run. -/
def run (t : FileTree) : Nat → Script → Streams → State → State
  | 0, _, _, s => s
  | fuel + 1, script, streams, s =>
    let substitute : Substitution := fun text s =>
      let inner := runText t fuel text streams { s with output := [] }
      (substituted inner.output, { s.leave inner with output := s.output })
    let connected (redirects : List Redirect) (s : State) : Connection :=
      redirects.foldl (connect t substitute) { streams, state := s }
    let enclosed (redirects : List Redirect) (body : Streams → State → State) : State :=
      let c := connected redirects s
      if !c.opened then c.state
      else
        let after := body c.streams c.state
        if redirects.any fun r => r.stream = 0 then { after with input := s.input } else after
    if s.ended.isSome then s
    else match script with
      | .nothing => s
      | .sequence first second => run t fuel second streams (run t fuel first streams s)
      | .both first second =>
        let s := run t fuel first streams s
        if s.status = 0 then run t fuel second streams s else s
      | .either first second =>
        let s := run t fuel first streams s
        if s.status = 0 then s else run t fuel second streams s
      | .negation body =>
        let s := run t fuel body streams s
        { s with status := if s.status = 0 then 1 else 0 }
      | .pipe first second =>
        let left := s.leave (run t fuel first { streams with output := .output } { s with output := [] })
        if left.ended.isSome then { left with output := s.output }
        else
          let right := { left with input := left.output, output := s.output }
          { s.leave (run t fuel second streams right) with input := left.input }
      | .group body redirects => enclosed redirects fun streams s => run t fuel body streams s
      | .subshell body redirects =>
        enclosed redirects fun streams s => s.leave (run t fuel body streams s)
      | .branch condition yes no =>
        let s := run t fuel condition streams s
        if s.ended.isSome then s
        else if s.status = 0 then run t fuel yes streams s
        else run t fuel no streams { s with status := 0 }
      | .loop condition whileTrue body =>
        let tested := run t fuel condition streams s
        if tested.ended.isSome then tested
        else if decide (tested.status = 0) = whileTrue then
          run t fuel script streams (run t fuel body streams tested)
        else { tested with status := 0 }
      | .each name words body =>
        let (fields, s) := expandAll substitute words s
        fields.foldl (fun s field => run t fuel body streams (s.assign name field)) s
      | .arm subject patterns body otherwise =>
        let (text, s) := expandText substitute subject s
        let (found, s) := patterns.foldl (fun (found, s) w =>
          if found then (found, s)
          else
            let (pattern, s) := expandPattern substitute w s
            (matchesPattern (pattern.length + text.length + 1) pattern text, s)) (false, s)
        if found then run t fuel body streams { s with status := 0 }
        else run t fuel otherwise streams { s with status := 0 }
      | .simple words redirects =>
        let made := (words.map assignment?).takeWhile Option.isSome
        let command := words.drop made.length
        let (fields, s) := expandAll substitute command s
        let s := if !fields.isEmpty then s
          else
            let status := if command.isEmpty then 0 else s.status
            assignAll substitute (made.filterMap id) { s with status }
        let c := connected redirects s
        if s.ended.isSome || !c.opened then c.state
        else match fields with
          | [] => s
          | name :: arguments =>
            let after := runProgram t fuel name arguments c.streams c.state
            if redirects.any fun r => r.stream = 0 then { after with input := s.input } else after

def runProgram (t : FileTree) : Nat → String → List String → Streams → State → State
  | 0, _, _, _, s => s
  | fuel + 1, name, arguments, streams, s =>
    match name, arguments with
    | "exit", _ | "return", _ => exit s arguments
    | "export", _ => { exportAll s arguments with status := 0 }
    | "set", _ | "cd", _ | "trap", _ => { s with status := 0 }
    | "kill", _ => kill s arguments
    | "read", _ => readLine s arguments
    | "shift", _ => { s with arguments := s.arguments.drop 1, status := 0 }
    | "exec", [] => { s with status := 0 }
    | "exec", name :: arguments =>
      let s := runProgram t fuel name arguments streams s
      if s.ended.isSome then s else exit s []
    | "eval", _ => runText t fuel (" ".intercalate arguments).toList streams s
    | _, _ =>
      if programName name = "sh" then
        match Start.ofArguments t name arguments with
        | .command text zero arguments =>
          s.leave (runText t fuel text streams { s with name := zero, arguments, values := [] })
        | .unreadable file =>
          let message := name ++ ": 0: cannot open " ++ file ++ ": No such file\n"
          { s.write streams.errors (bytesOf message) with status := 2 }
        | .nothing => { s with status := 0 }
      else match tool? t (programName name = name) (programName name) with
        | some tool =>
          let r := tool arguments s.input
          let s := (s.write streams.output r.output).write streams.errors r.errors
          { s with input := r.input, status := r.status }
        | none => s.complain streams (name ++ ": not found") 127

def runText (t : FileTree) : Nat → List Char → Streams → State → State
  | 0, _, _, s => s
  | fuel + 1, text, streams, s =>
    match Script.ofText text with
    | .ok script => run t fuel script streams s
    | .error fault =>
      let s := s.complain streams fault.message 2
      { s with ended := some (.exited 2) }

end

def depth : Nat := 100000

/-- Runs a program as a process of its own. The programs there are the shell and the tools; a file of
the tree is no program, as none may be run. -/
def launch (t : FileTree) : Launcher := fun program arguments input =>
  let name := programName program
  if (program :: arguments).any fun a => a.toList.contains '\x00' then
    .error (.custom "nul byte found in provided data")
  else if name.toList.contains '/' then
    match t.lookup program with
    | .ok _ => .error .permissionDenied
    | .error e => .error e
  else if name = "sh" then
    let s := runProgram t depth program arguments {} { name := program, arguments, input }
    .ok ⟨s.ended.getD (.exited s.status), s.output, s.errors⟩
  else match tool? t false name with
    | some tool =>
      let r := tool arguments input
      .ok ⟨.exited r.status, r.output, r.errors⟩
    | none => .error .notFound

end LiveMarkup.Shell
