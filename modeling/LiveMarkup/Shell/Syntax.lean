/-! # Shell scripts

The part of the shell language that scripts of an engine are written in. A word is made of pieces; what
stands in quotes is never split.
-/
namespace LiveMarkup.Shell

inductive Piece where
  | literal (text : List Char) (quoted : Bool)
  | parameter (name : String) (default : List Char) (quoted : Bool)
  | substitution (script : List Char) (quoted : Bool)
deriving DecidableEq, Repr

abbrev Word := List Piece

/-- What a stream of a command is connected to. -/
inductive RedirectTarget where
  | stream (number : Nat)
  | read (file : Word)
  | write (file : Word)
deriving DecidableEq, Repr

structure Redirect where
  stream : Nat
  target : RedirectTarget
deriving DecidableEq, Repr

inductive Script where
  | nothing
  | simple (words : List Word) (redirects : List Redirect)
  | sequence (first second : Script)
  /-- The second command runs if the first has succeeded. -/
  | both (first second : Script)
  /-- The second command runs if the first has failed. -/
  | either (first second : Script)
  | negation (body : Script)
  /-- The output of the first command is the input of the second. -/
  | pipe (first second : Script)
  | group (body : Script) (redirects : List Redirect)
  | subshell (body : Script) (redirects : List Redirect)
  | branch (condition yes no : Script)
  /-- Repeats the body while the condition succeeds, or fails, as the flag says. -/
  | loop (condition : Script) (whileTrue : Bool) (body : Script)
  | each (name : String) (words : List Word) (body : Script)
  | arm (subject : Word) (patterns : List Word) (body otherwise : Script)
deriving Repr

end LiveMarkup.Shell
