import LiquidMarkdown.Text.Basic

/-!
# Requests

What a list of arguments asks for.  This file defines:

* `Command.View` — what is shown of a document;
* `Command.Request` — a view of the document at a path;
* `Command.Reading`, `Command.read` — what a list of arguments asks for;
* `Command.normalPath` — the plain form of a path.

Options of the program come before the word for the view, options of a view behind it.
-/

namespace LiquidMarkdown
namespace Command

/-- What is shown of a document. -/
inductive View where
  /-- Its problems, or its whole report as JSON. -/
  | check (asJson : Bool)
  /-- Its blocks. -/
  | blocks
  /-- Its annotated tree. -/
  | tree
  deriving DecidableEq, Repr

/-- The view that a word stands for. -/
def View.ofName? (t : Text) : Option View :=
  [(("check" : Text), View.check false), ("blocks", .blocks), ("tree", .tree)].lookup t

/-- A view of the document at a path. -/
structure Request where
  view : View
  path : Text
  /-- How much of the journal is shown. -/
  verbosity : Nat
  deriving DecidableEq, Repr

/-- What a list of arguments asks for. -/
inductive Reading where
  /-- The version of the program. -/
  | version
  | request (r : Request)
  /-- Nothing that there is. -/
  | misuse
  deriving DecidableEq, Repr

/-! ## Paths -/

/-- The slashes that a path begins with: exactly two are kept, more count as one. -/
def rootOf (path : Text) : Text :=
  match (path.takeWhile (· = '/')).length with
  | 0 => []
  | 2 => ['/', '/']
  | _ => ['/']

/-- A path without empty parts and without parts that stay where they are. -/
def normalPath (path : Text) : Text :=
  let parts := (Text.splitAt '/' path).filter fun p => p ≠ [] && p ≠ ['.']
  match rootOf path ++ Text.joinWith ['/'] parts with
  | [] => ['.']
  | p => p

/-! ## Arguments -/

/-- The view with an option of its own. -/
def View.withOption? (v : View) (option : Text) : Option View :=
  match v with
  | .check _ => if option = ("--json" : Text) then some (.check true) else none
  | _ => none

/-- The view and the paths of the arguments behind the word for the view. -/
def readView (v : View) : List Text → Option (View × List Text)
  | [] => some (v, [])
  | arg :: args => match arg with
      | ['-', '-'] => some (v, args)
      | '-' :: _ :: _ => (v.withOption? arg).bind fun v => readView v args
      | path => (readView v args).map fun (v, paths) => (v, path :: paths)

/-- What the arguments from the word for the view on ask for. -/
def readRequest (verbosity : Nat) : List Text → Reading
  | [] => .misuse
  | name :: args => match (View.ofName? name).bind fun v => readView v args with
      | some (v, [path]) => .request ⟨v, normalPath path, verbosity⟩
      | _ => .misuse

/-- How much a cluster of short options adds to the verbosity, and whether it asks for the
version. -/
def readCluster : Text → Option (Nat × Bool)
  | [] => some (0, false)
  | c :: cs =>
      (readCluster cs).bind fun (count, version) =>
        if c = 'v' then some (count + 1, version)
        else if c = 'V' then some (count, true)
        else none

/-- The options of the program, and the arguments behind them. -/
def readOptions (verbosity : Nat) (version : Bool) : List Text → Reading
  | [] => if version then .version else .misuse
  | arg :: args =>
      let done (args : List Text) : Reading :=
        if version then .version else readRequest verbosity args
      if arg = ("--verbose" : Text) then readOptions (verbosity + 1) version args
      else if arg = ("--version" : Text) then readOptions verbosity true args
      else match arg with
        | ['-', '-'] => done args
        | '-' :: c :: cs => match readCluster (c :: cs) with
            | some (count, asked) => readOptions (verbosity + count) (version || asked) args
            | none => .misuse
        | _ => done (arg :: args)

/-- What a list of arguments asks for. -/
def read (args : List Text) : Reading :=
  readOptions 0 false args

end Command
end LiquidMarkdown
