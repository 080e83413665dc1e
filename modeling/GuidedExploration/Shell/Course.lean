import GuidedExploration.Shell.Link
import GuidedExploration.Shell.Syntax

/-!
The courses that processes take. A process runs until it has to wait or starts another one; then it
hands over what all of them share, and goes on with what it finds later. Time is counted in
milliseconds and passes only while all processes wait.
-/

set_option autoImplicit false

namespace GuidedExploration.Shell

inductive Sink where
  /-- What is collected; the first two collections are the output and the errors of the whole. -/
  | collected (index : Nat)
  | file (location : Location)
  | nothing
  | broken (cause : Cause)
  deriving DecidableEq

structure Context where
  name : String
  positional : List String := []
  bindings : Dict String String := .empty
  exported : List String := []
  functions : List (String × Statement) := []
  traps : Dict String String := .empty
  constants : List String := []
  exitOnError : Bool := false
  demandSet : Bool := false
  tracing : Bool := false
  loops : Nat := 0
  /-- The number that the shell gives as its own; shells within it give the same. -/
  number : Nat := 1
  process : Nat := 1
  output : Sink := .collected 0
  errors : Sink := .collected 1
  others : List (Nat × Sink) := []
  /-- Whether the shell is within another one that answers the signals of the process. -/
  isInner : Bool := false
  /-- Sinks that stay open behind those until redirections end. -/
  held : List Sink := []
  /-- Whether the process has left the group of the first one. -/
  escaped : Bool := false
  children : List Nat := []
  lastChild : Option Nat := none

namespace Context

def sinks (c : Context) : List Sink := c.output :: c.errors :: c.others.map Prod.snd ++ c.held

def holds (c : Context) (index : Nat) : Bool := c.sinks.contains (.collected index)

def withOptions (c : Context) (on : Bool) (letters : List Char) : Context :=
  let switched (letter : Char) (before : Bool) : Bool :=
    if letters.contains letter then on else before
  { c with
    exitOnError := switched 'e' c.exitOnError
    demandSet := switched 'u' c.demandSet
    tracing := switched 'x' c.tracing }

end Context

structure Job where
  number : Nat
  endedAt : Option Nat := none
  status : Nat := 0
  signal : Option Nat := none

structure World where
  files : FileSystem
  links : Links := []
  now : Nat := 1
  collected : Array ByteArray := #[.empty, .empty]
  processes : Nat := 1
  jobs : List Job := []
  /-- Signals on their way, each behind the number of the process that it is sent to. -/
  signals : List (Nat × Nat) := []

namespace World

def job? (w : World) (number : Nat) : Option Job := w.jobs.find? fun job => job.number == number

def isOver (w : World) (number : Nat) : Bool :=
  match w.job? number with
  | some job => job.endedAt.isSome
  | none => true

def isQuiet (w : World) : Bool := w.jobs.all fun job => job.endedAt.isSome

def conclude (w : World) (number status : Nat) (signal : Option Nat) : World :=
  { w with
    jobs := w.jobs.map fun job =>
      if job.number == number then { job with endedAt := some w.now, status, signal } else job }

end World

inductive Wake where
  | moment (time : Nat)
  | endOf (jobs : List Nat)
  | closing (index : Nat)
  | never

structure Child where
  context : Context
  origin : Location
  first : Pipeline
  rest : List (Bool × Pipeline)

inductive Request where
  | wait (wakes : List Wake) (context : Context)
  | start (child : Child)

inductive Course (α : Type) where
  | done (result : α)
  | asks (world : World) (request : Request) (resume : World → Course α)

namespace Course

def bind {α β : Type} : Course α → (α → Course β) → Course β
  | done result, next => next result
  | asks world request resume, next => asks world request fun world => bind (resume world) next

/-- A course up to a moment: its result, or what it leaves if it still waits then. -/
def upTo {α : Type} (time : Nat) : Course α → Course (World ⊕ α)
  | done result => done (.inr result)
  | asks world (.wait wakes context) resume =>
    asks world (.wait (.moment time :: wakes) context) fun w =>
      let goesOn := decide (w.now < time) || wakes.any fun
        | .moment other => decide (other ≤ time)
        | .endOf jobs => jobs.all w.isOver
        | .closing _ | .never => false
      if goesOn then upTo time (resume w) else done (.inl w)
  | asks world request resume => asks world request fun w => upTo time (resume w)

instance : Monad Course where
  pure := done
  bind := bind

end Course

end GuidedExploration.Shell
