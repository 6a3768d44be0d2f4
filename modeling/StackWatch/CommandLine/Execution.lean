import StackWatch.Check.Sections
import StackWatch.CommandLine.Arguments
import StackWatch.ConfigFile

/-!
# Carrying out a command

`execute` carries out a command with the configuration that its file gave. The outcome has the text
for standard output and the trace, whose notices go to the log. A run that cannot log in still
prints its report; the catalog cannot be printed without a login.
-/

namespace StackWatch.CommandLine

/-- Why a command is not carried out. -/
inductive Failure where
  | file (fault : ConfigFile.Fault)
  | api (error : ApiError)
  deriving Inhabited

/-- The wording of a failure. -/
def Failure.message : Failure → String
  | file fault => fault.message
  | api error => error.message

/-- What carrying out a command came to. -/
structure Execution (σ : Type) where
  result : Except Failure Unit
  /-- what is printed -/
  output : String
  /-- the state of the deployment -/
  state : σ
  trace : List Event

/-- A text, with blanks after it up to a width. -/
def padded (width : Nat) (text : String) : String :=
  text ++ String.ofList (List.replicate (width - text.length) ' ')

/-- A line of the catalog: a component and its endpoint. -/
def catalogLine (c : Component) (endpoint : Except ApiError String) : String :=
  padded 16 c.name ++ " " ++ endpoint.toOption.getD "-" ++ "\n"

/-- The lines of some components. -/
def catalogLines {σ : Type} : List Component → Step σ String
  | [] => pure ""
  | c :: rest => do
    let endpoint ← (Step.endpointOf c).catching
    let lines ← catalogLines rest
    pure (catalogLine c endpoint ++ lines)

/-- Logs in and writes down the endpoint of every component. -/
def catalogTable {σ : Type} : Step σ String := do
  Step.authorize
  let lines ← catalogLines Component.all
  pure (padded 16 "COMPONENT" ++ " ENDPOINT\n" ++ lines)

/-- A report as it is printed. -/
def reportText (pretty : Bool) (r : Report) : String :=
  (if pretty then r.toJson.prettyText else r.toJson.text) ++ "\n"

variable {σ : Type} (d : Deployment σ) (w : σ)

/-- Runs the check and prints the report. -/
def executeRun (pretty : Bool) (config : Config) : Execution σ :=
  match Check.run config d w with
  | .error e => ⟨.error (.api e), "", w, []⟩
  | .ok p =>
    let finished := Notice.runFinished p.report.metrics.length p.report.serviceChecks.length
    ⟨.ok (), reportText pretty p.report, p.state, p.trace ++ [.notice finished]⟩

/-- Prints the endpoints of the components. -/
def executeCatalog (config : Config) : Execution σ :=
  match Session.new config with
  | .error e => ⟨.error (.api e), "", w, []⟩
  | .ok s =>
    let o := catalogTable d s w
    match o.result with
    | .error e => ⟨.error (.api e), "", o.state, o.trace⟩
    | .ok text => ⟨.ok (), text, o.state, o.trace⟩

/-- Carries out a command, given what its configuration file came to. -/
def execute (command : Command) (config : Except ConfigFile.Fault Config) : Execution σ :=
  match config with
  | .error e => ⟨.error (.file e), "", w, []⟩
  | .ok config =>
    match command with
    | .run pretty => executeRun d w pretty config
    | .catalog => executeCatalog d w config

end StackWatch.CommandLine
