import StackWatch.CommandLine.Execution
import StackWatch.Http.Message
import StackWatch.Http.Transcript
import Std.Async.DNS
import Std.Async.TCP
import Std.Async.Timer

/-!
# The program

`os-controller` reads its command line and its configuration file, carries the command out against
the servers that it finds in the catalog, and prints what came of it. What is to be asked, printed
or logged is settled by `CommandLine.execute`; this module moves bytes.

It moves them over plain TCP, one connection for each request. It has no TLS: a server that is to be
asked over it counts as one that cannot be reached, whether its certificate is to be checked or not,
and nothing is sent to it. It does not follow redirections either, but takes one for the answer.
-/

namespace StackWatch.Program

open Std.Async

/-- How to use the program. -/
def usage : String :=
  "OpenStack controller check\n\n" ++
    "Usage: os-controller [OPTIONS] <COMMAND>\n\n" ++
    "Commands:\n" ++
    "  run      Run one check and print the report as JSON (--pretty: over several lines)\n" ++
    "  catalog  Authorize and print the resolved endpoint of every component\n" ++
    "  help     Print this message\n\n" ++
    "Options:\n" ++
    "  -c, --config <CONFIG>  Path to the TOML or JSON check configuration " ++
    "[env: OS_CONTROLLER_CONFIG] [default: " ++ CommandLine.defaultConfig ++ "]\n" ++
    "  -h, --help             Print help"

/-- Collects what arrives on a connection until it closes, and the moment when something arrived
first. -/
partial def receiveAll (client : TCP.Socket.Client) (received : ByteArray) (first : Option Nat) :
    Async (ByteArray × Option Nat) := do
  match ← (try client.recv? 65536 catch _ => pure none) with
  | none => return (received, first)
  | some bytes =>
    let now ← IO.monoNanosNow
    receiveAll client (received ++ bytes) (first.or (some now))

/-- Makes one request at an address. -/
def exchangeAt (address : Std.Net.IPAddr) (portNumber : UInt16) (r : Request) : Async Answer := do
  let client ← TCP.Socket.Client.mk
  let started ← IO.monoNanosNow
  client.connect <| match address with
    | .v4 addr => .v4 ⟨addr, portNumber⟩
    | .v6 addr => .v6 ⟨addr, portNumber⟩
  client.send r.message.toUTF8
  let (received, first) ← receiveAll client .empty none
  return .ofMessage received.data.toList (first.getD started - started)

/-- Makes one request at the first of some addresses that can be connected to. -/
def exchangeAtAny (portNumber : UInt16) (r : Request) : List Std.Net.IPAddr → Async Answer
  | [] => pure .dropped
  | address :: rest =>
    try exchangeAt address portNumber r catch _ => exchangeAtAny portNumber r rest

/-- Makes one request, and gives up after some seconds. Nothing goes out in the clear that is meant
for a server behind TLS. -/
def exchange (seconds : Nat) (r : Request) : IO Answer := do
  if Url.isSecure r.url then return .dropped
  let authority := Url.authority r.url
  let asked : Async Answer :=
    try
      let addresses ← DNS.getAddrInfo (Url.host authority) ""
      exchangeAtAny (Url.portNumber authority) r addresses.toList
    catch _ => pure .dropped
  let late : Async Answer := do
    sleep (.ofNat (1000 * seconds))
    pure .dropped
  (Async.race asked late).block

/-- Carries a command out, one exchange after the other. -/
partial def converse (command : CommandLine.Command) (config : Config) (answers : List Answer) :
    IO (CommandLine.Execution Transcript) := do
  let execution :=
    CommandLine.execute Transcript.deployment (.ofAnswers answers) command (.ok config)
  match execution.state.pending with
  | none => return execution
  | some request =>
    let answer ← exchange config.timeoutSeconds request
    converse command config (answers ++ [answer])

/-- The number by which the system says that a directory was read. -/
def directoryCode : UInt32 := 21

/-- The content of the file that a path names. -/
def fileContent (path : String) : IO (Except PathFault ByteArray) := do
  if path.toList.contains '\x00' then return .error .zeroCharacter
  try return .ok (← IO.FS.readBinFile path) catch
    | .noFileOrDirectory .. => return .error .notFound
    | .inappropriateType _ code _ =>
      return .error (if code = directoryCode then .isDirectory else .notDirectory)
    | .invalidArgument .. => return .error .tooLong
    | e => throw e

/-- Writes the notices of a trace to the log. -/
def writeLog : List Event → IO Unit
  | [] => return
  | .notice n :: rest => do
    IO.eprintln n.text
    writeLog rest
  | .exchange .. :: rest => writeLog rest

/-- Carries out what a command line asks for. -/
def run (invocation : CommandLine.Invocation) : IO UInt32 := do
  match ConfigFile.read invocation.config (← fileContent invocation.config) with
  | .error fault =>
    IO.eprintln ("Error: " ++ fault.message)
    return 1
  | .ok config =>
    let execution ← converse invocation.command config []
    writeLog execution.trace
    IO.print execution.output
    match execution.result with
    | .ok () => return 0
    | .error failure =>
      IO.eprintln ("Error: " ++ failure.message)
      return 1

end StackWatch.Program

/-- Ends with 0 if the command was carried out, 1 if it failed and 2 if there is none. -/
def main (args : List String) : IO UInt32 := do
  let environment ← IO.getEnv "OS_CONTROLLER_CONFIG"
  match StackWatch.CommandLine.parse environment args with
  | .ok invocation => StackWatch.Program.run invocation
  | .error .help =>
    IO.println StackWatch.Program.usage
    return 0
  | .error _ =>
    IO.eprintln StackWatch.Program.usage
    return 2
