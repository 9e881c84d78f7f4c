import Artboard.Command.Program
import Artboard.Service.Message
import Std.Async.DNS
import Std.Async.TCP

/-!
# Running the program

What the program does to the world: it reads the environment, sends requests,
shows events, and writes the page.  What is asked, shown and written is decided
elsewhere.
-/

namespace Artboard
namespace Running

open Std.Async
open Std.Net

/-- Addresses of a host in the network. -/
def addressesOf : Url.Host → IO (List IPAddr)
  | .domain name => do
    return (← (DNS.getAddrInfo name "http").block).toList
  | .ipv4 address =>
    let part := fun place => (address >>> (8 * place)).toUInt8
    return [.v4 (IPv4Addr.ofParts (part 3) (part 2) (part 1) (part 0))]
  | .ipv6 pieces =>
    let part := fun place => (pieces.getD place 0).toUInt16
    return [.v6 (IPv6Addr.ofParts (part 0) (part 1) (part 2) (part 3) (part 4) (part 5) (part 6)
      (part 7))]

/-- An address with a port. -/
def socketAddress (port : UInt16) : IPAddr → SocketAddress
  | .v4 address => .v4 ⟨address, port⟩
  | .v6 address => .v6 ⟨address, port⟩

/-- Receive bytes until the connection ends. -/
partial def receiveAll (client : TCP.Socket.Client) (received : ByteArray) : IO ByteArray := do
  match ← (client.recv? 65536).block with
  | some bytes => receiveAll client (received ++ bytes)
  | none => return received

/-- Send a request to an address and read the reply. -/
def exchange (request : Request) (address : SocketAddress) : IO (Except Hindrance Reply) := do
  let client ← TCP.Socket.Client.mk
  try
    (client.connect address).block
  catch error =>
    match error with
    | .noSuchThing .. => return .error .refused
    | _ => return .error .unreachable
  try
    (client.send request.toText.toUTF8).block
    let received ← receiveAll client .empty
    match Reply.ofBytes? received.toList with
    | some reply => return .ok reply
    | none => return .error .noReply
  catch _ => return .error .noReply

/-- Send a request. Secure connections are not offered. -/
def send (request : Request) : IO (Except Hindrance Reply) := do
  if let some hindrance := Carrier.standard.refusal? request then return .error hindrance
  match request.url.host with
  | none => return .error .unsupportedScheme
  | some host =>
    if request.url.scheme != "http" then return .error .secureOnly
    let addresses ← try addressesOf host catch _ => pure []
    match addresses with
    | [] => return .error .unknownHost
    | address :: _ =>
      let port := request.url.port.getD 80
      exchange request (socketAddress port.toUInt16 address)

def showEvent (reporting : Program.Reporting) (event : Event) : IO Unit := do
  match reporting.show? event with
  | some (.record record) => IO.println record.compact
  | some (.line line) => IO.println line
  | none => return ()

/-- What the system said about files. -/
def systemError (error : IO.Error) : SystemError :=
  match error with
  | .noFileOrDirectory .. => .notFound
  | .alreadyExists .. => .alreadyExists
  | .inappropriateType _ code _ => if code == 20 then .notDirectory else .isDirectory
  | .invalidArgument _ code details => if code == 36 then .nameTooLong else .other details
  | error => .other (toString error)

def deliver (delivery : Delivery) : IO (Except ExportError Unit) := do
  try
    if !delivery.directory.isEmpty then IO.FS.createDirAll delivery.directory
  catch error => return .error (.write delivery.directory (systemError error))
  try
    IO.FS.writeFile delivery.path delivery.content
    return .ok ()
  catch error => return .error (.write delivery.path (systemError error))

def runExport (reporting : Program.Reporting) (settings : Settings) :
    IO (Except ExportError Unit) := do
  let prepared ← (Export.prepare settings).run.follow (showEvent reporting) send
  match prepared with
  | .error error => return .error error
  | .ok delivery =>
    let delivered ← deliver delivery
    if delivered.isOk then
      showEvent reporting (.complete delivery.path)
      showEvent reporting (.saved delivery.path)
    return delivered

/-- The variables of the environment that count. -/
def readEnvironment : IO Environment := do
  let names := ["RUST_LOG", "RUST_LOG_FORMAT"] ++ Parameter.all.filterMap (·.environmentName?)
  names.filterMapM fun name => do
    return (← IO.getEnv name).map fun value => (name, value)

/-- Run the program with the arguments behind its name. -/
def program (arguments : List String) : IO UInt32 := do
  let environment ← readEnvironment
  match CommandLine.read arguments environment with
  | .error stop =>
    IO.print (Program.outputOf stop)
    IO.eprint (Program.errorOutputOf stop)
    return stop.exitCode.toUInt32
  | .ok settings =>
    match ← runExport (.ofEnvironment environment) settings with
    | .ok () => return 0
    | .error error =>
      IO.eprint (Program.report error)
      return 1

end Running
end Artboard

/-- The program as it is started from a command line. -/
def main (arguments : List String) : IO UInt32 :=
  Artboard.Running.program arguments
