/-
# The programs

`server` starts the service; once it serves, it answers the frames of its standard input on
its standard output, and time passes for its desk as it does for the process.  `client`
carries out a client's command against a server that it reaches over TCP.
-/

import Std.Async.TCP
import Std.Time
import SupportDesk.Client.Session
import SupportDesk.Http.Exchange
import SupportDesk.MessagePack.Socket
import SupportDesk.Service.Startup

namespace SupportDesk.Program

open CommandLine

/-! ## Surroundings -/

/-- The text of a file, if it can be read. -/
def fileText? (path : String) : IO (Option String) := do
  try return some (← IO.FS.readFile path)
  catch _ => return none

/-- The variables of the process with those of an environment file. -/
def environment : IO EnvironmentFile.Variables := do
  let entries := (((← fileText? "/proc/self/environ").getD "").splitOn "\x00").filterMap fun entry =>
    match entry.splitOn "=" with
    | name :: value@(_ :: _) => some (name, "=".intercalate value)
    | _ => none
  return EnvironmentFile.extend entries ((← fileText? ".env").getD "")

/-- The files that a path can mean. -/
def filesFor (path : String) : IO Settings.Files := do
  let names := (FilePath.file? path).toList
    ++ Settings.FileFormat.extensions.filterMap fun e => FilePath.withExtension? path e.1
  names.filterMapM fun name => do
    return (← fileText? name).map fun text => (name, text)

/-- The local time. -/
def localMoment? : IO (Option Moment) := do
  let now ← Std.Time.PlainDateTime.now
  return do
    let date ← Date.ofCivil? now.date.year.toInt now.date.month.val.toNat now.date.day.val.toNat
    let time ← TimeOfDay.ofClock? now.time.hour.val.toNat now.time.minute.val.toNat
      now.time.second.val.toNat now.time.nanosecond.val.toNat
    return ⟨date, time⟩

/-- A new random identifier. -/
def freshId : IO SessionId := do
  let bytes ← IO.getRandomBytes 16
  let n := bytes.toList.foldl (fun n b => n * 256 + b.toNat) 0
  return .ofNat n

/-- Prints a line for a command that is not carried out. -/
def reportStop (name versionLine : String) (stop : Stop) : IO UInt32 := do
  match stop with
  | .help => IO.println ("usage: " ++ name ++ " [OPTIONS] [COMMAND]")
  | .version => IO.println versionLine
  | .mistake => IO.eprintln ("usage: " ++ name ++ " [OPTIONS] [COMMAND]")
  return stop.code.toUInt32

/-! ## Server -/

/-- Reads a number of bytes; fewer at the end of the input. -/
partial def readBytes (input : IO.FS.Stream) (n : Nat) (read : ByteArray) : IO ByteArray := do
  if n ≤ read.size then return read
  let more ← input.read (n - read.size).toUSize
  if more.isEmpty then return read
  readBytes input n (read ++ more)

/-- Answers frames until the input ends, or a frame or a reply is too long. -/
partial def serveFrames (input output : IO.FS.Stream) (started : Nat) (d : Desk) : IO Unit := do
  let start ← readBytes input 4 .empty
  if start.size < 4 then return
  let length := Socket.lengthOf start.toList
  if Socket.frameLimit < length then return
  let payload ← readBytes input length .empty
  if payload.size < length then return
  let d := d.sleep ((← IO.monoMsNow) - started - d.elapsed)
  match d.now with
  | .error e => IO.eprintln e.message
  | .ok now =>
    match Socket.respond Socket.complaint d now (← freshId) payload.toList with
    | (some exchange, d) =>
      output.write ⟨(Socket.frame (MessagePack.reply exchange.reply)).toArray⟩
      output.flush
      serveFrames input output started d
    | (none, _) => IO.eprintln "frame size too big"

/-- Starts the service. -/
def server (words : List String) : IO UInt32 := do
  let path := match Service.ServiceCommand.read words with
    | .ok command => command.configPath
    | .error _ => Service.ServiceCommand.defaultPath
  let some now ← localMoment? | do IO.eprintln "no local time"; return 1
  let startup := Service.startup (← filesFor path) (← environment) now words
  if let .stopped stop := startup then
    return ← reportStop Service.name Service.versionLine stop
  let report : String → IO Unit := match startup with
    | .serving .. => IO.eprintln
    | _ => IO.println
  startup.outputs.forM report
  startup.errors.forM IO.eprintln
  if let .serving _ _ _ d := startup then
    let d : Desk := { d with clock := .following now }
    serveFrames (← IO.getStdin) (← IO.getStdout) (← IO.monoMsNow) d
  return (startup.code?.getD 0).toUInt32

/-! ## Client -/

/-- Receives until the connection is closed. -/
partial def receiveAll (socket : Std.Async.TCP.Socket.Client) (read : ByteArray) : IO ByteArray := do
  match ← (socket.recv? 65536).block with
  | some bytes => receiveAll socket (read ++ bytes)
  | none => return read

/-- The socket address of a URL whose host is an IPv4 address or the local host. -/
def socketAddress? (url : Url) : Option Std.Net.SocketAddress := do
  let host ← url.host
  let address ← Std.Net.IPv4Addr.ofString (if host = "localhost" then "127.0.0.1" else host)
  let port := url.port.getD (if url.scheme = "https" then 443 else 80)
  return .v4 ⟨address, port.toUInt16⟩

/-- Sends a request and gives what becomes of it. -/
def deliver (call : Client.Call) : IO Client.Delivery := do
  let .ok url := call.address | return .lost
  let some address := socketAddress? url | return .lost
  try
    let socket ← Std.Async.TCP.Socket.Client.mk
    (socket.connect address).block
    (socket.send (Http.requestText call.method url call.body).toUTF8).block
    let bytes ← receiveAll socket .empty
    match Http.readAnswer? bytes.toList with
    | some (status, body) => return .answer status body
    | none => return .lost
  catch _ => return .lost

/-- Prints a line of the client. -/
def printLine : Client.Line → IO Unit
  | .output s => IO.println s
  | .error s => IO.eprintln s

/-- Goes through the stages of a client and gives its exit code. -/
partial def carryOut (address : String) (stage : Client.Stage) : IO UInt32 := do
  match stage with
  | .ended e =>
    e.exit.lines.forM printLine
    return e.exit.code.toUInt32
  | _ =>
    match stage.call? address with
    | none => return 0
    | some call =>
      IO.sleep call.pause.toUInt32
      let step := stage.receive call (call.outcome (← deliver call))
      step.lines.forM printLine
      carryOut address step.next

/-- Carries out a client's command. -/
def client (words : List String) : IO UInt32 := do
  match ClientCommand.read (← IO.getEnv ClientCommand.serverVariable) words with
  | .error stop => reportStop Client.name Client.versionLine stop
  | .ok command => carryOut (Client.trimmed command.server) (.ofTask command.task)

end SupportDesk.Program

/-- Runs the program that the first word of the command line names. -/
def main (words : List String) : IO UInt32 := do
  match words with
  | "server" :: rest => SupportDesk.Program.server rest
  | "client" :: rest => SupportDesk.Program.client rest
  | _ =>
    IO.eprintln "usage: supportdesk server|client [OPTIONS] [COMMAND]"
    return 2
