import RunWatch.Console
import RunWatch.Http.Answer
import RunWatch.Http.Message
import Std.Async.DNS
import Std.Async.Signal
import Std.Async.TCP
import Std.Async.Timer
import Std.Sync.Channel
import Std.Time.DateTime.Timestamp
set_option autoImplicit false

namespace RunWatch.Live

open Std.Async Std.Net

inductive Delivery where
  | input (i : Input)
  | woken
  | interrupted

instance : Inhabited Delivery := ⟨.woken⟩

instance : Inhabited (Except Failure Response) := ⟨.error (.transport "")⟩

def clock : IO Timestamp := do
  let now ← Std.Time.Timestamp.now
  return .ofUnixNanos now.toNanosecondsSinceUnixEpoch.val

def print : Line → IO Unit
  | .out text => IO.println text
  | .err text => IO.eprintln text

def longestWait : Nat := 1 <<< 40

def sleepNanos (n : Nat) : Async Unit :=
  sleep (Std.Time.Millisecond.Offset.ofNat
    (min longestWait ((n + (Instant.nanosPerMilli - 1)) / Instant.nanosPerMilli)))

def socket (a : IPAddr) (port : UInt16) : SocketAddress :=
  match a with
  | .v4 addr => .v4 ⟨addr, port⟩
  | .v6 addr => .v6 ⟨addr, port⟩

def sockets (u : Url) : Async (List SocketAddress) := do
  let port := (u.port.getD 80).toUInt16
  match u.host with
  | some (.name n) =>
    let found ← DNS.getAddrInfo n (toString port.toNat)
    return found.toList.map (socket · port)
  | some (.ipv4 n) =>
    return [socket (.v4 (.ofParts (n / 16777216).toUInt8 (n / 65536).toUInt8 (n / 256).toUInt8
      n.toUInt8)) port]
  | some (.ipv6 [a, b, c, d, e, f, g, h]) =>
    return [socket (.v6 (.ofParts a.toUInt16 b.toUInt16 c.toUInt16 d.toUInt16 e.toUInt16
      f.toUInt16 g.toUInt16 h.toUInt16)) port]
  | _ => return []

def connect : List SocketAddress → Async TCP.Socket.Client
  | [] => throw (.userError "no address")
  | a :: rest => do
    try
      let client ← TCP.Socket.Client.mk
      client.connect a
      return client
    catch e => if rest.isEmpty then throw e else connect rest

partial def receive (client : TCP.Socket.Client) (bytes : List UInt8) : Async Http.Progress := do
  match ← client.recv? 65536 with
  | none => return Http.read true bytes
  | some more =>
    let bytes := bytes ++ more.data.toList
    match Http.read false bytes with
    | .more => receive client bytes
    | p => return p

def exchange (m : Http.Message) : Async (Except Failure Response) := do
  let address := m.url.text
  if m.url.scheme ≠ "http" then return .error (.unreachable address)
  let client ←
    try pure (some (← connect (← sockets m.url)))
    catch _ => pure none
  match client with
  | none => return .error (.unreachable address)
  | some client =>
    try
      client.send m.text.toUTF8
      match ← receive client [] with
      | .done r => return .ok r
      | .cutShort => return .error .cutShort
      | _ => return .error (.interrupted address)
    catch _ => return .error (.interrupted address)

/-- Makes a call, within the time that the settings allow. -/
def send (c : ClientSettings) (call : Call) : Async (Except Failure Response) := do
  let key ← IO.getRandomBytes 16
  match call.message c (Call.keyText key) with
  | .error f => return .error f
  | .ok m => Async.race (exchange m) do
      sleepNanos c.timeout.nanos
      return .error (.timedOut m.url.text)

def list (c : ClientSettings) (limit : UInt64) : Async (Except Failure Listing) := do
  return (← send c (.list limit)).bind Response.listing

def trigger (c : ClientSettings) : Async (Except Failure Started) := do
  return (← send c .trigger).bind Response.started

structure State where
  executor : Executor
  console : Console
  /-- The interrupt key is listened to once a run is followed. -/
  listening : Bool := false

abbrev Inbox := Std.Channel Delivery

def deliver (inbox : Inbox) (d : Delivery) : Async Unit := do
  discard <| inbox.send d

def serve (settings : Settings) (inbox : Inbox) (started : Nat) : Request → Async Unit
  | .list epoch seq => background do
      deliver inbox (.input (.listed epoch seq (← list settings.client 1)))
  | .trigger epoch caller => background do
      deliver inbox (.input (.triggered epoch caller (← trigger settings.client)))
  | .wake due => background do
      sleepNanos (due - ((← IO.monoNanosNow) - started))
      deliver inbox .woken

def listen (inbox : Inbox) : Async Unit := do
  let waiter ← Signal.Waiter.mk .sigint false
  background do
    discard <| await (← waiter.wait)
    deliver inbox .interrupted

/-- Takes over what the executor has left, shows the console what happened, and prints. -/
def settle (settings : Settings) (inbox : Inbox) (started : Nat) (s : State) : Async State := do
  let (requests, trace, executor) := s.executor.take
  for r in requests do serve settings inbox started r
  let now ← clock
  let console := trace.foldl (fun c h => c.see now h) s.console
  for l in console.printed do print l
  let listening := s.listening || console.phase = .following
  if listening && !s.listening then listen inbox
  return { executor, console := { console with printed := [] }, listening }

partial def drive (settings : Settings) (inbox : Inbox) (started : Nat) (s : State) :
    Async Console := do
  let s ← settle settings inbox started s
  if s.console.isOver then return s.console
  let delivery ← await (← inbox.recv)
  let now := (← IO.monoNanosNow) - started
  match delivery with
  | .input i => drive settings inbox started { s with executor := s.executor.handle now i }
  | .woken =>
    let executor := (s.executor.handle now .pollDue).handle now .startingDue
    drive settings inbox started { s with executor }
  | .interrupted =>
    let s := { s with console := s.console.interrupt }
    if s.console.phase = .resetting then
      drive settings inbox started { s with executor := s.executor.issue now .reset }
    else drive settings inbox started s

def run (settings : Settings) (errand : Errand) (json : Bool) : Async Console := do
  let inbox ← Std.Channel.new
  let started ← IO.monoNanosNow
  let executor := (Executor.start settings.timing).issue 0 errand.command
  drive settings inbox started { executor, console := { errand, json } }

end RunWatch.Live
