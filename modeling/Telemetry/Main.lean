/-
The programs on a real machine: `agent` or `collector`, and then the flags.

The library works on a disk of its own. What a program may read of the real one is
copied there first, and what a step changed is carried out afterwards, followed by the
lines of its reports. A database lives as long as the process.
-/
import Std.Async
import Std.Http
import Telemetry.Agent.Source
import Telemetry.Agent.Wire
import Telemetry.Command.Agent
import Telemetry.Command.Collector
import Telemetry.Command.Usage

namespace Telemetry.Machine

open Std.Async (Async)

/-! ## The disk and the reports -/

def observe (l : Location) : IO (Option Node) := do
  try
    let bytes ← IO.FS.readBinFile l
    return some (.file bytes.toList)
  catch
    | .inappropriateType .. => return some .directory
    | _ => return none

/-- The disk with what is at a path and on the way to it. -/
def withPath (d : Disk) (path : String) : IO Disk := do
  let mut d := d
  let mut l := d.origin path
  for part in Path.parts path.toList do
    if part = [] ∨ part = ['.'] then
      continue
    else if part = ['.', '.'] then
      l := Location.up l
    else
      l := Location.child l part
      if let some n ← observe l then
        d := d.set l n
  return d

/-- A host that knows some paths of the real disk. -/
def hostWith (paths : List String) : IO Host := do
  let home := toString (← IO.currentDir)
  let h := Host.fresh (if home = "/" then Location.root else home)
  return { h with disk := ← paths.foldlM withPath h.disk }

/-- Makes the real disk hold what a step left. -/
def carryOut (before after : Disk) : IO Unit := do
  for (l, n) in after.nodes.entries do
    if before.node? l ≠ some n then
      match n with
      | .directory => IO.FS.createDirAll l
      | .file content =>
        IO.FS.writeBinFile (Path.temporary l) ⟨content.toArray⟩
        IO.FS.rename (Path.temporary l) l
      | .database _ => pure ()
  for (l, n) in before.nodes.entries do
    if after.node? l = none then
      match n with
      | .file _ => IO.FS.removeFile l
      | _ => pure ()

/-- Writes the lines of new events; journals stand last first. -/
def announce (filter : Filter) (before after : List Event) : IO Unit := do
  for e in (after.take (after.length - before.length)).reverse do
    if let some r := e.report then
      if filter.admits r then
        IO.println r.line
  (← IO.getStdout).flush

def settle (filter : Filter) (before after : Host) : IO Unit := do
  carryOut before.disk after.disk
  announce filter before.journal after.journal

def awaitSignal : IO Signal := do
  let interrupt ← Std.Async.Signal.Waiter.mk .sigint false
  let terminate ← Std.Async.Signal.Waiter.mk .sigterm false
  Async.block (Std.Async.Selectable.one #[
    .case interrupt.selector fun _ => pure Signal.interrupt,
    .case terminate.selector fun _ => pure Signal.terminate])

/-- Does something at every interval until it is cancelled. -/
partial def every (interval : Interval) (waited : Nat) (act : IO Unit) : IO Unit := do
  if ← IO.checkCanceled then
    return
  else if interval.milliseconds ≤ waited then
    act
    every interval 0 act
  else
    let step := min 100 (interval.milliseconds - waited)
    IO.sleep step.toUInt32
    every interval (waited + step) act

def beside (act : IO Unit) : IO (Task (Except IO.Error Unit)) :=
  IO.asTask act Task.Priority.dedicated

def stop (loop : Task (Except IO.Error Unit)) : IO Unit := do
  IO.cancel loop
  let _ ← IO.wait loop

/-! ## The collector -/

/-- A step of a collector that several connections share. -/
def onShared {α : Type} (shared : Std.Mutex Collector) (filter : Filter)
    (step : Collector → α × Collector) : IO α :=
  shared.atomically do
    let before ← get
    let (x, after) := step before
    set after
    settle filter before.host after.host
    return x

def requestOf (line : Std.Http.Request.Head) (body : ByteArray) : Service.Request where
  method := toString line.method
  target := toString line.uri
  headers := line.headers.toList.map fun (name, value) => (name.value, value.value)
  body := body.toList

def sent (r : Service.Response) : Async (Std.Http.Response Std.Http.Body.Any) := do
  let status := (Std.Http.Status.ofCode none r.status.toUInt16).getD .internalServerError
  let headers := [("content-type", r.contentType), ("allow", r.allow),
    ("content-encoding", r.encoding)]
  let builder := headers.foldl (fun b (name, value) =>
    (value.bind fun v => b.header? name v).getD b) (Std.Http.Response.withStatus status)
  let full ← Std.Http.Body.Full.ofByteArray ⟨r.body.toArray⟩
  return builder.body (.ofBody full)

def answer (shared : Std.Mutex Collector) (filter : Filter)
    (request : Std.Http.Request Std.Http.Body.Stream) :
    Std.Async.ContextAsync (Std.Http.Response Std.Http.Body.Any) := do
  let body : ByteArray ← request.body.readAll
  let response ← onShared shared filter fun c => c.respond (requestOf request.line body)
  sent response

def socketAddress (b : Service.Binding) : IO (Except AddressFault Std.Net.SocketAddress) := do
  try
    match (← Async.block (Std.Async.DNS.getAddrInfo b.host (toString b.port))).toList with
    | .v4 a :: _ => return .ok (.v4 ⟨a, b.port⟩)
    | .v6 a :: _ => return .ok (.v6 ⟨a, b.port⟩)
    | [] => return .error (.refused "failed to lookup address information")
  catch e => return .error (.refused (toString e))

def serve (filter : Filter) (address : Std.Net.SocketAddress) (c : Collector) : IO Unit := do
  let shared ← Std.Mutex.new c
  let server ← Async.block
    (Std.Http.Server.serve address (Std.Http.Server.Handler.ofFn (answer shared filter)))
  let bound := (server.localAddr.map toString).getD (toString address)
  let course ← onShared shared filter fun c =>
    Collector.beginRun 0 (Command.Collector.enter c (.listening bound))
  let interval := ((c.scheduler.map Scheduler.interval).getD ⟨0⟩)
  let ticks ← beside do
    if course = some .running ∧ !interval.isZero then
      every interval 0 (onShared shared filter fun c => ((), (Collector.onScheduler Flushing.tick c).2))
  let signal ← awaitSignal
  Async.block server.shutdownAndWait
  stop ticks
  onShared shared filter fun c => ((), Command.Collector.conclude signal 0 course c)

def runCollector (filter : Filter) (s : CollectorSettings) (h : Host) : IO Command.Exit := do
  let paths := match s.databaseSource with
    | some source => (Path.parent? (Connection.sourcePath source)).toList
    | none => s.filePath.toList
  let h := { h with disk := ← paths.foldlM withPath h.disk }
  let (opened, after) := Command.Collector.begin s h
  settle filter h after
  match opened with
  | .error b => return .gaveUp b
  | .ok c =>
    match Service.Binding.ofAddress s.address with
    | .error fault => return .gaveUp (.binding s.address fault)
    | .ok b =>
      match ← socketAddress b with
      | .error fault => return .gaveUp (.binding s.address fault)
      | .ok address =>
        try
          serve filter address c
          return .finished
        catch e => return .gaveUp (.binding s.address (.refused (toString e)))

/-! ## The agent -/

/-- How much of some time was busy, in percent. -/
def share (busy total : Nat) : Binary64 :=
  if total = 0 then .zero else .ofMagnitude? false (Magnitude.ofRatio? (100 * busy) total)

/-- The busy and the whole time of each core so far, in milliseconds. -/
def coreTimes : IO (List (Nat × Nat)) := do
  let cores ← Std.Async.System.getCPUInfo
  return cores.toList.map fun core =>
    let t := core.times
    let busy := [t.userTime, t.niceTime, t.systemTime, t.interruptTime].foldl
      (fun n x => n + x.val.toNat) 0
    (busy, busy + t.idleTime.val.toNat)

/-- The numbers of a line that the system keeps. -/
def numbersOf (line : String) : List Nat :=
  (line.split Char.isWhitespace).toList.filterMap fun w => w.toNat?

/-- The number, in bytes, of a line that names some memory. -/
def memoryLine (lines : Array String) (name : String) : Nat :=
  match lines.find? fun l => l.startsWith name with
  | some line => (numbersOf line).headD 0 * 1024
  | none => 0

/-- What the sources see, given the times at the last look. -/
def look (settings : AgentSettings) (times : List (Nat × Nat)) : IO (List Agent.Reading) := do
  let pages := numbersOf (← IO.FS.readFile "/proc/self/statm")
  let now ← coreTimes
  let spent := (now.zip times).map fun ((b, t), (b', t')) => (b - b', t - t')
  let whole := spent.foldl (fun (b, t) (b', t') => (b + b', t + t')) (0, 0)
  let process : Agent.ProcessReading :=
    ⟨pages.getD 1 0 * 4096, pages.getD 0 0 * 4096, share whole.1 whole.2,
      .ofMagnitude? false (Magnitude.ofRatio? (← IO.rand 0 (Magnitude.limit - 1)) Magnitude.limit)⟩
  let lines ← IO.FS.lines "/proc/meminfo"
  let host : Agent.HostReading :=
    ⟨memoryLine lines "MemTotal", memoryLine lines "MemFree", spent.map fun (b, t) => share b t⟩
  let first : Agent.Reading := ⟨Agent.ProcessReading.sourceName, .ok process.snapshot⟩
  return if settings.systemMetrics then
    [first, ⟨Agent.HostReading.sourceName, .ok host.snapshot⟩] else [first]

partial def receive (client : Std.Async.TCP.Socket.Client) (sofar : ByteArray) :
    Async ByteArray := do
  match ← client.recv? 65536 with
  | some more => receive client (sofar ++ more)
  | none => return sofar

def exchange (peer : Agent.Peer) (request : Service.Request) : Async Agent.Reply := do
  match (← Std.Async.DNS.getAddrInfo peer.host peer.port).toList with
  | [] => return .none
  | address :: _ =>
    let port := (peer.port.toNat?.getD 0).toUInt16
    let client ← Std.Async.TCP.Socket.Client.mk
    client.connect (match address with
      | .v4 a => .v4 ⟨a, port⟩
      | .v6 a => .v6 ⟨a, port⟩)
    client.send ⟨(Agent.Wire.encode peer request).toArray⟩
    return Agent.Wire.decode (← receive client .empty).toList

/-- Sends some records, for as long as the settings allow. -/
def deliver (settings : AgentSettings) (t : Agent.Transport) (rs : List Record) :
    IO Agent.Reply := do
  match Agent.peer? t.address, t.request? rs with
  | some peer, some request =>
    try
      Async.block <| Async.race (exchange peer request) do
        Std.Async.sleep (.ofNat settings.timeoutMilliseconds.toNat)
        return .none
    catch _ => return .none
  | _, _ => return .none

def report (settings : AgentSettings) (t : Agent.Transport) (a : Agent.State) :
    IO Agent.State := do
  match a.store.isEmpty, a.codec.encode a.store.snapshot with
  | false, .ok rs =>
    let reply ← deliver settings t rs
    let a := reply.events.foldl Agent.State.enter (a.enter (t.sending rs))
    return a.reportTick ⟨fun _ => [], fun _ => reply.outcome⟩
  | _, _ => return a.reportTick ⟨fun _ => [], fun _ => .ok ()⟩

/-- Polls and reports, each at its own times, until it is cancelled. -/
partial def work (filter : Filter) (settings : AgentSettings) (t : Agent.Transport)
    (shared : IO.Ref Agent.State) (times : List (Nat × Nat)) (nextPoll nextReport : Nat) :
    IO Unit := do
  if ← IO.checkCanceled then
    return
  let now ← IO.monoMsNow
  let before ← shared.get
  if nextPoll ≤ now then
    let readings ← look settings times
    let (_, after) := before.poll ⟨fun _ => readings, fun _ => .ok ()⟩
    announce filter before.journal after.journal
    shared.set after
    work filter settings t shared (← coreTimes) (nextPoll + settings.pollInterval.milliseconds)
      nextReport
  else if nextReport ≤ now then
    let after ← report settings t before
    announce filter before.journal after.journal
    shared.set after
    work filter settings t shared times nextPoll
      (nextReport + settings.reportInterval.milliseconds)
  else
    IO.sleep 50
    work filter settings t shared times nextPoll nextReport

def runAgent (filter : Filter) (s : AgentSettings) (h : Host) : IO Command.Exit := do
  let codec := if s.compress then some (BodyCodec.gzip BodyCodec.defaultLevel) else none
  let i := Command.Agent.intervals s
  let a := (Command.Agent.begin s h).runFor ⟨fun _ => [], fun _ => .ok ()⟩ 0 0 i
    (Command.Agent.sources s)
  announce filter h.journal a.journal
  let shared ← IO.mkRef a
  let now ← IO.monoMsNow
  let loop ← beside do
    work filter s (.ofAddress s.baseUrl codec) shared (← coreTimes) now
      (now + i.report.milliseconds)
  let signal ← awaitSignal
  stop loop
  let a ← shared.get
  announce filter a.journal (Command.Agent.conclude s signal 0 0 a).journal
  return .finished

/-! ## Starting -/

def finish {σ : Type} (p : Command.Program σ) (exit : Command.Exit) : IO UInt32 := do
  match exit with
  | .finished => pure ()
  | .interrupted .help => IO.println p.usage
  | .interrupted .version => IO.println p.title
  | .interrupted .misuse => IO.eprintln p.usage
  | .gaveUp b => IO.eprintln b.message
  return exit.code.toUInt32

def launch {σ : Type} (p : Command.Program σ)
    (run : Filter → σ → Host → IO Command.Exit) (arguments : List String) : IO UInt32 := do
  let known ← Std.Async.System.getEnv
  let env : Environment := known.get?
  match p.line arguments with
  | .error i => finish p (.interrupted i)
  | .ok l =>
    let filter := Filter.ofEnvironment env l.filter
    let found := (Settings.directory? env).map fun d => Path.child d p.fileName
    let h ← hostWith (l.path.toList ++ found.toList)
    let (outcome, after) := p.settings env l h
    settle filter h after
    match outcome with
    | .error e => finish p (.gaveUp (.settings p.role e))
    | .ok settings => finish p (← run filter settings after)

end Telemetry.Machine

def main (arguments : List String) : IO UInt32 := do
  match arguments with
  | "agent" :: rest =>
    Telemetry.Machine.launch Telemetry.Command.Agent.program Telemetry.Machine.runAgent rest
  | "collector" :: rest =>
    Telemetry.Machine.launch Telemetry.Command.Collector.program Telemetry.Machine.runCollector rest
  | _ =>
    IO.eprintln "Usage: agent [OPTIONS] | collector [OPTIONS]"
    return 2
