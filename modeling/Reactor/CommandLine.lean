import Reactor.Engine.Lifecycle
import Reactor.Engine.Work
import Reactor.LogFilter
import Reactor.Options.Document

/-!
The command line: it starts a runtime, runs one handler on a loop and one job on a worker, closes
the runtime, and reports how it was assembled. `Command.ofArgs` reads the arguments from left to
right; the first that is not of the expected form decides alone.
-/

namespace Reactor

def version : String := "0.1.0"

inductive Command where
  | help
  | version
  | misuse (message : String)
  | run (optionsFile : Option String) (native : Bool)
deriving DecidableEq

namespace Command

def scan (optionsFile : Option String) (native : Bool) : List String → Command
  | [] => .run optionsFile native
  | "-h" :: _ => .help
  | "--help" :: _ => .help
  | "-v" :: _ => .version
  | "--version" :: _ => .version
  | "--native" :: rest => scan optionsFile true rest
  | "--options" :: path :: rest => scan (some path) native rest
  | ["--options"] => .misuse "'--options' requires a file argument"
  | argument :: _ => .misuse ("unrecognized argument '" ++ argument ++ "'")

def ofArgs (arguments : List String) : Command := scan none false arguments

end Command

def helpLines : List String :=
  [ "strand - Event-driven runtime bootstrap v" ++ version,
    "",
    "USAGE:",
    "  strand [OPTIONS]",
    "",
    "OPTIONS:",
    "  -h, --help             Print this help message",
    "  -v, --version          Print version information",
    "      --options <FILE>   Load runtime options from a JSON file",
    "      --native           Prefer the OS-native transport",
    "",
    "Log verbosity is controlled with RUST_LOG (default: info)." ]

inductive OptionsFault where
  | unreadable (path : String) (reason : FileFault)
  | unparsable (fault : Json.Fault)
deriving DecidableEq

namespace OptionsFault

def failure : OptionsFault → Failure
  | .unreadable path reason => ⟨"Failed to read options file " ++ path, [reason.message]⟩
  | .unparsable fault => ⟨"Failed to parse runtime options", [fault.message]⟩

/-- The category of a fault in the document; none if it was not read. -/
def category : OptionsFault → Option Json.Category
  | .unreadable .. => none
  | .unparsable fault => some fault.category

end OptionsFault

namespace Options

def parse (host : Host) (document : String) : Except OptionsFault Options :=
  (read host.cores document).mapError .unparsable

def ofReading (host : Host) (path : String) (reading : Except FileFault String) :
    Except OptionsFault Options := do
  parse host (← reading.mapError (.unreadable path))

theorem ofReading_ok (host : Host) (path document : String) :
    ofReading host path (.ok document) = parse host document := rfl

theorem ofReading_error (host : Host) (path : String) (reason : FileFault) :
    ofReading host path (.error reason) = .error (.unreadable path reason) := rfl

def load (host : Host) (files : FileTree) (path : String) : Except OptionsFault Options :=
  ofReading host path (files.readText host.workingPlace path)

theorem load_of_ok {host : Host} {files : FileTree} {path document : String}
    (found : files.readText host.workingPlace path = .ok document) :
    load host files path = parse host document := by
  rw [load, found, ofReading_ok]

theorem load_of_error {host : Host} {files : FileTree} {path : String} {reason : FileFault}
    (lost : files.readText host.workingPlace path = .error reason) :
    load host files path = .error (.unreadable path reason) := by
  rw [load, lost, ofReading_error]

end Options

structure Exit where
  code : Nat
  output : List String
  errors : List String
deriving DecidableEq

namespace Program

structure World where
  host : Host
  files : FileTree
  took : Span

/-- What a run does to the world around it, other than to print. -/
inductive Effect where
  | readFile (path : String)
  | register (registry : Registry) (provider : Provider)
  | build (assembly : Assembly) (registry : Registry)

namespace Effect

abbrev Answer : Effect → Type
  | readFile _ => Except FileFault String
  | register _ _ => Registry
  | build _ _ => Except (Halt BootError) Engine × Registry

def perform (world : World) : (effect : Effect) → Told effect.Answer
  | readFile path => pure (world.files.readText world.host.workingPlace path)
  | register registry provider => registry.registerProvider provider
  | build assembly registry => assembly.build world.host world.files registry world.took

end Effect

/-- A part of a run: its result, with its effects and the entries it told, each in order. -/
structure Doing (α : Type) where
  value : α
  effects : List Effect
  entries : List Entry

namespace Doing

instance : Monad Doing where
  pure value := ⟨value, [], []⟩
  bind first next :=
    let second := next first.value
    ⟨second.value, first.effects ++ second.effects, first.entries ++ second.entries⟩

instance : MonadLift Told Doing where
  monadLift told := ⟨told.value, [], told.entries⟩

def act (world : World) (effect : Effect) : Doing effect.Answer :=
  let told := effect.perform world
  ⟨told.value, [effect], told.entries⟩

variable {α β : Type}

@[simp] theorem value_pure (value : α) : (pure value : Doing α).value = value := rfl

@[simp] theorem effects_pure (value : α) : (pure value : Doing α).effects = [] := rfl

@[simp] theorem value_bind (first : Doing α) (next : α → Doing β) :
    (first >>= next).value = (next first.value).value := rfl

@[simp] theorem effects_bind (first : Doing α) (next : α → Doing β) :
    (first >>= next).effects = first.effects ++ (next first.value).effects := rfl

@[simp] theorem effects_lift (told : Told α) : (monadLift told : Doing α).effects = [] := rfl

@[simp] theorem value_act (world : World) (effect : Effect) :
    (act world effect).value = (effect.perform world).value := rfl

@[simp] theorem effects_act (world : World) (effect : Effect) :
    (act world effect).effects = [effect] := rfl

end Doing

private def say (message : String) (fields : List (String × LogValue)) : Told Unit :=
  Told.log .caller .info .program message fields

private def pad (width : Nat) (text : String) : String :=
  String.ofList (List.replicate (width - text.length) ' ') ++ text

/-- The lines on a failure: its text, then its causes, numbered if there are several. -/
def failureLines (failure : Failure) : List String :=
  let causes :=
    match failure.causes with
    | [] => []
    | [cause] => ["", "Caused by:", "    " ++ cause]
    | causes =>
      ["", "Caused by:"]
        ++ causes.zipIdx.map fun (cause, index) => pad 5 (toString index) ++ ": " ++ cause
  ("Error: " ++ failure.message) :: causes

private def flagText (flag : Bool) : String := if flag then "true" else "false"

def countersListing (counters : Counters) : String :=
  "CountersSnapshot \x7b event_loop_threads: " ++ toString counters.eventLoopThreads.toNat
    ++ ", worker_threads: " ++ toString counters.workerThreads.toNat
    ++ ", blocked_event_loop_reports: " ++ toString counters.blockedEventLoopReports.toNat
    ++ ", blocked_worker_reports: " ++ toString counters.blockedWorkerReports.toNat
    ++ ", bootstrap_ms: " ++ counters.bootstrapMillis.text
    ++ ", started: " ++ flagText counters.started
    ++ ", closed: " ++ flagText counters.closed ++ " \x7d"

def exercise (engine : Engine) : Told (Except (Halt Failure) Engine) := do
  say "Runtime assembled"
    [("transport", .text engine.transport.name), ("kind", .shown engine.transport.kind.text)]
  let (answer, engine) ← engine.runOnLoop 1 ⟨0, false⟩ Engine.idly
  match answer with
  | .error halt => return .error (halt.mapError fun fault => ⟨fault.message, []⟩)
  | .ok _ =>
    let (answer, engine) ← engine.runOnWorker 1 ⟨1, false⟩ Engine.idly
    match answer with
    | .error fault => return .error (.failed ⟨fault.message, []⟩)
    | .ok _ =>
      say "Work completed" [("from", .text "event loop")]
      say "Work completed" [("from", .text "worker")]
      return .ok (← engine.close)

def loadOptions (world : World) (path : String) : Doing (Except OptionsFault Options) := do
  let reading ← .act world (.readFile path)
  return Options.ofReading world.host path reading

@[simp] theorem value_loadOptions (world : World) (path : String) :
    (loadOptions world path).value = Options.load world.host world.files path := rfl

@[simp] theorem effects_loadOptions (world : World) (path : String) :
    (loadOptions world path).effects = [.readFile path] := rfl

def chooseOptions (world : World) (optionsFile : Option String) (native : Bool) :
    Doing (Except OptionsFault Options) := do
  let options ←
    match optionsFile with
    | some path => loadOptions world path
    | none => pure (.ok ((Options.standard world.host.cores).withMetricsEnabled true))
  return options.map fun options =>
    if native then { options with preferNativeTransport := true } else options

def runWith (world : World) (options : Options) : Doing (Except (Halt Failure) Engine) := do
  let registry ← .act world (.register .empty .counters)
  let assembly := { Assembly.create world.host with options }
  let (answer, _) ← .act world (.build assembly registry)
  match answer with
  | .error halt => return .error (halt.mapError fun error => ⟨error.message, error.causes⟩)
  | .ok engine => exercise engine

def start (world : World) (optionsFile : Option String) (native : Bool) :
    Doing (Except (Halt Failure) Unit) := do
  say ("Starting strand v" ++ version) []
  match ← chooseOptions world optionsFile native with
  | .error fault => return .error (.failed fault.failure)
  | .ok options =>
    let used := runWith world options
    match ← used with
    | .error halt => return .error halt
    | .ok engine =>
      if engine.metrics.isSome then
        say "Runtime stopped" [("counters", .shown (countersListing (Counters.zero.after used.entries)))]
      else
        say "Runtime stopped" []
      return .ok ()

inductive Outcome where
  | shown (lines : List String)
  | misused (message : String)
  -- It went on to load options, and came so far.
  | ran (result : Except (Halt Failure) Unit)

def perform (world : World) (arguments : List String) : Doing Outcome :=
  match Command.ofArgs arguments with
  | .help => return .shown helpLines
  | .version => return .shown ["strand " ++ version]
  | .misuse message => return .misused message
  | .run optionsFile native => return .ran (← start world optionsFile native)

private def logLines (filter : LogFilter) (entries : List Entry) : List String :=
  entries.flatMap fun entry =>
    match entry with
    | .log _ event => if filter.passes event then event.line.splitOn "\n" else []
    | _ => []

private def splitLines (texts : List String) : List String := texts.flatMap (·.splitOn "\n")

def misuse (message : String) : Exit :=
  ⟨1, [], splitLines ["error: " ++ message, "Run 'strand --help' for usage information."]⟩

def run (host : Host) (files : FileTree) (filter : LogFilter) (took : Span)
    (arguments : List String) : Exit :=
  let doing := perform ⟨host, files, took⟩ arguments
  let output := logLines filter doing.entries
  match doing.value with
  | .shown lines => ⟨0, lines, []⟩
  | .misused message => misuse message
  | .ran (.ok ()) => ⟨0, output, []⟩
  | .ran (.error (.failed failure)) => ⟨1, output, splitLines (failureLines failure)⟩
  | .ran (.error (.panicked panic)) => ⟨101, output, [panic.message]⟩

end Program

end Reactor
