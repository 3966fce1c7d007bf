import Reactor.Json.Record
import Reactor.Options.Basic

/-!
Options as JSON documents. Spans are written in whole milliseconds. A document names the fields
it sets, all others keep their standard value; writing gives every field in one fixed order.
-/

namespace Reactor

open Json

def readMillis : Reader Span := fun source =>
  (readWord "u64" source).map fun (count, rest) => (.ofMillis count.toNat, rest)

def MetricsOptions.schema : Schema MetricsOptions where
  title := "struct MetricsOptions"
  fields := [.of "enabled" readFlag fun _ enabled => ⟨enabled⟩]
  initial := ⟨false⟩

def TracingOptions.schema : Schema TracingOptions where
  title := "struct TracingOptions"
  fields := [.of "serviceName" (readOptional (readString "a string")) fun _ name => ⟨name⟩]
  initial := ⟨none⟩

def FileSystemOptions.schema : Schema FileSystemOptions where
  title := "struct FileSystemOptions"
  fields :=
    [ .of "fileCachingEnabled" readFlag fun options enabled =>
        { options with cachingEnabled := enabled },
      .of "fileCacheDir" (readString "path string") fun options path =>
        { options with cacheDirectory := path },
      .of "baseDir" (readOptional (readString "path string")) fun options path =>
        { options with baseDirectory := path } ]
  initial := .standard

namespace Options

/-- The fields of the options in their written order; what a document leaves out is as in `initial`. -/
def schema (initial : Options) : Schema Options where
  title := "struct RuntimeOptions"
  fields :=
    [ .of "eventLoopPoolSize" (readWord "usize") fun options size =>
        { options with eventLoopPoolSize := size },
      .of "workerPoolSize" (readWord "usize") fun options size =>
        { options with workerPoolSize := size },
      .of "maxEventLoopExecuteTime" readMillis fun options span =>
        { options with maxEventLoopExecuteTime := span },
      .of "maxWorkerExecuteTime" (readOptional readMillis) fun options span =>
        { options with maxWorkerExecuteTime := span },
      .of "blockedThreadCheckInterval" readMillis fun options span =>
        { options with blockedThreadCheckInterval := span },
      .of "warningExceptionTime" readMillis fun options span =>
        { options with warningExceptionTime := span },
      .of "preferNativeTransport" readFlag fun options prefer =>
        { options with preferNativeTransport := prefer },
      .of "metrics" (readOptional (readRecord MetricsOptions.schema)) fun options metrics =>
        { options with metrics },
      .of "tracing" (readOptional (readRecord TracingOptions.schema)) fun options tracing =>
        { options with tracing },
      .of "fileSystem" (readRecord FileSystemOptions.schema) fun options fileSystem =>
        { options with fileSystem } ]
  initial

def read (cores : Nat) (document : String) : Except Fault Options :=
  readDocument (schema (standard cores)) document.toList

def wordValue (word : UInt64) : Value := .whole word.toNat

def optionalValue {α : Type} (write : α → Value) : Option α → Value
  | none => .null
  | some value => write value

def spanValue (span : Span) : Value := wordValue span.millisWord

def fileSystemValue (options : FileSystemOptions) : Value :=
  .object
    [ ("fileCachingEnabled", .flag options.cachingEnabled),
      ("fileCacheDir", .text options.cacheDirectory),
      ("baseDir", optionalValue .text options.baseDirectory) ]

/-- The options as a value, every field in its order. -/
def toValue (options : Options) : Value :=
  .object
    [ ("eventLoopPoolSize", wordValue options.eventLoopPoolSize),
      ("workerPoolSize", wordValue options.workerPoolSize),
      ("maxEventLoopExecuteTime", spanValue options.maxEventLoopExecuteTime),
      ("maxWorkerExecuteTime", optionalValue spanValue options.maxWorkerExecuteTime),
      ("blockedThreadCheckInterval", spanValue options.blockedThreadCheckInterval),
      ("warningExceptionTime", spanValue options.warningExceptionTime),
      ("preferNativeTransport", .flag options.preferNativeTransport),
      ("metrics", optionalValue (fun metrics => .object [("enabled", .flag metrics.enabled)])
        options.metrics),
      ("tracing", optionalValue
        (fun tracing => .object [("serviceName", optionalValue .text tracing.serviceName)])
        options.tracing),
      ("fileSystem", fileSystemValue options.fileSystem) ]

def document (options : Options) : String := options.toValue.compact

end Options

namespace FileSystemOptions

private def found : Value → Found
  | .null => .null
  | .flag value => .flag value
  | .whole value => .whole value
  | .decimal value => .decimal value
  | .text value => .text value
  | .array _ => .sequence
  | .object _ => .object

private def flagOf : Value → Except Fault Bool
  | .flag value => .ok value
  | other => .error (.wrongKind (found other) "a boolean")

private def pathOf : Value → Except Fault String
  | .text value => .ok value
  | other => .error (.wrongKind (found other) "path string")

def setField (options : FileSystemOptions) (name : String) (value : Value) :
    Except Fault FileSystemOptions :=
  match name with
  | "fileCachingEnabled" =>
    (flagOf value).map fun enabled => { options with cachingEnabled := enabled }
  | "fileCacheDir" => (pathOf value).map fun path => { options with cacheDirectory := path }
  | "baseDir" =>
    match value with
    | .null => .ok { options with baseDirectory := none }
    | _ => (pathOf value).map fun path => { options with baseDirectory := some path }
  | _ => .ok options

/-- Reads the options from a value: an object, or the array of the first fields. -/
def ofValue (value : Value) : Except Fault FileSystemOptions :=
  match value with
  | .object members =>
    members.foldlM (fun options (name, value) => options.setField name value) standard
  | .array items => do
    let names := ["fileCachingEnabled", "fileCacheDir", "baseDir"]
    let options ← (names.zip items).foldlM
      (fun options (name, value) => options.setField name value) standard
    if names.length < items.length then .error (.tooManyItems items.length) else .ok options
  | other => .error (.wrongKind (found other) FileSystemOptions.schema.title)

end FileSystemOptions

end Reactor
