import Reactor.CommandLine
import Reactor.Proofs.Json.Layout

/-!
What a document says about options, whatever its layout. Each field of each record is decided by
the tree that it is given and by nothing else in the document; what is not given stays standard.
-/

namespace Reactor

open Json

def Json.Tree.span? (tree : Tree) : Option Span := tree.word?.map fun count => .ofMillis count.toNat

theorem decodes_readMillis : Decodes readMillis Tree.span? :=
  (decodes_readWord "u64").map fun count => Span.ofMillis count.toNat

namespace MetricsOptions

def names : List String := ["enabled"]

def known : List (Known MetricsOptions) := [.of "enabled" decodes_readFlag fun _ enabled => ⟨enabled⟩]

def ofTree (tree : Tree) : Option MetricsOptions := do
  let given ← tree.fields? names
  let enabled ← Tree.field given "enabled" Tree.flag? false
  return ⟨enabled⟩

theorem drawn : Drawn schema known ofTree := by
  constructor
  case fields => rfl
  case separate =>
    simp [Separate, known]
  case agrees =>
    intro tree
    unfold ofTree
    congr 1
    funext given
    symm
    exact assemble_of false rfl fun _ => rfl

theorem regular {part : Tree} {options : MetricsOptions} (decoded : ofTree part = some options) :
    Regular names [] part := by
  obtain ⟨given, fields, taken⟩ := Option.bind_eq_some_iff.mp decoded
  obtain ⟨enabled, flag, _⟩ := Option.bind_eq_some_iff.mp taken
  apply regular_of_fields (by decide) fields
  intro name listed bare
  cases List.mem_singleton.mp listed
  cases field_given flag bare

end MetricsOptions

namespace TracingOptions

def names : List String := ["serviceName"]

def known : List (Known TracingOptions) :=
  [.of "serviceName" (decodes_readString "a string").optional fun _ name => ⟨name⟩]

def ofTree (tree : Tree) : Option TracingOptions := do
  let given ← tree.fields? names
  let serviceName ← Tree.field given "serviceName" (Tree.optional Tree.text?) none
  return ⟨serviceName⟩

theorem drawn : Drawn schema known ofTree := by
  constructor
  case fields => rfl
  case separate =>
    simp [Separate, known]
  case agrees =>
    intro tree
    unfold ofTree
    congr 1
    funext given
    symm
    exact assemble_of none rfl fun _ => rfl

theorem regular {part : Tree} {options : TracingOptions} (decoded : ofTree part = some options) :
    Regular names ["serviceName"] part := by
  obtain ⟨given, fields, taken⟩ := Option.bind_eq_some_iff.mp decoded
  exact regular_of_fields (by decide) fields fun name listed _ => listed

end TracingOptions

namespace FileSystemOptions

def names : List String := ["fileCachingEnabled", "fileCacheDir", "baseDir"]

def known : List (Known FileSystemOptions) :=
  [ .of "fileCachingEnabled" decodes_readFlag fun options enabled =>
      { options with cachingEnabled := enabled },
    .of "fileCacheDir" (decodes_readString "path string") fun options path =>
      { options with cacheDirectory := path },
    .of "baseDir" (decodes_readString "path string").optional fun options path =>
      { options with baseDirectory := path } ]

def ofTree (tree : Tree) : Option FileSystemOptions := do
  let given ← tree.fields? names
  let cachingEnabled ← Tree.field given "fileCachingEnabled" Tree.flag? standard.cachingEnabled
  let cacheDirectory ← Tree.field given "fileCacheDir" Tree.text? standard.cacheDirectory
  let baseDirectory ←
    Tree.field given "baseDir" (Tree.optional Tree.text?) standard.baseDirectory
  return { cachingEnabled, cacheDirectory, baseDirectory }

theorem drawn : Drawn schema known ofTree := by
  constructor
  case fields => rfl
  case separate =>
    apply separate_iff.mpr ⟨by decide, ?_⟩
    simp only [known, List.pairwise_cons, List.forall_mem_cons, List.Pairwise.nil, and_true]
    and_intros <;> first | exact commutes_of fun _ _ _ => rfl | exact nofun
  case agrees =>
    intro tree
    unfold ofTree
    congr 1
    funext given
    symm
    apply assemble_of standard.cachingEnabled rfl
    intro caching
    apply assemble_of standard.cacheDirectory rfl
    intro cache
    exact assemble_of standard.baseDirectory rfl fun base => rfl

theorem regular {part : Tree} {options : FileSystemOptions} (decoded : ofTree part = some options) :
    Regular names ["baseDir"] part := by
  obtain ⟨given, fields, taken⟩ := Option.bind_eq_some_iff.mp decoded
  obtain ⟨caching, flag, taken⟩ := Option.bind_eq_some_iff.mp taken
  obtain ⟨cache, text, _⟩ := Option.bind_eq_some_iff.mp taken
  apply regular_of_fields (by decide) fields
  intro name listed bare
  simp only [names, List.mem_cons, List.not_mem_nil, or_false] at listed
  rcases listed with rfl | rfl | rfl
  · cases field_given flag bare
  · cases field_given text bare
  · exact List.mem_cons_self

end FileSystemOptions

namespace Options

def fieldNames : List String :=
  [ "eventLoopPoolSize", "workerPoolSize", "maxEventLoopExecuteTime", "maxWorkerExecuteTime",
    "blockedThreadCheckInterval", "warningExceptionTime", "preferNativeTransport", "metrics",
    "tracing", "fileSystem" ]

def known : List (Known Options) :=
  [ .of "eventLoopPoolSize" (decodes_readWord "usize") fun options size =>
      { options with eventLoopPoolSize := size },
    .of "workerPoolSize" (decodes_readWord "usize") fun options size =>
      { options with workerPoolSize := size },
    .of "maxEventLoopExecuteTime" decodes_readMillis fun options span =>
      { options with maxEventLoopExecuteTime := span },
    .of "maxWorkerExecuteTime" decodes_readMillis.optional fun options span =>
      { options with maxWorkerExecuteTime := span },
    .of "blockedThreadCheckInterval" decodes_readMillis fun options span =>
      { options with blockedThreadCheckInterval := span },
    .of "warningExceptionTime" decodes_readMillis fun options span =>
      { options with warningExceptionTime := span },
    .of "preferNativeTransport" decodes_readFlag fun options prefer =>
      { options with preferNativeTransport := prefer },
    .of "metrics" MetricsOptions.drawn.decodes.optional fun options metrics =>
      { options with metrics },
    .of "tracing" TracingOptions.drawn.decodes.optional fun options tracing =>
      { options with tracing },
    .of "fileSystem" FileSystemOptions.drawn.decodes fun options fileSystem =>
      { options with fileSystem } ]

def ofTree (standard : Options) (tree : Tree) : Option Options := do
  let given ← tree.fields? fieldNames
  let eventLoopPoolSize ←
    Tree.field given "eventLoopPoolSize" Tree.word? standard.eventLoopPoolSize
  let workerPoolSize ← Tree.field given "workerPoolSize" Tree.word? standard.workerPoolSize
  let maxEventLoopExecuteTime ←
    Tree.field given "maxEventLoopExecuteTime" Tree.span? standard.maxEventLoopExecuteTime
  let maxWorkerExecuteTime ←
    Tree.field given "maxWorkerExecuteTime" (Tree.optional Tree.span?)
      standard.maxWorkerExecuteTime
  let blockedThreadCheckInterval ←
    Tree.field given "blockedThreadCheckInterval" Tree.span? standard.blockedThreadCheckInterval
  let warningExceptionTime ←
    Tree.field given "warningExceptionTime" Tree.span? standard.warningExceptionTime
  let preferNativeTransport ←
    Tree.field given "preferNativeTransport" Tree.flag? standard.preferNativeTransport
  let metrics ← Tree.field given "metrics" (Tree.optional MetricsOptions.ofTree) standard.metrics
  let tracing ← Tree.field given "tracing" (Tree.optional TracingOptions.ofTree) standard.tracing
  let fileSystem ←
    Tree.field given "fileSystem" FileSystemOptions.ofTree standard.fileSystem
  return {
    eventLoopPoolSize, workerPoolSize, maxEventLoopExecuteTime, maxWorkerExecuteTime,
    blockedThreadCheckInterval, warningExceptionTime, preferNativeTransport, metrics, tracing,
    fileSystem }

theorem drawn (standard : Options) : Drawn (schema standard) known (ofTree standard) := by
  constructor
  case fields => rfl
  case separate =>
    apply separate_iff.mpr ⟨by decide, ?_⟩
    simp only [known, List.pairwise_cons, List.forall_mem_cons, List.Pairwise.nil, and_true]
    and_intros <;> first | exact commutes_of fun _ _ _ => rfl | exact nofun
  case agrees =>
    intro tree
    unfold ofTree
    congr 1
    funext given
    symm
    apply assemble_of standard.eventLoopPoolSize rfl
    intro loops
    apply assemble_of standard.workerPoolSize rfl
    intro workers
    apply assemble_of standard.maxEventLoopExecuteTime rfl
    intro budget
    apply assemble_of standard.maxWorkerExecuteTime rfl
    intro bound
    apply assemble_of standard.blockedThreadCheckInterval rfl
    intro interval
    apply assemble_of standard.warningExceptionTime rfl
    intro warning
    apply assemble_of standard.preferNativeTransport rfl
    intro native
    apply assemble_of standard.metrics rfl
    intro metrics
    apply assemble_of standard.tracing rfl
    intro tracing
    exact assemble_of standard.fileSystem rfl fun fileSystem => rfl

/-! ### Layouts -/

/-- The fields that are records themselves: their names, the names in them, and those of these that
may be null. -/
def records : List (String × List String × List String) :=
  [ ("metrics", MetricsOptions.names, []),
    ("tracing", TracingOptions.names, ["serviceName"]),
    ("fileSystem", FileSystemOptions.names, ["baseDir"]) ]

/-- Layouts of the record that is given to a field. -/
def RecordRelaid (name : String) (tree other : Tree) : Prop :=
  ∃ names nullable, (name, names, nullable) ∈ records
    ∧ Relaid names (fun _ _ _ => False) tree other

theorem RecordRelaid.relaid {name : String} {names nullable : List String} {tree other : Tree}
    (relaid : RecordRelaid name tree other) (listed : (name, names, nullable) ∈ records) :
    Relaid names (fun _ _ _ => False) tree other := by
  obtain ⟨found, _, also, relaid⟩ := relaid
  simp only [records, List.mem_cons, List.not_mem_nil, or_false, Prod.mk.injEq] at listed also
  have same : found = names := by
    rcases listed with ⟨rfl, rfl, _⟩ | ⟨rfl, rfl, _⟩ | ⟨rfl, rfl, _⟩ <;> simp_all
  exact same ▸ relaid

theorem take_plain {α : Type} {name : String} {read : Reader α} {decode : Tree → Option α}
    {decodes : Decodes read decode} {set : Options → α → Options}
    (plain : name ∉ records.map (·.1)) (tree other : Tree) (relaid : RecordRelaid name tree other) :
    (Known.of name decodes set).take tree = (Known.of name decodes set).take other := by
  obtain ⟨names, nullable, listed, _⟩ := relaid
  exact absurd (List.mem_map_of_mem listed) plain

theorem blind : ∀ field ∈ known, ∀ tree other, RecordRelaid field.field.name tree other →
    field.take tree = field.take other := by
  simp only [known, List.forall_mem_cons]
  refine ⟨take_plain (by decide), take_plain (by decide), take_plain (by decide),
    take_plain (by decide), take_plain (by decide), take_plain (by decide),
    take_plain (by decide), ?metrics, ?tracing, ?fileSystem, by simp⟩
  case metrics =>
    intro tree other within
    have relaid := within.relaid List.mem_cons_self
    have same := MetricsOptions.drawn.relaid_eq (fun _ _ _ _ => False.elim) relaid
    exact congrArg (Option.map _) (relaid.optional_eq same)
  case tracing =>
    intro tree other within
    have relaid := within.relaid (List.mem_cons_of_mem _ List.mem_cons_self)
    have same := TracingOptions.drawn.relaid_eq (fun _ _ _ _ => False.elim) relaid
    exact congrArg (Option.map _) (relaid.optional_eq same)
  case fileSystem =>
    intro tree other within
    have relaid :=
      within.relaid (List.mem_cons_of_mem _ (List.mem_cons_of_mem _ List.mem_cons_self))
    have same := FileSystemOptions.drawn.relaid_eq (fun _ _ _ _ => False.elim) relaid
    exact congrArg (Option.map _) same

theorem ofTree_relaid {standard : Options} {tree other : Tree}
    (relaid : Relaid fieldNames RecordRelaid tree other) :
    ofTree standard tree = ofTree standard other :=
  (drawn standard).relaid_eq blind relaid

/-- What the options are told by what their record is given. A field that is given nothing is
standard, whatever the others are given. -/
structure Decided (standard : Options) (given : String → Option Tree) (options : Options) : Prop where
  eventLoopPoolSize : Tree.field given "eventLoopPoolSize" Tree.word?
    standard.eventLoopPoolSize = some options.eventLoopPoolSize
  workerPoolSize : Tree.field given "workerPoolSize" Tree.word?
    standard.workerPoolSize = some options.workerPoolSize
  maxEventLoopExecuteTime : Tree.field given "maxEventLoopExecuteTime" Tree.span?
    standard.maxEventLoopExecuteTime = some options.maxEventLoopExecuteTime
  maxWorkerExecuteTime : Tree.field given "maxWorkerExecuteTime" (Tree.optional Tree.span?)
    standard.maxWorkerExecuteTime = some options.maxWorkerExecuteTime
  blockedThreadCheckInterval : Tree.field given "blockedThreadCheckInterval" Tree.span?
    standard.blockedThreadCheckInterval = some options.blockedThreadCheckInterval
  warningExceptionTime : Tree.field given "warningExceptionTime" Tree.span?
    standard.warningExceptionTime = some options.warningExceptionTime
  preferNativeTransport : Tree.field given "preferNativeTransport" Tree.flag?
    standard.preferNativeTransport = some options.preferNativeTransport
  metrics : Tree.field given "metrics" (Tree.optional MetricsOptions.ofTree)
    standard.metrics = some options.metrics
  tracing : Tree.field given "tracing" (Tree.optional TracingOptions.ofTree)
    standard.tracing = some options.tracing
  fileSystem : Tree.field given "fileSystem" FileSystemOptions.ofTree
    standard.fileSystem = some options.fileSystem

theorem ofTree_eq_some_iff {standard options : Options} {tree : Tree} :
    ofTree standard tree = some options
      ↔ ∃ given, tree.fields? fieldNames = some given ∧ Decided standard given options := by
  unfold ofTree
  simp only [bind, pure, Option.bind_eq_some_iff]
  constructor
  · rintro ⟨given, fields, _, loops, _, workers, _, budget, _, bound, _, interval, _, warning, _,
      native, _, metrics, _, tracing, _, fileSystem, same⟩
    cases same
    exact ⟨given, fields, loops, workers, budget, bound, interval, warning, native, metrics,
      tracing, fileSystem⟩
  · rintro ⟨given, fields, decided⟩
    exact ⟨given, fields, _, decided.eventLoopPoolSize, _, decided.workerPoolSize, _,
      decided.maxEventLoopExecuteTime, _, decided.maxWorkerExecuteTime, _,
      decided.blockedThreadCheckInterval, _, decided.warningExceptionTime, _,
      decided.preferNativeTransport, _, decided.metrics, _, decided.tracing, _,
      decided.fileSystem, rfl⟩

def nullable : List String := ["maxWorkerExecuteTime", "metrics", "tracing"]

inductive Part (tree : Tree) : List String → List String → Tree → Prop where
  | whole : Part tree fieldNames nullable tree
  | inner {name : String} {names nullable : List String} {part : Tree} :
      (name, names, nullable) ∈ records → tree.Gives fieldNames name part →
        Part tree names nullable part

theorem Decided.nullable_of_null {standard options : Options} {given : String → Option Tree}
    (decided : Decided standard given options) {name : String} (listed : name ∈ fieldNames)
    (bare : given name = some .null) : name ∈ nullable := by
  simp only [fieldNames, List.mem_cons, List.not_mem_nil, or_false] at listed
  rcases listed with rfl | rfl | rfl | rfl | rfl | rfl | rfl | rfl | rfl | rfl
  · cases field_given decided.eventLoopPoolSize bare
  · cases field_given decided.workerPoolSize bare
  · cases field_given decided.maxEventLoopExecuteTime bare
  · simp [nullable]
  · cases field_given decided.blockedThreadCheckInterval bare
  · cases field_given decided.warningExceptionTime bare
  · cases field_given decided.preferNativeTransport bare
  · simp [nullable]
  · simp [nullable]
  · cases field_given decided.fileSystem bare

theorem regular_of_part {standard options : Options} {tree part : Tree}
    {names nullable : List String} (decoded : ofTree standard tree = some options)
    (inside : Part tree names nullable part) : Regular names nullable part := by
  obtain ⟨given, fields, decided⟩ := ofTree_eq_some_iff.mp decoded
  cases inside with
  | whole =>
      exact regular_of_fields (by decide) fields fun name listed => decided.nullable_of_null listed
  | inner listed gives =>
      simp only [records, List.mem_cons, List.not_mem_nil, or_false, Prod.mk.injEq] at listed
      rcases listed with ⟨rfl, rfl, rfl⟩ | ⟨rfl, rfl, rfl⟩ | ⟨rfl, rfl, rfl⟩
      · have here := gives.given (by decide) (by decide) fields
        exact regular_optional (field_given decided.metrics here) fun _ => MetricsOptions.regular
      · have here := gives.given (by decide) (by decide) fields
        exact regular_optional (field_given decided.tracing here) fun _ => TracingOptions.regular
      · have here := gives.given (by decide) (by decide) fields
        exact FileSystemOptions.regular (field_given decided.fileSystem here)

/-! ### Documents -/

theorem parse_eq_ok_iff {host : Host} {document : String} {options : Options} :
    parse host document = .ok options
      ↔ ∃ tree, Document document.toList tree
          ∧ ofTree (standard host.cores) tree = some options := by
  have decodes := (drawn (standard host.cores)).decodes
  constructor
  · intro parsed
    have taken : read host.cores document = .ok options := by
      unfold parse at parsed
      cases reads : read host.cores document with
      | error fault => simp [reads, Except.mapError] at parsed
      | ok found => simpa [reads, Except.mapError] using parsed
    obtain ⟨⟨found, rest⟩, reads, closes⟩ := bind_eq_ok taken
    dsimp only at closes
    split at closes
    · next ends =>
        cases closes
        obtain ⟨tree, spans, value⟩ := decodes.sound reads (follows_of_head (by simp [ends]))
        exact ⟨tree, ⟨rest, spans, ends⟩, value⟩
    · cases closes
  · rintro ⟨tree, ⟨rest, spans, ends⟩, value⟩
    have reads := decodes.complete spans value
    simp [parse, read, readDocument, reads, ends, bind, Except.bind, Except.mapError]

theorem parse_written {host : Host} {document : String} {tree : Tree} {options : Options}
    (written : Document document.toList tree) :
    parse host document = .ok options ↔ ofTree (standard host.cores) tree = some options := by
  rw [parse_eq_ok_iff]
  constructor
  · rintro ⟨other, also, value⟩
    exact written.tree_unique also ▸ value
  · intro value
    exact ⟨tree, written, value⟩

/-- The options of a document do not depend on its layout. An accepted text is written like one tree;
each field of the options is standard or decided by what this tree gives to it alone; every text
written like the tree laid out in another way is accepted with the same options. No object in the
tree that is a record names a field twice, no array has more items than the record has fields, and
null is given only where it may be; as the budget of a worker it means none at all. -/
theorem parse_whatever_layout (host : Host) :
    (∀ document options, parse host document = .ok options →
        ∃ tree, Document document.toList tree ∧ ∀ other, Document document.toList other → other = tree)
      ∧ ∀ document tree, Document document.toList tree →
        (∀ options, parse host document = .ok options
            ↔ ∃ given, tree.fields? fieldNames = some given
                ∧ Decided (standard host.cores) given options)
        ∧ (∀ other laid options, Document other.toList laid →
            Relaid fieldNames RecordRelaid tree laid →
              parse host document = .ok options → parse host other = .ok options)
        ∧ ∀ options, parse host document = .ok options →
          (∀ names nullable part, Part tree names nullable part → Regular names nullable part)
          ∧ (tree.Gives fieldNames "maxWorkerExecuteTime" .null →
              options.maxWorkerExecuteTime = none) := by
  constructor
  · intro document options parsed
    obtain ⟨tree, written, _⟩ := parse_eq_ok_iff.mp parsed
    exact ⟨tree, written, fun other also => also.tree_unique written⟩
  · intro document tree written
    and_intros
    · intro options
      rw [parse_written written, ofTree_eq_some_iff]
    · intro other laid options also relaid parsed
      rw [parse_written written] at parsed
      rw [parse_written also, ← ofTree_relaid relaid]
      exact parsed
    · intro options parsed
      have decoded := (parse_written written).mp parsed
      constructor
      · intro names nullable part inside
        exact regular_of_part decoded inside
      · intro gives
        obtain ⟨given, fields, decided⟩ := ofTree_eq_some_iff.mp decoded
        have bare := gives.given (by decide) (by decide) fields
        have unbounded := field_given decided.maxWorkerExecuteTime bare
        exact (Option.some.inj unbounded).symm

end Options

end Reactor
