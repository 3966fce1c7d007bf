import Mathlib.Logic.ExistsUnique
import Reactor.CommandLine

/-!
The arguments that the program accepts, and what comes of the others. A list of arguments is read
in one way only: as items one after the other, up to its end or to the first argument that begins
no item. In the first case the program goes on to load options and to build a runtime; in the second
that argument decides alone how it ends, before it has done anything.
-/

namespace Reactor

namespace Command

inductive Item where
  | native
  | options (file : String)
deriving DecidableEq

/-- The arguments that an item is written as. The operand may be any text. -/
def Item.words : Item → List String
  | .native => ["--native"]
  | .options file => ["--options", file]

def Item.file? : Item → Option String
  | .native => none
  | .options file => some file

def spelled (items : List Item) : List String := items.flatMap Item.words

/-- The operand of the last item that has one. -/
def lastFile (items : List Item) : Option String := (items.filterMap Item.file?).getLast?

def asksNative (items : List Item) : Bool := decide (Item.native ∈ items)

/-- Where an item could stand, arguments that begin with none, and what they come to. -/
inductive Stops : List String → Command → Prop where
  | help {word : String} (rest : List String) (asked : word = "-h" ∨ word = "--help") :
    Stops (word :: rest) .help
  | version {word : String} (rest : List String) (asked : word = "-v" ∨ word = "--version") :
    Stops (word :: rest) .version
  | bare : Stops ["--options"] (.misuse "'--options' requires a file argument")
  | unknown {word : String} (rest : List String)
    (strange : word ∉ ["-h", "--help", "-v", "--version", "--native", "--options"]) :
    Stops (word :: rest) (.misuse ("unrecognized argument '" ++ word ++ "'"))

variable {items : List Item} {rest : List String} {command : Command}

theorem spelled_cons (item : Item) (items : List Item) :
    spelled (item :: items) = item.words ++ spelled items := List.flatMap_cons

theorem lastFile_cons (item : Item) (items : List Item) :
    lastFile (item :: items) = (lastFile items).or item.file? := by
  cases item with
  | native => simp [lastFile, Item.file?]
  | options file => simp [lastFile, Item.file?, List.getLast?_cons]

theorem asksNative_cons (item : Item) (items : List Item) :
    asksNative (item :: items) = (decide (item = .native) || asksNative items) := by
  simp [asksNative, eq_comm]

theorem scan_words (item : Item) (rest : List String) (file : Option String) (native : Bool) :
    scan file native (item.words ++ rest)
      = scan (item.file?.or file) (native || decide (item = .native)) rest := by
  cases item with
  | native => simp [Item.words, Item.file?, scan]
  | options path => simp [Item.words, Item.file?, scan]

theorem scan_spelled (items : List Item) (rest : List String) (file : Option String)
    (native : Bool) :
    scan file native (spelled items ++ rest)
      = scan ((lastFile items).or file) (native || asksNative items) rest := by
  induction items generalizing file native with
  | nil => simp [spelled, lastFile, asksNative]
  | cons item items ih =>
      rw [spelled_cons, List.append_assoc, scan_words, ih, lastFile_cons, asksNative_cons,
        Option.or_assoc, Bool.or_assoc]

theorem scan_stops (stops : Stops rest command) (file : Option String) (native : Bool) :
    scan file native rest = command := by
  cases stops with
  | help rest asked => rcases asked with rfl | rfl <;> simp [scan]
  | version rest asked => rcases asked with rfl | rfl <;> simp [scan]
  | bare => simp [scan]
  | unknown rest strange =>
      simp only [List.mem_cons, List.not_mem_nil, or_false, not_or] at strange
      simp [scan, strange]

theorem ofArgs_spelled (items : List Item) :
    ofArgs (spelled items) = .run (lastFile items) (asksNative items) := by
  have read := scan_spelled items [] none false
  simpa [ofArgs, scan] using read

example : ofArgs ["--options", "--native", "--native"] = .run (some "--native") true := by decide

theorem ofArgs_stops (items : List Item) (stops : Stops rest command) :
    ofArgs (spelled items ++ rest) = command := by
  unfold ofArgs
  rw [scan_spelled, scan_stops stops]

/-! ### One reading for each list of arguments -/

/-- What is left behind the items: nothing, or what begins with none. -/
def Ends (rest : List String) : Prop := rest = [] ∨ ∃ command, Stops rest command

theorem Stops.begins_none {word : String} (stops : Stops (word :: rest) command) :
    word ≠ "--native" ∧ (word = "--options" → rest = []) := by
  cases stops with
  | help rest asked => rcases asked with rfl | rfl <;> simp
  | version rest asked => rcases asked with rfl | rfl <;> simp
  | bare => simp
  | unknown rest strange =>
      simp only [List.mem_cons, not_or] at strange
      obtain ⟨_, _, _, _, native, options, _⟩ := strange
      exact ⟨native, fun same => absurd same options⟩

theorem not_ends_words (item : Item) (rest : List String) : ¬ Ends (item.words ++ rest) := by
  rintro (bare | ⟨command, stops⟩)
  · cases item <;> cases bare
  · cases item with
    | native => exact stops.begins_none.1 rfl
    | options file => cases stops.begins_none.2 rfl

theorem words_append_inj {item other : Item} {left : List String}
    (same : item.words ++ rest = other.words ++ left) : item = other ∧ rest = left := by
  cases item with
  | native =>
      cases other with
      | native => exact ⟨rfl, List.tail_eq_of_cons_eq same⟩
      | options file => exact absurd (List.head_eq_of_cons_eq same) (by decide)
  | options file =>
      cases other with
      | native => exact absurd (List.head_eq_of_cons_eq same) (by decide)
      | options other =>
          have operands := List.tail_eq_of_cons_eq same
          rw [List.head_eq_of_cons_eq operands]
          exact ⟨rfl, List.tail_eq_of_cons_eq operands⟩

theorem exists_reading (arguments : List String) :
    ∃ items rest, arguments = spelled items ++ rest ∧ Ends rest := by
  -- one case for each line of the scan, of which only the items lead on
  fun_induction scan none false arguments with
  | case1 => exact ⟨[], [], rfl, Or.inl rfl⟩
  | case2 _ _ rest => exact ⟨[], _, rfl, Or.inr ⟨_, .help rest (Or.inl rfl)⟩⟩
  | case3 _ _ rest => exact ⟨[], _, rfl, Or.inr ⟨_, .help rest (Or.inr rfl)⟩⟩
  | case4 _ _ rest => exact ⟨[], _, rfl, Or.inr ⟨_, .version rest (Or.inl rfl)⟩⟩
  | case5 _ _ rest => exact ⟨[], _, rfl, Or.inr ⟨_, .version rest (Or.inr rfl)⟩⟩
  | case6 _ _ rest ih =>
      obtain ⟨items, left, split, ends⟩ := ih
      exact ⟨.native :: items, left, by rw [split]; rfl, ends⟩
  | case7 _ _ path rest ih =>
      obtain ⟨items, left, split, ends⟩ := ih
      exact ⟨.options path :: items, left, by rw [split]; rfl, ends⟩
  | case8 => exact ⟨[], _, rfl, Or.inr ⟨_, .bare⟩⟩
  | case9 _ _ word rest shortHelp help shortVersion version native operand bare =>
      have options : word ≠ "--options" := by
        intro same
        cases rest with
        | nil => exact bare same rfl
        | cons path rest => exact operand path rest same rfl
      refine ⟨[], word :: rest, rfl, Or.inr ⟨_, .unknown rest ?_⟩⟩
      simp only [List.mem_cons, List.not_mem_nil, or_false, not_or]
      exact ⟨shortHelp, help, shortVersion, version, native, options⟩

theorem spelled_append_inj {others : List Item} {left : List String} (ends : Ends rest)
    (ends' : Ends left) (same : spelled items ++ rest = spelled others ++ left) :
    items = others ∧ rest = left := by
  induction items generalizing others with
  | nil =>
      cases others with
      | nil => exact ⟨rfl, same⟩
      | cons item others =>
          have split : rest = item.words ++ (spelled others ++ left) := by
            rwa [spelled_cons, List.append_assoc] at same
          rw [split] at ends
          exact absurd ends (not_ends_words item _)
  | cons item items ih =>
      rw [spelled_cons, List.append_assoc] at same
      cases others with
      | nil =>
          have split : left = item.words ++ (spelled items ++ rest) := same.symm
          rw [split] at ends'
          exact absurd ends' (not_ends_words item _)
      | cons other others =>
          rw [spelled_cons, List.append_assoc] at same
          obtain ⟨rfl, tails⟩ := words_append_inj same
          obtain ⟨rfl, rests⟩ := ih tails
          exact ⟨rfl, rests⟩

end Command

namespace Program

open Command

variable {world : World}

/-! ### What a run does -/

/-- Options with the native transport preferred if it was before or is asked for. -/
def preferring (native : Bool) (options : Options) : Options :=
  { options with preferNativeTransport := options.preferNativeTransport || native }

def assembled (world : World) (options : Options) : Assembly :=
  { Assembly.create world.host with options }

def counting : Registry := { Registry.empty with providers := [.counters] }

/-- What becomes of a runtime that is built with those options and the counters. -/
def built (world : World) (options : Options) : Except (Halt BootError) Engine :=
  ((assembled world options).build world.host world.files counting world.took).value.1

theorem preferring_eq (native : Bool) :
    (fun options : Options =>
      if native then { options with preferNativeTransport := true } else options)
        = preferring native := by
  funext options
  cases native <;> simp [preferring]

theorem value_chooseOptions_none (native : Bool) :
    (chooseOptions world none native).value
      = .ok (preferring native
          { Options.standard world.host.cores with metrics := some ⟨true⟩ }) := by
  simp only [chooseOptions, Doing.value_bind, Doing.value_pure, preferring_eq]
  rfl

theorem value_chooseOptions_some (world : World) (path : String) (native : Bool) :
    (chooseOptions world (some path) native).value
      = (Options.load world.host world.files path).map (preferring native) := by
  simp [chooseOptions, preferring_eq]

theorem effects_chooseOptions (optionsFile : Option String) (native : Bool) :
    (chooseOptions world optionsFile native).effects = optionsFile.toList.map .readFile := by
  cases optionsFile <;> simp [chooseOptions]

theorem value_runWith (options : Options) :
    (runWith world options).value
      = match built world options with
        | .error halt => .error (halt.mapError fun error => ⟨error.message, error.causes⟩)
        | .ok engine => (exercise engine).value := by
  unfold runWith
  simp only [Doing.value_bind, Doing.value_act]
  change (match built world options with | .error halt => _ | .ok engine => _ : Doing _).value = _
  cases built world options <;> rfl

theorem effects_runWith (options : Options) :
    (runWith world options).effects
      = [.register .empty .counters, .build (assembled world options) counting] := by
  unfold runWith
  simp only [Doing.effects_bind, Doing.effects_act, Doing.value_act]
  change _ ++ (_ ++ (match built world options with | .error halt => _ | .ok engine => _ :
    Doing _).effects) = _
  cases built world options <;> rfl

/-- How a run goes on that has come to its options, after some effects. -/
structure RunsOn (world : World) (options : Options) (earlier : List Effect)
    (doing : Doing Outcome) : Prop where
  effects : doing.effects = earlier
    ++ [.register .empty .counters, .build (assembled world options) counting]
  unbuilt : ∀ halt, built world options = .error halt →
    doing.value = .ran (.error (halt.mapError fun error => ⟨error.message, error.causes⟩))
  used : ∀ engine, built world options = .ok engine →
    doing.value = .ran ((exercise engine).value.map fun _ => ())

/-- How a run goes on whose arguments are items. -/
structure GoesOn (world : World) (items : List Item) (doing : Doing Outcome) : Prop where
  ran : ∃ result, doing.value = .ran result
  unfiled : lastFile items = none →
    RunsOn world
      (preferring (asksNative items)
        { Options.standard world.host.cores with metrics := some ⟨true⟩ })
      [] doing
  filed : ∀ path document options, lastFile items = some path →
    world.files.readText world.host.workingPlace path = .ok document →
    Options.parse world.host document = .ok options →
    RunsOn world (preferring (asksNative items) options) [.readFile path] doing
  unreadable : ∀ path reason, lastFile items = some path →
    world.files.readText world.host.workingPlace path = .error reason →
    doing.effects = [.readFile path]
      ∧ doing.value = .ran (.error (.failed (OptionsFault.unreadable path reason).failure))
  unparsable : ∀ path document fault, lastFile items = some path →
    world.files.readText world.host.workingPlace path = .ok document →
    Options.parse world.host document = .error fault →
    doing.effects = [.readFile path] ∧ doing.value = .ran (.error (.failed fault.failure))

variable {optionsFile : Option String} {native : Bool}

theorem start_chosen {options : Options}
    (chosen : (chooseOptions world optionsFile native).value = .ok options) :
    RunsOn world options (optionsFile.toList.map .readFile)
      (do return .ran (← start world optionsFile native)) := by
  have value : (start world optionsFile native).value
      = (runWith world options).value.map fun _ => () := by
    unfold start
    simp only [Doing.value_bind, chosen]
    cases (runWith world options).value with
    | error halt => rfl
    | ok engine => by_cases metered : engine.metrics.isSome = true <;> simp [metered, Except.map]
  have effects : (start world optionsFile native).effects
      = optionsFile.toList.map .readFile ++ (runWith world options).effects := by
    unfold start
    simp only [Doing.effects_bind, Doing.effects_lift, effects_chooseOptions, chosen]
    cases (runWith world options).value with
    | error halt => simp
    | ok engine => by_cases metered : engine.metrics.isSome = true <;> simp [metered]
  constructor
  · simp [effects, effects_runWith]
  · intro halt unbuilt
    simp [value, value_runWith, unbuilt, Except.map]
  · intro engine used
    simp [value, value_runWith, used]

theorem start_refused {fault : OptionsFault}
    (refused : (chooseOptions world optionsFile native).value = .error fault) :
    let doing : Doing Outcome := do return .ran (← start world optionsFile native)
    doing.effects = optionsFile.toList.map .readFile
      ∧ doing.value = .ran (.error (.failed fault.failure)) := by
  unfold start
  simp [effects_chooseOptions, refused]

/-- How a run ends whose arguments come to a command before they end. -/
structure EndsAtOnce (command : Command) (doing : Doing Outcome) (exit : Exit) : Prop where
  effects : doing.effects = []
  entries : doing.entries = []
  unbegun : ∀ result, doing.value ≠ .ran result
  help : command = .help → exit = ⟨0, helpLines, []⟩
  version : command = .version → exit = ⟨0, ["strand " ++ version], []⟩
  misused : ∀ message, command = .misuse message → exit = misuse message ∧ exit.code = 1

theorem goesOn_of_spelled (items : List Item) (world : World) :
    GoesOn world items (perform world (spelled items)) := by
  have performs : perform world (spelled items)
      = do return .ran (← start world (lastFile items) (asksNative items)) := by
    unfold perform
    rw [ofArgs_spelled]
  rw [performs]
  constructor
  case ran => exact ⟨_, rfl⟩
  case unfiled =>
    intro file
    rw [file]
    exact start_chosen (value_chooseOptions_none _)
  case filed =>
    intro path document options file found parsed
    have chosen := value_chooseOptions_some world path (asksNative items)
    rw [Options.load_of_ok found, parsed] at chosen
    rw [file]
    exact start_chosen chosen
  case unreadable =>
    intro path reason file lost
    have chosen := value_chooseOptions_some world path (asksNative items)
    rw [Options.load_of_error lost] at chosen
    rw [file]
    exact start_refused chosen
  case unparsable =>
    intro path document fault file found refused
    have chosen := value_chooseOptions_some world path (asksNative items)
    rw [Options.load_of_ok found, refused] at chosen
    rw [file]
    exact start_refused chosen

theorem endsAtOnce_of_stops (items : List Item) {rest : List String} {command : Command}
    (stops : Stops rest command) (host : Host) (files : FileTree) (filter : LogFilter)
    (took : Span) :
    EndsAtOnce command (perform ⟨host, files, took⟩ (spelled items ++ rest))
      (run host files filter took (spelled items ++ rest)) := by
  have read := ofArgs_stops items stops
  unfold run perform
  rw [read]
  cases stops with
  | help rest asked => exact ⟨rfl, rfl, nofun, fun _ => rfl, nofun, nofun⟩
  | version rest asked => exact ⟨rfl, rfl, nofun, nofun, fun _ => rfl, nofun⟩
  | bare =>
      refine ⟨rfl, rfl, nofun, nofun, nofun, ?_⟩
      rintro message same
      cases same
      exact ⟨rfl, rfl⟩
  | unknown rest strange =>
      refine ⟨rfl, rfl, nofun, nofun, nofun, ?_⟩
      rintro message same
      cases same
      exact ⟨rfl, rfl⟩

/-- Every list of arguments has one reading as items and what ends them. The run goes on exactly if
nothing ends them but the list: on what the file holds that the last operand names, or else on the
standard options with metrics, with no more changed than that the native transport is preferred if
an item asks for it. Otherwise what stands where an item could begin decides how the run ends,
whatever comes after; no file has been read then, no provider registered and no runtime built. -/
theorem run_reads_arguments (host : Host) (files : FileTree) (filter : LogFilter) (took : Span)
    (arguments : List String) :
    let world : World := ⟨host, files, took⟩
    let doing := perform world arguments
    let exit := run host files filter took arguments
    (∃! reading : List Item × List String,
        arguments = spelled reading.1 ++ reading.2 ∧ Ends reading.2)
      ∧ ((∃ result, doing.value = .ran result) ↔ ∃ items, arguments = spelled items)
      ∧ (∀ items, arguments = spelled items → GoesOn world items doing)
      ∧ (∀ items rest command, arguments = spelled items ++ rest → Stops rest command →
        EndsAtOnce command doing exit) := by
  intro world doing exit
  have goes (items : List Item) (spells : arguments = spelled items) :
      GoesOn world items doing := by
    subst spells
    exact goesOn_of_spelled items world
  have declines (items : List Item) (rest : List String) (command : Command)
      (split : arguments = spelled items ++ rest) (stops : Stops rest command) :
      EndsAtOnce command doing exit := by
    subst split
    exact endsAtOnce_of_stops items stops host files filter took
  obtain ⟨items, rest, split, ends⟩ := exists_reading arguments
  refine ⟨⟨(items, rest), ⟨split, ends⟩, ?_⟩, ?_, goes, declines⟩
  · rintro ⟨others, left⟩ ⟨again, ends'⟩
    obtain ⟨same, tails⟩ := spelled_append_inj ends' ends (again.symm.trans split)
    exact Prod.ext same tails
  · constructor
    · rintro ⟨result, ran⟩
      rcases ends with bare | ⟨command, stops⟩
      · exact ⟨items, by rw [split, bare, List.append_nil]⟩
      · exact absurd ran ((declines items rest command split stops).unbegun result)
    · rintro ⟨items, spells⟩
      exact (goes items spells).ran

end Program

end Reactor
