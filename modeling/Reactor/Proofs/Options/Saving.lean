import Mathlib.Tactic.Tauto
import Reactor.CommandLine
import Reactor.Proofs.Json.Records

/-!
Saving options and loading them again. A document keeps every field, and of each span the whole
milliseconds as 64 bits hold them; so loading what was saved gives the options back exactly if
their spans are such counts, as those of loaded options always are. Options that a runtime can
start with stay so, unless the event-loop budget or the check interval is saved as no time at all.
-/

namespace Reactor

open Json

namespace Span

/-- What a document keeps of a span. -/
def saved (span : Span) : Span := .ofMillis (span.nanos / 1000000 % UInt64.size)

/-- Whole milliseconds, as 64 bits hold them. -/
def IsWhole (span : Span) : Prop := ∃ count < UInt64.size, span = .ofMillis count

theorem saved_isWhole (span : Span) : span.saved.IsWhole :=
  ⟨span.nanos / 1000000 % UInt64.size, Nat.mod_lt _ (by decide), rfl⟩

theorem saved_eq_iff {span : Span} : span.saved = span ↔ span.IsWhole := by
  constructor
  · intro same
    exact same ▸ span.saved_isWhole
  · rintro ⟨count, bound, rfl⟩
    change ofMillis (count * 1000000 / 1000000 % UInt64.size) = ofMillis count
    rw [Nat.mul_div_cancel count (by decide), Nat.mod_eq_of_lt bound]

theorem ofMillis_millisWord (span : Span) : .ofMillis span.millisWord.toNat = span.saved := by
  simp [saved, millisWord, millis]

theorem isZero_saved (span : Span) :
    span.saved.isZero = decide (span.nanos / 1000000 % UInt64.size = 0) := by
  change (span.nanos / 1000000 % UInt64.size * 1000000 == 0) = _
  rw [Bool.eq_iff_iff, beq_iff_eq, decide_eq_true_eq]
  omega

end Span

theorem takes_readMillis (span : Span) :
    Takes readMillis (Options.spanValue span).chars span.saved := by
  intro rest ends
  have taken := takes_readWord "u64" span.millisWord rest ends
  change (readWord "u64" ((Value.whole span.millisWord.toNat).chars ++ rest)).map _ = _
  rw [taken, ← Span.ofMillis_millisWord]
  rfl

theorem opens_number (number : Nat) : Opens (Value.whole number).chars := by
  rw [chars_whole]
  cases digits : Nat.toDigits 10 number with
  | nil => exact absurd digits Nat.toDigits_ne_nil
  | cons digit others =>
      have first : isDigit digit = true := isDigit_of_mem_toDigits (digits ▸ List.mem_cons_self)
      refine ⟨digit, others, rfl, isBlank_of_isDigit first, ?_⟩
      rintro rfl
      contradiction

theorem opens_text (text : String) : Opens (Value.text text).chars :=
  ⟨'"', _, rfl, rfl, by decide⟩

theorem opens_object (members : List (String × Value)) : Opens (Value.object members).chars := by
  refine ⟨'\x7b', commaSeparated (Value.memberChars members) ++ ['\x7d'], ?_, rfl, by decide⟩
  simp [Value.chars]

theorem takes_optional {α β : Type} {read : Reader β} {write : α → Value} {kept : α → β}
    (takes : ∀ value, Takes read (write value).chars (kept value))
    (opens : ∀ value, Opens (write value).chars) (value : Option α) :
    Takes (readOptional read) (Options.optionalValue write value).chars (value.map kept) := by
  cases value with
  | none => exact takes_none read
  | some value => exact (takes value).present (opens value)

namespace Options

def saved (options : Options) : Options :=
  { options with
    maxEventLoopExecuteTime := options.maxEventLoopExecuteTime.saved
    maxWorkerExecuteTime := options.maxWorkerExecuteTime.map Span.saved
    blockedThreadCheckInterval := options.blockedThreadCheckInterval.saved
    warningExceptionTime := options.warningExceptionTime.saved }

end Options

theorem takes_metrics (metrics : MetricsOptions) :
    Takes (readRecord MetricsOptions.schema)
      (Value.object [("enabled", .flag metrics.enabled)]).chars metrics :=
  takes_readRecord (.cons rfl List.not_mem_nil ((takes_readFlag _).field) .nil)

theorem takes_tracing (tracing : TracingOptions) :
    Takes (readRecord TracingOptions.schema)
      (Value.object
        [("serviceName", Options.optionalValue .text tracing.serviceName)]).chars tracing := by
  have name := takes_optional (takes_readString "a string") opens_text tracing.serviceName
  rw [Option.map_id'] at name
  exact takes_readRecord (.cons rfl List.not_mem_nil name.field .nil)

theorem takes_fileSystem (fileSystem : FileSystemOptions) :
    Takes (readRecord FileSystemOptions.schema) (Options.fileSystemValue fileSystem).chars
      fileSystem := by
  have caching := takes_readFlag fileSystem.cachingEnabled
  have cache := takes_readString "path string" fileSystem.cacheDirectory
  have base := takes_optional (takes_readString "path string") opens_text fileSystem.baseDirectory
  rw [Option.map_id'] at base
  exact takes_readRecord
    (.cons rfl (by decide) caching.field
      (.cons rfl (by decide) cache.field (.cons rfl (by decide) base.field .nil)))

namespace Options

theorem readDocument_document (initial options : Options) :
    readDocument (schema initial) options.document.toList = .ok options.saved := by
  have loops := takes_readWord "usize" options.eventLoopPoolSize
  have workers := takes_readWord "usize" options.workerPoolSize
  have loopTime := takes_readMillis options.maxEventLoopExecuteTime
  have workerTime := takes_optional takes_readMillis (fun span => opens_number _)
    options.maxWorkerExecuteTime
  have interval := takes_readMillis options.blockedThreadCheckInterval
  have warning := takes_readMillis options.warningExceptionTime
  have native := takes_readFlag options.preferNativeTransport
  have metrics := takes_optional takes_metrics (fun _ => opens_object _) options.metrics
  have tracing := takes_optional takes_tracing (fun _ => opens_object _) options.tracing
  have fileSystem := takes_fileSystem options.fileSystem
  rw [Option.map_id'] at metrics tracing
  change readDocument _ (String.toList (String.ofList (Value.chars (.object _)))) = _
  rw [String.toList_ofList]
  exact readDocument_chars
    (.cons rfl (by decide) loops.field (.cons rfl (by decide) workers.field
      (.cons rfl (by decide) loopTime.field (.cons rfl (by decide) workerTime.field
        (.cons rfl (by decide) interval.field (.cons rfl (by decide) warning.field
          (.cons rfl (by decide) native.field (.cons rfl (by decide) metrics.field
            (.cons rfl (by decide) tracing.field (.cons rfl (by decide) fileSystem.field
              .nil))))))))))

theorem parse_document (host : Host) (options : Options) :
    parse host options.document = .ok options.saved := by
  simp [parse, read, readDocument_document, Except.mapError]

def spans (options : Options) : List Span :=
  options.maxEventLoopExecuteTime :: options.blockedThreadCheckInterval
    :: options.warningExceptionTime :: options.maxWorkerExecuteTime.toList

/-- Every span is one that a document can hold. -/
def IsWhole (options : Options) : Prop := ∀ span ∈ options.spans, span.IsWhole

theorem saved_eq_iff {options : Options} : options.saved = options ↔ options.IsWhole := by
  obtain ⟨loops, workers, loopTime, workerTime, interval, warning, native, metrics, tracing,
    fileSystem⟩ := options
  cases workerTime with
  | none => simp [saved, IsWhole, spans, Span.saved_eq_iff]
  | some _ =>
      simp [saved, IsWhole, spans, Span.saved_eq_iff]
      tauto

theorem isWhole_standard (cores : Nat) : (standard cores).IsWhole := by
  intro span present
  simp only [spans, standard, Option.toList_some, List.mem_cons, List.not_mem_nil, or_false]
    at present
  rcases present with rfl | rfl | rfl | rfl
  · exact ⟨2000, by decide, rfl⟩
  · exact ⟨1000, by decide, rfl⟩
  · exact ⟨5000, by decide, rfl⟩
  · exact ⟨60000, by decide, rfl⟩

end Options

theorem isWhole_of_readMillis {source rest : Source} {span : Span}
    (reads : readMillis source = .ok (span, rest)) : span.IsWhole := by
  obtain ⟨⟨count, left⟩, _, same⟩ := map_eq_ok reads
  cases same
  exact ⟨count.toNat, count.toNat_lt, rfl⟩

theorem eq_none_or_of_readOptional {α : Type} {read : Reader α} {source rest : Source}
    {value : Option α} (reads : readOptional read source = .ok (value, rest)) :
    value = none ∨ ∃ before found, value = some found ∧ read before = .ok (found, rest) := by
  unfold readOptional at reads
  split at reads
  · obtain ⟨left, _, same⟩ := map_eq_ok reads
    cases same
    exact Or.inl rfl
  · obtain ⟨⟨found, left⟩, read, same⟩ := map_eq_ok reads
    cases same
    exact Or.inr ⟨_, found, rfl, read⟩

namespace Options

theorem isWhole_iff {options : Options} :
    options.IsWhole ↔ options.maxEventLoopExecuteTime.IsWhole
      ∧ options.blockedThreadCheckInterval.IsWhole ∧ options.warningExceptionTime.IsWhole
      ∧ ∀ span ∈ options.maxWorkerExecuteTime, span.IsWhole := by
  simp [IsWhole, spans]

theorem keeps_isWhole (initial : Options) :
    ∀ field ∈ (schema initial).fields, field.Keeps IsWhole := by
  intro field present
  simp only [schema, List.mem_cons, List.not_mem_nil, or_false] at present
  rcases present with rfl | rfl | rfl | rfl | rfl | rfl | rfl | rfl | rfl | rfl <;>
    apply Field.keeps_of <;> intro source value rest reads record whole
  case inr.inr.inl =>
    have read := isWhole_of_readMillis reads
    rw [isWhole_iff] at whole ⊢
    exact ⟨read, whole.2⟩
  case inr.inr.inr.inl =>
    rw [isWhole_iff] at whole ⊢
    refine ⟨whole.1, whole.2.1, whole.2.2.1, ?_⟩
    rintro span rfl
    rcases eq_none_or_of_readOptional reads with none | ⟨before, found, same, read⟩
    · cases none
    · cases same
      exact isWhole_of_readMillis read
  case inr.inr.inr.inr.inl =>
    have read := isWhole_of_readMillis reads
    rw [isWhole_iff] at whole ⊢
    exact ⟨whole.1, read, whole.2.2⟩
  case inr.inr.inr.inr.inr.inl =>
    have read := isWhole_of_readMillis reads
    rw [isWhole_iff] at whole ⊢
    exact ⟨whole.1, whole.2.1, read, whole.2.2.2⟩
  all_goals exact whole

theorem isWhole_of_parse {host : Host} {document : String} {options : Options}
    (parsed : parse host document = .ok options) : options.IsWhole := by
  unfold parse at parsed
  cases reads : read host.cores document with
  | error fault =>
      rw [reads] at parsed
      cases parsed
  | ok loaded =>
      rw [reads] at parsed
      cases parsed
      exact readDocument_keeps (keeps_isWhole _) (isWhole_standard host.cores) reads

/-! ### Saving and loading -/

/-- A document that was written is loaded, and gives the options with each span in the whole
milliseconds that 64 bits hold of it; they are the options that were saved exactly if their spans
are such, which those of loaded options are. -/
theorem load_saved (host : Host) (options : Options) :
    parse host options.document = .ok options.saved
      ∧ (parse host options.document = .ok options ↔ options.IsWhole)
      ∧ ∀ (elsewhere : Host) (document : String), parse elsewhere document = .ok options →
        parse host options.document = .ok options := by
  have loaded := parse_document host options
  have same : parse host options.document = .ok options ↔ options.IsWhole := by
    rw [loaded, Except.ok.injEq, saved_eq_iff]
  refine ⟨loaded, same, fun elsewhere document parsed => ?_⟩
  exact same.mpr (isWhole_of_parse parsed)

def withBudget (budget : Span) : Options :=
  { standard 1 with maxEventLoopExecuteTime := budget }

/-- What was saved and loaded once is saved as it is. -/
theorem load_saved_twice :
    let loaded := (withBudget ⟨1500000⟩).saved
    parse default (withBudget ⟨1500000⟩).document = .ok loaded
      ∧ loaded.maxEventLoopExecuteTime = .ofMillis 1
      ∧ parse default loaded.document = .ok loaded := by
  have once := parse_document default (withBudget ⟨1500000⟩)
  exact ⟨once, rfl, (load_saved default _).2.2 default _ once⟩

theorem validate_of_saved {options : Options} (valid : options.validate = .ok ()) :
    options.saved.validate
      = if options.maxEventLoopExecuteTime.saved.isZero then .error .noEventLoopBudget
        else if options.blockedThreadCheckInterval.saved.isZero then .error .noCheckInterval
        else .ok () := by
  obtain ⟨loops, workers, _⟩ := validate_eq_ok_iff.mp valid
  have sameLoops : options.saved.eventLoopPoolSize ≠ 0 := loops
  have sameWorkers : options.saved.workerPoolSize ≠ 0 := workers
  rw [validate, if_neg sameLoops, if_neg sameWorkers]
  rfl

/-- Options that a runtime can start with can be loaded once they are saved. A runtime can start
with them then exactly if the document keeps some time of the event-loop budget and of the check
interval; validation objects to the first of the two of which it keeps none. -/
theorem validate_after_saving (host : Host) {options : Options}
    (valid : options.validate = .ok ()) :
    ∃ loaded, parse host options.document = .ok loaded
      ∧ loaded.validate
        = if options.maxEventLoopExecuteTime.nanos / 1000000 % UInt64.size = 0 then
            .error .noEventLoopBudget
          else if options.blockedThreadCheckInterval.nanos / 1000000 % UInt64.size = 0 then
            .error .noCheckInterval
          else .ok () := by
  refine ⟨options.saved, parse_document host options, ?_⟩
  rw [validate_of_saved valid, Span.isZero_saved, Span.isZero_saved]
  simp only [decide_eq_true_eq]

theorem validate_after_saving_fraction :
    ∃ loaded, parse default (withBudget ⟨1500000⟩).document = .ok loaded
      ∧ loaded.validate = .ok () :=
  @validate_after_saving default (withBudget ⟨1500000⟩) rfl

/-- Half a millisecond is a budget that a runtime can start with, but none once it was saved. -/
theorem half_millisecond_unsaved :
    (withBudget ⟨500000⟩).validate = .ok ()
      ∧ ∃ loaded, parse default (withBudget ⟨500000⟩).document = .ok loaded
        ∧ loaded.validate = .error .noEventLoopBudget :=
  ⟨rfl, _, parse_document default _, rfl⟩

end Options

end Reactor
