import Reactor.Proofs.Files.Caches

/-!
Where a resolver puts paths. An absolute path stays what it is, and any other is put behind the
base directory. A base that is absolute or empty puts no path behind itself twice. The cache
directory is one name below the place where the directory of the options is put.
-/

namespace Reactor

open Reactor.Path

namespace Path

variable {base tail : String}

theorem join_absolute (base : String) (absolute : isAbsolute tail = true) :
    join base tail = tail := if_pos absolute

theorem join_empty (tail : String) : join "" tail = tail := by
  unfold join
  split
  · rfl
  · exact String.empty_append

theorem isAbsolute_join (absolute : isAbsolute base = true) (tail : String) :
    isAbsolute (join base tail) = true := by
  cases relative : isAbsolute tail with
  | true => rw [join_absolute base relative, relative]
  | false =>
      have opens : base.toList.head? = some '/' := eq_of_beq absolute
      obtain ⟨rest, text⟩ := join_extends base relative
      unfold isAbsolute
      rw [text, List.head?_append, opens]
      rfl

/-- A relative path has the components of its pieces, but for a single dot that opens it. -/
theorem components_relative (relative : isAbsolute tail = false) :
    (components tail).filter (· ≠ .current) = (pieces tail.toList).filterMap component? := by
  have plain : ∀ component ∈ (pieces tail.toList).filterMap component?,
      component ≠ .current := by
    rintro component held rfl
    obtain ⟨piece, _, stands⟩ := List.mem_filterMap.mp held
    unfold component? at stands
    split at stands <;> cases stands
  have kept : ((pieces tail.toList).filterMap component?).filter (· ≠ .current)
      = (pieces tail.toList).filterMap component? :=
    List.filter_eq_self.mpr fun component held => decide_eq_true (plain component held)
  unfold components
  rw [relative]
  dsimp only
  rw [if_neg Bool.false_ne_true, List.filter_append, kept]
  split
  · rfl
  · rfl

end Path

namespace StandardResolver

variable {resolver : StandardResolver} {path : String}

theorem resolve_absolute (absolute : isAbsolute path = true) : resolver.resolve path = path :=
  if_pos absolute

theorem resolve_eq_join (resolver : StandardResolver) (path : String) :
    resolver.resolve path = join resolver.baseDirectory path := by
  cases relative : isAbsolute path with
  | true => rw [resolve_absolute relative, join_absolute _ relative]
  | false =>
      unfold resolve
      rw [relative]
      rfl

theorem components_resolve (relative : isAbsolute path = false)
    (named : resolver.baseDirectory ≠ "") :
    components (resolver.resolve path)
      = components resolver.baseDirectory ++ (components path).filter (· ≠ .current) := by
  rw [resolve_eq_join, components_join relative named, components_relative relative]

theorem base_prefix_resolve (relative : isAbsolute path = false) :
    components resolver.baseDirectory <+: components (resolver.resolve path) := by
  by_cases bare : resolver.baseDirectory = ""
  · rw [bare]
    exact List.nil_prefix
  · rw [components_resolve relative bare]
    exact List.prefix_append _ _

theorem resolve_resolve
    (settled : isAbsolute resolver.baseDirectory = true ∨ resolver.baseDirectory = "")
    (path : String) : resolver.resolve (resolver.resolve path) = resolver.resolve path := by
  rcases settled with absolute | bare
  · apply resolve_absolute
    rw [resolve_eq_join]
    exact isAbsolute_join absolute path
  · rw [resolve_eq_join, bare, join_empty]

/-- The base directory of the options is absolute or empty; where they have none, the working
directory is known and absolute. -/
def Anchored (host : Host) (options : FileSystemOptions) : Prop :=
  match options.baseDirectory with
  | some base => isAbsolute base = true ∨ base = ""
  | none => ∃ working, host.workingDirectory = some working ∧ isAbsolute working = true

theorem Anchored.base {host : Host} {options : FileSystemOptions}
    (anchored : Anchored host options) :
    isAbsolute (create host options).baseDirectory = true
      ∨ (create host options).baseDirectory = "" := by
  unfold Anchored at anchored
  cases given : options.baseDirectory with
  | some base =>
      rw [given] at anchored
      simpa [create, given] using anchored
  | none =>
      rw [given] at anchored
      obtain ⟨working, known, absolute⟩ := anchored
      left
      simpa [create, given, known] using absolute

theorem cachePath_eq (host : Host) (options : FileSystemOptions) :
    cachePath host options
      = join ((create host options).resolve options.cacheDirectory) (cacheName host.processId) := by
  rw [resolve_eq_join]
  rfl

/-- A resolver leaves absolute paths alone and joins any other to its base directory, whose
components its own components begin with; behind a base that is not empty stand the components of
the path, without the single dot that may open it. An anchored resolver moves no path twice. With
caching on, the cache directory is the name of the process's cache joined to the resolved directory
of the options, and has just this component more. -/
theorem resolve_laws (host : Host) (options : FileSystemOptions) :
    let resolver := create host options
    let base := resolver.baseDirectory
    let parent := resolver.resolve options.cacheDirectory
    base = (options.baseDirectory <|> host.workingDirectory).getD "."
      ∧ (∀ path, isAbsolute path = true → resolver.resolve path = path)
      ∧ (∀ path, isAbsolute path = false →
        resolver.resolve path = join base path
          ∧ components base <+: components (resolver.resolve path)
          ∧ (base ≠ "" → components (resolver.resolve path)
            = components base ++ (components path).filter (· ≠ .current)))
      ∧ (Anchored host options →
        ∀ path, resolver.resolve (resolver.resolve path) = resolver.resolve path)
      ∧ (options.cachingEnabled = true →
        ∃ cache, resolver.cacheDirectory = some cache
          ∧ cache = join parent (cacheName host.processId)
          ∧ components cache = components parent ++ [.name (cacheName host.processId)]
          ∧ components parent <+: components cache ∧ components parent ≠ components cache) := by
  intro resolver base parent
  refine ⟨rfl, fun path => resolve_absolute, ?_, ?_, ?_⟩
  · intro path relative
    exact ⟨resolve_eq_join resolver path, base_prefix_resolve relative,
      components_resolve relative⟩
  · intro anchored path
    exact resolve_resolve anchored.base path
  · intro caching
    have parts : components (cachePath host options)
        = components parent ++ [.name (cacheName host.processId)] := by
      rw [cachePath_eq]
      exact components_join_name (isName_cacheName host.processId)
    refine ⟨cachePath host options, cacheDirectory_create host caching, cachePath_eq host options,
      parts, ?_, ?_⟩
    · rw [parts]
      exact List.prefix_append _ _
    · rw [parts]
      intro same
      simp at same

/-- A relative base that is not empty stands in front of a path as often as it is resolved. -/
example : (StandardResolver.mk "www" none).resolve ((StandardResolver.mk "www" none).resolve "a")
    = "www/www/a" := by decide

end StandardResolver

end Reactor
