import Reactor.Proofs.Files.Caches

/-!
Two resolvers of one process. Their cache directories bear the name of the process, not of the
resolver, so that one resolver removes with its cache what the other keeps there. A file stays
exactly as long as no resolver is closed whose cache path leads to a directory at or above it.
-/

namespace Reactor

open FileTree Reactor.Path

namespace FileTree

variable {tree : FileTree} {place : Place} {content : List UInt8}

theorem named_of_file (held : tree.node? place = some (.file content)) : place ≠ [] := by
  intro top
  rw [top] at held
  cases held

theorem file_put (held : tree.node? place = some (.file content)) {filled : Place} {node : Node}
    (free : filled ≠ place) : (tree.put filled node).node? place = some (.file content) := by
  rw [node?_put (named_of_file held), if_neg free.symm, held]

theorem file_makeDirectories (held : tree.node? place = some (.file content)) (seen : Place)
    (components : List Component) :
    (tree.makeDirectories seen components).1.node? place = some (.file content) := by
  induction components generalizing tree seen with
  | nil => exact held
  | cons component rest ih =>
      cases component with
      | root => exact ih held []
      | current => exact ih held seen
      | parent => exact ih held seen.dropLast
      | name text =>
          unfold makeDirectories
          dsimp only
          cases found : tree.node? (seen ++ [text]) with
          | none =>
              dsimp only
              split
              · exact held
              · apply ih
                apply file_put held
                intro same
                rw [same, held] at found
                cases found
          | some node =>
              cases node with
              | directory => exact ih held _
              | file other => exact held

theorem file_makeDirectory (held : tree.node? place = some (.file content)) (working : Place)
    (path : String) :
    (tree.makeDirectory working path).1.node? place = some (.file content) := by
  unfold makeDirectory
  split
  · exact held
  · split
    · exact held
    · exact file_makeDirectories held working (components path)

/-- A file may be written anew, but it stays a file. -/
theorem file_writeFile (held : tree.node? place = some (.file content)) (working : Place)
    (path : String) (written : List UInt8) :
    ∃ kept, (tree.writeFile working path written).1.node? place = some (.file kept) := by
  have made := file_makeDirectory held working (Path.directory path)
  unfold writeFile
  rcases making : tree.makeDirectory working (Path.directory path) with ⟨left, _ | fault⟩ <;>
    rw [making] at made
  · dsimp only
    cases left.locate working path with
    | error fault => exact ⟨content, made⟩
    | ok filled =>
        dsimp only
        split
        · exact ⟨content, made⟩
        · by_cases same : place = filled
          · refine ⟨written, ?_⟩
            rw [node?_put (named_of_file held), if_pos same]
          · exact ⟨content, file_put made (Ne.symm same)⟩
  · exact ⟨content, made⟩

end FileTree

namespace StandardResolver

variable {host : Host} {resolver : StandardResolver} {working place : Place} {files : FileTree}
  {content : List UInt8}

/-- The cache path of the resolver leads to a directory at or above the place. -/
def Covers (resolver : StandardResolver) (working : Place) (files : FileTree) (place : Place) :
    Prop :=
  ∃ path, resolver.cacheDirectory = some path
    ∧ files.find working path = .ok (placeOf working path, .directory)
    ∧ placeOf working path <+: place

/-- A resolver whose cache, if it has one, is no root directory. -/
def Rooted (resolver : StandardResolver) (working : Place) : Prop :=
  ∀ path, resolver.cacheDirectory = some path → placeOf working path ≠ []

theorem rooted_create (host : Host) (options : FileSystemOptions) (working : Place) :
    (create host options).Rooted working := by
  intro path cached
  cases caching : options.cachingEnabled with
  | false => simp [create, caching] at cached
  | true =>
      rw [cacheDirectory_create host caching] at cached
      cases cached
      simp [placeOf_cachePath]

theorem close_covering (rooted : resolver.Rooted working)
    (held : files.node? place = some (.file content)) (covers : resolver.Covers working files place) :
    (resolver.close working files).2.node? place = none := by
  obtain ⟨path, cached, found, inside⟩ := covers
  obtain ⟨left, closes, removed⟩ := close_directory cached (rooted path cached) found
  rw [closes]
  apply removed.below place inside
  intro same
  have entry := (find_eq_ok found).2
  rw [← same, held] at entry
  cases entry

theorem close_clear (rooted : resolver.Rooted working)
    (clear : ¬ resolver.Covers working files place) :
    (resolver.close working files).2.node? place = files.node? place := by
  cases cached : resolver.cacheDirectory with
  | none => rw [close_uncached cached]
  | some path =>
      rcases at_path files working path with missing | ⟨other, found⟩ | found
      · rw [close_missing cached missing]
      · rw [close_file cached found]
      · obtain ⟨left, closes, removed⟩ := close_directory cached (rooted path cached) found
        rw [closes]
        apply removed.outside
        intro inside
        exact clear ⟨path, cached, found, inside⟩

theorem close_file_iff (rooted : resolver.Rooted working)
    (held : files.node? place = some (.file content)) :
    (resolver.close working files).2.node? place = some (.file content)
      ↔ ¬ resolver.Covers working files place := by
  constructor
  · intro kept covers
    rw [close_covering rooted held covers] at kept
    cases kept
  · intro clear
    rw [close_clear rooted clear, held]

end StandardResolver

open StandardResolver

variable {working place : Place}

theorem CacheAct.keeps_file {act : CacheAct} {files : FileTree}
    (held : ∃ content, files.node? place = some (.file content))
    (clear : ∀ resolver, act = .close resolver →
      resolver.Rooted working ∧ ¬ resolver.Covers working files place) :
    ∃ content, (act.run working files).node? place = some (.file content) := by
  obtain ⟨content, held⟩ := held
  cases act with
  | fill resolver file written =>
      cases cached : resolver.cacheDirectory with
      | none =>
          simp only [run, cached]
          exact ⟨content, held⟩
      | some cache =>
          simp only [run, cached]
          exact file_writeFile held working (join cache file) written
  | close resolver =>
      obtain ⟨rooted, apart⟩ := clear resolver rfl
      exact ⟨content, (close_file_iff rooted held).mpr apart⟩

/-- At no closing in the run does the resolver that is closed cover the place. -/
def Spared (working place : Place) (start : FileTree) (acts : List CacheAct) : Prop :=
  ∀ front resolver back, acts = front ++ .close resolver :: back →
    ¬ resolver.Covers working (start.after working front) place

theorem file_after {start : FileTree} {acts : List CacheAct}
    (rooted : ∀ resolver, CacheAct.close resolver ∈ acts → resolver.Rooted working)
    (held : ∃ content, start.node? place = some (.file content))
    (spared : Spared working place start acts) :
    ∃ content, (start.after working acts).node? place = some (.file content) := by
  induction acts generalizing start with
  | nil => exact held
  | cons act rest ih =>
      have first : ∃ content, (act.run working start).node? place = some (.file content) := by
        apply CacheAct.keeps_file held
        intro resolver closes
        constructor
        · exact rooted resolver (closes ▸ List.mem_cons_self)
        · exact spared [] resolver rest (by rw [closes, List.nil_append])
      apply ih _ first
      · intro front resolver back split
        exact spared (act :: front) resolver back (by rw [split, List.cons_append])
      · intro resolver later
        exact rooted resolver (List.mem_cons_of_mem _ later)

namespace StandardResolver

variable {host : Host} {files : FileTree} {content : List UInt8}

/-- Of two cache directories one lies at or below the other when the options give both the same
directory, and else when it lies in a cache directory all the way. -/
theorem caches_nested_iff (host : Host) (working : Place) (own other : FileSystemOptions) :
    placeOf working (cachePath host other) <+: placeOf working (cachePath host own)
      ↔ placeOf working (cacheParent host other) = placeOf working (cacheParent host own)
        ∨ placeOf working (cachePath host other) <+: placeOf working (cacheParent host own) := by
  rw [placeOf_cachePath host own, List.prefix_concat_iff, placeOf_cachePath host other]
  rw [List.append_left_inj]

theorem find_through {path file : String} {reached : Place} {node : Node}
    (relative : isAbsolute file = false) (named : path ≠ "")
    (found : files.find working (join path file) = .ok (reached, node))
    (apart : reached ≠ placeOf working path) :
    files.find working path = .ok (placeOf working path, .directory) := by
  let onward := (pieces file.toList).filterMap component?
  have parts : components (join path file) = components path ++ onward :=
    components_join relative named
  have located := (find_eq_ok found).1
  have walked := locate_eq_ok located
  obtain ⟨ends, steps⟩ := walk_eq_ok walked
  rw [parts, target_append] at ends
  have entry : files.node? (placeOf working path) = some .directory := by
    apply steps
    rw [parts, passed_append]
    apply List.mem_append_right
    cases split : onward with
    | nil =>
        rw [split] at ends
        exact absurd ends apart
    | cons component rest =>
        apply start_mem_passed
        intro same
        have held : component ∈ onward := split ▸ List.mem_cons_self
        exact root_not_mem_components _ (same ▸ held)
  obtain ⟨rest, text⟩ := join_extends path relative
  have leads : files.locate working path = .ok (placeOf working path) := by
    rw [locate_front named text located]
    rw [parts, walk_append] at walked
    cases front : files.walk working (components path) with
    | error fault =>
        rw [front] at walked
        cases walked
    | ok reached => rw [(walk_eq_ok front).1, placeOf]
  simp [find, leads, entry, bind, Except.bind]

theorem cachePath_ne_empty (host : Host) (options : FileSystemOptions) :
    cachePath host options ≠ "" := by
  intro bare
  have parts : components (cachePath host options)
      = components (cacheParent host options) ++ [.name (cacheName host.processId)] :=
    components_join_name (isName_cacheName host.processId)
  have none : components "" = [] := rfl
  rw [bare, none] at parts
  simp at parts

/-- A file below the cache directory of one resolver is there after the other has been closed
unless the cache path of the other leads to a directory at or above it; then the file is gone. So
it stays in any order of placing files and closing the other as long as no closing covers it, which
none does where neither cache directory lies in the other. Equal options give both one cache. -/
theorem cached_file_stays_iff (host : Host) {own other : FileSystemOptions}
    (caching : own.cachingEnabled = true) (actor : Actor) (working : Place) {place : Place}
    (within : placeOf working (cachePath host own) <+: place) :
    (∀ files content, files.node? place = some (.file content) →
        let left := ((create host other).dispose actor working files).value.2
        (left.node? place = some (.file content)
            ↔ ¬ (create host other).Covers working files place)
          ∧ ((create host other).Covers working files place → left.node? place = none))
      ∧ (∀ start acts, (∃ content, start.node? place = some (.file content)) →
        (∀ resolver, CacheAct.close resolver ∈ acts → resolver = create host other) →
        Spared working place start acts →
        ∃ content, (start.after working acts).node? place = some (.file content))
      ∧ (¬ placeOf working (cachePath host other) <+: placeOf working (cachePath host own) →
        ¬ placeOf working (cachePath host own) <+: placeOf working (cachePath host other) →
        ∀ files, ¬ (create host other).Covers working files place)
      ∧ (own = other → ∀ files file content, isAbsolute file = false →
        place ≠ placeOf working (cachePath host own) →
        files.find working (join (cachePath host own) file) = .ok (place, .file content) →
        ((create host other).dispose actor working files).value.2.hasPath working
          (join (cachePath host own) file) = false)
      ∧ (placeOf working (cachePath host other) <+: placeOf working (cachePath host own)
        ↔ placeOf working (cacheParent host other) = placeOf working (cacheParent host own)
          ∨ placeOf working (cachePath host other) <+: placeOf working (cacheParent host own)) := by
  have rooted := rooted_create host other working
  refine ⟨?_, ?_, ?_, ?_, caches_nested_iff host working own other⟩
  · intro files content held
    rw [value_dispose]
    constructor
    · exact close_file_iff rooted held
    · exact close_covering rooted held
  · intro start acts held closed spared
    apply file_after _ held spared
    intro resolver closes
    rw [closed resolver closes]
    exact rooted
  · rintro unlike apart files ⟨path, cached, _, inside⟩
    have same : path = cachePath host other := by
      cases kept : other.cachingEnabled with
      | false => simp [create, kept] at cached
      | true => exact (Option.some.inj ((cacheDirectory_create host kept).symm.trans cached)).symm
    rw [same] at inside
    rcases List.prefix_or_prefix_of_prefix within inside with above | below
    · exact apart above
    · exact unlike below
  · rintro rfl files file content relative apart found
    have through := find_through relative (cachePath_ne_empty host own) found apart
    obtain ⟨_, entry⟩ := find_eq_ok found
    rw [value_dispose]
    apply hasPath_of_node?_eq_none
    rw [← find_place found]
    exact close_covering rooted entry
      ⟨_, cacheDirectory_create host caching, through, within⟩

def sharedHost : Host :=
  { cores := 1, workingDirectory := some "/srv", processId := 7, epollDown := none }

def keptFiles : FileTree :=
  sharedHost.bareFiles.after sharedHost.workingPlace
    [.fill (create sharedHost .standard) "kept.txt" []]

def keptPlace : Place := ["srv", ".strand", "strand-cache-7", "kept.txt"]

/-- The other resolver takes the file away where its options are equal, and leaves it where they
give another directory. -/
theorem cached_file_stays_iff_standard :
    let elsewhere : FileSystemOptions := { FileSystemOptions.standard with
      baseDirectory := some "/var" }
    ((create sharedHost .standard).dispose .caller sharedHost.workingPlace keptFiles).value.2.hasPath
        sharedHost.workingPlace (join (cachePath sharedHost .standard) "kept.txt") = false
      ∧ ∃ content, (keptFiles.after sharedHost.workingPlace
          [.fill (create sharedHost elsewhere) "other.txt" [],
            .close (create sharedHost elsewhere)]).node? keptPlace = some (.file content) := by
  intro elsewhere
  have within : placeOf sharedHost.workingPlace (cachePath sharedHost .standard) <+: keptPlace := by
    decide +kernel
  constructor
  · obtain ⟨_, _, _, shared, _⟩ :=
      cached_file_stays_iff sharedHost rfl .caller sharedHost.workingPlace within
    exact shared rfl keptFiles "kept.txt" [] rfl (by decide) rfl
  · obtain ⟨_, stays, apart, _⟩ :=
      @cached_file_stays_iff sharedHost .standard elsewhere rfl .caller sharedHost.workingPlace _
        within
    have only : ∀ resolver, CacheAct.close resolver ∈ [.fill (create sharedHost elsewhere) "other.txt"
        [], .close (create sharedHost elsewhere)] → resolver = create sharedHost elsewhere := by
      intro resolver closes
      simpa using closes
    apply stays _ _ ⟨[], by decide +kernel⟩ only
    intro front resolver back split covers
    have closes := only resolver (split ▸ List.mem_append_right front List.mem_cons_self)
    rw [closes] at covers
    exact apart (by decide +kernel) (by decide +kernel) _ covers

theorem default_caches_collide :
    let keeper := create sharedHost .standard
    let other := create sharedHost .standard
    let placed := sharedHost.bareFiles.after sharedHost.workingPlace
      [.fill keeper "kept.txt" []]
    let left := placed.after sharedHost.workingPlace [.close other]
    let path := join (cachePath sharedHost .standard) "kept.txt"
    placed.hasPath sharedHost.workingPlace path = true
      ∧ left.hasPath sharedHost.workingPlace path = false := by
  decide +kernel

end StandardResolver

end Reactor
