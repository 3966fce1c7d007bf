import Reactor.FileResolver.Closing
import Reactor.Proofs.Files.Paths
import Reactor.Proofs.Files.Trees

/-!
The cache directory of a resolver. It is one name below the directory that the options give, so
that closing can reach neither that directory nor anything beside the cache.
-/

namespace Reactor

open FileTree Reactor.Path

/-- What users of resolvers do to the files: they place a file below a cache directory, or they
close a resolver. -/
inductive CacheAct where
  | fill (resolver : StandardResolver) (file : String) (content : List UInt8)
  | close (resolver : StandardResolver)

def CacheAct.run (working : Place) (files : FileTree) : CacheAct → FileTree
  | .fill resolver file content =>
    match resolver.cacheDirectory with
    | none => files
    | some cache => (files.writeFile working (join cache file) content).1
  | .close resolver => (resolver.close working files).2

def FileTree.after (working : Place) (start : FileTree) (acts : List CacheAct) : FileTree :=
  acts.foldl (CacheAct.run working) start

namespace StandardResolver

theorem isName_cacheName (processId : Nat) : IsName (cacheName processId) := by
  have chars : (cacheName processId).toList
      = "strand-cache-".toList ++ (toString processId).toList := String.toList_append
  have opens : (cacheName processId).toList.head? = some 's' := by simp [chars]
  constructor
  · intro same
    simp [same] at opens
  · intro same
    simp [same] at opens
  · intro same
    simp [same] at opens
  · rw [chars, List.mem_append]
    rintro (early | late)
    · exact absurd early (by decide)
    · have digits : (toString processId).toList = Nat.toDigits 10 processId :=
        String.toList_ofList
      rw [digits] at late
      have digit := Nat.isDigit_of_mem_toDigits (by decide) (by decide) late
      contradiction

def cacheParent (host : Host) (options : FileSystemOptions) : String :=
  join (create host options).baseDirectory options.cacheDirectory

def cachePath (host : Host) (options : FileSystemOptions) : String :=
  join (cacheParent host options) (cacheName host.processId)

variable {options : FileSystemOptions} {resolver : StandardResolver}
  {working : Place} {files : FileTree} {path : String}

theorem cacheDirectory_create (host : Host) (caching : options.cachingEnabled = true) :
    (create host options).cacheDirectory = some (cachePath host options) :=
  if_pos caching

theorem placeOf_cachePath (host : Host) (options : FileSystemOptions) (working : Place) :
    placeOf working (cachePath host options)
      = placeOf working (cacheParent host options) ++ [cacheName host.processId] := by
  unfold placeOf cachePath
  rw [components_join_name (isName_cacheName host.processId), target_append]
  rfl

/-! ### Closing -/

theorem close_uncached (uncached : resolver.cacheDirectory = none) :
    resolver.close working files = (.nothing, files) := by
  unfold close
  rw [uncached]

theorem close_missing (cached : resolver.cacheDirectory = some path)
    (missing : files.hasPath working path = false) :
    resolver.close working files = (.nothing, files) := by
  unfold close
  rw [cached]
  simp [missing]

theorem close_file (cached : resolver.cacheDirectory = some path) {content : List UInt8}
    (found : files.find working path = .ok (placeOf working path, .file content)) :
    resolver.close working files = (.failed path .notDirectory, files) := by
  have refused : files.removeDirectory working path = .error .notDirectory := by
    simp [removeDirectory, found, bind, Except.bind]
  unfold close
  rw [cached]
  simp [hasPath_eq_true.mpr ⟨_, found⟩, refused]

theorem close_directory (cached : resolver.cacheDirectory = some path)
    (named : placeOf working path ≠ [])
    (found : files.find working path = .ok (placeOf working path, .directory)) :
    ∃ left, resolver.close working files = (.removed path, left)
      ∧ Removed working path files left := by
  obtain ⟨left, removes, removed⟩ := removeDirectory_eq found named
  refine ⟨left, ?_, removed⟩
  unfold close
  rw [cached]
  simp [hasPath_eq_true.mpr ⟨_, found⟩, removes]

theorem at_path (files : FileTree) (working : Place) (path : String) :
    files.hasPath working path = false
      ∨ (∃ content, files.find working path = .ok (placeOf working path, .file content))
      ∨ files.find working path = .ok (placeOf working path, .directory) := by
  cases has : files.hasPath working path with
  | false => exact Or.inl rfl
  | true =>
      obtain ⟨node, found⟩ := hasPath_eq_true.mp has
      cases node with
      | directory => exact Or.inr (Or.inr found)
      | file content => exact Or.inr (Or.inl ⟨content, found⟩)

/-- Why closing failed. -/
def Closing.failure : Closing → Option String
  | .nothing => none
  | .removed _ => none
  | .failed path _ => some ("Failed to remove file cache " ++ path)

theorem value_dispose (resolver : StandardResolver) (actor : Actor) (working : Place)
    (files : FileTree) :
    (resolver.dispose actor working files).value
      = ((resolver.close working files).1.failure, (resolver.close working files).2) := by
  unfold dispose
  obtain ⟨closing, left⟩ := resolver.close working files
  cases closing <;> rfl

/-- What closing a resolver with that cache directory does to the files. -/
structure Disposes (working : Place) (path : String) (before : FileTree)
    (closing : Option String × FileTree) : Prop where
  outside : ∀ place, ¬ placeOf working path <+: place →
    closing.2.node? place = before.node? place
  -- As seen from any directory, a path that stays clear of the cache leads where it led.
  paths : ∀ seen other, Avoids (placeOf working path) seen other →
    closing.2.find seen other = before.find seen other
  failed_iff : closing.1 ≠ none ↔
    ∃ content, before.find working path = .ok (placeOf working path, .file content)
  failed : closing.1 ≠ none →
    closing = (some ("Failed to remove file cache " ++ path), before)
  missing : closing.1 = none → closing.2.hasPath working path = false
  untouched : before.hasPath working path = false → closing.2 = before
  removed : before.find working path = .ok (placeOf working path, .directory) →
    Removed working path before closing.2

theorem disposes_of_unchanged {closing : Option String × FileTree} (same : closing.2 = files)
    (outcome : (closing.1 = none ∧ files.hasPath working path = false)
      ∨ (closing.1 = some ("Failed to remove file cache " ++ path)
        ∧ ∃ content, files.find working path = .ok (placeOf working path, .file content))) :
    Disposes working path files closing := by
  obtain ⟨failure, left⟩ := closing
  cases same
  constructor
  · intro place _
    rfl
  · intro seen other _
    rfl
  · rcases outcome with ⟨well, missing⟩ | ⟨failed, found⟩
    · constructor
      · intro failed
        exact absurd well failed
      · rintro ⟨content, found⟩
        rw [hasPath_eq_true.mpr ⟨_, found⟩] at missing
        cases missing
    · constructor
      · intro _
        exact found
      · intro _ well
        rw [failed] at well
        cases well
  · intro failed
    rcases outcome with ⟨well, _⟩ | ⟨failure, _⟩
    · exact absurd well failed
    · exact Prod.ext failure rfl
  · intro well
    rcases outcome with ⟨_, missing⟩ | ⟨failure, _⟩
    · exact missing
    · cases well.symm.trans failure
  · intro _
    rfl
  · intro found
    rcases outcome with ⟨_, missing⟩ | ⟨_, content, file⟩
    · rw [hasPath_eq_true.mpr ⟨_, found⟩] at missing
      cases missing
    · cases found.symm.trans file

theorem dispose_disposes (cached : resolver.cacheDirectory = some path)
    (named : placeOf working path ≠ []) (actor : Actor) (files : FileTree) :
    Disposes working path files (resolver.dispose actor working files).value := by
  rw [value_dispose]
  rcases at_path files working path with missing | ⟨content, found⟩ | found
  · rw [close_missing cached missing]
    exact disposes_of_unchanged rfl (Or.inl ⟨rfl, missing⟩)
  · rw [close_file cached found]
    exact disposes_of_unchanged rfl (Or.inr ⟨rfl, content, found⟩)
  · obtain ⟨left, closes, removed⟩ := close_directory cached named found
    rw [closes]
    constructor
    · exact removed.outside
    · intro seen other avoids
      apply find_congr
      · intro step passes
        exact removed.outside step (avoids.1 step passes)
      · exact removed.outside _ avoids.2
    · constructor
      · intro failed
        exact absurd rfl failed
      · rintro ⟨content, file⟩
        cases found.symm.trans file
    · intro failed
      exact absurd rfl failed
    · intro _
      exact removed.missing
    · intro missing
      rw [hasPath_eq_true.mpr ⟨_, found⟩] at missing
      cases missing
    · intro _
      exact removed

theorem dispose_uncached (uncached : resolver.cacheDirectory = none) (actor : Actor)
    (working : Place) (files : FileTree) :
    (resolver.dispose actor working files).value = (none, files) := by
  rw [value_dispose, close_uncached uncached]
  rfl

theorem beside_cache {parent place : Place} {name : String}
    (beside : place <+: parent ∨ ∃ sibling rest, sibling ≠ name ∧ place = parent ++ sibling :: rest) :
    ¬ parent ++ [name] <+: place := by
  intro below
  rcases beside with leads | ⟨sibling, rest, apart, same⟩
  · have long := (below.trans leads).length_le
    rw [List.length_append, List.length_singleton] at long
    omega
  · rw [same, List.prefix_append_right_inj] at below
    simp at below
    exact apart below.symm

/-- Closing removes the cache directory, one name below the directory that the options give it,
and nothing that is neither there nor below; it fails, and changes nothing, exactly when that path
leads to a plain file. Whatever was placed and closed before, a second closing changes nothing. -/
theorem dispose_confined (host : Host) (options : FileSystemOptions) (actor : Actor)
    (working : Place) (start : FileTree) (acts : List CacheAct) :
    let files := start.after working acts
    let closing := ((create host options).dispose actor working files).value
    (options.cachingEnabled = false → closing = (none, files))
      ∧ (options.cachingEnabled = true →
        (create host options).cacheDirectory = some (cachePath host options)
          ∧ placeOf working (cachePath host options)
            = placeOf working (cacheParent host options) ++ [cacheName host.processId]
          ∧ Disposes working (cachePath host options) files closing
          ∧ ∀ place, (place <+: placeOf working (cacheParent host options)
              ∨ ∃ sibling rest, sibling ≠ cacheName host.processId
                ∧ place = placeOf working (cacheParent host options) ++ sibling :: rest) →
            closing.2.node? place = files.node? place)
      ∧ (closing.1 = none →
        ((create host options).dispose actor working closing.2).value = (none, closing.2)) := by
  intro files closing
  cases caching : options.cachingEnabled with
  | false =>
      have uncached : (create host options).cacheDirectory = none := by simp [create, caching]
      refine ⟨?_, nofun, ?_⟩
      · intro _
        exact dispose_uncached uncached actor working files
      · intro _
        exact dispose_uncached uncached actor working closing.2
  | true =>
      have cached := cacheDirectory_create host caching
      have below := placeOf_cachePath host options working
      have named : placeOf working (cachePath host options) ≠ [] := by simp [below]
      have disposes : Disposes working _ files closing :=
        dispose_disposes cached named actor files
      refine ⟨nofun, ?_, ?_⟩
      · intro _
        refine ⟨cached, below, disposes, ?_⟩
        intro place beside
        apply disposes.outside
        rw [below]
        exact beside_cache beside
      · intro closed
        rw [value_dispose, close_missing cached (disposes.missing closed)]
        rfl

end StandardResolver

end Reactor
