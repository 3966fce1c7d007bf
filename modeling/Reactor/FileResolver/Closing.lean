import Reactor.Journal

/-!
Closing a file resolver. The standard one removes its cache directory and says so; a directory
that cannot be removed is a failure, which leaves the files as they are.
-/

namespace Reactor

namespace StandardResolver

/-- Removes the cache directory, if there is one: why that failed, and the files that are left. -/
def dispose (resolver : StandardResolver) (actor : Actor) (working : Place) (files : FileTree) :
    Told (Option String × FileTree) :=
  match resolver.close working files with
  | (.nothing, files) => return (none, files)
  | (.removed path, files) => do
    Told.log actor .debug .fileResolver "File cache removed" [("cache_dir", .shown path)]
    return (none, files)
  | (.failed path _, files) => return (some ("Failed to remove file cache " ++ path), files)

end StandardResolver

def FileResolver.close (resolver : FileResolver) (actor : Actor) (working : Place)
    (files : FileTree) : Told (Option String × FileTree) := do
  Told.call (.closeResolver resolver)
  match resolver with
  | .standard resolver => resolver.dispose actor working files
  | .named _ _ failure => return (failure, files)

end Reactor
