import Reactor.FileTree
import Reactor.Options.Basic

/-!
File resolvers. The standard one puts relative paths below its base directory and owns a cache
directory of the process below it, which it removes when it closes. Any other resolver is known
by its name, below which it puts every path.
-/

namespace Reactor

structure Host where
  cores : Nat
  workingDirectory : Option String
  processId : Nat
  -- Why epoll cannot be used; none if it can.
  epollDown : Option String
deriving Inhabited

def Host.workingPlace (host : Host) : Place :=
  (Path.components (host.workingDirectory.getD "/")).filterMap fun component =>
    match component with
    | .name text => some text
    | _ => none

def Host.bareFiles (host : Host) : FileTree := .ofDirectory host.workingPlace

structure StandardResolver where
  baseDirectory : String
  cacheDirectory : Option String
deriving DecidableEq, Inhabited

namespace StandardResolver

def cacheName (processId : Nat) : String := "strand-cache-" ++ toString processId

def create (host : Host) (options : FileSystemOptions) : StandardResolver :=
  let base := (options.baseDirectory <|> host.workingDirectory).getD "."
  { baseDirectory := base
    cacheDirectory :=
      if options.cachingEnabled then
        some (Path.join (Path.join base options.cacheDirectory) (cacheName host.processId))
      else
        none }

def resolve (resolver : StandardResolver) (path : String) : String :=
  if Path.isAbsolute path then path else Path.join resolver.baseDirectory path

/-- What closing did: nothing, or removing the cache directory of that path, or failing to. -/
inductive Closing where
  | nothing
  | removed (path : String)
  | failed (path : String) (reason : FileFault)
deriving DecidableEq

def close (resolver : StandardResolver) (working : Place) (tree : FileTree) : Closing × FileTree :=
  match resolver.cacheDirectory with
  | none => (.nothing, tree)
  | some path =>
    if tree.hasPath working path then
      match tree.removeDirectory working path with
      | .ok tree => (.removed path, tree)
      | .error reason => (.failed path reason, tree)
    else
      (.nothing, tree)

end StandardResolver

inductive FileResolver where
  | standard (resolver : StandardResolver)
  | named (name : String) (closes : Bool) (failure : Option String)
deriving DecidableEq, Inhabited

namespace FileResolver

def resolve : FileResolver → String → String
  | .standard resolver, path => resolver.resolve path
  | .named name _ _, path => Path.join name path

def cacheDirectory : FileResolver → Option String
  | .standard resolver => resolver.cacheDirectory
  | .named .. => none

end FileResolver

end Reactor
