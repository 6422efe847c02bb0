import Discovery.Config.Document
import Discovery.Config.Location

namespace Discovery

/-!
# The file of the configuration

The configuration is read from its file, and from nothing if there is no such
file; the environment then has the last word.  Whoever has no file can have
one written with the defaults.
-/

namespace Config

/-- What is found at a path. -/
inductive File where
  /-- Nothing, but a file can be written there. -/
  | missing
  /-- Nothing, and what stands in the place of its directory is no directory. -/
  | unreachable
  | directory
  | regular (content : Bytes)
  deriving DecidableEq, Repr

/-- Whether something is found. -/
def File.exists : File → Bool
  | .missing | .unreachable => false
  | .directory | .regular _ => true

/-- Why a configuration could not be read or written. -/
inductive FileError where
  | readFailed
  | parseFailed
  | writeFailed
  deriving DecidableEq, Repr

/-- The configuration in a file, as it is written there. -/
def ofFile : File → Except FileError Config
  | .regular content =>
      match Bytes.toText? content with
      | none => .error .readFailed
      | some document =>
          match parse? document with
          | none => .error .parseFailed
          | some config => .ok config
  | _ => .error .readFailed

/-- The configuration for an environment, where `files` says what is found at a path. -/
def load (environment : Environment) (files : String → File) : Except FileError Config :=
  let file := files (path environment)
  let config := if file.exists then ofFile file else .ok {}
  config.map (override environment)

/-- What is found after the defaults were written to where nothing is. -/
def writeDefault : File → Except FileError File
  | .missing => .ok (.regular (Bytes.ofText defaultDocument))
  | .unreachable => .error .writeFailed
  | file => .ok file

end Config

end Discovery
