import ClassSchema.Files.Error
import ClassSchema.Json.Decoder
import ClassSchema.Store.Address

/-
# Configuration

A configuration file may say which store to use and where the parts of a package are.  Of the
places that can name a store the command line comes first, then the file, then the environment.
-/

namespace ClassSchema

open Json Json.Decoder

/-- Where the parts of a package are. -/
structure PackageLayout where
  /-- The extension of the files with subsystems. -/
  extension : String := "json"
  /-- The name of the file with the type dictionary. -/
  typesFile : String := "types.yaml"
deriving DecidableEq, Repr, Inhabited

structure Config where
  store : Option Address := none
  package : PackageLayout := {}
deriving DecidableEq, Repr, Inhabited

/-- Why a configuration cannot be used. -/
inductive ConfigError where
  | unreadable (path : String) (error : FileError)
  /-- The document called `path` is no configuration. -/
  | bad (path : String) (fault : Fault)
deriving DecidableEq, Repr

namespace ConfigError

/-- What a message is about; the rest of it is the fault in the document, if there is one. -/
def context : ConfigError → String
  | .unreadable path error => "Failed to read " ++ path ++ ": " ++ error.text
  | .bad path _ => "Invalid JSON in " ++ path

end ConfigError

namespace Config

/-- The file that is used when no other is named. -/
def defaultFile : String := ".xuml_schema.json"

/-- The variable of the environment that may hold an address. -/
def variableName : String := "XUML_SCHEMA_DB"

def readStore : Decoder Address :=
  union "internally tagged enum DatabaseConfigFile" "type"
    [("sqlite", record "struct variant DatabaseConfigFile::Sqlite"
        (.cons "path" (textAs "path string") none .nil) fun (path, ()) => .file path),
     ("cozo-memory", Decoder.unit .database),
     ("memory", Decoder.unit .catalog)]

def readLayout : Decoder PackageLayout :=
  let standard : PackageLayout := {}
  record "struct PackageConfig"
    (.cons "subsystem_extension" text (some standard.extension) <|
      .cons "types_file" text (some standard.typesFile) .nil)
    fun (extension, typesFile, ()) => ⟨extension, typesFile⟩

def readConfig : Decoder Config :=
  record "struct ConfigFile"
    (.cons "database" (optional readStore) (some none) <|
      .cons "package" readLayout (some {}) .nil)
    fun (store, package, ()) => ⟨store, package⟩

/-- Reads the configuration in the file at `path`. -/
def ofText (path text : String) : Except ConfigError Config :=
  (document readConfig text).mapError (.bad path)

/-- The store to use: the one named on the command line, else the one in the configuration, else
the one in the environment, else the default. -/
def address (commandLine : Option String) (config : Option Config) (environment : Option String) :
    Except AddressError Address :=
  match commandLine, config.bind Config.store, environment with
  | some url, _, _ => Address.ofText url
  | none, some a, _ => .ok a
  | none, none, some url => Address.ofText url
  | none, none, none => .ok .default

end Config

end ClassSchema
