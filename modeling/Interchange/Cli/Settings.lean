import Interchange.Cache.Basic
import Interchange.Cli.Host
import Interchange.Record.Text
import Interchange.Text.Case
import Interchange.Text.FileName
import Interchange.Toml.Reader
/-!
# Settings

Settings come from a file that was named, else from the first file at one of the usual places that
can be read, and variables of the environment stand over the file.

* `Settings.read`, `Settings.ofText` — the record.
* `Settings.load` — the settings of the program.
* `LogFormat.choose` — the format of logs, which is told only where it is not known.
-/

namespace Interchange

/-- Reads a whole TOML text. -/
def Reader.ofToml {α : Type} (r : Reader α) (text : String) : Except RecordFault α :=
  match Toml.shape? text with
  | some n => r n
  | none => .error .malformed

namespace Cli

/-- What settings say about logs. -/
structure LogSettings where
  level : Option String
  format : Option String
deriving DecidableEq, Repr

def LogSettings.read : Reader LogSettings :=
  Reader.record "LoggingSettings"
    [.default "level" (Reader.option Reader.text) none,
     .default "format" (Reader.option Reader.text) none]
    fun (level, format, ()) => .ok ⟨level, format⟩

/-- What holds for every command. -/
structure Settings where
  bundle : Option String
  calls : CallSettings
  cache : CacheSettings
  log : LogSettings

namespace Settings

/-- The settings in the absence of others. -/
def standard : Settings := ⟨none, .standard, .standard, ⟨none, none⟩⟩

def read : Reader Settings :=
  Reader.record "Config"
    [.default "bundle" (Reader.option Reader.text) none,
     .default "http" CallSettings.read .standard,
     .default "cache" CacheSettings.read .standard,
     .default "logging" LogSettings.read ⟨none, none⟩]
    fun (bundle, calls, cache, log, ()) => .ok ⟨bundle, calls, cache, log⟩

/-- Reads the text of a file, whose format its extension tells. -/
def ofText (path text : String) : Except Failure Settings :=
  match FileName.extension? path with
  | some "yaml" | some "yml" =>
    (Settings.read.ofYaml text).mapError fun f => .badYaml f.message
  | some "toml" => (Settings.read.ofToml text).mapError fun f => .badToml f.message
  | _ => (Settings.read.ofJson text).mapError fun f => .badJson f.message

/-- The directory in which a user keeps settings. -/
def userDirectory? (home configHome : Option String) : Option String :=
  match configHome.filter FileName.isAbsolute with
  | some directory => some directory
  | none => (home.filter (· ≠ "")).map fun h => FileName.within h ".config"

/-- The usual places, the first of them first. -/
def usualPlaces (userDirectory : Option String) : List String :=
  ["ratebridge.yaml", "ratebridge.yml", "ratebridge.json", "ratebridge.toml"] ++
    match userDirectory with
    | some directory =>
      ["config.yaml", "config.json", "config.toml"].map fun name =>
        FileName.within (FileName.within directory "ratebridge") name
    | none => []

/-- The settings with the variables of the environment taken into account. -/
def withVariables (s : Settings) (bundle timeout : Option String) : Except Failure Settings :=
  let s :=
    match bundle.filter (· ≠ "") with
    | some path => { s with bundle := some path }
    | none => s
  match timeout with
  | none => .ok s
  | some t =>
    match Numeral.natural? (Text.trim t) with
    | some n => .ok { s with calls := { s.calls with requestTimeout := n } }
    | none =>
      .error (.badSetting
        s!"RATEBRIDGE_TIMEOUT_SECS must be a whole number of seconds, got '{t}'")

/-- The settings, if they are of use. -/
def checked (s : Settings) : Except Failure Settings :=
  match s.calls.validate with
  | .error f => .error (.core (.setup (.badSettings f)))
  | .ok () =>
    if s.cache.enabled && s.cache.maxEntries = 0 then
      .error (.badSetting "cache.maxEntries must be greater than zero when the cache is enabled")
    else .ok s

variable {m : Type → Type} [Monad m]

/-- Reads a file of settings. -/
def ofFile (host : Host m) (path : String) : Job m Settings := do
  ExceptT.mk (pure (ofText path (← host.content path .file)))

/-- Reads the first file that can be read; of others there is a warning. -/
def ofPlaces (host : Host m) : List String → Job m Settings
  | [] => return standard
  | path :: paths => do
    if ← host.has path then
      tryCatch (ofFile host path) fun failure => do
        noteLine s!"Warning: Failed to load settings from {path}: {failure.message}"
        ofPlaces host paths
    else ofPlaces host paths

/-- The settings of the program; `file` is the one that was named. -/
def load (host : Host m) (file : Option String) : Job m Settings := do
  let s ←
    match file with
    | some path => ofFile host path
    | none =>
      let home ← ask (host.variableNamed "HOME")
      let configHome ← ask (host.variableNamed "XDG_CONFIG_HOME")
      ofPlaces host (usualPlaces (userDirectory? home configHome))
  let bundle ← ask (host.variableNamed "RATEBRIDGE_BUNDLE")
  let timeout ← ask (host.variableNamed "RATEBRIDGE_TIMEOUT_SECS")
  ExceptT.mk (pure ((s.withVariables bundle timeout).bind checked))

end Settings

/-- The formats of logs. -/
inductive LogFormat
  | compact
  | full
  | json
deriving DecidableEq, Repr

namespace LogFormat

def name : LogFormat → String
  | compact => "Compact"
  | full => "Full"
  | json => "Json"

/-- The format of a name in whatever case. -/
def ofName? (s : String) : Option LogFormat :=
  match Text.lower (Text.trim s) with
  | "compact" => some compact
  | "full" => some full
  | "json" => some json
  | _ => none

/-- The format for a verbosity in the absence of a wish. -/
def ofVerbosity (verbosity : Nat) : LogFormat := if 3 ≤ verbosity then full else compact

variable {m : Type → Type} [Monad m]

/-- Follows a wish for a format; `complaint` begins the warning about a name that is not known. -/
def follow (format : LogFormat) (wish : Option String) (complaint : String → String) :
    Job m LogFormat := do
  match wish with
  | none => return format
  | some s =>
    match ofName? s with
    | some f => return f
    | none =>
      noteLine s!"Warning: {complaint s}, using {format.name}"
      return format

/-- Chooses the format of logs: as the environment says, else the settings, else the verbosity. -/
def choose (verbosity : Nat) (settings environment : Option String) : Job m LogFormat := do
  let format ← (ofVerbosity verbosity).follow settings fun s =>
    s!"unknown log format '{s}' in settings"
  format.follow environment fun s => s!"invalid RATEBRIDGE_LOG_FORMAT '{s}'"

end LogFormat

end Cli

end Interchange
