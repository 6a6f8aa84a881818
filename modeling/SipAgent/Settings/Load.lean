import SipAgent.Settings.Basic
import SipAgent.Settings.Path

/-!
# Loading settings

Settings come from a TOML document and from variables. Unknown keys do not count, and a key that is
not set has its default; only a profile that is set at all has to name its address. A document alone
is read strictly. Once variables can override it, the keys at its root are paths, names are told
apart without regard to case, and the reading is lenient.

Loading, paths and single settings stand for the configuration library that the agent puts its
settings together with. They tell which settings an installation gets; no result is about them. The
results about registration hold for all settings, however they came about.
-/

namespace SipAgent

open Text

/-- Why settings cannot be loaded. -/
inductive SettingsError where
  /-- The document does not follow the grammar. -/
  | malformed
  /-- A section is no table. -/
  | noSection (name : String)
  /-- A value has the wrong type or range. -/
  | mistyped (key : String)
  /-- A key that has to be there is missing. -/
  | missing (key : String)
  deriving DecidableEq, Repr

/-- The wording of a fault in settings. -/
def SettingsError.message : SettingsError → String
  | .malformed => "malformed document"
  | .noSection name => name ++ " is not a section"
  | .mistyped key => key ++ " has a value of the wrong type"
  | .missing key => key ++ " is missing"

namespace Settings

/-! ### Sections -/

/-- The settings of a section: by their keys, or in the order of the keys. -/
inductive Section where
  | keyed (entries : List (String × Setting))
  | listed (settings : List Setting)

namespace Section

/-- The section that a setting is. -/
def ofSetting? : Setting → Option Section
  | .table entries => some (.keyed entries)
  | .list settings => some (.listed settings)
  | _ => none

/-- The setting of a key, given the place of the key in the section. -/
def get? (s : Section) (place : Nat) (key : String) : Option Setting :=
  match s with
  | .keyed entries => Setting.lookup key entries
  | .listed settings => settings[place]?

/-- Read the setting of a key; a key that is not set has its default. -/
def read {α : Type} (s : Section) (place : Nat) (key : String) (as? : Setting → Option α)
    (default : α) : Except SettingsError α :=
  match s.get? place key with
  | none => .ok default
  | some setting =>
    match as? setting with
    | some result => .ok result
    | none => .error (.mistyped key)

end Section

/-- Read a section with a name; one that is not set has its default. -/
def readSection {α : Type} (root : Setting) (name : String)
    (read : Section → Except SettingsError α) (default : α) : Except SettingsError α :=
  match Setting.lookup name root.entries with
  | none => .ok default
  | some setting =>
    match Section.ofSetting? setting with
    | some s => read s
    | none => .error (.noSection name)

/-- Read the profile. -/
def readProfile (reading : Reading) (s : Section) : Except SettingsError ProfileSettings := do
  let uri ← s.read 0 "uri" (fun setting => (setting.asText? reading).map some) none
  let password ← s.read 1 "password" (·.asText? reading) ""
  let displayName ← s.read 2 "display_name" (·.asOptionalText? reading) none
  let authUsername ← s.read 3 "auth_username" (·.asOptionalText? reading) none
  let sendKeepalive ← s.read 4 "send_keepalive" (·.asFlag? reading) false
  match uri with
  | some uri => return ⟨uri, password, displayName, authUsername, sendKeepalive⟩
  | none => .error (.missing "uri")

/-- Read the times of registration. -/
def readRegistration (reading : Reading) (s : Section) :
    Except SettingsError RegistrationSettings := do
  let plain := RegistrationSettings.default
  let expiry ← s.read 0 "expiry" (·.asNumber? reading) plain.expiry
  let shortExpiry ← s.read 1 "short_expiry" (·.asNumber? reading) plain.shortExpiry
  let minExpiry ← s.read 2 "min_expiry" (·.asNumber? reading) plain.minExpiry
  let maxBackoff ← s.read 3 "max_backoff" (·.asNumber? reading) plain.maxBackoff
  let keepaliveInterval ←
    s.read 4 "keepalive_interval" (·.asNumber? reading) plain.keepaliveInterval
  return ⟨expiry, shortExpiry, minExpiry, maxBackoff, keepaliveInterval⟩

/-- Read all settings. -/
def ofSetting (reading : Reading) (root : Setting) : Except SettingsError Settings := do
  let plain := Settings.default
  let profile ← readSection root "profile" (readProfile reading) plain.profile
  let registration ← readSection root "registration" (readRegistration reading) plain.registration
  let logLevel ←
    readSection root "logging" (·.read 0 "level" (·.asText? reading) plain.logLevel) plain.logLevel
  return ⟨profile, registration, logLevel⟩

/-- The root of the settings in a TOML document. -/
def readDocument (reading : Reading) (document : String) : Except SettingsError Setting :=
  match (Toml.parse document).bind (Setting.ofTable? reading) with
  | some root => .ok root
  | none => .error .malformed

/-- The settings in a TOML document. -/
def ofToml (text : String) : Except SettingsError Settings := do
  let root ← readDocument .strict text
  ofSetting .strict root

/-! ### Variables -/

/-- What the names of the agent's variables start with, in any letter case. -/
def variableMark : String :=
  "sipua__"

/-- A text with a point for every two underscores. -/
def dotted : List Char → List Char
  | '_' :: '_' :: rest => '.' :: dotted rest
  | c :: rest => c :: dotted rest
  | [] => []

/-- The path of the setting that a variable stands for, if it is one of the agent's: what follows
the mark in its name, in lower case, where two underscores count as a point. -/
def variablePath? (name : String) : Option Path :=
  (dropWord variableMark.toList (lowerName name).toList).map fun rest =>
    Path.read (dotted rest)

/-- Set what a variable says, if it is one of the agent's. -/
def applyVariable (root : Setting) (entry : String × String) : Setting :=
  match variablePath? entry.1 with
  | none => root
  | some path => root.set (.text entry.2) path

/-- Set what a key at the root of a document says. -/
def applyEntry (root : Setting) (entry : String × Setting) : Setting :=
  root.set entry.2 (Path.ofKey entry.1)

/-- The settings at the root of a document, by their paths. -/
def readFile (text : String) : Except SettingsError Setting := do
  match ← readDocument .lenient (Toml.withoutMark text) with
  | .table entries => return entries.foldl applyEntry (.table [])
  | _ => .error .malformed

/-- The settings in a TOML document, if there is one, as variables override them. -/
def load (document : Option String) (overrides : List (String × String)) :
    Except SettingsError Settings := do
  let root ← document.elim (.ok (.table [])) readFile
  ofSetting .lenient (overrides.foldl applyVariable root)

/-- A fault in settings, as the agent reports it. -/
def reportError {α : Type} (result : Except SettingsError α) : Except AgentError α :=
  result.mapError fun e => .config e.message

end Settings

end SipAgent
