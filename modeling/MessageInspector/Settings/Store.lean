import MessageInspector.Settings.Environment
/-!
# Saved settings

Settings are kept in one file, in a directory that is made when it is needed. Loading never fails:
without a document that can be read, the defaults apply. Saving replaces the whole file or has no
effect, whether something is in the way or the system refuses to make the directory or to write.
-/
namespace MessageInspector

/-- What is found where the settings are kept. -/
inductive SettingsStore
  /-- There is no file, and perhaps no directory. -/
  | missing
  | file (bytes : List UInt8)
  /-- A plain file sits in the place of the directory. -/
  | directoryBlocked
  /-- A directory sits in the place of the file. -/
  | fileBlocked
deriving DecidableEq, Repr

inductive SettingsError
  | unreadable (fault : Json.Fault)
  | noDirectory
  | notWritten
deriving DecidableEq, Repr

namespace SettingsError

def detail : String := "<detail>"

def message : SettingsError → String
  | unreadable _ => "parse config: " ++ detail
  | noDirectory => "create config dir: " ++ detail
  | notWritten => "write config: " ++ detail

end SettingsError

namespace SettingsStore

def text? : SettingsStore → Option String
  | file bytes => Utf8.decode? bytes
  | _ => none

/-- The settings of the file, and whether its document had to be ignored. -/
def document (store : SettingsStore) : Settings × Bool :=
  match store.text? with
  | none => (.default, false)
  | some text =>
    match Settings.ofText text with
    | .ok settings => (settings, false)
    | .error _ => (.default, true)

def load (store : SettingsStore) (environment : Environment) : Settings × Bool :=
  (store.document.1.withEnvironment environment, store.document.2)

/-- Save settings as they are. -/
def save (store : SettingsStore) (settings : Settings) : Except SettingsError SettingsStore :=
  match store with
  | directoryBlocked => .error .noDirectory
  | fileBlocked => .error .notWritten
  | missing => .ok (file (Utf8.ofString settings.document))
  | file _ => .ok (file (Utf8.ofString settings.document))

/-- What a save asks of the system, in this order. -/
inductive SaveStep
  | makeDirectory
  | writeFile
deriving DecidableEq, Repr

/-- The error of a save of which the system refuses a step. What blocks the directory comes up
before the file is written. -/
def refusal (store : SettingsStore) : SaveStep → SettingsError
  | .makeDirectory => .noDirectory
  | .writeFile => if store = directoryBlocked then .noDirectory else .notWritten

inductive Action
  | load (environment : Environment)
  | save (settings : Settings)
  /-- A save of which the system refuses a step, for want of space or of permission. -/
  | saveRefused (settings : Settings) (refused : SaveStep)
  /-- Someone else puts a file there. -/
  | write (bytes : List UInt8)
  /-- File, directory and whatever blocks them are removed. -/
  | delete
  | blockDirectory
  | blockFile
  | read

inductive Reply
  | done
  | loaded (settings : Settings) (documentIgnored : Bool)
  | saved
  | failed (error : SettingsError)
  | text (text : Option String)
deriving DecidableEq, Repr

def step (store : SettingsStore) : Action → SettingsStore × Reply
  | .load environment =>
    let loaded := store.load environment
    (store, .loaded loaded.1 loaded.2)
  | .save settings =>
    match store.save settings with
    | .ok store => (store, .saved)
    | .error e => (store, .failed e)
  | .saveRefused _ refused => (store, .failed (store.refusal refused))
  | .write bytes => (file bytes, .done)
  | .delete => (missing, .done)
  | .blockDirectory => (directoryBlocked, .done)
  | .blockFile => (fileBlocked, .done)
  | .read => (store, .text store.text?)

def run (store : SettingsStore) : List Action → SettingsStore × List Reply
  | [] => (store, [])
  | action :: rest =>
    let first := store.step action
    let last := run first.1 rest
    (last.1, first.2 :: last.2)

end SettingsStore
end MessageInspector
