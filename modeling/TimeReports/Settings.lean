import TimeReports.Document.Blocks
import TimeReports.Execution.Basic
import TimeReports.Harvest.Listing
import TimeReports.Number.Read
import TimeReports.Session.Poller
import TimeReports.Text.LowerCase

set_option autoImplicit false

namespace TimeReports

structure Settings where
  databasePath : Text
  outputDirectory : Text
  vaultDirectory : Text
  accessToken : Text
  accountId : Text
  apiUrl : Text
  timeoutSeconds : Float
  pollingMinutes : Int
  apiKey : Text
  apiHost : Text
  apiPort : Int
  apiDebug : Bool

namespace Settings

/-- Why settings are not loaded. -/
inductive Fault where
  | notFloat (value : Text)
  | notWhole (value : Text)
  | tooManyDigits (digits : Nat)
  deriving DecidableEq, Repr

/-- How much of a value in quotes is shown when it is no whole number. -/
def shownLength : Nat := 200

/-- What is said when settings are not loaded. -/
def Fault.message : Fault → Text
  | .notFloat value => "could not convert string to float: ".text ++ Text.quoted value
  | .notWhole value =>
    "invalid literal for int() with base 10: ".text ++ (Text.quoted value).take shownLength
  | .tooManyDigits digits => Number.tooLongMessage digits

/-- A path without empty steps and steps to the same place. -/
def tidyPath (path : Text) : Text := (Vault.Given.ofText path).toText

def readWhole (value : Text) : Except Fault Int :=
  match Number.readWhole value with
  | .ok n => .ok n
  | .error .malformed => .error (.notWhole value)
  | .error (.tooLong digits) => .error (.tooManyDigits digits)

def readFloat (value : Text) : Except Fault Float :=
  match Number.readSetting? value with
  | some x => .ok x
  | none => .error (.notFloat value)

def pollingMinutes? (value : Text) : Except Fault Int :=
  let trimmed := Text.trim value
  if trimmed.isEmpty || !trimmed.all Text.isDigit then .ok Session.defaultInterval
  else do
    let minutes ← readWhole trimmed
    .ok (if 0 < minutes then minutes else Session.defaultInterval)

/-- The settings of an environment, for a project that lies in a directory. -/
def load (root : Text) (environment : List (Text × Text)) : Except Fault Settings := do
  let setting (name : String) (absent : Text) : Text :=
    (environment.lookup name.text).getD absent
  let timeoutSeconds ← readFloat (setting "HARVEST_TIMEOUT_SECONDS" "30".text)
  let pollingMinutes ← pollingMinutes? (setting "POLLING_INTERVAL_MINUTES" [])
  let apiPort ← readWhole (setting "API_PORT" "8000".text)
  .ok {
    databasePath := tidyPath (setting "HQL_DB_PATH" (root ++ "/data/db/harvest-hql.db".text))
    outputDirectory := root ++ "/output".text
    vaultDirectory := tidyPath (setting "HQL_VAULT_DIR" (root ++ "/vault".text))
    accessToken := setting "HARVEST_ACCESS_TOKEN" []
    accountId := setting "HARVEST_ACCOUNT_ID" []
    apiUrl := setting "HARVEST_API_URL" "https://api.harvestapp.com/v2".text
    timeoutSeconds
    pollingMinutes
    apiKey := setting "HQL_API_KEY" []
    apiHost := setting "API_HOST" "0.0.0.0".text
    apiPort
    apiDebug := Text.lower (setting "API_DEBUG" "false".text) = "true".text }

/-- The client in use: the one that was made, or else a new one with the credentials. -/
def client (settings : Settings) (pageBudget : Nat) (made : Option Harvest.Client) :
    Harvest.Client :=
  made.getD ⟨settings.accessToken, settings.accountId, pageBudget⟩

def version : Text := "1.0.0".text

/-- The settings and the constants of the library, by name. -/
def listing (settings : Settings) : List (String × Json) :=
  let texts (items : List Text) : Json := .array (items.map .string)
  [("DB_PATH", .string settings.databasePath),
    ("OUTPUT_DIR", .string settings.outputDirectory),
    ("VAULT_DIR", .string settings.vaultDirectory),
    ("HARVEST_ACCESS_TOKEN", .string settings.accessToken),
    ("HARVEST_ACCOUNT_ID", .string settings.accountId),
    ("HARVEST_API_URL", .string settings.apiUrl),
    ("HARVEST_USER_AGENT", .string Harvest.Client.userAgent),
    ("HARVEST_TIMEOUT_SECONDS", .float settings.timeoutSeconds),
    ("HARVEST_PER_PAGE", .int Harvest.Client.entriesPerPage),
    ("DEFAULT_POLLING_INTERVAL_MINUTES", .int Session.defaultInterval),
    ("POLLING_INTERVAL_MINUTES", .int settings.pollingMinutes),
    ("RECENT_PROJECT_DAYS", .int Harvest.Client.recentDays),
    ("QUERY_BLOCK_LANGUAGE", .string Document.queryLanguage),
    ("STATIC_FLAG", .string Query.staticFlag),
    ("LIST_HEADERS", texts Display.listHeaders),
    ("SUMMARY_HEADING", .string Display.summaryHeading),
    ("CHART_PALETTE", texts Display.palette),
    ("LOADING_MESSAGE", .string Execution.loadingMessage),
    ("NO_ENTRIES_MESSAGE", .string Display.noEntriesMessage),
    ("FETCH_FAILED_MESSAGE", .string Execution.fetchFailedMessage),
    ("PARSE_ERROR_PREFIX", .string Execution.parseFailedStart),
    ("REWRITE_ERROR_PREFIX", .string Execution.replaceFailedStart),
    ("HQL_API_KEY", .string settings.apiKey),
    ("API_HOST", .string settings.apiHost),
    ("API_PORT", .int settings.apiPort),
    ("API_DEBUG", .bool settings.apiDebug),
    ("API_VERSION", .string version)]

end Settings
end TimeReports
