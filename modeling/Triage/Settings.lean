import Triage.Access.Policy
import Triage.Cache.Settings
import Triage.Reading
import Triage.Json.Reader
import Triage.Text.Lowercase

/-!
# Settings

Settings come from environment variables, whose names are read in any letter
case. Lists and objects are written as JSON. What a variable does not set has
its default.
-/

namespace Triage

open Number

structure Settings where
  appName : String := "faultline"
  environment : String := "production"
  logLevel : String := "INFO"
  requestIdHeader : String := "X-Request-Id"
  developmentEnvironments : List Text := ["local", "development", "dev", "test"]
  problemContentType : String := "application/problem+json"
  defaultSchemes : List Text := []
  fallbackSchemes : List Text := []
  policies : List (Text × List Text) := []
  cacheExpiration : Binary64 := .ofInt 300
  cacheLocalExpiration : Binary64 := .ofInt 60
  cacheFailureExpiration : Option Binary64 := some (.ofInt 30)
  deriving Repr

namespace Settings

/-- The start of the names of variables. -/
def variablePrefixText : String := "FAULTLINE_"

/-- Variables with their values, in the order in which they were set. -/
abbrev Variables := List (String × String)

/-- The value set for a field, by the last variable that names it. -/
def givenFor? (vars : Variables) (field : String) : Option String :=
  let name := Text.lowered (variablePrefixText ++ field)
  (vars.reverse.find? fun v => Text.lowered v.1 == name).map (·.2)

/-! ## Reading one field -/

/-- The value of a field that is written as JSON, unless it leaves the default. -/
def structured? (vars : Variables) (field : String) : Except Trouble (Option Value) :=
  match givenFor? vars field with
  | none => .ok none
  | some s =>
    match Json.read Json.bounded s with
    | .error ⟨.deepList, _⟩ => .error (.settingTooDeep .deepList)
    | .error ⟨.deepObject, _⟩ => .error (.settingTooDeep .deepObject)
    | .error _ => .error (.unreadableSetting field)
    | .ok .null => .ok none
    | .ok v => .ok (some v)

def textField (vars : Variables) (field default : String) : String :=
  (givenFor? vars field).getD default

/-- A field that is a list of texts. -/
def listField (field : String) (given : Option Value) (default : List Text) :
    Reading (List Text) :=
  match given with
  | none => ⟨[], default⟩
  | some v => (readTextList v).within [.key field]

/-- The lists of texts under names. -/
def readPolicies : List (Text × Value) → Reading (List (Text × List Text))
  | [] => ⟨[], []⟩
  | (name, v) :: rest =>
    let schemes := (readTextList v).within [.key name]
    let others := readPolicies rest
    ⟨schemes.issues ++ others.issues, (name, schemes.value) :: others.value⟩

/-- A field that is an object of lists of texts. -/
def policiesField (field : String) (given : Option Value) :
    Reading (List (Text × List Text)) :=
  match given with
  | none => ⟨[], []⟩
  | some (.object fields) => (readPolicies fields).within [.key field]
  | some v => ⟨[⟨[.key field], .notObject, v⟩], []⟩

/-- A field that is a number. -/
def realField {α : Type} (vars : Variables) (field : String) (wrap : Binary64 → α) (default : α) :
    Reading α :=
  match givenFor? vars field with
  | none => ⟨[], default⟩
  | some s =>
    match Binary64.readSetting? s with
    | some x => ⟨[], wrap x⟩
    | none => ⟨[⟨[.key field], .unreadableReal, .text s⟩], default⟩

/-! ## Reading all of them -/

/-- The settings that variables describe. A field that is no JSON is reported
before anything else that is wrong. -/
def ofVariables (vars : Variables) : Except Trouble Settings := do
  let base : Settings := {}
  let development ← structured? vars "development_environments"
  let defaults ← structured? vars "default_authentication_schemes"
  let fallbacks ← structured? vars "fallback_authentication_schemes"
  let policies ← structured? vars "authorization_policies"
  let development := listField "development_environments" development base.developmentEnvironments
  let defaults := listField "default_authentication_schemes" defaults base.defaultSchemes
  let fallbacks := listField "fallback_authentication_schemes" fallbacks base.fallbackSchemes
  let policies := policiesField "authorization_policies" policies
  let expiration := realField vars "cache_expiration_seconds" id base.cacheExpiration
  let localExpiration :=
    realField vars "cache_local_expiration_seconds" id base.cacheLocalExpiration
  let failureExpiration :=
    realField vars "cache_failure_expiration_seconds" some base.cacheFailureExpiration
  let issues := development.issues ++ defaults.issues ++ fallbacks.issues ++ policies.issues ++
    expiration.issues ++ localExpiration.issues ++ failureExpiration.issues
  if issues.isEmpty then
    return {
      appName := textField vars "app_name" base.appName
      environment := textField vars "env" base.environment
      logLevel := textField vars "log_level" base.logLevel
      requestIdHeader := textField vars "request_id_header" base.requestIdHeader
      developmentEnvironments := development.value
      problemContentType := textField vars "problem_content_type" base.problemContentType
      defaultSchemes := defaults.value
      fallbackSchemes := fallbacks.value
      policies := policies.value
      cacheExpiration := expiration.value
      cacheLocalExpiration := localExpiration.value
      cacheFailureExpiration := failureExpiration.value }
  else throw (.invalid "Settings" issues)

/-! ## What follows from settings -/

def cacheSettings (s : Settings) : Except Trouble CacheSettings :=
  CacheSettings.ofConfigured (.real s.cacheExpiration) (.real s.cacheLocalExpiration)
    (s.cacheFailureExpiration.map .real)

def provider (s : Settings) : Provider := .ofLists s.policies s.defaultSchemes s.fallbackSchemes

/-- A name as environments are compared by. -/
def environmentKey (name : String) : String := String.ofList (Text.lower (Text.trim name.toList))

/-- The keys of the names that are not blank. One with half of a surrogate pair is the name of
no environment. -/
def environmentKeys (names : List Text) : List String :=
  let names := (names.filter (·.isWhole)).map Text.string
  (names.filter (!Text.isBlankText ·)).map environmentKey

/-- Whether an environment is one of those for development. -/
def isDevelopmentName (name : String) (names : List Text) : Bool :=
  (environmentKeys names).contains (environmentKey name)

/-- Whether the application runs for development. -/
def isDevelopment (s : Settings) : Bool :=
  isDevelopmentName s.environment s.developmentEnvironments

def toValue (s : Settings) : Value := .object [
  ("app_name", .text s.appName),
  ("env", .text s.environment),
  ("log_level", .text s.logLevel),
  ("request_id_header", .text s.requestIdHeader),
  ("development_environments", .list (s.developmentEnvironments.map .text)),
  ("problem_content_type", .text s.problemContentType),
  ("default_authentication_schemes", .list (s.defaultSchemes.map .text)),
  ("fallback_authentication_schemes", .list (s.fallbackSchemes.map .text)),
  ("authorization_policies",
    .object (s.policies.map fun p => (p.1, .list (p.2.map .text)))),
  ("cache_expiration_seconds", .float s.cacheExpiration),
  ("cache_local_expiration_seconds", .float s.cacheLocalExpiration),
  ("cache_failure_expiration_seconds",
    match s.cacheFailureExpiration with
    | some x => .float x
    | none => .null)]

end Settings

end Triage
