import ServerComponents.Text.Conninfo

/-!
# Connection strings of the database

The settings come from the environment and are joined into the string that a connection is
opened with.
-/

namespace ServerComponents
namespace Transactions

open Conninfo

structure Build where
  windows : Bool
  release : Bool

abbrev Environment := String -> Option String

def getEnvWithFallback (env : Environment) (primary fallback : String) : Option String :=
  match env primary with
  | some value => some value
  | none => env fallback

def dbEnvOr (env : Environment) (canonical legacy fallback : String) : String :=
  match getEnvWithFallback env canonical legacy with
  | none => fallback
  | some value => if value = "" then fallback else value

structure DatabaseHelperInit where
  user : String
  host : String
  password : String
  port : String
  dbname : String
  sslMode : String
  sslRootCert : String

namespace DatabaseHelperInit

def make (build : Build) (env : Environment) (defaultDatabaseName : String) :
    DatabaseHelperInit where
  user := dbEnvOr env "HONUWARE_DB_USER" "KNOTTYYOGA_DB_USER" "docker"
  host := dbEnvOr env "HONUWARE_DB_HOST" "KNOTTYYOGA_DB_HOST"
    (if build.windows then "localhost" else "postgresql")
  password := dbEnvOr env "HONUWARE_DB_PASSWORD" "KNOTTYYOGA_DB_PASSWORD" "docker"
  port := dbEnvOr env "HONUWARE_DB_PORT" "KNOTTYYOGA_DB_PORT" "5432"
  dbname := dbEnvOr env "HONUWARE_DB_NAME" "KNOTTYYOGA_DB_NAME" defaultDatabaseName
  sslMode := dbEnvOr env "HONUWARE_DB_SSLMODE" "KNOTTYYOGA_DB_SSLMODE"
    (if build.release then "prefer" else "")
  sslRootCert := dbEnvOr env "HONUWARE_DB_SSLROOTCERT" "KNOTTYYOGA_DB_SSLROOTCERT" ""

def connectionLivenessOptions : String :=
  "keepalives=1 keepalives_idle=60 keepalives_interval=10 " ++
    "keepalives_count=3 tcp_user_timeout=30000"

variable (init : DatabaseHelperInit)

def getConnectionString : String :=
  "user=" ++ init.user ++ " host=" ++ init.host ++ " password=" ++ init.password ++
    " port=" ++ init.port ++
    (if init.dbname = "" then "" else " dbname=" ++ init.dbname) ++
    (if init.sslMode = "" then "" else " sslmode=" ++ init.sslMode) ++
    (if init.sslRootCert = "" then "" else " sslrootcert=" ++ init.sslRootCert) ++
    " " ++ connectionLivenessOptions

/-- The settings that have no default for an empty value. -/
structure Complete : Prop where
  user : init.user ≠ ""
  host : init.host ≠ ""
  password : init.password ≠ ""
  port : init.port ≠ ""

theorem dbEnvOr_ne_empty {env : Environment} {canonical legacy fallback : String}
    (h : fallback ≠ "") : dbEnvOr env canonical legacy fallback ≠ "" := by
  unfold dbEnvOr
  split
  · exact h
  · split
    · exact h
    · assumption

theorem complete_make (build : Build) (env : Environment) (defaultDatabaseName : String) :
    (make build env defaultDatabaseName).Complete where
  user := dbEnvOr_ne_empty (by decide)
  host := by
    refine dbEnvOr_ne_empty ?_
    split
    · decide
    · decide
  password := dbEnvOr_ne_empty (by decide)
  port := dbEnvOr_ne_empty (by decide)

/-!
# Settings of a string
-/

def setting (name value : String) : Setting :=
  (name.toList, value.toList)

def optionalSetting (name value : String) : List Setting :=
  if value = "" then [] else [setting name value]

def livenessSettings : List Setting :=
  [setting "keepalives" "1", setting "keepalives_idle" "60",
    setting "keepalives_interval" "10", setting "keepalives_count" "3",
    setting "tcp_user_timeout" "30000"]

def settings : List Setting :=
  [setting "user" init.user, setting "host" init.host, setting "password" init.password,
    setting "port" init.port] ++
    optionalSetting "dbname" init.dbname ++ optionalSetting "sslmode" init.sslMode ++
    optionalSetting "sslrootcert" init.sslRootCert ++ livenessSettings

/-- Each keyword has its value in the string, an empty one is absent, and there is no other
keyword. -/
def RoundTrips : Prop :=
  exists found, parse init.getConnectionString.toList = some found ∧
    forall name, valueOf name found = valueOf name init.settings

/-- A text without blanks and backslashes that does not begin with a quote. -/
def PlainText (text : String) : Prop :=
  PlainValue text.toList

instance (text : String) : Decidable (PlainText text) :=
  inferInstanceAs (Decidable (PlainValue _))

structure PlainSettings : Prop where
  user : PlainText init.user
  host : PlainText init.host
  password : PlainText init.password
  port : PlainText init.port
  dbname : PlainText init.dbname
  sslMode : PlainText init.sslMode
  sslRootCert : PlainText init.sslRootCert

theorem settings_ne_nil : init.settings ≠ [] := by
  simp [settings]

theorem getConnectionString_toList :
    init.getConnectionString.toList = writtenAll init.settings := by
  have hliveness : connectionLivenessOptions.toList = writtenAll livenessSettings := by
    decide +kernel
  unfold getConnectionString settings optionalSetting
  split <;> split <;> split <;>
    simp [writtenAll, written, setting, hliveness, livenessSettings]

def keywords : List (List Char) :=
  ["user", "host", "password", "port", "dbname", "sslmode", "sslrootcert", "keepalives",
    "keepalives_idle", "keepalives_interval", "keepalives_count", "tcp_user_timeout"].map
      String.toList

theorem keywords_optionalSetting (name value : String) :
    ((optionalSetting name value).map Prod.fst).Sublist [name.toList] := by
  unfold optionalSetting
  split
  · exact List.nil_sublist _
  · exact List.Sublist.refl _

theorem keywords_settings : (init.settings.map Prod.fst).Sublist keywords := by
  unfold settings
  rw [List.map_append, List.map_append, List.map_append, List.map_append]
  have hrequired := List.Sublist.refl
    (["user", "host", "password", "port"].map String.toList)
  have hliveness := List.Sublist.refl (livenessSettings.map Prod.fst)
  exact (((hrequired.append (keywords_optionalSetting "dbname" init.dbname)).append
    (keywords_optionalSetting "sslmode" init.sslMode)).append
      (keywords_optionalSetting "sslrootcert" init.sslRootCert)).append hliveness

theorem nodup_settings : (init.settings.map Prod.fst).Nodup := by
  have hkeywords : keywords.Nodup := by decide +kernel
  exact hkeywords.sublist init.keywords_settings

theorem plainName_of_mem_keywords : forall name, name ∈ keywords -> PlainName name := by
  decide +kernel

variable {init}

theorem mem_optionalSetting {name value : String} {s : Setting} :
    s ∈ optionalSetting name value <-> value ≠ "" ∧ s = setting name value := by
  unfold optionalSetting
  split
  · rename_i hvalue
    simp [hvalue]
  · rename_i hvalue
    simp [hvalue]

theorem toList_ne_nil {text : String} (h : text ≠ "") : text.toList ≠ [] :=
  fun heq => h (String.toList_eq_nil_iff.mp heq)

theorem forall_settings {holds : Setting -> Prop} :
    (forall s, s ∈ init.settings -> holds s) <->
      (holds (setting "user" init.user) ∧ holds (setting "host" init.host) ∧
        holds (setting "password" init.password) ∧ holds (setting "port" init.port)) ∧
      (init.dbname ≠ "" -> holds (setting "dbname" init.dbname)) ∧
      (init.sslMode ≠ "" -> holds (setting "sslmode" init.sslMode)) ∧
      (init.sslRootCert ≠ "" -> holds (setting "sslrootcert" init.sslRootCert)) ∧
      forall s, s ∈ livenessSettings -> holds s := by
  simp only [settings, List.forall_mem_append, List.forall_mem_cons, List.not_mem_nil,
    mem_optionalSetting, and_imp, forall_eq_apply_imp_iff, false_imp_iff, forall_const,
    and_true, and_assoc]

theorem value_ne_nil (h : init.Complete) {s : Setting} (hs : s ∈ init.settings) :
    s.2 ≠ [] := by
  have hall : forall s, s ∈ init.settings -> s.2 ≠ [] := by
    refine forall_settings.mpr ⟨⟨?_, ?_, ?_, ?_⟩, ?_, ?_, ?_, ?_⟩
    · exact toList_ne_nil h.user
    · exact toList_ne_nil h.host
    · exact toList_ne_nil h.password
    · exact toList_ne_nil h.port
    · exact toList_ne_nil
    · exact toList_ne_nil
    · exact toList_ne_nil
    · decide
  exact hall s hs

theorem plainText_empty : PlainText "" := by decide

theorem plain_of_present {text : String} (h : text ≠ "" -> PlainText text) :
    PlainText text := by
  by_cases hempty : text = ""
  · rw [hempty]
    exact plainText_empty
  · exact h hempty

theorem plainSettings_iff :
    init.PlainSettings <-> forall s, s ∈ init.settings -> PlainValue s.2 := by
  rw [forall_settings]
  constructor
  · intro h
    exact ⟨⟨h.user, h.host, h.password, h.port⟩, fun _ => h.dbname, fun _ => h.sslMode,
      fun _ => h.sslRootCert, by decide⟩
  · rintro ⟨⟨huser, hhost, hpassword, hport⟩, hdbname, hsslMode, hsslRootCert, -⟩
    exact ⟨huser, hhost, hpassword, hport, plain_of_present hdbname,
      plain_of_present hsslMode, plain_of_present hsslRootCert⟩

theorem roundTrips_iff (h : init.Complete) : init.RoundTrips <-> init.PlainSettings := by
  have hnames : forall s, s ∈ init.settings -> PlainName s.1 ∧ s.2 ≠ [] := fun s hs =>
    ⟨plainName_of_mem_keywords _ (init.keywords_settings.subset (List.mem_map_of_mem hs)),
      value_ne_nil h hs⟩
  rw [plainSettings_iff, <- roundTrip_iff init.settings_ne_nil init.nodup_settings hnames,
    RoundTrips, getConnectionString_toList]
  rfl

def blankPassword : Environment
  | "HONUWARE_DB_PASSWORD" => some "open sesame"
  | _ => none

theorem blankPassword_not_roundTrips :
    (make ⟨false, true⟩ blankPassword "honuware").Complete ∧
      Not (make ⟨false, true⟩ blankPassword "honuware").RoundTrips := by
  refine ⟨complete_make _ _ _, ?_⟩
  rintro ⟨found, hparse, -⟩
  have hfails : parse (make ⟨false, true⟩ blankPassword "honuware").getConnectionString.toList =
      none := by
    decide +kernel
  rw [hfails] at hparse
  cases hparse

theorem roundTrips_defaults : (make ⟨false, true⟩ (fun _ => none) "honuware").RoundTrips :=
  (roundTrips_iff (complete_make _ _ _)).mpr
    ⟨by decide, by decide, by decide, by decide, by decide, by decide, by decide⟩

end DatabaseHelperInit
end Transactions
end ServerComponents
