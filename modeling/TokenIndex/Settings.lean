import TokenIndex.Text.Utf8

namespace TokenIndex

abbrev Environment := List (Text × Text)

inductive SettingError where
  | missing (name : Text)
  /-- The name of a variable is no sequence of bytes. -/
  | badName (e : Utf8.EncodeFault)
  deriving DecidableEq, Repr

def SettingError.message : SettingError → Text
  | .missing name => "Missing configuration for " ++ name
  | .badName e => e.message

/-- Why a text cannot be the value of a variable. -/
inductive ValueError where
  | unencodable (e : Utf8.EncodeFault)
  | hasNul
  deriving DecidableEq, Repr

def ValueError.message : ValueError → Text
  | .unencodable e => e.message
  | .hasNul => "embedded null byte"

namespace Environment

/-- A text as it is read back from the environment. -/
def stored (t : Text) : Text := Utf8.decodeKeeping (Utf8.encodeKept t)

def get? (env : Environment) (name : Text) : Option Text := env.lookup (stored name)

def unset (env : Environment) (name : Text) : Environment := env.filter (·.1 != stored name)

def set (env : Environment) (name value : Text) : Environment :=
  (stored name, stored value) :: env.unset name

/-- Sets a variable to a text that a process can be given. -/
def assign (env : Environment) (name value : Text) : Except ValueError Environment :=
  let nul : CodePoint := 0
  match Utf8.encodeFault? Utf8.standsForByte value with
  | some e => .error (.unencodable e)
  | none => if value.contains nul then .error .hasNul else .ok (env.set name value)

/-- The value of a variable, or else the default, if there is one. -/
def setting (env : Environment) (name : Text) (default : Option Text) : Except SettingError Text :=
  match Utf8.encodeFault? Utf8.standsForByte name with
  | some e => .error (.badName e)
  | none =>
    match env.get? name, default with
    | some value, _ | none, some value => .ok value
    | none, none => .error (.missing name)

def indexName : Text := "DOCSEARCH_INDEX"

def categoryName : Text := "DOCSEARCH_CATEGORY"

def apiUrlName : Text := "DOCSEARCH_API_URL"

def defaultCategory : Text := "all"

def defaultApiUrl : Text := "http://localhost:8000/api"

def index (env : Environment) : Except SettingError Text := setting env indexName none

def category (env : Environment) : Text := (env.get? categoryName).getD defaultCategory

/-- Without slashes at the end. -/
def apiUrl (env : Environment) : Text :=
  let slash : CodePoint := '/'
  Text.dropEndWhile (· = slash) ((env.get? apiUrlName).getD defaultApiUrl)

end Environment

end TokenIndex
