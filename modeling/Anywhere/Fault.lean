import Anywhere.LogicalType
import Anywhere.Number.Shortest
import Anywhere.Text.Blank

/-!
# What can go wrong

A failure is a cause, and its wording is a function of the cause. Failures that the client library
reports carry the code, the message and the SQL text; the code, and for one code whether the
statement reads or writes, decide which kind of failure the caller sees.
-/

namespace Anywhere

/-- A failure reported by the client library for one SQL text. -/
structure ClientError where
  code : Int
  message : String
  sql : String
deriving DecidableEq, Repr

namespace ClientError

/-- The statement is a query: its text begins with the word's six letters. -/
def isSelect (e : ClientError) : Bool :=
  ((Text.dropBlanks e.sql.toList).take 6).map Char.toLower == "select".toList

/-- Message, code and SQL text in one line. -/
def describe (e : ClientError) : String :=
  e.message ++ " (code " ++ Number.ofInt e.code ++ "): " ++ e.sql

end ClientError

/-- Why there is no session. -/
inductive ConnectionFault where
  | notAllocated
  | refused (code : Int) (message : String)
  | disconnected
deriving DecidableEq, Repr

/-- Why the client library cannot be used. -/
inductive InterfaceFault where
  | notInitialized
  | notReinitialized (process : Nat)
deriving DecidableEq, Repr

/-- Why a call was refused before it reached the client library. -/
inductive ArgumentFault where
  | unknownLogicalType (name : String)
  /-- Values of this type have no literal. -/
  | unquotable (type : LogicalType)
  | invalidDecimalText (text : String)
  | invalidDecimalDouble (value : Number.Double)
  | tooManyParameters (count : Nat)
  | noColumns
deriving DecidableEq, Repr

/-- Why a text cannot be read. -/
inductive ParseFault where
  | entryExpected (found : String)
  | emptyParameterName
  | trailingContent (type rest : String)
  | invalidTypeName (type : String)
deriving DecidableEq, Repr

/-- Why there are no connection settings. -/
inductive ConfigFault where
  | missingDatabase
  | unsupportedEncoding (name : String)
  | malformed
  | notFound (paths : List String)
deriving DecidableEq, Repr

/-- A failure of the adapter. -/
inductive Fault where
  /-- A session could not be established, or is closed. -/
  | connection (cause : ConnectionFault)
  /-- The client library could not be initialized. -/
  | interface (cause : InterfaceFault)
  /-- A statement failed. -/
  | statement (error : ClientError)
  | foreignKeyViolation (error : ClientError)
  | uniqueViolation (error : ClientError)
  /-- The client library rejected an argument. -/
  | invalidArgument (error : ClientError)
  /-- A statement asked for something that is not supported. -/
  | unsupported (error : ClientError)
  /-- The call was refused. -/
  | argument (cause : ArgumentFault)
  /-- A text could not be read; the position counts bytes of UTF-8. -/
  | parse (position : Nat) (cause : ParseFault)
  | config (cause : ConfigFault)
  /-- A file could not be read. -/
  | file (path : String)
deriving DecidableEq, Repr

/-! ## Wording -/

def ConnectionFault.message : ConnectionFault → String
  | notAllocated => "could not allocate a native connection"
  | refused code message =>
    message ++ " (code " ++ Number.ofInt code ++ "): Cannot Establish Connection"
  | disconnected => "session is disconnected"

def InterfaceFault.message : InterfaceFault → String
  | notInitialized => "the native driver interface could not be initialized"
  | notReinitialized process =>
    "the native driver interface could not be reinitialized in process " ++ Number.ofNat process

def ArgumentFault.message : ArgumentFault → String
  | unknownLogicalType name => "Unknown logical type: '" ++ name ++ "'"
  | unquotable type => type.name ++ " must be bound as a parameter, not quoted"
  | invalidDecimalText text => "Invalid decimal '" ++ text ++ "'"
  | invalidDecimalDouble value => "Invalid decimal " ++ value.toText
  | tooManyParameters count => "too many bind parameters: " ++ Number.ofNat count
  | noColumns => "missing column name(s) for remove_column"

def ParseFault.message : ParseFault → String
  | entryExpected found => "expected key=value, found '" ++ found ++ "'"
  | emptyParameterName => "empty connection parameter name"
  | trailingContent type rest =>
    "Unexpected trailing content in type '" ++ type ++ "': '" ++ rest ++ "'"
  | invalidTypeName type => "Invalid type name: '" ++ type ++ "'"

def ConfigFault.message : ConfigFault → String
  | missingDatabase => "missing 'database' in connection settings"
  | unsupportedEncoding name => "unsupported encoding '" ++ name ++ "'"
  | malformed => "the settings are malformed"
  | notFound paths => "no configuration found (looked in " ++ ", ".intercalate paths ++ ")"

namespace Fault

/-- The text shown for a failure. -/
def message : Fault → String
  | connection cause => "Connection error: " ++ cause.message
  | interface cause => "Interface error: " ++ cause.message
  | statement error => "Statement error: " ++ error.describe
  | foreignKeyViolation error => "Foreign key violation: " ++ error.describe
  | uniqueViolation error => "Uniqueness violation: " ++ error.describe
  | invalidArgument error => "Invalid argument: " ++ error.describe
  | unsupported error => "Adapter error: " ++ error.describe
  | argument cause => "Argument error: " ++ cause.message
  | parse position cause =>
    "Parse error at position " ++ Number.ofNat position ++ ": " ++ cause.message
  | config cause => "Configuration error: " ++ cause.message
  | file path => "IO error: " ++ path

/-- The failure of the client library behind a failure, if there is one. -/
def clientError? : Fault → Option ClientError
  | statement error => some error
  | foreignKeyViolation error => some error
  | uniqueViolation error => some error
  | invalidArgument error => some error
  | unsupported error => some error
  | _ => none

/-- A constraint of the schema was violated. -/
def isConstraintViolation : Fault → Bool
  | foreignKeyViolation _ => true
  | uniqueViolation _ => true
  | _ => false

end Fault

/-! ## Codes of the client library -/

namespace ClientError

/-- A feature is not supported in the context of the statement. -/
def featureNotSupported : Int := -143

/-- An argument did not pass a check. -/
def badArgument : Int := -183

/-- There is no primary key value for a foreign key. -/
def noPrimaryKeyValue : Int := -194

/-- An index would not be unique any more. -/
def indexNotUnique : Int := -196

/-- The failure that the caller sees. An unsupported feature counts against the statement when it
only reads. -/
def toFault (e : ClientError) : Fault :=
  if e.code = featureNotSupported ∧ e.isSelect = false then .unsupported e
  else if e.code = noPrimaryKeyValue then .foreignKeyViolation e
  else if e.code = indexNotUnique then .uniqueViolation e
  else if e.code = badArgument then .invalidArgument e
  else .statement e

/-- Nothing of the report is lost. -/
theorem clientError?_toFault (e : ClientError) : e.toFault.clientError? = some e := by
  unfold toFault
  split
  · rfl
  split
  · rfl
  split
  · rfl
  split <;> rfl

end ClientError

end Anywhere
