/-!
# What can go wrong

One type for every way in which building or querying a mart fails, each with what its message tells.
`Fault.message` holds the wording. A fault is the caller's when it comes from compiling a request.
-/

namespace DataMart

/-- A failure of the mart. -/
inductive Fault where
  /-- The source cannot be reached. -/
  | sourceUnavailable (reason : String)
  /-- The source refused a query or gave rows of no use. -/
  | sourceQuery (reason : String)
  /-- A batch has other columns than the table it goes to. -/
  | schemaMismatch (table expected found : String)
  /-- A batch is to be appended to a table that is not there. -/
  | missingTable (table : String)
  /-- A load was asked to create or append out of turn. -/
  | loadOrder (table reason : String)
  /-- The mart's engine failed while a table was written or looked at. -/
  | load (table reason : String)
  /-- A table holds another number of rows than were written. -/
  | verificationFailed (table : String) (written counted : Nat)
  /-- The mart file is missing or cannot be opened. -/
  | destinationUnavailable (reason : String)
  /-- A filter names an operator that does not exist. -/
  | unsupportedOperator (name : String)
  /-- An ordering names a direction that does not exist. -/
  | invalidDirection (column direction : String)
  /-- A request is not well formed. -/
  | invalidRequest (reason : String)
  /-- The mart's engine refused a compiled query. -/
  | execution (sql reason : String)
  /-- A report is not in the catalog. -/
  | unknownReport (name : String)
  /-- The configuration is of no use. -/
  | config (reason : String)
  /-- A file could not be read or written. -/
  | io (reason : String)
  deriving DecidableEq, Repr

namespace Fault

/-- The wording of a fault. -/
def message : Fault → String
  | sourceUnavailable reason => "Source unavailable: " ++ reason
  | sourceQuery reason => "Source query error: " ++ reason
  | schemaMismatch table expected found =>
    "Schema mismatch on '" ++ table ++ "': expected [" ++ expected ++ "], found [" ++ found ++ "]"
  | missingTable table => "Table '" ++ table ++ "' does not exist in the mart"
  | loadOrder table reason => "Invalid load order for '" ++ table ++ "': " ++ reason
  | load table reason => "Load error on '" ++ table ++ "': " ++ reason
  | verificationFailed table written counted =>
    "Verification failed for '" ++ table ++ "': wrote " ++ toString written ++
      " rows, table has " ++ toString counted
  | destinationUnavailable reason => "Destination unavailable: " ++ reason
  | unsupportedOperator name => "Unsupported operator: '" ++ name ++ "'"
  | invalidDirection column direction =>
    "Invalid order direction '" ++ direction ++ "' for column '" ++ column ++
      "'. Expected: asc or desc"
  | invalidRequest reason => "Invalid request: " ++ reason
  | execution sql reason => "Query execution error: " ++ reason ++ " (query: " ++ sql ++ ")"
  | unknownReport name => "Unknown report: '" ++ name ++ "'"
  | config reason => "Configuration error: " ++ reason
  | io reason => "IO error: " ++ reason

/-- Whether a fault lies in the request itself. -/
def isRequestFault : Fault → Bool
  | unsupportedOperator _ => true
  | invalidDirection _ _ => true
  | invalidRequest _ => true
  | unknownReport _ => true
  | _ => false

end Fault

end DataMart
