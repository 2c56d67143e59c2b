import SearchTenancy.Connection.Address
import SearchTenancy.Connection.Integer
import SearchTenancy.Http.Exchange
import SearchTenancy.Search.Query
import SearchTenancy.Text.LetterCase

/-!
# Connecting

The settings of a connection, which come from the environment, and the attempts to
connect. An attempt needs a usable address and an answer to a ping. After a failed
attempt the mode decides: one mode gives up, the other tries again.
-/

namespace SearchTenancy

/-- What to do after a failed attempt to connect. -/
inductive ConnectionMode where
  | failFast
  | retry
  deriving DecidableEq

namespace ConnectionMode

/-- The mode that a text names, letter case aside; any other text is taken for `retry`. -/
def ofText (text : Option String) : ConnectionMode :=
  let name := String.ofList (Text.lower ((text.getD "retry").toList))
  if ["fail-fast", "failfast", "fail_fast"].contains name then failFast else retry

/-- The name of a mode. -/
def name : ConnectionMode → String
  | failFast => "FailFast"
  | retry => "Retry"

end ConnectionMode

/-- Why an attempt to connect failed. -/
inductive ConnectFault where
  | address (fault : AddressFault)
  | ping (error : SearchError)

/-- A fault of the configuration. -/
inductive ConfigFault where
  | hitsPerPage (value : String)
  | facetSize (fault : IntegerFault)
  | connect (fault : ConnectFault)

/-- The text that faults of the configuration start with. -/
def configurationError (text : String) : String := "Configuration error: " ++ text

/-- The text of a failed attempt. -/
def ConnectFault.message : ConnectFault → String
  | address fault =>
    configurationError
      ("Failed to create OpenSearch client: " ++ (SearchError.connection fault.message).message)
  | ping error => error.message

/-- The text of a fault of the configuration. -/
def ConfigFault.message : ConfigFault → String
  | hitsPerPage value =>
    configurationError
      ("TENANT_SEARCH_DEFAULT_HITS_PER_PAGE must be a positive integer, got '" ++ value ++ "'")
  | facetSize fault => configurationError ("TENANT_SEARCH_FACET_SIZE is invalid: " ++ fault.message)
  | connect fault => configurationError ("Failed to connect to OpenSearch: " ++ fault.message)

/-- The settings of a connection. -/
structure ConnectionSettings where
  address : String
  mode : ConnectionMode
  /-- The time between two attempts, in seconds. -/
  retrySeconds : UInt64
  config : ServiceConfig

namespace ConnectionSettings

/-- The number of hits on a page that a setting gives; it is not zero. -/
def readHitsPerPage (value : String) : Except ConfigFault UInt64 :=
  match readInteger value with
  | .ok n => if n = 0 then .error (.hitsPerPage value) else .ok n
  | .error _ => .error (.hitsPerPage value)

/-- The settings that the variables of an environment give. -/
def ofEnvironment (environment : String → Option String) : Except ConfigFault ConnectionSettings := do
  let hitsPerPage ← (environment "TENANT_SEARCH_DEFAULT_HITS_PER_PAGE").mapM readHitsPerPage
  let facetSize ← (environment "TENANT_SEARCH_FACET_SIZE").mapM fun value =>
    (readInteger value).mapError .facetSize
  let retry := (environment "OPENSEARCH_RETRY_INTERVAL_SECS").bind fun value => (readInteger value).toOption
  let standard := ServiceConfig.default
  return {
    address := (environment "OPENSEARCH_URL").getD "http://localhost:9200"
    mode := .ofText (environment "OPENSEARCH_CONNECTION_MODE")
    retrySeconds := retry.getD 15
    config := { standard with
      defaultHitsPerPage := hitsPerPage.getD standard.defaultHitsPerPage
      facetSize := facetSize.getD standard.facetSize } }

end ConnectionSettings

namespace Connection

/-- One attempt, in which the ping is answered by `response` if the address is usable. -/
def attempt (address : Except AddressFault Address) (response : Http.Response) :
    Except ConnectFault Address := do
  let address ← address.mapError .address
  (Http.pingResult response).mapError .ping
  return address

/-- The number of pings that an attempt sends. -/
def pingsOf (address : Except AddressFault Address) : Nat :=
  match address with
  | .ok _ => 1
  | .error _ => 0

/-- How connecting ends within a number of attempts, with the number of pings sent; `none` if it
has not ended. The `n`-th ping is answered by `response n`. -/
def connectFrom (mode : ConnectionMode) (address : Except AddressFault Address)
    (response : Nat → Http.Response) (sent : Nat) : Nat → Option (Except ConfigFault Address × Nat)
  | 0 => none
  | attempts + 1 =>
    match attempt address (response sent) with
    | .ok address => some (.ok address, sent + 1)
    | .error fault =>
      match mode with
      | .failFast => some (.error (.connect fault), sent + pingsOf address)
      | .retry => connectFrom mode address response (sent + pingsOf address) attempts

/-- How connecting to an address ends within a number of attempts. -/
def connect (mode : ConnectionMode) (address : String) (response : Nat → Http.Response) (attempts : Nat) :
    Option (Except ConfigFault Address × Nat) :=
  connectFrom mode (Address.read address) response 0 attempts

end Connection

end SearchTenancy
