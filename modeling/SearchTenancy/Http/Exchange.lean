import SearchTenancy.Backend.Call
import SearchTenancy.Json.Reader
import SearchTenancy.Text.Blank

/-!
# Calls over HTTP

The request that a call is sent as, and the reply that is read from its response.
Both are functions, so a backend over HTTP is whatever carries requests to responses
(`Http.step`). A response with a status of success is an answer; its body has to make
sense only where the call needs something from it. Any other status is a report, with
the body if that is JSON.
-/

namespace SearchTenancy.Http

/-- The method of a request. -/
inductive Method where
  | head
  | get
  | put
  | post
  | delete
  deriving DecidableEq

/-- The name of a method. -/
def Method.name : Method → String
  | head => "HEAD"
  | get => "GET"
  | put => "PUT"
  | post => "POST"
  | delete => "DELETE"

/-- The body of a request. -/
inductive Body where
  | empty
  | json (value : Json)
  /-- One value to a line. -/
  | lines (values : List Json)

/-- A request. -/
structure Request where
  method : Method
  /-- The path as it is sent. -/
  path : String
  query : List (String × String)
  body : Body

/-- What becomes of a request: a status with a text, or nothing for a reason. -/
inductive Response where
  | answered (status : Nat) (text : String)
  | lost (reason : String)

/-! ## Requests -/

/-- Whether a byte stands for itself in the part of a path that is a name. -/
def isPlain (byte : UInt8) : Bool :=
  let c := Char.ofNat byte.toNat
  byte < 128 && (c.isAlphanum || ['_', '-', '.', ',', '*'].contains c)

/-- One hexadecimal digit, in upper case. -/
def hexDigit (n : Nat) : Char := (Nat.digitChar n).toUpper

/-- The text of a byte in a path. -/
def encodeByte (byte : UInt8) : List Char :=
  if isPlain byte then [Char.ofNat byte.toNat]
  else ['%', hexDigit (byte.toNat / 16), hexDigit (byte.toNat % 16)]

/-- A name as a part of a path. -/
def encodeName (name : String) : String := String.ofList (name.toUTF8.toList.flatMap encodeByte)

/-- The path of the given parts, of which names are encoded already. -/
def pathOf (parts : List String) : String := String.join (parts.map ("/" ++ ·))

/-- The body of a bulk call; without lines it is empty. -/
def bulkBody (lines : List Json) : Body := if lines.isEmpty then .empty else .lines lines

/-- The parameters of a search. -/
def searchParameters (options : SearchOptions) : List (String × String) :=
  [("allow_no_indices", if options.allowNoIndices then "true" else "false"),
   ("expand_wildcards", if options.expandWildcardsNone then "none" else "open")]

/-- The request that asks whether the backend is there. -/
def ping : Request := ⟨.head, "/", [], .empty⟩

/-- The request of a call. -/
def request : Call → Request
  | .indexCreate index => ⟨.put, pathOf [encodeName index], [], .json .empty⟩
  | .indexDelete index => ⟨.delete, pathOf [encodeName index], [], .empty⟩
  | .aliasGet aliasName => ⟨.get, pathOf ["_alias", encodeName aliasName], [], .empty⟩
  | .aliasPut index aliasName => ⟨.put, pathOf [encodeName index, "_alias", encodeName aliasName], [], .empty⟩
  | .aliasesUpdate actions =>
    ⟨.post, "/_aliases", [], .json (.obj [("actions", .arr (actions.map AliasAction.toJson))])⟩
  | .documentIndex index (some objectId) body =>
    ⟨.post, pathOf [encodeName index, "_doc", encodeName objectId], [], .json body⟩
  | .documentIndex index none body => ⟨.post, pathOf [encodeName index, "_doc"], [], .json body⟩
  | .documentGet index objectId =>
    ⟨.get, pathOf [encodeName index, "_doc", encodeName objectId], [], .empty⟩
  | .documentDelete index objectId =>
    ⟨.delete, pathOf [encodeName index, "_doc", encodeName objectId], [], .empty⟩
  | .bulk index lines => ⟨.post, pathOf [encodeName index, "_bulk"], [], bulkBody lines⟩
  | .search index body options =>
    ⟨.post, pathOf [encodeName index, "_search"], searchParameters options, .json body⟩
  | .mappingGet index => ⟨.get, pathOf [encodeName index, "_mapping"], [], .empty⟩
  | .mappingPut index body => ⟨.put, pathOf [encodeName index, "_mapping"], [], .json body⟩
  | .stats index => ⟨.get, pathOf [encodeName index, "_stats"], [], .empty⟩

/-! ## Replies -/

/-- Whether a status tells of success. -/
def isSuccess (status : Nat) : Bool := 200 ≤ status && status < 300

/-- The value of a body; a blank one and one that is no JSON have none. -/
def bodyOf? (text : String) : Option Json :=
  if text.toList.all Text.isBlank then none else Json.ofText? text

/-- The value of a successful response; without a body it is null. -/
def valueOf : Response → Except BackendError Json
  | .lost reason => .error (.transport reason)
  | .answered status text =>
    if isSuccess status then .ok ((bodyOf? text).getD .null) else .error (.refused status (bodyOf? text))

/-- The string member `key` of a body, which has to be there. -/
def stringMember (body : Json) (key : String) : Except BackendError String :=
  match (body.get? key).bind Json.asString? with
  | some s => .ok s
  | none => .error (.undecodable ("missing '" ++ key ++ "' in response"))

/-- A report about the deletion of a missing document says so in `result`; it is given the `found`
that a report about reading one has. -/
def withFound (failure : BackendError) : BackendError :=
  match failure.body with
  | some (.obj members) =>
    if (failure.bodyMember? "result").bind Json.asString? = some "not_found" ∧
        !Entries.contains members "found" then
      { failure with body := some (.obj (Entries.insert members "found" (.bool false))) }
    else failure
  | _ => failure

/-- The version in the answer to the storage of a document. -/
def versionOf (body : Json) : Int :=
  let version := (body.get? "_version").bind fun
    | .num n => n.toInt64?
    | _ => none
  version.getD 0

/-- The reply to a call that is read from its response. -/
def reply (response : Response) : (call : Call) → Reply call
  | .aliasGet _ | .bulk _ _ | .search _ _ _ | .mappingGet _ | .stats _ => valueOf response
  | .documentIndex _ _ _ => do
    let body ← valueOf response
    return (⟨← stringMember body "_id", versionOf body⟩ : DocumentWrite)
  | .documentGet _ _ => do
    let body ← valueOf response
    let source := ((body.get? "_source").bind Json.asObject?).getD []
    return (⟨← stringMember body "_id", source⟩ : StoredDocument)
  | .documentDelete _ _ => ((valueOf response).mapError withFound).map fun _ => ()
  | .indexCreate _ | .indexDelete _ | .aliasPut _ _ | .aliasesUpdate _ | .mappingPut _ _ =>
    (valueOf response).map fun _ => ()

/-- The backend behind what carries requests to responses. -/
def step {σ : Type} (carry : σ → Request → Response × σ) : Backend σ := fun state call =>
  let (response, state) := carry state (request call)
  (reply response call, state)

/-- The names of the common statuses. -/
def statusNames : List (Nat × String) :=
  [(100, "Continue"), (101, "Switching Protocols"), (102, "Processing"), (200, "OK"), (201, "Created"),
   (202, "Accepted"), (203, "Non Authoritative Information"), (204, "No Content"), (205, "Reset Content"),
   (206, "Partial Content"), (207, "Multi-Status"), (208, "Already Reported"), (226, "IM Used"),
   (300, "Multiple Choices"), (301, "Moved Permanently"), (302, "Found"), (303, "See Other"),
   (304, "Not Modified"), (305, "Use Proxy"), (307, "Temporary Redirect"), (308, "Permanent Redirect"),
   (400, "Bad Request"), (401, "Unauthorized"), (402, "Payment Required"), (403, "Forbidden"),
   (404, "Not Found"), (405, "Method Not Allowed"), (406, "Not Acceptable"),
   (407, "Proxy Authentication Required"), (408, "Request Timeout"), (409, "Conflict"), (410, "Gone"),
   (411, "Length Required"), (412, "Precondition Failed"), (413, "Payload Too Large"), (414, "URI Too Long"),
   (415, "Unsupported Media Type"), (416, "Range Not Satisfiable"), (417, "Expectation Failed"),
   (418, "I'm a teapot"), (421, "Misdirected Request"), (422, "Unprocessable Entity"), (423, "Locked"),
   (424, "Failed Dependency"), (425, "Too Early"), (426, "Upgrade Required"), (428, "Precondition Required"),
   (429, "Too Many Requests"), (431, "Request Header Fields Too Large"),
   (451, "Unavailable For Legal Reasons"), (500, "Internal Server Error"), (501, "Not Implemented"),
   (502, "Bad Gateway"), (503, "Service Unavailable"), (504, "Gateway Timeout"),
   (505, "HTTP Version Not Supported"), (506, "Variant Also Negotiates"), (507, "Insufficient Storage"),
   (508, "Loop Detected"), (510, "Not Extended"), (511, "Network Authentication Required")]

/-- A status with its name. -/
def statusText (status : Nat) : String :=
  Nat.repr status ++ " " ++ ((statusNames.lookup status).getD "<unknown status code>")

/-- What a response to the ping says. -/
def pingResult : Response → Except SearchError Unit
  | .lost reason => .error (.connection reason)
  | .answered status _ =>
    if isSuccess status then .ok ()
    else .error (.connection ("ping answered with status " ++ statusText status))

end SearchTenancy.Http
