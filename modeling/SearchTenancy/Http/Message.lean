import SearchTenancy.Connection.Address
import SearchTenancy.Http.Exchange

/-!
# HTTP messages

The text of a request as it is sent to an address, and the response that is read from
the bytes of an answer. A request asks the other side to close the connection behind
its answer, so an answer ends where its bytes end. The body of an answer comes in
chunks, or has a length, or is all that follows the headers.
-/

namespace SearchTenancy.Http

/-! ## Requests -/

/-- The text of a body. -/
def Body.text : Body → String
  | empty => ""
  | json value => value.render
  | lines values => String.join (values.map fun value => value.render ++ "\n")

/-- The kind of a body. -/
def Body.contentType : Body → String
  | lines _ => "application/x-ndjson"
  | _ => "application/json"

/-- The path of a request under the path of an address, with its parameters. -/
def target (address : Address) (request : Request) : String :=
  let base := address.path.toList.takeWhile fun c => c ≠ '?' ∧ c ≠ '#'
  let base := (base.reverse.dropWhile (· = '/')).reverse
  let parameters := request.query.map fun parameter => parameter.1 ++ "=" ++ parameter.2
  String.ofList base ++ request.path ++
    (if parameters.isEmpty then "" else "?" ++ "&".intercalate parameters)

/-- The host of an address as a request names it. -/
def hostHeader (address : Address) : String :=
  match address.port with
  | some port => address.host ++ ":" ++ Nat.repr port
  | none => address.host

/-- The text of a request. -/
def requestText (address : Address) (request : Request) : String :=
  let body := request.body.text
  "\r\n".intercalate
    [request.method.name ++ " " ++ target address request ++ " HTTP/1.1",
     "Host: " ++ hostHeader address,
     "Accept: application/json",
     "Connection: close",
     "Content-Type: " ++ request.body.contentType,
     "Content-Length: " ++ Nat.repr body.utf8ByteSize,
     "", body]

/-! ## Responses -/

/-- The bytes of an answer. -/
abbrev Bytes := List UInt8

/-- Splits off the line that ends with the first carriage return and line feed. -/
def splitLine : Bytes → Option (Bytes × Bytes)
  | 13 :: 10 :: rest => some ([], rest)
  | byte :: rest => (splitLine rest).map fun split => (byte :: split.1, split.2)
  | [] => none

theorem splitLine_length_lt {bytes line rest : Bytes} (h : splitLine bytes = some (line, rest)) :
    rest.length < bytes.length := by
  fun_induction splitLine bytes generalizing line with
  | case1 => grind
  | case2 byte others _ ih =>
    obtain ⟨split, hsplit, heq⟩ := Option.map_eq_some_iff.1 h
    have : rest = split.2 := congrArg Prod.snd heq.symm
    subst this
    exact Nat.lt_succ_of_lt (ih hsplit)
  | case3 => simp at h

/-- The text of a line; bytes above 127 stand for the first characters of their value. -/
def lineText (line : Bytes) : String := String.ofList (line.map fun byte => Char.ofNat byte.toNat)

/-- A header: its name in lower case, and its value without the blanks around it. -/
def headerOf (line : Bytes) : String × String :=
  let chars := (lineText line).toList
  let name := chars.takeWhile (· ≠ ':')
  let value := (chars.drop (name.length + 1)).dropWhile (· = ' ')
  (String.ofList (name.map Char.toLower), String.ofList (value.reverse.dropWhile (· = ' ')).reverse)

/-- Reads the headers up to the empty line, and what follows it. -/
def readHeaders (bytes : Bytes) : Option (List (String × String) × Bytes) :=
  match _h : splitLine bytes with
  | none => none
  | some ([], rest) => some ([], rest)
  | some (line, rest) => (readHeaders rest).map fun (headers, rest) => (headerOf line :: headers, rest)
termination_by bytes.length
decreasing_by exact splitLine_length_lt _h

/-- The length that stands in front of a chunk. -/
def chunkLength? (line : Bytes) : Option Nat :=
  let digits := (lineText line).toList.takeWhile Text.isHexDigit
  if digits.isEmpty then none else some (Text.digitsValue 16 digits)

/-- Joins the chunks of a body up to the empty one. -/
def readChunks (bytes : Bytes) : Option Bytes :=
  match _h : splitLine bytes with
  | none => none
  | some (line, rest) =>
    match chunkLength? line with
    | none => none
    | some 0 => some []
    | some (length + 1) => (readChunks (rest.drop (length + 3))).map (rest.take (length + 1) ++ ·)
termination_by bytes.length
decreasing_by
  have := splitLine_length_lt _h
  grind

/-- The body of an answer with given headers. -/
def readBody (headers : List (String × String)) (bytes : Bytes) : Option Bytes :=
  if headers.lookup "transfer-encoding" = some "chunked" then readChunks bytes
  else
    match (headers.lookup "content-length").bind String.toNat? with
    | some length => some (bytes.take length)
    | none => some bytes

/-- The status in the first line of an answer. -/
def statusOf? (line : Bytes) : Option Nat :=
  match (lineText line).toList.dropWhile (· ≠ ' ') with
  | ' ' :: a :: b :: c :: _ => (String.ofList [a, b, c]).toNat?
  | _ => none

/-- The status and the text of an answer, if it is well-formed. -/
def readAnswer (bytes : Bytes) : Option (Nat × String) := do
  let (line, rest) ← splitLine bytes
  let status ← statusOf? line
  let (headers, rest) ← readHeaders rest
  let body ← readBody headers rest
  let text ← String.fromUTF8? ⟨body.toArray⟩
  return (status, text)

/-- The response that an answer is. -/
def Response.ofBytes (bytes : Bytes) : Response :=
  match readAnswer bytes with
  | some (status, text) => .answered status text
  | none => .lost "the answer is no HTTP response"

end SearchTenancy.Http
