import DeviceUpdate.Failure
import DeviceUpdate.Http.Uri
import DeviceUpdate.Json.Value
import DeviceUpdate.Network.Endpoint

/-! Requests and responses. -/

namespace DeviceUpdate.Http

/-- What a request asks to be done with a resource. -/
inductive Method where
  | get
  | head
  | post
  | put
  | delete
  /-- A method that no resource has. -/
  | other (name : String)
  deriving DecidableEq, Repr

/-- A character of the names of methods, headers and formats. -/
def isTokenChar (c : Char) : Bool :=
  c.isAlphanum || "!#$%&'*+-.^_`|~".toList.contains c

/-- Whether a text can be the name of a method or a header. -/
def isToken (cs : List Char) : Bool :=
  !cs.isEmpty && cs.all isTokenChar

namespace Method

/-- The name of a method. -/
def name : Method → String
  | get => "GET"
  | head => "HEAD"
  | post => "POST"
  | put => "PUT"
  | delete => "DELETE"
  | other name => name

/-- Reads the name of a method, whose case counts. -/
def read? (text : String) : Option Method :=
  if isToken text.toList then
    some (([get, head, post, put, delete].find? fun m => m.name == text).getD (other text))
  else none

end Method

/-- A character of the value of a header. -/
def isHeaderChar (c : Char) : Bool :=
  c == '\t' || (' ' ≤ c && c != '\x7f')

/-- The lines in front of the body of a request: names in lower case, and values. -/
structure Headers where
  lines : List (String × String)
  deriving DecidableEq, Repr

namespace Headers

/-- Reads the name and the value of a header. -/
def line? (line : String × String) : Option (String × String) :=
  if isToken line.1.toList && line.2.toList.all isHeaderChar then
    some (String.ofList (Text.lowerAscii line.1.toList), line.2)
  else none

/-- Reads headers in their order. -/
def read? (lines : List (String × String)) : Option Headers :=
  (lines.mapM line?).map Headers.mk

/-- The values under a name, in their order. -/
def all (h : Headers) (name : String) : List String :=
  (h.lines.filter fun l => l.1 == name).map (·.2)

/-- The first value under a name. -/
def first? (h : Headers) (name : String) : Option String :=
  (h.all name).head?

/-- The characters of a value, if all of them are of ASCII. -/
def readable? (value : String) : Option (List Char) :=
  if value.toList.all fun c => c.toNat < 128 then some value.toList else none

end Headers

/-- A request. -/
structure Request where
  method : Method
  path : String
  query : String
  headers : Headers
  body : String
  /-- The address of the sender, where it is known. -/
  peer : Option Network.Address
  deriving DecidableEq, Repr

/-- Why a request cannot be put together. -/
inductive RequestFault where
  /-- The method or the address is not one. -/
  | uri
  /-- The name or the value of a header is not one. -/
  | header
  deriving DecidableEq, Repr

/-- The name of a fault. -/
def RequestFault.name : RequestFault → String
  | uri => "uri"
  | header => "header"

/-- Puts a request together from the texts of its parts, of which the headers are read first. -/
def Request.read (method uri : String) (headers : List (String × String)) (body : String)
    (peer : Option Network.Address) : Except RequestFault Request :=
  match Headers.read? headers, Method.read? method, Uri.read? uri with
  | some h, some m, some u => .ok ⟨m, u.path, u.query, h, body, peer⟩
  | some _, _, _ => .error .uri
  | none, _, _ => .error .header

/-- The outcome of a request in short. -/
inductive StatusCode where
  | ok
  | created
  | notModified
  | badRequest
  | forbidden
  | notFound
  | methodNotAllowed
  | notAcceptable
  | conflict
  | gone
  | unsupportedMediaType
  | serverError
  deriving DecidableEq, Repr

namespace StatusCode

/-- The number of an outcome. -/
def number : StatusCode → Nat
  | ok => 200
  | created => 201
  | notModified => 304
  | badRequest => 400
  | forbidden => 403
  | notFound => 404
  | methodNotAllowed => 405
  | notAcceptable => 406
  | conflict => 409
  | gone => 410
  | unsupportedMediaType => 415
  | serverError => 500

/-- The outcome that tells of a failure. -/
def ofFailure : Failure → StatusCode
  | .notFound => notFound
  | .gone => gone
  | .malformed => badRequest
  | .quotaExceeded => forbidden
  | .conflict => conflict
  | .internal => serverError

/-- Whether the request was not carried out. -/
def isError (c : StatusCode) : Bool :=
  400 ≤ c.number

theorem isError_ofFailure (f : Failure) : (ofFailure f).isError = true := by
  cases f <;> rfl

end StatusCode

/-- What a response carries. -/
inductive Body where
  | empty
  | json (j : Json)
  | text (s : String)
  deriving Repr

/-- A response. -/
structure Response where
  code : StatusCode
  /-- The validator of the body, in quotation marks. -/
  etag : Option String
  /-- The methods that the resource has, where the method of the request is none of them. -/
  allow : List Method
  /-- The format of the body, also where the body is left out. -/
  mediaType : Option String
  body : Body
  deriving Repr

namespace Response

/-- A response without a body. -/
def bare (code : StatusCode) : Response :=
  ⟨code, none, [], none, .empty⟩

/-- A response with a document. -/
def document (code : StatusCode) (j : Json) : Response :=
  ⟨code, none, [], some "application/json", .json j⟩

/-- A response with a text for people. -/
def plain (code : StatusCode) (s : String) : Response :=
  ⟨code, none, [], some "text/plain; charset=utf-8", .text s⟩

/-- A response with a result in an envelope. -/
def result (code : StatusCode) (j : Json) : Response :=
  document code (.object [("success", .bool true), ("data", j)])

/-- A response that tells in an envelope why nothing was done. -/
def refusal (code : StatusCode) (message : String) : Response :=
  document code (.object [("success", .bool false), ("error", .string message)])

/-- A response that tells in an envelope of a failure with a category. -/
def failure (f : Failure) (message : String) : Response :=
  document (.ofFailure f)
    (.object [("success", .bool false), ("error", .string message), ("kind", .string f.name)])

/-- The response to the same request for the headers alone. -/
def headersOnly (r : Response) : Response :=
  { r with body := .empty }

end Response

end DeviceUpdate.Http
