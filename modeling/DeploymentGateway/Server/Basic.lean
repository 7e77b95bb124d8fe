import DeploymentGateway.Text.Letters
/-!
Failures of an application server that is reached over HTTP, and the standard words for HTTP
status codes.
-/

set_option autoImplicit false

namespace DeploymentGateway.Server

/-- The registered status codes with their reasons. -/
def reasons : List (Nat × String) := [
  (100, "Continue"), (101, "Switching Protocols"), (102, "Processing"), (103, "Early Hints"),
  (200, "OK"), (201, "Created"), (202, "Accepted"), (203, "Non Authoritative Information"),
  (204, "No Content"), (205, "Reset Content"), (206, "Partial Content"), (207, "Multi-Status"),
  (208, "Already Reported"), (226, "IM Used"), (300, "Multiple Choices"),
  (301, "Moved Permanently"), (302, "Found"), (303, "See Other"), (304, "Not Modified"),
  (305, "Use Proxy"), (307, "Temporary Redirect"), (308, "Permanent Redirect"),
  (400, "Bad Request"), (401, "Unauthorized"), (402, "Payment Required"), (403, "Forbidden"),
  (404, "Not Found"), (405, "Method Not Allowed"), (406, "Not Acceptable"),
  (407, "Proxy Authentication Required"), (408, "Request Timeout"), (409, "Conflict"),
  (410, "Gone"), (411, "Length Required"), (412, "Precondition Failed"),
  (413, "Payload Too Large"), (414, "URI Too Long"), (415, "Unsupported Media Type"),
  (416, "Range Not Satisfiable"), (417, "Expectation Failed"), (418, "I'm a teapot"),
  (421, "Misdirected Request"), (422, "Unprocessable Entity"), (423, "Locked"),
  (424, "Failed Dependency"), (425, "Too Early"), (426, "Upgrade Required"),
  (428, "Precondition Required"), (429, "Too Many Requests"),
  (431, "Request Header Fields Too Large"), (451, "Unavailable For Legal Reasons"),
  (500, "Internal Server Error"), (501, "Not Implemented"), (502, "Bad Gateway"),
  (503, "Service Unavailable"), (504, "Gateway Timeout"), (505, "HTTP Version Not Supported"),
  (506, "Variant Also Negotiates"), (507, "Insufficient Storage"), (508, "Loop Detected"),
  (510, "Not Extended"), (511, "Network Authentication Required")]

/-- A status code with its reason. -/
def statusText (code : Nat) : String :=
  let reason := (reasons.find? fun entry => entry.1 == code).map Prod.snd
  Text.decimal code ++ " " ++ reason.getD "<unknown status code>"

/-- A code that tells of success. -/
def isSuccess (code : Nat) : Bool :=
  200 ≤ code && code < 300

/-- Why a server did not do what it was asked: its answer was no success, its body was no JSON, or it
gave no answer. -/
inductive ServerError where
  | status (code : Nat) (message : String)
  | undecodable (reason : String)
  | unreachable
  deriving DecidableEq

/-- The text of a failure, absent where it is not the gateway's. -/
def ServerError.message? : ServerError → Option String
  | .status code message => some ("api server answered " ++ statusText code ++ ": " ++ message)
  | .undecodable reason => some ("api server sent a malformed body: " ++ reason)
  | .unreachable => none

end DeploymentGateway.Server
