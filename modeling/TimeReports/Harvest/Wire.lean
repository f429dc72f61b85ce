import TimeReports.Fault
import TimeReports.Json.Bytes
import TimeReports.Json.Shown
import TimeReports.Text.Form

set_option autoImplicit false

namespace TimeReports.Harvest

structure Request where
  method : Text
  path : Text
  query : Text
  body : Option Json

structure Response where
  status : Int
  reason : Text
  body : Text.Bytes
  deriving DecidableEq, Repr

/-- What comes back for a request. -/
inductive Reply where
  | answered (response : Response)
  | timedOut
  /-- Communication failed. -/
  | unreachable (message : Text)
  /-- The connection broke down in some other way. -/
  | broke (fault : Fault)
  deriving DecidableEq, Repr

def standardPhrase (status : Int) : Text :=
  match status.toNat with
  | 100 => "Continue".text
  | 101 => "Switching Protocols".text
  | 102 => "Processing".text
  | 103 => "Early Hints".text
  | 200 => "OK".text
  | 201 => "Created".text
  | 202 => "Accepted".text
  | 203 => "Non-Authoritative Information".text
  | 204 => "No Content".text
  | 205 => "Reset Content".text
  | 206 => "Partial Content".text
  | 207 => "Multi-Status".text
  | 208 => "Already Reported".text
  | 226 => "IM Used".text
  | 300 => "Multiple Choices".text
  | 301 => "Moved Permanently".text
  | 302 => "Found".text
  | 303 => "See Other".text
  | 304 => "Not Modified".text
  | 305 => "Use Proxy".text
  | 307 => "Temporary Redirect".text
  | 308 => "Permanent Redirect".text
  | 400 => "Bad Request".text
  | 401 => "Unauthorized".text
  | 402 => "Payment Required".text
  | 403 => "Forbidden".text
  | 404 => "Not Found".text
  | 405 => "Method Not Allowed".text
  | 406 => "Not Acceptable".text
  | 407 => "Proxy Authentication Required".text
  | 408 => "Request Timeout".text
  | 409 => "Conflict".text
  | 410 => "Gone".text
  | 411 => "Length Required".text
  | 412 => "Precondition Failed".text
  | 413 => "Request Entity Too Large".text
  | 414 => "Request-URI Too Long".text
  | 415 => "Unsupported Media Type".text
  | 416 => "Requested Range Not Satisfiable".text
  | 417 => "Expectation Failed".text
  | 418 => "I'm a teapot".text
  | 421 => "Misdirected Request".text
  | 422 => "Unprocessable Entity".text
  | 423 => "Locked".text
  | 424 => "Failed Dependency".text
  | 425 => "Too Early".text
  | 426 => "Upgrade Required".text
  | 428 => "Precondition Required".text
  | 429 => "Too Many Requests".text
  | 431 => "Request Header Fields Too Large".text
  | 451 => "Unavailable For Legal Reasons".text
  | 500 => "Internal Server Error".text
  | 501 => "Not Implemented".text
  | 502 => "Bad Gateway".text
  | 503 => "Service Unavailable".text
  | 504 => "Gateway Timeout".text
  | 505 => "HTTP Version Not Supported".text
  | 506 => "Variant Also Negotiates".text
  | 507 => "Insufficient Storage".text
  | 508 => "Loop Detected".text
  | 510 => "Not Extended".text
  | 511 => "Network Authentication Required".text
  | _ => []

/-- The answer to a request for something that is not there. -/
def notFound : Reply := .answered ⟨404, standardPhrase 404, []⟩

def Response.isSuccess (response : Response) : Bool :=
  200 ≤ response.status && response.status < 300

/-- The phrase of an answer as it is read: characters outside ASCII are left out. -/
def Response.phrase (response : Response) : Text := response.reason.filter (·.toNat < 128)

end TimeReports.Harvest
