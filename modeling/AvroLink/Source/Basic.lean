import AvroLink.Files.Tree
import AvroLink.Glob.Pattern
import AvroLink.Json.Fault
import AvroLink.Regex.Automaton
import AvroLink.Resolve.Basic

/-!
# Where definitions come from

A source yields definitions sorted by identifier. `SourceError` holds what can stop it.
-/

namespace AvroLink

inductive SourceError where
  | missingRoot (root : String)
  | badPattern (glob : String) (error : Glob.PatternError)
  | unreadable (path : String) (error : FileError)
  | invalidUrl (url reason : String)
  | noAnswer (url : String)
  | badStatus (url : String) (status : Nat)
  /-- A body that does not hold what was asked for. -/
  | badBody (url body : String) (fault : Json.Fault)

/-- The usual phrase for a status code. -/
def reasonPhrase : Nat → String
  | 100 => "Continue"
  | 101 => "Switching Protocols"
  | 102 => "Processing"
  | 200 => "OK"
  | 201 => "Created"
  | 202 => "Accepted"
  | 203 => "Non Authoritative Information"
  | 204 => "No Content"
  | 205 => "Reset Content"
  | 206 => "Partial Content"
  | 207 => "Multi-Status"
  | 208 => "Already Reported"
  | 226 => "IM Used"
  | 300 => "Multiple Choices"
  | 301 => "Moved Permanently"
  | 302 => "Found"
  | 303 => "See Other"
  | 304 => "Not Modified"
  | 305 => "Use Proxy"
  | 307 => "Temporary Redirect"
  | 308 => "Permanent Redirect"
  | 400 => "Bad Request"
  | 401 => "Unauthorized"
  | 402 => "Payment Required"
  | 403 => "Forbidden"
  | 404 => "Not Found"
  | 405 => "Method Not Allowed"
  | 406 => "Not Acceptable"
  | 407 => "Proxy Authentication Required"
  | 408 => "Request Timeout"
  | 409 => "Conflict"
  | 410 => "Gone"
  | 411 => "Length Required"
  | 412 => "Precondition Failed"
  | 413 => "Payload Too Large"
  | 414 => "URI Too Long"
  | 415 => "Unsupported Media Type"
  | 416 => "Range Not Satisfiable"
  | 417 => "Expectation Failed"
  | 418 => "I'm a teapot"
  | 421 => "Misdirected Request"
  | 422 => "Unprocessable Entity"
  | 423 => "Locked"
  | 424 => "Failed Dependency"
  | 426 => "Upgrade Required"
  | 428 => "Precondition Required"
  | 429 => "Too Many Requests"
  | 431 => "Request Header Fields Too Large"
  | 451 => "Unavailable For Legal Reasons"
  | 500 => "Internal Server Error"
  | 501 => "Not Implemented"
  | 502 => "Bad Gateway"
  | 503 => "Service Unavailable"
  | 504 => "Gateway Timeout"
  | 505 => "HTTP Version Not Supported"
  | 506 => "Variant Also Negotiates"
  | 507 => "Insufficient Storage"
  | 508 => "Loop Detected"
  | 510 => "Not Extended"
  | 511 => "Network Authentication Required"
  | _ => "<unknown status code>"

def SourceError.message : SourceError → String
  | missingRoot root => "schema directory `" ++ root ++ "` does not exist"
  | badPattern glob e => "invalid glob pattern `" ++ glob ++ "`: " ++ e.message
  | unreadable path e => "cannot read `" ++ path ++ "`: " ++ e.message
  | invalidUrl url reason => "invalid registry URL `" ++ url ++ "`: " ++ reason
  | noAnswer url => "request to `" ++ url ++ "` failed"
  | badStatus url n =>
    s!"registry answered {n} " ++ reasonPhrase n ++ " for `" ++ url ++ "`"
  | badBody url body fault =>
    "unexpected registry response from `" ++ url ++ "`: " ++ fault.message body.toList

/-- Whether an identifier passes a filter; without one all do. -/
def passes (filter : Option Regex) (id : String) : Bool := filter.all fun r => r.isMatch id

/-- Definitions by identifier; those with the same one keep their order. -/
def Definition.sort (ds : List Definition) : List Definition :=
  ds.mergeSort fun a b => decide (a.id ≤ b.id)

end AvroLink
