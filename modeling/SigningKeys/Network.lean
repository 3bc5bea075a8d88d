/-!
# The network

* `Response`, `Network`: what a server answers, and the network as the list of the answers to come;
* `isSuccess`, `isRedirect`, `statusText`: what the status of an answer says.

A network is as much of HTTP as a fetch of keys can tell apart: there are no headers but the one of a
redirect, no certificates, and one kind of failure for all the ways in which a request can get no
answer.
-/

namespace SigningKeys

/-- An answer of a server. -/
structure Response where
  status : Nat := 200
  body : List UInt8 := []
  /-- Where a redirect leads. -/
  location : Option String := none
  /-- The body ends before its announced length. -/
  truncated : Bool := false
  /-- The connection is closed instead of an answer. -/
  dropped : Bool := false
  /-- The answer comes only after the time that a caller lets pass. -/
  held : Bool := false

/-- A network. -/
inductive Network where
  /-- No request reaches a server. -/
  | unreachable
  /-- The requests are answered in turn; the last answer repeats. -/
  | served (responses : List Response)

namespace Network

/-- The answer to request number `n`, if it reaches a server. Where no answers are laid down,
nothing is found. -/
def response? (net : Network) (n : Nat) : Option Response :=
  match net with
  | .unreachable => none
  | .served rs => some ((rs[n]?.or rs.getLast?).getD { status := 404 })

end Network

/-- The statuses that have a standard reason, and the reason. -/
def reasons : List (Nat × String) :=
  [(100, "Continue"), (101, "Switching Protocols"), (102, "Processing"),
    (200, "OK"), (201, "Created"), (202, "Accepted"), (203, "Non Authoritative Information"),
    (204, "No Content"), (205, "Reset Content"), (206, "Partial Content"), (207, "Multi-Status"),
    (208, "Already Reported"), (226, "IM Used"),
    (300, "Multiple Choices"), (301, "Moved Permanently"), (302, "Found"), (303, "See Other"),
    (304, "Not Modified"), (305, "Use Proxy"), (307, "Temporary Redirect"),
    (308, "Permanent Redirect"),
    (400, "Bad Request"), (401, "Unauthorized"), (402, "Payment Required"), (403, "Forbidden"),
    (404, "Not Found"), (405, "Method Not Allowed"), (406, "Not Acceptable"),
    (407, "Proxy Authentication Required"), (408, "Request Timeout"), (409, "Conflict"),
    (410, "Gone"), (411, "Length Required"), (412, "Precondition Failed"),
    (413, "Payload Too Large"), (414, "URI Too Long"), (415, "Unsupported Media Type"),
    (416, "Range Not Satisfiable"), (417, "Expectation Failed"), (418, "I'm a teapot"),
    (421, "Misdirected Request"), (422, "Unprocessable Entity"), (423, "Locked"),
    (424, "Failed Dependency"), (425, "Too Early"), (426, "Upgrade Required"),
    (428, "Precondition Required"), (429, "Too Many Requests"),
    (431, "Request Header Fields Too Large"), (451, "Unavailable For Legal Reasons"),
    (500, "Internal Server Error"), (501, "Not Implemented"), (502, "Bad Gateway"),
    (503, "Service Unavailable"), (504, "Gateway Timeout"), (505, "HTTP Version Not Supported"),
    (506, "Variant Also Negotiates"), (507, "Insufficient Storage"), (508, "Loop Detected"),
    (510, "Not Extended"), (511, "Network Authentication Required")]

/-- A status with its standard reason. -/
def statusText (status : Nat) : String :=
  toString status ++ " " ++ (reasons.lookup status).getD "<unknown status code>"

/-- Whether a status stands for success. -/
def isSuccess (status : Nat) : Bool := 200 ≤ status && status < 300

/-- Whether a status sends the caller elsewhere. -/
def isRedirect (status : Nat) : Bool := [301, 302, 303, 307, 308].contains status

/-- How many redirects are followed. -/
def maxRedirects : Nat := 10

end SigningKeys
