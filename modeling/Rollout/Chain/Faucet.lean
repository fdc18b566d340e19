import Rollout.Chain.Connection

/-!
# Faucets

A faucet gives coins away on a test network. It is sent an order for an address and a denomination,
and accepts it with a status from 200 to 299; any other status is a rejection, which is told with the
usual words for the status and what the faucet said.
-/

namespace Rollout.Faucet

/-- The usual words for statuses. -/
def reasons : List (Nat × String) :=
  [(100, "Continue"), (101, "Switching Protocols"), (102, "Processing"), (200, "OK"),
    (201, "Created"), (202, "Accepted"), (203, "Non Authoritative Information"),
    (204, "No Content"), (205, "Reset Content"), (206, "Partial Content"), (207, "Multi-Status"),
    (208, "Already Reported"), (226, "IM Used"), (300, "Multiple Choices"),
    (301, "Moved Permanently"), (302, "Found"), (303, "See Other"), (304, "Not Modified"),
    (305, "Use Proxy"), (307, "Temporary Redirect"), (308, "Permanent Redirect"),
    (400, "Bad Request"), (401, "Unauthorized"), (402, "Payment Required"), (403, "Forbidden"),
    (404, "Not Found"), (405, "Method Not Allowed"), (406, "Not Acceptable"),
    (407, "Proxy Authentication Required"), (408, "Request Timeout"), (409, "Conflict"),
    (410, "Gone"), (411, "Length Required"), (412, "Precondition Failed"),
    (413, "Payload Too Large"), (414, "URI Too Long"), (415, "Unsupported Media Type"),
    (416, "Range Not Satisfiable"), (417, "Expectation Failed"), (418, "I'm a teapot"),
    (421, "Misdirected Request"), (422, "Unprocessable Entity"), (423, "Locked"),
    (424, "Failed Dependency"), (426, "Upgrade Required"), (428, "Precondition Required"),
    (429, "Too Many Requests"), (431, "Request Header Fields Too Large"),
    (451, "Unavailable For Legal Reasons"), (500, "Internal Server Error"),
    (501, "Not Implemented"), (502, "Bad Gateway"), (503, "Service Unavailable"),
    (504, "Gateway Timeout"), (505, "HTTP Version Not Supported"),
    (506, "Variant Also Negotiates"), (507, "Insufficient Storage"), (508, "Loop Detected"),
    (510, "Not Extended"), (511, "Network Authentication Required")]

def reason (status : Nat) : String :=
  match reasons.find? fun r => r.1 = status with
  | some r => r.2
  | none => "<unknown status code>"

/-- The order for coins of a denomination. -/
def order (address denom : String) : Json := .obj [("address", .str address), ("denom", .str denom)]

/-- What a reply of a faucet means. -/
def accepted (reply : FaucetReply) : Fallible String :=
  if 200 ≤ reply.status ∧ reply.status < 300 then .ok reply.body
  else
    .error (.executeRejected
      ("Faucet returned " ++ toString reply.status ++ " " ++ reason reply.status ++ ": "
        ++ reply.body))

/-- Asks a faucet for coins; what it says is the result. -/
def request (url address denom : String) : Exchange String := do
  accepted (← Connection.send "Faucet request failed" (.faucet url (order address denom)))

end Rollout.Faucet
