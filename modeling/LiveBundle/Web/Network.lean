/-!
# Requests and responses

The network as bundling sees it: a request for a URL gets a response, or no answer at all. Answers
may depend on the requests made before, so one URL may be answered differently each time.
-/

namespace LiveBundle.Web

/-- A response. -/
structure Response where
  /-- The URL that the response came from, after redirects. -/
  url : String
  status : Nat
  /-- The phrase that goes with the status. -/
  reason : String
  body : String
deriving DecidableEq, Repr

/-- Whether the status tells success. -/
def Response.isSuccess (r : Response) : Bool := 200 ≤ r.status && r.status < 300

/-- Why a request has no answer. -/
inductive RequestFault where
  | invalidUrl (url : String)
  | failed (cause : String)
deriving DecidableEq, Repr

/-- The wording of a request without an answer. -/
def RequestFault.message : RequestFault → String
  | .invalidUrl url => "Invalid URL: " ++ url
  | .failed cause => "HTTP request failed: " ++ cause

/-- A network answers a request in the light of the requests before it. -/
abbrev Network := List String → String → Except RequestFault Response

/-- The network that answers each URL always in the same way. -/
def Network.steady (answers : String → Except RequestFault Response) : Network :=
  fun _ url => answers url

/-- Whether a URL can be requested at all. -/
def isRequestable (url : String) : Bool :=
  "http://".toList.isPrefixOf url.toList || "https://".toList.isPrefixOf url.toList

/-- The network of a machine that is not connected. -/
def Network.offline : Network :=
  .steady fun url =>
    if isRequestable url then .error (.failed ("error sending request for url (" ++ url ++ ")"))
    else .error (.invalidUrl url)

end LiveBundle.Web
