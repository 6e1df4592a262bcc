import ChatTranscript.Fetch.Client
import ChatTranscript.Url.Request

/-!
# Sites

A site is a disk and the answers of web servers by URL. It stands in for the outside world where the
library is run: its client brings URLs into the form in which they are requested, and it meets what
a request or an answer meets on the way.

## Main definitions

* `Site`: a disk, and the answers of web servers.
* `Site.fetch`: the text at a location of a site.
-/

namespace ChatTranscript

structure Site where
  disk : Disk
  responses : List (Text × Response)

namespace Site

/-- The fault of a request that cannot be made, or of an answer that cannot be taken in. -/
def faultOf : Url.Obstacle → Fault
  | .domain fault => .raised fault.kind [.str fault.message]
  | .charset gap => .unencodable gap
  | .noScheme url =>
    .raised "ValueError".toList [.str ("unknown url type: ".toList ++ Text.quoted url)]

/-- An obstacle is no error of the client, and leaves it as a fault. -/
def ask (site : Site) (request : Url.Request) : Reply :=
  match Url.obstacle? request, site.responses.find? (·.1 == request.url) with
  | some obstacle, _ => .raised (faultOf obstacle)
  | none, none => .failed (.transport "ConnectError".toList "connection refused".toList)
  | none, some (_, response) =>
    match Url.answerObstacle? request with
    | some obstacle => .raised (faultOf obstacle)
    | none => .answer response

def client (site : Site) : Client := fun location =>
  match Url.request location with
  | .error fault => .failed (.malformedUrl fault.message)
  | .ok request => site.ask request

def outcome (site : Site) (location : Text) : FetchOutcome :=
  fetchText site.client site.disk location

def fetch : Fetcher Site := fun location site => (site.outcome location, site)

end Site

end ChatTranscript
