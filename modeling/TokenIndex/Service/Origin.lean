import TokenIndex.Service.Message

namespace TokenIndex.Service.Origin

def allowed : List Text := ["http://localhost:3000", "http://localhost:5173"]

def methods : List Text := ["DELETE", "GET", "HEAD", "OPTIONS", "PATCH", "POST", "PUT"]

def originName : Text := "origin"

def methodName : Text := "access-control-request-method"

def headersName : Text := "access-control-request-headers"

def credentials : Headers := [("access-control-allow-credentials", "true")]

def allowOrigin (origin : Text) : Headers :=
  if allowed.contains origin then [("access-control-allow-origin", origin)] else []

def vary : Headers := [("vary", "Origin")]

/-- What is added to the response to a request with this origin. -/
def headers (origin : Text) : Headers :=
  credentials ++ allowOrigin origin ++ if allowed.contains origin then vary else []

def permitted : Headers :=
  [("access-control-allow-methods", Text.join ", " methods), ("access-control-max-age", "600")]

def checks (origin method : Text) : List (Text × Bool) :=
  [("origin", allowed.contains origin), ("method", methods.contains method)]

/-- The answer to a browser that asks what it may send. -/
def permission (origin method : Text) (requested : Option Text) : Response :=
  let base : Headers := vary ++ credentials ++ allowOrigin origin ++ permitted
  let echoed : Headers := match requested with
    | some names => [("access-control-allow-headers", names)]
    | none => []
  let faults := ((checks origin method).filter fun (_, good) => !good).map (·.1)
  if faults.isEmpty then ⟨200, base ++ echoed, .text "OK"⟩
  else ⟨400, base ++ echoed, .text ("Disallowed CORS " ++ Text.join ", " faults)⟩

/-- The answer to a request that only asks for permission. -/
def permission? (r : Request) : Option Response := do
  let origin ← r.headers.value? originName
  let method ← r.headers.value? methodName
  if r.method = "OPTIONS" then pure (permission origin method (r.headers.value? headersName))
  else none

/-- Completes the response to any other request. -/
def complete (r : Request) (response : Response) : Response :=
  match r.headers.value? originName with
  | some origin => response.addHeaders (headers origin)
  | none => response

end TokenIndex.Service.Origin
