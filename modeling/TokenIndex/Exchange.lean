import TokenIndex.Session

namespace TokenIndex

namespace Url

def request (u : Url) : Service.Request where
  method := "GET"
  target := (if u.path = [] then ("/" : Text) else u.path) ++ led "?" u.query
  headers := [("host", u.site)]

end Url

namespace Reply

/-- The client looks at no header but for its words about a redirection, where the address that it
is sent to is left out. -/
def ofResponse (r : Service.Response) : Reply :=
  match r.body with
  | .json v => .json r.status v
  | .text t => .text r.status t

/-- An answer that fails is told as a fault of the service. -/
def ofAnswer : Except Service.AnswerError Service.Response → Reply
  | .ok r => ofResponse r
  | .error _ => .text 500 "Internal Server Error"

end Reply

namespace World

/-- What the service of this world replies to a question; none reaches it without an address. -/
def reply (w : World) (q : Inquiry) : Reply :=
  match q.address with
  | .ok url => .ofAnswer (Service.answer w url.request).1
  | .error e => .failed e.message

/-- Runs a command line; a question that it has is put to the service of another world. -/
def consult (w service : World) (texts : List Text) : Outcome :=
  let alone := (runTexts w (.failed []) texts).1
  match alone.calls with
  | [.get q] => (runTexts w (service.reply q) texts).1
  | _ => alone

/-- The world of a service that a command line has started. -/
def serving (w : World) (texts : List Text) : World :=
  w.run [.command texts (.failed []), .start]

end World

end TokenIndex
