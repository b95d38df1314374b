import TokenIndex.Command.Run
import TokenIndex.Service.Startup

namespace TokenIndex

inductive Step where
  | write (p : Path) (node : Node)
  | remove (p : Path)
  | assign (name value : Text)
  | unset (name : Text)
  | command (texts : List Text) (reply : Reply)
  | start
  | request (r : Service.Request)
  | forget

namespace World

/-- A variable keeps its value where the new one cannot be set. -/
def next (w : World) : Step → World
  | .write p node => { w with files := w.files.write p node }
  | .remove p => { w with files := w.files.remove p }
  | .assign name value =>
    match w.env.assign name value with
    | .ok env => { w with env := env }
    | .error _ => w
  | .unset name => { w with env := w.env.unset name }
  | .command texts reply => (runTexts w reply texts).2
  | .start => (Service.start w).2
  | .request r => (Service.answer w r).2
  | .forget => w.forget

def run (w : World) (steps : List Step) : World := steps.foldl next w

end World

end TokenIndex
