import TokenIndex.Service.Answer

namespace TokenIndex.Service

/-- Paths and their names, in order. -/
def listing : List (Text × Text) :=
  [("/", "root"), ("/api/index", "index_info"), ("/api/lookup/\x7btoken\x7d", "lookup"),
    ("/api/search", "search"), ("/api/tokens", "list_tokens")]

def rule : Text := Text.fill 60 '='

def listingLine (path name : Text) : Text :=
  "  " ++ Text.padRight 8 "GET" ++ " " ++ Text.padRight 40 path ++ " → " ++ name ++ "\n"

def listingText : Text :=
  "\n" ++ rule ++ "\nDocsearch API Routes\n" ++ rule ++ "\n" ++
    listing.flatMap (fun (path, name) => listingLine path name) ++ rule ++ "\n\n"

def greeting (t : Table) : Text :=
  "Serving " ++ Text.decimal t.size ++ " tokens from " ++ t.source ++ "\n" ++ listingText

/-- Starts the service, which asks for the table. -/
def start (w : World) : Except ServeError Text × World :=
  match w.table with
  | (.ok t, w) => (.ok (greeting t), w)
  | (.error e, w) => (.error e, w)

end TokenIndex.Service
