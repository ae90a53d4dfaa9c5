import Embed.Text
/-!
# Responses that serve a page

A page that embeds a module is served with headers that isolate it, which modules with threads need,
and with the content types of its files. Headers form a list in which a name may occur several
times; names that differ only in case are one name.
-/

namespace Embed

/-- The content types by the extension of a file. -/
def contentTypes : List (String × String) :=
  [("html", "text/html; charset=utf-8"),
   ("css", "text/css; charset=utf-8"),
   ("js", "application/javascript; charset=utf-8"),
   ("mjs", "application/javascript; charset=utf-8"),
   ("json", "application/json; charset=utf-8"),
   ("wasm", "application/wasm"),
   ("nmf", "application/json; charset=utf-8"),
   ("pexe", "application/x-pnacl"),
   ("nexe", "application/octet-stream")]

/-- The content type of a path, by what stands behind its last point in either case. -/
def contentType? (path : String) : Option String := do
  let extension ← Text.afterLast? '.' path.toList
  let (_, type) ← contentTypes.find? fun (known, _) =>
    Text.sameIgnoringCase known.toList extension
  return type

/-- The text behind the first two slashes of an address with a scheme. -/
def afterScheme? : List Char → Option (List Char)
  | [] => none
  | ':' :: '/' :: '/' :: rest => some rest
  | _ :: rest => afterScheme? rest

/-- The path of a request's address: what is left without scheme, host, query and fragment. An
address with a host and nothing behind it has the root as its path, and a bare host has none. -/
def requestPath (address : String) : String :=
  let resource := address.toList.takeWhile fun c => c != '?' && c != '#'
  String.ofList <|
    match resource with
    | '/' :: _ => resource
    | ['*'] => resource
    | _ =>
      match afterScheme? resource with
      | none => []
      | some rest =>
        match rest.dropWhile (· != '/') with
        | [] => ['/']
        | path => path

/-- The headers of a response, each with its name. -/
abbrev Headers := List (String × String)

/-- Whether two names are one. -/
def sameHeader (left right : String) : Bool :=
  Text.sameIgnoringCase left.toList right.toList

/-- Sets a header to one value, in place of all that it had. -/
def Headers.set (headers : Headers) (name value : String) : Headers :=
  headers.filter (fun header => !sameHeader header.1 name) ++ [(name, value)]

/-- The values of a header. -/
def Headers.values (headers : Headers) (name : String) : List String :=
  (headers.filter fun header => sameHeader header.1 name).map (·.2)

/-- A response without its body. -/
structure Response where
  /-- Its status code. -/
  status : Nat
  /-- Its headers. -/
  headers : Headers
  deriving DecidableEq, Repr

/-- The response to a request for a path, isolated and with the content type of the path, if it has
one. -/
def Response.isolate (response : Response) (path : String) : Response :=
  let isolated :=
    (response.headers.set "cross-origin-opener-policy" "same-origin").set
      "cross-origin-embedder-policy" "require-corp"
  { response with
    headers :=
      match contentType? path with
      | some type => isolated.set "content-type" type
      | none => isolated }

end Embed
