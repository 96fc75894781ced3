/-
# Retrieval

How the page is come by: from the cache when it is there, and else over the network. A page that was
fetched goes into the cache as it came; one that is read from there has plain line ends.
-/
import TypedReference.Effect

namespace TypedReference

open Files

/-! ## Requests -/

/-- A number of seconds. -/
inductive Seconds where
  /-- A whole number. -/
  | whole (n : Int)
  /-- A number that need not be whole. -/
  | exact (x : Float)

/-- What is asked of a server. -/
structure Request where
  /-- The address of the page, if there is one. -/
  url : Option String
  /-- The headers by name. -/
  headers : List (String × String)
  /-- How long to wait for an answer. -/
  timeout : Seconds

/-- What a server answers. -/
structure Reply where
  /-- The status; from 400 on it is that of an error. -/
  status : Int
  /-- The page. -/
  text : String

/-! ## Options -/

/-- Where the page comes from and where it is kept. -/
structure FetchOptions where
  /-- The address of the page, if there is one. -/
  url : Option String := some "https://www.sublimetext.com/docs/3/api_reference.html"
  /-- The file that keeps the page. -/
  cache : String := "cache/api_reference.html"
  /-- How long to wait for an answer. -/
  timeout : Seconds := .exact 30.0
  /-- How requests name their sender. An empty name is not sent. -/
  userAgent : String := "apidoc-externs/0.1"
  /-- The page is to be fetched even if it is in the cache. -/
  refresh : Bool := false
  /-- The page must not be fetched. -/
  offline : Bool := false

/-- Where a page comes from. -/
inductive Source where
  /-- From the file that keeps it. -/
  | cache
  /-- From a server. -/
  | network
  deriving DecidableEq, Repr

namespace FetchOptions

/-- The path of the cache. -/
def cachePath (o : FetchOptions) : Path := Path.ofText o.cache

/-- The request for the page. -/
def request (o : FetchOptions) : Request where
  url := o.url
  headers := if o.userAgent = "" then [] else [("User-Agent", o.userAgent)]
  timeout := o.timeout

/-- Where the page is to come from. The cache is looked up first, even when it is not to be used;
a path too long for that ends the retrieval. -/
def source (o : FetchOptions) (t : FileTree) : Except Failure Source :=
  match t.leadsSomewhere o.cachePath with
  | .error f => .error (.files f)
  | .ok cached =>
    if cached && !o.refresh then .ok .cache
    else if o.offline then .error (.notCached o.cachePath.text)
    else .ok .network

/-- The request that is made, if any. -/
def request? (o : FetchOptions) (t : FileTree) : Option Request :=
  match o.source t with
  | .ok .network => some o.request
  | _ => none

end FetchOptions

/-! ## Fetching -/

/-- The text that some bytes hold, with plain line ends. -/
def textOfBytes (bytes : ByteArray) : Except Failure String :=
  match decode bytes with
  | .ok s => .ok (String.ofList (plainLineEnds s.toList))
  | .error d => .error (.undecodable d)

/-- The text of a file that has been read. -/
def textOfFile (content : Except FileFault ByteArray) : Except Failure String :=
  match content with
  | .ok bytes => textOfBytes bytes
  | .error f => .error (.files f)

/-- The text of the page. Only a reply that is no error changes the cache. -/
def fetch (o : FetchOptions) (network : Request → Reply) (t : FileTree) : Effect String :=
  match o.source t with
  | .error f => .fail f t
  | .ok .cache => ⟨textOfFile (t.read o.cachePath), t, [.cacheUsed o.cachePath.text]⟩
  | .ok .network =>
    (Effect.report [.fetching o.url] t).andThen fun _ t =>
    let reply := network o.request
    if 400 ≤ reply.status then .fail (.refused reply.status) t
    else
      (Effect.ofChanged (t.writeWithin o.cachePath reply.text.toUTF8)).andThen fun _ t =>
      .ok reply.text t

end TypedReference
