import RequestCredentials.Files
import RequestCredentials.Request.Search
/-
  Catalogues — loaded credentials

  A catalogue holds the credentials of the declaration that was loaded last. A
  load that fails changes nothing. There are two catalogues: an own one, whose
  content is replaced by a load, and a shared one, which is replaced as a whole,
  so that its `edition` tells one from the next.
-/

namespace RequestCredentials

/-- The own catalogue or the shared one. -/
inductive Holder where
  | own
  | shared
  deriving DecidableEq

/-- The two catalogues, and the files that they are loaded from. -/
structure Catalogues where
  files : Files
  own : List Credential
  shared : List Credential
  /-- How often the shared catalogue was replaced. -/
  edition : Nat

inductive Catalogues.Action where
  | write (path : Text) (content : Option Bytes)
  /-- Loads a document that is at hand; a path, if there is one, names it in messages. -/
  | load (holder : Holder) (document : Json) (path : Text)
  | loadFile (holder : Holder) (path : Text)
  | find (holder : Holder) (request : Request)
  | survey (holder : Holder) (request : Request)
  | credentials (holder : Holder)

inductive Catalogues.Reply where
  | done
  | fault (fault : LoadFault)
  | found (result : Except Fault (Option Match))
  | surveyed (result : Except Fault (List Outcome))
  | credentials (credentials : List Credential)

namespace Catalogues

/-- Some files, and nothing loaded. -/
def start (files : Files) : Catalogues := ⟨files, [], [], 0⟩

/-- The credentials in a catalogue. -/
def get (c : Catalogues) : Holder → List Credential
  | .own => c.own
  | .shared => c.shared

/-- The catalogues with new credentials in one of them. -/
def replace (c : Catalogues) (credentials : List Credential) : Holder → Catalogues
  | .own => { c with own := credentials }
  | .shared => { c with shared := credentials, edition := c.edition + 1 }

/-- The catalogues after a load, and what is said of it. -/
def finishLoad (c : Catalogues) (holder : Holder) :
    Except LoadFault (List Credential) → Catalogues × Reply
  | .ok credentials => (c.replace credentials holder, .done)
  | .error fault => (c, .fault fault)

/-- Performs one action. -/
def perform (c : Catalogues) : Action → Catalogues × Reply
  | .write path content => ({ c with files := c.files.write path content }, .done)
  | .load holder document path =>
    c.finishLoad holder ((acceptCredentials (pathName path) document).mapError .refused)
  | .loadFile holder path => c.finishLoad holder (c.files.load path)
  | .find holder request => (c, .found (request.find (c.get holder)))
  | .survey holder request => (c, .surveyed (request.survey (c.get holder)))
  | .credentials holder => (c, .credentials (c.get holder))

end Catalogues

end RequestCredentials
