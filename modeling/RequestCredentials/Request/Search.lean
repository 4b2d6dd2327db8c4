import RequestCredentials.Request.Basic
import RequestCredentials.Evaluation.Run
/-
  Searching a request for a credential

  The locations of all credentials are tried in order, credential by
  credential. A location yields a credential when its seed is there, its
  operations succeed, and the final value carries an accepted string: with
  keys, the first string under the first key that selects one; without keys,
  the first string of the value. `find` stops at the first match, `survey`
  tells what happened at every location.
-/

namespace RequestCredentials

/-- A credential that was found. -/
structure Match where
  kind : Text
  value : Text
  location : Location
  /-- The number of the location among those of its credential. -/
  index : Nat

/-- What happened at one location. -/
structure Outcome where
  kind : Text
  location : Location
  index : Nat
  result : Except Failure Value
  found : Option Match

/-- The failure at a location, if its operations did not succeed. -/
def Outcome.failure? (o : Outcome) : Option Failure :=
  match o.result with
  | .ok _ => none
  | .error failure => some failure

/-- The first string that one of the keys selects in a value. -/
def keyedString? (v : Value) : List Text → Except Fault (Option Text)
  | [] => .ok none
  | key :: rest => do
    match ← v.lookupKey key with
    | .error _ => keyedString? v rest
    | .ok selected =>
      match selected.strings with
      | s :: _ => return some s
      | [] => keyedString? v rest

/-- The string that a final value carries for a credential with these keys. -/
def acceptedString? (keys : List Text) (v : Value) : Except Fault (Option Text) :=
  if keys = [] then .ok v.strings.head? else keyedString? v keys

/-- A location of a credential, and its number there. -/
structure Site where
  credential : Credential
  location : Location
  index : Nat

/-- The sites of a credential, in order. -/
def Credential.sites (c : Credential) : List Site :=
  c.locations.zipIdx.map fun (l, i) => ⟨c, l, i⟩

/-- The sites of all credentials, in order. -/
def sites (credentials : List Credential) : List Site := credentials.flatMap Credential.sites

/-- What happens at a site. -/
def Site.outcome (r : Request) (site : Site) : Except Fault Outcome := do
  let outcome := Outcome.mk site.credential.kind site.location site.index
  match ← r.seed? site.location.source site.location.args with
  | none => return outcome (.error (.unresolved site.location.source site.location.args)) none
  | some seed =>
    match site.location.unwrap seed with
    | .error failure => return outcome (.error failure) none
    | .ok v =>
      let accepted ← acceptedString? site.credential.keys v
      return outcome (.ok v) (accepted.map fun s =>
        ⟨site.credential.kind, s, site.location, site.index⟩)

/-- The match at the first site that has one. -/
def firstMatch (r : Request) : List Site → Except Fault (Option Match)
  | [] => .ok none
  | site :: rest => do
    let outcome ← site.outcome r
    match outcome.found with
    | some m => return some m
    | none => firstMatch r rest

namespace Request

/-- The first credential in a request. -/
def find (r : Request) (credentials : List Credential) : Except Fault (Option Match) :=
  firstMatch r (sites credentials)

/-- What happens at every location. -/
def survey (r : Request) (credentials : List Credential) : Except Fault (List Outcome) :=
  (sites credentials).mapM (Site.outcome r)

end Request

end RequestCredentials
