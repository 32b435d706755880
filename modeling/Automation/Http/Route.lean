/-
# Addresses of the interface

The path of a request is resolved and decoded, and names a route: the health
of the service, the catalog of triggers, or something about one workflow.

Key definitions: `Http.decodedPath`, `Http.Route`, `Http.Route.ofPath?`,
`Http.Route.method`.
-/
import Automation.Text.Digit
import Automation.Text.Utf8

namespace Automation.Http

/-- The path of an address, without what follows it. -/
def pathOf (address : String) : String :=
  String.ofList (address.toList.takeWhile fun c => c != '?' && c != '#')

/-- The parts between slashes; `part` is the one that has begun, reversed. -/
def partsFrom (part : List Char) : List Char → List String
  | [] => [String.ofList part.reverse]
  | c :: cs =>
    if c == '/' then String.ofList part.reverse :: partsFrom [] cs else partsFrom (c :: part) cs

@[irreducible] def partsOf (path : String) : List String := partsFrom [] path.toList

/-- The parts of a path with single and double dots resolved; `acc` is reversed. -/
def resolved (acc : List String) : List String → List String
  | [] => acc.reverse
  | part :: parts =>
    if part == "." then resolved acc parts
    else if part == ".." then
      match acc with
      | [] => resolved [] parts
      | [""] => resolved [""] parts
      | _ :: before => resolved before parts
    else resolved (part :: acc) parts

/-- The bytes of a path: a percent sign and two digits stand for one byte. -/
def bytesOf : List Char → List Nat
  | '%' :: a :: b :: rest =>
    match Text.hexValue? a, Text.hexValue? b with
    | some x, some y => (16 * x + y) :: bytesOf rest
    | _, _ => 0x25 :: bytesOf (a :: b :: rest)
  | c :: rest => Text.encodeChar c ++ bytesOf rest
  | [] => []

/-- The path that an address names. -/
def decodedPath (address : String) : String :=
  let rooted := "/" ++ String.ofList ((pathOf address).toList.dropWhile (· == '/'))
  let path := "/".intercalate (resolved [] (partsOf rooted))
  String.ofList (Text.decodeUtf8 (bytesOf path.toList))

inductive Route where
  | health
  | ready
  | triggers
  | trigger (workflowId : String)
  | test (workflowId : String)
  | stats (workflowId : String)
deriving DecidableEq, Repr

namespace Route

/-- The route of the parts of a path. -/
def ofParts : List String → Option Route
  | ["", "api", "v1", "health"] => some .health
  | ["", "api", "v1", "health", "ready"] => some .ready
  | ["", "api", "v1", "workflows", id, action] =>
    if id == "triggers" && action == "available" then some .triggers
    else if id.isEmpty then none
    else
      match action with
      | "trigger" => some (.trigger id)
      | "test" => some (.test id)
      | "stats" => some (.stats id)
      | _ => none
  | _ => none

/-- The route of a path; one line feed at its end does not count. -/
def ofPath? (path : String) : Option Route :=
  let cs := path.toList
  let path := if cs.getLast? == some '\n' then String.ofList cs.dropLast else path
  ofParts (partsOf path)

/-- The route that a path names but for slashes at its end. -/
def ofSlashedPath? (path : String) : Option Route :=
  let cs := path.toList.reverse
  if cs.head? == some '/' then ofPath? (String.ofList (cs.dropWhile (· == '/')).reverse) else none

/-- The method of requests to a route. -/
def method : Route → String
  | .trigger _ | .test _ => "POST"
  | _ => "GET"

end Route

end Automation.Http
