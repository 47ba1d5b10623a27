/-
This file reads a JSON text. The reader takes one token at a time and keeps the containers
that are still open on a stack, so it needs no bound on how deep values nest.
-/

import Entitlement.Json.Basic
import Entitlement.Json.Token

namespace Entitlement.Json

/-- A container that is still open, with what it holds so far, the latest first. -/
inductive Frame where
  | array (items : List Json)
  | object (members : List (String × Json))
  /-- An object of which the value under `name` is being read. -/
  | member (members : List (String × Json)) (name : String)

/-- What may come next. -/
inductive Expectation where
  | value
  /-- A first item, or the end of the array. -/
  | itemOrEnd
  /-- A first name, or the end of the object. -/
  | nameOrEnd
  | name
  | colon
  /-- A comma, or the end of the container. -/
  | commaOrEnd
  /-- Nothing: the whole value has been read. -/
  | nothing (whole : Json)

structure Reading where
  expectation : Expectation
  openFrames : List Frame

/-- A complete value goes to the innermost open container, or is the whole. -/
def Reading.deliver (value : Json) : List Frame → Option Reading
  | [] => some ⟨.nothing value, []⟩
  | .array items :: rest => some ⟨.commaOrEnd, .array (value :: items) :: rest⟩
  | .member members name :: rest => some ⟨.commaOrEnd, .object ((name, value) :: members) :: rest⟩
  | .object _ :: _ => none

/-- A token where a value must come. -/
def Reading.stepValue (openFrames : List Frame) (token : Token) : Option Reading :=
  match token with
  | .null => deliver .null openFrames
  | .bool value => deliver (.bool value) openFrames
  | .integer value => deliver (.integer value) openFrames
  | .decimal literal => deliver (.decimal literal) openFrames
  | .text spelling => deliver (ofSpelling spelling) openFrames
  | .openBracket => some ⟨.itemOrEnd, .array [] :: openFrames⟩
  | .openBrace => some ⟨.nameOrEnd, .object [] :: openFrames⟩
  | _ => none

/-- A token where the name of a member must come. -/
def Reading.stepName (openFrames : List Frame) (token : Token) : Option Reading :=
  match token, openFrames with
  | .text name, .object members :: rest => some ⟨.colon, .member members name :: rest⟩
  | _, _ => none

/-- A token after a complete value inside a container. -/
def Reading.stepAfter (openFrames : List Frame) (token : Token) : Option Reading :=
  match token, openFrames with
  | .comma, .array items :: rest => some ⟨.value, .array items :: rest⟩
  | .comma, .object members :: rest => some ⟨.name, .object members :: rest⟩
  | .closeBracket, .array items :: rest => deliver (.array items.reverse) rest
  | .closeBrace, .object members :: rest => deliver (.object members.reverse) rest
  | _, _ => none

/-- One more token. -/
def Reading.step (reading : Reading) (token : Token) : Option Reading :=
  match reading.expectation with
  | .value => stepValue reading.openFrames token
  | .itemOrEnd =>
    if token = .closeBracket then stepAfter reading.openFrames token
    else stepValue reading.openFrames token
  | .nameOrEnd =>
    if token = .closeBrace then stepAfter reading.openFrames token
    else stepName reading.openFrames token
  | .name => stepName reading.openFrames token
  | .colon => if token = .colon then some ⟨.value, reading.openFrames⟩ else none
  | .commaOrEnd => stepAfter reading.openFrames token
  | .nothing _ => none

/-- The value, if it is complete. -/
def Reading.whole? (reading : Reading) : Option Json :=
  match reading.expectation with
  | .nothing whole => some whole
  | _ => none

/-- The value that the tokens write. -/
def ofTokens? (tokens : List Token) : Option Json :=
  (tokens.foldlM Reading.step ⟨.value, []⟩).bind Reading.whole?

/-- The value that a text writes, with nothing but blanks around it. -/
def read? (text : String) : Option Json :=
  (tokens? text.toList).bind ofTokens?

end Entitlement.Json
